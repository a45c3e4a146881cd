import SearchClient.Proofs.Decimal.Numeral
import SearchClient.Proofs.Text.Marks
import SearchClient.Proofs.Url.Schemes
import SearchClient.Settings.Basic

/-!
# The address that settings stand for

The URL of a collection is five texts one after the other, and nothing in them is encoded.
Yet they can be told apart as long as the host has no slash: the scheme is the only one that
the URL begins with, the path begins at the first slash behind it, and the port stands
behind the last colon before that slash, since no numeral has a colon.  So the URL says
which protocol, host, port and path the settings hold, whatever colons the host may have
and whatever the path may be.

## Main definitions

* `Settings.authority` — the host and the port.

## Main results

* `Settings.text_url` — the URL as scheme, authority and path.
* `Settings.authority_inj` — the host and the port can be told apart.
* `Settings.url_eq_url_iff` — **the URL identifies the connection.**
-/

namespace SearchClient

/-! ### Paths -/

/-- A path with a slash at its start is a slash and the rest. -/
theorem exists_toList_slashed (path : String) : ∃ cs, (slashed path).toList = '/' :: cs := by
  unfold slashed
  split
  · next h => exact List.head?_eq_some_iff.1 h
  · exact ⟨path.toList, by rw [String.toList_append]; rfl⟩

/-! ### Ports -/

theorem toList_text_toNat (n : UInt16) :
    (Decimal.text n.toNat).toList = Decimal.numeral n.toNat := by
  rw [Decimal.text, String.toList_ofList]
  rfl

theorem notMem_numeral {c : Char} (hc : ¬Decimal.IsDigit c) (n : ℕ) : c ∉ Decimal.numeral n :=
  fun h => hc (Decimal.isDigit_of_mem_numeral h)

namespace Settings

/-- The host and the port. -/
def authority (s : Settings) : String := s.host ++ ":" ++ Decimal.text s.port.toNat

theorem toList_authority (s : Settings) :
    s.authority.toList = s.host.toList ++ ':' :: Decimal.numeral s.port.toNat := by
  rw [authority, String.toList_append, String.toList_append, toList_text_toNat,
    List.append_assoc]
  rfl

/-- The URL is the scheme, the authority and the path. -/
theorem text_url (s : Settings) :
    s.url.text = s.protocol.scheme ++ (s.authority ++ slashed s.core) := by
  have hrun : s.url.text = (Url.Builder.run
      [.protocol s.protocol, .host s.host, .port s.port, .path s.core]).build.text := rfl
  rw [hrun, Url.Builder.text_build_run]
  simp [Url.Builder.Step.text, authority, String.append_assoc]

theorem slash_notMem_authority {s : Settings} (hs : '/' ∉ s.host.toList) :
    '/' ∉ s.authority.toList := by
  have hport := notMem_numeral (c := '/') (by decide) s.port.toNat
  simp [toList_authority, hs, hport]

/-- **The host and the port can be told apart**, at the last colon. -/
theorem authority_inj {s t : Settings} :
    s.authority = t.authority ↔ s.host = t.host ∧ s.port = t.port := by
  have hcolon : ¬Decimal.IsDigit ':' := by decide
  rw [← String.toList_inj, toList_authority, toList_authority,
    append_cons_inj_of_last (notMem_numeral hcolon _) (notMem_numeral hcolon _),
    String.toList_inj, Decimal.numeral_injective.eq_iff, UInt16.toNat_inj]

/-- The authority ends where the path begins, at the first slash. -/
theorem authority_append_slashed_inj {s t : Settings} (hs : '/' ∉ s.host.toList)
    (ht : '/' ∉ t.host.toList) :
    s.authority ++ slashed s.core = t.authority ++ slashed t.core ↔
      s.authority = t.authority ∧ slashed s.core = slashed t.core := by
  obtain ⟨cs, hcs⟩ := exists_toList_slashed s.core
  obtain ⟨ds, hds⟩ := exists_toList_slashed t.core
  have hpaths : slashed s.core = slashed t.core ↔ cs = ds := by
    rw [← String.toList_inj, hcs, hds, List.cons.injEq, and_iff_right rfl]
  rw [hpaths, ← String.toList_inj, String.toList_append, String.toList_append, hcs, hds,
    append_cons_inj_of_first (slash_notMem_authority hs) (slash_notMem_authority ht),
    String.toList_inj]

/-- **The URL identifies the connection.**  If neither host has a slash, the URLs are equal
exactly if the protocols, the hosts and the ports are, and the paths of the collections with
a slash put at the start of each that has none. -/
theorem url_eq_url_iff {s t : Settings} (hs : '/' ∉ s.host.toList) (ht : '/' ∉ t.host.toList) :
    s.url = t.url ↔ s.protocol = t.protocol ∧ s.host = t.host ∧ s.port = t.port ∧
      slashed s.core = slashed t.core := by
  rw [← Url.text_inj, text_url, text_url, Protocol.scheme_append_inj,
    authority_append_slashed_inj hs ht, authority_inj, and_assoc]

/-- Settings whose host ends in a colon and a digit. -/
def colonHost : Settings := ⟨.http, "::1:2", 3, "solr", 1000, 30000, true⟩

/-- Settings whose host is shorter, with the colon at the start of the path. -/
def colonPath : Settings := ⟨.http, "::1", 2, ":3/solr", 1000, 30000, true⟩

theorem url_eq_url_iff_colons :
    '/' ∉ colonHost.host.toList ∧ '/' ∉ colonPath.host.toList ∧
      colonHost.url.text = "http://::1:2:3/solr" ∧ colonPath.url.text = "http://::1:2/:3/solr" ∧
      colonHost.url ≠ colonPath.url ∧
      colonHost.url = { colonHost with core := "/solr", softCommit := false }.url := by
  have hhost : '/' ∉ colonHost.host.toList := by decide
  have hpath : '/' ∉ colonPath.host.toList := by decide
  refine ⟨hhost, hpath, by decide +kernel, by decide +kernel, fun h => ?_, ?_⟩
  · exact absurd ((url_eq_url_iff hhost hpath).1 h).2.1 (by decide)
  · exact (url_eq_url_iff hhost hhost).2 ⟨rfl, rfl, rfl, by decide +kernel⟩

end Settings

end SearchClient
