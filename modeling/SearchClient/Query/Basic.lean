/-!
# Filter queries

A filter query selects documents.  It is a tree: a *leaf* compares one field
with a value, a *join* combines clauses with one operator, and the *empty*
query stands for no clause at all, which every join it ends up in skips.

A join remembers whether it is *grouped*, that is, whether it stands in
parentheses when it is a clause of another join.  The mark is set once, by
`Query.joined`, from the number of clauses that are not empty.

## Main definitions

* `Operator` — conjunction and disjunction.
* `Leaf`, `Query` — clauses and trees.
* `Query.joined`, `Query.all`, `Query.any` — joins, with the trivial ones collapsed.
-/

namespace SearchClient

/-- How the clauses of a join combine. -/
inductive Operator
  /-- Every clause has to hold. -/
  | and
  /-- Some clause has to hold. -/
  | or
  deriving DecidableEq, Repr, Inhabited

/-- The text between two joined clauses. -/
def Operator.token : Operator → String
  | .and => " AND "
  | .or => " OR "

/-- A completed `field:value` clause. -/
structure Leaf where
  /-- Text put before the whole clause, such as a block of local parameters. -/
  lead : Option String
  /-- The field that is compared. -/
  field : String
  /-- The text that the field is compared with, used verbatim. -/
  value : String
  /-- Whether the documents that match are left out. -/
  excluded : Bool
  deriving DecidableEq, Repr, Inhabited

/-- A filter query. -/
inductive Query
  /-- No clause: joins skip it. -/
  | empty
  /-- One clause. -/
  | leaf (clause : Leaf)
  /-- Clauses under one operator; `grouped` says that the join stands in
  parentheses inside another join. -/
  | join (operator : Operator) (clauses : List Query) (grouped : Bool)
  deriving Repr, Inhabited

namespace Query

/-! ### Equality -/

mutual

/-- Two queries are equal when they have the same shape, marks and texts. -/
def decEq : (a b : Query) → Decidable (a = b)
  | .empty, .empty => isTrue rfl
  | .leaf k, .leaf l =>
    if h : k = l then isTrue (h ▸ rfl) else isFalse fun e => h (by injection e)
  | .join o cs g, .join o' cs' g' =>
    if h : o = o' ∧ g = g' then
      match decEqClauses cs cs' with
      | isTrue h' => isTrue (by rw [h.1, h.2, h'])
      | isFalse h' => isFalse fun e => h' (by injection e)
    else isFalse fun e => h (by injection e with e₁ _ e₂; exact ⟨e₁, e₂⟩)
  | .empty, .leaf _ => isFalse nofun
  | .empty, .join .. => isFalse nofun
  | .leaf _, .empty => isFalse nofun
  | .leaf _, .join .. => isFalse nofun
  | .join .., .empty => isFalse nofun
  | .join .., .leaf _ => isFalse nofun

/-- `decEq`, clause by clause. -/
def decEqClauses : (cs ds : List Query) → Decidable (cs = ds)
  | [], [] => isTrue rfl
  | [], _ :: _ => isFalse nofun
  | _ :: _, [] => isFalse nofun
  | c :: cs, d :: ds =>
    match decEq c d, decEqClauses cs ds with
    | isTrue h, isTrue h' => isTrue (by rw [h, h'])
    | isFalse h, _ => isFalse fun e => h (by injection e)
    | _, isFalse h => isFalse fun e => h (by injection e)

end

instance : DecidableEq Query := decEq

/-! ### Parts -/

/-- Whether the query is the empty one.  A join of empty queries is not. -/
def isEmpty : Query → Bool
  | .empty => true
  | _ => false

@[simp] theorem isEmpty_empty : isEmpty .empty = true := rfl

@[simp] theorem isEmpty_leaf (l : Leaf) : isEmpty (.leaf l) = false := rfl

@[simp] theorem isEmpty_join (o : Operator) (cs : List Query) (g : Bool) :
    isEmpty (.join o cs g) = false := rfl

/-- The direct clauses of a join; other queries have none. -/
def clauses : Query → List Query
  | .join _ cs _ => cs
  | _ => []

/-- The members of a list that are not empty, in order. -/
def present (qs : List Query) : List Query :=
  qs.filter fun q => !q.isEmpty

/-! ### Joins -/

/-- Joins clauses.  No clause gives the empty query and one clause is returned
as it is; otherwise the join is grouped exactly when at least two of its
clauses are not empty. -/
def joined (operator : Operator) : List Query → Query
  | [] => .empty
  | [q] => q
  | q :: r :: qs => .join operator (q :: r :: qs) (1 < (present (q :: r :: qs)).length)

/-- The query that asks for every one of `qs`. -/
def all (qs : List Query) : Query := joined .and qs

/-- The query that asks for at least one of `qs`. -/
def any (qs : List Query) : Query := joined .or qs

@[simp] theorem joined_nil (o : Operator) : joined o [] = .empty := rfl

@[simp] theorem joined_singleton (o : Operator) (q : Query) : joined o [q] = q := rfl

theorem joined_cons_cons (o : Operator) (q r : Query) (qs : List Query) :
    joined o (q :: r :: qs) =
      .join o (q :: r :: qs) (1 < (present (q :: r :: qs)).length) := rfl

end Query

end SearchClient
