import SearchClient.Query.Basic

/-!
# The text of a query

A query is written as a row of tokens: one *atom* per leaf, operators between
the clauses of a join, and parentheses around a grouped join inside another
one.  The outermost join never gets parentheses.  The text is the tokens' texts,
one after the other.

## Main definitions

* `Leaf.render` — the text of one clause.
* `Query.tokens`, `Query.innerTokens` — the tokens of a query on its own and
  inside a join.
* `Query.render` — the text of a query.
-/

namespace SearchClient

/-- The query that every document matches. -/
def matchAll : String := "*:*"

/-- The text of a clause.  An excluded clause takes its documents away from all
documents; a lead comes before everything else. -/
def Leaf.render (l : Leaf) : String :=
  let clause := l.field ++ ":" ++ l.value
  l.lead.getD "" ++ if l.excluded then "(" ++ matchAll ++ " -" ++ clause ++ ")" else clause

namespace Query

/-- A piece of a query's text. -/
inductive Token
  /-- The opening parenthesis of a grouped join. -/
  | opening
  /-- The closing parenthesis of a grouped join. -/
  | closing
  /-- An operator between two clauses. -/
  | between (operator : Operator)
  /-- A leaf. -/
  | atom (leaf : Leaf)
  deriving DecidableEq, Repr, Inhabited

/-- The text of a token. -/
def Token.text : Token → String
  | .opening => "("
  | .closing => ")"
  | .between o => o.token
  | .atom l => l.render

/-- The texts of some tokens, one after the other. -/
def textOf : List Token → String
  | [] => ""
  | t :: ts => t.text ++ textOf ts

@[simp] theorem textOf_nil : textOf [] = "" := rfl

@[simp] theorem textOf_cons (t : Token) (ts : List Token) :
    textOf (t :: ts) = t.text ++ textOf ts := rfl

theorem textOf_append (ts us : List Token) : textOf (ts ++ us) = textOf ts ++ textOf us := by
  induction ts with
  | nil => simp
  | cons t ts ih => simp [ih, String.append_assoc]

mutual

/-- The tokens of a query as a clause of a join. -/
def innerTokens : Query → List Token
  | .empty => []
  | .leaf l => [.atom l]
  | .join o cs grouped =>
    if grouped then .opening :: (clauseTokens o true cs ++ [.closing])
    else clauseTokens o true cs

/-- The tokens of a join's clauses: those that are empty are skipped, and all
but the first of the others follow an operator. -/
def clauseTokens (o : Operator) (first : Bool) : List Query → List Token
  | [] => []
  | c :: cs =>
    if c.isEmpty then clauseTokens o first cs
    else (if first then [] else [.between o]) ++ innerTokens c ++ clauseTokens o false cs

end

/-- The tokens of a query that stands on its own. -/
def tokens : Query → List Token
  | .join o cs _ => clauseTokens o true cs
  | q => innerTokens q

/-- The text of a query. -/
def render (q : Query) : String := textOf q.tokens

@[simp] theorem render_empty : render .empty = "" := rfl

@[simp] theorem render_leaf (l : Leaf) : render (.leaf l) = l.render := by
  simp [render, tokens, innerTokens, Token.text]

end Query

end SearchClient
