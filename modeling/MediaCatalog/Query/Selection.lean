import MediaCatalog.Number.Binary64
import MediaCatalog.Query.Parser

/-!
# Queries

A query is a list of clauses, all of which an entry has to satisfy, with an optional ordering and
an optional page.

* `Query.ofText`: compiles a condition text and drops the rejected clauses; `Query.ofTextStrict`
  fails on the first one instead.
* `Query.holds`: which entries match.
* `Query.select`: the matching entries of a list: ordered, optionally reduced to the first entry of
  each group, and cut to the page.
-/

namespace MediaCatalog

namespace Query

/-- How values are compared by an ordering. -/
inductive Mode where
  /-- By code points, ascending. -/
  | textAscending
  /-- By code points, descending. -/
  | textDescending
  /-- As numbers, ascending; a text that is no number counts as zero. -/
  | numberAscending
  /-- As numbers, descending. -/
  | numberDescending
  deriving DecidableEq, Repr

/-- The position of a text among numbers. -/
def numberRank (text : String) : Int :=
  ((Number.Binary64.ofText? (Text.trimChars text.toList)).getD .zero).rank

/-- Whether one text may stand before another. -/
def Mode.le (mode : Mode) (a b : String) : Bool :=
  match mode with
  | textAscending => a ≤ b
  | textDescending => b ≤ a
  | numberAscending => numberRank a ≤ numberRank b
  | numberDescending => numberRank b ≤ numberRank a

/-- What entries are ordered by. -/
structure Arrangement where
  target : Target
  mode : Mode
  deriving DecidableEq, Repr

/-- Whether one entry may stand before another; a missing value counts as the empty text. -/
def Arrangement.le (o : Arrangement) (a b : Entry) : Bool :=
  o.mode.le ((o.target.get? a).getD "") ((o.target.get? b).getD "")

/-- At most `limit` results after the first `skip`. -/
structure Page where
  limit : Nat
  skip : Nat
  deriving DecidableEq, Repr

/-- The part of a list on a page; all of it without a page. -/
def Page.cut {α : Type} (page : Option Page) (l : List α) : List α :=
  match page with
  | none => l
  | some p => (l.drop p.skip).take p.limit

/-- The first entry for each value at the target that is not among `seen`; entries without a value
belong to no group. -/
def firstPerValue (target : Target) (seen : List String) : List Entry → List Entry
  | [] => []
  | e :: rest =>
    match target.get? e with
    | none => firstPerValue target seen rest
    | some v =>
      if seen.contains v then firstPerValue target seen rest
      else e :: firstPerValue target (v :: seen) rest

end Query

/-- Clauses with an optional ordering and an optional page. -/
structure Query where
  clauses : List Query.Clause
  order : Option Query.Arrangement
  page : Option Query.Page

namespace Query

/-- The query with some clauses, neither ordered nor paged. -/
def ofClauses (clauses : List Clause) : Query := ⟨clauses, none, none⟩

/-- The clauses among some outcomes. -/
def accepted (results : List (Except Rejection Clause)) : List Clause :=
  results.filterMap Except.toOption

/-- Compiles a condition text; rejected clauses are dropped. -/
def ofText (text : String) : Query := ofClauses (accepted (outcomes text.toList))

/-- Compiles a condition text; the first rejected clause is the error. -/
def ofTextStrict (text : String) : Except Rejection Query :=
  ((outcomes text.toList).mapM id).map ofClauses

/-- Compiles a condition text, strictly or not. -/
def compile (strict : Bool) (text : String) : Except Rejection Query :=
  if strict then ofTextStrict text else .ok (ofText text)

/-- Whether an entry satisfies every clause. -/
def holds (q : Query) (e : Entry) : Bool := q.clauses.all fun c => c.holds e

/-- The entries in the order of the query; entries that compare equal keep their order. -/
def arrange (q : Query) (entries : List Entry) : List Entry :=
  match q.order with
  | none => entries
  | some o => entries.mergeSort o.le

/-- The results among some entries: those that match, arranged, the first of each group if a group
is given, cut to the page. -/
def select (q : Query) (group : Option Target) (entries : List Entry) : List Entry :=
  let found := q.arrange (entries.filter q.holds)
  let grouped := match group with
    | none => found
    | some target => firstPerValue target [] found
  Page.cut q.page grouped

end Query

end MediaCatalog
