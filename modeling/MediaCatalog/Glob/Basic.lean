import MediaCatalog.Glob.Rules
import MediaCatalog.Regex.Size
import MediaCatalog.Unicode.CaseVariants

/-!
# Globs

`Glob.ofText?` compiles a glob; `Glob.matchesName` says whether a name matches it from its first
character to its last.
-/

namespace MediaCatalog

open Regex (Pattern)
open Unicode (CharSet)

namespace Glob

/-- Every character but the slash. -/
def inComponent : CharSet := (CharSet.singleton '/').compl

/-- Every character but the line feed, of which tree wildcards know nothing. -/
def inLine : CharSet := (CharSet.singleton '\n').compl

/-- The pattern of one slash. -/
def slash : Pattern := .chars (CharSet.singleton '/')

/-- Any number of characters of a set. -/
def anyOf (set : CharSet) : Pattern := .repeated 0 none (.chars set)

/-- A pattern or nothing. -/
def optional (p : Pattern) : Pattern := .repeated 0 (some 1) p

/-- Where a part stands in its glob. -/
structure Place where
  isFirst : Bool
  isLast : Bool
  deriving DecidableEq, Repr

/-- A tree wildcard between components: a slash, or components between slashes. -/
def treeBetween : Pattern := .either slash (.concat slash (.concat (anyOf inLine) slash))

/-- The pattern of a tree wildcard in a glob, where `outer` is the place of the outermost group
around the glob. -/
def treePattern (rooted : Bool) (place : Place) (outer : Option Place) : Pattern :=
  let startsGlob := outer.all (·.isFirst)
  let endsGlob := outer.all (·.isLast)
  match place with
  | ⟨true, true⟩ => anyOf inLine
  | ⟨true, false⟩ =>
    if !startsGlob then treeBetween
    else if rooted then .concat slash (.concat (anyOf inLine) (optional slash))
    else .either (optional slash) (.concat (anyOf inLine) slash)
  | ⟨false, false⟩ => treeBetween
  | ⟨false, true⟩ => if endsGlob then .either (optional slash) (.concat slash (anyOf inLine)) else treeBetween

/-- The pattern of a literal character. -/
def literalPattern (ignoreCase : Bool) (c : Char) : Pattern :=
  let set := CharSet.singleton c
  .chars (if ignoreCase then set.withCaseVariants else set)

/-- The characters of a class. A class with a range that runs backwards has none. -/
def classChars (ignoreCase negated : Bool) (ranges : List (Char × Char)) : CharSet :=
  if ranges.any fun (a, b) => b < a then []
  else
    let set := CharSet.ofRanges (ranges.map fun (a, b) => (a.toNat, b.toNat))
    let set := if ignoreCase then set.withCaseVariants else set
    (if negated then set.compl else set).inter inComponent

mutual

/-- The pattern of a part. A class ignores case as the literal before it in its group does. -/
def Token.pattern (place : Place) (outer : Option Place) (ignoreCase : Bool) : Token → Pattern
  | .literal text ignoreCase => .concatAll (text.map (literalPattern ignoreCase))
  | .separator => slash
  | .one => .chars inComponent
  | .many => anyOf inComponent
  | .tree rooted => treePattern rooted place outer
  | .chars negated ranges => .chars (classChars ignoreCase negated ranges)
  | .oneOf branches => .eitherAll (branchPatterns (some (outer.getD place)) ignoreCase branches)
  | .repeated atLeast atMost inner =>
    .repeated atLeast atMost (.concatAll (listPatterns true (some (outer.getD place)) ignoreCase inner))

/-- The patterns of parts in a row; `isFirst` tells whether they begin their glob. -/
def listPatterns (isFirst : Bool) (outer : Option Place) (ignoreCase : Bool) : List Token → List Pattern
  | [] => []
  | token :: rest =>
    let after := match token with
      | .literal _ literalIgnoresCase => literalIgnoresCase
      | _ => ignoreCase
    Token.pattern ⟨isFirst, rest.isEmpty⟩ outer ignoreCase token :: listPatterns false outer after rest

/-- The patterns of the branches of an alternative. -/
def branchPatterns (outer : Option Place) (ignoreCase : Bool) : List (List Token) → List Pattern
  | [] => []
  | branch :: rest => .concatAll (listPatterns true outer ignoreCase branch) :: branchPatterns outer ignoreCase rest

end

end Glob

/-- A glob, ready to be matched. -/
structure Glob where
  /-- The text it was compiled from. -/
  source : String
  pattern : Pattern

namespace Glob

/-- Compiles a glob; nothing if the text is none, breaks a rule, or is too large. -/
def ofText? (text : String) : Option Glob := do
  let tokens ← tokens? text
  if !isAccepted tokens then none
  let pattern := Pattern.concatAll (listPatterns true none false tokens)
  if pattern.size ≤ Regex.sizeLimit then some ⟨text, pattern⟩ else none

/-- Whether a whole name matches the glob. -/
def matchesName (g : Glob) (name : String) : Bool := g.pattern.matchesWhole name

end Glob

end MediaCatalog
