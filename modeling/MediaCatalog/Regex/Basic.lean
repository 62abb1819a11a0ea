import MediaCatalog.Regex.Meaning
import MediaCatalog.Regex.Parser
import MediaCatalog.Regex.Size

/-!
# Regular expressions

`Regex.ofText?` compiles the text of a regular expression; `Regex.isMatch` says whether it matches
some part of a text.
-/

namespace MediaCatalog

/-- A regular expression, ready to be matched. -/
structure Regex where
  /-- The text it was compiled from. -/
  source : String
  pattern : Regex.Pattern

namespace Regex

/-- Compiles a regular expression; nothing if the text is none, or if it is too large. -/
def ofText? (text : String) : Option Regex := do
  let tree ← Tree.read? text
  let (pattern, _) ← tree.pattern? Flags.initial
  if pattern.size ≤ sizeLimit then some ⟨text, pattern⟩ else none

/-- Whether the expression matches some part of a text. -/
def isMatch (r : Regex) (text : String) : Bool := r.pattern.isMatch text

end Regex

end MediaCatalog
