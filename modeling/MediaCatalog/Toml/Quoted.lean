import MediaCatalog.Text.Hex
import MediaCatalog.Text.Reader

/-!
# Strings and keys

The four written forms of a string: basic, with escapes, and literal, each on one line or on
several.

* `basic?`, `multiBasic?`, `literal?`, `multiLiteral?`: the content of a string whose opening
  quotes have been read, and the text after its closing quotes.
* `readText`, `readKey`: any string; a key.
* `write`, `writeKey`: the plainest form that can hold a string.
-/

namespace MediaCatalog.Toml

/-! ### Characters -/

/-- A blank within a line. -/
def isSpace (c : Char) : Bool := c == ' ' || c == '\t'

/-- A character that may stand for itself; control characters other than the tab may not. -/
def isPlain (c : Char) : Bool := c == '\t' || (0x20 ≤ c.toNat && c.toNat ≠ 0x7F)

/-- A character of a key without quotes. -/
def isBare (c : Char) : Bool := c.isAlphanum || c == '_' || c == '-'

/-! ### Escapes -/

/-- The character with a code point. -/
def charOf? (n : Nat) : Option Char := if h : n.isValidChar then some (Char.ofNatAux n h) else none

/-- The character with a code point of a given number of hexadecimal digits. -/
def codePoint? (digits : Nat) (text : List Char) : Option (Char × List Char) :=
  if text.length < digits then none
  else ((Text.hexNat? (text.take digits)).bind charOf?).map fun c => (c, text.drop digits)

/-- The character that follows an escaping backslash. -/
def escape? : List Char → Option (Char × List Char)
  | 'b' :: rest => some ('\x08', rest)
  | 't' :: rest => some ('\t', rest)
  | 'n' :: rest => some ('\n', rest)
  | 'f' :: rest => some ('\x0c', rest)
  | 'r' :: rest => some ('\r', rest)
  | '"' :: rest => some ('"', rest)
  | '\\' :: rest => some ('\\', rest)
  | 'u' :: rest => codePoint? 4 rest
  | 'U' :: rest => codePoint? 8 rest
  | _ => none

/-- A code point takes up text. -/
theorem codePoint?_length_le {digits : Nat} {text rest : List Char} {c : Char}
    (h : codePoint? digits text = some (c, rest)) : rest.length ≤ text.length := by
  unfold codePoint? at h
  split at h
  · cases h
  · obtain ⟨_, _, heq⟩ := Option.map_eq_some_iff.mp h
    cases heq
    simp

/-- An escape takes up text. -/
theorem escape?_length_le {text rest : List Char} {c : Char} (h : escape? text = some (c, rest)) :
    rest.length ≤ text.length := by
  unfold escape? at h
  split at h
  case h_8 => have := codePoint?_length_le h; simp only [List.length_cons]; omega
  case h_9 => have := codePoint?_length_le h; simp only [List.length_cons]; omega
  all_goals cases h <;> simp

/-- A character in front of what was read after it. -/
def andBefore (c : Char) (read : Option (List Char × List Char)) : Option (List Char × List Char) :=
  read.map fun (content, rest) => (c :: content, rest)

/-! ### Strings on one line -/

/-- The content of a basic string. -/
def basic? : List Char → Option (List Char × List Char)
  | [] => none
  | c :: text =>
    if c = '"' then some ([], text)
    else if c = '\\' then
      match _h : escape? text with
      | none => none
      | some (e, rest) => andBefore e (basic? rest)
    else if isPlain c then andBefore c (basic? text)
    else none
  termination_by text => text.length
  decreasing_by
    · have := escape?_length_le _h
      simp only [List.length_cons]
      omega
    · simp

/-- The content of a literal string. -/
def literal? : List Char → Option (List Char × List Char)
  | [] => none
  | c :: text =>
    if c = '\'' then some ([], text)
    else if isPlain c then andBefore c (literal? text)
    else none

/-! ### Strings on several lines -/

/-- The text after a line break, if one comes first. -/
def lineBreak? : List Char → Option (List Char)
  | '\n' :: rest => some rest
  | '\r' :: '\n' :: rest => some rest
  | _ => none

/-- The text without the blanks and line breaks at its beginning. -/
def dropBlankLines : List Char → List Char
  | ' ' :: rest => dropBlankLines rest
  | '\t' :: rest => dropBlankLines rest
  | '\n' :: rest => dropBlankLines rest
  | '\r' :: '\n' :: rest => dropBlankLines rest
  | rest => rest

/-- After a backslash: the text where the string goes on if the line ends here. -/
def continued? (text : List Char) : Option (List Char) :=
  (lineBreak? (text.dropWhile isSpace)).map dropBlankLines

/-- After three quotes: up to two more of them belong to the content. -/
def closing (quote : Char) : List Char → List Char × List Char
  | c :: d :: rest =>
    if c = quote then if d = quote then ([quote, quote], rest) else ([quote], d :: rest)
    else ([], c :: d :: rest)
  | [c] => if c = quote then ([quote], []) else ([], [c])
  | [] => ([], [])

/-- A line break takes up at least a character. -/
theorem lineBreak?_length_lt {text rest : List Char} (h : lineBreak? text = some rest) :
    rest.length < text.length := by
  unfold lineBreak? at h
  split at h <;> cases h <;> simp only [List.length_cons] <;> omega

/-- Dropping blanks makes no text longer. -/
theorem dropBlankLines_length_le (text : List Char) : (dropBlankLines text).length ≤ text.length := by
  fun_induction dropBlankLines text with
  | case1 rest ih => simp only [List.length_cons]; omega
  | case2 rest ih => simp only [List.length_cons]; omega
  | case3 rest ih => simp only [List.length_cons]; omega
  | case4 rest ih => simp only [List.length_cons]; omega
  | case5 => exact Nat.le_refl _

/-- A line that goes on takes up its line break. -/
theorem continued?_length_lt {text rest : List Char} (h : continued? text = some rest) :
    rest.length < text.length := by
  obtain ⟨after, hafter, rfl⟩ := Option.map_eq_some_iff.mp h
  have h1 := lineBreak?_length_lt hafter
  have h2 := dropBlankLines_length_le after
  have h3 := (List.dropWhile_sublist isSpace (l := text)).length_le
  omega

/-- The content of a basic string on several lines. -/
def multiBasic? : List Char → Option (List Char × List Char)
  | [] => none
  | '"' :: '"' :: '"' :: text => some (closing '"' text)
  | '\r' :: '\n' :: text => andBefore '\n' (multiBasic? text)
  | c :: text =>
    if c = '\\' then
      match _hc : continued? text with
      | some rest => multiBasic? rest
      | none =>
        match _he : escape? text with
        | none => none
        | some (e, rest) => andBefore e (multiBasic? rest)
    else if c = '\n' || isPlain c then andBefore c (multiBasic? text)
    else none
  termination_by text => text.length
  decreasing_by
    · simp only [List.length_cons]; omega
    · have := continued?_length_lt _hc
      simp only [List.length_cons]
      omega
    · have := escape?_length_le _he
      simp only [List.length_cons]
      omega
    · simp

/-- The content of a literal string on several lines. -/
def multiLiteral? : List Char → Option (List Char × List Char)
  | [] => none
  | '\'' :: '\'' :: '\'' :: text => some (closing '\'' text)
  | '\r' :: '\n' :: text => andBefore '\n' (multiLiteral? text)
  | c :: text =>
    if c = '\n' || isPlain c then andBefore c (multiLiteral? text) else none

/-- The text without a line break at its beginning. -/
def dropLineBreak (text : List Char) : List Char := (lineBreak? text).getD text

/-- A string and the text after it. -/
def text? : List Char → Option (List Char × List Char)
  | '"' :: '"' :: '"' :: text => multiBasic? (dropLineBreak text)
  | '"' :: text => basic? text
  | '\'' :: '\'' :: '\'' :: text => multiLiteral? (dropLineBreak text)
  | '\'' :: text => literal? text
  | _ => none

/-- Reads a string. -/
def readText : Text.Reader String := fun text =>
  (text? text).map fun (content, rest) => (String.ofList content, rest)

/-- Reads one name of a key: a string on one line, or a run of bare characters. -/
def readName : Text.Reader String := fun text =>
  match text with
  | '"' :: text => (basic? text).map fun (content, rest) => (String.ofList content, rest)
  | '\'' :: text => (literal? text).map fun (content, rest) => (String.ofList content, rest)
  | text => (Text.Reader.takeSome isBare text).map fun (run, rest) => (String.ofList run, rest)

/-! ### Writing -/

/-- The length of the longest run of a character. -/
def longestRun (c : Char) (text : List Char) : Nat :=
  (text.foldl (fun (longest, here) d =>
    let here := if d = c then here + 1 else 0
    (max longest here, here)) (0, 0)).1

/-- Whether a string holds control characters other than tabs and line ends. -/
def hasControl (text : List Char) : Bool := text.any fun c => !isPlain c && c != '\n'

/-- A character as it stands in a basic string; one that has no escape of its own is written with
its code point. -/
def escaped (c : Char) : String :=
  match c with
  | '\x08' => "\\b"
  | '\t' => "\\t"
  | '\n' => "\\n"
  | '\x0c' => "\\f"
  | '\r' => "\\r"
  | '"' => "\\\""
  | '\\' => "\\\\"
  | c =>
    if isPlain c then c.toString
    else "\\u00" ++ ((String.ofList [Text.hexDigit (c.toNat / 16), Text.hexDigit (c.toNat % 16)]).toUpper)

/-- The content of a basic string on one line. -/
def basicContent (text : List Char) : String := String.join (text.map escaped)

/-- The content of a basic string on several lines: line ends stand for themselves, and so do
quotes, except each third one in a row. `quotes` counts the quotes just before. -/
def multiContent (quotes : Nat) : List Char → String
  | [] => ""
  | c :: rest =>
    if c = '"' then
      if quotes = 2 then "\\\"" ++ multiContent 0 rest else "\"" ++ multiContent (quotes + 1) rest
    else (if c = '\n' then "\n" else escaped c) ++ multiContent 0 rest

/-- Whether a string can be written as a basic one without escapes other than of tabs. -/
def fitsBasic (text : List Char) : Bool :=
  !hasControl text && !text.contains '\\' && !text.contains '"' && !text.contains '\n'

/-- Whether a string can be written as a literal one. -/
def fitsLiteral (text : List Char) : Bool :=
  !hasControl text && !text.contains '\'' && !text.contains '\n'

/-- The written form of a string: basic if nothing needs an escape, else literal, else the same two
on several lines, and else basic with escapes. A line break after the opening quotes precedes a
content that holds line breaks. -/
def write (s : String) : String :=
  let text := s.toList
  let multiline := text.contains '\n'
  let start := if multiline then "\n" else ""
  if fitsBasic text then "\"" ++ basicContent text ++ "\""
  else if fitsLiteral text then "'" ++ s ++ "'"
  else if !hasControl text && !text.contains '\\' && longestRun '"' text ≤ 2 then
    "\"\"\"" ++ start ++ multiContent 0 text ++ "\"\"\""
  else if !hasControl text && longestRun '\'' text ≤ 2 then "'''" ++ start ++ s ++ "'''"
  else if multiline then "\"\"\"" ++ start ++ multiContent 0 text ++ "\"\"\""
  else "\"" ++ basicContent text ++ "\""

/-- The written form of a name in a key: bare if it can be, else a string on one line. -/
def writeName (s : String) : String :=
  let text := s.toList
  if !text.isEmpty && text.all isBare then s
  else if !fitsBasic text && fitsLiteral text then "'" ++ s ++ "'"
  else "\"" ++ basicContent text ++ "\""

end MediaCatalog.Toml
