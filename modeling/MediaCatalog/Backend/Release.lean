import MediaCatalog.Backend.Basic
import MediaCatalog.Text.Blank
import MediaCatalog.Unicode.Word

/-!
# Release names

Releases carry what is known of them in their file names:
`[Group] Title - 01v2 [720p][ABCD1234].mkv`. The title ends at the first place from where on the
name reads as a dash, an episode and tags.

* `Release.ofStem?`: what a name without extension says.
* `Release.backend`: the backend that associates each such file with an `anime` and a `group` set.
-/

namespace MediaCatalog

/-- What the name of a release says. -/
structure Release where
  group : String
  title : String
  episode : String
  version : Option String
  resolution : Option String
  checksum : Option String
  deriving DecidableEq, Repr

namespace Release

/-! ### The end of a name -/

/-- A decimal digit of any script. -/
def isDigit (c : Char) : Bool := Unicode.decimalDigits.contains c

/-- A character of words. -/
def isWordChar (c : Char) : Bool := Unicode.wordChars.contains c

/-- The blanks at the start of a text are dropped; there must be one. -/
def afterBlanks? : List Char → Option (List Char)
  | c :: rest => if Text.isBlank c then some (rest.dropWhile Text.isBlank) else none
  | [] => none

/-- The episode at the start of a text, digits with an optional decimal part, and what follows. -/
def episode? (s : List Char) : Option (List Char × List Char) :=
  let digits := s.takeWhile isDigit
  if digits.isEmpty then none
  else
    let rest := s.dropWhile isDigit
    match rest with
    | '.' :: after =>
      let decimals := after.takeWhile isDigit
      if decimals.isEmpty then some (digits, rest)
      else some (digits ++ '.' :: decimals, after.dropWhile isDigit)
    | _ => some (digits, rest)

/-- The version after a `v` at the start of a text, and what follows. -/
def splitVersion (s : List Char) : Option (List Char) × List Char :=
  match s with
  | 'v' :: after =>
    let digits := after.takeWhile isDigit
    if digits.isEmpty then (none, s) else (some digits, after.dropWhile isDigit)
  | _ => (none, s)

/-- A bracket that begins a tag. -/
def isOpening (c : Char) : Bool := c == '[' || c == '('

/-- A bracket that ends a tag. -/
def isClosing (c : Char) : Bool := c == ']' || c == ')'

/-- Whether a text is a row of tags in brackets with blanks between them. With `inside`, it begins
inside a tag. -/
def isTags (inside : Bool) : List Char → Bool
  | [] => !inside
  | c :: rest =>
    if inside then isTags (!isClosing c) rest
    else if Text.isBlank c then isTags false rest
    else isOpening c && isTags true rest

/-- What follows the title of a release. -/
structure Ending where
  episode : List Char
  version : Option (List Char)
  tags : List Char
  deriving DecidableEq, Repr

/-- The ending of a release name that a text makes up: a dash between blanks, the episode, the
version and the tags. -/
def ending? (s : List Char) : Option Ending := do
  match ← afterBlanks? s with
  | '-' :: s =>
    let (episode, s) ← episode? (← afterBlanks? s)
    let (version, tags) := splitVersion s
    if isTags false tags then some ⟨episode, version, tags⟩ else none
  | _ => none

/-- The shortest title at the start of a text after which an ending makes up the rest. A title has
at least one character and no line feed. -/
def titleEnding? : List Char → Option (List Char × Ending)
  | [] => none
  | c :: rest =>
    if c = '\n' then none
    else
      match ending? rest with
      | some ending => some ([c], ending)
      | none => (titleEnding? rest).map fun (title, ending) => (c :: title, ending)

/-- The title and ending of a text that begins with `blanks` blanks. As many of them as possible
stand before the title. -/
def afterGroup? (s : List Char) : Nat → Option (List Char × Ending)
  | 0 => titleEnding? s
  | blanks + 1 => (titleEnding? (s.drop (blanks + 1))).or (afterGroup? s blanks)

/-! ### Tags -/

/-- The first `n` characters of a text if all are digits, and what follows. -/
def exactDigits? (n : Nat) (s : List Char) : Option (List Char × List Char) :=
  let digits := s.take n
  if digits.length = n && digits.all isDigit then some (digits, s.drop n) else none

/-- Four digits, or else three, for which a continuation succeeds. -/
def fourOrThreeDigits {α : Type} (s : List Char) (k : List Char → List Char → Option α) : Option α :=
  ((exactDigits? 4 s).bind fun (d, r) => k d r).or ((exactDigits? 3 s).bind fun (d, r) => k d r)

/-- Whether a word may end before a text, after a character of words. -/
def endsWord (s : List Char) : Bool := !s.head?.any isWordChar

/-- A resolution such as `720p` at the start of a text. -/
def lineCount? (s : List Char) : Option (List Char) :=
  fourOrThreeDigits s fun lines rest =>
    match rest with
    | c :: rest => if (c = 'p' ∨ c = 'P') ∧ endsWord rest then some (lines ++ ['p']) else none
    | [] => none

/-- A resolution such as `1920x1080` at the start of a text. -/
def frameSize? (s : List Char) : Option (List Char) :=
  fourOrThreeDigits s fun width rest =>
    match rest with
    | c :: rest =>
      if c = 'x' ∨ c = 'X' then
        fourOrThreeDigits rest fun height rest =>
          if endsWord rest then some (width ++ 'x' :: height) else none
      else none
    | [] => none

/-- The first resolution in a text that is a word of its own; `inWord` tells whether a character of
words stands before the text. -/
def resolution? (inWord : Bool) : List Char → Option (List Char)
  | [] => none
  | c :: rest =>
    let here := if inWord then none else (lineCount? (c :: rest)).or (frameSize? (c :: rest))
    here.or (resolution? (isWordChar c) rest)

/-- A hexadecimal digit of either case. -/
def isHexDigit (c : Char) : Bool := c.isDigit || ('a' ≤ c && c ≤ 'f') || ('A' ≤ c && c ≤ 'F')

/-- The first eight hexadecimal digits that fill a pair of brackets, in upper case. -/
def checksum? : List Char → Option (List Char)
  | [] => none
  | c :: rest =>
    let digits := rest.take 8
    if isOpening c && digits.length = 8 && digits.all isHexDigit && (rest.drop 8).head?.any isClosing then
      some (digits.map Char.toUpper)
    else checksum? rest

/-! ### Whole names -/

/-- A text without the blanks at its ends. -/
def trimmed (s : List Char) : String := String.ofList (Text.trimChars s)

/-- What a file name without its extension says; nothing if it is no release name. -/
def ofStem? (stem : String) : Option Release :=
  match Text.trimChars stem.toList with
  | '[' :: s =>
    let group := s.takeWhile (· ≠ ']')
    match s.dropWhile (· ≠ ']') with
    | _ :: body =>
      if group.isEmpty then none
      else
        (afterGroup? body (body.takeWhile Text.isBlank).length).map fun (title, ending) =>
          ⟨trimmed group, trimmed title, String.ofList ending.episode,
            ending.version.map String.ofList,
            (resolution? false ending.tags).map String.ofList,
            (checksum? ending.tags).map String.ofList⟩
    | [] => none
  | _ => none

/-! ### The backend -/

/-- The name of the backend. -/
def backendName : String := "release"

/-- The kind of set that a title makes. -/
def titleKind : String := "anime"

/-- The kind of set that a release group makes. -/
def groupKind : String := "group"

/-- The properties of a file with a release name. -/
def properties (r : Release) (extension : Option String) : Fields :=
  let optional (name : String) (value : Option String) : List (String × String) :=
    (value.map fun v => (name, v)).toList
  Dict.ofList ([("title", r.title), ("episode", r.episode), ("group_name", r.group)] ++
    optional "ext" extension ++ optional "version" r.version ++
    optional "resolution" r.resolution ++ optional "crc32" r.checksum)

/-- The sets of a file with a release name. -/
def sets (r : Release) : List SetAssociation :=
  [⟨r.title, titleKind, Dict.empty.insert "title" r.title⟩, ⟨r.group, groupKind, Dict.empty⟩]

/-- What the name of a file says. -/
def contribution (file : FileInfo) : Contribution :=
  match ofStem? (file.stem?.getD "") with
  | some r => ⟨r.properties file.extension?, r.sets⟩
  | none => .none

/-- The properties of a set seen for the first time. -/
def description (kind name : String) : Fields :=
  let fields := Dict.empty.insert "kind" kind
  if kind = titleKind then fields.insert "title" name else fields

/-- The backend that reads release names. It never fails. -/
def backend : Backend where
  name := backendName
  description := "Titles, episodes and release groups parsed from fansub-style file names"
  defaultGlobs := ["*.mkv", "*.mp4", "*.avi", "*.ogm", "*.webm"]
  start := .ok ()
  process := fun file _ => .ok (contribution file)
  describe := fun kind name => .ok (description kind name)
  stop := .ok ()

end Release

end MediaCatalog
