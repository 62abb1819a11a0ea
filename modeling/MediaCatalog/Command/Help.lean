import MediaCatalog.Command.Arguments

/-!
# Help

* `helpText`: what the program says about itself or about one of its commands.
-/

namespace MediaCatalog.Command

/-- What the program is for. -/
def programSummary : String := "Browse content-identified file metadata as a virtual filesystem"

/-- A line of two columns, the first of a given width. -/
def columns (width : Nat) (left right : String) : String :=
  "  " ++ left ++ String.ofList (List.replicate (width - left.length + 2) ' ') ++ right ++ "\n"

/-- A section of lines with two columns; nothing if it has no lines. -/
def helpSection (title : String) (lines : List (String × String)) : String :=
  if lines.isEmpty then ""
  else
    let width := (lines.map fun l => l.1.length).foldl max 0
    "\n" ++ title ++ ":\n" ++ String.join (lines.map fun l => columns width l.1 l.2)

/-- How an option is written. -/
def Switch.usage (o : Switch) : String :=
  let short := match o.short with
    | some c => "-" ++ c.toString ++ ", "
    | none => "    "
  let value := match o.placeholder, o.repetition with
    | some name, _ => " <" ++ name ++ ">"
    | none, .often => "..."
    | none, .once => ""
  short ++ "--" ++ o.long ++ value

/-- What an option does; for the configuration file also the variable with its present text. -/
def Switch.explanation (variableText : Option String) (o : Switch) : String :=
  o.summary ++
    if o.flag = .config then " [env: " ++ configVariable ++ "=" ++ variableText.getD "" ++ "]" else ""

/-- How a word after a command is written. -/
def Parameter.usage (p : Parameter) : String :=
  if p.required then "<" ++ p.name ++ ">" else "[" ++ p.name ++ "]"

/-- The lines of help on options. -/
def optionLines (variableText : Option String) (options : List Switch) : List (String × String) :=
  options.map fun o => (o.usage, o.explanation variableText)

/-- What the program says about itself or about one of its commands. -/
def helpText (variableText : Option String) : Option Topic → String
  | none =>
    programSummary ++ "\n\nUsage: " ++ programName ++ " [OPTIONS] <COMMAND>\n" ++
      helpSection "Commands" (Topic.all.map fun t => (t.name, t.summary)) ++
      helpSection "Options" (optionLines variableText leadingOptions)
  | some .help =>
    Topic.help.summary ++ "\n\nUsage: " ++ programName ++ " help [COMMAND]...\n" ++
      helpSection "Arguments" [("[COMMAND]...", "Print help for the subcommand(s)")]
  | some topic =>
    topic.summary ++ "\n\nUsage: " ++ programName ++ " " ++ topic.name ++ " [OPTIONS]" ++
      String.join (topic.parameters.map fun p => " " ++ p.usage) ++ "\n" ++
      helpSection "Arguments" (topic.parameters.map fun p => (p.usage, p.summary)) ++
      helpSection "Options" (optionLines variableText topic.options)

end MediaCatalog.Command
