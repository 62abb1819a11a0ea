/-!
# Arguments

The arguments of the program name a command, with options before and after its name. Some options
belong to every command, others to one of them.

* `Topic`: the commands by name, and what each of them takes.
* `Invocation.ofArguments`: what arguments ask for, or why nothing is done (`Stop`).
-/

namespace MediaCatalog.Command

/-! ### Options and commands -/

/-- What an option says. -/
inductive Flag where
  | config
  | verbose
  | backend
  | force
  | dryRun
  | help
  | version
  deriving DecidableEq, Repr

/-- How often an option may be given. -/
inductive Repetition where
  | once
  | often
  deriving DecidableEq, Repr

/-- An option. -/
structure Switch where
  flag : Flag
  short : Option Char
  long : String
  /-- What stands for the value of the option, if it has one. -/
  placeholder : Option String
  repetition : Repetition
  summary : String

/-- A word that follows the name of a command. -/
structure Parameter where
  name : String
  required : Bool
  summary : String

/-- The name of the program. -/
def programName : String := "hashfs"

/-- The version of the program. -/
def programVersion : String := "0.1.0-beta"

/-- The variable that names the configuration file unless an option does. -/
def configVariable : String := "HASHFS_CONFIG"

/-- The option that names the configuration file. -/
def configOption : Switch :=
  ⟨.config, some 'c', "config", some "CONFIG", .once,
    "Configuration file, instead of the one in the user configuration directory"⟩

/-- The option for more logging. -/
def verboseOption : Switch :=
  ⟨.verbose, some 'v', "verbose", none, .often, "More logging; repeat for even more"⟩

/-- The option that picks a backend. -/
def backendOption : Switch :=
  ⟨.backend, some 'b', "backend", some "NAME", .often,
    "Run only this backend; repeat to run several. Defaults to every enabled backend"⟩

/-- The option to process all files. -/
def forceOption : Switch :=
  ⟨.force, none, "force", none, .once, "Process files again even when they look unchanged"⟩

/-- The option to store nothing. -/
def dryRunOption : Switch :=
  ⟨.dryRun, none, "dry-run", none, .once, "Scan and report without writing to the entry store"⟩

/-- The option that asks for help. -/
def helpOption : Switch := ⟨.help, some 'h', "help", none, .once, "Print help"⟩

/-- The option that asks for the version. -/
def versionOption : Switch := ⟨.version, some 'V', "version", none, .once, "Print version"⟩

/-- The commands. -/
inductive Topic where
  | update
  | list
  | print
  | backends
  | config
  | help
  deriving DecidableEq, Repr

namespace Topic

/-- The commands in the order in which they are explained. -/
def all : List Topic := [update, list, print, backends, config, help]

/-- The name of a command. -/
def name : Topic → String
  | update => "update"
  | list => "ls"
  | print => "cat"
  | backends => "backends"
  | config => "config"
  | help => "help"

/-- What a command does, in a line. -/
def summary : Topic → String
  | update => "Scan a directory and record what the backends learn about its files"
  | list => "List a directory of the namespace without mounting it"
  | print => "Print a file of the namespace without mounting it"
  | backends => "List the available backends"
  | config =>
    "Print the effective configuration or a single dotted key of it, or set a key in the configuration file"
  | help => "Print this message or the help of the given subcommand(s)"

/-- The options after the name of a command. -/
def options : Topic → List Switch
  | update => [backendOption, configOption, forceOption, verboseOption, dryRunOption, helpOption]
  | _ => [configOption, verboseOption, helpOption]

/-- The words after the name of a command. -/
def parameters : Topic → List Parameter
  | update => [⟨"DIRECTORY", true, ""⟩]
  | list => [⟨"PATH", false, "[default: /]"⟩]
  | print => [⟨"PATH", true, ""⟩]
  | backends => []
  | config => [⟨"KEY", false, ""⟩, ⟨"VALUE", false, ""⟩]
  | help => [⟨"COMMAND", false, ""⟩]

/-- The command with a name. -/
def ofName? (name : String) : Option Topic := all.find? fun t => t.name = name

end Topic

/-- The options in front of the name of a command. -/
def leadingOptions : List Switch := [configOption, verboseOption, helpOption, versionOption]

/-- Why arguments ask for nothing to be done. -/
inductive Stop where
  /-- The arguments are wrong. -/
  | usage
  | version
  /-- Help is wanted, on a command or on all of them. -/
  | help (topic : Option Topic)
  deriving DecidableEq, Repr

/-! ### Reading -/

/-- What has been read: the options with their values, and other words. -/
structure Line where
  given : List (Flag × String)
  words : List String

namespace Line

/-- Nothing has been read yet. -/
def empty : Line := ⟨[], []⟩

/-- The values that an option was given. -/
def values (line : Line) (flag : Flag) : List String :=
  (line.given.filter fun g => g.1 = flag).map (·.2)

/-- Whether an option was given. -/
def has (line : Line) (flag : Flag) : Bool := !(line.values flag).isEmpty

/-- What has been read, with one more option. A configuration file has to have a name. -/
def give (line : Line) (topic : Option Topic) (o : Switch) (value : String) : Except Stop Line :=
  match o.flag with
  | .help => .error (.help topic)
  | .version => .error .version
  | flag =>
    if o.repetition = .once ∧ line.has flag then .error .usage
    else if flag = .config ∧ value.isEmpty then .error .usage
    else .ok { line with given := line.given ++ [(flag, value)] }

end Line

/-- Whether an argument can only be an option. -/
def looksLikeOption (argument : String) : Bool :=
  match argument.toList with
  | '-' :: _ :: _ => true
  | _ => false

/-- Reads an option with a long name, whose value may follow an equals sign: what has been read
then, and the option if its value is still to come. -/
def readLong (options : List Switch) (topic : Option Topic) (line : Line) (text : List Char) :
    Except Stop (Line × Option Switch) :=
  let name := String.ofList (text.takeWhile (· != '='))
  match options.find? (fun o => o.long = name), text.dropWhile (· != '=') with
  | none, _ => .error .usage
  | some o, rest =>
    match o.placeholder, rest with
    | none, [] => (line.give topic o "").map fun line => (line, none)
    | none, _ :: _ => .error .usage
    | some _, [] => .ok (line, some o)
    | some _, _ :: value => (line.give topic o (String.ofList value)).map fun line => (line, none)

/-- Reads a run of options with short names. The rest of the run after an option with a value is
that value. -/
def readShort (options : List Switch) (topic : Option Topic) (line : Line) :
    List Char → Except Stop (Line × Option Switch)
  | [] => .ok (line, none)
  | c :: rest =>
    match options.find? fun o => o.short = some c with
    | none => .error .usage
    | some o =>
      match o.placeholder, rest with
      | none, rest => do readShort options topic (← line.give topic o "") rest
      | some _, [] => .ok (line, some o)
      | some _, '=' :: value => (line.give topic o (String.ofList value)).map fun line => (line, none)
      | some _, value => (line.give topic o (String.ofList value)).map fun line => (line, none)

/-- Reads arguments; `pending` is an option whose value comes next. With `leading` the first word
ends the reading; otherwise at most `maxWords` words are read. -/
def readLine (options : List Switch) (topic : Option Topic) (leading : Bool) (maxWords : Nat) :
    Line → Option Switch → List String → Except Stop (Line × List String)
  | line, none, [] => .ok (line, [])
  | _, some _, [] => .error .usage
  | line, some o, value :: rest =>
    if looksLikeOption value then .error .usage
    else do readLine options topic leading maxWords (← line.give topic o value) none rest
  | line, none, argument :: rest =>
    match argument.toList with
    | ['-', '-'] =>
      if leading ∨ maxWords < line.words.length + rest.length then .error .usage
      else .ok ({ line with words := line.words ++ rest }, [])
    | '-' :: '-' :: text => do
      let (line, pending) ← readLong options topic line text
      readLine options topic leading maxWords line pending rest
    | '-' :: c :: run => do
      let (line, pending) ← readShort options topic line (c :: run)
      readLine options topic leading maxWords line pending rest
    | _ =>
      if leading then .ok (line, argument :: rest)
      else if maxWords ≤ line.words.length then .error .usage
      else readLine options topic leading maxWords { line with words := line.words ++ [argument] } none rest

/-! ### Requests -/

/-- What is to be done. -/
inductive Request where
  | update (directory : String) (backends : List String) (force dryRun : Bool)
  | list (path : String)
  | print (path : String)
  | backends
  /-- Shows the configuration or the value of a key. -/
  | show (key : Option String)
  | set (key value : String)
  deriving DecidableEq, Repr

/-- What the words and options of a command ask for. -/
def Topic.request? (topic : Topic) (line : Line) : Option Request :=
  match topic, line.words with
  | .update, [directory] =>
    if directory.isEmpty then none
    else some (.update directory (line.values .backend) (line.has .force) (line.has .dryRun))
  | .list, [] => some (.list "/")
  | .list, [path] => some (.list path)
  | .print, [path] => some (.print path)
  | .backends, [] => some .backends
  | .config, [] => some (.show none)
  | .config, [key] => some (.show (some key))
  | .config, [key, value] => some (.set key value)
  | _, _ => none

/-- What is to be done, and with which configuration file. -/
structure Invocation where
  config : Option String
  request : Request

/-- The topic of a call for help. -/
def helpTopic : List String → Stop
  | [] => .help none
  | [name] => match Topic.ofName? name with
    | some topic => .help (some topic)
    | none => .usage
  | _ => .usage

/-- The configuration file that counts: the one named after the command, or else before it, or else
by the variable. A variable without a text is wrong wherever it would be asked. -/
def configFile (before after variableText : Option String) : Except Stop (Option String) :=
  if variableText = some "" ∧ (before.isNone ∨ after.isNone) then .error .usage
  else .ok (after.or (before.or variableText))

/-- What arguments ask for; `variableText` is the text of the variable that may name the
configuration file. -/
def Invocation.ofArguments (variableText : Option String) (arguments : List String) :
    Except Stop Invocation := do
  let (before, rest) ← readLine leadingOptions none true 0 .empty none arguments
  match rest with
  | [] => .error .usage
  | name :: rest =>
    match Topic.ofName? name with
    | none => .error .usage
    | some .help => .error (helpTopic rest)
    | some topic =>
      let (after, _) ← readLine topic.options (some topic) false topic.parameters.length .empty none rest
      match topic.request? after with
      | none => .error .usage
      | some request =>
        let config ← configFile (before.values .config).head? (after.values .config).head? variableText
        return ⟨config, request⟩

end MediaCatalog.Command
