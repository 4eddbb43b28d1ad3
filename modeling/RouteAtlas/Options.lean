/-!
# RouteAtlas.Options — arguments of the command line

The first argument is a command.  The arguments after it are read one by one; an option whose value
is an argument of its own waits for it, and is settled when the next option is met or the arguments
end.  The first fault decides, and what is missing is noticed last.
-/

namespace RouteAtlas

/-- What is wrong with the arguments, or that help is asked for. -/
inductive UsageError where
  | missingRequired
  | unknownArgument
  | invalidValue
  | argumentConflict
  | invalidSubcommand
  | tooManyValues
  | displayHelp
  | displayHelpOnMissing
deriving DecidableEq, Repr

/-- The name of the outcome. -/
def UsageError.name : UsageError → String
  | missingRequired => "MissingRequiredArgument"
  | unknownArgument => "UnknownArgument"
  | invalidValue => "InvalidValue"
  | argumentConflict => "ArgumentConflict"
  | invalidSubcommand => "InvalidSubcommand"
  | tooManyValues => "TooManyValues"
  | displayHelp => "DisplayHelp"
  | displayHelpOnMissing => "DisplayHelpOnMissingArgumentOrSubcommand"

/-- How a report is written. -/
inductive OutputFormat where
  | text
  | json
deriving DecidableEq, Repr

namespace OutputFormat

/-- The name of a format. -/
def name : OutputFormat → String
  | text => "text"
  | json => "json"

/-- The format of a name. -/
def parse? (s : String) : Option OutputFormat := [text, json].find? (·.name == s)

end OutputFormat

/-- What to scan, and how to report. -/
structure ScanOptions where
  tree : String
  config : Option String := none
  format : OutputFormat := .text
  failOnIssues : Bool := false
deriving DecidableEq, Repr

/-- A command with its options. -/
inductive Invocation where
  | scan (options : ScanOptions)
  | kinds
deriving DecidableEq, Repr

namespace Options

/-- An option of a scan. -/
inductive Name where
  | tree
  | config
  | format
  | failOnIssues
  | help
deriving DecidableEq

namespace Name

/-- The option of a word after two dashes. -/
def ofLong? (s : String) : Option Name :=
  [("tree", tree), ("config", config), ("format", format), ("fail-on-issues", failOnIssues),
    ("help", help)].lookup s

/-- The option of a letter after one dash. -/
def ofShort? (c : Char) : Option Name :=
  [('t', tree), ('c', config), ('f', format), ('h', help)].lookup c

/-- The option has a value. -/
def takesValue : Name → Bool
  | tree | config | format => true
  | failOnIssues | help => false

end Name

/-- An argument as it is written. -/
inductive Argument where
  /-- Two dashes alone: no options follow. -/
  | escape
  /-- A word after two dashes, with what stands after an equals sign. -/
  | long (name : String) (value : Option String)
  /-- A letter after one dash, with what stands after it. -/
  | short (letter : Char) (rest : List Char)
  | word (s : String)

/-- The argument that a text is. -/
def Argument.ofText (s : String) : Argument :=
  match s.toList with
  | ['-', '-'] => .escape
  | '-' :: '-' :: cs =>
    match cs.span (· != '=') with
    | (name, []) => .long (String.ofList name) none
    | (name, _ :: value) => .long (String.ofList name) (some (String.ofList value))
  | '-' :: c :: cs => .short c cs
  | _ => .word s

/-- The value that is written right after the letter of an option. -/
def attached? : List Char → Option String
  | [] => none
  | '=' :: cs => some (String.ofList cs)
  | cs => some (String.ofList cs)

/-- The options read so far. -/
structure State where
  tree : Option String := none
  config : Option String := none
  format : Option OutputFormat := none
  failOnIssues : Bool := false
  /-- An option that is not settled, and its value where it has been met. -/
  pending : Option (Name × Option String) := none

namespace State

/-- Settles an option: it must have a value, stand there once, and its value must be one. -/
def settle (s : State) : Name → Option String → Except UsageError State
  | .help, _ => .error .displayHelp
  | .failOnIssues, _ =>
    if s.failOnIssues then .error .argumentConflict else .ok { s with failOnIssues := true }
  | .tree, none | .config, none | .format, none => .error .invalidValue
  | .tree, some value =>
    if s.tree.isSome then .error .argumentConflict
    else if value.isEmpty then .error .invalidValue
    else .ok { s with tree := some value }
  | .config, some value =>
    if s.config.isSome then .error .argumentConflict
    else if value.isEmpty then .error .invalidValue
    else .ok { s with config := some value }
  | .format, some value =>
    if s.format.isSome then .error .argumentConflict
    else
      match OutputFormat.parse? value with
      | some format => .ok { s with format := some format }
      | none => .error .invalidValue

/-- Settles the option that is pending. -/
def settlePending (s : State) : Except UsageError State :=
  match s.pending with
  | none => .ok s
  | some (name, value) => { s with pending := none }.settle name value

/-- Meets an option with the value that is written in the same argument. -/
def meet (s : State) (name : Name) (value : Option String) : Except UsageError State := do
  let s ← s.settlePending
  if name.takesValue && value.isNone then return { s with pending := some (name, none) }
  else s.settle name value

/-- The options of a scan once all arguments are read. -/
def finish (s : State) : Except UsageError ScanOptions := do
  let s ← s.settlePending
  match s.tree with
  | none => .error .missingRequired
  | some tree =>
    return {
      tree, config := s.config, format := s.format.getD .text, failOnIssues := s.failOnIssues }

end State

/-- Reads the arguments of a scan. -/
def scanOptions (s : State) : List String → Except UsageError ScanOptions
  | [] => s.finish
  | a :: as =>
    match Argument.ofText a with
    | .escape => if as.isEmpty then s.finish else .error .unknownArgument
    | .long word value =>
      match Name.ofLong? word with
      | none => .error .unknownArgument
      | some name =>
        if value.isSome && !name.takesValue then .error .tooManyValues
        else do scanOptions (← s.meet name value) as
    | .short letter rest =>
      match Name.ofShort? letter with
      | none => .error .unknownArgument
      | some name => do scanOptions (← s.meet name (attached? rest)) as
    | .word value =>
      match s.pending with
      | some (name, none) => scanOptions { s with pending := some (name, some value) } as
      | _ => .error .unknownArgument

/-- Reads the arguments of the command that lists the kinds. -/
def kindsOptions : List String → Except UsageError Unit
  | [] => .ok ()
  | a :: as =>
    match Argument.ofText a with
    | .escape => if as.isEmpty then .ok () else .error .unknownArgument
    | .long "help" none => .error .displayHelp
    | .long "help" (some _) => .error .tooManyValues
    | .short 'h' _ => .error .displayHelp
    | .long .. | .short .. | .word _ => .error .unknownArgument

/-- The words that start a command. -/
def commandWords : List String := ["scan", "kinds", "help"]

/-- Reads the arguments of the command that shows help. -/
def helpOptions : List String → UsageError
  | [] => .displayHelp
  | [word] => if commandWords.contains word then .displayHelp else .invalidSubcommand
  | _ => .invalidSubcommand

/-- Reads all arguments. -/
def parse : List String → Except UsageError Invocation
  | [] => .error .displayHelpOnMissing
  | a :: as =>
    match Argument.ofText a with
    | .escape =>
      match as with
      | [] => .error .displayHelpOnMissing
      | word :: _ =>
        .error (if commandWords.contains word then .unknownArgument else .invalidSubcommand)
    | .long "help" none => .error .displayHelp
    | .long "help" (some _) => .error .tooManyValues
    | .short 'h' _ => .error .displayHelp
    | .long .. | .short .. => .error .unknownArgument
    | .word "scan" => (scanOptions {} as).map .scan
    | .word "kinds" => (kindsOptions as).map fun _ => .kinds
    | .word "help" => .error (helpOptions as)
    | .word _ => .error .invalidSubcommand

end Options

end RouteAtlas
