/-! # The grammar of the command line

A command line names a verb with its operands. Options with values may stand before and after the
verb. -/

namespace QueryTree.CommandLine

/-! ## Options -/

inductive Format where
  | human
  | json
  deriving DecidableEq

namespace Format

def all : List Format := [human, json]

def name : Format → String
  | human => "human"
  | json => "json"

def ofName? (name : String) : Option Format := all.find? fun format => format.name == name

end Format

/-- The options, all of which take a value. -/
inductive Flag where
  | headers
  | format
  | timeout
  deriving DecidableEq

namespace Flag

def all : List Flag := [headers, format, timeout]

def name : Flag → String
  | headers => "headers"
  | format => "format"
  | timeout => "timeout-secs"

def valueName : Flag → String
  | headers => "HEADERS"
  | format => "FORMAT"
  | timeout => "TIMEOUT_SECS"

def about : Flag → String
  | headers => "Extra introspection headers as a JSON object (overrides $BLOCKQL_HEADERS and " ++
      "~/.blockql_headers.json)"
  | format => "Output format. Auto-detected if not specified (human for terminal, json for pipe) " ++
      "[possible values: human, json]"
  | timeout => "Introspection request timeout in seconds [default: 30]"

/-- The only values that an option takes, if it is so limited. -/
def choices : Flag → List String
  | format => Format.all.map Format.name
  | _ => []

def label (flag : Flag) : String := "--" ++ flag.name ++ " <" ++ flag.valueName ++ ">"

def ofName? (name : String) : Option Flag := all.find? fun flag => flag.name == name

end Flag

/-! ## Verbs -/

structure Operand where
  name : String
  about : String

namespace Operand

def url : Operand := ⟨"URL", "GraphQL endpoint URL"⟩

def type : Operand := ⟨"TYPE", "Type name, e.g. \x60User\x60"⟩

def file : Operand := ⟨"FILE", "JSON file holding the selection tree (\x60-\x60 for stdin)"⟩

def label (operand : Operand) : String := "<" ++ operand.name ++ ">"

end Operand

inductive Verb where
  | roots
  | catalog
  | serialize
  | validate
  | usage
  deriving DecidableEq

namespace Verb

def all : List Verb := [roots, catalog, serialize, validate, usage]

def name : Verb → String
  | roots => "roots"
  | catalog => "catalog"
  | serialize => "serialize"
  | validate => "validate"
  | usage => "usage"

def about : Verb → String
  | roots => "List root entry points and fragment targets of an endpoint"
  | catalog => "List the selectable fields and fragments of a type"
  | serialize => "Compile a selection tree (JSON) into query text"
  | validate => "Check a selection tree against an endpoint's current schema"
  | usage => "Print a compact command reference"

def operands : Verb → List Operand
  | roots => [.url]
  | catalog => [.url, .type]
  | serialize => [.file]
  | validate => [.url, .file]
  | usage => []

def ofName? (name : String) : Option Verb := all.find? fun verb => verb.name == name

end Verb

def helpVerb : String := "help"

def verbNames : List String := Verb.all.map Verb.name ++ [helpVerb]

/-! ## Levels -/

/-- What arguments are read for: the program, and behind a verb that verb. -/
inductive Level where
  | program
  | verb (verb : Verb)

namespace Level

def programName : String := "blockql"

def path : Level → String
  | program => programName
  | verb v => programName ++ " " ++ v.name

def about : Level → String
  | program => "CLI for exploring GraphQL endpoints and compiling selection trees"
  | verb v => v.about

def operands : Level → List Operand
  | program => []
  | verb v => v.operands

def takesVerb : Level → Bool
  | program => true
  | verb _ => false

/-- The options without a value: help everywhere, and the version of the program. -/
def switches : Level → List String
  | program => ["help", "version"]
  | verb _ => ["help"]

def switchOfLetter? (level : Level) (letter : Char) : Option String :=
  if letter = 'h' then some "help"
  else if letter = 'V' && level.takesVerb then some "version"
  else none

def optionNames (level : Level) : List String := Flag.all.map Flag.name ++ level.switches

/-! ## Usage lines and help -/

def closing (level : Level) : String :=
  String.join (level.operands.map fun operand => " " ++ operand.label) ++
    if level.takesVerb then " <COMMAND>" else ""

/-- How to call the level in general. -/
def generalUsage (level : Level) : String := "Usage: " ++ level.path ++ " [OPTIONS]" ++ level.closing

/-- How to call the level with some options. -/
def usageWith (level : Level) (labels : List String) : String :=
  "Usage: " ++ level.path ++ String.join (labels.map (" " ++ ·)) ++ level.closing

/-- Labels of which one is to be given. -/
def oneOf (labels : List String) : String := " <" ++ "|".intercalate labels ++ ">"

/-- How to call the level with a switch. The options of the program are told as one choice if any
was given, and so are the operands of a verb. -/
def usageOfSwitch (level : Level) (given : List Flag) (hasOperands : Bool) (switch : String) :
    String :=
  "Usage: " ++ level.path ++
    match level with
    | program =>
      " --" ++ switch ++ (if given.isEmpty then "" else oneOf (Flag.all.map Flag.label)) ++
        level.closing
    | verb v =>
      String.join (given.map fun flag => " " ++ flag.label) ++ " --" ++ switch ++
        if hasOperands then oneOf (v.operands.map Operand.name) else level.closing

/-- Two columns, the first as wide as its widest entry. -/
def columns (rows : List (String × String)) : String :=
  let width := rows.foldl (fun width row => max width row.1.length) 0
  String.join (rows.map fun (left, right) =>
    "  " ++ left ++ String.ofList (List.replicate (width - left.length + 2) ' ') ++ right ++ "\n")

def titled (title : String) (rows : List (String × String)) : String :=
  if rows.isEmpty then "" else "\n" ++ title ++ ":\n" ++ columns rows

def verbRows (level : Level) : List (String × String) :=
  if level.takesVerb then
    Verb.all.map (fun v => (v.name, v.about)) ++
      [(helpVerb, "Print this message or the help of the given subcommand(s)")]
  else []

def optionRows (level : Level) : List (String × String) :=
  Flag.all.map (fun flag => ("    " ++ flag.label, flag.about)) ++
    [("-h, --help", "Print help")] ++
    if level.takesVerb then [("-V, --version", "Print version")] else []

def help (level : Level) : String :=
  level.about ++ "\n\n" ++ level.generalUsage ++ "\n" ++ titled "Commands" level.verbRows ++
    titled "Arguments" (level.operands.map fun operand => (operand.label, operand.about)) ++
    titled "Options" level.optionRows

end Level

def usageOfHelp : String := "Usage: " ++ Level.programName ++ " " ++ helpVerb ++ " [COMMAND]..."

/-- The help on asking for help. -/
def helpOnHelp : String :=
  "Print this message or the help of the given subcommand(s)\n\n" ++ usageOfHelp ++
    "\n\nArguments:\n  [COMMAND]...  Print help for the subcommand(s)\n"

def version : String := Level.programName ++ " 0.1.0\n"

end QueryTree.CommandLine
