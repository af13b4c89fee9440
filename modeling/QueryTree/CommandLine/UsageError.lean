import QueryTree.CommandLine.Grammar
import QueryTree.Text.Similarity

/-! # What can be wrong with a command line -/

namespace QueryTree.CommandLine

/-! ## Errors -/

/-- Why a text is no number of seconds. -/
inductive SecondsError where
  | empty
  | notDigit
  | tooLarge
  deriving DecidableEq

def SecondsError.message : SecondsError → String
  | .empty => "cannot parse integer from empty string"
  | .notDigit => "invalid digit found in string"
  | .tooLarge => "number too large to fit in target type"

inductive Tip where
  | similarVerbs (names : List String)
  | similarOption (name : String)
  | similarChoice (name : String)
  /-- how to pass the text as an operand -/
  | asOperand (text : String)
  /-- the verb must not stand behind two dashes -/
  | withoutDashes (verb : String)

inductive UsageError where
  | unknownVerb (name : String)
  | unknownArgument (text : String)
  | missingVerb
  | missingOperands (operands : List Operand)
  | missingValue (flag : Flag)
  | badChoice (flag : Flag) (value : String)
  | badSeconds (flag : Flag) (value : String) (error : SecondsError)
  | repeated (flag : Flag)
  /-- a value for an option that takes none -/
  | unwantedValue (switch value : String)

/-- An error with a hint and the usage line that is shown with it. -/
structure Rejection where
  error : UsageError
  tip : Option Tip
  usage : Option String
  /-- whether help can be asked for where the error arose -/
  hasHelp : Bool := true

/-! ## Messages -/

def quotedList (names : List String) : String :=
  ", ".intercalate (names.map fun name => "'" ++ name ++ "'")

def similarText (noun : String) : List String → String
  | [name] => "a similar " ++ noun ++ " exists: '" ++ name ++ "'"
  | names => "some similar " ++ noun ++ "s exist: " ++ quotedList names

def Tip.message : Tip → String
  | .similarVerbs names => similarText "subcommand" names
  | .similarOption name => similarText "argument" ["--" ++ name]
  | .similarChoice name => similarText "value" [name]
  | .asOperand text => "to pass '" ++ text ++ "' as a value, use '-- " ++ text ++ "'"
  | .withoutDashes verb =>
    "subcommand '" ++ verb ++ "' exists; to use it, remove the '--' before it"

def choiceList (title : String) (choices : List String) : String :=
  if choices.isEmpty then "" else "\n  [" ++ title ++ ": " ++ ", ".intercalate choices ++ "]"

def noValue (flag : Flag) : String :=
  "a value is required for '" ++ flag.label ++ "' but none was supplied" ++
    choiceList "possible values" flag.choices

def badValue (flag : Flag) (value : String) : String :=
  "invalid value '" ++ value ++ "' for '" ++ flag.label ++ "'"

def UsageError.message : UsageError → String
  | .unknownVerb name => "unrecognized subcommand '" ++ name ++ "'"
  | .unknownArgument text => "unexpected argument '" ++ text ++ "' found"
  | .missingVerb =>
    "'" ++ Level.programName ++ "' requires a subcommand but one was not provided" ++
      choiceList "subcommands" verbNames
  | .missingOperands operands =>
    "the following required arguments were not provided:" ++
      String.join (operands.map fun operand => "\n  " ++ operand.label)
  | .missingValue flag => noValue flag
  | .badChoice flag value =>
    if value.isEmpty then noValue flag
    else badValue flag value ++ choiceList "possible values" flag.choices
  | .badSeconds flag value error => badValue flag value ++ ": " ++ error.message
  | .repeated flag => "the argument '" ++ flag.label ++ "' cannot be used multiple times"
  | .unwantedValue switch value =>
    "unexpected value '" ++ value ++ "' for '--" ++ switch ++ "' found; no more were expected"

def Rejection.message (rejection : Rejection) : String :=
  "error: " ++ rejection.error.message ++
    (rejection.tip.map fun tip => "\n\n  tip: " ++ tip.message).getD "" ++
    (rejection.usage.map ("\n\n" ++ ·)).getD "" ++
    if rejection.hasHelp then "\n\nFor more information, try '--help'.\n" else "\n"

end QueryTree.CommandLine
