import QueryTree.CommandLine.UsageError
import QueryTree.Decimal.Digits

/-! # Reading the command line

Arguments are read from left to right. An option without a value attached takes the next argument.
An operand, or the value of such an option, is looked at when the next argument is read. Behind two
dashes every argument is an operand. -/

namespace QueryTree.CommandLine

-- The core library's power, so that powers mean the same whatever else is imported.
attribute [local instance (high)] instPowNat

/-- The values of the options that were given. -/
structure Options where
  headers : Option String := none
  format : Option Format := none
  timeoutSeconds : Option Nat := none

/-- The options of a verb win over those in front of it. -/
def Options.orElse (options others : Options) : Options :=
  ⟨options.headers <|> others.headers, options.format <|> others.format,
    options.timeoutSeconds <|> others.timeoutSeconds⟩

/-- Why nothing is run: help or the version was asked for, or the command line is wrong. -/
inductive Stop where
  | shown (text : String)
  | rejected (text : String)

def reject (error : UsageError) (tip : Option Tip) (usage : Option String) : Stop :=
  .rejected (Rejection.message ⟨error, tip, usage, true⟩)

/-! ## Values -/

def maxSeconds : Nat := 2 ^ (64 : Nat) - 1

def readDigits (n : Nat) : List Char → Except SecondsError Nat
  | [] => .ok n
  | c :: rest =>
    if !c.isDigit then .error .notDigit
    else
      let n := 10 * n + Decimal.digitValue c
      if maxSeconds < n then .error .tooLarge else readDigits n rest

def readSeconds : List Char → Except SecondsError Nat
  | [] => .error .empty
  | ['+'] => .error .notDigit
  | '+' :: rest => readDigits 0 rest
  | text => readDigits 0 text

/-! ## Options -/

/-- What is read in part, or still to be looked at. -/
inductive Pending where
  | nothing
  | awaitingValue (flag : Flag)
  | option (flag : Flag) (value : String)
  | operand (text : String)

/-- What was read at a level. -/
structure Reading where
  options : Options := {}
  /-- the options in the order in which they were given -/
  given : List Flag := []
  operands : List String := []
  pending : Pending := .nothing

namespace Reading

/-- The last argument was an option that waits for its value. -/
def awaitsValue (reading : Reading) : Bool :=
  match reading.pending with
  | .awaitingValue _ => true
  | _ => false

/-- How many operands there are, a pending one included. -/
def operandCount (reading : Reading) : Nat :=
  match reading.pending with
  | .operand _ => reading.operands.length + 1
  | _ => reading.operands.length

/-- Takes the value of an option that was not given before. -/
def take (level : Level) (reading : Reading) (flag : Flag) (value : String) :
    Except Stop Reading := do
  if reading.given.contains flag then
    .error (reject (.repeated flag) none (some level.generalUsage))
  else
    let options := reading.options
    let options : Options ← match flag with
      | .headers => .ok { options with headers := some value }
      | .format =>
        match Format.ofName? value with
        | some format => .ok { options with format := some format }
        | none =>
          let tip := (Text.mostSimilar? value flag.choices).map Tip.similarChoice
          .error (reject (.badChoice flag value) tip none)
      | .timeout =>
        match readSeconds value.toList with
        | .ok seconds => .ok { options with timeoutSeconds := some seconds }
        | .error error => .error (reject (.badSeconds flag value error) none none)
    .ok { reading with options, given := reading.given ++ [flag] }

/-- Takes what is pending. -/
def settle (level : Level) (reading : Reading) : Except Stop Reading :=
  match reading.pending with
  | .nothing => .ok reading
  | .awaitingValue flag => .error (reject (.missingValue flag) none none)
  | .option flag value => take level { reading with pending := .nothing } flag value
  | .operand text =>
    .ok { reading with pending := .nothing, operands := reading.operands ++ [text] }

/-- The options that a usage line after an error shows. -/
def shownFlags (reading : Reading) : List Flag :=
  match reading.pending with
  | .option flag _ =>
    if reading.given.contains flag then reading.given.filter (· ≠ flag) else reading.given ++ [flag]
  | _ => reading.given

/-! ## Arguments -/

/-- What is shown when an option is not known. -/
def unknownOption (level : Level) (reading : Reading) (name : String) : Stop :=
  let text := "--" ++ name
  let labels := reading.shownFlags.map Flag.label
  match Text.mostSimilar? name level.optionNames with
  | some similar =>
    let label := ((Flag.ofName? similar).map Flag.label).getD ("--" ++ similar)
    reject (.unknownArgument text) (some (.similarOption similar))
      (some (level.usageWith (if labels.contains label then labels else labels ++ [label])))
  | none =>
    let usage :=
      if labels.isEmpty && reading.operandCount = 0 then level.generalUsage
      else level.usageWith labels
    reject (.unknownArgument text) (if level.operands.isEmpty then none else some (.asOperand text))
      (some usage)

def showSwitch (level : Level) (name : String) : Stop :=
  .shown (if name = "version" then version else level.help)

/-- The name and the attached value of an argument behind two dashes. -/
def splitOption (text : List Char) : String × Option String :=
  (String.ofList (text.takeWhile (· != '=')),
    match text.dropWhile (· != '=') with
    | [] => none
    | _ :: value => some (String.ofList value))

def readOption (level : Level) (reading : Reading) (text : List Char) : Except Stop Reading := do
  let (name, attached) := splitOption text
  match Flag.ofName? name, attached with
  | some flag, none =>
    let settled ← reading.settle level
    .ok { settled with pending := .awaitingValue flag }
  | some flag, some value =>
    let settled ← reading.settle level
    settled.take level flag value
  | none, attached =>
    if !level.switches.contains name then .error (reading.unknownOption level name)
    else
      match attached with
      | none =>
        let _ ← reading.settle level
        .error (showSwitch level name)
      | some value =>
        .error (reject (.unwantedValue name value) none
          (some (level.usageOfSwitch reading.given (!reading.operands.isEmpty) name)))

/-- Reads an argument behind one dash. -/
def readShort (level : Level) (reading : Reading) (letter : Char) : Except Stop Reading := do
  match level.switchOfLetter? letter with
  | some name =>
    let _ ← reading.settle level
    .error (showSwitch level name)
  | none =>
    let text := String.ofList ['-', letter]
    .error (reject (.unknownArgument text)
      (if level.operands.isEmpty then none else some (.asOperand text)) (some level.generalUsage))

/-- What is shown for an argument that is neither a verb nor an operand. -/
def unexpected (level : Level) (isBehindDashes : Bool) (text : String) : Stop :=
  if !level.takesVerb then reject (.unknownArgument text) none (some level.generalUsage)
  else if isBehindDashes && verbNames.contains text then
    reject (.unknownArgument text) (some (.withoutDashes text)) (some level.generalUsage)
  else
    let tip := match Text.similarTo text verbNames with
      | [] => none
      | names => some (.similarVerbs names)
    reject (.unknownVerb text) tip (some level.generalUsage)

def readOperand (level : Level) (isBehindDashes : Bool) (reading : Reading) (text : String) :
    Except Stop Reading := do
  if reading.operandCount < level.operands.length then
    let settled ← reading.settle level
    .ok { settled with pending := .operand text }
  else .error (unexpected level isBehindDashes text)

end Reading

/-! ## Levels -/

/-- The help that is asked for by names of verbs. -/
def helpFor : List String → Stop
  | [] => .shown Level.program.help
  | name :: rest =>
    if name = helpVerb then
      match rest with
      | [] => .shown helpOnHelp
      | other :: _ =>
        .rejected (Rejection.message ⟨.unknownVerb other, none, some usageOfHelp, false⟩)
    else
      match Verb.ofName? name with
      | none => reject (.unknownVerb name) none (some Level.program.generalUsage)
      | some verb =>
        match rest with
        | [] => .shown (Level.verb verb).help
        | other :: _ => reject (.unknownVerb other) none (some (Level.verb verb).generalUsage)

/-- Reads the arguments of a level up to a verb, which is given back with the arguments behind it. -/
def readLevel (level : Level) (isBehindDashes : Bool) (reading : Reading) :
    List String → Except Stop (Reading × Option (Verb × List String))
  | [] => .ok (reading, none)
  | argument :: rest =>
    if isBehindDashes then
      match reading.readOperand level true argument with
      | .error stop => .error stop
      | .ok next => readLevel level true next rest
    else
      let verb := if level.takesVerb && !reading.awaitsValue then Verb.ofName? argument else none
      match verb with
      | some verb => .ok (reading, some (verb, rest))
      | none =>
        if level.takesVerb && !reading.awaitsValue && argument == helpVerb then
          .error (helpFor rest)
        else
          match argument.toList with
          | ['-', '-'] => readLevel level true reading rest
          | '-' :: '-' :: text =>
            match reading.readOption level text with
            | .error stop => .error stop
            | .ok next => readLevel level false next rest
          | '-' :: letter :: _ =>
            match reading.readShort level letter with
            | .error stop => .error stop
            | .ok next => readLevel level false next rest
          | _ =>
            match reading.pending with
            | .awaitingValue flag =>
              readLevel level false { reading with pending := .option flag argument } rest
            | _ =>
              match reading.readOperand level false argument with
              | .error stop => .error stop
              | .ok next => readLevel level false next rest

/-! ## Invocations -/

inductive Command where
  | roots (url : String)
  | catalog (url typeName : String)
  | serialize (file : String)
  | validate (url file : String)
  | usage

structure Invocation where
  headers : Option String
  format : Format
  timeoutSeconds : Nat
  command : Command

/-- The command with its operands, or the operands that are missing. -/
def commandOf (verb : Verb) (operands : List String) : Except (List Operand) Command :=
  match verb, operands with
  | .roots, [url] => .ok (.roots url)
  | .catalog, [url, typeName] => .ok (.catalog url typeName)
  | .serialize, [file] => .ok (.serialize file)
  | .validate, [url, file] => .ok (.validate url file)
  | .usage, [] => .ok .usage
  | verb, operands => .error (verb.operands.drop operands.length)

def readVerb (verb : Verb) (arguments : List String) : Except Stop (Options × Command) := do
  let level := Level.verb verb
  let (reading, _) ← readLevel level false {} arguments
  let reading ← reading.settle level
  match commandOf verb reading.operands with
  | .ok command => .ok (reading.options, command)
  | .error missing =>
    .error (reject (.missingOperands missing) none
      (some ("Usage: " ++ level.path ++ String.join (reading.given.map fun flag => " " ++ flag.label) ++
        level.closing)))

def defaultTimeoutSeconds : Nat := 30

/-- The invocation that the arguments ask for. What is wrong behind the verb is told before a wrong
value in front of it. -/
def Invocation.ofArguments (arguments : List String) : Except Stop Invocation := do
  let level := Level.program
  let (reading, verb) ← readLevel level false {} arguments
  match verb with
  | some (verb, rest) =>
    let (options, command) ← readVerb verb rest
    let reading ← reading.settle level
    let options := options.orElse reading.options
    .ok ⟨options.headers, options.format.getD .json,
      options.timeoutSeconds.getD defaultTimeoutSeconds, command⟩
  | none =>
    let reading ← reading.settle level
    if reading.given.isEmpty then .error (.rejected level.help)
    else .error (reject .missingVerb none (some level.generalUsage))

end QueryTree.CommandLine
