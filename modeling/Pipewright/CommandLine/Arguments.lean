import Pipewright.Number.Digit

/-!
# Arguments

A command has options, which are named by a word behind two hyphens or a letter
behind one, and positional arguments.  A value is attached to its option or
follows it.  Two hyphens alone make everything behind them positional.
-/

namespace Pipewright

/-- How often a parameter takes a value, and how it is shown. -/
inductive ParameterForm where
  | flag
  | option (placeholder : String)
  | list (placeholder : String)
  | positional (placeholder : String)
deriving DecidableEq, Repr

/-- What a value has to be. -/
inductive ValueKind where
  | text
  | path
  | count
deriving DecidableEq, Repr

/-- A parameter of a command. -/
structure Parameter where
  name : String
  letter : Option Char
  form : ParameterForm
  kind : ValueKind
  isRequired : Bool
  isRepeatable : Bool
deriving DecidableEq, Repr

namespace Parameter

/-- How messages show a parameter. -/
def label (parameter : Parameter) : String :=
  match parameter.form with
  | .flag => "--" ++ parameter.name
  | .option placeholder => "--" ++ parameter.name ++ " <" ++ placeholder ++ ">"
  | .list placeholder => "--" ++ parameter.name ++ " <" ++ placeholder ++ ">..."
  | .positional placeholder => "<" ++ placeholder ++ ">"

/-- Does a parameter take values? -/
def takesValue (parameter : Parameter) : Bool := parameter.form != .flag

/-- Is a parameter named by a word or a letter? -/
def isNamed (parameter : Parameter) : Bool :=
  match parameter.form with
  | .positional _ => false
  | _ => true

/-- Does a parameter take further values after the first? -/
def takesMore (parameter : Parameter) : Bool :=
  match parameter.form with
  | .list _ => true
  | _ => false

end Parameter

/-- Why a text is no count. -/
inductive CountFault where
  | empty
  | invalidDigit
  | tooLarge
deriving DecidableEq, Repr

/-- The wording of a fault. -/
def CountFault.message : CountFault → String
  | .empty => "cannot parse integer from empty string"
  | .invalidDigit => "invalid digit found in string"
  | .tooLarge => "number too large to fit in target type"

/-- Read digits in front of which `count` has been read. -/
def readCountDigits (count : Nat) : List Char → Except CountFault Nat
  | [] => .ok count
  | character :: rest =>
      match digitValue? 10 character with
      | none => .error .invalidDigit
      | some digit =>
          let next := 10 * count + digit
          if Nat.pow 2 64 ≤ next then .error .tooLarge else readCountDigits next rest

/-- Read a count, which may have a plus sign. -/
def readCount (text : String) : Except CountFault Nat :=
  match text.toList with
  | [] => .error .empty
  | ['+'] => .error .invalidDigit
  | '+' :: digits => readCountDigits 0 digits
  | digits => readCountDigits 0 digits

/-- What is wrong with the arguments of a command. -/
inductive UsageFault where
  | unknownCommand (text : String)
  | commandMissing
  | unexpectedArgument (text : String)
  | unexpectedValue (value label : String)
  | valueMissing (label : String)
  | invalidCount (value label : String) (fault : CountFault)
  | repeated (label : String)
  | argumentsMissing
deriving DecidableEq, Repr

/-- Why reading arguments ends before a command is known: a fault, no arguments at
all, or a question about the program. -/
inductive Interruption where
  | fault (fault : UsageFault)
  | noArguments
  | help
  | version
deriving DecidableEq, Repr

/-- The values of the parameters that were given, in order. -/
abbrev GivenValues := List (String × List String)

namespace GivenValues

/-- All values of a parameter. -/
def all (given : GivenValues) (name : String) : List String :=
  given.flatMap fun entry => if entry.1 = name then entry.2 else []

/-- The value of a parameter. -/
def first? (given : GivenValues) (name : String) : Option String :=
  (given.all name).head?

/-- Was a parameter given? -/
def has (given : GivenValues) (name : String) : Bool :=
  given.any (·.1 == name)

end GivenValues

/-- Arguments that are being read: the parameters, what has been given, the
parameter whose values are being gathered, whether the next argument may be one
of them, and the positional parameters that are left. -/
structure ArgumentReader where
  parameters : List Parameter
  given : GivenValues
  pending : Option (Parameter × List String)
  isOpen : Bool
  positional : List Parameter
  isTrailing : Bool

namespace ArgumentReader

/-- The result of a step. -/
abbrev Step := Except Interruption ArgumentReader

/-- The beginning of the arguments of a command. -/
def start (parameters : List Parameter) : ArgumentReader :=
  ⟨parameters, [], none, false, parameters.filter (!·.isNamed), false⟩

/-- Stop at a fault. -/
def refuse {α : Type} (fault : UsageFault) : Except Interruption α :=
  .error (.fault fault)

/-- Check a value. -/
def checkValue (parameter : Parameter) (value : String) : Except Interruption Unit :=
  match parameter.kind with
  | .text => .ok ()
  | .path => if value.isEmpty then refuse (.valueMissing parameter.label) else .ok ()
  | .count =>
      match readCount value with
      | .ok _ => .ok ()
      | .error fault => refuse (.invalidCount value parameter.label fault)

/-- Give values to a parameter. -/
def give (reader : ArgumentReader) (parameter : Parameter) (values : List String) : Step := do
  if parameter.takesValue && values.isEmpty then refuse (.valueMissing parameter.label)
  if !parameter.isRepeatable && reader.given.has parameter.name then
    refuse (.repeated parameter.label)
  values.forM (checkValue parameter)
  return { reader with given := reader.given ++ [(parameter.name, values)] }

/-- Give the values that were gathered. -/
def settle (reader : ArgumentReader) : Step :=
  match reader.pending with
  | none => .ok reader
  | some (parameter, values) => ({ reader with pending := none }).give parameter values

/-- Give a parameter its only values at once. -/
def giveNow (reader : ArgumentReader) (parameter : Parameter) (values : List String) : Step := do
  let reader ← reader.settle
  let reader ← reader.give parameter values
  return { reader with isOpen := false }

/-- Gather the values of a parameter from the arguments that follow. -/
def gather (reader : ArgumentReader) (parameter : Parameter) : Step := do
  let reader ← reader.settle
  return { reader with pending := some (parameter, []), isOpen := true }

/-- The interruption that a word asks for. -/
def interruptionOfWord? (hasVersion : Bool) (word : String) : Option Interruption :=
  if word = "help" then some .help
  else if hasVersion ∧ word = "version" then some .version
  else none

/-- The interruption that a letter asks for. -/
def interruptionOfLetter? (hasVersion : Bool) (letter : Char) : Option Interruption :=
  if letter = 'h' then some .help
  else if hasVersion ∧ letter = 'V' then some .version
  else none

/-- Stop for help or the version, once the values before it have been given. -/
def interrupt (reader : ArgumentReader) (interruption : Interruption) : Step := do
  let _ ← reader.settle
  .error interruption

/-- An option that is named by a word, with or without a value. -/
def readLong (reader : ArgumentReader) (hasVersion : Bool) (text : List Char) : Step :=
  let name := String.ofList (text.takeWhile (· != '='))
  let value? : Option String :=
    match text.dropWhile (· != '=') with
    | _ :: value => some (String.ofList value)
    | [] => none
  match reader.parameters.find? fun parameter => parameter.isNamed && parameter.name == name with
  | some parameter =>
      match parameter.takesValue, value? with
      | true, some value => reader.giveNow parameter [value]
      | true, none => reader.gather parameter
      | false, some value => refuse (.unexpectedValue value parameter.label)
      | false, none => reader.giveNow parameter []
  | none =>
      match interruptionOfWord? hasVersion name, value? with
      | some interruption, none => reader.interrupt interruption
      | some _, some value => refuse (.unexpectedValue value ("--" ++ name))
      | none, _ => refuse (.unexpectedArgument ("--" ++ name))

/-- Options that are named by letters.  What follows the letter of an option that
takes a value is the value. -/
def readShort (hasVersion : Bool) : ArgumentReader → List Char → Step
  | reader, [] => .ok reader
  | reader, letter :: rest =>
      match reader.parameters.find? fun parameter => parameter.letter == some letter with
      | some parameter =>
          if parameter.takesValue then
            match rest with
            | [] => reader.gather parameter
            | '=' :: value => reader.giveNow parameter [String.ofList value]
            | value => reader.giveNow parameter [String.ofList value]
          else
            match reader.giveNow parameter [] with
            | .ok reader => readShort hasVersion reader rest
            | .error interruption => .error interruption
      | none =>
          match interruptionOfLetter? hasVersion letter with
          | some interruption => reader.interrupt interruption
          | none => refuse (.unexpectedArgument (String.ofList ['-', letter]))

/-- A positional argument; one too many is refused as `stray` says. -/
def readPositional (reader : ArgumentReader) (stray : String → UsageFault) (text : String) :
    Step :=
  match reader.positional with
  | [] => refuse (stray text)
  | parameter :: further => do
      let reader ← reader.settle
      return { reader with
        pending := some (parameter, [text])
        isOpen := false
        positional := further }

/-- One argument. -/
def step (reader : ArgumentReader) (hasVersion : Bool) (stray : String → UsageFault)
    (text : String) : Step :=
  if reader.isTrailing then reader.readPositional stray text
  else
    match text.toList with
    | ['-', '-'] => .ok { reader with isTrailing := true }
    | '-' :: '-' :: rest => reader.readLong hasVersion rest
    | '-' :: letter :: rest => readShort hasVersion reader (letter :: rest)
    | _ =>
        match reader.pending with
        | some (parameter, values) =>
            if reader.isOpen then
              .ok { reader with
                pending := some (parameter, values ++ [text])
                isOpen := parameter.takesMore }
            else reader.readPositional stray text
        | none => reader.readPositional stray text

/-- The values that were given, once every required parameter has one. -/
def finish (reader : ArgumentReader) : Except Interruption GivenValues := do
  let reader ← reader.settle
  if reader.parameters.all fun parameter =>
      !parameter.isRequired || reader.given.has parameter.name then return reader.given
  else refuse .argumentsMissing

end ArgumentReader

/-- Read the arguments of a command. -/
def readArguments (parameters : List Parameter) (arguments : List String) :
    Except Interruption GivenValues := do
  let reader ← arguments.foldlM (fun reader text => reader.step false .unexpectedArgument text)
    (ArgumentReader.start parameters)
  reader.finish

end Pipewright
