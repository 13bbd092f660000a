import ProcessorHost.Text.Controls

/-!
# Command lines

A command line is matched against a list of options. Options have a long name and perhaps
a letter; they take a value, or are switches, or ask for help or the version. The value of
an option that stands in an argument of its own is looked at only when the next option
begins or the line ends. Options that the line does not give may come from the environment.
-/

namespace ProcessorHost.Cli

/-- What an option is for. -/
inductive Purpose
  /-- Takes a value, shown as a placeholder; the check gives the reason to refuse one. -/
  | value (placeholder : String) (check : String → Option String)
  | switch
  | help
  | version

structure OptionSpec where
  long : String
  short : Option Char
  purpose : Purpose
  /-- The environment variable that stands in for the option. -/
  env : Option String

namespace OptionSpec

/-- The option as it is shown in messages. -/
def shown (o : OptionSpec) : String :=
  match o.purpose with
  | .value placeholder _ => "--" ++ o.long ++ " <" ++ placeholder ++ ">"
  | _ => "--" ++ o.long

/-- A line about the option. -/
def line (o : OptionSpec) : String :=
  let letter := match o.short with
    | some c => "-" ++ String.singleton c ++ ", "
    | none => "    "
  let fallback := match o.env with
    | some name => " [env: " ++ name ++ "]"
    | none => ""
  "  " ++ letter ++ o.shown ++ fallback

end OptionSpec

/-- How a program with some options is used. -/
def usageText (name : String) (options : List OptionSpec) : String :=
  String.intercalate "\n" (("Usage: " ++ name ++ " [OPTIONS]") :: "" :: "Options:" ::
    options.map (·.line))

/-- Why a command line is not run. -/
inductive CommandLineError
  | unknownArgument (argument : String)
  | missingValue (option : String)
  | repeated (option : String)
  | unneededValue (value option : String)
  | invalidValue (value option reason : String)
  | invalidSwitch (value option : String)
  | help
  | version
deriving DecidableEq, Repr

namespace CommandLineError

/-- The message for an error. What it quotes from the command line is not to control the
terminal. -/
def message (name version : String) : CommandLineError → Option String
  | unknownArgument a => some ("error: unexpected argument '" ++ Text.visible a ++ "' found")
  | missingValue o => some ("error: a value is required for '" ++ o ++ "' but none was supplied")
  | repeated o => some ("error: the argument '" ++ o ++ "' cannot be used multiple times")
  | unneededValue v o =>
    some ("error: unexpected value '" ++ Text.visible v ++ "' for '" ++ o ++
      "' found; no more were expected")
  | invalidValue v o reason =>
    some ("error: invalid value '" ++ Text.visible v ++ "' for '" ++ o ++ "': " ++ reason)
  | invalidSwitch v o =>
    some ("error: invalid value '" ++ Text.visible v ++ "' for '" ++ o ++ "'")
  | help => none
  | .version => some (name ++ " " ++ version)

end CommandLineError

/-- The values that were given, by the long names of their options. -/
abbrev Given := List (String × String)

namespace Given

def value? (g : Given) (long : String) : Option String :=
  (g.find? fun entry => entry.1 = long).map (·.2)

end Given

/-- How far a line has been matched. -/
structure Progress where
  given : Given
  /-- An option whose value may still follow, or has followed. -/
  pending : Option (OptionSpec × Option String)
  /-- Whether everything that follows is no option. -/
  onlyValues : Bool

/-- Takes an option with the value that was given for it, if any. -/
def accept (given : Given) (o : OptionSpec) (value : Option String) :
    Except CommandLineError Given :=
  match o.purpose, value with
  | .help, _ => .error .help
  | .version, _ => .error .version
  | .switch, _ =>
    if (given.value? o.long).isSome then .error (.repeated o.shown)
    else .ok ((o.long, "true") :: given)
  | .value .., none => .error (.missingValue o.shown)
  | .value _ check, some v =>
    if (given.value? o.long).isSome then .error (.repeated o.shown)
    else
      match check v with
      | some reason => .error (.invalidValue v o.shown reason)
      | none => .ok ((o.long, v) :: given)

/-- Takes the option that is pending. -/
def settle (p : Progress) : Except CommandLineError Progress :=
  match p.pending with
  | none => .ok p
  | some (o, value) => do
    let given ← accept p.given o value
    .ok { p with given, pending := none }

/-- Takes an option whose value, if it needs one, is attached or follows. -/
def beginOption (p : Progress) (o : OptionSpec) (attached : Option String) :
    Except CommandLineError Progress := do
  let p ← settle p
  match o.purpose, attached with
  | .value .., none => .ok { p with pending := some (o, none) }
  | _, _ => do
    let given ← accept p.given o attached
    .ok { p with given }

/-- The name and the attached value of a long option. -/
def splitLong (s : List Char) : String × Option String :=
  let name := s.takeWhile (· ≠ '=')
  match s.drop name.length with
  | [] => (String.ofList name, none)
  | _ :: value => (String.ofList name, some (String.ofList value))

def takeLong (options : List OptionSpec) (p : Progress) (s : List Char) :
    Except CommandLineError Progress :=
  let (name, attached) := splitLong s
  match options.find? fun o => o.long = name with
  | none => .error (.unknownArgument ("--" ++ name))
  | some o =>
    match o.purpose, attached with
    | .value .., _ => beginOption p o attached
    | _, some v => .error (.unneededValue v o.shown)
    | _, none => beginOption p o none

/-- Letters after one dash; what follows the letter of an option with a value is its value. -/
def takeShort (options : List OptionSpec) (p : Progress) :
    List Char → Except CommandLineError Progress
  | [] => .ok p
  | c :: rest =>
    match options.find? fun o => o.short = some c with
    | none => .error (.unknownArgument ("-" ++ String.singleton c))
    | some o =>
      match o.purpose with
      | .value .. =>
        match rest with
        | [] => beginOption p o none
        | '=' :: value => beginOption p o (some (String.ofList value))
        | value => beginOption p o (some (String.ofList value))
      | _ => do
        let p ← beginOption p o none
        takeShort options p rest

/-- An argument that is no option: the value of the pending option, or unexpected. -/
def takeValue (p : Progress) (argument : String) : Except CommandLineError Progress :=
  match p.onlyValues, p.pending with
  | false, some (o, none) => .ok { p with pending := some (o, some argument) }
  | _, _ => .error (.unknownArgument argument)

def takeArgument (options : List OptionSpec) (p : Progress) (argument : String) :
    Except CommandLineError Progress :=
  if p.onlyValues then takeValue p argument
  else
    match argument.toList with
    | ['-', '-'] => .ok { p with onlyValues := true }
    | '-' :: '-' :: rest => takeLong options p rest
    | '-' :: c :: rest => takeShort options p (c :: rest)
    | _ => takeValue p argument

/-- Takes an option from the environment, unless the line gave it. -/
def takeVariable (env : List (String × String)) (given : Given) (o : OptionSpec) :
    Except CommandLineError Given :=
  let value := o.env.bind fun name => (env.find? fun entry => entry.1 = name).map (·.2)
  match given.value? o.long, value with
  | none, some v =>
    match o.purpose with
    | .switch =>
      if v = "true" ∨ v = "false" then .ok ((o.long, v) :: given)
      else if v.isEmpty then .error (.missingValue o.shown)
      else .error (.invalidSwitch v o.shown)
    | _ => accept given o (some v)
  | _, _ => .ok given

/-- Matches a whole command line. -/
def matchLine (options : List OptionSpec) (arguments : List String)
    (env : List (String × String)) : Except CommandLineError Given := do
  let p ← arguments.foldlM (takeArgument options) ⟨[], none, false⟩
  let p ← settle p
  options.foldlM (takeVariable env) p.given

/-- Why a text is no integer, in the words used for numbers of a fixed size. -/
inductive IntegerFault
  | empty
  | invalidDigit
  | tooLarge
  | tooSmall
deriving DecidableEq, Repr

namespace IntegerFault

def message : IntegerFault → String
  | empty => "cannot parse integer from empty string"
  | invalidDigit => "invalid digit found in string"
  | tooLarge => "number too large to fit in target type"
  | tooSmall => "number too small to fit in target type"

end IntegerFault

/-- The magnitude written by decimal digits, as long as it stays within a bound. -/
def magnitude (bound : Nat) (beyond : IntegerFault) (value : Nat) :
    List Char → Except IntegerFault Nat
  | [] => .ok value
  | c :: rest =>
    if '0' ≤ c ∧ c ≤ '9' then
      let value := value * 10 + (c.toNat - 48)
      if bound < value then .error beyond else magnitude bound beyond value rest
    else .error .invalidDigit

/-- A number of 64 bits with a sign. -/
def signed64 (s : String) : Except IntegerFault Int :=
  match s.toList with
  | [] => .error .empty
  | ['+'] => .error .invalidDigit
  | ['-'] => .error .invalidDigit
  | '+' :: rest => (magnitude (0x8000000000000000 - 1) .tooLarge 0 rest).map Int.ofNat
  | '-' :: rest => (magnitude 0x8000000000000000 .tooSmall 0 rest).map fun n => -(n : Int)
  | rest => (magnitude (0x8000000000000000 - 1) .tooLarge 0 rest).map Int.ofNat

/-- A number of 64 bits without a sign. -/
def unsigned64 (s : String) : Except IntegerFault Nat :=
  match s.toList with
  | [] => .error .empty
  | ['+'] => .error .invalidDigit
  | '+' :: rest => magnitude (0x10000000000000000 - 1) .tooLarge 0 rest
  | rest => magnitude (0x10000000000000000 - 1) .tooLarge 0 rest

end ProcessorHost.Cli
