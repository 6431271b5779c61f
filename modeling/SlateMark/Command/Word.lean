import SlateMark.Command.Flag
import SlateMark.Text.Digit
import SlateMark.Text.Quoted

/-!
The arguments of a command line one by one, before any flag is obeyed: each is a flag, known or not,
the terminator of the flags, or plain. A spelling that fits several flags is refused at once.
-/
namespace SlateMark.Command

/-- A value in the same argument as its flag, with or without an equals sign between them. -/
structure Attached where
  byEquals : Bool
  value : String
  deriving DecidableEq, Repr

/-- What an argument is taken for before the flags are obeyed. -/
inductive Word where
  | plain
  | terminator
  | flag (flag : Flag) (spelling : String) (attached : Option Attached)
  | unknown
  deriving DecidableEq, Repr

/-- Why a command line is not understood. -/
inductive Fault where
  | ambiguous (argument : String) (candidates : List String)
  | valueExpected (flag : Flag)
  | valueIgnored (flag : Flag) (value : String)
  | notAnInteger (flag : Flag) (value : String)
  | invalidChoice (label : String) (value : String) (choices : List String)
  | required (label : String)
  | unrecognized (arguments : List String)
  deriving DecidableEq, Repr

def Fault.message : Fault → String
  | .ambiguous argument candidates =>
    s!"ambiguous option: {argument} could match " ++ ", ".intercalate candidates
  | .valueExpected flag => s!"argument {flag.label}: expected one argument"
  | .valueIgnored flag value =>
    s!"argument {flag.label}: ignored explicit argument {Text.quoted value}"
  | .notAnInteger flag value =>
    s!"argument {flag.label}: invalid int value: {Text.quoted value}"
  | .invalidChoice label value choices =>
    s!"argument {label}: invalid choice: {Text.quoted value} (choose from " ++
      ", ".intercalate (choices.map Text.quoted) ++ ")"
  | .required label => s!"the following arguments are required: {label}"
  | .unrecognized arguments => "unrecognized arguments: " ++ " ".intercalate arguments

/-- The text before the first equals sign, and the text after it if there is one. -/
def cutAtEquals (argument : List Char) : List Char × Option (List Char) :=
  let name := argument.takeWhile (· ≠ '=')
  match argument.drop name.length with
  | _ :: value => (name, some value)
  | [] => (name, none)

/-- A long spelling may be cut short; a short one may have its value right behind it. -/
def candidates (flags : List Flag) (argument : List Char) : List (Flag × String × Option Attached) :=
  match argument with
  | '-' :: '-' :: _ =>
    let (start, value?) := cutAtEquals argument
    (spelled flags).filterMap fun (spelling, flag) =>
      if start.isPrefixOf spelling.toList then
        some (flag, spelling, value?.map fun value => ⟨true, String.ofList value⟩)
      else none
  | _ =>
    (spelled flags).filterMap fun (spelling, flag) =>
      if spelling.toList = argument.take 2 then
        some (flag, spelling, some ⟨false, String.ofList (argument.drop 2)⟩)
      else none

def isDecimalDigit (c : Char) : Bool := (Text.digitValue? c).isSome

/-- Whether an argument is a negative number: digits, or a point with digits after it and perhaps
before it. A line feed at the end is passed over. -/
def looksNegative (argument : List Char) : Bool :=
  match argument with
  | '-' :: rest =>
    let body := if rest.getLast? = some '\n' then rest.dropLast else rest
    let whole := body.takeWhile isDecimalDigit
    match body.drop whole.length with
    | [] => !whole.isEmpty
    | '.' :: fraction => !fraction.isEmpty && fraction.all isDecimalDigit
    | _ => false
  | _ => false

/-- An argument with a dash in front and more behind it is a flag if it spells one; failing that,
negative numbers and arguments with a space in them are plain. -/
def Word.ofArgument (flags : List Flag) (argument : String) : Except Fault Word :=
  match argument.toList with
  | '-' :: second :: more =>
    match flagSpelled? flags argument with
    | some found => .ok (.flag found argument none)
    | none =>
      let chars := '-' :: second :: more
      let (name, value?) := cutAtEquals chars
      match value?, flagSpelled? flags (String.ofList name) with
      | some value, some found =>
        .ok (.flag found (String.ofList name) (some ⟨true, String.ofList value⟩))
      | _, _ =>
        match candidates flags chars with
        | [(found, spelling, attached)] => .ok (.flag found spelling attached)
        | [] => if looksNegative chars || chars.contains ' ' then .ok .plain else .ok .unknown
        | several => .error (.ambiguous argument (several.map fun candidate => candidate.2.1))
  | _ => .ok .plain

/-- All arguments with their words; after the terminator all are plain. -/
def classify (flags : List Flag) : List String → Except Fault (List (String × Word))
  | [] => .ok []
  | argument :: rest =>
    if argument = "--" then .ok ((argument, .terminator) :: rest.map (·, .plain))
    else
      match Word.ofArgument flags argument with
      | .error fault => .error fault
      | .ok word =>
        match classify flags rest with
        | .error fault => .error fault
        | .ok words => .ok ((argument, word) :: words)

end SlateMark.Command
