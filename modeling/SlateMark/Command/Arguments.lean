import SlateMark.Command.Word
import SlateMark.Log
import SlateMark.Text.Case

/-!
A command line read as a whole. Flags of the program stand before the name of the task, flags of the
task behind it; they are obeyed from left to right, and of a repeated flag the last value counts. A
task has one input. What is neither flag nor input is left over, and leftovers are an error once
everything else is in order.
-/
namespace SlateMark.Command

/-- Where the result of a conversion goes and how it is laid out. -/
structure Output where
  path : Option String := none
  indent : Int := 2
  rich : Bool := false
  forceRich : Bool := false
  richCodeTheme : String := "monokai"
  deriving DecidableEq, Repr

/-- Colours are for results shown on a terminal, unless they are forced; a file never gets them. -/
def Output.usesRich (o : Output) (terminal : Bool) : Bool :=
  o.rich && (o.path.getD "").isEmpty && (o.forceRich || terminal)

/-- The values of the flags. -/
structure Flags where
  config : Option String := none
  noConfig : Bool := false
  ns : Option String := none
  xmlns : Option String := none
  childlessPolicy : Option ChildlessPolicy := none
  strictHeadings : Option Bool := none
  logLevel : Level := .warning
  logFile : Option String := none
  trace : Bool := false
  output : Output := {}
  deriving DecidableEq, Repr

structure Arguments extends Flags where
  task : Task
  input : String
  deriving DecidableEq, Repr

/-- How reading a command line ends when no task is to be done. -/
inductive Ending where
  | version
  | help (task : Option Task)
  | usage (task : Option Task) (fault : Fault)
  deriving DecidableEq, Repr

/-- The program speaks for itself or for one of its tasks. -/
def speaker : Option Task → String
  | none => programName
  | some task => programName ++ " " ++ task.name

def usageText (task : Option Task) : String :=
  let flags := (task.elim Flag.ofProgram Flag.ofTask).map fun flag => s!" [{flag.label}]"
  "usage: " ++ speaker task ++ String.join flags ++ (if task.isNone then " COMMAND" else " input")

namespace Ending

def exitNumber : Ending → Nat
  | .usage _ _ => 2
  | _ => 0

/-- What is printed as a result. -/
def outputText : Ending → String
  | .version => s!"{programName} {Command.version}\n"
  | .help task => usageText task ++ "\n"
  | .usage _ _ => ""

/-- What is printed as a complaint. -/
def errorText : Ending → String
  | .usage task fault => s!"{speaker task}: error: {fault.message}"
  | _ => ""

end Ending

namespace Flags

/-- Help and version are no values. -/
def turn (flags : Flags) (s : Switch) (spelling : String) : Flags :=
  match s with
  | .help | .version => flags
  | .noConfig => { flags with noConfig := true }
  | .strictHeadings => { flags with strictHeadings := some (spelling = "--strict-headings") }
  | .trace => { flags with trace := true }
  | .rich => { flags with output := { flags.output with rich := true } }
  | .forceRich => { flags with output := { flags.output with forceRich := true } }

/-- The names of log levels are read without regard to capitals. -/
def set (flags : Flags) (p : Parameter) (value : String) : Except Fault Flags :=
  match p with
  | .config => .ok { flags with config := some value }
  | .ns => .ok { flags with ns := some value }
  | .xmlns => .ok { flags with xmlns := some value }
  | .childlessPolicy =>
    match ChildlessPolicy.ofName? value with
    | some policy => .ok { flags with childlessPolicy := some policy }
    | none => .error (.invalidChoice (Flag.parameter p).label value
        (ChildlessPolicy.all.map ChildlessPolicy.name))
  | .logLevel =>
    match Level.ofName? (Text.upper value) with
    | some level => .ok { flags with logLevel := level }
    | none => .error (.invalidChoice (Flag.parameter p).label (Text.upper value)
        (Level.all.map Level.name))
  | .logFile => .ok { flags with logFile := some value }
  | .output => .ok { flags with output := { flags.output with path := some value } }
  | .indent =>
    match Text.integer? value with
    | some n => .ok { flags with output := { flags.output with indent := n } }
    | none => .error (.notAnInteger (.parameter p) value)
  | .richCodeTheme => .ok { flags with output := { flags.output with richCodeTheme := value } }

end Flags

/-- What is wrong with short flags that are run together behind a switch. Text that starts with a
dash is no use to the switch, and the last flag may still need a value. -/
def runFault? (flags : List Flag) (valueFollows : Bool) (s : Switch) : List Char → Option Fault
  | [] => none
  | c :: more =>
    if c = '-' then some (.valueIgnored (.switch s) (String.ofList (c :: more)))
    else
      match flagSpelled? flags (String.ofList ['-', c]) with
      | none => none
      | some (.parameter p) =>
        if more.isEmpty && !valueFollows then some (.valueExpected (.parameter p)) else none
      | some (.switch next) =>
        if more.head? = some '=' then
          some (.valueIgnored (.switch next) (String.ofList (more.drop 1)))
        else runFault? flags valueFollows next more

def startsPlain : List (String × Word) → Bool
  | (_, .plain) :: _ => true
  | _ => false

/-- What is wrong with a switch as it is written. Only a short switch may have anything attached,
and that has to be further short flags. -/
def switchFault? (flags : List Flag) (rest : List (String × Word)) (s : Switch) (spelling : String) :
    Option Attached → Option Fault
  | none => none
  | some attached =>
    if attached.byEquals || attached.value.isEmpty || spelling.length ≠ 2 then
      some (.valueIgnored (.switch s) attached.value)
    else runFault? flags (startsPlain rest) s attached.value.toList

/-- A command line half read. -/
structure Draft extends Flags where
  input : Option String := none
  leftovers : List String := []

namespace Draft

def leave (d : Draft) (argument : String) : Draft :=
  { d with leftovers := d.leftovers ++ [argument] }

def withFlags (d : Draft) (flags : Flags) : Draft := { d with toFlags := flags }

/-- The first plain argument that no parameter takes is the input, and the terminator next to it. -/
def readWords (task : Task) (d : Draft) : List (String × Word) → Except Ending Draft
  | [] => .ok d
  | (argument, .unknown) :: rest => readWords task (d.leave argument) rest
  | (argument, .plain) :: (terminator, .terminator) :: rest =>
    if d.input.isSome then readWords task ((d.leave argument).leave terminator) rest
    else readWords task { d with input := some argument } rest
  | (argument, .plain) :: rest =>
    if d.input.isSome then readWords task (d.leave argument) rest
    else readWords task { d with input := some argument } rest
  | (terminator, .terminator) :: (argument, _) :: rest =>
    if d.input.isSome then readWords task ((d.leave terminator).leave argument) rest
    else readWords task { d with input := some argument } rest
  | [(terminator, .terminator)] => .ok (d.leave terminator)
  | (_, .flag (.switch s) spelling attached) :: rest =>
    match switchFault? (Flag.ofTask task) rest s spelling attached with
    | some fault => .error (.usage (some task) fault)
    | none =>
      if s = .help then .error (.help (some task))
      else readWords task (d.withFlags (d.turn s spelling)) rest
  | (_, .flag (.parameter p) _ (some attached)) :: rest =>
    match d.set p attached.value with
    | .error fault => .error (.usage (some task) fault)
    | .ok flags => readWords task (d.withFlags flags) rest
  | (_, .flag (.parameter p) _ none) :: (value, .plain) :: rest =>
    match d.set p value with
    | .error fault => .error (.usage (some task) fault)
    | .ok flags => readWords task (d.withFlags flags) rest
  | (_, .flag (.parameter p) _ none) :: _ => .error (.usage (some task) (.valueExpected (.parameter p)))

end Draft

/-- Leftovers of the program come before those of the task. -/
def readTask (task : Task) (leftovers arguments : List String) : Except Ending Arguments :=
  match classify (Flag.ofTask task) arguments with
  | .error fault => .error (.usage (some task) fault)
  | .ok words =>
    match Draft.readWords task {} words with
    | .error ending => .error ending
    | .ok d =>
      match d.input with
      | none => .error (.usage (some task) (.required "input"))
      | some input =>
        match leftovers ++ d.leftovers with
        | [] => .ok { d.toFlags with task := task, input := input }
        | several => .error (.usage none (.unrecognized several))

/-- The first argument that is no flag names the task, and all that follow belong to it. -/
def readProgram (leftovers : List String) : List (String × Word) → Except Ending Arguments
  | [] => .error (.usage none (.required "COMMAND"))
  | (argument, .unknown) :: rest => readProgram (leftovers ++ [argument]) rest
  | (_, .flag (.switch s) spelling attached) :: rest =>
    match switchFault? Flag.ofProgram rest s spelling attached with
    | some fault => .error (.usage none fault)
    | none => .error (if s = .version then .version else .help none)
  | [(_, .terminator)] => .error (.usage none (.required "COMMAND"))
  | (argument, _) :: rest =>
    match Task.ofName? argument with
    | some task => readTask task leftovers (rest.map Prod.fst)
    | none => .error (.usage none (.invalidChoice "COMMAND" argument (Task.all.map Task.name)))

def Arguments.parse (arguments : List String) : Except Ending Arguments :=
  match classify Flag.ofProgram arguments with
  | .error fault => .error (.usage none fault)
  | .ok words => readProgram [] words

end SlateMark.Command
