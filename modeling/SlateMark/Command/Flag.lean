import SlateMark.Convert.Text

/-!
What a command line may hold: the tasks and the flags of each. A switch stands alone; a parameter
takes a value. Every flag has one or more spellings and is called by all of them in messages.
-/
namespace SlateMark.Command

def programName : String := "slate2cm"

def version : String := "1.0.0"

inductive Task where
  | convert (direction : Direction)
  | roundTrip
  deriving DecidableEq, Repr

namespace Task

def name : Task → String
  | .convert direction => direction.name
  | .roundTrip => "roundtrip"

def all : List Task := Direction.all.map .convert ++ [.roundTrip]

def ofName? (s : String) : Option Task := all.find? fun task => task.name = s

end Task

inductive Switch where
  | help
  | version
  | noConfig
  | strictHeadings
  | trace
  | rich
  | forceRich
  deriving DecidableEq, Repr

inductive Parameter where
  | config
  | ns
  | xmlns
  | childlessPolicy
  | logLevel
  | logFile
  | output
  | indent
  | richCodeTheme
  deriving DecidableEq, Repr

inductive Flag where
  | switch (s : Switch)
  | parameter (p : Parameter)
  deriving DecidableEq, Repr

def Switch.spellings : Switch → List String
  | .help => ["-h", "--help"]
  | .version => ["--version"]
  | .noConfig => ["--no-config"]
  | .strictHeadings => ["--strict-headings", "--no-strict-headings"]
  | .trace => ["--trace"]
  | .rich => ["--rich"]
  | .forceRich => ["--force-rich"]

def Parameter.spellings : Parameter → List String
  | .config => ["--config"]
  | .ns => ["--namespace"]
  | .xmlns => ["--xmlns"]
  | .childlessPolicy => ["--childless-policy"]
  | .logLevel => ["--log-level"]
  | .logFile => ["--log-file"]
  | .output => ["-o", "--output"]
  | .indent => ["--indent"]
  | .richCodeTheme => ["--rich-code-theme"]

namespace Flag

def spellings : Flag → List String
  | .switch s => s.spellings
  | .parameter p => p.spellings

def label (flag : Flag) : String := "/".intercalate flag.spellings

/-- The flags before the name of a task. -/
def ofProgram : List Flag := [.switch .help, .switch .version]

def common : List Flag :=
  [.switch .help, .parameter .config, .switch .noConfig, .parameter .ns, .parameter .xmlns,
    .parameter .childlessPolicy, .switch .strictHeadings, .parameter .logLevel,
    .parameter .logFile, .switch .trace]

def ofOutput : List Flag :=
  [.parameter .output, .parameter .indent, .switch .rich, .switch .forceRich,
    .parameter .richCodeTheme]

/-- Only a conversion has an output to speak of. -/
def ofTask : Task → List Flag
  | .convert _ => common ++ ofOutput
  | .roundTrip => common

end Flag

/-- The spellings of flags, each with its flag, in the order of the flags. -/
def spelled (flags : List Flag) : List (String × Flag) :=
  flags.flatMap fun flag => flag.spellings.map (·, flag)

def flagSpelled? (flags : List Flag) (spelling : String) : Option Flag :=
  ((spelled flags).find? fun entry => entry.1 = spelling).map Prod.snd

end SlateMark.Command
