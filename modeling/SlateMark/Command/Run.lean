import SlateMark.Command.Journal
import SlateMark.Config.Search
import SlateMark.Json.Surrogate

/-!
A command as a function of its surroundings. The stages are the options, the input, the conversion
and the output, in this order, and the first that fails decides the exit code. Nothing is written
before the conversion has succeeded, so a failure leaves the output as it was.
-/
namespace SlateMark.Command

open Files (Path Tree)

/-- What a command finds: besides the surroundings of its configuration the standard input, unless
that is no text, and the time. -/
structure World extends Config.Surroundings where
  standardInput : Except Text.Utf8Error String
  stamp : String

/-- What a command leaves behind. An error that is no fault of the user's ends it without a code. -/
structure Outcome where
  result : Except Error ExitCode
  output : String
  errors : String
  files : Tree

/-! Options. -/

/-- The settings that flags give. -/
def Flags.settings (flags : Flags) : Named Value :=
  let entry (setting : Setting) (value? : Option Value) : Named Value :=
    (value?.map fun value => (setting.name, value)).toList
  entry .ns (flags.ns.map .str) ++ entry .xmlns (flags.xmlns.map .str) ++
    entry .childlessPolicy (flags.childlessPolicy.map fun policy => .str policy.name) ++
    entry .strictHeadings (flags.strictHeadings.map .bool)

def Flags.configuration (flags : Flags) (s : Config.Surroundings) : Except Error Entries :=
  if flags.noConfig then .ok [] else Config.resolve s flags.config true

/-- What a configuration says, under keys without dashes, and what the flags say in its place. -/
def Flags.merge (flags : Flags) (configuration : Entries) : Named Value :=
  flags.settings.foldl (fun values entry => Fields.set entry.1 entry.2 values)
    (Fields.ofList (configuration.byText.map fun entry => (Options.underscored entry.1, entry.2)))

def Flags.optionsFrom (flags : Flags) (configuration : Entries) : Except Error Options :=
  (Options.ofMapping (flags.merge configuration)).mapError fun e => .validation (.invalidOptions e)

def Flags.options (flags : Flags) (s : Config.Surroundings) : Except Error Options :=
  match flags.configuration s with
  | .error e => .error e
  | .ok configuration => flags.optionsFrom configuration

/-! Input. -/

def decodeInput (content : List UInt8) : Except Error String :=
  match Text.decodeUtf8 content with
  | .error e => .error (.parsing (.undecodable e))
  | .ok text => .ok (String.ofList (Text.unifyNewlines text))

/-- The text of the input; a lone dash stands for the standard input. -/
def readInput (w : World) (source : String) : Except Error String :=
  if source = "-" then w.standardInput.mapError fun e => .parsing (.undecodable e)
  else
    let path := Path.parse source
    match w.files.read w.cwd path with
    | .error problem => .error (.file (problem.message path.text))
    | .ok content => decodeInput content

/-! Conversion. -/

/-- What a task yields: the text of the other kind of document, which cannot be encoded if it holds
an unpaired surrogate, or whether the document survives. -/
inductive Product where
  | text (s : String) (encodable : Bool)
  | verdict (survives : Bool)
  deriving DecidableEq, Repr

/-- A negative indent asks for a single line. -/
def Output.indent? (o : Output) : Option Int := if 0 ≤ o.indent then some o.indent else none

/-- What a text is converted to holds an unpaired surrogate if another character in its place would
make a difference. -/
def isEncodable (direction : Direction) (o : Options) (indent : Option Int) (text s : String) :
    Bool :=
  (convertText direction o indent (Json.otherStandIn text)).result.toOption = some s

def convertInput (a : Arguments) (o : Options) (text : String) : Run Product :=
  match a.task with
  | .convert direction => do
    let s ← convertText direction o a.output.indent? text
    return .text s (isEncodable direction o a.output.indent? text s)
  | .roundTrip => do
    let document ← (Slate.readDocumentText text).mapError .parsing
    .verdict <$> verifyRoundTrip o document

def produce (w : World) (a : Arguments) : Run Product := do
  let o ← .ofExcept (a.options w.toSurroundings)
  let text ← .ofExcept (readInput w a.input)
  convertInput a o text

/-! Output. -/

namespace Journal

def finish (j : Journal) (code : ExitCode) (output : String) : Outcome :=
  ⟨.ok code, output, j.text, j.files⟩

/-- Errors of the family and errors of files are reported; others end the command unreported. -/
def abandon (j : Journal) (e : Error) : Outcome :=
  match e with
  | .file message => (j.note (.fileFailed message)).finish e.exitCode ""
  | _ =>
    match e.kind? with
    | some _ => (j.note (.failed e.message)).finish e.exitCode ""
    | none => ⟨.error e, "", j.text, j.files⟩

/-- An empty path for the output is as good as none. A file is opened, and made empty, before it
turns out that the text cannot be encoded. -/
def deliverText (j : Journal) (cwd : List String) (target : Option String) (text : String)
    (encodable : Bool) : Outcome :=
  match target.filter (· ≠ "") with
  | none => if encodable then j.finish .success text else j.abandon .unencodable
  | some name =>
    let path := Path.parse name
    match j.files.write cwd path (if encodable then Text.encodeUtf8 text else []) with
    | .error problem => j.abandon (.file (problem.message path.text))
    | .ok files =>
      let j := { j with files := files }
      if encodable then (j.note (.outputWritten name)).finish .success ""
      else j.abandon .unencodable

def deliver (j : Journal) (cwd : List String) (target : Option String) : Product → Outcome
  | .text s encodable => j.deliverText cwd target (s ++ "\n") encodable
  | .verdict true => j.finish .success "Round trip OK\n"
  | .verdict false => { j with text := j.text ++ "Round trip mismatch\n" }.finish .mismatch ""

end Journal

def run (w : World) (a : Arguments) : Outcome :=
  let j := Journal.start a w.stamp w.files w.cwd
  let produced := produce { w with files := j.files } a
  let j := j.noteAll produced.events
  match produced.result with
  | .error e => j.abandon e
  | .ok product => j.deliver w.cwd a.output.path product

end SlateMark.Command
