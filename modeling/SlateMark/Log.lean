import SlateMark.CommonMark.Walk
import SlateMark.Json.Display

/-!
What a run reports while it works. A `Logged` computation yields the events it reported, in order,
and then its result or its error; an error keeps the events reported before it.
-/
namespace SlateMark

inductive Level where
  | debug
  | info
  | warning
  | error
  | critical
  deriving DecidableEq, Repr

namespace Level

def name : Level → String
  | .debug => "DEBUG"
  | .info => "INFO"
  | .warning => "WARNING"
  | .error => "ERROR"
  | .critical => "CRITICAL"

def severity : Level → Nat
  | .debug => 10
  | .info => 20
  | .warning => 30
  | .error => 40
  | .critical => 50

def all : List Level := [.debug, .info, .warning, .error, .critical]

def ofName? (s : String) : Option Level := all.find? fun level => level.name = s

end Level

inductive Event where
  | markDropped (mark : String)
  | slateConversion (count : Nat)
  | childrenDropped (count : Nat) (type : String) (target : CommonMark.Tag)
  | headingShortened (type : String) (count : Nat)
  | commonMarkConversion (count : Nat)
  | titleDiscarded (title : String)
  | roundTripChanged
  | treeProduced (census : CommonMark.Census)
  | outputWritten (path : String)
  | failed (message : String)
  | fileFailed (message : String)
  | logFileOpened (path : String)
  | logFileRefused (path : String) (reason : String)
  deriving DecidableEq, Repr

namespace Event

def level : Event → Level
  | .markDropped _ => .warning
  | .slateConversion _ => .debug
  | .childrenDropped _ _ _ => .warning
  | .headingShortened _ _ => .debug
  | .commonMarkConversion _ => .debug
  | .titleDiscarded _ => .debug
  | .roundTripChanged => .info
  | .treeProduced _ => .debug
  | .outputWritten _ => .info
  | .failed _ => .error
  | .fileFailed _ => .error
  | .logFileOpened _ => .info
  | .logFileRefused _ _ => .warning

/-- The name of the part of the program that reports the event. -/
def source : Event → String
  | .markDropped _ => "slate2cm.slate.serialization"
  | .slateConversion _ => "slate2cm.converters.slate2ast"
  | .childrenDropped _ _ _ => "slate2cm.converters.slate2ast"
  | .headingShortened _ _ => "slate2cm.converters.slate2ast"
  | .commonMarkConversion _ => "slate2cm.converters.ast2slate"
  | .titleDiscarded _ => "slate2cm.converters.ast2slate"
  | .roundTripChanged => "slate2cm.api"
  | .treeProduced _ => "slate2cm.api"
  | .outputWritten _ => "slate2cm.cli"
  | .failed _ => "slate2cm.cli"
  | .fileFailed _ => "slate2cm.cli"
  | .logFileOpened _ => "root"
  | .logFileRefused _ _ => "root"

def censusText (census : CommonMark.Census) : String :=
  "\x7b" ++ ", ".intercalate
    (census.map fun (tag, count) => Text.quoted tag.name ++ ": " ++ toString count) ++ "\x7d"

def message : Event → String
  | .markDropped mark => s!"Dropping unsupported mark type '{mark}'"
  | .slateConversion count => s!"Converting Slate document with {count} top-level node(s)"
  | .childrenDropped count type target =>
    s!"Dropping {count} child node(s) of '{type}': {target.name} has no children slot"
  | .headingShortened type count => s!"'{type}' has {count} children; only the first is kept"
  | .commonMarkConversion count =>
    s!"Converting CommonMark document with {count} top-level node(s)"
  | .titleDiscarded title =>
    s!"Discarding link title {Text.quoted title}: Slate links have no title"
  | .roundTripChanged => "Round trip changed the document"
  | .treeProduced census => s!"Produced CommonMark AST: {censusText census}"
  | .outputWritten path => s!"Wrote {path}"
  | .failed message => message
  | .fileFailed message => s!"File error: {message}"
  | .logFileOpened path => s!"Logging to file: {path}"
  | .logFileRefused path reason => s!"Could not open log file {path}: {reason}"

def line (event : Event) : String := event.level.name ++ ": " ++ event.message

end Event

structure Logged (ε α : Type) where
  events : List Event
  result : Except ε α

namespace Logged

def report (event : Event) : Logged ε Unit := ⟨[event], .ok ()⟩

def fail (e : ε) : Logged ε α := ⟨[], .error e⟩

def ofExcept (result : Except ε α) : Logged ε α := ⟨[], result⟩

def mapError (f : ε → δ) (run : Logged ε α) : Logged δ α := ⟨run.events, run.result.mapError f⟩

/-- The second run follows only if the first succeeds. -/
def andThen (run : Logged ε α) (next : α → Logged ε β) : Logged ε β :=
  match run with
  | ⟨events, .error e⟩ => ⟨events, .error e⟩
  | ⟨events, .ok a⟩ => ⟨events ++ (next a).events, (next a).result⟩

instance : Monad (Logged ε) where
  pure a := ⟨[], .ok a⟩
  bind := andThen

@[simp] theorem pure_def (a : α) : (pure a : Logged ε α) = ⟨[], .ok a⟩ := rfl

@[simp] theorem ok_bind (events : List Event) (a : α) (next : α → Logged ε β) :
    ((⟨events, .ok a⟩ : Logged ε α) >>= next) =
      ⟨events ++ (next a).events, (next a).result⟩ := rfl

@[simp] theorem error_bind (events : List Event) (e : ε) (next : α → Logged ε β) :
    ((⟨events, .error e⟩ : Logged ε α) >>= next) = ⟨events, .error e⟩ := rfl

theorem id_map (run : Logged ε α) : id <$> run = run := by
  rcases run with ⟨events, _ | a⟩
  · rfl
  · simp [Functor.map, andThen]

theorem bind_assoc (run : Logged ε α) (f : α → Logged ε β) (g : β → Logged ε γ) :
    run >>= f >>= g = run >>= fun a => f a >>= g := by
  rcases run with ⟨events, _ | a⟩
  · rfl
  · rcases h : f a with ⟨more, _ | b⟩ <;> simp [h, List.append_assoc]

instance : LawfulMonad (Logged ε) :=
  LawfulMonad.mk' (Logged ε) id_map (by simp) bind_assoc

end Logged

end SlateMark
