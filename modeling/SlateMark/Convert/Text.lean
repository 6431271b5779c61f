import SlateMark.Convert.RoundTrip
import SlateMark.Slate.Reader

/-!
Conversion of whole texts: JSON of the one kind of document in, JSON of the other out.
-/
namespace SlateMark

inductive Direction where
  | toCommonMark
  | toSlate
  deriving DecidableEq, Repr

def Direction.name : Direction → String
  | .toCommonMark => "to-commonmark"
  | .toSlate => "to-slate"

def Direction.all : List Direction := [.toCommonMark, .toSlate]

def Direction.ofName (s : String) : Except Error Direction :=
  match all.find? fun direction => direction.name = s with
  | some direction => .ok direction
  | none => .error (.unknownDirection s)

def readJsonText (format : DocumentFormat) (text : String) : Run Json :=
  match Json.parse text with
  | .ok v => pure v
  | .error e => .fail (.parsing (.invalidJson format e))

/-- Slate JSON to the JSON of the raw tree; the census of the tree is reported. -/
def slateTextToCommonMark (o : Options) (indent : Option Int) (text : String) : Run String := do
  let document ← (Slate.readDocumentText text).mapError .parsing
  let tree ← slateToCommonMark o document
  .report (.treeProduced tree.census)
  return Json.documentText indent (tree.toRaw o.ns)

/-- The JSON of a raw tree to Slate JSON. -/
def commonMarkTextToSlate (o : Options) (indent : Option Int) (text : String) : Run String := do
  let raw ← readJsonText .commonMark text
  let document ← fragmentToSlate o (.json raw)
  .ofExcept ((document.documentText true indent).mapError .encoding)

def convertText (direction : Direction) (o : Options) (indent : Option Int) (text : String) :
    Run String :=
  match direction with
  | .toCommonMark => slateTextToCommonMark o indent text
  | .toSlate => commonMarkTextToSlate o indent text

end SlateMark
