import SlateMark.Convert.Mapping
import SlateMark.Convert.Marks
import SlateMark.Log

/-!
From a CommonMark tree back to the editor's tree. Only shapes that a Slate document is converted to
are accepted; the title of a link is the one thing lost.
-/
namespace SlateMark.CommonMark.Node

open Slate (Marks)

abbrev Reversal := Logged ConversionError

/-- The element type of a node by the table. -/
def sourceType (n : Node) (hasChildrenSlot : Bool) : Reversal String :=
  match Mapping.sourceType? n.tag hasChildrenSlot with
  | some type => pure type
  | none => .fail ⟨.unrecognized .unknownKind, .commonMark n⟩

/-- An element whose type depends on the tag alone, around the children to be converted. -/
def container (n : Node) (href : Json) (children : Reversal (List Slate.Node)) :
    Reversal Slate.Node := do
  let type ← n.sourceType true
  let nodes ← children
  return .element type (some nodes) href

/-- An element without a place for children. -/
def bare (n : Node) : Reversal Slate.Node := do
  return .element (← n.sourceType false) none .null

/-- The editor keeps no text in these elements. -/
def leaf (n : Node) (text : Option String) : Reversal Slate.Node :=
  match text with
  | some _ => .fail (n.unsupported (.leafWithText n.tag))
  | none => n.bare

def headingToSlate (n : Node) (level : Int) (s : String) : Reversal Slate.Node :=
  match Mapping.headingType? level with
  | some type => pure (.element type (some [.text s .none]) .null)
  | none => .fail (n.unsupported (.headingLevel level))

def isItem : Node → Bool
  | .item _ => true
  | _ => false

/-- The element type of a list; it has to be tight and to hold nothing but items. -/
def listSourceType (n : Node) (type : String) (tight : Bool) (nodes : List Node) :
    Reversal String :=
  if tight then
    match Mapping.listType? type with
    | none => .fail (n.unsupported (.listType type))
    | some source =>
      match nodes.find? (!·.isItem) with
      | some child => .fail (n.unsupported (.listChild child.tag))
      | none => pure source
  else .fail (n.unsupported .looseList)

def inlineToSlate (n : Node) : Reversal Slate.Node :=
  .ofExcept (n.collapse.map fun run => .text run.1 run.2)

def reportTitle (title : String) : Reversal Unit :=
  if title = "" then pure () else .report (.titleDiscarded title)

mutual
def toSlate : Node → Reversal Slate.Node
  | .document nodes _ => do
    .report (.commonMarkConversion nodes.length)
    return .document (← toSlateAll nodes)
  | .paragraph nodes => container (paragraph nodes) .null (toSlateAll nodes)
  | .blockQuote none => bare (blockQuote none)
  | .blockQuote (some nodes) => container (blockQuote (some nodes)) .null (toSlateAll nodes)
  | .thematicBreak => leaf thematicBreak none
  | .heading level s => headingToSlate (heading level s) level s
  | .codeBlock s => leaf (codeBlock s) s
  | .htmlBlock s => leaf (htmlBlock s) s
  | .htmlInline s => leaf (htmlInline s) s
  | .list type tight nodes => do
    let source ← listSourceType (list type tight nodes) type tight nodes
    return .element source (some (← toSlateAll nodes)) .null
  | .item [.paragraph nodes] => container (item [paragraph nodes]) .null (toSlateAll nodes)
  | .item nodes => .fail ((item nodes).unsupported .itemShape)
  | .link destination title nodes => do
    reportTitle title
    container (link destination title nodes) (.str destination) (toSlateAll nodes)
  | .text s => inlineToSlate (text s)
  | .code s => inlineToSlate (code s)
  | .strong nodes => inlineToSlate (strong nodes)
  | .emph nodes => inlineToSlate (emph nodes)

def toSlateAll : List Node → Reversal (List Slate.Node)
  | [] => pure []
  | n :: rest => do
    let node ← n.toSlate
    let nodes ← toSlateAll rest
    return node :: nodes
end

/-- The Slate document of a CommonMark document; no other node is taken at the root. -/
def documentToSlate : Node → Reversal Slate.Node
  | .document nodes xmlns => toSlate (document nodes xmlns)
  | n => .fail (n.unsupported .rootNotDocument)

end SlateMark.CommonMark.Node
