import SlateMark.Convert.Mapping
import SlateMark.Convert.Marks
import SlateMark.Log
import SlateMark.Options

/-!
From the editor's tree to a raw CommonMark tree. A node is judged before its children: its type has
to be in the table, a heading needs its text, a link its reference, and children are refused or
dropped where the target has no place for them. The first node at fault ends the conversion.
-/
namespace SlateMark

abbrev Conversion := Logged ConversionError

/-- The parent with more children at the end; it has to be an object with a list of children. -/
def attachChildren (parent : Fields) (children : List Json) : Except ConversionError Json :=
  match Fields.get? parent "nodes" with
  | some (.arr nodes) => .ok (.obj (Fields.set "nodes" (.arr (nodes ++ children)) parent))
  | _ => .error ⟨.invalidParent, .json (.obj parent)⟩

namespace Slate.Node

def malformed (n : Node) (cause : MalformedCause) : ConversionError :=
  ⟨.malformed cause, .slate n⟩

def unrecognized (n : Node) : ConversionError := ⟨.unrecognized .unknownKind, .slate n⟩

/-- The text of a heading is that of its first child. Strictly, this child is alone and bare. -/
def headingText (o : Options) (n : Node) (type : String) : List Node → Conversion String
  | .text s marks :: rest =>
    if o.strictHeadings then
      if rest.isEmpty then
        if marks.isEmpty then pure s else .fail (n.malformed (.headingWithMarks type))
      else .fail (n.malformed (.headingWithSiblings type))
    else if rest.isEmpty then pure s
    else do
      .report (.headingShortened type (rest.length + 1))
      return s
  | _ => .fail (n.malformed (.headingWithoutText type))

/-- The attributes of the target, the reference first. -/
def targetAttributes (m : Mapping) (n : Node) (type : String) (href : Json) :
    Except ConversionError Fields :=
  if m.copiesHref then
    if href.isNull then .error (n.malformed (.missingHref type))
    else .ok (("destination", href) :: m.attributes)
  else .ok m.attributes

def rawFields (ns : String) (tag : CommonMark.Tag) (attributes : Fields) : Fields :=
  (classKey, .str (tag.className ns)) :: attributes

/-- The target around its children, which a seeded paragraph may take instead of the target. -/
def assemble (ns : String) (m : Mapping) (attributes : Fields) (children : List Json) :
    Except ConversionError Json :=
  if m.seedsParagraph then
    match attachChildren (rawFields ns .paragraph [("nodes", .arr [])]) children with
    | .error e => .error e
    | .ok paragraph => .ok (CommonMark.rawNode ns m.target
        (attributes ++ [("nodes", .arr [paragraph])]))
  else attachChildren (rawFields ns m.target (attributes ++ [("nodes", .arr [])])) children

/-- An element, given the outcome of converting the children it declares. -/
def elementToRaw (o : Options) (type : String) (nodes : Option (List Node)) (href : Json)
    (children : Conversion (List Json)) : Conversion Json :=
  let n := element type nodes href
  match Mapping.ofType? type with
  | none => .fail n.unrecognized
  | some m =>
    match m.headingLevel with
    | some level => do
      let s ← headingText o n type (nodes.getD [])
      return CommonMark.rawNode o.ns m.target [("level", .int level), ("text", .str s)]
    | none => do
      let attributes ← .ofExcept (targetAttributes m n type href)
      if m.hasChildrenSlot then
        let items ← children
        .ofExcept (assemble o.ns m attributes items)
      else
        match nodes, o.childlessPolicy with
        | some _, .error => .fail ⟨.missingChildrenSlot m.target.name, .slate n⟩
        | some dropped, .drop => do
          .report (.childrenDropped dropped.length type m.target)
          return CommonMark.rawNode o.ns m.target attributes
        | none, _ => return CommonMark.rawNode o.ns m.target attributes

mutual
def toRaw (o : Options) : Node → Conversion Json
  | .text s marks => pure (SlateMark.rawRun o.ns s marks)
  | .element type none href => elementToRaw o type none href (pure [])
  | .element type (some nodes) href =>
    elementToRaw o type (some nodes) href (toRawAll o nodes)
  | .document nodes => .fail (document nodes).unrecognized

def toRawAll (o : Options) : List Node → Conversion (List Json)
  | [] => pure []
  | n :: rest => do
    let v ← n.toRaw o
    let items ← toRawAll o rest
    return v :: items
end

/-- The raw tree of a document. -/
def documentToRaw (o : Options) : Node → Conversion Json
  | .document nodes => do
    .report (.slateConversion nodes.length)
    let items ← toRawAll o nodes
    .ofExcept (attachChildren
      (rawFields o.ns .document [("xmlns", .str o.xmlns), ("nodes", .arr [])]) items)
  | n => .fail ⟨.unrecognized .notDocument, .slate n⟩

end Slate.Node

end SlateMark
