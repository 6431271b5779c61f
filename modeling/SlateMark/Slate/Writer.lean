import SlateMark.Slate.Basic
import SlateMark.Json.Printer

/-!
Slate documents as JSON, in the encoding of Slate 0.47: text and marks stand on the text node
itself. The document may be wrapped in a value, as the editor does. A document inside a document has
no encoding.
-/
namespace SlateMark.Slate

/-- Why a tree has no encoding: it lacks a part that the encoding reads. -/
inductive EncodingError where
  | nestedDocument
  | textAtRoot
  | rootWithoutChildren
  deriving DecidableEq, Repr

def EncodingError.message : EncodingError → String
  | .nestedDocument => "'SlateDocument' object has no attribute 'type'"
  | .textAtRoot => "'SlateText' object has no attribute 'nodes'"
  | .rootWithoutChildren => "'NoneType' object is not iterable"

def markJson (name : String) : Json :=
  .obj [("object", .str "mark"), ("type", .str name), ("data", .obj [])]

/-- A reference is data of the element. -/
def dataOf (href : Json) : Json := .obj (if href.isNull then [] else [("href", href)])

namespace Node

mutual
def toJson : Node → Except EncodingError Json
  | .text s marks =>
    .ok (.obj
      [("object", .str "text"), ("text", .str s), ("marks", .arr (marks.names.map markJson))])
  | .element type none href =>
    .ok (.obj
      [("object", .str (element type none href).object), ("type", .str type),
        ("data", dataOf href)])
  | .element type (some nodes) href =>
    match toJsonAll nodes with
    | .error e => .error e
    | .ok items =>
      .ok (.obj
        [("object", .str (element type none href).object), ("type", .str type),
          ("data", dataOf href), ("nodes", .arr items)])
  | .document _ => .error .nestedDocument

def toJsonAll : List Node → Except EncodingError (List Json)
  | [] => .ok []
  | n :: rest =>
    match n.toJson with
    | .error e => .error e
    | .ok v =>
      match toJsonAll rest with
      | .error e => .error e
      | .ok items => .ok (v :: items)
end

/-- The nodes at the top of a tree; an element may stand for a document. -/
def topNodes : Node → Except EncodingError (List Node)
  | .document nodes => .ok nodes
  | .element _ (some nodes) _ => .ok nodes
  | .element _ none _ => .error .rootWithoutChildren
  | .text _ _ => .error .textAtRoot

def documentJson (asValue : Bool) (root : Node) : Except EncodingError Json :=
  match root.topNodes with
  | .error e => .error e
  | .ok nodes =>
    match toJsonAll nodes with
    | .error e => .error e
    | .ok items =>
      let document : Json :=
        .obj [("object", .str "document"), ("data", .obj []), ("nodes", .arr items)]
      .ok (if asValue then .obj [("object", .str "value"), ("document", document)] else document)

def documentText (asValue : Bool) (indent : Option Int) (root : Node) :
    Except EncodingError String :=
  (root.documentJson asValue).map (Json.documentText indent)

end Node

end SlateMark.Slate
