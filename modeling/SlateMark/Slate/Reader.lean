import SlateMark.Slate.Basic
import SlateMark.Error.Parsing
import SlateMark.Log

/-!
Slate documents from JSON. A run of text may keep its text and marks itself or, in older documents,
in a list of leaves, each of which becomes a run. Marks are objects with a type or bare names; marks
the converters do not know are dropped with a warning.
-/
namespace SlateMark.Slate

abbrev Reading := Logged ParsingError

/-- The value of a field that has to be there. -/
def require (part : SlatePart) (field : String) (fields : Fields) : Reading Json :=
  match Fields.get? fields field with
  | some v => pure v
  | none => .fail (.missingField part field fields)

/-- The name of a mark, given as an object or by itself. -/
def markName? : Json → Option String
  | .str name => some name
  | .obj fields =>
    match Fields.get? fields "type" with
    | some (.str name) => some name
    | _ => none
  | _ => none

/-- Adds marks one after the other to those read before. -/
def readMarksFrom (marks : Marks) : List Json → Reading Marks
  | [] => pure marks
  | v :: rest =>
    match markName? v with
    | none => .fail (.invalidMark v)
    | some name =>
      match marks.add? name with
      | some marks => readMarksFrom marks rest
      | none => do
        .report (.markDropped name)
        readMarksFrom marks rest

/-- Nothing, or anything without content, is no marks. -/
def readMarks (v : Option Json) : Reading Marks :=
  match v with
  | none => pure .none
  | some v =>
    if v.hasContent then
      match v with
      | .arr items => readMarksFrom .none items
      | other => .fail (.marksNotAList other.typeName)
    else pure .none

/-- The text is converted before the marks are read. -/
def readRun (part : SlatePart) (fields : Fields) : Reading Node := do
  let text ← require part "text" fields
  let marks ← readMarks (Fields.get? fields "marks")
  return .text text.plainText marks

def readLeaves : List Json → Reading (List Node)
  | [] => pure []
  | .obj fields :: rest => do
    let run ← readRun .leaf fields
    let runs ← readLeaves rest
    return run :: runs
  | v :: _ => .fail (.leafNotAnObject v)

/-- The runs of a text object. Leaves without content are one empty run. -/
def readText (fields : Fields) : Reading (List Node) :=
  match Fields.get? fields "leaves" with
  | none => do return [← readRun .textNode fields]
  | some leaves =>
    if leaves.hasContent then
      match leaves with
      | .arr items => readLeaves items
      | other => .fail (.leavesNotAList other.typeName)
    else pure [.text "" .none]

/-- The reference among the data of an element. -/
def hrefOf (fields : Fields) : Json :=
  match Fields.get? fields "data" with
  | some (.obj data) => (Fields.get? data "href").getD .null
  | _ => .null

/-- The node or nodes of an object, given the outcome of reading its children; a text object may
hold any number of runs. -/
def readObject (fields : Fields) (children : Reading (Option (List Node))) :
    Reading (List Node) := do
  let object ← require .node "object" fields
  match object with
  | .str "text" => readText fields
  | .str "block" => element
  | .str "inline" => element
  | other => .fail (.unexpectedObject other)
where
  element : Reading (List Node) := do
    let type ← require .element "type" fields
    let nodes ← children
    return [.element type.plainText nodes (hrefOf fields)]

mutual
def readNode : Json → Reading (List Node)
  | .obj fields => readObject fields (readChildrenOf fields)
  | v => .fail (.nodeNotAnObject v)

/-- The children among the members of an element; null declares none. -/
def readChildrenOf : List (String × Json) → Reading (Option (List Node))
  | [] => pure none
  | (name, v) :: rest =>
    if name = "nodes" then
      match v with
      | .null => pure none
      | .arr items => some <$> readNodes items
      | other => .fail (.nodesNotAList other.typeName)
    else readChildrenOf rest

def readNodes : List Json → Reading (List Node)
  | [] => pure []
  | v :: rest => do
    let nodes ← readNode v
    let more ← readNodes rest
    return nodes ++ more
end

/-- The fields of the document in a value, or of the document itself. A value says that it is one,
or has a document and no nodes. -/
def documentFields (fields : Fields) : Reading Fields := do
  let isValue := match Fields.get? fields "object" with
    | some (.str "value") => true
    | _ => Fields.has fields "document" && !Fields.has fields "nodes"
  if isValue then
    match ← require .value "document" fields with
    | .obj inner => pure inner
    | _ => .fail .documentNotAnObject
  else pure fields

/-- Nodes without content are no nodes. -/
def readTopNodes (fields : Fields) : Reading (List Node) :=
  match Fields.get? fields "nodes" with
  | none => pure []
  | some nodes =>
    if nodes.hasContent then
      match nodes with
      | .arr items => readNodes items
      | other => .fail (.nodesNotAList other.typeName)
    else pure []

def readDocument (v : Json) : Reading Node :=
  match v with
  | .obj fields => do
    let fields ← documentFields fields
    match Fields.get? fields "object" with
    | none => return .document (← readTopNodes fields)
    | some (.str "document") => return .document (← readTopNodes fields)
    | some other => .fail (.notADocument other)
  | other => .fail (.valueNotAnObject other.typeName)

def readDocumentText (text : String) : Reading Node :=
  match Json.parse text with
  | .error e => .fail (.invalidJson .slate e)
  | .ok v => readDocument v

end SlateMark.Slate
