import SlateMark.CommonMark.Raw
import SlateMark.Text.Digit

/-!
Reading raw trees. Every node has to have a class of the vocabulary in the given namespace, no
attribute that its tag does not declare, and attributes of the right types. Levels and truth values
may come as text, which is how some writers store them. An error tells the place of the first node
at fault, in the order of the tree.
-/
namespace SlateMark.CommonMark

/-- What is left of a text behind a given start. -/
def afterStart? (start s : String) : Option String :=
  if start.toList.isPrefixOf s.toList then some (String.ofList (s.toList.drop start.toList.length))
  else none

/-- Names that are neither the class nor declared for the tag, in ascending order. -/
def undeclaredNames (tag : Tag) (fields : Fields) : List String :=
  ((Fields.names fields).filter fun name =>
    name ≠ classKey && !tag.attributes.contains name).mergeSort (· ≤ ·)

/-- The tag of a raw node; its class is checked before its attributes' names. -/
def readTag (ns : String) (fields : Fields) : Except SchemaFault Tag :=
  match Fields.get? fields classKey with
  | some (.str className) =>
    if className = "" then .error .missingClass
    else
      match afterStart? (ns ++ ".") className with
      | none => .error (.foreignClass className ns)
      | some name =>
        match Tag.ofName? name with
        | none => .error (.unknownClass className)
        | some tag =>
          match undeclaredNames tag fields with
          | [] => .ok tag
          | first :: more => .error (.undeclared tag first more)
  | _ => .error .missingClass

def readString? (key : String) (fields : Fields) : Except SchemaFault (Option String) :=
  match Fields.get? fields key with
  | none => .ok none
  | some (.str s) => .ok (some s)
  | some other => .error (.notAString key other.typeName)

def readString (key : String) (fields : Fields) : Except SchemaFault String :=
  match readString? key fields with
  | .error fault => .error fault
  | .ok none => .error (.missing key)
  | .ok (some s) => .ok s

def checkLevel (level : Int) : Except SchemaFault Int :=
  if minHeadingLevel ≤ level ∧ level ≤ maxHeadingLevel then .ok level
  else .error (.levelOutOfRange level)

def readLevel (fields : Fields) : Except SchemaFault Int :=
  match Fields.get? fields "level" with
  | none => .error (.missing "level")
  | some (.int level) => checkLevel level
  | some (.str s) =>
    match Text.strippedNumeral? s with
    | some level =>
      let digits := (Text.strip s.toList).length
      if digits ≤ maxNumeralDigits then checkLevel level else .error (.numeralTooLong digits)
    | none => .error (.levelNotAnInteger "str")
  | some other => .error (.levelNotAnInteger other.typeName)

/-- Truth values written out; no letter outside ASCII is a capital of one of theirs. -/
def truthValue? (s : String) : Option Bool :=
  let lower := s.toList.map Char.toLower
  if lower = ['t', 'r', 'u', 'e'] then some true
  else if lower = ['f', 'a', 'l', 's', 'e'] then some false
  else none

/-- Lists are tight unless they say otherwise. -/
def readTight (fields : Fields) : Except SchemaFault Bool :=
  match Fields.get? fields "tight" with
  | none => .ok true
  | some (.bool tight) => .ok tight
  | some (.str s) =>
    match truthValue? s with
    | some tight => .ok tight
    | none => .error (.tightNotABoolean (.str s))
  | some other => .error (.tightNotABoolean other)

def readListType (fields : Fields) : Except SchemaFault String :=
  match readString "type" fields with
  | .error fault => .error fault
  | .ok type => if listTypes.contains type then .ok type else .error (.unknownListType type)

/-- A fault of the node itself. -/
def atNode (fields : Fields) (result : Except SchemaFault α) : Except SchemaError α :=
  result.mapError fun fault => ⟨fault, [], .json (.obj fields)⟩

/-- A node from its tag, its attributes and the outcome of reading its children, which are `none`
when there is no list of them. The attributes are checked in a fixed order for each tag. -/
def build (tag : Tag) (fields : Fields) (children : Except SchemaError (Option (List Node))) :
    Except SchemaError Node :=
  match tag with
  | .document => do
    match ← children with
    | none => atNode fields (.error (.missing "nodes"))
    | some nodes => return .document nodes (← atNode fields (readString "xmlns" fields))
  | .paragraph => return .paragraph ((← children).getD [])
  | .blockQuote => return .blockQuote (← children)
  | .thematicBreak => return .thematicBreak
  | .heading => do
    let level ← atNode fields (readLevel fields)
    let s ← atNode fields (readString? "text" fields)
    return .heading level (s.getD "")
  | .codeBlock => return .codeBlock (← atNode fields (readString? "text" fields))
  | .htmlBlock => return .htmlBlock (← atNode fields (readString? "text" fields))
  | .htmlInline => return .htmlInline (← atNode fields (readString? "text" fields))
  | .list => do
    let type ← atNode fields (readListType fields)
    let tight ← atNode fields (readTight fields)
    return .list type tight ((← children).getD [])
  | .item => return .item ((← children).getD [])
  | .link => do
    let destination ← atNode fields (readString "destination" fields)
    let title ← atNode fields (readString "title" fields)
    return .link destination title ((← children).getD [])
  | .text => return .text (← atNode fields (readString "text" fields))
  | .code => return .code (← atNode fields (readString "text" fields))
  | .strong => return .strong ((← children).getD [])
  | .emph => return .emph ((← children).getD [])

namespace Node

mutual
def ofRaw (ns : String) : Json → Except SchemaError Node
  | .obj fields =>
    match readTag ns fields with
    | .error fault => atNode fields (.error fault)
    | .ok tag => build tag fields (childrenOfFields ns fields fields)
  | v => .error ⟨.notAnObject v.typeName, [], .json v⟩

/-- The children among the members of a raw node, of which `owner` holds all. -/
def childrenOfFields (ns : String) (owner : Fields) :
    List (String × Json) → Except SchemaError (Option (List Node))
  | [] => .ok none
  | (name, v) :: rest =>
    if name = "nodes" then childrenOfValue ns owner v else childrenOfFields ns owner rest

/-- Null is no list of children; anything else but a list is an error. -/
def childrenOfValue (ns : String) (owner : Fields) :
    Json → Except SchemaError (Option (List Node))
  | .null => .ok none
  | .arr items =>
    match ofRawFrom ns 0 items with
    | .error e => .error e
    | .ok nodes => .ok (some nodes)
  | v => .error ⟨.nodesNotAList v.typeName, [], .json (.obj owner)⟩

/-- Children from an index on. -/
def ofRawFrom (ns : String) (index : Nat) : List Json → Except SchemaError (List Node)
  | [] => .ok []
  | v :: rest =>
    match ofRaw ns v with
    | .error e => .error (e.under index)
    | .ok n =>
      match ofRawFrom ns (index + 1) rest with
      | .error e => .error e
      | .ok nodes => .ok (n :: nodes)
end

/-- Like `ofRaw` for a tree whose root has to be a document. -/
def documentOfRaw (ns : String) (v : Json) : Except SchemaError Node :=
  match ofRaw ns v with
  | .error e => .error e
  | .ok (.document nodes xmlns) => .ok (.document nodes xmlns)
  | .ok other => .error ⟨.rootNotADocument other.tag, [], .json v⟩

end Node

end SlateMark.CommonMark
