import SlateMark.Error.Fragment

/-!
Why a raw tree is no CommonMark tree. The error leads from the root to the node at fault, which it
keeps, and names the attribute concerned if there is one.
-/
namespace SlateMark

/-- The attribute that holds the class of a raw node. -/
def classKey : String := "$class"

inductive SchemaFault where
  | notAnObject (found : String)
  | missingClass
  | foreignClass (className : String) (ns : String)
  | unknownClass (className : String)
  | undeclared (tag : CommonMark.Tag) (first : String) (more : List String)
  | missing (key : String)
  | notAString (key : String) (found : String)
  | nodesNotAList (found : String)
  | levelNotAnInteger (found : String)
  | levelOutOfRange (level : Int)
  | numeralTooLong (digits : Nat)
  | unknownListType (type : String)
  | tightNotABoolean (found : Json)
  | rootNotADocument (tag : CommonMark.Tag)

/-- `path` holds the index taken among the children at each step down from the root. -/
structure SchemaError where
  fault : SchemaFault
  path : List Nat
  fragment : Fragment

/-- A longer numeral is not turned into a number; the reading is broken off there. -/
def maxNumeralDigits : Nat := 4300

def numeralTooLongMessage (digits : Nat) : String :=
  s!"Exceeds the limit ({maxNumeralDigits} digits) for integer string conversion: " ++
    s!"value has {digits} digits; use sys.set_int_max_str_digits() to increase the limit"

def minHeadingLevel : Int := 1

def maxHeadingLevel : Int := 6

def listTypes : List String := ["ordered", "bullet"]

namespace SchemaFault

/-- The attribute the fault concerns. -/
def key? : SchemaFault → Option String
  | .notAnObject _ => none
  | .missingClass => some classKey
  | .foreignClass _ _ => some classKey
  | .unknownClass _ => some classKey
  | .undeclared _ first _ => some first
  | .missing key => some key
  | .notAString key _ => some key
  | .nodesNotAList _ => some "nodes"
  | .levelNotAnInteger _ => some "level"
  | .levelOutOfRange _ => some "level"
  | .numeralTooLong _ => none
  | .unknownListType _ => some "type"
  | .tightNotABoolean _ => some "tight"
  | .rootNotADocument _ => none

def message : SchemaFault → String
  | .notAnObject found => s!"Expected a node object, got {found}"
  | .missingClass => s!"Node is missing '{classKey}'"
  | .foreignClass className ns => s!"Class '{className}' is not in namespace '{ns}'"
  | .unknownClass className => s!"Unknown node class '{className}'"
  | .undeclared tag first more =>
    s!"{tag.name} does not declare attribute(s) " ++ ", ".intercalate (first :: more)
  | .missing key => s!"Missing required attribute '{key}'"
  | .notAString key found => s!"Attribute '{key}' must be a string, got {found}"
  | .nodesNotAList found => s!"Attribute 'nodes' must be a list, got {found}"
  | .levelNotAnInteger found => s!"Heading level must be an integer, got {found}"
  | .levelOutOfRange level =>
    s!"Heading level must be between {minHeadingLevel} and {maxHeadingLevel}, got {level}"
  | .numeralTooLong digits => numeralTooLongMessage digits
  | .unknownListType type =>
    "List type must be one of " ++ ", ".intercalate listTypes ++ ", got " ++ Text.quoted type
  | .tightNotABoolean found => s!"List 'tight' must be a boolean, got {found.display}"
  | .rootNotADocument tag => s!"Root node must be a Document, got {tag.name}"

/-- Whether the place in the tree belongs to the message. -/
def isLocated : SchemaFault → Bool
  | .numeralTooLong _ => false
  | _ => true

end SchemaFault

/-- The steps to a node, each into the list of children of the node before. -/
def pathText : List Nat → String
  | [] => "<root>"
  | path => ".".intercalate (path.map fun index => "nodes[" ++ toString index ++ "]")

namespace SchemaError

def message (e : SchemaError) : String :=
  let text := e.fault.message ++ if e.fault.isLocated then " at " ++ pathText e.path else ""
  e.fragment.attach text

/-- The same error, seen from the parent of the tree it was found in. -/
def under (index : Nat) (e : SchemaError) : SchemaError := { e with path := index :: e.path }

end SchemaError

end SlateMark
