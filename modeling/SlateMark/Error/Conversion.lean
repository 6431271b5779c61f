import SlateMark.Error.Fragment

/-!
Why a tree cannot be converted. Each error names its cause and the node it was found at.
-/
namespace SlateMark

/-- A node that is no source of a conversion: of an unknown kind, or of the wrong kind where only
runs of text or only documents are taken. -/
inductive UnrecognizedCause where
  | unknownKind
  | notText
  | notDocument
  deriving DecidableEq, Repr

/-- An element without the data that its kind requires; `type` is the element's type. -/
inductive MalformedCause where
  | missingHref (type : String)
  | headingWithoutText (type : String)
  | headingWithSiblings (type : String)
  | headingWithMarks (type : String)
  deriving DecidableEq, Repr

/-- A CommonMark shape that no Slate document is converted to. -/
inductive UnsupportedCause where
  | rootNotDocument
  | notOneChild (tag : CommonMark.Tag)
  | inlineNesting
  | leafWithText (tag : CommonMark.Tag)
  | headingLevel (level : Int)
  | looseList
  | listType (type : String)
  | listChild (tag : CommonMark.Tag)
  | itemShape
  deriving DecidableEq, Repr

inductive ConversionFault where
  | unrecognized (cause : UnrecognizedCause)
  | missingChildrenSlot (target : String)
  | invalidParent
  | malformed (cause : MalformedCause)
  | unsupported (cause : UnsupportedCause)
  deriving DecidableEq, Repr

structure ConversionError where
  fault : ConversionFault
  node : Fragment

def UnrecognizedCause.message : UnrecognizedCause → String
  | .unknownKind => "Failed to process node"
  | .notText => "Text handling produced no node"
  | .notDocument => "Expected a Slate document"

def MalformedCause.message : MalformedCause → String
  | .missingHref type => s!"'{type}' element has no href"
  | .headingWithoutText type => s!"'{type}' must start with a text node"
  | .headingWithSiblings type => s!"'{type}' must hold exactly one text node"
  | .headingWithMarks type => s!"'{type}' text cannot carry marks"

def UnsupportedCause.message : UnsupportedCause → String
  | .rootNotDocument => "Root node must be a Document"
  | .notOneChild tag => s!"{tag.name} must wrap exactly one inline node"
  | .inlineNesting => "Inline nesting has no Slate text equivalent"
  | .leafWithText tag => s!"{tag.name} with text has no Slate equivalent"
  | .headingLevel level => s!"Heading level {level} has no Slate equivalent"
  | .looseList => "Loose lists have no Slate equivalent"
  | .listType type => s!"List type {Text.quoted type} has no Slate equivalent"
  | .listChild tag => s!"List may only contain Item nodes, got {tag.name}"
  | .itemShape => "Item must contain exactly one Paragraph"

def ConversionFault.message : ConversionFault → String
  | .unrecognized cause => cause.message
  | .missingChildrenSlot target => s!"Node mapped to {target} doesn't have children"
  | .invalidParent => "Parent node doesn't have children"
  | .malformed cause => cause.message
  | .unsupported cause => cause.message

def ConversionError.message (e : ConversionError) : String := e.node.attach e.fault.message

end SlateMark
