import SlateMark.Error.Fragment
import SlateMark.Json.Reader
import SlateMark.Text.Utf8

/-!
Why a text holds no document: it is no JSON, or the JSON is not shaped like what it should hold.
-/
namespace SlateMark

/-- The two kinds of document that are read from JSON text. -/
inductive DocumentFormat where
  | slate
  | commonMark
  deriving DecidableEq, Repr

def DocumentFormat.name : DocumentFormat → String
  | .slate => "Slate"
  | .commonMark => "CommonMark AST"

/-- What a required field was missing from. -/
inductive SlatePart where
  | value
  | node
  | element
  | textNode
  | leaf
  deriving DecidableEq, Repr

def SlatePart.name : SlatePart → String
  | .value => "value"
  | .node => "node"
  | .element => "element"
  | .textNode => "text node"
  | .leaf => "leaf"

/-- The part of the reading that failed. -/
inductive ParsingStage where
  | inputDecoding
  | jsonDecoding
  | slateStructure
  | slateNodes
  | slateMarks
  deriving DecidableEq, Repr

def ParsingStage.name : ParsingStage → String
  | .inputDecoding => "input_decoding"
  | .jsonDecoding => "json_decoding"
  | .slateStructure => "slate_structure"
  | .slateNodes => "slate_nodes"
  | .slateMarks => "slate_marks"

inductive ParsingError where
  | undecodable (e : Text.Utf8Error)
  | invalidJson (format : DocumentFormat) (e : Json.SyntaxError)
  | valueNotAnObject (found : String)
  | documentNotAnObject
  | notADocument (object : Json)
  | missingField (part : SlatePart) (field : String) (data : Fields)
  | nodesNotAList (found : String)
  | nodeNotAnObject (found : Json)
  | unexpectedObject (object : Json)
  | leavesNotAList (found : String)
  | leafNotAnObject (found : Json)
  | marksNotAList (found : String)
  | invalidMark (found : Json)

namespace ParsingError

def stage : ParsingError → ParsingStage
  | .undecodable _ => .inputDecoding
  | .invalidJson _ _ => .jsonDecoding
  | .valueNotAnObject _ => .slateStructure
  | .documentNotAnObject => .slateStructure
  | .notADocument _ => .slateStructure
  | .missingField _ _ _ => .slateStructure
  | .nodesNotAList _ => .slateNodes
  | .nodeNotAnObject _ => .slateNodes
  | .unexpectedObject _ => .slateNodes
  | .leavesNotAList _ => .slateNodes
  | .leafNotAnObject _ => .slateNodes
  | .marksNotAList _ => .slateMarks
  | .invalidMark _ => .slateMarks

def message : ParsingError → String
  | .undecodable e => s!"Input is not valid UTF-8: {e.message}"
  | .invalidJson format e => s!"Invalid {format.name} JSON: {e.message}"
  | .valueNotAnObject found => s!"Slate value must be an object, got {found}"
  | .documentNotAnObject => "Slate value 'document' must be an object"
  | .notADocument object => s!"Expected a Slate document, got object '{object.plainText}'"
  | .missingField part field data =>
    s!"Slate {part.name} is missing required field '{field}': {(Json.obj data).asciiText}"
  | .nodesNotAList found => s!"Slate 'nodes' must be a list, got {found}"
  | .nodeNotAnObject found => s!"Slate node must be an object, got {found.display}"
  | .unexpectedObject object =>
    s!"Unexpected Slate object '{object.plainText}' inside a node list"
  | .leavesNotAList found => s!"Slate 'leaves' must be a list, got {found}"
  | .leafNotAnObject found => s!"Slate leaf must be an object, got {found.display}"
  | .marksNotAList found => s!"Slate marks must be a list, got {found}"
  | .invalidMark found => s!"Invalid Slate mark: {found.display}"

end ParsingError

end SlateMark
