import SlateMark.CommonMark.Basic
import SlateMark.Error.Schema

/-!
Raw trees: CommonMark nodes as JSON objects. The class of a node is its tag in a namespace, its
attributes are members beside the class, and its children are the list `nodes`.
-/
namespace SlateMark.CommonMark

/-- The attributes a node may carry besides its class. -/
def Tag.attributes : Tag → List String
  | .document => ["nodes", "xmlns"]
  | .paragraph => ["nodes"]
  | .blockQuote => ["nodes"]
  | .thematicBreak => []
  | .heading => ["level", "text"]
  | .codeBlock => ["text"]
  | .htmlBlock => ["text"]
  | .htmlInline => ["text"]
  | .list => ["type", "tight", "nodes"]
  | .item => ["nodes"]
  | .link => ["destination", "title", "nodes"]
  | .text => ["text"]
  | .code => ["text"]
  | .strong => ["nodes"]
  | .emph => ["nodes"]

/-- A raw node from its tag and its attributes. -/
def rawNode (ns : String) (tag : Tag) (attributes : Fields) : Json :=
  .obj ((classKey, .str (tag.className ns)) :: attributes)

/-- A text that is not there is left out. -/
def rawText? : Option String → Fields
  | none => []
  | some s => [("text", .str s)]

namespace Node

mutual
def toRaw (ns : String) : Node → Json
  | .document nodes xmlns =>
    rawNode ns .document [("xmlns", .str xmlns), ("nodes", .arr (toRawAll ns nodes))]
  | .paragraph nodes => rawNode ns .paragraph [("nodes", .arr (toRawAll ns nodes))]
  | .blockQuote none => rawNode ns .blockQuote []
  | .blockQuote (some nodes) => rawNode ns .blockQuote [("nodes", .arr (toRawAll ns nodes))]
  | .thematicBreak => rawNode ns .thematicBreak []
  | .heading level s => rawNode ns .heading [("level", .int level), ("text", .str s)]
  | .codeBlock s => rawNode ns .codeBlock (rawText? s)
  | .htmlBlock s => rawNode ns .htmlBlock (rawText? s)
  | .htmlInline s => rawNode ns .htmlInline (rawText? s)
  | .list type tight nodes =>
    rawNode ns .list
      [("type", .str type), ("tight", .bool tight), ("nodes", .arr (toRawAll ns nodes))]
  | .item nodes => rawNode ns .item [("nodes", .arr (toRawAll ns nodes))]
  | .link destination title nodes =>
    rawNode ns .link
      [("destination", .str destination), ("title", .str title),
        ("nodes", .arr (toRawAll ns nodes))]
  | .text s => rawNode ns .text [("text", .str s)]
  | .code s => rawNode ns .code [("text", .str s)]
  | .strong nodes => rawNode ns .strong [("nodes", .arr (toRawAll ns nodes))]
  | .emph nodes => rawNode ns .emph [("nodes", .arr (toRawAll ns nodes))]

def toRawAll (ns : String) : List Node → List Json
  | [] => []
  | n :: rest => n.toRaw ns :: toRawAll ns rest
end

end Node

end SlateMark.CommonMark
