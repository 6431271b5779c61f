/-!
The CommonMark tree, restricted to what an editor document can express. Each of the fifteen kinds of
node has a tag. Headings carry their text themselves; a block quote may be without a place for
children, which no other container can.
-/
namespace SlateMark.CommonMark

inductive Tag where
  | document
  | paragraph
  | blockQuote
  | thematicBreak
  | heading
  | codeBlock
  | htmlBlock
  | htmlInline
  | list
  | item
  | link
  | text
  | code
  | strong
  | emph
  deriving DecidableEq, Repr, Inhabited

namespace Tag

def name : Tag → String
  | .document => "Document"
  | .paragraph => "Paragraph"
  | .blockQuote => "BlockQuote"
  | .thematicBreak => "ThematicBreak"
  | .heading => "Heading"
  | .codeBlock => "CodeBlock"
  | .htmlBlock => "HtmlBlock"
  | .htmlInline => "HtmlInline"
  | .list => "List"
  | .item => "Item"
  | .link => "Link"
  | .text => "Text"
  | .code => "Code"
  | .strong => "Strong"
  | .emph => "Emph"

def all : List Tag :=
  [.document, .paragraph, .blockQuote, .thematicBreak, .heading, .codeBlock, .htmlBlock,
    .htmlInline, .list, .item, .link, .text, .code, .strong, .emph]

def ofName? (s : String) : Option Tag := all.find? fun tag => tag.name = s

/-- The class of a tag in a namespace. -/
def className (ns : String) (tag : Tag) : String := ns ++ "." ++ tag.name

end Tag

/-- The namespace of the CommonMark vocabulary. -/
def defaultNamespace : String := "org.accordproject.commonmark"

/-- The mark of origin on documents that come from the editor. -/
def defaultXmlns : String := "slate"

inductive Node where
  | document (nodes : List Node) (xmlns : String)
  | paragraph (nodes : List Node)
  | blockQuote (nodes : Option (List Node))
  | thematicBreak
  | heading (level : Int) (text : String)
  | codeBlock (text : Option String)
  | htmlBlock (text : Option String)
  | htmlInline (text : Option String)
  | list (type : String) (tight : Bool) (nodes : List Node)
  | item (nodes : List Node)
  | link (destination : String) (title : String) (nodes : List Node)
  | text (text : String)
  | code (text : String)
  | strong (nodes : List Node)
  | emph (nodes : List Node)
  deriving Inhabited

namespace Node

def tag : Node → Tag
  | .document _ _ => .document
  | .paragraph _ => .paragraph
  | .blockQuote _ => .blockQuote
  | .thematicBreak => .thematicBreak
  | .heading _ _ => .heading
  | .codeBlock _ => .codeBlock
  | .htmlBlock _ => .htmlBlock
  | .htmlInline _ => .htmlInline
  | .list _ _ _ => .list
  | .item _ => .item
  | .link _ _ _ => .link
  | .text _ => .text
  | .code _ => .code
  | .strong _ => .strong
  | .emph _ => .emph

/-- The children of a container; leaves and block quotes without a place for children have none. -/
def children? : Node → Option (List Node)
  | .document nodes _ => some nodes
  | .paragraph nodes => some nodes
  | .blockQuote nodes => nodes
  | .list _ _ nodes => some nodes
  | .item nodes => some nodes
  | .link _ _ nodes => some nodes
  | .strong nodes => some nodes
  | .emph nodes => some nodes
  | _ => none

mutual
def same : Node → Node → Bool
  | .document nodes xmlns, .document nodes' xmlns' => sameNodes nodes nodes' && xmlns = xmlns'
  | .paragraph nodes, .paragraph nodes' => sameNodes nodes nodes'
  | .blockQuote none, .blockQuote none => true
  | .blockQuote (some nodes), .blockQuote (some nodes') => sameNodes nodes nodes'
  | .thematicBreak, .thematicBreak => true
  | .heading level s, .heading level' s' => level = level' && s = s'
  | .codeBlock s, .codeBlock s' => s = s'
  | .htmlBlock s, .htmlBlock s' => s = s'
  | .htmlInline s, .htmlInline s' => s = s'
  | .list type tight nodes, .list type' tight' nodes' =>
    type = type' && tight = tight' && sameNodes nodes nodes'
  | .item nodes, .item nodes' => sameNodes nodes nodes'
  | .link destination title nodes, .link destination' title' nodes' =>
    destination = destination' && title = title' && sameNodes nodes nodes'
  | .text s, .text s' => s = s'
  | .code s, .code s' => s = s'
  | .strong nodes, .strong nodes' => sameNodes nodes nodes'
  | .emph nodes, .emph nodes' => sameNodes nodes nodes'
  | _, _ => false

def sameNodes : List Node → List Node → Bool
  | [], [] => true
  | n :: rest, n' :: rest' => n.same n' && sameNodes rest rest'
  | _, _ => false
end

end Node

end SlateMark.CommonMark
