import SlateMark.CommonMark.Basic
import SlateMark.Slate.Display

/-!
CommonMark nodes as messages show them: the tag's name and the fields in order.
-/
namespace SlateMark.CommonMark.Node

def displayText? : Option String → String
  | none => "None"
  | some s => Text.quoted s

mutual
def display : Node → String
  | .document nodes xmlns =>
    "Document(nodes=" ++ displayTuple (displayAll nodes) ++ ", xmlns=" ++ Text.quoted xmlns ++ ")"
  | .paragraph nodes => "Paragraph(nodes=" ++ displayTuple (displayAll nodes) ++ ")"
  | .blockQuote none => "BlockQuote(nodes=None)"
  | .blockQuote (some nodes) => "BlockQuote(nodes=" ++ displayTuple (displayAll nodes) ++ ")"
  | .thematicBreak => "ThematicBreak()"
  | .heading level s =>
    "Heading(level=" ++ toString level ++ ", text=" ++ Text.quoted s ++ ")"
  | .codeBlock s => "CodeBlock(text=" ++ displayText? s ++ ")"
  | .htmlBlock s => "HtmlBlock(text=" ++ displayText? s ++ ")"
  | .htmlInline s => "HtmlInline(text=" ++ displayText? s ++ ")"
  | .list type tight nodes =>
    "List(type=" ++ Text.quoted type ++ ", tight=" ++ displayBool tight ++ ", nodes=" ++
      displayTuple (displayAll nodes) ++ ")"
  | .item nodes => "Item(nodes=" ++ displayTuple (displayAll nodes) ++ ")"
  | .link destination title nodes =>
    "Link(destination=" ++ Text.quoted destination ++ ", title=" ++ Text.quoted title ++
      ", nodes=" ++ displayTuple (displayAll nodes) ++ ")"
  | .text s => "Text(text=" ++ Text.quoted s ++ ")"
  | .code s => "Code(text=" ++ Text.quoted s ++ ")"
  | .strong nodes => "Strong(nodes=" ++ displayTuple (displayAll nodes) ++ ")"
  | .emph nodes => "Emph(nodes=" ++ displayTuple (displayAll nodes) ++ ")"

def displayAll : List Node → List String
  | [] => []
  | n :: rest => n.display :: displayAll rest
end

end SlateMark.CommonMark.Node
