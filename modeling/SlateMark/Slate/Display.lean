import SlateMark.Slate.Basic
import SlateMark.Json.Display

/-!
Slate nodes as messages show them: the shape's name and its fields in order.
-/
namespace SlateMark

/-- A sequence of displayed values; one alone keeps a comma behind it. -/
def displayTuple : List String → String
  | [] => "()"
  | [item] => "(" ++ item ++ ",)"
  | items => "(" ++ ", ".intercalate items ++ ")"

namespace Slate

def Marks.display (m : Marks) : String :=
  if m.isEmpty then "frozenset()"
  else "frozenset(\x7b" ++ ", ".intercalate (m.names.map Text.quoted) ++ "\x7d)"

namespace Node

mutual
def display : Node → String
  | .text s m => "SlateText(text=" ++ Text.quoted s ++ ", marks=" ++ m.display ++ ")"
  | .element type none href =>
    "SlateElement(type=" ++ Text.quoted type ++ ", nodes=None, href=" ++ href.display ++ ")"
  | .element type (some nodes) href =>
    "SlateElement(type=" ++ Text.quoted type ++ ", nodes=" ++ displayTuple (displayAll nodes) ++
      ", href=" ++ href.display ++ ")"
  | .document nodes => "SlateDocument(nodes=" ++ displayTuple (displayAll nodes) ++ ")"

def displayAll : List Node → List String
  | [] => []
  | n :: rest => n.display :: displayAll rest
end

end Node

end Slate

end SlateMark
