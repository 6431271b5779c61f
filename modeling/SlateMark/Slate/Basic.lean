import SlateMark.Json.Basic

/-!
The tree of the Slate editor: runs of text with marks, elements named by their type, and documents.
An element may declare no children at all, which is not the same as declaring none. Only links give
their reference a meaning, but every element can carry one, of any JSON value; null means none.
-/
namespace SlateMark.Slate

structure Marks where
  bold : Bool
  italic : Bool
  code : Bool
  deriving DecidableEq, Repr, Inhabited

def Marks.none : Marks := ⟨false, false, false⟩

def Marks.isEmpty (m : Marks) : Bool := !m.bold && !m.italic && !m.code

/-- In ascending order. -/
def Marks.names (m : Marks) : List String :=
  (if m.bold then ["bold"] else []) ++ (if m.code then ["code"] else []) ++
    (if m.italic then ["italic"] else [])

/-- Adds the mark of this name; other names are not marks. -/
def Marks.add? (m : Marks) (name : String) : Option Marks :=
  if name = "bold" then some { m with bold := true }
  else if name = "italic" then some { m with italic := true }
  else if name = "code" then some { m with code := true }
  else Option.none

def Marks.isMark (name : String) : Bool := name = "bold" || name = "italic" || name = "code"

/-- The set of marks with these names, or the names that are no marks, sorted and each once. -/
def Marks.ofNames (names : List String) : Except (List String) Marks :=
  match names.filter (!Marks.isMark ·) with
  | [] => .ok ⟨names.contains "bold", names.contains "italic", names.contains "code"⟩
  | unknown => .error (unknown.mergeSort (· ≤ ·)).eraseDups

inductive Node where
  | text (text : String) (marks : Marks)
  | element (type : String) (nodes : Option (List Node)) (href : Json)
  | document (nodes : List Node)
  deriving Inhabited

namespace Node

def inlineTypes : List String := ["link", "html_inline"]

/-- The discriminant under which the editor stores the node. -/
def object : Node → String
  | .text _ _ => "text"
  | .element type _ _ => if inlineTypes.contains type then "inline" else "block"
  | .document _ => "document"

def declaresChildren : Node → Bool
  | .element _ nodes _ => nodes.isSome
  | _ => false

mutual
/-- Equality, but for references, which are compared as JSON values. -/
def same : Node → Node → Bool
  | .text s m, .text t n => s = t && m = n
  | .element type none href, .element type' none href' => type = type' && href.sameValue href'
  | .element type (some nodes) href, .element type' (some nodes') href' =>
    type = type' && sameNodes nodes nodes' && href.sameValue href'
  | .document nodes, .document nodes' => sameNodes nodes nodes'
  | _, _ => false

def sameNodes : List Node → List Node → Bool
  | [], [] => true
  | n :: rest, n' :: rest' => n.same n' && sameNodes rest rest'
  | _, _ => false
end

end Node

end SlateMark.Slate
