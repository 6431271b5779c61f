import SlateMark.Json.Basic
import SlateMark.Text.Quoted

/-!
Values of configurations, and the way messages show values: quoted text, and the words `None`,
`True` and `False`. Besides what JSON has there are mappings whose keys are any values, and things
such as dates, of which only the texts they show matter.
-/
namespace SlateMark

/-- A thing that is no value of JSON: the name of its type, alone and with the module that the type
is from, the text of the thing, and what a message shows. -/
structure Foreign where
  typeName : String
  qualifiedName : String
  text : String
  shown : String

inductive Value where
  | null
  | bool (value : Bool)
  | int (value : Int)
  | float (value : Float)
  | str (value : String)
  | list (items : List Value)
  | mapping (entries : List (Value × Value))
  | foreign (thing : Foreign)
  deriving Inhabited

/-- Keys with their values, in order. -/
abbrev Entries := List (Value × Value)

/-- Numbers that are not finite are written in lower case. -/
def displayLayout : Decimal.Layout := ⟨-4, 16, 2, "inf", "nan"⟩

def displayBool (b : Bool) : String := if b then "True" else "False"

namespace Value

def typeName : Value → String
  | .null => "NoneType"
  | .bool _ => "bool"
  | .int _ => "int"
  | .float _ => "float"
  | .str _ => "str"
  | .list _ => "list"
  | .mapping _ => "dict"
  | .foreign thing => thing.typeName

def qualifiedName : Value → String
  | .foreign thing => thing.qualifiedName
  | v => v.typeName

mutual
def display : Value → String
  | .null => "None"
  | .bool b => displayBool b
  | .int n => toString n
  | .float x => String.ofList (displayLayout.floatText x)
  | .str s => Text.quoted s
  | .list items => "[" ++ ", ".intercalate (displayItems items) ++ "]"
  | .mapping entries => "\x7b" ++ ", ".intercalate (displayEntries entries) ++ "\x7d"
  | .foreign thing => thing.shown

def displayItems : List Value → List String
  | [] => []
  | v :: rest => v.display :: displayItems rest

def displayEntries : List (Value × Value) → List String
  | [] => []
  | (key, v) :: rest => (key.display ++ ": " ++ v.display) :: displayEntries rest
end

/-- Text stands for itself, and a thing has a text of its own; every other value is displayed. -/
def text : Value → String
  | .str s => s
  | .foreign thing => thing.text
  | v => v.display

mutual
def ofJson : Json → Value
  | .null => .null
  | .bool b => .bool b
  | .int n => .int n
  | .float x => .float x
  | .str s => .str s
  | .arr items => .list (ofItems items)
  | .obj fields => .mapping (ofFields fields)

def ofItems : List Json → List Value
  | [] => []
  | v :: rest => ofJson v :: ofItems rest

def ofFields : List (String × Json) → Entries
  | [] => []
  | (name, v) :: rest => (.str name, ofJson v) :: ofFields rest
end

end Value

namespace Entries

/-- The value under a key that is this text. -/
def get? (entries : Entries) (name : String) : Option Value :=
  (entries.find? fun entry =>
    match entry.1 with
    | .str key => key = name
    | _ => false).map Prod.snd

/-- The values under the texts of their keys; keys that differ may have the same text. -/
def byText (entries : Entries) : Named Value := entries.map fun entry => (entry.1.text, entry.2)

end Entries

end SlateMark
