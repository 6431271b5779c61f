import SlateMark.Value

/-!
JSON values as messages show them.
-/
namespace SlateMark.Json

def typeName (v : Json) : String := (Value.ofJson v).typeName

def display (v : Json) : String := (Value.ofJson v).display

/-- A text stands for itself; every other value is displayed. -/
def plainText : Json → String
  | .str s => s
  | v => v.display

end SlateMark.Json
