import SlateMark.CommonMark.Display
import SlateMark.Json.Printer

/-!
The part of the input that an error is about. Raw objects are shown as JSON with sorted names and
everything else as a displayed value; null is nothing to show.
-/
namespace SlateMark

inductive Fragment where
  | slate (node : Slate.Node)
  | commonMark (node : CommonMark.Node)
  | json (value : Json)
  deriving Inhabited

namespace Fragment

def describe : Fragment → String
  | .slate node => node.display
  | .commonMark node => node.display
  | .json (.obj fields) => (Json.obj fields).sortNames.asciiText
  | .json v => v.display

def description? : Fragment → Option String
  | .json .null => none
  | fragment => some fragment.describe

/-- A message followed by what it is about. -/
def attach (message : String) (fragment : Fragment) : String :=
  match fragment.description? with
  | none => message
  | some description => message ++ ": " ++ description

end Fragment

end SlateMark
