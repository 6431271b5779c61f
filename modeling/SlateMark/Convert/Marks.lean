import SlateMark.CommonMark.Raw
import SlateMark.Error

/-!
Marks as wrappers. A run with the code mark becomes a code span and loses its other marks; otherwise
bold text is wrapped in strong emphasis and italic text in emphasis, which stands outermost. Going
back, exactly the shapes that come from runs are accepted.
-/
namespace SlateMark

open Slate (Marks)

/-- The run of text with the marks of these names. -/
def Slate.Node.ofMarkNames (s : String) (names : List String) : Except Error Slate.Node :=
  match Marks.ofNames names with
  | .ok marks => .ok (.text s marks)
  | .error unknown => .error (.unknownMarks unknown)

/-- The raw inline node of a run of text. -/
def rawRun (ns : String) (s : String) (marks : Marks) : Json :=
  if marks.code then CommonMark.rawNode ns .code [("text", .str s)]
  else
    let plain := CommonMark.rawNode ns .text [("text", .str s)]
    let bold := if marks.bold then CommonMark.rawNode ns .strong [("nodes", .arr [plain])] else plain
    if marks.italic then CommonMark.rawNode ns .emph [("nodes", .arr [bold])] else bold

def Slate.Node.rawRun (ns : String) : Slate.Node → Except ConversionError Json
  | .text s marks => .ok (SlateMark.rawRun ns s marks)
  | n => .error ⟨.unrecognized .notText, .slate n⟩

namespace CommonMark.Node

def unsupported (n : Node) (cause : UnsupportedCause) : ConversionError :=
  ⟨.unsupported cause, .commonMark n⟩

/-- The run of text that an inline node stands for. -/
def collapse (n : Node) : Except ConversionError (String × Marks) :=
  match n with
  | .code s => .ok (s, ⟨false, false, true⟩)
  | .text s => .ok (s, .none)
  | .strong [.text s] => .ok (s, ⟨true, false, false⟩)
  | .strong [_] => .error (n.unsupported .inlineNesting)
  | .strong _ => .error (n.unsupported (.notOneChild .strong))
  | .emph [.text s] => .ok (s, ⟨false, true, false⟩)
  | .emph [.strong [.text s]] => .ok (s, ⟨true, true, false⟩)
  | .emph [.strong [_]] => .error (n.unsupported .inlineNesting)
  | .emph [.strong nodes] => .error ((strong nodes).unsupported (.notOneChild .strong))
  | .emph [_] => .error (n.unsupported .inlineNesting)
  | .emph _ => .error (n.unsupported (.notOneChild .emph))
  | _ => .error (n.unsupported .inlineNesting)

end CommonMark.Node

end SlateMark
