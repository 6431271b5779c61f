import SlateMark.CommonMark.Schema
import SlateMark.Convert.Forward
import SlateMark.Convert.Reverse
import SlateMark.Error

/-!
Conversions between the two kinds of tree. Every conversion is all or nothing: an error ends it and
no part of a tree is returned. Going from the editor to CommonMark the raw tree passes the schema
before it counts; going there and back tells whether a document survives.
-/
namespace SlateMark

abbrev Run := Logged Error

/-- The CommonMark document of a Slate document. -/
def slateToCommonMark (o : Options) (document : Slate.Node) : Run CommonMark.Node := do
  let raw ← (document.documentToRaw o).mapError .conversion
  .ofExcept ((CommonMark.Node.documentOfRaw o.ns raw).mapError .ofSchema)

/-- The Slate document of a CommonMark document. -/
def commonMarkToSlate (document : CommonMark.Node) : Run Slate.Node :=
  document.documentToSlate.mapError .conversion

/-- The same from a raw tree, which passes the schema first. -/
def rawToSlate (o : Options) (raw : Json) : Run Slate.Node := do
  let document ← .ofExcept ((CommonMark.Node.documentOfRaw o.ns raw).mapError .ofSchema)
  commonMarkToSlate document

/-- Raw trees are objects; no other input is a document. -/
def fragmentToSlate (o : Options) : Fragment → Run Slate.Node
  | .json (.obj fields) => rawToSlate o (.obj fields)
  | .commonMark document => commonMarkToSlate document
  | other => .fail (.conversion ⟨.unsupported .rootNotDocument, other⟩)

def roundTrip (o : Options) (document : Slate.Node) : Run Slate.Node := do
  let tree ← slateToCommonMark o document
  commonMarkToSlate tree

/-- Whether a document survives the round trip; a conversion that fails is an error. -/
def verifyRoundTrip (o : Options) (document : Slate.Node) : Run Bool := do
  let restored ← roundTrip o document
  if restored.same document then return true
  else
    .report .roundTripChanged
    return false

end SlateMark
