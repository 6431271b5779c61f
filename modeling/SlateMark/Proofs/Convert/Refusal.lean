import SlateMark.Convert.RoundTrip
import SlateMark.Proofs.Convert.Correspondence

/-!
What the reverse conversion does to one node, given what it does to the children. Nodes that come
from the editor are taken apart again, lists on the condition that they hold nothing but items; what
is refused is refused as unsupported, and passed on to the root.
-/
namespace SlateMark

open Slate (Marks listElements)

/-- The conversion failed, because of a shape that it does not support. -/
def Refused {α : Type} (outcome : Except ConversionError α) : Prop :=
  ∃ e cause, outcome = .error e ∧ e.fault = .unsupported cause

namespace Refused

variable {α β : Type} {outcome : Except ConversionError α}

theorem map (h : Refused outcome) (f : α → β) : Refused (outcome.map f) := by
  obtain ⟨e, cause, rfl, hfault⟩ := h
  exact ⟨e, cause, rfl, hfault⟩

theorem bind (h : Refused outcome) (next : α → Except ConversionError β) :
    Refused (outcome >>= next) := by
  obtain ⟨e, cause, rfl, hfault⟩ := h
  exact ⟨e, cause, rfl, hfault⟩

theorem of_unsupported (n : CommonMark.Node) (cause : UnsupportedCause) :
    Refused (.error (n.unsupported cause) : Except ConversionError α) :=
  ⟨n.unsupported cause, cause, rfl, rfl⟩

end Refused

/-- Only links keep a reference. -/
def keptReference (type : String) (href : Json) : Json := if type = "link" then href else .null

namespace CommonMark.Node

theorem toSlate_ofRun (s : String) (marks : Marks) :
    (ofRun s marks).toSlate.result = .ok (.text s marks.canonical) := by
  have hinline : (ofRun s marks).toSlate = (ofRun s marks).inlineToSlate := by
    obtain ⟨bold, italic, code⟩ := marks
    cases bold <;> cases italic <;> cases code <;> rfl
  rw [hinline, inlineToSlate, collapse_ofRun]
  rfl

theorem toSlate_leaf {type : String} {target : Node} (h : LeafTarget type target) :
    target.toSlate.result = .ok (.element type none .null) := by
  cases h <;> rfl

theorem toSlate_heading {type : String} {level : Int} (h : (level, type) ∈ Mapping.headingTypes)
    (s : String) :
    (heading level s).toSlate.result = .ok (.element type (some [.text s .none]) .null) := by
  have hlookup : ∀ row ∈ Mapping.headingTypes, Mapping.headingType? row.1 = some row.2 := by decide
  simp only [toSlate, headingToSlate, hlookup (level, type) h]
  rfl

theorem container_result {n : Node} {type : String}
    (h : Mapping.sourceType? n.tag true = some type) (href : Json)
    (children : Reversal (List Slate.Node)) :
    (n.container href children).result =
      children.result.map fun nodes => .element type (some nodes) href := by
  unfold container sourceType
  rw [h]
  rcases children with ⟨events, _ | nodes⟩ <;> rfl

theorem list_result {type source : String} (h : Mapping.listType? type = some source)
    {nodes : List Node} (hitems : ∀ c ∈ nodes, c.isItem) :
    (list type true nodes).toSlate.result =
      (toSlateAll nodes).result.map fun inner => .element source (some inner) .null := by
  have hfind : nodes.find? (!·.isItem) = none := by
    rw [List.find?_eq_none]
    intro c hc
    simp [hitems c hc]
  simp only [toSlate, listSourceType, h, hfind, Logged.result_bind, if_true]
  rcases toSlateAll nodes with ⟨events, _ | inner⟩ <;> rfl

/-- Nodes put around other nodes are taken off again. -/
theorem toSlate_wraps {type : String} {href : Json} {wrap : List Node → Node}
    (h : Wraps type href wrap) {inner : List Node}
    (hitems : type ∈ listElements → ∀ c ∈ inner, c.isItem) :
    (wrap inner).toSlate.result =
      (toSlateAll inner).result.map fun nodes =>
        .element type (some nodes) (keptReference type href) := by
  cases h with
  | paragraph => exact container_result rfl .null (toSlateAll inner)
  | blockQuote => exact container_result rfl .null (toSlateAll inner)
  | orderedList => exact list_result rfl (hitems (by decide))
  | bulletList => exact list_result rfl (hitems (by decide))
  | item => exact container_result rfl .null (toSlateAll inner)
  | link s => exact container_result rfl (.str s) (toSlateAll inner)

theorem toSlate_list_refused {type : String} {tight : Bool} {nodes : List Node}
    (h : ¬ (tight = true ∧ (∃ source, Mapping.listType? type = some source) ∧
      ∀ c ∈ nodes, c.isItem)) :
    Refused (list type tight nodes).toSlate.result := by
  rw [toSlate, Logged.result_bind]
  apply Refused.bind
  unfold listSourceType
  split
  case isFalse => exact .of_unsupported _ .looseList
  case isTrue htight =>
    split
    case h_1 => exact .of_unsupported _ (.listType type)
    case h_2 source hsource =>
      split
      case h_1 child _ => exact .of_unsupported _ (.listChild child.tag)
      case h_2 hfind =>
        have hitems : ∀ c ∈ nodes, c.isItem := by simpa using hfind
        exact absurd ⟨htight, ⟨source, hsource⟩, hitems⟩ h

theorem toSlate_item_refused {nodes : List Node} (h : ¬ ∃ inner, nodes = [paragraph inner]) :
    Refused (item nodes).toSlate.result := by
  have hfail : (item nodes).toSlate = .fail ((item nodes).unsupported .itemShape) := by
    rw [toSlate]
    exact fun inner hinner => h ⟨inner, hinner⟩
  rw [hfail]
  exact .of_unsupported _ .itemShape

/-- The title of a link does not matter. -/
theorem toSlate_link_result (destination title : String) (nodes : List Node) :
    (link destination title nodes).toSlate.result =
      (link destination "" nodes).toSlate.result := by
  by_cases hempty : title = ""
  · rw [hempty]
  · simp only [toSlate, reportTitle, if_neg hempty]
    rfl

theorem toSlateAll_cons_result (n : Node) (rest : List Node) :
    (toSlateAll (n :: rest)).result =
      n.toSlate.result >>= fun node => (toSlateAll rest).result.map (node :: ·) := by
  simp only [toSlateAll, Logged.result_bind]
  refine bind_congr fun node => ?_
  cases (toSlateAll rest).result <;> rfl

theorem toSlateAll_refused_head {n : Node} (h : Refused n.toSlate.result) (rest : List Node) :
    Refused (toSlateAll (n :: rest)).result := by
  rw [toSlateAll_cons_result]
  exact h.bind _

theorem toSlateAll_refused_tail {n : Node} {node : Slate.Node} (hn : n.toSlate.result = .ok node)
    {rest : List Node} (h : Refused (toSlateAll rest).result) :
    Refused (toSlateAll (n :: rest)).result := by
  rw [toSlateAll_cons_result, hn]
  exact h.map _

end CommonMark.Node

theorem commonMarkToSlate_result (nodes : List CommonMark.Node) (xmlns : String) :
    (commonMarkToSlate (.document nodes xmlns)).result =
      ((CommonMark.Node.toSlateAll nodes).result.map Slate.Node.document).mapError .conversion := by
  simp only [commonMarkToSlate, CommonMark.Node.documentToSlate, CommonMark.Node.toSlate,
    Logged.mapError, Logged.result_bind]
  cases (CommonMark.Node.toSlateAll nodes).result <;> rfl

theorem commonMarkToSlate_refused {nodes : List CommonMark.Node}
    (h : Refused (CommonMark.Node.toSlateAll nodes).result) (xmlns : String) :
    ∃ e, (commonMarkToSlate (.document nodes xmlns)).result = .error e ∧
      e.kind? = some .unsupportedStructure := by
  obtain ⟨e, cause, he, hfault⟩ := h
  rw [commonMarkToSlate_result, he]
  refine ⟨.conversion e, rfl, ?_⟩
  rw [Error.kind?, hfault]
  rfl

end SlateMark
