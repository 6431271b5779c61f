import SlateMark.Proofs.Convert.Agreement
import SlateMark.Proofs.Convert.Refusal

/-!
What a round trip makes of a document. Order and nesting stay; what is lost are marks beside the
code mark, what headings hold besides their first text, children where there is no place for them,
and references other than of links. Nothing comes back from a document with a list that holds
anything but list items.
-/
namespace SlateMark

open Slate

namespace Slate.Node

/-- The canonical element, given the canonical children. -/
def canonicalElement (type : String) (nodes inner : List Node) (href : Json) : Node :=
  .element type
    (if headingElements.contains type then some [.text (leadingText nodes) .none]
     else if slotlessElements.contains type then none
     else some inner)
    (keptReference type href)

mutual
/-- What is left of a node after a round trip. -/
def canonical : Node → Node
  | .text s marks => .text s marks.canonical
  | .element type none href => canonicalElement type [] [] href
  | .element type (some nodes) href => canonicalElement type nodes (canonicalAll nodes) href
  | .document nodes => .document (canonicalAll nodes)

def canonicalAll : List Node → List Node
  | [] => []
  | n :: rest => n.canonical :: canonicalAll rest
end

theorem canonical_element (type : String) (nodes : Option (List Node)) (href : Json) :
    (element type nodes href).canonical =
      canonicalElement type (nodes.getD []) (canonicalAll (nodes.getD [])) href := by
  cases nodes <;> rfl

theorem canonicalElement_leaf {type : String} {target : CommonMark.Node}
    (h : LeafTarget type target) (nodes inner : List Node) (href : Json) :
    canonicalElement type nodes inner href = .element type none .null := by
  cases h <;> rfl

theorem canonicalElement_heading {type : String} {level : Int}
    (h : (level, type) ∈ Mapping.headingTypes) (nodes inner : List Node) (href : Json) :
    canonicalElement type nodes inner href =
      .element type (some [.text (leadingText nodes) .none]) .null := by
  have hrow : ∀ row ∈ Mapping.headingTypes, headingElements.contains row.2 ∧ row.2 ≠ "link" := by
    decide
  obtain ⟨hheading, hlink⟩ := hrow (level, type) h
  rw [canonicalElement, keptReference, if_pos hheading, if_neg hlink]

theorem canonicalElement_wraps {type : String} {href : Json}
    {wrap : List CommonMark.Node → CommonMark.Node} (h : Wraps type href wrap)
    (nodes inner : List Node) :
    canonicalElement type nodes inner href =
      .element type (some inner) (keptReference type href) := by
  cases h <;> rfl

end Slate.Node

open Slate.Node (canonical canonicalAll forall_liveAll_cons forall_liveAll_cons_of_container
  forall_liveAll_cons_of_stop live liveAll)
open CommonMark.Node (ofRun toSlateAll toSlateAll_cons_result toSlateAll_refused_head
  toSlateAll_refused_tail)

theorem LeafTarget.noItem {type : String} {target : CommonMark.Node}
    (h : LeafTarget type target) :
    type ∉ listElements ∧ type ≠ "list_item" ∧ target.isItem = false := by
  cases h <;> decide

theorem Mapping.noItem_of_mem_headingTypes {type : String} {level : Int}
    (h : (level, type) ∈ Mapping.headingTypes) : type ∉ listElements ∧ type ≠ "list_item" := by
  have hrow : ∀ row ∈ Mapping.headingTypes, row.2 ∉ listElements ∧ row.2 ≠ "list_item" := by
    decide
  exact hrow (level, type) h

namespace Wraps

variable {type : String} {href : Json} {wrap : List CommonMark.Node → CommonMark.Node}

theorem isItem_iff (h : Wraps type href wrap) (inner : List CommonMark.Node) :
    (wrap inner).isItem ↔ type = "list_item" := by
  cases h <;> simp [CommonMark.Node.isItem]

theorem refused (h : Wraps type href wrap) (hlist : type ∈ listElements)
    {inner : List CommonMark.Node} (hitems : ¬ ∀ c ∈ inner, c.isItem) :
    Refused (wrap inner).toSlate.result := by
  cases h with
  | orderedList => exact CommonMark.Node.toSlate_list_refused fun hok => hitems hok.2.2
  | bulletList => exact CommonMark.Node.toSlate_list_refused fun hok => hitems hok.2.2
  | _ => exact absurd hlist (by decide)

end Wraps

theorem CommonMark.Node.isItem_ofRun (s : String) (marks : Marks) :
    (ofRun s marks).isItem = false := by
  obtain ⟨bold, italic, code⟩ := marks
  cases bold <;> cases italic <;> cases code <;> rfl

namespace Corresponds

variable {nodes : List Slate.Node} {items : List CommonMark.Node}

/-- Items come from list items and from nothing else. -/
theorem forall_isItem_iff (h : Corresponds nodes items) :
    (∀ c ∈ items, c.isItem) ↔ ∀ c ∈ nodes, ∃ inner href, c = .element "list_item" inner href := by
  induction h with
  | nil => simp
  | run s marks _ ih => simp [CommonMark.Node.isItem_ofRun]
  | leaf nodes href htype _ ih => simp [htype.noItem]
  | heading s marks more href htype _ ih =>
    simp [Mapping.noItem_of_mem_headingTypes htype, CommonMark.Node.isItem]
  | container hwrap _ _ _ ih =>
    rw [List.forall_mem_cons, List.forall_mem_cons, ih, hwrap.isItem_iff]
    simp

theorem holdsItems_iff {type : String} (hlist : type ∈ listElements)
    {nodes : Option (List Slate.Node)} {href : Json} {inner : List CommonMark.Node}
    (h : Corresponds (nodes.getD []) inner) :
    (Slate.Node.element type nodes href).HoldsItems ↔ ∀ c ∈ inner, c.isItem := by
  rw [h.forall_isItem_iff]
  exact forall_prop_of_true hlist

/-- Where every list holds nothing but items, the way back leads to the canonical nodes. -/
theorem toSlateAll_result (h : Corresponds nodes items) :
    (∀ m ∈ liveAll nodes, m.HoldsItems) → (toSlateAll items).result = .ok (canonicalAll nodes) := by
  induction h with
  | nil => exact fun _ => rfl
  | run s marks _ ih =>
    intro hlists
    obtain ⟨-, -, hrest⟩ := forall_liveAll_cons.mp hlists
    rw [toSlateAll_cons_result, CommonMark.Node.toSlate_ofRun, ih hrest]
    rfl
  | leaf nodes href htype _ ih =>
    intro hlists
    obtain ⟨-, -, hrest⟩ := forall_liveAll_cons.mp hlists
    rw [toSlateAll_cons_result, CommonMark.Node.toSlate_leaf htype, ih hrest, canonicalAll,
      Slate.Node.canonical_element, Slate.Node.canonicalElement_leaf htype]
    rfl
  | heading s marks more href htype _ ih =>
    intro hlists
    obtain ⟨-, -, hrest⟩ := forall_liveAll_cons.mp hlists
    rw [toSlateAll_cons_result, CommonMark.Node.toSlate_heading htype, ih hrest, canonicalAll,
      Slate.Node.canonical_element, Slate.Node.canonicalElement_heading htype]
    rfl
  | container hwrap hinner _ ihinner ih =>
    intro hlists
    rw [forall_liveAll_cons_of_container hwrap.mem_containerElements] at hlists
    obtain ⟨hown, hbelow, hrest⟩ := hlists
    have hitems := fun hlist => (holdsItems_iff hlist hinner).mp hown
    rw [toSlateAll_cons_result, CommonMark.Node.toSlate_wraps hwrap hitems,
      ihinner hbelow, ih hrest, canonicalAll, Slate.Node.canonical_element,
      Slate.Node.canonicalElement_wraps hwrap]
    rfl

theorem toSlateAll_refused (h : Corresponds nodes items) :
    (¬ ∀ m ∈ liveAll nodes, m.HoldsItems) → Refused (toSlateAll items).result := by
  induction h with
  | nil => simp [liveAll]
  | run s marks _ ih =>
    intro hlists
    have hrest := fun hrest => hlists (List.forall_mem_cons.mpr ⟨trivial, hrest⟩)
    exact toSlateAll_refused_tail (CommonMark.Node.toSlate_ofRun s marks) (ih hrest)
  | leaf nodes href htype _ ih =>
    intro hlists
    obtain ⟨hlist, -⟩ := htype.noItem
    rw [forall_liveAll_cons_of_stop htype.keepsChildren_eq] at hlists
    have hrest := fun hrest => hlists ⟨fun hmem => absurd hmem hlist, hrest⟩
    exact toSlateAll_refused_tail (CommonMark.Node.toSlate_leaf htype) (ih hrest)
  | heading s marks more href htype _ ih =>
    intro hlists
    obtain ⟨hlist, -⟩ := Mapping.noItem_of_mem_headingTypes htype
    rw [forall_liveAll_cons_of_stop (Mapping.keepsChildren_of_mem_headingTypes htype)] at hlists
    have hrest := fun hrest => hlists ⟨fun hmem => absurd hmem hlist, hrest⟩
    exact toSlateAll_refused_tail (CommonMark.Node.toSlate_heading htype s) (ih hrest)
  | @container rest items inner type nodes href wrap hwrap hinner _ ihinner ih =>
    intro hlists
    rw [forall_liveAll_cons_of_container hwrap.mem_containerElements] at hlists
    -- The node itself decides first, then what is below it, then what follows it.
    by_cases hown : (Slate.Node.element type nodes href).HoldsItems
    · have hitems := fun hlist => (holdsItems_iff hlist hinner).mp hown
      have htoSlate := CommonMark.Node.toSlate_wraps hwrap hitems
      by_cases hbelow : ∀ m ∈ liveAll (nodes.getD []), m.HoldsItems
      · rw [hinner.toSlateAll_result hbelow] at htoSlate
        exact toSlateAll_refused_tail htoSlate (ih fun hrest => hlists ⟨hown, hbelow, hrest⟩)
      · apply toSlateAll_refused_head
        rw [htoSlate]
        exact (ihinner hbelow).map _
    · obtain ⟨hlist, -⟩ := Classical.not_imp.mp hown
      apply toSlateAll_refused_head
      exact hwrap.refused hlist fun hitems => hown ((holdsItems_iff hlist hinner).mpr hitems)

end Corresponds

theorem Json.sameValue_null (v : Json) : Json.null.sameValue v = true ↔ Json.null = v := by
  cases v <;> simp [Json.sameValue, Json.sameScalar, Json.wholeNumber?]

theorem Wraps.sameValue_keptReference {type : String} {href : Json}
    {wrap : List CommonMark.Node → CommonMark.Node} (h : Wraps type href wrap) :
    (keptReference type href).sameValue href = true ↔ keptReference type href = href := by
  cases h with
  | link s => simp [keptReference, Json.sameValue, Json.sameScalar]
  | _ => exact Json.sameValue_null href

/-- For what a conversion accepts, comparing values says whether the nodes are canonical. -/
theorem Corresponds.sameNodes_canonicalAll {nodes : List Slate.Node} {items : List CommonMark.Node}
    (h : Corresponds nodes items) :
    Slate.Node.sameNodes (canonicalAll nodes) nodes = true ↔ canonicalAll nodes = nodes := by
  induction h with
  | nil => simp [canonicalAll, Slate.Node.sameNodes]
  | run s marks _ ih =>
    simp [canonicalAll, canonical, Slate.Node.sameNodes, Slate.Node.same, ih]
  | leaf nodes href htype _ ih =>
    rw [canonicalAll, Slate.Node.canonical_element, Slate.Node.canonicalElement_leaf htype]
    cases nodes with
    | none => simp [Slate.Node.sameNodes, Slate.Node.same, Json.sameValue_null, ih]
    | some nodes => simp [Slate.Node.sameNodes, Slate.Node.same]
  | heading s marks more href htype _ ih =>
    rw [canonicalAll, Slate.Node.canonical_element, Slate.Node.canonicalElement_heading htype]
    cases more with
    | nil =>
      simp [Slate.Node.sameNodes, Slate.Node.same, Slate.Node.leadingText, Json.sameValue_null, ih]
    | cons c more => simp [Slate.Node.sameNodes, Slate.Node.same]
  | @container rest items inner type nodes href wrap hwrap hinner _ ihinner ih =>
    rw [canonicalAll, Slate.Node.canonical_element, Slate.Node.canonicalElement_wraps hwrap]
    cases nodes with
    | none => simp [Slate.Node.sameNodes, Slate.Node.same]
    | some nodes =>
      rw [Option.getD_some] at ihinner
      simp [Slate.Node.sameNodes, Slate.Node.same, hwrap.sameValue_keptReference, ihinner, ih]

theorem roundTrip_result {o : Options} {d : Slate.Node} {tree : CommonMark.Node}
    (h : (slateToCommonMark o d).result = .ok tree) :
    (roundTrip o d).result = (commonMarkToSlate tree).result := by
  simp only [roundTrip, Logged.result_bind, h]
  rfl

theorem verifyRoundTrip_result (o : Options) (d : Slate.Node) :
    (verifyRoundTrip o d).result = (roundTrip o d).result.map fun restored => restored.same d := by
  simp only [verifyRoundTrip, Logged.result_bind]
  cases (roundTrip o d).result with
  | error e => rfl
  | ok restored =>
    change Logged.result (if restored.same d then _ else _) = .ok (restored.same d)
    split
    case isTrue hsame =>
      rw [hsame]
      rfl
    case isFalse hsame =>
      rw [Bool.not_eq_true _ |>.mp hsame]
      rfl

theorem roundTrip_canonical {o : Options} {nodes : List Slate.Node} {items : List CommonMark.Node}
    (h : (slateToCommonMark o (.document nodes)).result = .ok (.document items o.xmlns))
    (hcorr : Corresponds nodes items) (hlists : ∀ m ∈ liveAll nodes, m.HoldsItems) :
    (roundTrip o (.document nodes)).result = .ok (.document (canonicalAll nodes)) := by
  rw [roundTrip_result h, commonMarkToSlate_result, hcorr.toSlateAll_result hlists]
  rfl

theorem verifyRoundTrip_canonical {o : Options} {nodes : List Slate.Node}
    {items : List CommonMark.Node} (hcorr : Corresponds nodes items)
    (h : (roundTrip o (.document nodes)).result = .ok (.document (canonicalAll nodes))) :
    (verifyRoundTrip o (.document nodes)).result = .ok true ↔
      Slate.Node.document nodes = .document (canonicalAll nodes) := by
  rw [verifyRoundTrip_result, h, Except.map, Except.ok.injEq, Slate.Node.same,
    hcorr.sameNodes_canonicalAll, Slate.Node.document.injEq, eq_comm]

/-- A converted document comes back in canonical form, unless a list in it is not one of items. -/
theorem roundTrip_of_slateToCommonMark {o : Options} {d : Slate.Node} {tree : CommonMark.Node}
    (h : (slateToCommonMark o d).result = .ok tree) :
    ((∀ m ∈ d.live, m.HoldsItems) → (roundTrip o d).result = .ok d.canonical) ∧
    ((¬ ∀ m ∈ d.live, m.HoldsItems) → ∃ e, (roundTrip o d).result = .error e ∧
      e.kind? = some .unsupportedStructure) ∧
    ((verifyRoundTrip o d).result = .ok true ↔
      d = d.canonical ∧ ∀ m ∈ d.live, m.HoldsItems) := by
  obtain ⟨nodes, items, rfl, rfl, hcorr⟩ := exists_corresponds_of_slateToCommonMark h
  have hlive : (∀ m ∈ (Slate.Node.document nodes).live, m.HoldsItems) ↔
      ∀ m ∈ liveAll nodes, m.HoldsItems := by
    simp [live, Slate.Node.HoldsItems]
  rw [hlive]
  by_cases hlists : ∀ m ∈ liveAll nodes, m.HoldsItems
  · have hrestored := roundTrip_canonical h hcorr hlists
    refine ⟨fun _ => hrestored, fun hnot => absurd hlists hnot, ?_⟩
    rw [verifyRoundTrip_canonical hcorr hrestored]
    exact (and_iff_left hlists).symm
  · obtain ⟨e, he, hkind⟩ := commonMarkToSlate_refused (hcorr.toSlateAll_refused hlists) o.xmlns
    rw [← roundTrip_result h] at he
    refine ⟨fun hall => absurd hall hlists, fun _ => ⟨e, he, hkind⟩, ?_⟩
    simp [verifyRoundTrip_result, he, Except.map, hlists]

theorem roundTrip_of_slateToCommonMark_list :
    (roundTrip Options.default (.document [.element "ul_list" (some
      [.element "list_item" none (.int 3)]) .null])).result =
        .ok (.document [.element "ul_list" (some [.element "list_item" (some []) .null]) .null]) ∧
    ∃ e, (roundTrip Options.default (.document [.element "ol_list" (some
      [.text "a" .none]) .null])).result = .error e ∧ e.kind? = some .unsupportedStructure := by
  have hitem : (slateToCommonMark Options.default (.document [.element "ul_list" (some
      [.element "list_item" none (.int 3)]) .null])).result =
        .ok (.document [.list "bullet" true [.item [.paragraph []]]] "slate") := by
    apply slateToCommonMark_of_corresponds
    · exact (Slate.Node.toRawAll_result_eq_ok.mp rfl).1
    · have hinner : Corresponds [.element "list_item" none (.int 3)] [.item [.paragraph []]] :=
        @Corresponds.container [] [] [] "list_item" none (.int 3) _ (.item (.int 3)) .nil .nil
      exact .container (.bulletList .null) hinner .nil
  have htext : (slateToCommonMark Options.default (.document [.element "ol_list" (some
      [.text "a" .none]) .null])).result =
        .ok (.document [.list "ordered" true [.text "a"]] "slate") := by
    apply slateToCommonMark_of_corresponds
    · exact (Slate.Node.toRawAll_result_eq_ok.mp rfl).1
    · exact .container (.orderedList .null) (.run "a" .none .nil) .nil
  refine ⟨(roundTrip_of_slateToCommonMark hitem).1 ?_,
    (roundTrip_of_slateToCommonMark htext).2.1 ?_⟩
  · simp [live, liveAll, Slate.Node.HoldsItems, keepsChildren, headingElements, slotlessElements,
      listElements]
  · simp [live, liveAll, Slate.Node.HoldsItems, keepsChildren, headingElements, slotlessElements,
      listElements]

end SlateMark
