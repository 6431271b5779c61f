import SlateMark.Proofs.Convert.Fault

/-!
Options that refuse less. A document that is converted stays converted, with the same result, when
children without a place are dropped instead of refused or when headings are read less strictly.
Dropping such children comes to the same as taking them out of the document before they are refused:
one conversion fails if and only if the other does, with the same fault at the same node.
-/
namespace SlateMark

/-- The second options refuse no more than the first and agree with them in all else. -/
structure Options.RelaxesTo (o o' : Options) : Prop where
  ns_eq : o'.ns = o.ns
  xmlns_eq : o'.xmlns = o.xmlns
  error_of_error : o'.childlessPolicy = .error → o.childlessPolicy = .error
  strict_of_strict : o'.strictHeadings = true → o.strictHeadings = true

namespace Slate.Node

theorem AtFault.of_relaxesTo {o o' : Options} (h : o.RelaxesTo o') {n : Node}
    {fault : ConversionFault} (hfault : AtFault o' n fault) : AtFault o n fault := by
  cases hfault with
  | unknownType htype => exact .unknownType htype
  | nestedDocument nodes => exact .nestedDocument nodes
  | missingReference nodes => exact .missingReference nodes
  | headingWithoutText htype htext => exact .headingWithoutText htype htext
  | headingWithSiblings htype hnodes hrest hstrict =>
    exact .headingWithSiblings htype hnodes hrest (h.strict_of_strict hstrict)
  | headingWithMarks htype hnodes hmarks hstrict =>
    exact .headingWithMarks htype hnodes hmarks (h.strict_of_strict hstrict)
  | childrenWithoutSlot nodes htarget hpolicy =>
    exact .childrenWithoutSlot nodes htarget (h.error_of_error hpolicy)

theorem documentToRaw_of_relaxesTo {o o' : Options} (h : o.RelaxesTo o') {d : Node} {raw : Json}
    (hraw : (d.documentToRaw o).result = .ok raw) : (d.documentToRaw o').result = .ok raw := by
  obtain ⟨nodes, rfl, hjudge, rfl⟩ := documentToRaw_result_eq_ok.mp hraw
  refine documentToRaw_result_eq_ok.mpr ⟨nodes, rfl, ?_, by rw [h.ns_eq, h.xmlns_eq]⟩
  intro m hm
  rw [judge_eq_ok_iff]
  intro fault hfault
  exact judge_eq_ok_iff.mp (hjudge m hm) fault (hfault.of_relaxesTo h)

mutual
/-- The tree in which no element without a place for children declares any. -/
def strip : Node → Node
  | .text s marks => .text s marks
  | .element type none href => .element type none href
  | .element type (some nodes) href =>
    .element type (if slotlessElements.contains type then none else some (stripAll nodes)) href
  | .document nodes => .document (stripAll nodes)

def stripAll : List Node → List Node
  | [] => []
  | n :: rest => n.strip :: stripAll rest
end

theorem strip_slotless {type : String} (h : type ∈ slotlessElements) (nodes : Option (List Node))
    (href : Json) : (element type nodes href).strip = element type none href := by
  cases nodes with
  | none => rfl
  | some nodes => simp [strip, h]

theorem strip_element {type : String} (h : type ∉ slotlessElements) (nodes : Option (List Node))
    (href : Json) :
    (element type nodes href).strip = element type (nodes.map stripAll) href := by
  cases nodes with
  | none => rfl
  | some nodes => simp [strip, h]

theorem getD_map_stripAll (nodes : Option (List Node)) :
    (nodes.map stripAll).getD [] = stripAll (nodes.getD []) := by
  cases nodes <;> rfl

theorem strip_eq_text {n : Node} {s : String} {marks : Marks} :
    n.strip = text s marks ↔ n = text s marks := by
  cases n with
  | text s' marks' => rfl
  | element type nodes href => cases nodes <;> simp [strip]
  | document nodes => simp [strip]

theorem stripAll_eq_cons_text {nodes rest : List Node} {s : String} {marks : Marks} :
    stripAll nodes = text s marks :: rest ↔
      ∃ below, nodes = text s marks :: below ∧ stripAll below = rest := by
  cases nodes with
  | nil => simp [stripAll]
  | cons n more => simp [stripAll, strip_eq_text, and_assoc]

theorem stripAll_eq_nil {nodes : List Node} : stripAll nodes = [] ↔ nodes = [] := by
  cases nodes <;> simp [stripAll]

theorem leadingText_stripAll (nodes : List Node) :
    leadingText (stripAll nodes) = leadingText nodes := by
  cases nodes with
  | nil => rfl
  | cons n rest =>
    cases n with
    | element type nodes href => cases nodes <;> rfl
    | _ => rfl

/-- An element without a place for children is at fault if it has some that are refused. -/
theorem AtFault.of_slotless {o : Options} {type : String} (htype : type ∈ slotlessElements)
    {nodes : Option (List Node)} {href : Json} {fault : ConversionFault}
    (h : AtFault o (element type nodes href) fault) :
    nodes.isSome ∧ o.childlessPolicy = .error := by
  have hother : ∀ type ∈ slotlessElements, type ∉ headingElements ∧ type ≠ "link" := by decide
  obtain ⟨hheading, hlink⟩ := hother type htype
  cases h with
  | unknownType hunknown => exact absurd (by simp [htype]) hunknown
  | missingReference nodes => exact absurd rfl hlink
  | headingWithoutText h _ => exact absurd h hheading
  | headingWithSiblings h _ _ _ => exact absurd h hheading
  | headingWithMarks h _ _ _ => exact absurd h hheading
  | childrenWithoutSlot nodes _ hpolicy => exact ⟨rfl, hpolicy⟩

/-- Stripping what stands below an element changes nothing about the element itself. -/
theorem atFault_map_stripAll {o o' : Options} (hstrict : o.strictHeadings = o'.strictHeadings)
    {type : String} (htype : type ∉ slotlessElements) {nodes : Option (List Node)} {href : Json}
    {fault : ConversionFault} :
    AtFault o (element type (nodes.map stripAll) href) fault ↔
      AtFault o' (element type nodes href) fault := by
  have hbelow := getD_map_stripAll nodes
  constructor
  · intro h
    generalize nodes.map stripAll = inner at h hbelow
    cases h with
    | unknownType hunknown => exact .unknownType hunknown
    | missingReference _ => exact .missingReference nodes
    | headingWithoutText hheading htext =>
      refine .headingWithoutText hheading fun s marks rest hnodes => ?_
      refine htext s marks (stripAll rest) ?_
      rw [hbelow, hnodes]
      rfl
    | headingWithSiblings hheading hnodes hrest ho =>
      rw [hbelow, stripAll_eq_cons_text] at hnodes
      obtain ⟨below, hnodes, rfl⟩ := hnodes
      exact .headingWithSiblings hheading hnodes (mt stripAll_eq_nil.mpr hrest) (hstrict ▸ ho)
    | headingWithMarks hheading hnodes hmarks ho =>
      rw [hbelow, stripAll_eq_cons_text] at hnodes
      obtain ⟨below, hnodes, hnil⟩ := hnodes
      rw [stripAll_eq_nil.mp hnil] at hnodes
      exact .headingWithMarks hheading hnodes hmarks (hstrict ▸ ho)
    | childrenWithoutSlot _ htarget _ => exact absurd htarget.mem_slotlessElements htype
  · intro h
    cases h with
    | unknownType hunknown => exact .unknownType hunknown
    | missingReference _ => exact .missingReference _
    | headingWithoutText hheading htext =>
      refine .headingWithoutText hheading fun s marks rest hnodes => ?_
      rw [hbelow, stripAll_eq_cons_text] at hnodes
      obtain ⟨below, hnodes, -⟩ := hnodes
      exact htext s marks below hnodes
    | headingWithSiblings hheading hnodes hrest ho =>
      refine .headingWithSiblings hheading (hbelow.trans (congrArg stripAll hnodes)) ?_
        (hstrict ▸ ho)
      exact mt stripAll_eq_nil.mp hrest
    | headingWithMarks hheading hnodes hmarks ho =>
      exact .headingWithMarks hheading (hbelow.trans (congrArg stripAll hnodes)) hmarks
        (hstrict ▸ ho)
    | childrenWithoutSlot _ htarget _ => exact absurd htarget.mem_slotlessElements htype

/-- Where children are refused after stripping, those faults remain that dropping leaves. -/
theorem atFault_strip {o : Options} {n : Node} {fault : ConversionFault} :
    AtFault { o with childlessPolicy := .error } n.strip fault ↔
      AtFault { o with childlessPolicy := .drop } n fault := by
  cases n with
  | text s marks => exact iff_of_false nofun nofun
  | document nodes =>
    constructor
    · rintro ⟨⟩
      exact .nestedDocument nodes
    · rintro ⟨⟩
      exact .nestedDocument (stripAll nodes)
  | element type nodes href =>
    by_cases htype : type ∈ slotlessElements
    · rw [strip_slotless htype]
      refine iff_of_false (fun h => ?_) (fun h => ?_)
      · cases (h.of_slotless htype).1
      · cases (h.of_slotless htype).2
    · rw [strip_element htype]
      refine atFault_map_stripAll ?_ htype
      rfl

theorem liveChildren_strip (n : Node) : n.strip.liveChildren = stripAll n.liveChildren := by
  cases n with
  | text s marks => rfl
  | document nodes => rfl
  | element type nodes href =>
    by_cases htype : type ∈ slotlessElements
    · have hstop : keepsChildren type = false := by simp [keepsChildren, htype]
      rw [strip_slotless htype, liveChildren_of_stop hstop, liveChildren_of_stop hstop, stripAll]
    · rw [strip_element htype, liveChildren, liveChildren, getD_map_stripAll]
      split <;> rfl

theorem liveAll_stripAll_of_forall {nodes : List Node}
    (h : ∀ n ∈ nodes, n.strip.live = n.live.map strip) :
    liveAll (stripAll nodes) = (liveAll nodes).map strip := by
  induction nodes with
  | nil => rfl
  | cons n rest ih =>
    obtain ⟨hn, hrest⟩ := List.forall_mem_cons.mp h
    rw [stripAll, liveAll, liveAll, hn, ih hrest, List.map_append]

theorem live_strip (n : Node) : n.strip.live = n.live.map strip := by
  induction n using induct_live with
  | step n ih =>
    rw [live_eq, live_eq, liveChildren_strip, liveAll_stripAll_of_forall ih, List.map_cons]

theorem rawImageAll_stripAll_of_forall {ns : String} {nodes : List Node}
    (h : ∀ n ∈ nodes, n.strip.rawImage ns = n.rawImage ns) :
    rawImageAll ns (stripAll nodes) = rawImageAll ns nodes := by
  induction nodes with
  | nil => rfl
  | cons n rest ih =>
    obtain ⟨hn, hrest⟩ := List.forall_mem_cons.mp h
    rw [stripAll, rawImageAll, rawImageAll, hn, ih hrest]

theorem rawElement_stripAll (ns type : String) (href : Json) (nodes : List Node)
    (children : List Json) :
    rawElement ns type href (stripAll nodes) children = rawElement ns type href nodes children := by
  unfold rawElement
  rw [leadingText_stripAll]

/-- The image of a tree holds nothing of what stripping takes out. -/
theorem rawImage_strip (ns : String) (n : Node) : n.strip.rawImage ns = n.rawImage ns := by
  induction n using induct_children with
  | step n ih =>
    cases n with
    | text s marks => rfl
    | document nodes => rfl
    | element type nodes href =>
      have hbelow := rawImageAll_stripAll_of_forall ih
      by_cases htype : type ∈ slotlessElements
      · obtain ⟨target, htarget⟩ := exists_leafTarget htype
        rw [strip_slotless htype, rawImage_element, rawImage_element,
          rawElement_leaf ns htarget, rawElement_leaf ns htarget]
      · rw [strip_element htype, rawImage_element, rawImage_element, getD_map_stripAll]
        rw [children] at hbelow
        rw [hbelow, rawElement_stripAll]

theorem firstAtFault_stripAll {o : Options} {nodes : List Node} {n : Node}
    {fault : ConversionFault} (h : FirstAtFault { o with childlessPolicy := .drop } nodes n fault) :
    FirstAtFault { o with childlessPolicy := .error } (stripAll nodes) n.strip fault := by
  obtain ⟨front, back, hsplit, hfront, hfault⟩ := h
  refine ⟨front.map strip, back.map strip, ?_, ?_, atFault_strip.mpr hfault⟩
  · rw [liveAll_stripAll_of_forall fun n _ => live_strip n, hsplit, List.map_append, List.map_cons]
  · intro m hm other hother
    obtain ⟨k, hk, rfl⟩ := List.mem_map.mp hm
    exact hfront k hk other (atFault_strip.mp hother)

/-- Dropping children and stripping them first end alike: with the same raw tree or with the same
fault, found at the same node but for what was stripped. -/
theorem documentToRaw_strip (o : Options) (d : Node) :
    (∃ raw, (d.documentToRaw { o with childlessPolicy := .drop }).result = .ok raw ∧
      (d.strip.documentToRaw { o with childlessPolicy := .error }).result = .ok raw) ∨
    ∃ fault n, (d.documentToRaw { o with childlessPolicy := .drop }).result =
        .error ⟨fault, .slate n⟩ ∧
      (d.strip.documentToRaw { o with childlessPolicy := .error }).result =
        .error ⟨fault, .slate n.strip⟩ := by
  cases d with
  | text s marks => exact .inr ⟨_, _, rfl, rfl⟩
  | element type nodes href =>
    refine .inr ⟨.unrecognized .notDocument, element type nodes href, rfl, ?_⟩
    cases nodes <;> rfl
  | document nodes =>
    cases hresult : ((document nodes).documentToRaw { o with childlessPolicy := .drop }).result with
    | ok raw =>
      obtain ⟨_, hnodes, hjudge, hraw⟩ := documentToRaw_result_eq_ok.mp hresult
      obtain rfl := Node.document.inj hnodes
      refine .inl ⟨raw, rfl, documentToRaw_result_eq_ok.mpr ⟨stripAll nodes, rfl, ?_, ?_⟩⟩
      · intro m hm
        rw [liveAll_stripAll_of_forall fun n _ => live_strip n] at hm
        obtain ⟨k, hk, rfl⟩ := List.mem_map.mp hm
        rw [judge_eq_ok_iff]
        intro fault hfault
        exact judge_eq_ok_iff.mp (hjudge k hk) fault (atFault_strip.mp hfault)
      · rw [hraw, rawImageAll_stripAll_of_forall fun n _ => rawImage_strip o.ns n]
    | error e =>
      obtain ⟨n, fault, hfirst, rfl⟩ := documentToRaw_result_eq_error.mp hresult
      exact .inr ⟨fault, n, rfl,
        documentToRaw_result_eq_error.mpr ⟨n.strip, fault, firstAtFault_stripAll hfirst, rfl⟩⟩

/-- Options that refuse less keep every result, and dropping children is stripping them first. -/
theorem documentToRaw_relaxed_stripped (o : Options) (d : Node) :
    (∀ o' raw, o.RelaxesTo o' → (d.documentToRaw o).result = .ok raw →
      (d.documentToRaw o').result = .ok raw) ∧
    ((∃ raw, (d.documentToRaw { o with childlessPolicy := .drop }).result = .ok raw ∧
        (d.strip.documentToRaw { o with childlessPolicy := .error }).result = .ok raw) ∨
      ∃ fault n, (d.documentToRaw { o with childlessPolicy := .drop }).result =
          .error ⟨fault, .slate n⟩ ∧
        (d.strip.documentToRaw { o with childlessPolicy := .error }).result =
          .error ⟨fault, .slate n.strip⟩) :=
  ⟨fun _ _ hrelaxes hraw => documentToRaw_of_relaxesTo hrelaxes hraw, documentToRaw_strip o d⟩

/-- A heading and a quote that are converted whatever is refused. -/
theorem documentToRaw_relaxed_stripped_heading :
    ((document [element "heading_one" (some [text "a" .none]) .null,
        element "quote" none .null]).documentToRaw
      { Options.default with childlessPolicy := .drop }).result =
    .ok (CommonMark.rawNode CommonMark.defaultNamespace .document [("xmlns", .str "slate"),
      ("nodes", .arr [
        CommonMark.rawNode CommonMark.defaultNamespace .heading
          [("level", .int 1), ("text", .str "a")],
        CommonMark.rawNode CommonMark.defaultNamespace .blockQuote []])]) := by
  have hrelaxes : Options.RelaxesTo { Options.default with strictHeadings := true }
      { Options.default with childlessPolicy := .drop } :=
    ⟨rfl, rfl, fun _ => rfl, fun _ => rfl⟩
  exact (documentToRaw_relaxed_stripped { Options.default with strictHeadings := true } _).1 _ _
    hrelaxes rfl

end Slate.Node

end SlateMark
