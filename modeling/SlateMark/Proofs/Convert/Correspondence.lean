import SlateMark.Proofs.CommonMark.Encoding
import SlateMark.Proofs.Convert.Inline
import SlateMark.Proofs.Convert.Walk

/-!
Which editor trees become which CommonMark trees, told by one rule for each kind of node and
without raw trees. The image of a tree is the raw form of the tree that corresponds to it, and such
a tree exists wherever nothing is wrong and every reference is a text.
-/
namespace SlateMark

open Slate

/-- What the elements without a place for children become. -/
inductive LeafTarget : String → CommonMark.Node → Prop
  | quote : LeafTarget "quote" (.blockQuote none)
  | horizontalRule : LeafTarget "horizontal_rule" .thematicBreak
  | codeBlock : LeafTarget "code_block" (.codeBlock none)
  | htmlBlock : LeafTarget "html_block" (.htmlBlock none)
  | htmlInline : LeafTarget "html_inline" (.htmlInline none)

/-- How an element of a type is put around what its children become. -/
inductive Wraps : String → Json → (List CommonMark.Node → CommonMark.Node) → Prop
  | paragraph (href : Json) : Wraps "paragraph" href .paragraph
  | blockQuote (href : Json) : Wraps "block_quote" href fun inner => .blockQuote (some inner)
  | orderedList (href : Json) : Wraps "ol_list" href (.list "ordered" true)
  | bulletList (href : Json) : Wraps "ul_list" href (.list "bullet" true)
  | item (href : Json) : Wraps "list_item" href fun inner => .item [.paragraph inner]
  | link (s : String) : Wraps "link" (.str s) (.link s "")

inductive Corresponds : List Slate.Node → List CommonMark.Node → Prop
  | nil : Corresponds [] []
  | run {rest : List Slate.Node} {items : List CommonMark.Node} (s : String) (marks : Marks)
      (hrest : Corresponds rest items) :
      Corresponds (.text s marks :: rest) (.ofRun s marks :: items)
  | leaf {rest : List Slate.Node} {items : List CommonMark.Node} {type : String}
      {target : CommonMark.Node} (nodes : Option (List Slate.Node)) (href : Json)
      (htype : LeafTarget type target) (hrest : Corresponds rest items) :
      Corresponds (.element type nodes href :: rest) (target :: items)
  | heading {rest : List Slate.Node} {items : List CommonMark.Node} {type : String} {level : Int}
      (s : String) (marks : Marks) (more : List Slate.Node) (href : Json)
      (htype : (level, type) ∈ Mapping.headingTypes) (hrest : Corresponds rest items) :
      Corresponds (.element type (some (.text s marks :: more)) href :: rest)
        (.heading level s :: items)
  | container {rest : List Slate.Node} {items inner : List CommonMark.Node} {type : String}
      {nodes : Option (List Slate.Node)} {href : Json}
      {wrap : List CommonMark.Node → CommonMark.Node} (hwrap : Wraps type href wrap)
      (hinner : Corresponds (nodes.getD []) inner) (hrest : Corresponds rest items) :
      Corresponds (.element type nodes href :: rest) (wrap inner :: items)

theorem exists_leafTarget {type : String} (h : type ∈ slotlessElements) :
    ∃ target, LeafTarget type target := by
  simp only [slotlessElements, List.mem_cons, List.not_mem_nil, or_false] at h
  rcases h with rfl | rfl | rfl | rfl | rfl
  · exact ⟨_, .quote⟩
  · exact ⟨_, .horizontalRule⟩
  · exact ⟨_, .codeBlock⟩
  · exact ⟨_, .htmlBlock⟩
  · exact ⟨_, .htmlInline⟩

theorem exists_wraps {type : String} {href : Json} (htype : type ∈ containerElements)
    (hlink : type = "link" → ∃ s, href = .str s) : ∃ wrap, Wraps type href wrap := by
  simp only [containerElements, List.mem_cons, List.not_mem_nil, or_false] at htype
  rcases htype with rfl | rfl | rfl | rfl | rfl | rfl
  · exact ⟨_, .paragraph href⟩
  · exact ⟨_, .blockQuote href⟩
  · exact ⟨_, .orderedList href⟩
  · exact ⟨_, .bulletList href⟩
  · exact ⟨_, .item href⟩
  · obtain ⟨s, rfl⟩ := hlink rfl
    exact ⟨_, .link s⟩

theorem LeafTarget.mem_slotlessElements {type : String} {target : CommonMark.Node}
    (h : LeafTarget type target) : type ∈ slotlessElements := by
  cases h <;> decide

theorem LeafTarget.keepsChildren_eq {type : String} {target : CommonMark.Node}
    (h : LeafTarget type target) : keepsChildren type = false := by
  cases h <;> decide

theorem Wraps.mem_containerElements {type : String} {href : Json}
    {wrap : List CommonMark.Node → CommonMark.Node} (h : Wraps type href wrap) :
    type ∈ containerElements := by
  cases h <;> decide

namespace Slate.Node

theorem rawElement_leaf (ns : String) {type : String} {target : CommonMark.Node}
    (h : LeafTarget type target) (href : Json) (nodes : List Node) (children : List Json) :
    rawElement ns type href nodes children = target.toRaw ns := by
  cases h <;> rfl

theorem rawElement_heading (ns : String) {type : String} {level : Int}
    (h : (level, type) ∈ Mapping.headingTypes) (href : Json) (nodes : List Node)
    (children : List Json) :
    rawElement ns type href nodes children =
      (CommonMark.Node.heading level (leadingText nodes)).toRaw ns := by
  simp only [Mapping.headingTypes_eq, List.mem_cons, List.not_mem_nil, or_false, Prod.mk.injEq] at h
  rcases h with ⟨rfl, rfl⟩ | ⟨rfl, rfl⟩ | ⟨rfl, rfl⟩ | ⟨rfl, rfl⟩ | ⟨rfl, rfl⟩ | ⟨rfl, rfl⟩ <;> rfl

theorem rawElement_wraps (ns : String) {type : String} {href : Json}
    {wrap : List CommonMark.Node → CommonMark.Node} (h : Wraps type href wrap) (nodes : List Node)
    (inner : List CommonMark.Node) :
    rawElement ns type href nodes (CommonMark.Node.toRawAll ns inner) = (wrap inner).toRaw ns := by
  cases h <;> rfl

end Slate.Node

theorem LeafTarget.inRange {type : String} {target : CommonMark.Node}
    (h : LeafTarget type target) : ∀ m ∈ target.preorder, m.ValuesInRange := by
  cases h <;> simp [CommonMark.Node.preorder, CommonMark.Node.ValuesInRange]

theorem inRange_of_mem_headingTypes {type : String} {level : Int}
    (h : (level, type) ∈ Mapping.headingTypes) : 1 ≤ level ∧ level ≤ 6 := by
  have hrow : ∀ row ∈ Mapping.headingTypes, 1 ≤ row.1 ∧ row.1 ≤ 6 := by decide
  exact hrow (level, type) h

theorem Wraps.inRange {type : String} {href : Json}
    {wrap : List CommonMark.Node → CommonMark.Node} (h : Wraps type href wrap)
    {inner : List CommonMark.Node}
    (hinner : ∀ m ∈ CommonMark.Node.preorderAll inner, m.ValuesInRange) :
    ∀ m ∈ (wrap inner).preorder, m.ValuesInRange := by
  cases h <;>
    simpa [CommonMark.Node.preorder, CommonMark.Node.preorderAll, CommonMark.Node.ValuesInRange]
      using hinner

namespace Corresponds

variable {nodes : List Slate.Node} {items : List CommonMark.Node}

theorem rawImageAll_eq (h : Corresponds nodes items) (ns : String) :
    Slate.Node.rawImageAll ns nodes = CommonMark.Node.toRawAll ns items := by
  induction h with
  | nil => rfl
  | run s marks _ ih =>
    rw [Slate.Node.rawImageAll, ih, Slate.Node.rawImage, CommonMark.Node.rawRun_eq_toRaw]
    rfl
  | leaf nodes href htype _ ih =>
    rw [Slate.Node.rawImageAll, ih, Slate.Node.rawImage_element,
      Slate.Node.rawElement_leaf ns htype]
    rfl
  | heading s marks more href htype _ ih =>
    rw [Slate.Node.rawImageAll, ih, Slate.Node.rawImage_element,
      Slate.Node.rawElement_heading ns htype]
    rfl
  | container hwrap _ _ ihinner ih =>
    rw [Slate.Node.rawImageAll, ih, Slate.Node.rawImage_element, ihinner,
      Slate.Node.rawElement_wraps ns hwrap]
    rfl

theorem inRange (h : Corresponds nodes items) :
    ∀ m ∈ CommonMark.Node.preorderAll items, m.ValuesInRange := by
  induction h with
  | nil => simp [CommonMark.Node.preorderAll]
  | run s marks _ ih =>
    rw [CommonMark.Node.preorderAll, List.forall_mem_append]
    exact ⟨CommonMark.Node.ofRun_inRange s marks, ih⟩
  | leaf nodes href htype _ ih =>
    rw [CommonMark.Node.preorderAll, List.forall_mem_append]
    exact ⟨htype.inRange, ih⟩
  | heading s marks more href htype _ ih =>
    rw [CommonMark.Node.preorderAll, List.forall_mem_append, CommonMark.Node.preorder]
    exact ⟨by simpa [CommonMark.Node.ValuesInRange] using inRange_of_mem_headingTypes htype, ih⟩
  | container hwrap _ _ ihinner ih =>
    rw [CommonMark.Node.preorderAll, List.forall_mem_append]
    exact ⟨hwrap.inRange ihinner, ih⟩

/-- The image of a tree is read as the tree that corresponds to it. -/
theorem ofRawFrom_rawImageAll (h : Corresponds nodes items) (ns : String) :
    CommonMark.Node.ofRawFrom ns 0 (Slate.Node.rawImageAll ns nodes) = .ok items := by
  rw [h.rawImageAll_eq, CommonMark.Node.toRawAll_eq_map]
  rw [CommonMark.Node.ofRawFrom_eq_ok_iff]
  rw [List.forall₂_map_left_iff, List.forall₂_same]
  intro n hn
  apply CommonMark.Node.ofRaw_toRaw_of_inRange
  intro m hm
  exact h.inRange m (CommonMark.Node.mem_preorderAll.mpr ⟨n, hn, hm⟩)

theorem ofRaw_rawImage {n : Slate.Node} {item : CommonMark.Node} (h : Corresponds [n] [item])
    (ns : String) : CommonMark.Node.ofRaw ns (n.rawImage ns) = .ok item := by
  have himage : n.rawImage ns = item.toRaw ns := (List.cons.inj (h.rawImageAll_eq ns)).1
  rw [himage]
  apply CommonMark.Node.ofRaw_toRaw_of_inRange
  simpa [CommonMark.Node.preorderAll] using h.inRange

theorem cons {n : Slate.Node} {item : CommonMark.Node} (hn : Corresponds [n] [item])
    (h : Corresponds nodes items) : Corresponds (n :: nodes) (item :: items) := by
  cases hn with
  | run s marks _ => exact .run s marks h
  | leaf nodes href htype _ => exact .leaf nodes href htype h
  | heading s marks more href htype _ => exact .heading s marks more href htype h
  | container hwrap hinner _ => exact .container hwrap hinner h

end Corresponds

namespace Slate.Node

theorem exists_corresponds_of_forall {nodes : List Node}
    (h : ∀ n ∈ nodes, ∃ item, Corresponds [n] [item]) : ∃ items, Corresponds nodes items := by
  induction nodes with
  | nil => exact ⟨[], .nil⟩
  | cons n rest ih =>
    obtain ⟨⟨item, hitem⟩, hrest⟩ := List.forall_mem_cons.mp h
    obtain ⟨items, hitems⟩ := ih hrest
    exact ⟨item :: items, hitem.cons hitems⟩

theorem headingText_eq_ok {o : Options} {n : Node} {type : String} {nodes : List Node} {s : String}
    (h : (headingText o n type nodes).result = .ok s) :
    ∃ marks rest, nodes = .text s marks :: rest := by
  unfold headingText at h
  split at h
  case h_1 t marks rest =>
    have hs : t = s := by
      split at h
      · split at h
        · split at h
          · exact Except.ok.inj h
          · simp [Logged.fail] at h
        · simp [Logged.fail] at h
      · split at h
        · exact Except.ok.inj h
        · exact Except.ok.inj h
    exact ⟨marks, rest, by rw [hs]⟩
  case h_2 => simp [Logged.fail] at h

theorem ofType?_of_judge {o : Options} {type : String} {nodes : Option (List Node)}
    {reference : Json} (h : (judge o (element type nodes reference)).result = .ok ()) :
    ∃ m, Mapping.ofType? type = some m := by
  cases hm : Mapping.ofType? type with
  | none => simp [judge, hm, Logged.fail] at h
  | some m => exact ⟨m, rfl⟩

theorem judge_heading_eq_ok {o : Options} {type : String} {nodes : Option (List Node)}
    {reference : Json} {m : Mapping} {level : Int} (hm : Mapping.ofType? type = some m)
    (hlevel : m.headingLevel = some level)
    (h : (judge o (element type nodes reference)).result = .ok ()) :
    ∃ s marks rest, nodes = some (.text s marks :: rest) := by
  rw [judge_heading_result o hm hlevel] at h
  cases htext : (headingText o (element type nodes reference) type (nodes.getD [])).result with
  | error e => simp [htext, Except.map] at h
  | ok s =>
    obtain ⟨marks, rest, hnodes⟩ := headingText_eq_ok htext
    refine ⟨s, marks, rest, ?_⟩
    cases nodes with
    | none => simp at hnodes
    | some nodes => exact congrArg some hnodes

/-- A tree with nothing wrong at its live nodes and texts for references has a counterpart. -/
theorem exists_corresponds (o : Options) (n : Node) :
    (∀ m ∈ n.live, (judge o m).result = .ok ()) → (∀ m ∈ n.live, m.ReferenceIsText) →
      ∃ item, Corresponds [n] [item] := by
  induction n using induct_live with
  | step n ih =>
    intro hjudge href
    rw [live_eq, List.forall_mem_cons] at hjudge href
    cases n with
    | text s marks => exact ⟨_, .run s marks .nil⟩
    | document nodes => simp [judge, Logged.fail] at hjudge
    | element type nodes reference =>
      obtain ⟨m, hm⟩ := ofType?_of_judge hjudge.1
      rcases Mapping.element_cases hm with ⟨level, hlevel, htype⟩ | htype | htype
      · obtain ⟨s, marks, rest, rfl⟩ := judge_heading_eq_ok hm hlevel hjudge.1
        exact ⟨.heading level s, .heading s marks rest reference htype .nil⟩
      · obtain ⟨target, htarget⟩ := exists_leafTarget htype
        exact ⟨target, .leaf nodes reference htarget .nil⟩
      · obtain ⟨wrap, hwrap⟩ := exists_wraps htype href.1
        have hchildren := liveChildren_of_container htype nodes reference
        rw [hchildren] at ih hjudge href
        have hinner : ∃ inner, Corresponds (nodes.getD []) inner := by
          apply exists_corresponds_of_forall
          intro c hc
          apply ih c hc
          · exact fun k hk => hjudge.2 k (mem_liveAll.mpr ⟨c, hc, hk⟩)
          · exact fun k hk => href.2 k (mem_liveAll.mpr ⟨c, hc, hk⟩)
        obtain ⟨inner, hinner⟩ := hinner
        exact ⟨wrap inner, .container hwrap hinner .nil⟩

end Slate.Node

end SlateMark
