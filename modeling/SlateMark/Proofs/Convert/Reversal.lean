import SlateMark.Proofs.Convert.Agreement
import SlateMark.Proofs.Convert.Refusal

/-!
The reverse conversion followed by the forward one. A CommonMark tree is either refused as
unsupported, or becomes nodes that correspond to it but for the titles of links, and nothing is
wrong with these nodes under any options.
-/
namespace SlateMark

open Slate (listElements)

namespace CommonMark.Node

mutual
/-- The tree with all titles of links empty. -/
def untitled : Node → Node
  | .document nodes xmlns => .document (untitledAll nodes) xmlns
  | .paragraph nodes => .paragraph (untitledAll nodes)
  | .blockQuote none => .blockQuote none
  | .blockQuote (some nodes) => .blockQuote (some (untitledAll nodes))
  | .list type tight nodes => .list type tight (untitledAll nodes)
  | .item nodes => .item (untitledAll nodes)
  | .link destination _ nodes => .link destination "" (untitledAll nodes)
  | .strong nodes => .strong (untitledAll nodes)
  | .emph nodes => .emph (untitledAll nodes)
  | leaf => leaf

def untitledAll : List Node → List Node
  | [] => []
  | n :: rest => n.untitled :: untitledAll rest
end

theorem untitled_ofRun (s : String) (marks : Slate.Marks) :
    (ofRun s marks).untitled = ofRun s marks := by
  obtain ⟨bold, italic, code⟩ := marks
  cases bold <;> cases italic <;> cases code <;> rfl

theorem untitled_leaf {type : String} {target : Node} (h : LeafTarget type target) :
    target.untitled = target := by
  cases h <;> rfl

/-- The node is refused, or what it becomes corresponds to it without titles and is accepted. -/
def Reverses (n : Node) : Prop :=
  Refused n.toSlate.result ∨
    ∃ s, n.toSlate.result = .ok s ∧ Corresponds [s] [n.untitled] ∧
      ∀ o, ∀ m ∈ s.live, (Slate.Node.judge o m).result = .ok ()

def ReversesAll (nodes : List Node) : Prop :=
  Refused (toSlateAll nodes).result ∨
    ∃ sources, (toSlateAll nodes).result = .ok sources ∧ Corresponds sources (untitledAll nodes) ∧
      ∀ o, ∀ m ∈ Slate.Node.liveAll sources, (Slate.Node.judge o m).result = .ok ()

theorem reversesAll_of_forall {nodes : List Node} (h : ∀ n ∈ nodes, n.Reverses) :
    ReversesAll nodes := by
  induction nodes with
  | nil => exact .inr ⟨[], rfl, .nil, by simp [Slate.Node.liveAll]⟩
  | cons n rest ih =>
    obtain ⟨hn, hrest⟩ := List.forall_mem_cons.mp h
    rcases hn with hrefused | ⟨s, hs, hcorr, hjudge⟩
    · exact .inl (toSlateAll_refused_head hrefused rest)
    · rcases ih hrest with hrefused | ⟨sources, hsources, hcorrs, hjudges⟩
      · exact .inl (toSlateAll_refused_tail hs hrefused)
      · refine .inr ⟨s :: sources, ?_, hcorr.cons hcorrs, ?_⟩
        · rw [toSlateAll_cons_result, hs, hsources]
          rfl
        · intro o
          rw [Slate.Node.liveAll, List.forall_mem_append]
          exact ⟨hjudge o, hjudges o⟩

end CommonMark.Node

namespace Slate.Node

theorem judge_leaf (o : Options) {type : String} {target : CommonMark.Node}
    (h : LeafTarget type target) :
    (judge o (.element type none .null)).result = .ok () := by
  cases h <;> rfl

theorem judge_heading (o : Options) {type : String} {level : Int}
    (h : (level, type) ∈ Mapping.headingTypes) (s : String) :
    (judge o (.element type (some [.text s .none]) .null)).result = .ok () := by
  obtain ⟨ns, xmlns, policy, strict, dotted⟩ := o
  simp only [Mapping.headingTypes_eq, List.mem_cons, List.not_mem_nil, or_false,
    Prod.mk.injEq] at h
  rcases h with ⟨-, rfl⟩ | ⟨-, rfl⟩ | ⟨-, rfl⟩ | ⟨-, rfl⟩ | ⟨-, rfl⟩ | ⟨-, rfl⟩ <;>
    cases strict <;> rfl

theorem judge_wraps (o : Options) {type : String} {href : Json}
    {wrap : List CommonMark.Node → CommonMark.Node} (h : Wraps type href wrap)
    (nodes : Option (List Node)) :
    (judge o (.element type nodes href)).result = .ok () := by
  cases h <;> rfl

end Slate.Node

theorem Wraps.kept {type : String} {href : Json}
    {wrap : List CommonMark.Node → CommonMark.Node} (h : Wraps type href wrap) :
    Wraps type (keptReference type href) wrap := by
  cases h with
  | paragraph => exact .paragraph .null
  | blockQuote => exact .blockQuote .null
  | orderedList => exact .orderedList .null
  | bulletList => exact .bulletList .null
  | item => exact .item .null
  | link s => exact .link s

namespace CommonMark.Node

theorem reverses_leaf {type : String} {target : Node} (h : LeafTarget type target) :
    target.Reverses := by
  refine .inr ⟨.element type none .null, toSlate_leaf h, ?_, ?_⟩
  · rw [untitled_leaf h]
    exact .leaf none .null h .nil
  · intro o
    simpa [Slate.Node.live] using Slate.Node.judge_leaf o h

theorem reverses_heading (level : Int) (s : String) : (heading level s).Reverses := by
  by_cases h : ∃ type, (level, type) ∈ Mapping.headingTypes
  · obtain ⟨type, htype⟩ := h
    refine .inr ⟨.element type (some [.text s .none]) .null, toSlate_heading htype s, ?_, ?_⟩
    · exact .heading s .none [] .null htype .nil
    · intro o
      have hlive : (Slate.Node.element type (some [.text s .none]) .null).live =
          [.element type (some [.text s .none]) .null] := by
        simp [Slate.Node.live, Mapping.keepsChildren_of_mem_headingTypes htype]
      rw [hlive, List.forall_mem_singleton]
      exact Slate.Node.judge_heading o htype s
  · left
    have hnone : Mapping.headingType? level = none := by
      apply List.lookup_eq_none_iff.mpr
      rintro ⟨level', type⟩ hrow
      rw [bne_iff_ne]
      rintro rfl
      exact h ⟨type, hrow⟩
    simp only [toSlate, headingToSlate, hnone]
    exact .of_unsupported _ (.headingLevel level)

theorem reverses_inline {n : Node} (h : n.toSlate = n.inlineToSlate) : n.Reverses := by
  have hresult : n.toSlate.result = n.collapse.map fun run => .text run.1 run.2 := by
    rw [h]
    rfl
  rcases n.collapse_cases with ⟨s, marks, hrun, hn⟩ | ⟨e, cause, herror, hfault⟩
  · rw [hrun] at hresult
    refine .inr ⟨.text s marks, hresult, ?_, ?_⟩
    · rw [hn, untitled_ofRun]
      exact .run s marks .nil
    · intro o
      simp [Slate.Node.live, Slate.Node.judge]
  · refine .inl ⟨e, cause, ?_, hfault⟩
    rw [hresult, herror]
    rfl

theorem reverses_wraps {n : Node} {type : String} {href : Json} {wrap : List Node → Node}
    (hwrap : Wraps type href wrap) {inner : List Node}
    (htoSlate : n.toSlate.result = (wrap inner).toSlate.result)
    (huntitled : n.untitled = wrap (untitledAll inner))
    (hitems : type ∈ listElements → ∀ c ∈ inner, c.isItem) (hinner : ReversesAll inner) :
    n.Reverses := by
  rw [toSlate_wraps hwrap hitems] at htoSlate
  rcases hinner with hrefused | ⟨nodes, hnodes, hcorr, hjudge⟩
  · left
    rw [htoSlate]
    exact hrefused.map _
  · rw [hnodes] at htoSlate
    refine .inr ⟨.element type (some nodes) (keptReference type href), htoSlate, ?_, ?_⟩
    · rw [huntitled]
      exact .container hwrap.kept hcorr .nil
    · intro o
      rw [Slate.Node.live_eq, List.forall_mem_cons,
        Slate.Node.liveChildren_of_container hwrap.mem_containerElements]
      exact ⟨Slate.Node.judge_wraps o hwrap.kept (some nodes), hjudge o⟩

theorem reverses_list (type : String) (tight : Bool) {nodes : List Node}
    (hinner : ReversesAll nodes) : (list type tight nodes).Reverses := by
  by_cases h : tight = true ∧ (∃ source, Mapping.listType? type = some source) ∧
      ∀ c ∈ nodes, c.isItem
  · obtain ⟨rfl, ⟨source, hsource⟩, hitems⟩ := h
    rcases Mapping.listType?_eq_some hsource with rfl | rfl
    · exact reverses_wraps (.orderedList .null) rfl rfl (fun _ => hitems) hinner
    · exact reverses_wraps (.bulletList .null) rfl rfl (fun _ => hitems) hinner
  · exact .inl (toSlate_list_refused h)

/-- The children take part because an item is taken apart together with its paragraph. -/
theorem reverses (n : Node) :
    (∀ m ∈ n.preorder, m.tag ≠ .document) → n.Reverses ∧ ReversesAll n.children := by
  induction n using induct_children with
  | step n ih =>
    intro h
    obtain ⟨hown, hbelow⟩ := (forall_preorder_iff n).mp h
    have hchildren : ReversesAll n.children :=
      reversesAll_of_forall fun c hc => (ih c hc (hbelow c hc)).1
    refine ⟨?_, hchildren⟩
    cases n with
    | document nodes xmlns => exact absurd rfl hown
    | paragraph nodes =>
      exact reverses_wraps (.paragraph .null) rfl rfl (by simp [listElements]) hchildren
    | blockQuote nodes? =>
      cases nodes? with
      | none => exact reverses_leaf .quote
      | some nodes =>
        exact reverses_wraps (.blockQuote .null) rfl rfl (by simp [listElements]) hchildren
    | thematicBreak => exact reverses_leaf .horizontalRule
    | heading level s => exact reverses_heading level s
    | codeBlock s =>
      cases s with
      | none => exact reverses_leaf .codeBlock
      | some s => exact .inl (.of_unsupported _ (.leafWithText .codeBlock))
    | htmlBlock s =>
      cases s with
      | none => exact reverses_leaf .htmlBlock
      | some s => exact .inl (.of_unsupported _ (.leafWithText .htmlBlock))
    | htmlInline s =>
      cases s with
      | none => exact reverses_leaf .htmlInline
      | some s => exact .inl (.of_unsupported _ (.leafWithText .htmlInline))
    | list type tight nodes => exact reverses_list type tight hchildren
    | item nodes =>
      by_cases hshape : ∃ inner, nodes = [paragraph inner]
      · obtain ⟨inner, rfl⟩ := hshape
        have hparagraph := (ih (paragraph inner) (by simp [children, children?])
          (hbelow (paragraph inner) (by simp [children, children?]))).2
        exact reverses_wraps (.item .null) rfl rfl (by simp [listElements]) hparagraph
      · exact .inl (toSlate_item_refused hshape)
    | link destination title nodes =>
      have htitle := toSlate_link_result destination title nodes
      exact reverses_wraps (.link destination) htitle rfl (by simp [listElements]) hchildren
    | text s => exact reverses_inline rfl
    | code s => exact reverses_inline rfl
    | strong nodes => exact reverses_inline rfl
    | emph nodes => exact reverses_inline rfl

end CommonMark.Node

/-- A tree is refused as unsupported, or comes back with empty titles under any options. -/
theorem slateToCommonMark_of_commonMarkToSlate (o : Options) {nodes : List CommonMark.Node}
    (h : ∀ n ∈ nodes, ∀ m ∈ n.preorder, m.tag ≠ .document) (xmlns : String) :
    (∃ e, (commonMarkToSlate (.document nodes xmlns)).result = .error e ∧
      e.kind? = some .unsupportedStructure) ∨
    ∃ d, (commonMarkToSlate (.document nodes xmlns)).result = .ok d ∧
      (slateToCommonMark o d).result =
        .ok (.document (CommonMark.Node.untitledAll nodes) o.xmlns) := by
  rcases CommonMark.Node.reversesAll_of_forall fun n hn => (n.reverses (h n hn)).1 with
    hrefused | ⟨sources, hsources, hcorr, hjudge⟩
  · exact .inl (commonMarkToSlate_refused hrefused xmlns)
  · refine .inr ⟨.document sources, ?_, slateToCommonMark_of_corresponds (hjudge o) hcorr⟩
    rw [commonMarkToSlate_result, hsources]
    rfl

theorem slateToCommonMark_of_commonMarkToSlate_link :
    ∃ d, (commonMarkToSlate (.document [.link "u" "t" [.strong [.text "a"]]] "x")).result = .ok d ∧
      (slateToCommonMark Options.default d).result =
        .ok (.document [.link "u" "" [.strong [.text "a"]]] "slate") := by
  have hok : (commonMarkToSlate (.document [.link "u" "t" [.strong [.text "a"]]] "x")).result =
      .ok (.document [.element "link" (some [.text "a" ⟨true, false, false⟩]) (.str "u")]) := by
    rfl
  refine (slateToCommonMark_of_commonMarkToSlate Options.default ?_ "x").resolve_left ?_
  · simp [CommonMark.Node.preorder, CommonMark.Node.preorderAll, CommonMark.Node.tag]
  · rintro ⟨e, he, -⟩
    rw [hok] at he
    cases he

end SlateMark
