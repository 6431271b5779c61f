import SlateMark.Proofs.CommonMark.Census
import SlateMark.Proofs.Convert.Text

/-!
What a converted document holds. A walk over the tree meets the texts of the document in their
order, whatever is put around them, and a census of the tree tells how many nodes of each kind the
document has. Both are read off the live nodes of the document, without a look at the conversion:
the nodes below headings and below elements without a place for children do not count.
-/
namespace SlateMark

open Slate

namespace CommonMark

def WalkStep.text? : WalkStep → Option String
  | .text _ s => some s
  | _ => none

/-- The texts that a walk meets on its way. -/
def textsOf (steps : List WalkStep) : List String := steps.filterMap WalkStep.text?

@[simp] theorem textsOf_enter (tag : Tag) (rest : List WalkStep) :
    textsOf (.enter tag :: rest) = textsOf rest := rfl

@[simp] theorem textsOf_leave (tag : Tag) (rest : List WalkStep) :
    textsOf (.leave tag :: rest) = textsOf rest := rfl

@[simp] theorem textsOf_nil : textsOf [] = [] := rfl

@[simp] theorem textsOf_append (front back : List WalkStep) :
    textsOf (front ++ back) = textsOf front ++ textsOf back := List.filterMap_append

theorem Node.textsOf_ofRun (s : String) (marks : Marks) : textsOf (ofRun s marks).walk = [s] := by
  obtain ⟨bold, italic, code⟩ := marks
  cases bold <;> cases italic <;> cases code <;> rfl

end CommonMark

open CommonMark (Tag textsOf textsOf_append)

namespace Slate.Node

/-- The texts that a live node holds itself: a run its own, a heading that of its first child. -/
def ownTexts : Node → List String
  | .text s _ => [s]
  | .element type nodes _ =>
    if headingElements.contains type then [leadingText (nodes.getD [])] else []
  | .document _ => []

def liveTexts (n : Node) : List String := n.live.flatMap ownTexts

/-- An element of one of these types. -/
def isOf (types : List String) : Node → Bool
  | .element type _ _ => types.contains type
  | _ => false

/-- A run of text with marks like these. -/
def isRun (p : Marks → Bool) : Node → Bool
  | .text _ marks => p marks
  | _ => false

/-- Whether a live node has a node with this tag come out of it. -/
def yields : Tag → Node → Bool
  | .document => isDocument
  | .paragraph => isOf ["paragraph", "list_item"]
  | .blockQuote => isOf ["quote", "block_quote"]
  | .thematicBreak => isOf ["horizontal_rule"]
  | .heading => isOf headingElements
  | .codeBlock => isOf ["code_block"]
  | .htmlBlock => isOf ["html_block"]
  | .htmlInline => isOf ["html_inline"]
  | .list => isOf ["ol_list", "ul_list"]
  | .item => isOf ["list_item"]
  | .link => isOf ["link"]
  | .text => isRun fun marks => !marks.code
  | .code => isRun fun marks => marks.code
  | .strong => isRun fun marks => marks.bold && !marks.code
  | .emph => isRun fun marks => marks.italic && !marks.code

theorem ownTexts_heading {type : String} (h : type ∈ headingElements) (nodes : Option (List Node))
    (href : Json) : (element type nodes href).ownTexts = [leadingText (nodes.getD [])] :=
  if_pos (List.contains_iff_mem.mpr h)

end Slate.Node

open Slate.Node (isOf isRun liveAll liveAll_cons_of_container liveAll_cons_of_stop liveTexts ownTexts
  ownTexts_heading yields)

theorem LeafTarget.textsOf_walk {type : String} {target : CommonMark.Node}
    (h : LeafTarget type target) : textsOf target.walk = [] := by
  cases h <;> rfl

theorem LeafTarget.ownTexts_eq {type : String} {target : CommonMark.Node}
    (h : LeafTarget type target) (nodes : Option (List Slate.Node)) (href : Json) :
    (Slate.Node.element type nodes href).ownTexts = [] := by
  cases h <;> rfl

namespace Wraps

variable {type : String} {href : Json} {wrap : List CommonMark.Node → CommonMark.Node}

theorem textsOf_walk (h : Wraps type href wrap) (inner : List CommonMark.Node) :
    textsOf (wrap inner).walk = textsOf (CommonMark.Node.walkAll inner) := by
  cases h <;> simp [CommonMark.Node.walk, CommonMark.Node.walkAll]

theorem ownTexts_eq (h : Wraps type href wrap) (nodes : Option (List Slate.Node)) :
    (Slate.Node.element type nodes href).ownTexts = [] := by
  cases h <;> rfl

end Wraps

namespace Corresponds

variable {nodes : List Slate.Node} {items : List CommonMark.Node}

theorem textsOf_walkAll (h : Corresponds nodes items) :
    textsOf (CommonMark.Node.walkAll items) = (liveAll nodes).flatMap ownTexts := by
  induction h with
  | nil => rfl
  | run s marks _ ih =>
    rw [CommonMark.Node.walkAll, textsOf_append, CommonMark.Node.textsOf_ofRun, ih]
    rfl
  | leaf nodes href htype _ ih =>
    rw [CommonMark.Node.walkAll, textsOf_append, htype.textsOf_walk, ih,
      liveAll_cons_of_stop htype.keepsChildren_eq, List.flatMap_cons, htype.ownTexts_eq]
  | heading s marks more href htype _ ih =>
    rw [CommonMark.Node.walkAll, textsOf_append, ih,
      liveAll_cons_of_stop (Mapping.keepsChildren_of_mem_headingTypes htype), List.flatMap_cons,
      ownTexts_heading (Mapping.mem_headingElements htype)]
    rfl
  | container hwrap _ _ ihinner ih =>
    rw [CommonMark.Node.walkAll, textsOf_append, hwrap.textsOf_walk, ihinner, ih,
      liveAll_cons_of_container hwrap.mem_containerElements, List.flatMap_cons, hwrap.ownTexts_eq,
      List.flatMap_append]
    rfl

end Corresponds

/-- A walk over a converted document meets the texts of its live nodes, once each and in order. -/
theorem textsOf_walk_of_slateToCommonMark {o : Options} {d : Slate.Node} {tree : CommonMark.Node}
    (h : (slateToCommonMark o d).result = .ok tree) : textsOf tree.walk = d.liveTexts := by
  obtain ⟨nodes, items, rfl, rfl, hcorr⟩ := exists_corresponds_of_slateToCommonMark h
  have hwalk : textsOf (CommonMark.Node.document items o.xmlns).walk =
      textsOf (CommonMark.Node.walkAll items) := by
    simp [CommonMark.Node.walk]
  rw [hwalk, hcorr.textsOf_walkAll, liveTexts, Slate.Node.live]
  rfl

/-- A heading that keeps the first of its texts only, and bold text in a link that is in an item of
a list. -/
theorem textsOf_walk_of_slateToCommonMark_list :
    let link : Slate.Node := .element "link" (some [.text "d" ⟨true, true, false⟩]) (.str "u")
    let item : Slate.Node := .element "list_item" (some [.text "c" .none, link]) .null
    let d : Slate.Node := .document
      [.element "heading_two" (some [.text "a" ⟨true, false, false⟩, .text "b" .none]) .null,
        .element "ul_list" (some [item]) .null]
    ∃ tree, (slateToCommonMark Options.default d).result = .ok tree ∧
      textsOf tree.walk = ["a", "c", "d"] := by
  intro link item d
  have hlink : Corresponds [link] [.link "u" "" [.emph [.strong [.text "d"]]]] :=
    .container (.link "u") (.run "d" ⟨true, true, false⟩ .nil) .nil
  have hitem := @Corresponds.container [] [] _ "list_item" (some [.text "c" .none, link]) .null _
    (.item .null) (.run "c" .none hlink) .nil
  have hlist := @Corresponds.container [] [] _ "ul_list" (some [item]) .null _ (.bulletList .null)
    hitem .nil
  have hheading : ((2 : Int), "heading_two") ∈ Mapping.headingTypes := by decide
  have hcorr := Corresponds.heading "a" ⟨true, false, false⟩ [.text "b" .none] .null hheading hlist
  have hjudge : (Slate.Node.toRawAll Options.default d.children).result = .ok _ := rfl
  have hconvert := slateToCommonMark_of_corresponds
    (Slate.Node.toRawAll_result_eq_ok.mp hjudge).1 hcorr
  exact ⟨_, hconvert, textsOf_walk_of_slateToCommonMark hconvert⟩

namespace CommonMark.Node

theorem countAll_ofRun (tag : Tag) (s : String) (marks : Marks) :
    countAll tag [ofRun s marks] = [Slate.Node.text s marks].countP (yields tag) := by
  obtain ⟨bold, italic, code⟩ := marks
  cases bold <;> cases italic <;> cases code <;> cases tag <;> rfl

theorem countAll_heading (tag : Tag) {type : String} {level : Int}
    (h : (level, type) ∈ Mapping.headingTypes) (s : String) (nodes : Option (List Slate.Node))
    (href : Json) :
    countAll tag [heading level s] = [Slate.Node.element type nodes href].countP (yields tag) := by
  simp only [Mapping.headingTypes_eq, List.mem_cons, List.not_mem_nil, or_false, Prod.mk.injEq] at h
  rcases h with ⟨rfl, rfl⟩ | ⟨rfl, rfl⟩ | ⟨rfl, rfl⟩ | ⟨rfl, rfl⟩ | ⟨rfl, rfl⟩ | ⟨rfl, rfl⟩ <;>
    cases tag <;> rfl

end CommonMark.Node

open CommonMark.Node (countAll countAll_cons countAll_heading countAll_ofRun countAll_singleton)

theorem LeafTarget.countAll_eq (tag : Tag) {type : String} {target : CommonMark.Node}
    (h : LeafTarget type target) (nodes : Option (List Slate.Node)) (href : Json) :
    countAll tag [target] = [Slate.Node.element type nodes href].countP (yields tag) := by
  cases h <;> cases tag <;> rfl

/-- An item counts with the paragraph that it comes with. -/
theorem Wraps.countAll_eq (tag : Tag) {type : String} {href : Json}
    {wrap : List CommonMark.Node → CommonMark.Node} (h : Wraps type href wrap)
    (nodes : Option (List Slate.Node)) (inner : List CommonMark.Node) :
    countAll tag [wrap inner] =
      [Slate.Node.element type nodes href].countP (yields tag) + countAll tag inner := by
  cases h with
  | item =>
    have hparagraph := countAll_singleton tag (.paragraph inner)
    rw [countAll_singleton]
    change [Tag.item].count tag + countAll tag [.paragraph inner] = _
    rw [hparagraph, ← Nat.add_assoc]
    cases tag <;> rfl
  | _ =>
    rw [countAll_singleton]
    cases tag <;> rfl

theorem Corresponds.countAll_eq {nodes : List Slate.Node} {items : List CommonMark.Node}
    (h : Corresponds nodes items) (tag : Tag) :
    countAll tag items = (liveAll nodes).countP (yields tag) := by
  induction h with
  | nil => rfl
  | run s marks _ ih =>
    rw [countAll_cons, countAll_ofRun, ih, ← List.countP_append]
    rfl
  | leaf nodes href htype _ ih =>
    rw [countAll_cons, htype.countAll_eq tag nodes href, ih, ← List.countP_append,
      liveAll_cons_of_stop htype.keepsChildren_eq]
    rfl
  | heading s marks more href htype _ ih =>
    rw [countAll_cons, countAll_heading tag htype s _ href, ih, ← List.countP_append,
      liveAll_cons_of_stop (Mapping.keepsChildren_of_mem_headingTypes htype)]
    rfl
  | container hwrap _ _ ihinner ih =>
    rw [countAll_cons, hwrap.countAll_eq tag _, ihinner, ih, Nat.add_assoc,
      ← List.countP_append, ← List.countP_append,
      liveAll_cons_of_container hwrap.mem_containerElements]
    rfl

/-- The root counts as the document does, and nothing below it does. -/
theorem Corresponds.countAll_document {nodes : List Slate.Node} {items : List CommonMark.Node}
    (h : Corresponds nodes items) (tag : Tag) (xmlns : String) :
    countAll tag [.document items xmlns] =
      (Slate.Node.document nodes).live.countP (yields tag) := by
  calc countAll tag [.document items xmlns]
      = [Tag.document].count tag + countAll tag items := countAll_singleton tag _
    _ = [Slate.Node.document nodes].countP (yields tag) + (liveAll nodes).countP (yields tag) := by
        rw [h.countAll_eq tag]
        cases tag <;> rfl
    _ = (Slate.Node.document nodes).live.countP (yields tag) := by
        rw [← List.countP_append]
        rfl

/-- The census of a converted document has one document, the tags that live nodes yield and no
others, each with the number of these nodes. -/
theorem mem_census_of_slateToCommonMark {o : Options} {d : Slate.Node} {tree : CommonMark.Node}
    (h : (slateToCommonMark o d).result = .ok tree) :
    (tree.census.map Prod.fst).Nodup ∧ (Tag.document, 1) ∈ tree.census ∧ ∀ tag count,
      (tag, count) ∈ tree.census ↔ count = d.live.countP (yields tag) ∧ 0 < count := by
  obtain ⟨nodes, items, rfl, rfl, hcorr⟩ := exists_corresponds_of_slateToCommonMark h
  have hnested : countAll .document items = 0 := by
    rw [countAll, List.count_eq_zero, List.mem_map]
    rintro ⟨m, hm, htag⟩
    exact hcorr.noDocument m hm htag
  refine ⟨CommonMark.Node.nodup_census _, ?_, fun tag count => ?_⟩
  · have hroot : countAll .document [.document items o.xmlns] = 1 + countAll .document items :=
      countAll_singleton .document _
    rw [CommonMark.Node.mem_census_iff, hroot, hnested]
    decide
  · rw [CommonMark.Node.mem_census_iff, hcorr.countAll_document]

/-- A quote without a place for children, a bold italic run, a run with the code mark, and a heading
whose text does not count. -/
theorem mem_census_of_slateToCommonMark_emphasis :
    let d : Slate.Node := .document
      [.element "quote" none .null,
        .element "list_item" (some [.text "a" ⟨true, true, false⟩, .text "b" ⟨true, true, true⟩]) .null,
        .element "heading_one" (some [.text "c" .none]) .null]
    ∃ tree, (slateToCommonMark Options.default d).result = .ok tree ∧
      (Tag.strong, 1) ∈ tree.census ∧ (Tag.text, 1) ∈ tree.census ∧
        (Tag.paragraph, 1) ∈ tree.census ∧ ∀ count, (Tag.list, count) ∉ tree.census := by
  intro d
  have hheading : ((1 : Int), "heading_one") ∈ Mapping.headingTypes := by decide
  have hitem := @Corresponds.container [.element "heading_one" (some [.text "c" .none]) .null] _ _
    "list_item" (some [.text "a" ⟨true, true, false⟩, .text "b" ⟨true, true, true⟩]) .null _
    (.item .null) (.run "a" _ (.run "b" _ .nil)) (.heading "c" .none [] .null hheading .nil)
  have hcorr := Corresponds.leaf none .null .quote hitem
  have hjudge : (Slate.Node.toRawAll Options.default d.children).result = .ok _ := rfl
  have hconvert := slateToCommonMark_of_corresponds
    (Slate.Node.toRawAll_result_eq_ok.mp hjudge).1 hcorr
  have hcensus := (mem_census_of_slateToCommonMark hconvert).2.2
  refine ⟨_, hconvert, (hcensus _ _).mpr ⟨by decide, by decide⟩,
    (hcensus _ _).mpr ⟨by decide, by decide⟩, (hcensus _ _).mpr ⟨by decide, by decide⟩, ?_⟩
  intro count hmem
  obtain ⟨rfl, hpos⟩ := (hcensus _ _).mp hmem
  exact absurd hpos (by decide)

end SlateMark
