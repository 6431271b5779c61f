import SlateMark.Proofs.Convert.Refusal
import SlateMark.Proofs.Slate.Text

/-!
Which restored documents can be stored. The reverse conversion gives no element a reference that is
more than a text, and makes a document of a document wherever it stands. The editor knows no
documents but roots, so a tree that is converted can be stored exactly if it has no other either.
-/
namespace SlateMark

open Json (Plain)

namespace CommonMark.Node

/-- What comes of the node, if anything, has plain references, and documents exactly if the node
has. -/
def KeepsDocuments (n : Node) : Prop :=
  ∀ s, n.toSlate.result = .ok s → (∀ m ∈ s.preorder, m.PlainReference) ∧
    ((∀ m ∈ s.preorder, m.isDocument = false) ↔ ∀ m ∈ n.preorder, m.tag ≠ .document)

def KeepsDocumentsAll (nodes : List Node) : Prop :=
  ∀ items, (toSlateAll nodes).result = .ok items →
    (∀ m ∈ Slate.Node.preorderAll items, m.PlainReference) ∧
    ((∀ m ∈ Slate.Node.preorderAll items, m.isDocument = false) ↔
      ∀ m ∈ preorderAll nodes, m.tag ≠ .document)

theorem keepsDocumentsAll_of_forall {nodes : List Node} (h : ∀ n ∈ nodes, n.KeepsDocuments) :
    KeepsDocumentsAll nodes := by
  induction nodes with
  | nil =>
    intro items hitems
    obtain rfl := Except.ok.inj hitems
    simp [Slate.Node.preorderAll, preorderAll]
  | cons n rest ih =>
    intro items hitems
    obtain ⟨hn, hrest⟩ := List.forall_mem_cons.mp h
    rw [toSlateAll_cons_result] at hitems
    cases hs : n.toSlate.result with
    | error e => simp [hs, bind, Except.bind] at hitems
    | ok s =>
      cases hmore : (toSlateAll rest).result with
      | error e => simp [hs, hmore, bind, Except.bind, Except.map] at hitems
      | ok more =>
        simp only [hs, hmore, bind, Except.bind, Except.map, Except.ok.injEq] at hitems
        obtain ⟨hplain, htag⟩ := hn s hs
        obtain ⟨hplains, htags⟩ := ih hrest more hmore
        rw [← hitems, Slate.Node.preorderAll, preorderAll]
        simp only [List.forall_mem_append]
        exact ⟨⟨hplain, hplains⟩, and_congr htag htags⟩

theorem keepsDocuments_of_refused {n : Node} (h : Refused n.toSlate.result) : n.KeepsDocuments := by
  intro s hs
  obtain ⟨e, cause, he, -⟩ := h
  simp [he] at hs

/-- One node in the place of one node, neither of them around others. -/
theorem keepsDocuments_of_single {n : Node} {s : Slate.Node} (hs : n.toSlate.result = .ok s)
    (hstorable : ∀ m ∈ s.preorder, m.Storable) (htag : ∀ m ∈ n.preorder, m.tag ≠ .document) :
    n.KeepsDocuments := by
  intro s' hs'
  rw [hs] at hs'
  obtain rfl := Except.ok.inj hs'
  exact ⟨fun m hm => (hstorable m hm).2, iff_of_true (fun m hm => (hstorable m hm).1) htag⟩

theorem keepsDocuments_around {n : Node} {type : String} {href : Json} {inner : List Node}
    (hresult : n.toSlate.result =
      (toSlateAll inner).result.map fun nodes => .element type (some nodes) href)
    (hhref : Plain href)
    (htag : (∀ m ∈ n.preorder, m.tag ≠ .document) ↔ ∀ m ∈ preorderAll inner, m.tag ≠ .document)
    (hinner : KeepsDocumentsAll inner) : n.KeepsDocuments := by
  intro s hs
  rw [hresult] at hs
  cases hnodes : (toSlateAll inner).result with
  | error e => simp [hnodes, Except.map] at hs
  | ok nodes =>
    simp only [hnodes, Except.map, Except.ok.injEq] at hs
    obtain ⟨hplain, hdocument⟩ := hinner nodes hnodes
    rw [← hs, Slate.Node.preorder, List.forall_mem_cons, List.forall_mem_cons, htag, ← hdocument]
    exact ⟨⟨hhref, hplain⟩, and_iff_right rfl⟩

theorem keepsDocuments_wraps {n : Node} {type : String} {href : Json} {wrap : List Node → Node}
    (hwrap : Wraps type href wrap) {inner : List Node}
    (htoSlate : n.toSlate.result = (wrap inner).toSlate.result)
    (hitems : type ∈ Slate.listElements → ∀ c ∈ inner, c.isItem)
    (htag : (∀ m ∈ n.preorder, m.tag ≠ .document) ↔ ∀ m ∈ preorderAll inner, m.tag ≠ .document)
    (hinner : KeepsDocumentsAll inner) : n.KeepsDocuments := by
  have hhref : Plain (keptReference type href) := by
    cases hwrap <;> simp [keptReference]
  exact keepsDocuments_around (htoSlate.trans (toSlate_wraps hwrap hitems)) hhref htag hinner

theorem keepsDocuments_leaf {type : String} {target : Node} (h : LeafTarget type target) :
    target.KeepsDocuments := by
  apply keepsDocuments_of_single (toSlate_leaf h)
  · simp [Slate.Node.preorder, Slate.Node.Storable, Slate.Node.isDocument,
      Slate.Node.PlainReference]
  · cases h <;> simp [preorder, tag]

theorem ofRun_noDocument (s : String) (marks : Slate.Marks) :
    ∀ m ∈ (ofRun s marks).preorder, m.tag ≠ .document := by
  obtain ⟨bold, italic, code⟩ := marks
  cases bold <;> cases italic <;> cases code <;> simp [ofRun, preorder, preorderAll, tag]

theorem keepsDocuments_heading (level : Int) (s : String) : (heading level s).KeepsDocuments := by
  cases htype : Mapping.headingType? level with
  | none =>
    apply keepsDocuments_of_refused
    simp only [toSlate, headingToSlate, htype]
    exact .of_unsupported _ (.headingLevel level)
  | some type =>
    have hresult : (heading level s).toSlate.result =
        .ok (.element type (some [.text s .none]) .null) := by
      simp only [toSlate, headingToSlate, htype]
      rfl
    apply keepsDocuments_of_single hresult
    · simp [Slate.Node.preorder, Slate.Node.preorderAll, Slate.Node.Storable,
        Slate.Node.isDocument, Slate.Node.PlainReference]
    · simp [preorder, tag]

theorem keepsDocuments_list (type : String) (tight : Bool) {nodes : List Node}
    (hinner : KeepsDocumentsAll nodes) : (list type tight nodes).KeepsDocuments := by
  have htag : (∀ m ∈ (list type tight nodes).preorder, m.tag ≠ .document) ↔
      ∀ m ∈ preorderAll nodes, m.tag ≠ .document := by
    rw [preorder, List.forall_mem_cons]
    exact and_iff_right (by simp [tag])
  by_cases h : tight = true ∧ (∃ source, Mapping.listType? type = some source) ∧
      ∀ c ∈ nodes, c.isItem
  · obtain ⟨rfl, ⟨source, hsource⟩, hitems⟩ := h
    exact keepsDocuments_around (list_result hsource hitems) .null htag hinner
  · exact keepsDocuments_of_refused (toSlate_list_refused h)

theorem keepsDocuments_inline {n : Node} (h : n.toSlate = n.inlineToSlate) : n.KeepsDocuments := by
  have hresult : n.toSlate.result = n.collapse.map fun run => .text run.1 run.2 := by
    rw [h]
    rfl
  rcases n.collapse_cases with ⟨s, marks, hrun, hn⟩ | ⟨e, cause, herror, hfault⟩
  · rw [hrun] at hresult
    apply keepsDocuments_of_single hresult
    · simp [Slate.Node.preorder, Slate.Node.Storable, Slate.Node.isDocument,
        Slate.Node.PlainReference]
    · rw [hn]
      exact ofRun_noDocument s marks
  · refine keepsDocuments_of_refused ⟨e, cause, ?_, hfault⟩
    rw [hresult, herror]
    rfl

theorem toSlate_document_eq_ok {nodes : List Node} {xmlns : String} {s : Slate.Node}
    (h : (document nodes xmlns).toSlate.result = .ok s) :
    ∃ items, (toSlateAll nodes).result = .ok items ∧ s = .document items := by
  rw [toSlate] at h
  obtain ⟨-, -, hnodes⟩ := Logged.result_bind_eq_ok.mp h
  obtain ⟨items, hitems, hs⟩ := Logged.result_bind_eq_ok.mp hnodes
  exact ⟨items, hitems, (Except.ok.inj hs).symm⟩

/-- The children take part because an item is taken apart together with its paragraph. -/
theorem keepsDocuments (n : Node) : n.KeepsDocuments ∧ KeepsDocumentsAll n.children := by
  induction n using induct_children with
  | step n ih =>
    have hchildren : KeepsDocumentsAll n.children :=
      keepsDocumentsAll_of_forall fun c hc => (ih c hc).1
    refine ⟨?_, hchildren⟩
    cases n with
    | document nodes xmlns =>
      intro s hs
      obtain ⟨items, hitems, rfl⟩ := toSlate_document_eq_ok hs
      rw [Slate.Node.preorder, preorder, List.forall_mem_cons, List.forall_mem_cons,
        List.forall_mem_cons]
      refine ⟨⟨trivial, (hchildren items hitems).1⟩, iff_of_false ?_ ?_⟩
      · simp [Slate.Node.isDocument]
      · simp [tag]
    | paragraph nodes =>
      exact keepsDocuments_wraps (.paragraph .null) rfl (by simp [Slate.listElements])
        (by simp [preorder, tag]) hchildren
    | blockQuote nodes? =>
      cases nodes? with
      | none => exact keepsDocuments_leaf .quote
      | some nodes =>
        exact keepsDocuments_wraps (.blockQuote .null) rfl (by simp [Slate.listElements])
          (by simp [preorder, tag]) hchildren
    | thematicBreak => exact keepsDocuments_leaf .horizontalRule
    | heading level s => exact keepsDocuments_heading level s
    | codeBlock s =>
      cases s with
      | none => exact keepsDocuments_leaf .codeBlock
      | some s => exact keepsDocuments_of_refused (.of_unsupported _ (.leafWithText .codeBlock))
    | htmlBlock s =>
      cases s with
      | none => exact keepsDocuments_leaf .htmlBlock
      | some s => exact keepsDocuments_of_refused (.of_unsupported _ (.leafWithText .htmlBlock))
    | htmlInline s =>
      cases s with
      | none => exact keepsDocuments_leaf .htmlInline
      | some s => exact keepsDocuments_of_refused (.of_unsupported _ (.leafWithText .htmlInline))
    | list type tight nodes => exact keepsDocuments_list type tight hchildren
    | item nodes =>
      by_cases hshape : ∃ inner, nodes = [paragraph inner]
      · obtain ⟨inner, rfl⟩ := hshape
        have hparagraph := (ih (paragraph inner) (by simp [children, children?])).2
        exact keepsDocuments_wraps (.item .null) rfl (by simp [Slate.listElements])
          (by simp [preorder, preorderAll, tag]) hparagraph
      · exact keepsDocuments_of_refused (toSlate_item_refused hshape)
    | link destination title nodes =>
      have htitle := toSlate_link_result destination title nodes
      exact keepsDocuments_wraps (.link destination) htitle (by simp [Slate.listElements])
        (by simp [preorder, tag]) hchildren
    | text s => exact keepsDocuments_inline rfl
    | code s => exact keepsDocuments_inline rfl
    | strong nodes => exact keepsDocuments_inline rfl
    | emph nodes => exact keepsDocuments_inline rfl

end CommonMark.Node

/-- A restored document has plain references, and documents below it exactly if the tree has. -/
theorem commonMarkToSlate_keepsDocuments {nodes : List CommonMark.Node} {xmlns : String}
    {d : Slate.Node} (h : (commonMarkToSlate (.document nodes xmlns)).result = .ok d) :
    ∃ items, d = .document items ∧ (∀ m ∈ Slate.Node.preorderAll items, m.PlainReference) ∧
      ((∀ m ∈ Slate.Node.preorderAll items, m.isDocument = false) ↔
        ∀ m ∈ CommonMark.Node.preorderAll nodes, m.tag ≠ .document) := by
  have htoSlate : (CommonMark.Node.document nodes xmlns).toSlate.result = .ok d :=
    Logged.result_mapError_eq_ok.mp h
  obtain ⟨items, hitems, rfl⟩ := CommonMark.Node.toSlate_document_eq_ok htoSlate
  have hkeeps : CommonMark.Node.KeepsDocumentsAll nodes :=
    CommonMark.Node.keepsDocumentsAll_of_forall fun n _ => n.keepsDocuments.1
  exact ⟨items, rfl, hkeeps items hitems⟩

end SlateMark
