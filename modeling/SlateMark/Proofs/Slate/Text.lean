import SlateMark.Proofs.Json.Rendering
import SlateMark.Proofs.Slate.Encoding

/-!
Slate documents as text. What is written of a document is plain JSON if its references are, as those
are that links can have; so a written document is read back from its text under every indentation.
-/
namespace SlateMark.Slate

open Json (Plain)

namespace Node

/-- Nothing and all texts are plain references. -/
def PlainReference : Node → Prop
  | .element _ _ href => Plain href
  | _ => True

/-- A node that has an encoding of its own, and one that is plain. -/
def Storable (n : Node) : Prop := n.isDocument = false ∧ n.PlainReference

theorem plain_markJson (name : String) : Plain (markJson name) := by
  simp [markJson, Fields.names]

theorem plain_dataOf {href : Json} (h : Plain href) : Plain (dataOf href) := by
  by_cases hnull : href.isNull = true
  · simp [dataOf, hnull, Fields.names]
  · simp [dataOf, hnull, Fields.names, h]

theorem plain_elementFields (object type : String) {href : Json} (hhref : Plain href)
    (items : Option Json) (hitems : ∀ v ∈ items, Plain v) :
    Plain (.obj (elementFields object type href items)) := by
  have hdata := plain_dataOf hhref
  cases items with
  | none => simp [elementFields, Fields.names, hdata]
  | some v => simp [elementFields, Fields.names, hdata, hitems v rfl]

theorem plain_toJsonAll {nodes : List Node} (h : ∀ n ∈ nodes, ∀ v, n.toJson = .ok v → Plain v)
    {items : List Json} (hitems : toJsonAll nodes = .ok items) : ∀ v ∈ items, Plain v := by
  induction nodes generalizing items with
  | nil =>
    obtain rfl := Except.ok.inj hitems
    simp
  | cons n rest ih =>
    obtain ⟨hn, hrest⟩ := List.forall_mem_cons.mp h
    rw [toJsonAll] at hitems
    cases hv : n.toJson with
    | error e => simp [hv] at hitems
    | ok v =>
      cases hvs : toJsonAll rest with
      | error e => simp [hv, hvs] at hitems
      | ok vs =>
        simp only [hv, hvs, Except.ok.injEq] at hitems
        rw [← hitems, List.forall_mem_cons]
        exact ⟨hn v hv, ih hrest hvs⟩

theorem plain_toJson (n : Node) :
    (∀ m ∈ n.preorder, m.PlainReference) → ∀ v, n.toJson = .ok v → Plain v := by
  induction n using induct_children with
  | step n ih =>
    intro h v hv
    obtain ⟨hown, hbelow⟩ := (forall_preorder_iff n).mp h
    have hchildren : ∀ c ∈ n.children, ∀ w, c.toJson = .ok w → Plain w :=
      fun c hc => ih c hc (hbelow c hc)
    cases n with
    | document nodes => simp [toJson] at hv
    | text s marks =>
      obtain rfl := Except.ok.inj hv
      have hmarks : ∀ name ∈ marks.names, Plain (markJson name) := fun name _ => plain_markJson name
      simpa [Fields.names] using hmarks
    | element type nodes? href =>
      cases nodes? with
      | none =>
        obtain rfl := Except.ok.inj hv
        exact plain_elementFields (element type none href).object type hown none (by simp)
      | some nodes =>
        cases hitems : toJsonAll nodes with
        | error e => simp [toJson, hitems] at hv
        | ok items =>
          simp only [toJson, hitems, Except.ok.injEq] at hv
          have hplain : Plain (.arr items) := .arr (plain_toJsonAll hchildren hitems)
          rw [← hv]
          exact plain_elementFields (element type none href).object type hown
            (some (.arr items)) (by simpa using hplain)

end Node

theorem plain_documentJson {nodes : List Node} {asValue : Bool} {v : Json}
    (h : ∀ m ∈ Node.preorderAll nodes, m.PlainReference)
    (hv : (Node.document nodes).documentJson asValue = .ok v) : Plain v := by
  have hnodes : ∀ n ∈ nodes, ∀ w, n.toJson = .ok w → Plain w := fun n hn =>
    n.plain_toJson (Node.forall_preorderAll_iff.mp h n hn)
  cases hitems : Node.toJsonAll nodes with
  | error e => simp [Node.documentJson, Node.topNodes, hitems] at hv
  | ok items =>
    have hplain := Node.plain_toJsonAll hnodes hitems
    simp only [Node.documentJson, Node.topNodes, hitems, Except.ok.injEq] at hv
    rw [← hv]
    cases asValue <;> simpa [Fields.names] using hplain

/-- A written document is read back from its text. -/
theorem readDocumentText_documentText {nodes : List Node}
    (h : ∀ m ∈ Node.preorderAll nodes, m.Storable) (asValue : Bool) (indent : Option Int) :
    ∃ s, (Node.document nodes).documentText asValue indent = .ok s ∧
      readDocumentText s = pure (.document nodes) := by
  have hrestored : ∀ n ∈ nodes, n.Restored := fun n hn =>
    n.restored fun m hm => (Node.forall_preorderAll_iff.mp h n hn m hm).1
  obtain ⟨v, hv, hread⟩ := exists_documentJson_of_restored hrestored asValue
  have hplain : Plain v := plain_documentJson (fun m hm => (h m hm).2) hv
  refine ⟨Json.documentText indent v, ?_, ?_⟩
  · rw [Node.documentText, hv]
    rfl
  · rw [readDocumentText, Json.parse_documentText hplain]
    exact hread

end SlateMark.Slate
