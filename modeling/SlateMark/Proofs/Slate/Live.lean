import SlateMark.Slate.Basic

/-!
The nodes of an editor tree that a conversion looks at. A walk from the root does not go below a
heading, whose text is all that counts of its children, nor below an element that has no place for
children in CommonMark; all other nodes are live. They are listed in pre-order.
-/
namespace SlateMark.Slate

def headingElements : List String :=
  ["heading_one", "heading_two", "heading_three", "heading_four", "heading_five", "heading_six"]

/-- The elements without a place for children in CommonMark. -/
def slotlessElements : List String :=
  ["quote", "horizontal_rule", "code_block", "html_block", "html_inline"]

/-- The elements with a place for children, of which links alone need a reference. -/
def containerElements : List String :=
  ["paragraph", "block_quote", "ol_list", "ul_list", "list_item", "link"]

def listElements : List String := ["ol_list", "ul_list"]

/-- Whether a walk goes on to the children of an element of this type. -/
def keepsChildren (type : String) : Bool :=
  !headingElements.contains type && !slotlessElements.contains type

namespace Node

/-- The children that a node declares. -/
def children : Node → List Node
  | .text _ _ => []
  | .element _ nodes _ => nodes.getD []
  | .document nodes => nodes

/-- The children that a walk goes on to. -/
def liveChildren : Node → List Node
  | .text _ _ => []
  | .element type nodes _ => if keepsChildren type then nodes.getD [] else []
  | .document nodes => nodes

theorem liveChildren_of_stop {type : String} (h : keepsChildren type = false)
    (nodes : Option (List Node)) (href : Json) : (element type nodes href).liveChildren = [] := by
  simp [liveChildren, h]

theorem liveChildren_of_container {type : String} (h : type ∈ containerElements)
    (nodes : Option (List Node)) (href : Json) :
    (element type nodes href).liveChildren = nodes.getD [] := by
  have hkeeps : ∀ type ∈ containerElements, keepsChildren type = true := by decide
  rw [liveChildren, if_pos (hkeeps type h)]

theorem liveChildren_subset (n : Node) : n.liveChildren ⊆ n.children := by
  cases n with
  | text s marks => simp [liveChildren]
  | element type nodes href =>
    intro c hc
    by_cases hkeeps : keepsChildren type = true
    · simpa [liveChildren, children, hkeeps] using hc
    · simp [liveChildren, hkeeps] at hc
  | document nodes => simp [liveChildren, children]

@[elab_as_elim]
theorem induct_children {motive : Node → Prop}
    (step : ∀ n, (∀ c ∈ n.children, motive c) → motive n) (n : Node) : motive n := by
  apply @Node.rec motive (fun nodes? => ∀ nodes, nodes? = some nodes → ∀ c ∈ nodes, motive c)
    (fun nodes => ∀ c ∈ nodes, motive c)
  case text =>
    intro s marks
    exact step (text s marks) (by simp [children])
  case element =>
    intro type nodes? href ih
    cases nodes? with
    | none => exact step (element type none href) (by simp [children])
    | some nodes => exact step (element type (some nodes) href) (ih nodes rfl)
  case document => exact fun nodes ih => step (document nodes) ih
  case none => simp
  case some =>
    intro nodes ih nodes' h
    cases h
    exact ih
  case nil => simp
  case cons => exact fun n rest hn hrest => List.forall_mem_cons.mpr ⟨hn, hrest⟩

/-- Induction along a walk. -/
@[elab_as_elim]
theorem induct_live {motive : Node → Prop}
    (step : ∀ n, (∀ c ∈ n.liveChildren, motive c) → motive n) (n : Node) : motive n := by
  induction n using induct_children with
  | step n ih => exact step n fun c hc => ih c (n.liveChildren_subset hc)

mutual
/-- The live nodes of a tree, each before the live nodes below it. -/
def live : Node → List Node
  | .text s marks => [.text s marks]
  | .element type none href => [.element type none href]
  | .element type (some nodes) href =>
    .element type (some nodes) href :: if keepsChildren type then liveAll nodes else []
  | .document nodes => .document nodes :: liveAll nodes

def liveAll : List Node → List Node
  | [] => []
  | n :: rest => n.live ++ liveAll rest
end

theorem live_eq (n : Node) : n.live = n :: liveAll n.liveChildren := by
  cases n with
  | text s marks => rfl
  | element type nodes? href =>
    cases nodes? with
    | none => simp [live, liveChildren, liveAll]
    | some nodes => cases h : keepsChildren type <;> simp [live, liveChildren, liveAll, h]
  | document nodes => rfl

theorem liveAll_cons_of_stop {type : String} (h : keepsChildren type = false)
    (nodes : Option (List Node)) (href : Json) (rest : List Node) :
    liveAll (.element type nodes href :: rest) = .element type nodes href :: liveAll rest := by
  rw [liveAll, live_eq, liveChildren_of_stop h]
  rfl

theorem liveAll_cons_of_container {type : String} (h : type ∈ containerElements)
    (nodes : Option (List Node)) (href : Json) (rest : List Node) :
    liveAll (.element type nodes href :: rest) =
      .element type nodes href :: (liveAll (nodes.getD []) ++ liveAll rest) := by
  rw [liveAll, live_eq, liveChildren_of_container h]
  rfl

theorem mem_liveAll {m : Node} {nodes : List Node} :
    m ∈ liveAll nodes ↔ ∃ n ∈ nodes, m ∈ n.live := by
  induction nodes with
  | nil => simp [liveAll]
  | cons n rest ih => simp [liveAll, ih]

theorem forall_liveAll_cons {p : Node → Prop} {n : Node} {rest : List Node} :
    (∀ m ∈ liveAll (n :: rest), p m) ↔
      p n ∧ (∀ m ∈ liveAll n.liveChildren, p m) ∧ ∀ m ∈ liveAll rest, p m := by
  rw [liveAll, live_eq, List.cons_append, List.forall_mem_cons, List.forall_mem_append]

/-- Nothing below an element at which a walk stops counts. -/
theorem forall_liveAll_cons_of_stop {p : Node → Prop} {type : String}
    (h : keepsChildren type = false) {nodes : Option (List Node)} {href : Json}
    {rest : List Node} :
    (∀ m ∈ liveAll (.element type nodes href :: rest), p m) ↔
      p (.element type nodes href) ∧ ∀ m ∈ liveAll rest, p m := by
  rw [forall_liveAll_cons, liveChildren_of_stop h]
  simp [liveAll]

theorem forall_liveAll_cons_of_container {p : Node → Prop} {type : String}
    (h : type ∈ containerElements) {nodes : Option (List Node)} {href : Json} {rest : List Node} :
    (∀ m ∈ liveAll (.element type nodes href :: rest), p m) ↔
      p (.element type nodes href) ∧ (∀ m ∈ liveAll (nodes.getD []), p m) ∧
        ∀ m ∈ liveAll rest, p m := by
  rw [forall_liveAll_cons, liveChildren_of_container h]

/-- A list that holds nothing but list items. -/
def HoldsItems : Node → Prop
  | .element type nodes _ =>
    type ∈ listElements → ∀ c ∈ nodes.getD [], ∃ inner href, c = .element "list_item" inner href
  | _ => True

/-- A link whose reference is a text. -/
def ReferenceIsText : Node → Prop
  | .element type _ href => type = "link" → ∃ s, href = .str s
  | _ => True

end Node

end SlateMark.Slate
