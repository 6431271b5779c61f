import SlateMark.CommonMark.Raw

/-!
CommonMark trees by their children. Induction asks for the claim at the children of a node and not
constructor by constructor; the nodes of a tree are listed in pre-order, each before its children.
-/
namespace SlateMark.CommonMark.Node

/-- No children where there is no place for them. -/
def children (n : Node) : List Node := n.children?.getD []

theorem children_of_children? {n : Node} {nodes : List Node} (h : n.children? = some nodes) :
    n.children = nodes := by
  simp [children, h]

@[elab_as_elim]
theorem induct_children {motive : Node → Prop}
    (step : ∀ n, (∀ c ∈ n.children, motive c) → motive n) (n : Node) : motive n := by
  have leaf : ∀ n : Node, n.children? = none → motive n := by
    intro n hn
    apply step
    simp [children, hn]
  have container : ∀ (n : Node) (nodes : List Node), n.children? = some nodes →
      (∀ c ∈ nodes, motive c) → motive n := by
    intro n nodes hn ih
    apply step
    rw [children_of_children? hn]
    exact ih
  apply @Node.rec motive (fun nodes => ∀ c ∈ nodes, motive c)
    (fun nodes? => ∀ nodes, nodes? = some nodes → ∀ c ∈ nodes, motive c)
  case document => exact fun nodes xmlns ih => container (document nodes xmlns) nodes rfl ih
  case paragraph => exact fun nodes ih => container (paragraph nodes) nodes rfl ih
  case blockQuote =>
    intro nodes? ih
    cases nodes? with
    | none => exact leaf (blockQuote none) rfl
    | some nodes => exact container (blockQuote (some nodes)) nodes rfl (ih nodes rfl)
  case thematicBreak => exact leaf thematicBreak rfl
  case heading => exact fun level s => leaf (heading level s) rfl
  case codeBlock => exact fun s => leaf (codeBlock s) rfl
  case htmlBlock => exact fun s => leaf (htmlBlock s) rfl
  case htmlInline => exact fun s => leaf (htmlInline s) rfl
  case list => exact fun type tight nodes ih => container (list type tight nodes) nodes rfl ih
  case item => exact fun nodes ih => container (item nodes) nodes rfl ih
  case link =>
    exact fun destination title nodes ih => container (link destination title nodes) nodes rfl ih
  case text => exact fun s => leaf (text s) rfl
  case code => exact fun s => leaf (code s) rfl
  case strong => exact fun nodes ih => container (strong nodes) nodes rfl ih
  case emph => exact fun nodes ih => container (emph nodes) nodes rfl ih
  case nil => simp
  case cons => exact fun n rest hn hrest => List.forall_mem_cons.mpr ⟨hn, hrest⟩
  case none => simp
  case some =>
    intro nodes ih nodes' h
    cases h
    exact ih

mutual
/-- All nodes of a tree, each before its children. -/
def preorder : Node → List Node
  | .document nodes xmlns => .document nodes xmlns :: preorderAll nodes
  | .paragraph nodes => .paragraph nodes :: preorderAll nodes
  | .blockQuote none => [.blockQuote none]
  | .blockQuote (some nodes) => .blockQuote (some nodes) :: preorderAll nodes
  | .thematicBreak => [.thematicBreak]
  | .heading level s => [.heading level s]
  | .codeBlock s => [.codeBlock s]
  | .htmlBlock s => [.htmlBlock s]
  | .htmlInline s => [.htmlInline s]
  | .list type tight nodes => .list type tight nodes :: preorderAll nodes
  | .item nodes => .item nodes :: preorderAll nodes
  | .link destination title nodes => .link destination title nodes :: preorderAll nodes
  | .text s => [.text s]
  | .code s => [.code s]
  | .strong nodes => .strong nodes :: preorderAll nodes
  | .emph nodes => .emph nodes :: preorderAll nodes

def preorderAll : List Node → List Node
  | [] => []
  | n :: rest => n.preorder ++ preorderAll rest
end

theorem preorder_eq (n : Node) : n.preorder = n :: preorderAll n.children := by
  cases n with
  | blockQuote nodes? => cases nodes? <;> simp [preorder, preorderAll, children, children?]
  | _ => simp [preorder, preorderAll, children, children?]

theorem mem_preorderAll {m : Node} {nodes : List Node} :
    m ∈ preorderAll nodes ↔ ∃ n ∈ nodes, m ∈ n.preorder := by
  induction nodes with
  | nil => simp [preorderAll]
  | cons n rest ih => simp [preorderAll, ih]

theorem forall_preorder_iff {p : Node → Prop} (n : Node) :
    (∀ m ∈ n.preorder, p m) ↔ p n ∧ ∀ c ∈ n.children, ∀ m ∈ c.preorder, p m := by
  rw [preorder_eq, List.forall_mem_cons]
  refine and_congr_right fun _ => ⟨?_, ?_⟩
  · intro h c hc m hm
    exact h m (mem_preorderAll.mpr ⟨c, hc, hm⟩)
  · intro h m hm
    obtain ⟨c, hc, hmc⟩ := mem_preorderAll.mp hm
    exact h c hc m hmc

theorem toRawAll_eq_map (ns : String) (nodes : List Node) :
    toRawAll ns nodes = nodes.map (toRaw ns) := by
  induction nodes with
  | nil => rfl
  | cons n rest ih => simp [toRawAll, ih]

end SlateMark.CommonMark.Node
