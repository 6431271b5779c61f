import SlateMark.Proofs.Slate.Live

/-!
All nodes of an editor tree, each before its children, whether a conversion looks at them or not. A
tree is proper if no document stands below its root: the editor knows of documents as roots only.
-/
namespace SlateMark.Slate.Node

mutual
/-- All nodes of a tree, each before its children. -/
def preorder : Node → List Node
  | .text s marks => [.text s marks]
  | .element type none href => [.element type none href]
  | .element type (some nodes) href => .element type (some nodes) href :: preorderAll nodes
  | .document nodes => .document nodes :: preorderAll nodes

def preorderAll : List Node → List Node
  | [] => []
  | n :: rest => n.preorder ++ preorderAll rest
end

theorem preorder_eq (n : Node) : n.preorder = n :: preorderAll n.children := by
  cases n with
  | text s marks => rfl
  | element type nodes? href => cases nodes? <;> rfl
  | document nodes => rfl

theorem mem_preorderAll {m : Node} {nodes : List Node} :
    m ∈ preorderAll nodes ↔ ∃ n ∈ nodes, m ∈ n.preorder := by
  induction nodes with
  | nil => simp [preorderAll]
  | cons n rest ih => simp [preorderAll, ih]

theorem forall_preorderAll_iff {p : Node → Prop} {nodes : List Node} :
    (∀ m ∈ preorderAll nodes, p m) ↔ ∀ n ∈ nodes, ∀ m ∈ n.preorder, p m := by
  constructor
  · intro h n hn m hm
    exact h m (mem_preorderAll.mpr ⟨n, hn, hm⟩)
  · intro h m hm
    obtain ⟨n, hn, hmn⟩ := mem_preorderAll.mp hm
    exact h n hn m hmn

theorem forall_preorder_iff {p : Node → Prop} (n : Node) :
    (∀ m ∈ n.preorder, p m) ↔ p n ∧ ∀ c ∈ n.children, ∀ m ∈ c.preorder, p m := by
  rw [preorder_eq, List.forall_mem_cons, forall_preorderAll_iff]

def isDocument : Node → Bool
  | .document _ => true
  | _ => false

end SlateMark.Slate.Node
