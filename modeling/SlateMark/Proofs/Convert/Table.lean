import SlateMark.Convert.Mapping
import SlateMark.Proofs.Slate.Live

/-!
What the table says of a type of element: of which of three kinds it is, whether it keeps its
children, and that no row sets the children of its target among the attributes.
-/
namespace SlateMark.Mapping

open Slate

theorem ofType?_eq_some {type : String} {m : Mapping} (h : ofType? type = some m) :
    m ∈ table ∧ m.sourceType = type := by
  refine ⟨List.mem_of_find?_eq_some h, ?_⟩
  simpa using List.find?_some h

theorem headingTypes_eq : headingTypes =
    [(1, "heading_one"), (2, "heading_two"), (3, "heading_three"), (4, "heading_four"),
      (5, "heading_five"), (6, "heading_six")] := by
  decide

theorem keepsChildren_of_mem_headingTypes {type : String} {level : Int}
    (h : (level, type) ∈ headingTypes) : keepsChildren type = false := by
  have hrow : ∀ row ∈ headingTypes, keepsChildren row.2 = false := by decide
  exact hrow (level, type) h

theorem mem_headingElements {type : String} {level : Int} (h : (level, type) ∈ headingTypes) :
    type ∈ headingElements := by
  have hrow : ∀ row ∈ headingTypes, row.2 ∈ headingElements := by decide
  exact hrow (level, type) h

theorem listType?_eq_some {style source : String} (h : listType? style = some source) :
    style = "ordered" ∨ style = "bullet" := by
  have hlist : listTypes = [("ordered", "ol_list"), ("bullet", "ul_list")] := by decide
  obtain ⟨front, back, hsplit, -⟩ := List.lookup_eq_some_iff.mp h
  have hmem : (style, source) ∈ listTypes := by simp [hsplit]
  rw [hlist] at hmem
  simp only [List.mem_cons, List.not_mem_nil, or_false, Prod.mk.injEq] at hmem
  exact hmem.imp And.left And.left

/-- A row is of a heading, of an element without a place for children or of one with it. -/
theorem element_cases {type : String} {m : Mapping} (h : ofType? type = some m) :
    (∃ level, m.headingLevel = some level ∧ (level, type) ∈ headingTypes) ∨
      type ∈ slotlessElements ∨ type ∈ containerElements := by
  have hrow : ∀ m ∈ table,
      (m.headingLevel.any fun level => (level, m.sourceType) ∈ headingTypes) ∨
        m.sourceType ∈ slotlessElements ∨ m.sourceType ∈ containerElements := by
    decide
  obtain ⟨hmem, rfl⟩ := ofType?_eq_some h
  refine (hrow m hmem).imp_left fun hheading => ?_
  obtain ⟨level, hlevel, hin⟩ := (Option.any_eq_true _ _).mp hheading
  exact ⟨level, hlevel, of_decide_eq_true hin⟩

theorem mem_containerElements {type : String} {m : Mapping} (h : ofType? type = some m)
    (hkeeps : keepsChildren type = true) : type ∈ containerElements := by
  have hrow : ∀ m ∈ table,
      keepsChildren m.sourceType = true → m.sourceType ∈ containerElements := by
    decide
  obtain ⟨hmem, rfl⟩ := ofType?_eq_some h
  exact hrow m hmem hkeeps

theorem isSome_headingLevel {type : String} {m : Mapping} (h : ofType? type = some m) :
    m.headingLevel.isSome = headingElements.contains type := by
  have hrow : ∀ m ∈ table, m.headingLevel.isSome = headingElements.contains m.sourceType := by
    decide
  obtain ⟨hmem, rfl⟩ := ofType?_eq_some h
  exact hrow m hmem

theorem hasChildrenSlot_eq {type : String} {m : Mapping} (h : ofType? type = some m) :
    m.hasChildrenSlot = keepsChildren type := by
  have hrow : ∀ m ∈ table, m.hasChildrenSlot = keepsChildren m.sourceType := by decide
  obtain ⟨hmem, rfl⟩ := ofType?_eq_some h
  exact hrow m hmem

theorem keepsChildren_eq_false {type : String} {m : Mapping} {level : Int}
    (h : ofType? type = some m) (hlevel : m.headingLevel = some level) :
    keepsChildren type = false := by
  have hheading := isSome_headingLevel h
  rw [hlevel, Option.isSome_some] at hheading
  rw [keepsChildren, ← hheading]
  rfl

/-- Every heading has a row with a level. -/
theorem exists_headingLevel {type : String} (h : type ∈ headingElements) :
    ∃ m level, ofType? type = some m ∧ m.headingLevel = some level := by
  simp only [headingElements, List.mem_cons, List.not_mem_nil, or_false] at h
  rcases h with rfl | rfl | rfl | rfl | rfl | rfl <;> exact ⟨_, _, rfl, rfl⟩

theorem ofType?_eq_none {type : String}
    (h : type ∉ headingElements ++ slotlessElements ++ containerElements) :
    ofType? type = none := by
  have hrow : ∀ m ∈ table,
      m.sourceType ∈ headingElements ++ slotlessElements ++ containerElements := by
    decide
  rw [Option.eq_none_iff_forall_ne_some]
  intro m hm
  obtain ⟨hmem, rfl⟩ := ofType?_eq_some hm
  exact h (hrow m hmem)

theorem nodes_notMem_attributes {type : String} {m : Mapping} (h : ofType? type = some m) :
    "nodes" ∉ Fields.names m.attributes := by
  have hrow : ∀ m ∈ table, "nodes" ∉ Fields.names m.attributes := by decide
  exact hrow m (ofType?_eq_some h).1

theorem nodes_notMem_targetAttributes {type : String} {m : Mapping} (h : ofType? type = some m)
    (href : Json) :
    "nodes" ∉ Fields.names
      (if m.copiesHref then ("destination", href) :: m.attributes else m.attributes) := by
  have hown := nodes_notMem_attributes h
  split
  · simpa [Fields.names] using hown
  · exact hown

end SlateMark.Mapping
