import Mathlib.Data.List.Forall2
import Mathlib.Data.List.Nodup
import SlateMark.Proofs.Json.Fields

/-!
JSON values that differ in the order of members only. Their objects have the same names at every
depth and the same under each name, so whatever is looked up in one of them is found in the other,
and a value has content if and only if the other has.
-/
namespace SlateMark

/-- The same value up to the order of members, at every depth. -/
inductive Json.Reordered : Json → Json → Prop
  | refl (v : Json) : Reordered v v
  | arr {items items' : List Json} (hitems : List.Forall₂ Reordered items items') :
      Reordered (.arr items) (.arr items')
  | obj {fields fields' : Fields} (hnames : (Fields.names fields).Perm (Fields.names fields'))
      (hvalues : ∀ name v v', Fields.get? fields name = some v →
        Fields.get? fields' name = some v' → Reordered v v') :
      Reordered (.obj fields) (.obj fields')

/-- The same members in another order, with values that may be reordered themselves. -/
structure Fields.Reordered (fields fields' : Fields) : Prop where
  names : (Fields.names fields).Perm (Fields.names fields')
  values : ∀ name v v', Fields.get? fields name = some v → Fields.get? fields' name = some v' →
    v.Reordered v'

namespace Fields.Reordered

variable {fields fields' : Fields}

/-- A name is in neither or in both, and then with values that are the same up to order. -/
theorem lookup_cases (h : fields.Reordered fields') (name : String) :
    (Fields.get? fields name = none ∧ Fields.get? fields' name = none) ∨
      ∃ v v', Fields.get? fields name = some v ∧ Fields.get? fields' name = some v' ∧
        v.Reordered v' := by
  have hmem : Fields.get? fields name = none ↔ Fields.get? fields' name = none := by
    rw [Fields.get?_eq_none_iff, Fields.get?_eq_none_iff, h.names.mem_iff]
  cases hv : Fields.get? fields name with
  | none => exact .inl ⟨rfl, hmem.mp hv⟩
  | some v =>
    cases hv' : Fields.get? fields' name with
    | none => cases hv.symm.trans (hmem.mpr hv')
    | some v' => exact .inr ⟨v, v', rfl, rfl, h.values name v v' hv hv'⟩

theorem lookup (h : fields.Reordered fields') (name : String) :
    Option.Rel Json.Reordered (Fields.get? fields name) (Fields.get? fields' name) := by
  rcases h.lookup_cases name with ⟨hv, hv'⟩ | ⟨v, v', hv, hv', hrel⟩
  · rw [hv, hv']
    exact .none
  · rw [hv, hv']
    exact .some hrel

theorem has_eq (h : fields.Reordered fields') (name : String) :
    Fields.has fields' name = Fields.has fields name := by
  rw [Fields.has_eq_isSome, Fields.has_eq_isSome]
  rcases h.lookup_cases name with ⟨hv, hv'⟩ | ⟨v, v', hv, hv', -⟩
  · rw [hv, hv']
  · rw [hv, hv']
    rfl

end Fields.Reordered

namespace Json.Reordered

theorem members {fields fields' : Fields} (h : (Json.obj fields).Reordered (.obj fields')) :
    fields.Reordered fields' := by
  cases h with
  | refl =>
    refine ⟨.refl _, fun name v v' hv hv' => ?_⟩
    obtain rfl := Option.some.inj (hv.symm.trans hv')
    exact .refl v
  | obj hnames hvalues => exact ⟨hnames, hvalues⟩

theorem exists_obj {fields : Fields} {w : Json} (h : (Json.obj fields).Reordered w) :
    ∃ fields', w = .obj fields' ∧ fields.Reordered fields' := by
  cases h with
  | refl => exact ⟨fields, rfl, members (.refl _)⟩
  | obj hnames hvalues => exact ⟨_, rfl, hnames, hvalues⟩

theorem exists_arr {items : List Json} {w : Json} (h : (Json.arr items).Reordered w) :
    ∃ items', w = .arr items' ∧ List.Forall₂ Reordered items items' := by
  cases h with
  | refl => exact ⟨items, rfl, List.forall₂_same.mpr fun v _ => .refl v⟩
  | arr hitems => exact ⟨_, rfl, hitems⟩

/-- Members with values that are the same up to order, put into another order. -/
theorem of_perm {fields fields' : Fields} (middle : Fields)
    (hnodup : (Fields.names fields).Nodup)
    (hvalues : List.Forall₂ (fun m m' => m.1 = m'.1 ∧ m.2.Reordered m'.2) fields middle)
    (hperm : middle.Perm fields') : (Json.obj fields).Reordered (.obj fields') := by
  obtain ⟨hlength, hget⟩ := List.forall₂_iff_get.mp hvalues
  have hnames : Fields.names fields = Fields.names middle := by
    refine List.ext_getElem (by simpa [Fields.names] using hlength) fun i hi hi' => ?_
    simp only [Fields.names, List.getElem_map]
    exact (hget i _ _).1
  have hnodup' : (middle.map Prod.fst).Nodup := by
    rw [hnames] at hnodup
    exact hnodup
  refine .obj (hnames ▸ hperm.map _) fun name v v' hv hv' => ?_
  obtain ⟨i, hi, hmember⟩ := List.getElem_of_mem (Fields.mem_of_get?_eq_some hv)
  have hi' : i < middle.length := hlength ▸ hi
  obtain ⟨hname, hrel⟩ := hget i hi hi'
  rw [List.get_eq_getElem, List.get_eq_getElem, hmember] at hname hrel
  have hmember' : (name, v') ∈ middle := hperm.mem_iff.mpr (Fields.mem_of_get?_eq_some hv')
  have hsame : middle[i] = (name, v') :=
    List.inj_on_of_nodup_map hnodup' (List.getElem_mem hi') hmember' hname.symm
  rw [hsame] at hrel
  exact hrel

/-- Items that are the same up to order are related if those on one side are to all such. -/
theorem forall₂_of_mem {R : Json → Json → Prop} {items items' : List Json}
    (h : List.Forall₂ Reordered items items')
    (hR : ∀ v ∈ items, ∀ w, v.Reordered w → R v w) : List.Forall₂ R items items' := by
  have hboth := (List.forall₂_and_left _ _).mpr ⟨hR, h⟩
  exact hboth.imp fun v w ⟨hv, hrel⟩ => hv w hrel

theorem hasContent_eq {v w : Json} (h : v.Reordered w) : w.hasContent = v.hasContent := by
  cases h with
  | refl => rfl
  | arr hitems => cases hitems <;> rfl
  | obj hnames hvalues =>
    have hempty := hnames.isEmpty_eq
    rw [Fields.names, Fields.names, List.isEmpty_map, List.isEmpty_map] at hempty
    rw [hasContent, hasContent, hempty]

end Json.Reordered

end SlateMark
