import SlateMark.Json.Basic

/-!
Looking up by name, and looking up and setting members. Members whose names are all different are
collected as they are. The values in the lists of an object lie below it, which allows an induction
over them.
-/
namespace SlateMark

/-- In a list that finds each of its things by name, a name finds the thing that bears it. -/
theorem find?_name_eq_some_iff {α : Type} {all : List α} {name : α → String}
    (hall : ∀ a, (all.find? fun b => name b = name a) = some a) {s : String} {a : α} :
    (all.find? fun b => name b = s) = some a ↔ s = name a := by
  constructor
  · intro h
    have hname := List.find?_some h
    exact (of_decide_eq_true hname).symm
  · rintro rfl
    exact hall a

section Named

variable {α : Type}

theorem Fields.get?_append_of_notMem {name : String} (front back : Named α)
    (h : name ∉ Fields.names front) : Fields.get? (front ++ back) name = Fields.get? back name := by
  induction front with
  | nil => rfl
  | cons field rest ih =>
    simp only [Fields.names, List.map_cons, List.mem_cons, not_or] at h
    have hne : field.1 ≠ name := Ne.symm h.1
    simpa [Fields.get?, hne] using ih h.2

theorem Fields.get?_eq_none_iff {fields : Named α} {name : String} :
    Fields.get? fields name = none ↔ name ∉ Fields.names fields := by
  rw [get?, Option.map_eq_none_iff, List.find?_eq_none]
  constructor
  · intro h hmem
    obtain ⟨field, hfield, hname⟩ := List.mem_map.mp hmem
    exact h field hfield (decide_eq_true hname)
  · intro h field hfield hname
    exact h (List.mem_map.mpr ⟨field, hfield, of_decide_eq_true hname⟩)

theorem Fields.get?_eq_none_of_notMem {name : String} {fields : Named α}
    (h : name ∉ Fields.names fields) : Fields.get? fields name = none :=
  Fields.get?_eq_none_iff.mpr h

theorem Fields.set_append_of_notMem {name : String} (value : α) (front back : Named α)
    (h : name ∉ Fields.names front) :
    Fields.set name value (front ++ back) = front ++ Fields.set name value back := by
  induction front with
  | nil => rfl
  | cons field rest ih =>
    simp only [Fields.names, List.map_cons, List.mem_cons, not_or] at h
    have hne : field.1 ≠ name := Ne.symm h.1
    simp [Fields.set, hne, ih h.2]

theorem Fields.foldl_set_of_nodup (front : Named α) {members : Named α}
    (h : (Fields.names (front ++ members)).Nodup) :
    members.foldl (fun fields member => Fields.set member.1 member.2 fields) front =
      front ++ members := by
  induction members generalizing front with
  | nil => simp
  | cons member rest ih =>
    have hnew : member.1 ∉ Fields.names front := by
      intro hmem
      rw [Fields.names, List.map_append, List.nodup_append] at h
      exact h.2.2 _ hmem _ List.mem_cons_self rfl
    have hset : Fields.set member.1 member.2 front = front ++ [member] := by
      simpa [Fields.set] using Fields.set_append_of_notMem member.2 front [] hnew
    rw [List.foldl_cons, hset, ih, List.append_assoc, List.singleton_append]
    simpa using h

theorem Fields.ofList_of_nodup {members : Named α} (h : (Fields.names members).Nodup) :
    Fields.ofList members = members := Fields.foldl_set_of_nodup [] h

theorem Fields.ofList_concat (members : Named α) (member : String × α) :
    Fields.ofList (members ++ [member]) =
      Fields.set member.1 member.2 (Fields.ofList members) := by
  rw [ofList, List.foldl_append]
  rfl

theorem Fields.get?_cons (member : String × α) (rest : Named α) (name : String) :
    Fields.get? (member :: rest) name =
      if member.1 = name then some member.2 else Fields.get? rest name := by
  by_cases h : member.1 = name
  · simp [get?, h]
  · simp [get?, h]

theorem Fields.get?_set (fields : Named α) (name : String) (value : α) (key : String) :
    Fields.get? (Fields.set name value fields) key =
      if name = key then some value else Fields.get? fields key := by
  induction fields with
  | nil => rw [Fields.set, get?_cons]
  | cons member rest ih =>
    rw [Fields.set]
    split
    case isTrue h =>
      rw [get?_cons, get?_cons, h]
      by_cases hkey : name = key
      · rw [if_pos hkey, if_pos hkey]
      · rw [if_neg hkey, if_neg hkey, if_neg hkey]
    case isFalse h =>
      rw [get?_cons, get?_cons, ih]
      by_cases hkey : member.1 = key
      · have hname : name ≠ key := fun heq => h (hkey.trans heq.symm)
        rw [if_pos hkey, if_pos hkey, if_neg hname]
      · rw [if_neg hkey, if_neg hkey]

theorem Fields.names_set (fields : Named α) (name : String) (value : α) :
    Fields.names (Fields.set name value fields) =
      if name ∈ Fields.names fields then Fields.names fields else Fields.names fields ++ [name] := by
  have hcons : ∀ (member : String × α) (rest : Named α),
      Fields.names (member :: rest) = member.1 :: Fields.names rest := fun _ _ => rfl
  induction fields with
  | nil => rfl
  | cons member rest ih =>
    rw [Fields.set, hcons]
    by_cases h : member.1 = name
    · rw [if_pos h, if_pos (List.mem_cons.mpr (.inl h.symm)), hcons, h]
    · rw [if_neg h, hcons, ih]
      by_cases hmem : name ∈ Fields.names rest
      · rw [if_pos hmem, if_pos (List.mem_cons_of_mem _ hmem)]
      · have hnew : name ∉ member.1 :: Fields.names rest := by
          rw [List.mem_cons, not_or]
          exact ⟨Ne.symm h, hmem⟩
        rw [if_neg hmem, if_neg hnew, List.cons_append]

theorem Fields.mem_of_get?_eq_some {fields : Named α} {name : String} {v : α}
    (h : Fields.get? fields name = some v) : (name, v) ∈ fields := by
  obtain ⟨field, hfield, rfl⟩ := Option.map_eq_some_iff.mp h
  have hname : field.1 = name := by simpa using List.find?_some hfield
  exact hname ▸ List.mem_of_find?_eq_some hfield

theorem Fields.has_eq_isSome (fields : Named α) (name : String) :
    Fields.has fields name = (Fields.get? fields name).isSome := by
  rw [Fields.has, Fields.get?, Option.isSome_map, List.isSome_find?]

end Named

/-- Changes the values of the members of this name. -/
def Fields.modify (name : String) (f : Json → Json) (fields : Fields) : Fields :=
  fields.map fun field => if field.1 = name then (field.1, f field.2) else field

@[simp] theorem Fields.get?_modify_self (name : String) (f : Json → Json) (fields : Fields) :
    Fields.get? (Fields.modify name f fields) name = (Fields.get? fields name).map f := by
  induction fields with
  | nil => rfl
  | cons field rest ih =>
    by_cases h : field.1 = name
    · simp [modify, get?, h]
    · simpa [modify, get?, h] using ih

theorem Fields.get?_modify_of_ne {name key : String} (hne : key ≠ name) (f : Json → Json)
    (fields : Fields) :
    Fields.get? (Fields.modify name f fields) key = Fields.get? fields key := by
  induction fields with
  | nil => rfl
  | cons field rest ih =>
    obtain ⟨key', v⟩ := field
    by_cases hkey : key' = key
    · subst hkey
      simp [modify, get?, hne]
    · by_cases hname : key' = name
      · subst hname
        simpa [modify, get?, hkey] using ih
      · simpa [modify, get?, hkey, hname] using ih

theorem Fields.has_modify (name : String) (f : Json → Json) (fields : Fields) (key : String) :
    Fields.has (Fields.modify name f fields) key = Fields.has fields key := by
  rw [has_eq_isSome, has_eq_isSome]
  by_cases h : key = name
  · rw [h, get?_modify_self, Option.isSome_map]
  · rw [get?_modify_of_ne h]

/-- Changes what a list holds; other values stay. -/
def Json.mapItems (f : List Json → List Json) : Json → Json
  | .arr items => .arr (f items)
  | v => v

/-- Induction over the values in the lists among the members of an object. -/
@[elab_as_elim]
theorem Json.induct_items {motive : Json → Prop}
    (object : ∀ fields, (∀ name items, Fields.get? fields name = some (.arr items) →
      ∀ c ∈ items, motive c) → motive (.obj fields))
    (other : ∀ v, (∀ fields, v ≠ .obj fields) → motive v) (v : Json) : motive v := by
  cases v with
  | obj fields =>
    refine object fields fun name items hget c hc => ?_
    have hitems := List.sizeOf_lt_of_mem (Fields.mem_of_get?_eq_some hget)
    have hitem := List.sizeOf_lt_of_mem hc
    exact induct_items object other c
  | _ => exact other _ nofun
termination_by sizeOf v
decreasing_by
  simp only [Json.obj.sizeOf_spec, Json.arr.sizeOf_spec, Prod.mk.sizeOf_spec] at hitems ⊢
  omega

end SlateMark
