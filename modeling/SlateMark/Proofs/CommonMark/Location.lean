import SlateMark.Error
import SlateMark.Proofs.CommonMark.Reading
import SlateMark.Proofs.Failure

/-!
The places of errors in raw trees. An error of a node itself keeps the node and has no steps; every
list of children that it is passed through on its way to the root puts one in front. So the steps
lead from the root to the node at fault, through nodes with a class and past children in order.
-/
namespace SlateMark

/-- The message of the fault is about a place in the tree, unless a numeral was too long to read. -/
def SchemaFault.Placed (fault : SchemaFault) : Prop :=
  fault.isLocated = true ∨ ∃ digits, fault = .numeralTooLong digits

open SchemaFault (Placed)

theorem SchemaError.message_of_placed {e : SchemaError} {v : Json} (h : e.fault.Placed)
    (hfragment : e.fragment = .json v) (hschema : Error.ofSchema e = .schema e) :
    e.message = (Fragment.json v).attach (e.fault.message ++ (" at " ++ pathText e.path)) := by
  rcases h with hlocated | ⟨digits, hlong⟩
  · rw [message, hfragment, if_pos hlocated]
  · simp [Error.ofSchema, hlong] at hschema

theorem SchemaError.ofSchema_of_fault_eq {e e' : SchemaError} (h : e'.fault = e.fault)
    (hschema : Error.ofSchema e = .schema e) : Error.ofSchema e' = .schema e' := by
  unfold Error.ofSchema at hschema ⊢
  rw [h]
  split
  case h_1 digits hlong => simp [hlong] at hschema
  case h_2 => rfl

namespace CommonMark

theorem readTag_failsPlaced (ns : String) (fields : Fields) :
    FailsWith Placed (readTag ns fields) := by
  unfold readTag
  split
  case h_2 => exact .error (.inl rfl)
  case h_1 =>
    split
    case isTrue => exact .error (.inl rfl)
    case isFalse =>
      split
      case h_1 => exact .error (.inl rfl)
      case h_2 =>
        split
        case h_1 => exact .error (.inl rfl)
        case h_2 tag _ =>
          split
          case h_1 => exact .ok tag
          case h_2 => exact .error (.inl rfl)

theorem readString?_failsPlaced (key : String) (fields : Fields) :
    FailsWith Placed (readString? key fields) := by
  unfold readString?
  split
  case h_1 => exact .ok none
  case h_2 s _ => exact .ok (some s)
  case h_3 => exact .error (.inl rfl)

theorem readString_failsPlaced (key : String) (fields : Fields) :
    FailsWith Placed (readString key fields) := by
  unfold readString
  split
  case h_1 fault hfault => exact .error (readString?_failsPlaced key fields fault hfault)
  case h_2 => exact .error (.inl rfl)
  case h_3 s _ => exact .ok s

theorem checkLevel_failsPlaced (level : Int) : FailsWith Placed (checkLevel level) := by
  unfold checkLevel
  split
  case isTrue => exact .ok level
  case isFalse => exact .error (.inl rfl)

theorem readLevel_failsPlaced (fields : Fields) : FailsWith Placed (readLevel fields) := by
  unfold readLevel
  split
  case h_1 => exact .error (.inl rfl)
  case h_2 level _ => exact checkLevel_failsPlaced level
  case h_3 =>
    split
    case h_1 level _ =>
      dsimp only
      split
      case isTrue => exact checkLevel_failsPlaced level
      case isFalse => exact .error (.inr ⟨_, rfl⟩)
    case h_2 => exact .error (.inl rfl)
  case h_4 => exact .error (.inl rfl)

theorem readTight_failsPlaced (fields : Fields) : FailsWith Placed (readTight fields) := by
  unfold readTight
  split
  case h_1 => exact .ok true
  case h_2 tight _ => exact .ok tight
  case h_3 =>
    split
    case h_1 tight _ => exact .ok tight
    case h_2 => exact .error (.inl rfl)
  case h_4 => exact .error (.inl rfl)

theorem readListType_failsPlaced (fields : Fields) : FailsWith Placed (readListType fields) := by
  unfold readListType
  split
  case h_1 fault hfault => exact .error (readString_failsPlaced "type" fields fault hfault)
  case h_2 type _ =>
    split
    case isTrue => exact .ok type
    case isFalse => exact .error (.inl rfl)

/-- An error of the raw node itself: there are no steps, and the node is kept. -/
structure OwnError (v : Json) (e : SchemaError) : Prop where
  path_eq : e.path = []
  fragment_eq : e.fragment = .json v
  placed : e.fault.Placed

theorem OwnError.eq {v : Json} {e : SchemaError} (h : OwnError v e) :
    e = ⟨e.fault, [], .json v⟩ := by
  rw [← h.path_eq, ← h.fragment_eq]

theorem atNode_failsWith {α : Type} {fields : Fields} {result : Except SchemaFault α}
    (h : FailsWith Placed result) :
    FailsWith (OwnError (.obj fields)) (atNode fields result) := by
  cases result with
  | error fault => exact .error ⟨rfl, rfl, h fault rfl⟩
  | ok a => exact .ok a

/-- Building a node fails because of an attribute or as reading the children does. -/
theorem build_failsWith (tag : Tag) (fields : Fields)
    (children : Except SchemaError (Option (List Node))) :
    FailsWith (fun e => OwnError (.obj fields) e ∨ children = .error e)
      (build tag fields children) := by
  have hown : ∀ {α : Type} {result : Except SchemaFault α}, FailsWith Placed result →
      FailsWith (fun e => OwnError (.obj fields) e ∨ children = .error e)
        (atNode fields result) :=
    fun h e he => .inl (atNode_failsWith h e he)
  have hchildren : FailsWith (fun e => OwnError (.obj fields) e ∨ children = .error e) children :=
    fun e he => .inr he
  -- A document reads its children before its attribute, lists and links read theirs last.
  cases tag with
  | document =>
    refine hchildren.bind fun nodes? => ?_
    cases nodes? with
    | none => exact hown (.error (.inl rfl))
    | some nodes => exact (hown (readString_failsPlaced "xmlns" fields)).bind fun _ => .ok _
  | paragraph | blockQuote | item | strong | emph => exact hchildren.bind fun _ => .ok _
  | thematicBreak => exact .ok _
  | heading =>
    exact (hown (readLevel_failsPlaced fields)).bind fun _ =>
      (hown (readString?_failsPlaced "text" fields)).bind fun _ => .ok _
  | codeBlock | htmlBlock | htmlInline =>
    exact (hown (readString?_failsPlaced "text" fields)).bind fun _ => .ok _
  | list =>
    exact (hown (readListType_failsPlaced fields)).bind fun _ =>
      (hown (readTight_failsPlaced fields)).bind fun _ => hchildren.bind fun _ => .ok _
  | link =>
    exact (hown (readString_failsPlaced "destination" fields)).bind fun _ =>
      (hown (readString_failsPlaced "title" fields)).bind fun _ => hchildren.bind fun _ => .ok _
  | text | code => exact (hown (readString_failsPlaced "text" fields)).bind fun _ => .ok _

/-- The steps lead from a raw node to one below it. Each goes into the list of children of a node
that has a class and only attributes declared for it, past children that are in order. -/
inductive LeadsTo (ns : String) : Json → List Nat → Json → Prop
  | here (v : Json) : LeadsTo ns v [] v
  | step {fields : Fields} {tag : Tag} {items : List Json} {index : Nat} {v w : Json}
      {path : List Nat} (hclass : HasClass ns tag fields)
      (hnodes : Fields.get? fields "nodes" = some (.arr items)) (hitem : items[index]? = some v)
      (hbefore : ∀ u ∈ items.take index, ∃ n, Node.ofRaw ns u = .ok n)
      (hrest : LeadsTo ns v path w) : LeadsTo ns (.obj fields) (index :: path) w

namespace Node

theorem ofRawFrom_eq_error {ns : String} {items : List Json} {start : Nat} {e : SchemaError}
    (h : ofRawFrom ns start items = .error e) :
    ∃ index v e', items[index]? = some v ∧
      (∀ u ∈ items.take index, ∃ n, ofRaw ns u = .ok n) ∧
      ofRaw ns v = .error e' ∧ e = e'.under (start + index) := by
  induction items generalizing start with
  | nil => cases h
  | cons v rest ih =>
    rw [ofRawFrom] at h
    split at h
    case h_1 e' hv =>
      obtain rfl := Except.error.inj h
      exact ⟨0, v, e', rfl, by simp, hv, rfl⟩
    case h_2 n hv =>
      split at h
      case h_2 => cases h
      case h_1 e' hrest =>
        obtain rfl := Except.error.inj h
        obtain ⟨index, w, e'', hitem, hbefore, hw, rfl⟩ := ih hrest
        refine ⟨index + 1, w, e'', hitem, ?_, hw, ?_⟩
        · rw [List.take_succ_cons]
          exact List.forall_mem_cons.mpr ⟨⟨n, hv⟩, hbefore⟩
        · rw [Nat.add_right_comm, Nat.add_assoc]

theorem childrenOfFields_eq_error {ns : String} {owner fields : Fields} {e : SchemaError}
    (h : childrenOfFields ns owner fields = .error e) :
    OwnError (.obj owner) e ∨ ∃ items, Fields.get? fields "nodes" = some (.arr items) ∧
      ofRawFrom ns 0 items = .error e := by
  rw [childrenOfFields_eq] at h
  split at h
  case h_1 => cases h
  case h_2 v hget =>
    cases v with
    | null => cases h
    | arr items =>
      rw [childrenOfValue_arr, except_map_eq_error] at h
      exact .inr ⟨items, hget, h⟩
    | _ =>
      obtain rfl := Except.error.inj h
      exact .inl ⟨rfl, rfl, .inl rfl⟩

/-- An error is one of the node itself or of the first child with one, a step further. -/
theorem ofRaw_eq_error_cases {ns : String} {v : Json} {e : SchemaError}
    (h : ofRaw ns v = .error e) :
    OwnError v e ∨ ∃ fields tag items index u e', v = .obj fields ∧ HasClass ns tag fields ∧
      Fields.get? fields "nodes" = some (.arr items) ∧ items[index]? = some u ∧
      (∀ w ∈ items.take index, ∃ n, ofRaw ns w = .ok n) ∧ ofRaw ns u = .error e' ∧
      e = e'.under index := by
  cases v with
  | obj fields =>
    rw [ofRaw] at h
    split at h
    case h_1 fault hfault =>
      exact .inl (atNode_failsWith (.error (readTag_failsPlaced ns fields fault hfault)) e h)
    case h_2 tag htag =>
      rcases build_failsWith tag fields _ e h with hown | hchildren
      · exact .inl hown
      · rcases childrenOfFields_eq_error hchildren with hown | ⟨items, hnodes, hitems⟩
        · exact .inl hown
        · obtain ⟨index, u, e', hitem, hbefore, hu, rfl⟩ := ofRawFrom_eq_error hitems
          rw [Nat.zero_add]
          exact .inr ⟨fields, tag, items, index, u, e', rfl, readTag_eq_ok_iff.mp htag, hnodes,
            hitem, hbefore, hu, rfl⟩
  | _ =>
    obtain rfl := Except.error.inj h
    exact .inl ⟨rfl, rfl, .inl rfl⟩

/-- The steps lead to the node at fault, which on its own is rejected for the same fault. -/
theorem exists_leadsTo {ns : String} {v : Json} {e : SchemaError} (h : ofRaw ns v = .error e) :
    ∃ w, LeadsTo ns v e.path w ∧ e.fragment = .json w ∧ e.fault.Placed ∧
      ofRaw ns w = .error ⟨e.fault, [], .json w⟩ := by
  -- Each step taken off the front is one from the node to its child, whose error has the others.
  induction hpath : e.path generalizing v e with
  | nil =>
    rcases ofRaw_eq_error_cases h with hown | ⟨_, _, _, index, _, e', _, _, _, _, _, _, rfl⟩
    · exact ⟨v, .here v, hown.fragment_eq, hown.placed, hown.eq ▸ h⟩
    · cases hpath
  | cons index path ih =>
    rcases ofRaw_eq_error_cases h with hown | ⟨fields, tag, items, index', u, e', rfl, hclass,
      hnodes, hitem, hbefore, hu, rfl⟩
    · cases hown.path_eq.symm.trans hpath
    · obtain ⟨rfl, rfl⟩ := List.cons.inj hpath
      obtain ⟨w, hleads, hfragment, hplaced, hw⟩ := ih hu rfl
      exact ⟨w, .step hclass hnodes hitem hbefore hleads, hfragment, hplaced, hw⟩

/-- A schema error tells the place of a node below nodes with a class and past children in order.
The node is kept, and on its own it is rejected with the same fault at the root. -/
theorem leadsTo_of_ofRaw_eq_error {ns : String} {v : Json} {e : SchemaError}
    (h : ofRaw ns v = .error e) (hschema : Error.ofSchema e = .schema e) :
    ∃ w e', LeadsTo ns v e.path w ∧ e.fragment = .json w ∧
      e.message = (Fragment.json w).attach (e.fault.message ++ (" at " ++ pathText e.path)) ∧
      ofRaw ns w = .error e' ∧ Error.ofSchema e' = .schema e' ∧ e'.fault.key? = e.fault.key? ∧
      e'.message = (Fragment.json w).attach (e.fault.message ++ (" at " ++ "<root>")) := by
  obtain ⟨w, hleads, hfragment, hplaced, hw⟩ := exists_leadsTo h
  have halone : Error.ofSchema ⟨e.fault, [], .json w⟩ = .schema ⟨e.fault, [], .json w⟩ :=
    SchemaError.ofSchema_of_fault_eq (e := e) rfl hschema
  exact ⟨w, ⟨e.fault, [], .json w⟩, hleads, hfragment,
    SchemaError.message_of_placed hplaced hfragment hschema, hw, halone, rfl,
    SchemaError.message_of_placed hplaced rfl halone⟩

/-- The second paragraph holds a heading of level seven. -/
theorem leadsTo_of_ofRaw_eq_error_heading :
    let heading := rawNode "a" .heading [("level", .int 7)]
    let v := rawNode "a" .document [("xmlns", .str ""), ("nodes", .arr [rawNode "a" .paragraph [],
      rawNode "a" .paragraph [("nodes", .arr [heading])]])]
    ofRaw "a" v = .error ⟨.levelOutOfRange 7, [1, 0], .json heading⟩ ∧
      LeadsTo "a" v [1, 0] heading := by
  intro heading v
  have hheading : ofRaw "a" heading = .error ⟨.levelOutOfRange 7, [], .json heading⟩ := by
    rw [ofRaw_rawNode "a" (by decide)]
    rfl
  have hfirst : ofRaw "a" (rawNode "a" .paragraph []) = .ok (.paragraph []) := by
    rw [ofRaw_rawNode "a" (by decide)]
    rfl
  have hsecond : ofRaw "a" (rawNode "a" .paragraph [("nodes", .arr [heading])]) =
      .error ⟨.levelOutOfRange 7, [0], .json heading⟩ := by
    rw [ofRaw_rawNode "a" (by decide)]
    simp only [childrenOfFields, childrenOfValue, ofRawFrom, hheading]
    rfl
  have h : ofRaw "a" v = .error ⟨.levelOutOfRange 7, [1, 0], .json heading⟩ := by
    rw [ofRaw_rawNode "a" (by decide)]
    simp only [childrenOfFields, childrenOfValue, ofRawFrom, hfirst, hsecond]
    rfl
  obtain ⟨w, _, hleads, hfragment, -⟩ := leadsTo_of_ofRaw_eq_error h rfl
  obtain rfl := Fragment.json.inj hfragment
  exact ⟨h, hleads⟩

end Node

end CommonMark

end SlateMark
