import Mathlib.Data.List.Sort
import Mathlib.Data.String.Basic
import SlateMark.Error
import SlateMark.Proofs.CommonMark.Reading
import SlateMark.Proofs.Json.Reordering
import SlateMark.Proofs.Outcome

/-!
Raw trees whose members stand in another order. They are read as the same tree or refused at the
same place because of the same attribute: an attribute is found wherever it stands, and of several
names that are not declared the first in the alphabet is told.
-/
namespace SlateMark.CommonMark

/-- The same fault. A value that it shows may be reordered. -/
inductive SameFault : SchemaFault → SchemaFault → Prop
  | located {fault : SchemaFault} (h : fault.isLocated = true) : SameFault fault fault
  | tight {found found' : Json} (h : found.Reordered found') :
      SameFault (.tightNotABoolean found) (.tightNotABoolean found')
  | long {digits : Nat} (h : maxNumeralDigits < digits) :
      SameFault (.numeralTooLong digits) (.numeralTooLong digits)

structure SameError (e e' : SchemaError) : Prop where
  fault : SameFault e.fault e'.fault
  path_eq : e'.path = e.path

/-- Both errors are reported at the same place and about the same attribute. A numeral that is too
long is reported as what it is, and in both; all else is no valid tree. -/
structure SameReport (e e' : SchemaError) : Prop where
  path_eq : e'.path = e.path
  key_eq : e'.fault.key? = e.fault.key?
  kind : ((Error.ofSchema e).kind? = some .schemaValidation ∧
      (Error.ofSchema e').kind? = some .schemaValidation) ∨
    ∃ digits, maxNumeralDigits < digits ∧ e.fault = .numeralTooLong digits ∧
      e'.fault = .numeralTooLong digits

theorem SameError.report {e e' : SchemaError} (h : SameError e e') : SameReport e e' := by
  obtain ⟨fault, path, fragment⟩ := e
  obtain ⟨fault', path', fragment'⟩ := e'
  obtain ⟨hfault, hpath⟩ := h
  cases hfault with
  | located hlocated =>
    refine ⟨hpath, rfl, .inl ?_⟩
    cases fault with
    | numeralTooLong digits => cases hlocated
    | _ => exact ⟨rfl, rfl⟩
  | tight hfound => exact ⟨hpath, rfl, .inl ⟨rfl, rfl⟩⟩
  | @long digits hlong => exact ⟨hpath, rfl, .inr ⟨digits, hlong, rfl, rfl⟩⟩

/-- Both readings of attributes yield the same or find the same fault. -/
abbrev SameReading {α : Type} : Except SchemaFault α → Except SchemaFault α → Prop :=
  SameOutcome SameFault Eq

/-- Both trees are read as the same or refused with the same error. -/
abbrev SameTree {α : Type} : Except SchemaError α → Except SchemaError α → Prop :=
  SameOutcome SameError Eq

section Attributes

variable {fields fields' : Fields}

theorem undeclaredNames_eq_of_reordered (tag : Tag) (h : fields.Reordered fields') :
    undeclaredNames tag fields' = undeclaredNames tag fields := by
  have hperm := (h.names.filter fun name =>
    name ≠ classKey && !tag.attributes.contains name).symm
  have hsorted : ∀ names : List String, (names.mergeSort (· ≤ ·)).Pairwise (· ≤ ·) := by
    intro names
    simpa using List.pairwise_mergeSort' (· ≤ ·) names
  refine List.Perm.eq_of_pairwise' (hsorted _) (hsorted _) ?_
  exact ((List.mergeSort_perm _ _).trans hperm).trans (List.mergeSort_perm _ _).symm

theorem readTag_same (ns : String) (h : fields.Reordered fields') :
    SameReading (readTag ns fields) (readTag ns fields') := by
  unfold readTag
  rcases h.lookup_cases classKey with ⟨hv, hv'⟩ | ⟨v, v', hv, hv', hrel⟩
  · rw [hv, hv']
    exact .error (.located rfl)
  · rw [hv, hv']
    cases hrel with
    | refl =>
      simp only [undeclaredNames_eq_of_reordered _ h]
      split
      case h_2 => exact .error (.located rfl)
      case h_1 className _ =>
        split
        case isTrue => exact .error (.located rfl)
        case isFalse =>
          split
          case h_1 => exact .error (.located rfl)
          case h_2 =>
            split
            case h_1 => exact .error (.located rfl)
            case h_2 =>
              split
              case h_1 => exact .ok rfl
              case h_2 => exact .error (.located rfl)
    | arr => exact .error (.located rfl)
    | obj => exact .error (.located rfl)

theorem readString?_same (key : String) (h : fields.Reordered fields') :
    SameReading (readString? key fields) (readString? key fields') := by
  unfold readString?
  rcases h.lookup_cases key with ⟨hv, hv'⟩ | ⟨v, v', hv, hv', hrel⟩
  · rw [hv, hv']
    exact .ok rfl
  · rw [hv, hv']
    cases hrel with
    | refl =>
      cases v with
      | str s => exact .ok rfl
      | _ => exact .error (.located rfl)
    | arr => exact .error (.located rfl)
    | obj => exact .error (.located rfl)

theorem readString_same (key : String) (h : fields.Reordered fields') :
    SameReading (readString key fields) (readString key fields') := by
  unfold readString
  have hread := readString?_same key h
  generalize readString? key fields = outcome at hread
  generalize readString? key fields' = outcome' at hread
  cases hread with
  | error hfault => exact .error hfault
  | @ok s? s?' heq =>
    subst heq
    cases s? with
    | none => exact .error (.located rfl)
    | some s => exact .ok rfl

theorem checkLevel_same (level : Int) : SameReading (checkLevel level) (checkLevel level) := by
  unfold checkLevel
  split
  · exact .ok rfl
  · exact .error (.located rfl)

theorem readLevel_same (h : fields.Reordered fields') :
    SameReading (readLevel fields) (readLevel fields') := by
  unfold readLevel
  rcases h.lookup_cases "level" with ⟨hv, hv'⟩ | ⟨v, v', hv, hv', hrel⟩
  · rw [hv, hv']
    exact .error (.located rfl)
  · rw [hv, hv']
    cases hrel with
    | refl =>
      cases v with
      | int level => exact checkLevel_same level
      | str s =>
        dsimp only
        split
        · split
          case isTrue => exact checkLevel_same _
          case isFalse hlong => exact .error (.long (Nat.lt_of_not_le hlong))
        · exact .error (.located rfl)
      | _ => exact .error (.located rfl)
    | arr => exact .error (.located rfl)
    | obj => exact .error (.located rfl)

theorem readTight_same (h : fields.Reordered fields') :
    SameReading (readTight fields) (readTight fields') := by
  unfold readTight
  rcases h.lookup_cases "tight" with ⟨hv, hv'⟩ | ⟨v, v', hv, hv', hrel⟩
  · rw [hv, hv']
    exact .ok rfl
  · rw [hv, hv']
    cases hrel with
    | refl =>
      cases v with
      | bool tight => exact .ok rfl
      | str s =>
        dsimp only
        split
        · exact .ok rfl
        · exact .error (.tight (.refl _))
      | _ => exact .error (.tight (.refl _))
    | arr hitems => exact .error (.tight (.arr hitems))
    | obj hnames hvalues => exact .error (.tight (.obj hnames hvalues))

theorem readListType_same (h : fields.Reordered fields') :
    SameReading (readListType fields) (readListType fields') := by
  unfold readListType
  have hread := readString_same "type" h
  generalize readString "type" fields = outcome at hread
  generalize readString "type" fields' = outcome' at hread
  cases hread with
  | error hfault => exact .error hfault
  | @ok type type' heq =>
    subst heq
    dsimp only
    split
    · exact .ok rfl
    · exact .error (.located rfl)

theorem atNode_same {α : Type} {result result' : Except SchemaFault α}
    (h : SameReading result result') : SameTree (atNode fields result) (atNode fields' result') :=
  h.mapError fun _ _ hfault => ⟨hfault, rfl⟩

/-- The attributes are read in the same order, whatever the order of the members. -/
theorem build_same (tag : Tag) (h : fields.Reordered fields')
    {children children' : Except SchemaError (Option (List Node))}
    (hchildren : SameTree children children') :
    SameTree (build tag fields children) (build tag fields' children') := by
  have htext : SameTree (atNode fields (readString "text" fields))
      (atNode fields' (readString "text" fields')) := atNode_same (readString_same "text" h)
  have htext? : SameTree (atNode fields (readString? "text" fields))
      (atNode fields' (readString? "text" fields')) := atNode_same (readString?_same "text" h)
  cases tag with
  | document =>
    refine hchildren.bind fun nodes? _ heq => ?_
    subst heq
    cases nodes? with
    | none => exact .error ⟨.located rfl, rfl⟩
    | some nodes =>
      exact (atNode_same (readString_same "xmlns" h)).bind fun _ _ heq => heq ▸ .ok rfl
  | paragraph | blockQuote | item | strong | emph =>
    exact hchildren.bind fun _ _ heq => heq ▸ .ok rfl
  | thematicBreak => exact .ok rfl
  | heading =>
    refine (atNode_same (readLevel_same h)).bind fun level _ heq => ?_
    subst heq
    exact htext?.bind fun _ _ heq => heq ▸ .ok rfl
  | codeBlock | htmlBlock | htmlInline => exact htext?.bind fun _ _ heq => heq ▸ .ok rfl
  | list =>
    refine (atNode_same (readListType_same h)).bind fun type _ heq => ?_
    subst heq
    refine (atNode_same (readTight_same h)).bind fun tight _ heq => ?_
    subst heq
    exact hchildren.bind fun _ _ heq => heq ▸ .ok rfl
  | link =>
    refine (atNode_same (readString_same "destination" h)).bind fun destination _ heq => ?_
    subst heq
    refine (atNode_same (readString_same "title" h)).bind fun title _ heq => ?_
    subst heq
    exact hchildren.bind fun _ _ heq => heq ▸ .ok rfl
  | text | code => exact htext.bind fun _ _ heq => heq ▸ .ok rfl

end Attributes

namespace Node

theorem ofRawFrom_same {ns : String} {items items' : List Json}
    (h : List.Forall₂ (fun v w => SameTree (ofRaw ns v) (ofRaw ns w)) items items')
    (index : Nat) : SameTree (ofRawFrom ns index items) (ofRawFrom ns index items') := by
  induction h generalizing index with
  | nil => exact .ok rfl
  | @cons v w rest rest' hhead htail ih =>
    have hrest := ih (index + 1)
    rw [ofRawFrom, ofRawFrom]
    generalize ofRaw ns v = outcome at hhead
    generalize ofRaw ns w = outcome' at hhead
    generalize ofRawFrom ns (index + 1) rest = more at hrest
    generalize ofRawFrom ns (index + 1) rest' = more' at hrest
    cases hhead with
    | error he => exact .error ⟨he.fault, congrArg (index :: ·) he.path_eq⟩
    | ok heq =>
      cases hrest with
      | error he => exact .error he
      | ok hmore => exact .ok (heq ▸ hmore ▸ rfl)

theorem childrenOfFields_same {ns : String} {fields fields' : Fields}
    (h : fields.Reordered fields')
    (hitems : ∀ items items', Fields.get? fields "nodes" = some (.arr items) →
      List.Forall₂ Json.Reordered items items' →
      SameTree (ofRawFrom ns 0 items) (ofRawFrom ns 0 items')) :
    SameTree (childrenOfFields ns fields fields) (childrenOfFields ns fields' fields') := by
  rw [childrenOfFields_eq, childrenOfFields_eq]
  rcases h.lookup_cases "nodes" with ⟨hv, hv'⟩ | ⟨v, v', hv, hv', hrel⟩
  · rw [hv, hv']
    exact .ok rfl
  · rw [hv, hv']
    dsimp only
    cases v with
    | null =>
      cases hrel
      exact .ok rfl
    | arr items =>
      obtain ⟨items', rfl, hrelated⟩ := hrel.exists_arr
      rw [childrenOfValue_arr, childrenOfValue_arr]
      exact (hitems items items' hv hrelated).map fun _ _ heq => congrArg some heq
    | obj inner =>
      obtain ⟨inner', rfl, -⟩ := hrel.exists_obj
      exact .error ⟨.located rfl, rfl⟩
    | _ =>
      cases hrel
      exact .error ⟨.located rfl, rfl⟩

/-- Values that differ in the order of members only are read alike. -/
theorem ofRaw_same (ns : String) {v w : Json} (h : v.Reordered w) :
    SameTree (ofRaw ns v) (ofRaw ns w) := by
  induction v using Json.induct_items generalizing w with
  | other v hother =>
    cases h with
    | refl =>
      cases v with
      | obj fields => exact absurd rfl (hother fields)
      | _ => exact .error ⟨.located rfl, rfl⟩
    | arr => exact .error ⟨.located rfl, rfl⟩
    | obj => exact absurd rfl (hother _)
  | object fields ih =>
    obtain ⟨fields', rfl, hfields⟩ := h.exists_obj
    have htag := readTag_same ns hfields
    have hchildren : SameTree (childrenOfFields ns fields fields)
        (childrenOfFields ns fields' fields') := by
      refine childrenOfFields_same hfields fun items items' hnodes hitems => ?_
      exact ofRawFrom_same
        (Json.Reordered.forall₂_of_mem hitems fun c hc _ => ih "nodes" items hnodes c hc) 0
    rw [ofRaw, ofRaw]
    generalize readTag ns fields = outcome at htag
    generalize readTag ns fields' = outcome' at htag
    cases htag with
    | error hfault => exact .error ⟨hfault, rfl⟩
    | @ok tag tag' heq =>
      subst heq
      exact build_same tag hfields hchildren

end Node

end SlateMark.CommonMark
