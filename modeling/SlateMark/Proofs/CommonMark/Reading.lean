import Mathlib.Data.List.Forall2
import SlateMark.CommonMark.Schema
import SlateMark.Proofs.CommonMark.Tree
import SlateMark.Proofs.Json.Fields

/-!
What reading does to one raw node, given what it does to the children. A node that has its own class
and attributes is read as itself around the children read; an error among the children is passed on,
and so an error keeps the attribute it concerns on its way to the root.
-/
namespace SlateMark.CommonMark

/-- The reading failed, because of one of these attributes. -/
def RejectedFor (keys : List String) {α : Type} (outcome : Except SchemaError α) : Prop :=
  ∃ e, outcome = .error e ∧ ∃ key ∈ keys, e.fault.key? = some key

namespace RejectedFor

variable {keys : List String} {α β : Type}

theorem error {e : SchemaError} {key : String} (hkey : e.fault.key? = some key)
    (hmem : key ∈ keys) : RejectedFor keys (.error e : Except SchemaError α) :=
  ⟨e, rfl, key, hmem, hkey⟩

theorem map {outcome : Except SchemaError α} (h : RejectedFor keys outcome) (f : α → β) :
    RejectedFor keys (outcome.map f) := by
  obtain ⟨e, rfl, he⟩ := h
  exact ⟨e, rfl, he⟩

theorem bind {outcome : Except SchemaError α} (h : RejectedFor keys outcome)
    (next : α → Except SchemaError β) : RejectedFor keys (outcome >>= next) := by
  obtain ⟨e, rfl, he⟩ := h
  exact ⟨e, rfl, he⟩

theorem atNode {outcome : Except SchemaFault α} {fault : SchemaFault} {key : String}
    {fields : Fields} (h : outcome = .error fault) (hkey : fault.key? = some key)
    (hmem : key ∈ keys) : RejectedFor keys (CommonMark.atNode fields outcome) := by
  rw [h]
  exact error hkey hmem

theorem not_ok {outcome : Except SchemaError α} {a : α} (h : RejectedFor keys outcome) :
    outcome ≠ .ok a := by
  obtain ⟨e, rfl, -⟩ := h
  simp

end RejectedFor

theorem afterStart?_eq_some_iff {start s rest : String} :
    afterStart? start s = some rest ↔ s = start ++ rest := by
  rw [← String.toList_inj, String.toList_append]
  unfold afterStart?
  split
  case isTrue hstart =>
    obtain ⟨behind, hbehind⟩ := List.isPrefixOf_iff_prefix.mp hstart
    rw [← hbehind, List.drop_left, Option.some.injEq, List.append_cancel_left_eq,
      ← String.toList_inj, String.toList_ofList]
  case isFalse hstart =>
    refine iff_of_false nofun fun h => hstart ?_
    rw [List.isPrefixOf_iff_prefix, h]
    exact List.prefix_append _ _

theorem Tag.ofName?_name (tag : Tag) : Tag.ofName? tag.name = some tag := by
  cases tag <;> rfl

theorem Tag.ofName?_eq_some_iff {s : String} {tag : Tag} :
    Tag.ofName? s = some tag ↔ s = tag.name :=
  find?_name_eq_some_iff Tag.ofName?_name

theorem Tag.className_ne_empty (ns : String) (tag : Tag) : tag.className ns ≠ "" := by
  intro h
  have hlist : (tag.className ns).toList = [] := by rw [h]; rfl
  simp [Tag.className] at hlist

theorem undeclaredNames_eq_nil_iff {tag : Tag} {fields : Fields} :
    undeclaredNames tag fields = [] ↔
      ∀ name ∈ Fields.names fields, name = classKey ∨ name ∈ tag.attributes := by
  rw [undeclaredNames, ← List.length_eq_zero_iff, List.length_mergeSort, List.length_eq_zero_iff,
    List.filter_eq_nil_iff]
  refine forall₂_congr fun name _ => ?_
  simp [or_iff_not_imp_left]

/-- The members have the class of the tag and no names but of attributes declared for it. -/
structure HasClass (ns : String) (tag : Tag) (fields : Fields) : Prop where
  class_eq : Fields.get? fields classKey = some (.str (ns ++ "." ++ tag.name))
  declared : ∀ name ∈ Fields.names fields, name = classKey ∨ name ∈ tag.attributes

theorem readTag_eq_ok_iff {ns : String} {fields : Fields} {tag : Tag} :
    readTag ns fields = .ok tag ↔ HasClass ns tag fields := by
  constructor
  · intro h
    unfold readTag at h
    split at h
    case h_2 => cases h
    case h_1 className hclass =>
      split at h
      case isTrue => cases h
      case isFalse =>
        split at h
        case h_1 => cases h
        case h_2 name hafter =>
          split at h
          case h_1 => cases h
          case h_2 tag' hname =>
            split at h
            case h_2 => cases h
            case h_1 hdeclared =>
              obtain rfl := Except.ok.inj h
              rw [afterStart?_eq_some_iff] at hafter
              rw [Tag.ofName?_eq_some_iff] at hname
              subst hafter hname
              exact ⟨hclass, undeclaredNames_eq_nil_iff.mp hdeclared⟩
  · rintro ⟨hclass, hdeclared⟩
    have hrest : afterStart? (ns ++ ".") (ns ++ "." ++ tag.name) = some tag.name :=
      afterStart?_eq_some_iff.mpr rfl
    have hempty : ns ++ "." ++ tag.name ≠ "" := Tag.className_ne_empty ns tag
    simp only [readTag, hclass, if_neg hempty, hrest, Tag.ofName?_name,
      undeclaredNames_eq_nil_iff.mpr hdeclared]

theorem readTag_className (ns : String) {tag : Tag} {attributes : Fields}
    (h : ∀ name ∈ Fields.names attributes, name ∈ tag.attributes) :
    readTag ns ((classKey, .str (tag.className ns)) :: attributes) = .ok tag := by
  rw [readTag_eq_ok_iff]
  refine ⟨by simp [Fields.get?, Tag.className], ?_⟩
  intro name hname
  exact (List.mem_cons.mp hname).imp_right (h name)

namespace Node

theorem ofRaw_rawNode (ns : String) {tag : Tag} {attributes : Fields}
    (h : ∀ name ∈ Fields.names attributes, name ∈ tag.attributes) :
    ofRaw ns (rawNode ns tag attributes) =
      build tag ((classKey, .str (tag.className ns)) :: attributes)
        (childrenOfFields ns ((classKey, .str (tag.className ns)) :: attributes) attributes) := by
  have hkey : classKey ≠ "nodes" := by decide
  simp [rawNode, ofRaw, readTag_className ns h, childrenOfFields, hkey]

theorem childrenOfValue_arr (ns : String) (owner : Fields) (items : List Json) :
    childrenOfValue ns owner (.arr items) = (ofRawFrom ns 0 items).map some := by
  rw [childrenOfValue]
  cases ofRawFrom ns 0 items <;> rfl

theorem childrenOfFields_eq (ns : String) (owner fields : Fields) :
    childrenOfFields ns owner fields =
      match Fields.get? fields "nodes" with
      | none => .ok none
      | some v => childrenOfValue ns owner v := by
  induction fields with
  | nil => rfl
  | cons field rest ih =>
    obtain ⟨name, v⟩ := field
    by_cases h : name = "nodes"
    · simp [childrenOfFields, Fields.get?, h]
    · rw [childrenOfFields, if_neg h, ih]
      simp [Fields.get?, h]

/-- A list of raw nodes is read node by node. -/
theorem ofRawFrom_eq_ok_iff {ns : String} {items : List Json} {nodes : List Node} {index : Nat} :
    ofRawFrom ns index items = .ok nodes ↔
      List.Forall₂ (fun v n => ofRaw ns v = .ok n) items nodes := by
  induction items generalizing nodes index with
  | nil => simp [ofRawFrom, eq_comm]
  | cons v rest ih =>
    rw [ofRawFrom, List.forall₂_cons_left_iff]
    cases hv : ofRaw ns v with
    | error e => simp
    | ok n =>
      simp only [← @ih _ (index + 1), Except.ok.injEq, exists_and_left, exists_eq_left']
      cases ofRawFrom ns (index + 1) rest <;> simp [eq_comm]

/-- The first child that is rejected decides. -/
theorem ofRawFrom_rejected {ns : String} {keys : List String} {items : List Json}
    (hall : ∀ v ∈ items, (∃ n, ofRaw ns v = .ok n) ∨ RejectedFor keys (ofRaw ns v))
    (hone : ∃ v ∈ items, RejectedFor keys (ofRaw ns v)) (index : Nat) :
    RejectedFor keys (ofRawFrom ns index items) := by
  induction items generalizing index with
  | nil => simp at hone
  | cons v rest ih =>
    rw [ofRawFrom]
    obtain ⟨hv, hrest⟩ := List.forall_mem_cons.mp hall
    rcases hv with ⟨n, hn⟩ | ⟨e, he, key, hmem, hkey⟩
    · have hone' : ∃ w ∈ rest, RejectedFor keys (ofRaw ns w) := by
        obtain ⟨w, hw, hrej⟩ := hone
        rcases List.mem_cons.mp hw with rfl | hw
        · exact absurd hn hrej.not_ok
        · exact ⟨w, hw, hrej⟩
      obtain ⟨e, he, herr⟩ := ih hrest hone' (index + 1)
      simp only [hn, he]
      exact ⟨e, rfl, herr⟩
    · simp only [he]
      exact .error hkey hmem

/-- What the schema asks of the values a node holds itself. -/
def ValuesInRange : Node → Prop
  | .heading level _ => 1 ≤ level ∧ level ≤ 6
  | .list type _ _ => type = "ordered" ∨ type = "bullet"
  | _ => True

/-- The attributes of a node besides its children. -/
def ownAttributes : Node → Fields
  | .document _ xmlns => [("xmlns", .str xmlns)]
  | .heading level s => [("level", .int level), ("text", .str s)]
  | .codeBlock s => rawText? s
  | .htmlBlock s => rawText? s
  | .htmlInline s => rawText? s
  | .list type tight _ => [("type", .str type), ("tight", .bool tight)]
  | .link destination title _ => [("destination", .str destination), ("title", .str title)]
  | .text s => [("text", .str s)]
  | .code s => [("text", .str s)]
  | _ => []

/-- The raw node with the values of a node, around any raw children. -/
def rawAround (ns : String) (n : Node) (items : List Json) : Json :=
  rawNode ns n.tag
    (n.ownAttributes ++ if n.children?.isSome then [("nodes", .arr items)] else [])

/-- The node around other children; nothing changes where there is no place for them. -/
def withChildren (n : Node) (nodes : List Node) : Node :=
  match n with
  | .document _ xmlns => .document nodes xmlns
  | .paragraph _ => .paragraph nodes
  | .blockQuote (some _) => .blockQuote (some nodes)
  | .list type tight _ => .list type tight nodes
  | .item _ => .item nodes
  | .link destination title _ => .link destination title nodes
  | .strong _ => .strong nodes
  | .emph _ => .emph nodes
  | leaf => leaf

theorem withChildren_children (n : Node) : n.withChildren n.children = n := by
  cases n with
  | blockQuote nodes? => cases nodes? <;> rfl
  | _ => rfl

theorem toRaw_eq_rawAround (ns : String) (n : Node) :
    n.toRaw ns = n.rawAround ns (toRawAll ns n.children) := by
  cases n with
  | blockQuote nodes? => cases nodes? <;> rfl
  | _ => simp [toRaw, rawAround, tag, ownAttributes, children, children?]

theorem declared_rawAround (n : Node) (items : List Json) :
    ∀ name ∈ Fields.names
      (n.ownAttributes ++ if n.children?.isSome then [("nodes", .arr items)] else []),
      name ∈ n.tag.attributes := by
  have htext : ∀ s : Option String, ∀ name ∈ Fields.names (rawText? s), name = "text" := by
    intro s
    cases s <;> simp [rawText?, Fields.names]
  cases n with
  | blockQuote nodes? =>
    cases nodes? <;> simp [ownAttributes, children?, Fields.names, tag, Tag.attributes]
  | codeBlock s => simpa [ownAttributes, children?, tag, Tag.attributes] using htext s
  | htmlBlock s => simpa [ownAttributes, children?, tag, Tag.attributes] using htext s
  | htmlInline s => simpa [ownAttributes, children?, tag, Tag.attributes] using htext s
  | _ => simp [ownAttributes, children?, Fields.names, tag, Tag.attributes]

theorem childrenOfFields_own (ns : String) (owner : Fields) (n : Node) (items : List Json) :
    childrenOfFields ns owner (n.ownAttributes ++ [("nodes", .arr items)]) =
      (ofRawFrom ns 0 items).map some := by
  rw [← childrenOfValue_arr ns owner items]
  cases n with
  | codeBlock s | htmlBlock s | htmlInline s =>
    cases s <;> simp [ownAttributes, rawText?, childrenOfFields]
  | _ => simp [ownAttributes, childrenOfFields]

theorem checkLevel_of_inRange {level : Int} (h : 1 ≤ level ∧ level ≤ 6) :
    checkLevel level = .ok level := if_pos h

theorem checkLevel_of_not_inRange {level : Int} (h : ¬ (1 ≤ level ∧ level ≤ 6)) :
    checkLevel level = .error (.levelOutOfRange level) := if_neg h

theorem mem_listTypes {type : String} :
    type ∈ listTypes ↔ type = "ordered" ∨ type = "bullet" := by
  simp [listTypes]

theorem ofRaw_rawAround_leaf (ns : String) {n : Node} (hn : n.children? = none)
    (h : n.ValuesInRange) (items : List Json) : ofRaw ns (n.rawAround ns items) = .ok n := by
  rw [rawAround, ofRaw_rawNode ns (declared_rawAround n items), hn]
  cases n with
  | blockQuote nodes? =>
    have hnone : nodes? = none := hn
    subst hnone
    rfl
  | heading level s =>
    simp [build, ownAttributes, tag, atNode, readLevel, readString?, Fields.get?, classKey,
      checkLevel_of_inRange h, bind, Except.bind, pure, Except.pure, Except.mapError]
  | thematicBreak | text | code => rfl
  | codeBlock s | htmlBlock s | htmlInline s => cases s <;> rfl
  | _ => simp [children?] at hn

/-- Reading a container comes down to reading its children. -/
theorem ofRaw_rawAround_container (ns : String) {n : Node} (hn : n.children?.isSome)
    (h : n.ValuesInRange) (items : List Json) :
    ofRaw ns (n.rawAround ns items) = (ofRawFrom ns 0 items).map n.withChildren := by
  rw [rawAround, ofRaw_rawNode ns (declared_rawAround n items), if_pos hn, childrenOfFields_own]
  generalize ofRawFrom ns 0 items = outcome
  cases n with
  | blockQuote nodes? =>
    cases nodes? with
    | none => simp [children?] at hn
    | some nodes => cases outcome <;> rfl
  | list type tight nodes =>
    have htype : type ∈ listTypes := mem_listTypes.mpr h
    cases outcome <;>
      simp [build, tag, ownAttributes, atNode, readListType, readString, readString?, readTight,
        Fields.get?, classKey, htype, withChildren, bind, Except.bind, pure, Except.pure,
        Except.map, Except.mapError]
  | document | paragraph | item | link | strong | emph => cases outcome <;> rfl
  | _ => simp [children?] at hn

theorem ofRaw_rawAround_rejected (ns : String) {n : Node} (h : ¬ n.ValuesInRange)
    (items : List Json) : RejectedFor ["level", "type"] (ofRaw ns (n.rawAround ns items)) := by
  rw [rawAround, ofRaw_rawNode ns (declared_rawAround n items)]
  cases n with
  | heading level s =>
    have hlevel : checkLevel level = .error (.levelOutOfRange level) :=
      checkLevel_of_not_inRange h
    exact .bind (.atNode hlevel rfl (by simp)) _
  | list type tight nodes =>
    have htype : readListType [(classKey, .str (Tag.list.className ns)), ("type", .str type),
        ("tight", .bool tight), ("nodes", .arr items)] = .error (.unknownListType type) :=
      if_neg (by simpa using mt mem_listTypes.mp h)
    exact .bind (.atNode htype rfl (by simp)) _
  | _ => exact absurd trivial h

end Node

end SlateMark.CommonMark
