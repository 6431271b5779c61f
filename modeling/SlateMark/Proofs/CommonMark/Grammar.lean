import SlateMark.Proofs.CommonMark.Reading
import SlateMark.Proofs.Failure
import SlateMark.Proofs.Json.Fields
import SlateMark.Proofs.Text.Spelling

/-!
The grammar of raw trees. A raw node has the class of a tag, no attributes but those declared for
it, values of the right kinds and, where there is a list of children, raw nodes in it. Reading
accepts exactly these and yields the tree of the values they stand for.
-/
namespace SlateMark.CommonMark

/-- The levels of headings: whole numbers, and numerals between blanks unless they are too long. -/
inductive IsLevel : Json → Int → Prop
  | int (level : Int) : IsLevel (.int level) level
  | numeral {s : String} {level : Nat} (hspells : Text.SpellsNumber (Text.strip s.toList) level)
      (hlength : (Text.strip s.toList).length ≤ maxNumeralDigits) : IsLevel (.str s) level

/-- Whether a list is tight, which it is if nothing is said. -/
inductive IsTight : Option Json → Bool → Prop
  | absent : IsTight none true
  | bool (tight : Bool) : IsTight (some (.bool tight)) tight
  | yes {s : String} (hword : Text.SpellsWord s.toList "true".toList) : IsTight (some (.str s)) true
  | no {s : String} (hword : Text.SpellsWord s.toList "false".toList) : IsTight (some (.str s)) false

/-- The values that a node holds itself are those of the attributes. -/
def HoldsValues (fields : Fields) : Node → Prop
  | .document _ xmlns => Fields.get? fields "xmlns" = some (.str xmlns)
  | .heading level s =>
    (∃ v, Fields.get? fields "level" = some v ∧ IsLevel v level) ∧ 1 ≤ level ∧ level ≤ 6 ∧
      ∃ s? : Option String, Fields.get? fields "text" = s?.map .str ∧ s = s?.getD ""
  | .codeBlock s? | .htmlBlock s? | .htmlInline s? => Fields.get? fields "text" = s?.map .str
  | .list type tight _ =>
    Fields.get? fields "type" = some (.str type) ∧ (type = "ordered" ∨ type = "bullet") ∧
      IsTight (Fields.get? fields "tight") tight
  | .link destination title _ =>
    Fields.get? fields "destination" = some (.str destination) ∧
      Fields.get? fields "title" = some (.str title)
  | .text s | .code s => Fields.get? fields "text" = some (.str s)
  | _ => True

/-- The raw children are the items of a list; null is as good as none. -/
inductive Lists (fields : Fields) : Option (List Json) → Prop
  | absent (h : Fields.get? fields "nodes" = none) : Lists fields none
  | null (h : Fields.get? fields "nodes" = some .null) : Lists fields none
  | list {items : List Json} (h : Fields.get? fields "nodes" = some (.arr items)) :
      Lists fields (some items)

/-- Documents need a list of children; block quotes have a place for children only with a list. -/
def Node.TakesList : Node → Bool → Prop
  | .document _ _, listed => listed = true
  | .blockQuote nodes?, listed => listed = nodes?.isSome
  | _, _ => True

/-- The value is a raw node that stands for this node. -/
inductive Conforms (ns : String) : Json → Node → Prop
  | intro {fields : Fields} {n : Node} {items? : Option (List Json)}
      (hclass : HasClass ns n.tag fields) (hvalues : HoldsValues fields n)
      (hlists : Lists fields items?) (htakes : n.TakesList items?.isSome)
      (hitems : List.Forall₂ (Conforms ns) (items?.getD []) n.children) :
      Conforms ns (.obj fields) n

theorem atNode_eq_ok_iff {α : Type} {fields : Fields} {result : Except SchemaFault α} {a : α} :
    atNode fields result = .ok a ↔ result = .ok a := except_mapError_eq_ok

theorem readString?_eq_ok_iff {key : String} {fields : Fields} {s? : Option String} :
    readString? key fields = .ok s? ↔ Fields.get? fields key = s?.map .str := by
  unfold readString?
  split
  case h_1 hget => cases s? <;> simp [hget]
  case h_2 s hget => cases s? <;> simp [hget]
  case h_3 v hother hget =>
    refine iff_of_false nofun fun h => ?_
    cases s? with
    | none => simp [h] at hget
    | some s => exact hother s (Option.some.inj (hget.symm.trans h))

theorem readString_eq_ok_iff {key : String} {fields : Fields} {s : String} :
    readString key fields = .ok s ↔ Fields.get? fields key = some (.str s) := by
  rw [← Option.map_some, ← readString?_eq_ok_iff]
  unfold readString
  cases readString? key fields with
  | error fault => simp
  | ok s? => cases s? <;> simp

theorem checkLevel_eq_ok_iff {level level' : Int} :
    checkLevel level = .ok level' ↔ level = level' ∧ 1 ≤ level ∧ level ≤ 6 := by
  by_cases h : 1 ≤ level ∧ level ≤ 6
  · simp [Node.checkLevel_of_inRange h, h]
  · simp [Node.checkLevel_of_not_inRange h, h]

theorem readLevel_eq_ok_iff {fields : Fields} {level : Int} :
    readLevel fields = .ok level ↔
      (∃ v, Fields.get? fields "level" = some v ∧ IsLevel v level) ∧ 1 ≤ level ∧ level ≤ 6 := by
  unfold readLevel
  constructor
  · intro h
    split at h
    case h_1 => cases h
    case h_2 n hget =>
      obtain ⟨rfl, hrange⟩ := checkLevel_eq_ok_iff.mp h
      exact ⟨⟨.int n, hget, .int n⟩, hrange⟩
    case h_3 s hget =>
      split at h
      case h_1 n hnumeral =>
        dsimp only at h
        split at h
        case isTrue hlength =>
          obtain ⟨rfl, hrange⟩ := checkLevel_eq_ok_iff.mp h
          exact ⟨⟨.str s, hget, .numeral (Text.numeral?_eq_some_iff.mp hnumeral) hlength⟩, hrange⟩
        case isFalse => cases h
      case h_2 => cases h
    case h_4 => cases h
  · rintro ⟨⟨v, hget, hlevel⟩, hrange⟩
    cases hlevel with
    | int n =>
      simp only [hget]
      exact checkLevel_eq_ok_iff.mpr ⟨rfl, hrange⟩
    | @numeral s n hspells hlength =>
      have hnumeral : Text.strippedNumeral? s = some n := Text.numeral?_eq_some_iff.mpr hspells
      simp only [hget, hnumeral, if_pos hlength]
      exact checkLevel_eq_ok_iff.mpr ⟨rfl, hrange⟩

theorem readListType_eq_ok_iff {fields : Fields} {type : String} :
    readListType fields = .ok type ↔
      Fields.get? fields "type" = some (.str type) ∧ (type = "ordered" ∨ type = "bullet") := by
  rw [← readString_eq_ok_iff, ← Node.mem_listTypes]
  unfold readListType
  cases readString "type" fields with
  | error fault => simp
  | ok type' =>
    by_cases h : type' ∈ listTypes
    · simp only [List.contains_iff_mem.mpr h, if_true, Except.ok.injEq]
      exact ⟨fun heq => ⟨heq, heq ▸ h⟩, And.left⟩
    · simp only [List.contains_iff_mem, h, if_false, Except.ok.injEq, reduceCtorEq, false_iff]
      rintro ⟨rfl, hmem⟩
      exact h hmem

theorem truthValue?_eq_some_iff {s : String} {b : Bool} :
    truthValue? s = some b ↔
      Text.SpellsWord s.toList (if b then "true" else "false").toList := by
  have htrue : s.toList.map Char.toLower = ['t', 'r', 'u', 'e'] ↔
      Text.SpellsWord s.toList "true".toList := Text.map_toLower_eq_iff (by simp)
  have hfalse : s.toList.map Char.toLower = ['f', 'a', 'l', 's', 'e'] ↔
      Text.SpellsWord s.toList "false".toList := Text.map_toLower_eq_iff (by simp)
  unfold truthValue?
  generalize s.toList.map Char.toLower = lower at htrue hfalse
  cases b with
  | true =>
    rw [if_pos rfl, ← htrue]
    by_cases h : lower = ['t', 'r', 'u', 'e'] <;> simp [h]
  | false =>
    rw [if_neg Bool.false_ne_true, ← hfalse]
    by_cases h : lower = ['t', 'r', 'u', 'e'] <;> simp [h]

theorem readTight_eq_ok_iff {fields : Fields} {tight : Bool} :
    readTight fields = .ok tight ↔ IsTight (Fields.get? fields "tight") tight := by
  unfold readTight
  constructor
  · intro h
    split at h
    case h_1 hget =>
      obtain rfl := Except.ok.inj h
      exact hget ▸ .absent
    case h_2 b hget =>
      obtain rfl := Except.ok.inj h
      exact hget ▸ .bool b
    case h_3 s hget =>
      rw [hget]
      split at h
      case h_1 b hvalue =>
        obtain rfl := Except.ok.inj h
        cases b with
        | true => exact .yes (truthValue?_eq_some_iff.mp hvalue)
        | false => exact .no (truthValue?_eq_some_iff.mp hvalue)
      case h_2 => cases h
    case h_4 => cases h
  · intro h
    generalize Fields.get? fields "tight" = found at h
    cases h with
    | absent => rfl
    | bool tight => rfl
    | @yes s hword =>
      have hvalue : truthValue? s = some true := truthValue?_eq_some_iff.mpr hword
      simp only [hvalue]
    | @no s hword =>
      have hvalue : truthValue? s = some false := truthValue?_eq_some_iff.mpr hword
      simp only [hvalue]

theorem HoldsValues.of_build {tag : Tag} {fields : Fields}
    {children : Except SchemaError (Option (List Node))} {n : Node}
    (hleaf : "nodes" ∉ tag.attributes → children = .ok none)
    (h : build tag fields children = .ok n) :
    n.tag = tag ∧ HoldsValues fields n ∧
      ∃ nodes?, children = .ok nodes? ∧ n.children = nodes?.getD [] ∧ n.TakesList nodes?.isSome := by
  cases tag
  all_goals
    simp only [build, except_bind_eq_ok, atNode_eq_ok_iff, readString_eq_ok_iff,
      readString?_eq_ok_iff, readLevel_eq_ok_iff, readListType_eq_ok_iff, readTight_eq_ok_iff,
      pure, Except.pure, Except.ok.injEq] at h
  case document =>
    obtain ⟨nodes?, hchildren, h⟩ := h
    cases nodes? with
    | none => cases atNode_eq_ok_iff.mp h
    | some nodes =>
      simp only [except_bind_eq_ok, atNode_eq_ok_iff, readString_eq_ok_iff, Except.ok.injEq] at h
      obtain ⟨xmlns, hxmlns, rfl⟩ := h
      exact ⟨rfl, hxmlns, some nodes, hchildren, rfl, rfl⟩
  case paragraph | item | strong | emph =>
    obtain ⟨nodes?, hchildren, rfl⟩ := h
    exact ⟨rfl, trivial, nodes?, hchildren, rfl, trivial⟩
  case blockQuote =>
    obtain ⟨nodes?, hchildren, rfl⟩ := h
    exact ⟨rfl, trivial, nodes?, hchildren, rfl, rfl⟩
  case thematicBreak =>
    subst h
    exact ⟨rfl, trivial, none, hleaf (by decide), rfl, trivial⟩
  case heading =>
    obtain ⟨level, ⟨hlevel, hmin, hmax⟩, s?, hs, rfl⟩ := h
    exact ⟨rfl, ⟨hlevel, hmin, hmax, s?, hs, rfl⟩, none, hleaf (by decide), rfl, trivial⟩
  case codeBlock | htmlBlock | htmlInline =>
    obtain ⟨s?, hs, rfl⟩ := h
    exact ⟨rfl, hs, none, hleaf (by decide), rfl, trivial⟩
  case list =>
    obtain ⟨type, ⟨htype, hstyle⟩, tight, htight, nodes?, hchildren, rfl⟩ := h
    exact ⟨rfl, ⟨htype, hstyle, htight⟩, nodes?, hchildren, rfl, trivial⟩
  case link =>
    obtain ⟨destination, hdestination, title, htitle, nodes?, hchildren, rfl⟩ := h
    exact ⟨rfl, ⟨hdestination, htitle⟩, nodes?, hchildren, rfl, trivial⟩
  case text | code =>
    obtain ⟨s, hs, rfl⟩ := h
    exact ⟨rfl, hs, none, hleaf (by decide), rfl, trivial⟩

theorem HoldsValues.build_eq {fields : Fields}
    {children : Except SchemaError (Option (List Node))} {n : Node} {nodes? : Option (List Node)}
    (h : HoldsValues fields n) (hchildren : children = .ok nodes?)
    (hnodes : n.children = nodes?.getD []) (htakes : n.TakesList nodes?.isSome) :
    build n.tag fields children = .ok n := by
  subst hchildren
  cases n
  all_goals
    simp only [Node.tag, build, except_bind_eq_ok, atNode_eq_ok_iff, readString_eq_ok_iff,
      readString?_eq_ok_iff, readLevel_eq_ok_iff, readListType_eq_ok_iff, readTight_eq_ok_iff,
      pure, Except.pure, Except.ok.injEq, exists_eq_left']
  case document nodes xmlns =>
    obtain ⟨nodes', rfl⟩ := Option.isSome_iff_exists.mp htakes
    obtain rfl : nodes = nodes' := hnodes
    simp only [except_bind_eq_ok, atNode_eq_ok_iff, readString_eq_ok_iff, Except.ok.injEq]
    exact ⟨xmlns, h, rfl⟩
  case paragraph nodes | item nodes | strong nodes | emph nodes =>
    exact congrArg _ hnodes.symm
  case blockQuote place? =>
    cases place? with
    | none =>
      cases nodes? with
      | none => rfl
      | some nodes' => cases htakes
    | some nodes =>
      obtain ⟨nodes', rfl⟩ := Option.isSome_iff_exists.mp htakes
      obtain rfl : nodes = nodes' := hnodes
      rfl
  case heading level s =>
    obtain ⟨hlevel, hmin, hmax, s?, hs, rfl⟩ := h
    exact ⟨level, ⟨hlevel, hmin, hmax⟩, s?, hs, rfl⟩
  case codeBlock s? | htmlBlock s? | htmlInline s? => exact ⟨s?, h, rfl⟩
  case list type tight nodes =>
    obtain ⟨htype, hstyle, htight⟩ := h
    exact ⟨type, ⟨htype, hstyle⟩, tight, htight, congrArg _ hnodes.symm⟩
  case link destination title nodes =>
    exact ⟨destination, h.1, title, h.2, congrArg _ hnodes.symm⟩
  case text s | code s => exact ⟨s, h, rfl⟩

namespace Node

theorem childrenOfFields_eq_ok_iff {ns : String} {owner fields : Fields}
    {nodes? : Option (List Node)} :
    childrenOfFields ns owner fields = .ok nodes? ↔
      ∃ items?, Lists fields items? ∧ items?.isSome = nodes?.isSome ∧
        List.Forall₂ (fun v n => ofRaw ns v = .ok n) (items?.getD []) (nodes?.getD []) := by
  rw [childrenOfFields_eq]
  constructor
  · intro h
    split at h
    case h_1 hget =>
      obtain rfl := Except.ok.inj h
      exact ⟨none, .absent hget, rfl, .nil⟩
    case h_2 v hget =>
      cases v with
      | null =>
        obtain rfl := Except.ok.inj h
        exact ⟨none, .null hget, rfl, .nil⟩
      | arr items =>
        rw [childrenOfValue_arr, except_map_eq_ok] at h
        obtain ⟨nodes, hitems, rfl⟩ := h
        exact ⟨some items, .list hget, rfl, ofRawFrom_eq_ok_iff.mp hitems⟩
      | _ => cases h
  · rintro ⟨items?, hlists, hsome, hitems⟩
    cases hlists with
    | absent hget =>
      cases nodes? with
      | none => rw [hget]
      | some nodes => cases hsome
    | null hget =>
      cases nodes? with
      | none => rw [hget]; rfl
      | some nodes => cases hsome
    | @list items hget =>
      obtain ⟨nodes, rfl⟩ := Option.isSome_iff_exists.mp hsome.symm
      have hread : ofRawFrom ns 0 items = .ok nodes := ofRawFrom_eq_ok_iff.mpr hitems
      simp only [hget, childrenOfValue_arr, hread]
      rfl

/-- Tags without children do not declare a list of them, and so it is not there. -/
theorem childrenOfFields_of_hasClass {ns : String} {tag : Tag} {fields : Fields}
    (hclass : HasClass ns tag fields) (htag : "nodes" ∉ tag.attributes) (owner : Fields) :
    childrenOfFields ns owner fields = .ok none := by
  have hmissing : "nodes" ∉ Fields.names fields := by
    intro hmem
    rcases hclass.declared "nodes" hmem with hkey | hdeclared
    · exact absurd hkey (by decide)
    · exact htag hdeclared
  rw [childrenOfFields_eq, Fields.get?_eq_none_of_notMem hmissing]

theorem ofRaw_obj_eq_ok_iff {ns : String} {fields : Fields} {n : Node} :
    ofRaw ns (.obj fields) = .ok n ↔
      HasClass ns n.tag fields ∧ HoldsValues fields n ∧
        ∃ items?, Lists fields items? ∧ n.TakesList items?.isSome ∧
          List.Forall₂ (fun v c => ofRaw ns v = .ok c) (items?.getD []) n.children := by
  rw [ofRaw]
  constructor
  · intro h
    split at h
    case h_1 => cases h
    case h_2 tag htag =>
      have hclass : HasClass ns tag fields := readTag_eq_ok_iff.mp htag
      obtain ⟨rfl, hvalues, nodes?, hchildren, hnodes, htakes⟩ :=
        HoldsValues.of_build (fun hleaf => childrenOfFields_of_hasClass hclass hleaf fields) h
      obtain ⟨items?, hlists, hsome, hitems⟩ := childrenOfFields_eq_ok_iff.mp hchildren
      exact ⟨hclass, hvalues, items?, hlists, hsome ▸ htakes, hnodes ▸ hitems⟩
  · rintro ⟨hclass, hvalues, items?, hlists, htakes, hitems⟩
    have htag : readTag ns fields = .ok n.tag := readTag_eq_ok_iff.mpr hclass
    simp only [htag]
    -- The node alone does not tell whether there was an empty list or none, but the members do.
    have hread : ∃ nodes? : Option (List Node), items?.isSome = nodes?.isSome ∧
        n.children = nodes?.getD [] := by
      cases items? with
      | none => exact ⟨none, rfl, List.forall₂_nil_left_iff.mp hitems⟩
      | some items => exact ⟨some n.children, rfl, rfl⟩
    obtain ⟨nodes?, hsome, hnodes⟩ := hread
    have hchildren : childrenOfFields ns fields fields = .ok nodes? :=
      childrenOfFields_eq_ok_iff.mpr ⟨items?, hlists, hsome, hnodes ▸ hitems⟩
    exact hvalues.build_eq hchildren hnodes (hsome ▸ htakes)

/-- Exactly the raw nodes that stand for a node are read, and as that node. -/
theorem ofRaw_eq_ok_iff_conforms {ns : String} {v : Json} {n : Node} :
    ofRaw ns v = .ok n ↔ Conforms ns v n := by
  induction n using Node.induct_children generalizing v with
  | step n ih =>
    have hitems : ∀ items : List Json,
        List.Forall₂ (fun v c => ofRaw ns v = .ok c) items n.children ↔
          List.Forall₂ (Conforms ns) items n.children := by
      intro items
      rw [List.forall₂_iff_zip, List.forall₂_iff_zip]
      refine and_congr_right fun _ => ⟨?_, ?_⟩
      · intro hread v c hzip
        exact (ih c (List.of_mem_zip hzip).2).mp (hread hzip)
      · intro hconforms v c hzip
        exact (ih c (List.of_mem_zip hzip).2).mpr (hconforms hzip)
    constructor
    · intro h
      cases v with
      | obj fields =>
        obtain ⟨hclass, hvalues, items?, hlists, htakes, hread⟩ := ofRaw_obj_eq_ok_iff.mp h
        exact .intro hclass hvalues hlists htakes ((hitems _).mp hread)
      | _ => simp [ofRaw] at h
    · intro h
      obtain ⟨hclass, hvalues, hlists, htakes, hconforms⟩ := h
      exact ofRaw_obj_eq_ok_iff.mpr
        ⟨hclass, hvalues, _, hlists, htakes, (hitems _).mpr hconforms⟩

end Node

end SlateMark.CommonMark
