import SlateMark.Proofs.Failure
import SlateMark.Proofs.Json.Fields
import SlateMark.Slate.Reader

/-!
Equations of the reader of Slate documents. Marks, leaves and top nodes are lists that need not be
there; the children of an element are looked up among its members, as is the document in a value.
Whatever the reader refuses it refuses at one of three stages.
-/
namespace SlateMark.Slate

/-- The items of a list that need not be there. Nothing, and anything without content, has none. -/
def listed? : Option Json → Option (List Json)
  | none => some []
  | some (.arr items) => some items
  | some v => if v.hasContent then none else some []

/-- The member is there and is this text. -/
def isMember (fields : Fields) (name s : String) : Bool :=
  match Fields.get? fields name with
  | some (.str t) => t = s
  | _ => false

theorem isMember_iff {fields : Fields} {name s : String} :
    isMember fields name s = true ↔ Fields.get? fields name = some (.str s) := by
  unfold isMember
  split
  case h_1 t hget => simp [hget]
  case h_2 hother => exact iff_of_false Bool.false_ne_true fun hget => hother s hget

/-- A value around a document says that it is one, or has a document and no nodes. -/
def isEnvelope (fields : Fields) : Bool :=
  isMember fields "object" "value" || Fields.has fields "document" && !Fields.has fields "nodes"

/-- The members of the document in a value, or of the value itself if it is no envelope. -/
def document? : Json → Option Fields
  | .obj fields =>
    if isEnvelope fields then
      match Fields.get? fields "document" with
      | some (.obj inner) => some inner
      | _ => none
    else some fields
  | _ => none

/-- Reads a document from its own members. -/
def readBare (fields : Fields) : Reading Node :=
  match Fields.get? fields "object" with
  | none => return .document (← readTopNodes fields)
  | some (.str "document") => return .document (← readTopNodes fields)
  | some other => .fail (.notADocument other)

/-- Reads the items of a list that need not be there. -/
def readListed {α : Type} (notAList : String → ParsingError) (readItems : List Json → Reading α)
    (v? : Option Json) : Reading α :=
  match listed? v? with
  | some items => readItems items
  | none => .fail (notAList (v?.getD .null).typeName)

section readListed

variable {α : Type} {notAList : String → ParsingError} {readItems : List Json → Reading α}

theorem readListed_some (v : Json) :
    readListed notAList readItems (some v) =
      if v.hasContent then
        match v with
        | .arr items => readItems items
        | other => .fail (notAList other.typeName)
      else readItems [] := by
  cases v with
  | arr items => cases items <;> rfl
  | _ => simp only [readListed, listed?]; split <;> simp_all

theorem readListed_eq_ok_iff {v? : Option Json} {a : α} :
    (readListed notAList readItems v?).result = .ok a ↔
      ∃ items, listed? v? = some items ∧ (readItems items).result = .ok a := by
  rw [readListed]
  cases listed? v? with
  | none => simp [Logged.fail]
  | some items => simp

end readListed

theorem readMarks_eq (v? : Option Json) :
    readMarks v? = readListed .marksNotAList (readMarksFrom .none) v? := by
  unfold readMarks
  cases v? with
  | none => rfl
  | some v => exact (readListed_some v).symm

theorem readTopNodes_eq (fields : Fields) :
    readTopNodes fields = readListed .nodesNotAList readNodes (Fields.get? fields "nodes") := by
  unfold readTopNodes
  cases Fields.get? fields "nodes" with
  | none => rfl
  | some v => exact (readListed_some v).symm

theorem readText_eq_of_leaves {fields : Fields} {v : Json}
    (hleaves : Fields.get? fields "leaves" = some v) :
    readText fields =
      readListed .leavesNotAList
        (fun items => if items = [] then pure [.text "" .none] else readLeaves items) (some v) := by
  rw [readListed_some, readText, hleaves]
  cases v with
  | arr items => cases items <;> rfl
  | _ => rfl

theorem readMarksFrom_cons_result {v : Json} {name : String} (hname : markName? v = some name)
    (marks : Marks) (rest : List Json) :
    (readMarksFrom marks (v :: rest)).result =
      (readMarksFrom ((marks.add? name).getD marks) rest).result := by
  rw [readMarksFrom, hname]
  cases hadd : marks.add? name with
  | none => simp [hadd, Logged.report]
  | some marks' => simp [hadd]

theorem readNodes_append (front back : List Json) :
    readNodes (front ++ back) =
      readNodes front >>= fun nodes => readNodes back >>= fun more => pure (nodes ++ more) := by
  induction front with
  | nil => simp only [List.nil_append, readNodes, pure_bind, bind_pure]
  | cons v rest ih =>
    simp only [List.cons_append, readNodes, ih, bind_assoc, pure_bind, List.append_assoc]

theorem readNodes_singleton (v : Json) : readNodes [v] = readNode v := by
  simp only [readNodes, pure_bind, List.append_nil, bind_pure]

theorem readNode_text {fields : Fields} (hobject : Fields.get? fields "object" = some (.str "text")) :
    readNode (.obj fields) = readText fields := by
  rw [readNode, readObject, require, hobject]
  rfl

theorem readText_run {fields : Fields} (hleaves : Fields.get? fields "leaves" = none) :
    readText fields = readRun .textNode fields >>= fun run => pure [run] := by
  rw [readText, hleaves]

theorem readChildrenOf_eq (fields : Fields) :
    readChildrenOf fields =
      match Fields.get? fields "nodes" with
      | none => pure none
      | some .null => pure none
      | some (.arr items) => some <$> readNodes items
      | some other => .fail (.nodesNotAList other.typeName) := by
  induction fields with
  | nil => rfl
  | cons field rest ih =>
    obtain ⟨name, v⟩ := field
    by_cases hname : name = "nodes"
    · cases v <;> simp [readChildrenOf, Fields.get?, hname]
    · have hrest : readChildrenOf ((name, v) :: rest) = readChildrenOf rest := by
        cases v <;> simp [readChildrenOf, hname]
      rw [hrest, ih]
      simp [Fields.get?, hname]

theorem readNode_of_not_obj {v : Json} (h : ∀ fields, v ≠ .obj fields) :
    readNode v = .fail (.nodeNotAnObject v) := by
  cases v with
  | obj fields => exact absurd rfl (h fields)
  | _ => rfl

theorem documentFields_eq (fields : Fields) :
    documentFields fields =
      if isEnvelope fields then do
        match ← require .value "document" fields with
        | .obj inner => pure inner
        | _ => .fail .documentNotAnObject
      else pure fields := by
  unfold documentFields isEnvelope isMember
  dsimp only
  split
  case h_1 hobject =>
    rw [hobject]
    rfl
  case h_2 hother =>
    have hvalue : isMember fields "object" "value" = false := by
      rw [Bool.eq_false_iff, Ne, isMember_iff]
      exact hother
    rw [isMember] at hvalue
    rw [hvalue]
    rfl

/-- The stages at which reading a document can fail. -/
def readingStages : List String := ["slate_structure", "slate_nodes", "slate_marks"]

def AtReadingStage (e : ParsingError) : Prop := e.stage.name ∈ readingStages

theorem AtReadingStage.of_structure {e : ParsingError} (h : e.stage = .slateStructure) :
    AtReadingStage e := by
  rw [AtReadingStage, h]
  decide

theorem AtReadingStage.of_nodes {e : ParsingError} (h : e.stage = .slateNodes) :
    AtReadingStage e := by
  rw [AtReadingStage, h]
  decide

theorem AtReadingStage.of_marks {e : ParsingError} (h : e.stage = .slateMarks) :
    AtReadingStage e := by
  rw [AtReadingStage, h]
  decide

/-- What is read is the document in the value, if there is one. -/
theorem readDocument_cases (v : Json) :
    (∃ fields, document? v = some fields ∧ readDocument v = readBare fields) ∨
      (document? v = none ∧ ∃ e, AtReadingStage e ∧ readDocument v = .fail e) := by
  cases v with
  | obj fields =>
    have hread : readDocument (.obj fields) = documentFields fields >>= readBare := rfl
    rw [hread, documentFields_eq, document?]
    cases hvalue : isEnvelope fields with
    | false => exact .inl ⟨fields, rfl, by simp⟩
    | true =>
      simp only [if_true]
      cases hdocument : Fields.get? fields "document" with
      | none =>
        refine .inr ⟨rfl, .missingField .value "document" fields, .of_structure rfl, ?_⟩
        rw [require, hdocument]
        rfl
      | some v =>
        have hrequire : require .value "document" fields = pure v := by rw [require, hdocument]
        rw [hrequire, pure_bind]
        cases v with
        | obj inner => exact .inl ⟨inner, rfl, by simp⟩
        | _ => exact .inr ⟨rfl, .documentNotAnObject, .of_structure rfl, rfl⟩
  | _ => exact .inr ⟨rfl, _, .of_structure rfl, rfl⟩

theorem require_failsWith (part : SlatePart) (field : String) (fields : Fields) :
    FailsWith AtReadingStage (require part field fields).result := by
  unfold require
  cases Fields.get? fields field with
  | none => exact .error (.of_structure rfl)
  | some v => exact .ok v

theorem readListed_failsWith {α : Type} {notAList : String → ParsingError}
    {readItems : List Json → Reading α} (hlist : ∀ found, AtReadingStage (notAList found))
    (hitems : ∀ items, FailsWith AtReadingStage (readItems items).result) (v? : Option Json) :
    FailsWith AtReadingStage (readListed notAList readItems v?).result := by
  rw [readListed]
  cases listed? v? with
  | none => exact .error (hlist _)
  | some items => exact hitems items

theorem readMarksFrom_failsWith (marks : Marks) (items : List Json) :
    FailsWith AtReadingStage (readMarksFrom marks items).result := by
  induction items generalizing marks with
  | nil => exact .ok marks
  | cons v rest ih =>
    cases hname : markName? v with
    | none =>
      rw [readMarksFrom, hname]
      exact .error (.of_marks rfl)
    | some name =>
      rw [readMarksFrom_cons_result hname]
      exact ih _

theorem readRun_failsWith (part : SlatePart) (fields : Fields) :
    FailsWith AtReadingStage (readRun part fields).result := by
  refine .logged (require_failsWith part "text" fields) fun text => ?_
  rw [readMarks_eq]
  exact .logged
    (readListed_failsWith (fun _ => .of_marks rfl) (readMarksFrom_failsWith .none) _)
    fun _ => .ok _

theorem readLeaves_failsWith (items : List Json) :
    FailsWith AtReadingStage (readLeaves items).result := by
  induction items with
  | nil => exact .ok []
  | cons v rest ih =>
    cases v with
    | obj fields =>
      exact .logged (readRun_failsWith .leaf fields) fun _ => .logged ih fun _ => .ok _
    | _ => exact .error (.of_nodes rfl)

theorem readText_failsWith (fields : Fields) :
    FailsWith AtReadingStage (readText fields).result := by
  cases hleaves : Fields.get? fields "leaves" with
  | none =>
    rw [readText, hleaves]
    exact .logged (readRun_failsWith .textNode fields) fun _ => .ok _
  | some v =>
    rw [readText_eq_of_leaves hleaves]
    refine readListed_failsWith (fun _ => .of_nodes rfl) (fun items => ?_) _
    split
    · exact .ok _
    · exact readLeaves_failsWith items

theorem readObject_failsWith {fields : Fields} {children : Reading (Option (List Node))}
    (hchildren : FailsWith AtReadingStage children.result) :
    FailsWith AtReadingStage (readObject fields children).result := by
  have helement : FailsWith AtReadingStage (readObject.element fields children).result :=
    .logged (require_failsWith .element "type" fields) fun _ => .logged hchildren fun _ => .ok _
  refine .logged (require_failsWith .node "object" fields) fun object => ?_
  split
  · exact readText_failsWith fields
  · exact helement
  · exact helement
  · exact .error (.of_nodes rfl)

theorem readNodes_failsWith {items : List Json}
    (h : ∀ v ∈ items, FailsWith AtReadingStage (readNode v).result) :
    FailsWith AtReadingStage (readNodes items).result := by
  induction items with
  | nil => exact .ok []
  | cons v rest ih =>
    obtain ⟨hv, hrest⟩ := List.forall_mem_cons.mp h
    exact .logged hv fun _ => .logged (ih hrest) fun _ => .ok _

theorem readChildrenOf_failsWith {fields : Fields}
    (h : ∀ items, Fields.get? fields "nodes" = some (.arr items) →
      FailsWith AtReadingStage (readNodes items).result) :
    FailsWith AtReadingStage (readChildrenOf fields).result := by
  rw [readChildrenOf_eq]
  split
  case h_1 => exact .ok _
  case h_2 => exact .ok _
  case h_3 items hnodes =>
    rw [Logged.result_map]
    exact (h items hnodes).map some
  case h_4 => exact .error (.of_nodes rfl)

theorem readNode_failsWith (v : Json) : FailsWith AtReadingStage (readNode v).result := by
  induction v using Json.induct_items with
  | other v hother =>
    rw [readNode_of_not_obj hother]
    exact .error (.of_nodes rfl)
  | object fields ih =>
    rw [readNode]
    exact readObject_failsWith
      (readChildrenOf_failsWith fun items hnodes => readNodes_failsWith (ih "nodes" items hnodes))

theorem readDocument_failsWith (v : Json) : FailsWith AtReadingStage (readDocument v).result := by
  have htop : ∀ fields, FailsWith AtReadingStage (readTopNodes fields).result := by
    intro fields
    rw [readTopNodes_eq]
    exact readListed_failsWith (fun _ => .of_nodes rfl)
      (fun items => readNodes_failsWith fun v _ => readNode_failsWith v) _
  rcases readDocument_cases v with ⟨fields, -, hread⟩ | ⟨-, e, he, hread⟩
  · rw [hread, readBare]
    split
    · exact .logged (htop fields) fun _ => .ok _
    · exact .logged (htop fields) fun _ => .ok _
    · exact .error (.of_structure rfl)
  · rw [hread]
    exact .error he

end SlateMark.Slate
