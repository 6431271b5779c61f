import SlateMark.Proofs.Slate.Reading
import SlateMark.Slate.Writer

/-!
The modern form of a document: its texts hold one run each and have no leaves, and its marks are
objects, all of them known. A document and its modern form read as the same tree. Reading the modern
form reports nothing, and reading the document reports the marks that the modern form leaves out, in
the order of the document.
-/
namespace SlateMark.Slate

/-- A bare name becomes the object of that type. -/
def asMarkObject : Json → Json
  | .str name => markJson name
  | v => v

/-- Leaves out the marks of other names. What is no mark at all stays. -/
def modernMarks (items : List Json) : List Json :=
  (items.filter fun v => (markName? v).all Marks.isMark).map asMarkObject

def modernRun (fields : Fields) : Fields := fields.modify "marks" (Json.mapItems modernMarks)

/-- The members of a text with the text and the marks of a leaf. -/
def leafText (leaf : Fields) : Fields :=
  ("object", .str "text") :: modernRun (member "text" ++ member "marks")
where
  member (name : String) : Fields := ((Fields.get? leaf name).map fun v => (name, v)).toList

def modernLeaf : Json → Json
  | .obj leaf => .obj (leafText leaf)
  | v => v

def emptyText : Json := .obj [("object", .str "text"), ("text", .str ""), ("marks", .arr [])]

/-- The texts for the leaves of a text, or the text itself if it has none. -/
def modernText (fields : Fields) : List Json :=
  match Fields.get? fields "leaves" with
  | none => [.obj (modernRun fields)]
  | some leaves =>
    match listed? (some leaves) with
    | none => [.obj fields]
    | some [] => [emptyText]
    | some items => items.map modernLeaf

mutual
def modernNode : Json → List Json
  | .obj fields =>
    if isMember fields "object" "text" then modernText fields else [.obj (modernMembers fields)]
  | v => [v]

def modernMembers : List (String × Json) → List (String × Json)
  | [] => []
  | (name, .arr items) :: rest =>
    (name, .arr (if name = "nodes" then modernNodes items else items)) :: modernMembers rest
  | member :: rest => member :: modernMembers rest

def modernNodes : List Json → List Json
  | [] => []
  | v :: rest => modernNode v ++ modernNodes rest
end

/-- The value with the modern form of the document in it. -/
def modern : Json → Json
  | .obj fields =>
    if isEnvelope fields then .obj (Fields.modify "document" modernInner fields)
    else .obj (modernMembers fields)
  | v => v
where
  modernInner : Json → Json
    | .obj inner => .obj (modernMembers inner)
    | v => v

/-- The items of a list; all else has none. -/
def itemsOf : Option Json → List Json
  | some (.arr items) => items
  | _ => []

/-- The members of leaves. -/
def leafMembers : List Json → List Fields
  | .obj leaf :: rest => leaf :: leafMembers rest
  | _ => []

/-- The members of the objects that hold the runs of a text: of its leaves, or its own if it has
none. -/
def textHolders (fields : Fields) : List Fields :=
  match Fields.get? fields "leaves" with
  | none => [fields]
  | some leaves => leafMembers (itemsOf (some leaves))

mutual
/-- The members of the objects that hold runs in a node, in the order of the document. -/
def runHolders : Json → List Fields
  | .obj fields =>
    if isMember fields "object" "text" then textHolders fields else runHoldersBelow fields
  | _ => []

def runHoldersBelow : List (String × Json) → List Fields
  | [] => []
  | (name, v) :: rest =>
    if name = "nodes" then
      match v with
      | .arr items => runHoldersAll items
      | _ => []
    else runHoldersBelow rest

def runHoldersAll : List Json → List Fields
  | [] => []
  | v :: rest => runHolders v ++ runHoldersAll rest
end

def unknownNames (items : List Json) : List String :=
  (items.filterMap markName?).filter (!Marks.isMark ·)

/-- The names of the unsupported marks of a run. -/
def unsupportedIn (fields : Fields) : List String :=
  unknownNames (itemsOf (Fields.get? fields "marks"))

/-- The names of the unsupported marks in a document, in its order. -/
def unsupportedMarks (v : Json) : List String :=
  (((document? v).map runHoldersBelow).getD []).flatMap unsupportedIn

/-- Both readings fail, or both yield the same, one dropping marks of these names and the other
reporting nothing. -/
inductive ReadsAlike {α : Type} (names : List String) : Reading α → Reading α → Prop
  | ok (a : α) : ReadsAlike names ⟨names.map .markDropped, .ok a⟩ ⟨[], .ok a⟩
  | failed {old new : Reading α} (hold : ∃ e, old.result = .error e)
      (hnew : ∃ e, new.result = .error e) : ReadsAlike names old new

namespace ReadsAlike

variable {α β : Type} {names more : List String} {old new : Reading α}

theorem pure (a : α) : ReadsAlike [] (Pure.pure a) (Pure.pure a) := .ok a

theorem fail (e e' : ParsingError) : ReadsAlike names (.fail e : Reading α) (.fail e') :=
  .failed ⟨e, rfl⟩ ⟨e', rfl⟩

theorem bind {next next' : α → Reading β} (h : ReadsAlike names old new)
    (hnext : ∀ a, ReadsAlike more (next a) (next' a)) :
    ReadsAlike (names ++ more) (old >>= next) (new >>= next') := by
  cases h with
  | ok a =>
    have hrest := hnext a
    rw [Logged.ok_bind, Logged.ok_bind]
    generalize next a = first at hrest ⊢
    generalize next' a = second at hrest ⊢
    cases hrest with
    | ok b =>
      rw [← List.map_append]
      exact .ok b
    | failed hold hnew => exact .failed hold hnew
  | failed hold hnew =>
    obtain ⟨e, he⟩ := hold
    obtain ⟨e', he'⟩ := hnew
    exact .failed ⟨e, Logged.result_bind_of_error he next⟩
      ⟨e', Logged.result_bind_of_error he' next'⟩

/-- What follows a reading without marks to drop. -/
theorem andThen {next next' : α → Reading β} (h : ReadsAlike [] old new)
    (hnext : ∀ a, ReadsAlike more (next a) (next' a)) :
    ReadsAlike more (old >>= next) (new >>= next') := h.bind hnext

theorem bindPure (f : α → β) (h : ReadsAlike names old new) :
    ReadsAlike names (old >>= fun a => Pure.pure (f a)) (new >>= fun a => Pure.pure (f a)) := by
  rw [← List.append_nil names]
  exact h.bind fun a => .pure (f a)

theorem map (f : α → β) (h : ReadsAlike names old new) :
    ReadsAlike names (f <$> old) (f <$> new) := by
  rw [← bind_pure_comp, ← bind_pure_comp]
  exact h.bindPure f

theorem report (name : String) (h : ReadsAlike names old new) :
    ReadsAlike (name :: names) (Logged.report (.markDropped name) >>= fun _ => old) new := by
  cases h with
  | ok a => exact .ok a
  | failed hold hnew =>
    obtain ⟨e, he⟩ := hold
    exact .failed ⟨e, by rw [Logged.result_bind]; exact he⟩ hnew

end ReadsAlike

theorem itemsOf_of_listed? {v? : Option Json} {items : List Json} (h : listed? v? = some items) :
    itemsOf v? = items := by
  cases v? with
  | none => exact Option.some.inj h
  | some v =>
    cases v with
    | arr items' => exact Option.some.inj h
    | _ =>
      simp only [listed?] at h
      split at h
      · cases h
      · exact Option.some.inj h

theorem listed?_mapItems {f : List Json → List Json} (hnil : f [] = []) (v? : Option Json) :
    listed? (v?.map (Json.mapItems f)) = (listed? v?).map f := by
  cases v? with
  | none => simp [listed?, hnil]
  | some v =>
    cases v with
    | arr items => rfl
    | _ =>
      simp only [Option.map_some, Json.mapItems, listed?]
      split <;> simp [hnil]

theorem readListed_readsAlike {α : Type} {notAList : String → ParsingError}
    {readItems : List Json → Reading α} {f : List Json → List Json} (hnil : f [] = [])
    {names : List Json → List String}
    (h : ∀ items, ReadsAlike (names items) (readItems items) (readItems (f items)))
    (v? : Option Json) :
    ReadsAlike (names (itemsOf v?)) (readListed notAList readItems v?)
      (readListed notAList readItems (v?.map (Json.mapItems f))) := by
  rw [readListed, readListed, listed?_mapItems hnil]
  cases hlist : listed? v? with
  | none => exact .fail _ _
  | some items =>
    rw [itemsOf_of_listed? hlist]
    exact h items

theorem markName?_asMarkObject (v : Json) : markName? (asMarkObject v) = markName? v := by
  cases v <;> rfl

theorem Marks.isSome_add? (marks : Marks) (name : String) :
    (marks.add? name).isSome = Marks.isMark name := by
  by_cases hbold : name = "bold"
  · simp [add?, isMark, hbold]
  · by_cases hitalic : name = "italic"
    · simp [add?, isMark, hitalic]
    · by_cases hcode : name = "code"
      · simp [add?, isMark, hcode]
      · simp [add?, isMark, hbold, hitalic, hcode]

theorem readMarksFrom_modernMarks (marks : Marks) (items : List Json) :
    ReadsAlike (unknownNames items) (readMarksFrom marks items)
      (readMarksFrom marks (modernMarks items)) := by
  induction items generalizing marks with
  | nil => exact .pure marks
  | cons v rest ih =>
    cases hname : markName? v with
    | none =>
      have hmodern : modernMarks (v :: rest) = asMarkObject v :: modernMarks rest := by
        simp [modernMarks, hname]
      rw [hmodern, readMarksFrom, readMarksFrom, markName?_asMarkObject, hname]
      exact .fail _ _
    | some name =>
      cases hadd : marks.add? name with
      | none =>
        have hunknown : Marks.isMark name = false := by rw [← marks.isSome_add?, hadd]; rfl
        have hmodern : modernMarks (v :: rest) = modernMarks rest := by
          simp [modernMarks, hname, hunknown]
        have hnames : unknownNames (v :: rest) = name :: unknownNames rest := by
          simp [unknownNames, hname, hunknown]
        rw [hmodern, hnames, readMarksFrom, hname]
        simp only [hadd]
        exact (ih marks).report name
      | some marks' =>
        have hknown : Marks.isMark name = true := by rw [← marks.isSome_add?, hadd]; rfl
        have hmodern : modernMarks (v :: rest) = asMarkObject v :: modernMarks rest := by
          simp [modernMarks, hname, hknown]
        have hnames : unknownNames (v :: rest) = unknownNames rest := by
          simp [unknownNames, hname, hknown]
        rw [hmodern, hnames, readMarksFrom, readMarksFrom, markName?_asMarkObject, hname]
        simp only [hadd]
        exact ih marks'

theorem require_readsAlike {part part' : SlatePart} {field : String} {fields fields' : Fields}
    (h : Fields.get? fields' field = Fields.get? fields field) :
    ReadsAlike [] (require part field fields) (require part' field fields') := by
  unfold require
  rw [h]
  cases Fields.get? fields field with
  | none => exact .fail _ _
  | some v => exact .pure v

theorem readRun_readsAlike (part part' : SlatePart) {fields fields' : Fields}
    (htext : Fields.get? fields' "text" = Fields.get? fields "text")
    (hmarks : Fields.get? fields' "marks" =
      (Fields.get? fields "marks").map (Json.mapItems modernMarks)) :
    ReadsAlike (unsupportedIn fields) (readRun part fields) (readRun part' fields') := by
  refine (require_readsAlike htext).andThen fun text => ?_
  rw [readMarks_eq, readMarks_eq, hmarks]
  exact (readListed_readsAlike rfl (readMarksFrom_modernMarks .none) _).bindPure _

theorem get?_leafText_leaves (leaf : Fields) : Fields.get? (leafText leaf) "leaves" = none := by
  unfold leafText leafText.member
  cases Fields.get? leaf "text" <;> cases Fields.get? leaf "marks" <;> rfl

theorem get?_leafText_text (leaf : Fields) :
    Fields.get? (leafText leaf) "text" = Fields.get? leaf "text" := by
  unfold leafText leafText.member
  cases Fields.get? leaf "text" <;> cases Fields.get? leaf "marks" <;> rfl

theorem get?_leafText_marks (leaf : Fields) :
    Fields.get? (leafText leaf) "marks" =
      (Fields.get? leaf "marks").map (Json.mapItems modernMarks) := by
  unfold leafText leafText.member
  cases Fields.get? leaf "text" <;> cases Fields.get? leaf "marks" <;> rfl

theorem readLeaves_readsAlike (items : List Json) :
    ReadsAlike ((leafMembers items).flatMap unsupportedIn) (readLeaves items)
      (readNodes (items.map modernLeaf)) := by
  induction items with
  | nil => exact .pure []
  | cons v rest ih =>
    cases v with
    | obj leaf =>
      have hleaf : readNode (modernLeaf (.obj leaf)) =
          readRun .textNode (leafText leaf) >>= fun run => pure [run] :=
        (readNode_text rfl).trans (readText_run (get?_leafText_leaves leaf))
      have hrun := readRun_readsAlike .leaf .textNode (get?_leafText_text leaf)
        (get?_leafText_marks leaf)
      rw [List.map_cons, readNodes, hleaf, readLeaves]
      simp only [bind_assoc, pure_bind]
      exact hrun.bind fun run => ih.bindPure (List.cons run)
    | _ => exact .fail _ _

theorem readText_modernText {fields : Fields}
    (hobject : Fields.get? fields "object" = some (.str "text")) :
    ReadsAlike ((textHolders fields).flatMap unsupportedIn) (readText fields)
      (readNodes (modernText fields)) := by
  unfold textHolders modernText
  cases hleaves : Fields.get? fields "leaves" with
  | none =>
    have hobject' : Fields.get? (modernRun fields) "object" = some (.str "text") :=
      (Fields.get?_modify_of_ne (by decide) _ fields).trans hobject
    have hleaves' : Fields.get? (modernRun fields) "leaves" = none :=
      (Fields.get?_modify_of_ne (by decide) _ fields).trans hleaves
    have hrun := readRun_readsAlike .textNode .textNode
      (Fields.get?_modify_of_ne (by decide) _ fields) (Fields.get?_modify_self "marks" _ fields)
    rw [readNodes_singleton, readNode_text hobject', readText_run hleaves, readText_run hleaves',
      List.flatMap_singleton]
    exact hrun.bindPure _
  | some v =>
    have hread := readText_eq_of_leaves hleaves
    rw [readListed] at hread
    dsimp only
    cases hlist : listed? (some v) with
    | none =>
      simp only [hlist] at hread
      simp only [readNodes_singleton, readNode_text hobject, hread]
      exact .fail _ _
    | some items =>
      simp only [hlist] at hread
      rw [hread, itemsOf_of_listed? hlist]
      cases items with
      | nil => exact .pure [Node.text "" .none]
      | cons leaf items => exact readLeaves_readsAlike (leaf :: items)

theorem modernMembers_eq (fields : Fields) :
    modernMembers fields = Fields.modify "nodes" (Json.mapItems modernNodes) fields := by
  induction fields with
  | nil => rfl
  | cons field rest ih =>
    obtain ⟨name, v⟩ := field
    by_cases hname : name = "nodes"
    · cases v <;> simp_all [modernMembers, Fields.modify, Json.mapItems]
    · cases v <;> simp_all [modernMembers, Fields.modify, Json.mapItems]

theorem runHoldersBelow_eq (fields : Fields) :
    runHoldersBelow fields = runHoldersAll (itemsOf (Fields.get? fields "nodes")) := by
  induction fields with
  | nil => rfl
  | cons field rest ih =>
    obtain ⟨name, v⟩ := field
    by_cases hname : name = "nodes"
    · have hget : Fields.get? ((name, v) :: rest) "nodes" = some v := by simp [Fields.get?, hname]
      rw [hget]
      cases v <;> simp [runHoldersBelow, runHoldersAll, hname, itemsOf]
    · have hget : Fields.get? ((name, v) :: rest) "nodes" = Fields.get? rest "nodes" := by
        simp [Fields.get?, hname]
      have hrest : runHoldersBelow ((name, v) :: rest) = runHoldersBelow rest := by
        cases v <;> simp [runHoldersBelow, hname]
      rw [hget, hrest, ih]

theorem readNodes_modernNodes {items : List Json}
    (h : ∀ v ∈ items, ReadsAlike ((runHolders v).flatMap unsupportedIn) (readNode v)
      (readNodes (modernNode v))) :
    ReadsAlike ((runHoldersAll items).flatMap unsupportedIn) (readNodes items)
      (readNodes (modernNodes items)) := by
  induction items with
  | nil => exact .pure []
  | cons v rest ih =>
    obtain ⟨hv, hrest⟩ := List.forall_mem_cons.mp h
    -- One value may turn into many, so the two lists are not read in step but part by part.
    rw [modernNodes, readNodes_append, readNodes, runHoldersAll, List.flatMap_append]
    exact hv.bind fun nodes => (ih hrest).bindPure _

theorem readChildrenOf_modernMembers {fields : Fields}
    (h : ∀ items, Fields.get? fields "nodes" = some (.arr items) →
      ReadsAlike ((runHoldersAll items).flatMap unsupportedIn) (readNodes items)
        (readNodes (modernNodes items))) :
    ReadsAlike ((runHoldersBelow fields).flatMap unsupportedIn) (readChildrenOf fields)
      (readChildrenOf (modernMembers fields)) := by
  rw [modernMembers_eq, readChildrenOf_eq, readChildrenOf_eq, runHoldersBelow_eq,
    Fields.get?_modify_self]
  cases hnodes : Fields.get? fields "nodes" with
  | none => exact .pure none
  | some v =>
    cases v with
    | null => exact .pure none
    | arr items => exact (h items hnodes).map some
    | _ => exact .fail _ _

theorem readObject_modernMembers {fields : Fields} {names : List String}
    {children children' : Reading (Option (List Node))}
    (htext : isMember fields "object" "text" = false)
    (h : ReadsAlike names children children') :
    ReadsAlike names (readObject fields children)
      (readObject (modernMembers fields) children') := by
  have hkept : ∀ {name}, name ≠ "nodes" →
      Fields.get? (modernMembers fields) name = Fields.get? fields name := by
    intro name hname
    rw [modernMembers_eq]
    exact Fields.get?_modify_of_ne hname _ fields
  have hhref : hrefOf (modernMembers fields) = hrefOf fields := by
    rw [hrefOf, hrefOf, hkept (by decide)]
  have helement : ReadsAlike names (readObject.element fields children)
      (readObject.element (modernMembers fields) children') := by
    refine (require_readsAlike (hkept (by decide))).andThen fun type => ?_
    rw [hhref]
    exact h.bindPure _
  unfold readObject
  rw [require, require, hkept (by decide)]
  cases hobject : Fields.get? fields "object" with
  | none => exact .fail _ _
  | some object =>
    rw [pure_bind, pure_bind]
    split
    · rw [isMember_iff.mpr hobject] at htext
      cases htext
    · exact helement
    · exact helement
    · exact .fail _ _

theorem readNode_modernNode (v : Json) :
    ReadsAlike ((runHolders v).flatMap unsupportedIn) (readNode v) (readNodes (modernNode v)) := by
  induction v using Json.induct_items with
  | other v hother =>
    have hstays : modernNode v = [v] := by
      cases v with
      | obj fields => exact absurd rfl (hother fields)
      | _ => rfl
    rw [hstays, readNodes_singleton, readNode_of_not_obj hother]
    exact .fail _ _
  | object fields ih =>
    rw [modernNode, runHolders]
    cases htext : isMember fields "object" "text" with
    | true =>
      have hobject := isMember_iff.mp htext
      rw [if_pos rfl, if_pos rfl, readNode_text hobject]
      exact readText_modernText hobject
    | false =>
      rw [if_neg Bool.false_ne_true, if_neg Bool.false_ne_true, readNodes_singleton, readNode,
        readNode]
      exact readObject_modernMembers htext (readChildrenOf_modernMembers fun items hnodes =>
        readNodes_modernNodes (ih "nodes" items hnodes))

theorem readBare_modernMembers (fields : Fields) :
    ReadsAlike ((runHoldersBelow fields).flatMap unsupportedIn) (readBare fields)
      (readBare (modernMembers fields)) := by
  have hobject : Fields.get? (modernMembers fields) "object" = Fields.get? fields "object" := by
    rw [modernMembers_eq]
    exact Fields.get?_modify_of_ne (by decide) _ fields
  have htop : ReadsAlike ((runHoldersBelow fields).flatMap unsupportedIn) (readTopNodes fields)
      (readTopNodes (modernMembers fields)) := by
    rw [readTopNodes_eq, readTopNodes_eq, modernMembers_eq, Fields.get?_modify_self,
      runHoldersBelow_eq]
    exact @readListed_readsAlike _ _ readNodes modernNodes rfl _
      (fun items => readNodes_modernNodes fun v _ => readNode_modernNode v) _
  unfold readBare
  rw [hobject]
  split
  · exact htop.bindPure _
  · exact htop.bindPure _
  · exact .fail _ _

theorem isEnvelope_modify {name : String} (hname : name ≠ "object") (f : Json → Json)
    (fields : Fields) : isEnvelope (Fields.modify name f fields) = isEnvelope fields := by
  rw [isEnvelope, isEnvelope, isMember, isMember, Fields.get?_modify_of_ne hname.symm,
    Fields.has_modify, Fields.has_modify]

theorem document?_modern (v : Json) : document? (modern v) = (document? v).map modernMembers := by
  cases v with
  | obj fields =>
    cases henvelope : isEnvelope fields with
    | false =>
      have hmodern : isEnvelope (modernMembers fields) = false := by
        rw [modernMembers_eq, isEnvelope_modify (by decide), henvelope]
      simp [modern, document?, henvelope, hmodern]
    | true =>
      have hmodern : isEnvelope (Fields.modify "document" modern.modernInner fields) = true := by
        rw [isEnvelope_modify (by decide), henvelope]
      simp only [modern, document?, henvelope, hmodern, if_true, Fields.get?_modify_self]
      cases Fields.get? fields "document" with
      | none => rfl
      | some v => cases v <;> rfl
  | _ => rfl

theorem readDocument_readsAlike (v : Json) :
    ReadsAlike (unsupportedMarks v) (readDocument v) (readDocument (modern v)) := by
  have hmodern := document?_modern v
  rcases readDocument_cases v with ⟨fields, hdocument, hread⟩ | ⟨hdocument, e, -, hread⟩
  · rw [hdocument, Option.map_some] at hmodern
    rcases readDocument_cases (modern v) with ⟨fields', hdocument', hread'⟩ | ⟨hnone, -⟩
    · obtain rfl : modernMembers fields = fields' := Option.some.inj (hmodern.symm.trans hdocument')
      rw [unsupportedMarks, hdocument, hread, hread']
      exact readBare_modernMembers fields
    · simp [hnone] at hmodern
  · rw [hdocument, Option.map_none] at hmodern
    rcases readDocument_cases (modern v) with ⟨fields', hdocument', -⟩ | ⟨-, e', -, hread'⟩
    · simp [hdocument'] at hmodern
    · rw [hread, hread']
      exact .fail e e'

/-- A document and its modern form are both read or both refused, and read as the same tree. The
modern form reads without a report, and all that is reported of the document are its unsupported
marks, in its order. -/
theorem readDocument_modern (v : Json) :
    (∀ d, (readDocument v).result = .ok d ↔ (readDocument (modern v)).result = .ok d) ∧
      ∀ d, (readDocument v).result = .ok d →
        (readDocument (modern v)).events = [] ∧
          (readDocument v).events = (unsupportedMarks v).map .markDropped := by
  have halike := readDocument_readsAlike v
  generalize readDocument v = old at halike ⊢
  generalize readDocument (modern v) = new at halike ⊢
  cases halike with
  | ok d => exact ⟨fun _ => Iff.rfl, fun _ _ => ⟨rfl, rfl⟩⟩
  | failed hold hnew =>
    obtain ⟨e, he⟩ := hold
    obtain ⟨e', he'⟩ := hnew
    simp [he, he']

/-- Leaves with bare and unsupported marks in an inline, and leaves without content beside it. -/
theorem readDocument_modern_leaves :
    let leaf (s : String) (marks : List Json) : Json :=
      .obj [("text", .str s), ("marks", .arr marks)]
    let v : Json := .obj [("document", .obj [("nodes", .arr [.obj [("object", .str "block"),
      ("type", .str "paragraph"), ("nodes", .arr [
        .obj [("object", .str "inline"), ("type", .str "link"), ("nodes", .arr [
          .obj [("object", .str "text"), ("leaves", .arr [
            leaf "a" [.str "underline", .str "bold"],
            leaf "b" [.obj [("type", .str "strike")], .obj [("type", .str "code")]]])]])],
        .obj [("object", .str "text"), ("leaves", .null), ("marks", .arr [.str "underline"])]])]])])]
    let d : Node := .document [.element "paragraph" (some
      [.element "link" (some [.text "a" ⟨true, false, false⟩, .text "b" ⟨false, false, true⟩]) .null,
        .text "" .none]) .null]
    (readDocument v).result = .ok d ∧ (readDocument (modern v)).result = .ok d ∧
      (readDocument (modern v)).events = [] ∧
      (readDocument v).events = [.markDropped "underline", .markDropped "strike"] := by
  intro leaf v d
  have hread : (readDocument v).result = .ok d := rfl
  obtain ⟨hmodern, hreports⟩ := readDocument_modern v
  exact ⟨hread, (hmodern d).mp hread, hreports d hread⟩

end SlateMark.Slate
