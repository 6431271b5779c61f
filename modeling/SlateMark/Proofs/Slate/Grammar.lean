import Mathlib.Data.List.Forall2
import SlateMark.Proofs.Slate.Reading

/-!
The grammar of Slate documents in JSON. A value in a list of nodes stands for the nodes it puts
there: a text for its run or for the runs of its leaves, a block or an inline for one element.
Reading accepts exactly the values that stand for a document and yields that document; the others it
refuses at one of three stages.
-/
namespace SlateMark.Slate

/-- A mark of this name: an object of this type, or the name by itself. -/
inductive IsMark : Json → String → Prop
  | bare (name : String) : IsMark (.str name) name
  | object {fields : Fields} {name : String} (htype : Fields.get? fields "type" = some (.str name)) :
      IsMark (.obj fields) name

/-- Adds the marks of these names; other names are not marks. -/
def Marks.addAll (marks : Marks) (names : List String) : Marks :=
  ⟨marks.bold || names.contains "bold", marks.italic || names.contains "italic",
    marks.code || names.contains "code"⟩

/-- The run with the text and the marks among the members. -/
inductive HoldsRun (fields : Fields) : Node → Prop
  | intro {text : Json} {items : List Json} {names : List String}
      (htext : Fields.get? fields "text" = some text)
      (hlist : listed? (Fields.get? fields "marks") = some items)
      (hmarks : List.Forall₂ IsMark items names) :
      HoldsRun fields (.text text.plainText (Marks.none.addAll names))

inductive IsLeaf : Json → Node → Prop
  | intro {fields : Fields} {run : Node} (hrun : HoldsRun fields run) : IsLeaf (.obj fields) run

/-- The runs of a text: its own if it has no leaves, else one a leaf, and an empty run if none is
listed. -/
inductive HoldsRuns (fields : Fields) : List Node → Prop
  | own {run : Node} (hleaves : Fields.get? fields "leaves" = none) (hrun : HoldsRun fields run) :
      HoldsRuns fields [run]
  | blank {v : Json} (hleaves : Fields.get? fields "leaves" = some v)
      (hlist : listed? (some v) = some []) : HoldsRuns fields [.text "" .none]
  | leaves {v leaf : Json} {items : List Json} {runs : List Node}
      (hleaves : Fields.get? fields "leaves" = some v)
      (hlist : listed? (some v) = some (leaf :: items))
      (hruns : List.Forall₂ IsLeaf (leaf :: items) runs) : HoldsRuns fields runs

/-- A block or an inline of this type. -/
structure IsElement (fields : Fields) (type : Json) : Prop where
  object : Fields.get? fields "object" = some (.str "block") ∨
    Fields.get? fields "object" = some (.str "inline")
  type : Fields.get? fields "type" = some type

/-- The value stands for these nodes of a list of nodes. An element declares children if and only if
it has a list of them. -/
inductive StandsFor : Json → List Node → Prop
  | text {fields : Fields} {runs : List Node}
      (hobject : Fields.get? fields "object" = some (.str "text")) (hruns : HoldsRuns fields runs) :
      StandsFor (.obj fields) runs
  | undeclared {fields : Fields} {type : Json} (helement : IsElement fields type)
      (hnodes : Fields.get? fields "nodes" = none ∨ Fields.get? fields "nodes" = some .null) :
      StandsFor (.obj fields) [.element type.plainText none (hrefOf fields)]
  | declared {fields : Fields} {type : Json} {items : List Json} {parts : List (List Node)}
      (helement : IsElement fields type)
      (hnodes : Fields.get? fields "nodes" = some (.arr items))
      (hparts : List.Forall₂ StandsFor items parts) :
      StandsFor (.obj fields) [.element type.plainText (some parts.flatten) (hrefOf fields)]

/-- The document with the nodes among the members. -/
inductive HoldsDocument (fields : Fields) : Node → Prop
  | intro {items : List Json} {parts : List (List Node)}
      (hobject : Fields.get? fields "object" = none ∨
        Fields.get? fields "object" = some (.str "document"))
      (hlist : listed? (Fields.get? fields "nodes") = some items)
      (hparts : List.Forall₂ StandsFor items parts) :
      HoldsDocument fields (.document parts.flatten)

def StandsForDocument (v : Json) (d : Node) : Prop :=
  ∃ fields, document? v = some fields ∧ HoldsDocument fields d

theorem require_eq_ok_iff {part : SlatePart} {field : String} {fields : Fields} {v : Json} :
    (require part field fields).result = .ok v ↔ Fields.get? fields field = some v := by
  unfold require
  cases Fields.get? fields field with
  | none => simp [Logged.fail]
  | some v' => simp

theorem markName?_eq_some_iff {v : Json} {name : String} :
    markName? v = some name ↔ IsMark v name := by
  constructor
  · intro h
    cases v with
    | str s =>
      obtain rfl := Option.some.inj h
      exact .bare s
    | obj fields =>
      rw [markName?] at h
      split at h
      case h_1 s htype =>
        obtain rfl := Option.some.inj h
        exact .object htype
      case h_2 => cases h
    | _ => cases h
  · intro h
    cases h with
    | bare name => rfl
    | object htype => simp only [markName?, htype]

theorem Marks.addAll_cons (marks : Marks) (name : String) (names : List String) :
    marks.addAll (name :: names) = ((marks.add? name).getD marks).addAll names := by
  unfold add?
  split_ifs with hbold hitalic hcode
  · simp [addAll, hbold]
  · simp [addAll, hitalic]
  · simp [addAll, hcode]
  · simp [addAll, Ne.symm hbold, Ne.symm hitalic, Ne.symm hcode]

theorem readMarksFrom_eq_ok_iff {marks marks' : Marks} {items : List Json} :
    (readMarksFrom marks items).result = .ok marks' ↔
      ∃ names, List.Forall₂ IsMark items names ∧ marks.addAll names = marks' := by
  induction items generalizing marks with
  | nil => simp [readMarksFrom, Marks.addAll]
  | cons v rest ih =>
    simp only [List.forall₂_cons_left_iff]
    cases hname : markName? v with
    | none =>
      have hno : ∀ name, ¬ IsMark v name := by
        intro name hmark
        simp [markName?_eq_some_iff.mpr hmark] at hname
      simp [readMarksFrom, hname, hno, Logged.fail]
    | some name =>
      have hmark : ∀ name', IsMark v name' ↔ name' = name := by
        intro name'
        rw [← markName?_eq_some_iff, hname, Option.some.injEq, eq_comm]
      rw [readMarksFrom_cons_result hname, ih]
      simp [hmark, Marks.addAll_cons]

theorem readRun_eq_ok_iff {part : SlatePart} {fields : Fields} {run : Node} :
    (readRun part fields).result = .ok run ↔ HoldsRun fields run := by
  simp only [readRun, readMarks_eq, Logged.result_bind_eq_ok, require_eq_ok_iff,
    readListed_eq_ok_iff, readMarksFrom_eq_ok_iff, Logged.pure_def, Except.ok.injEq]
  constructor
  · rintro ⟨text, htext, _, ⟨items, hlist, names, hmarks, rfl⟩, rfl⟩
    exact .intro htext hlist hmarks
  · rintro ⟨htext, hlist, hmarks⟩
    exact ⟨_, htext, _, ⟨_, hlist, _, hmarks, rfl⟩, rfl⟩

theorem readLeaves_eq_ok_iff {items : List Json} {runs : List Node} :
    (readLeaves items).result = .ok runs ↔ List.Forall₂ IsLeaf items runs := by
  induction items generalizing runs with
  | nil => simp [readLeaves, eq_comm]
  | cons v rest ih =>
    rw [List.forall₂_cons_left_iff]
    cases v with
    | obj fields =>
      simp only [readLeaves, Logged.result_bind_eq_ok, readRun_eq_ok_iff, ih, Logged.pure_def,
        Except.ok.injEq]
      constructor
      · rintro ⟨run, hrun, runs', hruns, rfl⟩
        exact ⟨run, runs', .intro hrun, hruns, rfl⟩
      · rintro ⟨run, runs', ⟨hrun⟩, hruns, rfl⟩
        exact ⟨run, hrun, runs', hruns, rfl⟩
    | _ =>
      refine iff_of_false nofun ?_
      rintro ⟨run, runs', hleaf, -, -⟩
      cases hleaf

theorem readText_eq_ok_iff {fields : Fields} {runs : List Node} :
    (readText fields).result = .ok runs ↔ HoldsRuns fields runs := by
  cases hleaves : Fields.get? fields "leaves" with
  | none =>
    have hread : readText fields = readRun .textNode fields >>= fun run => pure [run] := by
      rw [readText, hleaves]
    simp only [hread, Logged.result_bind_eq_ok, readRun_eq_ok_iff, Logged.pure_def,
      Except.ok.injEq]
    constructor
    · rintro ⟨run, hrun, rfl⟩
      exact .own hleaves hrun
    · intro h
      cases h with
      | own _ hrun => exact ⟨_, hrun, rfl⟩
      | blank hsome => simp [hleaves] at hsome
      | leaves hsome => simp [hleaves] at hsome
  | some v =>
    rw [readText_eq_of_leaves hleaves, readListed_eq_ok_iff]
    constructor
    · rintro ⟨items, hlist, hitems⟩
      cases items with
      | nil =>
        obtain rfl := Except.ok.inj hitems
        exact .blank hleaves hlist
      | cons leaf items => exact .leaves hleaves hlist (readLeaves_eq_ok_iff.mp hitems)
    · intro h
      cases h with
      | own hnone _ => simp [hleaves] at hnone
      | blank hsome hlist =>
        obtain rfl := Option.some.inj (hleaves.symm.trans hsome)
        exact ⟨[], hlist, rfl⟩
      | leaves hsome hlist hruns =>
        obtain rfl := Option.some.inj (hleaves.symm.trans hsome)
        exact ⟨_, hlist, readLeaves_eq_ok_iff.mpr hruns⟩

theorem readNodes_eq_ok_iff {items : List Json} {nodes : List Node} :
    (readNodes items).result = .ok nodes ↔
      ∃ parts, List.Forall₂ (fun v part => (readNode v).result = .ok part) items parts ∧
        parts.flatten = nodes := by
  induction items generalizing nodes with
  | nil => simp [readNodes]
  | cons v rest ih =>
    simp only [readNodes, Logged.result_bind_eq_ok, ih, Logged.pure_def, Except.ok.injEq,
      List.forall₂_cons_left_iff]
    constructor
    · rintro ⟨part, hpart, _, ⟨parts, hparts, rfl⟩, rfl⟩
      exact ⟨part :: parts, ⟨part, parts, hpart, hparts, rfl⟩, rfl⟩
    · rintro ⟨_, ⟨part, parts, hpart, hparts, rfl⟩, rfl⟩
      exact ⟨part, hpart, _, ⟨parts, hparts, rfl⟩, rfl⟩

theorem readChildrenOf_eq_ok_iff {fields : Fields} {nodes? : Option (List Node)} :
    (readChildrenOf fields).result = .ok nodes? ↔
      ((Fields.get? fields "nodes" = none ∨ Fields.get? fields "nodes" = some .null) ∧
          none = nodes?) ∨
        ∃ items, Fields.get? fields "nodes" = some (.arr items) ∧
          ∃ nodes, (readNodes items).result = .ok nodes ∧ some nodes = nodes? := by
  rw [readChildrenOf_eq]
  cases hnodes : Fields.get? fields "nodes" with
  | none => simp
  | some v =>
    cases v with
    | null => simp
    | arr items => simp [Logged.result_map_eq_ok]
    | _ => simp [Logged.fail]

theorem readObject_eq_ok_iff {fields : Fields} {children : Reading (Option (List Node))}
    {nodes : List Node} :
    (readObject fields children).result = .ok nodes ↔
      (Fields.get? fields "object" = some (.str "text") ∧ HoldsRuns fields nodes) ∨
        ∃ type nodes?, IsElement fields type ∧ children.result = .ok nodes? ∧
          nodes = [.element type.plainText nodes? (hrefOf fields)] := by
  have helement : (readObject.element fields children).result = .ok nodes ↔
      ∃ type, Fields.get? fields "type" = some type ∧ ∃ nodes?, children.result = .ok nodes? ∧
        [.element type.plainText nodes? (hrefOf fields)] = nodes := by
    simp only [readObject.element, Logged.result_bind_eq_ok, require_eq_ok_iff, Logged.pure_def,
      Except.ok.injEq]
  rw [readObject, Logged.result_bind_eq_ok]
  simp only [require_eq_ok_iff]
  constructor
  · rintro ⟨object, hobject, h⟩
    split at h
    case h_1 => exact .inl ⟨hobject, readText_eq_ok_iff.mp h⟩
    case h_2 =>
      obtain ⟨type, htype, nodes?, hchildren, rfl⟩ := helement.mp h
      exact .inr ⟨type, nodes?, ⟨.inl hobject, htype⟩, hchildren, rfl⟩
    case h_3 =>
      obtain ⟨type, htype, nodes?, hchildren, rfl⟩ := helement.mp h
      exact .inr ⟨type, nodes?, ⟨.inr hobject, htype⟩, hchildren, rfl⟩
    case h_4 => cases h
  · rintro (⟨hobject, hruns⟩ | ⟨type, nodes?, ⟨hobject, htype⟩, hchildren, rfl⟩)
    · exact ⟨_, hobject, readText_eq_ok_iff.mpr hruns⟩
    · have hread := helement.mpr ⟨type, htype, nodes?, hchildren, rfl⟩
      rcases hobject with hobject | hobject
      · exact ⟨_, hobject, hread⟩
      · exact ⟨_, hobject, hread⟩

theorem forall₂_congr_of_mem {α β : Type} {R S : α → β → Prop} {l : List α} {l' : List β}
    (h : ∀ a ∈ l, ∀ b, R a b ↔ S a b) : List.Forall₂ R l l' ↔ List.Forall₂ S l l' := by
  rw [List.forall₂_iff_zip, List.forall₂_iff_zip]
  refine and_congr_right fun _ => ⟨?_, ?_⟩
  · intro hR a b hzip
    exact (h a (List.of_mem_zip hzip).1 b).mp (hR hzip)
  · intro hS a b hzip
    exact (h a (List.of_mem_zip hzip).1 b).mpr (hS hzip)

/-- Exactly the values that stand for nodes are read, and as these nodes. -/
theorem readNode_eq_ok_iff {v : Json} {nodes : List Node} :
    (readNode v).result = .ok nodes ↔ StandsFor v nodes := by
  induction v using Json.induct_items generalizing nodes with
  | other v hother =>
    rw [readNode_of_not_obj hother]
    refine iff_of_false nofun fun h => ?_
    cases h <;> exact hother _ rfl
  | object fields ih =>
    rw [readNode, readObject_eq_ok_iff]
    constructor
    · rintro (⟨hobject, hruns⟩ | ⟨type, nodes?, helement, hchildren, rfl⟩)
      · exact .text hobject hruns
      · rcases readChildrenOf_eq_ok_iff.mp hchildren with
          ⟨hnodes, rfl⟩ | ⟨items, hnodes, nodes, hread, rfl⟩
        · exact .undeclared helement hnodes
        · obtain ⟨parts, hparts, rfl⟩ := readNodes_eq_ok_iff.mp hread
          exact .declared helement hnodes
            ((forall₂_congr_of_mem fun c hc _ => ih "nodes" items hnodes c hc).mp hparts)
    · intro h
      cases h with
      | text hobject hruns => exact .inl ⟨hobject, hruns⟩
      | undeclared helement hnodes =>
        exact .inr ⟨_, none, helement, readChildrenOf_eq_ok_iff.mpr (.inl ⟨hnodes, rfl⟩), rfl⟩
      | @declared _ type items parts helement hnodes hparts =>
        have hread : (readNodes items).result = .ok parts.flatten :=
          readNodes_eq_ok_iff.mpr ⟨parts,
            (forall₂_congr_of_mem fun c hc _ => ih "nodes" items hnodes c hc).mpr hparts, rfl⟩
        exact .inr ⟨type, some parts.flatten, helement,
          readChildrenOf_eq_ok_iff.mpr (.inr ⟨items, hnodes, _, hread, rfl⟩), rfl⟩

theorem readBare_eq_ok_iff {fields : Fields} {d : Node} :
    (readBare fields).result = .ok d ↔ HoldsDocument fields d := by
  have htop : (readTopNodes fields >>= fun nodes => pure (Node.document nodes)).result = .ok d ↔
      ∃ items, listed? (Fields.get? fields "nodes") = some items ∧
        ∃ parts, List.Forall₂ StandsFor items parts ∧ .document parts.flatten = d := by
    simp only [readTopNodes_eq, Logged.result_bind_eq_ok, readListed_eq_ok_iff,
      readNodes_eq_ok_iff, readNode_eq_ok_iff, Logged.pure_def, Except.ok.injEq]
    constructor
    · rintro ⟨_, ⟨items, hlist, parts, hparts, rfl⟩, rfl⟩
      exact ⟨items, hlist, parts, hparts, rfl⟩
    · rintro ⟨items, hlist, parts, hparts, rfl⟩
      exact ⟨_, ⟨items, hlist, parts, hparts, rfl⟩, rfl⟩
  unfold readBare
  constructor
  · intro h
    split at h
    case h_1 hobject =>
      obtain ⟨items, hlist, parts, hparts, rfl⟩ := htop.mp h
      exact .intro (.inl hobject) hlist hparts
    case h_2 hobject =>
      obtain ⟨items, hlist, parts, hparts, rfl⟩ := htop.mp h
      exact .intro (.inr hobject) hlist hparts
    case h_3 => cases h
  · rintro ⟨hobject | hobject, hlist, hparts⟩
    · rw [hobject]
      exact htop.mpr ⟨_, hlist, _, hparts, rfl⟩
    · rw [hobject]
      exact htop.mpr ⟨_, hlist, _, hparts, rfl⟩

theorem readDocument_eq_ok_iff {v : Json} {d : Node} :
    (readDocument v).result = .ok d ↔ StandsForDocument v d := by
  rw [StandsForDocument]
  rcases readDocument_cases v with ⟨fields, hdocument, hread⟩ | ⟨hdocument, e, -, hread⟩
  · simp [hdocument, hread, readBare_eq_ok_iff]
  · simp [hdocument, hread, Logged.fail]

/-- Every value either stands for a document, which is read, or is refused at one of the stages. -/
theorem readDocument_standsForDocument (v : Json) :
    (∀ d, (readDocument v).result = .ok d ↔ StandsForDocument v d) ∧
      ((∃ d, StandsForDocument v d) ∨
        ∃ e, (readDocument v).result = .error e ∧ AtReadingStage e) := by
  refine ⟨fun d => readDocument_eq_ok_iff, ?_⟩
  cases hread : (readDocument v).result with
  | ok d => exact .inl ⟨d, readDocument_eq_ok_iff.mp hread⟩
  | error e => exact .inr ⟨e, rfl, readDocument_failsWith v e hread⟩

end SlateMark.Slate
