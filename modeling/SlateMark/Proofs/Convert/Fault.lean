import SlateMark.Proofs.Convert.Agreement

/-!
What a forward conversion refuses. Every live node is at fault by itself or not, whatever stands
below it; the first one at fault in document order decides the error, and a document without one is
converted. What stands below a heading or among dropped children is not live and never decides.
-/
namespace SlateMark.Slate.Node

/-- The faults of a live node by itself. -/
inductive AtFault (o : Options) : Node → ConversionFault → Prop
  | unknownType {type : String} {nodes : Option (List Node)} {href : Json}
      (htype : type ∉ headingElements ++ slotlessElements ++ containerElements) :
      AtFault o (element type nodes href) (.unrecognized .unknownKind)
  | nestedDocument (nodes : List Node) :
      AtFault o (document nodes) (.unrecognized .unknownKind)
  | missingReference (nodes : Option (List Node)) :
      AtFault o (element "link" nodes .null) (.malformed (.missingHref "link"))
  | headingWithoutText {type : String} {nodes : Option (List Node)} {href : Json}
      (htype : type ∈ headingElements)
      (htext : ∀ s marks rest, nodes.getD [] ≠ text s marks :: rest) :
      AtFault o (element type nodes href) (.malformed (.headingWithoutText type))
  | headingWithSiblings {type s : String} {marks : Marks} {nodes : Option (List Node)}
      {rest : List Node} {href : Json} (htype : type ∈ headingElements)
      (hnodes : nodes.getD [] = text s marks :: rest) (hrest : rest ≠ [])
      (hstrict : o.strictHeadings = true) :
      AtFault o (element type nodes href) (.malformed (.headingWithSiblings type))
  | headingWithMarks {type s : String} {marks : Marks} {nodes : Option (List Node)} {href : Json}
      (htype : type ∈ headingElements) (hnodes : nodes.getD [] = [text s marks])
      (hmarks : marks.isEmpty = false) (hstrict : o.strictHeadings = true) :
      AtFault o (element type nodes href) (.malformed (.headingWithMarks type))
  | childrenWithoutSlot {type : String} {target : CommonMark.Node} (nodes : List Node)
      {href : Json} (htarget : LeafTarget type target) (hpolicy : o.childlessPolicy = .error) :
      AtFault o (element type (some nodes) href) (.missingChildrenSlot target.tag.name)

/-- A node at fault is refused, and nothing is reported at it. -/
theorem judge_eq_fail_of_atFault {o : Options} {n : Node} {fault : ConversionFault}
    (h : AtFault o n fault) : judge o n = .fail ⟨fault, .slate n⟩ := by
  cases h with
  | unknownType htype =>
    rw [judge, Mapping.ofType?_eq_none htype]
    rfl
  | nestedDocument nodes => rfl
  | missingReference nodes => rfl
  | headingWithoutText htype htext =>
    obtain ⟨m, level, hm, hlevel⟩ := Mapping.exists_headingLevel htype
    rw [judge_headingText o hm hlevel]
    unfold headingText
    split
    case h_1 s marks rest hnodes => exact absurd hnodes (htext s marks rest)
    case h_2 => rfl
  | headingWithSiblings htype hnodes hrest hstrict =>
    obtain ⟨m, level, hm, hlevel⟩ := Mapping.exists_headingLevel htype
    rw [judge_headingText o hm hlevel, hnodes]
    simp [headingText, hstrict, hrest, Logged.fail, malformed]
  | headingWithMarks htype hnodes hmarks hstrict =>
    obtain ⟨m, level, hm, hlevel⟩ := Mapping.exists_headingLevel htype
    rw [judge_headingText o hm hlevel, hnodes]
    simp [headingText, hstrict, hmarks, Logged.fail, malformed]
  | childrenWithoutSlot nodes htarget hpolicy =>
    obtain ⟨ns, xmlns, policy, strict, dotted⟩ := o
    obtain rfl : policy = .error := hpolicy
    cases htarget <;> rfl

theorem judge_of_atFault {o : Options} {n : Node} {fault : ConversionFault}
    (h : AtFault o n fault) : (judge o n).result = .error ⟨fault, .slate n⟩ := by
  rw [judge_eq_fail_of_atFault h]
  rfl

/-- A heading that is not at fault starts with a text, which strictly is alone and bare. -/
theorem exists_headingText_of_not_atFault {o : Options} {type : String}
    (htype : type ∈ headingElements) {nodes : Option (List Node)} {href : Json}
    (h : ∀ fault, ¬ AtFault o (element type nodes href) fault) :
    ∃ s marks rest, nodes = some (text s marks :: rest) ∧
      (o.strictHeadings = true → rest = [] ∧ marks.isEmpty = true) := by
  have htext : ∃ s marks rest, nodes.getD [] = text s marks :: rest := by
    by_contra hnone
    refine h _ (.headingWithoutText htype fun s marks rest hnodes => hnone ?_)
    exact ⟨s, marks, rest, hnodes⟩
  obtain ⟨s, marks, rest, hnodes⟩ := htext
  refine ⟨s, marks, rest, ?_, fun hstrict => ?_⟩
  · cases nodes with
    | none => cases hnodes
    | some nodes => exact congrArg some hnodes
  · have halone : rest = [] := by
      by_contra hrest
      exact h _ (.headingWithSiblings htype hnodes hrest hstrict)
    refine ⟨halone, ?_⟩
    by_contra hmarks
    exact h _ (.headingWithMarks htype (halone ▸ hnodes) (by simpa using hmarks) hstrict)

theorem judge_heading_of_not_atFault {o : Options} {type : String} (htype : type ∈ headingElements)
    {nodes : Option (List Node)} {href : Json}
    (h : ∀ fault, ¬ AtFault o (element type nodes href) fault) :
    (judge o (element type nodes href)).result = .ok () := by
  obtain ⟨s, marks, rest, rfl, hstrictly⟩ := exists_headingText_of_not_atFault htype h
  obtain ⟨m, level, hm, hlevel⟩ := Mapping.exists_headingLevel htype
  rw [judge_heading_result o hm hlevel, Option.getD_some]
  cases hstrict : o.strictHeadings with
  | false =>
    cases rest <;> simp [headingText, hstrict, Except.map, Logged.report]
  | true =>
    obtain ⟨rfl, hbare⟩ := hstrictly hstrict
    simp [headingText, hstrict, hbare, Except.map]

theorem judge_leaf_of_not_atFault {o : Options} {type : String} {target : CommonMark.Node}
    (htarget : LeafTarget type target) {nodes : Option (List Node)} {href : Json}
    (h : ∀ fault, ¬ AtFault o (element type nodes href) fault) :
    (judge o (element type nodes href)).result = .ok () := by
  cases nodes with
  | none => cases htarget <;> rfl
  | some nodes =>
    have hdrop : o.childlessPolicy = .drop := by
      cases hpolicy : o.childlessPolicy with
      | error => exact absurd (.childrenWithoutSlot nodes htarget hpolicy) (h _)
      | drop => rfl
    obtain ⟨ns, xmlns, policy, strict, dotted⟩ := o
    obtain rfl : policy = .drop := hdrop
    cases htarget <;> rfl

theorem judge_container_of_not_atFault {o : Options} {type : String}
    (htype : type ∈ containerElements) {nodes : Option (List Node)} {href : Json}
    (h : ∀ fault, ¬ AtFault o (element type nodes href) fault) :
    (judge o (element type nodes href)).result = .ok () := by
  simp only [containerElements, List.mem_cons, List.not_mem_nil, or_false] at htype
  rcases htype with rfl | rfl | rfl | rfl | rfl | rfl
  case inr.inr.inr.inr.inr =>
    cases href with
    | null => exact absurd (.missingReference nodes) (h _)
    | _ => rfl
  all_goals rfl

theorem judge_of_not_atFault {o : Options} {n : Node} (h : ∀ fault, ¬ AtFault o n fault) :
    (judge o n).result = .ok () := by
  cases n with
  | text s marks => rfl
  | document nodes => exact absurd (.nestedDocument nodes) (h _)
  | element type nodes href =>
    by_cases hknown : type ∈ headingElements ++ slotlessElements ++ containerElements
    · simp only [List.mem_append] at hknown
      rcases hknown with (htype | htype) | htype
      · exact judge_heading_of_not_atFault htype h
      · obtain ⟨target, htarget⟩ := exists_leafTarget htype
        exact judge_leaf_of_not_atFault htarget h
      · exact judge_container_of_not_atFault htype h
    · exact absurd (.unknownType hknown) (h _)

theorem judge_eq_error_iff {o : Options} {n : Node} {e : ConversionError} :
    (judge o n).result = .error e ↔ ∃ fault, AtFault o n fault ∧ e = ⟨fault, .slate n⟩ := by
  constructor
  · intro he
    by_cases h : ∃ fault, AtFault o n fault
    · obtain ⟨fault, hfault⟩ := h
      rw [judge_of_atFault hfault] at he
      exact ⟨fault, hfault, (Except.error.inj he).symm⟩
    · rw [judge_of_not_atFault (not_exists.mp h)] at he
      cases he
  · rintro ⟨fault, hfault, rfl⟩
    exact judge_of_atFault hfault

theorem judge_eq_ok_iff {o : Options} {n : Node} :
    (judge o n).result = .ok () ↔ ∀ fault, ¬ AtFault o n fault := by
  constructor
  · intro hok fault hfault
    rw [judge_of_atFault hfault] at hok
    cases hok
  · exact judge_of_not_atFault

/-- The node is the first live one at fault, in document order. -/
def FirstAtFault (o : Options) (nodes : List Node) (n : Node) (fault : ConversionFault) : Prop :=
  ∃ front back, liveAll nodes = front ++ n :: back ∧
    (∀ m ∈ front, ∀ other, ¬ AtFault o m other) ∧ AtFault o n fault

theorem toRawAll_result_eq_error {o : Options} {nodes : List Node} {e : ConversionError} :
    (toRawAll o nodes).result = .error e ↔
      ∃ n fault, FirstAtFault o nodes n fault ∧ e = ⟨fault, .slate n⟩ := by
  have hwalk : (toRawAll o nodes).result = .error e ↔
      (forM (liveAll nodes) (judge o)).result = .error e := by
    rw [toRawAll_eq_forM, Logged.result_bind]
    cases (forM (liveAll nodes) (judge o)).result <;> simp [bind, Except.bind]
  simp only [hwalk, Logged.result_forM_eq_error, judge_eq_ok_iff, judge_eq_error_iff]
  constructor
  · rintro ⟨front, n, back, hsplit, hfront, fault, hfault, rfl⟩
    exact ⟨n, fault, ⟨front, back, hsplit, hfront, hfault⟩, rfl⟩
  · rintro ⟨n, fault, ⟨front, back, hsplit, hfront, hfault⟩, rfl⟩
    exact ⟨front, n, back, hsplit, hfront, fault, hfault, rfl⟩

theorem documentToRaw_result_eq_error {o : Options} {nodes : List Node} {e : ConversionError} :
    ((document nodes).documentToRaw o).result = .error e ↔
      ∃ n fault, FirstAtFault o nodes n fault ∧ e = ⟨fault, .slate n⟩ := by
  rw [← toRawAll_result_eq_error, documentToRaw_result_eq_map]
  cases (toRawAll o nodes).result <;> simp [Except.map]

theorem AtFault.ne_invalidParent {o : Options} {n : Node} {fault : ConversionFault}
    (h : AtFault o n fault) : fault ≠ .invalidParent := by
  cases h <;> exact nofun

/-- A conversion fails exactly if a live node is at fault, with the error of the first such node. -/
theorem documentToRaw_firstAtFault (o : Options) (nodes : List Node) :
    (∀ e, ((document nodes).documentToRaw o).result = .error e ↔
      ∃ n fault, FirstAtFault o nodes n fault ∧ e = ⟨fault, .slate n⟩) ∧
    ((∃ e, ((document nodes).documentToRaw o).result = .error e) ↔
      ∃ n ∈ liveAll nodes, ∃ fault, AtFault o n fault) ∧
    ∀ fragment, ((document nodes).documentToRaw o).result ≠ .error ⟨.invalidParent, fragment⟩ := by
  refine ⟨fun e => documentToRaw_result_eq_error, ?_, ?_⟩
  · constructor
    · rintro ⟨e, he⟩
      obtain ⟨n, fault, ⟨front, back, hsplit, -, hfault⟩, -⟩ :=
        documentToRaw_result_eq_error.mp he
      exact ⟨n, by simp [hsplit], fault, hfault⟩
    · rintro ⟨n, hn, fault, hfault⟩
      cases hresult : ((document nodes).documentToRaw o).result with
      | error e => exact ⟨e, rfl⟩
      | ok raw =>
        obtain ⟨_, hnodes, hjudge, -⟩ := documentToRaw_result_eq_ok.mp hresult
        obtain rfl := Node.document.inj hnodes
        exact absurd hfault (judge_eq_ok_iff.mp (hjudge n hn) fault)
  · intro fragment he
    obtain ⟨n, fault, ⟨front, back, -, -, hfault⟩, heq⟩ := documentToRaw_result_eq_error.mp he
    exact hfault.ne_invalidParent (congrArg ConversionError.fault heq).symm

/-- The unknown element below the first heading and the link at the end are not reported. -/
theorem documentToRaw_firstAtFault_heading :
    ((document [element "block_quote" (some [
        element "heading_one" (some [text "a" .none, element "aside" none .null]) .null,
        element "heading_two" (some []) .null]) .null,
      element "link" none .null]).documentToRaw Options.default).result =
    .error ⟨.malformed (.headingWithoutText "heading_two"),
      .slate (element "heading_two" (some []) .null)⟩ := by
  refine ((documentToRaw_firstAtFault Options.default _).1 _).mpr
    ⟨element "heading_two" (some []) .null, _, ?_, rfl⟩
  refine ⟨[element "block_quote" (some [
      element "heading_one" (some [text "a" .none, element "aside" none .null]) .null,
      element "heading_two" (some []) .null]) .null,
    element "heading_one" (some [text "a" .none, element "aside" none .null]) .null],
    [element "link" none .null], rfl, ?_, .headingWithoutText (by decide) (by simp)⟩
  rw [List.forall_mem_cons, List.forall_mem_singleton]
  exact ⟨judge_eq_ok_iff.mp rfl, judge_eq_ok_iff.mp rfl⟩

end SlateMark.Slate.Node
