import SlateMark.Proofs.Convert.Fault

/-!
What a forward conversion logs. A live node at fault reports nothing; any other reports at most one
thing, that it loses children. So the log is the record with the number of top nodes and then the
notices of the live nodes before the first one at fault, in document order.
-/
namespace SlateMark

/-- What the log holds of an event. -/
def Event.record (event : Event) : Level × String := (event.level, event.message)

namespace Slate.Node

/-- The elements without a place for children, with the tags of their targets. -/
def slotlessTargets : List (String × CommonMark.Tag) :=
  [("quote", .blockQuote), ("horizontal_rule", .thematicBreak), ("code_block", .codeBlock),
    ("html_block", .htmlBlock), ("html_inline", .htmlInline)]

/-- The record for a node that loses children: all of them where there is no place for any, all but
the first where a heading starts with a text. -/
def notice? (o : Options) : Node → Option (Level × String)
  | .element type (some nodes) _ =>
    match slotlessTargets.lookup type with
    | some target =>
      if o.childlessPolicy = .drop then
        some (.warning,
          s!"Dropping {nodes.length} child node(s) of '{type}': {target.name} has no children slot")
      else none
    | none =>
      match nodes with
      | .text _ _ :: _ :: _ =>
        if type ∈ headingElements ∧ o.strictHeadings = false then
          some (.debug, s!"'{type}' has {nodes.length} children; only the first is kept")
        else none
      | _ => none
  | _ => none

theorem notice?_of_container (o : Options) {type : String} (h : type ∈ containerElements)
    (nodes : Option (List Node)) (href : Json) : notice? o (element type nodes href) = none := by
  have hslot : ∀ type ∈ containerElements, slotlessTargets.lookup type = none := by decide
  have hheading : ∀ type ∈ containerElements, type ∉ headingElements := by decide
  cases nodes with
  | none => rfl
  | some nodes =>
    simp only [notice?, hslot type h, hheading type h, false_and, if_false]
    split <;> rfl

theorem notice?_of_heading (o : Options) {type : String} (h : type ∈ headingElements) (s : String)
    (marks : Marks) (rest : List Node) (href : Json) :
    notice? o (element type (some (text s marks :: rest)) href) =
      if rest ≠ [] ∧ o.strictHeadings = false then
        some (.debug, s!"'{type}' has {rest.length + 1} children; only the first is kept")
      else none := by
  have hslot : ∀ type ∈ headingElements, slotlessTargets.lookup type = none := by decide
  cases rest with
  | nil => simp [notice?, hslot type h]
  | cons next rest => simp [notice?, hslot type h, h]

/-- Nothing is dropped without being told. -/
theorem judge_log_leaf {o : Options} {type : String} {target : CommonMark.Node}
    (htarget : LeafTarget type target) {nodes : Option (List Node)} {href : Json}
    (h : ∀ fault, ¬ AtFault o (element type nodes href) fault) :
    (judge o (element type nodes href)).events.map Event.record =
      (notice? o (element type nodes href)).toList := by
  cases nodes with
  | none => cases htarget <;> rfl
  | some nodes =>
    have hdrop : o.childlessPolicy = .drop := by
      cases hpolicy : o.childlessPolicy with
      | error => exact absurd (.childrenWithoutSlot nodes htarget hpolicy) (h _)
      | drop => rfl
    obtain ⟨ns, xmlns, policy, strict, dotted⟩ := o
    obtain rfl : policy = .drop := hdrop
    cases htarget <;> rfl

theorem judge_log_container (o : Options) {type : String} (htype : type ∈ containerElements)
    (nodes : Option (List Node)) (href : Json) :
    (judge o (element type nodes href)).events.map Event.record =
      (notice? o (element type nodes href)).toList := by
  rw [notice?_of_container o htype]
  simp only [containerElements, List.mem_cons, List.not_mem_nil, or_false] at htype
  rcases htype with rfl | rfl | rfl | rfl | rfl | rfl
  case inr.inr.inr.inr.inr => cases href <;> rfl
  all_goals rfl

theorem judge_log_heading {o : Options} {type : String} (htype : type ∈ headingElements)
    {nodes : Option (List Node)} {href : Json}
    (h : ∀ fault, ¬ AtFault o (element type nodes href) fault) :
    (judge o (element type nodes href)).events.map Event.record =
      (notice? o (element type nodes href)).toList := by
  obtain ⟨s, marks, rest, rfl, hstrictly⟩ := exists_headingText_of_not_atFault htype h
  obtain ⟨m, level, hm, hlevel⟩ := Mapping.exists_headingLevel htype
  rw [judge_headingText o hm hlevel, notice?_of_heading o htype, Option.getD_some,
    Logged.events_bind_of_silent _ fun _ => rfl]
  cases hstrict : o.strictHeadings with
  | true =>
    obtain ⟨rfl, hbare⟩ := hstrictly hstrict
    simp [headingText, hstrict, hbare]
  | false =>
    cases rest with
    | nil => simp [headingText, hstrict]
    | cons next rest =>
      have hread : headingText o (element type (some (text s marks :: next :: rest)) href) type
          (text s marks :: next :: rest) =
            ⟨[.headingShortened type (rest.length + 2)], .ok s⟩ := by
        simp [headingText, hstrict, Logged.report]
      rw [hread, if_pos ⟨List.cons_ne_nil next rest, rfl⟩]
      rfl

/-- A live node that is not at fault reports its notice, if it has one. -/
theorem judge_log {o : Options} {n : Node} (h : ∀ fault, ¬ AtFault o n fault) :
    (judge o n).events.map Event.record = (notice? o n).toList := by
  cases n with
  | text s marks => rfl
  | document nodes => exact absurd (.nestedDocument nodes) (h _)
  | element type nodes href =>
    by_cases hknown : type ∈ headingElements ++ slotlessElements ++ containerElements
    · simp only [List.mem_append] at hknown
      rcases hknown with (htype | htype) | htype
      · exact judge_log_heading htype h
      · obtain ⟨target, htarget⟩ := exists_leafTarget htype
        exact judge_log_leaf htarget h
      · exact judge_log_container o htype nodes href
    · exact absurd (.unknownType hknown) (h _)

/-- The records of the live nodes before the first one at fault. -/
theorem forM_judge_log {o : Options} {front back : List Node}
    (hfront : ∀ m ∈ front, ∀ fault, ¬ AtFault o m fault)
    (hback : back = [] ∨ ∃ n rest fault, back = n :: rest ∧ AtFault o n fault) :
    (forM (front ++ back) (judge o)).events.map Event.record = front.filterMap (notice? o) := by
  have hpass : ∀ m ∈ front, (judge o m).result = .ok () := by
    intro m hm
    exact judge_eq_ok_iff.mpr (hfront m hm)
  have hsilent : (forM back (judge o)).events = [] := by
    rcases hback with rfl | ⟨n, rest, fault, rfl, hfault⟩
    · rfl
    · rw [Logged.events_forM_cons_of_error (judge_of_atFault hfault),
        judge_eq_fail_of_atFault hfault]
      rfl
  rw [Logged.events_forM_append hpass, hsilent, List.append_nil, List.map_flatMap,
    List.filterMap_eq_flatMap_toList]
  exact List.flatMap_congr fun m hm => judge_log (hfront m hm)

theorem documentToRaw_events (o : Options) (nodes : List Node) :
    ((document nodes).documentToRaw o).events =
      .slateConversion nodes.length :: (forM (liveAll nodes) (judge o)).events := by
  have hwalk : (toRawAll o nodes).events = (forM (liveAll nodes) (judge o)).events := by
    rw [toRawAll_eq_forM, Logged.events_bind_of_silent _ fun _ => rfl]
  rw [documentToRaw, Logged.events_bind_of_ok rfl, Logged.events_bind_of_silent _ fun _ => rfl,
    hwalk]
  rfl

/-- The live nodes split at the first one at fault, if there is one. -/
theorem exists_liveAll_split (o : Options) (nodes : List Node) :
    ∃ front back, liveAll nodes = front ++ back ∧
      (∀ m ∈ front, ∀ fault, ¬ AtFault o m fault) ∧
      ((back = [] ∧ ∃ raw, ((document nodes).documentToRaw o).result = .ok raw) ∨
        ∃ n rest fault, back = n :: rest ∧ AtFault o n fault ∧
          ((document nodes).documentToRaw o).result = .error ⟨fault, .slate n⟩) := by
  cases hresult : ((document nodes).documentToRaw o).result with
  | ok raw =>
    obtain ⟨_, hnodes, hpass, -⟩ := documentToRaw_result_eq_ok.mp hresult
    obtain rfl := Node.document.inj hnodes
    refine ⟨liveAll nodes, [], (List.append_nil _).symm, ?_, .inl ⟨rfl, raw, rfl⟩⟩
    intro m hm
    exact judge_eq_ok_iff.mp (hpass m hm)
  | error e =>
    obtain ⟨n, fault, ⟨front, back, hsplit, hfront, hfault⟩, rfl⟩ :=
      documentToRaw_result_eq_error.mp hresult
    exact ⟨front, n :: back, hsplit, hfront, .inr ⟨n, back, fault, rfl, hfault, rfl⟩⟩

/-- The log of a conversion tells the number of top nodes and then, of the live nodes before the
first one at fault, every one that loses children. All live nodes count if none is at fault. -/
theorem documentToRaw_log (o : Options) (nodes : List Node) :
    ∃ front back, liveAll nodes = front ++ back ∧
      (∀ m ∈ front, ∀ fault, ¬ AtFault o m fault) ∧
      ((back = [] ∧ ∃ raw, ((document nodes).documentToRaw o).result = .ok raw) ∨
        ∃ n rest fault, back = n :: rest ∧ AtFault o n fault ∧
          ((document nodes).documentToRaw o).result = .error ⟨fault, .slate n⟩) ∧
      ((document nodes).documentToRaw o).events.map Event.record =
        (.debug, s!"Converting Slate document with {nodes.length} top-level node(s)") ::
          front.filterMap (notice? o) := by
  obtain ⟨front, back, hsplit, hfront, hback⟩ := exists_liveAll_split o nodes
  refine ⟨front, back, hsplit, hfront, hback, ?_⟩
  have hend : back = [] ∨ ∃ n rest fault, back = n :: rest ∧ AtFault o n fault := by
    rcases hback with ⟨hnil, -⟩ | ⟨n, rest, fault, hcons, hfault, -⟩
    · exact .inl hnil
    · exact .inr ⟨n, rest, fault, hcons, hfault⟩
  rw [documentToRaw_events, hsplit, List.map_cons, forM_judge_log hfront hend]
  rfl

end Slate.Node

end SlateMark
