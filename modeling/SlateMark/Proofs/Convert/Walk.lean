import SlateMark.Convert.Forward
import SlateMark.Proofs.Convert.Table
import SlateMark.Proofs.Json.Fields
import SlateMark.Proofs.Log

/-!
The forward conversion taken apart. It is a walk over the live nodes in pre-order, which reports and
refuses at each of them by itself, followed by an image of the tree that depends on no option but
the namespace. Whatever the conversion reports, refuses or returns can be read off these two.
-/
namespace SlateMark.Slate.Node

theorem attachChildren_rawFields (ns : String) (tag : CommonMark.Tag) (attributes : Fields)
    (h : "nodes" ∉ Fields.names attributes) (children : List Json) :
    attachChildren (rawFields ns tag (attributes ++ [("nodes", .arr [])])) children =
      .ok (CommonMark.rawNode ns tag (attributes ++ [("nodes", .arr children)])) := by
  have hfront : "nodes" ∉ Fields.names (rawFields ns tag attributes) := by
    simpa [Fields.names, rawFields, classKey] using h
  have hget : Fields.get? (rawFields ns tag (attributes ++ [("nodes", .arr [])])) "nodes" =
      some (.arr []) :=
    Fields.get?_append_of_notMem (rawFields ns tag attributes) [("nodes", .arr [])] hfront
  have hset : Fields.set "nodes" (.arr children)
      (rawFields ns tag (attributes ++ [("nodes", .arr [])])) =
        rawFields ns tag (attributes ++ [("nodes", .arr children)]) :=
    Fields.set_append_of_notMem (.arr children) (rawFields ns tag attributes) [("nodes", .arr [])]
      hfront
  simp only [attachChildren, hget, List.nil_append, hset]
  rfl

/-- The text of the first run. -/
def leadingText : List Node → String
  | .text s _ :: _ => s
  | _ => ""

/-- The raw element, given the raw children. -/
def rawElement (ns : String) (type : String) (href : Json) (nodes : List Node)
    (children : List Json) : Json :=
  match Mapping.ofType? type with
  | none => .null
  | some m =>
    match m.headingLevel with
    | some level =>
      CommonMark.rawNode ns m.target [("level", .int level), ("text", .str (leadingText nodes))]
    | none =>
      let attributes := if m.copiesHref then ("destination", href) :: m.attributes else m.attributes
      if m.hasChildrenSlot then
        CommonMark.rawNode ns m.target (attributes ++ [("nodes", .arr
          (if m.seedsParagraph then [CommonMark.rawNode ns .paragraph [("nodes", .arr children)]]
           else children))])
      else CommonMark.rawNode ns m.target attributes

mutual
/-- The raw tree of a node in which nothing is wrong. -/
def rawImage (ns : String) : Node → Json
  | .text s marks => SlateMark.rawRun ns s marks
  | .element type none href => rawElement ns type href [] []
  | .element type (some nodes) href => rawElement ns type href nodes (rawImageAll ns nodes)
  | .document _ => .null

def rawImageAll (ns : String) : List Node → List Json
  | [] => []
  | n :: rest => n.rawImage ns :: rawImageAll ns rest
end

theorem rawImageAll_eq_map (ns : String) (nodes : List Node) :
    rawImageAll ns nodes = nodes.map (rawImage ns) := by
  induction nodes with
  | nil => rfl
  | cons n rest ih => simp [rawImageAll, ih]

/-- What the conversion reports and refuses at an element with this row, whatever stands below. -/
def judgeRow (o : Options) (m : Mapping) (type : String) (nodes : Option (List Node))
    (href : Json) : Conversion Unit :=
  let n := element type nodes href
  match m.headingLevel with
  | some _ => do
    let _ ← headingText o n type (nodes.getD [])
    return ()
  | none => do
    let _ ← .ofExcept (targetAttributes m n type href)
    if m.hasChildrenSlot then return ()
    else
      match nodes, o.childlessPolicy with
      | some _, .error => .fail ⟨.missingChildrenSlot m.target.name, .slate n⟩
      | some dropped, .drop => .report (.childrenDropped dropped.length type m.target)
      | none, _ => return ()

def judge (o : Options) : Node → Conversion Unit
  | .text _ _ => pure ()
  | .element type nodes href =>
    match Mapping.ofType? type with
    | none => .fail (element type nodes href).unrecognized
    | some m => judgeRow o m type nodes href
  | .document nodes => .fail (document nodes).unrecognized

/-- A heading is judged by reading its text. -/
theorem judge_headingText (o : Options) {type : String} {m : Mapping} {level : Int}
    (hm : Mapping.ofType? type = some m) (hlevel : m.headingLevel = some level)
    (nodes : Option (List Node)) (href : Json) :
    judge o (element type nodes href) =
      headingText o (element type nodes href) type (nodes.getD []) >>= fun _ => pure () := by
  simp only [judge, hm, judgeRow, hlevel]

theorem judge_heading_result (o : Options) {type : String} {m : Mapping} {level : Int}
    (hm : Mapping.ofType? type = some m) (hlevel : m.headingLevel = some level)
    (nodes : Option (List Node)) (href : Json) :
    (judge o (element type nodes href)).result =
      (headingText o (element type nodes href) type (nodes.getD [])).result.map fun _ => () := by
  rw [judge_headingText o hm hlevel, Logged.result_bind]
  cases (headingText o (element type nodes href) type (nodes.getD [])).result <;> rfl

theorem rawImage_element (ns : String) (type : String) (nodes : Option (List Node)) (href : Json) :
    (element type nodes href).rawImage ns =
      rawElement ns type href (nodes.getD []) (rawImageAll ns (nodes.getD [])) := by
  cases nodes <;> rfl

theorem toRaw_element (o : Options) (type : String) (nodes : Option (List Node)) (href : Json) :
    (element type nodes href).toRaw o =
      elementToRaw o type nodes href (toRawAll o (nodes.getD [])) := by
  cases nodes <;> rfl

theorem toRawAll_eq_of_forall {o : Options} {nodes : List Node}
    (h : ∀ n ∈ nodes, n.toRaw o = do forM n.live (judge o); return n.rawImage o.ns) :
    toRawAll o nodes = do forM (liveAll nodes) (judge o); return rawImageAll o.ns nodes := by
  induction nodes with
  | nil => rfl
  | cons n rest ih =>
    obtain ⟨hn, hrest⟩ := List.forall_mem_cons.mp h
    simp only [toRawAll, hn, ih hrest, liveAll, rawImageAll, List.forM_append, bind_assoc,
      pure_bind]

theorem headingText_bind {α : Type} (o : Options) (n : Node) (type : String) (nodes : List Node)
    (next : String → Conversion α) :
    headingText o n type nodes >>= next =
      headingText o n type nodes >>= fun _ => next (leadingText nodes) := by
  unfold headingText
  split
  case h_1 s marks rest =>
    split
    · split
      · split <;> rfl
      · rfl
    · split <;> rfl
  case h_2 => rfl

theorem targetAttributes_bind {α : Type} (m : Mapping) (n : Node) (type : String) (href : Json)
    (next : Fields → Conversion α) :
    Logged.ofExcept (targetAttributes m n type href) >>= next =
      Logged.ofExcept (targetAttributes m n type href) >>= fun _ =>
        next (if m.copiesHref then ("destination", href) :: m.attributes else m.attributes) := by
  unfold targetAttributes
  split
  · split <;> rfl
  · rfl

theorem assemble_eq_ok (ns : String) (m : Mapping) {attributes : Fields}
    (h : "nodes" ∉ Fields.names attributes) (children : List Json) :
    assemble ns m attributes children =
      .ok (CommonMark.rawNode ns m.target (attributes ++ [("nodes", .arr
        (if m.seedsParagraph then [CommonMark.rawNode ns .paragraph [("nodes", .arr children)]]
         else children))])) := by
  unfold assemble
  split
  · have hseed := attachChildren_rawFields ns .paragraph [] (by simp [Fields.names]) children
    rw [List.nil_append] at hseed
    simp only [hseed, List.nil_append]
  · exact attachChildren_rawFields ns m.target attributes h children

theorem elementToRaw_eq (o : Options) (type : String) (nodes : Option (List Node)) (href : Json)
    (images : List Json) :
    elementToRaw o type nodes href
        (do forM (liveAll (nodes.getD [])) (judge o); return images) = do
      judge o (element type nodes href)
      forM (liveAll (element type nodes href).liveChildren) (judge o)
      return rawElement o.ns type href (nodes.getD []) images := by
  cases hm : Mapping.ofType? type with
  | none => simp only [elementToRaw, judge, hm]; rfl
  | some m =>
    have hslot : m.hasChildrenSlot = keepsChildren type := Mapping.hasChildrenSlot_eq hm
    cases hlevel : m.headingLevel with
    | some level =>
      have hstop : (element type nodes href).liveChildren = [] := by
        simp [liveChildren, Mapping.keepsChildren_eq_false hm hlevel]
      simp only [elementToRaw, rawElement, judge, judgeRow, hm, hlevel, hstop, liveAll,
        List.forM_nil, bind_assoc, pure_bind]
      exact headingText_bind o _ type (nodes.getD []) _
    | none =>
      simp only [elementToRaw, rawElement, judge, judgeRow, hm, hlevel, bind_assoc]
      rw [targetAttributes_bind]
      refine bind_congr fun _ => ?_
      cases hkeeps : m.hasChildrenSlot with
      | true =>
        have hgo : (element type nodes href).liveChildren = nodes.getD [] := by
          simp [liveChildren, ← hslot, hkeeps]
        simp only [if_true, hgo, pure_bind]
        refine bind_congr fun _ => ?_
        rw [assemble_eq_ok o.ns m (Mapping.nodes_notMem_targetAttributes hm href)]
        rfl
      | false =>
        have hstop : (element type nodes href).liveChildren = [] := by
          simp [liveChildren, ← hslot, hkeeps]
        simp only [hstop, liveAll, List.forM_nil, pure_bind]
        cases nodes with
        | none => rfl
        | some nodes => cases o.childlessPolicy <;> rfl

/-- The conversion judges the live nodes in pre-order and then returns the image of the tree. -/
theorem toRaw_eq_forM (o : Options) (n : Node) :
    n.toRaw o = do forM n.live (judge o); return n.rawImage o.ns := by
  induction n using induct_children with
  | step n ih =>
    rw [live_eq, List.forM_cons]
    cases n with
    | text s marks => rfl
    | element type nodes href =>
      have hchildren : toRawAll o (nodes.getD []) =
          do forM (liveAll (nodes.getD [])) (judge o); return rawImageAll o.ns (nodes.getD []) :=
        toRawAll_eq_of_forall ih
      rw [toRaw_element, hchildren, elementToRaw_eq, rawImage_element, bind_assoc]
    | document nodes => rfl

theorem toRawAll_eq_forM (o : Options) (nodes : List Node) :
    toRawAll o nodes = do forM (liveAll nodes) (judge o); return rawImageAll o.ns nodes :=
  toRawAll_eq_of_forall fun n _ => toRaw_eq_forM o n

theorem toRawAll_result_eq_ok {o : Options} {nodes : List Node} {items : List Json} :
    (toRawAll o nodes).result = .ok items ↔
      (∀ m ∈ liveAll nodes, (judge o m).result = .ok ()) ∧ items = rawImageAll o.ns nodes := by
  rw [toRawAll_eq_forM, Logged.result_bind, ← Logged.result_forM_eq_ok]
  cases (forM (liveAll nodes) (judge o)).result with
  | error e => simp [bind, Except.bind]
  | ok _ => simp [bind, Except.bind, eq_comm]

end SlateMark.Slate.Node
