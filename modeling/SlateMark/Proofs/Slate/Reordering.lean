import SlateMark.Error
import SlateMark.Proofs.CommonMark.Reordering
import SlateMark.Proofs.Slate.Grammar

/-!
Slate documents whose members stand in another order. They are read with the same events, and
refused at the same stage or read as documents that are alike. A text or a type that is no string is
stored as it is displayed, members in their order, so documents are alike only if all are strings.
-/
namespace SlateMark

/-- A JSON string. -/
def Json.IsString (v : Json) : Prop := ∃ s, v = .str s

namespace Slate

/-- The same tree, but for the order of members in references. -/
inductive Node.Alike : Node → Node → Prop
  | text (text : String) (marks : Marks) : Alike (.text text marks) (.text text marks)
  | undeclared (type : String) {href href' : Json} (hhref : href.Reordered href') :
      Alike (.element type none href) (.element type none href')
  | declared (type : String) {nodes nodes' : List Node} {href href' : Json}
      (hnodes : List.Forall₂ Alike nodes nodes') (hhref : href.Reordered href') :
      Alike (.element type (some nodes) href) (.element type (some nodes') href')
  | document {nodes nodes' : List Node} (hnodes : List.Forall₂ Alike nodes nodes') :
      Alike (.document nodes) (.document nodes')

/-- The second value is read as text or as a type when the first is read as a node. -/
inductive ReadAsText : Json → Json → Prop
  | own {fields : Fields} {text : Json}
      (hobject : Fields.get? fields "object" = some (.str "text"))
      (hleaves : Fields.get? fields "leaves" = none)
      (htext : Fields.get? fields "text" = some text) : ReadAsText (.obj fields) text
  | leaf {fields leaf : Fields} {items : List Json} {text : Json}
      (hobject : Fields.get? fields "object" = some (.str "text"))
      (hleaves : Fields.get? fields "leaves" = some (.arr items)) (hleaf : .obj leaf ∈ items)
      (htext : Fields.get? leaf "text" = some text) : ReadAsText (.obj fields) text
  | type {fields : Fields} {type : Json} (helement : IsElement fields type) :
      ReadAsText (.obj fields) type
  | inner {fields : Fields} {items : List Json} {type child text : Json}
      (helement : IsElement fields type)
      (hnodes : Fields.get? fields "nodes" = some (.arr items)) (hchild : child ∈ items)
      (htext : ReadAsText child text) : ReadAsText (.obj fields) text

/-- All values that are read as text or as a type below a node are strings. -/
def StringsIn (v : Json) : Prop := ∀ text, ReadAsText v text → text.IsString

def StringsBelow (fields : Fields) : Prop :=
  ∀ items, Fields.get? fields "nodes" = some (.arr items) → ∀ child ∈ items, StringsIn child

/-- All values that are read as text or as a type in a document are strings. -/
def StringsInDocument (v : Json) : Prop := ∀ fields, document? v = some fields → StringsBelow fields

def SameStage (e e' : ParsingError) : Prop := e'.stage = e.stage

/-- Both readings report the same and fail at the same stage, or their results are related. -/
abbrev SameReading {α : Type} (R : α → α → Prop) : Reading α → Reading α → Prop :=
  Logged.Alike SameStage R

/-- The same nodes, given the condition. It stands with the nodes and not before the reading, whose
events and failures do not depend on it. -/
def AlikeGiven (c : Prop) (nodes nodes' : List Node) : Prop :=
  c → List.Forall₂ Node.Alike nodes nodes'

/-- The same list of children or none, given the condition. -/
def ChildrenAlikeGiven (c : Prop) (nodes? nodes?' : Option (List Node)) : Prop :=
  c → Option.Rel (List.Forall₂ Node.Alike) nodes? nodes?'

theorem plainText_eq_of_reordered {v w : Json} (hv : v.IsString) (h : v.Reordered w) :
    w.plainText = v.plainText := by
  obtain ⟨s, rfl⟩ := hv
  cases h
  rfl

theorem markName?_eq_of_reordered {v w : Json} (h : v.Reordered w) :
    markName? w = markName? v := by
  cases h with
  | refl => rfl
  | arr => rfl
  | @obj fields fields' hnames hvalues =>
    have hfields : fields.Reordered fields' := ⟨hnames, hvalues⟩
    rw [markName?, markName?]
    rcases hfields.lookup_cases "type" with ⟨hv, hv'⟩ | ⟨type, type', hv, hv', hrel⟩
    · rw [hv, hv']
    · rw [hv, hv']
      cases hrel <;> rfl

theorem eq_arr_of_mem_listed? {v? : Option Json} {items : List Json} {v : Json}
    (hlist : listed? v? = some items) (hv : v ∈ items) : v? = some (.arr items) := by
  cases v? with
  | none =>
    obtain rfl := Option.some.inj hlist
    cases hv
  | some list =>
    cases list with
    | arr items' => rw [Option.some.inj hlist]
    | _ =>
      simp only [listed?] at hlist
      split at hlist
      · cases hlist
      · obtain rfl := Option.some.inj hlist
        cases hv

theorem listed?_of_reordered {v? v?' : Option Json} (h : Option.Rel Json.Reordered v? v?') :
    Option.Rel (List.Forall₂ Json.Reordered) (listed? v?) (listed? v?') := by
  cases h with
  | none => exact .some .nil
  | @some v w hrel =>
    have hcontent := hrel.hasContent_eq
    cases hrel with
    | refl =>
      cases listed? (some v) with
      | none => exact .none
      | some items => exact .some (List.forall₂_same.mpr fun item _ => .refl item)
    | arr hitems => exact .some hitems
    | obj =>
      simp only [listed?, hcontent]
      split
      · exact .none
      · exact .some .nil

theorem readListed_same {α : Type} {R : α → α → Prop} {notAList : String → ParsingError}
    {readItems : List Json → Reading α} {v? v?' : Option Json}
    (h : Option.Rel Json.Reordered v? v?')
    (hstage : ∀ found found', SameStage (notAList found) (notAList found'))
    (hitems : ∀ items items', listed? v? = some items → List.Forall₂ Json.Reordered items items' →
      SameReading R (readItems items) (readItems items')) :
    SameReading R (readListed notAList readItems v?) (readListed notAList readItems v?') := by
  have hlisted := listed?_of_reordered h
  unfold readListed
  cases hlist : listed? v? with
  | none =>
    rw [hlist] at hlisted
    generalize listed? v?' = other at hlisted
    cases hlisted
    exact .fail (hstage _ _)
  | some items =>
    rw [hlist] at hlisted
    generalize listed? v?' = other at hlisted
    cases hlisted with
    | some hrel => exact hitems items _ hlist hrel

section Members

variable {fields fields' : Fields}

theorem require_same (part : SlatePart) (field : String) (h : fields.Reordered fields') :
    SameReading (fun v w => Fields.get? fields field = some v ∧ v.Reordered w)
      (require part field fields) (require part field fields') := by
  unfold require
  rcases h.lookup_cases field with ⟨hv, hv'⟩ | ⟨v, v', hv, hv', hrel⟩
  · rw [hv, hv']
    exact .fail rfl
  · rw [hv, hv']
    exact .pure ⟨rfl, hrel⟩

theorem readMarksFrom_same (marks : Marks) {items items' : List Json}
    (h : List.Forall₂ Json.Reordered items items') :
    SameReading Eq (readMarksFrom marks items) (readMarksFrom marks items') := by
  induction h generalizing marks with
  | nil => exact .pure rfl
  | @cons v w rest rest' hhead _ ih =>
    rw [readMarksFrom, readMarksFrom, markName?_eq_of_reordered hhead]
    cases markName? v with
    | none => exact .fail rfl
    | some name =>
      dsimp only
      cases marks.add? name with
      | none => exact (Logged.Alike.report _).bind fun _ _ _ => ih marks
      | some marks' => exact ih marks'

theorem readRun_same (part : SlatePart) (h : fields.Reordered fields') :
    SameReading (fun run run' =>
        (∀ text, Fields.get? fields "text" = some text → text.IsString) → run.Alike run')
      (readRun part fields) (readRun part fields') := by
  refine (require_same part "text" h).bind fun text text' htext => ?_
  have hmarks : SameReading Eq (readMarks (Fields.get? fields "marks"))
      (readMarks (Fields.get? fields' "marks")) := by
    rw [readMarks_eq, readMarks_eq]
    exact readListed_same (h.lookup "marks") (fun _ _ => rfl)
      fun items items' _ hitems => readMarksFrom_same .none hitems
  refine hmarks.bind fun marks marks' heq => .pure fun hstrings => ?_
  subst heq
  rw [plainText_eq_of_reordered (hstrings text htext.1) htext.2]
  exact .text _ _

theorem readLeaves_same {items items' : List Json}
    (h : List.Forall₂ Json.Reordered items items') :
    SameReading (AlikeGiven (∀ leaf text, .obj leaf ∈ items →
        Fields.get? leaf "text" = some text → text.IsString))
      (readLeaves items) (readLeaves items') := by
  induction h with
  | nil => exact .pure fun _ => .nil
  | @cons v w rest rest' hhead _ ih =>
    cases v with
    | obj leaf =>
      obtain ⟨leaf', rfl, hleaf⟩ := hhead.exists_obj
      refine (readRun_same .leaf hleaf).bind fun run run' hrun => ?_
      refine ih.bind fun runs runs' hruns => .pure fun hstrings => ?_
      have hfirst := hrun fun text htext => hstrings leaf text List.mem_cons_self htext
      have hmore := hruns fun leaf text hmem => hstrings leaf text (List.mem_cons_of_mem _ hmem)
      exact .cons hfirst hmore
    | arr items =>
      obtain ⟨items', rfl, -⟩ := hhead.exists_arr
      exact .fail rfl
    | _ =>
      cases hhead
      exact .fail rfl

theorem readText_same (h : fields.Reordered fields')
    (hobject : Fields.get? fields "object" = some (.str "text")) :
    SameReading (AlikeGiven (StringsIn (.obj fields))) (readText fields) (readText fields') := by
  rcases h.lookup_cases "leaves" with ⟨hleaves, hleaves'⟩ | ⟨v, v', hleaves, hleaves', hrel⟩
  · rw [readText_run hleaves, readText_run hleaves']
    refine (readRun_same .textNode h).bind fun run run' hrun => .pure fun hstrings => ?_
    have hown := hrun fun text htext => hstrings text (.own hobject hleaves htext)
    exact .cons hown .nil
  · rw [readText_eq_of_leaves hleaves, readText_eq_of_leaves hleaves']
    refine readListed_same (.some hrel) (fun _ _ => rfl) fun items items' hlist hitems => ?_
    cases hitems with
    | nil => exact .pure fun _ => .cons (.text "" .none) .nil
    | @cons leaf leaf' rest rest' hhead htail =>
      have harr := hleaves.trans (eq_arr_of_mem_listed? hlist List.mem_cons_self)
      have hread := readLeaves_same (.cons hhead htail)
      exact hread.mono fun runs runs' hruns hstrings => hruns fun leaf text hmem htext =>
        hstrings text (.leaf hobject harr hmem htext)

theorem hrefOf_reordered (h : fields.Reordered fields') :
    (hrefOf fields).Reordered (hrefOf fields') := by
  unfold hrefOf
  rcases h.lookup_cases "data" with ⟨hv, hv'⟩ | ⟨v, v', hv, hv', hrel⟩
  · rw [hv, hv']
    exact .refl .null
  · rw [hv, hv']
    cases hrel with
    | refl => exact .refl _
    | arr => exact .refl .null
    | @obj data data' hnames hvalues =>
      have hdata : data.Reordered data' := ⟨hnames, hvalues⟩
      dsimp only
      rcases hdata.lookup_cases "href" with ⟨hhref, hhref'⟩ | ⟨href, href', hhref, hhref', hrel⟩
      · rw [hhref, hhref']
        exact .refl .null
      · rw [hhref, hhref']
        exact hrel

theorem readObject_same {children children' : Reading (Option (List Node))} {c : Prop}
    (h : fields.Reordered fields') (hchildren : SameReading (ChildrenAlikeGiven c) children children')
    (hc : ∀ type, IsElement fields type → StringsIn (.obj fields) → c) :
    SameReading (AlikeGiven (StringsIn (.obj fields))) (readObject fields children)
      (readObject fields' children') := by
  have helement (hkind : Fields.get? fields "object" = some (.str "block") ∨
      Fields.get? fields "object" = some (.str "inline")) :
      SameReading (AlikeGiven (StringsIn (.obj fields))) (readObject.element fields children)
        (readObject.element fields' children') := by
    refine (require_same .element "type" h).bind fun type type' hfound => ?_
    obtain ⟨htype, hrel⟩ := hfound
    refine hchildren.bind fun nodes? nodes?' hnodes => .pure fun hstrings => ?_
    have hself : IsElement fields type := ⟨hkind, htype⟩
    rw [plainText_eq_of_reordered (hstrings type (.type hself)) hrel]
    cases hnodes (hc type hself hstrings) with
    | none => exact .cons (.undeclared _ (hrefOf_reordered h)) .nil
    | some hlists => exact .cons (.declared _ hlists (hrefOf_reordered h)) .nil
  refine (require_same .node "object" h).bind fun object object' hfound => ?_
  obtain ⟨hobject, hrel⟩ := hfound
  cases hrel with
  | refl =>
    split
    case h_1 => exact readText_same h hobject
    case h_2 => exact helement (.inl hobject)
    case h_3 => exact helement (.inr hobject)
    case h_4 => exact .fail rfl
  | arr => exact .fail rfl
  | obj => exact .fail rfl

end Members

section Nodes

variable {fields fields' : Fields}

/-- Both values are read as nodes that are the same. -/
abbrev SameNodes (v w : Json) : Prop :=
  SameReading (AlikeGiven (StringsIn v)) (readNode v) (readNode w)

theorem readNodes_same {items items' : List Json} (h : List.Forall₂ SameNodes items items') :
    SameReading (AlikeGiven (∀ v ∈ items, StringsIn v)) (readNodes items) (readNodes items') := by
  induction h with
  | nil => exact .pure fun _ => .nil
  | cons hhead _ ih =>
    rw [readNodes, readNodes]
    refine hhead.bind fun nodes nodes' hnodes => ?_
    refine ih.bind fun more more' hmore => .pure fun hstrings => ?_
    obtain ⟨hv, hrest⟩ := List.forall_mem_cons.mp hstrings
    exact List.rel_append (hnodes hv) (hmore hrest)

theorem readChildrenOf_same (h : fields.Reordered fields')
    (hitems : ∀ items items', Fields.get? fields "nodes" = some (.arr items) →
      List.Forall₂ Json.Reordered items items' → List.Forall₂ SameNodes items items') :
    SameReading (ChildrenAlikeGiven (StringsBelow fields)) (readChildrenOf fields)
      (readChildrenOf fields') := by
  rw [readChildrenOf_eq, readChildrenOf_eq]
  rcases h.lookup_cases "nodes" with ⟨hv, hv'⟩ | ⟨v, v', hv, hv', hrel⟩
  · rw [hv, hv']
    exact .pure fun _ => .none
  · rw [hv, hv']
    cases v with
    | null =>
      cases hrel
      exact .pure fun _ => .none
    | arr items =>
      obtain ⟨items', rfl, hrelated⟩ := hrel.exists_arr
      have hread := readNodes_same (hitems items items' hv hrelated)
      exact hread.map fun _ _ hnodes hstrings => .some (hnodes (hstrings items hv))
    | obj inner =>
      obtain ⟨inner', rfl, -⟩ := hrel.exists_obj
      exact .fail rfl
    | _ =>
      cases hrel
      exact .fail rfl

theorem readNode_same {v w : Json} (h : v.Reordered w) : SameNodes v w := by
  induction v using Json.induct_items generalizing w with
  | other v hother =>
    have hother' : ∀ fields, w ≠ .obj fields := by
      rintro fields rfl
      cases h with
      | refl => exact hother _ rfl
      | obj => exact hother _ rfl
    rw [SameNodes, readNode_of_not_obj hother, readNode_of_not_obj hother']
    exact .fail rfl
  | object fields ih =>
    obtain ⟨fields', rfl, hfields⟩ := h.exists_obj
    have hchildren := readChildrenOf_same hfields fun items items' hnodes hitems =>
      Json.Reordered.forall₂_of_mem hitems fun c hc _ => ih "nodes" items hnodes c hc
    rw [SameNodes, readNode, readNode]
    exact readObject_same hfields hchildren fun type helement hstrings items hnodes child hchild
      text htext => hstrings text (.inner helement hnodes hchild htext)

end Nodes

section Documents

variable {fields fields' : Fields}

theorem isMember_eq_of_reordered (name s : String) (h : fields.Reordered fields') :
    isMember fields' name s = isMember fields name s := by
  unfold isMember
  rcases h.lookup_cases name with ⟨hv, hv'⟩ | ⟨v, v', hv, hv', hrel⟩
  · rw [hv, hv']
  · rw [hv, hv']
    cases hrel <;> rfl

theorem isEnvelope_eq_of_reordered (h : fields.Reordered fields') :
    isEnvelope fields' = isEnvelope fields := by
  rw [isEnvelope, isEnvelope, isMember_eq_of_reordered _ _ h, h.has_eq, h.has_eq]

theorem documentFields_same (h : fields.Reordered fields') :
    SameReading (fun inner inner' => document? (.obj fields) = some inner ∧ inner.Reordered inner')
      (documentFields fields) (documentFields fields') := by
  rw [documentFields_eq, documentFields_eq, isEnvelope_eq_of_reordered h, document?]
  cases isEnvelope fields with
  | false => exact .pure ⟨rfl, h⟩
  | true =>
    refine (require_same .value "document" h).bind fun v w hfound => ?_
    obtain ⟨hv, hrel⟩ := hfound
    cases v with
    | obj inner =>
      obtain ⟨inner', rfl, hinner⟩ := hrel.exists_obj
      refine .pure ⟨?_, hinner⟩
      rw [if_pos rfl, hv]
    | arr items =>
      obtain ⟨items', rfl, -⟩ := hrel.exists_arr
      exact .fail rfl
    | _ =>
      cases hrel
      exact .fail rfl

theorem readTopNodes_same (h : fields.Reordered fields') :
    SameReading (AlikeGiven (StringsBelow fields)) (readTopNodes fields) (readTopNodes fields') := by
  rw [readTopNodes_eq, readTopNodes_eq]
  refine readListed_same (h.lookup "nodes") (fun _ _ => rfl) fun items items' hlist hitems => ?_
  have hread := readNodes_same (hitems.imp fun _ _ => readNode_same)
  exact hread.mono fun nodes nodes' hnodes hstrings => hnodes fun v hv =>
    hstrings items (eq_arr_of_mem_listed? hlist hv) v hv

theorem readBare_same (h : fields.Reordered fields') :
    SameReading (fun d d' => StringsBelow fields → d.Alike d') (readBare fields)
      (readBare fields') := by
  have htop := readTopNodes_same h
  have hread : SameReading (fun d d' => StringsBelow fields → Node.Alike d d')
      (readTopNodes fields >>= fun nodes => pure (Node.document nodes))
      (readTopNodes fields' >>= fun nodes => pure (Node.document nodes)) :=
    htop.bind fun nodes nodes' hnodes => .pure fun hstrings => .document (hnodes hstrings)
  unfold readBare
  rcases h.lookup_cases "object" with ⟨hv, hv'⟩ | ⟨v, v', hv, hv', hrel⟩
  · rw [hv, hv']
    exact hread
  · rw [hv, hv']
    cases hrel with
    | refl =>
      split
      case h_1 => exact hread
      case h_2 => exact hread
      case h_3 => exact .fail rfl
    | arr => exact .fail rfl
    | obj => exact .fail rfl

theorem readDocument_same {v w : Json} (h : v.Reordered w) :
    SameReading (fun d d' => StringsInDocument v → d.Alike d') (readDocument v)
      (readDocument w) := by
  cases v with
  | obj fields =>
    obtain ⟨fields', rfl, hfields⟩ := h.exists_obj
    have hread : ∀ fields, readDocument (.obj fields) = documentFields fields >>= readBare :=
      fun _ => rfl
    rw [hread, hread]
    refine (documentFields_same hfields).bind fun inner inner' hfound => ?_
    obtain ⟨hinner, hrel⟩ := hfound
    exact (readBare_same hrel).mono fun d d' hd hstrings => hd (hstrings inner hinner)
  | arr items =>
    obtain ⟨items', rfl, -⟩ := h.exists_arr
    exact .fail rfl
  | _ =>
    cases h
    exact .fail rfl

end Documents

/-- The order of members never matters. As a raw tree both values are read as the same or refused
with the same report. As a Slate document both are read with the same events, and refused at the
same stage or read as documents that are alike if all their texts and types are strings. -/
theorem readings_of_reordered {v w : Json} (h : v.Reordered w) (ns : String) :
    SameOutcome CommonMark.SameReport Eq (CommonMark.Node.ofRaw ns v) (CommonMark.Node.ofRaw ns w) ∧
      SameReading (fun d d' => StringsInDocument v → d.Alike d') (readDocument v)
        (readDocument w) := by
  have htree := CommonMark.Node.ofRaw_same ns h
  exact ⟨htree.mono (fun _ _ he => he.report) fun _ _ heq => heq, readDocument_same h⟩

/-- A document in another order around a reference in another order. -/
theorem readings_of_reordered_link :
    let note : Json := .obj [("object", .str "text"), ("text", .str "a"), ("marks", .str "")]
    let link (href : Json) : Json := .obj [("object", .str "inline"), ("type", .str "link"),
      ("data", .obj [("href", href)]), ("nodes", .arr [note])]
    let href : Json := .obj [("b", .null), ("c", .int 1)]
    let href' : Json := .obj [("c", .int 1), ("b", .null)]
    let v : Json := .obj [("object", .str "document"), ("nodes", .arr [link href])]
    let w : Json := .obj [("nodes", .arr [link href']), ("object", .str "document")]
    let d (href : Json) : Node :=
      .document [.element "link" (some [.text "a" .none]) href]
    v.Reordered w ∧ StringsInDocument v ∧
      SameOutcome CommonMark.SameReport Eq (CommonMark.Node.ofRaw "a" v)
        (CommonMark.Node.ofRaw "a" w) ∧
      (readDocument v).result = .ok (d href) ∧ (readDocument w).result = .ok (d href') ∧
      (d href).Alike (d href') := by
  intro note link href href' v w d
  have hhref : href.Reordered href' := .of_perm [("b", .null), ("c", .int 1)] (by decide)
    (List.forall₂_same.mpr fun _ _ => ⟨rfl, .refl _⟩) (.swap _ _ _)
  have hlink : (link href).Reordered (link href') := by
    refine .of_perm _ (by decide) ?_ (.refl _)
    refine .cons ⟨rfl, .refl _⟩ (.cons ⟨rfl, .refl _⟩ (.cons ⟨rfl, ?_⟩ ?_))
    · exact .of_perm [("href", href')] (by decide) (.cons ⟨rfl, hhref⟩ .nil) (.refl _)
    · exact .cons ⟨rfl, .refl _⟩ .nil
  have h : v.Reordered w :=
    .of_perm [("object", .str "document"), ("nodes", .arr [link href'])] (by decide)
      (.cons ⟨rfl, .refl _⟩ (.cons ⟨rfl, .arr (.cons hlink .nil)⟩ .nil)) (.swap _ _ _)
  have hnote : StringsIn note := by
    intro text htext
    dsimp only [note] at htext
    cases htext with
    | own _ _ htext => exact ⟨"a", (Option.some.inj htext).symm⟩
    | leaf _ hleaves => simp [Fields.get?] at hleaves
    | type helement =>
      have htype := helement.type
      simp [Fields.get?] at htype
    | inner _ hnodes => simp [Fields.get?] at hnodes
  have hlinkStrings : StringsIn (link href) := by
    intro text htext
    dsimp only [link] at htext
    cases htext with
    | own hobject => simp [Fields.get?] at hobject
    | leaf hobject => simp [Fields.get?] at hobject
    | type helement => exact ⟨"link", (Option.some.inj helement.type).symm⟩
    | inner _ hnodes hchild htext =>
      obtain rfl := Json.arr.inj (Option.some.inj hnodes)
      obtain rfl := List.mem_singleton.mp hchild
      exact hnote _ htext
  have hstrings : StringsInDocument v := by
    intro fields hfields items hitems child hchild
    obtain rfl := Option.some.inj hfields
    obtain rfl := Json.arr.inj (Option.some.inj hitems)
    obtain rfl := List.mem_singleton.mp hchild
    exact hlinkStrings
  obtain ⟨htree, -, hresult⟩ := readings_of_reordered h "a"
  have hv : (readDocument v).result = .ok (d href) := rfl
  have hw : (readDocument w).result = .ok (d href') := rfl
  rw [hv, hw] at hresult
  cases hresult with
  | ok hd => exact ⟨h, hstrings, htree, hv, hw, hd hstrings⟩

end Slate

end SlateMark
