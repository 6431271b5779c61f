import SlateMark.Convert.RoundTrip
import SlateMark.Proofs.Convert.Correspondence

/-!
The raw and the typed result of a forward conversion. The schema accepts what the conversion has
written and yields the tree that corresponds to the document, whose raw form is what was written.
The one exception is a reference that is no text, which is copied without a look at it.
-/
namespace SlateMark

namespace Slate.Node

theorem ofRaw_rawElement_rejected (ns : String) {type : String} {href : Json}
    {wrap : List CommonMark.Node → CommonMark.Node} (hwrap : Wraps type href wrap)
    (nodes : List Node) {keys : List String} {children : List Json}
    (h : CommonMark.RejectedFor keys (CommonMark.Node.ofRawFrom ns 0 children)) :
    CommonMark.RejectedFor keys
      (CommonMark.Node.ofRaw ns (rawElement ns type href nodes children)) := by
  have around : ∀ (n : CommonMark.Node) (items : List Json), n.children?.isSome → n.ValuesInRange →
      CommonMark.RejectedFor keys (CommonMark.Node.ofRawFrom ns 0 items) →
      CommonMark.RejectedFor keys (CommonMark.Node.ofRaw ns (n.rawAround ns items)) := by
    intro n items hn hrange hitems
    rw [CommonMark.Node.ofRaw_rawAround_container ns hn hrange]
    exact hitems.map n.withChildren
  cases hwrap with
  | paragraph => exact around (.paragraph []) children rfl trivial h
  | blockQuote => exact around (.blockQuote (some [])) children rfl trivial h
  | orderedList => exact around (.list "ordered" true []) children rfl (.inl rfl) h
  | bulletList => exact around (.list "bullet" true []) children rfl (.inr rfl) h
  | item =>
    have hparagraph := around (.paragraph []) children rfl trivial h
    apply around (.item []) [(CommonMark.Node.paragraph []).rawAround ns children] rfl trivial
    exact CommonMark.Node.ofRawFrom_rejected (by simpa using .inr hparagraph)
      (by simpa using hparagraph) 0
  | link s => exact around (.link s "" []) children rfl trivial h

theorem ofRaw_rawElement_link (ns : String) {href : Json} (h : ¬ ∃ s, href = .str s)
    (nodes : List Node) (children : List Json) :
    CommonMark.RejectedFor ["destination"]
      (CommonMark.Node.ofRaw ns (rawElement ns "link" href nodes children)) := by
  have himage : rawElement ns "link" href nodes children = CommonMark.rawNode ns .link
      [("destination", href), ("title", .str ""), ("nodes", .arr children)] := rfl
  have hread : CommonMark.readString "destination"
      ((classKey, .str (CommonMark.Tag.link.className ns)) ::
        [("destination", href), ("title", .str ""), ("nodes", .arr children)]) =
      .error (.notAString "destination" href.typeName) := by
    cases href with
    | str s => exact absurd ⟨s, rfl⟩ h
    | _ => rfl
  rw [himage, CommonMark.Node.ofRaw_rawNode ns (by simp [Fields.names, CommonMark.Tag.attributes])]
  exact .bind (.atNode hread rfl (by simp)) _

theorem ofRawFrom_rawImageAll_rejected {o : Options} {nodes : List Node}
    (hnode : ∀ n ∈ nodes, (∀ m ∈ n.live, (judge o m).result = .ok ()) →
      (∃ m ∈ n.live, ¬ m.ReferenceIsText) →
      CommonMark.RejectedFor ["destination"] (CommonMark.Node.ofRaw o.ns (n.rawImage o.ns)))
    (hjudge : ∀ m ∈ liveAll nodes, (judge o m).result = .ok ())
    (href : ∃ m ∈ liveAll nodes, ¬ m.ReferenceIsText) :
    CommonMark.RejectedFor ["destination"]
      (CommonMark.Node.ofRawFrom o.ns 0 (rawImageAll o.ns nodes)) := by
  have hlive : ∀ n ∈ nodes, ∀ m ∈ n.live, (judge o m).result = .ok () :=
    fun n hn m hm => hjudge m (mem_liveAll.mpr ⟨n, hn, hm⟩)
  rw [rawImageAll_eq_map]
  apply CommonMark.Node.ofRawFrom_rejected
  · intro v hv
    obtain ⟨n, hn, rfl⟩ := List.mem_map.mp hv
    by_cases htexts : ∀ m ∈ n.live, m.ReferenceIsText
    · obtain ⟨item, hitem⟩ := exists_corresponds o n (hlive n hn) htexts
      exact .inl ⟨item, hitem.ofRaw_rawImage o.ns⟩
    · exact .inr (hnode n hn (hlive n hn) (by simpa using htexts))
  · obtain ⟨m, hm, hbad⟩ := href
    obtain ⟨n, hn, hmn⟩ := mem_liveAll.mp hm
    exact ⟨n.rawImage o.ns, List.mem_map_of_mem hn, hnode n hn (hlive n hn) ⟨m, hmn, hbad⟩⟩

/-- A reference that is no text is all that the schema finds at fault in an image. -/
theorem ofRaw_rawImage_rejected (o : Options) (n : Node) :
    (∀ m ∈ n.live, (judge o m).result = .ok ()) → (∃ m ∈ n.live, ¬ m.ReferenceIsText) →
      CommonMark.RejectedFor ["destination"] (CommonMark.Node.ofRaw o.ns (n.rawImage o.ns)) := by
  induction n using induct_live with
  | step n ih =>
    intro hjudge href
    rw [live_eq] at hjudge href
    simp only [List.forall_mem_cons, List.exists_mem_cons_iff] at hjudge href
    cases n with
    | text s marks => simp [ReferenceIsText, liveChildren, liveAll] at href
    | document nodes => simp [judge, Logged.fail] at hjudge
    | element type nodes reference =>
      rw [rawImage_element]
      by_cases hown : (element type nodes reference).ReferenceIsText
      · obtain ⟨m, hm, hbad⟩ := href.resolve_left (not_not_intro hown)
        obtain ⟨row, hrow⟩ := ofType?_of_judge hjudge.1
        have hkeeps : keepsChildren type = true := by
          by_contra hstop
          simp [liveChildren, hstop, liveAll] at hm
        have htype := Mapping.mem_containerElements hrow hkeeps
        have hchildren := liveChildren_of_container htype nodes reference
        rw [hchildren] at ih hjudge hm
        obtain ⟨wrap, hwrap⟩ := exists_wraps htype hown
        exact ofRaw_rawElement_rejected o.ns hwrap _
          (ofRawFrom_rawImageAll_rejected ih hjudge.2 ⟨m, hm, hbad⟩)
      · obtain ⟨rfl, hother⟩ := Classical.not_imp.mp hown
        exact ofRaw_rawElement_link o.ns hother _ _

theorem documentToRaw_result_eq_map (o : Options) (nodes : List Node) :
    ((document nodes).documentToRaw o).result =
      (toRawAll o nodes).result.map ((CommonMark.Node.document [] o.xmlns).rawAround o.ns) := by
  have hattach : ∀ items, attachChildren
      (rawFields o.ns .document [("xmlns", .str o.xmlns), ("nodes", .arr [])]) items =
        .ok ((CommonMark.Node.document [] o.xmlns).rawAround o.ns items) :=
    attachChildren_rawFields o.ns .document [("xmlns", .str o.xmlns)] (by simp [Fields.names])
  simp only [documentToRaw, Logged.result_bind, hattach]
  cases (toRawAll o nodes).result <;> rfl

theorem documentToRaw_result_eq_ok {o : Options} {d : Node} {raw : Json} :
    (d.documentToRaw o).result = .ok raw ↔
      ∃ nodes, d = .document nodes ∧ (∀ m ∈ liveAll nodes, (judge o m).result = .ok ()) ∧
        raw = (CommonMark.Node.document [] o.xmlns).rawAround o.ns (rawImageAll o.ns nodes) := by
  cases d with
  | text s marks => simp [documentToRaw, Logged.fail]
  | element type nodes href => simp [documentToRaw, Logged.fail]
  | document nodes =>
    rw [documentToRaw_result_eq_map]
    constructor
    · intro h
      cases hitems : (toRawAll o nodes).result with
      | error e => simp [hitems, Except.map] at h
      | ok items =>
        obtain ⟨hjudge, rfl⟩ := toRawAll_result_eq_ok.mp hitems
        rw [hitems] at h
        exact ⟨nodes, rfl, hjudge, (Except.ok.inj h).symm⟩
    · rintro ⟨nodes', hnodes, hjudge, rfl⟩
      obtain rfl := Node.document.inj hnodes
      rw [toRawAll_result_eq_ok.mpr ⟨hjudge, rfl⟩]
      rfl

end Slate.Node

theorem CommonMark.Node.documentOfRaw_rawAround (ns xmlns : String) (items : List Json) :
    documentOfRaw ns ((document [] xmlns).rawAround ns items) =
      (ofRawFrom ns 0 items).map fun nodes => document nodes xmlns := by
  have hread : ofRaw ns ((document [] xmlns).rawAround ns items) =
      (ofRawFrom ns 0 items).map (document [] xmlns).withChildren :=
    ofRaw_rawAround_container ns rfl (show (document [] xmlns).ValuesInRange from trivial) items
  rw [documentOfRaw, hread]
  cases ofRawFrom ns 0 items <;> rfl

open Slate.Node

/-- Only a numeral that is too long concerns no attribute and is no fault of the tree. -/
theorem Error.ofSchema_of_key? {e : SchemaError} {key : String} (h : e.fault.key? = some key) :
    Error.ofSchema e = .schema e := by
  unfold Error.ofSchema
  split
  case h_1 digits hfault =>
    rw [hfault] at h
    simp [SchemaFault.key?] at h
  case h_2 => rfl

theorem slateToCommonMark_result {o : Options} {nodes : List Slate.Node}
    (hjudge : ∀ m ∈ liveAll nodes, (judge o m).result = .ok ()) :
    (slateToCommonMark o (.document nodes)).result =
      ((CommonMark.Node.ofRawFrom o.ns 0 (rawImageAll o.ns nodes)).map
        fun items => CommonMark.Node.document items o.xmlns).mapError .ofSchema := by
  have hraw := documentToRaw_result_eq_ok.mpr ⟨nodes, rfl, hjudge, rfl⟩
  simp only [slateToCommonMark, Logged.result_bind, Logged.mapError, Logged.ofExcept, hraw]
  rw [← CommonMark.Node.documentOfRaw_rawAround]
  rfl

theorem slateToCommonMark_of_corresponds {o : Options} {nodes : List Slate.Node}
    {items : List CommonMark.Node} (hjudge : ∀ m ∈ liveAll nodes, (judge o m).result = .ok ())
    (h : Corresponds nodes items) :
    (slateToCommonMark o (.document nodes)).result = .ok (.document items o.xmlns) := by
  rw [slateToCommonMark_result hjudge, h.ofRawFrom_rawImageAll]
  rfl

theorem exists_corresponds_all {o : Options} {nodes : List Slate.Node}
    (hjudge : ∀ m ∈ liveAll nodes, (judge o m).result = .ok ())
    (href : ∀ m ∈ liveAll nodes, m.ReferenceIsText) : ∃ items, Corresponds nodes items := by
  apply exists_corresponds_of_forall
  intro n hn
  apply exists_corresponds o n
  · exact fun m hm => hjudge m (mem_liveAll.mpr ⟨n, hn, hm⟩)
  · exact fun m hm => href m (mem_liveAll.mpr ⟨n, hn, hm⟩)

theorem slateToCommonMark_rejected {o : Options} {nodes : List Slate.Node}
    (hjudge : ∀ m ∈ liveAll nodes, (judge o m).result = .ok ())
    (href : ∃ m ∈ liveAll nodes, ¬ m.ReferenceIsText) :
    ∃ e, (slateToCommonMark o (.document nodes)).result = .error (.schema e) ∧
      e.fault.key? = some "destination" := by
  obtain ⟨e, he, key, hmem, hkey⟩ :=
    ofRawFrom_rawImageAll_rejected (fun n _ => ofRaw_rawImage_rejected o n) hjudge href
  obtain rfl := List.mem_singleton.mp hmem
  rw [slateToCommonMark_result hjudge, he]
  exact ⟨e, congrArg Except.error (Error.ofSchema_of_key? hkey), hkey⟩

/-- The typed result of a forward conversion is the raw result as a tree, if there is one. -/
theorem slateToCommonMark_of_documentToRaw {o : Options} {d : Slate.Node} {raw : Json}
    (h : (d.documentToRaw o).result = .ok raw) :
    ((∀ m ∈ d.live, m.ReferenceIsText) →
      ∃ nodes xmlns, (slateToCommonMark o d).result = .ok (.document nodes xmlns) ∧
        (CommonMark.Node.document nodes xmlns).toRaw o.ns = raw) ∧
    ((∃ m ∈ d.live, ¬ m.ReferenceIsText) →
      ∃ e, (slateToCommonMark o d).result = .error (.schema e) ∧
        e.fault.key? = some "destination") := by
  obtain ⟨nodes, rfl, hjudge, rfl⟩ := documentToRaw_result_eq_ok.mp h
  rw [live]
  constructor
  · intro href
    obtain ⟨items, hitems⟩ := exists_corresponds_all hjudge (List.forall_mem_cons.mp href).2
    refine ⟨items, o.xmlns, slateToCommonMark_of_corresponds hjudge hitems, ?_⟩
    rw [CommonMark.Node.toRaw_eq_rawAround, hitems.rawImageAll_eq]
    rfl
  · intro href
    apply slateToCommonMark_rejected hjudge
    simpa [ReferenceIsText] using href

theorem slateToCommonMark_of_documentToRaw_link :
    (∃ nodes xmlns, (slateToCommonMark Options.default
        (.document [.element "link" none (.str "u")])).result = .ok (.document nodes xmlns) ∧
      (CommonMark.Node.document nodes xmlns).toRaw CommonMark.defaultNamespace =
        CommonMark.rawNode CommonMark.defaultNamespace .document [("xmlns", .str "slate"),
          ("nodes", .arr [CommonMark.rawNode CommonMark.defaultNamespace .link
            [("destination", .str "u"), ("title", .str ""), ("nodes", .arr [])]])]) ∧
    ∃ e, (slateToCommonMark Options.default (.document [.element "link" none (.int 7)])).result =
        .error (.schema e) ∧ e.fault.key? = some "destination" := by
  have hraw : ∀ href, href.isNull = false →
      (documentToRaw Options.default (.document [.element "link" none href])).result =
        .ok (CommonMark.rawNode CommonMark.defaultNamespace .document [("xmlns", .str "slate"),
          ("nodes", .arr [CommonMark.rawNode CommonMark.defaultNamespace .link
            [("destination", href), ("title", .str ""), ("nodes", .arr [])]])]) := by
    intro href hnull
    cases href with
    | null => simp [Json.isNull] at hnull
    | _ => rfl
  refine ⟨(slateToCommonMark_of_documentToRaw (hraw (.str "u") rfl)).1 ?_,
    (slateToCommonMark_of_documentToRaw (hraw (.int 7) rfl)).2 ?_⟩
  · simp [live, liveAll, ReferenceIsText]
  · exact ⟨.element "link" none (.int 7), by simp [live, liveAll], by simp [ReferenceIsText]⟩

theorem exists_corresponds_of_slateToCommonMark {o : Options} {d : Slate.Node}
    {tree : CommonMark.Node} (h : (slateToCommonMark o d).result = .ok tree) :
    ∃ nodes items, d = .document nodes ∧ tree = .document items o.xmlns ∧
      Corresponds nodes items := by
  cases hraw : (d.documentToRaw o).result with
  | error e =>
    simp only [slateToCommonMark, Logged.result_bind, Logged.mapError, hraw] at h
    cases h
  | ok raw =>
    obtain ⟨nodes, rfl, hjudge, -⟩ := documentToRaw_result_eq_ok.mp hraw
    by_cases href : ∀ m ∈ liveAll nodes, m.ReferenceIsText
    · obtain ⟨items, hitems⟩ := exists_corresponds_all hjudge href
      rw [slateToCommonMark_of_corresponds hjudge hitems] at h
      exact ⟨nodes, items, rfl, (Except.ok.inj h).symm, hitems⟩
    · obtain ⟨e, he, -⟩ := slateToCommonMark_rejected hjudge (by simpa using href)
      simp [he] at h

end SlateMark
