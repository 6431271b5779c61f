import SlateMark.Convert.Text
import SlateMark.Proofs.Convert.Agreement
import SlateMark.Proofs.Convert.Storage

/-!
Conversions of whole texts. A document that survives its round trip survives it as text as well: it
is written, converted to the text of a raw tree, and that text to the text of a document, which is
read as what the round trip of the document itself yields. Nothing is lost on the way but the
indentation.
-/
namespace SlateMark

open Json (Plain)

namespace CommonMark.Node

theorem plain_rawAround (ns : String) (n : Node) {items : List Json} (h : Plain (.arr items)) :
    Plain (n.rawAround ns items) := by
  have hnodes : ∀ field ∈ (if n.children?.isSome then [("nodes", Json.arr items)] else []),
      Plain field.2 := by
    intro field hfield
    split at hfield
    · obtain rfl := List.mem_singleton.mp hfield
      exact h
    · simp at hfield
  have hown : ∀ field ∈ n.ownAttributes, Plain field.2 := by
    cases n with
    | codeBlock s | htmlBlock s | htmlInline s => cases s <;> simp [ownAttributes, rawText?]
    | _ => simp [ownAttributes]
  have hnames : (Fields.names ((classKey, Json.str (n.tag.className ns)) :: (n.ownAttributes ++
      if n.children?.isSome then [("nodes", Json.arr items)] else []))).Nodup := by
    cases n with
    | blockQuote nodes? =>
      cases nodes? <;> simp [ownAttributes, children?, classKey, Fields.names]
    | codeBlock s | htmlBlock s | htmlInline s =>
      cases s <;> simp [ownAttributes, rawText?, children?, classKey, Fields.names]
    | _ => simp [ownAttributes, children?, classKey, Fields.names]
  refine .obj hnames ?_
  rw [List.forall_mem_cons, List.forall_mem_append]
  exact ⟨.str _, hown, hnodes⟩

theorem plain_toRaw (ns : String) (n : Node) : Plain (n.toRaw ns) := by
  induction n using induct_children with
  | step n ih =>
    rw [toRaw_eq_rawAround, toRawAll_eq_map]
    have hchildren : ∀ v ∈ n.children.map (toRaw ns), Plain v := by
      intro v hv
      obtain ⟨c, hc, rfl⟩ := List.mem_map.mp hv
      exact ih c hc
    exact plain_rawAround ns n (.arr hchildren)

theorem documentOfRaw_toRaw (ns : String) {nodes : List Node} (xmlns : String)
    (h : ∀ m ∈ preorderAll nodes, m.ValuesInRange) :
    documentOfRaw ns ((document nodes xmlns).toRaw ns) = .ok (document nodes xmlns) := by
  have hall : ∀ m ∈ (document nodes xmlns).preorder, m.ValuesInRange := by
    rw [preorder, List.forall_mem_cons]
    exact ⟨trivial, h⟩
  rw [documentOfRaw, ofRaw_toRaw_of_inRange ns _ hall]

end CommonMark.Node

theorem LeafTarget.noDocument {type : String} {target : CommonMark.Node}
    (h : LeafTarget type target) : ∀ m ∈ target.preorder, m.tag ≠ .document := by
  cases h <;> simp [CommonMark.Node.preorder, CommonMark.Node.tag]

theorem Wraps.noDocument {type : String} {href : Json}
    {wrap : List CommonMark.Node → CommonMark.Node} (h : Wraps type href wrap)
    {inner : List CommonMark.Node}
    (hinner : ∀ m ∈ CommonMark.Node.preorderAll inner, m.tag ≠ .document) :
    ∀ m ∈ (wrap inner).preorder, m.tag ≠ .document := by
  cases h <;>
    simpa [CommonMark.Node.preorder, CommonMark.Node.preorderAll, CommonMark.Node.tag] using hinner

/-- No document is converted below the root of another. -/
theorem Corresponds.noDocument {nodes : List Slate.Node} {items : List CommonMark.Node}
    (h : Corresponds nodes items) :
    ∀ m ∈ CommonMark.Node.preorderAll items, m.tag ≠ .document := by
  induction h with
  | nil => simp [CommonMark.Node.preorderAll]
  | run s marks _ ih =>
    rw [CommonMark.Node.preorderAll, List.forall_mem_append]
    exact ⟨CommonMark.Node.ofRun_noDocument s marks, ih⟩
  | leaf nodes href htype _ ih =>
    rw [CommonMark.Node.preorderAll, List.forall_mem_append]
    exact ⟨htype.noDocument, ih⟩
  | heading s marks more href htype _ ih =>
    rw [CommonMark.Node.preorderAll, List.forall_mem_append, CommonMark.Node.preorder]
    exact ⟨by simp [CommonMark.Node.tag], ih⟩
  | container hwrap _ _ ihinner ih =>
    rw [CommonMark.Node.preorderAll, List.forall_mem_append]
    exact ⟨hwrap.noDocument ihinner, ih⟩

theorem slateTextToCommonMark_result {o : Options} {s : String} {d : Slate.Node}
    {tree : CommonMark.Node} (hread : (Slate.readDocumentText s).result = .ok d)
    (htree : (slateToCommonMark o d).result = .ok tree) (indent : Option Int) :
    (slateTextToCommonMark o indent s).result =
      .ok (Json.documentText indent (tree.toRaw o.ns)) := by
  have hdocument : ((Slate.readDocumentText s).mapError Error.parsing).result = .ok d :=
    Logged.result_mapError_eq_ok.mpr hread
  rw [slateTextToCommonMark, Logged.result_bind_of_ok hdocument, Logged.result_bind_of_ok htree]
  rfl

theorem commonMarkTextToSlate_result {o : Options} {s : String} {fields : Fields}
    {tree : CommonMark.Node} {d : Slate.Node} (hparse : Json.parse s = .ok (.obj fields))
    (htree : CommonMark.Node.documentOfRaw o.ns (.obj fields) = .ok tree)
    (hback : (commonMarkToSlate tree).result = .ok d) (indent : Option Int) :
    (commonMarkTextToSlate o indent s).result =
      (d.documentText true indent).mapError .encoding := by
  have hraw : (readJsonText .commonMark s).result = .ok (.obj fields) := by
    rw [readJsonText, hparse]
    rfl
  have hdocument : (fragmentToSlate o (.json (.obj fields))).result = .ok d := by
    rw [fragmentToSlate, rawToSlate, htree]
    exact hback
  rw [commonMarkTextToSlate, Logged.result_bind_of_ok hraw, Logged.result_bind_of_ok hdocument]
  rfl

/-- The texts of a document that survives its round trip: its own, that of the raw tree and that of
the restored document, each read from the one before. -/
theorem exists_texts_of_roundTrip {o : Options} {nodes : List Slate.Node} {restored : Slate.Node}
    (hround : (roundTrip o (.document nodes)).result = .ok restored)
    (hstorable : ∀ m ∈ Slate.Node.preorderAll nodes, m.Storable) (asValue : Bool)
    (i j k : Option Int) :
    ∃ source raw target, (Slate.Node.document nodes).documentText asValue i = .ok source ∧
      (convertText .toCommonMark o j source).result = .ok raw ∧
      (convertText .toSlate o k raw).result = .ok target ∧
      (Slate.readDocumentText target).result = .ok restored := by
  obtain ⟨tree, htree, hback⟩ := Logged.result_bind_eq_ok.mp hround
  obtain ⟨_, items, -, rfl, hcorr⟩ := exists_corresponds_of_slateToCommonMark htree
  obtain ⟨inner, rfl, hplain, hdocument⟩ := commonMarkToSlate_keepsDocuments hback
  have hproper := hdocument.mpr hcorr.noDocument
  obtain ⟨source, hsource, hread⟩ := Slate.readDocumentText_documentText hstorable asValue i
  obtain ⟨target, htarget, hreread⟩ :=
    Slate.readDocumentText_documentText (fun m hm => ⟨hproper m hm, hplain m hm⟩) true k
  have hobject : ∃ fields, (CommonMark.Node.document items o.xmlns).toRaw o.ns = .obj fields :=
    ⟨_, rfl⟩
  obtain ⟨fields, hfields⟩ := hobject
  have hparse := Json.parse_documentText
    (CommonMark.Node.plain_toRaw o.ns (.document items o.xmlns)) j
  have hschema := CommonMark.Node.documentOfRaw_toRaw o.ns o.xmlns hcorr.inRange
  rw [hfields] at hparse hschema
  refine ⟨source, Json.documentText j (.obj fields), target, hsource, ?_, ?_, ?_⟩
  · rw [← hfields]
    exact slateTextToCommonMark_result (by rw [hread]; rfl) htree j
  · rw [convertText, commonMarkTextToSlate_result hparse hschema hback, htarget]
    rfl
  · rw [hreread]
    rfl

/-- A quote loses its reference on the way and a link gets children. -/
theorem exists_texts_of_roundTrip_link :
    let nodes : List Slate.Node :=
      [.element "quote" none (.str "u"), .element "link" none (.str "v")]
    ∃ source raw target, (Slate.Node.document nodes).documentText false (some (-1)) = .ok source ∧
      (convertText .toCommonMark Options.default none source).result = .ok raw ∧
      (convertText .toSlate Options.default (some 4) raw).result = .ok target ∧
      (Slate.readDocumentText target).result =
        .ok (.document [.element "quote" none .null, .element "link" (some []) (.str "v")]) := by
  intro nodes
  have hcorr : Corresponds nodes [.blockQuote none, .link "v" "" []] :=
    .leaf _ _ .quote (.container (.link "v") .nil .nil)
  have htree : (slateToCommonMark Options.default (.document nodes)).result =
      .ok (.document [.blockQuote none, .link "v" "" []] "slate") := by
    apply slateToCommonMark_of_corresponds
    · exact (Slate.Node.toRawAll_result_eq_ok.mp rfl).1
    · exact hcorr
  have hround : (roundTrip Options.default (.document nodes)).result =
      .ok (.document [.element "quote" none .null, .element "link" (some []) (.str "v")]) := by
    apply Logged.result_bind_eq_ok.mpr
    exact ⟨_, htree, rfl⟩
  apply exists_texts_of_roundTrip hround
  simp [nodes, Slate.Node.preorderAll, Slate.Node.preorder, Slate.Node.Storable,
    Slate.Node.isDocument, Slate.Node.PlainReference]

end SlateMark
