import SlateMark.Proofs.Slate.Tree
import SlateMark.Slate.Reader
import SlateMark.Slate.Writer

/-!
Writing a document and reading it back. Whatever the elements and their references are, the document
comes back as it was and nothing is reported, in the envelope of a value or without it: absent
children stay apart from none, and marks come back from their list as the same set.
-/
namespace SlateMark.Slate

theorem readMarks_names (marks : Marks) :
    readMarks (some (.arr (marks.names.map markJson))) = pure marks := by
  obtain ⟨bold, italic, code⟩ := marks
  cases bold <;> cases italic <;> cases code <;> rfl

theorem hrefOf_dataOf {fields : Fields} {href : Json}
    (h : Fields.get? fields "data" = some (dataOf href)) : hrefOf fields = href := by
  rw [hrefOf, h]
  cases href <;> rfl

namespace Node

theorem object_element (type : String) (nodes : Option (List Node)) (href : Json) :
    (element type nodes href).object = "block" ∨ (element type nodes href).object = "inline" := by
  rw [object]
  split
  · exact .inr rfl
  · exact .inl rfl

/-- The members of an encoded element, whose children are left out if it declares none. -/
def elementFields (object type : String) (href : Json) (nodes : Option Json) : Fields :=
  [("object", .str object), ("type", .str type), ("data", dataOf href)] ++
    (nodes.map fun items => ("nodes", items)).toList

theorem readObject_elementFields {object : String} (hobject : object = "block" ∨ object = "inline")
    (type : String) (href : Json) (items : Option Json) (children : Option (List Node)) :
    readObject (elementFields object type href items) (pure children) =
      pure [.element type children href] := by
  have htype : Fields.get? (elementFields object type href items) "type" = some (.str type) := rfl
  have hdata : hrefOf (elementFields object type href items) = href := hrefOf_dataOf rfl
  have helement : readObject.element (elementFields object type href items) (pure children) =
      pure [.element type children href] := by
    simp only [readObject.element, require, htype, hdata, pure_bind, Json.plainText]
  rcases hobject with rfl | rfl
  · exact helement
  · exact helement

/-- The encoding of the node is there, and reading it gives the node and reports nothing. -/
def Restored (n : Node) : Prop := ∃ v, n.toJson = .ok v ∧ readNode v = pure [n]

theorem restored_all {nodes : List Node} (h : ∀ n ∈ nodes, n.Restored) :
    ∃ items, toJsonAll nodes = .ok items ∧ readNodes items = pure nodes := by
  induction nodes with
  | nil => exact ⟨[], rfl, rfl⟩
  | cons n rest ih =>
    obtain ⟨⟨v, hv, hread⟩, hrest⟩ := List.forall_mem_cons.mp h
    obtain ⟨items, hitems, hreads⟩ := ih hrest
    refine ⟨v :: items, ?_, ?_⟩
    · simp only [toJsonAll, hv, hitems]
    · simp only [readNodes, hread, hreads, pure_bind, List.singleton_append]

theorem restored_text (s : String) (marks : Marks) : (text s marks).Restored := by
  have hrun : readRun .textNode [("object", .str "text"), ("text", .str s),
      ("marks", .arr (marks.names.map markJson))] = pure (text s marks) := by
    change (readMarks (some (.arr (marks.names.map markJson))) >>= fun marks =>
      pure (text s marks)) = _
    rw [readMarks_names, pure_bind]
  refine ⟨_, rfl, ?_⟩
  change (readRun .textNode _ >>= fun run => pure [run]) = _
  rw [hrun, pure_bind]

theorem restored_element {type : String} {nodes : Option (List Node)} {href : Json}
    (h : ∀ c ∈ nodes.getD [], c.Restored) : (element type nodes href).Restored := by
  have hobject := object_element type none href
  cases nodes with
  | none => exact ⟨_, rfl, readObject_elementFields hobject type href none none⟩
  | some nodes =>
    rw [Option.getD_some] at h
    obtain ⟨items, hitems, hreads⟩ := restored_all h
    let fields := elementFields (element type none href).object type href (some (.arr items))
    have hchildren : readChildrenOf fields = pure (some nodes) := by
      change some <$> readNodes items = _
      rw [hreads]
      rfl
    refine ⟨.obj fields, ?_, ?_⟩
    · simp only [toJson, hitems]
      rfl
    · rw [readNode, hchildren]
      exact readObject_elementFields hobject type href (some (.arr items)) (some nodes)

theorem restored (n : Node) : (∀ m ∈ n.preorder, m.isDocument = false) → n.Restored := by
  induction n using induct_children with
  | step n ih =>
    intro h
    obtain ⟨hown, hbelow⟩ := (forall_preorder_iff n).mp h
    have hchildren : ∀ c ∈ n.children, c.Restored := fun c hc => ih c hc (hbelow c hc)
    cases n with
    | text s marks => exact restored_text s marks
    | element type nodes href => exact restored_element hchildren
    | document nodes => simp [isDocument] at hown

/-- The first child without an encoding decides. -/
theorem toJsonAll_eq_error {nodes : List Node}
    (hall : ∀ n ∈ nodes, n.Restored ∨ n.toJson = .error .nestedDocument)
    (hone : ∃ n ∈ nodes, n.toJson = .error .nestedDocument) :
    toJsonAll nodes = .error .nestedDocument := by
  induction nodes with
  | nil => simp at hone
  | cons n rest ih =>
    obtain ⟨hn, hrest⟩ := List.forall_mem_cons.mp hall
    rcases hn with ⟨v, hv, -⟩ | hn
    · have hone' : ∃ c ∈ rest, c.toJson = .error .nestedDocument := by
        obtain ⟨c, hc, hbad⟩ := hone
        rcases List.mem_cons.mp hc with rfl | hc
        · simp [hv] at hbad
        · exact ⟨c, hc, hbad⟩
      simp only [toJsonAll, hv, ih hrest hone']
    · simp only [toJsonAll, hn]

/-- A document inside a node leaves the node without an encoding. -/
theorem toJson_eq_error (n : Node) :
    (∃ m ∈ n.preorder, m.isDocument = true) → n.toJson = .error .nestedDocument := by
  induction n using induct_children with
  | step n ih =>
    rintro ⟨m, hm, hdocument⟩
    cases n with
    | text s marks =>
      obtain rfl := List.mem_singleton.mp hm
      simp [isDocument] at hdocument
    | document nodes => rfl
    | element type nodes? href =>
      rw [preorder_eq, List.mem_cons, mem_preorderAll] at hm
      rcases hm with rfl | ⟨c, hc, hmc⟩
      · simp [isDocument] at hdocument
      · cases nodes? with
        | none => simp [children] at hc
        | some nodes =>
          have hall : ∀ d ∈ nodes, d.Restored ∨ d.toJson = .error .nestedDocument := by
            intro d hd
            by_cases hin : ∀ k ∈ d.preorder, k.isDocument = false
            · exact .inl (d.restored hin)
            · exact .inr (ih d hd (by simpa using hin))
          have hitems := toJsonAll_eq_error hall ⟨c, hc, ih c hc ⟨m, hmc, hdocument⟩⟩
          simp only [toJson, hitems]

theorem restored_or_toJson_eq_error (n : Node) :
    n.Restored ∨ n.toJson = .error .nestedDocument := by
  by_cases hin : ∀ m ∈ n.preorder, m.isDocument = false
  · exact .inl (n.restored hin)
  · exact .inr (n.toJson_eq_error (by simpa using hin))

end Node

theorem readTopNodes_arr {fields : Fields} {items : List Json} {nodes : List Node}
    (hget : Fields.get? fields "nodes" = some (.arr items)) (h : readNodes items = pure nodes) :
    readTopNodes fields = pure nodes := by
  cases items with
  | nil =>
    rw [← h, readTopNodes, hget]
    rfl
  | cons v rest =>
    rw [readTopNodes, hget]
    exact h

theorem readDocument_obj {outer : Fields} (inner : Fields) {nodes : List Node}
    (hinner : documentFields outer = pure inner)
    (hobject : Fields.get? inner "object" = some (.str "document"))
    (hnodes : readTopNodes inner = pure nodes) :
    readDocument (.obj outer) = pure (.document nodes) := by
  simp only [readDocument, hinner, pure_bind, hobject, hnodes]

theorem exists_documentJson_of_restored {nodes : List Node} (h : ∀ n ∈ nodes, n.Restored)
    (asValue : Bool) : ∃ v, (Node.document nodes).documentJson asValue = .ok v ∧
      readDocument v = pure (.document nodes) := by
  obtain ⟨items, hitems, hreads⟩ := Node.restored_all h
  let inner : Fields := [("object", .str "document"), ("data", .obj []), ("nodes", .arr items)]
  have hnodes : readTopNodes inner = pure nodes := readTopNodes_arr rfl hreads
  cases asValue with
  | false =>
    refine ⟨.obj inner, ?_, readDocument_obj inner rfl rfl hnodes⟩
    simp only [Node.documentJson, Node.topNodes, hitems]
    rfl
  | true =>
    refine ⟨.obj [("object", .str "value"), ("document", .obj inner)], ?_,
      readDocument_obj inner rfl rfl hnodes⟩
    simp only [Node.documentJson, Node.topNodes, hitems]
    rfl

/-- A document with another below it has no encoding. -/
theorem documentJson_eq_error {nodes : List Node}
    (h : ∃ m ∈ Node.preorderAll nodes, m.isDocument = true) (asValue : Bool) :
    (Node.document nodes).documentJson asValue = .error .nestedDocument := by
  obtain ⟨m, hm, hdocument⟩ := h
  obtain ⟨n, hn, hmn⟩ := Node.mem_preorderAll.mp hm
  have hall : ∀ c ∈ nodes, c.Restored ∨ c.toJson = .error .nestedDocument :=
    fun c _ => c.restored_or_toJson_eq_error
  have hitems := Node.toJsonAll_eq_error hall ⟨n, hn, n.toJson_eq_error ⟨m, hmn, hdocument⟩⟩
  simp only [Node.documentJson, Node.topNodes, hitems]

/-- A written document is read as itself, with or without its envelope, and nothing is reported. -/
theorem readDocument_documentJson (asValue : Bool) {nodes : List Node}
    (h : ∀ m ∈ Node.preorderAll nodes, m.isDocument = false) :
    ∃ v, (Node.document nodes).documentJson asValue = .ok v ∧
      (readDocument v).result = .ok (.document nodes) ∧ (readDocument v).events = [] := by
  have hrestored : ∀ n ∈ nodes, n.Restored := fun n hn =>
    n.restored (Node.forall_preorderAll_iff.mp h n hn)
  obtain ⟨v, hv, hread⟩ := exists_documentJson_of_restored hrestored asValue
  refine ⟨v, hv, ?_⟩
  rw [hread]
  exact ⟨rfl, rfl⟩

/-- Elements without children and with none, references that are falsy and references on elements
that are no links, all below an element of a type that the table of mappings does not have. -/
theorem readDocument_documentJson_references :
    let nodes : List Node :=
      [.element "video" (some
        [.element "quote" none (.str ""), .element "link" (some []) (.obj []),
          .element "code_block" (some [.text "" ⟨true, true, true⟩]) (.int 0)]) (.bool false)]
    ∃ v, (Node.document nodes).documentJson true = .ok v ∧
      (readDocument v).result = .ok (.document nodes) ∧ (readDocument v).events = [] :=
  readDocument_documentJson true (by simp [Node.preorderAll, Node.preorder, Node.isDocument])

end SlateMark.Slate
