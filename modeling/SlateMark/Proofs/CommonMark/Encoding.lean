import SlateMark.Proofs.CommonMark.Reading

/-!
Writing a tree and reading it back. The tree comes back as it was if the values of all its nodes are
in range, and is rejected for one of them otherwise. Another namespace never reads it: tags have no
dot in their names, so the last dot of a class tells where its namespace ends, even if one of the
two namespaces continues the other.
-/
namespace SlateMark.CommonMark

/-- Two texts that agree up to what follows the last occurrence of a letter agree before it. -/
theorem eq_of_append_last {α : Type} {a : α} {x y z w : List α} (hz : a ∉ z) (hw : a ∉ w)
    (h : x ++ a :: z = y ++ a :: w) : x = y := by
  induction x generalizing y with
  | nil =>
    cases y with
    | nil => rfl
    | cons b y =>
      have htail : z = y ++ a :: w := (List.cons.inj h).2
      exact absurd (by simp [htail]) hz
  | cons b x ih =>
    cases y with
    | nil =>
      have htail : x ++ a :: z = w := (List.cons.inj h).2
      exact absurd (by simp [← htail]) hw
    | cons c y =>
      obtain ⟨hbc, htail⟩ := List.cons.inj h
      rw [hbc, ih htail]

theorem Tag.dot_notMem_name (tag : Tag) : '.' ∉ tag.name.toList := by
  cases tag <;> decide

/-- A class is in one namespace only. -/
theorem eq_of_afterStart?_className {ns ns' name : String} {tag tag' : Tag}
    (hafter : afterStart? (ns' ++ ".") (tag.className ns) = some name)
    (hname : Tag.ofName? name = some tag') : ns = ns' := by
  have hlist := congrArg String.toList (afterStart?_eq_some_iff.mp hafter)
  rw [Tag.ofName?_eq_some_iff.mp hname] at hlist
  have hdot : ns.toList ++ '.' :: tag.name.toList = ns'.toList ++ '.' :: tag'.name.toList := by
    simpa [Tag.className] using hlist
  exact String.toList_inj.mp (eq_of_append_last tag.dot_notMem_name tag'.dot_notMem_name hdot)

theorem readTag_foreign {ns ns' : String} (h : ns' ≠ ns) (tag : Tag) (attributes : Fields) :
    ∃ fault, readTag ns' ((classKey, .str (tag.className ns)) :: attributes) = .error fault ∧
      fault.key? = some classKey := by
  have hclass : Fields.get? ((classKey, .str (tag.className ns)) :: attributes) classKey =
      some (.str (tag.className ns)) := by
    simp [Fields.get?]
  simp only [readTag, hclass, if_neg (Tag.className_ne_empty ns tag)]
  cases hafter : afterStart? (ns' ++ ".") (tag.className ns) with
  | none => exact ⟨_, rfl, rfl⟩
  | some name =>
    cases hname : Tag.ofName? name with
    | none => exact ⟨.unknownClass (tag.className ns), by simp [hname], rfl⟩
    | some tag' => exact absurd (eq_of_afterStart?_className hafter hname).symm h

namespace Node

theorem ofRaw_toRaw_of_inRange (ns : String) (n : Node) :
    (∀ m ∈ n.preorder, m.ValuesInRange) → ofRaw ns (n.toRaw ns) = .ok n := by
  induction n using induct_children with
  | step n ih =>
    intro h
    obtain ⟨hown, hbelow⟩ := (forall_preorder_iff n).mp h
    rw [toRaw_eq_rawAround]
    by_cases hn : n.children?.isSome
    · have hread : ofRawFrom ns 0 (toRawAll ns n.children) = .ok n.children := by
        rw [ofRawFrom_eq_ok_iff]
        rw [toRawAll_eq_map, List.forall₂_map_left_iff, List.forall₂_same]
        exact fun c hc => ih c hc (hbelow c hc)
      rw [ofRaw_rawAround_container ns hn hown, hread]
      exact congrArg Except.ok n.withChildren_children
    · exact ofRaw_rawAround_leaf ns (by simpa using hn) hown _

theorem ofRaw_toRaw_rejected (ns : String) (n : Node) :
    (∃ m ∈ n.preorder, ¬ m.ValuesInRange) →
      RejectedFor ["level", "type"] (ofRaw ns (n.toRaw ns)) := by
  induction n using induct_children with
  | step n ih =>
    rintro ⟨m, hm, hout⟩
    rw [toRaw_eq_rawAround]
    by_cases hown : n.ValuesInRange
    · rw [preorder_eq, List.mem_cons, mem_preorderAll] at hm
      rcases hm with rfl | ⟨c, hc, hmc⟩
      · exact absurd hown hout
      have hn : n.children?.isSome := by
        cases hsome : n.children? with
        | none => simp [children, hsome] at hc
        | some nodes => rfl
      rw [ofRaw_rawAround_container ns hn hown, toRawAll_eq_map]
      apply RejectedFor.map
      apply ofRawFrom_rejected
      · intro v hv
        obtain ⟨d, hd, rfl⟩ := List.mem_map.mp hv
        by_cases hin : ∀ m ∈ d.preorder, m.ValuesInRange
        · exact .inl ⟨d, ofRaw_toRaw_of_inRange ns d hin⟩
        · exact .inr (ih d hd (by simpa using hin))
      · exact ⟨c.toRaw ns, List.mem_map_of_mem hc, ih c hc ⟨m, hmc, hout⟩⟩
    · exact ofRaw_rawAround_rejected ns hown _

theorem ofRaw_toRaw_foreign {ns ns' : String} (h : ns' ≠ ns) (n : Node) :
    RejectedFor ["$class"] (ofRaw ns' (n.toRaw ns)) := by
  rw [toRaw_eq_rawAround, rawAround, rawNode, ofRaw]
  obtain ⟨fault, hfault, hkey⟩ := readTag_foreign h n.tag
    (n.ownAttributes ++
      if n.children?.isSome then [("nodes", .arr (toRawAll ns n.children))] else [])
  rw [hfault]
  exact .atNode rfl hkey (by simp [classKey])

/-- Reading undoes writing exactly on trees in range, and only in the namespace written. -/
theorem ofRaw_toRaw (ns : String) (n : Node) :
    ((∀ m ∈ n.preorder, m.ValuesInRange) → ofRaw ns (n.toRaw ns) = .ok n) ∧
      ((∃ m ∈ n.preorder, ¬ m.ValuesInRange) →
        RejectedFor ["level", "type"] (ofRaw ns (n.toRaw ns))) ∧
      ∀ ns', ns' ≠ ns → RejectedFor ["$class"] (ofRaw ns' (n.toRaw ns)) :=
  ⟨ofRaw_toRaw_of_inRange ns n, ofRaw_toRaw_rejected ns n, fun _ h => ofRaw_toRaw_foreign h n⟩

theorem ofRaw_toRaw_list : RejectedFor ["level", "type"]
      (ofRaw "a" (toRaw "a" (document [list "ordered" false [item [heading 7 "t"]]] ""))) ∧
    ofRaw "a" (toRaw "a" (blockQuote (some [list "bullet" false [codeBlock none],
      link "" "t" []]))) =
        .ok (blockQuote (some [list "bullet" false [codeBlock none], link "" "t" []])) ∧
    RejectedFor ["$class"] (ofRaw "a" (toRaw "a.b" (blockQuote none))) := by
  refine ⟨(ofRaw_toRaw "a" _).2.1 ⟨heading 7 "t", ?_, ?_⟩, (ofRaw_toRaw "a" _).1 ?_,
    (ofRaw_toRaw "a.b" _).2.2 "a" (by decide)⟩
  · simp [preorder, preorderAll]
  · simp [ValuesInRange]
  · simp [preorder, preorderAll, ValuesInRange]

end Node

end SlateMark.CommonMark
