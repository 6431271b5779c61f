import SlateMark.Proofs.Convert.Text
import SlateMark.Proofs.Failure

/-!
How conversions of texts fail. The announced errors are those of the text, of the schema and of the
conversion itself. Going to CommonMark there are no others; going back there are two. A document
below the root passes the schema and the conversion and then has no encoding, and a level spelled
with more digits than are read is no fault that the schema reports.
-/
namespace SlateMark

inductive Error.Announced : Error → Prop
  | parsing (e : ParsingError) : Announced (.parsing e)
  | schema (e : SchemaError) : Announced (.schema e)
  | conversion (e : ConversionError) : Announced (.conversion e)

open Error (Announced)

/-- The text of a raw tree that comes back with an error that is not announced. -/
inductive Slips (o : Options) (s : String) : Error → Prop
  | nestedDocument {fields : Fields} {nodes : List CommonMark.Node} {xmlns : String}
      {d : Slate.Node} (hparse : Json.parse s = .ok (.obj fields))
      (hschema : CommonMark.Node.documentOfRaw o.ns (.obj fields) = .ok (.document nodes xmlns))
      (hback : (commonMarkToSlate (.document nodes xmlns)).result = .ok d)
      (hnested : ∃ m ∈ CommonMark.Node.preorderAll nodes, m.tag = .document) :
      Slips o s (.encoding .nestedDocument)
  | longNumeral {fields : Fields} {e : SchemaError} {digits : Nat}
      (hparse : Json.parse s = .ok (.obj fields))
      (hschema : CommonMark.Node.documentOfRaw o.ns (.obj fields) = .error e)
      (hlong : e.fault = .numeralTooLong digits) : Slips o s (.numeralTooLong digits)

theorem readDocumentText_failsAnnounced (s : String) :
    FailsWith Announced ((Slate.readDocumentText s).mapError Error.parsing).result :=
  .mapError .parsing _

theorem commonMarkToSlate_failsAnnounced (tree : CommonMark.Node) :
    FailsWith Announced (commonMarkToSlate tree).result :=
  .mapError .conversion _

/-- The schema finds no fault but with references in what a conversion writes. -/
theorem slateToCommonMark_failsAnnounced (o : Options) (d : Slate.Node) :
    FailsWith Announced (slateToCommonMark o d).result := by
  intro e he
  cases hraw : (d.documentToRaw o).result with
  | error e' =>
    simp only [slateToCommonMark, Logged.result_bind, Logged.mapError, hraw] at he
    obtain rfl := Except.error.inj he
    exact .conversion e'
  | ok raw =>
    obtain ⟨nodes, rfl, hjudge, -⟩ := Slate.Node.documentToRaw_result_eq_ok.mp hraw
    by_cases href : ∀ m ∈ Slate.Node.liveAll nodes, m.ReferenceIsText
    · obtain ⟨items, hitems⟩ := exists_corresponds_all hjudge href
      simp [slateToCommonMark_of_corresponds hjudge hitems] at he
    · obtain ⟨e', he', -⟩ := slateToCommonMark_rejected hjudge (by simpa using href)
      rw [he'] at he
      obtain rfl := Except.error.inj he
      exact .schema e'

theorem slateTextToCommonMark_failsAnnounced (o : Options) (indent : Option Int) (s : String) :
    FailsWith Announced (slateTextToCommonMark o indent s).result := by
  apply FailsWith.logged (readDocumentText_failsAnnounced s)
  intro d
  apply FailsWith.logged (slateToCommonMark_failsAnnounced o d)
  intro tree
  exact .ok _

theorem roundTrip_failsAnnounced (o : Options) (d : Slate.Node) :
    FailsWith Announced (roundTrip o d).result :=
  .logged (slateToCommonMark_failsAnnounced o d) commonMarkToSlate_failsAnnounced

theorem verifyRoundTrip_failsAnnounced (o : Options) (d : Slate.Node) :
    FailsWith Announced (verifyRoundTrip o d).result := by
  apply FailsWith.logged (roundTrip_failsAnnounced o d)
  intro restored
  split
  · exact .ok true
  · exact .ok false

/-- A restored document has a text exactly if the tree has no document below its root. -/
theorem documentText_of_commonMarkToSlate {nodes : List CommonMark.Node} {xmlns : String}
    {d : Slate.Node} (h : (commonMarkToSlate (.document nodes xmlns)).result = .ok d)
    (asValue : Bool) (indent : Option Int) :
    ((∀ m ∈ CommonMark.Node.preorderAll nodes, m.tag ≠ .document) →
      ∃ s, d.documentText asValue indent = .ok s) ∧
    ((∃ m ∈ CommonMark.Node.preorderAll nodes, m.tag = .document) →
      d.documentText asValue indent = .error .nestedDocument) := by
  obtain ⟨items, rfl, hplain, hdocument⟩ := commonMarkToSlate_keepsDocuments h
  constructor
  · intro hproper
    have hitems := hdocument.mpr hproper
    obtain ⟨s, hs, -⟩ := Slate.readDocumentText_documentText
      (fun m hm => ⟨hitems m hm, hplain m hm⟩) asValue indent
    exact ⟨s, hs⟩
  · intro hnested
    have hitems : ¬ ∀ m ∈ Slate.Node.preorderAll items, m.isDocument = false := by
      rw [hdocument]
      simpa using hnested
    have hjson := Slate.documentJson_eq_error (by simpa using hitems) asValue
    rw [Slate.Node.documentText, hjson]
    rfl

theorem documentOfRaw_eq_ok {ns : String} {v : Json} {tree : CommonMark.Node}
    (h : CommonMark.Node.documentOfRaw ns v = .ok tree) :
    ∃ nodes xmlns, tree = .document nodes xmlns := by
  unfold CommonMark.Node.documentOfRaw at h
  split at h
  case h_1 => cases h
  case h_2 nodes xmlns _ => exact ⟨nodes, xmlns, (Except.ok.inj h).symm⟩
  case h_3 => cases h

theorem Error.announced_or_ofSchema (e : SchemaError) :
    (Error.ofSchema e).Announced ∨
      ∃ digits, e.fault = .numeralTooLong digits ∧ Error.ofSchema e = .numeralTooLong digits := by
  unfold Error.ofSchema
  split
  case h_1 digits hfault => exact .inr ⟨digits, hfault, rfl⟩
  case h_2 => exact .inl (.schema e)

theorem readJsonText_eq_ok {format : DocumentFormat} {s : String} {v : Json} :
    (readJsonText format s).result = .ok v ↔ Json.parse s = .ok v := by
  unfold readJsonText
  cases Json.parse s <;> simp [Logged.fail]

theorem readJsonText_failsAnnounced (format : DocumentFormat) (s : String) :
    FailsWith Announced (readJsonText format s).result := by
  unfold readJsonText
  split
  · exact .ok _
  · exact .error (.parsing _)

/-- Of the two stages behind the schema only the second can fail with other errors. -/
theorem fragmentToSlate_error_cases {o : Options} {v : Json} {e : Error}
    (h : (fragmentToSlate o (.json v)).result = .error e) :
    e.Announced ∨ ∃ fields fault digits, v = .obj fields ∧
      CommonMark.Node.documentOfRaw o.ns (.obj fields) = .error fault ∧
      fault.fault = .numeralTooLong digits ∧ e = .numeralTooLong digits := by
  cases v with
  | obj fields =>
    rw [fragmentToSlate, rawToSlate] at h
    rcases Logged.result_bind_eq_error.mp h with hschema | ⟨tree, -, hback⟩
    · cases htree : CommonMark.Node.documentOfRaw o.ns (.obj fields) with
      | ok tree => simp [htree, Logged.ofExcept, Except.mapError] at hschema
      | error fault =>
        rw [htree] at hschema
        obtain rfl := Except.error.inj hschema
        rcases Error.announced_or_ofSchema fault with hannounced | ⟨digits, hlong, heq⟩
        · exact .inl hannounced
        · exact .inr ⟨fields, fault, digits, rfl, htree, hlong, heq⟩
    · exact .inl (commonMarkToSlate_failsAnnounced tree e hback)
  | _ =>
    obtain rfl := Except.error.inj h
    exact .inl (.conversion _)

theorem fragmentToSlate_eq_ok {o : Options} {v : Json} {d : Slate.Node}
    (h : (fragmentToSlate o (.json v)).result = .ok d) :
    ∃ fields nodes xmlns, v = .obj fields ∧
      CommonMark.Node.documentOfRaw o.ns (.obj fields) = .ok (.document nodes xmlns) ∧
      (commonMarkToSlate (.document nodes xmlns)).result = .ok d := by
  cases v with
  | obj fields =>
    rw [fragmentToSlate, rawToSlate] at h
    obtain ⟨tree, hschema, hback⟩ := Logged.result_bind_eq_ok.mp h
    have htree : CommonMark.Node.documentOfRaw o.ns (.obj fields) = .ok tree := by
      cases hread : CommonMark.Node.documentOfRaw o.ns (.obj fields) with
      | error fault => simp [hread, Logged.ofExcept, Except.mapError] at hschema
      | ok tree' => simpa [hread, Logged.ofExcept, Except.mapError] using hschema
    obtain ⟨nodes, xmlns, rfl⟩ := documentOfRaw_eq_ok htree
    exact ⟨fields, nodes, xmlns, rfl, htree, hback⟩
  | _ => cases h

theorem commonMarkTextToSlate_error_cases {o : Options} {indent : Option Int} {s : String}
    {e : Error} (h : (commonMarkTextToSlate o indent s).result = .error e) :
    e.Announced ∨ Slips o s e := by
  rcases Logged.result_bind_eq_error.mp h with hread | ⟨v, hread, h⟩
  · exact .inl (readJsonText_failsAnnounced .commonMark s e hread)
  have hparse := readJsonText_eq_ok.mp hread
  rcases Logged.result_bind_eq_error.mp h with hdocument | ⟨d, hdocument, hwrite⟩
  · rcases fragmentToSlate_error_cases hdocument with hannounced | hlong
    · exact .inl hannounced
    · obtain ⟨fields, fault, digits, rfl, hschema, hdigits, rfl⟩ := hlong
      exact .inr (.longNumeral hparse hschema hdigits)
  · obtain ⟨fields, nodes, xmlns, rfl, hschema, hback⟩ := fragmentToSlate_eq_ok hdocument
    obtain ⟨hproper, hnested⟩ := documentText_of_commonMarkToSlate hback true indent
    by_cases hinner : ∀ m ∈ CommonMark.Node.preorderAll nodes, m.tag ≠ .document
    · obtain ⟨target, htarget⟩ := hproper hinner
      simp [htarget, Logged.ofExcept, Except.mapError] at hwrite
    · have hdocuments : ∃ m ∈ CommonMark.Node.preorderAll nodes, m.tag = .document := by
        simpa using hinner
      rw [hnested hdocuments] at hwrite
      obtain rfl := Except.error.inj hwrite
      exact .inr (.nestedDocument hparse hschema hback hdocuments)

theorem Slips.commonMarkTextToSlate_result {o : Options} {s : String} {e : Error}
    (h : Slips o s e) (indent : Option Int) :
    (commonMarkTextToSlate o indent s).result = .error e := by
  cases h with
  | nestedDocument hparse hschema hback hnested =>
    have htext := (documentText_of_commonMarkToSlate hback true indent).2 hnested
    rw [SlateMark.commonMarkTextToSlate_result hparse hschema hback, htext]
    rfl
  | @longNumeral fields fault digits hparse hschema hlong =>
    have hread : (readJsonText .commonMark s).result = .ok (.obj fields) :=
      readJsonText_eq_ok.mpr hparse
    have hdocument : (fragmentToSlate o (.json (.obj fields))).result =
        .error (.numeralTooLong digits) := by
      rw [fragmentToSlate, rawToSlate, hschema]
      apply Logged.result_bind_of_error
      simp [Logged.ofExcept, Except.mapError, Error.ofSchema, hlong]
    rw [commonMarkTextToSlate, Logged.result_bind_of_ok hread,
      Logged.result_bind_of_error hdocument]

theorem numeralFrom?_ones (start n : Nat) :
    ∃ value, Text.numeralFrom? start (List.replicate n '1') = some value := by
  induction n generalizing start with
  | zero => exact ⟨start, rfl⟩
  | succ n ih => exact ih (10 * start + 1)

theorem strip_ones (n : Nat) : Text.strip (List.replicate n '1') = List.replicate n '1' := by
  have hdrop : (List.replicate n '1').dropWhile Text.isBlank = List.replicate n '1' := by
    cases n with
    | zero => rfl
    | succ n => rfl
  rw [Text.strip, hdrop, List.reverse_replicate, hdrop, List.reverse_replicate]

theorem readLevel_ones {fields : Fields} {n : Nat} (hlong : maxNumeralDigits < n)
    (hlevel : Fields.get? fields "level" = some (.str (String.ofList (List.replicate n '1')))) :
    CommonMark.readLevel fields = .error (.numeralTooLong n) := by
  have hnumeral : ∃ value, Text.strippedNumeral? (String.ofList (List.replicate n '1')) =
      some value := by
    obtain ⟨value, hvalue⟩ := numeralFrom?_ones 1 (n - 1)
    have hcons : List.replicate n '1' = '1' :: List.replicate (n - 1) '1' := by
      rw [← List.replicate_succ, Nat.sub_add_cancel (by omega)]
    refine ⟨value, ?_⟩
    rw [Text.strippedNumeral?, String.toList_ofList, strip_ones, hcons]
    exact hvalue
  obtain ⟨value, hvalue⟩ := hnumeral
  have htoolong : ¬ n ≤ maxNumeralDigits := by omega
  simp only [CommonMark.readLevel, hlevel, hvalue, String.toList_ofList, strip_ones,
    List.length_replicate, if_neg htoolong]

/-- A document in a document. -/
def nestedDocument (ns : String) : Json :=
  (CommonMark.Node.document [.document [] ""] "").toRaw ns

theorem slips_nestedDocument (o : Options) (indent : Option Int) :
    Slips o (Json.documentText indent (nestedDocument o.ns)) (.encoding .nestedDocument) := by
  have hparse := Json.parse_documentText
    (CommonMark.Node.plain_toRaw o.ns (.document [.document [] ""] "")) indent
  have hrange : ∀ m ∈ CommonMark.Node.preorderAll [.document [] ""], m.ValuesInRange := by
    simp [CommonMark.Node.preorderAll, CommonMark.Node.preorder, CommonMark.Node.ValuesInRange]
  have hschema := CommonMark.Node.documentOfRaw_toRaw o.ns "" hrange
  refine .nestedDocument hparse hschema rfl ?_
  simp [CommonMark.Node.preorderAll, CommonMark.Node.preorder, CommonMark.Node.tag]

/-- A heading whose level is spelled with this many ones, in a document. -/
def onesHeading (ns : String) (n : Nat) : Json :=
  (CommonMark.Node.document [] "").rawAround ns [CommonMark.rawNode ns .heading
    [("level", .str (String.ofList (List.replicate n '1')))]]

theorem slips_onesHeading (o : Options) (indent : Option Int) {n : Nat}
    (h : maxNumeralDigits < n) :
    Slips o (Json.documentText indent (onesHeading o.ns n)) (.numeralTooLong n) := by
  let attributes : Fields := [("level", .str (String.ofList (List.replicate n '1')))]
  have hplain : Json.Plain (onesHeading o.ns n) := by
    apply CommonMark.Node.plain_rawAround
    simp [CommonMark.rawNode, Fields.names, classKey]
  have hdeclared : ∀ name ∈ Fields.names attributes,
      name ∈ CommonMark.Tag.heading.attributes := by
    simp [attributes, Fields.names, CommonMark.Tag.attributes]
  have hlevel : CommonMark.readLevel ((classKey, .str (CommonMark.Tag.heading.className o.ns)) ::
      attributes) = .error (.numeralTooLong n) :=
    readLevel_ones h (by simp [attributes, Fields.get?, classKey])
  have hschema : ∃ e, CommonMark.Node.documentOfRaw o.ns (onesHeading o.ns n) = .error e ∧
      e.fault = .numeralTooLong n := by
    rw [onesHeading, CommonMark.Node.documentOfRaw_rawAround, CommonMark.Node.ofRawFrom,
      CommonMark.Node.ofRaw_rawNode o.ns hdeclared]
    simp only [CommonMark.build, hlevel]
    exact ⟨_, rfl, rfl⟩
  obtain ⟨e, he, hfault⟩ := hschema
  exact .longNumeral (Json.parse_documentText hplain indent) he hfault

/-- An error that is not announced ends a conversion back from CommonMark, exactly for a tree that
has a document below its root or a level with too many digits. -/
theorem convertText_eq_error_iff {e : Error} (he : ¬ e.Announced) (direction : Direction)
    (o : Options) (indent : Option Int) (s : String) :
    (convertText direction o indent s).result = .error e ↔
      direction = .toSlate ∧ Slips o s e := by
  cases direction with
  | toCommonMark =>
    refine iff_of_false (fun h => he ?_) (by simp)
    exact slateTextToCommonMark_failsAnnounced o indent s e h
  | toSlate =>
    constructor
    · intro h
      exact ⟨rfl, (commonMarkTextToSlate_error_cases h).resolve_left he⟩
    · rintro ⟨-, hslips⟩
      exact hslips.commonMarkTextToSlate_result indent

/-- A document in a document, and a level with one digit too many. -/
theorem convertText_eq_error_iff_nestedDocument :
    (convertText .toSlate Options.default (some 2)
        (Json.documentText none (nestedDocument Options.default.ns))).result =
      .error (.encoding .nestedDocument) ∧
    (convertText .toSlate Options.default none
        (Json.documentText (some 0) (onesHeading Options.default.ns 4301))).result =
      .error (.numeralTooLong 4301) := by
  have hencoding : ¬ (Error.encoding .nestedDocument).Announced := by
    rintro ⟨⟩
  have hnumeral : ¬ (Error.numeralTooLong 4301).Announced := by
    rintro ⟨⟩
  constructor
  · rw [convertText_eq_error_iff hencoding]
    exact ⟨rfl, slips_nestedDocument Options.default none⟩
  · rw [convertText_eq_error_iff hnumeral]
    exact ⟨rfl, slips_onesHeading Options.default (some 0) (by decide)⟩

end SlateMark
