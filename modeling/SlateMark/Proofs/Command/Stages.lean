import SlateMark.Command.Run
import SlateMark.Proofs.Config.Escape
import SlateMark.Proofs.Convert.Failure
import SlateMark.Proofs.Text.Utf8

/-!
The stages of a command, each by itself: the errors that the options, the input and the conversion
can end with, and what a conversion and a round trip have done when they end without one.
-/
namespace SlateMark.Command

open Files (Path)

/-- Besides the errors of the configuration there are those of values that are not valid. -/
theorem options_failsWith (flags : Flags) (s : Config.Surroundings) :
    FailsWith (fun e => Config.Fault e ∨ ∃ e', e = .validation e') (flags.options s) := by
  have hconfiguration : FailsWith Config.Fault (flags.configuration s) := by
    unfold Flags.configuration
    split
    · exact .ok _
    · exact Config.resolve_failsWith s flags.config true
  unfold Flags.options
  split
  · exact .error (.inl (hconfiguration _ ‹_›))
  · exact .mapError (fun e => .inr ⟨.invalidOptions e, rfl⟩) _

theorem readInput_failsWith (w : World) (source : String) :
    FailsWith (fun e => (∃ message, e = .file message) ∨ ∃ e', e = .parsing e')
      (readInput w source) := by
  unfold readInput
  split
  · exact .mapError (fun e => .inr ⟨.undecodable e, rfl⟩) _
  · cases hread : w.files.read w.cwd (Path.parse source) with
    | error problem =>
      simp only [hread]
      exact .error (.inl ⟨_, rfl⟩)
    | ok content =>
      simp only [hread, decodeInput]
      split
      · exact .error (.inr ⟨_, rfl⟩)
      · exact .ok _

theorem decodeInput_eq_ok_iff {content : List UInt8} {text : String} :
    decodeInput content = .ok text ↔
      ∃ s : String, content = Text.encodeUtf8 s ∧
        text = String.ofList (Text.unifyNewlines s.toList) := by
  constructor
  · intro h
    unfold decodeInput at h
    split at h
    case h_1 => cases h
    case h_2 s hdecode =>
      obtain rfl := Except.ok.inj h
      rw [← String.toList_ofList (l := s)] at hdecode
      refine ⟨String.ofList s, Text.decodeUtf8_eq_ok_iff.mp hdecode, ?_⟩
      rw [String.toList_ofList]
  · rintro ⟨s, rfl, rfl⟩
    rw [decodeInput, Text.decodeUtf8_eq_ok_iff.mpr rfl]

/-- What a command has written is read as it was, if it holds no carriage return. -/
theorem decodeInput_encodeUtf8 {s : String} (h : '\r' ∉ s.toList) :
    decodeInput (Text.encodeUtf8 s) = .ok s := by
  refine decodeInput_eq_ok_iff.mpr ⟨s, rfl, ?_⟩
  rw [Text.unifyNewlines_of_notMem h, String.ofList_toList]

/-- The input is the text that the bytes of its file encode, with one line feed for each line end. -/
theorem readInput_eq_ok_iff {w : World} {source text : String} (hsource : source ≠ "-") :
    readInput w source = .ok text ↔
      ∃ s : String, w.files.read w.cwd (Path.parse source) = .ok (Text.encodeUtf8 s) ∧
        text = String.ofList (Text.unifyNewlines s.toList) := by
  simp only [readInput, if_neg hsource]
  cases hread : w.files.read w.cwd (Path.parse source) with
  | error problem => simp
  | ok content =>
    rw [decodeInput_eq_ok_iff]
    simp only [Except.ok.injEq]

/-- Only a conversion back from CommonMark can slip. -/
theorem convertInput_failsWith (a : Arguments) (o : Options) (text : String) :
    FailsWith (fun e => e.Announced ∨ a.task = .convert .toSlate ∧ Slips o text e)
      (convertInput a o text).result := by
  unfold convertInput
  split
  case h_1 direction htask =>
    refine .logged ?_ fun _ => .ok _
    cases direction with
    | toCommonMark =>
      intro e he
      exact .inl (slateTextToCommonMark_failsAnnounced o _ text e he)
    | toSlate =>
      intro e he
      exact (commonMarkTextToSlate_error_cases he).imp_right fun hslips => ⟨htask, hslips⟩
  case h_2 htask =>
    intro e he
    have hannounced : FailsWith Error.Announced
        ((Slate.readDocumentText text).mapError Error.parsing >>= fun d =>
          Product.verdict <$> verifyRoundTrip o d).result := by
      apply FailsWith.logged (readDocumentText_failsAnnounced text)
      intro d
      rw [Logged.result_map]
      exact (verifyRoundTrip_failsAnnounced o d).map _
    exact .inl (hannounced e he)

theorem convertInput_convert {a : Arguments} {direction : Direction}
    (htask : a.task = .convert direction) {o : Options} {text : String} {product : Product} :
    (convertInput a o text).result = .ok product ↔
      ∃ s, (convertText direction o a.output.indent? text).result = .ok s ∧
        .text s (isEncodable direction o a.output.indent? text s) = product := by
  simp only [convertInput, htask, Logged.result_bind_eq_ok]
  exact exists_congr fun s => and_congr_right fun _ => ⟨Except.ok.inj, congrArg Except.ok⟩

/-- No escape, no surrogate: what a text without a backslash is converted to can be encoded. -/
theorem isEncodable_of_notMem {direction : Direction} {o : Options} {indent : Option Int}
    {text s : String} (htext : '\\' ∉ text.toList)
    (h : (convertText direction o indent text).result = .ok s) :
    isEncodable direction o indent text s = true := by
  have hsame : Json.otherStandIn text = text := by
    rw [Json.otherStandIn, Json.otherStandInFrom_of_notMem htext, String.ofList_toList]
  rw [isEncodable, hsame, h]
  exact decide_eq_true rfl

example :
    let text := "\x7b\"nodes\":[\x7b\"object\":\"text\",\"text\":\"\\ud800\"\x7d]\x7d"
    (convertText .toCommonMark Options.default none text).result.toOption.map
      (isEncodable .toCommonMark Options.default none text) = some false := by decide +kernel

theorem convertInput_roundTrip {a : Arguments} (htask : a.task = .roundTrip) {o : Options}
    {text : String} {product : Product} :
    (convertInput a o text).result = .ok product ↔
      ∃ d, (Slate.readDocumentText text).result = .ok d ∧
        ∃ survives, (verifyRoundTrip o d).result = .ok survives ∧ .verdict survives = product := by
  simp only [convertInput, htask, Logged.result_bind_eq_ok, Logged.result_mapError_eq_ok,
    Logged.result_map_eq_ok]

end SlateMark.Command
