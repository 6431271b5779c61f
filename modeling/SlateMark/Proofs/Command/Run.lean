import SlateMark.Config.Standard
import SlateMark.Proofs.Command.Output
import SlateMark.Proofs.Command.Stages
import SlateMark.Proofs.Text.Utf8

/-!
A command is all or nothing. Its stages are the options, the input, the conversion and the output;
the first that fails decides the exit code. A command that ends with another code than success has
printed nothing, and no file but that of the log is other than before, whatever files the arguments
name.
-/
namespace SlateMark.Command

open Files (Path Tree)
open Files.Tree (UnchangedBut)

namespace World

variable (w : World) (a : Arguments)

def journal : Journal := .start a w.stamp w.files w.cwd

/-- What the stages find: the file of the log is there. -/
def opened : World := { w with files := (w.journal a).files }

/-- The journal before the output. -/
def noted : Journal := (w.journal a).noteAll (produce (w.opened a) a).events

/-- The options are valid and the input is there, so the conversion has its turn. -/
structure Converts (o : Options) (text : String) : Prop where
  options_eq : a.options (w.opened a).toSurroundings = .ok o
  input_eq : readInput (w.opened a) a.input = .ok text

/-- Codes by the first stage that fails. -/
inductive Ends : ExitCode → Prop
  | configuration {e : ConfigurationError}
      (h : a.options (w.opened a).toSurroundings = .error (.configuration e)) : Ends .configuration
  | options {e : ValidationError}
      (h : a.options (w.opened a).toSurroundings = .error (.validation e)) : Ends .validation
  | unreadable {o : Options} {message : String}
      (ho : a.options (w.opened a).toSurroundings = .ok o)
      (h : readInput (w.opened a) a.input = .error (.file message)) : Ends .file
  | undecodable {o : Options} {e : ParsingError}
      (ho : a.options (w.opened a).toSurroundings = .ok o)
      (h : readInput (w.opened a) a.input = .error (.parsing e)) : Ends .parsing
  | parsing {o : Options} {text : String} {e : ParsingError} (hstages : w.Converts a o text)
      (h : (convertInput a o text).result = .error (.parsing e)) : Ends .parsing
  | schema {o : Options} {text : String} {e : SchemaError} (hstages : w.Converts a o text)
      (h : (convertInput a o text).result = .error (.schema e)) : Ends .validation
  | conversion {o : Options} {text : String} {e : ConversionError} (hstages : w.Converts a o text)
      (h : (convertInput a o text).result = .error (.conversion e)) : Ends .conversion
  | mismatch {o : Options} {text : String} (hstages : w.Converts a o text)
      (h : (convertInput a o text).result = .ok (.verdict false)) : Ends .mismatch
  | unwritable {o : Options} {text s name : String} {encodable : Bool} {problem : Files.Problem}
      (hstages : w.Converts a o text)
      (h : (convertInput a o text).result = .ok (.text s encodable))
      (hname : a.output.path.filter (· ≠ "") = some name)
      (hopen : (w.noted a).files.openForWriting w.cwd (Path.parse name) = .error problem) :
      Ends .file
  | printed {o : Options} {text s : String} (hstages : w.Converts a o text)
      (h : (convertInput a o text).result = .ok (.text s true))
      (hname : a.output.path.filter (· ≠ "") = none) : Ends .success
  | written {o : Options} {text s name : String} {files : Tree} (hstages : w.Converts a o text)
      (h : (convertInput a o text).result = .ok (.text s true))
      (hname : a.output.path.filter (· ≠ "") = some name)
      (hwrite : (w.noted a).files.write w.cwd (Path.parse name) (Text.encodeUtf8 (s ++ "\n")) =
        .ok files) : Ends .success
  | survives {o : Options} {text : String} (hstages : w.Converts a o text)
      (h : (convertInput a o text).result = .ok (.verdict true)) : Ends .success

/-- The output has its turn and can be opened, but the text for it cannot be encoded. -/
def Unencodable : Prop :=
  ∃ o text s, w.Converts a o text ∧ (convertInput a o text).result = .ok (.text s false) ∧
    (w.noted a).Opens w.cwd a.output.path

/-! The end of a command. -/

variable {w a}

theorem noted_unchangedBut (w : World) (a : Arguments) :
    UnchangedBut (w.journal a).logPlace? w.files (w.noted a).files :=
  (Journal.start_unchangedBut a w.stamp w.files w.cwd).trans
    ((w.journal a).noteAll_unchangedBut _)

theorem noted_logPlace? (w : World) (a : Arguments) :
    (w.noted a).logPlace? = (w.journal a).logPlace? :=
  Journal.noteAll_logPlace? _ _

theorem produce_eq_ok {product : Product} : (produce (w.opened a) a).result = .ok product ↔
    ∃ o text, w.Converts a o text ∧ (convertInput a o text).result = .ok product := by
  constructor
  · intro h
    obtain ⟨o, ho, h⟩ := Logged.result_bind_eq_ok.mp h
    obtain ⟨text, htext, h⟩ := Logged.result_bind_eq_ok.mp h
    exact ⟨o, text, ⟨ho, htext⟩, h⟩
  · rintro ⟨o, text, ⟨ho, htext⟩, h⟩
    exact Logged.result_bind_eq_ok.mpr ⟨o, ho, Logged.result_bind_eq_ok.mpr ⟨text, htext, h⟩⟩

theorem produce_eq_error {e : Error} : (produce (w.opened a) a).result = .error e ↔
    a.options (w.opened a).toSurroundings = .error e ∨
    (∃ o, a.options (w.opened a).toSurroundings = .ok o ∧
      readInput (w.opened a) a.input = .error e) ∨
    ∃ o text, w.Converts a o text ∧ (convertInput a o text).result = .error e := by
  constructor
  · intro h
    rcases Logged.result_bind_eq_error.mp h with ho | ⟨o, ho, h⟩
    · exact .inl ho
    · rcases Logged.result_bind_eq_error.mp h with hi | ⟨text, hi, hconvert⟩
      · exact .inr (.inl ⟨o, ho, hi⟩)
      · exact .inr (.inr ⟨o, text, ⟨ho, hi⟩, hconvert⟩)
  · rintro (ho | ⟨o, ho, hi⟩ | ⟨o, text, ⟨ho, hi⟩, hconvert⟩)
    · exact Logged.result_bind_eq_error.mpr (.inl ho)
    · exact Logged.result_bind_eq_error.mpr
        (.inr ⟨o, ho, Logged.result_bind_eq_error.mpr (.inl hi)⟩)
    · exact Logged.result_bind_eq_error.mpr
        (.inr ⟨o, ho, Logged.result_bind_eq_error.mpr (.inr ⟨text, hi, hconvert⟩)⟩)

/-- An error before the output is that of the first stage that failed. -/
theorem ends_of_produce {e : Error} (h : (produce (w.opened a) a).result = .error e)
    (hreported : Reported e) : w.Ends a e.exitCode := by
  rcases produce_eq_error.mp h with ho | ⟨o, ho, hi⟩ | ⟨o, text, hstages, hconvert⟩
  · rcases options_failsWith a.toFlags _ e ho with hfault | ⟨e', rfl⟩
    · cases hfault with
      | configuration e' => exact .configuration ho
      | undecodable e' => simp [Reported, Error.kind?] at hreported
      | toolNotATable found => simp [Reported, Error.kind?] at hreported
    · exact .options ho
  · rcases readInput_failsWith (w.opened a) a.input e hi with ⟨message, rfl⟩ | ⟨e', rfl⟩
    · exact .unreadable ho hi
    · exact .undecodable ho hi
  · rcases convertInput_failsWith a o text e hconvert with hannounced | ⟨-, hslips⟩
    · cases hannounced with
      | parsing e' => exact .parsing hstages hconvert
      | schema e' => exact .schema hstages hconvert
      | conversion e' =>
        rw [exitCode_conversion]
        exact .conversion hstages hconvert
    · cases hslips <;> simp [Reported, Error.kind?] at hreported

theorem run_of_error {e : Error} (h : (produce (w.opened a) a).result = .error e) :
    run w a = (w.noted a).abandon e := by
  simp only [opened, journal] at h
  simp only [run, h]
  rfl

theorem run_of_ok {product : Product} (h : (produce (w.opened a) a).result = .ok product) :
    run w a = (w.noted a).deliver w.cwd a.output.path product := by
  simp only [opened, journal] at h
  simp only [run, h]
  rfl

/-- Nothing is printed and no file but that of the log is touched. -/
structure Untouched (w : World) (a : Arguments) : Prop where
  output_eq : (run w a).output = ""
  files : UnchangedBut (w.journal a).logPlace? w.files (run w a).files

/-- A text is printed or, if a file is named for it, written to that file and nowhere else: the file
then holds the bytes that are read as the text. -/
def Delivers (w : World) (a : Arguments) (s : String) : Prop :=
  match a.output.path.filter (· ≠ "") with
  | none => (run w a).output = s ∧ UnchangedBut (w.journal a).logPlace? w.files (run w a).files
  | some name => (run w a).output = "" ∧
      ∃ place, (w.noted a).files.locate w.cwd (Path.parse name) = .ok place ∧
        ((w.journal a).logPlace? ≠ some place → ∃ content,
          (run w a).files.fileAt? place = some content ∧
            Text.decodeUtf8 content = .ok s.toList) ∧
        ∀ other, other ≠ place → (w.journal a).logPlace? ≠ some other →
          (run w a).files.fileAt? other = w.files.fileAt? other

theorem untouched_of_abandon {e : Error} (h : run w a = (w.noted a).abandon e) :
    w.Untouched a := by
  have habandon := (w.noted a).abandon_unchangedBut e
  rw [noted_logPlace?] at habandon
  constructor
  · rw [h]
    exact Journal.abandon_output _ e
  · rw [h]
    exact (noted_unchangedBut w a).trans habandon

theorem delivers_of_write {name : String} {files : Tree} {s : String}
    (hcwd : w.files.IsDirectory w.cwd)
    (hname : a.output.path.filter (· ≠ "") = some name)
    (hwrite : (w.noted a).files.write w.cwd (Path.parse name) (Text.encodeUtf8 s) = .ok files)
    (h : run w a =
      ({ w.noted a with files := files }.note (.outputWritten name)).finish .success "") :
    w.Delivers a s := by
  obtain ⟨place, hlocate, hplace, rfl⟩ := Tree.write_eq_ok hwrite
  have hnoted := noted_unchangedBut w a
  have hparent := Tree.isDirectory_of_locate (hnoted.isDirectory w.cwd hcwd) hlocate
  have hput := UnchangedBut.put hplace (Text.encodeUtf8 s)
  let written : Journal :=
    { w.noted a with files := Tree.put (.file (Text.encodeUtf8 s)) place (w.noted a).files }
  have hnote : UnchangedBut (w.journal a).logPlace? written.files (run w a).files := by
    rw [h, ← noted_logPlace? w a]
    exact written.note_unchangedBut (.outputWritten name)
  rw [Delivers, hname]
  refine ⟨by rw [h]; rfl, place, hlocate, ?_, ?_⟩
  · intro hlog
    refine ⟨Text.encodeUtf8 s, ?_, Text.decodeUtf8_eq_ok_iff.mpr rfl⟩
    rw [hnote.fileAt?_eq place hlog]
    exact Tree.fileAt?_put_self hparent _
  · intro other hother hlog
    have hne : some place ≠ some other := fun heq => hother (Option.some.inj heq).symm
    rw [hnote.fileAt?_eq other hlog, hput.fileAt?_eq other hne, hnoted.fileAt?_eq other hlog]

theorem text_cases {o : Options} {text s : String} {encodable : Bool} {c : ExitCode}
    (hcwd : w.files.IsDirectory w.cwd) (hstages : w.Converts a o text)
    (hconvert : (convertInput a o text).result = .ok (.text s encodable))
    (h : (run w a).result = .ok c) :
    w.Ends a c ∧ (c ≠ .success → w.Untouched a) ∧ (c = .success → w.Delivers a (s ++ "\n")) := by
  have hrun : run w a = (w.noted a).deliverText w.cwd a.output.path (s ++ "\n") encodable :=
    run_of_ok (produce_eq_ok.mpr ⟨o, text, hstages, hconvert⟩)
  rcases Journal.deliverText_cases (w.noted a) w.cwd a.output.path (s ++ "\n") encodable with
    ⟨name, problem, hname, hopen, hend⟩ | ⟨-, -, hend⟩ | ⟨rfl, hname, hend⟩ |
    ⟨name, files, rfl, hname, hwrite, hend⟩
  · rw [hend] at hrun
    rw [hrun] at h
    obtain ⟨rfl, -⟩ := Journal.abandon_eq_ok h
    exact ⟨.unwritable hstages hconvert hname hopen, fun _ => untouched_of_abandon hrun,
      fun hc => by cases hc⟩
  · rw [hrun, hend] at h
    cases h
  · rw [hend] at hrun
    rw [hrun] at h
    obtain rfl := Except.ok.inj h
    refine ⟨.printed hstages hconvert hname, fun hne => absurd rfl hne, fun _ => ?_⟩
    rw [Delivers, hname, hrun]
    exact ⟨rfl, noted_unchangedBut w a⟩
  · rw [hend] at hrun
    have hdelivers := delivers_of_write hcwd hname hwrite hrun
    rw [hrun] at h
    obtain rfl := Except.ok.inj h
    exact ⟨.written hstages hconvert hname hwrite, fun hne => absurd rfl hne, fun _ => hdelivers⟩

theorem verdict_cases {o : Options} {text : String} {survives : Bool} {c : ExitCode}
    (hstages : w.Converts a o text)
    (hconvert : (convertInput a o text).result = .ok (.verdict survives))
    (h : (run w a).result = .ok c) :
    w.Ends a c ∧ (c ≠ .success → w.Untouched a) := by
  have hrun := run_of_ok (produce_eq_ok.mpr ⟨o, text, hstages, hconvert⟩)
  have hnoted := noted_unchangedBut w a
  cases survives with
  | true =>
    rw [hrun] at h
    obtain rfl := Except.ok.inj h
    exact ⟨.survives hstages hconvert, fun hne => absurd rfl hne⟩
  | false =>
    rw [hrun] at h
    obtain rfl := Except.ok.inj h
    refine ⟨.mismatch hstages hconvert, fun _ => ⟨?_, ?_⟩⟩
    · rw [hrun]
      rfl
    · rw [hrun]
      exact hnoted

/-- The conversion is reached, and the document is equal to itself after its round trip. -/
def Survives (w : World) (a : Arguments) : Prop :=
  ∃ o text d, w.Converts a o text ∧ (Slate.readDocumentText text).result = .ok d ∧
    (verifyRoundTrip o d).result = .ok true

theorem output_roundTrip (htask : a.task = .roundTrip) :
    (run w a).output = "Round trip OK\n" ↔ w.Survives a := by
  constructor
  · intro houtput
    cases hproduce : (produce (w.opened a) a).result with
    | error e =>
      rw [run_of_error hproduce, Journal.abandon_output] at houtput
      exact absurd houtput (by decide)
    | ok product =>
      rw [run_of_ok hproduce] at houtput
      obtain ⟨o, text, hstages, hconvert⟩ := produce_eq_ok.mp hproduce
      obtain ⟨d, hread, survives, hverify, rfl⟩ := (convertInput_roundTrip htask).mp hconvert
      cases survives with
      | true => exact ⟨o, text, d, hstages, hread, hverify⟩
      | false =>
        change "" = "Round trip OK\n" at houtput
        exact absurd houtput (by decide)
  · rintro ⟨o, text, d, hstages, hread, hverify⟩
    have hconvert := (convertInput_roundTrip htask).mpr ⟨d, hread, true, hverify, rfl⟩
    rw [run_of_ok (produce_eq_ok.mpr ⟨o, text, hstages, hconvert⟩)]
    rfl

/-- An error that is not reported comes from before the output, or is that of a text that cannot be
encoded. -/
theorem run_error_cases {e : Error} (h : (run w a).result = .error e) :
    ((produce (w.opened a) a).result = .error e ∧ ¬ Reported e) ∨
      e = .unencodable ∧ w.Unencodable a := by
  cases hproduce : (produce (w.opened a) a).result with
  | error e' =>
    rw [run_of_error hproduce] at h
    obtain ⟨rfl, hreported⟩ := Journal.abandon_eq_error h
    exact .inl ⟨rfl, hreported⟩
  | ok product =>
    rw [run_of_ok hproduce] at h
    obtain ⟨o, text, hstages, hconvert⟩ := produce_eq_ok.mp hproduce
    cases product with
    | verdict survives => cases survives <;> cases h
    | text s encodable =>
      obtain ⟨rfl, rfl, hopen⟩ := Journal.deliverText_eq_error h
      exact .inr ⟨rfl, o, text, s, hstages, hconvert, hopen⟩

/-- A command ends without a code only if its configuration is no text or no table, if a conversion
back from CommonMark slips, or if what is converted denotes an unpaired surrogate. -/
theorem run_eq_error_iff {e : Error} : (run w a).result = .error e ↔
    (a.options (w.opened a).toSurroundings = .error e ∧ ¬ Reported e) ∨
    (a.task = .convert .toSlate ∧ ∃ o text, w.Converts a o text ∧ Slips o text e) ∨
    e = .unencodable ∧ w.Unencodable a := by
  constructor
  · intro h
    rcases run_error_cases h with ⟨hproduce, hreported⟩ | hunencodable
    · rcases produce_eq_error.mp hproduce with ho | ⟨o, ho, hi⟩ | ⟨o, text, hstages, hconvert⟩
      · exact .inl ⟨ho, hreported⟩
      · rcases readInput_failsWith _ a.input e hi with ⟨message, rfl⟩ | ⟨e', rfl⟩
        · exact absurd (.inl ⟨message, rfl⟩) hreported
        · exact absurd (.inr rfl) hreported
      · rcases convertInput_failsWith a o text e hconvert with hannounced | ⟨htask, hslips⟩
        · exact absurd (.inr (by cases hannounced <;> rfl)) hreported
        · exact .inr (.inl ⟨htask, o, text, hstages, hslips⟩)
    · exact .inr (.inr hunencodable)
  · rintro (⟨ho, hreported⟩ | ⟨htask, o, text, hstages, hslips⟩ | ⟨rfl, hunencodable⟩)
    · rw [run_of_error (produce_eq_error.mpr (.inl ho))]
      exact Journal.abandon_of_not_reported hreported _
    · have hconvert : (convertInput a o text).result = .error e := by
        simp only [convertInput, htask]
        exact Logged.result_bind_eq_error.mpr (.inl (hslips.commonMarkTextToSlate_result _))
      have hreported : ¬ Reported e := by
        cases hslips <;> simp [Reported, Error.kind?]
      rw [run_of_error (produce_eq_error.mpr (.inr (.inr ⟨o, text, hstages, hconvert⟩)))]
      exact Journal.abandon_of_not_reported hreported _
    · obtain ⟨o, text, s, hstages, hconvert, hopen⟩ := hunencodable
      rw [run_of_ok (produce_eq_ok.mpr ⟨o, text, hstages, hconvert⟩)]
      exact Journal.deliverText_unencodable hopen

/-- Without an escape in the input every output can be encoded. -/
theorem not_unencodable_of_notMem {text : String}
    (hinput : readInput (w.opened a) a.input = .ok text) (htext : '\\' ∉ text.toList) :
    ¬ w.Unencodable a := by
  rintro ⟨o, text', s, ⟨-, hread⟩, hconvert, -⟩
  obtain rfl := Except.ok.inj (hinput.symm.trans hread)
  cases htask : a.task with
  | convert direction =>
    obtain ⟨s', hresult, hs⟩ := (convertInput_convert htask).mp hconvert
    obtain ⟨rfl, hencodable⟩ := Product.text.inj hs
    rw [isEncodable_of_notMem htext hresult] at hencodable
    cases hencodable
  | roundTrip =>
    obtain ⟨d, -, survives, -, hs⟩ := (convertInput_roundTrip htask).mp hconvert
    cases hs

/-- The relation of codes to stages leaves no choice: a command ends with the code it allows. -/
theorem result_of_ends {c : ExitCode} (h : w.Ends a c) : (run w a).result = .ok c := by
  have herror : ∀ {e}, (produce (w.opened a) a).result = .error e →
      (run w a).result = ((w.noted a).abandon e).result :=
    fun hproduce => congrArg Outcome.result (run_of_error hproduce)
  have hproduct : ∀ {o text product}, w.Converts a o text →
      (convertInput a o text).result = .ok product →
      run w a = (w.noted a).deliver w.cwd a.output.path product := by
    intro o text product hstages hconvert
    exact run_of_ok (produce_eq_ok.mpr ⟨o, text, hstages, hconvert⟩)
  cases h with
  | configuration ho => exact herror (produce_eq_error.mpr (.inl ho))
  | options ho => exact herror (produce_eq_error.mpr (.inl ho))
  | unreadable ho hi => exact herror (produce_eq_error.mpr (.inr (.inl ⟨_, ho, hi⟩)))
  | undecodable ho hi => exact herror (produce_eq_error.mpr (.inr (.inl ⟨_, ho, hi⟩)))
  | parsing hstages hconvert =>
    exact herror (produce_eq_error.mpr (.inr (.inr ⟨_, _, hstages, hconvert⟩)))
  | schema hstages hconvert =>
    exact herror (produce_eq_error.mpr (.inr (.inr ⟨_, _, hstages, hconvert⟩)))
  | @conversion _ _ e hstages hconvert =>
    rw [herror (produce_eq_error.mpr (.inr (.inr ⟨_, _, hstages, hconvert⟩)))]
    have hreported : Reported (.conversion e) := .inr rfl
    rw [Journal.abandon_of_reported hreported, exitCode_conversion]
  | mismatch hstages hconvert =>
    rw [hproduct hstages hconvert]
    rfl
  | survives hstages hconvert =>
    rw [hproduct hstages hconvert]
    rfl
  | unwritable hstages hconvert hname hopen =>
    rw [hproduct hstages hconvert, Journal.deliver, Journal.deliverText_of_refused hname hopen]
    rfl
  | printed hstages hconvert hname =>
    rw [hproduct hstages hconvert, Journal.deliver, Journal.deliverText_of_none hname]
    rfl
  | written hstages hconvert hname hwrite =>
    rw [hproduct hstages hconvert, Journal.deliver, Journal.deliverText_of_write hname hwrite]
    rfl

end World

/-- The first stage that fails decides the code of a command. Without success nothing is printed and
nothing written; with success a conversion has delivered its text and a line feed, and a round trip
its verdict. -/
theorem run_allOrNothing {w : World} {a : Arguments} {c : ExitCode}
    (hcwd : w.files.IsDirectory w.cwd) (h : (run w a).result = .ok c) :
    (∀ code, w.Ends a code ↔ code = c) ∧ (c ≠ .success → w.Untouched a) ∧
    (c = .success → ∀ direction, a.task = .convert direction → ∃ o text s, w.Converts a o text ∧
      (convertText direction o a.output.indent? text).result = .ok s ∧ w.Delivers a (s ++ "\n")) ∧
    (a.task = .roundTrip → ((run w a).output = "Round trip OK\n" ↔ w.Survives a)) := by
  have hunique : w.Ends a c → ∀ code, w.Ends a code ↔ code = c := by
    intro hends code
    constructor
    · intro hcode
      exact Except.ok.inj ((World.result_of_ends hcode).symm.trans h)
    · rintro rfl
      exact hends
  cases hproduce : (produce (w.opened a) a).result with
  | error e =>
    have hrun := World.run_of_error hproduce
    have habandon : ((w.noted a).abandon e).result = .ok c := hrun ▸ h
    obtain ⟨rfl, hreported⟩ := Journal.abandon_eq_ok habandon
    refine ⟨hunique (World.ends_of_produce hproduce hreported), ?_, ?_, World.output_roundTrip⟩
    · exact fun _ => World.untouched_of_abandon hrun
    · exact fun hsuccess => absurd hsuccess (exitCode_ne_success e)
  | ok product =>
    obtain ⟨o, text, hstages, hconvert⟩ := World.produce_eq_ok.mp hproduce
    cases product with
    | text s encodable =>
      obtain ⟨hends, huntouched, hdelivers⟩ := World.text_cases hcwd hstages hconvert h
      refine ⟨hunique hends, huntouched, ?_, World.output_roundTrip⟩
      intro hsuccess direction htask
      obtain ⟨written, htext, hs⟩ := (convertInput_convert htask).mp hconvert
      obtain ⟨rfl, -⟩ := Product.text.inj hs
      exact ⟨o, text, written, hstages, htext, hdelivers hsuccess⟩
    | verdict survives =>
      obtain ⟨hends, huntouched⟩ := World.verdict_cases hstages hconvert h
      refine ⟨hunique hends, huntouched, ?_, World.output_roundTrip⟩
      intro _ direction htask
      obtain ⟨s, -, hverdict⟩ := (convertInput_convert htask).mp hconvert
      cases hverdict

/-- A conversion that fails and would have replaced its own input, a command with three faults of
which the first counts, and a round trip without a fault. -/
theorem run_allOrNothing_inPlace :
    let note : Tree := .directory [("note", .file [0x5B])]
    let w : World := ⟨⟨note, [], .absolute [], none, .standard⟩, .ok "", ""⟩
    let inPlace : Arguments :=
      { task := .convert .toSlate, input := "note", output := { path := some "note" } }
    let misguided : Arguments :=
      { task := .convert .toSlate, input := "missing", ns := some ""
        output := { path := some "." } }
    let check : Arguments := { task := .roundTrip, input := "-" }
    (w.Ends inPlace .parsing ∧ (run w inPlace).files.fileAt? ["note"] = some [0x5B]) ∧
    (w.Ends misguided .validation ∧ (run w misguided).output = "") ∧
    ∃ text, (run { w with standardInput := .ok text } check).output = "Round trip OK\n" := by
  intro note w inPlace misguided check
  have hcwd : w.files.IsDirectory w.cwd := ⟨_, rfl⟩
  refine ⟨?_, ?_, ?_⟩
  · have hresult : (run w inPlace).result = .ok .parsing := by
      dsimp only [w, inPlace, note]
      rfl
    obtain ⟨hends, huntouched, -⟩ := run_allOrNothing hcwd hresult
    have hfile := (huntouched (by decide)).files.fileAt?_eq ["note"] (by decide)
    exact ⟨(hends .parsing).mpr rfl, hfile⟩
  · have hresult : (run w misguided).result = .ok .validation := by rfl
    obtain ⟨hends, huntouched, -⟩ := run_allOrNothing hcwd hresult
    exact ⟨(hends .validation).mpr rfl, (huntouched (by decide)).output_eq⟩
  · have hempty : ∀ m ∈ Slate.Node.preorderAll [], m.Storable := by simp [Slate.Node.preorderAll]
    obtain ⟨text, -, hread⟩ := Slate.readDocumentText_documentText hempty false none
    refine ⟨text, ?_⟩
    let w' : World := { w with standardInput := .ok text }
    have hstages : w'.Converts check Options.default text := ⟨rfl, rfl⟩
    have htree : (slateToCommonMark Options.default (.document [])).result =
        .ok (.document [] "slate") :=
      slateToCommonMark_of_corresponds (by simp [Slate.Node.liveAll]) .nil
    have hround : (roundTrip Options.default (.document [])).result = .ok (.document []) :=
      Logged.result_bind_eq_ok.mpr ⟨_, htree, rfl⟩
    have hverify : (verifyRoundTrip Options.default (.document [])).result = .ok true := by
      rw [verifyRoundTrip, Logged.result_bind_of_ok hround]
      rfl
    have hdocument : (Slate.readDocumentText text).result = .ok (.document []) := by
      rw [hread]
      rfl
    have hconvert : (convertInput check Options.default text).result = .ok (.verdict true) :=
      (convertInput_roundTrip rfl).mpr ⟨_, hdocument, true, hverify, rfl⟩
    have hresult := World.result_of_ends (.survives hstages hconvert)
    obtain ⟨-, -, -, hline⟩ := run_allOrNothing (w := w') hcwd hresult
    exact (hline rfl).mpr ⟨_, text, _, hstages, hdocument, hverify⟩

end SlateMark.Command
