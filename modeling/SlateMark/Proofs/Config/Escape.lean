import SlateMark.Proofs.Config.Failure
import SlateMark.Proofs.Config.Search

/-!
What escapes when a configuration is looked for. A file that is refused is either reported with its
path, or an error escapes from it as it is, and in a search too: a project file that is refused with
a report is passed over, but one from which an error escapes ends the search.
-/
namespace SlateMark.Config

open Files (Path)

/-- In a directory without dedicated files an error escapes from the project file. -/
structure EscapesIn (s : Surroundings) (directory : Path) (e : Error) : Prop where
  undedicated : ∀ name ∈ fileNames, s.files.isFile s.cwd (directory.entry name) = false
  escapes : EscapesAt s (directory.entry projectFileName) e

section Directory

variable {s : Surroundings} {directory : Path}

theorem EscapesAt.not_configuration {path : Path} {e : ConfigurationError} :
    ¬ EscapesAt s path (.configuration e) := by
  rintro ⟨content, format, -, -, hescapes⟩
  cases hescapes

theorem findIn_eq_error_iff {e : Error} :
    findIn s directory = .error e ↔ EscapesIn s directory e := by
  constructor
  · intro h
    cases hdedicated : dedicatedIn? s directory with
    | some file => simp [findIn, hdedicated] at h
    | none =>
      refine ⟨dedicatedIn?_eq_none_iff.mp hdedicated, ?_⟩
      rw [findIn_of_dedicatedIn? hdedicated] at h
      split at h
      case h_4 e' hno hload =>
        obtain rfl := Except.error.inj h
        rcases load_failsWith s _ e' hload with ⟨fault, rfl⟩ | hescapes
        · exact absurd rfl (hno _)
        · exact hescapes
      all_goals cases h
  · rintro ⟨hundedicated, hescapes⟩
    rw [findIn_of_dedicatedIn? (dedicatedIn?_eq_none_iff.mpr hundedicated),
      load_eq_error_of_escapesAt hescapes]
    cases e with
    | configuration e => exact absurd hescapes EscapesAt.not_configuration
    | _ => rfl

/-- A directory is passed over, and the search goes on, if its project file holds no configuration
or is refused with a report. -/
theorem findIn_passesOver_iff :
    findIn s directory = .ok none ↔
      (∀ name ∈ fileNames, s.files.isFile s.cwd (directory.entry name) = false) ∧
        (load s (directory.entry projectFileName) = .ok [] ∨
          ∃ e, load s (directory.entry projectFileName) = .error (.configuration e)) := by
  rw [← dedicatedIn?_eq_none_iff]
  cases hdedicated : dedicatedIn? s directory with
  | some file => simp [findIn, hdedicated]
  | none =>
    rw [findIn_of_dedicatedIn? hdedicated]
    cases load s (directory.entry projectFileName) with
    | ok fields => cases fields <;> simp
    | error e => cases e <;> simp

theorem findIn_eq_none_iff :
    findIn s directory = .ok none ↔
      (∀ name, ¬ Counts s directory name) ∧ ∀ e, ¬ EscapesIn s directory e := by
  constructor
  · intro h
    refine ⟨not_counts_of_findIn h, fun e hescapes => ?_⟩
    cases h.symm.trans (findIn_eq_error_iff.mpr hescapes)
  · rintro ⟨hcounts, hescapes⟩
    cases hfind : findIn s directory with
    | error e => exact absurd (findIn_eq_error_iff.mp hfind) (hescapes e)
    | ok found =>
      cases found with
      | none => rfl
      | some path =>
        obtain ⟨rank, name, hfirst, -⟩ := exists_isFirst_of_findIn hfind
        exact absurd hfirst.holds (hcounts name)

end Directory

/-- An error escapes from the project file of a directory, and the search gets there: in the nearer
directories nothing counts and nothing escapes. -/
def EscapesFirst (s : Surroundings) (place : List String) (e : Error) : Prop :=
  ∃ distance ≤ place.length, EscapesIn s (directoryAt place distance) e ∧
    ∀ nearer < distance, (∀ name, ¬ Counts s (directoryAt place nearer) name) ∧
      ∀ e', ¬ EscapesIn s (directoryAt place nearer) e'

theorem findInParents_eq_error_iff {s : Surroundings} {start : Option Path} {e : Error} :
    findInParents s start = .error e ↔ EscapesFirst s (startOf s start) e := by
  rw [findInParents_eq]
  constructor
  · intro h
    rcases search_cases s (startOf s start) with ⟨-, hfind⟩ | ⟨distance, hends, hfind⟩
    · cases hfind.symm.trans h
    · refine ⟨distance, hends.le, findIn_eq_error_iff.mp (hfind.symm.trans h), ?_⟩
      exact fun nearer hlt => findIn_eq_none_iff.mp (hends.passed nearer hlt)
  · rintro ⟨distance, hle, hescapes, hbefore⟩
    have herror := findIn_eq_error_iff.mpr hescapes
    have hends : EndsAt s (startOf s start) distance := by
      refine ⟨hle, ?_, fun nearer hlt => findIn_eq_none_iff.mpr (hbefore nearer hlt)⟩
      rw [herror]
      nofun
    exact hends.search_eq.trans herror

theorem discover_eq_error_iff {s : Surroundings} {start : Option Path} {e : Error} :
    discover s start = .error e ↔ findInParents s start = .error e := by
  unfold discover
  cases findInParents s start with
  | error e' => rfl
  | ok found => cases found <;> simp

/-- With readers that find no text only where there is none, a decoding error that escapes comes
from content that is no text. -/
theorem EscapesAt.not_isText {s : Surroundings} {path : Path} {e : Text.Utf8Error}
    (h : EscapesAt s path (.undecodable e)) (hlawful : s.readers.Lawful) :
    ∃ content, s.files.read s.cwd path = .ok content ∧ ¬ IsText content := by
  obtain ⟨content, format, hread, -, hescapes⟩ := h
  cases hescapes with
  | undecodable _ hfinds => exact ⟨content, hread, hlawful.not_isText hfinds⟩

/-- Whatever the readers accept, loading a file yields a mapping or reports its path, unless an
error escapes; a search passes over a project file that is refused with a report and comes to an end
unless an error escapes on its way. Decoding errors escape only from content that is no text,
provided that the readers find no text only there. -/
theorem failure_iff_escapes (s : Surroundings) :
    (∀ path, (∃ e, EscapesAt s path e ∧ load s path = .error e) ∨
      ((∀ e, ¬ EscapesAt s path e) ∧ ((∃ entries, load s path = .ok entries) ∨
        ∃ fault, load s path = .error (.configuration ⟨fault, path.text⟩)))) ∧
      (s.readers.Lawful → ∀ path e, EscapesAt s path (.undecodable e) →
        ∃ content, s.files.read s.cwd path = .ok content ∧ ¬ IsText content) ∧
      (∀ directory, findIn s directory = .ok none ↔
        (∀ name ∈ fileNames, s.files.isFile s.cwd (directory.entry name) = false) ∧
          (load s (directory.entry projectFileName) = .ok [] ∨
            ∃ e, load s (directory.entry projectFileName) = .error (.configuration e))) ∧
      (∀ start e, findInParents s start = .error e ↔ EscapesFirst s (startOf s start) e) ∧
      ∀ start e, discover s start = .error e ↔ EscapesFirst s (startOf s start) e := by
  refine ⟨fun path => ?_, fun hlawful _ _ h => h.not_isText hlawful, fun _ => findIn_passesOver_iff,
    fun _ _ => findInParents_eq_error_iff,
    fun _ _ => discover_eq_error_iff.trans findInParents_eq_error_iff⟩
  by_cases hescapes : ∃ e, EscapesAt s path e
  · obtain ⟨e, he⟩ := hescapes
    exact .inl ⟨e, he, load_eq_error_of_escapesAt he⟩
  · refine .inr ⟨fun e he => hescapes ⟨e, he⟩, ?_⟩
    cases hload : load s path with
    | ok entries => exact .inl ⟨entries, rfl⟩
    | error e =>
      rcases load_failsWith s path e hload with ⟨fault, rfl⟩ | he
      · exact .inr ⟨fault, rfl⟩
      · exact absurd ⟨e, he⟩ hescapes

/-- Two project files at the root: a byte that starts no character, and a number for `tool`. -/
theorem failure_iff_escapes_project :
    let path : Path := .absolute [projectFileName]
    let holding (content : List UInt8) : Surroundings :=
      ⟨.directory [(projectFileName, .file content)], [], .absolute [], none, .standard⟩
    let byte : Surroundings := holding [0xff]
    let number : Surroundings := holding (Text.encodeUtf8 "tool = 1\n")
    ((∃ e, EscapesAt byte path (.undecodable e) ∧ load byte path = .error (.undecodable e) ∧
        findInParents byte none = .error (.undecodable e)) ∧
      ∃ content, byte.files.read byte.cwd path = .ok content ∧ ¬ IsText content) ∧
      EscapesAt number path (.toolNotATable "int") ∧
      load number path = .error (.toolNotATable "int") ∧
      findInParents number none = .error (.toolNotATable "int") := by
  intro path holding byte number
  have hfirst : ∀ {content : List UInt8} {e : Error}, EscapesAt (holding content) path e →
      EscapesFirst (holding content) (startOf (holding content) none) e := by
    intro content e hescapes
    refine ⟨0, Nat.le_refl 0, ⟨?_, hescapes⟩, fun nearer hlt => ?_⟩
    · simp only [fileNames, List.forall_mem_cons]
      exact ⟨rfl, rfl, rfl, rfl, nofun⟩
    · exact absurd hlt (Nat.not_lt_zero nearer)
  refine ⟨?_, ?_⟩
  · let e : Text.Utf8Error := ⟨.invalidStart, 0, [0xff]⟩
    have hescapes : EscapesAt byte path (.undecodable e) :=
      ⟨[0xff], .project, rfl, formatOf?_entry_projectFileName (.absolute []), .undecodable _ rfl⟩
    obtain ⟨-, htext, -, hfind, -⟩ := failure_iff_escapes byte
    exact ⟨⟨e, hescapes, load_eq_error_of_escapesAt hescapes, (hfind none _).mpr (hfirst hescapes)⟩,
      htext Readers.standard_lawful path e hescapes⟩
  · have hfound : (match load number path with
        | .error (.toolNotATable found) => some found
        | _ => none) = some "int" := by
      decide +kernel
    obtain ⟨hload, -, -, hfind, -⟩ := failure_iff_escapes number
    have hescapes : EscapesAt number path (.toolNotATable "int") := by
      rcases hload path with ⟨e, hescapes, hload⟩ | ⟨-, ⟨entries, hload⟩ | ⟨fault, hload⟩⟩
      · rw [hload] at hfound
        cases e with
        | toolNotATable found => exact Option.some.inj hfound ▸ hescapes
        | _ => cases hfound
      · rw [hload] at hfound
        cases hfound
      · rw [hload] at hfound
        cases hfound
    exact ⟨hescapes, load_eq_error_of_escapesAt hescapes, (hfind none _).mpr (hfirst hescapes)⟩

/-- Wherever the configuration is looked for, it fails in no other way. -/
theorem resolve_failsWith (s : Surroundings) (explicit : Option String) (discovering : Bool) :
    FailsWith Fault (resolve s explicit discovering) := by
  have happlies := applies_resolve s explicit discovering
  generalize resolve s explicit discovering = outcome at happlies
  cases happlies with
  | explicit => exact fault_of_load
  | environment => exact fault_of_load
  | discovered => exact fault_of_load
  | unsearchable _ _ _ hdiscover =>
    have hfind := discover_eq_error_iff.mp hdiscover
    obtain ⟨_, _, ⟨_, content, format, _, _, hescapes⟩, _⟩ := findInParents_eq_error_iff.mp hfind
    exact .error hescapes.fault
  | nowhere => exact .ok []

end SlateMark.Config
