import SlateMark.Command.Run
import SlateMark.Proofs.Command.Journal

/-!
The last stage of a command. An error is reported with its code or ends the command without one; a
text is printed, written to its file, refused because of the file, or cannot be encoded.
-/
namespace SlateMark.Command

open Files (Path Tree)
open Files.Tree (UnchangedBut)

theorem exitCode_conversion (e : ConversionError) :
    (Error.conversion e).exitCode = .conversion := by
  change e.fault.kind.exitCode = .conversion
  cases e.fault <;> rfl

theorem exitCode_ne_success (e : Error) : e.exitCode ≠ .success := by
  have hkind : ∀ kind : ErrorKind, kind.exitCode ≠ .success := by
    intro kind
    cases kind <;> decide
  unfold Error.exitCode
  split
  · nofun
  · split
    · exact hkind _
    · nofun

/-- Errors of files and of the family are reported to the user. -/
def Reported (e : Error) : Prop := (∃ message, e = .file message) ∨ e.kind?.isSome

namespace Journal

theorem abandon_of_reported {e : Error} (h : Reported e) (j : Journal) :
    (j.abandon e).result = .ok e.exitCode := by
  unfold abandon
  split
  case h_1 message => rfl
  case h_2 hfile =>
    rcases h with ⟨message, rfl⟩ | hkind
    · exact absurd rfl (hfile message)
    · obtain ⟨kind, hkind⟩ := Option.isSome_iff_exists.mp hkind
      rw [hkind]
      rfl

theorem abandon_of_not_reported {e : Error} (h : ¬ Reported e) (j : Journal) :
    (j.abandon e).result = .error e := by
  obtain ⟨hfile, hkind⟩ := not_or.mp h
  unfold abandon
  split
  case h_1 message => exact absurd ⟨message, rfl⟩ hfile
  case h_2 =>
    have hnone : e.kind? = none := by simpa using hkind
    rw [hnone]

/-- An error ends a command with its code, or without one if it is not reported. -/
theorem abandon_eq_ok {j : Journal} {e : Error} {c : ExitCode} (h : (j.abandon e).result = .ok c) :
    c = e.exitCode ∧ Reported e := by
  by_cases hreported : Reported e
  · rw [abandon_of_reported hreported] at h
    exact ⟨(Except.ok.inj h).symm, hreported⟩
  · rw [abandon_of_not_reported hreported] at h
    cases h

theorem abandon_eq_error {j : Journal} {e e' : Error} (h : (j.abandon e).result = .error e') :
    e' = e ∧ ¬ Reported e := by
  by_cases hreported : Reported e
  · rw [abandon_of_reported hreported] at h
    cases h
  · rw [abandon_of_not_reported hreported] at h
    exact ⟨(Except.error.inj h).symm, hreported⟩

theorem abandon_output (j : Journal) (e : Error) : (j.abandon e).output = "" := by
  unfold abandon
  split
  · rfl
  · split <;> rfl

theorem abandon_unchangedBut (j : Journal) (e : Error) :
    UnchangedBut j.logPlace? j.files (j.abandon e).files := by
  unfold abandon
  split
  · exact j.note_unchangedBut _
  · split
    · exact j.note_unchangedBut _
    · exact .refl _ _

theorem abandon_unencodable (j : Journal) :
    (j.abandon .unencodable).result = .error .unencodable :=
  abandon_of_not_reported (by simp [Reported, Error.kind?]) j

/-- There is no file for the output, or it can be opened. -/
def Opens (j : Journal) (cwd : List String) (target : Option String) : Prop :=
  ∀ name, target.filter (· ≠ "") = some name →
    ∃ opened, j.files.openForWriting cwd (Path.parse name) = .ok opened

section Output

variable {j : Journal} {cwd : List String} {target : Option String} {name text : String}

theorem deliverText_of_none (h : target.filter (· ≠ "") = none) :
    j.deliverText cwd target text true = j.finish .success text := by
  simp only [deliverText, h]
  rfl

theorem deliverText_of_write {files : Tree} (h : target.filter (· ≠ "") = some name)
    (hwrite : j.files.write cwd (Path.parse name) (Text.encodeUtf8 text) = .ok files) :
    j.deliverText cwd target text true =
      ({ j with files := files }.note (.outputWritten name)).finish .success "" := by
  simp only [deliverText, h, if_true, hwrite]

theorem deliverText_of_refused {problem : Files.Problem} (h : target.filter (· ≠ "") = some name)
    (hopen : j.files.openForWriting cwd (Path.parse name) = .error problem) (encodable : Bool) :
    j.deliverText cwd target text encodable =
      j.abandon (.file (problem.message (Path.parse name).text)) := by
  simp only [deliverText, h, Tree.write_eq_error hopen]

theorem deliverText_unencodable (hopens : j.Opens cwd target) :
    (j.deliverText cwd target text false).result = .error .unencodable := by
  cases hname : target.filter (· ≠ "") with
  | none =>
    simp only [deliverText, hname]
    exact j.abandon_unencodable
  | some name =>
    obtain ⟨opened, hopened⟩ := hopens name hname
    obtain ⟨files, hwrite⟩ := Tree.exists_write_of_open hopened []
    simp only [deliverText, hname, Bool.false_eq_true, if_false, hwrite]
    exact abandon_unencodable _

theorem opens_or_refused (j : Journal) (cwd : List String) (target : Option String) :
    j.Opens cwd target ∨ ∃ name problem, target.filter (· ≠ "") = some name ∧
      j.files.openForWriting cwd (Path.parse name) = .error problem := by
  unfold Opens
  cases target.filter (· ≠ "") with
  | none => exact .inl nofun
  | some name =>
    cases hopen : j.files.openForWriting cwd (Path.parse name) with
    | error problem => exact .inr ⟨name, problem, rfl, hopen⟩
    | ok opened =>
      refine .inl fun name' hname => ?_
      obtain rfl := Option.some.inj hname
      exact ⟨opened, hopen⟩

/-- The four ends of an output. A file that cannot be opened counts before a text that cannot be
encoded. -/
theorem deliverText_cases (j : Journal) (cwd : List String) (target : Option String)
    (text : String) (encodable : Bool) :
    (∃ name problem, target.filter (· ≠ "") = some name ∧
      j.files.openForWriting cwd (Path.parse name) = .error problem ∧
      j.deliverText cwd target text encodable =
        j.abandon (.file (problem.message (Path.parse name).text))) ∨
    (encodable = false ∧ j.Opens cwd target ∧
      (j.deliverText cwd target text encodable).result = .error .unencodable) ∨
    (encodable = true ∧ target.filter (· ≠ "") = none ∧
      j.deliverText cwd target text encodable = j.finish .success text) ∨
    ∃ name files, encodable = true ∧ target.filter (· ≠ "") = some name ∧
      j.files.write cwd (Path.parse name) (Text.encodeUtf8 text) = .ok files ∧
      j.deliverText cwd target text encodable =
        ({ j with files := files }.note (.outputWritten name)).finish .success "" := by
  rcases opens_or_refused j cwd target with hopens | ⟨name, problem, hname, hopen⟩
  · cases encodable with
    | false => exact .inr (.inl ⟨rfl, hopens, deliverText_unencodable hopens⟩)
    | true =>
      cases hname : target.filter (· ≠ "") with
      | none => exact .inr (.inr (.inl ⟨rfl, rfl, deliverText_of_none hname⟩))
      | some name =>
        obtain ⟨opened, hopened⟩ := hopens name hname
        obtain ⟨files, hwrite⟩ := Tree.exists_write_of_open hopened (Text.encodeUtf8 text)
        exact .inr (.inr (.inr
          ⟨name, files, rfl, rfl, hwrite, deliverText_of_write hname hwrite⟩))
  · exact .inl ⟨name, problem, hname, hopen, deliverText_of_refused hname hopen encodable⟩

/-- A file that cannot be opened is reported; only a text that cannot be encoded is not. -/
theorem deliverText_eq_error {encodable : Bool} {e : Error}
    (h : (j.deliverText cwd target text encodable).result = .error e) :
    e = .unencodable ∧ encodable = false ∧ j.Opens cwd target := by
  rcases deliverText_cases j cwd target text encodable with
    ⟨name, problem, -, -, hend⟩ | ⟨rfl, hopens, hend⟩ | ⟨-, -, hend⟩ | ⟨name, files, -, -, -, hend⟩
  · rw [hend] at h
    cases h
  · exact ⟨Except.error.inj (h.symm.trans hend), rfl, hopens⟩
  · rw [hend] at h
    cases h
  · rw [hend] at h
    cases h

end Output

end Journal

end SlateMark.Command
