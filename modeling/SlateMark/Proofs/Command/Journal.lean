import SlateMark.Command.Journal
import SlateMark.Proofs.Files.Tree

/-!
What a journal does to files. From the start of a command to its end the log file alone is written;
which file that is, is settled at the start.
-/
namespace SlateMark.Command.Journal

open Files (Path Tree)
open Files.Tree (UnchangedBut)

@[simp] theorem note_logPlace? (j : Journal) (event : Event) :
    (j.note event).logPlace? = j.logPlace? := by
  unfold note
  split <;> rfl

theorem note_unchangedBut (j : Journal) (event : Event) :
    UnchangedBut j.logPlace? j.files (j.note event).files := by
  by_cases hquiet : event.level.severity < j.level.severity
  · rw [note, if_pos hquiet]
    exact .refl _ _
  · rw [note, if_neg hquiet]
    cases hplace : j.logPlace? with
    | none => exact .refl none j.files
    | some place => exact .append place j.files _

@[simp] theorem noteAll_logPlace? (j : Journal) (events : List Event) :
    (j.noteAll events).logPlace? = j.logPlace? := by
  induction events generalizing j with
  | nil => rfl
  | cons event rest ih => exact (ih (j.note event)).trans (j.note_logPlace? event)

theorem noteAll_unchangedBut (j : Journal) (events : List Event) :
    UnchangedBut j.logPlace? j.files (j.noteAll events).files := by
  induction events generalizing j with
  | nil => exact .refl _ _
  | cons event rest ih =>
    have hrest := ih (j.note event)
    rw [note_logPlace?] at hrest
    exact (j.note_unchangedBut event).trans hrest

/-- Opening the log makes its file if need be, and the log is in that file from then on. -/
theorem openLog_unchangedBut (j : Journal) (cwd : List String) (name : String) :
    UnchangedBut (j.openLog cwd name).logPlace? j.files (j.openLog cwd name).files := by
  cases hopen : j.files.openForWriting cwd ((Path.parse name).resolved cwd) with
  | error problem =>
    simp only [openLog, hopen, note_logPlace?]
    exact j.note_unchangedBut _
  | ok opened =>
    obtain ⟨place, content⟩ := opened
    obtain ⟨-, hplace⟩ := Tree.openForWriting_eq_ok hopen
    let made : Journal :=
      { j with files := Tree.put (.file content) place j.files, logPlace? := some place }
    have hnote : UnchangedBut (some place) made.files (made.note (.logFileOpened name)).files :=
      made.note_unchangedBut (.logFileOpened name)
    simp only [openLog, hopen, note_logPlace?]
    exact (UnchangedBut.put hplace content).trans hnote

theorem start_unchangedBut (a : Arguments) (stamp : String) (files : Tree) (cwd : List String) :
    UnchangedBut (start a stamp files cwd).logPlace? files (start a stamp files cwd).files := by
  cases hname : a.logFile.filter (· ≠ "") with
  | none =>
    simp only [start, hname]
    exact .refl _ _
  | some name =>
    simp only [start, hname]
    exact openLog_unchangedBut _ cwd name

end SlateMark.Command.Journal
