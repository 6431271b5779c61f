import SlateMark.Files.Tree

/-!
What writing does to a tree of files. The file that is written holds what was written, every other
file holds what it held, and directories stay. A tree is seen through the contents of its files; the
place written has to have a directory above it, and none of its own.
-/
namespace SlateMark.Files.Tree

/-- The content of the file at a place, if there is a file. -/
def fileAt? (tree : Tree) (place : List String) : Option (List UInt8) :=
  match tree.get? place with
  | some (.file content) => some content
  | _ => none

def IsDirectory (tree : Tree) (place : List String) : Prop :=
  ∃ entries, tree.get? place = some (.directory entries)

theorem fileAt?_eq_some {tree : Tree} {place : List String} {content : List UInt8} :
    tree.fileAt? place = some content ↔ tree.get? place = some (.file content) := by
  unfold fileAt?
  split
  case h_1 content' h => simp [h]
  case h_2 h => simpa using h content

theorem child?_setEntry_self (name : String) (new : Tree) (entries : List (String × Tree)) :
    child? name (setEntry name new entries) = some new := by
  induction entries with
  | nil => simp [setEntry, child?]
  | cons entry rest ih =>
    by_cases h : entry.1 = name
    · simp [setEntry, child?, h]
    · simp [setEntry, child?, h, ih]

theorem child?_setEntry_of_ne {name other : String} (h : other ≠ name) (new : Tree)
    (entries : List (String × Tree)) :
    child? other (setEntry name new entries) = child? other entries := by
  induction entries with
  | nil => simp [setEntry, child?, h.symm]
  | cons entry rest ih =>
    by_cases hentry : entry.1 = name
    · simp [setEntry, child?, hentry, h.symm]
    · simp [setEntry, child?, hentry, ih]

theorem get?_append (tree : Tree) (place more : List String) :
    tree.get? (place ++ more) = (tree.get? place).bind fun inner => inner.get? more := by
  induction place generalizing tree with
  | nil => rfl
  | cons name rest ih =>
    cases tree with
    | file content => rfl
    | directory entries =>
      simp only [List.cons_append, get?]
      cases child? name entries with
      | none => rfl
      | some inner => exact ih inner

/-- What is in a directory that a tree is put in. -/
theorem get?_put_cons (new : Tree) (name : String) (rest : List String)
    (entries : List (String × Tree)) (more : List String) :
    (put new (name :: rest) (.directory entries)).get? (name :: more) =
      (put new rest ((child? name entries).getD (.directory []))).get? more := by
  simp only [put, get?, child?_setEntry_self]

theorem get?_put_cons_of_ne (new : Tree) {name other : String} (h : other ≠ name)
    (rest : List String) (entries : List (String × Tree)) (more : List String) :
    (put new (name :: rest) (.directory entries)).get? (other :: more) =
      (directory entries).get? (other :: more) := by
  simp only [put, get?, child?_setEntry_of_ne h]

/-- A place below a directory is a place to put something. -/
theorem get?_put_self {tree : Tree} {place : List String} (h : tree.IsDirectory place.dropLast)
    (new : Tree) : (put new place tree).get? place = some new := by
  induction place generalizing tree with
  | nil => rfl
  | cons name rest ih =>
    obtain ⟨entries, hentries⟩ := h
    cases rest with
    | nil =>
      obtain rfl := Option.some.inj hentries
      rw [get?_put_cons]
      rfl
    | cons next rest =>
      cases tree with
      | file content => simp [List.dropLast, get?] at hentries
      | directory siblings =>
        rw [get?_put_cons]
        cases hchild : child? name siblings with
        | none => simp [List.dropLast, get?, hchild] at hentries
        | some inner =>
          have hinner : inner.IsDirectory (next :: rest).dropLast := by
            simp only [List.dropLast, get?, hchild] at hentries
            exact ⟨entries, hentries⟩
          exact ih hinner

theorem fileAt?_put_self {tree : Tree} {place : List String}
    (h : tree.IsDirectory place.dropLast) (content : List UInt8) :
    (put (.file content) place tree).fileAt? place = some content :=
  fileAt?_eq_some.mpr (get?_put_self h (.file content))

theorem fileAt?_empty (place : List String) : (directory []).fileAt? place = none := by
  cases place <;> rfl

/-- A name that is not there is as good as an empty directory. -/
theorem fileAt?_directory_cons (entries : List (String × Tree)) (name : String)
    (more : List String) : (directory entries).fileAt? (name :: more) =
      ((child? name entries).getD (.directory [])).fileAt? more := by
  cases hchild : child? name entries with
  | none =>
    rw [Option.getD_none, fileAt?_empty]
    simp [fileAt?, get?, hchild]
  | some inner => simp [fileAt?, get?, hchild]

theorem fileAt?_put_of_ne {tree : Tree} {place other : List String}
    (hbelow : ∀ more, more ≠ [] → tree.fileAt? (place ++ more) = none) (h : other ≠ place)
    (content : List UInt8) :
    (put (.file content) place tree).fileAt? other = tree.fileAt? other := by
  induction place generalizing tree other with
  | nil =>
    have hnone : tree.fileAt? other = none := hbelow other h
    rw [hnone]
    cases other with
    | nil => exact absurd rfl h
    | cons name rest => rfl
  | cons name rest ih =>
    cases tree with
    | file content' => rfl
    | directory entries =>
      cases other with
      | nil => rfl
      | cons next more =>
        by_cases hname : next = name
        · subst hname
          let inner := (child? next entries).getD (.directory [])
          have hput : (put (.file content) (next :: rest) (.directory entries)).fileAt?
              (next :: more) = (put (.file content) rest inner).fileAt? more := by
            rw [fileAt?, get?_put_cons]
            rfl
          have hinner : ∀ more, more ≠ [] → inner.fileAt? (rest ++ more) = none := by
            intro more hmore
            rw [← fileAt?_directory_cons]
            exact hbelow more hmore
          have hne : more ≠ rest := fun heq => h (by rw [heq])
          rw [hput, ih hinner hne, fileAt?_directory_cons]
        · rw [fileAt?, get?_put_cons_of_ne _ hname]
          rfl

/-- No file is below a place that is no directory. -/
theorem fileAt?_below {tree : Tree} {place : List String} (h : ¬ tree.IsDirectory place)
    {more : List String} (hmore : more ≠ []) : tree.fileAt? (place ++ more) = none := by
  rw [fileAt?, get?_append]
  cases hplace : tree.get? place with
  | none => rfl
  | some inner =>
    cases inner with
    | directory entries => exact absurd ⟨entries, hplace⟩ h
    | file content =>
      cases more with
      | nil => exact absurd rfl hmore
      | cons name rest => rfl

theorem isDirectory_put {tree : Tree} {place other : List String}
    (hplace : ¬ tree.IsDirectory place) (h : tree.IsDirectory other) (content : List UInt8) :
    (put (.file content) place tree).IsDirectory other := by
  induction place generalizing tree other with
  | nil =>
    cases tree with
    | directory entries => exact absurd ⟨entries, rfl⟩ hplace
    | file content' =>
      obtain ⟨entries, hentries⟩ := h
      cases other <;> simp [get?] at hentries
  | cons name rest ih =>
    obtain ⟨entries, hentries⟩ := h
    cases tree with
    | file content' => exact ⟨entries, hentries⟩
    | directory siblings =>
      cases other with
      | nil => exact ⟨_, rfl⟩
      | cons next more =>
        by_cases hname : next = name
        · subst hname
          cases hchild : child? next siblings with
          | none => simp [get?, hchild] at hentries
          | some inner =>
            have hinner : ¬ inner.IsDirectory rest := by
              rintro ⟨below, hbelow⟩
              exact hplace ⟨below, by simpa [get?, hchild] using hbelow⟩
            have hmore : inner.IsDirectory more := ⟨entries, by simpa [get?, hchild] using hentries⟩
            obtain ⟨kept, hkept⟩ := ih hinner hmore
            refine ⟨kept, ?_⟩
            rw [get?_put_cons, hchild]
            exact hkept
        · exact ⟨entries, (get?_put_cons_of_ne _ hname rest siblings more).trans hentries⟩

theorem IsDirectory.of_append {tree : Tree} {place more : List String}
    (h : tree.IsDirectory (place ++ more)) : tree.IsDirectory place := by
  obtain ⟨entries, hentries⟩ := h
  rw [get?_append] at hentries
  cases hplace : tree.get? place with
  | none => simp [hplace] at hentries
  | some inner =>
    cases inner with
    | directory below => exact ⟨below, hplace⟩
    | file content => cases more <;> simp [hplace, get?] at hentries

theorem IsDirectory.dropLast {tree : Tree} {place : List String} (h : tree.IsDirectory place) :
    tree.IsDirectory place.dropLast := by
  by_cases hempty : place = []
  · rw [hempty] at h ⊢
    exact h
  · have hparts : tree.IsDirectory (place.dropLast ++ [place.getLast hempty]) := by
      rw [List.dropLast_concat_getLast]
      exact h
    exact hparts.of_append

/-- Whatever path is followed, the place it leads to is in a directory. -/
theorem isDirectory_of_follow {tree : Tree} {place last : List String} {parts : List String}
    (h : tree.follow place parts = .ok last) (hplace : tree.IsDirectory place.dropLast) :
    tree.IsDirectory last.dropLast := by
  induction parts generalizing place with
  | nil =>
    obtain rfl := Except.ok.inj h
    exact hplace
  | cons part rest ih =>
    rw [follow] at h
    split at h
    case h_1 => cases h
    case h_2 => cases h
    case h_3 entries hentries =>
      have hdirectory : tree.IsDirectory place := ⟨entries, hentries⟩
      refine ih h ?_
      split
      · exact hdirectory.dropLast.dropLast
      · rw [List.dropLast_concat]
        exact hdirectory

theorem isDirectory_of_locate {tree : Tree} {cwd place : List String} {p : Path}
    (hcwd : tree.IsDirectory cwd) (h : tree.locate cwd p = .ok place) :
    tree.IsDirectory place.dropLast := by
  refine isDirectory_of_follow h ?_
  split
  · exact @IsDirectory.of_append tree [] cwd hcwd
  · exact hcwd.dropLast

theorem openForWriting_eq_ok {tree : Tree} {cwd place : List String} {p : Path}
    {content : List UInt8} (h : tree.openForWriting cwd p = .ok (place, content)) :
    tree.locate cwd p = .ok place ∧ ¬ tree.IsDirectory place := by
  unfold openForWriting at h
  split at h
  case h_1 => cases h
  case h_2 place' hlocate =>
    split at h
    case h_1 content' hplace =>
      cases h
      refine ⟨hlocate, ?_⟩
      rintro ⟨entries, hentries⟩
      simp [hplace] at hentries
    case h_2 => cases h
    case h_3 hplace =>
      cases h
      refine ⟨hlocate, ?_⟩
      rintro ⟨entries, hentries⟩
      simp [hplace] at hentries

theorem write_eq_ok {tree new : Tree} {cwd : List String} {p : Path} {content : List UInt8}
    (h : tree.write cwd p content = .ok new) :
    ∃ place, tree.locate cwd p = .ok place ∧ ¬ tree.IsDirectory place ∧
      new = put (.file content) place tree := by
  unfold write at h
  split at h
  case h_1 => cases h
  case h_2 place old hopen =>
    obtain ⟨hlocate, hplace⟩ := openForWriting_eq_ok hopen
    exact ⟨place, hlocate, hplace, (Except.ok.inj h).symm⟩

/-- Writing fails when the file is opened or not at all, whatever is to be written. -/
theorem write_eq_error {tree : Tree} {cwd : List String} {p : Path} {content : List UInt8}
    {problem : Problem} (h : tree.openForWriting cwd p = .error problem) :
    tree.write cwd p content = .error problem := by
  rw [write, h]

theorem exists_write_of_open {tree : Tree} {cwd : List String} {p : Path}
    {opened : List String × List UInt8} (h : tree.openForWriting cwd p = .ok opened)
    (content : List UInt8) : ∃ new, tree.write cwd p content = .ok new := by
  rw [write, h]
  exact ⟨_, rfl⟩

/-- No file has changed but perhaps one, and no directory is gone. -/
structure UnchangedBut (place? : Option (List String)) (old new : Tree) : Prop where
  fileAt?_eq : ∀ place, place? ≠ some place → new.fileAt? place = old.fileAt? place
  isDirectory : ∀ place, old.IsDirectory place → new.IsDirectory place

namespace UnchangedBut

variable {place? : Option (List String)} {old new newer : Tree}

theorem refl (place? : Option (List String)) (tree : Tree) : UnchangedBut place? tree tree :=
  ⟨fun _ _ => rfl, fun _ h => h⟩

theorem trans (h : UnchangedBut place? old new) (h' : UnchangedBut place? new newer) :
    UnchangedBut place? old newer :=
  ⟨fun place hne => (h'.fileAt?_eq place hne).trans (h.fileAt?_eq place hne),
    fun place hplace => h'.isDirectory place (h.isDirectory place hplace)⟩

theorem put {place : List String} (h : ¬ old.IsDirectory place) (content : List UInt8) :
    UnchangedBut (some place) old (Tree.put (.file content) place old) := by
  constructor
  · intro other hne
    have hother : other ≠ place := fun heq => hne (by rw [heq])
    exact fileAt?_put_of_ne (fun more hmore => fileAt?_below h hmore) hother content
  · exact fun other hother => isDirectory_put h hother content

theorem append (place : List String) (tree : Tree) (content : List UInt8) :
    UnchangedBut (some place) tree (tree.append place content) := by
  unfold Tree.append
  split
  case h_1 before hplace =>
    refine put ?_ (before ++ content)
    rintro ⟨entries, hentries⟩
    simp [hplace] at hentries
  case h_2 => exact refl (some place) tree

end UnchangedBut

end SlateMark.Files.Tree
