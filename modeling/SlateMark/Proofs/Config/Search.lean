import Mathlib.Data.Prod.Lex
import SlateMark.Config.Search
import SlateMark.Config.Standard

/-!
The search for a configuration. A candidate has a position, the distance of its directory from the
start and then the rank of its name, and a search that comes to an end has found the candidate with
the least position. Only without one does the home directory matter. The configuration that applies
is the one in the first source that is given, whether it loads or not.
-/
namespace SlateMark.Config

open Files (Path)

def searchNames : List String := fileNames ++ [projectFileName]

/-- The directory at a distance from a place, towards the root. -/
def directoryAt (place : List String) (distance : ℕ) : Path :=
  .absolute (place.take (place.length - distance))

/-- The place where a search starts. -/
def startOf (s : Surroundings) (start : Option Path) : List String :=
  (start.map fun path => path.resolvedParts s.cwd).getD s.cwd

/-- The file of this name is a configuration for the directory. A project file is one if it loads
and its section holds something. -/
inductive Counts (s : Surroundings) (directory : Path) : String → Prop
  | dedicated {name : String} (hname : name ∈ fileNames)
      (hfile : s.files.isFile s.cwd (directory.entry name) = true) : Counts s directory name
  | project {entries : Entries} (hload : load s (directory.entry projectFileName) = .ok entries)
      (hentries : entries ≠ []) : Counts s directory projectFileName

/-- The first of the names with a property, and its rank among them. -/
structure IsFirst (names : List String) (property : String → Prop) (rank : ℕ) (name : String) :
    Prop where
  getElem?_eq : names[rank]? = some name
  holds : property name
  le_of_holds : ∀ rank' name', names[rank']? = some name' → property name' → rank ≤ rank'

/-- A file that counts, at its distance and rank. -/
inductive IsCandidate (s : Surroundings) (place : List String) : ℕ ×ₗ ℕ → Path → Prop
  | intro {distance rank : ℕ} {name : String} (hdistance : distance ≤ place.length)
      (hrank : searchNames[rank]? = some name)
      (hcounts : Counts s (directoryAt place distance) name) :
      IsCandidate s place (toLex (distance, rank)) ((directoryAt place distance).entry name)

/-- The candidate with the least position. -/
def IsNearest (s : Surroundings) (place : List String) (path : Path) : Prop :=
  ∃ position, IsCandidate s place position path ∧
    ∀ position' path', IsCandidate s place position' path' → position ≤ position'

/-- The nearest directory that does not come out empty. -/
structure EndsAt (s : Surroundings) (place : List String) (distance : ℕ) : Prop where
  le : distance ≤ place.length
  ends : findIn s (directoryAt place distance) ≠ .ok none
  passed : ∀ nearer < distance, findIn s (directoryAt place nearer) = .ok none

/-- The first dedicated file in the home directory. -/
def IsAtHome (s : Surroundings) (path : Path) : Prop :=
  ∃ rank name, IsFirst fileNames (fun name => s.files.isFile s.cwd (s.home.entry name) = true) rank
    name ∧ path = s.home.entry name

/-- No path is given; an empty one is as good as none. -/
def NotGiven (given : Option String) : Prop := given = none ∨ given = some ""

/-- The configuration that applies, or why there is none. Each source is used only if those before
it are not given. -/
inductive Applies (s : Surroundings) (explicit : Option String) (discovering : Bool) :
    Except Error Entries → Prop
  | explicit {path : String} (hexplicit : explicit = some path) (hpath : path ≠ "") :
      Applies s explicit discovering (load s (.parse path))
  | environment {path : String} (hexplicit : NotGiven explicit)
      (henvironment : s.environment = some path) (hpath : path ≠ "") :
      Applies s explicit discovering (load s (.parse path))
  | discovered {path : Path} (hexplicit : NotGiven explicit)
      (henvironment : NotGiven s.environment) (hon : discovering = true)
      (hdiscover : discover s none = .ok (some path)) : Applies s explicit discovering (load s path)
  | unsearchable {e : Error} (hexplicit : NotGiven explicit)
      (henvironment : NotGiven s.environment) (hon : discovering = true)
      (hdiscover : discover s none = .error e) : Applies s explicit discovering (.error e)
  | nowhere (hexplicit : NotGiven explicit) (henvironment : NotGiven s.environment)
      (hdiscover : discovering = true → discover s none = .ok none) :
      Applies s explicit discovering (.ok [])

theorem formatOf?_entry_projectFileName (directory : Path) :
    formatOf? (directory.entry projectFileName) = some .project := by
  have hname : (directory.entry projectFileName).name = projectFileName := by
    simp [Path.name, Path.entry]
  have hlower : Text.lower projectFileName = projectFileName := by decide
  rw [formatOf?, hname, hlower]
  rfl

/-- A project file counts if loading it yields something. -/
theorem hasProjectSection_eq (s : Surroundings) (directory : Path) :
    hasProjectSection s (directory.entry projectFileName) =
      match load s (directory.entry projectFileName) with
      | .ok entries => .ok (!entries.isEmpty)
      | .error (.configuration _) => .ok false
      | .error e => .error e := by
  rw [hasProjectSection, load, formatOf?_entry_projectFileName]
  cases s.files.read s.cwd (directory.entry projectFileName) with
  | error problem => rfl
  | ok content => rfl

section Directory

variable {s : Surroundings} {directory : Path}

theorem counts_iff_of_mem {name : String} (hname : name ∈ fileNames) :
    Counts s directory name ↔ s.files.isFile s.cwd (directory.entry name) = true := by
  constructor
  · intro h
    cases h with
    | dedicated _ hfile => exact hfile
    | project => exact absurd hname (by decide)
  · exact .dedicated hname

theorem find?_eq_some_iff_isFirst {names : List String} {p : String → Bool} {name : String} :
    names.find? p = some name ↔ ∃ rank, IsFirst names (fun name => p name = true) rank name := by
  rw [List.find?_eq_some_iff_getElem]
  constructor
  · rintro ⟨hp, rank, hrank, rfl, hbefore⟩
    refine ⟨rank, List.getElem?_eq_getElem hrank, hp, fun rank' name' hname' hp' => ?_⟩
    by_contra hlt
    have hno := hbefore rank' (Nat.lt_of_not_le hlt)
    obtain ⟨hrank', rfl⟩ := List.getElem?_eq_some_iff.mp hname'
    simp [hp'] at hno
  · rintro ⟨rank, hname, hp, hfirst⟩
    obtain ⟨hrank, rfl⟩ := List.getElem?_eq_some_iff.mp hname
    refine ⟨hp, rank, hrank, rfl, fun rank' hlt => ?_⟩
    by_contra hp'
    have hle := hfirst rank' _ (List.getElem?_eq_getElem (hlt.trans hrank)) (by simpa using hp')
    omega

theorem dedicatedIn?_eq_some_iff {path : Path} :
    dedicatedIn? s directory = some path ↔
      ∃ rank name, IsFirst fileNames
        (fun name => s.files.isFile s.cwd (directory.entry name) = true) rank name ∧
          path = directory.entry name := by
  rw [dedicatedIn?, List.find?_map, Option.map_eq_some_iff]
  constructor
  · rintro ⟨name, hfind, rfl⟩
    obtain ⟨rank, hfirst⟩ := find?_eq_some_iff_isFirst.mp hfind
    exact ⟨rank, name, hfirst, rfl⟩
  · rintro ⟨rank, name, hfirst, rfl⟩
    exact ⟨name, find?_eq_some_iff_isFirst.mpr ⟨rank, hfirst⟩, rfl⟩

theorem dedicatedIn?_eq_none_iff :
    dedicatedIn? s directory = none ↔
      ∀ name ∈ fileNames, s.files.isFile s.cwd (directory.entry name) = false := by
  rw [dedicatedIn?, List.find?_eq_none]
  simp

/-- What a directory holds if none of its dedicated files is there. -/
theorem findIn_of_dedicatedIn? (h : dedicatedIn? s directory = none) :
    findIn s directory =
      match load s (directory.entry projectFileName) with
      | .ok [] => .ok none
      | .ok (_ :: _) => .ok (some (directory.entry projectFileName))
      | .error (.configuration _) => .ok none
      | .error e => .error e := by
  unfold findIn
  rw [h]
  dsimp only
  rw [hasProjectSection_eq]
  cases load s (directory.entry projectFileName) with
  | ok entries => cases entries <;> rfl
  | error e => cases e <;> rfl

theorem exists_isFirst_of_findIn {path : Path} (h : findIn s directory = .ok (some path)) :
    ∃ rank name, IsFirst searchNames (Counts s directory) rank name ∧
      path = directory.entry name := by
  cases hdedicated : dedicatedIn? s directory with
  | some file =>
    obtain ⟨rank, name, ⟨hrank, hfile, hfirst⟩, hpath⟩ :=
      dedicatedIn?_eq_some_iff.mp hdedicated
    have hlt := (List.getElem?_eq_some_iff.mp hrank).1
    obtain rfl : file = path := by simpa [findIn, hdedicated] using h
    refine ⟨rank, name, ⟨?_, .dedicated (List.mem_of_getElem? hrank) hfile, ?_⟩, hpath⟩
    · rw [searchNames, List.getElem?_append_left hlt, hrank]
    · intro rank' name' hrank' hcounts
      by_contra hnot
      rw [searchNames, List.getElem?_append_left (by omega)] at hrank'
      have hfile' := (counts_iff_of_mem (List.mem_of_getElem? hrank')).mp hcounts
      exact hnot (hfirst rank' name' hrank' hfile')
  | none =>
    rw [findIn_of_dedicatedIn? hdedicated] at h
    split at h
    case h_2 entry rest hload =>
      obtain rfl := Option.some.inj (Except.ok.inj h)
      refine ⟨fileNames.length, projectFileName, ⟨rfl, .project hload nofun, ?_⟩, rfl⟩
      intro rank' name' hrank' hcounts
      by_contra hnot
      rw [searchNames, List.getElem?_append_left (by omega)] at hrank'
      have hname := List.mem_of_getElem? hrank'
      have hfile := (counts_iff_of_mem hname).mp hcounts
      rw [dedicatedIn?_eq_none_iff.mp hdedicated name' hname] at hfile
      cases hfile
    all_goals cases h

theorem not_counts_of_findIn (h : findIn s directory = .ok none) (name : String) :
    ¬ Counts s directory name := by
  intro hcounts
  cases hdedicated : dedicatedIn? s directory with
  | some file => simp [findIn, hdedicated] at h
  | none =>
    cases hcounts with
    | dedicated hname hfile =>
      rw [dedicatedIn?_eq_none_iff.mp hdedicated name hname] at hfile
      cases hfile
    | @project entries hload hentries =>
      rw [findIn_of_dedicatedIn? hdedicated, hload] at h
      cases entries with
      | nil => exact hentries rfl
      | cons => cases h

end Directory

section Parents

variable {s : Surroundings} {place : List String}

/-- The search ends at the first directory that does not come out empty. -/
theorem findFirst_cases (s : Surroundings) (places : List (List String)) :
    ((∀ (i : ℕ) place, places[i]? = some place → findIn s (.absolute place) = .ok none) ∧
        findFirst s places = .ok none) ∨
      ∃ (i : ℕ) (place : List String), places[i]? = some place ∧
        findIn s (.absolute place) ≠ .ok none ∧
        (∀ (j : ℕ) place', j < i → places[j]? = some place' →
          findIn s (.absolute place') = .ok none) ∧
        findFirst s places = findIn s (.absolute place) := by
  induction places with
  | nil => exact .inl ⟨nofun, rfl⟩
  | cons first rest ih =>
    by_cases hfirst : findIn s (.absolute first) = .ok none
    · have hrest : findFirst s (first :: rest) = findFirst s rest := by
        rw [findFirst, hfirst]
      rw [hrest]
      rcases ih with ⟨hnone, hfind⟩ | ⟨i, place, hplace, hends, hbefore, hfind⟩
      · refine .inl ⟨fun i place hplace => ?_, hfind⟩
        cases i with
        | zero =>
          obtain rfl := Option.some.inj hplace
          exact hfirst
        | succ i => exact hnone i place hplace
      · refine .inr ⟨i + 1, place, hplace, hends, fun j place' hj hplace' => ?_, hfind⟩
        cases j with
        | zero =>
          obtain rfl := Option.some.inj hplace'
          exact hfirst
        | succ j => exact hbefore j place' (Nat.lt_of_succ_lt_succ hj) hplace'
    · refine .inr ⟨0, first, rfl, hfirst, nofun, ?_⟩
      rw [findFirst]
      split
      case h_1 => simp [*]
      case h_2 => simp [*]
      case h_3 hnone => exact absurd hnone hfirst

theorem ancestors_getElem? {i : ℕ} {directory : List String} :
    (ancestors place)[i]? = some directory ↔
      i ≤ place.length ∧ directory = place.take (place.length - i) := by
  rw [ancestors, List.getElem?_map, Option.map_eq_some_iff]
  constructor
  · rintro ⟨j, hj, rfl⟩
    obtain ⟨hlt, hget⟩ := List.getElem?_eq_some_iff.mp hj
    rw [List.length_range] at hlt
    rw [List.getElem_range] at hget
    subst hget
    exact ⟨by omega, rfl⟩
  · rintro ⟨hle, rfl⟩
    have hlt : i < place.length + 1 := by omega
    exact ⟨i, List.getElem?_range hlt, rfl⟩

theorem search_cases (s : Surroundings) (place : List String) :
    ((∀ distance ≤ place.length, findIn s (directoryAt place distance) = .ok none) ∧
        findFirst s (ancestors place) = .ok none) ∨
      ∃ distance, EndsAt s place distance ∧
        findFirst s (ancestors place) = findIn s (directoryAt place distance) := by
  rcases findFirst_cases s (ancestors place) with
    ⟨hnone, hfind⟩ | ⟨distance, directory, hplace, hends, hbefore, hfind⟩
  · exact .inl ⟨fun distance hle => hnone _ _ (ancestors_getElem?.mpr ⟨hle, rfl⟩), hfind⟩
  · obtain ⟨hle, rfl⟩ := ancestors_getElem?.mp hplace
    refine .inr ⟨distance, ⟨hle, hends, fun nearer hlt => ?_⟩, hfind⟩
    exact hbefore nearer _ hlt (ancestors_getElem?.mpr ⟨by omega, rfl⟩)

theorem EndsAt.unique {distance distance' : ℕ} (h : EndsAt s place distance)
    (h' : EndsAt s place distance') : distance = distance' := by
  rcases Nat.lt_trichotomy distance distance' with hlt | heq | hgt
  · exact absurd (h'.passed distance hlt) h.ends
  · exact heq
  · exact absurd (h.passed distance' hgt) h'.ends

theorem EndsAt.search_eq {distance : ℕ} (h : EndsAt s place distance) :
    findFirst s (ancestors place) = findIn s (directoryAt place distance) := by
  rcases search_cases s place with ⟨hnone, -⟩ | ⟨distance', h', hfind⟩
  · exact absurd (hnone distance h.le) h.ends
  · rw [h.unique h']
    exact hfind

theorem findInParents_eq (s : Surroundings) (start : Option Path) :
    findInParents s start = findFirst s (ancestors (startOf s start)) := by
  cases start <;> rfl

theorem IsCandidate.path_eq {position : ℕ ×ₗ ℕ} {path path' : Path}
    (h : IsCandidate s place position path) (h' : IsCandidate s place position path') :
    path = path' := by
  cases h with
  | intro _ hrank _ =>
    cases h' with
    | intro _ hrank' _ => rw [Option.some.inj (hrank.symm.trans hrank')]

theorem IsNearest.path_eq {path path' : Path} (h : IsNearest s place path)
    (h' : IsNearest s place path') : path = path' := by
  obtain ⟨position, hcandidate, hle⟩ := h
  obtain ⟨position', hcandidate', hle'⟩ := h'
  obtain rfl := le_antisymm (hle _ _ hcandidate') (hle' _ _ hcandidate)
  exact hcandidate.path_eq hcandidate'

theorem isNearest_of_search {path : Path}
    (h : findFirst s (ancestors place) = .ok (some path)) : IsNearest s place path := by
  rcases search_cases s place with ⟨-, hfind⟩ | ⟨distance, hends, hfind⟩
  · cases hfind.symm.trans h
  · obtain ⟨rank, name, hfirst, rfl⟩ := exists_isFirst_of_findIn (hfind.symm.trans h)
    refine ⟨_, .intro hends.le hfirst.getElem?_eq hfirst.holds, fun position path' hother => ?_⟩
    cases hother with
    | @intro distance' rank' name' hdistance' hrank' hcounts =>
      rw [Prod.Lex.toLex_le_toLex]
      rcases Nat.lt_trichotomy distance distance' with hlt | rfl | hgt
      · exact .inl hlt
      · exact .inr ⟨rfl, hfirst.le_of_holds rank' name' hrank' hcounts⟩
      · exact absurd hcounts (not_counts_of_findIn (hends.passed distance' hgt) name')

theorem not_isCandidate_of_search (h : findFirst s (ancestors place) = .ok none)
    (position : ℕ ×ₗ ℕ) (path : Path) : ¬ IsCandidate s place position path := by
  rintro ⟨hdistance, -, hcounts⟩
  rcases search_cases s place with ⟨hnone, -⟩ | ⟨distance, hends, hfind⟩
  · exact not_counts_of_findIn (hnone _ hdistance) _ hcounts
  · exact hends.ends (hfind.symm.trans h)

end Parents

theorem findFirst_home (s : Surroundings) (home : Path) (places : List (List String)) :
    findFirst { s with home } places = findFirst s places := by
  induction places with
  | nil => rfl
  | cons place rest ih =>
    have hplace : findIn { s with home } (.absolute place) = findIn s (.absolute place) := rfl
    rw [findFirst, findFirst, hplace, ih]

/-- Whatever is at home, the search upwards does not look there. -/
theorem findInParents_home (s : Surroundings) (home : Path) (start : Option Path) :
    findInParents { s with home } start = findInParents s start := by
  rw [findInParents_eq, findInParents_eq, findFirst_home]
  rfl

theorem discover_of_isNone {s : Surroundings} {start : Option Path}
    (h : findInParents s start = .ok none) :
    ∃ atHome, discover s start = .ok atHome ∧ ∀ path, atHome = some path ↔ IsAtHome s path := by
  exact ⟨dedicatedIn? s s.home, by rw [discover, h], fun path => dedicatedIn?_eq_some_iff⟩

theorem filter_nonempty_cases (given : Option String) :
    (∃ path, given.filter (· ≠ "") = some path ∧ given = some path ∧ path ≠ "") ∨
      (given.filter (· ≠ "") = none ∧ NotGiven given) := by
  cases given with
  | none => exact .inr ⟨rfl, .inl rfl⟩
  | some path =>
    by_cases hpath : path = ""
    · exact .inr ⟨by simp [Option.filter, hpath], .inr (congrArg some hpath)⟩
    · exact .inl ⟨path, by simp [Option.filter, hpath], rfl, hpath⟩

theorem applies_resolve (s : Surroundings) (explicit : Option String) (discovering : Bool) :
    Applies s explicit discovering (resolve s explicit discovering) := by
  unfold resolve givenPath?
  rcases filter_nonempty_cases explicit with
    ⟨path, hfilter, hexplicit, hpath⟩ | ⟨hfilter, hexplicit⟩
  · rw [hfilter]
    exact .explicit hexplicit hpath
  · rw [hfilter]
    dsimp only
    rcases filter_nonempty_cases s.environment with
      ⟨path, hfilter, henvironment, hpath⟩ | ⟨hfilter, henvironment⟩
    · rw [hfilter]
      exact .environment hexplicit henvironment hpath
    · rw [hfilter]
      dsimp only
      cases discovering with
      | false => exact .nowhere hexplicit henvironment nofun
      | true =>
        rw [if_pos rfl]
        split
        case h_1 e hdiscover => exact .unsearchable hexplicit henvironment rfl hdiscover
        case h_2 path hdiscover => exact .discovered hexplicit henvironment rfl hdiscover
        case h_3 hdiscover => exact .nowhere hexplicit henvironment fun _ => hdiscover

/-- A search that comes to an end has found the nearest candidate, or there is none. Only then is
the home directory searched, and wherever the search starts, the configuration that applies is the
one in the first source that is given. -/
theorem findInParents_nearest {s : Surroundings} {start found : Option Path}
    (h : findInParents s start = .ok found) :
    (∀ path, found = some path ↔ IsNearest s (startOf s start) path) ∧
      (found = none ↔ ∀ position path, ¬ IsCandidate s (startOf s start) position path) ∧
      (∀ path home, found = some path → discover { s with home } start = .ok (some path)) ∧
      (found = none → ∃ atHome, discover s start = .ok atHome ∧
        ∀ path, atHome = some path ↔ IsAtHome s path) ∧
      ∀ explicit discovering, Applies s explicit discovering (resolve s explicit discovering) := by
  have hsearch := (findInParents_eq s start).symm.trans h
  refine ⟨fun path => ⟨?_, fun hnearest => ?_⟩, ⟨?_, fun hno => ?_⟩, ?_, ?_, applies_resolve s⟩
  · rintro rfl
    exact isNearest_of_search hsearch
  · cases found with
    | none =>
      obtain ⟨position, hcandidate, -⟩ := hnearest
      exact absurd hcandidate (not_isCandidate_of_search hsearch position path)
    | some path' => rw [(isNearest_of_search hsearch).path_eq hnearest]
  · rintro rfl
    exact not_isCandidate_of_search hsearch
  · cases found with
    | none => rfl
    | some path =>
      obtain ⟨position, hcandidate, -⟩ := isNearest_of_search hsearch
      exact absurd hcandidate (hno position path)
  · rintro path home rfl
    rw [discover, findInParents_home, h]
  · rintro rfl
    exact discover_of_isNone h

/-- Two files in one directory above the current one, and one at home that is not looked at. -/
theorem findInParents_nearest_yaml :
    let files : Files.Tree := .directory [
      ("a", .directory [(".slate2cm.json", .file []), ("b", .directory []),
        (".slate2cm.yaml", .file [])]),
      ("home", .directory [(".slate2cm.toml", .file [])])]
    let s : Surroundings := ⟨files, ["a", "b"], .absolute ["home"], some "", .standard⟩
    let path : Path := .absolute ["a", ".slate2cm.yaml"]
    findInParents s none = .ok (some path) ∧ IsNearest s ["a", "b"] path ∧
      discover s none = .ok (some path) ∧ Applies s none true (resolve s none true) := by
  intro files s path
  have h : findInParents s none = .ok (some path) := rfl
  obtain ⟨hnearest, -, hdiscover, -, happlies⟩ := findInParents_nearest h
  exact ⟨h, (hnearest path).mp rfl, hdiscover path s.home rfl, happlies none true⟩

end SlateMark.Config
