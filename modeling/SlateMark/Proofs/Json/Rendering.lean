import SlateMark.Proofs.Json.Fields
import SlateMark.Proofs.Json.Numeral
import SlateMark.Proofs.Json.Quoting

/-!
Written JSON text is read back as the value that was written, under every indentation. This is shown
of values without floats whose objects have no name twice. A value is read up to the delimiter
behind it, so the proof follows the value: its parts are read back, whatever depth they stand at and
whatever delimited text follows them, and the blanks between them are passed over.
-/
namespace SlateMark.Json

/-- No number is a float, and no object has a name twice. -/
inductive Plain : Json → Prop
  | null : Plain .null
  | bool (b : Bool) : Plain (.bool b)
  | int (n : Int) : Plain (.int n)
  | str (s : String) : Plain (.str s)
  | arr {items : List Json} (hitems : ∀ v ∈ items, Plain v) : Plain (.arr items)
  | obj {fields : Fields} (hnames : (Fields.names fields).Nodup)
      (hvalues : ∀ field ∈ fields, Plain field.2) : Plain (.obj fields)

attribute [simp] Plain.null Plain.bool Plain.int Plain.str

@[simp] theorem plain_arr_iff {items : List Json} : Plain (.arr items) ↔ ∀ v ∈ items, Plain v := by
  constructor
  · rintro ⟨⟩
    assumption
  · exact .arr

@[simp] theorem plain_obj_iff {fields : Fields} :
    Plain (.obj fields) ↔ (Fields.names fields).Nodup ∧ ∀ field ∈ fields, Plain field.2 := by
  constructor
  · rintro ⟨⟩
    exact ⟨‹_›, ‹_›⟩
  · exact fun h => .obj h.1 h.2

theorem skipSpace_append_cons {blanks : List Char} (hblanks : ∀ c ∈ blanks, isSpace c = true)
    {c : Char} (hc : isSpace c = false) (rest : List Char) :
    skipSpace (blanks ++ c :: rest) = c :: rest := by
  rw [skipSpace, List.dropWhile_append_of_pos hblanks, List.dropWhile_cons_of_neg (by simp [hc])]

theorem isSpace_of_mem_lineBreak {style : Style} {depth : Nat} {c : Char}
    (h : c ∈ style.lineBreak depth) : isSpace c = true := by
  unfold Style.lineBreak at h
  split at h
  · simp at h
  · rcases List.mem_cons.mp h with rfl | h
    · rfl
    · rw [List.eq_of_mem_replicate h]
      rfl

theorem separator_eq (style : Style) (depth : Nat) :
    ∃ blanks, style.separator depth = ',' :: blanks ∧ ∀ c ∈ blanks, isSpace c = true := by
  unfold Style.separator
  split
  · exact ⟨[' '], rfl, List.forall_mem_singleton.mpr rfl⟩
  · exact ⟨style.lineBreak depth, rfl, fun c hc => isSpace_of_mem_lineBreak hc⟩

/-- The text starts like a value: with no blank, no closing bracket and no byte order mark. -/
def Starts (s : List Char) : Prop :=
  ∃ c rest, s = c :: rest ∧ isSpace c = false ∧ c ≠ ']' ∧ c ≠ '\ufeff'

theorem starts_intText (n : Int) : Starts (intText n) := by
  obtain ⟨c, digits, hcons, hc⟩ := exists_cons_toDigits n.natAbs
  rcases intText_cases n with ⟨-, htext⟩ | ⟨-, htext⟩
  · refine ⟨c, digits, htext.trans hcons, ?_, ne_of_isDigit hc rfl, ne_of_isDigit hc rfl⟩
    by_contra hspace
    simp only [isSpace, Bool.not_eq_false, Bool.or_eq_true, decide_eq_true_eq] at hspace
    rcases hspace with ((rfl | rfl) | rfl) | rfl <;> exact absurd hc (by decide)
  · exact ⟨'-', _, htext, rfl, by decide⟩

theorem skipSpace_starts {blanks s : List Char} (hblanks : ∀ c ∈ blanks, isSpace c = true)
    (hs : Starts s) (rest : List Char) : skipSpace (blanks ++ (s ++ rest)) = s ++ rest := by
  obtain ⟨c, more, rfl, hc, -⟩ := hs
  exact skipSpace_append_cons hblanks hc (more ++ rest)

/-- The closing character of a container behind its blanks ends the value before it. -/
theorem delimited_lineBreak (style : Style) (depth : Nat) {c : Char} (hc : isDelimiter c = true)
    (rest : List Char) : Delimited (style.lineBreak depth ++ c :: rest) := by
  unfold Style.lineBreak
  split
  · exact delimited_cons hc rest
  · exact delimited_cons rfl _

/-- The value comes back from its text, given fuel for each character of it. -/
structure ReadsBack (style : Style) (v : Json) : Prop where
  starts : ∀ depth, Starts (write style depth v)
  readValue_eq : ∀ depth fuel rest, 2 * (write style depth v).length ≤ fuel → Delimited rest →
    readValue fuel (write style depth v ++ rest) = .ok (v, rest)

theorem readItems_write {style : Style} {v : Json} {items : List Json} (hv : ReadsBack style v)
    (hitems : ∀ w ∈ items, ReadsBack style w) (depth closing : Nat) (rest : List Char) (fuel : Nat)
    (hfuel : 2 * ((write style depth v).length + (writeItems style depth items).length) < fuel) :
    readItems fuel (write style depth v ++ (writeItems style depth items ++
      (style.lineBreak closing ++ ']' :: rest))) = .ok (v :: items, rest) := by
  obtain ⟨fuel, rfl⟩ : ∃ k, fuel = k + 1 := ⟨fuel - 1, by omega⟩
  induction items generalizing v fuel with
  | nil =>
    have hvalue := hv.readValue_eq depth fuel (style.lineBreak closing ++ ']' :: rest) (by omega)
      (delimited_lineBreak style closing rfl rest)
    have hskip : skipSpace (style.lineBreak closing ++ ']' :: rest) = ']' :: rest :=
      skipSpace_append_cons (fun _ => isSpace_of_mem_lineBreak) rfl rest
    rw [writeItems, List.nil_append, readItems]
    simp only [hvalue, hskip]
  | cons w items ih =>
    obtain ⟨hw, hitems⟩ := List.forall_mem_cons.mp hitems
    obtain ⟨blanks, hseparator, hblanks⟩ := separator_eq style depth
    let more := writeItems style depth items ++ (style.lineBreak closing ++ ']' :: rest)
    let next := blanks ++ (write style depth w ++ more)
    have htext : writeItems style depth (w :: items) ++ (style.lineBreak closing ++ ']' :: rest) =
        ',' :: next := by
      simp only [writeItems, hseparator, List.append_assoc, List.cons_append, next, more]
    have hlength : (writeItems style depth (w :: items)).length =
        blanks.length + 1 + (write style depth w).length +
          (writeItems style depth items).length := by
      simp only [writeItems, hseparator, List.length_append, List.length_cons]
    obtain ⟨fuel, rfl⟩ : ∃ k, fuel = k + 1 := ⟨fuel - 1, by omega⟩
    have hvalue :=
      hv.readValue_eq depth (fuel + 1) (',' :: next) (by omega) (delimited_cons rfl next)
    have hcomma : skipSpace (',' :: next) = ',' :: next := rfl
    have hskip : skipSpace next = write style depth w ++ more :=
      skipSpace_starts hblanks (hw.starts depth) more
    have hnext : readItems (fuel + 1) (write style depth w ++ more) = .ok (w :: items, rest) :=
      ih hw hitems fuel (by omega)
    rw [htext, readItems]
    simp only [hvalue, hcomma, hskip, hnext]

/-- The members are written with their names in quotes, which are read back as they were. -/
theorem exists_readString (name : String) (s : List Char) :
    ∃ inner, writeString false name ++ s = '\x22' :: inner ∧ readString inner = .ok (name, s) := by
  refine ⟨name.toList.flatMap (writeChar false) ++ '\x22' :: s, ?_,
    readString_flatMap_writeChar name s⟩
  simp [writeString]

/-- A member is read up to the delimiter behind its value: a closing brace ends the object, and a
comma leads to more members. -/
theorem readMembers_member {style : Style} {v : Json} (hv : ReadsBack style v) (name : String)
    (depth fuel : Nat) {more : List Char} (hmore : Delimited more)
    (hfuel : 2 * (write style depth v).length ≤ fuel) :
    let s := writeString false name ++ ':' :: ' ' :: (write style depth v ++ more)
    (∀ rest, skipSpace more = '\x7d' :: rest →
      readMembers (fuel + 1) s = .ok ([(name, v)], rest)) ∧
    (∀ next fields rest, skipSpace more = ',' :: next →
      readMembers fuel (skipSpace next) = .ok (fields, rest) →
      readMembers (fuel + 1) s = .ok ((name, v) :: fields, rest)) := by
  intro s
  obtain ⟨inner, hname, hread⟩ :=
    exists_readString name (':' :: ' ' :: (write style depth v ++ more))
  have hcolon : skipSpace (':' :: ' ' :: (write style depth v ++ more)) =
      ':' :: ' ' :: (write style depth v ++ more) := rfl
  have hblank : skipSpace (' ' :: (write style depth v ++ more)) = write style depth v ++ more :=
    @skipSpace_starts [' '] _ (List.forall_mem_singleton.mpr rfl) (hv.starts depth) more
  have hvalue := hv.readValue_eq depth fuel more hfuel hmore
  constructor
  · intro rest hskip
    simp only [s, hname, readMembers, hread, hcolon, hblank, hvalue, hskip]
  · intro next fields rest hskip hnext
    simp only [s, hname, readMembers, hread, hcolon, hblank, hvalue, hskip, hnext]

theorem readMembers_write {style : Style} (hascii : style.ascii = false) {name : String} {v : Json}
    {fields : Fields} (hv : ReadsBack style v) (hfields : ∀ field ∈ fields, ReadsBack style field.2)
    (depth closing : Nat) (rest : List Char) (fuel : Nat)
    (hfuel : 2 * ((write style depth v).length + (writeFields style depth fields).length) < fuel) :
    readMembers fuel (writeString false name ++ ':' :: ' ' :: (write style depth v ++
      (writeFields style depth fields ++ (style.lineBreak closing ++ '\x7d' :: rest)))) =
      .ok ((name, v) :: fields, rest) := by
  obtain ⟨fuel, rfl⟩ : ∃ k, fuel = k + 1 := ⟨fuel - 1, by omega⟩
  induction fields generalizing name v fuel with
  | nil =>
    have hmore := delimited_lineBreak style closing (c := '\x7d') rfl rest
    have hskip : skipSpace (style.lineBreak closing ++ '\x7d' :: rest) = '\x7d' :: rest :=
      skipSpace_append_cons (fun _ => isSpace_of_mem_lineBreak) rfl rest
    exact (readMembers_member hv name depth fuel hmore (by omega)).1 rest hskip
  | cons field fields ih =>
    obtain ⟨hw, hfields⟩ := List.forall_mem_cons.mp hfields
    obtain ⟨blanks, hseparator, hblanks⟩ := separator_eq style depth
    let more := ':' :: ' ' :: (write style depth field.2 ++
      (writeFields style depth fields ++ (style.lineBreak closing ++ '\x7d' :: rest)))
    let next := blanks ++ (writeString false field.1 ++ more)
    have htext : writeFields style depth (field :: fields) ++
        (style.lineBreak closing ++ '\x7d' :: rest) = ',' :: next := by
      simp [writeFields, hseparator, hascii, next, more]
    have hlength : (write style depth field.2).length + (writeFields style depth fields).length <
        (writeFields style depth (field :: fields)).length := by
      simp only [writeFields, hseparator, List.length_append, List.length_cons]
      omega
    obtain ⟨fuel, rfl⟩ : ∃ k, fuel = k + 1 := ⟨fuel - 1, by omega⟩
    have hskip : skipSpace next = writeString false field.1 ++ more :=
      skipSpace_starts hblanks ⟨'\x22', _, rfl, rfl, by decide⟩ more
    have hnext : readMembers (fuel + 1) (skipSpace next) = .ok (field :: fields, rest) := by
      rw [hskip]
      exact ih hw hfields fuel (by omega)
    rw [htext]
    exact (readMembers_member hv name depth (fuel + 1) (delimited_cons rfl next) (by omega)).2
      next (field :: fields) rest rfl hnext

theorem readsBack_arr {style : Style} {items : List Json} (h : ∀ v ∈ items, ReadsBack style v) :
    ReadsBack style (.arr items) := by
  cases items with
  | nil =>
    refine ⟨fun depth => ⟨'[', _, rfl, rfl, by decide⟩, fun depth fuel rest hfuel _ => ?_⟩
    obtain ⟨fuel, rfl⟩ : ∃ k, fuel = k + 1 := ⟨fuel - 1, by simp [write] at hfuel; omega⟩
    rfl
  | cons v items =>
    obtain ⟨hv, hitems⟩ := List.forall_mem_cons.mp h
    refine ⟨fun depth => ⟨'[', _, rfl, rfl, by decide⟩, fun depth fuel rest hfuel _ => ?_⟩
    let inner := write style (depth + 1) v ++ (writeItems style (depth + 1) items ++
      (style.lineBreak depth ++ ']' :: rest))
    have htext : write style depth (.arr (v :: items)) ++ rest =
        '[' :: (style.lineBreak (depth + 1) ++ inner) := by
      simp only [write, List.append_assoc, List.cons_append, List.nil_append, inner]
    have hlength : (write style (depth + 1) v).length +
        (writeItems style (depth + 1) items).length + 2 ≤
          (write style depth (.arr (v :: items))).length := by
      simp only [write, List.length_append, List.length_cons, List.length_nil]
      omega
    obtain ⟨fuel, rfl⟩ : ∃ k, fuel = k + 1 := ⟨fuel - 1, by omega⟩
    have hskip : skipSpace (style.lineBreak (depth + 1) ++ inner) = inner :=
      skipSpace_starts (fun _ => isSpace_of_mem_lineBreak) (hv.starts (depth + 1)) _
    have hread : readItems fuel inner = .ok (v :: items, rest) :=
      readItems_write hv hitems (depth + 1) depth rest fuel (by omega)
    obtain ⟨c, more, hcons, -, hc, -⟩ := hv.starts (depth + 1)
    have hnonempty : ∀ tail, inner = ']' :: tail → False := by
      intro tail heq
      simp only [inner, hcons, List.cons_append] at heq
      exact hc (List.cons.inj heq).1
    rw [htext, readValue]
    simp only [hskip, hread]

theorem readsBack_obj {style : Style} (hascii : style.ascii = false) {fields : Fields}
    (hnames : (Fields.names fields).Nodup) (h : ∀ field ∈ fields, ReadsBack style field.2) :
    ReadsBack style (.obj fields) := by
  cases fields with
  | nil =>
    refine ⟨fun depth => ⟨'\x7b', _, rfl, rfl, by decide⟩, fun depth fuel rest hfuel _ => ?_⟩
    obtain ⟨fuel, rfl⟩ : ∃ k, fuel = k + 1 := ⟨fuel - 1, by simp [write] at hfuel; omega⟩
    rfl
  | cons field fields =>
    obtain ⟨hv, hfields⟩ := List.forall_mem_cons.mp h
    refine ⟨fun depth => ⟨'\x7b', _, rfl, rfl, by decide⟩, fun depth fuel rest hfuel _ => ?_⟩
    let more := ':' :: ' ' :: (write style (depth + 1) field.2 ++
      (writeFields style (depth + 1) fields ++ (style.lineBreak depth ++ '\x7d' :: rest)))
    have htext : write style depth (.obj (field :: fields)) ++ rest =
        '\x7b' :: (style.lineBreak (depth + 1) ++ (writeString false field.1 ++ more)) := by
      simp [write, hascii, more]
    have hlength : (write style (depth + 1) field.2).length +
        (writeFields style (depth + 1) fields).length + 2 ≤
          (write style depth (.obj (field :: fields))).length := by
      simp only [write, List.length_append, List.length_cons, List.length_nil]
      omega
    obtain ⟨fuel, rfl⟩ : ∃ k, fuel = k + 1 := ⟨fuel - 1, by omega⟩
    have hskip : skipSpace (style.lineBreak (depth + 1) ++ (writeString false field.1 ++ more)) =
        writeString false field.1 ++ more :=
      skipSpace_starts (fun _ => isSpace_of_mem_lineBreak) ⟨'\x22', _, rfl, rfl, by decide⟩ more
    have hread : readMembers fuel (writeString false field.1 ++ more) =
        .ok (field :: fields, rest) :=
      readMembers_write hascii hv hfields (depth + 1) depth rest fuel (by omega)
    have hnonempty : ∀ tail, writeString false field.1 ++ more = '\x7d' :: tail → False :=
      fun tail heq => absurd (List.cons.inj heq).1 (by decide)
    rw [htext, readValue]
    simp only [hskip, hread, Fields.ofList_of_nodup hnames]

theorem readValue_intText (n : Int) {rest : List Char} (hrest : Delimited rest) (fuel : Nat) :
    readValue (fuel + 1) (intText n ++ rest) = .ok (.int n, rest) := by
  have hfirst : ∀ c tail, intText n ++ rest = c :: tail → isDigit c = true ∨ c = '-' := by
    intro c tail heq
    obtain ⟨d, digits, hcons, hd⟩ := exists_cons_toDigits n.natAbs
    rcases intText_cases n with ⟨-, htext⟩ | ⟨-, htext⟩
    · rw [htext, hcons] at heq
      exact .inl ((List.cons.inj heq).1 ▸ hd)
    · rw [htext] at heq
      exact .inr (List.cons.inj heq).1.symm
  have hother : ∀ c tail, isDigit c = false → c ≠ '-' → intText n ++ rest = c :: tail → False := by
    intro c tail hdigit hsign heq
    rcases hfirst c tail heq with hc | hc
    · exact ne_of_isDigit hc hdigit rfl
    · exact hsign hc
  rw [readValue]
  · exact readScalar_intText n hrest
  · exact fun tail => hother _ tail rfl (by decide)
  · exact fun tail => hother _ tail rfl (by decide)
  · exact fun tail => hother _ tail rfl (by decide)

/-- Strings and scalars need no fuel beyond the step that reads them. -/
theorem readsBack_of_step {style : Style} {v : Json}
    (hstarts : ∀ depth, Starts (write style depth v)) (hread : ∀ depth fuel rest, Delimited rest →
      readValue (fuel + 1) (write style depth v ++ rest) = .ok (v, rest)) : ReadsBack style v := by
  refine ⟨hstarts, fun depth fuel rest hfuel hrest => ?_⟩
  obtain ⟨c, more, hcons, -⟩ := hstarts depth
  obtain ⟨fuel, rfl⟩ : ∃ k, fuel = k + 1 := ⟨fuel - 1, by
    rw [hcons, List.length_cons] at hfuel
    omega⟩
  exact hread depth fuel rest hrest

theorem readsBack {style : Style} (hascii : style.ascii = false) {v : Json} (h : Plain v) :
    ReadsBack style v := by
  induction h with
  | null =>
    refine readsBack_of_step (fun _ => ⟨'n', _, rfl, rfl, by decide⟩) fun _ _ _ _ => ?_
    rfl
  | bool b =>
    cases b with
    | true =>
      refine readsBack_of_step (fun _ => ⟨'t', _, rfl, rfl, by decide⟩) fun _ _ _ _ => ?_
      rfl
    | false =>
      refine readsBack_of_step (fun _ => ⟨'f', _, rfl, rfl, by decide⟩) fun _ _ _ _ => ?_
      rfl
  | int n =>
    refine readsBack_of_step (fun _ => starts_intText n) fun _ fuel rest hrest => ?_
    exact readValue_intText n hrest fuel
  | str s =>
    refine readsBack_of_step (fun _ => ⟨'\x22', _, rfl, rfl, by decide⟩)
      fun depth fuel rest hrest => ?_
    obtain ⟨inner, htext, hread⟩ := exists_readString s rest
    rw [write, hascii, htext, readValue]
    simp only [hread]
  | arr _ ih => exact readsBack_arr ih
  | obj hnames _ ih => exact readsBack_obj hascii hnames ih

theorem readText_write {style : Style} {v : Json} (h : ReadsBack style v) :
    readText (write style 0 v) = .ok v := by
  obtain ⟨c, more, hcons, hspace, -, hmark⟩ := h.starts 0
  have hend : Delimited [] := by simp [Delimited]
  have hread := h.readValue_eq 0 (2 * (write style 0 v).length + 2) [] (by omega) hend
  have hstart : skipSpace (write style 0 v) = write style 0 v := by
    rw [hcons, skipSpace, List.dropWhile_cons_of_neg (by simp [hspace])]
  rw [List.append_nil] at hread
  rw [readText]
  · simp only [hstart, hread]
    rfl
  · intro tail heq
    rw [hcons] at heq
    exact hmark (List.cons.inj heq).1

theorem parse_documentText {v : Json} (h : Plain v) (indent : Option Int) :
    parse (documentText indent v) = .ok v := by
  have hread : ReadsBack ⟨false, indent⟩ v := readsBack rfl h
  rw [parse, documentText, render, String.toList_ofList, readText_write hread]

end SlateMark.Json
