import Mathlib.Data.List.TakeWhile
import SlateMark.Json.Printer
import SlateMark.Json.Reader

/-!
Whole numbers in JSON text. A number is read to its last digit, so it comes back from its digits if
what follows cannot be taken for more of it: a delimiter, or the end of the text.
-/
namespace SlateMark.Json

/-- What stands behind a value in a text that was written. -/
def isDelimiter (c : Char) : Bool := c = ',' || c = '\n' || c = ']' || c = '}'

/-- The text is at its end or goes on with a delimiter. -/
def Delimited (rest : List Char) : Prop := ∀ c ∈ rest.head?, isDelimiter c = true

theorem delimited_cons {c : Char} (h : isDelimiter c = true) (rest : List Char) :
    Delimited (c :: rest) := by
  intro d hd
  rw [List.head?_cons, Option.mem_some_iff] at hd
  rw [← hd]
  exact h

theorem isDigit_of_isDelimiter {c : Char} (h : isDelimiter c = true) : isDigit c = false := by
  simp only [isDelimiter, Bool.or_eq_true, decide_eq_true_eq] at h
  rcases h with ((rfl | rfl) | rfl) | rfl <;> rfl

theorem ne_of_isDigit {c d : Char} (hc : isDigit c = true) (hd : isDigit d = false) : c ≠ d := by
  rintro rfl
  rw [hc] at hd
  exact Bool.noConfusion hd

theorem isDigit_of_mem_toDigits {n : Nat} {c : Char} (h : c ∈ Nat.toDigits 10 n) :
    isDigit c = true :=
  Nat.isDigit_of_mem_toDigits (by omega) (by omega) h

theorem digitsValue_toDigits (n : Nat) : digitsValue (Nat.toDigits 10 n) = n :=
  Nat.ofDigitChars_ten_toDigits

theorem exists_cons_toDigits (n : Nat) :
    ∃ c digits, Nat.toDigits 10 n = c :: digits ∧ isDigit c = true := by
  obtain ⟨c, digits, hcons⟩ :=
    List.exists_cons_of_ne_nil (Nat.toDigits_ne_nil (b := 10) (n := n))
  have hmem : c ∈ Nat.toDigits 10 n := by simp [hcons]
  exact ⟨c, digits, hcons, isDigit_of_mem_toDigits hmem⟩

/-- Only zero is written with a zero in front. -/
theorem head?_toDigits_ne_zero {n : Nat} (h : 0 < n) : (Nat.toDigits 10 n).head? ≠ some '0' := by
  induction n using Nat.strongRecOn with
  | ind n ih =>
    by_cases hsmall : n < 10
    · rw [Nat.toDigits_of_lt_base hsmall]
      simp
      omega
    · have hshort : 0 < n / 10 := by omega
      have hhead := ih (n / 10) (by omega) hshort
      obtain ⟨c, digits, hcons, -⟩ := exists_cons_toDigits (n / 10)
      rw [hcons] at hhead
      rw [Nat.toDigits_of_base_le (by omega) (by omega), hcons]
      exact hhead

theorem takeWhile_isDigit_append {digits rest : List Char}
    (hdigits : ∀ c ∈ digits, isDigit c = true) (hrest : Delimited rest) :
    (digits ++ rest).takeWhile isDigit = digits ∧ (digits ++ rest).dropWhile isDigit = rest := by
  have hstop : rest.takeWhile isDigit = [] ∧ rest.dropWhile isDigit = rest := by
    cases rest with
    | nil => simp
    | cons c rest => simp [isDigit_of_isDelimiter (hrest c rfl)]
  rw [List.takeWhile_append_of_pos hdigits, List.dropWhile_append_of_pos hdigits, hstop.1, hstop.2]
  simp

theorem readWhole_toDigits (n : Nat) {rest : List Char} (hrest : Delimited rest) :
    readWhole (Nat.toDigits 10 n ++ rest) = some (Nat.toDigits 10 n, rest) := by
  by_cases hzero : n = 0
  · rw [hzero, Nat.toDigits_zero]
    rfl
  · have hhead := head?_toDigits_ne_zero (Nat.pos_of_ne_zero hzero)
    have hall : ∀ c ∈ Nat.toDigits 10 n, isDigit c = true := fun c => isDigit_of_mem_toDigits
    obtain ⟨c, digits, hcons, hc⟩ := exists_cons_toDigits n
    rw [hcons] at hhead hall ⊢
    obtain ⟨htake, hdrop⟩ := takeWhile_isDigit_append (List.forall_mem_cons.mp hall).2 hrest
    have hne : c ≠ '0' := by simpa using hhead
    rw [List.cons_append, readWhole]
    · rw [if_pos hc, htake, hdrop]
    · exact fun heq => hne heq

theorem readFraction_delimited {rest : List Char} (h : Delimited rest) :
    readFraction rest = none := by
  unfold readFraction
  split
  case h_1 rest => exact absurd (h '.' rfl) (by decide)
  case h_2 => rfl

theorem readExponent_delimited {rest : List Char} (h : Delimited rest) :
    readExponent rest = none := by
  cases rest with
  | nil => rfl
  | cons c rest =>
    have hc := h c rfl
    have hne : ¬ (c = 'e' ∨ c = 'E') := by
      rintro (rfl | rfl)
      · exact absurd hc (by decide)
      · exact absurd hc (by decide)
    rw [readExponent, if_neg hne]

theorem intText_cases (n : Int) :
    (0 ≤ n ∧ intText n = Nat.toDigits 10 n.natAbs) ∨
      (n < 0 ∧ intText n = '-' :: Nat.toDigits 10 n.natAbs) := by
  by_cases h : n < 0
  · exact .inr ⟨h, if_pos h⟩
  · exact .inl ⟨by omega, if_neg h⟩

theorem readNumber_toDigits (n : Nat) {rest : List Char} (hrest : Delimited rest) :
    readNumber (Nat.toDigits 10 n ++ rest) = some (.int n, rest) ∧
      readNumber ('-' :: (Nat.toDigits 10 n ++ rest)) = some (.int (-n), rest) := by
  have hwhole := readWhole_toDigits n hrest
  have hfraction := readFraction_delimited hrest
  have hexponent := readExponent_delimited hrest
  constructor
  · rw [readNumber]
    · simp only [hwhole, hfraction, Option.getD_none, hexponent, digitsValue_toDigits]
      rfl
    · intro more heq
      obtain ⟨c, digits, hcons, hc⟩ := exists_cons_toDigits n
      rw [hcons] at heq
      exact ne_of_isDigit hc (by decide) (List.cons.inj heq).1
  · rw [readNumber]
    simp only [hwhole, hfraction, Option.getD_none, hexponent, digitsValue_toDigits]
    rfl

theorem readNumber_intText (n : Int) {rest : List Char} (hrest : Delimited rest) :
    readNumber (intText n ++ rest) = some (.int n, rest) := by
  obtain ⟨hplain, hsigned⟩ := readNumber_toDigits n.natAbs hrest
  rcases intText_cases n with ⟨hn, htext⟩ | ⟨hn, htext⟩
  · have hvalue : (n.natAbs : Int) = n := by omega
    rw [htext, hplain, hvalue]
  · have hvalue : -(n.natAbs : Int) = n := by omega
    rw [htext, List.cons_append, hsigned, hvalue]

/-- No number starts like a word. -/
theorem readWord_intText (n : Int) (rest : List Char) : readWord (intText n ++ rest) = none := by
  obtain ⟨c, digits, hcons, hc⟩ := exists_cons_toDigits n.natAbs
  have hne : ∀ d, isDigit d = false → ¬ d = c := fun d hd heq => ne_of_isDigit hc hd heq.symm
  have hI := hne 'I' rfl
  rcases intText_cases n with ⟨-, htext⟩ | ⟨-, htext⟩
  · rw [htext, hcons]
    simp [readWord, words, hne 'n' rfl, hne 't' rfl, hne 'f' rfl, hne 'N' rfl, hI, hne '-' rfl]
  · rw [htext, hcons]
    simp [readWord, words, hI]

theorem readScalar_intText (n : Int) {rest : List Char} (hrest : Delimited rest) :
    readScalar (intText n ++ rest) = .ok (.int n, rest) := by
  rw [readScalar, readWord_intText, readNumber_intText n hrest]

end SlateMark.Json
