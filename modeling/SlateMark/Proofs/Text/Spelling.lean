import Mathlib.Data.List.Forall2
import Mathlib.Data.Nat.Digits.Defs
import Mathlib.Tactic.Ring
import SlateMark.Text.Digit

/-!
What a text spells. A numeral of decimal digits, of any script and with any number of leading zeros,
spells the number with these digits; a text spells a word if it is that word but for capitals.
-/
namespace SlateMark.Text

/-- The letters are decimal digits, the most significant first, of this number. -/
def SpellsNumber (letters : List Char) (n : Nat) : Prop :=
  letters ≠ [] ∧ ∃ digits, List.Forall₂ (fun c d => digitValue? c = some d) letters digits ∧
    n = Nat.ofDigits 10 digits.reverse

theorem numeralFrom?_eq_some_iff {start n : Nat} {letters : List Char} :
    numeralFrom? start letters = some n ↔
      ∃ digits, List.Forall₂ (fun c d => digitValue? c = some d) letters digits ∧
        n = Nat.ofDigits 10 digits.reverse + 10 ^ digits.length * start := by
  induction letters generalizing start with
  | nil => simp [numeralFrom?, eq_comm]
  | cons c rest ih =>
    cases hvalue : digitValue? c with
    | none => simp [numeralFrom?, hvalue, List.forall₂_cons_left_iff]
    | some value =>
      have hshift : ∀ digits : List Nat,
          Nat.ofDigits 10 digits.reverse + 10 ^ digits.length * (10 * start + value) =
            Nat.ofDigits 10 (value :: digits).reverse + 10 ^ (value :: digits).length * start := by
        intro digits
        rw [List.reverse_cons, Nat.ofDigits_append, Nat.ofDigits_singleton, List.length_reverse,
          List.length_cons]
        ring
      simp only [numeralFrom?, hvalue, ih, hshift, List.forall₂_cons_left_iff, Option.some.injEq]
      constructor
      · rintro ⟨digits, hdigits, hn⟩
        exact ⟨value :: digits, ⟨value, digits, rfl, hdigits, rfl⟩, hn⟩
      · rintro ⟨_, ⟨_, digits, rfl, hdigits, rfl⟩, hn⟩
        exact ⟨digits, hdigits, hn⟩

theorem numeral?_eq_some_iff {letters : List Char} {n : Nat} :
    numeral? letters = some n ↔ SpellsNumber letters n := by
  cases letters with
  | nil => simp [numeral?, SpellsNumber]
  | cons c rest => simp [numeral?, SpellsNumber, numeralFrom?_eq_some_iff]

/-- The letters of the word, each of them small or capital. -/
def SpellsWord (letters word : List Char) : Prop :=
  List.Forall₂ (fun c letter => c = letter ∨ c = letter.toUpper) letters word

theorem toNat_toLower (c : Char) :
    c.toLower.toNat = if 65 ≤ c.toNat ∧ c.toNat ≤ 90 then c.toNat + 32 else c.toNat := by
  have hrange : c.val ≥ 'A'.val ∧ c.val ≤ 'Z'.val ↔ 65 ≤ c.toNat ∧ c.toNat ≤ 90 := by
    rw [ge_iff_le, UInt32.le_iff_toNat_le, UInt32.le_iff_toNat_le]
    rfl
  unfold Char.toLower
  by_cases h : 65 ≤ c.toNat ∧ c.toNat ≤ 90
  · rw [dif_pos (hrange.mpr h), if_pos h]
    have hshift : ('a'.val - 'A'.val).toNat = 32 := by decide
    change (c.val + ('a'.val - 'A'.val)).toNat = c.toNat + 32
    rw [UInt32.toNat_add, hshift, Char.toNat_val]
    omega
  · rw [dif_neg (mt hrange.mp h), if_neg h]

theorem toNat_toUpper (c : Char) :
    c.toUpper.toNat = if 97 ≤ c.toNat ∧ c.toNat ≤ 122 then c.toNat - 32 else c.toNat := by
  have hrange : 'a'.val ≤ c.val ∧ c.val ≤ 'z'.val ↔ 97 ≤ c.toNat ∧ c.toNat ≤ 122 := by
    rw [UInt32.le_iff_toNat_le, UInt32.le_iff_toNat_le]
    rfl
  unfold Char.toUpper
  by_cases h : 97 ≤ c.toNat ∧ c.toNat ≤ 122
  · rw [dif_pos (hrange.mpr h), if_pos h]
    have hshift : ('A'.val - 'a'.val).toNat = 2 ^ 32 - 32 := by decide
    change (c.val + ('A'.val - 'a'.val)).toNat = c.toNat - 32
    rw [UInt32.toNat_add, hshift, Char.toNat_val]
    omega
  · rw [dif_neg (mt hrange.mp h), if_neg h]

theorem toLower_eq_iff {letter : Char} (h : 97 ≤ letter.toNat ∧ letter.toNat ≤ 122) (c : Char) :
    c.toLower = letter ↔ c = letter ∨ c = letter.toUpper := by
  rw [← Char.toNat_inj, ← Char.toNat_inj, ← Char.toNat_inj, toNat_toLower, toNat_toUpper, if_pos h]
  split <;> omega

theorem map_toLower_eq_iff {word letters : List Char}
    (h : ∀ letter ∈ word, 97 ≤ letter.toNat ∧ letter.toNat ≤ 122) :
    letters.map Char.toLower = word ↔ SpellsWord letters word := by
  induction letters generalizing word with
  | nil => simp [SpellsWord, eq_comm]
  | cons c rest ih =>
    cases word with
    | nil => simp [SpellsWord]
    | cons letter word =>
      obtain ⟨hletter, hword⟩ := List.forall_mem_cons.mp h
      rw [List.map_cons, List.cons.injEq, SpellsWord, List.forall₂_cons, toLower_eq_iff hletter,
        ih hword, SpellsWord]

end SlateMark.Text
