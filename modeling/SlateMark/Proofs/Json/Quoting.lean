import SlateMark.Json.Printer
import SlateMark.Json.Reader

/-!
Strings in JSON text. A character is written as itself or as an escape, and an escape is undone by
what stands behind its backslash alone; so a string is read back up to its closing quote, and the
text behind the quote is left as it is.
-/
namespace SlateMark.Json

/-- Reading `s` up to its closing quote yields `text` and leaves `rest`. -/
def Closes (opening s text rest : List Char) : Prop :=
  readStringFrom opening 0 s = .ok (text, rest)

theorem ne_nil_of_closes {opening s text rest : List Char} (h : Closes opening s text rest) :
    s ≠ [] := by
  rintro rfl
  simp [Closes, readStringFrom] at h

theorem closes_quote (opening rest : List Char) : Closes opening ('\x22' :: rest) [] rest := rfl

theorem readStringFrom_skip (opening front s : List Char) :
    readStringFrom opening front.length (front ++ s) = readStringFrom opening 0 s := by
  induction front with
  | nil => rfl
  | cons c front ih => exact ih

theorem closes_escape {opening front s text rest : List Char} {c : Char}
    (hescape : unescape opening (front ++ s) = .ok (c, front.length))
    (h : Closes opening s text rest) : Closes opening ('\\' :: front ++ s) (c :: text) rest := by
  have htail : readStringFrom opening front.length (front ++ s) = .ok (text, rest) := by
    rw [readStringFrom_skip]
    exact h
  have hquote : ¬ ('\\' : Char) = '\x22' := by decide
  rw [Closes, List.cons_append, readStringFrom]
  simp only [if_neg hquote, if_pos, hescape, htail]

theorem closes_char {opening s text rest : List Char} {c : Char} (hquote : c ≠ '\x22')
    (hbackslash : c ≠ '\\') (hcontrol : ¬ c.toNat < 0x20) (h : Closes opening s text rest) :
    Closes opening (c :: s) (c :: text) rest := by
  rw [Closes] at h ⊢
  rw [readStringFrom]
  simp only [if_neg hquote, if_neg hbackslash, if_neg hcontrol, h]

theorem hexFrom?_hex_control :
    ∀ n < 0x20, (Text.hex 4 n).length = 4 ∧ Text.hexFrom? 0 (Text.hex 4 n) = some n := by
  decide

/-- A control character is written with four digits, none of which begin a surrogate. -/
theorem unescape_control {c : Char} (hc : c.toNat < 0x20) (opening : List Char) {s : List Char}
    (hs : s ≠ []) :
    unescape opening ('u' :: Text.hex 4 c.toNat ++ s) = .ok (c, 5) := by
  obtain ⟨hlength, hvalue⟩ := hexFrom?_hex_control c.toNat hc
  have hunit : codeUnit? (Text.hex 4 c.toNat ++ s) = some c.toNat := by
    have hroom : ¬ (Text.hex 4 c.toNat ++ s).length < 5 := by
      have hpos : 0 < s.length := List.length_pos_iff.mpr hs
      rw [List.length_append, hlength]
      omega
    rw [codeUnit?, if_neg hroom, List.take_left' hlength, hvalue]
  have hhigh : isHighSurrogate c.toNat = false := by
    simp only [isHighSurrogate, Bool.and_eq_false_iff, decide_eq_false_iff_not]
    omega
  have hlow : isLowSurrogate c.toNat = false := by
    simp only [isLowSurrogate, Bool.and_eq_false_iff, decide_eq_false_iff_not]
    omega
  rw [List.cons_append, unescape]
  simp [hunit, hhigh, hlow, ofCodeUnit, isSurrogate]

/-- A character is written as an escape of itself, or as itself if it needs none. -/
theorem writeChar_cases (c : Char) :
    (∃ front, writeChar false c = '\\' :: front ∧
      ∀ opening s, s ≠ [] → unescape opening (front ++ s) = .ok (c, front.length)) ∨
    (writeChar false c = [c] ∧ c ≠ '\x22' ∧ c ≠ '\\' ∧ ¬ c.toNat < 0x20) := by
  by_cases hquote : c = '\x22'
  · subst hquote
    exact .inl ⟨['\x22'], rfl, fun _ _ _ => rfl⟩
  by_cases hbackslash : c = '\\'
  · subst hbackslash
    exact .inl ⟨['\\'], rfl, fun _ _ _ => rfl⟩
  by_cases hline : c = '\n'
  · subst hline
    exact .inl ⟨['n'], rfl, fun _ _ _ => rfl⟩
  by_cases hreturn : c = '\r'
  · subst hreturn
    exact .inl ⟨['r'], rfl, fun _ _ _ => rfl⟩
  by_cases htab : c = '\t'
  · subst htab
    exact .inl ⟨['t'], rfl, fun _ _ _ => rfl⟩
  by_cases hbackspace : c = '\x08'
  · subst hbackspace
    exact .inl ⟨['b'], rfl, fun _ _ _ => rfl⟩
  by_cases hfeed : c = '\x0c'
  · subst hfeed
    exact .inl ⟨['f'], rfl, fun _ _ _ => rfl⟩
  have hplain : writeChar false c = if c.toNat < 0x20 then charEscape c else [c] := by
    simp [writeChar, hquote, hbackslash, hline, hreturn, htab, hbackspace, hfeed]
  by_cases hcontrol : c.toNat < 0x20
  · have hsmall : c.toNat < 0x10000 := by omega
    have hlength := (hexFrom?_hex_control c.toNat hcontrol).1
    refine .inl ⟨'u' :: Text.hex 4 c.toNat, ?_, fun opening s hs => ?_⟩
    · rw [hplain, if_pos hcontrol, charEscape, if_pos hsmall, unicodeEscape]
    · rw [List.length_cons, hlength]
      exact unescape_control hcontrol opening hs
  · refine .inr ⟨?_, hquote, hbackslash, hcontrol⟩
    rw [hplain, if_neg hcontrol]

theorem closes_writeChar (c : Char) {opening s text rest : List Char}
    (h : Closes opening s text rest) :
    Closes opening (writeChar false c ++ s) (c :: text) rest := by
  rcases writeChar_cases c with ⟨front, hwrite, hescape⟩ | ⟨hwrite, hquote, hbackslash, hcontrol⟩
  · rw [hwrite]
    exact closes_escape (hescape opening s (ne_nil_of_closes h)) h
  · rw [hwrite]
    exact closes_char hquote hbackslash hcontrol h

theorem closes_flatMap_writeChar (opening text rest : List Char) :
    Closes opening (text.flatMap (writeChar false) ++ '\x22' :: rest) text rest := by
  induction text with
  | nil => exact closes_quote opening rest
  | cons c text ih =>
    rw [List.flatMap_cons, List.append_assoc]
    exact closes_writeChar c ih

theorem readString_flatMap_writeChar (s : String) (rest : List Char) :
    readString (s.toList.flatMap (writeChar false) ++ '\x22' :: rest) = .ok (s, rest) := by
  have h := closes_flatMap_writeChar
    ('\x22' :: (s.toList.flatMap (writeChar false) ++ '\x22' :: rest)) s.toList rest
  rw [Closes] at h
  simp only [readString, h, String.ofList_toList]

end SlateMark.Json
