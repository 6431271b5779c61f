import SlateMark.Proofs.Failure
import SlateMark.Text.Utf8

/-!
Bytes and text. The bytes that decode to a text are those that encode it and no others, so what is
written of a text is read back as that text.
-/
namespace SlateMark.Text

theorem encodeUtf8_eq (s : String) : encodeUtf8 s = s.toList.flatMap String.utf8EncodeChar := by
  have hbytes : s.toByteArray = s.toList.utf8Encode := String.utf8Encode_toList.symm
  rw [encodeUtf8, String.toUTF8, hbytes, List.utf8Encode, List.toList_data_toByteArray]

/-! Bytes by their numbers. -/

theorem sequenceLength?_eq (b : UInt8) :
    sequenceLength? b =
      if b.toNat < 128 then some 1
      else if b.toNat < 194 then none
      else if b.toNat < 224 then some 2
      else if b.toNat < 240 then some 3
      else if b.toNat < 245 then some 4
      else none := rfl

theorem sequenceLength?_eq_some_iff {b : UInt8} {n : Nat} : sequenceLength? b = some n ↔
    b.toNat < 128 ∧ n = 1 ∨ (194 ≤ b.toNat ∧ b.toNat < 224) ∧ n = 2 ∨
      (224 ≤ b.toNat ∧ b.toNat < 240) ∧ n = 3 ∨ (240 ≤ b.toNat ∧ b.toNat < 245) ∧ n = 4 := by
  rw [sequenceLength?_eq]
  grind

theorem isContinuation_iff {b : UInt8} : isContinuation b ↔ 128 ≤ b.toNat ∧ b.toNat ≤ 191 := by
  rw [isContinuation, Bool.and_eq_true, decide_eq_true_iff, decide_eq_true_iff,
    UInt8.le_iff_toNat_le, UInt8.le_iff_toNat_le]
  rfl

theorem mayFollow_iff {first second : UInt8} :
    mayFollow first second ↔ (128 ≤ second.toNat ∧ second.toNat ≤ 191) ∧
      (first.toNat = 224 → 160 ≤ second.toNat) ∧ (first.toNat = 237 → second.toNat < 160) ∧
      (first.toNat = 240 → 144 ≤ second.toNat) ∧ (first.toNat = 244 → second.toNat < 144) := by
  simp only [mayFollow, Bool.and_eq_true, isContinuation_iff, ← UInt8.toNat_inj,
    UInt8.le_iff_toNat_le, UInt8.lt_iff_toNat_lt, UInt8.reduceToNat]
  grind

/-! One character. -/

/-- The bytes spell the number of a character, in the shortest sequence that has room for it. -/
inductive Spells : List UInt8 → Nat → Prop
  | one {a : UInt8} (ha : a.toNat < 128) : Spells [a] a.toNat
  | two {a b : UInt8} (ha : 194 ≤ a.toNat ∧ a.toNat < 224) (hb : mayFollow a b) :
    Spells [a, b] (a.toNat % 32 * 64 + lowBits b)
  | three {a b c : UInt8} (ha : 224 ≤ a.toNat ∧ a.toNat < 240) (hb : mayFollow a b)
      (hc : isContinuation c) :
    Spells [a, b, c] ((a.toNat % 16 * 64 + lowBits b) * 64 + lowBits c)
  | four {a b c d : UInt8} (ha : 240 ≤ a.toNat ∧ a.toNat < 245) (hb : mayFollow a b)
      (hc : isContinuation c) (hd : isContinuation d) :
    Spells [a, b, c, d] (((a.toNat % 8 * 64 + lowBits b) * 64 + lowBits c) * 64 + lowBits d)

theorem decodeChar_of_spells {first : UInt8} {more : List UInt8} {n : Nat}
    (h : Spells (first :: more) n) (rest : List UInt8) :
    decodeChar first (more ++ rest) = .ok (Char.ofNat n, more.length) := by
  cases h with
  | one ha =>
    have hlength : sequenceLength? first = some 1 := sequenceLength?_eq_some_iff.mpr (by omega)
    simp only [decodeChar, hlength]
    rfl
  | two ha hb =>
    have hlength : sequenceLength? first = some 2 := sequenceLength?_eq_some_iff.mpr (by omega)
    simp only [decodeChar, hlength, List.cons_append, hb]
    rfl
  | three ha hb hc =>
    have hlength : sequenceLength? first = some 3 := sequenceLength?_eq_some_iff.mpr (by omega)
    simp only [decodeChar, hlength, List.cons_append, hb, hc]
    rfl
  | four ha hb hc hd =>
    have hlength : sequenceLength? first = some 4 := sequenceLength?_eq_some_iff.mpr (by omega)
    simp only [decodeChar, hlength, List.cons_append, hb, hc, hd]
    rfl

theorem spells_of_decodeChar {first : UInt8} {rest : List UInt8} {c : Char} {length : Nat}
    (h : decodeChar first rest = .ok (c, length)) :
    ∃ more tail n, rest = more ++ tail ∧ more.length = length ∧ Spells (first :: more) n ∧
      c = Char.ofNat n := by
  unfold decodeChar at h
  split at h
  case h_1 => cases h
  case h_2 hlength =>
    cases h
    have ha := sequenceLength?_eq_some_iff.mp hlength
    exact ⟨[], _, _, rfl, rfl, .one (by omega), rfl⟩
  case h_3 => cases h
  case h_4 b rest hlength =>
    split at h
    case isFalse => cases h
    case isTrue hb =>
      cases h
      have ha := sequenceLength?_eq_some_iff.mp hlength
      exact ⟨[b], rest, _, rfl, rfl, .two (by omega) hb, rfl⟩
  case h_5 n b more hone htwo hlength =>
    change n ≠ 1 at hone
    change n ≠ 2 at htwo
    have ha := sequenceLength?_eq_some_iff.mp hlength
    split at h
    case isFalse => cases h
    case isTrue hb =>
      split at h
      case h_1 => cases h
      case h_2 c more =>
        split at h
        case isFalse => cases h
        case isTrue hc =>
          split at h
          case isTrue hthree =>
            cases h
            exact ⟨[b, c], more, _, rfl, rfl, .three (by omega) hb hc, rfl⟩
          case isFalse hthree =>
            split at h
            case h_1 => cases h
            case h_2 d rest =>
              split at h
              case isFalse => cases h
              case isTrue hd =>
                cases h
                exact ⟨[b, c, d], rest, _, rfl, rfl, .four (by omega) hb hc hd, rfl⟩

/-- The numbers that are spelt are those of characters. -/
theorem Spells.isValidChar {bytes : List UInt8} {n : Nat} (h : Spells bytes n) :
    n.isValidChar := by
  cases h with
  | one ha => exact .inl (by omega)
  | two ha hb =>
    rw [mayFollow_iff] at hb
    unfold lowBits Nat.isValidChar
    omega
  | three ha hb hc =>
    rw [mayFollow_iff] at hb
    rw [isContinuation_iff] at hc
    unfold lowBits Nat.isValidChar
    omega
  | four ha hb hc hd =>
    rw [mayFollow_iff] at hb
    rw [isContinuation_iff] at hc hd
    unfold lowBits Nat.isValidChar
    omega

theorem ofNat_eq_of_toNat {b : UInt8} {n : Nat} (h : b.toNat = n) : UInt8.ofNat n = b := by
  rw [← h, UInt8.ofNat_toNat]

theorem utf8EncodeChar_of_spells {bytes : List UInt8} {n : Nat} (h : Spells bytes n) :
    String.utf8EncodeChar (Char.ofNat n) = bytes := by
  have hn : (Char.ofNat n).val.toNat = n := by
    rw [Char.ofNat, dif_pos h.isValidChar]
    rfl
  rw [String.utf8EncodeChar, hn]
  cases h with
  | one ha => rw [if_pos (by omega), UInt8.ofNat_toNat]
  | two ha hb =>
    rw [mayFollow_iff] at hb
    unfold lowBits
    rw [if_neg (by omega), if_pos (by omega)]
    simp only [List.cons.injEq]
    exact ⟨ofNat_eq_of_toNat (by omega), ofNat_eq_of_toNat (by omega), trivial⟩
  | three ha hb hc =>
    rw [mayFollow_iff] at hb
    rw [isContinuation_iff] at hc
    unfold lowBits
    rw [if_neg (by omega), if_neg (by omega), if_pos (by omega)]
    simp only [List.cons.injEq]
    exact ⟨ofNat_eq_of_toNat (by omega), ofNat_eq_of_toNat (by omega),
      ofNat_eq_of_toNat (by omega), trivial⟩
  | four ha hb hc hd =>
    rw [mayFollow_iff] at hb
    rw [isContinuation_iff] at hc hd
    unfold lowBits
    rw [if_neg (by omega), if_neg (by omega), if_neg (by omega)]
    simp only [List.cons.injEq]
    exact ⟨ofNat_eq_of_toNat (by omega), ofNat_eq_of_toNat (by omega),
      ofNat_eq_of_toNat (by omega), ofNat_eq_of_toNat (by omega), trivial⟩

theorem exists_byte {n : Nat} (h : n < 256) : ∃ b : UInt8, UInt8.ofNat n = b ∧ b.toNat = n :=
  ⟨_, rfl, UInt8.toNat_ofNat_of_lt h⟩

theorem spells_utf8EncodeChar (c : Char) : Spells (String.utf8EncodeChar c) c.toNat := by
  have hc : c.toNat.isValidChar := c.valid
  unfold Nat.isValidChar at hc
  rw [String.utf8EncodeChar, ← Char.toNat]
  generalize c.toNat = n at hc ⊢
  obtain ⟨last, hlast, hlastNat⟩ := exists_byte (n := n % 64 + 128) (by omega)
  split
  case isTrue h =>
    obtain ⟨a, ha, haNat⟩ := exists_byte (n := n) (by omega)
    rw [ha, ← haNat]
    exact .one (by omega)
  case isFalse =>
    split
    case isTrue h =>
      obtain ⟨a, ha, haNat⟩ := exists_byte (n := n / 64 % 32 + 192) (by omega)
      rw [ha, hlast]
      have hn : a.toNat % 32 * 64 + lowBits last = n := by
        unfold lowBits
        omega
      exact hn ▸ .two (by omega) (mayFollow_iff.mpr (by omega))
    case isFalse =>
      obtain ⟨c, hc, hcNat⟩ := exists_byte (n := n / 64 % 64 + 128) (by omega)
      split
      case isTrue h =>
        obtain ⟨a, ha, haNat⟩ := exists_byte (n := n / 4096 % 16 + 224) (by omega)
        rw [ha, hc, hlast]
        have hn : (a.toNat % 16 * 64 + lowBits c) * 64 + lowBits last = n := by
          unfold lowBits
          omega
        exact hn ▸ .three (by omega) (mayFollow_iff.mpr (by omega))
          (isContinuation_iff.mpr (by omega))
      case isFalse =>
        obtain ⟨a, ha, haNat⟩ := exists_byte (n := n / 262144 % 8 + 240) (by omega)
        obtain ⟨b, hb, hbNat⟩ := exists_byte (n := n / 4096 % 64 + 128) (by omega)
        rw [ha, hb, hc, hlast]
        have hn : ((a.toNat % 8 * 64 + lowBits b) * 64 + lowBits c) * 64 + lowBits last = n := by
          unfold lowBits
          omega
        exact hn ▸ .four (by omega) (mayFollow_iff.mpr (by omega))
          (isContinuation_iff.mpr (by omega)) (isContinuation_iff.mpr (by omega))

/-! A text. -/

theorem decodeUtf8From_skip (more rest : List UInt8) (position : Nat) :
    decodeUtf8From position more.length (more ++ rest) =
      decodeUtf8From (position + more.length) 0 rest := by
  induction more generalizing position with
  | nil => rfl
  | cons b more ih =>
    rw [List.length_cons, List.cons_append, decodeUtf8From, ih]
    congr 1
    omega

theorem decodeUtf8From_of_spells {first : UInt8} {more : List UInt8} {n : Nat}
    (h : Spells (first :: more) n) (rest : List UInt8) (position : Nat) :
    decodeUtf8From position 0 (first :: (more ++ rest)) =
      (decodeUtf8From (position + 1 + more.length) 0 rest).map (Char.ofNat n :: ·) := by
  rw [decodeUtf8From, decodeChar_of_spells h]
  dsimp only
  rw [decodeUtf8From_skip]
  cases decodeUtf8From (position + 1 + more.length) 0 rest <;> rfl

theorem decodeUtf8From_encoded (text : List Char) (position : Nat) :
    decodeUtf8From position 0 (text.flatMap String.utf8EncodeChar) = .ok text := by
  induction text generalizing position with
  | nil => rfl
  | cons c text ih =>
    have hspells := spells_utf8EncodeChar c
    rw [List.flatMap_cons]
    cases hbytes : String.utf8EncodeChar c with
    | nil => exact absurd hbytes String.utf8EncodeChar_ne_nil
    | cons first more =>
      rw [hbytes] at hspells
      rw [List.cons_append, decodeUtf8From_of_spells hspells, ih, Char.ofNat_toNat]
      rfl

/-- Each character read is the one whose bytes stand there, so no other bytes are read as the text. -/
theorem encoded_of_decodeUtf8From {bytes : List UInt8} {position : Nat} {text : List Char}
    (h : decodeUtf8From position 0 bytes = .ok text) :
    bytes = text.flatMap String.utf8EncodeChar := by
  -- A character takes several bytes, so the induction is on the number of bytes that are left.
  induction hlength : bytes.length using Nat.strongRecOn generalizing bytes position text with
  | ind length ih =>
    cases bytes with
    | nil =>
      cases h
      rfl
    | cons first rest =>
      cases hchar : decodeChar first rest with
      | error e =>
        rw [decodeUtf8From, hchar] at h
        cases h
      | ok decoded =>
        obtain ⟨c, count⟩ := decoded
        obtain ⟨more, tail, n, rfl, rfl, hspells, rfl⟩ := spells_of_decodeChar hchar
        rw [decodeUtf8From_of_spells hspells] at h
        obtain ⟨text, htail, rfl⟩ := except_map_eq_ok.mp h
        have hshorter : tail.length < length := by
          rw [← hlength, List.length_cons, List.length_append]
          omega
        rw [List.flatMap_cons, utf8EncodeChar_of_spells hspells, ← ih _ hshorter htail rfl]
        rfl

/-- The bytes that are read as a text are those that encode it. -/
theorem decodeUtf8_eq_ok_iff {bytes : List UInt8} {s : String} :
    decodeUtf8 bytes = .ok s.toList ↔ bytes = encodeUtf8 s := by
  rw [encodeUtf8_eq]
  constructor
  · exact encoded_of_decodeUtf8From
  · rintro rfl
    exact decodeUtf8From_encoded s.toList 0

/-- A text of lines that end in line feeds is read as it is. -/
theorem unifyNewlines_of_notMem {s : List Char} (h : '\r' ∉ s) : unifyNewlines s = s := by
  fun_induction unifyNewlines s with
  | case1 rest ih => exact absurd List.mem_cons_self h
  | case2 rest hrest ih => exact absurd List.mem_cons_self h
  | case3 c rest hpair hreturn ih => rw [ih fun hmem => h (List.mem_cons_of_mem c hmem)]
  | case4 => rfl

end SlateMark.Text
