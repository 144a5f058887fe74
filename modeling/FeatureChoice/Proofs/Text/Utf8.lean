import FeatureChoice.Text.Utf8
/-!
Correctness of reading UTF-8. Bytes have a text exactly when they are the encoding of this text, so
bytes that are not the encoding of any text are refused.

* `Text.leadByte`, `Text.tailBytes`: the first byte of a character, and those after it, which have
  six bits each (`Text.utf8EncodeChar_eq`).
* `Text.PartialChar.Fits`: the characters that a partial one can become.
* `Text.decodeFrom_some`: what is owed of a partial character is the tail of one that fits.
* `Text.Begins`: what a first byte begins are the characters with this first byte.
* `Text.decodeUtf8_eq_ok_iff`: reading is the inverse of encoding.
-/

namespace FeatureChoice.Text

open String (utf8EncodeChar)

/-! ### Characters and their numbers -/

theorem toNat_ofNat {n : Nat} (valid : n.isValidChar) : (Char.ofNat n).toNat = n := by
  rw [Char.ofNat, dif_pos valid]
  rfl

/-- A number without its last groups of six bits. -/
def above : Nat → Nat → Nat
  | 0, n => n
  | k + 1, n => above k n / 64

/-- The last bytes of the character of a number, with six bits each. -/
def tailBytes : Nat → Nat → List UInt8
  | 0, _ => []
  | k + 1, n => UInt8.ofNat (0x80 + above k n % 64) :: tailBytes k n

/-- A byte within the bounds is the last six bits of the number that it leads to. -/
theorem byte_iff {low high : Nat} (least : 0x80 ≤ low) (most : high ≤ 0xbf) (code : Nat) (b : UInt8)
    (m : Nat) :
    (m / 64 = code ∧ low ≤ 0x80 + m % 64 ∧ 0x80 + m % 64 ≤ high) ∧
        b = UInt8.ofNat (0x80 + m % 64) ↔
      (low ≤ b.toNat ∧ b.toNat ≤ high) ∧ m = code * 64 + (b.toNat - 0x80) := by
  have byte : (UInt8.ofNat (0x80 + m % 64)).toNat = 0x80 + m % 64 :=
    UInt8.toNat_ofNat_of_lt' (by simp only [UInt8.size]; omega)
  rw [← UInt8.toNat_inj, byte]
  omega

namespace PartialChar

/-- A character of this number begins like the partial one, and its next byte is within the
bounds. -/
structure Fits (p : PartialChar) (n : Nat) : Prop where
  code : above (p.owed - 1) n / 64 = p.code
  low : p.low ≤ 0x80 + above (p.owed - 1) n % 64
  high : 0x80 + above (p.owed - 1) n % 64 ≤ p.high

variable {p : PartialChar} {k : Nat}

/-- A code fits exactly if its upper bits do and the bits of the next byte lie within the bounds. -/
theorem fits_iff (owed : p.owed = k + 1) (n : Nat) :
    p.Fits n ↔ above k n / 64 = p.code ∧ p.low ≤ 0x80 + above k n % 64 ∧
      0x80 + above k n % 64 ≤ p.high := by
  have before : p.owed - 1 = k := by omega
  constructor
  · rintro ⟨code, least, most⟩
    rw [before] at code least most
    exact ⟨code, least, most⟩
  · rintro ⟨code, least, most⟩
    rw [← before] at code least most
    exact ⟨code, least, most⟩

end PartialChar

variable {position : Nat} {seen out : List Char} {p : PartialChar} {k : Nat} {b : UInt8}
  {bytes : List UInt8}

/-- A code fits a byte and those that follow exactly if the byte is within the bounds and carries
the next six bits. -/
theorem fits_and_cons_iff (owed : p.owed = k + 1) (low : 0x80 ≤ p.low) (high : p.high ≤ 0xbf)
    (n : Nat) (bytes rest : List UInt8) :
    p.Fits n ∧ b :: bytes = tailBytes (k + 1) n ++ rest ↔
      (p.low ≤ b.toNat ∧ b.toNat ≤ p.high) ∧ above k n = p.code * 64 + (b.toNat - 0x80) ∧
        bytes = tailBytes k n ++ rest := by
  have byte := byte_iff low high p.code b (above k n)
  rw [tailBytes, List.cons_append, List.cons.injEq, ← and_assoc, PartialChar.fits_iff owed, byte,
    and_assoc]

/-- What is owed of a partial character is the tail of one that fits. -/
theorem decodeFrom_some (k : Nat) (owed : p.owed = k + 1) (low : 0x80 ≤ p.low)
    (high : p.high ≤ 0xbf) (bytes : List UInt8) :
    decodeFrom position seen (some p) bytes = .ok out ↔
      ∃ n rest, (p.Fits n ∧ bytes = tailBytes (k + 1) n ++ rest) ∧
        decodeFrom (position + (k + 1)) (Char.ofNat n :: seen) none rest = .ok out := by
  induction k generalizing p position bytes with
  | zero =>
    cases bytes with
    | nil => simp [decodeFrom, tailBytes]
    | cons b bytes =>
      simp only [fits_and_cons_iff owed low high, decodeFrom, Bool.and_eq_true, decide_eq_true_eq,
        owed, Nat.le_refl, if_true]
      split
      · next inside =>
        simp only [inside, and_self, true_and, above, tailBytes, List.nil_append]
        simp only [and_assoc, exists_and_left, exists_eq_left, exists_eq_left', Nat.zero_add]
      · next outside => simp [outside]
  | succ k ih =>
    cases bytes with
    | nil => simp [decodeFrom, tailBytes]
    | cons b bytes =>
      simp only [fits_and_cons_iff owed low high, decodeFrom, Bool.and_eq_true, decide_eq_true_eq]
      split
      · next inside =>
        have more : ¬ p.owed ≤ 1 := by omega
        simp only [inside, and_self, true_and, if_neg more]
        let q : PartialChar := { p with
          owed := p.owed - 1, low := 0x80, high := 0xbf, code := p.code * 64 + (b.toNat - 0x80) }
        have left : q.owed = k + 1 := by simp only [q]; omega
        have fits : ∀ n, q.Fits n ↔ above (k + 1) n = p.code * 64 + (b.toNat - 0x80) := by
          intro n
          have six : above k n % 64 < 64 := Nat.mod_lt _ (by decide)
          rw [PartialChar.fits_iff left, above]
          exact and_iff_left ⟨Nat.le_add_right _ _, by simp only [q]; omega⟩
        have further : position + 1 + (k + 1) = position + (k + 1 + 1) := by omega
        rw [ih left (Nat.le_refl _) (Nat.le_refl _), further]
        simp only [fits]
      · next outside => simp [outside]

/-! ### First bytes -/

theorem tailBytes_one (n : Nat) : tailBytes 1 n = [UInt8.ofNat (0x80 + n % 64)] := by
  rw [tailBytes, above, tailBytes]

theorem tailBytes_two (n : Nat) :
    tailBytes 2 n = [UInt8.ofNat (0x80 + n / 64 % 64), UInt8.ofNat (0x80 + n % 64)] := by
  rw [tailBytes, tailBytes_one, above, above]

theorem tailBytes_three (n : Nat) :
    tailBytes 3 n = UInt8.ofNat (0x80 + n / 4096 % 64) :: tailBytes 2 n := by
  rw [tailBytes, above, above, above, Nat.div_div_eq_div_mul]

/-- The first byte of the character of a number, by how many bytes follow it. -/
def leadByte : Nat → Nat → UInt8
  | 0, n => UInt8.ofNat n
  | 1, n => UInt8.ofNat (0xc0 + n / 64)
  | 2, n => UInt8.ofNat (0xe0 + n / 4096)
  | _, n => UInt8.ofNat (0xf0 + n / 262144)

/-- How many bytes follow the first one of the character of a number. -/
def tailLength (n : Nat) : Nat :=
  if n ≤ 0x7f then 0 else if n ≤ 0x7ff then 1 else if n ≤ 0xffff then 2 else 3

theorem toNat_lt (c : Char) : c.toNat < 0x110000 := by
  rcases c.valid with h | h
  · have : c.toNat < 0xd800 := h
    omega
  · exact h.2

/-- A character is encoded in a first byte, which says how many follow, and these. -/
theorem utf8EncodeChar_eq (c : Char) :
    utf8EncodeChar c =
      leadByte (tailLength c.toNat) c.toNat :: tailBytes (tailLength c.toNat) c.toNat := by
  have small := toNat_lt c
  have number : c.val.toNat = c.toNat := rfl
  rw [utf8EncodeChar.eq_1, number]
  generalize c.toNat = n at small
  unfold tailLength
  have l1 : n ≤ 0x7ff → n / 64 % 32 = n / 64 := by omega
  have l2 : n ≤ 0xffff → n / 4096 % 16 = n / 4096 := by omega
  have l3 : n / 262144 % 8 = n / 262144 := by omega
  split
  · rfl
  split
  · next h => rw [tailBytes_one, leadByte, l1 h, Nat.add_comm, Nat.add_comm (n % 64)]
  split
  · next h =>
    rw [tailBytes_two, leadByte, l2 h, Nat.add_comm, Nat.add_comm (n % 64),
      Nat.add_comm (n / 64 % 64)]
  · rw [tailBytes_three, tailBytes_two, leadByte, l3, Nat.add_comm, Nat.add_comm (n % 64),
      Nat.add_comm (n / 64 % 64), Nat.add_comm (n / 4096 % 64)]
    all_goals simp

theorem le_of_tailLength {n : Nat} (length : tailLength n = 0) : n ≤ 0x7f := by
  unfold tailLength at length
  split at length
  · assumption
  · split at length
    · cases length
    · split at length <;> cases length

theorem tailLength_one {n : Nat} (least : 0x80 ≤ n) (most : n ≤ 0x7ff) : tailLength n = 1 := by
  unfold tailLength
  rw [if_neg (by omega), if_pos most]

theorem tailLength_two {n : Nat} (least : 0x800 ≤ n) (most : n ≤ 0xffff) : tailLength n = 2 := by
  unfold tailLength
  rw [if_neg (by omega), if_neg (by omega), if_pos most]

theorem tailLength_three {n : Nat} (least : 0x10000 ≤ n) : tailLength n = 3 := by
  unfold tailLength
  rw [if_neg (by omega), if_neg (by omega), if_neg (by omega)]

/-- What a first byte begins are characters with this first byte and as many more as are owed. -/
structure Begins (b : UInt8) (p : PartialChar) : Prop where
  low : 0x80 ≤ p.low
  high : p.high ≤ 0xbf
  owed : ∃ k, p.owed = k + 1
  fits : ∀ n, p.Fits n → n.isValidChar ∧ tailLength n = p.owed ∧ b = leadByte p.owed n

/-- A first byte of the two-byte form begins a character. -/
theorem begins_of_one {code : Nat} (lead : b.toNat = 0xc0 + code) (least : 2 ≤ code)
    (most : code ≤ 0x1f) : Begins b ⟨b, position, 1, 0x80, 0xbf, code⟩ := by
  refine ⟨Nat.le_refl _, Nat.le_refl _, ⟨0, rfl⟩, fun n fits => ?_⟩
  obtain ⟨same, low, high⟩ := fits
  simp only [Nat.sub_self, above] at same low high
  refine ⟨?_, tailLength_one (by omega) (by omega), ?_⟩
  · unfold Nat.isValidChar
    omega
  · rw [leadByte, same, ← lead, UInt8.ofNat_toNat]

/-- A first byte of the three-byte form begins a character, within bounds that leave out long forms
and surrogates. -/
theorem begins_of_two {code low high : Nat} (lead : b.toNat = 0xe0 + code) (most : code ≤ 0xf)
    (tails : 0x80 ≤ low ∧ high ≤ 0xbf) (long : code = 0 → 0xa0 ≤ low)
    (whole : code = 0xd → high ≤ 0x9f) : Begins b ⟨b, position, 2, low, high, code⟩ := by
  refine ⟨tails.1, tails.2, ⟨1, rfl⟩, fun n fits => ?_⟩
  obtain ⟨same, low, high⟩ := fits
  simp only [Nat.add_one_sub_one, above] at same low high
  refine ⟨?_, tailLength_two (by omega) (by omega), ?_⟩
  · unfold Nat.isValidChar
    omega
  · have group : n / 4096 = code := by omega
    rw [leadByte, group, ← lead, UInt8.ofNat_toNat]

/-- A first byte of the four-byte form begins a character, within bounds that leave out long forms
and what is beyond the last code point. -/
theorem begins_of_three {code low high : Nat} (lead : b.toNat = 0xf0 + code) (most : code ≤ 4)
    (tails : 0x80 ≤ low ∧ high ≤ 0xbf) (long : code = 0 → 0x90 ≤ low)
    (known : code = 4 → high ≤ 0x8f) : Begins b ⟨b, position, 3, low, high, code⟩ := by
  refine ⟨tails.1, tails.2, ⟨2, rfl⟩, fun n fits => ?_⟩
  obtain ⟨same, low, high⟩ := fits
  simp only [Nat.add_one_sub_one, above] at same low high
  refine ⟨?_, tailLength_three (by omega), ?_⟩
  · unfold Nat.isValidChar
    omega
  · have group : n / 262144 = code := by omega
    show b = UInt8.ofNat (0xf0 + n / 262144)
    rw [group, ← lead, UInt8.ofNat_toNat]

/-- Nothing else begins a character of several bytes. -/
theorem begins_of_beginChar (begins : beginChar b position = some (.inr p)) : Begins b p := by
  unfold beginChar at begins
  simp only [Bool.and_eq_true, decide_eq_true_eq] at begins
  split at begins
  · cases begins
  split at begins
  · cases begins
    exact begins_of_one (by omega) (by omega) (by omega)
  split at begins
  · cases begins
    exact begins_of_two (by omega) (by omega) (by decide) (by decide) (by decide)
  split at begins
  · cases begins
    exact begins_of_two (by omega) (by omega) (by decide) (by decide) (by decide)
  split at begins
  · cases begins
    exact begins_of_two (by omega) (by omega) (by decide) (by omega) (by omega)
  split at begins
  · cases begins
    exact begins_of_three (by omega) (by omega) (by decide) (by decide) (by decide)
  split at begins
  · cases begins
    exact begins_of_three (by omega) (by omega) (by decide) (by omega) (by omega)
  split at begins
  · cases begins
    exact begins_of_three (by omega) (by omega) (by decide) (by decide) (by decide)
  · cases begins

theorem beginChar_one {code : Nat} (lead : b.toNat = 0xc0 + code) (least : 2 ≤ code)
    (most : code ≤ 0x1f) :
    beginChar b position = some (.inr ⟨b, position, 1, 0x80, 0xbf, code⟩) := by
  have number : 0xc0 + code - 0xc0 = code := by omega
  unfold beginChar
  simp only [lead, Bool.and_eq_true, decide_eq_true_eq, number]
  rw [if_neg (by omega), if_pos (by omega)]

theorem beginChar_two {code : Nat} (lead : b.toNat = 0xe0 + code) (most : code ≤ 0xf) :
    beginChar b position = some (.inr ⟨b, position, 2, if code = 0 then 0xa0 else 0x80,
      if code = 0xd then 0x9f else 0xbf, code⟩) := by
  have number : 0xe0 + code - 0xe0 = code := by omega
  unfold beginChar
  simp only [lead, Bool.and_eq_true, decide_eq_true_eq, number]
  rw [if_neg (by omega), if_neg (by omega)]
  by_cases zero : code = 0
  · subst zero
    rfl
  by_cases surrogate : code = 0xd
  · subst surrogate
    rfl
  rw [if_neg (by omega), if_neg (by omega), if_pos (by omega), if_neg zero, if_neg surrogate]

theorem beginChar_three {code : Nat} (lead : b.toNat = 0xf0 + code) (most : code ≤ 4) :
    beginChar b position = some (.inr ⟨b, position, 3, if code = 0 then 0x90 else 0x80,
      if code = 4 then 0x8f else 0xbf, code⟩) := by
  have number : 0xf0 + code - 0xf0 = code := by omega
  unfold beginChar
  simp only [lead, Bool.and_eq_true, decide_eq_true_eq, number]
  rw [if_neg (by omega), if_neg (by omega), if_neg (by omega), if_neg (by omega), if_neg (by omega)]
  by_cases zero : code = 0
  · subst zero
    rfl
  by_cases last : code = 4
  · subst last
    rfl
  rw [if_neg (by omega), if_pos (by omega), if_neg zero, if_neg last]

/-- The first byte of a longer character begins what this character fits. -/
theorem beginChar_leadByte (position : Nat) {n k : Nat} (valid : n.isValidChar)
    (length : tailLength n = k + 1) :
    ∃ p, beginChar (leadByte (k + 1) n) position = some (.inr p) ∧ p.owed = k + 1 ∧ p.Fits n := by
  unfold Nat.isValidChar at valid
  unfold tailLength at length
  have number : ∀ m < 256, (UInt8.ofNat m).toNat = m := fun m less => UInt8.toNat_ofNat_of_lt' less
  split at length
  · cases length
  split at length
  · cases length
    refine ⟨_, beginChar_one (number _ (by omega)) (by omega) (by omega), rfl, ?_⟩
    constructor <;> simp only [Nat.sub_self, above] <;> omega
  split at length
  · cases length
    refine ⟨_, beginChar_two (number _ (by omega)) (by omega), rfl, ?_⟩
    constructor
    · simp only [Nat.add_one_sub_one, above]; omega
    · simp only [Nat.add_one_sub_one, above]; split <;> omega
    · simp only [Nat.add_one_sub_one, above]; split <;> omega
  · cases length
    refine ⟨_, beginChar_three (number _ (by omega)) (by omega), rfl, ?_⟩
    constructor
    · simp only [Nat.add_one_sub_one, above]; omega
    · simp only [Nat.add_one_sub_one, above]; split <;> omega
    · simp only [Nat.add_one_sub_one, above]; split <;> omega

/-! ### Texts -/

/-- A byte that is a whole character is its encoding. -/
theorem of_beginChar_whole {c : Char} (begins : beginChar b position = some (.inl c)) :
    utf8EncodeChar c = [b] := by
  unfold beginChar at begins
  simp only [Bool.and_eq_true, decide_eq_true_eq] at begins
  split at begins
  · next small =>
    cases begins
    have valid : b.toNat.isValidChar := .inl (by omega)
    rw [utf8EncodeChar_eq, toNat_ofNat valid, tailLength, if_pos small, leadByte, UInt8.ofNat_toNat]
    rfl
  repeat' split at begins
  all_goals cases begins

theorem beginChar_whole {n : Nat} (small : n ≤ 0x7f) :
    beginChar (UInt8.ofNat n) position = some (.inl (Char.ofNat n)) := by
  have number : (UInt8.ofNat n).toNat = n :=
    UInt8.toNat_ofNat_of_lt' (by simp only [UInt8.size]; omega)
  unfold beginChar
  simp only [number, if_pos small]

/-- An encoded character is decoded before what follows it. -/
theorem decodeFrom_utf8EncodeChar {c : Char} {rest : List UInt8}
    (goesOn : decodeFrom (position + (tailLength c.toNat + 1)) (c :: seen) none rest = .ok out) :
    decodeFrom position seen none (utf8EncodeChar c ++ rest) = .ok out := by
  rw [utf8EncodeChar_eq, List.cons_append, decodeFrom]
  cases length : tailLength c.toNat with
  | zero =>
    have small := le_of_tailLength length
    rw [length] at goesOn
    simpa [leadByte, beginChar_whole small, tailBytes] using goesOn
  | succ k =>
    have valid : c.toNat.isValidChar := c.valid
    obtain ⟨p, begins, owed, fits⟩ := beginChar_leadByte position valid length
    have begun := begins_of_beginChar begins
    have further : position + 1 + (k + 1) = position + (tailLength c.toNat + 1) := by omega
    rw [← further] at goesOn
    simp only [begins]
    refine (decodeFrom_some k owed begun.low begun.high _).mpr ⟨c.toNat, rest, ⟨fits, rfl⟩, ?_⟩
    rwa [Char.ofNat_toNat]

/-- What can be read begins with a character, and the rest of it can be read. -/
theorem exists_utf8EncodeChar (went : decodeFrom position seen none (b :: bytes) = .ok out) :
    ∃ c rest further, b :: bytes = utf8EncodeChar c ++ rest ∧
      decodeFrom further (c :: seen) none rest = .ok out := by
  rw [decodeFrom] at went
  match begins : beginChar b position with
  | none => simp [begins] at went
  | some (.inl c) =>
    rw [begins] at went
    exact ⟨c, bytes, _, by rw [of_beginChar_whole begins]; rfl, went⟩
  | some (.inr p) =>
    rw [begins] at went
    have begun := begins_of_beginChar begins
    obtain ⟨k, owed⟩ := begun.owed
    obtain ⟨n, rest, ⟨fits, tail⟩, goesOn⟩ :=
      (decodeFrom_some k owed begun.low begun.high bytes).mp went
    obtain ⟨valid, length, lead⟩ := begun.fits n fits
    refine ⟨Char.ofNat n, rest, _, ?_, goesOn⟩
    rw [utf8EncodeChar_eq, toNat_ofNat valid, length, ← lead, owed, tail, List.cons_append]

/-- What encodes a text is decoded as this text. -/
theorem decodeFrom_flatMap (position : Nat) (seen text : List Char) :
    decodeFrom position seen none (text.flatMap utf8EncodeChar) = .ok (seen.reverse ++ text) := by
  induction text generalizing position seen with
  | nil => simp [decodeFrom]
  | cons c text ih =>
    rw [List.flatMap_cons]
    refine decodeFrom_utf8EncodeChar ?_
    rw [ih, List.reverse_cons, List.append_assoc, List.singleton_append]

/-- What is decoded encodes the text that is found. -/
theorem flatMap_of_decodeFrom {n : Nat} (short : bytes.length ≤ n)
    (went : decodeFrom position seen none bytes = .ok out) :
    ∃ text, out = seen.reverse ++ text ∧ text.flatMap utf8EncodeChar = bytes := by
  induction n generalizing position seen bytes with
  | zero =>
    obtain rfl := List.length_eq_zero_iff.mp (Nat.le_zero.mp short)
    cases went
    exact ⟨[], (List.append_nil _).symm, rfl⟩
  | succ n ih =>
    cases bytes with
    | nil =>
      cases went
      exact ⟨[], (List.append_nil _).symm, rfl⟩
    | cons b bytes =>
      obtain ⟨c, rest, further, same, goesOn⟩ := exists_utf8EncodeChar went
      have shorter : rest.length ≤ n := by
        have lengths := congrArg List.length same
        have some_byte := List.length_pos_iff.mpr (String.utf8EncodeChar_ne_nil (c := c))
        rw [List.length_append] at lengths
        omega
      obtain ⟨text, read, encoded⟩ := ih shorter goesOn
      refine ⟨c :: text, ?_, ?_⟩
      · rw [read, List.reverse_cons, List.append_assoc, List.singleton_append]
      · rw [List.flatMap_cons, encoded, same]

/-- Bytes are read as a text exactly when they are the encoding of this text. -/
theorem decodeUtf8_eq_ok_iff (bytes : List UInt8) (text : List Char) :
    decodeUtf8 bytes = .ok text ↔ text.flatMap utf8EncodeChar = bytes := by
  constructor
  · intro went
    obtain ⟨text', rfl, encoded⟩ := flatMap_of_decodeFrom (Nat.le_refl _) went
    exact encoded
  · rintro rfl
    exact decodeFrom_flatMap 0 [] text

end FeatureChoice.Text
