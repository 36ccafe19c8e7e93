import ContractClient.Text.Utf8

/-!
# Bytes that are text

The decoder takes bytes apart exactly as UTF-8 puts them together: it gives a text if and
only if the bytes are the UTF-8 of this text (`decode_eq_ok_iff`).  So it refuses exactly
the bytes that no text has (`exists_decode_error_iff`).

One round of the decoder reads a first byte and those that follow it (`Reads`).  What it
accepts is one character, written as UTF-8 writes it (`encode_of_reads`), and every
character that is written so is accepted (`reads_encode`).  The ranges for the second byte
are what makes the two match: they leave out the longer ways to write a character, the
halves of a character, and what lies beyond the last one.
-/

namespace ContractClient.Text.Utf8

/-! ## Bytes as a list -/

theorem toList_loop (bytes : ByteArray) (i : Nat) (front : List UInt8) :
    ByteArray.toList.loop bytes i front = front.reverse ++ bytes.data.toList.drop i := by
  fun_induction ByteArray.toList.loop bytes i front with
  | case1 i front inside ih =>
      have bound : i < bytes.data.toList.length := by simpa using inside
      rw [ih, List.drop_eq_getElem_cons bound]
      simp [ByteArray.get!, inside]
  | case2 i front outside =>
      rw [List.drop_eq_nil_of_le (by simpa using Nat.le_of_not_lt outside)]
      simp

theorem toList_eq_data (bytes : ByteArray) : bytes.toList = bytes.data.toList := by
  rw [ByteArray.toList, toList_loop, List.reverse_nil, List.nil_append, List.drop_zero]

/-! ## The bytes of a character -/

/-- The number of a character, if there is one. -/
theorem val_ofNat {n : Nat} (h : n.isValidChar) : (Char.ofNat n).val.toNat = n :=
  congrArg (fun c : Char => c.val.toNat) (dif_pos h)

section Encode

variable {n : Nat}

theorem encode_one (h : n ≤ 0x7F) : String.utf8EncodeChar (Char.ofNat n) = [UInt8.ofNat n] := by
  have valid : n.isValidChar := Or.inl (by omega)
  rw [String.utf8EncodeChar, val_ofNat valid]
  exact if_pos h

theorem encode_two (low : 0x7F < n) (high : n ≤ 0x7FF) :
    String.utf8EncodeChar (Char.ofNat n) =
      [UInt8.ofNat (n / 64 % 32 + 192), UInt8.ofNat (n % 64 + 128)] := by
  have valid : n.isValidChar := Or.inl (by omega)
  rw [String.utf8EncodeChar, val_ofNat valid]
  rw [if_neg (by omega), if_pos high]

theorem encode_three (low : 0x7FF < n) (high : n ≤ 0xFFFF) (valid : n.isValidChar) :
    String.utf8EncodeChar (Char.ofNat n) =
      [UInt8.ofNat (n / 4096 % 16 + 224), UInt8.ofNat (n / 64 % 64 + 128),
        UInt8.ofNat (n % 64 + 128)] := by
  rw [String.utf8EncodeChar, val_ofNat valid]
  rw [if_neg (by omega), if_neg (by omega), if_pos high]

theorem encode_four (low : 0xFFFF < n) (valid : n.isValidChar) :
    String.utf8EncodeChar (Char.ofNat n) =
      [UInt8.ofNat (n / 262144 % 8 + 240), UInt8.ofNat (n / 4096 % 64 + 128),
        UInt8.ofNat (n / 64 % 64 + 128), UInt8.ofNat (n % 64 + 128)] := by
  rw [String.utf8EncodeChar, val_ofNat valid]
  rw [if_neg (by omega), if_neg (by omega), if_neg (by omega)]

end Encode

/-! ## One round -/

section Round

variable {count taken acc n : Nat} {lo hi b : UInt8} {bs rest : List UInt8}

theorem tail_zero_eq_ok_iff : tail 0 taken lo hi acc bs = .ok (n, rest) ↔ acc = n ∧ bs = rest := by
  rw [tail, Except.ok.injEq, Prod.mk.injEq]

theorem tail_succ_eq_ok_iff : tail (count + 1) taken lo hi acc bs = .ok (n, rest) ↔
    ∃ c cs, bs = c :: cs ∧ (lo ≤ c ∧ c ≤ hi) ∧
      tail count (taken + 1) 0x80 0xBF (64 * acc + c.toNat % 64) cs = .ok (n, rest) := by
  cases bs with
  | nil => simp [tail]
  | cons c cs =>
      rw [tail]
      split
      next inside =>
        constructor
        · intro h
          exact ⟨c, cs, rfl, inside, h⟩
        · rintro ⟨_, _, same, -, h⟩
          cases same
          exact h
      next outside =>
        constructor
        · intro h; cases h
        · rintro ⟨_, _, same, inside, -⟩
          cases same
          exact absurd inside outside

/-- One round of the decoder reads the number of a character and leaves the rest. -/
def Reads (b : UInt8) (bs : List UInt8) (n : Nat) (rest : List UInt8) : Prop :=
  ∃ count lo hi, follow? b = some (count, lo, hi) ∧
    tail count 1 lo hi (leadBits count b) bs = .ok (n, rest)

theorem reads_iff_of_lead (lead : follow? b = some (count, lo, hi)) :
    Reads b bs n rest ↔ tail count 1 lo hi (leadBits count b) bs = .ok (n, rest) := by
  constructor
  · rintro ⟨_, _, _, lead', read⟩
    cases lead.symm.trans lead'
    exact read
  · intro read
    exact ⟨_, _, _, lead, read⟩

/-- The range of the bytes that continue a character. -/
def IsTail (c : UInt8) : Prop := 0x80 ≤ c ∧ c ≤ 0xBF

theorem reads_one_iff (range : b < 0x80) : Reads b bs n rest ↔ b.toNat = n ∧ bs = rest := by
  have lead : follow? b = some (0, 0x80, 0xBF) := by grind [follow?]
  rw [reads_iff_of_lead lead, tail_zero_eq_ok_iff]
  rfl

theorem reads_two_iff (low : 0xC2 ≤ b) (high : b < 0xE0) :
    Reads b bs n rest ↔
      ∃ c, bs = c :: rest ∧ IsTail c ∧ 64 * (b.toNat % 32) + c.toNat % 64 = n := by
  have lead : follow? b = some (1, 0x80, 0xBF) := by grind [follow?]
  simp only [reads_iff_of_lead lead, tail_succ_eq_ok_iff, tail_zero_eq_ok_iff]
  grind [IsTail, leadBits]

theorem reads_three_iff (low : 0xE0 ≤ b) (high : b < 0xF0) :
    Reads b bs n rest ↔
      ∃ c d, bs = c :: d :: rest ∧ IsTail c ∧ (b = 0xE0 → 0xA0 ≤ c) ∧ (b = 0xED → c ≤ 0x9F) ∧
        IsTail d ∧ 64 * (64 * (b.toNat % 16) + c.toNat % 64) + d.toNat % 64 = n := by
  have lead : follow? b =
      some (2, if b = 0xE0 then 0xA0 else 0x80, if b = 0xED then 0x9F else 0xBF) := by
    grind [follow?]
  simp only [reads_iff_of_lead lead, tail_succ_eq_ok_iff, tail_zero_eq_ok_iff]
  grind [IsTail, leadBits]

theorem reads_four_iff (low : 0xF0 ≤ b) (high : b ≤ 0xF4) :
    Reads b bs n rest ↔
      ∃ c d e, bs = c :: d :: e :: rest ∧ IsTail c ∧ (b = 0xF0 → 0x90 ≤ c) ∧
        (b = 0xF4 → c ≤ 0x8F) ∧ IsTail d ∧ IsTail e ∧
        64 * (64 * (64 * (b.toNat % 8) + c.toNat % 64) + d.toNat % 64) + e.toNat % 64 = n := by
  have lead : follow? b =
      some (3, if b = 0xF0 then 0x90 else 0x80, if b = 0xF4 then 0x8F else 0xBF) := by
    grind [follow?]
  simp only [reads_iff_of_lead lead, tail_succ_eq_ok_iff, tail_zero_eq_ok_iff]
  grind [IsTail, leadBits]

end Round

/-! ## What a round accepts -/

theorem ofNat_eq {c : UInt8} {k : Nat} (h : k = c.toNat) : UInt8.ofNat k = c := by
  rw [h, UInt8.ofNat_toNat]

section Accepts

variable {b c d e : UInt8}

theorem encode_two_bytes (low : 0xC2 ≤ b) (high : b < 0xE0) (second : IsTail c) :
    String.utf8EncodeChar (Char.ofNat (64 * (b.toNat % 32) + c.toNat % 64)) = [b, c] := by
  simp only [IsTail, UInt8.le_iff_toNat_le, UInt8.lt_iff_toNat_lt, UInt8.reduceToNat] at *
  rw [encode_two (by omega) (by omega), @ofNat_eq b _ (by omega), @ofNat_eq c _ (by omega)]

theorem encode_three_bytes (low : 0xE0 ≤ b) (high : b < 0xF0) (second : IsTail c)
    (short : b = 0xE0 → 0xA0 ≤ c) (whole : b = 0xED → c ≤ 0x9F) (third : IsTail d) :
    String.utf8EncodeChar
      (Char.ofNat (64 * (64 * (b.toNat % 16) + c.toNat % 64) + d.toNat % 64)) = [b, c, d] := by
  simp only [IsTail, UInt8.le_iff_toNat_le, UInt8.lt_iff_toNat_lt, ← UInt8.toNat_inj,
    UInt8.reduceToNat] at *
  rw [encode_three (by omega) (by omega) (by rw [Nat.isValidChar]; omega),
    @ofNat_eq b _ (by omega), @ofNat_eq c _ (by omega), @ofNat_eq d _ (by omega)]

theorem encode_four_bytes (low : 0xF0 ≤ b) (high : b ≤ 0xF4) (second : IsTail c)
    (short : b = 0xF0 → 0x90 ≤ c) (inside : b = 0xF4 → c ≤ 0x8F) (third : IsTail d)
    (fourth : IsTail e) :
    String.utf8EncodeChar (Char.ofNat
      (64 * (64 * (64 * (b.toNat % 8) + c.toNat % 64) + d.toNat % 64) + e.toNat % 64)) =
      [b, c, d, e] := by
  simp only [IsTail, UInt8.le_iff_toNat_le, ← UInt8.toNat_inj, UInt8.reduceToNat] at *
  rw [encode_four (by omega) (by rw [Nat.isValidChar]; omega), @ofNat_eq b _ (by omega),
    @ofNat_eq c _ (by omega), @ofNat_eq d _ (by omega), @ofNat_eq e _ (by omega)]

end Accepts

/-- What a round accepts is one character, written as UTF-8 writes it. -/
theorem encode_of_reads {b : UInt8} {bs rest : List UInt8} {n : Nat} (h : Reads b bs n rest) :
    b :: bs = String.utf8EncodeChar (Char.ofNat n) ++ rest := by
  by_cases one : b < 0x80
  · obtain ⟨rfl, rfl⟩ := (reads_one_iff one).mp h
    have small : b.toNat ≤ 0x7F := Nat.le_of_lt_succ (UInt8.lt_iff_toNat_lt.mp one)
    rw [encode_one small, UInt8.ofNat_toNat]
    rfl
  by_cases two : 0xC2 ≤ b ∧ b < 0xE0
  · obtain ⟨c, rfl, second, rfl⟩ := (reads_two_iff two.1 two.2).mp h
    rw [encode_two_bytes two.1 two.2 second]
    rfl
  by_cases three : 0xE0 ≤ b ∧ b < 0xF0
  · obtain ⟨c, d, rfl, second, short, whole, third, rfl⟩ := (reads_three_iff three.1 three.2).mp h
    rw [encode_three_bytes three.1 three.2 second short whole third]
    rfl
  by_cases four : 0xF0 ≤ b ∧ b ≤ 0xF4
  · obtain ⟨c, d, e, rfl, second, short, inside, third, fourth, rfl⟩ :=
      (reads_four_iff four.1 four.2).mp h
    rw [encode_four_bytes four.1 four.2 second short inside third fourth]
    rfl
  -- No character starts with any other byte.
  · obtain ⟨_, _, _, lead, -⟩ := h
    grind [follow?]

/-! ## What a round is given -/

/-- Every character that is written as UTF-8 writes it is accepted. -/
theorem reads_encode {n : Nat} (valid : n.isValidChar) (rest : List UInt8) :
    ∃ b bs, String.utf8EncodeChar (Char.ofNat n) ++ rest = b :: bs ∧ Reads b bs n rest := by
  by_cases one : n ≤ 0x7F
  · rw [encode_one one]
    refine ⟨_, _, rfl, (reads_one_iff ?_).mpr ⟨?_, rfl⟩⟩
    all_goals simp only [UInt8.lt_iff_toNat_lt, UInt8.toNat_ofNat', UInt8.reduceToNat]
    all_goals omega
  by_cases two : n ≤ 0x7FF
  · rw [encode_two (by omega) two]
    refine ⟨_, _, rfl, (reads_two_iff ?_ ?_).mpr ⟨_, rfl, ?_, ?_⟩⟩
    all_goals simp only [IsTail, UInt8.lt_iff_toNat_lt, UInt8.le_iff_toNat_le,
      UInt8.toNat_ofNat', UInt8.reduceToNat]
    all_goals omega
  rw [Nat.isValidChar] at valid
  by_cases three : n ≤ 0xFFFF
  · rw [encode_three (by omega) three valid]
    refine ⟨_, _, rfl, (reads_three_iff ?_ ?_).mpr ⟨_, _, rfl, ?_, ?_, ?_, ?_, ?_⟩⟩
    all_goals simp only [IsTail, UInt8.lt_iff_toNat_lt, UInt8.le_iff_toNat_le,
      ← UInt8.toNat_inj, UInt8.toNat_ofNat', UInt8.reduceToNat]
    all_goals omega
  · rw [encode_four (by omega) valid]
    refine ⟨_, _, rfl, (reads_four_iff ?_ ?_).mpr ⟨_, _, _, rfl, ?_, ?_, ?_, ?_, ?_, ?_⟩⟩
    all_goals simp only [IsTail, UInt8.le_iff_toNat_le, ← UInt8.toNat_inj, UInt8.toNat_ofNat',
      UInt8.reduceToNat]
    all_goals omega

/-! ## All rounds -/

theorem encode_ne_nil (c : Char) : String.utf8EncodeChar c ≠ [] := by
  grind [String.utf8EncodeChar]

theorem length_of_reads {b : UInt8} {bs rest : List UInt8} {n : Nat} (h : Reads b bs n rest) :
    rest.length ≤ bs.length := by
  have lengths := congrArg List.length (encode_of_reads h)
  have nonempty := List.length_pos_iff.mpr (encode_ne_nil (Char.ofNat n))
  rw [List.length_cons, List.length_append] at lengths
  omega

theorem decodeFrom_nil_eq_ok_iff {fuel position : Nat} {cs : List Char} :
    decodeFrom fuel position [] = .ok cs ↔ cs.flatMap String.utf8EncodeChar = [] := by
  rw [decodeFrom, Except.ok.injEq, List.flatMap_eq_nil_iff]
  constructor
  · rintro rfl c hc
    cases hc
  · intro h
    exact (List.eq_nil_iff_forall_not_mem.mpr fun c hc => encode_ne_nil c (h c hc)).symm

theorem decodeFrom_of_reads {b : UInt8} {bs rest : List UInt8} {n : Nat} (h : Reads b bs n rest)
    (fuel position : Nat) :
    ∃ position', decodeFrom (fuel + 1) position (b :: bs) =
      (decodeFrom fuel position' rest).map (Char.ofNat n :: ·) := by
  obtain ⟨count, lo, hi, lead, read⟩ := h
  refine ⟨position + count + 1, ?_⟩
  rw [decodeFrom, lead]
  dsimp only
  rw [read]

theorem reads_of_decodeFrom {fuel position : Nat} {b : UInt8} {bs : List UInt8} {cs : List Char}
    (h : decodeFrom (fuel + 1) position (b :: bs) = .ok cs) : ∃ n rest, Reads b bs n rest := by
  rw [decodeFrom] at h
  split at h
  next => cases h
  next count lo hi lead =>
    split at h
    next => cases h
    next n rest read => exact ⟨n, rest, count, lo, hi, lead, read⟩

/-- The decoder gives the characters whose UTF-8 the bytes are.  Their position shows in
faults only. -/
theorem decodeFrom_eq_ok_iff {fuel position : Nat} {bs : List UInt8} {cs : List Char}
    (enough : bs.length ≤ fuel) :
    decodeFrom fuel position bs = .ok cs ↔ cs.flatMap String.utf8EncodeChar = bs := by
  induction fuel generalizing position bs cs with
  | zero =>
      obtain rfl := List.eq_nil_of_length_eq_zero (Nat.le_zero.mp enough)
      exact decodeFrom_nil_eq_ok_iff
  | succ fuel ih =>
      cases bs with
      | nil => exact decodeFrom_nil_eq_ok_iff
      | cons b bs =>
          rw [List.length_cons] at enough
          constructor
          · intro h
            obtain ⟨n, rest, read⟩ := reads_of_decodeFrom h
            obtain ⟨position', round⟩ := decodeFrom_of_reads read fuel position
            rw [round] at h
            cases later : decodeFrom fuel position' rest with
            | error f => rw [later] at h; cases h
            | ok cs' =>
                rw [later] at h
                cases h
                have shorter := length_of_reads read
                rw [List.flatMap_cons, (ih (by omega)).mp later, encode_of_reads read]
          · intro h
            cases cs with
            | nil => cases h
            | cons c cs =>
                have valid : c.toNat.isValidChar := c.valid
                obtain ⟨b', bs', written, read⟩ :=
                  reads_encode valid (cs.flatMap String.utf8EncodeChar)
                rw [Char.ofNat_toNat, ← List.flatMap_cons, h] at written
                cases written
                obtain ⟨position', round⟩ := decodeFrom_of_reads read fuel position
                have shorter := length_of_reads read
                rw [round, (ih (by omega)).mpr rfl, Char.ofNat_toNat]
                rfl

/-- The decoder gives a text if and only if the bytes are its UTF-8. -/
theorem decode_eq_ok_iff {bytes : ByteArray} {s : String} :
    decode bytes = .ok s ↔ s.toUTF8 = bytes := by
  have enough : bytes.toList.length ≤ bytes.size := by
    rw [toList_eq_data, Array.length_toList]
    exact Nat.le_refl _
  have written (cs : List Char) : cs.flatMap String.utf8EncodeChar = bytes.toList ↔
      (String.ofList cs).toUTF8 = bytes := by
    rw [toList_eq_data, String.toUTF8_eq_toByteArray, String.toByteArray_ofList, List.utf8Encode]
    constructor
    · intro h
      apply ByteArray.ext
      rw [h, List.data_toByteArray]
    · rintro rfl
      rw [List.toList_data_toByteArray]
  rw [decode]
  constructor
  · intro h
    cases outcome : decodeFrom bytes.size 0 bytes.toList with
    | error f => rw [outcome] at h; cases h
    | ok cs =>
        rw [outcome] at h
        cases h
        exact (written cs).mp ((decodeFrom_eq_ok_iff enough).mp outcome)
  · intro h
    rw [← String.ofList_toList (s := s), ← written, ← decodeFrom_eq_ok_iff enough] at h
    rw [h]
    exact congrArg _ String.ofList_toList

/-- The decoder refuses exactly the bytes that no text has. -/
theorem exists_decode_error_iff {bytes : ByteArray} :
    (∃ f, decode bytes = .error f) ↔ ∀ s : String, s.toUTF8 ≠ bytes := by
  cases outcome : decode bytes with
  | error f =>
      refine ⟨fun _ s same => ?_, fun _ => ⟨f, rfl⟩⟩
      rw [decode_eq_ok_iff.mpr same] at outcome
      cases outcome
  | ok s =>
      constructor
      · rintro ⟨f, h⟩
        cases h
      · intro h
        exact absurd (decode_eq_ok_iff.mp outcome) (h s)

end ContractClient.Text.Utf8
