import ContractClient.Json.Reader
import ContractClient.Text.Quoted
import Mathlib.Tactic.Ring

/-!
# Reading string literals

A string literal is read character by character up to its closing quote.  A backslash
starts an escape: by a letter, or by a code point in two, four or eight hexadecimal
digits.  Three opening quotes, a line break and any other escape are refused.

A text that has been quoted is read back, whatever follows it (`readLiteral_quoteChars`).
`Written` lists the forms in which one character is written, each of them is read back, and
the rest is induction on the text.  The written form has printed characters only, so it holds no tab
and no line break of any kind (`isPrintable_of_mem_quoteChars`).
-/

namespace ContractClient.Text

/-! ## The reader -/

/-- The escapes by a letter or a mark, with what they stand for. -/
def namedEscapes : List (Char × Char) :=
  [('\\', '\\'), ('\'', '\''), ('"', '"'), ('n', '\n'), ('r', '\r'), ('t', '\t'),
   ('a', '\x07'), ('b', '\x08'), ('f', '\x0c'), ('v', '\x0b')]

/-- The escapes by a code point, with the number of their digits. -/
def codeEscapes : List (Char × Nat) := [('x', 2), ('u', 4), ('U', 8)]

/-- Reads digits of a number behind those that make up a value. -/
def readHex : (width value : Nat) → List Char → Option (Nat × List Char)
  | 0, value, cs => some (value, cs)
  | _ + 1, _, [] => none
  | width + 1, value, c :: cs =>
    (Json.hexValue? c).bind fun digit => readHex width (16 * value + digit) cs

/-- Reads a character given by its code point. -/
def readCode (width : Nat) (cs : List Char) : Option (Char × List Char) :=
  (readHex width 0 cs).bind fun p =>
    if p.1.isValidChar then some (Char.ofNat p.1, p.2) else none

/-- Reads an escape behind its backslash. -/
def readEscape : List Char → Option (Char × List Char)
  | [] => none
  | c :: cs =>
    match namedEscapes.lookup c with
    | some named => some (named, cs)
    | none => (codeEscapes.lookup c).bind fun width => readCode width cs

/-- Reads a character of a literal. -/
def readChar : List Char → Option (Char × List Char)
  | [] => none
  | c :: cs =>
    if c = '\\' then readEscape cs
    else if c = '\n' ∨ c = '\r' then none
    else some (c, cs)

/-- Reads up to a closing quote. -/
def readUntil (q : Char) (cs : List Char) : Option (List Char × List Char) :=
  if cs.head? = some q then some ([], cs.tail)
  else
    (readChar cs).bind fun p =>
      if p.2.length < cs.length then (readUntil q p.2).map fun r => (p.1 :: r.1, r.2)
      else none
termination_by cs.length

/-- Reads a string literal. -/
def readLiteral : List Char → Option (List Char × List Char)
  | [] => none
  | q :: cs =>
    if (q = '\'' ∨ q = '"') ∧ ¬ [q, q] <+: cs then readUntil q cs else none

/-! ## Code points -/

theorem hexValue?_hexDigit {n : Nat} (h : n < 16) : Json.hexValue? (hexDigit n) = some n := by
  revert n
  decide

theorem readHex_hex (width more value n : Nat) (rest : List Char) :
    readHex (width + more) value (hex width n ++ rest) =
      readHex more (16 ^ width * value + n % 16 ^ width) rest := by
  induction width generalizing more n rest with
  | zero => simp [hex, Nat.mod_one]
  | succ width ih =>
      have digit : n % 16 < 16 := Nat.mod_lt n (by decide)
      have split : n % 16 ^ (width + 1) = n % 16 + 16 * (n / 16 % 16 ^ width) := by
        rw [Nat.pow_succ', Nat.mod_mul]
      rw [hex, List.append_assoc, List.singleton_append, Nat.add_right_comm, Nat.add_assoc, ih,
        readHex, hexValue?_hexDigit digit, Option.bind_some, split]
      congr 1
      ring

theorem readCode_hex {width : Nat} {c : Char} (h : c.toNat < 16 ^ width) (rest : List Char) :
    readCode width (hex width c.toNat ++ rest) = some (c, rest) := by
  have digits := readHex_hex width 0 0 c.toNat rest
  rw [Nat.add_zero, Nat.mul_zero, Nat.zero_add, Nat.mod_eq_of_lt h, readHex] at digits
  have valid : c.toNat.isValidChar := c.valid
  rw [readCode, digits, Option.bind_some, if_pos valid, Char.ofNat_toNat]

theorem isPrintable_hexDigit {n : Nat} (h : n < 16) : isPrintable (hexDigit n) = true := by
  revert n
  decide

theorem isPrintable_of_mem_hex {width n : Nat} {c : Char} (h : c ∈ hex width n) :
    isPrintable c = true := by
  induction width generalizing n with
  | zero => cases h
  | succ width ih =>
      rcases List.mem_append.mp h with h | h
      · exact ih h
      · rw [List.mem_singleton.mp h]
        exact isPrintable_hexDigit (Nat.mod_lt n (by decide))

/-! ## Written forms -/

/-- The written forms of a character between quotes: the escape by a letter or a mark, the
character itself, and the escape by its code point. -/
inductive Written (q c : Char) : List Char → Prop
  | named {letter : Char} (stands : namedEscapes.lookup letter = some c)
      (printed : isPrintable letter = true) : Written q c ['\\', letter]
  | shown (other : c ≠ q) (unmarked : c ≠ '\\') (printed : isPrintable c = true) : Written q c [c]
  | code {letter : Char} {width : Nat} (unnamed : namedEscapes.lookup letter = none)
      (digits : codeEscapes.lookup letter = some width) (printed : isPrintable letter = true)
      (fits : c.toNat < 16 ^ width) : Written q c ('\\' :: letter :: hex width c.toNat)

theorem written_escapeCode (q c : Char) : Written q c (escapeCode c) := by
  rw [escapeCode]
  split
  next fits => exact @Written.code q c 'x' 2 rfl rfl rfl fits
  next =>
    split
    next fits => exact @Written.code q c 'u' 4 rfl rfl rfl fits
    next =>
      refine @Written.code q c 'U' 8 rfl rfl rfl ?_
      have valid : c.toNat.isValidChar := c.valid
      rw [Nat.isValidChar] at valid
      omega

theorem written_quoteChar {q : Char} (hq : q = '\'' ∨ q = '"') (c : Char) :
    Written q c (quoteChar q c) := by
  rw [quoteChar]
  split
  next marked =>
    -- A quote and a backslash stand for themselves.
    rcases marked with rfl | rfl
    · rcases hq with rfl | rfl <;> exact .named rfl rfl
    · exact .named rfl rfl
  next unmarked =>
    split
    next line => exact line ▸ .named rfl rfl
    next =>
      split
      next back => exact back ▸ .named rfl rfl
      next =>
        split
        next tab => exact tab ▸ .named rfl rfl
        next =>
          split
          next printed => exact .shown (not_or.mp unmarked).1 (not_or.mp unmarked).2 printed
          next => exact written_escapeCode q c

namespace Written

variable {q c : Char} {cs : List Char}

theorem readChar_append (h : Written q c cs) (rest : List Char) :
    readChar (cs ++ rest) = some (c, rest) := by
  cases h with
  | named stands printed =>
      show readEscape (_ :: rest) = _
      rw [readEscape, stands]
  | shown other unmarked printed =>
      have within : ¬ (c = '\n' ∨ c = '\r') := by
        rintro (rfl | rfl)
        · cases printed
        · cases printed
      rw [List.singleton_append, readChar, if_neg unmarked, if_neg within]
  | code unnamed digits printed fits =>
      show readEscape (_ :: (hex _ c.toNat ++ rest)) = _
      rw [readEscape, unnamed, digits]
      exact readCode_hex fits rest

/-- A written form is not empty and does not start with the quote. -/
theorem exists_cons (h : Written q c cs) (hq : q ≠ '\\') :
    ∃ first more, cs = first :: more ∧ first ≠ q := by
  cases h with
  | named | code => exact ⟨_, _, rfl, hq.symm⟩
  | shown other => exact ⟨_, _, rfl, other⟩

theorem isPrintable_of_mem (h : Written q c cs) {d : Char} (hd : d ∈ cs) :
    isPrintable d = true := by
  cases h with
  | named stands printed =>
      rcases List.mem_cons.mp hd with rfl | hd
      · rfl
      · exact List.mem_singleton.mp hd ▸ printed
  | shown other unmarked printed => exact List.mem_singleton.mp hd ▸ printed
  | code unnamed digits printed fits =>
      rcases List.mem_cons.mp hd with rfl | hd
      · rfl
      · rcases List.mem_cons.mp hd with rfl | hd
        · exact printed
        · exact isPrintable_of_mem_hex hd

end Written

/-! ## Texts -/

theorem readUntil_quoted {q : Char} (hq : q = '\'' ∨ q = '"') (cs rest : List Char) :
    readUntil q (cs.flatMap (quoteChar q) ++ q :: rest) = some (cs, rest) := by
  have mark : q ≠ '\\' := by rcases hq with rfl | rfl <;> decide
  induction cs with
  | nil =>
      rw [List.flatMap_nil, List.nil_append, readUntil, List.head?_cons, if_pos rfl]
      rfl
  | cons c cs ih =>
      obtain ⟨first, more, written, other⟩ := (written_quoteChar hq c).exists_cons mark
      have shorter : (cs.flatMap (quoteChar q) ++ q :: rest).length <
          (quoteChar q c ++ (cs.flatMap (quoteChar q) ++ q :: rest)).length := by
        rw [@List.length_append _ (quoteChar q c), written, List.length_cons]
        omega
      have opened : (quoteChar q c ++ (cs.flatMap (quoteChar q) ++ q :: rest)).head? ≠ some q := by
        rw [written, List.cons_append, List.head?_cons]
        exact fun same => other (Option.some.inj same)
      rw [List.flatMap_cons, List.append_assoc, readUntil, if_neg opened,
        (written_quoteChar hq c).readChar_append, Option.bind_some, if_pos shorter, ih, Option.map_some]

theorem quoteMark_eq (cs : List Char) : quoteMark cs = '\'' ∨ quoteMark cs = '"' := by
  rw [quoteMark]
  split
  · exact .inr rfl
  · exact .inl rfl

/-- A quoted text is read back, unless it is empty and a quote follows. -/
theorem readLiteral_quoteChars (cs : List Char) {rest : List Char}
    (h : rest.head? ≠ some '\'') : readLiteral (quoteChars cs ++ rest) = some (cs, rest) := by
  have hq := quoteMark_eq cs
  have text : quoteChars cs ++ rest =
      quoteMark cs :: (cs.flatMap (quoteChar (quoteMark cs)) ++ quoteMark cs :: rest) := by
    simp [quoteChars]
  have single : ¬ [quoteMark cs, quoteMark cs] <+:
      cs.flatMap (quoteChar (quoteMark cs)) ++ quoteMark cs :: rest := by
    rintro ⟨after, same⟩
    cases cs with
    | nil =>
        -- Only an empty text has its closing quote right behind the opening one.
        have second : rest = '\'' :: after := (List.cons.inj same).2.symm
        exact h (second ▸ rfl)
    | cons c cs =>
        have mark : quoteMark (c :: cs) ≠ '\\' := by
          rcases hq with q | q <;> rw [q] <;> decide
        obtain ⟨first, more, written, other⟩ := (written_quoteChar hq c).exists_cons mark
        rw [List.flatMap_cons, written] at same
        exact other (List.cons.inj same).1.symm
  rw [text, readLiteral, if_pos ⟨hq, single⟩, readUntil_quoted hq]

/-- A quoted text has printed characters only. -/
theorem isPrintable_of_mem_quoteChars {cs : List Char} {c : Char} (h : c ∈ quoteChars cs) :
    isPrintable c = true := by
  have hq : isPrintable (quoteMark cs) = true := by
    rcases quoteMark_eq cs with q | q <;> rw [q] <;> decide
  simp only [quoteChars, List.mem_append, List.mem_cons, List.mem_flatMap, List.not_mem_nil,
    or_false] at h
  rcases h with (rfl | ⟨d, -, h⟩) | rfl
  · exact hq
  · exact (written_quoteChar (quoteMark_eq cs) d).isPrintable_of_mem h
  · exact hq

theorem isPrintable_eq_false {c : Char} {n : Nat} (same : c.toNat = n)
    (h : isPrintable (Char.ofNat n) = false) : isPrintable c = false := by
  rw [← Char.ofNat_toNat c, same, h]

/-- A line break has no printed form. -/
theorem isPrintable_of_isLineBreak {c : Char} (h : isLineBreak c = true) :
    isPrintable c = false := by
  simp only [isLineBreak, Bool.or_eq_true, Bool.and_eq_true, decide_eq_true_eq, beq_iff_eq] at h
  rcases h with (((low | separator) | next) | line) | paragraph
  · rw [isPrintable, if_pos (by omega)]
    simp only [Bool.and_eq_false_iff, decide_eq_false_iff_not]
    omega
  · rw [isPrintable, if_pos (by omega)]
    simp only [Bool.and_eq_false_iff, decide_eq_false_iff_not]
    omega
  · exact isPrintable_eq_false next (by decide +kernel)
  · exact isPrintable_eq_false line (by decide +kernel)
  · exact isPrintable_eq_false paragraph (by decide +kernel)

end ContractClient.Text
