import ContractClient.Proofs.Identifier.Roles

/-!
# The normal form, read from the front

`normalize` drops the characters that no identifier holds first, and only then looks for
the first character that can start one.  A reader would do it the other way round: skip
the longest beginning without a character that can start an identifier, and drop from the
rest whatever cannot continue one.  Both give the same name, because a character that can
start an identifier can also continue one, so no filter takes away the character at which
the rest starts (`normalizeChars_of_cut`).

The normal form is empty or a legal name, and these are exactly the texts that it leaves as
they are (`normalize_eq_self_iff`).
-/

namespace ContractClient.Identifier

/-! ## The beginning that is skipped -/

/-- A text in two parts.  The first is the longest beginning without a character that can
start an identifier. -/
structure Cut (text skipped rest : List Char) : Prop where
  whole : text = skipped ++ rest
  startless : ∀ c ∈ skipped, isStart c = false
  longest : ∀ beginning, beginning <+: text → (∀ c ∈ beginning, isStart c = false) →
    beginning.length ≤ skipped.length

variable {text skipped rest : List Char}

/-- Every text can be cut. -/
theorem cut_dropUntil (text : List Char) :
    Cut text (text.takeWhile fun c => !isStart c) (dropUntil isStart text) where
  whole := List.takeWhile_append_dropWhile.symm
  startless := by
    intro c hc
    simpa using List.mem_takeWhile_imp hc
  longest := by
    rintro beginning ⟨behind, rfl⟩ startless
    rw [List.takeWhile_append_of_pos fun c hc => by rw [startless c hc]; rfl, List.length_append]
    exact Nat.le_add_right _ _

/-- The second part is empty or starts like an identifier. -/
theorem Cut.isStart_head (cut : Cut text skipped rest) {c : Char} {cs : List Char}
    (h : rest = c :: cs) : isStart c = true := by
  cases starts : isStart c with
  | true => rfl
  | false =>
      -- Otherwise the first part could be continued by this character.
      have more : skipped ++ [c] <+: text := by
        rw [cut.whole, h]
        exact (List.prefix_append_right_inj skipped).mpr ⟨cs, rfl⟩
      have startless : ∀ d ∈ skipped ++ [c], isStart d = false := by
        intro d hd
        rcases List.mem_append.mp hd with hd | hd
        · exact cut.startless d hd
        · rw [List.mem_singleton.mp hd]
          exact starts
      have shorter := cut.longest _ more startless
      rw [List.length_append, List.length_singleton] at shorter
      omega

/-- Filtering first and skipping then gives what skipping first and filtering then does. -/
theorem normalizeChars_of_cut (cut : Cut text skipped rest) :
    normalizeChars text = rest.filter isContinue := by
  have passed : ∀ c ∈ skipped.filter isContinue, (!isStart c) = true := by
    intro c hc
    rw [cut.startless c (List.mem_filter.mp hc).1]
    rfl
  rw [normalizeChars, dropUntil, cut.whole, List.filter_append, List.dropWhile_append_of_pos passed]
  cases h : rest with
  | nil => rfl
  | cons c cs =>
      have starts := cut.isStart_head h
      rw [List.filter_cons_of_pos (isContinue_of_isStart starts)]
      exact List.dropWhile_cons_of_neg (by simp [starts])

/-! ## Texts that are their own normal form -/

theorem isLegal_or_empty_normalize (s : String) : normalize s = "" ∨ IsLegal (normalize s) := by
  by_cases unnamed : normalize s = ""
  · exact Or.inl unnamed
  · exact Or.inr (isLegal_normalize unnamed)

theorem normalize_eq_self_iff {s : String} : normalize s = s ↔ s = "" ∨ IsLegal s := by
  constructor
  · intro same
    have shape := isLegal_or_empty_normalize s
    rwa [same] at shape
  · rintro (rfl | legal)
    · exact normalize_eq_empty_iff.mpr fun c hc => absurd hc List.not_mem_nil
    · exact normalize_of_isLegal legal

/-- The normal form of a text is what is left of it behind the longest beginning without a
character that can start an identifier, less the characters that cannot continue one, and
with an underscore behind a reserved word.  It is empty or a legal name, it is its own
normal form, and the texts with this property are the empty one and the legal names. -/
theorem normalize_reads_from_front (s : String) :
    (∃ skipped rest name, Cut s.toList skipped rest ∧
      name = String.ofList (rest.filter isContinue) ∧
      normalize s = if name ∈ keywords then name ++ "_" else name) ∧
    (normalize s = "" ∨ IsLegal (normalize s)) ∧
    normalize (normalize s) = normalize s ∧
    (normalize s = s ↔ s = "" ∨ IsLegal s) := by
  refine ⟨?_, isLegal_or_empty_normalize s, ?_, normalize_eq_self_iff⟩
  · have cut := cut_dropUntil s.toList
    refine ⟨_, _, _, cut, rfl, ?_⟩
    rw [normalize, normalizeChars_of_cut cut, escapeKeyword, isKeyword]
    simp only [List.contains_iff_mem]
  · exact normalize_eq_self_iff.mpr (isLegal_or_empty_normalize s)

end ContractClient.Identifier
