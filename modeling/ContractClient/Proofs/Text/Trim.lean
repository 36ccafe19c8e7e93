import ContractClient.Text.Blank
import Mathlib.Data.List.TakeWhile

/-!
# Trimmed texts

Trimming drops the blanks at the ends of a text and nothing else.  So a text that has no
blank at its ends stays as it is (`trim_eq_self`), a visible part keeps what stands before it
(`trimRight_append_of_visible`), and what stands between two visible parts stays
(`mem_trim_of_between`).
-/

namespace ContractClient.Text

variable {as bs cs : List Char}

/-! ## What is left -/

theorem head?_trim {cs : List Char} {c : Char} (h : (trim cs).head? = some c) :
    isBlank c = false := by
  have beginning : trim cs <+: trimLeft cs := by
    rw [trim, trimRight, ← List.reverse_suffix, List.reverse_reverse]
    exact List.dropWhile_suffix _
  have first : (trimLeft cs).head? = some c := by
    obtain ⟨rest, whole⟩ := beginning
    rw [← whole, List.head?_append, h, Option.some_or]
  have stopped := List.head?_dropWhile_not isBlank cs
  rw [trimLeft] at first
  rw [first] at stopped
  exact stopped

theorem getLast?_trimRight {c : Char} (h : (trimRight cs).getLast? = some c) :
    isBlank c = false := by
  have stopped := List.head?_dropWhile_not isBlank cs.reverse
  rw [trimRight, List.getLast?_reverse] at h
  rw [h] at stopped
  exact stopped

/-! ## Texts without blanks at their ends -/

theorem dropWhile_isBlank_eq_self {cs : List Char}
    (h : ∀ c, cs.head? = some c → isBlank c = false) : cs.dropWhile isBlank = cs := by
  cases cs with
  | nil => rfl
  | cons c cs => exact List.dropWhile_cons_of_neg (by rw [h c rfl]; decide)

theorem trimRight_eq_self (last : ∀ c, cs.getLast? = some c → isBlank c = false) :
    trimRight cs = cs := by
  rw [trimRight, dropWhile_isBlank_eq_self, List.reverse_reverse]
  intro c hc
  rw [List.head?_reverse] at hc
  exact last c hc

theorem trim_eq_self {cs : List Char} (first : ∀ c, cs.head? = some c → isBlank c = false)
    (last : ∀ c, cs.getLast? = some c → isBlank c = false) : trim cs = cs := by
  rw [trim, trimLeft, dropWhile_isBlank_eq_self first, trimRight_eq_self last]

theorem trim_trim (cs : List Char) : trim (trim cs) = trim cs :=
  trim_eq_self (fun _ => head?_trim) (fun _ => getLast?_trimRight)

theorem getLast?_trimLeft {c : Char} (h : (trimLeft cs).getLast? = some c) :
    cs.getLast? = some c := by
  have back : trimLeft cs <:+ cs := List.dropWhile_suffix isBlank
  obtain ⟨front, whole⟩ := back
  rw [← whole, List.getLast?_append, h, Option.some_or]

/-- A text that ends visibly loses nothing at its end. -/
theorem trim_eq_trimLeft (last : ∀ c, cs.getLast? = some c → isBlank c = false) :
    trim cs = trimLeft cs :=
  trimRight_eq_self fun c hc => last c (getLast?_trimLeft hc)

theorem trim_suffix (last : ∀ c, cs.getLast? = some c → isBlank c = false) : trim cs <:+ cs := by
  rw [trim_eq_trimLeft last]
  exact List.dropWhile_suffix isBlank

/-! ## Texts in two parts -/

theorem trimRight_append_of_blank (h : bs.all isBlank = true) (as : List Char) :
    trimRight (as ++ bs) = trimRight as := by
  have blank : bs.reverse.dropWhile isBlank = [] := by
    rw [List.dropWhile_eq_nil_iff]
    intro c hc
    exact List.all_eq_true.mp h c (List.mem_reverse.mp hc)
  rw [trimRight, trimRight, List.reverse_append, List.dropWhile_append, blank]
  rfl

theorem trimRight_append_of_visible (h : bs.all isBlank = false) (as : List Char) :
    trimRight (as ++ bs) = as ++ trimRight bs := by
  have visible : (bs.reverse.dropWhile isBlank).isEmpty = false := by
    rw [← Bool.not_eq_true, List.isEmpty_iff, List.dropWhile_eq_nil_iff]
    intro blank
    rw [List.all_eq_true.mpr fun c hc => blank c (List.mem_reverse.mpr hc)] at h
    cases h
  rw [trimRight, trimRight, List.reverse_append, List.dropWhile_append, visible]
  simp

theorem trimRight_cons {c : Char} (h : isBlank c = false) (cs : List Char) :
    trimRight (c :: cs) = c :: trimRight cs := by
  cases blank : cs.all isBlank with
  | false => exact trimRight_append_of_visible blank [c]
  | true =>
      have alone : trimRight [c] = [c] := trimRight_eq_self fun d hd => Option.some.inj hd ▸ h
      have none : trimRight cs = [] := trimRight_append_of_blank blank []
      rw [none, ← alone]
      exact trimRight_append_of_blank blank [c]

theorem trimLeft_append_of_visible (h : as.all isBlank = false) (bs : List Char) :
    trimLeft (as ++ bs) = trimLeft as ++ bs := by
  have visible : (as.dropWhile isBlank).isEmpty = false := by
    rw [← Bool.not_eq_true, List.isEmpty_iff, List.dropWhile_eq_nil_iff]
    intro blank
    rw [List.all_eq_true.mpr blank] at h
    cases h
  rw [trimLeft, trimLeft, List.dropWhile_append, visible]
  rfl

/-- Of two parts that begin and end visibly the second stays as it is. -/
theorem trim_append_of_visible (last : ∀ c, as.getLast? = some c → isBlank c = false)
    (first : ∀ c, bs.head? = some c → isBlank c = false)
    (last' : ∀ c, bs.getLast? = some c → isBlank c = false) : trim (as ++ bs) = trim as ++ bs := by
  cases final : as.getLast? with
  | none =>
      rw [List.getLast?_eq_none_iff.mp final]
      exact trim_eq_self first last'
  | some c =>
      have visible : as.all isBlank = false := by
        rw [← Bool.not_eq_true, List.all_eq_true]
        intro blank
        cases (last c final).symm.trans (blank c (List.mem_of_getLast? final))
      have ends : ∀ d, (as ++ bs).getLast? = some d → isBlank d = false := by
        intro d hd
        rw [List.getLast?_append] at hd
        rcases Option.or_eq_some_iff.mp hd with hd | ⟨-, hd⟩
        · exact last' d hd
        · exact last d hd
      rw [trim_eq_trimLeft ends, trim_eq_trimLeft last, trimLeft_append_of_visible visible]

/-- What is cut off at the end of a text is blank. -/
theorem exists_trimRight (cs : List Char) :
    ∃ back, cs = trimRight cs ++ back ∧ back.all isBlank = true := by
  refine ⟨(cs.reverse.takeWhile isBlank).reverse, ?_, ?_⟩
  · rw [trimRight, ← List.reverse_append, List.takeWhile_append_dropWhile, List.reverse_reverse]
  · rw [List.all_reverse]
    exact List.all_takeWhile

/-- What stands between two visible parts is not trimmed. -/
theorem mem_trim_of_between (has : as.all isBlank = false) (hbs : bs.all isBlank = false)
    (c : Char) : c ∈ trim (as ++ c :: bs) := by
  have behind : (c :: bs).all isBlank = false := by
    rw [List.all_cons, hbs, Bool.and_false]
  have kept : trimRight (c :: bs) = c :: trimRight bs := trimRight_append_of_visible hbs [c]
  rw [trim, trimLeft_append_of_visible has, trimRight_append_of_visible behind, kept]
  exact List.mem_append_right _ List.mem_cons_self

end ContractClient.Text
