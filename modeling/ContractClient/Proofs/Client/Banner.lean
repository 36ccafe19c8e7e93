import ContractClient.Proofs.Client.Modules
import ContractClient.Proofs.Code.Pieces
import ContractClient.Proofs.Text.Lines
import ContractClient.Proofs.Text.Trim

/-!
# Banners and locations

A base file starts with a banner of comments, and one of these gives the location of the
contract.  The location is written as it is.  A line break in it ends the comment, so the
lines behind the break are code unless they are comments themselves (`comments_of_banner`).
Breaks at the end of the location do no harm, since comments are trimmed there.

Everything else in a banner is a comment: the moment is written without breaks
(`isPlain_stamp`).
-/

namespace ContractClient

open Code Text

/-! ## Moments -/

theorem isPlain_toString (n : Nat) : isPlain (toString n).toList = true := by
  rw [isPlain_iff, Nat.toString_eq_repr, Nat.toList_repr]
  intro c hc
  have digit := Char.isDigit_iff_toNat.mp (Nat.isDigit_of_mem_toDigits (by decide) (by decide) hc)
  have low : 48 ≤ c.toNat := digit.1
  have high : c.toNat ≤ 57 := digit.2
  constructor
  · simp [isLineBreak]
    omega
  · rintro rfl
    exact absurd low (by decide)

theorem isPlain_padded (width n : Nat) : isPlain (Date.padded width n).toList = true := by
  have zeros : isPlain (List.replicate (width - (toString n).length) '0') = true := by
    rw [isPlain_iff]
    intro c hc
    rw [List.eq_of_mem_replicate hc]
    decide
  rw [Date.padded, String.toList_append, String.toList_ofList, isPlain_append, zeros,
    isPlain_toString]
  rfl

theorem isPlain_getD {names : List String} (h : names.all (isPlain ·.toList) = true) (i : Nat) :
    isPlain ((names[i]?).getD "").toList = true := by
  cases found : names[i]? with
  | none => rfl
  | some name => exact List.all_eq_true.mp h name (List.mem_of_getElem? found)

theorem isPlain_renderOffset (offset : Int) :
    isPlain (Moment.renderOffset "" offset).toList = true := by
  rw [Moment.renderOffset]
  split <;> split <;> split <;>
    simp only [String.toList_append, isPlain_append, isPlain_padded] <;> rfl

/-- The stamp of a moment is one line, whatever the moment is. -/
theorem isPlain_stamp (on : Moment) : isPlain on.stamp.toList = true := by
  have weekday : isPlain ((Date.weekdayNames[on.date.weekday]?).getD "").toList = true :=
    isPlain_getD (by decide) _
  have month : isPlain ((Date.monthNames[on.date.month - 1]?).getD "").toList = true :=
    isPlain_getD (by decide) _
  rw [Moment.stamp, TimeOfDay.render, if_pos rfl]
  simp only [String.toList_append, isPlain_append, isPlain_padded, isPlain_renderOffset, weekday,
    month]
  rfl

/-! ## The lines of a banner -/

theorem toList_comment (text : String) :
    (stripRight ("# * " ++ text)).toList = '#' :: trimRight (" * ".toList ++ text.toList) := by
  rw [stripRight, String.toList_ofList, String.toList_append]
  exact trimRight_cons (by decide) _

theorem isPlain_trimRight {cs : List Char} (h : isPlain cs = true) :
    isPlain (trimRight cs) = true := by
  obtain ⟨back, whole, -⟩ := exists_trimRight cs
  rw [whole, isPlain_append, Bool.and_eq_true] at h
  exact h.1

theorem map_head?_comment {text : String} (h : isPlain text.toList = true) :
    (splitLines (stripRight ("# * " ++ text)).toList).map List.head? = [some '#'] := by
  have line : isPlain ('#' :: trimRight (" * ".toList ++ text.toList)) = true := by
    have inner : isPlain (" * ".toList ++ text.toList) = true := by
      rw [isPlain_append, h]
      rfl
    exact Bool.and_eq_true_iff.mpr ⟨rfl, isPlain_trimRight inner⟩
  rw [toList_comment]
  exact map_head?_of_isPlain line (List.cons_ne_nil _ _)

/-- Only the first line of the location is in the comment. -/
theorem map_head?_location (location : String) :
    (splitLines (stripRight ("# * " ++ ("WSDL " ++ location))).toList).map List.head? =
      some '#' :: ((splitLines (trimRight location.toList)).map List.head?).tail := by
  have front : isPlain "# * WSDL ".toList = true := by decide
  have text : (stripRight ("# * " ++ ("WSDL " ++ location))).toList =
      trimRight ("# * WSDL ".toList ++ location.toList) := by
    rw [stripRight, String.toList_ofList, String.toList_append, String.toList_append]
    rfl
  rw [text]
  -- A blank location takes the space in front of it along when the comment is trimmed.
  cases blank : location.toList.all isBlank with
  | true =>
      have none : trimRight location.toList = [] := trimRight_append_of_blank blank []
      rw [trimRight_append_of_blank blank, none, map_head?_of_isPlain (isPlain_trimRight front)]
      · rfl
      · decide
  | false =>
      rw [trimRight_append_of_visible blank, map_head?_append_of_isPlain front (by decide)]
      rfl

theorem map_head?_border :
    (splitLines bannerBorder.toList).map List.head? = [some '#'] := by
  decide

theorem ends_of_mem_banner {on : Moment} {location line : String} (h : line ∈ banner on location) :
    line.toList ≠ [] ∧ ∀ c, line.toList.getLast? = some c → isLineBreak c = false := by
  have star : bannerBorder.toList.getLast? = some '*' := by decide
  have border : bannerBorder.toList ≠ [] ∧
      ∀ c, bannerBorder.toList.getLast? = some c → isLineBreak c = false := by
    refine ⟨fun empty => ?_, fun c hc => ?_⟩
    · rw [empty] at star
      cases star
    · rw [star] at hc
      cases hc
      decide
  rw [banner, List.mem_append, List.mem_append, List.mem_singleton, List.mem_map] at h
  rcases h with (rfl | ⟨text, -, rfl⟩) | h
  · exact border
  · refine ⟨by simp [toList_comment], fun c hc => ?_⟩
    rw [stripRight, String.toList_ofList] at hc
    rw [← Bool.not_eq_true]
    intro broken
    have visible := getLast?_trimRight hc
    rw [isBlank_of_isLineBreak broken] at visible
    cases visible
  · exact h ▸ border

/-- Five lines of a banner, the last one up to the first break of the location, and the
border below are comments.  Between them stands the rest of the location. -/
theorem map_head?_banner (on : Moment) (location : String) :
    (splitLines ("\n".intercalate (banner on location)).toList).map List.head? =
      List.replicate 5 (some '#') ++
        ((splitLines (trimRight location.toList)).map List.head?).tail ++ [some '#'] := by
  have stamp : isPlain ("Generated on " ++ on.stamp).toList = true := by
    rw [String.toList_append, isPlain_append, isPlain_stamp]
    rfl
  have comments : (bannerTexts on location).flatMap (fun text =>
      (splitLines (stripRight ("# * " ++ text)).toList).map List.head?) =
      List.replicate 4 (some '#') ++
        ((splitLines (trimRight location.toList)).map List.head?).tail := by
    rw [bannerTexts, List.flatMap_cons, List.flatMap_cons, List.flatMap_cons,
      List.flatMap_singleton, map_head?_comment (by decide), map_head?_comment (by decide),
      map_head?_comment stamp, map_head?_location]
    rfl
  rw [toList_intercalate_feed, map_head?_intercalate]
  · simp only [banner, List.map_append, List.map_map, List.flatMap_append, List.flatMap_map,
      List.map_singleton, List.flatMap_singleton, map_head?_border, Function.comp_apply, comments]
    rfl
  · intro part hpart
    obtain ⟨line, hline, rfl⟩ := List.mem_map.mp hpart
    exact ends_of_mem_banner hline

/-! ## Base files -/

/-- A file with a header and imports starts with these, each ended by line breaks. -/
theorem Code.File.exists_render {f : File} (header : "\n".intercalate f.header ≠ "")
    (imports : "\n".intercalate f.imports ≠ "") :
    ∃ rest, f.render.toList =
      Text.detab ("\n".intercalate f.header).toList ++ '\n' :: '\n' :: '\n' ::
        (Text.detab ("\n".intercalate f.imports).toList ++ '\n' :: rest) := by
  have feeds : Text.detab "\n\n\n".toList = ['\n', '\n', '\n'] := by decide
  have kept : ["\n".intercalate f.header, "\n".intercalate f.imports,
      "\n\n\n".intercalate f.sections].filter (· ≠ "") =
      "\n".intercalate f.header :: "\n".intercalate f.imports ::
        ["\n\n\n".intercalate f.sections].filter (· ≠ "") := by
    rw [List.filter_cons_of_pos (by simpa using header),
      List.filter_cons_of_pos (by simpa using imports)]
  rw [File.render, kept, String.intercalate_cons_cons,
    String.toList_append, Code.detab, String.toList_ofList, String.toList_append,
    String.toList_append, Text.detab_append, Text.detab_append, feeds, List.append_assoc,
    List.append_assoc]
  -- Behind the imports there are sections, or the file ends with a line break.
  cases ["\n\n\n".intercalate f.sections].filter (· ≠ "") with
  | nil => rw [String.intercalate_singleton]; exact ⟨[], rfl⟩
  | cons body others =>
      rw [String.intercalate_cons_cons, String.toList_append, String.toList_append,
        Text.detab_append, Text.detab_append, feeds, List.append_assoc, List.append_assoc]
      exact ⟨_, rfl⟩

namespace Client

/-- A base file starts with its banner and its imports. -/
theorem exists_render_fullBaseFile (c : Client) (g : Catalog) (s : Service) (on : Moment) :
    ∃ rest, (c.fullBaseFile g s on).render.toList =
      Text.detab ("\n".intercalate (banner on c.location)).toList ++ '\n' :: '\n' :: '\n' ::
        (Text.detab (baseImports c.engine).toList ++ '\n' :: rest) := by
  have header : (c.fullBaseFile g s on).header = banner on c.location := rfl
  have imports : "\n".intercalate (c.fullBaseFile g s on).imports = baseImports c.engine :=
    String.intercalate_singleton
  rw [← header, ← imports]
  apply Code.File.exists_render
  · rw [header]
    intro empty
    have lines := map_head?_banner on c.location
    rw [empty] at lines
    simp [splitLines] at lines
  · rw [imports]
    intro empty
    -- The imports are a long text, and its first part is enough.
    delta baseImports at empty
    have front := (String.append_eq_empty_iff.mp empty).1
    have first := (String.append_eq_empty_iff.mp front).1
    revert first
    decide

theorem starts_fullBaseFile (c : Client) (g : Catalog) (s : Service) (on : Moment) :
    ∃ rest, (c.fullBaseFile g s on).render.toList =
      Text.detab ("\n".intercalate (banner on c.location)).toList ++
        '\n' :: '\n' :: '\n' :: rest := by
  obtain ⟨rest, text⟩ := c.exists_render_fullBaseFile g s on
  exact ⟨_, text⟩

/-- The lines of a banner are comments exactly if the lines of the location behind its first
one are, up to blanks at its end.  Every base file of a contract with this location starts
with the banner.

The lines are those of `splitLines`.  They also end at a form feed or at U+2028, where a
comment in a file goes on. -/
theorem comments_of_banner (on : Moment) (location : String) :
    ((∀ l ∈ splitLines ("\n".intercalate (banner on location)).toList, l.head? = some '#') ↔
      ∀ l ∈ (splitLines (trimRight location.toList)).tail, l.head? = some '#') ∧
    ∀ (c : Client) (p : Project), c.location = location → c.generate (.ok on) = .ok p →
      ∀ f ∈ p.files, f.overwrite = true → ∃ rest, f.render.toList =
        Text.detab ("\n".intercalate (banner on location)).toList ++
          '\n' :: '\n' :: '\n' :: rest := by
  constructor
  · have all_heads : ∀ ls : List (List Char),
        (∀ l ∈ ls, l.head? = some '#') ↔ ∀ head ∈ ls.map List.head?, head = some '#' := by
      simp
    rw [all_heads, all_heads, map_head?_banner, ← List.map_tail]
    simp [or_imp]
  · rintro c p rfl h f hf replaced
    obtain ⟨g, moment, -, -, -, ⟨same, -⟩, rfl⟩ := generate_eq_ok_iff.mp h
    cases same
    obtain ⟨s, -, hf⟩ := List.mem_flatMap.mp hf
    rcases List.mem_pair.mp hf with rfl | rfl
    · exact c.starts_fullBaseFile g s on
    · cases replaced

/-! ### Witness -/

/-- A client of a contract with a line break in its location. -/
def brokenLocation : Client :=
  { contract := { location := some "a\nimport os", services := [{ name := "S" }] }
    engine := { module := "engines", cls := "Engine" } }

/-- The second line of the location is a line of the base file, and it is no comment. -/
theorem comments_of_brokenLocation :
    ¬ (∀ l ∈ splitLines ("\n".intercalate
        (banner { date := ⟨2024, 1, 2⟩ } "a\nimport os")).toList, l.head? = some '#') ∧
      ∃ p, brokenLocation.generate (.ok { date := ⟨2024, 1, 2⟩ }) = .ok p ∧
        ∀ f ∈ p.files, f.overwrite = true → ∃ rest, f.render.toList =
          Text.detab ("\n".intercalate
            (banner { date := ⟨2024, 1, 2⟩ } "a\nimport os")).toList ++
              '\n' :: '\n' :: '\n' :: rest := by
  obtain ⟨iff, starts⟩ := comments_of_banner { date := ⟨2024, 1, 2⟩ } "a\nimport os"
  have generated : (brokenLocation.generate (.ok { date := ⟨2024, 1, 2⟩ })).isOk = true := by
    decide +kernel
  constructor
  · rw [iff]
    decide +kernel
  · cases made : brokenLocation.generate (.ok { date := ⟨2024, 1, 2⟩ }) with
    | error fault => rw [made] at generated; cases generated
    | ok p => exact ⟨p, rfl, starts brokenLocation p rfl made⟩

end Client

end ContractClient
