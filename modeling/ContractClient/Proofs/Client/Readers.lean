import ContractClient.Emission.ServiceClass
import ContractClient.Proofs.Code.Sections
import ContractClient.Proofs.Identifier.Normal
import ContractClient.Proofs.Text.Literal

/-!
# Reading literals back from generated code

Generated code holds strings of the contract in the entries of a table, as the alias of a
field, as the name under which a method calls the engine, and as the default address of a
constructor.  Each of these places has a reader, which works on the text of one piece as it
stands in the file, behind its indentation, and reads string literals where they must be.

A literal has no tab and no line break, so a line that holds one is moved as a whole.  This
is all that the printer does to it, and the readers give back what was written.
-/

namespace ContractClient.Client

open Text

/-! ## Readers -/

/-- A text without the spaces it starts with. -/
def unindent (cs : List Char) : List Char := cs.dropWhile (· = ' ')

/-- Reads a literal behind a given word. -/
def literalAfter? (word : String) (cs : List Char) : Option (List Char × List Char) :=
  (Json.afterWord? word cs).bind readLiteral

/-- Reads a line of a table: two literals with a colon between them. -/
def readEntry (line : List Char) : Option (String × String) :=
  (readLiteral (unindent line)).bind fun key =>
    (literalAfter? ": " key.2).bind fun value =>
      if value.2 = [','] then some (.ofList key.1, .ofList value.1) else none

/-- Reads the lines of a table, from its opening brace to its closing one. -/
def readEntries (lines : List (List Char)) : Option (Entries String) :=
  if lines = ["\x7b\x7d".toList] then some []
  else if lines.head? = some "\x7b".toList ∧ lines.getLast?.map unindent = some "\x7d".toList then
    lines.tail.dropLast.mapM readEntry
  else none

/-- What stands between the name of a table and its entries. -/
def tableOpening : String := ": ClassVar[Dict[str, str]] = "

/-- Reads a table and its name. -/
def readTable (text : List Char) : Option (String × Entries String) :=
  (Json.afterWord? tableOpening ((unindent text).dropWhile (· ≠ ':'))).bind fun body =>
    (readEntries (body.splitOn '\n')).map fun entries =>
      (.ofList ((unindent text).takeWhile (· ≠ ':')), entries)

/-- Reads the name of a field and its alias. -/
def readField (text : List Char) : String × Option String :=
  (.ofList ((unindent text).takeWhile (· ≠ ':')),
    (literalAfter? "(default=None, alias=" ((unindent text).dropWhile (· ≠ '('))).bind fun p =>
      if p.2 = [')'] then some (.ofList p.1) else none)

/-- Reads the remote name under which a method calls the engine, and its argument. -/
def readCall (text : List Char) : Option (String × String) :=
  (literalAfter? "return self._engine.call(" (unindent text)).bind fun p =>
    (Json.afterWord? ", [" p.2).bind fun rest =>
      if rest.dropWhile (· ≠ ']') = "])".toList then
        some (.ofList p.1, .ofList (rest.takeWhile (· ≠ ']')))
      else none

/-- Reads the default address of a constructor. -/
def readLocation (text : List Char) : Option String :=
  if (unindent text).takeWhile (· ≠ '(') = "def __init__".toList then
    (literalAfter? "(self, wsdl: str = " ((unindent text).dropWhile (· ≠ '('))).map fun p =>
      .ofList p.1
  else none

/-! ## Words and literals -/

theorem afterWord?_append (word : String) (cs : List Char) :
    Json.afterWord? word (word.toList ++ cs) = some cs := by
  have begins : word.toList.isPrefixOf (word.toList ++ cs) = true :=
    List.isPrefixOf_iff_prefix.mpr (List.prefix_append _ _)
  rw [Json.afterWord?, if_pos begins, ← String.length_toList, List.drop_left]

/-- A text that starts otherwise is not behind a word. -/
theorem afterWord?_eq_none {word front : String}
    (short : front.toList.length ≤ word.toList.length)
    (other : front.toList.isPrefixOf word.toList = false) (cs : List Char) :
    Json.afterWord? word (front.toList ++ cs) = none := by
  rw [Json.afterWord?, if_neg]
  intro begins
  have both := List.prefix_of_prefix_length_le (List.prefix_append front.toList cs)
    (List.isPrefixOf_iff_prefix.mp begins) short
  rw [List.isPrefixOf_iff_prefix.mpr both] at other
  cases other

theorem toList_quote (s : String) : (quote s).toList = quoteChars s.toList :=
  String.toList_ofList

theorem isPlain_quote (s : String) : isPlain (quote s).toList = true := by
  rw [isPlain_iff, toList_quote]
  intro c hc
  have printed := isPrintable_of_mem_quoteChars hc
  constructor
  · rw [← Bool.not_eq_true]
    intro broken
    rw [isPrintable_of_isLineBreak broken] at printed
    cases printed
  · rintro rfl
    cases printed

theorem readLiteral_quote (s : String) {rest : List Char} (h : rest.head? ≠ some '\'') :
    readLiteral ((quote s).toList ++ rest) = some (s.toList, rest) := by
  rw [toList_quote, readLiteral_quoteChars s.toList h]

theorem literalAfter?_quote (word s : String) {rest : List Char} (h : rest.head? ≠ some '\'') :
    literalAfter? word (word.toList ++ ((quote s).toList ++ rest)) = some (s.toList, rest) := by
  rw [literalAfter?, afterWord?_append, Option.bind_some, readLiteral_quote s h]

/-! ## Moved texts -/

theorem forall_ne_of_not_mem {x : Char} {cs : List Char} (h : x ∉ cs) :
    ∀ c ∈ cs, decide (c ≠ x) = true :=
  fun _ hc => decide_eq_true fun same => h (same ▸ hc)

theorem unindent_of_head {cs : List Char} (h : cs.head? ≠ some ' ') : unindent cs = cs := by
  cases cs with
  | nil => rfl
  | cons c cs =>
      have other : c ≠ ' ' := fun same => h (congrArg some same)
      exact List.dropWhile_cons_of_neg (by simpa using other)

theorem unindent_append {as : List Char} (nonempty : as ≠ []) (first : as.head? ≠ some ' ')
    (bs : List Char) : unindent (as ++ bs) = as ++ bs := by
  apply unindent_of_head
  cases as with
  | nil => exact absurd rfl nonempty
  | cons c as => exact first

theorem unindent_level (cs : List Char) : unindent (level ++ cs) = unindent cs := rfl

/-- A text that starts with a given front, behind spaces. -/
def Opens (front cs : List Char) : Prop :=
  ∃ count rest, cs = List.replicate count ' ' ++ (front ++ rest)

namespace Opens

variable {front cs : List Char}

theorem append (front rest : List Char) : Opens front (front ++ rest) := ⟨0, rest, rfl⟩

theorem indent (h : Opens front cs) (line : isLine front = true) : Opens front (Text.indent cs) := by
  obtain ⟨count, rest, rfl⟩ := h
  have spaces : isPlain (List.replicate count ' ') = true := by
    rw [isPlain_iff]
    intro c hc
    rw [List.eq_of_mem_replicate hc]
    decide
  -- The front shows something, so its line is indented whatever follows.
  obtain ⟨more, moved, -⟩ := exists_indent_append (isLine_append_left spaces line) rest
  refine ⟨4 + count, more, ?_⟩
  have four : level = List.replicate 4 ' ' := rfl
  rw [← List.append_assoc, moved, List.append_assoc, ← List.append_assoc, four,
    List.replicate_append_replicate]

theorem detab (h : Opens front cs) (plain : isPlain front = true) : Opens front (Text.detab cs) := by
  obtain ⟨count, rest, rfl⟩ := h
  refine ⟨count, Text.detab rest, ?_⟩
  rw [detab_append, detab_append, detab_of_isPlain plain, detab_of_not_mem]
  intro tab
  have same := List.eq_of_mem_replicate tab
  cases same

theorem unindent (h : Opens front cs) (nonempty : front ≠ []) (first : front.head? ≠ some ' ') :
    ∃ rest, unindent cs = front ++ rest := by
  obtain ⟨count, rest, rfl⟩ := h
  refine ⟨rest, ?_⟩
  rw [Client.unindent, List.dropWhile_append_of_pos (fun c hc => by
    rw [List.eq_of_mem_replicate hc]; rfl)]
  exact unindent_append nonempty first rest

end Opens

/-! ## Tables -/

def entryLine (e : String × String) : List Char :=
  ("    " ++ quote e.1 ++ ": " ++ quote e.2 ++ ",").toList

theorem head?_quote (s : String) (rest : List Char) :
    ((quote s).toList ++ rest).head? = some (quoteMark s.toList) := by
  rw [toList_quote]
  rfl

theorem unindent_quote (s : String) (rest : List Char) :
    unindent ((quote s).toList ++ rest) = (quote s).toList ++ rest := by
  apply unindent_of_head
  rw [head?_quote]
  rcases quoteMark_eq s.toList with q | q <;> rw [q] <;> decide

theorem readEntry_entryLine (e : String × String) : readEntry (level ++ entryLine e) = some e := by
  have line : unindent (level ++ entryLine e) =
      (quote e.1).toList ++ (": ".toList ++ ((quote e.2).toList ++ ",".toList)) := by
    rw [unindent_level, entryLine]
    simp only [String.toList_append, List.append_assoc]
    exact (unindent_level _).trans (unindent_quote e.1 _)
  rw [readEntry, line, readLiteral_quote _ (by simp), Option.bind_some,
    literalAfter?_quote _ _ (by simp), Option.bind_some]
  simp

theorem mapM_readEntry (entries : Entries String) :
    (entries.map fun e => level ++ entryLine e).mapM readEntry = some entries := by
  induction entries with
  | nil => rfl
  | cons e entries ih =>
      rw [List.map_cons, List.mapM_cons, readEntry_entryLine, ih]
      rfl

theorem isLine_entryLine (e : String × String) : isLine (entryLine e) = true := by
  have colon : isLine ": ".toList = true := by decide
  rw [entryLine]
  simp only [String.toList_append]
  refine isLine_append (isLine_append (isLine_append_left ?_ colon) (isPlain_quote e.2)) (by decide)
  rw [isPlain_append, isPlain_quote]
  decide

theorem intercalate_concat (ls : List (List Char)) (l : List Char) :
    ['\n'].intercalate (ls ++ [l]) = ls.flatMap (· ++ ['\n']) ++ l := by
  induction ls with
  | nil => exact List.intercalate_singleton
  | cons first ls ih =>
      cases ls with
      | nil => simp [List.intercalate_cons_cons]
      | cons next ls =>
          rw [List.cons_append, List.cons_append, List.intercalate_cons_cons, ← List.cons_append, ih]
          simp

theorem toList_tableLiteral (entries : Entries String) :
    (Catalog.tableLiteral entries).toList =
      ['\n'].intercalate ("\x7b".toList :: (entries.map entryLine ++ ["\x7d".toList])) := by
  rw [← List.cons_append, intercalate_concat, Catalog.tableLiteral]
  simp [String.toList_join, entryLine, List.flatMap_map]

theorem moved_lines {lines : List (List Char)} (h : ∀ l ∈ lines, isLine l = true) :
    detab (indent (detab (['\n'].intercalate lines))) =
      ['\n'].intercalate (lines.map (level ++ ·)) := by
  -- Tabs are replaced before and after the move, and there are none.
  have untabbed : ∀ ls : List (List Char), (∀ l ∈ ls, isLine l = true) →
      detab (['\n'].intercalate ls) = ['\n'].intercalate ls := by
    intro ls hls
    refine detab_of_not_mem (Code.not_mem_intercalate (by decide) fun l hl tab => ?_)
    exact (isPlain_iff.mp (isPlain_of_isLine (hls l hl)) _ tab).2 rfl
  have indented : indent (['\n'].intercalate lines) = ['\n'].intercalate (lines.map (level ++ ·)) :=
    (indent_intercalate 0 lines).trans
      (congrArg _ (List.map_congr_left fun l hl => indent_of_isLine (h l hl)))
  rw [untabbed lines h, indented, untabbed]
  intro l hl
  obtain ⟨line, hline, rfl⟩ := List.mem_map.mp hl
  exact isLine_append_left (by decide) (h line hline)

theorem intercalate_append (front l : List Char) (ls : List (List Char)) :
    ['\n'].intercalate ((front ++ l) :: ls) = front ++ ['\n'].intercalate (l :: ls) := by
  cases ls with
  | nil => rw [List.intercalate_singleton, List.intercalate_singleton]
  | cons next ls =>
      rw [List.intercalate_cons_cons, List.intercalate_cons_cons, List.append_assoc, List.append_assoc,
        List.append_assoc]

/-- A name that a table can be declared under. -/
structure IsTableName (name : String) : Prop where
  plain : isPlain name.toList = true
  nonempty : name.toList ≠ []
  first : name.toList.head? ≠ some ' '
  colon : ':' ∉ name.toList

theorem isTableName_tableName : IsTableName Catalog.tableName where
  plain := by decide
  nonempty := by decide
  first := by decide
  colon := by decide

theorem isTableName_classmap : IsTableName "classmap" where
  plain := by decide
  nonempty := by decide
  first := by decide
  colon := by decide

variable {name : String}

/-- The name of a table is read off, and what stands behind it. -/
theorem readTable_moved (h : IsTableName name) (body : List Char) :
    readTable (level ++ (name.toList ++ (tableOpening.toList ++ body))) =
      (readEntries (body.splitOn '\n')).map fun entries => (name, entries) := by
  have named := forall_ne_of_not_mem h.colon
  have opening : (tableOpening.toList ++ body).dropWhile (· ≠ ':') = tableOpening.toList ++ body := by
    simp [tableOpening]
  have nothing : (tableOpening.toList ++ body).takeWhile (· ≠ ':') = [] := by
    simp [tableOpening]
  rw [readTable, unindent_level, unindent_append h.nonempty h.first,
    List.dropWhile_append_of_pos named, List.takeWhile_append_of_pos named, opening, nothing,
    afterWord?_append, Option.bind_some, List.append_nil, String.ofList_toList]

theorem readEntries_lines (entries : Entries String) :
    readEntries ("\x7b".toList :: ((entries.map fun e => level ++ entryLine e) ++
      [level ++ "\x7d".toList])) = some entries := by
  have several : "\x7b".toList :: ((entries.map fun e => level ++ entryLine e) ++
      [level ++ "\x7d".toList]) ≠ ["\x7b\x7d".toList] := by
    intro same
    exact absurd (List.cons.inj same).1 (by decide)
  have last : ("\x7b".toList :: ((entries.map fun e => level ++ entryLine e) ++
      [level ++ "\x7d".toList])).getLast? = some (level ++ "\x7d".toList) := by
    rw [← List.cons_append, List.getLast?_concat]
  rw [readEntries, if_neg several, if_pos ⟨rfl, by rw [last]; decide⟩, List.tail_cons,
    List.dropLast_concat, mapM_readEntry]

/-- A declaration of a table is read back where it stands in a class. -/
theorem readTable_literal (h : IsTableName name) (entries : Entries String) :
    readTable (detab (indent (detab
      (name ++ tableOpening ++ Catalog.tableLiteral entries).toList))) = some (name, entries) := by
  have opened : isLine (name.toList ++ (tableOpening.toList ++ "\x7b".toList)) = true :=
    isLine_append_left h.plain (by decide)
  have inner : ∀ l ∈ entries.map entryLine ++ ["\x7d".toList], isLine l = true := by
    intro l hl
    rcases List.mem_append.mp hl with hl | hl
    · obtain ⟨e, -, rfl⟩ := List.mem_map.mp hl
      exact isLine_entryLine e
    · exact List.mem_singleton.mp hl ▸ by decide
  have text : (name ++ tableOpening ++ Catalog.tableLiteral entries).toList =
      ['\n'].intercalate ((name.toList ++ (tableOpening.toList ++ "\x7b".toList)) ::
        (entries.map entryLine ++ ["\x7d".toList])) := by
    rw [String.toList_append, String.toList_append, toList_tableLiteral, intercalate_append,
      intercalate_append, List.append_assoc]
  have whole : ∀ l ∈ "\x7b".toList ::
      (entries.map entryLine ++ ["\x7d".toList]).map (level ++ ·), '\n' ∉ l := by
    intro l hl
    rcases List.mem_cons.mp hl with rfl | hl
    · decide
    · obtain ⟨line, hline, rfl⟩ := List.mem_map.mp hl
      have moved := isPlain_of_isLine (@isLine_append_left level line (by decide) (inner line hline))
      exact fun feed => absurd (isPlain_iff.mp moved _ feed).1 (by decide)
  rw [text, moved_lines (List.forall_mem_cons.mpr ⟨opened, inner⟩), List.map_cons,
    intercalate_append, intercalate_append, intercalate_append, readTable_moved h,
    List.splitOn_intercalate _ whole (List.cons_ne_nil _ _), List.map_append, List.map_map]
  exact congrArg (Option.map fun entries => (name, entries)) (readEntries_lines entries)

theorem readTable_empty (h : IsTableName name) :
    readTable (detab (indent (detab (name ++ tableOpening ++ "\x7b\x7d").toList))) =
      some (name, []) := by
  have line : isLine (name.toList ++ (tableOpening.toList ++ "\x7b\x7d".toList)) = true :=
    isLine_append_left h.plain (by decide)
  have text : (name ++ tableOpening ++ "\x7b\x7d").toList =
      ['\n'].intercalate [name.toList ++ (tableOpening.toList ++ "\x7b\x7d".toList)] := by
    rw [String.toList_append, String.toList_append, List.append_assoc, List.intercalate_singleton]
  rw [text, moved_lines (List.forall_mem_singleton.mpr line), List.map_singleton,
    List.intercalate_singleton, readTable_moved h]
  rfl

/-- A block without a colon declares no table. -/
theorem readTable_eq_none {text : List Char} (h : ':' ∉ text) : readTable text = none := by
  have none : (unindent text).dropWhile (· ≠ ':') = [] := by
    rw [← List.append_nil (unindent text), List.dropWhile_append_of_pos]
    · rfl
    · exact forall_ne_of_not_mem fun colon => h (List.dropWhile_subset _ colon)
  rw [readTable, none]
  rfl

/-! ## Calls -/

/-- The call of a method is read back where it stands in a class. -/
theorem readCall_moved (remote : String) {name : String} (plain : isPlain name.toList = true)
    (bracket : ']' ∉ name.toList) :
    readCall (detab (indent (indent (detab
      ("return self._engine.call(" ++ quote remote ++ ", [" ++ name ++ "])").toList)))) =
      some (remote, name) := by
  have text : ("return self._engine.call(" ++ quote remote ++ ", [" ++ name ++ "])").toList =
      "return self._engine.call(".toList ++
        ((quote remote).toList ++ (", [".toList ++ (name.toList ++ "])".toList))) := by
    simp only [String.toList_append, List.append_assoc]
  have line : isLine ("return self._engine.call(".toList ++
      ((quote remote).toList ++ (", [".toList ++ (name.toList ++ "])".toList)))) = true := by
    refine isLine_append (by decide) ?_
    rw [isPlain_append, isPlain_append, isPlain_append, isPlain_quote, plain]
    decide
  have moved := @isLine_append_left level _ (by decide) line
  have named := forall_ne_of_not_mem bracket
  rw [text, detab_of_isPlain (isPlain_of_isLine line), indent_of_isLine line, indent_of_isLine moved,
    detab_of_isPlain (isPlain_of_isLine (@isLine_append_left level _ (by decide) moved)), readCall,
    unindent_level, unindent_level, unindent_append (by decide) (by decide),
    literalAfter?_quote _ _ (by simp), Option.bind_some, afterWord?_append, Option.bind_some,
    List.dropWhile_append_of_pos named, List.takeWhile_append_of_pos named]
  simp

theorem readCall_eq_none {front : String} {text : List Char} (h : Opens front.toList text)
    (nonempty : front.toList ≠ []) (first : front.toList.head? ≠ some ' ')
    (short : front.toList.length ≤ "return self._engine.call(".toList.length)
    (other : front.toList.isPrefixOf "return self._engine.call(".toList = false) :
    readCall text = none := by
  obtain ⟨rest, start⟩ := h.unindent nonempty first
  rw [readCall, start, literalAfter?, afterWord?_eq_none short other]
  rfl

/-! ## Addresses -/

theorem readLocation_eq_none {name : String} {text : List Char}
    (h : Opens ("def " ++ name ++ "(").toList text) (paren : '(' ∉ name.toList)
    (other : name ≠ "__init__") : readLocation text = none := by
  obtain ⟨rest, start⟩ := h.unindent (by simp) (by simp)
  have front : '(' ∉ "def ".toList ++ name.toList := by
    rw [List.mem_append, not_or]
    exact ⟨by decide, paren⟩
  have called : (unindent text).takeWhile (· ≠ '(') = "def ".toList ++ name.toList := by
    rw [start, String.toList_append, String.toList_append, List.append_assoc,
      List.takeWhile_append_of_pos (forall_ne_of_not_mem front)]
    simp
  rw [readLocation, called, if_neg]
  intro same
  have init : "def __init__".toList = "def ".toList ++ "__init__".toList := by decide
  rw [init] at same
  exact other (String.toList_inj.mp (List.append_cancel_left same))

/-- The default address of a constructor is read back where it stands in a class. -/
theorem readLocation_moved {location : String} {text : List Char}
    (h : Opens ("def __init__(self, wsdl: str = " ++ quote location ++ ",").toList text) :
    readLocation text = some location := by
  obtain ⟨rest, start⟩ := h.unindent (by simp) (by simp)
  have line : unindent text = "def __init__".toList ++ ("(self, wsdl: str = ".toList ++
      ((quote location).toList ++ (",".toList ++ rest))) := by
    rw [start]
    simp
  have front : ∀ c ∈ "def __init__".toList, decide (c ≠ '(') = true :=
    forall_ne_of_not_mem (by decide)
  have none : ("(self, wsdl: str = ".toList ++
      ((quote location).toList ++ (",".toList ++ rest))).takeWhile (· ≠ '(') = [] := by simp
  have stays : ("(self, wsdl: str = ".toList ++
      ((quote location).toList ++ (",".toList ++ rest))).dropWhile (· ≠ '(') =
      "(self, wsdl: str = ".toList ++ ((quote location).toList ++ (",".toList ++ rest)) := by simp
  rw [readLocation, line, List.takeWhile_append_of_pos front, List.dropWhile_append_of_pos front,
    none, List.append_nil, if_pos rfl, stays, literalAfter?_quote _ _ (by simp), Option.map_some,
    String.ofList_toList]

/-! ## Fields -/

/-- The characters of an annotation. -/
def isTypeChar (c : Char) : Bool := Identifier.isContinue c || ['"', '[', ']'].contains c

theorem isPlain_of_isTypeChar {cs : List Char} (h : cs.all isTypeChar = true) :
    isPlain cs = true := by
  have visible : ∀ c, isTypeChar c = true → isBlank c = false := by
    intro c hc
    rw [← Bool.not_eq_true]
    intro blank
    rw [isTypeChar, Identifier.isContinue_of_isBlank blank, Bool.false_or, List.contains_iff_mem] at hc
    simp only [List.mem_cons, List.not_mem_nil, or_false] at hc
    rcases hc with rfl | rfl | rfl
    · cases blank
    · cases blank
    · cases blank
  rw [isPlain_iff]
  intro c hc
  have shown := visible c (List.all_eq_true.mp h c hc)
  constructor
  · rw [← Bool.not_eq_true]
    intro broken
    rw [isBlank_of_isLineBreak broken] at shown
    cases shown
  · rintro rfl
    cases shown

/-- A name and an annotation as they stand in front of the default of a field. -/
structure IsFieldFront (name ann : String) : Prop where
  word : name.toList.all Identifier.isContinue = true
  nonempty : name.toList ≠ []
  typed : ann.toList.all isTypeChar = true

namespace IsFieldFront

variable {name ann : String} (h : IsFieldFront name ann)
include h

theorem not_mem {c : Char} (hc : Identifier.isContinue c = false) : c ∉ name.toList := by
  intro there
  rw [List.all_eq_true.mp h.word c there] at hc
  cases hc

theorem isTypeChar_name : name.toList.all isTypeChar = true := by
  rw [List.all_eq_true]
  intro c hc
  rw [isTypeChar, List.all_eq_true.mp h.word c hc]
  rfl

theorem not_mem_front : '(' ∉ name.toList ++ (": ".toList ++ (ann.toList ++ " = ".toList)) := by
  have noType : '(' ∉ ann.toList := by
    intro there
    exact absurd (List.all_eq_true.mp h.typed _ there) (by decide +kernel)
  simp only [List.mem_append, not_or]
  exact ⟨h.not_mem (by decide +kernel), by decide, noType, by decide⟩

/-- A field is moved as a line.  Its name is read off, and what its default says of an
alias. -/
theorem readField_moved {default : List Char} (plain : isPlain default = true) :
    readField (detab (indent
      (name.toList ++ (": ".toList ++ (ann.toList ++ (" = ".toList ++ default)))))) =
      (name, (literalAfter? "(default=None, alias=" (default.dropWhile (· ≠ '('))).bind fun p =>
        if p.2 = [')'] then some (.ofList p.1) else none) := by
  have line : isLine (name.toList ++ (": ".toList ++ (ann.toList ++ (" = ".toList ++ default)))) =
      true := by
    refine isLine_append_left (isPlain_of_isTypeChar h.isTypeChar_name)
      (isLine_append (by decide) ?_)
    rw [isPlain_append, isPlain_append, plain, isPlain_of_isTypeChar h.typed]
    decide
  have first : name.toList.head? ≠ some ' ' :=
    fun head => h.not_mem (by decide +kernel) (List.mem_of_head? head)
  have named := forall_ne_of_not_mem (h.not_mem (c := ':') (by decide +kernel))
  have ends : (": ".toList ++ (ann.toList ++ (" = ".toList ++ default))).takeWhile (· ≠ ':') = [] := by
    simp
  -- The first parenthesis is that of the default.
  have behind : (name.toList ++ (": ".toList ++ (ann.toList ++ (" = ".toList ++ default)))).dropWhile
      (· ≠ '(') = default.dropWhile (· ≠ '(') := by
    have front : (name.toList ++ (": ".toList ++ (ann.toList ++ " = ".toList)) ++ default).dropWhile
        (· ≠ '(') = default.dropWhile (· ≠ '(') :=
      List.dropWhile_append_of_pos (forall_ne_of_not_mem h.not_mem_front)
    simpa only [List.append_assoc] using front
  rw [indent_of_isLine line,
    detab_of_isPlain (isPlain_of_isLine (@isLine_append_left level _ (by decide) line)), readField,
    unindent_level, unindent_append h.nonempty first, behind, List.takeWhile_append_of_pos named,
    ends, List.append_nil, String.ofList_toList]

theorem readField_none :
    readField (detab (indent
      (name.toList ++ (": ".toList ++ (ann.toList ++ (" = ".toList ++ "None".toList)))))) =
      (name, none) := by
  rw [h.readField_moved (by decide)]
  rfl

theorem readField_alias (raw : String) :
    readField (detab (indent
      (name.toList ++ (": ".toList ++ (ann.toList ++ (" = ".toList ++
        ("Field(default=None, alias=" ++ quote raw ++ ")").toList)))))) = (name, some raw) := by
  have plain : isPlain ("Field(default=None, alias=" ++ quote raw ++ ")").toList = true := by
    rw [String.toList_append, String.toList_append, isPlain_append, isPlain_append, isPlain_quote]
    decide
  have call : ("Field(default=None, alias=" ++ quote raw ++ ")").toList.dropWhile (· ≠ '(') =
      "(default=None, alias=".toList ++ ((quote raw).toList ++ ")".toList) := by
    simp
  rw [h.readField_moved plain, call, literalAfter?_quote _ _ (by simp), Option.bind_some]
  simp

end IsFieldFront

end ContractClient.Client
