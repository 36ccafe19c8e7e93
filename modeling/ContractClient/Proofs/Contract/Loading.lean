import ContractClient.Contract.Load
import ContractClient.Proofs.FileTree.Directories
import ContractClient.Proofs.Text.Utf8

/-!
# How loading fails

A document is read from a place, and its text is made into a contract.  Reading succeeds
exactly if someone delivers the document and its bytes are text (`HasText`).  Making a
contract fails for one of five reasons (`Rejects`).

Two failures are made for the user: the document was refused, or its text gives no contract
(`Fails`).  `failures_of_load` says exactly when each of them comes out, and when another
fault does.  That happens in two cases.  Nobody can be asked for a text that can be neither
a path nor an address (`Unaskable`), and a file that was delivered may hold bytes that are
the UTF-8 of no text (`HoldsNoText`).
-/

namespace ContractClient

/-! ## Files that are read -/

namespace FileTree

section Null

variable {t : FileTree} {path : String}

theorem look_eq_nullByte_iff : t.look path = .error .nullByte ↔ '\x00' ∈ path.toList := by
  rw [look, ← @locateFrom_eq_nullByte_iff t path (steps path), ← locate, bind_eq_error_iff]
  constructor
  · rintro (located | ⟨p, -, found⟩)
    · exact located
    · split at found
      · cases found
      · cases found
      · split at found <;> cases found
  · exact Or.inl

theorem read_of_null (null : '\x00' ∈ path.toList) :
    t.read path = .error ⟨.nullByte, path⟩ := by
  rw [read, look_eq_nullByte_iff.mpr null]

theorem mem_of_read_fault {fault : FileFault} (h : t.read path = .error fault)
    (unasked : fault.problem = .nullByte) : '\x00' ∈ path.toList := by
  rw [read] at h
  split at h
  · cases h
  · cases h; cases unasked
  next problem failed =>
    cases h
    cases unasked
    exact look_eq_nullByte_iff.mp failed

end Null

end FileTree

namespace Contract

/-! ## What is at a place -/

section Place

variable (world : Surroundings) (path : String)

/-- The text of the document at a place.  The ends of lines in a file are unified. -/
inductive HasText : String → Prop where
  /-- The web delivers a text. -/
  | web {text : String} (address : Document.isUrl path = true)
      (delivered : world.web.get path = .ok text) : HasText text
  /-- A file holds the bytes of a text. -/
  | file {s : String} (address : Document.isUrl path = false)
      (delivered : world.files.read path = .ok s.toUTF8) :
      HasText (.ofList (Markup.unifyLineEnds s.toList))

/-- Someone was asked for the document and refused it. -/
inductive Refused : ReadFault → Prop where
  | web {fault : WebFault} (address : Document.isUrl path = true)
      (refused : world.web.get path = .error fault) (asked : fault ≠ .badAddress) :
      Refused (.web fault)
  | file {fault : FileFault} (address : Document.isUrl path = false)
      (refused : world.files.read path = .error fault) (asked : '\x00' ∉ path.toList) :
      Refused (.file fault)

/-- Nobody can be asked for the document. -/
inductive Unaskable : ReadFault → Prop where
  | web (address : Document.isUrl path = true)
      (refused : world.web.get path = .error .badAddress) : Unaskable (.web .badAddress)
  | file (address : Document.isUrl path = false) (null : '\x00' ∈ path.toList) :
      Unaskable (.file ⟨.nullByte, path⟩)

/-- A file is there, but its bytes are those of no text. -/
def HoldsNoText : Prop :=
  Document.isUrl path = false ∧
    ∃ bytes, world.files.read path = .ok bytes ∧ ∀ s : String, s.toUTF8 ≠ bytes

end Place

section Fetch

variable {world : Surroundings} {path text : String}

theorem Refused.isRefusal {fault : ReadFault} (h : Refused world path fault) :
    fault.isRefusal = true := by
  cases h with
  | @web fault _ _ asked =>
      cases fault with
      | badAddress => exact absurd rfl asked
      | noConnection _ => rfl
      | badStatus _ _ => rfl
  | @file fault _ refused asked =>
      show (fault.problem != .nullByte) = true
      rw [bne_iff_ne]
      exact fun unasked => asked (FileTree.mem_of_read_fault refused unasked)

theorem Unaskable.isRefusal {fault : ReadFault} (h : Unaskable world path fault) :
    fault.isRefusal = false := by
  cases h with
  | web => rfl
  | file => rfl

theorem fetch_eq_ok_iff : fetch world path = .ok text ↔ HasText world path text := by
  constructor
  · intro h
    rw [fetch] at h
    split at h
    next address => exact .web address (mapError_eq_ok_iff.mp h)
    next address =>
      split at h
      next => cases h
      next bytes delivered =>
        split at h
        next => cases h
        next s decoded =>
          cases h
          obtain rfl := Text.Utf8.decode_eq_ok_iff.mp decoded
          exact .file (Bool.eq_false_iff.mpr address) delivered
  · intro h
    cases h with
    | web address delivered => rw [fetch, if_pos address, delivered]; rfl
    | @file s address delivered =>
        have decoded : Text.Utf8.decode s.toUTF8 = .ok s := Text.Utf8.decode_eq_ok_iff.mpr rfl
        rw [fetch, if_neg (Bool.eq_false_iff.mp address), delivered]
        dsimp only
        rw [decoded]

/-- Why there is no text at a place. -/
inductive FetchFails (world : Surroundings) (path : String) : LoadFault → Prop where
  | refused {fault : ReadFault} (h : Refused world path fault) :
      FetchFails world path (.unreadable path fault)
  | unaskable {fault : ReadFault} (h : Unaskable world path fault) :
      FetchFails world path (.unreadable path fault)
  | noText {bytes : ByteArray} {fault : Text.Utf8.Fault} (address : Document.isUrl path = false)
      (delivered : world.files.read path = .ok bytes)
      (refused : Text.Utf8.decode bytes = .error fault) : FetchFails world path (.undecodable fault)

theorem fetch_eq_error_iff {f : LoadFault} :
    fetch world path = .error f ↔ FetchFails world path f := by
  constructor
  · intro h
    rw [fetch] at h
    split at h
    next address =>
      obtain ⟨fault, refused, rfl⟩ := mapError_eq_error_iff.mp h
      by_cases asked : fault = .badAddress
      · subst asked
        exact .unaskable (.web address refused)
      · exact .refused (.web address refused asked)
    next address =>
      have address := Bool.eq_false_iff.mpr address
      split at h
      next fault refused =>
        cases h
        by_cases null : '\x00' ∈ path.toList
        · cases refused.symm.trans (FileTree.read_of_null null)
          exact .unaskable (.file address null)
        · exact .refused (.file address refused null)
      next bytes delivered =>
        split at h
        next fault refused => cases h; exact .noText address delivered refused
        next => cases h
  · intro h
    cases h with
    | refused h =>
        cases h with
        | web address refused _ => rw [fetch, if_pos address, refused]; rfl
        | file address refused _ => rw [fetch, if_neg (Bool.eq_false_iff.mp address), refused]
    | unaskable h =>
        cases h with
        | web address refused => rw [fetch, if_pos address, refused]; rfl
        | file address null =>
            rw [fetch, if_neg (Bool.eq_false_iff.mp address), FileTree.read_of_null null]
    | noText address delivered refused =>
        rw [fetch, if_neg (Bool.eq_false_iff.mp address), delivered]
        dsimp only
        rw [refused]

end Fetch

/-! ## What a text gives -/

section Text

variable (world : Surroundings) (transform : Option Transform) (text location : String)

/-- The value that a transform makes of a text, or that a contract document holds. -/
inductive Delivers : Value → Prop where
  | transform {f : Transform} {v : Value} (given : transform = some f)
      (made : f text location = .ok v) : Delivers v
  | document {v : Value} (given : transform = none)
      (read : Document.parse world.files text location = .ok (.value v)) : Delivers v

/-- Why a text gives no contract. -/
inductive Rejects : ContractFault → Prop where
  /-- The transform gave up. -/
  | transform {f : Transform} {message : String} (given : transform = some f)
      (gaveUp : f text location = .error message) : Rejects (.transform message)
  /-- The text is no contract document. -/
  | document {fault : DocumentFault} (given : transform = none)
      (refused : Document.parse world.files text location = .error fault) :
      Rejects (.document fault)
  /-- The document is nothing but a reference. -/
  | reference {v : Value} (given : transform = none)
      (read : Document.parse world.files text location = .ok (.reference v)) :
      Rejects (.notTable "JsonRef")
  /-- The value is no table. -/
  | notTable {v : Value} (made : Delivers world transform text location v)
      (other : ∀ es, v ≠ .table es) : Rejects (.notTable v.typeName)
  /-- The table has not the shape of a contract. -/
  | shape {es : Entries Value} {faults : List Fault}
      (made : Delivers world transform text location (.table es))
      (refused : ofValue (.table (withLocation es (given? (some location)))) = .faults faults) :
      Rejects (.shape faults)

end Text

section OfText

variable {world : Surroundings} {transform : Option Transform} {text location : String}

theorem ofText_of_delivers {v : Value} (h : Delivers world transform text location v) :
    ofText world transform text location = interpret v (some location) := by
  cases h with
  | transform given made => subst given; rw [ofText, made]
  | document given read => subst given; rw [ofText, read]

theorem interpret_of_not_table {v : Value} {place : Option String} (other : ∀ es, v ≠ .table es) :
    interpret v place = .error (.uninterpretable place (.notTable v.typeName)) := by
  cases v with
  | table es => exact absurd rfl (other es)
  | _ => rfl

theorem rejects_of_interpret {v : Value} {f : LoadFault}
    (made : Delivers world transform text location v)
    (h : interpret v (some location) = .error f) :
    ∃ fault, Rejects world transform text location fault ∧
      f = .uninterpretable (some location) fault := by
  by_cases table : ∃ es, v = .table es
  · obtain ⟨es, rfl⟩ := table
    rw [interpret] at h
    split at h
    next => cases h
    next faults refused => cases h; exact ⟨_, .shape made refused, rfl⟩
  · have other : ∀ es, v ≠ .table es := fun es same => table ⟨es, same⟩
    rw [interpret_of_not_table other] at h
    cases h
    exact ⟨_, .notTable made other, rfl⟩

theorem ofText_eq_error_iff {f : LoadFault} :
    ofText world transform text location = .error f ↔
      ∃ fault, Rejects world transform text location fault ∧
        f = .uninterpretable (some location) fault := by
  constructor
  · intro h
    cases transform with
    | some g =>
        cases made : g text location with
        | error message =>
            rw [ofText, made] at h
            cases h
            exact ⟨_, .transform rfl made, rfl⟩
        | ok v =>
            have delivers : Delivers world (some g) text location v := .transform rfl made
            rw [ofText_of_delivers delivers] at h
            exact rejects_of_interpret delivers h
    | none =>
        cases read : Document.parse world.files text location with
        | error fault =>
            rw [ofText, read] at h
            cases h
            exact ⟨_, .document rfl read, rfl⟩
        | ok document =>
            cases document with
            | reference v =>
                rw [ofText, read] at h
                cases h
                exact ⟨_, .reference rfl read, rfl⟩
            | value v =>
                have delivers : Delivers world none text location v := .document rfl read
                rw [ofText_of_delivers delivers] at h
                exact rejects_of_interpret delivers h
  · rintro ⟨fault, h, rfl⟩
    cases h with
    | transform given gaveUp => subst given; rw [ofText, gaveUp]
    | document given refused => subst given; rw [ofText, refused]
    | reference given read => subst given; rw [ofText, read]
    | notTable made other => rw [ofText_of_delivers made, interpret_of_not_table other]
    | shape made refused => rw [ofText_of_delivers made, interpret, refused]

end OfText

/-! ## Loading from a place -/

/-- The failures that are made for the user, each with the fault it comes from. -/
inductive Fails (world : Surroundings) (path : String) (transform : Option Transform)
    (location : String) : LoadFault → Failure → Prop where
  /-- The document was refused. -/
  | unread {fault : ReadFault} (h : Refused world path fault) :
      Fails world path transform location (.unreadable path fault)
        (.unreadable path fault.message)
  /-- The document was delivered, but its text gives no contract. -/
  | rejected {text : String} {fault : ContractFault} (delivered : HasText world path text)
      (h : Rejects world transform text location fault) :
      Fails world path transform location (.uninterpretable (some location) fault)
        (.uninterpretable (some location) fault.message)

section Load

variable {world : Surroundings} {path : String} {transform : Option Transform}
  {location : Option String}

theorem load_place_eq_error_iff {f : LoadFault} :
    load world (.place path) transform location = .error f ↔
      FetchFails world path f ∨
      ∃ text fault, HasText world path text ∧
        Rejects world transform text ((given? location).getD path) fault ∧
        f = .uninterpretable (some ((given? location).getD path)) fault := by
  rw [load, bind_eq_error_iff, fetch_eq_error_iff]
  simp only [fetch_eq_ok_iff, ofText_eq_error_iff, exists_and_left]

theorem holdsNoText_iff :
    HoldsNoText world path ↔ ∃ fault, FetchFails world path (.undecodable fault) := by
  constructor
  · rintro ⟨address, bytes, delivered, noText⟩
    obtain ⟨fault, refused⟩ := Text.Utf8.exists_decode_error_iff.mpr noText
    exact ⟨fault, .noText address delivered refused⟩
  · rintro ⟨fault, fails⟩
    cases fails with
    | noText address delivered refused =>
        exact ⟨address, _, delivered, Text.Utf8.exists_decode_error_iff.mp ⟨fault, refused⟩⟩

theorem Refused.failure? {fault : ReadFault} (h : Refused world path fault) :
    (LoadFault.unreadable path fault).failure? = some (.unreadable path fault.message) :=
  if_pos h.isRefusal

theorem Unaskable.failure? {fault : ReadFault} (h : Unaskable world path fault) :
    (LoadFault.unreadable path fault).failure? = none :=
  if_neg (Bool.eq_false_iff.mp h.isRefusal)

theorem load_fails_iff {f : LoadFault} {failure : Failure} :
    load world (.place path) transform location = .error f ∧ f.failure? = some failure ↔
      Fails world path transform ((given? location).getD path) f failure := by
  rw [load_place_eq_error_iff]
  constructor
  · rintro ⟨fails | ⟨text, fault, delivered, rejected, rfl⟩, made⟩
    · cases fails with
      | refused h => cases h.failure?.symm.trans made; exact .unread h
      | unaskable h => cases h.failure?.symm.trans made
      | noText => cases made
    · cases made
      exact .rejected delivered rejected
  · intro h
    cases h with
    | unread h => exact ⟨.inl (.refused h), h.failure?⟩
    | rejected delivered h => exact ⟨.inr ⟨_, _, delivered, h, rfl⟩, rfl⟩

theorem load_faults_iff :
    (∃ f, load world (.place path) transform location = .error f ∧ f.failure? = none) ↔
      (∃ fault, Unaskable world path fault) ∨ HoldsNoText world path := by
  simp only [load_place_eq_error_iff, holdsNoText_iff]
  constructor
  · rintro ⟨f, fails | ⟨text, fault, -, -, rfl⟩, unmade⟩
    · cases fails with
      | refused h => cases h.failure?.symm.trans unmade
      | unaskable h => exact .inl ⟨_, h⟩
      | noText address delivered refused => exact .inr ⟨_, .noText address delivered refused⟩
    · cases unmade
  · rintro (⟨fault, h⟩ | ⟨fault, fails⟩)
    · exact ⟨_, .inl (.unaskable h), h.failure?⟩
    · exact ⟨_, .inl fails, rfl⟩

end Load

/-- Loading from a place fails for the user exactly if the document is refused or its text
gives no contract, and then the failure names the place and the fault.  Another fault comes
out exactly if nobody can be asked for the document, or if it is a file whose bytes are no
text.  In all other cases there is a contract. -/
theorem failures_of_load (world : Surroundings) (path : String) (transform : Option Transform)
    (location : Option String) :
    (∀ f failure, load world (.place path) transform location = .error f ∧
        f.failure? = some failure ↔
      Fails world path transform ((given? location).getD path) f failure) ∧
    ((∃ f, load world (.place path) transform location = .error f ∧ f.failure? = none) ↔
      (∃ fault, Unaskable world path fault) ∨ HoldsNoText world path) :=
  ⟨fun _ _ => load_fails_iff, load_faults_iff⟩

/-- A file with one byte that starts no character. -/
def loneByte : Surroundings where
  files := { nodes := [(["a.json"], .file ⟨#[0xFF]⟩)] }

/-- The byte is no text, so the fault is none that is made for the user. -/
theorem fault_of_loneByte :
    HoldsNoText loneByte "a.json" ∧
      ∃ f, load loneByte (.place "a.json") none none = .error f ∧ f.failure? = none := by
  have noText : HoldsNoText loneByte "a.json" := by
    refine ⟨by decide +kernel, ⟨#[0xFF]⟩, by decide +kernel, ?_⟩
    exact Text.Utf8.exists_decode_error_iff.mp ⟨⟨0, 0xFF, 1, .start⟩, by decide +kernel⟩
  exact ⟨noText, (failures_of_load loneByte "a.json" none none).2.mpr (.inr noText)⟩

end Contract

end ContractClient
