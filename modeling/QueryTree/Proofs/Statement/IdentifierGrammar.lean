/-
This file says which texts are identifiers, and proves that exactly these are read, that nothing of
them is lost, and that a statement tells any two of them apart.
-/
import QueryTree.Proofs.Statement.ConditionGrammar
import QueryTree.Proofs.Statement.QuotedSections

namespace QueryTree

/-- A name starts with a letter of the alphabet or an underscore. -/
def StartsName (character : Char) : Prop :=
  'A' ≤ character ∧ character ≤ 'Z' ∨ 'a' ≤ character ∧ character ≤ 'z' ∨ character = '_'

/-- Digits may follow in a name. -/
def ContinuesName (character : Char) : Prop :=
  StartsName character ∨ '0' ≤ character ∧ character ≤ '9'

/-- A text of which the first character starts a name and all others continue it. -/
inductive NameText : List Char → Prop where
  | of_characters {first : Char} {rest : List Char} : StartsName first →
      (∀ character ∈ rest, ContinuesName character) → NameText (first :: rest)

/-- One or more names with points between them; a wildcard may stand in place of the last one. -/
inductive DottedNames : List Char → Prop where
  | name {text : List Char} : NameText text → DottedNames text
  | wildcard : DottedNames ['*']
  | more {text rest : List Char} : NameText text → DottedNames rest →
      DottedNames (text ++ '.' :: rest)

/-- Why a text is no identifier. -/
inductive Misnamed (text : String) : RequestFault → Prop where
  | empty : text = "" → Misnamed text .emptyIdentifier
  | wildcard {front back : List (List Char)} : text.toList.splitOn '.' = front ++ ['*'] :: back →
      back ≠ [] → Misnamed text (.wildcardNotLast text)
  | segment : [] ∈ text.toList.splitOn '.' → Misnamed text (.emptySegment text)
  | start {first : Char} {rest : List Char} : first :: rest ∈ text.toList.splitOn '.' →
      first :: rest ≠ ['*'] → ¬ StartsName first → Misnamed text (.badStart first text)
  | character {first character : Char} {rest : List Char} :
      first :: rest ∈ text.toList.splitOn '.' → StartsName first → character ∈ rest →
      ¬ ContinuesName character → Misnamed text (.badCharacter character text)

/-- A segment of an identifier as a statement writes it: a wildcard as it is, and a name with one quote
on each side and none inside. -/
inductive Enclosed (quote : Char) : List Char → List Char → Prop where
  | wildcard : Enclosed quote ['*'] ['*']
  | name {name : List Char} : NameText name → quote ∉ name →
      Enclosed quote name (quote :: name ++ [quote])

/-- A character that stands in no identifier. -/
structure ForeignToNames (character : Char) : Prop where
  notPart : ¬ ContinuesName character
  notPoint : character ≠ '.'
  notWildcard : character ≠ '*'

theorem isNameStart_iff {character : Char} : isNameStart character = true ↔ StartsName character := by
  have codes : isNameStart character =
      ((decide (character.val ≥ 'A'.val ∧ character.val ≤ 'Z'.val) ||
        (decide (character.val ≥ 'a'.val) && decide (character.val ≤ 'z'.val))) ||
        character == '_') := rfl
  simp only [codes, StartsName, Bool.or_eq_true, Bool.and_eq_true, decide_eq_true_eq, beq_iff_eq,
    or_assoc]
  rfl

theorem isNamePart_iff {character : Char} : isNamePart character = true ↔ ContinuesName character := by
  have split : isNamePart character = (isNameStart character || character.isDigit) := by
    simp only [isNamePart, isNameStart, Char.isAlphanum]
    grind
  rw [split, Bool.or_eq_true, isNameStart_iff, ContinuesName]
  simp only [Char.isDigit, Bool.and_eq_true, decide_eq_true_eq]
  rfl

theorem isName_iff {text : List Char} : isName text = true ↔ NameText text := by
  cases text with
  | nil =>
    refine iff_of_false Bool.false_ne_true fun named => ?_
    cases named
  | cons first rest =>
    simp only [isName, Bool.and_eq_true, List.all_eq_true, isNameStart_iff, isNamePart_iff]
    constructor
    · rintro ⟨starts, continues⟩
      exact .of_characters starts continues
    · rintro ⟨starts, continues⟩
      exact ⟨starts, continues⟩

namespace NameText

variable {text : List Char}

theorem continues (named : NameText text) : ∀ character ∈ text, ContinuesName character := by
  obtain ⟨starts, continues⟩ := named
  exact List.forall_mem_cons.mpr ⟨.inl starts, continues⟩

/-- A character that no name has. -/
theorem not_mem {character : Char} (named : NameText text) (other : ¬ ContinuesName character) :
    character ∉ text := fun member => other (named.continues character member)

theorem point_not_mem (named : NameText text) : '.' ∉ text :=
  named.not_mem (isNamePart_iff.not.mp (by decide))

theorem ne_wildcard (named : NameText text) : text ≠ ['*'] := by
  rintro rfl
  exact absurd (isName_iff.mpr named) (by decide)

end NameText

theorem Name.nameText (name : Name) : NameText name.characters := isName_iff.mp name.valid

namespace Identifier

variable {whole : String} {segment : List Char}

theorem segments_eq_splitOn (text : List Char) : segments text = text.splitOn '.' := by
  induction text with
  | nil => rfl
  | cons character rest ih =>
    rw [segments, ih, List.splitOn_cons_eq_if_modifyHead]
    by_cases point : character = '.'
    · simp [point]
    · rw [if_neg point, if_neg (by simpa using point)]
      cases found : rest.splitOn '.' with
      | nil => exact absurd found (List.splitOn_ne_nil '.' rest)
      | cons first others => rfl

theorem joined_eq_intercalate (parts : List (List Char)) : joined parts = ['.'].intercalate parts := by
  induction parts with
  | nil => rfl
  | cons part rest ih =>
    cases rest with
    | nil => simp [joined]
    | cons second rest => rw [joined, ih, List.intercalate_cons_cons] <;> simp

/-- Exactly the names are read from segments. -/
theorem reads_readName : Reads (readName whole segment) ↔ NameText segment := by
  rw [← isName_iff]
  unfold readName
  split
  · exact iff_of_false (Reads.not_error _) Bool.false_ne_true
  · split
    next start =>
      split
      next character found =>
        refine iff_of_false (Reads.not_error _) fun named => ?_
        have inside := List.mem_of_find?_eq_some found
        have bad := List.find?_some found
        simp only [isName, Bool.and_eq_true, List.all_eq_true] at named
        rw [named.2 character inside] at bad
        cases bad
      next found => exact iff_of_true (Reads.of_ok _) (readName_valid _ _ start found)
    next other =>
      refine iff_of_false (Reads.not_error _) fun named => other ?_
      simp only [isName, Bool.and_eq_true] at named
      exact named.1

/-- Segments that are read are those of names with points between them. -/
theorem dottedNames_joined {segments : List (List Char)} (nonempty : segments ≠ [])
    (reads : Reads (readParts whole segments)) : DottedNames (joined segments) := by
  induction segments with
  | nil => exact absurd rfl nonempty
  | cons segment rest ih =>
    unfold readParts at reads
    split at reads
    next wildcard =>
      split at reads
      next last =>
        rw [wildcard, List.isEmpty_iff.mp last]
        exact .wildcard
      next => exact absurd reads (Reads.not_error _)
    next =>
      obtain ⟨name, read, later⟩ := Reads.bind.mp reads
      have named := reads_readName.mp ⟨name, read⟩
      cases rest with
      | nil => exact .name named
      | cons second rest => exact .more named (ih (List.cons_ne_nil second rest) (Reads.bind_pure.mp later))

/-- The segments of names with points between them are read, by induction on the names. -/
theorem reads_segments {text : List Char} (dotted : DottedNames text) :
    Reads (readParts whole (segments text)) := by
  have read {name : List Char} {rest : List (List Char)} (named : NameText name)
      (later : Reads (readParts whole rest)) : Reads (readParts whole (name :: rest)) := by
    rw [readParts, if_neg named.ne_wildcard]
    exact (Reads.bind_and fun _ _ => Reads.bind_pure).mpr ⟨reads_readName.mpr named, later⟩
  induction dotted with
  | name named =>
    rw [segments_single named.point_not_mem]
    exact read named (Reads.of_ok [])
  | wildcard => exact Reads.of_ok _
  | more named _ ih =>
    rw [segments_append, segments_single named.point_not_mem]
    exact read named ih

/-- Exactly names with points between them are identifiers. -/
theorem identifies_iff {text : String} : Identifies text ↔ DottedNames text.toList := by
  unfold Identifies parse
  split
  next empty =>
    rw [String.isEmpty_iff.mp empty]
    refine iff_of_false (Reads.not_error _) fun dotted => ?_
    have reads : Reads (readParts "" (segments "".toList)) := reads_segments dotted
    exact absurd reads (Reads.not_error _)
  next =>
    rw [Reads.map]
    constructor
    · intro reads
      rw [← joined_segments text.toList]
      exact dottedNames_joined (segments_ne_nil _) reads
    · exact reads_segments

/-- A segment that is no name has a reason in its text. -/
theorem readName_misnamed {text : String} {fault : RequestFault}
    (listed : segment ∈ text.toList.splitOn '.') (other : segment ≠ ['*'])
    (failed : readName text segment = .error fault) : Misnamed text fault := by
  unfold readName at failed
  split at failed
  · cases failed
    exact .segment listed
  next first rest =>
    split at failed
    next start =>
      split at failed
      next character found =>
        cases failed
        have bad := List.find?_some found
        refine .character listed (isNameStart_iff.mp start) (List.mem_of_find?_eq_some found) ?_
        exact isNamePart_iff.not.mp (by simpa using bad)
      next => cases failed
    next noStart =>
      cases failed
      exact .start listed other (isNameStart_iff.not.mp noStart)

/-- Segments at the end of a text that are not read have a reason in it, by induction on them. -/
theorem readParts_misnamed {text : String} {fault : RequestFault} {front rest : List (List Char)}
    (all : text.toList.splitOn '.' = front ++ rest)
    (failed : readParts text rest = .error fault) : Misnamed text fault := by
  induction rest generalizing front with
  | nil => cases failed
  | cons segment rest ih =>
    unfold readParts at failed
    split at failed
    next wildcard =>
      split at failed
      · cases failed
      next more =>
        cases failed
        exact .wildcard (wildcard ▸ all) fun last => more (List.isEmpty_iff.mpr last)
    next other =>
      have listed : segment ∈ text.toList.splitOn '.' := by simp [all]
      cases named : readName text segment with
      | error =>
        rw [named] at failed
        cases failed
        exact readName_misnamed listed other named
      | ok name =>
        rw [named] at failed
        cases later : readParts text rest with
        | error =>
          have next : text.toList.splitOn '.' = (front ++ [segment]) ++ rest := by simp [all]
          rw [later] at failed
          exact ih next (later.trans failed)
        | ok parts =>
          rw [later] at failed
          cases failed

theorem parse_misnamed {text : String} {fault : RequestFault} (failed : parse text = .error fault) :
    Misnamed text fault := by
  unfold parse at failed
  split at failed
  next empty =>
    cases failed
    exact .empty (String.isEmpty_iff.mp empty)
  next =>
    cases read : readParts text (segments text.toList) with
    | error =>
      rw [read] at failed
      cases failed
      have all : text.toList.splitOn '.' = [] ++ segments text.toList :=
        (segments_eq_splitOn text.toList).symm
      exact readParts_misnamed all read
    | ok parts =>
      rw [read] at failed
      cases failed

end Identifier

namespace IdentifierPart

variable {quote : Char}

/-- A part loses nothing but its quotes when these are removed. -/
theorem filter_quoted (foreign : ForeignToNames quote) (part : IdentifierPart) :
    (part.quoted quote).filter (· ≠ quote) = part.plain := by
  cases part with
  | wildcard => simp [quoted, plain, foreign.notWildcard.symm]
  | named name =>
    have kept : name.characters.filter (· ≠ quote) = name.characters := by
      rw [List.filter_eq_self]
      intro character member
      have other : character ≠ quote := fun same =>
        name.nameText.not_mem foreign.notPart (same ▸ member)
      simpa using other
    simp only [quoted, plain, List.cons_append, List.filter_cons, List.filter_append, kept]
    simp

theorem enclosed_quoted (foreign : ForeignToNames quote) (part : IdentifierPart) :
    Enclosed quote part.plain (part.quoted quote) := by
  cases part with
  | wildcard => exact .wildcard
  | named name => exact .name name.nameText (name.nameText.not_mem foreign.notPart)

theorem point_not_mem (foreign : ForeignToNames quote) (part : IdentifierPart) :
    '.' ∉ part.quoted quote := by
  cases part with
  | wildcard => simp [quoted]
  | named name => simp [quoted, name.nameText.point_not_mem, foreign.notPoint.symm]

end IdentifierPart

namespace Identifier

variable {quote : Char}

/-- Parts in quotes with points between them lose nothing but the quotes when these are removed. -/
theorem filter_joined (foreign : ForeignToNames quote) (parts : List IdentifierPart) :
    (joined (parts.map (IdentifierPart.quoted quote))).filter (· ≠ quote) =
      joined (parts.map IdentifierPart.plain) := by
  induction parts with
  | nil => rfl
  | cons part rest ih =>
    cases rest with
    | nil => exact part.filter_quoted foreign
    | cons second rest =>
      simp only [List.map_cons, joined, List.filter_append, List.filter_cons] at ih ⊢
      rw [ih, part.filter_quoted foreign, if_pos (by simpa using foreign.notPoint.symm)]

/-- The quotes of an identifier are all that a statement adds to its text. -/
theorem filter_sql (foreign : ForeignToNames quote) {text : String} {identifier : Identifier}
    (parsed : parse text = .ok identifier) :
    (identifier.sql quote).toList.filter (· ≠ quote) = text.toList := by
  rw [sql, String.toList_ofList, quoted, filter_joined foreign, parse_segments parsed,
    joined_segments]

/-- The parts of an identifier stand between the points of a statement's text. -/
theorem splitOn_sql (foreign : ForeignToNames quote) {text : String} {identifier : Identifier}
    (parsed : parse text = .ok identifier) :
    (identifier.sql quote).toList.splitOn '.' =
      identifier.parts.map (IdentifierPart.quoted quote) := by
  have nonempty : identifier.parts ≠ [] := by
    intro none
    have segments := parse_segments parsed
    rw [none] at segments
    exact segments_ne_nil _ segments.symm
  rw [sql, String.toList_ofList, quoted, joined_eq_intercalate]
  apply List.splitOn_intercalate
  · rw [List.forall_mem_map]
    exact fun part _ => part.point_not_mem foreign
  · simpa using nonempty

/-- For all texts: exactly those that are names with points between them, of which the last one may be a
wildcard, are read as identifiers, and the others are refused with what is wrong with them. The parts of
an identifier with points between them are its text. Where the quote stands in no identifier, the text
in a statement encloses each name in two quotes, is the identifier's text without them, and is that of
no other identifier. -/
theorem parse_faithful (text : String) :
    ((∃ identifier, parse text = .ok identifier) ↔ DottedNames text.toList) ∧
    (∀ fault, parse text = .error fault →
      Misnamed text fault ∧ (SqlError.request fault).isRequest = true) ∧
    ∀ identifier, parse text = .ok identifier →
      ['.'].intercalate (identifier.parts.map IdentifierPart.plain) = text.toList ∧
      ∀ quote, ForeignToNames quote →
        (identifier.sql quote).toList.filter (· ≠ quote) = text.toList ∧
        List.Forall₂ (Enclosed quote) (text.toList.splitOn '.')
          ((identifier.sql quote).toList.splitOn '.') ∧
        ∀ other otherIdentifier, parse other = .ok otherIdentifier →
          otherIdentifier.sql quote = identifier.sql quote → other = text := by
  refine ⟨identifies_iff, fun fault failed => ⟨parse_misnamed failed, rfl⟩,
    fun identifier parsed => ⟨?_, fun quote foreign => ⟨filter_sql foreign parsed, ?_, ?_⟩⟩⟩
  · rw [← joined_eq_intercalate, parse_segments parsed, joined_segments]
  · rw [splitOn_sql foreign parsed, ← segments_eq_splitOn, ← parse_segments parsed,
      List.forall₂_map_left_iff, List.forall₂_map_right_iff, List.forall₂_same]
    exact fun part _ => part.enclosed_quoted foreign
  · intro other otherIdentifier otherParsed same
    have texts : other.toList = text.toList := by
      rw [← filter_sql foreign otherParsed, same, filter_sql foreign parsed]
    exact String.toList_inj.mp texts

/-- All columns of a table in a schema are an identifier; a wildcard in front of a column is not. -/
theorem parse_faithful_allColumns :
    let identifier : Identifier :=
      ⟨[.named ⟨"app".toList, by decide⟩, .named ⟨"users".toList, by decide⟩, .wildcard]⟩
    let fault : RequestFault := .wildcardNotLast "users.*.id"
    parse "app.users.*" = .ok identifier ∧ parse "users.*.id" = .error fault ∧
      ForeignToNames '"' ∧ identifier.sql '"' = "\"app\".\"users\".*" ∧
      DottedNames "app.users.*".toList ∧ Misnamed "users.*.id" fault ∧
      ("\"app\".\"users\".*".toList.filter fun character => character ≠ '"') =
        "app.users.*".toList ∧
      ∀ other otherIdentifier, parse other = .ok otherIdentifier →
        otherIdentifier.sql '"' = identifier.sql '"' → other = "app.users.*" := by
  intro identifier fault
  have parsed : parse "app.users.*" = .ok identifier := rfl
  have failed : parse "users.*.id" = .error fault := rfl
  have foreign : ForeignToNames '"' :=
    ⟨isNamePart_iff.not.mp (by decide), by decide, by decide⟩
  obtain ⟨accepted, -, written⟩ := parse_faithful "app.users.*"
  obtain ⟨filtered, -, apart⟩ := (written identifier parsed).2 '"' foreign
  exact ⟨parsed, failed, foreign, rfl, accepted.mp ⟨identifier, parsed⟩,
    ((parse_faithful "users.*.id").2.1 fault failed).1, filtered, apart⟩

end Identifier

end QueryTree
