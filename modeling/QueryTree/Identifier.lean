/-
This file holds identifiers of tables and columns: names with points between them, the last of
which may be a wildcard. Names are the only part of a request that enters the text of a statement,
so a name is known to be made of letters, digits and underscores.
-/
import QueryTree.SqlError

namespace QueryTree

/-- A letter of the alphabet or an underscore. -/
def isNameStart (character : Char) : Bool := character.isAlpha || character == '_'

/-- A letter, a digit or an underscore. -/
def isNamePart (character : Char) : Bool := character.isAlphanum || character == '_'

/-- A name starts with a letter or an underscore; digits may follow. -/
def isName : List Char → Bool
  | [] => false
  | first :: rest => isNameStart first && rest.all isNamePart

/-- A name that needs no escaping inside quotes. -/
structure Name where
  characters : List Char
  valid : isName characters = true
deriving DecidableEq, Repr

/-- One part of an identifier. -/
inductive IdentifierPart where
  | named (name : Name)
  | wildcard
deriving DecidableEq, Repr

/-- The parts of a dotted identifier. -/
structure Identifier where
  parts : List IdentifierPart
deriving DecidableEq, Repr

namespace IdentifierPart

/-- The part as it stands in a request. -/
def plain : IdentifierPart → List Char
  | named name => name.characters
  | wildcard => ['*']

/-- The part as it stands in a statement; a wildcard is not quoted. -/
def quoted (quote : Char) : IdentifierPart → List Char
  | named name => quote :: name.characters ++ [quote]
  | wildcard => ['*']

end IdentifierPart

namespace Identifier

/-- The segments between the points of a text. -/
def segments : List Char → List (List Char)
  | [] => [[]]
  | character :: rest =>
      if character = '.' then [] :: segments rest
      else
        match segments rest with
        | [] => [[character]]
        | first :: others => (character :: first) :: others

/-- Segments with points between them. -/
def joined : List (List Char) → List Char
  | [] => []
  | [segment] => segment
  | segment :: rest => segment ++ '.' :: joined rest

/-- A good first character and no bad one after it make a name. -/
theorem readName_valid (first : Char) (rest : List Char) (start : isNameStart first = true)
    (found : (rest.find? fun character => !isNamePart character) = none) :
    isName (first :: rest) = true := by
  simp only [List.find?_eq_none, Bool.not_eq_true', Bool.not_eq_false] at found
  simp only [isName, start, Bool.true_and, List.all_eq_true]
  exact found

/-- A segment is checked to be a name. -/
def readName (whole : String) (segment : List Char) : Except RequestFault Name :=
  match segment with
  | [] => .error (.emptySegment whole)
  | first :: rest =>
      if start : isNameStart first = true then
        match found : rest.find? fun character => !isNamePart character with
        | some character => .error (.badCharacter character whole)
        | none => .ok ⟨first :: rest, readName_valid first rest start found⟩
      else .error (.badStart first whole)

/-- The segments are read one after the other; a wildcard may only be the last one. -/
def readParts (whole : String) : List (List Char) → Except RequestFault (List IdentifierPart)
  | [] => .ok []
  | segment :: rest =>
      if segment = ['*'] then
        if rest.isEmpty then .ok [.wildcard] else .error (.wildcardNotLast whole)
      else do
        let name ← readName whole segment
        let parts ← readParts whole rest
        return .named name :: parts

/-- An identifier is read from a text. -/
def parse (text : String) : Except RequestFault Identifier :=
  if text.isEmpty then .error .emptyIdentifier
  else (readParts text (segments text.toList)).map Identifier.mk

/-- The identifier as it stands in a request. -/
def plain (identifier : Identifier) : List Char := joined (identifier.parts.map IdentifierPart.plain)

/-- The identifier as it stands in a statement. -/
def quoted (quote : Char) (identifier : Identifier) : List Char :=
  joined (identifier.parts.map (IdentifierPart.quoted quote))

/-- The text of the identifier in a statement. -/
def sql (quote : Char) (identifier : Identifier) : String := String.ofList (identifier.quoted quote)

@[simp] theorem segments_nil : segments [] = [[]] := rfl

theorem segments_ne_nil (characters : List Char) : segments characters ≠ [] := by
  cases characters with
  | nil => simp [segments]
  | cons character rest =>
      simp only [segments]
      split
      · simp
      · split <;> simp

/-- Splitting at the points loses nothing. -/
theorem joined_segments (characters : List Char) : joined (segments characters) = characters := by
  induction characters with
  | nil => rfl
  | cons character rest ih =>
      simp only [segments]
      split
      next point =>
        subst point
        cases equal : segments rest with
        | nil => exact absurd equal (segments_ne_nil rest)
        | cons first others => simp [joined, ← equal, ih]
      next =>
        cases equal : segments rest with
        | nil => exact absurd equal (segments_ne_nil rest)
        | cons first others =>
            rw [equal] at ih
            cases others with
            | nil => simpa [joined] using ih
            | cons second others => simpa [joined] using ih

end Identifier

end QueryTree
