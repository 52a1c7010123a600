/-
This file holds boolean expressions over conditions with their truth in three values, and reads them
from the text of a statement: parentheses bind first, then `NOT`, then `AND`, then `OR`.
-/
import Mathlib.Data.List.Basic
import QueryTree.Statement.Condition

namespace QueryTree

/-- The truth of a condition; a comparison with a missing value is unknown. -/
inductive Truth where
  | holds
  | fails
  | unknown
deriving DecidableEq, Repr

namespace Truth

def and : Truth → Truth → Truth
  | fails, _ => fails
  | _, fails => fails
  | holds, holds => holds
  | _, _ => unknown

def or : Truth → Truth → Truth
  | holds, _ => holds
  | _, holds => holds
  | fails, fails => fails
  | _, _ => unknown

def not : Truth → Truth
  | holds => fails
  | fails => holds
  | unknown => unknown

@[simp] theorem and_holds (truth : Truth) : truth.and holds = truth := by cases truth <;> rfl

@[simp] theorem or_fails (truth : Truth) : truth.or fails = truth := by cases truth <;> rfl

end Truth

/-- A boolean expression over single conditions. -/
inductive Expression (Leaf : Type) where
  | leaf (leaf : Leaf)
  | negation (inner : Expression Leaf)
  | all (inner : List (Expression Leaf))
  | any (inner : List (Expression Leaf))

namespace Expression

variable {Leaf : Type}

mutual

/-- The single conditions from left to right. -/
def leaves : Expression Leaf → List Leaf
  | .leaf single => [single]
  | .negation inner => leaves inner
  | .all inner => leavesAll inner
  | .any inner => leavesAll inner

def leavesAll : List (Expression Leaf) → List Leaf
  | [] => []
  | first :: rest => leaves first ++ leavesAll rest

end

mutual

/-- The truth of an expression when its single conditions, counted from a position on, have given
truths. Some of them never hold. -/
def truth (never : Leaf → Bool) (given : Nat → Truth) : (start : Nat) → Expression Leaf → Truth
  | start, .leaf single => if never single then .fails else given start
  | start, .negation inner => (truth never given start inner).not
  | start, .all inner => (truths never given start inner).foldr Truth.and .holds
  | start, .any inner => (truths never given start inner).foldr Truth.or .fails

def truths (never : Leaf → Bool) (given : Nat → Truth) :
    (start : Nat) → List (Expression Leaf) → List Truth
  | _, [] => []
  | start, first :: rest =>
      truth never given start first ::
        truths never given (start + (leaves first).length) rest

end

end Expression

/-- A single condition, with what it compares a column to. -/
inductive Leaf (Operand : Type) where
  | compare (column : Identifier) (comparison : Comparison) (operand : Operand)
  | member (column : Identifier) (operands : List Operand)
  | isNull (column : Identifier) (expected : Bool)
  | never
deriving DecidableEq, Repr

def Leaf.isNever {Operand : Type} : Leaf Operand → Bool
  | never => true
  | _ => false

namespace Predicate

/-- A quoted name: everything up to the next quote. Where the quote may itself stand in names, it is
the last character of them. -/
def readName (quote : Char) (text : List Char) : Option (Name × List Char) :=
  let characters := text.takeWhile isNamePart
  let rest := text.dropWhile isNamePart
  let closed :=
    if rest.head? = some quote then some (characters, rest.tail)
    else if characters.getLast? = some quote then some (characters.dropLast, rest)
    else none
  closed.bind fun (characters, rest) =>
    if valid : isName characters = true then some (⟨characters, valid⟩, rest) else none

/-- A part of an identifier: a quoted name or a wildcard. -/
def readPart (quote : Char) (text : List Char) : Option (IdentifierPart × List Char) :=
  match text with
  | [] => none
  | first :: rest =>
      let quoted := if first = quote then readName quote rest else none
      match quoted with
      | some (name, rest) => some (.named name, rest)
      | none => if first = '*' then some (.wildcard, rest) else none

/-- The parts of an identifier, with points between them. -/
def readParts (quote : Char) (text : List Char) : Option (List IdentifierPart × List Char) :=
  match readPart quote text with
  | none => none
  | some (part, rest) =>
      if rest.head? = some '.' ∧ rest.tail.length < text.length then
        (readParts quote rest.tail).map fun (others, rest) => (part :: others, rest)
      else some ([part], rest)
termination_by text.length
decreasing_by
  rename_i goesOn
  exact goesOn.2

/-- A placeholder: `$` or `@p`, and digits. -/
def readPlaceholder (text : List Char) : Option (List Char × List Char) :=
  let mark := text.takeWhile fun character => !character.isDigit
  let digits := (text.drop mark.length).takeWhile Char.isDigit
  if (mark = ['$'] ∨ mark = ['@', 'p']) ∧ digits ≠ [] then
    some (mark ++ digits, (text.drop mark.length).dropWhile Char.isDigit)
  else none

/-- Placeholders with commas between them, up to the closing parenthesis. -/
def readPlaceholders (text : List Char) : Option (List (List Char) × List Char) :=
  match readPlaceholder text with
  | none => none
  | some (placeholder, rest) =>
      match rest.dropPrefix? ")".toList with
      | some rest => some ([placeholder], rest)
      | none =>
          match rest.dropPrefix? ", ".toList with
          | none => none
          | some rest =>
              if rest.length < text.length then
                (readPlaceholders rest).map fun (others, rest) => (placeholder :: others, rest)
              else none
termination_by text.length

/-- The words of comparisons. -/
def comparisons : List (String × Comparison) :=
  [(" = ", .equal), (" <> ", .notEqual), (" < ", .less), (" <= ", .lessOrEqual), (" > ", .greater),
    (" >= ", .greaterOrEqual), (" LIKE ", .like)]

/-- A comparison with a placeholder. -/
def readComparison (column : Identifier) (text : List Char) (word : String × Comparison) :
    Option (Leaf (List Char) × List Char) :=
  (text.dropPrefix? word.1.toList).bind fun rest =>
    (readPlaceholder rest).map fun (operand, rest) => (.compare column word.2 operand, rest)

/-- What is said about a column. -/
def readTest (column : Identifier) (text : List Char) : Option (Leaf (List Char) × List Char) :=
  match text.dropPrefix? " IS NULL".toList with
  | some rest => some (.isNull column true, rest)
  | none =>
      match text.dropPrefix? " IS NOT NULL".toList with
      | some rest => some (.isNull column false, rest)
      | none =>
          match text.dropPrefix? " IN (".toList with
          | some rest =>
              (readPlaceholders rest).map fun (operands, rest) => (.member column operands, rest)
          | none => comparisons.findSome? (readComparison column text)

/-- A single condition. -/
def readLeaf (quote : Char) (text : List Char) : Option (Leaf (List Char) × List Char) :=
  match text.dropPrefix? "1=0".toList with
  | some rest => some (.never, rest)
  | none => (readParts quote text).bind fun (parts, rest) => readTest ⟨parts⟩ rest

/-- What has been read of a group: the alternatives that `OR` has ended, the conditions since then
with `AND` between them, and how often `NOT` stands before the next one. -/
structure Level where
  alternatives : List (Expression (Leaf (List Char)))
  conditions : List (Expression (Leaf (List Char)))
  negations : Nat

namespace Level

def empty : Level := ⟨[], [], 0⟩

/-- The group as far as it has been read. -/
def expression (level : Level) : Expression (Leaf (List Char)) :=
  .any (level.alternatives ++ [.all level.conditions])

/-- An expression with so many negations. -/
def negated : Nat → Expression (Leaf (List Char)) → Expression (Leaf (List Char))
  | 0, expression => expression
  | count + 1, expression => negated count (.negation expression)

/-- The next condition of a group. `NOT` binds it at once. -/
def add (level : Level) (condition : Expression (Leaf (List Char))) : Level where
  alternatives := level.alternatives
  conditions := level.conditions ++ [negated level.negations condition]
  negations := 0

/-- `OR` ends the conditions that `AND` has joined. -/
def disjoin (level : Level) : Level :=
  ⟨level.alternatives ++ [.all level.conditions], [], 0⟩

end Level

/-- The groups that are open, the innermost first, and whether a condition has to follow. -/
structure Reader where
  awaits : Bool
  level : Level
  outer : List Level

namespace Reader

def start : Reader := ⟨true, .empty, []⟩

/-- A condition has been read. -/
def condition (reader : Reader) (expression : Expression (Leaf (List Char))) : Reader :=
  { reader with awaits := false, level := reader.level.add expression }

/-- `NOT` has been read. -/
def negate (reader : Reader) : Reader :=
  { reader with level := { reader.level with negations := reader.level.negations + 1 } }

/-- A parenthesis has been opened. -/
def openGroup (reader : Reader) : Reader := ⟨true, .empty, reader.level :: reader.outer⟩

/-- `AND` has been read. -/
def conjoin (reader : Reader) : Reader := { reader with awaits := true }

/-- `OR` has been read. -/
def disjoin (reader : Reader) : Reader :=
  { reader with awaits := true, level := reader.level.disjoin }

/-- A parenthesis has been closed: its group is a condition of the group around it. -/
def closeGroup? (reader : Reader) : Option Reader :=
  match reader.outer with
  | [] => none
  | level :: outer => some (condition ⟨true, level, outer⟩ reader.level.expression)

/-- Where a condition has to follow: a single condition, `NOT`, or an open parenthesis. -/
def operand? (quote : Char) (reader : Reader) (text : List Char) : Option (Reader × List Char) :=
  match readLeaf quote text with
  | some (leaf, rest) => some (reader.condition (.leaf leaf), rest)
  | none =>
      match text.dropPrefix? "NOT ".toList with
      | some rest => some (reader.negate, rest)
      | none => (text.dropPrefix? "(".toList).map fun rest => (reader.openGroup, rest)

/-- Behind a condition: `AND`, `OR`, or a closing parenthesis. -/
def operator? (reader : Reader) (text : List Char) : Option (Reader × List Char) :=
  match text.dropPrefix? " AND ".toList with
  | some rest => some (reader.conjoin, rest)
  | none =>
      match text.dropPrefix? " OR ".toList with
      | some rest => some (reader.disjoin, rest)
      | none => (text.dropPrefix? ")".toList).bind fun rest =>
          reader.closeGroup?.map fun closed => (closed, rest)

def step? (quote : Char) (reader : Reader) (text : List Char) : Option (Reader × List Char) :=
  if reader.awaits then reader.operand? quote text else reader.operator? text

/-- The text is read as far as it goes on. -/
def run (quote : Char) (reader : Reader) (text : List Char) : Reader × List Char :=
  match reader.step? quote text with
  | none => (reader, text)
  | some (next, rest) =>
      if rest.length < text.length then run quote next rest else (reader, text)
termination_by text.length

end Reader

/-- The expression at the beginning of a text, and the text behind it. All parentheses have to be
closed, and the expression ends with a condition. -/
def read? (quote : Char) (text : List Char) : Option (Expression (Leaf (List Char)) × List Char) :=
  let (reader, rest) := Reader.start.run quote text
  if !reader.awaits && reader.outer.isEmpty then some (reader.level.expression, rest) else none

-- `NOT` binds only the next condition, and `AND` binds before `OR`.
example : read? '"' "1=0 OR NOT 1=0 AND 1=0 LIMIT 1".toList =
    some (.any [.all [.leaf .never], .all [.negation (.leaf .never), .leaf .never]],
      " LIMIT 1".toList) := by cbv

end Predicate

end QueryTree
