/-
This file holds the conditions of a statement: trees of comparisons, joined by conjunction,
disjunction and negation.
-/
import QueryTree.Statement.Fragment
import QueryTree.Statement.Piece

namespace QueryTree

inductive Comparison where
  | equal
  | notEqual
  | less
  | lessOrEqual
  | greater
  | greaterOrEqual
  | like
deriving DecidableEq, Repr

def Comparison.keyword : Comparison → Keyword
  | equal => .equal
  | notEqual => .notEqual
  | less => .less
  | lessOrEqual => .lessOrEqual
  | greater => .greater
  | greaterOrEqual => .greaterOrEqual
  | like => .like

/-- What a single condition tests. -/
inductive Test where
  | comparison (comparison : Comparison)
  | membership
  | isNull
deriving DecidableEq, Repr

/-- The test that the last segment of a condition's name asks for. -/
def Test.ofSuffix? (suffix : String) : Option Test :=
  match suffix with
  | "eq" => some (comparison .equal)
  | "neq" => some (comparison .notEqual)
  | "lt" => some (comparison .less)
  | "lte" => some (comparison .lessOrEqual)
  | "mt" => some (comparison .greater)
  | "mteq" => some (comparison .greaterOrEqual)
  | "like" => some (comparison .like)
  | "in" => some membership
  | "null" => some isNull
  | _ => none

/-- How the conditions of a group are joined. -/
inductive GroupKind where
  | all
  | any
  | notAll
deriving DecidableEq, Repr

namespace GroupKind

/-- The names that stand for groups. -/
def ofName? (name : String) : Option GroupKind :=
  match name with
  | "and" => some all
  | "or" => some any
  | "not" => some notAll
  | _ => none

/-- The word between the conditions of a group. -/
def separator : GroupKind → Keyword
  | all => .conjunction
  | any => .disjunction
  | notAll => .conjunction

/-- The mark in front of a group. -/
def opening : GroupKind → Keyword
  | all => .openGroup
  | any => .openGroup
  | notAll => .openNegation

end GroupKind

/-- A condition on the rows of a statement. -/
inductive Condition where
  | compare (column : Identifier) (comparison : Comparison) (value : Value)
  | member (column : Identifier) (values : List Value)
  | isNull (column : Identifier) (expected : Bool)
  | group (kind : GroupKind) (conditions : List Condition)

namespace Condition

/-- The column and the test of a condition's name. A name whose last segment is no test asks for
equality with the column of the whole name. -/
def splitName (name : String) : String × Test :=
  let segments := Identifier.segments name.toList
  let suffix := String.ofList (segments.getLast?.getD [])
  match segments.dropLast, Test.ofSuffix? suffix with
  | [], _ => (name, .comparison .equal)
  | column, some test => (String.ofList (Identifier.joined column), test)
  | _, none => (name, .comparison .equal)

/-- A single condition. Only a test for membership has children; they carry the values. -/
def ofLeaf (node : Node) : Except RequestFault Condition := do
  let (name, test) := splitName node.name
  let column ← Identifier.parse name
  match test with
  | .membership => return member column (node.children.map Node.value)
  | .comparison comparison =>
      if node.children.isEmpty then return compare column comparison node.value
      else .error (.conditionWithChildren node.name)
  | .isNull =>
      if !node.children.isEmpty then .error (.conditionWithChildren node.name)
      else
        match node.value.asBool? with
        | some expected => return isNull column expected
        | none => .error (.nullTestNotBoolean node.name)

mutual

/-- A node is a group by its name, or else a single condition. A group is not empty. -/
def ofNode : Node → Except RequestFault Condition
  | ⟨name, value, children⟩ =>
      match GroupKind.ofName? name with
      | some kind =>
          if children.isEmpty then .error (.emptyGroup name)
          else do
            let conditions ← ofNodes children
            return group kind conditions
      | none => ofLeaf ⟨name, value, children⟩

/-- The conditions of nodes, the first fault counting. -/
def ofNodes : List Node → Except RequestFault (List Condition)
  | [] => .ok []
  | node :: rest => do
      let condition ← ofNode node
      let conditions ← ofNodes rest
      return condition :: conditions

end

/-- The conditions of a request, all of which have to hold. -/
def ofRequest (node : Node) : Except RequestFault (List Condition) := do
  ofNodes (← node.fragment "where")

mutual

/-- The pieces of a condition. Membership in an empty list never holds. -/
def pieces : Condition → List Piece
  | compare column comparison value =>
      [.identifier column, .keyword comparison.keyword, .parameter value]
  | member column values =>
      if values.isEmpty then [.keyword .never]
      else
        .identifier column :: .keyword .inList
          :: Piece.separated .comma (values.map fun value => [.parameter value])
          ++ [.keyword .closeGroup]
  | isNull column expected =>
      [.identifier column, .keyword (if expected then .isNull else .isNotNull)]
  | group kind conditions =>
      .keyword kind.opening :: joined kind.separator conditions ++ [.keyword .closeGroup]

/-- The pieces of conditions with a word between them. -/
def joined (separator : Keyword) : List Condition → List Piece
  | [] => []
  | [condition] => pieces condition
  | condition :: rest => pieces condition ++ .keyword separator :: joined separator rest

end

/-- The clause that states conditions, if there are any. -/
def clause (conditions : List Condition) : List Piece :=
  if conditions.isEmpty then [] else .keyword .whereClause :: joined .conjunction conditions

end Condition

end QueryTree
