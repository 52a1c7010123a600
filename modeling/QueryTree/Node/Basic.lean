/-
This file holds the trees that requests and their results are made of.
-/
import QueryTree.SqlError

namespace QueryTree

/-- A named value with ordered children. -/
structure Node where
  name : String
  value : Value
  children : List Node
deriving Inhabited

namespace Node

/-- Induction on trees: a property of a node follows from that of its children. -/
theorem induction {motive : Node → Prop}
    (step : ∀ node : Node, (∀ child ∈ node.children, motive child) → motive node) :
    ∀ node, motive node
  | ⟨name, value, children⟩ =>
    step ⟨name, value, children⟩ fun child _ => induction step child

/-- A node without value and children. -/
def empty (name : String) : Node := ⟨name, .null, []⟩

/-- A node without children. -/
def leaf (name : String) (value : Value) : Node := ⟨name, value, []⟩

/-- A node without name and value. -/
def group (children : List Node) : Node := ⟨"", .null, children⟩

/-- The last child is added. -/
def push (node child : Node) : Node := { node with children := node.children ++ [child] }

/-- Only the name is kept. -/
def clear (node : Node) : Node := empty node.name

/-- The direct children of a name, in order. -/
def findAll (node : Node) (name : String) : List Node :=
  node.children.filter fun child => child.name == name

/-- The first direct child of a name. -/
def find? (node : Node) (name : String) : Option Node :=
  node.children.find? fun child => child.name == name

/-- The only direct child of a name. -/
def single (node : Node) (name : String) : Except RequestFault (Option Node) :=
  match node.findAll name with
  | [] => .ok none
  | [child] => .ok (some child)
  | _ => .error (.tooMany name)

/-- The first direct child of a name and the node without it. -/
def take (node : Node) (name : String) : Option Node × Node :=
  (node.find? name, { node with children := node.children.eraseP fun child => child.name == name })

/-- The value as an integer. -/
def integer (node : Node) : Except RequestFault Int64 :=
  match node.value.asInt? with
  | some value => .ok value
  | none => .error (.wrongKind node.name .integer node.value)

/-- The value as an integer that is not negative. -/
def natural (node : Node) : Except RequestFault Nat := do
  let value ← node.integer
  if value.toInt < 0 then .error (.negative node.name value) else .ok value.toInt.toNat

/-- The value as a truth value; null is false. -/
def flag (node : Node) : Except RequestFault Bool :=
  match node.value with
  | .null => .ok false
  | .bool value => .ok value
  | value => .error (.wrongKind node.name .boolean value)

/-- The value as text. -/
def text (node : Node) : Except RequestFault String :=
  match node.value.asText? with
  | some value => .ok value
  | none => .error (.wrongKind node.name .text node.value)

/-- The flag that the only child of a name carries; a missing child is false. -/
def singleFlag (node : Node) (name : String) : Except RequestFault Bool := do
  match ← node.single name with
  | some child => child.flag
  | none => .ok false

mutual

/-- Equality of trees, with values compared by value. -/
def same : Node → Node → Bool
  | ⟨leftName, leftValue, leftChildren⟩, ⟨rightName, rightValue, rightChildren⟩ =>
      leftName == rightName && leftValue.same rightValue && sameAll leftChildren rightChildren

def sameAll : List Node → List Node → Bool
  | [], [] => true
  | left :: lefts, right :: rights => left.same right && sameAll lefts rights
  | _, _ => false

end

/-- Whether a request asks for the text of its statement only. -/
def isGenerateOnly (node : Node) : Except RequestFault Bool := node.singleFlag "generate-only"

end Node

end QueryTree
