/-
This file gives trees their form in documents: an object with a name, and with a value and
children where there are any.
-/
import QueryTree.Node.Basic
import QueryTree.Value.Document

namespace QueryTree.Node

mutual

/-- The form of a tree. -/
def toJson : Node → Json
  | ⟨name, value, children⟩ =>
      .object (("name", .text name)
        :: (if value.isNull then [] else [("value", value.toJson)])
        ++ (if children.isEmpty then [] else [("children", .array (listToJson children))]))

def listToJson : List Node → List Json
  | [] => []
  | node :: rest => node.toJson :: listToJson rest

end

/-- The parts of a node that have been read. -/
structure Draft where
  name : Option String
  value : Option Value
  children : Option (List Node)

/-- A node needs a name. -/
def Draft.node? (draft : Draft) : Option Node := do
  let name ← draft.name
  return ⟨name, draft.value.getD .null, draft.children.getD []⟩

mutual

/-- The tree of a document: an object with unknown fields passed over, or an array of the name,
the value and the children. -/
def ofSource? : (levels : Nat) → JsonSource → Option Node
  | levels + 1, .object fields => do
      let draft ← readFields levels ⟨none, none, none⟩ fields
      draft.node?
  | levels + 1, .array items =>
      match items with
      | [.text (some name)] => some (empty name)
      | [.text (some name), value] => do return leaf name (← Value.ofSource? levels value)
      | [.text (some name), value, children] => do
          let value ← Value.ofSource? levels value
          let children ← childrenOfSource? levels children
          return ⟨name, value, children⟩
      | _ => none
  | _, _ => none

/-- The fields in their order; each may occur once. -/
def readFields : (levels : Nat) → Draft → List (Option String × JsonSource) → Option Draft
  | _, draft, [] => some draft
  | levels, draft, (name, source) :: rest => do
      let name ← name
      if name = "name" then
        match draft.name, source with
        | none, .text (some text) => readFields levels { draft with name := some text } rest
        | _, _ => none
      else if name = "value" then
        if draft.value.isSome then none
        else
          let value ← Value.ofSource? levels source
          readFields levels { draft with value := some value } rest
      else if name = "children" then
        if draft.children.isSome then none
        else
          let children ← childrenOfSource? levels source
          readFields levels { draft with children := some children } rest
      else readFields levels draft rest

/-- An array of trees. -/
def childrenOfSource? : (levels : Nat) → JsonSource → Option (List Node)
  | levels + 1, .array items => listOfSource? levels items
  | _, _ => none

def listOfSource? : (levels : Nat) → List JsonSource → Option (List Node)
  | _, [] => some []
  | levels, source :: rest => do
      let node ← ofSource? levels source
      let nodes ← listOfSource? levels rest
      return node :: nodes

end

/-- The text of a tree. -/
def toText (node : Node) : String := node.toJson.toText

/-- The tree that a text holds. -/
def ofText? (text : String) : Option Node := do
  let source ← JsonSource.ofText? text
  ofSource? Json.nestingLimit source

end QueryTree.Node
