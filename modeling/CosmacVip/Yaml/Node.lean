import CosmacVip.Yaml.Scalar

/-!
Documents of the configuration format: scalars, sequences and mappings.

* `Yaml.Node`: the value of a document;
* `Yaml.Node.scalar?`, `Yaml.Node.items?`, `Yaml.Node.entries?`: its parts by its kind.
-/

namespace CosmacVip.Yaml

/-- The value of a document, or of a part of it. The keys of a mapping may be any values. -/
inductive Node where
  | scalar (s : Scalar)
  | sequence (items : List Node)
  | mapping (entries : List (Node × Node))

namespace Node

/-- The node where nothing is written. -/
def empty : Node := .scalar .empty

/-- The scalar that a node is. -/
def scalar? : Node → Option Scalar
  | scalar s => some s
  | _ => none

/-- Whether a node is null. -/
def isNull (n : Node) : Bool := n.scalar?.any (·.isNull)

/-- The items of a sequence; an empty plain scalar counts as one without items. -/
def items? : Node → Option (List Node)
  | sequence items => some items
  | scalar s => if s = .empty then some [] else none
  | _ => none

/-- The entries of a mapping; an empty plain scalar counts as one without entries. -/
def entries? : Node → Option (List (Node × Node))
  | mapping entries => some entries
  | scalar s => if s = .empty then some [] else none
  | _ => none

end Node

end CosmacVip.Yaml
