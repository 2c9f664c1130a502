import CosmacVip.Yaml.Layout
import CosmacVip.Yaml.Node

/-!
From tokens to documents.

* `Document.node?`: the node that some tokens begin with;
* `Document.ofTokens?`: the document that tokens make up, one at most;
* `Document.parse?`: the document of a text.

Each reader takes the tokens from some place on, and returns those that it leaves.
-/

namespace CosmacVip.Yaml

namespace Document

/-- Whether the next token is one of some kinds. -/
def nextIs (kinds : List Token) (ts : List Token) : Bool :=
  ts.head?.any kinds.contains

mutual

/-- The node that the tokens begin with; a block collection only where one may stand. -/
def node? : Nat → Bool → List Token → Option (Node × List Token)
  | 0, _, _ => none
  | fuel + 1, blockAllowed, ts =>
    match ts with
    | .scalar s :: ts => some (.scalar s, ts)
    | .flowSequence :: ts => (flowItems? fuel ts).map fun (items, ts) => (.sequence items, ts)
    | .flowMapping :: ts => (flowEntries? fuel ts).map fun (entries, ts) => (.mapping entries, ts)
    | .blockSequence :: ts =>
      if blockAllowed then (blockItems? fuel ts).map fun (items, ts) => (.sequence items, ts)
      else none
    | .blockMapping :: ts =>
      if blockAllowed then (blockEntries? fuel ts).map fun (entries, ts) => (.mapping entries, ts)
      else none
    | _ => none

/-- The items up to the end of a block sequence. -/
def blockItems? : Nat → List Token → Option (List Node × List Token)
  | 0, _ => none
  | fuel + 1, ts =>
    match ts with
    | .item :: ts => do
      let (item, ts) ←
        if nextIs [.item, .blockEnd] ts then pure (.empty, ts) else node? fuel true ts
      let (items, ts) ← blockItems? fuel ts
      return (item :: items, ts)
    | .blockEnd :: ts => some ([], ts)
    | _ => none

/-- The items of a sequence in the column of the mapping around it, which has no end of its own. -/
def looseItems? : Nat → List Token → Option (List Node × List Token)
  | 0, _ => none
  | fuel + 1, ts =>
    match ts with
    | .item :: ts => do
      let (item, ts) ←
        if nextIs [.item, .key, .value, .blockEnd] ts then pure (.empty, ts) else node? fuel true ts
      let (items, ts) ← looseItems? fuel ts
      return (item :: items, ts)
    | ts => some ([], ts)

/-- The key or the value of an entry of a block mapping; there may be none. -/
def part? : Nat → List Token → Option (Node × List Token)
  | 0, _ => none
  | fuel + 1, ts =>
    if nextIs [.key, .value, .blockEnd] ts then some (.empty, ts)
    else if nextIs [.item] ts then (looseItems? fuel ts).map fun (items, ts) => (.sequence items, ts)
    else node? fuel true ts

/-- The entries up to the end of a block mapping. -/
def blockEntries? : Nat → List Token → Option (List (Node × Node) × List Token)
  | 0, _ => none
  | fuel + 1, ts =>
    match ts with
    | .key :: ts => do
      let (key, ts) ← part? fuel ts
      let (value, ts) ←
        match ts with
        | .value :: ts => part? fuel ts
        | ts => pure (.empty, ts)
      let (entries, ts) ← blockEntries? fuel ts
      return ((key, value) :: entries, ts)
    | .blockEnd :: ts => some ([], ts)
    | _ => none

/-- The value of an entry within a flow collection that the given token ends; there may be none. -/
def flowValue? : Nat → Token → List Token → Option (Node × List Token)
  | 0, _, _ => none
  | fuel + 1, last, ts =>
    match ts with
    | .value :: ts => if nextIs [.comma, last] ts then some (.empty, ts) else node? fuel false ts
    | ts => some (.empty, ts)

/-- The items up to the end of a flow sequence. An item may be a single entry of a mapping; where a
question mark has no key after it, the token after it counts as the key, whatever it is. -/
def flowItems? : Nat → List Token → Option (List Node × List Token)
  | 0, _ => none
  | fuel + 1, ts =>
    if nextIs [.flowSequenceEnd] ts then some ([], ts.drop 1)
    else do
      let (item, ts) ←
        match ts with
        | .key :: ts => do
          let (key, ts) ←
            if nextIs [.value, .comma, .flowSequenceEnd] ts then pure (.empty, ts.drop 1)
            else node? fuel false ts
          let (value, ts) ← flowValue? fuel .flowSequenceEnd ts
          pure (.mapping [(key, value)], ts)
        | ts => node? fuel false ts
      match ts with
      | .comma :: ts => do
        let (items, ts) ← flowItems? fuel ts
        return (item :: items, ts)
      | .flowSequenceEnd :: ts => return ([item], ts)
      | _ => none

/-- The entries up to the end of a flow mapping. A node may stand there without a value. -/
def flowEntries? : Nat → List Token → Option (List (Node × Node) × List Token)
  | 0, _ => none
  | fuel + 1, ts =>
    if nextIs [.flowMappingEnd] ts then some ([], ts.drop 1)
    else do
      let (entry, ts) ←
        match ts with
        | .key :: ts => do
          let (key, ts) ←
            if nextIs [.value, .comma, .flowMappingEnd] ts then pure (.empty, ts)
            else node? fuel false ts
          let (value, ts) ← flowValue? fuel .flowMappingEnd ts
          pure ((key, value), ts)
        | ts => (node? fuel false ts).map fun (key, ts) => ((key, .empty), ts)
      match ts with
      | .comma :: ts => do
        let (entries, ts) ← flowEntries? fuel ts
        return (entry :: entries, ts)
      | .flowMappingEnd :: ts => return ([entry], ts)
      | _ => none

end

/-! ### Documents -/

/-- The document that tokens make up, its absence being an answer too; none if they do not make up one,
or if anything but marks that end it follows. -/
def ofTokens? (ts : List Token) : Option (Option Node) := do
  let fuel := 2 * ts.length + 2
  let (document, ts) ←
    match ts with
    | [] => pure (none, [])
    | .documentStart :: ts =>
      if ts.isEmpty || nextIs [.documentStart, .documentEnd] ts then pure (some .empty, ts)
      else (node? fuel true ts).map fun (n, ts) => (some n, ts)
    | ts => (node? fuel true ts).map fun (n, ts) => (some n, ts)
  if ts.all (· = .documentEnd) then some document else none

/-- The document of a text, its absence being an answer too; none if the text is malformed or goes on
after its document. -/
def parse? (text : String) : Option (Option Node) := Layout.tokens? text >>= ofTokens?

end Document

end CosmacVip.Yaml
