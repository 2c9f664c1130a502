import CosmacVip.Yaml.Scalar.Reading
import CosmacVip.Yaml.Token

/-!
From a text to its tokens.

* `Layout`: the collections that are open at a place, and the tokens before it;
* `Layout.saveCandidate?`, `Layout.value?`: a key is known for one only by the colon after it, so the
  tokens where one may begin are kept in mind until a colon shows that it did;
* `Layout.openBlock`, `Layout.closeBlocks`: block collections by their columns;
* `Layout.tokens?`: all tokens of a text.

Anchors, tags, directives and block scalars are refused.
-/

namespace CosmacVip.Yaml

/-- A place where a key may have begun. -/
structure Candidate where
  offset : Nat
  line : Nat
  column : Nat
  /-- The number of tokens before it. -/
  index : Nat
  /-- Whether only a key can stand there: it is where the keys of the block around it begin. -/
  isRequired : Bool

/-- How many bytes a key has at most. -/
def keyLimit : Nat := 1024

/-- Whether a colon at a place comes too late for the key: in another line, or too far off. -/
def Candidate.isPast (k : Candidate) (c : Cursor) : Bool :=
  k.line < c.line || k.offset + keyLimit < c.offset

/-- The state of reading at a place. -/
structure Layout where
  /-- The columns of the open block collections, the innermost first. -/
  blocks : List Nat := []
  /-- Where a key may have begun in the innermost collection. -/
  candidate : Option Candidate := none
  /-- For each open flow collection, where a key may have begun in the collection around it. -/
  outer : List (Option Candidate) := []
  /-- Whether a key may begin with the next token. -/
  keyAllowed : Bool := true
  tokens : Array Token := #[]

namespace Layout

/-- Whether a flow collection is open. -/
def inFlow (s : Layout) : Bool := !s.outer.isEmpty

/-- The least column of what belongs to the innermost block. -/
def margin (s : Layout) : Nat :=
  match s.blocks with
  | [] => 0
  | column :: _ => column + 1

/-- One token more. -/
def push (s : Layout) (t : Token) : Layout := { s with tokens := s.tokens.push t }

/-! ### Blocks -/

/-- Opens a block collection in a column, before the token with the given index, unless the innermost
block begins there or further in. -/
def openBlock (s : Layout) (column index : Nat) (t : Token) : Layout :=
  if !s.inFlow && s.margin ≤ column then
    { s with blocks := column :: s.blocks, tokens := s.tokens.insertIdxIfInBounds index t }
  else s

/-- Closes the block collections whose columns are `margin` or more. -/
def closeBlocks (s : Layout) (margin : Nat) : Layout :=
  if s.inFlow then s
  else
    let closed := s.blocks.takeWhile (margin ≤ ·)
    { s with
      blocks := s.blocks.drop closed.length
      tokens := s.tokens ++ Array.replicate closed.length .blockEnd }

/-! ### Keys -/

/-- Gives up that a key may have begun; none if only a key can stand there. -/
def dropCandidate? (s : Layout) : Option Layout :=
  if s.candidate.any (·.isRequired) then none else some { s with candidate := none }

/-- Notes that a key may begin at a place, if it may. -/
def saveCandidate? (s : Layout) (c : Cursor) : Option Layout :=
  if !s.keyAllowed then some s
  else
    s.dropCandidate?.map fun s =>
      { s with candidate := some {
          offset := c.offset, line := c.line, column := c.column, index := s.tokens.size
          isRequired := !s.inFlow && s.blocks.head? = some c.column } }

/-- Gives up all keys for which a colon at a place comes too late; none if one of them is required. -/
def expireCandidates? (s : Layout) (c : Cursor) : Option Layout :=
  let isDue : Option Candidate → Bool := (·.any fun k => k.isPast c && k.isRequired)
  let keep : Option Candidate → Option Candidate := (·.filter fun k => !k.isPast c)
  if isDue s.candidate || s.outer.any isDue then none
  else some { s with candidate := keep s.candidate, outer := s.outer.map keep }

/-! ### Tokens -/

/-- Begins or ends a document. -/
def document? (s : Layout) (t : Token) (c : Cursor) : Option (Layout × Cursor) := do
  let s ← (s.closeBlocks 0).dropCandidate?
  return ({ s with keyAllowed := false }.push t, c.advance 3)

/-- Opens a flow collection. It may be a key itself, and its first part may be one. -/
def openFlow? (s : Layout) (t : Token) (c : Cursor) : Option (Layout × Cursor) := do
  let s ← s.saveCandidate? c
  return ({ s with outer := s.candidate :: s.outer, candidate := none, keyAllowed := true }.push t,
    c.advance 1)

/-- Closes a flow collection. -/
def closeFlow? (s : Layout) (t : Token) (c : Cursor) : Option (Layout × Cursor) := do
  let s ← s.dropCandidate?
  let s :=
    match s.outer with
    | [] => s
    | k :: outer => { s with candidate := k, outer := outer }
  return ({ s with keyAllowed := false }.push t, c.advance 1)

/-- Goes on to the next part of a flow collection. -/
def comma? (s : Layout) (c : Cursor) : Option (Layout × Cursor) := do
  let s ← s.dropCandidate?
  return ({ s with keyAllowed := true }.push .comma, c.advance 1)

/-- Begins an item of a sequence, and the sequence if it is the first. -/
def item? (s : Layout) (c : Cursor) : Option (Layout × Cursor) := do
  if !s.inFlow && !s.keyAllowed then none
  let s ← (s.openBlock c.column s.tokens.size .blockSequence).dropCandidate?
  return ({ s with keyAllowed := true }.push .item, c.advance 1)

/-- Begins a key that may be any node, and the mapping if it is the first. -/
def key? (s : Layout) (c : Cursor) : Option (Layout × Cursor) := do
  if !s.inFlow && !s.keyAllowed then none
  let s ← (s.openBlock c.column s.tokens.size .blockMapping).dropCandidate?
  return ({ s with keyAllowed := !s.inFlow }.push .key, c.advance 1)

/-- Begins a value. If a key may have begun it did, and with the first key of a block its mapping did. -/
def value? (s : Layout) (c : Cursor) : Option (Layout × Cursor) :=
  match s.candidate with
  | some k =>
    let s := { s with tokens := s.tokens.insertIdxIfInBounds k.index .key, candidate := none }
    let s := s.openBlock k.column k.index .blockMapping
    some ({ s with keyAllowed := false }.push .value, c.advance 1)
  | none =>
    if !s.inFlow && !s.keyAllowed then none
    else
      let s := s.openBlock c.column s.tokens.size .blockMapping
      some ({ s with keyAllowed := !s.inFlow }.push .value, c.advance 1)

/-- Reads a scalar in quotes. -/
def quoted? (s : Layout) (quote : Char) (c : Cursor) : Option (Layout × Cursor) := do
  let s ← s.saveCandidate? c
  let (scalar, c) ← Scalar.quoted? quote c
  return ({ s with keyAllowed := false }.push (.scalar scalar), c)

/-- Reads a scalar without quotes. If its last line is over, a key may follow. -/
def plain? (s : Layout) (c : Cursor) : Option (Layout × Cursor) := do
  let s ← s.saveCandidate? c
  let (scalar, lineEnded, c) ← Scalar.plain? s.inFlow s.margin c
  return ({ s with keyAllowed := lineEnded }.push (.scalar scalar), c)

/-- Reads the token at a place. -/
def token? (s : Layout) (c : Cursor) : Option (Layout × Cursor) :=
  if c.atMarker '-' then s.document? .documentStart c
  else if c.atMarker '.' then s.document? .documentEnd c
  else
    match c.rest with
    | [] => none
    | d :: rest =>
      let isMark := s.inFlow || Cursor.endsWord rest
      match d with
      | '[' => s.openFlow? .flowSequence c
      | '\x7b' => s.openFlow? .flowMapping c
      | ']' => s.closeFlow? .flowSequenceEnd c
      | '\x7d' => s.closeFlow? .flowMappingEnd c
      | ',' => s.comma? c
      | '\'' => s.quoted? '\'' c
      | '"' => s.quoted? '"' c
      | '-' => if Cursor.endsWord rest then s.item? c else s.plain? c
      | '?' => if isMark then s.key? c else s.plain? c
      | ':' => if isMark then s.value? c else s.plain? c
      | _ => if Scalar.startsPlain d then s.plain? c else none

/-- The tokens of the text from a place on, after those before it. -/
def run? : Nat → Layout → Cursor → Option (Array Token)
  | 0, _, _ => none
  | fuel + 1, s, c => do
    let (keyAllowed, c) := c.toToken s.inFlow s.keyAllowed
    let s ← { s with keyAllowed := keyAllowed }.expireCandidates? c
    let s := s.closeBlocks (c.column + 1)
    if c.rest.isEmpty then return (← (s.closeBlocks 0).dropCandidate?).tokens
    let (s, c) ← s.token? c
    run? fuel s c

/-- The tokens of a text, if all of it can be read. -/
def tokens? (text : String) : Option (List Token) := do
  let c ← Cursor.ofText? text
  return (← run? (c.rest.length + 1) {} c).toList

end Layout

end CosmacVip.Yaml
