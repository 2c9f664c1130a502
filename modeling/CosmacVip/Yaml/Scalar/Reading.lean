import CosmacVip.Yaml.Cursor
import CosmacVip.Yaml.Scalar

/-!
Reading scalars.

* `Scalar.folded`: what the blank space between two words counts as;
* `Scalar.plain?`: words without quotes, up to a colon, a comment or a line that is not indented enough;
* `Scalar.quoted?`: words between single or double quotes.
-/

namespace CosmacVip.Yaml

namespace Scalar

open Cursor (isBreak isGap endsWord)

/-- What blank space between two words counts as: blanks within a line as they are, one line feed as a
space, and more line ends without the first if that is a line feed. -/
def folded (gap : List Char) : List Char :=
  match gap.filter isBreak with
  | [] => gap
  | ['\n'] => [' ']
  | '\n' :: more => more
  | breaks => breaks

/-! ### Plain scalars -/

/-- Whether a character separates the parts of a flow collection. -/
def isFlowMark (c : Char) : Bool := ",[]\x7b\x7d".contains c

/-- The characters that have a meaning of their own at the start of a token. -/
def indicators : List Char := ",[]\x7b\x7d#&*!|>'\"%@\x60".toList

/-- Whether a plain scalar can begin with a character that is no dash, question mark or colon with a
meaning of its own. -/
def startsPlain (c : Char) : Bool := !isGap c && !indicators.contains c

/-- Whether a colon stands before a mark of the flow collection around it. -/
def isMarkedColon (inFlow : Bool) : List Char → Bool
  | ':' :: c :: _ => inFlow && (isFlowMark c || c = '?')
  | _ => false

/-- Whether a word of a plain scalar is over before a text. -/
def stopsWord (inFlow : Bool) (text : List Char) : Bool :=
  match text with
  | [] => true
  | ':' :: rest => endsWord rest || isMarkedColon inFlow text
  | c :: _ => isGap c || (inFlow && isFlowMark c)

/-- The word at the start of a text. -/
def word (inFlow : Bool) : List Char → List Char
  | [] => []
  | c :: rest => if stopsWord inFlow (c :: rest) then [] else c :: word inFlow rest

/-- Whether blank space has a tab among the first `margin` columns of a line that begins in it. The
column of its first character is given, and does not count. -/
def indentsByTab (margin : Nat) : Nat → List Char → Bool
  | _, [] => false
  | column, c :: gap =>
    if isBreak c then indentsByTab margin 0 gap
    else (c = '\t' && column < margin) || indentsByTab margin (column + 1) gap

/-- Less is left after blank space in a scalar. -/
theorem length_rest_gap_lt (c : Cursor) (k : Nat) {d : Char} {gap : List Char}
    (h : (c.advance k).rest.takeWhile isGap = d :: gap) :
    ((c.advance k).advance (d :: gap).length).rest.length < c.rest.length := by
  cases hrest : (c.advance k).rest with
  | nil =>
    rw [hrest] at h
    cases h
  | cons e rest =>
    exact Nat.lt_of_lt_of_le (Cursor.length_rest_advance_lt hrest gap.length) (by simp)

/-- The plain scalar whose text so far is given, with the blank space after that; see `plain?`. -/
def plainFrom? (inFlow : Bool) (margin : Nat) (text : String) (gap : List Char) (c : Cursor) :
    Option (Scalar × Bool × Cursor) :=
  let w := if c.atDocumentMarker || c.rest.head? = some '#' then [] else word inFlow c.rest
  let next := c.advance w.length
  if isMarkedColon inFlow next.rest then none
  else if w.isEmpty then some (⟨text, false⟩, gap.any isBreak, c)
  else
    let text := text ++ String.ofList (folded gap ++ w)
    match h : next.rest.takeWhile isGap with
    | [] => some (⟨text, false⟩, false, next)
    | d :: gap =>
      let gap := d :: gap
      let further := next.advance gap.length
      if indentsByTab margin margin gap then none
      else if !inFlow && further.column < margin then
        some (⟨text, false⟩, gap.any isBreak, further)
      else
        have := length_rest_gap_lt c w.length h
        plainFrom? inFlow margin text gap further
termination_by c.rest.length
decreasing_by assumption

/-- The plain scalar at a place, whether a line ended after its last word, and the place after it. Its
further lines begin in column `margin` at least, unless a flow collection is around it. None if tabs
indent one of them, or if a word ends with a colon before a mark. -/
def plain? (inFlow : Bool) (margin : Nat) (c : Cursor) : Option (Scalar × Bool × Cursor) :=
  plainFrom? inFlow margin "" [] c

/-! ### Quoted scalars -/

/-- The character that a letter after a backslash stands for. -/
def named? : Char → Option Char
  | '0' => some '\x00'
  | 'a' => some '\x07'
  | 'b' => some '\x08'
  | 't' => some '\t'
  | '\t' => some '\t'
  | 'n' => some '\n'
  | 'v' => some '\x0b'
  | 'f' => some '\x0c'
  | 'r' => some '\r'
  | 'e' => some '\x1b'
  | ' ' => some ' '
  | '"' => some '"'
  | '/' => some '/'
  | '\\' => some '\\'
  | 'N' => some '\u0085'
  | '_' => some '\u00a0'
  | 'L' => some '\u2028'
  | 'P' => some '\u2029'
  | _ => none

/-- How many hexadecimal digits follow a letter after a backslash that announces them. -/
def codeLength? : Char → Option Nat
  | 'x' => some 2
  | 'u' => some 4
  | 'U' => some 8
  | _ => none

/-- The character whose code a number of hexadecimal digits give. -/
def coded? (length : Nat) (text : List Char) : Option Char := do
  let code := text.take length
  if code.length < length then none
  let n ← digits? 16 code
  if n.isValidChar then return Char.ofNat n else none

/-- What the text after a backslash stands for, and how long that text is. A line end and the blank
space after it stand for the further line ends in that space. -/
def escape? : List Char → Option (List Char × Nat)
  | [] => none
  | c :: rest =>
    if isBreak c then
      let gap := rest.takeWhile isGap
      some (gap.filter isBreak, gap.length + 1)
    else
      match codeLength? c with
      | some length => (coded? length rest).map fun d => ([d], length + 1)
      | none => (named? c).map fun d => ([d], 1)

/-- The quoted scalar whose text so far is given, up to the closing quote, and the place after that. -/
def quotedFrom? (quote : Char) (text : String) (c : Cursor) : Option (Scalar × Cursor) :=
  if c.atDocumentMarker then none
  else
    match h : c.rest with
    | [] => none
    | d :: rest =>
      have shorter := Cursor.length_rest_advance_lt h
      if isGap d then
        let gap := rest.takeWhile isGap
        have := shorter gap.length
        quotedFrom? quote (text ++ String.ofList (folded (d :: gap))) (c.advance (gap.length + 1))
      else if d = quote then
        if quote = '\'' && rest.head? = some quote then
          have := shorter 1
          quotedFrom? quote (text.push quote) (c.advance 2)
        else some (⟨text, true⟩, c.advance 1)
      else if quote = '"' && d = '\\' then
        match escape? rest with
        | some (piece, length) =>
          have := shorter length
          quotedFrom? quote (text ++ String.ofList piece) (c.advance (length + 1))
        | none => none
      else
        have := shorter 0
        quotedFrom? quote (text.push d) (c.advance 1)
termination_by c.rest.length
decreasing_by all_goals assumption

/-- The quoted scalar whose opening quote stands at a place, and the place after it. -/
def quoted? (quote : Char) (c : Cursor) : Option (Scalar × Cursor) :=
  quotedFrom? quote "" (c.advance 1)

end Scalar

end CosmacVip.Yaml
