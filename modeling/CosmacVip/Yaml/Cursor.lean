/-!
A place in a text: the characters from there on, and how far from the start the first of them is.

* `Cursor.ofText?`: the start of a text, with one character for each kind of line end;
* `Cursor.advance`: the place some characters further on, perhaps in a later line;
* `Cursor.toToken`: over blank space, comments and line ends to the next thing that counts;
* `Cursor.atMarker`: where a document begins or ends.
-/

namespace CosmacVip.Yaml

/-- The rest of a text, with the place where it starts. -/
structure Cursor where
  /-- The number of bytes before it. -/
  offset : Nat
  line : Nat
  /-- The number of characters before it in its line. -/
  column : Nat
  rest : List Char

namespace Cursor

/-! ### Characters -/

/-- Whether a character is blank: a space or a tab. -/
def isBlank (c : Char) : Bool := c = ' ' || c = '\t'

/-- Whether a character ends a line. -/
def isBreak (c : Char) : Bool := c = '\n' || c = '\u2028' || c = '\u2029'

/-- Whether a character can stand between words: a blank or a line end. -/
def isGap (c : Char) : Bool := isBlank c || isBreak c

/-- Whether no word goes on with a text. -/
def endsWord : List Char → Bool
  | [] => true
  | c :: _ => isGap c

/-- Whether a character may stand in a text. -/
def isAllowed (c : Char) : Bool :=
  let n := c.toNat
  c = '\t' || c = '\n' || c = '\r' || (0x20 ≤ n && n ≤ 0x7E) || n = 0x85
    || (0xA0 ≤ n && n ≠ 0xFFFE && n ≠ 0xFFFF)

/-- A text with a line feed for each line end; only the separators of lines and of paragraphs stay. -/
def unifyBreaks : List Char → List Char
  | '\r' :: '\n' :: rest => '\n' :: unifyBreaks rest
  | c :: rest => (if c = '\r' ∨ c = '\u0085' then '\n' else c) :: unifyBreaks rest
  | [] => []

/-! ### Places -/

/-- The start of a text, if all its characters are allowed. -/
def ofText? (text : String) : Option Cursor :=
  if text.toList.all isAllowed then some ⟨0, 0, 0, unifyBreaks text.toList⟩ else none

/-- The place a number of characters further on, at most at the end. -/
def advance : Nat → Cursor → Cursor
  | 0, c => c
  | k + 1, c =>
    match c.rest with
    | [] => c
    | d :: rest =>
      let offset := c.offset + d.utf8Size
      advance k <|
        if isBreak d then ⟨offset, c.line + 1, 0, rest⟩ else ⟨offset, c.line, c.column + 1, rest⟩

/-- Going on leaves out as many characters. -/
@[simp] theorem rest_advance (k : Nat) (c : Cursor) : (c.advance k).rest = c.rest.drop k := by
  induction k generalizing c with
  | zero => rfl
  | succ k ih =>
    unfold advance
    split
    · simp [*]
    · rw [ih]
      split <;> simp [*]

/-- Less is left after a character. -/
theorem length_rest_advance_lt {c : Cursor} {d : Char} {rest : List Char} (h : c.rest = d :: rest)
    (k : Nat) : (c.advance (k + 1)).rest.length < c.rest.length := by
  simp only [rest_advance, h, List.length_drop, List.length_cons]
  omega

/-- The place after the characters that satisfy a condition. -/
def skipWhile (p : Char → Bool) (c : Cursor) : Cursor :=
  c.advance (c.rest.takeWhile p).length

/-- No more is left after skipped characters. -/
theorem length_rest_skipWhile_le (p : Char → Bool) (c : Cursor) :
    (c.skipWhile p).rest.length ≤ c.rest.length := by
  simp [skipWhile]

/-- The place after a comment, if there is one: at the end of its line. -/
def skipComment (c : Cursor) : Cursor :=
  match c.rest with
  | '#' :: _ => c.skipWhile (!isBreak ·)
  | _ => c

/-- No more is left after a comment. -/
theorem length_rest_skipComment_le (c : Cursor) : c.skipComment.rest.length ≤ c.rest.length := by
  unfold skipComment
  split
  · exact c.length_rest_skipWhile_le _
  · exact Nat.le_refl _

/-- The place after a byte order mark, if a line begins with one. The mark takes up a column. -/
def skipOrderMark (c : Cursor) : Cursor :=
  if c.column = 0 ∧ c.rest.head? = some '\uFEFF' then c.advance 1 else c

/-- No more is left after a byte order mark. -/
theorem length_rest_skipOrderMark_le (c : Cursor) :
    c.skipOrderMark.rest.length ≤ c.rest.length := by
  unfold skipOrderMark
  split
  · simp
  · exact Nat.le_refl _

/-- The place after a byte order mark, spaces and a comment, and after tabs too if they count as blank
space. -/
def skipBlank (tabs : Bool) (c : Cursor) : Cursor :=
  (c.skipOrderMark.skipWhile fun d => d = ' ' || (tabs && d = '\t')).skipComment

/-- No more is left after blank space. -/
theorem length_rest_skipBlank_le (tabs : Bool) (c : Cursor) :
    (c.skipBlank tabs).rest.length ≤ c.rest.length :=
  Nat.le_trans (length_rest_skipComment_le _) <|
    Nat.le_trans (length_rest_skipWhile_le _ _) c.length_rest_skipOrderMark_le

/-- The next character that is neither blank space nor part of a comment, and whether a key may begin
there. Outside flow collections a key may begin in a new line, and where one may begin a tab is no
blank space. -/
def toToken (inFlow keyAllowed : Bool) (c : Cursor) : Bool × Cursor :=
  let next := c.skipBlank (inFlow || !keyAllowed)
  match h : next.rest with
  | [] => (keyAllowed, next)
  | d :: _ =>
    if isBreak d then
      have := Nat.lt_of_lt_of_le (length_rest_advance_lt h 0) (c.length_rest_skipBlank_le _)
      toToken inFlow (keyAllowed || !inFlow) (next.advance 1)
    else (keyAllowed, next)
termination_by c.rest.length
decreasing_by assumption

/-- Whether three of the given character stand alone at the start of a line. -/
def atMarker (mark : Char) (c : Cursor) : Bool :=
  c.column = 0 && c.rest.take 3 = [mark, mark, mark] && endsWord (c.rest.drop 3)

/-- Whether a document begins or ends at a place. -/
def atDocumentMarker (c : Cursor) : Bool := c.atMarker '-' || c.atMarker '.'

end Cursor

end CosmacVip.Yaml
