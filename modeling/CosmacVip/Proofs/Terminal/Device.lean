import Mathlib.Data.Nat.Basic
import Mathlib.Logic.Function.Basic
import CosmacVip.Terminal.Screen

/-!
A text terminal, and what the page of a screen does to it.

* `Device`: rows of cells, a cursor, and what was read of a control sequence;
* `Device.read`, `Device.feed`: the terminal after a character and after a text;
* `feed_cursorTo`, `feed_clearLine`, `feed_of_printable`: the effect of each text that a page is made of;
* `feed_page`: the effect of a page on every row.

The terminal takes the characters of a text one by one, whatever encoding carried them. A printable one takes
one cell; one that follows the last column goes to the next row, so texts are assumed to fit their row below.
-/

namespace CosmacVip.Terminal

/-- The characters of a row by column; a blank cell has none. -/
abbrev Row : Type := Nat → Option Char

namespace Row

/-- A row of blank cells. -/
def blank : Row := fun _ => none

/-- The row with a character in a column. -/
def put (r : Row) (col : Nat) (c : Char) : Row := Function.update r col (some c)

/-- The row after characters were written to it from a column on. -/
def write (r : Row) (col : Nat) (text : List Char) : Row :=
  fun x => if x < col then r x else text[x - col]?.or (r x)

/-- A row that begins with a text. -/
def Begins (r : Row) (text : String) : Prop := ∀ x c, text.toList[x]? = some c → r x = some c

/-- A row that holds a text and nothing else. -/
def Reads (r : Row) (text : String) : Prop := ∀ x, r x = text.toList[x]?

@[simp] lemma write_nil (r : Row) (col : Nat) : r.write col [] = r := by
  funext x
  simp [write]

lemma write_cons (r : Row) (col : Nat) (c : Char) (text : List Char) :
    r.write col (c :: text) = (r.put col c).write (col + 1) text := by
  funext x
  rcases Nat.lt_trichotomy x col with h | rfl | h
  · simp [write, put, h, Nat.lt_succ_of_lt h, Nat.ne_of_lt h]
  · simp [write, put]
  · have hx : x - col = x - (col + 1) + 1 := by omega
    simp [write, put, Nat.not_lt_of_lt h, Nat.not_lt.2 h, Nat.ne_of_gt h, hx]

lemma begins_write (r : Row) (text : String) : (r.write 0 text.toList).Begins text := by
  intro x c h
  simp [write, h]

lemma reads_write_blank (text : String) : (blank.write 0 text.toList).Reads text := by
  intro x
  simp [write, blank]

end Row

/-- What a terminal has read of a control sequence: nothing, its first character, or all up to a number,
with the numbers before. -/
inductive Reading
  | text
  | escape
  | control (before : List Nat) (last : Nat)

/-- Whether a character controls the terminal and is not printed. -/
def isControl (c : Char) : Bool := c.toNat < 0x20 || (0x7F ≤ c.toNat && c.toNat < 0xA0)

/-- A text that is printed in one row of a number of columns. -/
structure FitsRow (cols : Nat) (text : String) : Prop where
  printable : ∀ c ∈ text.toList, isControl c = false
  short : text.length ≤ cols

instance (cols : Nat) (text : String) : Decidable (FitsRow cols text) :=
  decidable_of_iff (text.toList.all (fun c => !isControl c) ∧ text.length ≤ cols)
    ⟨fun h => ⟨by simpa using h.1, h.2⟩, fun h => ⟨by simpa using h.printable, h.short⟩⟩

/-- A terminal of fixed size. -/
structure Device (rows cols : Nat) where
  cells : Nat → Row
  /-- The row of the cursor. -/
  row : Nat
  /-- The column of the cursor; there is none left after the last one. -/
  col : Nat
  reading : Reading

namespace Device

variable {rows cols : Nat}

/-- Goes to the next row; in the last one, all rows move up. -/
def lineFeed (t : Device rows cols) : Device rows cols :=
  if t.row + 1 < rows then { t with row := t.row + 1 }
  else { t with cells := fun y => if y + 1 < rows then t.cells (y + 1) else .blank }

/-- The terminal with another row in the place of that of the cursor. -/
def withRow (t : Device rows cols) (r : Row) : Device rows cols :=
  { t with cells := Function.update t.cells t.row r }

@[simp] lemma withRow_row (t : Device rows cols) (r : Row) : (t.withRow r).row = t.row := rfl

@[simp] lemma withRow_col (t : Device rows cols) (r : Row) : (t.withRow r).col = t.col := rfl

@[simp] lemma withRow_reading (t : Device rows cols) (r : Row) : (t.withRow r).reading = t.reading := rfl

/-- Prints a character in the column of the cursor, or in the first one of the next row if no column is
left. -/
def print (t : Device rows cols) (c : Char) : Device rows cols :=
  let t := if t.col < cols then t else { t.lineFeed with col := 0 }
  { t.withRow ((t.cells t.row).put t.col c) with col := t.col + 1 }

/-- Moves the cursor, at most to the last row and column. -/
def moveTo (t : Device rows cols) (row col : Nat) : Device rows cols :=
  { t with row := min row (rows - 1), col := min col (cols - 1) }

/-- Whether erasing in the row of the cursor reaches a column: from the cursor on, up to it, or all. -/
def erases (t : Device rows cols) : (mode x : Nat) → Bool
  | 0, x => t.col ≤ x
  | 1, x => x ≤ t.col
  | 2, _ => true
  | _, _ => false

/-- Erases in the row of the cursor. -/
def erase (t : Device rows cols) (mode : Nat) : Device rows cols :=
  t.withRow fun x => if t.erases mode x then none else t.cells t.row x

/-- Obeys a control sequence with its numbers; rows and columns count from one there, and what is left out
is zero. -/
def obey (t : Device rows cols) (numbers : List Nat) : Char → Device rows cols
  | 'H' => t.moveTo (numbers.getD 0 0 - 1) (numbers.getD 1 0 - 1)
  | 'K' => t.erase (numbers.getD 0 0)
  | _ => t

/-- The terminal after the next character. -/
def read (t : Device rows cols) (c : Char) : Device rows cols :=
  match t.reading with
  | .text =>
    if c = '\x1b' then { t with reading := .escape }
    else if c = '\r' then { t with col := 0 }
    else if c = '\n' then t.lineFeed
    else if isControl c then t
    else t.print c
  | .escape => { t with reading := if c = '[' then .control [] 0 else .text }
  | .control before last =>
    if c.isDigit then { t with reading := .control before (10 * last + (c.toNat - '0'.toNat)) }
    else if c = ';' then { t with reading := .control (before ++ [last]) 0 }
    else if '@' ≤ c ∧ c ≤ '~' then { t.obey (before ++ [last]) c with reading := .text }
    else t

/-- The terminal after a text. -/
def feed (t : Device rows cols) (text : String) : Device rows cols := text.toList.foldl read t

@[simp] lemma feed_empty (t : Device rows cols) : t.feed "" = t := rfl

lemma feed_append (t : Device rows cols) (a b : String) : t.feed (a ++ b) = (t.feed a).feed b := by
  simp [feed]

/-! ### Texts -/

variable {t : Device rows cols}

/-- Digits are read as the number they write. -/
lemma foldl_read_digits {digits : List Char} (h : ∀ c ∈ digits, c.isDigit) {before : List Nat} {last : Nat}
    (ht : t.reading = .control before last) :
    digits.foldl read t = { t with reading := .control before (Nat.ofDigitChars 10 digits last) } := by
  induction digits generalizing t last with
  | nil => simp [← ht, Nat.ofDigitChars]
  | cons c digits ih =>
      have hread : t.read c = { t with reading := .control before (10 * last + (c.toNat - '0'.toNat)) } := by
        simp [read, ht, h c (by simp)]
      rw [List.foldl_cons, ih (fun d hd => h d (by simp [hd])) (by rw [hread]), hread]
      rfl

/-- A control sequence that opens with a number: what follows it finds the number read. -/
lemma feed_number (ht : t.reading = .text) (n : Nat) (rest : String) :
    t.feed ("\x1b[" ++ n.repr ++ rest) = { t with reading := .control [] n }.feed rest := by
  have hopen : t.feed "\x1b[" = { t with reading := .control [] 0 } := by
    show (t.read '\x1b').read '[' = _
    simp [read, ht]
  have hnumber : (t.feed "\x1b[").feed n.repr = { t with reading := .control [] n } := by
    rw [hopen, feed, Nat.toList_repr, foldl_read_digits (fun c => Nat.isDigit_of_mem_toDigits (by decide)
      (by decide)) rfl, Nat.ofDigitChars_ten_toDigits]
  rw [feed_append, feed_append, hnumber]

lemma feed_cursorTo (ht : t.reading = .text) {y : Nat} (hy : y < rows) (h : y < 65535) :
    t.feed (cursorTo y) = { t with row := y, col := 0 } := by
  have hmod : y % 65536 = y := Nat.mod_eq_of_lt (by omega)
  have hmin : min y (rows - 1) = y := Nat.min_eq_left (by omega)
  rw [cursorTo, hmod, feed_number ht]
  show ((({ t with reading := .control [] (y + 1) } : Device rows cols).read ';').read '1').read 'H' = _
  simp [read, obey, moveTo, hmin, ← ht]

lemma feed_clearLine (ht : t.reading = .text) : t.feed clearLine = t.withRow .blank := by
  have htext : clearLine = "\x1b[" ++ (2).repr ++ "K" := by decide
  rw [htext, feed_number ht]
  show ({ t with reading := .control [] 2 } : Device rows cols).read 'K' = t.withRow fun _ => none
  simp [read, obey, erase, erases, withRow, ← ht]

/-- A printable character is written in the column of the cursor if there is one. -/
lemma read_of_printable (ht : t.reading = .text) {c : Char} (hc : isControl c = false) (hroom : t.col < cols) :
    t.read c = { t.withRow ((t.cells t.row).put t.col c) with col := t.col + 1 } := by
  have hne : c ≠ '\x1b' ∧ c ≠ '\r' ∧ c ≠ '\n' := by
    refine ⟨?_, ?_, ?_⟩ <;> rintro rfl <;> contradiction
  simp [read, ht, hne, hc, print, hroom]

/-- A text without control characters is written from the cursor on if the row has room for it. -/
lemma feed_of_printable (ht : t.reading = .text) {text : String}
    (h : ∀ c ∈ text.toList, isControl c = false) (hroom : t.col + text.length ≤ cols) :
    t.feed text =
      { t.withRow ((t.cells t.row).write t.col text.toList) with col := t.col + text.length } := by
  rw [← String.length_toList] at hroom ⊢
  rw [feed]
  generalize text.toList = chars at h hroom
  -- The cursor moves on with each character, so the terminal varies in the induction.
  induction chars generalizing t with
  | nil => simp [withRow]
  | cons c chars ih =>
      rw [List.length_cons] at hroom
      have hroom' : t.col + 1 + chars.length ≤ cols := by omega
      rw [List.foldl_cons, read_of_printable ht (h c (by simp)) (by omega),
        ih (by exact ht) (fun d hd => h d (by simp [hd])) (by exact hroom')]
      simp [withRow, Row.write_cons, Nat.add_assoc, Nat.add_comm 1]

/-! ### Pages -/

/-- A line that begins a row: the rest of the row and all other rows stay. -/
lemma feed_line (ht : t.reading = .text) {y : Nat} (hy : y < rows) (h : y < 65535) {line : String}
    (hline : FitsRow cols line) :
    (t.feed (cursorTo y ++ line)).reading = .text ∧
      (t.feed (cursorTo y ++ line)).cells =
        Function.update t.cells y ((t.cells y).write 0 line.toList) := by
  rw [feed_append, feed_cursorTo ht hy h,
    feed_of_printable (by exact ht) hline.printable (by simpa using hline.short)]
  exact ⟨ht, rfl⟩

/-- Lines in consecutive rows, each from the first column on. -/
lemma feed_lines (ht : t.reading = .text) {lines : List String} {n : Nat}
    (hrows : n + lines.length ≤ rows) (h : n + lines.length ≤ 65535)
    (hlines : ∀ line ∈ lines, FitsRow cols line) :
    let t' := t.feed (String.join ((lines.zipIdx n).map fun (line, y) => cursorTo y ++ line))
    t'.reading = .text ∧
      ∀ y, t'.cells y =
        if n ≤ y then (t.cells y).write 0 (lines.getD (y - n) "").toList else t.cells y := by
  induction lines generalizing t n with
  | nil => simp [ht]
  | cons line lines ih =>
      rw [List.length_cons] at hrows h
      obtain ⟨hline, hlines⟩ := List.forall_mem_cons.1 hlines
      obtain ⟨hread, hcells⟩ := feed_line ht (y := n) (by omega) (by omega) hline
      obtain ⟨hread', hcells'⟩ := ih hread (n := n + 1) (by omega) (by omega) hlines
      rw [List.zipIdx_cons, List.map_cons, String.join_cons, feed_append]
      refine ⟨hread', fun y => ?_⟩
      rw [hcells', hcells]
      rcases Nat.lt_trichotomy y n with hy | rfl | hy
      · simp [Nat.not_le_of_lt hy, Nat.not_le_of_lt (Nat.lt_succ_of_lt hy), Nat.ne_of_lt hy]
      · rw [if_neg (Nat.not_succ_le_self y), if_pos (Nat.le_refl y), Function.update_self, Nat.sub_self]
        rfl
      · have hsub : y - n = y - (n + 1) + 1 := by omega
        have hle : n + 1 ≤ y := hy
        simp [Nat.le_of_lt hy, hle, Nat.ne_of_gt hy, hsub]

/-- A page: each line is written over the beginning of its row, and the row after them holds the status and
nothing else. -/
theorem feed_page (ht : t.reading = .text) {lines : List String} (hrows : lines.length < rows)
    (h : lines.length < 65535) (hlines : ∀ line ∈ lines, FitsRow cols line) {status : String}
    (hstatus : FitsRow cols status) :
    (t.feed (Screen.page lines status)).reading = .text ∧
      ∀ y, (t.feed (Screen.page lines status)).cells y =
        if y = lines.length then Row.blank.write 0 status.toList
        else (t.cells y).write 0 (lines.getD y "").toList := by
  have hhome := feed_cursorTo ht (y := 0) (by omega) (by omega)
  have hread₀ : (t.feed (cursorTo 0)).reading = .text := by rw [hhome, ht]
  obtain ⟨hread, hcells⟩ := feed_lines hread₀ (n := 0) (by omega) (by omega) hlines
  simp only [Screen.page, feed_append]
  generalize (t.feed (cursorTo 0)).feed _ = shown at hread hcells
  rw [feed_cursorTo hread hrows h, feed_clearLine (by exact hread),
    feed_of_printable (by exact hread) hstatus.printable (by simpa using hstatus.short)]
  refine ⟨hread, fun y => ?_⟩
  rcases eq_or_ne y lines.length with rfl | hy
  · simp [withRow]
  · simp [withRow, hy, hcells, hhome]

end Device

end CosmacVip.Terminal
