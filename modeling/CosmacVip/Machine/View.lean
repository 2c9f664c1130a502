import CosmacVip.Machine.State
import CosmacVip.Text.Hex

/-!
Text views of a machine, for people.

* `Machine.listing`: the program memory, two bytes a line;
* `Machine.picture`: the display, one character a cell;
* `Machine.pressedText`: the keys that are down.
-/

namespace CosmacVip.Machine

variable {size : Display.Size}

/-- The even distances from the program's start that lie below both `count` and the end of memory. -/
def listedOffsets (count : Nat) : List Nat :=
  (List.range ((min count Memory.programCapacity + 1) / 2)).map (2 * ·)

/-- A line of the listing: an address and the two bytes there. -/
def listingLine (m : Machine size) (k : Nat) : String :=
  let a := Address.programStart.offset k
  Hex.upper 4 a.val ++ ": " ++ Hex.ofBytes (m.memory.slice a 2)

/-- The text of lines, each with its end. -/
def unlines (lines : List String) : String := String.join (lines.map (· ++ "\n"))

/-- The first `count` bytes of the program memory. -/
def listing (m : Machine size) (count : Nat) : String :=
  unlines ((listedOffsets count).map m.listingLine)

/-- The display as rows of `#` and `.`. -/
def picture (m : Machine size) : String := unlines m.display.rowTexts

/-- The names of the keys that are down; nothing if none is. -/
def pressedText (m : Machine size) : String :=
  if m.keys.any then "keys:" ++ String.join (m.keys.toList.map (" " ++ Key.text ·)) else ""

end CosmacVip.Machine
