import CosmacVip.Machine.View
import CosmacVip.Proofs.Programs
import CosmacVip.Proofs.Words.Host

/-!
The listing of the memory in words of fixed width.

The sum of the start and the count may leave the word; it is cut off at the end of memory only after it is
made. From there on the addresses go up by two.

* `Machine.listingLine_eq`: a line of the listing, written out;
* `Words.State.listing`: the text of the listing, line by line;
* `Words.State.linesUpTo_ofMachine`: the lines from an address on are those of the machine;
* `Words.State.listing_ofMachine`: so is the listing, as long as the sum fits.
-/

namespace CosmacVip

variable {size : Display.Size}

/-- A line of the listing, with its label and its two bytes written out. -/
lemma Machine.listingLine_eq (m : Machine size) {k : Nat} (hk : k < Memory.programCapacity) :
    m.listingLine k =
      Hex.upper 4 (0x200 + k) ++ ": " ++
        (Hex.upper 2 (m.memory.read (Address.programStart.offset k)).toNat ++
          Hex.upper 2 (m.memory.read (Address.programStart.offset (k + 1))).toNat) := by
  have hbytes : m.memory.slice (Address.programStart.offset k) 2 =
      [m.memory.read (Address.programStart.offset k),
        m.memory.read (Address.programStart.offset (k + 1))] := by
    simp [Memory.slice, List.range_succ, Address.offset_offset]
  rw [listingLine, hbytes]
  simp only [Memory.val_offset_programStart hk, Hex.ofBytes]
  simp [String.join]

namespace Words.State

/-- The line of an address, with the byte there and the one after it. -/
def listingLine (w : State) (a : Nat) : Checked String := do
  let first ← w.read a
  let second ← w.read (← plus a 1)
  return Hex.upper 4 a ++ ": " ++ (Hex.upper 2 first.toNat ++ Hex.upper 2 second.toNat)

/-- The lines of every second address below `stop`, from `a` on. -/
def linesUpTo (w : State) (stop a : Nat) : Checked (List String) := do
  if a < stop then
    let line ← w.listingLine a
    return line :: (← w.linesUpTo stop (a + 2))
  else return []
termination_by stop - a

/-- The first `count` bytes of the program memory. -/
def listing (w : State) (count : Nat) : Checked String := do
  let stop := min (← plus 0x200 count) 4096
  return Machine.unlines (← w.linesUpTo stop 0x200)

lemma listingLine_ofMachine (m : Machine size) {k : Nat} (hk : k < Memory.programCapacity) :
    (ofMachine m).listingLine (0x200 + k) = pure (m.listingLine k) := by
  have hplus : plus (0x200 + k) 1 = pure (0x200 + (k + 1)) := by
    simp only [Memory.programCapacity] at hk
    exact plus_small (by omega) (by decide)
  have haddress (i : Nat) : Address.ofNat (0x200 + i) = Address.programStart.offset i := rfl
  simp only [listingLine, hplus, read_ofMachine, pure_bind, haddress, Machine.listingLine_eq m hk]

/-- From any place of the program memory, the lines are those of every second byte below the stop. -/
lemma linesUpTo_ofMachine (m : Machine size) {stop : Nat} (hstop : stop ≤ Memory.programCapacity)
    (k : Nat) :
    (ofMachine m).linesUpTo (0x200 + stop) (0x200 + k) =
      pure ((List.range ((stop - k + 1) / 2)).map fun i => m.listingLine (k + 2 * i)) := by
  induction hleft : stop - k using Nat.strong_induction_on generalizing k with
  | _ left ih =>
      rw [linesUpTo]
      by_cases hk : k < stop
      · have hcount : (left + 1) / 2 = (stop - (k + 2) + 1) / 2 + 1 := by omega
        have hrest := ih (stop - (k + 2)) (by omega) (k + 2) rfl
        rw [if_pos (by omega), listingLine_ofMachine m (by omega), pure_bind, Nat.add_assoc, hrest,
          pure_bind, hcount, List.range_succ_eq_map, List.map_cons, List.map_map]
        simp only [Function.comp_def, Nat.mul_zero, Nat.add_zero, Nat.mul_succ, Nat.add_assoc,
          Nat.add_comm 2]
      · have hcount : (left + 1) / 2 = 0 := by omega
        rw [if_neg (by omega), hcount]
        rfl

/-- The listing is that of the machine, if its end is an address of the host. -/
theorem listing_ofMachine (m : Machine size) {count : Nat} (h : 0x200 + count < wordLimit) :
    (ofMachine m).listing count = pure (m.listing count) := by
  have hstop : min (0x200 + count) 4096 = 0x200 + min count Memory.programCapacity := by
    simp only [Memory.programCapacity]
    omega
  have hlines := linesUpTo_ofMachine m (Nat.min_le_right count Memory.programCapacity) 0
  simp only [Nat.add_zero, Nat.sub_zero, Nat.zero_add] at hlines
  simp only [listing, plus_eq h, pure_bind, hstop, hlines, Machine.listing, Machine.listedOffsets,
    List.map_map, Function.comp_def]

end Words.State

end CosmacVip
