import CosmacVip.Proofs.Hex
import CosmacVip.Proofs.Loading
import CosmacVip.Proofs.Views
import CosmacVip.Proofs.Words.Listing

/-!
What the listing of a machine tells of its memory.

* `Listing.Row`, `Listing.read?`: the rows that a text stands for, each an address and two bytes;
* `Machine.rowAt`, `Machine.read?_listing`: the rows of a listing;
* `Machine.bytes_rows`: their bytes, one after the other, are those of the program memory;
* `Memory.take_programMemory`: the program memory after a program is loaded;
* `Machine.listing_read_back`: the listing of a program gives it back, and any listing shows the memory.
-/

namespace CosmacVip

/-! ### Rows -/

namespace Listing

/-- An address, with the byte there and the one after it. -/
structure Row where
  address : Nat
  first : UInt8
  second : UInt8

namespace Row

/-- The bytes of a row. -/
def bytes (r : Row) : List UInt8 := [r.first, r.second]

/-- The row that a line stands for: four digits of an address, and two of each byte. -/
def read? (line : List Char) : Option Row :=
  match line with
  | [a, b, c, d, ':', ' ', e, f, g, h] => do
    let address ← Hex.read? [a, b, c, d]
    let first ← Hex.read? [e, f]
    let second ← Hex.read? [g, h]
    return ⟨address, .ofNat first, .ofNat second⟩
  | _ => none

/-- A row as a line. -/
def written (r : Row) : List Char :=
  Hex.fixed 4 r.address ++ ':' :: ' ' :: (Hex.fixed 2 r.first.toNat ++ Hex.fixed 2 r.second.toNat)

lemma read?_written {r : Row} (h : r.address < 16 ^ 4) : read? r.written = some r := by
  have hread : read? r.written = do
      let address ← Hex.read? (Hex.fixed 4 r.address)
      let first ← Hex.read? (Hex.fixed 2 r.first.toNat)
      let second ← Hex.read? (Hex.fixed 2 r.second.toNat)
      return ⟨address, .ofNat first, .ofNat second⟩ := rfl
  rw [hread, Hex.read?_fixed h, Hex.read?_fixed (k := 2) r.first.toNat_lt,
    Hex.read?_fixed (k := 2) r.second.toNat_lt]
  simp

lemma newline_notMem_written (r : Row) : '\n' ∉ r.written := by
  have hdigits (k n : Nat) : '\n' ∉ Hex.fixed k n := by
    intro hmem
    obtain ⟨d, hd, hdigit⟩ := Hex.exists_digit_of_mem_fixed hmem
    simp [Hex.digit_eq_iff hd, Hex.value?] at hdigit
  simp [written, hdigits]

end Row

/-- The rows of a text all of whose lines end. -/
def read? (text : String) : Option (List Row) :=
  if (text.toList.splitOn '\n').getLast? = some [] then (Machine.textLines text).mapM Row.read?
  else none

/-- Lines that are rows written out are read as these rows. -/
lemma read?_unlines {lines : List String} {rows : List Row}
    (hlines : lines.map String.toList = rows.map Row.written) (h : ∀ r ∈ rows, r.address < 16 ^ 4) :
    read? (Machine.unlines lines) = some rows := by
  have hplain : ∀ line ∈ lines, '\n' ∉ line.toList := by
    intro line hline
    have hmem : line.toList ∈ rows.map Row.written := hlines ▸ List.mem_map_of_mem hline
    obtain ⟨r, -, hr⟩ := List.mem_map.1 hmem
    exact hr ▸ r.newline_notMem_written
  rw [read?, Machine.splitOn_unlines hplain, List.getLast?_concat, if_pos rfl,
    Machine.textLines_unlines hplain, hlines, Frame.mapM_eq_some_iff, List.map_map]
  exact List.map_congr_left fun r hr => Row.read?_written (h r hr)

example : read? "0200: 600A\n0202: 1200\n" = some [⟨0x200, 0x60, 0x0A⟩, ⟨0x202, 0x12, 0x00⟩] := by
  rfl

/-- Pairs of values at neighbouring numbers are all values in turn. -/
lemma flatMap_pairs {α : Type} (f : Nat → α) (n : Nat) :
    (List.range n).flatMap (fun i => [f (2 * i), f (2 * i + 1)]) = (List.range (2 * n)).map f := by
  induction n with
  | zero => rfl
  | succ n ih =>
      rw [List.range_succ, List.flatMap_append, ih, Nat.mul_succ, List.range_succ, List.range_succ]
      simp

end Listing

/-! ### The program memory -/

namespace Memory

/-- The bytes at distances from the program's start are those of the program memory in turn. -/
lemma map_read_offset (mem : Memory) {n : Nat} (hn : n ≤ programCapacity) :
    (List.range n).map (fun k => mem.read (Address.programStart.offset k)) =
      (mem.toList.drop 0x200).take n := by
  apply List.ext_getElem
  · simp only [programCapacity] at hn
    simp only [List.length_map, List.length_range, List.length_take, List.length_drop,
      Vector.length_toList]
    omega
  · intro k hk _
    rw [List.length_map, List.length_range] at hk
    have hplace := val_offset_programStart (Nat.lt_of_lt_of_le hk hn)
    simp only [List.getElem_map, List.getElem_range, List.getElem_take, List.getElem_drop,
      Vector.getElem_toList, read, Fin.getElem_fin, hplace]

/-- Whole pairs of bytes of a loaded program are the program, with a zero if it has an odd length. -/
lemma take_programMemory {program : Array UInt8} (h : program.size ≤ programCapacity) :
    ((withProgram program).toList.drop 0x200).take (2 * ((program.size + 1) / 2)) =
      program.toList ++ List.replicate (program.size % 2) 0 := by
  have hfront : (font.toList ++ List.replicate (0x200 - 80) 0).length = 0x200 := by
    rw [List.length_append, Vector.length_toList, List.length_replicate]
  have hrest : 2 * ((program.size + 1) / 2) = program.toList.length + program.size % 2 := by
    rw [Array.length_toList]
    omega
  have hroom : program.size % 2 ≤ programCapacity - program.size := by
    simp only [programCapacity] at h ⊢
    omega
  rw [toList_withProgram h, List.append_assoc, List.drop_left' hfront, hrest,
    List.take_length_add_append, List.take_replicate, Nat.min_eq_left hroom]

end Memory

/-! ### Listings -/

namespace Machine

open Listing (Row)
open Words.State (ofMachine)

variable {size : Display.Size}

/-- The row of the byte at a distance from the program's start. -/
def rowAt (m : Machine size) (k : Nat) : Row :=
  ⟨0x200 + k, m.memory.read (Address.programStart.offset k),
    m.memory.read (Address.programStart.offset (k + 1))⟩

lemma toList_listingLine (m : Machine size) {k : Nat} (hk : k < Memory.programCapacity) :
    (m.listingLine k).toList = (m.rowAt k).written := by
  have haddress : 0x200 + k < 16 ^ 4 := by
    simp only [Memory.programCapacity] at hk
    omega
  rw [m.listingLine_eq hk]
  simp only [String.toList_append, Hex.toList_upper haddress,
    Hex.toList_upper (k := 2) (UInt8.toNat_lt _)]
  rfl

/-- Both bytes of a row are in the program memory. -/
lemma lt_of_mem_listedOffsets {count k : Nat} (h : k ∈ listedOffsets count) :
    k + 1 < Memory.programCapacity := by
  obtain ⟨i, hi, rfl⟩ := List.mem_map.1 h
  rw [List.mem_range] at hi
  simp only [Memory.programCapacity] at hi ⊢
  omega

/-- No row reaches past the end of memory. -/
lemma address_rowAt_lt (m : Machine size) {count k : Nat} (h : k ∈ listedOffsets count) :
    (m.rowAt k).address + 1 < 4096 := by
  have := lt_of_mem_listedOffsets h
  simp only [Memory.programCapacity] at this
  simp only [rowAt]
  omega

lemma read?_listing (m : Machine size) (count : Nat) :
    Listing.read? (m.listing count) = some ((listedOffsets count).map m.rowAt) := by
  apply Listing.read?_unlines
  · rw [List.map_map, List.map_map]
    exact List.map_congr_left fun k hk =>
      m.toList_listingLine (Nat.lt_of_succ_lt (lt_of_mem_listedOffsets hk))
  · intro r hr
    obtain ⟨k, hk, rfl⟩ := List.mem_map.1 hr
    have := m.address_rowAt_lt hk
    omega

/-- The rows are labelled with every second address. -/
lemma address_rows (m : Machine size) (count : Nat) :
    ((listedOffsets count).map m.rowAt).map Row.address =
      (List.range ((min count Memory.programCapacity + 1) / 2)).map (0x200 + 2 * ·) := by
  rw [listedOffsets, List.map_map, List.map_map]
  rfl

/-- The bytes of the rows are those of the program memory, in whole pairs. -/
lemma bytes_rows (m : Machine size) (count : Nat) :
    ((listedOffsets count).map m.rowAt).flatMap Row.bytes =
      (m.memory.toList.drop 0x200).take (2 * ((min count Memory.programCapacity + 1) / 2)) := by
  have hroom : 2 * ((min count Memory.programCapacity + 1) / 2) ≤ Memory.programCapacity := by
    simp only [Memory.programCapacity]
    omega
  rw [← Memory.map_read_offset m.memory hroom, ← Listing.flatMap_pairs, listedOffsets, List.map_map,
    List.flatMap_map]
  rfl

/-- **A listing is read back.** The listing of a program that has room, as long as the program, has a line
for each pair of its bytes, labelled with their addresses from the program's start on; the bytes read from
the lines are the program, and one zero more if it has an odd length. Any listing of any machine shows the
program memory, up to the count or the end of memory, in whole pairs and with no address past the last one.
In words it is the same text, without a trap, as long as the count after the start fits a word. -/
theorem listing_read_back (m : Machine size) :
    (∀ program : Array UInt8, program.size ≤ Memory.programCapacity →
      ∃ n rows, m.load program = .ok n ∧
        (ofMachine m).load program = pure (.ok (), ofMachine n) ∧
        Listing.read? (n.listing program.size) = some rows ∧
        rows.map Row.address = (List.range ((program.size + 1) / 2)).map (0x200 + 2 * ·) ∧
        rows.flatMap Row.bytes = program.toList ++ List.replicate (program.size % 2) 0) ∧
      ∀ count,
        (∃ rows, Listing.read? (m.listing count) = some rows ∧
          rows.map Row.address =
            (List.range ((min count Memory.programCapacity + 1) / 2)).map (0x200 + 2 * ·) ∧
          (∀ r ∈ rows, r.address + 1 ≤ 0xFFF) ∧
          rows.flatMap Row.bytes = (m.memory.toList.drop 0x200).take
            (2 * ((min count Memory.programCapacity + 1) / 2))) ∧
        (0x200 + count < Words.wordLimit → (ofMachine m).listing count = pure (m.listing count)) := by
  constructor
  · intro program h
    have hload : m.load program = .ok (fresh size (Memory.withProgram program) m.random) := if_pos h
    have hsize : min program.size Memory.programCapacity = program.size := Nat.min_eq_left h
    refine ⟨_, _, hload, ?_, read?_listing _ _, ?_, ?_⟩
    · rw [Words.State.load_ofMachine, hload]
    · rw [address_rows, hsize]
    · rw [bytes_rows, hsize]
      exact Memory.take_programMemory h
  · intro count
    refine ⟨⟨_, m.read?_listing count, m.address_rows count, ?_, m.bytes_rows count⟩,
      Words.State.listing_ofMachine m⟩
    intro r hr
    obtain ⟨k, hk, rfl⟩ := List.mem_map.1 hr
    exact Nat.le_of_lt_succ (m.address_rowAt_lt hk)

end Machine

end CosmacVip
