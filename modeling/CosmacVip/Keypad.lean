/-!
The keypad: sixteen keys, and the set of those that are down.

* `Key.text`, `Key.ofByte?`, `Key.ofNibble`: names and codes of keys;
* `KeySet.set`, `KeySet.isDown`: one key of a set, kept as one bit;
* `KeySet.toList`: the keys that are down, in ascending order;
* `isDown_set`: setting a key changes that key alone.
-/

namespace CosmacVip

/-- A key of the hexadecimal pad. -/
abbrev Key := Fin 16

namespace Key

/-- The name of a key: the letter `k` and its lower-case hexadecimal digit. -/
def text (k : Key) : String := String.ofList ['k', Nat.digitChar k.val]

/-- The key with the given code, if there is one. -/
def ofByte? (code : UInt8) : Option Key :=
  if h : code.toNat < 16 then some ⟨code.toNat, h⟩ else none

/-- The key with the given code, if there is one. -/
def ofInt? (code : Int) : Option Key :=
  if h : 0 ≤ code ∧ code < 16 then some ⟨code.toNat, by omega⟩ else none

/-- The key that the low four bits of a byte denote. -/
def ofNibble (b : UInt8) : Key := ⟨b.toNat % 16, Nat.mod_lt _ (by decide)⟩

/-- What is said of a code that no key has. -/
def invalidText : String := "keycode must be in range 0 <= keycode < 16"

/-- All keys in ascending order. -/
def all : List Key := List.finRange 16

end Key

/-- A set of keys; bit `k` is set when key `k` is down. -/
structure KeySet where
  bits : BitVec 16
deriving DecidableEq

namespace KeySet

/-- All keys up. -/
def empty : KeySet := ⟨0⟩

/-- Whether a key is down. -/
def isDown (s : KeySet) (k : Key) : Bool := s.bits.getLsbD k

/-- The set after a key goes down or up. -/
def set (s : KeySet) (k : Key) (down : Bool) : KeySet :=
  ⟨if down then s.bits ||| BitVec.twoPow 16 k else s.bits &&& ~~~BitVec.twoPow 16 k⟩

/-- Whether any key is down. -/
def any (s : KeySet) : Bool := s.bits != 0

/-- The keys that are down, in ascending order. -/
def toList (s : KeySet) : List Key := Key.all.filter s.isDown

/-- The lowest key that is down. -/
def first? (s : KeySet) : Option Key := s.toList.head?

/-- No key of the empty set is down. -/
@[simp] theorem isDown_empty (k : Key) : empty.isDown k = false := by
  simp [empty, isDown]

/-- Setting a key leaves the others alone. -/
theorem isDown_set (s : KeySet) (k j : Key) (down : Bool) :
    (s.set k down).isDown j = if j = k then down else s.isDown j := by
  have hj := j.isLt
  cases down <;> simp [set, isDown, Fin.ext_iff, hj] <;> grind

/-- The list has the keys that are down. -/
theorem mem_toList {s : KeySet} {k : Key} : k ∈ s.toList ↔ s.isDown k = true := by
  simp [toList, Key.all]

end KeySet

end CosmacVip
