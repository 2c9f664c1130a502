import Mathlib.Algebra.Group.Nat.Defs
import Mathlib.Tactic.Lemma

/-!
Computations on words of fixed width, each step of which is checked.

* `Words.Trap`: what can go wrong;
* `Words.fit`, `Words.less`, `Words.modulo`: arithmetic that must not leave its word;
* `Words.get`, `Words.set`, `Words.copyInto`: access that must not leave its array.

Each operation has one lemma that gives its value where it is defined.
-/

namespace CosmacVip.Words

/-- Why a computation comes to no result. -/
inductive Trap where
  /-- An access past the end of an array. -/
  | outOfBounds
  /-- A remainder by zero. -/
  | zeroDivisor
  /-- A value that its word cannot hold, or a shift by the width of the word or more. -/
  | overflow
  /-- A case that the caller was bound to rule out. -/
  | unreachable
deriving DecidableEq, Repr

/-- A computation that a trap may end. -/
abbrev Checked := Except Trap

/-- Addresses and sizes of the host are below this. -/
def wordLimit : Nat := 2 ^ 64

/-! ### Arithmetic -/

/-- A value that must be below a limit. -/
def fit (limit n : Nat) : Checked Nat := if n < limit then pure n else throw .overflow

/-- A difference that must not be negative. -/
def less (a b : Nat) : Checked Nat := if b ≤ a then pure (a - b) else throw .overflow

/-- A sum of sizes. -/
def plus (a b : Nat) : Checked Nat := fit wordLimit (a + b)

/-- A product of sizes. -/
def times (a b : Nat) : Checked Nat := fit wordLimit (a * b)

/-- A remainder. -/
def modulo (a b : Nat) : Checked Nat := if b = 0 then throw .zeroDivisor else pure (a % b)

/-- The byte with a single bit set, `k` places below the highest one. -/
def bitFromTop (k : Nat) : Checked UInt8 :=
  if k < 8 then pure (0x80 >>> UInt8.ofNat k) else throw .overflow

/-- The word of sixteen bits with bit `k` set. -/
def bitAt (k : Nat) : Checked UInt16 :=
  if k < 16 then pure (1 <<< UInt16.ofNat k) else throw .overflow

variable {limit a b k n : Nat}

lemma fit_eq (h : n < limit) : fit limit n = pure n := if_pos h

lemma less_eq (h : b ≤ a) : less a b = pure (a - b) := if_pos h

lemma plus_eq (h : a + b < wordLimit) : plus a b = pure (a + b) := fit_eq h

/-- Sums of two numbers of sixteen bits do not leave the word. -/
lemma plus_small {a b : Nat} (ha : a < 2 ^ 16) (hb : b < 2 ^ 16) : plus a b = pure (a + b) := by
  apply plus_eq
  rw [wordLimit]
  omega

lemma times_eq (h : a * b < wordLimit) : times a b = pure (a * b) := fit_eq h

lemma modulo_eq (h : 0 < b) : modulo a b = pure (a % b) := if_neg (by omega)

lemma bitFromTop_eq (h : k < 8) : bitFromTop k = pure (0x80 >>> UInt8.ofNat k) := if_pos h

lemma bitAt_eq (h : k < 16) : bitAt k = pure (1 <<< UInt16.ofNat k) := if_pos h

/-! ### Arrays -/

variable {α : Type}

/-- An element of an array. -/
def get (xs : Vector α n) (i : Nat) : Checked α :=
  if h : i < n then pure xs[i] else throw .outOfBounds

/-- The array with one element replaced. -/
def set (xs : Vector α n) (i : Nat) (x : α) : Checked (Vector α n) :=
  if h : i < n then pure (xs.set i x) else throw .outOfBounds

/-- The array with several elements replaced, from the given one on. -/
def copyInto (xs : Vector α n) (start : Nat) (source : Array α) : Checked (Vector α n) :=
  if start + source.size ≤ n then
    pure (Vector.ofFn fun i =>
      if start ≤ i.val then source[i.val - start]?.getD xs[i] else xs[i])
  else throw .outOfBounds

lemma get_eq {xs : Vector α n} {i : Nat} (h : i < n) : get xs i = pure xs[i] := dif_pos h

lemma set_eq {xs : Vector α n} {i : Nat} {x : α} (h : i < n) : set xs i x = pure (xs.set i x) :=
  dif_pos h

lemma copyInto_eq {xs : Vector α n} {start : Nat} {source : Array α}
    (h : start + source.size ≤ n) :
    copyInto xs start source = pure (Vector.ofFn fun i =>
      if start ≤ i.val then source[i.val - start]?.getD xs[i] else xs[i]) :=
  if_pos h

end CosmacVip.Words
