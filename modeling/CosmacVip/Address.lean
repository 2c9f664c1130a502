/-!
The 12-bit address space.

Every address is below 4096 by its type, and arithmetic on addresses wraps at the end of memory.
-/

namespace CosmacVip

/-- An address of the 12-bit space. -/
abbrev Address := Fin 4096

namespace Address

/-- The address that a number denotes once it is reduced to twelve bits. -/
def ofNat (n : Nat) : Address := ⟨n % 4096, Nat.mod_lt _ (by decide)⟩

/-- The address `k` cells further on, wrapping at the end of memory. -/
def offset (a : Address) (k : Nat) : Address := ofNat (a.val + k)

/-- Where programs begin; the cells below hold the font. -/
def programStart : Address := ofNat 0x200

/-- A number wraps to its rest by 4096. -/
@[simp] theorem val_ofNat (n : Nat) : (ofNat n).val = n % 4096 := rfl

/-- Going on wraps at the end of memory. -/
@[simp] theorem val_offset (a : Address) (k : Nat) : (a.offset k).val = (a.val + k) % 4096 := rfl

/-- Going on twice is going on once. -/
theorem offset_offset (a : Address) (j k : Nat) : (a.offset j).offset k = a.offset (j + k) := by
  apply Fin.ext
  simp only [val_offset]
  omega

/-- Going on by no cell stays where it is. -/
theorem offset_zero (a : Address) : a.offset 0 = a := by
  apply Fin.ext
  have := a.isLt
  simp only [val_offset]
  omega

end Address

end CosmacVip
