/-!
Hexadecimal text.

* `Hex.digit`: the upper-case digit of a nibble;
* `Hex.fixed`: the last digits of a number, as many as asked for;
* `Hex.upper`: a number with at least the given count of digits, zeros in front.
-/

namespace CosmacVip.Hex

/-- The upper-case digit of a number below sixteen. -/
def digit (d : Nat) : Char :=
  Char.ofNat (if d < 10 then 48 + d else 55 + d)

/-- The last `k` hexadecimal digits of `n`, the most significant first. -/
def fixed : Nat → Nat → List Char
  | 0, _ => []
  | k + 1, n => fixed k (n / 16) ++ [digit (n % 16)]

/-- The last `k` digits are `k` in number. -/
@[simp] theorem length_fixed (k n : Nat) : (fixed k n).length = k := by
  induction k generalizing n with
  | zero => rfl
  | succ k ih => simp [fixed, ih]

/-- How many hexadecimal digits `n` needs; zero needs none. -/
def digitCount (n : Nat) : Nat :=
  if n = 0 then 0 else digitCount (n / 16) + 1
termination_by n
decreasing_by omega

/-- `n` in upper-case hexadecimal, with zeros in front up to `width` digits. -/
def upper (width n : Nat) : String :=
  String.ofList (fixed (max width (digitCount n)) n)

/-- Two upper-case digits for each byte, nothing between them. -/
def ofBytes (bytes : List UInt8) : String :=
  String.join (bytes.map fun b => upper 2 b.toNat)

end CosmacVip.Hex
