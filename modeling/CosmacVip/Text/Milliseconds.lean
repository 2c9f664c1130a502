/-!
Times in milliseconds, as binary numbers and in decimal.

A whole number of nanoseconds is rounded to 53 significant bits, and so is its quotient by a million.
The least quotient but zero is above `2 ^ -20`, so that all of them are whole in units of `2 ^ -72`.
The decimal is the one with the fewest places from which the quotient is read back. It is counted in
units of `10 ^ -72`, in which every quotient is whole.

* `roundEven`, `roundBits`: the nearest whole number, and the nearest one of 53 significant bits;
* `nearer?`, `coarsest`: the number next to another with the fewest digits that will do;
* `Milliseconds.ofNanoseconds`: a time as the number that is written;
* `Milliseconds.reading`: the number that a decimal is read as;
* `Milliseconds.shortest`, `Milliseconds.text`: the decimal that is written, and its text.
-/

namespace CosmacVip

/-! ### Rounding -/

/-- The whole number nearest to `n / d`, the even one of two. -/
def roundEven (n d : Nat) : Nat :=
  if 2 * (n % d) < d ∨ 2 * (n % d) = d ∧ n / d % 2 = 0 then n / d else n / d + 1

/-- Rounding comes to one more than the whole part at most. -/
theorem roundEven_le (n d : Nat) : roundEven n d ≤ n / d + 1 := by
  rw [roundEven]
  split <;> omega

/-- The exponent of the last of 53 significant bits. -/
def lastBit (n : Nat) : Nat := n.log2 - 52

/-- The number of 53 significant bits that is nearest to `n / d`, the one with the even last bit of
two. None of its bits are below the units. -/
def roundBits (n d : Nat) : Nat := roundEven n (d <<< lastBit (n / d)) <<< lastBit (n / d)

/-- A number has 53 significant bits if it is a number of 53 bits, or the next one, and zeros after it. -/
def Significant (n : Nat) : Prop := ∃ k e, k ≤ 1 <<< 53 ∧ n = k <<< e

/-- Counted in units of the last significant bit, a quotient is rounded to 53 bits or the next number. -/
theorem roundEven_le_of_lastBit (n d : Nat) : roundEven n (d <<< lastBit (n / d)) ≤ 1 <<< 53 := by
  have hround := roundEven_le n (d <<< lastBit (n / d))
  have hlog : (n / d).log2 + 1 ≤ lastBit (n / d) + 53 := by
    unfold lastBit
    omega
  have hbits : n / d < 2 ^ lastBit (n / d) * 2 ^ 53 := by
    rw [← Nat.pow_add]
    exact Nat.lt_of_lt_of_le Nat.lt_log2_self (Nat.pow_le_pow_right (by decide) hlog)
  have hlt : n / (d <<< lastBit (n / d)) < 2 ^ 53 := by
    rw [Nat.shiftLeft_eq, ← Nat.div_div_eq_div_mul]
    exact Nat.div_lt_of_lt_mul hbits
  have hfull : 1 <<< 53 = 2 ^ 53 := Nat.one_shiftLeft 53
  omega

/-- Rounding comes to a number of 53 significant bits. -/
theorem significant_roundBits (n d : Nat) : Significant (roundBits n d) :=
  ⟨_, _, roundEven_le_of_lastBit n d, rfl⟩

/-! ### Decimals -/

/-- The one of two numbers around `n` that is accepted; of both the nearer one, or the greater if they are
as near. -/
def nearer? (accepts : Nat → Bool) (n below above : Nat) : Option Nat :=
  match accepts below, accepts above with
  | true, true => some (if n - below < above - n then below else above)
  | true, false => some below
  | false, true => some above
  | false, false => none

/-- The multiple of `10 ^ i` next to `n` that is accepted, or else of `10 ^ (i - 1)`, and so on. -/
def coarsest (accepts : Nat → Bool) (n : Nat) : Nat → Nat
  | 0 => n
  | i + 1 =>
    let unit := Nat.pow 10 (i + 1)
    match nearer? accepts n (n / unit * unit) (n / unit * unit + unit) with
    | some a => a
    | none => coarsest accepts n i

/-! ### Times -/

/-- A number of milliseconds with 53 significant bits, in units of `2 ^ -72`. -/
structure Milliseconds where
  units : Nat
  significant : Significant units

namespace Milliseconds

/-- A time in nanoseconds, divided by a million. -/
def ofNanoseconds (n : Nat) : Milliseconds :=
  ⟨roundBits (roundBits n 1 <<< 72) 1000000, significant_roundBits _ _⟩

/-- The exact decimal, in units of `10 ^ -72`. -/
def exactDecimal (t : Milliseconds) : Nat := t.units * Nat.pow 5 72

/-- What a decimal in units of `10 ^ -72` is read as, in units of `2 ^ -72`. -/
def reading (decimal : Nat) : Nat := roundBits decimal (Nat.pow 5 72)

/-- The decimal with the fewest places from which the time is read back. -/
def shortest (t : Milliseconds) : Nat :=
  coarsest (fun decimal => reading decimal == t.units) t.exactDecimal
    (Nat.toDigits 10 t.exactDecimal).length

/-- The decimal in digits, with as many places as it needs. -/
def text (t : Milliseconds) : String :=
  let one := Nat.pow 10 72
  let places := (Nat.toDigits 10 (one + t.shortest % one)).drop 1
  let places := (places.reverse.dropWhile (· = '0')).reverse
  (t.shortest / one).repr ++ if places.isEmpty then "" else "." ++ String.ofList places

end Milliseconds

end CosmacVip
