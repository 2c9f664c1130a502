/-!
Scalars: texts with or without quotes.

* `Scalar.isNull`: a scalar that stands for no value;
* `Scalar.natural?`, `Scalar.integer?`: the number that a scalar stands for.

Only a plain scalar, one without quotes, can be a number or null.
-/

namespace CosmacVip.Yaml

/-- A text, and whether it was given in quotes. -/
structure Scalar where
  text : String
  isQuoted : Bool
deriving DecidableEq

/-! ### Numbers -/

/-- Two to the power of sixty-four: the numbers of the format stay below it. -/
def numberLimit : Nat := 0x10000000000000000

/-- The value of a digit in the given base, if it is one. -/
def digitValue? (base : Nat) (c : Char) : Option Nat :=
  let d :=
    if '0' ≤ c ∧ c ≤ '9' then some (c.toNat - '0'.toNat)
    else if 'a' ≤ c ∧ c ≤ 'f' then some (c.toNat - 'a'.toNat + 10)
    else if 'A' ≤ c ∧ c ≤ 'F' then some (c.toNat - 'A'.toNat + 10)
    else none
  d.filter (· < base)

/-- The number that digits denote, if there is at least one digit and nothing else. -/
def digits? (base : Nat) : List Char → Option Nat
  | [] => none
  | cs => cs.foldlM (fun n c => (digitValue? base c).map (n * base + ·)) 0

/-- The number that a text without sign denotes: hexadecimal, octal or binary after `0x`, `0o` or `0b`,
and else decimal, which has no zero in front. -/
def magnitude? : List Char → Option Nat
  | '0' :: 'x' :: cs => digits? 16 cs
  | '0' :: 'o' :: cs => digits? 8 cs
  | '0' :: 'b' :: cs => digits? 2 cs
  | ['0'] => some 0
  | '0' :: _ => none
  | cs => digits? 10 cs

/-- The number that a text denotes; it may have a plus in front. -/
def natural? : List Char → Option Nat
  | '+' :: cs => magnitude? cs
  | cs => magnitude? cs

/-- The integer that a text denotes, with or without a sign. -/
def integer? : List Char → Option Int
  | '-' :: cs => (magnitude? cs).map fun n => -Int.ofNat n
  | cs => (natural? cs).map Int.ofNat

namespace Scalar

/-- The plain scalar where nothing is written. -/
def empty : Scalar := ⟨"", false⟩

/-- Whether a scalar is null: a plain one that is empty or spells it. -/
def isNull (s : Scalar) : Bool :=
  !s.isQuoted && ["", "~", "null", "Null", "NULL"].contains s.text

/-- The natural number that a plain scalar denotes, if it is below the limit. -/
def natural? (s : Scalar) : Option Nat :=
  if s.isQuoted then none else (Yaml.natural? s.text.toList).filter (· < numberLimit)

/-- The integer that a plain scalar denotes. -/
def integer? (s : Scalar) : Option Int :=
  if s.isQuoted then none else Yaml.integer? s.text.toList

end Scalar

end CosmacVip.Yaml
