import CosmacVip.Text.Hex
import Mathlib.Tactic.IntervalCases
import Mathlib.Tactic.Lemma
import Mathlib.Tactic.SplitIfs

/-!
Hexadecimal text read back.

* `Hex.value?`: the number that a digit stands for;
* `Hex.read?`, `Hex.read?_fixed`: the number that digits stand for, which is the one that was written;
* `Hex.toList_upper`: how a number is written that fits the digits asked for;
* `Hex.number?`: the number that a text of so many digits stands for.
-/

namespace CosmacVip.Hex

variable {k n : Nat}

/-! ### Digits -/

/-- The number that an upper-case digit stands for. -/
def value? (c : Char) : Option Nat :=
  if '0' ≤ c ∧ c ≤ '9' then some (c.toNat - 48)
  else if 'A' ≤ c ∧ c ≤ 'F' then some (c.toNat - 55)
  else none

lemma value?_digit {d : Nat} (h : d < 16) : value? (digit d) = some d := by
  interval_cases d <;> rfl

lemma digit_of_value? {c : Char} {d : Nat} (h : value? c = some d) : digit d = c := by
  unfold value? at h
  split_ifs at h with hnumeral hletter <;> obtain rfl := Option.some.inj h
  · have hlow : 48 ≤ c.toNat := hnumeral.1
    have hhigh : c.toNat ≤ 57 := hnumeral.2
    rw [digit, if_pos (by omega), Nat.add_sub_cancel' hlow, Char.ofNat_toNat]
  · have hlow : 65 ≤ c.toNat := hletter.1
    rw [digit, if_neg (by omega), Nat.add_sub_cancel' (by omega), Char.ofNat_toNat]

lemma digit_eq_iff {d : Nat} (h : d < 16) {c : Char} : digit d = c ↔ some d = value? c :=
  ⟨fun hc => hc ▸ (value?_digit h).symm, fun hv => digit_of_value? hv.symm⟩

/-! ### Numbers -/

/-- The number that upper-case digits stand for, the most significant first. -/
def read? (cs : List Char) : Option Nat :=
  cs.foldlM (fun n c => (value? c).map (n * 16 + ·)) 0

lemma read?_append_digit {cs : List Char} {d : Nat} (h : read? cs = some n) (hd : d < 16) :
    read? (cs ++ [digit d]) = some (n * 16 + d) := by
  rw [read?] at h ⊢
  rw [List.foldlM_append, h]
  simp [value?_digit hd]

lemma read?_fixed (h : n < 16 ^ k) : read? (fixed k n) = some n := by
  induction k generalizing n with
  | zero =>
      obtain rfl : n = 0 := by simpa using h
      rfl
  | succ k ih =>
      have hhigh : n / 16 < 16 ^ k := by
        rw [Nat.pow_succ] at h
        omega
      rw [fixed, read?_append_digit (ih hhigh) (Nat.mod_lt n (by decide)), Nat.mul_comm,
        Nat.div_add_mod]

lemma digitCount_le (h : n < 16 ^ k) : digitCount n ≤ k := by
  induction k generalizing n with
  | zero =>
      obtain rfl : n = 0 := by simpa using h
      simp [digitCount]
  | succ k ih =>
      have hhigh : n / 16 < 16 ^ k := by
        rw [Nat.pow_succ] at h
        omega
      rw [digitCount]
      split
      · exact Nat.zero_le _
      · exact Nat.succ_le_succ (ih hhigh)

/-- A number that fits is written with as many digits as asked for. -/
lemma toList_upper (h : n < 16 ^ k) : (upper k n).toList = fixed k n := by
  rw [upper, String.toList_ofList, Nat.max_eq_left (digitCount_le h)]

lemma exists_digit_of_mem_fixed {c : Char} (h : c ∈ fixed k n) : ∃ d < 16, digit d = c := by
  induction k generalizing n with
  | zero => simp [fixed] at h
  | succ k ih =>
      rw [fixed, List.mem_append, List.mem_singleton] at h
      rcases h with h | rfl
      · exact ih h
      · exact ⟨n % 16, Nat.mod_lt _ (by decide), rfl⟩

/-- The number that a text of `k` digits stands for. -/
def number? (k : Nat) (text : String) : Option Nat :=
  if text.toList.length = k then read? text.toList else none

lemma number?_upper (h : n < 16 ^ k) : number? k (upper k n) = some n := by
  rw [number?, toList_upper h, length_fixed, if_pos rfl, read?_fixed h]

end CosmacVip.Hex
