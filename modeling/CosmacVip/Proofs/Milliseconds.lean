import CosmacVip.Text.Milliseconds
import Mathlib.Algebra.Group.Nat.Defs
import Mathlib.Data.Nat.Dist
import Mathlib.Tactic.Lemma

/-!
What the decimal of a time says of it.

* `roundBits_mono`: rounding keeps the order;
* `roundBits_mul`: a number of 53 significant bits is rounded to itself;
* `ClosedToward.dvd_coarsest`, `ClosedToward.dist_coarsest_le`: the search for a number of few digits
  finds one on the coarsest grid there is, and the nearest one on it;
* `Milliseconds.shortest_decimal`: the decimal that is written is read back as the time, and no decimal
  with fewer places is, nor a nearer one with as few.
-/

namespace CosmacVip

/-! ### Whole numbers -/

lemma div_le_roundEven (n d : Nat) : n / d ≤ roundEven n d := by
  rw [roundEven]
  split <;> omega

lemma roundEven_mul (q : Nat) {d : Nat} (hd : 0 < d) : roundEven (q * d) d = q := by
  rw [roundEven, Nat.mul_mod_left, Nat.mul_div_cancel q hd, if_pos (.inl hd)]

lemma roundEven_mono {m n : Nat} (h : m ≤ n) (d : Nat) : roundEven m d ≤ roundEven n d := by
  rcases Nat.lt_or_eq_of_le (Nat.div_le_div_right (c := d) h) with hlt | heq
  · calc
      roundEven m d ≤ m / d + 1 := roundEven_le m d
      _ ≤ n / d := hlt
      _ ≤ roundEven n d := div_le_roundEven n d
  · -- the whole parts are the same, and the greater number has the greater rest
    have hm := Nat.div_add_mod m d
    have hn := Nat.div_add_mod n d
    rw [heq] at hm
    rw [roundEven, roundEven, heq]
    split <;> split <;> omega

/-! ### Significant bits -/

lemma lastBit_mono {m n : Nat} (h : m ≤ n) : lastBit m ≤ lastBit n := by
  refine Nat.sub_le_sub_right ?_ 52
  rcases Nat.eq_zero_or_pos m with rfl | hm
  · exact Nat.zero_le _
  · have hn : n ≠ 0 := by omega
    exact (Nat.le_log2 hn).2 (Nat.le_trans (Nat.log2_self_le (Nat.ne_of_gt hm)) h)

/-- A number whose last significant bit is not the last one has the first of the 53. -/
lemma two_pow_le_of_lastBit_pos {n : Nat} (h : 0 < lastBit n) : 2 ^ lastBit n * 2 ^ 52 ≤ n := by
  have hn : n ≠ 0 := by
    rintro rfl
    contradiction
  have hlog : lastBit n + 52 = n.log2 := by
    unfold lastBit at h ⊢
    omega
  rw [← Nat.pow_add, hlog]
  exact Nat.log2_self_le hn

lemma roundBits_eq (n d : Nat) :
    roundBits n d = roundEven n (d * 2 ^ lastBit (n / d)) * 2 ^ lastBit (n / d) := by
  rw [roundBits, Nat.shiftLeft_eq, Nat.shiftLeft_eq]

lemma significant_iff {n : Nat} : Significant n ↔ ∃ k e, k ≤ 2 ^ 53 ∧ n = k * 2 ^ e := by
  simp only [Significant, Nat.shiftLeft_eq, Nat.one_mul]

/-- Rounding keeps the order. -/
lemma roundBits_mono {m n : Nat} (h : m ≤ n) (d : Nat) : roundBits m d ≤ roundBits n d := by
  have hdiv : m / d ≤ n / d := Nat.div_le_div_right h
  rcases Nat.lt_or_eq_of_le (lastBit_mono hdiv) with hlt | heq
  · -- a power of two lies between the numbers, and rounding goes beyond it on neither side
    have hfirst : 2 ^ 52 ≤ n / (d * 2 ^ lastBit (n / d)) := by
      rw [← Nat.div_div_eq_div_mul, Nat.le_div_iff_mul_le (Nat.two_pow_pos _), Nat.mul_comm]
      exact two_pow_le_of_lastBit_pos (Nat.zero_lt_of_lt hlt)
    have hlast : roundEven m (d * 2 ^ lastBit (m / d)) ≤ 2 ^ 53 := by
      simpa only [Nat.shiftLeft_eq, Nat.one_mul] using roundEven_le_of_lastBit m d
    rw [roundBits_eq, roundBits_eq]
    calc
      roundEven m (d * 2 ^ lastBit (m / d)) * 2 ^ lastBit (m / d) ≤ 2 ^ 53 * 2 ^ lastBit (m / d) :=
        Nat.mul_le_mul_right _ hlast
      _ = 2 ^ 52 * 2 ^ (lastBit (m / d) + 1) := by rw [← Nat.pow_add, ← Nat.pow_add]; congr 1; omega
      _ ≤ 2 ^ 52 * 2 ^ lastBit (n / d) :=
        Nat.mul_le_mul_left _ (Nat.pow_le_pow_right (by decide) hlt)
      _ ≤ roundEven n (d * 2 ^ lastBit (n / d)) * 2 ^ lastBit (n / d) :=
        Nat.mul_le_mul_right _ (Nat.le_trans hfirst (div_le_roundEven _ _))
  · rw [roundBits_eq, roundBits_eq, heq]
    exact Nat.mul_le_mul_right _ (roundEven_mono h _)

/-- A number of 53 significant bits has nothing but zeros after the last of them. -/
lemma Significant.two_pow_dvd {n : Nat} (h : Significant n) : 2 ^ lastBit n ∣ n := by
  obtain ⟨k, e, hk, rfl⟩ := significant_iff.1 h
  rcases Nat.lt_or_ge e (lastBit (k * 2 ^ e)) with hlt | hle
  · -- only the power of two above all 53 bits has its first bit this far up
    have hfirst : 2 ^ lastBit (k * 2 ^ e) * 2 ^ 52 ≤ k * 2 ^ e :=
      two_pow_le_of_lastBit_pos (Nat.zero_lt_of_lt hlt)
    have hle : 2 ^ 53 * 2 ^ e ≤ k * 2 ^ e := by
      refine Nat.le_trans ?_ hfirst
      rw [← Nat.pow_add, ← Nat.pow_add]
      exact Nat.pow_le_pow_right (by decide) (by omega)
    have hk : k = 2 ^ 53 := Nat.le_antisymm hk (Nat.le_of_mul_le_mul_right hle (Nat.two_pow_pos e))
    rw [hk, ← Nat.pow_add]
    refine Nat.pow_dvd_pow 2 ?_
    rw [lastBit, Nat.log2_two_pow]
    omega
  · exact Nat.dvd_mul_left_of_dvd (Nat.pow_dvd_pow 2 hle) k

/-- A number of 53 significant bits is rounded to itself. -/
lemma roundBits_mul {n d : Nat} (h : Significant n) (hd : 0 < d) : roundBits (n * d) d = n := by
  obtain ⟨k, hk⟩ := h.two_pow_dvd
  have hunit : n * d = k * (d * 2 ^ lastBit n) := by
    conv => lhs; rw [hk]
    ac_rfl
  rw [roundBits_eq, Nat.mul_div_cancel n hd, hunit, roundEven_mul k (Nat.mul_pos hd (Nat.two_pow_pos _)),
    Nat.mul_comm]
  exact hk.symm

lemma Significant.two_mul {n : Nat} (h : Significant n) : Significant (2 * n) := by
  obtain ⟨k, e, hk, rfl⟩ := significant_iff.1 h
  exact significant_iff.2 ⟨k, e + 1, hk, by rw [Nat.pow_succ]; ac_rfl⟩

/-! ### Decimals -/

/-- A number is accepted, and with every other one that is, all between the two are. -/
structure ClosedToward (accepts : Nat → Bool) (n : Nat) : Prop where
  self : accepts n
  below : ∀ a b, accepts a → a ≤ b → b ≤ n → accepts b
  above : ∀ a b, accepts b → n ≤ a → a ≤ b → accepts a

/-- A number on a grid is not between two of its numbers that follow one another. -/
lemma le_or_add_le (n : Nat) {i a : Nat} (hgrid : 10 ^ i ∣ a) :
    a ≤ n / 10 ^ i * 10 ^ i ∨ n / 10 ^ i * 10 ^ i + 10 ^ i ≤ a := by
  obtain ⟨c, rfl⟩ := exists_eq_mul_left_of_dvd hgrid
  have hpos : 0 < 10 ^ i := Nat.pow_pos (by decide)
  rcases Nat.lt_or_ge n (c * 10 ^ i) with hlt | hge
  · rw [← Nat.succ_mul]
    exact .inr (Nat.mul_le_mul_right _ ((Nat.div_lt_iff_lt_mul hpos).2 hlt))
  · exact .inl (Nat.mul_le_mul_right _ ((Nat.le_div_iff_mul_le hpos).2 hge))

lemma le_div_mul_add (n i : Nat) : n ≤ n / 10 ^ i * 10 ^ i + 10 ^ i :=
  Nat.le_of_lt (Nat.lt_div_mul_add (Nat.pow_pos (by decide)))

section

variable {accepts : Nat → Bool} {n below above a c : Nat}

lemma eq_of_nearer?_eq_some (h : nearer? accepts n below above = some a) :
    accepts a ∧ (a = below ∨ a = above) := by
  unfold nearer? at h
  split at h <;> cases h
  case h_1 hbelow habove =>
    split
    · exact ⟨hbelow, .inl rfl⟩
    · exact ⟨habove, .inr rfl⟩
  case h_2 hbelow _ => exact ⟨hbelow, .inl rfl⟩
  case h_3 _ habove => exact ⟨habove, .inr rfl⟩

/-- What is found on a grid is on every finer one. -/
lemma dvd_of_nearer? {i j : Nat} (hij : i ≤ j)
    (h : nearer? accepts n (n / 10 ^ j * 10 ^ j) (n / 10 ^ j * 10 ^ j + 10 ^ j) = some a) :
    10 ^ i ∣ a := by
  have hunit : 10 ^ i ∣ 10 ^ j := Nat.pow_dvd_pow 10 hij
  have hbelow : 10 ^ i ∣ n / 10 ^ j * 10 ^ j := Nat.dvd_mul_left_of_dvd hunit _
  rcases (eq_of_nearer?_eq_some h).2 with rfl | rfl
  · exact hbelow
  · exact Nat.dvd_add hbelow hunit

namespace ClosedToward

/-- If anything is accepted, so is one of the two numbers around `n` beyond which it lies, and the nearer
one is at least as near. -/
lemma exists_nearer? (h : ClosedToward accepts n) (hbelow : below ≤ n) (habove : n ≤ above)
    (hside : a ≤ below ∨ above ≤ a) (ha : accepts a) :
    ∃ c, nearer? accepts n below above = some c ∧ Nat.dist n c ≤ Nat.dist n a := by
  unfold nearer? Nat.dist
  rcases hside with hle | hle
  · rw [h.below a below ha hle hbelow]
    cases accepts above with
    | false => exact ⟨below, rfl, by omega⟩
    | true => exact ⟨_, rfl, by split <;> omega⟩
  · rw [h.above above a ha habove hle]
    cases accepts below with
    | false => exact ⟨above, rfl, by omega⟩
    | true => exact ⟨_, rfl, by split <;> omega⟩

lemma accepts_coarsest (h : ClosedToward accepts n) (i : Nat) : accepts (coarsest accepts n i) := by
  fun_induction coarsest accepts n i with
  | case1 => exact h.self
  | case2 i unit a hnearer => exact (eq_of_nearer?_eq_some hnearer).1
  | case3 i unit hnone ih => exact ih

/-- On a grid on which anything is accepted, a number is found, and none of the others is nearer. -/
lemma exists_nearer?_grid (h : ClosedToward accepts n) {i : Nat} (hgrid : 10 ^ i ∣ a) (ha : accepts a) :
    ∃ c, nearer? accepts n (n / 10 ^ i * 10 ^ i) (n / 10 ^ i * 10 ^ i + 10 ^ i) = some c ∧
      Nat.dist n c ≤ Nat.dist n a :=
  h.exists_nearer? (Nat.div_mul_le_self _ _) (le_div_mul_add n i) (le_or_add_le n hgrid) ha

/-- No coarser grid than that of the number that is found has a number that is accepted. -/
lemma dvd_coarsest (h : ClosedToward accepts n) {i j : Nat} (hij : i ≤ j) (hgrid : 10 ^ i ∣ a)
    (ha : accepts a) : 10 ^ i ∣ coarsest accepts n j := by
  fun_induction coarsest accepts n j with
  | case1 =>
      rw [Nat.le_zero.1 hij, Nat.pow_zero]
      exact Nat.one_dvd _
  | case2 j unit c hnearer => exact dvd_of_nearer? hij hnearer
  | case3 j unit hnone ih =>
      refine ih (Nat.le_of_lt_succ (Nat.lt_of_le_of_ne hij ?_))
      rintro rfl
      obtain ⟨c, hc, -⟩ := h.exists_nearer?_grid hgrid ha
      exact Option.some_ne_none c (hc.symm.trans hnone)

/-- On the coarsest grid that has a number that is accepted, none of them is nearer than the one that is
found. -/
lemma dist_coarsest_le (h : ClosedToward accepts n) {i j : Nat} (hij : i ≤ j) (hgrid : 10 ^ i ∣ a)
    (ha : accepts a) (hcoarser : ∀ b, 10 ^ (i + 1) ∣ b → accepts b = false) :
    Nat.dist n (coarsest accepts n j) ≤ Nat.dist n a := by
  fun_induction coarsest accepts n j with
  | case1 => simp [Nat.dist]
  | case2 j unit c hnearer =>
      rcases Nat.lt_or_eq_of_le hij with hlt | rfl
      · have hc : accepts c = true := (eq_of_nearer?_eq_some hnearer).1
        exact absurd (hc.symm.trans (hcoarser c (dvd_of_nearer? hlt hnearer))) (by decide)
      · obtain ⟨d, hd, hdist⟩ := h.exists_nearer?_grid hgrid ha
        obtain rfl : d = c := Option.some.inj (hd.symm.trans hnearer)
        exact hdist
  | case3 j unit hnone ih =>
      refine ih (Nat.le_of_lt_succ (Nat.lt_of_le_of_ne hij ?_))
      rintro rfl
      obtain ⟨c, hc, -⟩ := h.exists_nearer?_grid hgrid ha
      exact Option.some_ne_none c (hc.symm.trans hnone)

/-- Nothing is nearer to zero than zero. -/
lemma coarsest_zero (h : ClosedToward accepts 0) (i : Nat) : coarsest accepts 0 i = 0 := by
  fun_induction coarsest accepts 0 i with
  | case1 => rfl
  | case2 i unit c hnearer =>
      obtain ⟨d, hd, hdist⟩ := h.exists_nearer?_grid (i := i + 1) (Nat.dvd_zero _) h.self
      obtain rfl : d = c := Option.some.inj (hd.symm.trans hnearer)
      simpa [Nat.dist] using hdist
  | case3 i unit hnone ih => exact ih

end ClosedToward

end

namespace Milliseconds

variable (t : Milliseconds)

/-- The exact decimal is read as the time. -/
lemma reading_exactDecimal : reading t.exactDecimal = t.units :=
  roundBits_mul t.significant (Nat.pow_pos (by decide))

lemma reading_mono {a b : Nat} (h : a ≤ b) : reading a ≤ reading b := roundBits_mono h _

/-- Between a decimal that is read as the time and the exact one, all are. -/
lemma closedToward_exactDecimal :
    ClosedToward (fun decimal => reading decimal == t.units) t.exactDecimal where
  self := beq_iff_eq.2 t.reading_exactDecimal
  below a b ha hab hb := by
    have hread : reading a = t.units := eq_of_beq ha
    have hle : reading b ≤ t.units := t.reading_exactDecimal ▸ reading_mono hb
    exact beq_iff_eq.2 (Nat.le_antisymm hle (hread ▸ reading_mono hab))
  above a b hb ha hab := by
    have hread : reading b = t.units := eq_of_beq hb
    have hge : t.units ≤ reading a := t.reading_exactDecimal ▸ reading_mono ha
    exact beq_iff_eq.2 (Nat.le_antisymm (hread ▸ reading_mono hab) hge)

lemma reading_zero : reading 0 = 0 := by
  have hzero : Significant 0 := ⟨0, 0, Nat.zero_le _, rfl⟩
  simpa [reading] using roundBits_mul hzero (d := 5 ^ 72) (Nat.pow_pos (by decide))

lemma reading_two_mul_exactDecimal : reading (2 * t.exactDecimal) = 2 * t.units := by
  rw [exactDecimal, ← Nat.mul_assoc]
  exact roundBits_mul t.significant.two_mul (Nat.pow_pos (by decide))

/-- No decimal that ends in more zeros than the exact one has digits is read as any time but none. -/
lemma units_eq_zero_of_length_lt {i decimal : Nat} (hi : (Nat.toDigits 10 t.exactDecimal).length < i)
    (hgrid : 10 ^ i ∣ decimal) (hread : reading decimal = t.units) : t.units = 0 := by
  have hdigits : t.exactDecimal < 10 ^ (Nat.toDigits 10 t.exactDecimal).length :=
    (Nat.length_toDigits_le_iff (by decide) Nat.length_toDigits_pos).1 (Nat.le_refl _)
  have hpow : 10 ^ ((Nat.toDigits 10 t.exactDecimal).length + 1) ≤ 10 ^ i :=
    Nat.pow_le_pow_right (by decide) hi
  rw [Nat.pow_succ] at hpow
  rcases Nat.lt_or_ge decimal (10 ^ i) with hlt | hge
  · rw [← hread, Nat.eq_zero_of_dvd_of_lt hgrid hlt, reading_zero]
  · have hdouble : reading (2 * t.exactDecimal) ≤ reading decimal := reading_mono (by omega)
    rw [reading_two_mul_exactDecimal, hread] at hdouble
    omega

/-- **The decimal that is written.** It is read back as the time, it has no more places than any other
decimal that is, and none of those with as few places is nearer to the time. -/
theorem shortest_decimal :
    reading t.shortest = t.units ∧
      ∀ i decimal, 10 ^ i ∣ decimal → reading decimal = t.units →
        10 ^ i ∣ t.shortest ∧
        ((∀ other, 10 ^ (i + 1) ∣ other → reading other ≠ t.units) →
          Nat.dist t.exactDecimal t.shortest ≤ Nat.dist t.exactDecimal decimal) := by
  have hclosed := t.closedToward_exactDecimal
  refine ⟨eq_of_beq (hclosed.accepts_coarsest _), fun i decimal hgrid hread => ?_⟩
  have haccepts : (reading decimal == t.units) = true := beq_iff_eq.2 hread
  rcases Nat.lt_or_ge (Nat.toDigits 10 t.exactDecimal).length i with hlt | hle
  · have hunits := t.units_eq_zero_of_length_lt hlt hgrid hread
    have hexact : t.exactDecimal = 0 := by rw [exactDecimal, hunits, Nat.zero_mul]
    rw [hexact] at hclosed
    rw [shortest, hexact, hclosed.coarsest_zero, Nat.dist_self]
    exact ⟨Nat.dvd_zero _, fun _ => Nat.zero_le _⟩
  · refine ⟨hclosed.dvd_coarsest hle hgrid haccepts, fun hcoarser => ?_⟩
    exact hclosed.dist_coarsest_le hle hgrid haccepts fun other hother =>
      beq_eq_false_iff_ne.2 (hcoarser other hother)

/-- The last place of a time of more than three months is that of the binary number. -/
example : (ofNanoseconds 1500000).text = "1.5" ∧
    (ofNanoseconds 9007199254740993).text = "9007199254.740992" := by decide +kernel

end Milliseconds

end CosmacVip
