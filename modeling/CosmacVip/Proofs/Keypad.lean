import CosmacVip.Proofs.Words.Host
import Mathlib.Data.List.Induction
import Mathlib.Data.Nat.BitIndices
import Mathlib.Order.Bounds.Basic

/-!
A set of keys after any changes.

The set is kept as sixteen bits, and a key is changed by a mask. All that can be asked of it is as if the
keys that are down were written down:

* `KeySet.Change`, `KeySet.after`: changes of a set, and what they make of the empty one;
* `KeySet.lastChange?`: the last change that concerns a key;
* `KeySet.isDown_after`: that change alone decides whether the key is down;
* `KeySet.bitIndices_bits`: the bits that are set are those of the listed keys;
* `KeySet.last_change_decides`: what a set answers after any changes.
-/

namespace CosmacVip

/-- The keys are those of the codes below sixteen, in ascending order. -/
lemma Key.all_eq_filterMap :
    Key.all = (List.range 16).filterMap fun code => Key.ofByte? (.ofNat code) := by
  decide

namespace KeySet

variable {s t : KeySet} {j k : Key}

/-- One change of a set of keys. -/
inductive Change where
  | set (k : Key) (down : Bool)
  /-- All keys up. -/
  | clear
deriving DecidableEq

/-- The set after a change. -/
def change (s : KeySet) : Change → KeySet
  | .set k down => s.set k down
  | .clear => empty

/-- What changes in turn make of a set with all keys up. -/
def after (changes : List Change) : KeySet := changes.foldl change empty

/-- Whether a change is of the given key, or of all keys. -/
def Change.concerns (k : Key) : Change → Bool
  | .set j _ => j == k
  | .clear => true

/-- The last change that concerns a key. -/
def lastChange? (k : Key) (changes : List Change) : Option Change :=
  (changes.filter (·.concerns k)).getLast?

/-! ### One key among others -/

/-- Sets with the same keys down are equal. -/
lemma ext_isDown (h : ∀ k, s.isDown k = t.isDown k) : s = t := by
  obtain ⟨s⟩ := s
  obtain ⟨t⟩ := t
  exact congrArg mk (BitVec.eq_of_getLsbD_eq fun i hi => h ⟨i, hi⟩)

/-- A key that is set leaves the others as they are. -/
lemma isDown_set_of_ne (s : KeySet) (h : j ≠ k) (down : Bool) :
    (s.set k down).isDown j = s.isDown j := by
  rw [isDown_set, if_neg h]

/-- Different keys may be set in either order. -/
lemma set_set_comm (s : KeySet) (h : j ≠ k) (a b : Bool) :
    (s.set j a).set k b = (s.set k b).set j a := by
  apply ext_isDown
  intro i
  rw [isDown_set, isDown_set, isDown_set, isDown_set]
  by_cases hk : i = k
  · have hj : i ≠ j := fun hj => h (hj.symm.trans hk)
    rw [if_pos hk, if_pos hk, if_neg hj]
  · rw [if_neg hk, if_neg hk]

/-! ### The last change of a key -/

lemma isDown_change (s : KeySet) (c : Change) (k : Key) :
    (s.change c).isDown k = if c.concerns k then c == .set k true else s.isDown k := by
  cases c with
  | clear => exact isDown_empty k
  | set j down =>
      rw [change, isDown_set]
      by_cases h : j = k
      · subst h
        cases down <;> simp [Change.concerns]
      · simp [Change.concerns, h, Ne.symm h]

lemma after_concat (changes : List Change) (c : Change) :
    after (changes ++ [c]) = (after changes).change c :=
  List.foldl_concat change empty c changes

lemma lastChange?_concat (k : Key) (changes : List Change) (c : Change) :
    lastChange? k (changes ++ [c]) = if c.concerns k then some c else lastChange? k changes := by
  rw [lastChange?, List.filter_append]
  by_cases h : c.concerns k <;> simp [h, lastChange?]

/-- A key is down if the last change that concerns it puts it down, and only then. -/
lemma isDown_after (changes : List Change) (k : Key) :
    (after changes).isDown k = true ↔ lastChange? k changes = some (.set k true) := by
  induction changes using List.reverseRecOn with
  | nil => simp [after, lastChange?]
  | append_singleton changes c ih =>
      rw [after_concat, isDown_change, lastChange?_concat]
      by_cases h : c.concerns k
      · rw [if_pos h, if_pos h, beq_iff_eq, Option.some_inj]
      · rw [if_neg h, if_neg h, ih]

/-! ### The keys that are down -/

lemma sortedLT_toList (s : KeySet) : s.toList.SortedLT :=
  ((List.pairwise_lt_finRange 16).filter s.isDown).sortedLT

/-- The bits that are set are those of the listed keys, in the same order. -/
lemma bitIndices_bits (s : KeySet) : s.bits.toNat.bitIndices = s.toList.map Fin.val := by
  have hsorted : (s.toList.map Fin.val).SortedLT :=
    (s.sortedLT_toList.pairwise.map Fin.val fun _ _ h => h).sortedLT
  apply Nat.bitIndices_sorted.eq_of_mem_iff hsorted
  intro i
  rw [Nat.mem_bitIndices, BitVec.testBit_toNat, List.mem_map]
  constructor
  · intro h
    exact ⟨⟨i, BitVec.lt_of_getLsbD h⟩, mem_toList.2 h, rfl⟩
  · rintro ⟨k, hk, rfl⟩
    exact mem_toList.1 hk

lemma toNat_bits (s : KeySet) : s.bits.toNat = (s.toList.map fun k => 2 ^ k.val).sum := by
  have h := Nat.sum_map_two_pow_bitIndices s.bits.toNat
  rw [bitIndices_bits, List.map_map] at h
  exact h.symm

lemma toList_eq_nil_iff : s.toList = [] ↔ s = empty := by
  constructor
  · intro h
    apply ext_isDown
    intro k
    rw [isDown_empty, ← Bool.not_eq_true, ← mem_toList, h]
    exact List.not_mem_nil
  · rintro rfl
    rw [List.eq_nil_iff_forall_not_mem]
    intro k hk
    simpa using mem_toList.1 hk

/-- Some key is down unless none is listed. -/
lemma any_iff (s : KeySet) : s.any = true ↔ s.toList ≠ [] := by
  rw [ne_eq, toList_eq_nil_iff, any, bne_iff_ne]
  obtain ⟨bits⟩ := s
  simp [empty]

/-- The first key is the least of those that are down. -/
lemma first?_eq_some_iff (s : KeySet) (k : Key) :
    s.first? = some k ↔ IsLeast {j | s.isDown j = true} k := by
  have hsorted := s.sortedLT_toList.pairwise
  have hmem (j : Key) : s.isDown j = true ↔ j ∈ s.toList := mem_toList.symm
  simp only [first?, hmem]
  cases hlist : s.toList with
  | nil => simp [IsLeast]
  | cons a rest =>
      rw [hlist] at hsorted
      have hleast : IsLeast {j | j ∈ a :: rest} a := by
        refine ⟨List.mem_cons_self, fun j hj => ?_⟩
        rcases List.mem_cons.1 hj with rfl | hrest
        · exact le_rfl
        · exact le_of_lt (List.rel_of_pairwise_cons hsorted hrest)
      rw [List.head?_cons, Option.some_inj, hleast.isLeast_iff_eq]

end KeySet

/-! ### In words -/

namespace Words.State

variable {size : Display.Size}

/-- The machine after a change of its keys, by a mask of a single bit. -/
def changeKeys (w : State) : KeySet.Change → Checked State
  | .set k down => w.setBit k down
  | .clear => return w.clearKeys

lemma changeKeys_ofMachine (m : Machine size) (c : KeySet.Change) :
    (ofMachine m).changeKeys c = pure (ofMachine { m with keys := m.keys.change c }) := by
  cases c with
  | set k down => exact setBit_ofMachine m k down
  | clear => rfl

/-- No shift of a bit to the place of a key leaves the word. -/
lemma foldlM_changeKeys (m : Machine size) (changes : List KeySet.Change) :
    changes.foldlM changeKeys (ofMachine m) =
      pure (ofMachine { m with keys := changes.foldl KeySet.change m.keys }) := by
  induction changes generalizing m with
  | nil => rfl
  | cons c changes ih => rw [List.foldlM_cons, changeKeys_ofMachine, pure_bind, ih, List.foldl_cons]

end Words.State

namespace KeySet

open Words.State (ofMachine changeKeys)

/-- **A set of keys is what the last change of each key makes it.** After any changes of a set with all
keys up, a key is down exactly if the last change that concerns it puts it down. The keys that are down are
listed, each once and in ascending order, from those of the codes below sixteen; the first of them is the
least, there are any unless none is listed, and the bits are the sum of their powers of two. To set a key
changes no other, so that different keys may be set in either order. In a machine in words the same
changes, by shifts and masks of its sixteen bits, come to the same bits without a trap, and the test of a
bit tells whether its key is down. -/
theorem last_change_decides {size : Display.Size} (m : Machine size) (changes : List Change) :
    let s := after changes
    (∀ k, s.isDown k = true ↔ lastChange? k changes = some (.set k true)) ∧
      (∀ k, k ∈ s.toList ↔ s.isDown k = true) ∧
      s.toList.Pairwise (· < ·) ∧
      s.toList = ((List.range 16).filterMap fun code => Key.ofByte? (.ofNat code)).filter s.isDown ∧
      (∀ k, s.first? = some k ↔ IsLeast {j | s.isDown j = true} k) ∧
      (s.any = true ↔ s.toList ≠ []) ∧
      s.bits.toNat = (s.toList.map fun k => 2 ^ k.val).sum ∧
      (∀ j k, j ≠ k → ∀ a b,
        (s.set k b).isDown j = s.isDown j ∧ (s.set j a).set k b = (s.set k b).set j a) ∧
      changes.foldlM changeKeys (ofMachine { m with keys := empty }) =
        pure (ofMachine { m with keys := s }) ∧
      (ofMachine { m with keys := s }).keys.toNat = s.bits.toNat ∧
      ∀ k, (ofMachine { m with keys := s }).isDown k = pure (s.isDown k) := by
  intro s
  have hcodes : s.toList =
      ((List.range 16).filterMap fun code => Key.ofByte? (.ofNat code)).filter s.isDown := by
    rw [← Key.all_eq_filterMap, toList]
  have hset (j k : Key) (h : j ≠ k) (a b : Bool) :
      (s.set k b).isDown j = s.isDown j ∧ (s.set j a).set k b = (s.set k b).set j a :=
    ⟨isDown_set_of_ne s h b, set_set_comm s h a b⟩
  exact ⟨isDown_after changes, fun _ => mem_toList, s.sortedLT_toList.pairwise, hcodes,
    s.first?_eq_some_iff, s.any_iff, s.toNat_bits, hset,
    Words.State.foldlM_changeKeys { m with keys := empty } changes, rfl,
    Words.State.isDown_ofMachine { m with keys := s }⟩

end KeySet

end CosmacVip
