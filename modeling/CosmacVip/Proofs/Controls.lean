import CosmacVip.Controls
import Mathlib.Data.List.FinRange
import Mathlib.Tactic.Lemma

/-!
Keys that are held, and the events that say so.

* `InputEvent.report`: what an event says of a key;
* `Controls.since?`: when a key that is held was last reported;
* `Controls.since?_press`, `Controls.pending_press`, `Controls.since?_release`,
  `Controls.pending_release`: a report of a keypad key, in the keys that are held and in the
  events;
* `Controls.mem_lapsed`, `Controls.since?_expire`, `Controls.pending_expire`: the passing of
  time;
* `Controls.exists_mem_lapsed_iff`: every key that is held can lapse;
* `Controls.Call`, `Controls.perform`, `Controls.performAll`: the operations on controls, and the
  controls after one and after several in turn;
* `Controls.clear_perform`: bindings and hold time stay as they are.
-/

namespace CosmacVip

/-- What an event says of a key. -/
def InputEvent.report (k : Key) : InputEvent → Option Bool
  | .key j down => if j = k then some down else none
  | .action _ => none

namespace Controls

/-! ### Reports of a key -/

/-- When a key that is held was last reported. -/
def since? (c : Controls) (k : Key) : Option Nat := c.held.get k

lemma isHeld_iff {c : Controls} {k : Key} : c.isHeld k = true ↔ ∃ since, c.since? k = some since :=
  Option.isSome_iff_exists

lemma isHeld_of_since? {c : Controls} {k : Key} {since : Nat} (h : c.since? k = some since) :
    c.isHeld k = true :=
  isHeld_iff.2 ⟨since, h⟩

lemma since?_clear (c : Controls) (k : Key) : c.clear.since? k = none :=
  Vector.getElem_replicate k.isLt

lemma since?_mark (c : Controls) (k j : Key) (since : Option Nat) :
    (c.mark k since).since? j = if j = k then since else c.since? j := by
  show (c.held.set k since)[j] = if j = k then since else c.held[j]
  by_cases h : j = k
  · subst h
    simp
  · have hkj : k.val ≠ j.val := fun e => h (Fin.ext e.symm)
    simp [h, hkj]

lemma since?_press (c : Controls) (k j : Key) (now : Nat) :
    (c.press k now).since? j = if j = k then some now else c.since? j := by
  rw [press]
  split
  · exact c.since?_mark k j (some now)
  · exact c.since?_mark k j (some now)

lemma since?_release (c : Controls) (k j : Key) :
    (c.release k).since? j = if j = k then none else c.since? j := by
  rw [release]
  split
  case isTrue => exact c.since?_mark k j none
  case isFalse h =>
    split_ifs with hj
    · subst hj
      exact Option.not_isSome_iff_eq_none.1 h
    · rfl

@[simp] lemma isHeld_emit (c : Controls) (e : InputEvent) (k : Key) :
    (c.emit e).isHeld k = c.isHeld k := rfl

@[simp] lemma pending_emit (c : Controls) (e : InputEvent) :
    (c.emit e).pending = c.pending ++ [e] := rfl

@[simp] lemma pending_mark (c : Controls) (k : Key) (since : Option Nat) :
    (c.mark k since).pending = c.pending := rfl

lemma isHeld_press (c : Controls) (k j : Key) (now : Nat) :
    (c.press k now).isHeld j = if j = k then true else c.isHeld j := by
  show ((c.press k now).since? j).isSome = _
  rw [since?_press, apply_ite Option.isSome]
  rfl

lemma pending_press (c : Controls) (k : Key) (now : Nat) :
    (c.press k now).pending = c.pending ++ if c.isHeld k then [] else [.key k true] := by
  rw [press]
  split <;> simp

lemma isHeld_release (c : Controls) (k j : Key) :
    (c.release k).isHeld j = if j = k then false else c.isHeld j := by
  show ((c.release k).since? j).isSome = _
  rw [since?_release, apply_ite Option.isSome]
  rfl

lemma pending_release (c : Controls) (k : Key) :
    (c.release k).pending = c.pending ++ if c.isHeld k then [.key k false] else [] := by
  rw [release]
  split <;> simp

/-! ### The passing of time -/

lemma mem_lapsed {c : Controls} {now : Nat} {k : Key} :
    k ∈ c.lapsed now ↔ ∃ since, c.since? k = some since ∧ c.hold ≤ now - since := by
  simp only [lapsed, Key.all, List.mem_filter, List.mem_finRange, true_and, Option.any_eq_true,
    decide_eq_true_eq]
  exact Iff.rfl

lemma nodup_lapsed (c : Controls) (now : Nat) : (c.lapsed now).Nodup :=
  (List.nodup_finRange 16).filter _

lemma isHeld_of_mem_lapsed {c : Controls} {now : Nat} {k : Key} (h : k ∈ c.lapsed now) :
    c.isHeld k = true := by
  obtain ⟨since, hk, -⟩ := mem_lapsed.1 h
  exact isHeld_of_since? hk

/-- Just the keys that are held can lapse. -/
lemma exists_mem_lapsed_iff {c : Controls} {k : Key} :
    (∃ now, k ∈ c.lapsed now) ↔ c.isHeld k = true := by
  constructor
  · rintro ⟨now, h⟩
    exact isHeld_of_mem_lapsed h
  · intro h
    obtain ⟨since, hk⟩ := isHeld_iff.1 h
    refine ⟨since + c.hold, mem_lapsed.2 ⟨since, hk, ?_⟩⟩
    omega

lemma since?_foldl_release (c : Controls) (ks : List Key) (k : Key) :
    (ks.foldl release c).since? k = if k ∈ ks then none else c.since? k := by
  induction ks generalizing c with
  | nil => simp
  | cons j ks ih =>
      rw [List.foldl_cons, ih, since?_release]
      by_cases hks : k ∈ ks <;> by_cases hj : k = j <;> simp [hks, hj]

/-- Keys that are held and differ are released one by one, each with its event. -/
lemma pending_foldl_release {ks : List Key} (hnodup : ks.Nodup) {c : Controls}
    (hheld : ∀ k ∈ ks, c.isHeld k = true) :
    (ks.foldl release c).pending = c.pending ++ ks.map (.key · false) := by
  induction ks generalizing c with
  | nil => simp
  | cons j ks ih =>
      obtain ⟨hj, hks⟩ := List.nodup_cons.1 hnodup
      have hrest : ∀ k ∈ ks, (c.release j).isHeld k = true := by
        intro k hk
        have hkj : k ≠ j := fun e => hj (e ▸ hk)
        rw [isHeld_release, if_neg hkj]
        exact hheld k (List.mem_cons_of_mem _ hk)
      rw [List.foldl_cons, ih hks hrest, pending_release, if_pos (hheld j List.mem_cons_self)]
      simp

/-- The passing of time leaves the keys that were reported less than the hold time ago. -/
lemma since?_expire (c : Controls) (now : Nat) (k : Key) :
    (c.expire now).since? k = (c.since? k).filter fun since => now - since < c.hold := by
  rw [expire, since?_foldl_release]
  cases h : c.since? k with
  | none => simp
  | some since =>
      have hmem : k ∈ c.lapsed now ↔ ¬ now - since < c.hold := by simp [mem_lapsed, h]
      by_cases hlt : now - since < c.hold <;> simp [hmem, hlt, Option.filter]

lemma isHeld_expire (c : Controls) (now : Nat) (k : Key) :
    (c.expire now).isHeld k = if k ∈ c.lapsed now then false else c.isHeld k := by
  show ((c.expire now).since? k).isSome = _
  rw [expire, since?_foldl_release, apply_ite Option.isSome]
  rfl

lemma pending_expire (c : Controls) (now : Nat) :
    (c.expire now).pending = c.pending ++ (c.lapsed now).map (.key · false) :=
  pending_foldl_release (c.nodup_lapsed now) fun _ => isHeld_of_mem_lapsed

/-! ### Calls -/

/-- One operation on controls. -/
inductive Call where
  /-- A report of a host key, with its time. -/
  | push (k : HostKey) (down : Bool) (now : Nat)
  | expire (now : Nat)
  | drain
  | clear
deriving DecidableEq

/-- The controls after a call. -/
def perform (c : Controls) : Call → Controls
  | .push k down now => c.push k down now
  | .expire now => c.expire now
  | .drain => c.drain.2
  | .clear => c.clear

/-- The controls after calls in turn. -/
def performAll (c : Controls) (calls : List Call) : Controls := calls.foldl perform c

lemma performAll_cons (c : Controls) (call : Call) (calls : List Call) :
    c.performAll (call :: calls) = (c.perform call).performAll calls := rfl

lemma clear_press (c : Controls) (k : Key) (now : Nat) : (c.press k now).clear = c.clear := by
  rw [press]
  split <;> rfl

lemma clear_release (c : Controls) (k : Key) : (c.release k).clear = c.clear := by
  rw [release]
  split <;> rfl

lemma clear_push (c : Controls) (k : HostKey) (down : Bool) (now : Nat) :
    (c.push k down now).clear = c.clear := by
  unfold push
  split
  · exact c.clear_press _ now
  · exact c.clear_release _
  all_goals rfl

lemma clear_foldl_release (c : Controls) (ks : List Key) : (ks.foldl release c).clear = c.clear := by
  induction ks generalizing c with
  | nil => rfl
  | cons k ks ih => rw [List.foldl_cons, ih, clear_release]

/-- Bindings and hold time, which are all that clearing leaves, are the same after any call. -/
lemma clear_perform (c : Controls) (call : Call) : (c.perform call).clear = c.clear := by
  cases call with
  | push k down now => exact c.clear_push k down now
  | expire now => exact c.clear_foldl_release (c.lapsed now)
  | drain => rfl
  | clear => rfl

end Controls

end CosmacVip
