import CosmacVip.Proofs.Controls
import Mathlib.Data.List.Chain

/-!
What the events say of each key, from the first to the last.

* `reports`: what some events say of a key, in turn;
* `Balanced`: presses and releases alternate, a press being the first, and the last one says
  whether the key is held;
* `Controls.IsBalanced.perform`: every call on controls but a drain keeps this of the events that
  are pending;
* `Intake`: controls, and what was drained of them since they were last cleared;
* `Intake.undrained_performAll`: draining moves events and changes nothing else;
* `Intake.reports_balanced`: whatever is done with controls, the events that were drained and
  those that are pending are balanced for each key, and they are the same whenever and however
  often they are drained; each drain delivers all that are pending.
-/

namespace CosmacVip

/-- What events say of a key, in turn. -/
def reports (k : Key) (events : List InputEvent) : List Bool := events.filterMap (·.report k)

@[simp] lemma reports_nil (k : Key) : reports k [] = [] := rfl

@[simp] lemma reports_append (k : Key) (events more : List InputEvent) :
    reports k (events ++ more) = reports k events ++ reports k more :=
  List.filterMap_append

@[simp] lemma reports_self (k : Key) (down : Bool) : reports k [.key k down] = [down] := by
  simp [reports, InputEvent.report]

lemma reports_of_ne {j k : Key} (h : k ≠ j) (down : Bool) : reports j [.key k down] = [] := by
  simp [reports, InputEvent.report, h]

/-- Presses and releases of a key alternate, a press being the first, and the key is held exactly
if a press is the last. -/
structure Balanced (said : List Bool) (held : Bool) : Prop where
  alternate : said.IsChain (· ≠ ·)
  press_first : said.head? ≠ some false
  press_last_iff : said.getLast? = some true ↔ held = true

namespace Balanced

variable {said : List Bool} {held : Bool}

lemma nil : Balanced [] false where
  alternate := .nil
  press_first := by simp
  press_last_iff := by simp

/-- The last report is a release, or there was none, exactly if the key is not held. -/
lemma getLast?_eq (h : Balanced said held) : said.getLast?.getD false = held := by
  have hlast := h.press_last_iff
  cases hs : said.getLast? with
  | none => simp_all
  | some down => cases down <;> simp_all

/-- A report that changes whether the key is held. -/
lemma report (h : Balanced said held) : Balanced (said ++ [!held]) !held where
  alternate := by
    refine List.isChain_append.2 ⟨h.alternate, .singleton _, fun last hlast next hnext => ?_⟩
    obtain rfl : (!held) = next := by simpa using hnext
    have heq : last = held := by
      rw [← h.getLast?_eq, Option.mem_def.1 hlast, Option.getD_some]
    rw [heq]
    exact (Bool.not_ne_self held).symm
  press_first := by
    cases said with
    | nil =>
        obtain rfl : held = false := by simpa using h.press_last_iff
        simp
    | cons first rest => simpa using h.press_first
  press_last_iff := by simp

end Balanced

/-! ### Calls on controls -/

namespace Controls

/-- What the pending events say of each key is balanced. -/
def IsBalanced (c : Controls) : Prop := ∀ k, Balanced (reports k c.pending) (c.isHeld k)

variable {c d : Controls}

/-- A key comes to be held or released, and an event says so if it was not before. -/
lemma IsBalanced.report (h : c.IsBalanced) {k : Key} {down : Bool}
    (hheld : ∀ j, d.isHeld j = if j = k then down else c.isHeld j)
    (hpending : d.pending = c.pending ++ if c.isHeld k = down then [] else [.key k down]) :
    d.IsBalanced := by
  intro j
  rw [hheld, hpending]
  by_cases hj : j = k
  · subst hj
    by_cases hc : c.isHeld j = down
    · simpa [hc] using h j
    · have hdown : down = !c.isHeld j := Bool.eq_not.2 (Ne.symm hc)
      simpa [hdown] using (h j).report
  · have hkj : k ≠ j := fun e => hj e.symm
    by_cases hc : c.isHeld k = down <;> simpa [hj, hc, reports_of_ne hkj] using h j

lemma IsBalanced.press (h : c.IsBalanced) (k : Key) (now : Nat) : (c.press k now).IsBalanced :=
  h.report (fun j => isHeld_press c k j now) (pending_press c k now)

lemma IsBalanced.release (h : c.IsBalanced) (k : Key) : (c.release k).IsBalanced := by
  refine h.report (fun j => isHeld_release c k j) ?_
  rw [pending_release]
  cases c.isHeld k <;> rfl

lemma IsBalanced.push (h : c.IsBalanced) (k : HostKey) (down : Bool) (now : Nat) :
    (c.push k down now).IsBalanced := by
  unfold Controls.push
  split
  · exact h.press _ now
  · exact h.release _
  · intro j
    simpa [reports, InputEvent.report] using h j
  · exact h
  · exact h

/-- After a report of a host key that stands for a key, the key is held or not as was reported. -/
lemma isHeld_push (c : Controls) {host : HostKey} {k : Key} {down : Bool} (now : Nat)
    (h : c.resolve host = .key k) : (c.push host down now).isHeld k = down := by
  unfold Controls.push
  rw [h]
  cases down with
  | true => exact (isHeld_press c k k now).trans (if_pos rfl)
  | false => exact (isHeld_release c k k).trans (if_pos rfl)

lemma IsBalanced.foldl_release (h : c.IsBalanced) (ks : List Key) :
    (ks.foldl Controls.release c).IsBalanced := by
  induction ks generalizing c with
  | nil => exact h
  | cons k ks ih => exact ih (h.release k)

/-- Cleared controls hold no key, and no event of theirs is pending. -/
lemma isBalanced_clear (c : Controls) : c.clear.IsBalanced := by
  intro k
  have hheld : c.clear.isHeld k = false := by simp [clear, isHeld]
  rw [hheld]
  exact .nil

lemma isBalanced_ofDefinitions (definitions : List KeyDefinition) (hold : Nat) :
    (ofDefinitions definitions hold).IsBalanced :=
  isBalanced_clear (ofDefinitions definitions hold)

/-- Events that are not drained stay balanced. -/
lemma IsBalanced.perform (h : c.IsBalanced) {call : Call} (hcall : call ≠ .drain) :
    (c.perform call).IsBalanced := by
  cases call with
  | push k down now => exact h.push k down now
  | expire now => exact h.foldl_release (c.lapsed now)
  | drain => contradiction
  | clear => exact c.isBalanced_clear

lemma IsBalanced.performAll (h : c.IsBalanced) {calls : List Call} (hcalls : .drain ∉ calls) :
    (c.performAll calls).IsBalanced := by
  induction calls generalizing c with
  | nil => exact h
  | cons call calls ih =>
      obtain ⟨hhead, hrest⟩ := not_or.1 (List.mem_cons.not.1 hcalls)
      exact ih (h.perform (Ne.symm hhead)) hrest

/-! ### Events from before -/

/-- The controls with events before those that are pending. -/
def after (c : Controls) (earlier : List InputEvent) : Controls :=
  { c with pending := earlier ++ c.pending }

variable (c) (earlier : List InputEvent)

lemma emit_after (e : InputEvent) : (c.after earlier).emit e = (c.emit e).after earlier := by
  simp [emit, after]

/-- What is held does not depend on the events from before. -/
lemma isHeld_after (k : Key) : (c.after earlier).isHeld k = c.isHeld k := rfl

lemma press_after (k : Key) (now : Nat) :
    (c.after earlier).press k now = (c.press k now).after earlier := by
  rw [Controls.press, Controls.press, isHeld_after]
  split
  · rfl
  · exact emit_after (c.mark k (some now)) earlier _

lemma release_after (k : Key) : (c.after earlier).release k = (c.release k).after earlier := by
  rw [Controls.release, Controls.release, isHeld_after]
  split
  · exact emit_after (c.mark k none) earlier _
  · rfl

lemma push_after (k : HostKey) (down : Bool) (now : Nat) :
    (c.after earlier).push k down now = (c.push k down now).after earlier := by
  have hresolve : (c.after earlier).resolve k = c.resolve k := rfl
  unfold Controls.push
  rw [hresolve]
  split
  · exact c.press_after earlier _ now
  · exact c.release_after earlier _
  · exact c.emit_after earlier _
  · rfl
  · rfl

lemma foldl_release_after (ks : List Key) :
    ks.foldl Controls.release (c.after earlier) = (ks.foldl Controls.release c).after earlier := by
  induction ks generalizing c with
  | nil => rfl
  | cons k ks ih => rw [List.foldl_cons, List.foldl_cons, release_after, ih]

lemma expire_after (now : Nat) : (c.after earlier).expire now = (c.expire now).after earlier :=
  c.foldl_release_after earlier (c.lapsed now)

end Controls

/-! ### Draining -/

/-- Controls, and the events that were drained of them since they were last cleared. -/
structure Intake where
  controls : Controls
  drained : List InputEvent

namespace Intake

open Controls (Call)

/-- New controls, of which nothing is drained. -/
def ofDefinitions (definitions : List KeyDefinition) (hold : Nat) : Intake :=
  ⟨.ofDefinitions definitions hold, []⟩

/-- What is drained after a call; clearing starts over. -/
def drainedAfter (s : Intake) : Call → List InputEvent
  | .drain => s.drained ++ s.controls.drain.1
  | .clear => []
  | _ => s.drained

/-- The controls after a call, and what is drained of them. -/
def perform (s : Intake) (call : Call) : Intake := ⟨s.controls.perform call, s.drainedAfter call⟩

/-- The controls after calls in turn, and what is drained of them. -/
def performAll (s : Intake) (calls : List Call) : Intake := calls.foldl perform s

/-- All events since the controls were last cleared: first those that were drained, then those
that are pending. -/
def events (s : Intake) : List InputEvent := s.drained ++ s.controls.pending

/-- The controls as if nothing had been drained. -/
def undrained (s : Intake) : Controls := s.controls.after s.drained

/-- Draining makes no difference to the controls with all their events; every other call makes
the same difference as without it. -/
lemma undrained_perform (s : Intake) (call : Call) :
    (s.perform call).undrained =
      if call = .drain then s.undrained else s.undrained.perform call := by
  cases call with
  | push k down now => exact (s.controls.push_after s.drained k down now).symm
  | expire now => exact (s.controls.expire_after s.drained now).symm
  | drain =>
      simp [undrained, perform, drainedAfter, Controls.perform, Controls.drain, Controls.after]
  | clear => rfl

/-- The calls in turn, without the drains. -/
lemma undrained_performAll (s : Intake) (calls : List Call) :
    (s.performAll calls).undrained = s.undrained.performAll (calls.filter (· ≠ .drain)) := by
  induction calls generalizing s with
  | nil => rfl
  | cons call calls ih =>
      have hcons : s.performAll (call :: calls) = (s.perform call).performAll calls := rfl
      rw [hcons, ih, undrained_perform]
      by_cases hdrain : call = .drain <;> simp [hdrain, Controls.performAll_cons]

/-- A drain delivers all pending events and leaves none. -/
lemma perform_drain (s : Intake) :
    (s.perform .drain).drained = s.drained ++ s.controls.pending ∧
      (s.perform .drain).controls.pending = [] :=
  ⟨rfl, rfl⟩

/-- **What is said of each key.** Any definitions of keys and any hold time; after any reports of
host keys, any passing of time and any drains, in any order and with any times, take all events
since the controls were made or last cleared, those that were drained before those that are
pending. Of each key, they are presses and releases in turn, a press being the first, and the key
is held exactly if a press is the last. None is lost: after a report of a host key that stands for
it, the key is held or not as was reported. They are the same whenever and however often they are
drained, and each drain delivers all that are pending and leaves none. -/
theorem reports_balanced (definitions : List KeyDefinition) (hold : Nat) (calls : List Call) :
    let s := (ofDefinitions definitions hold).performAll calls
    (∀ k, Balanced (reports k s.events) (s.controls.isHeld k)) ∧
      (∀ host k down now, s.controls.resolve host = .key k →
        (s.perform (.push host down now)).controls.isHeld k = down) ∧
      ((s.perform .drain).drained = s.drained ++ s.controls.pending ∧
        (s.perform .drain).controls.pending = []) ∧
      ∀ others : List Call, others.filter (· ≠ .drain) = calls.filter (· ≠ .drain) →
        ((ofDefinitions definitions hold).performAll others).events = s.events := by
  intro s
  have hs : s.undrained = _ := undrained_performAll (ofDefinitions definitions hold) calls
  refine ⟨?_, fun host k down now => s.controls.isHeld_push now, s.perform_drain,
    fun others hothers => ?_⟩
  · have hnone : .drain ∉ calls.filter (· ≠ .drain) := by simp
    have hbalanced : s.undrained.IsBalanced := by
      rw [hs]
      exact (Controls.isBalanced_ofDefinitions definitions hold).performAll hnone
    exact hbalanced
  · have hothers' := undrained_performAll (ofDefinitions definitions hold) others
    rw [hothers, ← hs] at hothers'
    exact congrArg Controls.pending hothers'

/-- Two host keys that stand for one keypad key. -/
def sharedKey : List KeyDefinition :=
  [{ key := some (.ofNibble 0x4), hostKeys := some [.char 'q', .tab] }]

/-- The key is pressed with one of them, repeated at an earlier time and released with the other,
and the hold time ends a second press; in between some events are drained. -/
def sharedKeyCalls : List Call :=
  [.push (.char 'q') true 50, .drain, .push .tab true 10, .push .tab false 20,
    .push (.char 'q') false 30, .push .tab true 40, .drain, .expire 140]

/-- The two presses and the two releases, with the drains and without. -/
theorem reports_balanced_shared_key :
    let s := (ofDefinitions sharedKey 100).performAll sharedKeyCalls
    let others := sharedKeyCalls.filter (· ≠ .drain)
    others.filter (· ≠ .drain) = sharedKeyCalls.filter (· ≠ .drain) ∧
      s.events = [.key 4 true, .key 4 false, .key 4 true, .key 4 false] ∧
      Balanced (reports 4 s.events) (s.controls.isHeld 4) ∧
      s.controls.resolve .tab = .key 4 ∧
      (s.perform (.push .tab true 150)).controls.isHeld 4 = true ∧
      (s.perform .drain).drained = s.drained ++ [.key 4 false] ∧
      (s.perform .drain).controls.pending = [] ∧
      ((ofDefinitions sharedKey 100).performAll others).events = s.events := by
  intro s others
  obtain ⟨hbalanced, hreported, ⟨hdrained, hleft⟩, hsame⟩ :=
    reports_balanced sharedKey 100 sharedKeyCalls
  have hothers : others.filter (· ≠ .drain) = sharedKeyCalls.filter (· ≠ .drain) := by decide
  have htab : s.controls.resolve .tab = .key 4 := by decide +kernel
  have hpending : s.controls.pending = [.key 4 false] := by decide +kernel
  rw [hpending] at hdrained
  exact ⟨hothers, by decide +kernel, hbalanced 4, htab, hreported .tab 4 true 150 htab, hdrained, hleft,
    hsame others hothers⟩

end Intake

end CosmacVip
