import CosmacVip.Proofs.Controls.Reports
import Mathlib.Data.List.Sort

/-!
How long keys are held.

The controls keep one time for each key. That is as good as the whole history:

* `Controls.Spares`: what leaves a key held that was last pressed at a time;
* `Controls.since?_performAll_iff`: a key is held since a time exactly if it was pressed at that
  time, and all that came later spared it;
* `Controls.reports_perform`: the events say of a key just when it comes to be held or released;
* `Controls.Refreshed`: presses that come before the hold time is over;
* `Intake.held_since_last_press`: which keys are held after any calls, what the passing of time
  releases, and what is said of a key that is refreshed.
-/

namespace CosmacVip

namespace Controls

variable {c d : Controls} {k : Key} {t : Nat} {calls : List Call}

/-! ### The bindings and the hold time -/

lemma clear_performAll (c : Controls) (calls : List Call) :
    (c.performAll calls).clear = c.clear := by
  induction calls generalizing c with
  | nil => rfl
  | cons call calls ih => rw [performAll_cons, ih, clear_perform]

/-- What a host key means depends on nothing that clearing takes away. -/
lemma resolve_of_clear (h : d.clear = c.clear) (host : HostKey) :
    d.resolve host = c.resolve host := by
  show d.clear.resolve host = c.clear.resolve host
  rw [h]

lemma hold_of_clear (h : d.clear = c.clear) : d.hold = c.hold := by
  show d.clear.hold = c.clear.hold
  rw [h]

/-! ### Held since the last press -/

/-- Whether a call leaves a key held that was last pressed at a time: it reports nothing of that
key, it does not clear the controls, and it lets less than the hold time go by since then. -/
def Spares (c : Controls) (k : Key) (t : Nat) : Call → Prop
  | .push host _ _ => c.resolve host ≠ .key k
  | .expire now => now - t < c.hold
  | .drain => True
  | .clear => False

lemma spares_of_clear (h : d.clear = c.clear) (call : Call) :
    d.Spares k t call ↔ c.Spares k t call := by
  cases call with
  | push host down now => simp only [Spares, resolve_of_clear h]
  | expire now => simp only [Spares, hold_of_clear h]
  | drain | clear => rfl

lemma since?_push (c : Controls) (host : HostKey) (down : Bool) (now : Nat) (k : Key) :
    (c.push host down now).since? k =
      if c.resolve host = .key k then (if down then some now else none) else c.since? k := by
  unfold push
  cases c.resolve host with
  | key j => cases down <;> simp [since?_press, since?_release, eq_comm]
  | action name => cases down <;> simp [emit, since?]
  | nothing => simp

/-- A key is held since a time after a call if the call presses it then, or if it was held since
that time before and the call spares it. -/
lemma since?_perform_iff {call : Call} :
    (c.perform call).since? k = some t ↔
      (∃ host, call = .push host true t ∧ c.resolve host = .key k) ∨
        c.since? k = some t ∧ c.Spares k t call := by
  cases call with
  | push host down now =>
      rw [perform, since?_push]
      by_cases hk : c.resolve host = .key k
      · cases down <;> simp [hk, Spares, eq_comm]
      · simp [hk, Spares]
  | expire now => simp [perform, since?_expire, Spares, Option.filter_eq_some_iff]
  | drain => simp [perform, drain, since?, Spares]
  | clear => simp [perform, since?_clear, Spares]

/-- Whether the last press of a key among some calls was at a time, and what came later spared the
key. -/
def PressedSince (c : Controls) (k : Key) (t : Nat) (calls : List Call) : Prop :=
  ∃ before host after, calls = before ++ .push host true t :: after ∧
    c.resolve host = .key k ∧ ∀ call ∈ after, c.Spares k t call

lemma pressedSince_append_singleton (call : Call) :
    c.PressedSince k t (calls ++ [call]) ↔
      (∃ host, call = .push host true t ∧ c.resolve host = .key k) ∨
        c.PressedSince k t calls ∧ c.Spares k t call := by
  constructor
  · rintro ⟨before, host, after, hsplit, hhost, hspares⟩
    rcases List.eq_nil_or_concat' after with rfl | ⟨after, last, rfl⟩
    · obtain ⟨-, hcall⟩ := List.append_inj' hsplit rfl
      exact .inl ⟨host, List.singleton_inj.1 hcall, hhost⟩
    · rw [← List.cons_append, ← List.append_assoc] at hsplit
      obtain ⟨hcalls, hlast⟩ := List.append_inj' hsplit rfl
      obtain rfl := List.singleton_inj.1 hlast
      rw [List.forall_mem_append, List.forall_mem_singleton] at hspares
      exact .inr ⟨⟨before, host, after, hcalls, hhost, hspares.1⟩, hspares.2⟩
  · rintro (⟨host, rfl, hhost⟩ | ⟨⟨before, host, after, rfl, hhost, hspares⟩, hcall⟩)
    · exact ⟨calls, host, [], rfl, hhost, by simp⟩
    · refine ⟨before, host, after ++ [call], by simp, hhost, ?_⟩
      rw [List.forall_mem_append, List.forall_mem_singleton]
      exact ⟨hspares, hcall⟩

/-- The one time that is kept of a key says all that the history does. -/
lemma since?_performAll_iff (hnone : c.since? k = none) :
    (c.performAll calls).since? k = some t ↔ c.PressedSince k t calls := by
  induction calls using List.reverseRecOn with
  | nil => simp [performAll, hnone, PressedSince]
  | append_singleton calls call ih =>
      have hclear := c.clear_performAll calls
      have happend : c.performAll (calls ++ [call]) = (c.performAll calls).perform call :=
        List.foldl_concat ..
      rw [happend, since?_perform_iff, ih, pressedSince_append_singleton, spares_of_clear hclear]
      simp only [resolve_of_clear hclear]

/-! ### What time releases -/

/-- Time releases the keys that lapse. -/
lemma mem_lapsed_iff_released {now : Nat} :
    k ∈ c.lapsed now ↔ c.isHeld k = true ∧ (c.expire now).isHeld k = false := by
  rw [isHeld_expire]
  constructor
  · intro h
    exact ⟨isHeld_of_mem_lapsed h, if_pos h⟩
  · rintro ⟨hheld, hreleased⟩
    by_contra h
    rw [if_neg h, hheld] at hreleased
    contradiction

lemma pairwise_lapsed (c : Controls) (now : Nat) : (c.lapsed now).Pairwise (· < ·) :=
  (List.pairwise_lt_finRange 16).filter _

/-! ### What is said of a key -/

lemma reports_releases (k : Key) {ks : List Key} (h : ks.Nodup) :
    reports k (ks.map (.key · false)) = if k ∈ ks then [false] else [] := by
  induction ks with
  | nil => rfl
  | cons j ks ih =>
      obtain ⟨hj, hks⟩ := List.nodup_cons.1 h
      rw [List.map_cons, ← List.singleton_append, reports_append, ih hks]
      by_cases hk : k = j
      · subst hk
        simp [hj]
      · simp [hk, reports_of_ne (Ne.symm hk)]

/-- A report of one key says something of it if it changes, and nothing of the others. -/
lemma reports_of_report {j : Key} {down : Bool}
    (hheld : ∀ k, d.isHeld k = if k = j then down else c.isHeld k)
    (hpending : d.pending = c.pending ++ if c.isHeld j = down then [] else [.key j down]) (k : Key) :
    reports k d.pending =
      reports k c.pending ++ if d.isHeld k = c.isHeld k then [] else [d.isHeld k] := by
  rw [hpending, hheld, reports_append]
  by_cases hk : k = j
  · subst hk
    by_cases hc : c.isHeld k = down
    · simp [hc]
    · simp [hc, Ne.symm hc]
  · by_cases hc : c.isHeld j = down <;> simp [hk, hc, reports_of_ne (Ne.symm hk)]

lemma reports_push (c : Controls) (host : HostKey) (down : Bool) (now : Nat) (k : Key) :
    reports k (c.push host down now).pending =
      reports k c.pending ++
        if (c.push host down now).isHeld k = c.isHeld k then []
        else [(c.push host down now).isHeld k] := by
  unfold push
  split
  · exact reports_of_report (c.isHeld_press _ · now) (c.pending_press _ now) k
  · refine reports_of_report (c.isHeld_release _) ?_ k
    rw [pending_release]
    cases c.isHeld _ <;> rfl
  · simp [reports, InputEvent.report]
  · simp
  · simp

/-- The events of a call say of a key whether it is held, if that has changed, and nothing
otherwise. -/
lemma reports_perform (c : Controls) (k : Key) {call : Call} (hdrain : call ≠ .drain)
    (hclear : call ≠ .clear) :
    reports k (c.perform call).pending =
      reports k c.pending ++
        if (c.perform call).isHeld k = c.isHeld k then [] else [(c.perform call).isHeld k] := by
  cases call with
  | push host down now => exact c.reports_push host down now k
  | expire now =>
      rw [perform, pending_expire, reports_append, reports_releases k (c.nodup_lapsed now)]
      by_cases hk : k ∈ c.lapsed now
      · obtain ⟨hheld, hreleased⟩ := mem_lapsed_iff_released.1 hk
        simp [hk, hheld, hreleased]
      · simp [hk, isHeld_expire]
  | drain => contradiction
  | clear => contradiction

/-! ### Refreshed keys -/

/-- Whether calls refresh a key that was last pressed at a time: they press it again and again, and
each call between two presses spares it. -/
inductive Refreshed (c : Controls) (k : Key) : Nat → List Call → Prop
  | nil (t : Nat) : Refreshed c k t []
  | press {host : HostKey} {t now : Nat} {calls : List Call} : c.resolve host = .key k →
      Refreshed c k now calls → Refreshed c k t (.push host true now :: calls)
  | spared {t : Nat} {call : Call} {calls : List Call} : c.Spares k t call →
      Refreshed c k t calls → Refreshed c k t (call :: calls)

end Controls

namespace Intake

open Controls (Call)

lemma controls_performAll (s : Intake) (calls : List Call) :
    (s.performAll calls).controls = s.controls.performAll calls := by
  induction calls generalizing s with
  | nil => rfl
  | cons call calls ih => exact ih (s.perform call)

/-- A call other than clearing says of a key whether it is held, if that has changed. -/
lemma reports_perform (s : Intake) (k : Key) {call : Call} (hclear : call ≠ .clear) :
    reports k (s.perform call).events =
      reports k s.events ++
        if (s.perform call).controls.isHeld k = s.controls.isHeld k then []
        else [(s.perform call).controls.isHeld k] := by
  by_cases hdrain : call = .drain
  · subst hdrain
    have hundrained : (s.perform .drain).undrained = s.undrained := s.undrained_perform .drain
    have hevents : (s.perform .drain).events = s.events := congrArg Controls.pending hundrained
    have hheld : (s.perform .drain).controls.isHeld k = s.controls.isHeld k := rfl
    simp [hevents, hheld]
  · have hundrained := s.undrained_perform call
    rw [if_neg hdrain] at hundrained
    have hevents : (s.perform call).events = (s.undrained.perform call).pending :=
      congrArg Controls.pending hundrained
    have hheld : (s.perform call).controls.isHeld k = (s.undrained.perform call).isHeld k := by
      rw [← hundrained]
      rfl
    rw [hevents, hheld]
    exact s.undrained.reports_perform k hdrain hclear

/-- Nothing is said of a key while it is refreshed. -/
lemma reports_of_refreshed {c : Controls} {k : Key} {t : Nat} {calls : List Call}
    (h : c.Refreshed k t calls) {s : Intake} (hclear : s.controls.clear = c.clear)
    (hsince : s.controls.since? k = some t) :
    reports k (s.performAll calls).events = reports k s.events := by
  have hstep {s : Intake} {call : Call} {t now : Nat} (hcall : call ≠ .clear)
      (hsince : s.controls.since? k = some t)
      (hafter : (s.perform call).controls.since? k = some now) :
      reports k (s.perform call).events = reports k s.events := by
    rw [reports_perform s k hcall, Controls.isHeld_of_since? hsince,
      Controls.isHeld_of_since? hafter, if_pos rfl, List.append_nil]
  induction h generalizing s with
  | nil t => rfl
  | @press host t now calls hhost _ ih =>
      have hafter : (s.perform (.push host true now)).controls.since? k = some now :=
        Controls.since?_perform_iff.2
          (.inl ⟨host, rfl, (Controls.resolve_of_clear hclear host).trans hhost⟩)
      exact (ih ((s.controls.clear_perform _).trans hclear) hafter).trans
        (hstep (by simp) hsince hafter)
  | @spared t call calls hspares _ ih =>
      have hafter : (s.perform call).controls.since? k = some t :=
        Controls.since?_perform_iff.2
          (.inr ⟨hsince, (Controls.spares_of_clear hclear call).2 hspares⟩)
      have hcall : call ≠ .clear := by
        rintro rfl
        exact hspares
      exact (ih ((s.controls.clear_perform _).trans hclear) hafter).trans
        (hstep hcall hsince hafter)

/-- **Which keys are held.** Any definitions of keys and any hold time; after any reports of host
keys, any passing of time, any drains and clears, in any order and with any times, a key is held
exactly if it was pressed, and since its last press at some time it was not reported as up, the
controls were not cleared, and time did not pass to the hold time or more after that press. Time that
passes releases some keys in ascending order, with one event for each of them and no other. If a key
that is not held is pressed, and then pressed again and again before the hold time is over, the
press is said once, and nothing else is said of the key, for as long as that goes on. -/
theorem held_since_last_press (definitions : List KeyDefinition) (hold : Nat)
    (calls : List Call) :
    let c := Controls.ofDefinitions definitions hold
    let s := (ofDefinitions definitions hold).performAll calls
    (∀ k, s.controls.isHeld k = true ↔ ∃ t, c.PressedSince k t calls) ∧
    (∀ now, ∃ released : List Key, released.Pairwise (· < ·) ∧
      (∀ k, k ∈ released ↔
        s.controls.isHeld k = true ∧ (s.controls.expire now).isHeld k = false) ∧
      (s.controls.expire now).pending = s.controls.pending ++ released.map (.key · false)) ∧
    ∀ k host t refreshing, s.controls.isHeld k = false → c.resolve host = .key k →
      c.Refreshed k t refreshing →
      reports k (s.performAll (.push host true t :: refreshing)).events =
        reports k s.events ++ [true] := by
  intro c s
  have hcontrols : s.controls = c.performAll calls := controls_performAll _ calls
  have hclear : s.controls.clear = c.clear := by
    rw [hcontrols]
    exact c.clear_performAll calls
  refine ⟨fun k => ?_, fun now => ?_, fun k host t refreshing hheld hhost hrefreshed => ?_⟩
  · have hnone : c.since? k = none := c.since?_clear k
    rw [Controls.isHeld_iff, hcontrols]
    exact exists_congr fun t => Controls.since?_performAll_iff hnone
  · exact ⟨s.controls.lapsed now, s.controls.pairwise_lapsed now,
      fun k => Controls.mem_lapsed_iff_released, s.controls.pending_expire now⟩
  · have hpressed : (s.perform (.push host true t)).controls.since? k = some t :=
      Controls.since?_perform_iff.2
        (.inl ⟨host, rfl, (Controls.resolve_of_clear hclear host).trans hhost⟩)
    have hpush : Call.push host true t ≠ .clear := by simp
    have hsaid : reports k (s.perform (.push host true t)).events = reports k s.events ++ [true] := by
      rw [s.reports_perform k hpush, Controls.isHeld_of_since? hpressed, hheld]
      rfl
    rw [← hsaid]
    exact reports_of_refreshed hrefreshed ((s.controls.clear_perform _).trans hclear) hpressed

/-- A press, a second one at an earlier time, and time that passes to just below its limit. -/
def untilLimit : List Call := [.push (.char 'q') true 50, .push .tab true 10, .expire 109]

/-- Time below the limit, another press, a time before that, a drain, and time below the new limit. -/
def refreshing : List Call := [.expire 104, .push .tab true 60, .expire 20, .drain, .expire 159]

/-- The key is still held one unit before the limit and released at the limit; then it is pressed
anew, and refreshed. -/
theorem held_since_last_press_at_limit :
    let c := Controls.ofDefinitions sharedKey 100
    let s := (ofDefinitions sharedKey 100).performAll untilLimit
    let released := (ofDefinitions sharedKey 100).performAll (untilLimit ++ [.drain, .expire 110])
    c.PressedSince 4 10 untilLimit ∧ s.controls.isHeld 4 = true ∧
      released.controls.isHeld 4 = false ∧ c.resolve (.char 'q') = .key 4 ∧
      c.Refreshed 4 5 refreshing ∧ reports 4 released.events = [true, false] ∧
      reports 4 (released.performAll (.push (.char 'q') true 5 :: refreshing)).events =
        [true, false, true] := by
  intro c s released
  obtain ⟨hheld, -, -⟩ := held_since_last_press sharedKey 100 untilLimit
  obtain ⟨-, -, hsaid⟩ := held_since_last_press sharedKey 100 (untilLimit ++ [.drain, .expire 110])
  have hq : c.resolve (.char 'q') = .key 4 := by decide +kernel
  have htab : c.resolve .tab = .key 4 := by decide +kernel
  have hpressed : c.PressedSince 4 10 untilLimit := by
    refine ⟨[.push (.char 'q') true 50], .tab, [.expire 109], rfl, htab, ?_⟩
    simp [Controls.Spares, c, Controls.ofDefinitions]
  have hup : released.controls.isHeld 4 = false := by decide +kernel
  have hrefreshed : c.Refreshed 4 5 refreshing := by
    have hspares {t now : Nat} (h : now - t < 100) : c.Spares 4 t (.expire now) := h
    exact .spared (hspares (by decide)) (.press htab (.spared (hspares (by decide))
      (.spared trivial (.spared (hspares (by decide)) (.nil 60)))))
  have hevents : reports 4 released.events = [true, false] := by decide +kernel
  refine ⟨hpressed, (hheld 4).2 ⟨10, hpressed⟩, hup, hq, hrefreshed, hevents, ?_⟩
  rw [hsaid 4 _ 5 refreshing hup hq hrefreshed]
  exact congrArg (· ++ [true]) hevents

end Intake

end CosmacVip
