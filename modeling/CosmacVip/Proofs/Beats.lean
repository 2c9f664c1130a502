import CosmacVip.Proofs.Interleaving
import CosmacVip.Proofs.Tone

/-!
Beats of the timers in the course of a program.

* `Timer`, `Machine.timer`, `Timer.setFrom`: the two timers, and the instructions that set them;
* `Machine.perform_timer`, `Machine.timer_performAll`: a timer that is not set counts the beats down
  to zero;
* `Machine.perform_toneOn`: only beats start or stop the tone;
* `Machine.beats`, `Machine.beats_eq`: what the host is told at each beat, and how the sound timer
  determines it;
* `Machine.tone_follows_timer`: within a program starts and stops alternate, and a sound that is not
  set anew starts at the first beat and stops at the beat that its timer names.
-/

namespace CosmacVip

/-- The two timers. -/
inductive Timer where
  | delay
  | sound
deriving DecidableEq

/-- The instruction that sets a timer to the value of a register. -/
def Timer.setFrom : Timer → Register → Instruction
  | delay => .setDelay
  | sound => .setSound

namespace Machine

variable {size : Display.Size} {m : Machine size} {t : Timer}

/-- The value of a timer. -/
def timer (m : Machine size) : Timer → UInt8
  | .delay => m.delay
  | .sound => m.sound

/-! ### Timers that are not set -/

/-- No step of some calls sets a timer. -/
def LeavesTimer (m : Machine size) (t : Timer) (calls : List Call) : Prop :=
  ∀ s ∈ m.steppedAll calls, ∀ x, s.fetch? ≠ some (t.setFrom x)

lemma leavesTimer_cons {call : Call} {calls : List Call} :
    m.LeavesTimer t (call :: calls) ↔
      (∀ s ∈ m.stepped call, ∀ x, s.fetch? ≠ some (t.setFrom x)) ∧
        (m.perform call).LeavesTimer t calls :=
  List.forall_mem_append

/-- Only one instruction sets a timer. -/
lemma execute_timer (m : Machine size) {i : Instruction} (h : ∀ x, i ≠ t.setFrom x) :
    (m.execute i).2.timer t = m.timer t := by
  cases i with
  | ret => simp only [execute]; cases m.stack.pop? <;> cases t <;> rfl
  | call target => simp only [execute]; cases m.stack.push? (m.pc.offset 2) <;> cases t <;> rfl
  | arith op x y => cases op <;> cases t <;> rfl
  | setDelay x =>
      cases t with
      | delay => exact absurd rfl (h x)
      | sound => rfl
  | setSound x =>
      cases t with
      | delay => rfl
      | sound => exact absurd rfl (h x)
  | _ => cases t <;> rfl

lemma step_timer (h : ∀ x, m.fetch? ≠ some (t.setFrom x)) : m.step.2.timer t = m.timer t := by
  rcases m.step_fetch_cases with ⟨x, -, hstep⟩ | ⟨-, -, hstep⟩ | ⟨i, hi, hstep⟩ <;> rw [hstep]
  refine execute_timer m fun x => ?_
  rintro rfl
  exact h x hi

lemma tick_timer (m : Machine size) (t : Timer) : m.tick.2.timer t = countdown (m.timer t) := by
  rw [tick_machine]
  cases t <;> rfl

/-- A call that does not set a timer leaves it alone unless it is a beat. -/
lemma perform_timer {call : Call} (hrestart : call.restarts = false)
    (h : ∀ s ∈ m.stepped call, ∀ x, s.fetch? ≠ some (t.setFrom x)) :
    (m.perform call).timer t = if call = .tick then countdown (m.timer t) else m.timer t := by
  by_cases htick : call = .tick
  · rw [if_pos htick, htick]
    exact tick_timer m t
  · rw [if_neg htick]
    cases hexecutes : call.executes with
    | true => exact perform_keeps (timer · t) hexecutes fun s hs => step_timer (h s hs)
    | false =>
        obtain ⟨keys, v, mode, redraw, hm⟩ := m.perform_frame hexecutes hrestart htick
        rw [hm]
        cases t <;> rfl

lemma toNat_countdown (b : UInt8) : (countdown b).toNat = b.toNat - 1 := by
  rw [countdown]
  split
  case isTrue h => rw [h]; rfl
  case isFalse h =>
    have hone : 1 ≤ b := by
      rw [UInt8.le_iff_toNat_le]
      exact Nat.one_le_iff_ne_zero.2 fun hb => h (UInt8.toNat.inj hb)
    rw [UInt8.toNat_sub_of_le b 1 hone]
    rfl

/-- A timer that is not set counts the beats, and stays at zero. -/
lemma timer_performAll {calls : List Call} (hcalls : ∀ call ∈ calls, call.restarts = false)
    (h : m.LeavesTimer t calls) :
    ((m.performAll calls).timer t).toNat = (m.timer t).toNat - calls.count .tick := by
  induction calls generalizing m with
  | nil => rfl
  | cons call calls ih =>
      obtain ⟨hrestart, hrest⟩ := List.forall_mem_cons.1 hcalls
      obtain ⟨hfirst, hlater⟩ := leavesTimer_cons.1 h
      rw [performAll_cons, ih hrest hlater, perform_timer hrestart hfirst]
      by_cases htick : call = .tick
      · rw [if_pos htick, toNat_countdown, htick, List.count_cons_self]
        omega
      · rw [if_neg htick, List.count_cons_of_ne htick]

/-! ### The tone -/

/-- Only a beat starts or stops the tone, and only then the host is told. -/
lemma perform_toneOn {call : Call} (hrestart : call.restarts = false) (htick : call ≠ .tick) :
    (m.perform call).toneOn = m.toneOn ∧ m.tonesOf call = [] := by
  have hnone : m.tonesOf call = [] := by
    cases call with
    | tick => contradiction
    | _ => rfl
  refine ⟨?_, hnone⟩
  cases hexecutes : call.executes with
  | true => exact perform_keeps toneOn hexecutes fun s _ => s.step_sameHost.toneOn
  | false =>
      obtain ⟨keys, v, mode, redraw, hm⟩ := m.perform_frame hexecutes hrestart htick
      rw [hm]

/-- What the host is told at each beat of some calls, in turn. -/
def beats (m : Machine size) : List Call → List (List Tone)
  | [] => []
  | call :: calls => (if call = .tick then [m.tick.1] else []) ++ (m.perform call).beats calls

lemma flatten_beats (m : Machine size) (calls : List Call) :
    (m.beats calls).flatten = m.tones calls := by
  induction calls generalizing m with
  | nil => rfl
  | cons call calls ih =>
      rw [beats, tones, List.flatten_append, ih]
      cases call with
      | tick => exact congrArg (· ++ _) (List.append_nil _)
      | _ => rfl

/-- What the host is told at beat `i` from now if the tone is on or off, the sound timer is at `n`
and is not set. -/
def tonesAt (toneOn : Bool) (n i : Nat) : List Tone :=
  (if i = 0 ∧ n ≠ 0 ∧ toneOn = false then [.start] else []) ++
    if i + 1 = max n 1 ∧ (toneOn = true ∨ n ≠ 0) then [.stop] else []

lemma eq_zero_iff_toNat (b : UInt8) : b = 0 ↔ b.toNat = 0 := by
  rw [← UInt8.toNat_inj]
  rfl

lemma tick_tones_eq (m : Machine size) : m.tick.1 = tonesAt m.toneOn m.sound.toNat 0 := by
  have hlast : m.sound.toNat - 1 = 0 ↔ 0 + 1 = max m.sound.toNat 1 := by omega
  simp only [tick_tones, tonesAt, ne_eq, eq_zero_iff_toNat, toNat_countdown, hlast, Bool.or_eq_true,
    bne_iff_ne, true_and]

/-- From the next beat on, what is told is what would be told from now on, one beat later. -/
lemma tonesAt_succ (toneOn : Bool) (n i : Nat) :
    tonesAt toneOn n (i + 1) = tonesAt (decide (n - 1 ≠ 0)) (n - 1) i := by
  have hstart : ¬ (i = 0 ∧ n - 1 ≠ 0 ∧ decide (n - 1 ≠ 0) = false) := by
    simp only [decide_eq_false_iff_not]
    tauto
  have hstop : (i + 1 + 1 = max n 1 ∧ (toneOn = true ∨ n ≠ 0)) ↔
      (i + 1 = max (n - 1) 1 ∧ (decide (n - 1 ≠ 0) = true ∨ n - 1 ≠ 0)) := by
    rw [decide_eq_true_eq, or_self]
    constructor
    · rintro ⟨hi, -⟩
      omega
    · rintro ⟨hi, hn⟩
      exact ⟨by omega, .inr (by omega)⟩
  rw [tonesAt, tonesAt, if_neg hstart, if_neg (by omega)]
  simp only [hstop]

lemma tick_toneOn (m : Machine size) : m.tick.2.toneOn = decide (m.sound.toNat - 1 ≠ 0) := by
  rw [tick_machine, ← toNat_countdown, Bool.eq_iff_iff, bne_iff_ne, decide_eq_true_eq, ne_eq,
    eq_zero_iff_toNat]

/-- While the sound timer is not set, where it stands and whether the tone is on determine what the
host is told at each beat. -/
lemma beats_eq {calls : List Call} (hcalls : ∀ call ∈ calls, call.restarts = false)
    (h : m.LeavesTimer .sound calls) :
    m.beats calls = (List.range (calls.count .tick)).map (tonesAt m.toneOn m.sound.toNat) := by
  induction calls generalizing m with
  | nil => rfl
  | cons call calls ih =>
      obtain ⟨hrestart, hrest⟩ := List.forall_mem_cons.1 hcalls
      obtain ⟨hfirst, hlater⟩ := leavesTimer_cons.1 h
      have hsound : (m.perform call).sound = if call = .tick then countdown m.sound else m.sound :=
        perform_timer (t := .sound) hrestart hfirst
      rw [beats, ih hrest hlater, hsound]
      by_cases htick : call = .tick
      · subst htick
        have hnext : tonesAt (m.perform .tick).toneOn (m.sound.toNat - 1) =
            tonesAt m.toneOn m.sound.toNat ∘ Nat.succ := by
          funext i
          rw [perform, tick_toneOn]
          exact (tonesAt_succ m.toneOn m.sound.toNat i).symm
        rw [if_pos rfl, if_pos rfl, toNat_countdown, hnext, List.count_cons_self,
          List.range_succ_eq_map, List.map_cons, List.map_map, tick_tones_eq, List.singleton_append]
      · rw [if_neg htick, if_neg htick, (perform_toneOn hrestart htick).1,
          List.count_cons_of_ne htick]
        rfl

/-! ### Starts and stops -/

open SoundEvent (told cutOff) in
/-- Calls without a restart cut no tone off. -/
lemma tuned_tones {log : List SoundEvent} {bell : Terminal.Bell}
    (h : Tuned log m.toneOn bell.ringing) {calls : List Call}
    (hcalls : ∀ call ∈ calls, call.restarts = false) :
    Tuned (log ++ (m.tones calls).map told) (m.performAll calls).toneOn
      (bell.hearAll (m.tones calls)).2.ringing := by
  induction calls generalizing m log bell with
  | nil => simpa [tones, performAll, Terminal.Bell.hearAll] using h
  | cons call calls ih =>
      obtain ⟨hrestart, hrest⟩ := List.forall_mem_cons.1 hcalls
      rw [tones, List.map_append, ← List.append_assoc, hearAll_append, performAll_cons]
      refine ih ?_ hrest
      by_cases htick : call = .tick
      · subst htick
        exact h.tick
      · obtain ⟨hon, hnone⟩ := perform_toneOn (m := m) hrestart htick
        rw [hnone, hon]
        simpa [Terminal.Bell.hearAll] using h

/-- Within a program that finds the tone off, starts and stops alternate. -/
lemma alternating_tones (hoff : m.toneOn = false) {calls : List Call}
    (hcalls : ∀ call ∈ calls, call.restarts = false) : Alternating (m.tones calls) := by
  have hsilent : Tuned [] m.toneOn (Terminal.Bell.ringing {}) := hoff ▸ .silent
  have htuned := tuned_tones hsilent hcalls
  have htold : SoundEvent.tones ((m.tones calls).map .told) = m.tones calls := by
    simp [SoundEvent.tones, List.filterMap_map, Function.comp_def, SoundEvent.tone?]
  rw [List.nil_append] at htuned
  rw [← htold, htuned.alternating_iff]
  intro hcut
  simpa using (List.dropLast_sublist _).subset hcut

/-- **The tone within a program.** Whatever is done with a machine that has the tone off, but for a
restart, the host is told of the tone at beats only, and starts and stops alternate. After each beat
the tone is on exactly if the sound timer runs, and nothing but a beat changes that. A sound timer
that stands at `n` and is not set starts the tone at the first beat, stops it at beat `n`, and tells
the host nothing else; a delay timer that is not set counts the beats down to zero. -/
theorem tone_follows_timer (m : Machine size) (calls : List Call)
    (hcalls : ∀ call ∈ calls, call.restarts = false) :
    let after := m.performAll calls
    m.tones calls = (m.beats calls).flatten ∧
    (m.toneOn = false → Alternating (m.tones calls)) ∧
    (after.tick.2.toneOn = true ↔ after.tick.2.sound ≠ 0) ∧
    (∀ call : Call, call.restarts = false → call ≠ .tick →
      (after.perform call).toneOn = after.toneOn ∧ after.tonesOf call = []) ∧
    (m.toneOn = false → m.sound ≠ 0 → m.LeavesTimer .sound calls →
      m.beats calls = (List.range (calls.count .tick)).map fun i =>
        (if i = 0 then [.start] else []) ++ if i + 1 = m.sound.toNat then [.stop] else []) ∧
    (m.LeavesTimer .delay calls → after.delay.toNat = m.delay.toNat - calls.count .tick) := by
  intro after
  refine ⟨(flatten_beats m calls).symm, fun hoff => alternating_tones hoff hcalls, ?_,
    fun call => perform_toneOn, fun hoff hsound h => ?_, timer_performAll hcalls⟩
  · rw [tick_machine]
    exact bne_iff_ne
  · have hpos : m.sound.toNat ≠ 0 := fun h0 => hsound ((eq_zero_iff_toNat _).2 h0)
    rw [beats_eq hcalls h, hoff]
    refine List.map_congr_left fun i _ => ?_
    have hmax : max m.sound.toNat 1 = m.sound.toNat := by omega
    simp [tonesAt, hpos, hmax]

lemma leavesTimer_of_untimed {calls : List Call} (h : m.Untimed calls) : m.LeavesTimer t calls := by
  intro s hs x hf
  have huses := h s hs
  rw [usesTimers_of_fetch hf] at huses
  cases t <;> contradiction

/-- A program counts while a sound of three beats and a delay of two run out: the tone starts at the
first of four beats and stops at the third, and the delay timer stays at zero. -/
theorem tone_follows_timer_counting :
    let m : Machine .standard :=
      { fresh .standard (Memory.withProgram countUp) (.ofKey (Vector.replicate 8 0)) with
        delay := 2, sound := 3 }
    let calls : List Call := [.step, .tick, .tick, .step, .tick, .step, .tick]
    Alternating (m.tones calls) ∧ m.beats calls = [[.start], [], [.stop], []] ∧
      (m.performAll calls).delay.toNat = 0 := by
  intro m calls
  have hcalls : ∀ call ∈ calls, call.restarts = false := by decide
  have hmemory : m.memory = Memory.withProgram countUp := rfl
  have hpc : m.pc = Address.programStart.offset 0 := rfl
  have hon : m.toneOn = false := rfl
  have hsound : m.sound = 3 := rfl
  have hdelay : m.delay = 2 := rfl
  have hleaves (t : Timer) : m.LeavesTimer t calls :=
    leavesTimer_of_untimed (untimed_countUp hmemory rfl (.inl hpc) (by decide))
  obtain ⟨-, halternate, -, -, hbeats, hcount⟩ := tone_follows_timer m calls hcalls
  rw [hsound] at hbeats
  rw [hdelay] at hcount
  exact ⟨halternate hon, hbeats hon (by decide) (hleaves .sound), hcount (hleaves .delay)⟩

end Machine

end CosmacVip
