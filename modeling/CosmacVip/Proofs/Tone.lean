import CosmacVip.Machine.Timers
import CosmacVip.Terminal.Bell
import Mathlib.Data.List.Chain
import Mathlib.Tactic.Lemma
import Mathlib.Tactic.Tauto

/-!
Histories of the tone, which a machine's sound timer drives and a bell sounds.

* `SoundEvent`: what the bell is told, and the tones that are cut off without a word to it;
* `Alternating`: starts and stops take turns;
* `Tuned`: the histories of such events that can be, and what machine and bell record after
  each;
* `Tuned.tick`: a beat of the timers goes on with such a history;
* `Tuned.alternating_iff`: starts and stops alternate unless there was a start after a tone that
  was cut off.
-/

namespace CosmacVip

open Terminal (Bell)

/-- What happens to the tone. -/
inductive SoundEvent where
  /-- The bell is told that the tone starts or stops. -/
  | told (tone : Tone)
  /-- A new program takes the place of one that sounds, and the bell is not told. -/
  | cutOff
deriving DecidableEq

namespace SoundEvent

/-- What the bell is told at an event. -/
def tone? : SoundEvent → Option Tone
  | told tone => some tone
  | cutOff => none

/-- All that the bell is told. -/
def tones (log : List SoundEvent) : List Tone := log.filterMap tone?

@[simp] lemma tones_nil : tones [] = [] := rfl

@[simp] lemma tones_told (log : List SoundEvent) (tone : Tone) :
    tones (log ++ [told tone]) = tones log ++ [tone] := by
  simp [tones, tone?]

@[simp] lemma tones_cutOff (log : List SoundEvent) : tones (log ++ [cutOff]) = tones log := by
  simp [tones, tone?]

end SoundEvent

open SoundEvent (told cutOff tones tones_told tones_cutOff)

/-- Starts and stops alternate, a start being the first. -/
def Alternating (heard : List Tone) : Prop := heard.IsChain (· ≠ ·) ∧ heard.head? ≠ some .stop

/-- The histories of the tone, with whether the machine has the tone on, and whether the bell
rings. -/
inductive Tuned : List SoundEvent → (toneOn ringing : Bool) → Prop
  | silent : Tuned [] false false
  | started {log ringing} : Tuned log false ringing → Tuned (log ++ [told .start]) true true
  | stopped {log ringing} : Tuned log true ringing → Tuned (log ++ [told .stop]) false false
  | cut {log ringing} : Tuned log true ringing → Tuned (log ++ [cutOff]) false ringing

/-- One tone more goes on alternating if it is not the one heard before; before all of them is
silence. -/
lemma alternating_append_singleton (heard : List Tone) (tone : Tone) :
    Alternating (heard ++ [tone]) ↔ Alternating heard ∧ heard.getLast?.getD .stop ≠ tone := by
  cases heard with
  | nil => cases tone <;> simp [Alternating]
  | cons first rest =>
      obtain ⟨last, hlast⟩ : ∃ last, (first :: rest).getLast? = some last :=
        ⟨_, List.getLast?_eq_some_getLast (List.cons_ne_nil first rest)⟩
      rw [Alternating, Alternating, List.isChain_append, hlast]
      simp only [List.cons_append, List.head?_cons, List.IsChain.singleton, Option.mem_some,
        Option.getD_some, forall_eq', true_and]
      tauto

/-- Being told about some tones and then about others. -/
lemma hearAll_append (bell : Bell) (tones more : List Tone) :
    (bell.hearAll (tones ++ more)).2 = ((bell.hearAll tones).2.hearAll more).2 := by
  induction tones generalizing bell with
  | nil => rfl
  | cons tone tones ih => exact ih (bell.hear tone).2

namespace Tuned

variable {log : List SoundEvent} {toneOn ringing : Bool}

/-- A tone that is on is one that the bell rings. -/
lemma ringing_of_toneOn (h : Tuned log true ringing) : ringing = true := by
  cases h with
  | started h => rfl

/-- Machine and bell differ exactly if the last event is that of a tone being cut off. -/
lemma ringing_eq_iff (h : Tuned log toneOn ringing) :
    ringing = toneOn ↔ log.getLast? ≠ some cutOff := by
  cases h with
  | silent => simp
  | started h => simp
  | stopped h => simp
  | cut h => simp [h.ringing_of_toneOn]

/-- If they differ, then the bell rings on. -/
lemma rings_on_iff (h : Tuned log toneOn ringing) :
    toneOn = false ∧ ringing = true ↔ log.getLast? = some cutOff := by
  cases h with
  | silent => simp
  | started h => simp
  | stopped h => simp
  | cut h => simp [h.ringing_of_toneOn]

/-- The bell rings exactly if the last that it was told is a start. -/
lemma ringing_iff (h : Tuned log toneOn ringing) :
    ringing = true ↔ (tones log).getLast?.getD .stop = .start := by
  induction h with
  | silent => simp
  | started h ih => simp
  | stopped h ih => simp
  | cut h ih => simpa using ih

/-- No tone was cut off exactly if none was before the last event and machine and bell agree. -/
lemma cutOff_notMem_iff (h : Tuned log toneOn ringing) :
    cutOff ∉ log ↔ cutOff ∉ log.dropLast ∧ ringing = toneOn := by
  cases h with
  | silent => simp
  | started h => simp
  | stopped h => simp
  | cut h => simp [h.ringing_of_toneOn]

/-- Starts and stops alternate exactly if the bell was told nothing after a tone was cut off. -/
lemma alternating_iff (h : Tuned log toneOn ringing) :
    Alternating (tones log) ↔ cutOff ∉ log.dropLast := by
  induction h with
  | silent => simp [Alternating]
  | @started log ringing h ih =>
      -- A bell that rings before a start is one that was told nothing when its tone was cut off.
      have hquiet : (tones log).getLast?.getD .stop ≠ .start ↔ ringing = false := by
        rw [ne_eq, ← h.ringing_iff, Bool.not_eq_true]
      rw [tones_told, alternating_append_singleton, ih, hquiet, List.dropLast_concat,
        h.cutOff_notMem_iff]
  | @stopped log ringing h ih =>
      have hsounds : (tones log).getLast?.getD .stop ≠ .stop := by
        rw [h.ringing_iff.1 h.ringing_of_toneOn]
        decide
      rw [tones_told, alternating_append_singleton, ih, List.dropLast_concat, h.cutOff_notMem_iff]
      simp [hsounds, h.ringing_of_toneOn]
  | @cut log ringing h ih =>
      rw [tones_cutOff, ih, List.dropLast_concat, h.cutOff_notMem_iff]
      simp [h.ringing_of_toneOn]

/-- A new program takes the tone off, and the bell is not told. -/
lemma takenOff (h : Tuned log toneOn ringing) :
    Tuned (log ++ if toneOn then [cutOff] else []) false ringing := by
  cases toneOn with
  | true => exact h.cut
  | false => simpa using h

section

variable {size : Display.Size} {m : Machine size} {bell : Bell}

lemma startTone (h : Tuned log m.toneOn bell.ringing) :
    Tuned (log ++ m.startTone.1.map told) m.startTone.2.toneOn
      (bell.hearAll m.startTone.1).2.ringing := by
  by_cases hm : m.sound ≠ 0 ∧ m.toneOn = false
  · rw [hm.2] at h
    simpa [Machine.startTone, hm, Bell.hearAll, Bell.hear] using h.started
  · simpa [Machine.startTone, hm, Bell.hearAll] using h

lemma stopTone (h : Tuned log m.toneOn bell.ringing) :
    Tuned (log ++ m.stopTone.1.map told) m.stopTone.2.toneOn
      (bell.hearAll m.stopTone.1).2.ringing := by
  by_cases hm : m.sound = 0 ∧ m.toneOn = true
  · rw [hm.2] at h
    simpa [Machine.stopTone, hm, Bell.hearAll, Bell.hear] using h.stopped
  · simpa [Machine.stopTone, hm, Bell.hearAll] using h

/-- A beat of the timers, and the bell being told of it. -/
lemma tick (h : Tuned log m.toneOn bell.ringing) :
    Tuned (log ++ m.tick.1.map told) m.tick.2.toneOn (bell.hearAll m.tick.1).2.ringing := by
  let counted : Machine size :=
    { m.startTone.2 with
      delay := Machine.countdown m.startTone.2.delay
      sound := Machine.countdown m.startTone.2.sound }
  have hstart : Tuned (log ++ m.startTone.1.map told) counted.toneOn _ := h.startTone
  have htick : m.tick = (m.startTone.1 ++ counted.stopTone.1, counted.stopTone.2) := rfl
  rw [htick, List.map_append, ← List.append_assoc, hearAll_append]
  exact hstart.stopTone

end

end Tuned

end CosmacVip
