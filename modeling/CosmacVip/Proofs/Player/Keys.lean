import CosmacVip.Proofs.Controls
import CosmacVip.Proofs.Frame
import CosmacVip.Proofs.Player.Calls

/-!
The keys that the controls hold, and the keys that are down on the machine's keypad.

Both are brought together by the events of a batch, of which a restart wipes both while the rest
of the batch is still to come.

* `lastReport`: what a list of events says of a key in the end;
* `Player.obey`: what an event does, the program's end being passed over;
* `Session`: a player, and the keys that are stranded, which are down although no report of them
  is left;
* `Session.Consistent`: what holds between the three after any input;
* `Session.isDown_eq_isHeld_iff`: once all events are obeyed, a key is down exactly if it is
  held, and can be released, unless it is stranded.
-/

namespace CosmacVip

/-! ### Events of a key -/

/-- What the last event of a key says of it. -/
def lastReport (k : Key) : List InputEvent → Option Bool
  | [] => none
  | e :: events => (lastReport k events).or (e.report k)

@[simp] lemma lastReport_nil (k : Key) : lastReport k [] = none := rfl

lemma lastReport_cons (k : Key) (e : InputEvent) (events : List InputEvent) :
    lastReport k (e :: events) = (lastReport k events).or (e.report k) := rfl

lemma lastReport_append (k : Key) (events more : List InputEvent) :
    lastReport k (events ++ more) = (lastReport k more).or (lastReport k events) := by
  induction events with
  | nil => simp
  | cons e events ih => rw [List.cons_append, lastReport_cons, ih, lastReport_cons, Option.or_assoc]

lemma lastReport_releases (k : Key) (ks : List Key) :
    lastReport k (ks.map (.key · false)) = if k ∈ ks then some false else none := by
  induction ks with
  | nil => simp
  | cons j ks ih =>
      rw [List.map_cons, lastReport_cons, ih]
      by_cases hj : j = k
      · subst hj
        by_cases hks : j ∈ ks <;> simp [InputEvent.report, hks]
      · have hk : k ≠ j := fun e => hj e.symm
        simp [InputEvent.report, hj, hk]

/-- How a key stands on the keypad, in the controls and among the stranded keys when the given
report of it is still to come: the controls are ahead of the keypad by that report. -/
def Agrees (down held stranded : Bool) : Option Bool → Prop
  | some report => held = report
  | none => down = (held || stranded) ∧ (held && stranded) = false

namespace Agrees

variable {down held stranded : Bool}

lemma down_eq_held_iff (h : Agrees down held stranded none) : down = held ↔ stranded = false := by
  obtain ⟨hor, hand⟩ := h
  cases held <;> cases stranded <;> simp_all

lemma held_iff (h : Agrees true held stranded none) : held = true ↔ stranded = false := by
  obtain ⟨hor, hand⟩ := h
  cases held <;> cases stranded <;> simp_all

end Agrees

namespace Controls

variable {c : Controls} {k : Key} {down stranded : Bool}

lemma agrees_press (h : Agrees down (c.isHeld k) stranded (lastReport k c.pending)) (j : Key)
    (now : Nat) :
    Agrees down ((c.press j now).isHeld k) stranded (lastReport k (c.press j now).pending) := by
  rw [isHeld_press, pending_press, lastReport_append]
  by_cases hk : k = j
  · subst hk
    cases hc : c.isHeld k with
    | true => simpa [hc] using h
    | false => simp [Agrees, lastReport, InputEvent.report]
  · have hj : j ≠ k := fun e => hk e.symm
    cases hc : c.isHeld j <;> simpa [hk, hj, lastReport, InputEvent.report] using h

lemma agrees_release (h : Agrees down (c.isHeld k) stranded (lastReport k c.pending)) (j : Key) :
    Agrees down ((c.release j).isHeld k) stranded (lastReport k (c.release j).pending) := by
  rw [isHeld_release, pending_release, lastReport_append]
  by_cases hk : k = j
  · subst hk
    cases hc : c.isHeld k with
    | true => simp [Agrees, lastReport, InputEvent.report]
    | false => simpa [hc] using h
  · have hj : j ≠ k := fun e => hk e.symm
    cases hc : c.isHeld j <;> simpa [hk, hj, lastReport, InputEvent.report] using h

lemma agrees_push (h : Agrees down (c.isHeld k) stranded (lastReport k c.pending)) (host : HostKey)
    (pressed : Bool) (now : Nat) :
    Agrees down ((c.push host pressed now).isHeld k) stranded
      (lastReport k (c.push host pressed now).pending) := by
  unfold push
  split
  · exact agrees_press h _ now
  · exact agrees_release h _
  · simpa [lastReport_append, lastReport, InputEvent.report] using h
  · exact h
  · exact h

lemma agrees_expire (h : Agrees down (c.isHeld k) stranded (lastReport k c.pending)) (now : Nat) :
    Agrees down ((c.expire now).isHeld k) stranded (lastReport k (c.expire now).pending) := by
  rw [isHeld_expire, pending_expire, lastReport_append, lastReport_releases]
  by_cases hk : k ∈ c.lapsed now
  · simp [Agrees, hk]
  · simpa [hk] using h

end Controls

/-! ### Obeying events -/

namespace Player

/-- The player after an event; one that ends the program or fails is passed over. -/
def obey (p : Player) (e : InputEvent) : Player :=
  match p.handle e with
  | .ok (some q) => q
  | _ => p

lemma obey_reset {p : Player} (h : p.rom.size ≤ Memory.programCapacity) :
    p.obey (.action KeyDefinition.resetAction) = p.restarted := by
  have hne : KeyDefinition.resetAction ≠ KeyDefinition.exitAction := by decide
  rw [obey, handle, if_neg hne, if_pos rfl, restart_eq, if_pos h]
  rfl

lemma obey_action (p : Player) {name : String} (h : name ≠ KeyDefinition.resetAction) :
    p.obey (.action name) = p := by
  rw [obey, handle, if_neg h]
  split_ifs <;> rfl

/-- An event that does not end the program is handled as it is obeyed, and the program stays as
it is. -/
lemma handle_eq_obey {p : Player} (h : p.rom.size ≤ Memory.programCapacity) {e : InputEvent}
    (he : e ≠ .action KeyDefinition.exitAction) :
    p.handle e = .ok (some (p.obey e)) ∧ (p.obey e).rom = p.rom := by
  cases e with
  | key k down => exact ⟨rfl, rfl⟩
  | action name =>
      have hexit : name ≠ KeyDefinition.exitAction := fun hn => he (hn ▸ rfl)
      by_cases hreset : name = KeyDefinition.resetAction
      · subst hreset
        rw [obey_reset h, handle, if_neg hexit, if_pos rfl, restart_eq, if_pos h]
        exact ⟨rfl, rfl⟩
      · rw [obey_action p hreset, handle, if_neg hexit, if_neg hreset]
        exact ⟨rfl, rfl⟩

end Player

/-- A batch of events while it is being obeyed. -/
structure Delivery where
  player : Player
  /-- The keys that are down although no report of them is left. -/
  stranded : KeySet
  /-- Whether an event of the batch has restarted the program. -/
  restarted : Bool

namespace Delivery

/-- After one event more. A key that goes down after a restart in the same batch is stranded:
its report is from before the restart, which has forgotten it. -/
def obey (d : Delivery) (e : InputEvent) : Delivery where
  player := d.player.obey e
  stranded := match e with
    | .key k down => d.stranded.set k (d.restarted && down)
    | .action name => if name = KeyDefinition.resetAction then KeySet.empty else d.stranded
  restarted := d.restarted || e = .action KeyDefinition.resetAction

/-- A batch in which nothing ends the program is handled as it is obeyed. -/
lemma handleAll_eq {d : Delivery} (h : d.player.rom.size ≤ Memory.programCapacity)
    {events : List InputEvent} (he : .action KeyDefinition.exitAction ∉ events) :
    d.player.handleAll events = .ok (some (events.foldl obey d).player) := by
  induction events generalizing d with
  | nil => rfl
  | cons e events ih =>
      obtain ⟨hhead, hrest⟩ := not_or.1 (List.mem_cons.not.1 he)
      obtain ⟨hhandle, hrom⟩ := Player.handle_eq_obey h (Ne.symm hhead)
      have hfits : (d.obey e).player.rom.size ≤ Memory.programCapacity := by
        show (d.player.obey e).rom.size ≤ _
        rw [hrom]
        exact h
      rw [Player.handleAll, hhandle]
      exact ih hfits hrest

/-- Until a restart, the controls are ahead of the keypad by what is left of the batch; after it
no key is held and just the stranded keys are down. -/
structure Consistent (d : Delivery) (rest : List InputEvent) : Prop where
  fits : d.player.rom.size ≤ Memory.programCapacity
  drained : d.player.controls.pending = []
  before : d.restarted = false → ∀ k, Agrees (d.player.machine.keys.isDown k)
    (d.player.controls.isHeld k) (d.stranded.isDown k) (lastReport k rest)
  after : d.restarted = true → ∀ k, d.player.controls.isHeld k = false ∧
    d.player.machine.keys.isDown k = d.stranded.isDown k

lemma Consistent.key {d : Delivery} {j : Key} {down : Bool} {rest : List InputEvent}
    (h : d.Consistent (.key j down :: rest)) : (d.obey (.key j down)).Consistent rest where
  fits := h.fits
  drained := h.drained
  before hr k := by
    have hr : d.restarted = false := by simpa [obey] using hr
    have hk := h.before hr k
    show Agrees ((d.player.machine.setKey j down).keys.isDown k) (d.player.controls.isHeld k)
      ((d.stranded.set j (d.restarted && down)).isDown k) (lastReport k rest)
    rw [Machine.setKey_keys, KeySet.isDown_set, KeySet.isDown_set, hr]
    rw [lastReport_cons] at hk
    by_cases hkj : k = j
    · subst hkj
      -- With no report of the key left, this one is its last, and what the controls hold.
      cases hlast : lastReport k rest <;> simpa [hlast, Agrees, InputEvent.report, eq_comm] using hk
    · have hjk : j ≠ k := fun e => hkj e.symm
      simpa [hkj, hjk, InputEvent.report] using hk
  after hr k := by
    have hr : d.restarted = true := by simpa [obey] using hr
    obtain ⟨hheld, hk⟩ := h.after hr k
    refine ⟨hheld, ?_⟩
    show (d.player.machine.setKey j down).keys.isDown k =
      (d.stranded.set j (d.restarted && down)).isDown k
    rw [Machine.setKey_keys, KeySet.isDown_set, KeySet.isDown_set, hr, hk, Bool.true_and]

/-- A restart releases every key and forgets those that are held. -/
lemma Consistent.reset {d : Delivery} {rest : List InputEvent}
    (h : d.Consistent (.action KeyDefinition.resetAction :: rest)) :
    (d.obey (.action KeyDefinition.resetAction)).Consistent rest := by
  have hplayer : (d.obey (.action KeyDefinition.resetAction)).player = d.player.restarted :=
    Player.obey_reset h.fits
  have hstranded : (d.obey (.action KeyDefinition.resetAction)).stranded = KeySet.empty := by
    simp [obey]
  have hrestarted : (d.obey (.action KeyDefinition.resetAction)).restarted = true := by simp [obey]
  constructor
  · rw [hplayer]
    exact h.fits
  · rw [hplayer]
    rfl
  · intro hr
    rw [hrestarted] at hr
    contradiction
  · intro _ k
    rw [hplayer, hstranded]
    exact ⟨by simp [Player.restarted, Controls.clear, Controls.isHeld], rfl⟩

lemma Consistent.action {d : Delivery} {name : String} {rest : List InputEvent}
    (hname : name ≠ KeyDefinition.resetAction) (h : d.Consistent (.action name :: rest)) :
    (d.obey (.action name)).Consistent rest := by
  have hobey : d.obey (.action name) = d := by
    simp [obey, d.player.obey_action hname, hname]
  rw [hobey]
  refine ⟨h.fits, h.drained, fun hr k => ?_, h.after⟩
  simpa [lastReport, InputEvent.report] using h.before hr k

lemma Consistent.obey {d : Delivery} {e : InputEvent} {rest : List InputEvent}
    (h : d.Consistent (e :: rest)) : (d.obey e).Consistent rest := by
  cases e with
  | key j down => exact h.key
  | action name =>
      by_cases hname : name = KeyDefinition.resetAction
      · subst hname
        exact h.reset
      · exact h.action hname

lemma Consistent.obeyAll {d : Delivery} {events : List InputEvent} (h : d.Consistent events) :
    (events.foldl Delivery.obey d).Consistent [] := by
  induction events generalizing d with
  | nil => exact h
  | cons e events ih => exact ih h.obey

/-- Releases take just the keys that they name from the keypad. -/
lemma isDown_foldl_releases (d : Delivery) (ks : List Key) (k : Key) :
    ((ks.map (.key · false)).foldl Delivery.obey d).player.machine.keys.isDown k =
      if k ∈ ks then false else d.player.machine.keys.isDown k := by
  induction ks generalizing d with
  | nil => simp
  | cons j ks ih =>
      have hkeys : (d.obey (.key j false)).player.machine.keys =
          d.player.machine.keys.set j false := d.player.machine.setKey_keys j false
      rw [List.map_cons, List.foldl_cons, ih, hkeys, KeySet.isDown_set]
      by_cases hks : k ∈ ks <;> by_cases hj : k = j <;> simp [hks, hj]

/-- At the end of a batch, a key is down exactly if it is held or stranded. -/
lemma Consistent.agrees {d : Delivery} (h : d.Consistent []) (k : Key) :
    Agrees (d.player.machine.keys.isDown k) (d.player.controls.isHeld k) (d.stranded.isDown k)
      none := by
  cases hr : d.restarted with
  | false => exact h.before hr k
  | true =>
      obtain ⟨hheld, hdown⟩ := h.after hr k
      rw [hheld, hdown]
      exact ⟨(Bool.false_or _).symm, Bool.false_and _⟩

end Delivery

/-! ### Sessions -/

/-- A player whose drained events are all obeyed, and the keys that are stranded. -/
structure Session where
  player : Player
  stranded : KeySet

namespace Session

/-- One step of a session. -/
inductive Input where
  /-- A report of a host key, with its time. -/
  | push (k : HostKey) (down : Bool) (now : Nat)
  | expire (now : Nat)
  | update
  | tick
  /-- The pending events are drained and obeyed in turn. -/
  | deliver
deriving DecidableEq

/-- A new player after the loading of a file. -/
def start (prefs : Preferences) (entropy : ChaCha.Key) (contents : Except FileError ByteArray) :
    Session :=
  ⟨(Player.new prefs entropy).perform (.load contents), KeySet.empty⟩

/-- The pending events being drained and obeyed. -/
def delivery (s : Session) : Delivery :=
  s.player.controls.pending.foldl Delivery.obey ⟨s.player.perform .drain, s.stranded, false⟩

/-- The session after an input. -/
def perform (s : Session) : Input → Session
  | .push k down now => { s with player := s.player.perform (.push k down now) }
  | .expire now => { s with player := s.player.perform (.expire now) }
  | .update => { s with player := s.player.perform .update }
  | .tick => { s with player := s.player.perform .tick }
  | .deliver => ⟨s.delivery.player, s.delivery.stranded⟩

/-- The session after inputs in turn. -/
def performAll (s : Session) (inputs : List Input) : Session := inputs.foldl perform s

/-- The program has room, and the controls are ahead of the keypad by the pending events. -/
structure Consistent (s : Session) : Prop where
  fits : s.player.rom.size ≤ Memory.programCapacity
  agrees : ∀ k, Agrees (s.player.machine.keys.isDown k) (s.player.controls.isHeld k)
    (s.stranded.isDown k) (lastReport k s.player.controls.pending)

lemma consistent_start (prefs : Preferences) (entropy : ChaCha.Key)
    (contents : Except FileError ByteArray) : (start prefs entropy contents).Consistent := by
  have hnone (k : Key) : prefs.controls.isHeld k = false := by
    simp [Preferences.controls, Controls.ofDefinitions, Controls.isHeld]
  have hagrees (k : Key) : Agrees (KeySet.empty.isDown k) (prefs.controls.isHeld k)
      (KeySet.empty.isDown k) none := by
    rw [hnone, KeySet.isDown_empty]
    exact ⟨rfl, rfl⟩
  rw [start, Player.perform]
  rcases (Player.new prefs entropy).loadFile_cases contents with ⟨bytes, -, hfits, h⟩ | ⟨e, h⟩
  · rw [h]
    exact ⟨hfits, hagrees⟩
  · rw [h]
    exact ⟨Nat.zero_le _, hagrees⟩

/-- The pending events of a session are obeyed to the end. -/
lemma Consistent.delivery {s : Session} (h : s.Consistent) : s.delivery.Consistent [] := by
  apply Delivery.Consistent.obeyAll
  exact ⟨h.fits, rfl, fun _ k => h.agrees k, fun hr => Bool.noConfusion hr⟩

lemma Consistent.deliver {s : Session} (h : s.Consistent) : (s.perform .deliver).Consistent := by
  have hend := h.delivery
  have hpending : (s.perform .deliver).player.controls.pending = [] := hend.drained
  refine ⟨hend.fits, fun k => ?_⟩
  rw [hpending]
  exact hend.agrees k

lemma Consistent.perform {s : Session} (h : s.Consistent) (input : Input) :
    (s.perform input).Consistent := by
  cases input with
  | push k down now => exact ⟨h.fits, fun j => Controls.agrees_push (h.agrees j) k down now⟩
  | expire now => exact ⟨h.fits, fun j => Controls.agrees_expire (h.agrees j) now⟩
  | update =>
      obtain ⟨n, halted, hp⟩ := s.player.update_frame
      have hplayer : (s.perform .update).player = _ := hp
      constructor
      · rw [hplayer]
        exact h.fits
      · intro k
        rw [hplayer, (Machine.run_sameHost n s.player.machine).keys]
        exact h.agrees k
  | tick =>
      refine ⟨h.fits, fun k => ?_⟩
      show Agrees (s.player.machine.tick.2.keys.isDown k) _ _ _
      rw [Machine.tick_machine]
      exact h.agrees k
  | deliver => exact h.deliver

/-- The pending events are obeyed as the player handles them in a frame, unless one ends the
program. -/
theorem handleAll_pending {s : Session} (h : s.Consistent)
    (hexit : .action KeyDefinition.exitAction ∉ s.player.controls.pending) :
    (s.player.perform .drain).handleAll s.player.controls.pending =
      .ok (some (s.perform .deliver).player) :=
  Delivery.handleAll_eq (d := ⟨s.player.perform .drain, s.stranded, false⟩) h.fits hexit

lemma Consistent.performAll {s : Session} (h : s.Consistent) (inputs : List Input) :
    (s.performAll inputs).Consistent := by
  induction inputs generalizing s with
  | nil => exact h
  | cons input inputs ih => exact ih (h.perform input)

/-! ### Once all events are obeyed -/

/-- Whether a key is down on the machine's keypad. -/
def isDown (s : Session) (k : Key) : Bool := s.player.machine.keys.isDown k

/-- Whether the controls hold a key. -/
def isHeld (s : Session) (k : Key) : Bool := s.player.controls.isHeld k

/-- The session after the passing of time, all events being obeyed. -/
def lapse (s : Session) (now : Nat) : Session := (s.perform (.expire now)).perform .deliver

/-- The passing of time releases the keys whose hold time is over, and no others. -/
lemma isDown_lapse {s : Session} (h : s.player.controls.pending = []) (now : Nat) (k : Key) :
    (s.lapse now).isDown k = if k ∈ s.player.controls.lapsed now then false else s.isDown k := by
  have hpending : (s.perform (.expire now)).player.controls.pending =
      (s.player.controls.lapsed now).map (.key · false) := by
    show (s.player.controls.expire now).pending = _
    rw [Controls.pending_expire, h, List.nil_append]
  show (s.perform (.expire now)).delivery.player.machine.keys.isDown k = _
  rw [delivery, hpending]
  exact Delivery.isDown_foldl_releases _ _ k

/-- **When the keypad agrees with the controls.** Any definitions of keys, any hold time and any
program; after any reports of host keys, any passing of time, and any frames, once no event is
pending, a key is down on the keypad exactly if the controls hold it, unless it is stranded; and
a key that is down is released by the passing of time, unless it is stranded. -/
theorem isDown_eq_isHeld_iff (prefs : Preferences) (entropy : ChaCha.Key)
    (contents : Except FileError ByteArray) (inputs : List Input)
    (h : ((start prefs entropy contents).performAll inputs).player.controls.pending = []) :
    let s := (start prefs entropy contents).performAll inputs
    (∀ k, s.isDown k = s.isHeld k ↔ s.stranded.isDown k = false) ∧
      ∀ k, s.isDown k = true →
        ((∃ now, (s.lapse now).isDown k = false) ↔ s.stranded.isDown k = false) := by
  intro s
  have hs : s.Consistent := (consistent_start prefs entropy contents).performAll inputs
  have hpending : s.player.controls.pending = [] := h
  have hagrees (k : Key) : Agrees (s.isDown k) (s.isHeld k) (s.stranded.isDown k) none := by
    have hk := hs.agrees k
    rwa [hpending] at hk
  refine ⟨fun k => (hagrees k).down_eq_held_iff, fun k hdown => ?_⟩
  have hreleased (now : Nat) :
      (s.lapse now).isDown k = false ↔ k ∈ s.player.controls.lapsed now := by
    rw [isDown_lapse hpending, hdown]
    simp
  calc (∃ now, (s.lapse now).isDown k = false)
      ↔ ∃ now, k ∈ s.player.controls.lapsed now := exists_congr hreleased
    _ ↔ s.isHeld k = true := Controls.exists_mem_lapsed_iff
    _ ↔ s.stranded.isDown k = false := (hdown ▸ hagrees k).held_iff

/-- A key is pressed, and its event obeyed. -/
theorem isDown_eq_isHeld_of_press :
    let s := (start {} (Vector.replicate 8 0) (.ok ⟨#[0x12, 0x00]⟩)).performAll
      [.push (.char 'q') true 0, .tick, .deliver]
    s.player.controls.pending = [] ∧
      (∀ k, s.isDown k = s.isHeld k ↔ s.stranded.isDown k = false) ∧
      ∀ k, s.isDown k = true →
        ((∃ now, (s.lapse now).isDown k = false) ↔ s.stranded.isDown k = false) :=
  have h : ((start {} (Vector.replicate 8 0) (.ok ⟨#[0x12, 0x00]⟩)).performAll
      [.push (.char 'q') true 0, .tick, .deliver]).player.controls.pending = [] := rfl
  ⟨h, isDown_eq_isHeld_iff _ _ _ _ h⟩

/-- A restart is asked for, and a key is pressed before it is obeyed: the key is down, the
controls do not hold it, and no passing of time releases it. -/
theorem stays_down_after_restart :
    let s := (start {} (Vector.replicate 8 0) (.ok ⟨#[0x12, 0x00]⟩)).performAll
      [.push .backspace true 0, .push (.char 'q') true 0, .deliver]
    s.player.controls.pending = [] ∧ s.isDown 4 = true ∧ s.isHeld 4 = false ∧
      ∀ now, (s.lapse now).isDown 4 = true := by
  refine ⟨rfl, rfl, rfl, fun now => ?_⟩
  rw [isDown_lapse rfl, if_neg]
  · rfl
  · intro hlapsed
    have hheld := Controls.isHeld_of_mem_lapsed hlapsed
    contradiction

end Session

end CosmacVip
