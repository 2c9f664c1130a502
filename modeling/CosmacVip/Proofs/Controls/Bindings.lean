import CosmacVip.Proofs.Controls.Hold

/-!
Which definition a host key follows.

* `KeyDefinition.lists`: whether a definition lists a host key;
* `Controls.resolve_ofDefinitions`: a host key means what the first definition that lists it says;
* `Controls.numbered`, `Controls.lookup?`: bindings to the numbers of the definitions, which are given
  before the definitions without host keys are left out;
* `Controls.find?_numbered`, `Controls.lookup?_eq`: the numbers stay those of the definitions, and the
  first binding leads to the first definition;
* `Controls.resolve_eq_lookup?`: the meaning of a host key is that of the definition it is led to;
* `Controls.first_definition_decides`: what a report of a host key does, whatever came before it.
-/

namespace CosmacVip

/-- Whether a definition lists a host key. -/
def KeyDefinition.lists (d : KeyDefinition) (host : HostKey) : Bool :=
  (d.hostKeys.getD []).contains host

namespace Controls

variable (definitions : List KeyDefinition) (host : HostKey)

/-- Keys that are bound to one thing: the first binding of a host key, if it is one of them. -/
lemma find?_bound {α : Type} (keys : List HostKey) (a : α) :
    (keys.map (·, a)).find? (fun b => b.1 = host) = if keys.contains host then some (host, a) else none := by
  induction keys with
  | nil => rfl
  | cons k keys ih =>
      rw [List.map_cons, List.find?_cons, ih, List.contains_cons]
      by_cases hk : k = host
      · simp [hk]
      · simp [hk, Ne.symm hk]

/-! ### Meanings -/

/-- The bindings of definitions give a host key the meaning of the first definition that lists it. -/
lemma resolve_ofDefinitions (hold : Nat) :
    (ofDefinitions definitions hold).resolve host =
      ((definitions.find? (·.lists host)).map KeyDefinition.meaning).getD .nothing := by
  have hfind : (bindingsOf definitions).find? (fun b => b.1 = host) =
      (definitions.find? (·.lists host)).map fun d => (host, d.meaning) := by
    induction definitions with
    | nil => rfl
    | cons d definitions ih =>
        rw [bindingsOf, List.flatMap_cons, List.find?_append, find?_bound, ← bindingsOf, ih,
          List.find?_cons, ← KeyDefinition.lists]
        cases d.lists host <;> rfl
  rw [resolve, ofDefinitions]
  simp only [hfind]
  cases definitions.find? (·.lists host) <;> rfl

/-! ### Numbers -/

/-- Host keys and the numbers of the definitions that list them, in order. A definition without host
keys has a number too. -/
def numbered (first : Nat) : List (HostKey × Nat) :=
  ((definitions.zipIdx first).filterMap fun (d, i) => d.hostKeys.map (·, i)).flatMap
    fun (keys, i) => keys.map (·, i)

/-- The definition whose number the first binding of a host key has. -/
def lookup? : Option KeyDefinition :=
  ((numbered definitions 0).find? fun b => b.1 = host).bind fun b => definitions[b.2]?

lemma numbered_cons (d : KeyDefinition) (first : Nat) :
    numbered (d :: definitions) first =
      (d.hostKeys.getD []).map (·, first) ++ numbered definitions (first + 1) := by
  obtain ⟨key, action, hostKeys⟩ := d
  cases hostKeys <;> rfl

/-- The first binding of a host key has the number of the first definition that lists it: leaving out
definitions without host keys moves no number. -/
lemma find?_numbered (first : Nat) :
    (numbered definitions first).find? (fun b => b.1 = host) =
      (definitions.findIdx? (·.lists host)).map fun i => (host, first + i) := by
  induction definitions generalizing first with
  | nil => rfl
  | cons d definitions ih =>
      rw [numbered_cons, List.find?_append, find?_bound, ih, List.findIdx?_cons, ← KeyDefinition.lists]
      cases d.lists host with
      | true => simp
      | false => simp [Function.comp_def, Nat.add_assoc, Nat.add_comm 1]

/-- A host key is led by its number to the first definition that lists it. -/
lemma lookup?_eq : lookup? definitions host = definitions.find? (·.lists host) := by
  rw [lookup?, find?_numbered, List.find?_eq_bind_findIdx?_getElem?]
  cases definitions.findIdx? (·.lists host) <;> simp

/-- What a host key means is what the definition says to which its number leads. -/
lemma resolve_eq_lookup? (hold : Nat) :
    (ofDefinitions definitions hold).resolve host =
      ((lookup? definitions host).map KeyDefinition.meaning).getD .nothing := by
  rw [lookup?_eq, resolve_ofDefinitions]

/-! ### Reports -/

variable {host} {c : Controls}

lemma push_of_action {name : String} (h : c.resolve host = .action name) (down : Bool) (now : Nat) :
    c.push host down now = if down then c.emit (.action name) else c := by
  unfold push
  rw [h]
  cases down <;> rfl

lemma push_of_nothing (h : c.resolve host = .nothing) (down : Bool) (now : Nat) :
    c.push host down now = c := by
  unfold push
  rw [h]

lemma pending_push_of_key {k : Key} (h : c.resolve host = .key k) (down : Bool) (now : Nat) :
    (c.push host down now).pending =
      c.pending ++ if c.isHeld k = down then [] else [.key k down] := by
  unfold push
  rw [h]
  cases down with
  | true => exact pending_press c k now
  | false =>
      rw [pending_release]
      cases c.isHeld k <;> rfl

/-- **The first definition decides.** Numbered in their order, the definitions lead every host key to the
first of them that lists it, and that one decides what the key means and what a report of it does,
whatever was done with the controls before. If it has a keypad key, the bindings and the hold time stay,
that key alone is held or released, and the only event is one of that key, if it was not held or released
already. If it has nothing but an action, a press adds that action and a release does nothing. A definition
with neither and a host key that no definition lists do nothing at all. -/
theorem first_definition_decides (definitions : List KeyDefinition) (hold : Nat) (calls : List Call)
    (host : HostKey) (down : Bool) (now : Nat) :
    let c := (ofDefinitions definitions hold).performAll calls
    let after := c.push host down now
    lookup? definitions host = definitions.find? (·.lists host) ∧
      c.resolve host = ((lookup? definitions host).map KeyDefinition.meaning).getD .nothing ∧
      match definitions.find? (·.lists host) with
      | none => after = c
      | some d =>
        match d.key, d.action with
        | some k, _ =>
          after.bindings = c.bindings ∧ after.hold = c.hold ∧
            (∀ j, after.since? j = if j = k then (if down then some now else none) else c.since? j) ∧
            after.pending = c.pending ++ if c.isHeld k = down then [] else [.key k down]
        | none, some action => after = if down then c.emit (.action action) else c
        | none, none => after = c := by
  intro c after
  have hresolve : c.resolve host =
      ((lookup? definitions host).map KeyDefinition.meaning).getD .nothing :=
    (resolve_of_clear (clear_performAll _ calls) host).trans (resolve_eq_lookup? definitions host hold)
  refine ⟨lookup?_eq definitions host, hresolve, ?_⟩
  rw [lookup?_eq] at hresolve
  cases hfirst : definitions.find? (·.lists host) with
  | none =>
      rw [hfirst] at hresolve
      exact push_of_nothing hresolve down now
  | some d =>
      rw [hfirst] at hresolve
      obtain ⟨_ | k, _ | action, hostKeys⟩ := d
      case none.none => exact push_of_nothing hresolve down now
      case none.some => exact push_of_action hresolve down now
      case some.none | some.some =>
        have hk : c.resolve host = .key k := hresolve
        have hclear : after.clear = c.clear := clear_push c host down now
        have hbindings : after.clear.bindings = c.clear.bindings := by rw [hclear]
        have hsince (j : Key) :
            after.since? j = if j = k then (if down then some now else none) else c.since? j := by
          rw [since?_push, hk]
          simp [eq_comm]
        exact ⟨hbindings, hold_of_clear hclear, hsince, pending_push_of_key hk down now⟩

end Controls

end CosmacVip
