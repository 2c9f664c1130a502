import CosmacVip.HostKey
import CosmacVip.Keypad

/-!
The player's controls: which host key means what, and which keypad keys are held.

Terminals report presses and repeats of a key but often no release, so a held key counts as released
when it was not reported for the hold time, or when a release does arrive.

* `KeyDefinition.conventional`: the keypad on the left side of a keyboard;
* `Controls.resolve`: what a host key means, by the first definition that lists it;
* `Controls.push`, `Controls.expire`: a key report, and the passing of time;
* `Controls.drain`: the events that have come up since the last drain.
-/

namespace CosmacVip

/-- One entry of the key list: host keys, and the keypad key or the action they stand for. -/
structure KeyDefinition where
  key : Option Key := none
  action : Option String := none
  hostKeys : Option (List HostKey) := none
deriving DecidableEq

namespace KeyDefinition

/-- The action that ends the program. -/
def exitAction : String := "exit"

/-- The action that starts the game over. -/
def resetAction : String := "reset"

/-- A single host key that stands for the keypad key with the given code. -/
def ofKey (code : UInt8) (c : Char) : KeyDefinition :=
  { key := some (.ofNibble code), hostKeys := some [.char c] }

/-- A single host key that stands for an action. -/
def ofAction (action : String) (k : HostKey) : KeyDefinition :=
  { action := some action, hostKeys := some [k] }

/-- The keypad's four rows of four, laid over the left side of a keyboard, and two actions. -/
def conventional : List KeyDefinition := [
  ofKey 0x1 '1', ofKey 0x2 '2', ofKey 0x3 '3', ofKey 0xC '4',
  ofKey 0x4 'q', ofKey 0x5 'w', ofKey 0x6 'e', ofKey 0xD 'r',
  ofKey 0x7 'a', ofKey 0x8 's', ofKey 0x9 'd', ofKey 0xE 'f',
  ofKey 0xA 'z', ofKey 0x0 'x', ofKey 0xB 'c', ofKey 0xF 'v',
  ofAction exitAction .esc, ofAction resetAction .backspace]

end KeyDefinition

/-- What the controls tell the player. -/
inductive InputEvent where
  | action (name : String)
  | key (k : Key) (down : Bool)
deriving DecidableEq

/-- What a host key means. -/
inductive Meaning where
  | key (k : Key)
  | action (name : String)
  | nothing
deriving DecidableEq

/-- What the host keys of a definition mean; a keypad key goes before an action. -/
def KeyDefinition.meaning (d : KeyDefinition) : Meaning :=
  match d.key, d.action with
  | some k, _ => .key k
  | none, some name => .action name
  | none, none => .nothing

/-- Key bindings, the keys that are held, and the events that are not drained yet. Times are
milliseconds since an arbitrary start. -/
structure Controls where
  /-- Host keys and their meanings; the first entry of a key counts. -/
  bindings : List (HostKey × Meaning)
  /-- How long a key is held after it was last reported. -/
  hold : Nat
  /-- When each held key was last reported. -/
  held : Vector (Option Nat) 16
  pending : List InputEvent

namespace Controls

/-- The bindings of definitions, in their order. -/
def bindingsOf (definitions : List KeyDefinition) : List (HostKey × Meaning) :=
  definitions.flatMap fun d => (d.hostKeys.getD []).map fun k => (k, d.meaning)

/-- Controls with no key held and no event pending. -/
def ofDefinitions (definitions : List KeyDefinition) (hold : Nat) : Controls :=
  ⟨bindingsOf definitions, hold, Vector.replicate 16 none, []⟩

/-- What a host key means; nothing if no definition lists it. -/
def resolve (c : Controls) (k : HostKey) : Meaning :=
  match c.bindings.find? fun b => b.1 = k with
  | some b => b.2
  | none => .nothing

/-- Whether a keypad key is held. -/
def isHeld (c : Controls) (k : Key) : Bool := c.held[k].isSome

/-- The controls with one event more. -/
def emit (c : Controls) (e : InputEvent) : Controls := { c with pending := c.pending ++ [e] }

/-- The controls with a key marked as last reported at a time, or as not held. -/
def mark (c : Controls) (k : Key) (since : Option Nat) : Controls :=
  { c with held := c.held.set k since }

/-- A key is reported as down: an event unless it is held already, and its hold time starts over. -/
def press (c : Controls) (k : Key) (now : Nat) : Controls :=
  if c.isHeld k then c.mark k (some now) else (c.mark k (some now)).emit (.key k true)

/-- A key is reported as up: an event if it is held. -/
def release (c : Controls) (k : Key) : Controls :=
  if c.isHeld k then (c.mark k none).emit (.key k false) else c

/-- The controls after a report of a host key. -/
def push (c : Controls) (k : HostKey) (down : Bool) (now : Nat) : Controls :=
  match c.resolve k, down with
  | .key k, true => c.press k now
  | .key k, false => c.release k
  | .action name, true => c.emit (.action name)
  | .action _, false => c
  | .nothing, _ => c

/-- The held keys whose last report is the hold time ago, in ascending order. A time before the report
counts as no time gone by. -/
def lapsed (c : Controls) (now : Nat) : List Key :=
  Key.all.filter fun k => c.held[k].any fun since => c.hold ≤ now - since

/-- The controls after the keys whose hold time is over are released. -/
def expire (c : Controls) (now : Nat) : Controls := (c.lapsed now).foldl release c

/-- The pending events, and the controls without them. -/
def drain (c : Controls) : List InputEvent × Controls := (c.pending, { c with pending := [] })

/-- The controls with no key held and no event pending. -/
def clear (c : Controls) : Controls :=
  { c with held := Vector.replicate 16 none, pending := [] }

end Controls

end CosmacVip
