import CosmacVip.Controls
import CosmacVip.Failure
import CosmacVip.Machine.Config
import CosmacVip.Yaml.Document

/-!
The player's preferences, as the configuration file gives them.

* `Preferences.parse`: the preferences that a text states; fields it does not know are passed over;
* `Preferences.machineConfig`: what the machine is made from.
-/

namespace CosmacVip

open Yaml (Node)

/-- What the player can choose. -/
structure Preferences where
  clockFrequency : Option Frequency := none
  /-- The time in milliseconds for which a key is held after it was last reported. -/
  keyHold : Nat := 150
  seed : Option UInt64 := none
  /-- The keys in use; the conventional ones if there are none here. -/
  keys : Option (List KeyDefinition) := none
deriving DecidableEq

namespace Preferences

/-! ### Values -/

/-- A number without a sign, or with a plus. -/
def number (n : Node) : Except ConfigError Nat :=
  match n.scalar? >>= Yaml.Scalar.natural? with
  | some k => .ok k
  | none => .error .badValue

/-- The number of a keypad key. -/
def keypadKey (n : Node) : Except ConfigError Key :=
  match n.scalar? >>= Yaml.Scalar.integer? >>= Key.ofInt? with
  | some k => .ok k
  | none => .error .badValue

/-- The text of a scalar, be it a number, null or anything else. -/
def text (n : Node) : Except ConfigError String :=
  match n.scalar? with
  | some s => .ok s.text
  | none => .error .badValue

/-- The name of a host key. -/
def hostKey (n : Node) : Except ConfigError HostKey := do
  let name ← text n
  match HostKey.parse? name with
  | some k => .ok k
  | none => .error (.unknownKey name)

/-- A sequence of values of one kind. -/
def listOf (value : Node → Except ConfigError α) (n : Node) : Except ConfigError (List α) :=
  match n.items? with
  | some items => items.mapM value
  | none => .error .badValue

/-- A value of some kind, or null. -/
def orNull (value : Node → Except ConfigError α) (n : Node) : Except ConfigError (Option α) :=
  if n.isNull then .ok none else (value n).map some

/-! ### Fields -/

/-- The value of a field, if it is given; no field may be given twice. -/
def field? (entries : List (String × Node)) (name : String) : Except ConfigError (Option Node) :=
  match entries.filter fun e => e.1 = name with
  | [] => .ok none
  | [e] => .ok (some e.2)
  | _ => .error (.repeated name)

/-- The value of a field that may be absent or null. -/
def optionalField (entries : List (String × Node)) (name : String)
    (value : Node → Except ConfigError α) : Except ConfigError (Option α) := do
  match ← field? entries name with
  | some n => orNull value n
  | none => .ok none

/-- The value of a field, or a given one if the field is absent. -/
def fieldOr (absent : α) (entries : List (String × Node)) (name : String)
    (value : Node → Except ConfigError α) : Except ConfigError α := do
  match ← field? entries name with
  | some n => value n
  | none => .ok absent

/-- The entries of a mapping whose keys are names. -/
def entriesOf (n : Node) : Except ConfigError (List (String × Node)) :=
  match n.entries? with
  | some entries => entries.mapM fun (key, value) => (text key).map fun name => (name, value)
  | none => .error .badValue

/-! ### Documents -/

/-- A definition of keys. -/
def keyDefinition (n : Node) : Except ConfigError KeyDefinition := do
  let entries ← entriesOf n
  return {
    key := ← optionalField entries "chip8" keypadKey
    action := ← optionalField entries "action" text
    hostKeys := ← optionalField entries "keyboard_keys" (listOf hostKey) }

/-- The preferences of a document. -/
def ofNode (n : Node) : Except ConfigError Preferences := do
  let entries ← entriesOf n
  return {
    clockFrequency := (← optionalField entries "clock_frequency" number).map Frequency.mk
    keyHold := ← fieldOr 150 entries "key_hold_ms" number
    seed := (← optionalField entries "seed" number).map UInt64.ofNat
    keys := ← optionalField entries "keys" (listOf keyDefinition) }

/-- The preferences of a text; one without a document states none. -/
def parse (s : String) : Except ConfigError Preferences :=
  match Yaml.Document.parse? s with
  | none => .error .malformed
  | some none => .ok {}
  | some (some n) => ofNode n

/-- The preferences of a file's contents. -/
def ofBytes (bytes : ByteArray) : Except ConfigError Preferences :=
  match String.fromUTF8? bytes with
  | some s => parse s
  | none => .error .malformed

/-- The preferences of a file, which perhaps cannot be read. -/
def ofFile (contents : Except FileError ByteArray) : Except Failure Preferences :=
  match contents with
  | .ok bytes => (ofBytes bytes).mapError .config
  | .error e => .error (.file e)

/-! ### Use -/

/-- What the machine is made from, its display sized after a screen. -/
def machineConfig (p : Preferences) (width height : Nat) : Machine.Config :=
  Machine.Config.withScreen { clockFrequency := p.clockFrequency, seed := p.seed } width height

/-- The key definitions in use. -/
def definitions (p : Preferences) : List KeyDefinition := p.keys.getD KeyDefinition.conventional

/-- The controls, before any key is reported. -/
def controls (p : Preferences) : Controls := .ofDefinitions p.definitions p.keyHold

end Preferences

end CosmacVip
