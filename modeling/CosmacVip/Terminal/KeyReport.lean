import CosmacVip.HostKey

/-!
Key reports of a terminal.

* `KeyCode.ofInput`: the key code of an input character;
* `KeyCode.hostKey?`: the host key of a terminal's key code;
* `KeyReport.event?`: that key, and whether it is down.
-/

namespace CosmacVip.Terminal

/-- A key as the terminal names it. -/
inductive KeyCode where
  | char (c : Char)
  | esc
  | enter
  | tab
  | backspace
  /-- A key that no definition can list. -/
  | other
deriving DecidableEq

/-- The key code of a character that comes from a terminal's input. -/
def KeyCode.ofInput (c : Char) : KeyCode :=
  if c = '\x1b' then esc
  else if c = '\n' || c = '\r' then enter
  else if c = '\t' then tab
  else if c = '\x7f' || c = '\x08' then backspace
  else char c

/-- What happened to the key. -/
inductive KeyAction where
  | press
  | hold
  | release
deriving DecidableEq

/-- A terminal's report of one key. -/
structure KeyReport where
  code : KeyCode
  action : KeyAction
deriving DecidableEq

/-- The host key of a key code, if definitions can list it. -/
def KeyCode.hostKey? : KeyCode → Option HostKey
  | .char c => some (if c = ' ' then .space else .char c.toLower)
  | .esc => some .esc
  | .enter => some .enter
  | .tab => some .tab
  | .backspace => some .backspace
  | .other => none

/-- The host key of a report, and whether it is down: a repeat counts as a press. -/
def KeyReport.event? (r : KeyReport) : Option (HostKey × Bool) :=
  r.code.hostKey?.map fun k => (k, r.action != .release)

end CosmacVip.Terminal
