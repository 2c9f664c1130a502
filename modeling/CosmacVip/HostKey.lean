import CosmacVip.Text.Quoted

/-!
The keys of the host's keyboard, and their names in the configuration file.

* `HostKey.text`: the name of a key;
* `HostKey.parse?`: the key of a name, whose ASCII letters may be in either case.
-/

namespace CosmacVip

/-- A key of the host: one that types a character, or one with a name. -/
inductive HostKey where
  | char (c : Char)
  | esc
  | enter
  | space
  | tab
  | backspace
deriving DecidableEq, Repr

namespace HostKey

/-- The name of a key. -/
def text : HostKey → String
  | char c => c.toString
  | esc => "esc"
  | enter => "enter"
  | space => "space"
  | tab => "tab"
  | backspace => "backspace"

/-- The key that types a character, upper-case ASCII letters counting as lower-case ones. -/
def typing (c : Char) : HostKey :=
  if c = ' ' then space else char c.toLower

/-- The key of a name of several letters, all of them lower-case. -/
def named? : String → Option HostKey
  | "esc" => some esc
  | "escape" => some esc
  | "enter" => some enter
  | "return" => some enter
  | "space" => some space
  | "tab" => some tab
  | "backspace" => some backspace
  | _ => none

/-- The key of a name: a single character, or a word. -/
def parse? (name : String) : Option HostKey :=
  match name.toList with
  | [c] => some (typing c)
  | cs => named? (String.ofList (cs.map Char.toLower))

/-- What is said of a name that no key has. -/
def unknownText (name : String) : String := "unknown keyboard key " ++ Quoted.text name

end HostKey

end CosmacVip
