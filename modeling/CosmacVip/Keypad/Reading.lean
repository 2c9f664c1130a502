import CosmacVip.Keypad
import CosmacVip.Text.Quoted

/-!
Reading a key from a value of a data format.

* `Key.read`: the key of an integer from 0 to 15, or what is wrong with the value.
-/

namespace CosmacVip

/-- A value of a data format that might be a key. -/
inductive RawValue where
  | integer (i : Int)
  | text (s : String)
  | boolean (b : Bool)
  | null
deriving DecidableEq

namespace RawValue

/-- How messages speak of a value. -/
def describe : RawValue → String
  | integer i => "integer `" ++ toString i ++ "`"
  | text s => "string " ++ Quoted.text s
  | boolean b => "boolean `" ++ toString b ++ "`"
  | null => "unit value"

end RawValue

namespace Key

/-- What is said of an integer that is no key. -/
def outOfRangeText (v : RawValue) : String :=
  "invalid value: " ++ v.describe ++ ", expected " ++ invalidText

/-- What is said of a value that is no integer. -/
def wrongTypeText (v : RawValue) : String :=
  "invalid type: " ++ v.describe ++ ", expected an integer between 0 and 15"

/-- The key of a value, or what is said of a value that is no key. -/
def read (v : RawValue) : Except String Key :=
  match v with
  | .integer i =>
    match ofInt? i with
    | some k => .ok k
    | none => .error (outOfRangeText v)
  | _ => .error (wrongTypeText v)

end Key

end CosmacVip
