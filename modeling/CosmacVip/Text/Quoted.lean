import CosmacVip.Text.Printable

/-!
Text in double quotes, as messages show names that came from outside.

* `Quoted.escape`: a quote, a backslash and some controls after a backslash, and what has no visible
  form by its code;
* `Quoted.text`: the escaped characters between quotes.
-/

namespace CosmacVip.Quoted

/-- The escape of a character by its code, in lower-case hexadecimal. -/
def byCode (c : Char) : String :=
  "\\u\x7b" ++ String.ofList (Nat.toDigits 16 c.toNat) ++ "\x7d"

/-- What stands for a character between the quotes. -/
def escape (c : Char) : String :=
  match c with
  | '\x00' => "\\0"
  | '\t' => "\\t"
  | '\r' => "\\r"
  | '\n' => "\\n"
  | '\\' => "\\\\"
  | '"' => "\\\""
  | c => if Printable.isPrintable c then c.toString else byCode c

/-- A text between quotes. -/
def text (s : String) : String :=
  "\"" ++ String.join (s.toList.map escape) ++ "\""

end CosmacVip.Quoted
