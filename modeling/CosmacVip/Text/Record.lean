/-!
The diagnostic text of a value with named fields: the value's name, then its fields in braces,
as in `Jump { address: 2748 }`. A value without fields is its name alone.
-/

namespace CosmacVip.Record

/-- The text of a value named `name` whose fields have the given texts. -/
def text (name : String) : List (String × String) → String
  | [] => name
  | fields =>
    name ++ " \x7b " ++ ", ".intercalate (fields.map fun (field, value) => field ++ ": " ++ value)
      ++ " \x7d"

/-- The text of a value whose fields are numbers, written in decimal. -/
def ofNats (name : String) (fields : List (String × Nat)) : String :=
  text name (fields.map fun (field, value) => (field, value.repr))

/-- The text of a value that wraps another one, whose text is `inner`. -/
def wrapped (name inner : String) : String :=
  name ++ "(" ++ inner ++ ")"

end CosmacVip.Record
