import CosmacVip.Yaml.Scalar

/-!
Tokens: the marks of a text that are written, and those that its indentation stands for.
-/

namespace CosmacVip.Yaml

/-- A piece of a text that counts. Block collections begin and end by their indentation. -/
inductive Token where
  | documentStart
  | documentEnd
  | blockSequence
  | blockMapping
  | blockEnd
  | flowSequence
  | flowSequenceEnd
  | flowMapping
  | flowMappingEnd
  | comma
  /-- The dash before an item of a sequence. -/
  | item
  /-- What stands before a key: a question mark, or nothing if a colon follows the key in its line. -/
  | key
  /-- The colon before a value. -/
  | value
  | scalar (s : Scalar)
deriving DecidableEq

end CosmacVip.Yaml
