import CosmacVip.Random.ChaCha

/-!
The machine's source of random bytes: a stream of words, and how many of them are taken.

* `RandomStream.byte`, `RandomStream.advance`: the next byte, and the stream after it;
* `RandomStream.ofSeed?`: a seeded stream, or one from the host's entropy.
-/

namespace CosmacVip

/-- A stream of words and the number of words taken from it. -/
structure RandomStream where
  key : ChaCha.Key
  taken : Nat
deriving DecidableEq

namespace RandomStream

/-- The stream of a key, none of it taken. -/
def ofKey (key : ChaCha.Key) : RandomStream := ⟨key, 0⟩

/-- The stream of a seed, or that of the given entropy where there is no seed. -/
def ofSeed? (seed : Option UInt64) (entropy : ChaCha.Key) : RandomStream :=
  ofKey ((seed.map ChaCha.keyOfSeed).getD entropy)

/-- The low eight bits of the next word. -/
def byte (s : RandomStream) : UInt8 := (ChaCha.word s.key s.taken).toUInt8

/-- The stream after one more word is taken. -/
def advance (s : RandomStream) : RandomStream := { s with taken := s.taken + 1 }

end RandomStream

end CosmacVip
