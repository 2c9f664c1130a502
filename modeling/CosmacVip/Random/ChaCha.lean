/-!
The ChaCha block function with twelve rounds, and the word stream that its blocks form.

* `ChaCha.block`: the sixteen words of one numbered block;
* `ChaCha.word`: word `n` of the stream of all blocks, as a function of the key and `n` alone;
* `ChaCha.keyOfSeed`: the key that a 64-bit seed stands for.

The sixteen words of a block stand in a square of four rows. A round mixes each column of the square,
and every other round does so after the rows are turned, so that it mixes the diagonals.
-/

namespace CosmacVip.ChaCha

/-- Four words in a row of the square. -/
abbrev Row := Vector UInt32 4

/-- The eight words that a stream depends on. -/
abbrev Key := Vector UInt32 8

/-- The words that a round works on. -/
structure Square where
  a : Row
  b : Row
  c : Row
  d : Row

namespace Square

/-- The sixteen words, row by row. -/
def words (s : Square) : Vector UInt32 16 := s.a ++ s.b ++ s.c ++ s.d

end Square

/-- A word with its bits moved `k` places up, those pushed out coming back at the low end. -/
def rotateUp (k : UInt32) (w : UInt32) : UInt32 := (w <<< k) ||| (w >>> (32 - k))

/-- A row with its words moved `k` places to the left, those pushed out coming back on the right. -/
def turn (k : Nat) (r : Row) : Row :=
  Vector.ofFn fun i => r.get ⟨(i.val + k) % 4, Nat.mod_lt _ (by decide)⟩

/-- The sums of the words of two rows. -/
def sum (r s : Row) : Row := Vector.zipWith (· + ·) r s

/-- The words of two rows combined bit by bit, and their bits moved `k` places up. -/
def mix (k : UInt32) (r s : Row) : Row := Vector.zipWith (fun v w => rotateUp k (v ^^^ w)) r s

/-- One round on the columns. -/
def round (s : Square) : Square :=
  let a := sum s.a s.b
  let d := mix 16 s.d a
  let c := sum s.c d
  let b := mix 12 s.b c
  let a := sum a b
  let d := mix 8 d a
  let c := sum c d
  let b := mix 7 b c
  ⟨a, b, c, d⟩

/-- Two rounds: on the columns, and on the diagonals. -/
def doubleRound (s : Square) : Square :=
  let s := round s
  let s := round ⟨s.a, turn 1 s.b, turn 2 s.c, turn 3 s.d⟩
  ⟨s.a, turn 3 s.b, turn 2 s.c, turn 1 s.d⟩

/-- The square that block `counter` starts from: constants, the key in two rows, and the 64-bit counter
with its low word first. -/
def start (key : Key) (counter : UInt64) : Square where
  a := #v[0x61707865, 0x3320646e, 0x79622d32, 0x6b206574]
  b := Vector.ofFn fun i => key[i.val]
  c := Vector.ofFn fun i => key[i.val + 4]
  d := #v[counter.toUInt32, (counter >>> 32).toUInt32, 0, 0]

/-- The words of block `counter`: the result of six double rounds, added to their start. -/
def block (key : Key) (counter : UInt64) : Vector UInt32 16 :=
  let s := start key counter
  Vector.zipWith (· + ·) (Nat.repeat doubleRound 6 s).words s.words

/-- Word `n` of the stream that the blocks form one after the other. -/
def word (key : Key) (n : Nat) : UInt32 :=
  (block key (UInt64.ofNat (n / 16))).get ⟨n % 16, Nat.mod_lt _ (by decide)⟩

/-- The step of the generator that spreads a seed over a key. -/
def seedStep (state : UInt64) : UInt64 :=
  state * 6364136223846793005 + 11634580027462260723

/-- The word that a state of the seed generator yields: its high bits folded, then rotated down
by its top five bits. -/
def seedWord (state : UInt64) : UInt32 :=
  let folded := (((state >>> 18) ^^^ state) >>> 27).toUInt32
  let places := (state >>> 59).toUInt32
  (folded >>> places) ||| (folded <<< ((32 - places) % 32))

/-- The key of a seed: the words of eight steps of the seed generator. -/
def keyOfSeed (seed : UInt64) : Key :=
  Vector.ofFn fun i => seedWord (Nat.repeat seedStep (i.val + 1) seed)

end CosmacVip.ChaCha
