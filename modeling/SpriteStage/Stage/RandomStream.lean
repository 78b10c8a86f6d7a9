import SpriteStage.Number.Binary

namespace SpriteStage

/-- The sixteen words that the cipher mixes. -/
abbrev CipherState := Vector UInt32 16

namespace CipherState

def rotateLeft (word : UInt32) (bits : UInt32) : UInt32 :=
  (word <<< bits) ||| (word >>> (32 - bits))

/-- Mixes four words. -/
def quarterRound (a b c d : Fin 16) (s : CipherState) : CipherState :=
  let s := s.set a (s[a] + s[b])
  let s := s.set d (rotateLeft (s[d] ^^^ s[a]) 16)
  let s := s.set c (s[c] + s[d])
  let s := s.set b (rotateLeft (s[b] ^^^ s[c]) 12)
  let s := s.set a (s[a] + s[b])
  let s := s.set d (rotateLeft (s[d] ^^^ s[a]) 8)
  let s := s.set c (s[c] + s[d])
  s.set b (rotateLeft (s[b] ^^^ s[c]) 7)

/-- Mixes the columns and then the diagonals. -/
def doubleRound (s : CipherState) : CipherState :=
  quarterRound 3 4 9 14 <| quarterRound 2 7 8 13 <| quarterRound 1 6 11 12 <|
    quarterRound 0 5 10 15 <| quarterRound 3 7 11 15 <| quarterRound 2 6 10 14 <|
      quarterRound 1 5 9 13 <| quarterRound 0 4 8 12 s

/-- The state before mixing: four constants, the key, a counter of 64 bits and no nonce. -/
def initial (key : Vector UInt32 8) (counter : Nat) : CipherState :=
  #v[0x61707865, 0x3320646e, 0x79622d32, 0x6b206574, key[0], key[1], key[2], key[3], key[4], key[5],
    key[6], key[7], counter.toUInt32, (counter / Nat.pow 2 32).toUInt32, 0, 0]

/-- One block of the key stream. -/
def block (key : Vector UInt32 8) (counter : Nat) : CipherState :=
  let start := initial key counter
  let mixed := (List.range 6).foldl (fun s _ => s.doubleRound) start
  mixed.zipWith (· + ·) start

end CipherState

/-- The random numbers behind random positions: the ChaCha cipher with twelve rounds, keyed by a
    seed. A stream is its key and the number of 64-bit numbers taken from it. -/
structure RandomStream where
  key : Vector UInt32 8
  /-- How many numbers were taken. -/
  taken : Nat

namespace RandomStream

/-- The state of the generator that spreads a seed over the key. -/
def nextSeed (state : UInt64) : UInt64 :=
  state * 6364136223846793005 + 11634580027462260723

/-- The word of the key that a state of the seed generator stands for. -/
def seedWord (state : UInt64) : UInt32 :=
  let mixed := (((state >>> 18) ^^^ state) >>> 27).toUInt32
  let turn := (state >>> 59).toUInt32
  (mixed >>> turn) ||| (mixed <<< ((32 - turn) % 32))

/-- The state of the seed generator after a number of steps. -/
def seedState (seed : Nat) (steps : Nat) : UInt64 :=
  (List.range steps).foldl (fun state _ => nextSeed state) seed.toUInt64

/-- The stream of a seed from its beginning. -/
def ofSeed (seed : Nat) : RandomStream :=
  ⟨Vector.ofFn fun i : Fin 8 => seedWord (seedState seed (i + 1)), 0⟩

/-- The word of the key stream with the given index. -/
def word (key : Vector UInt32 8) (index : Nat) : Nat :=
  (CipherState.block key (index / 16))[index % 16].toNat

/-- The next number, low word first. -/
def next (r : RandomStream) : Nat × RandomStream :=
  (word r.key (2 * r.taken) + Nat.pow 2 32 * word r.key (2 * r.taken + 1), { r with taken := r.taken + 1 })

/-- The fraction in `[0, 1)` made from the upper 52 bits of a number. -/
def fraction (bits : Nat) : Float :=
  Float.ofBits (0x3ff0000000000000 + bits / Nat.pow 2 12).toUInt64 - 1

/-- A number from zero up to, but not including, the bound. A product that rounds up to the bound is
    drawn again, `fuel` times at most. -/
def drawBelow (bound : Float) : Nat → RandomStream → Float × RandomStream
  | 0, r => (0, r)
  | fuel + 1, r =>
    let (bits, r) := r.next
    let x := fraction bits * bound
    if x < bound then (x, r) else drawBelow bound fuel r

/-- A point with both coordinates below the range. A range that is not a positive number pins the
    point to the origin and takes nothing from the stream. -/
def point (range : Float) (r : RandomStream) : (Float × Float) × RandomStream :=
  if Number.isFinite range && Number.isPositive range then
    let (x, r) := r.drawBelow range 1000
    let (y, r) := r.drawBelow range 1000
    ((x, y), r)
  else ((0, 0), r)

end RandomStream

end SpriteStage
