/-!
# SHA-256

The hash of FIPS 180-4: the message is padded to blocks of sixty-four bytes, each
block is expanded to sixty-four words, and sixty-four rounds mix them into eight
state words.
-/

namespace RuleSchema.Digest.Sha256

/-- The first thirty-two bits of the fractional parts of cube roots of primes. -/
def roundConstants : List UInt32 :=
  [ 0x428a2f98, 0x71374491, 0xb5c0fbcf, 0xe9b5dba5, 0x3956c25b, 0x59f111f1,
    0x923f82a4, 0xab1c5ed5, 0xd807aa98, 0x12835b01, 0x243185be, 0x550c7dc3,
    0x72be5d74, 0x80deb1fe, 0x9bdc06a7, 0xc19bf174, 0xe49b69c1, 0xefbe4786,
    0x0fc19dc6, 0x240ca1cc, 0x2de92c6f, 0x4a7484aa, 0x5cb0a9dc, 0x76f988da,
    0x983e5152, 0xa831c66d, 0xb00327c8, 0xbf597fc7, 0xc6e00bf3, 0xd5a79147,
    0x06ca6351, 0x14292967, 0x27b70a85, 0x2e1b2138, 0x4d2c6dfc, 0x53380d13,
    0x650a7354, 0x766a0abb, 0x81c2c92e, 0x92722c85, 0xa2bfe8a1, 0xa81a664b,
    0xc24b8b70, 0xc76c51a3, 0xd192e819, 0xd6990624, 0xf40e3585, 0x106aa070,
    0x19a4c116, 0x1e376c08, 0x2748774c, 0x34b0bcb5, 0x391c0cb3, 0x4ed8aa4a,
    0x5b9cca4f, 0x682e6ff3, 0x748f82ee, 0x78a5636f, 0x84c87814, 0x8cc70208,
    0x90befffa, 0xa4506ceb, 0xbef9a3f7, 0xc67178f2 ]

/-- The eight words that a block is mixed into. -/
structure State where
  a : UInt32
  b : UInt32
  c : UInt32
  d : UInt32
  e : UInt32
  f : UInt32
  g : UInt32
  h : UInt32

/-- The first thirty-two bits of the fractional parts of square roots of primes. -/
def initialState : State :=
  ⟨0x6a09e667, 0xbb67ae85, 0x3c6ef372, 0xa54ff53a,
    0x510e527f, 0x9b05688c, 0x1f83d9ab, 0x5be0cd19⟩

/-- Rotate a word to the right by `count`, between one and thirty-one. -/
def rotate (word : UInt32) (count : UInt32) : UInt32 :=
  (word >>> count) ||| (word <<< (32 - count))

/-- One round: a schedule word and its constant enter the state. -/
def State.round (state : State) (word constant : UInt32) : State :=
  let sumE := rotate state.e 6 ^^^ rotate state.e 11 ^^^ rotate state.e 25
  let choice := (state.e &&& state.f) ^^^ ((~~~ state.e) &&& state.g)
  let first := state.h + sumE + choice + constant + word
  let sumA := rotate state.a 2 ^^^ rotate state.a 13 ^^^ rotate state.a 22
  let majority := (state.a &&& state.b) ^^^ (state.a &&& state.c) ^^^ (state.b &&& state.c)
  ⟨first + (sumA + majority), state.a, state.b, state.c,
    state.d + first, state.e, state.f, state.g⟩

/-- The sum of two states, word by word and modulo the word size. -/
def State.add (left right : State) : State :=
  ⟨left.a + right.a, left.b + right.b, left.c + right.c, left.d + right.d,
    left.e + right.e, left.f + right.f, left.g + right.g, left.h + right.h⟩

/-- The next schedule word from the sixteen before it, the latest first. -/
def nextWord (latest : List UInt32) : UInt32 :=
  let earlier (back : Nat) : UInt32 := latest.getD (back - 1) 0
  let low := earlier 15
  let high := earlier 2
  let lowSpread := rotate low 7 ^^^ rotate low 18 ^^^ (low >>> 3)
  let highSpread := rotate high 17 ^^^ rotate high 19 ^^^ (high >>> 10)
  earlier 16 + lowSpread + earlier 7 + highSpread

/-- Extend a schedule, kept in reverse, by `count` words. -/
def extend (schedule : List UInt32) : Nat → List UInt32
  | 0 => schedule
  | count + 1 => extend (nextWord schedule :: schedule) count

/-- Group bytes into big-endian words. -/
def wordsOf : List UInt8 → List UInt32
  | a :: b :: c :: d :: rest =>
      ((a.toUInt32 <<< 24) ||| (b.toUInt32 <<< 16) ||| (c.toUInt32 <<< 8) ||| d.toUInt32) ::
        wordsOf rest
  | _ => []

/-- Mix one block of sixty-four bytes into the state. -/
def State.absorb (state : State) (block : List UInt8) : State :=
  let schedule := (extend (wordsOf block).reverse 48).reverse
  let mixed :=
    (schedule.zip roundConstants).foldl (fun current pair => current.round pair.1 pair.2) state
  state.add mixed

/-- Big-endian bytes of a number, `count` of them. -/
def bytesOf (count value : Nat) : List UInt8 :=
  (List.range count).map fun place => UInt8.ofNat (value / 256 ^ (count - 1 - place) % 256)

/-- A one bit, zeros to fifty-six modulo sixty-four bytes, and the length in bits. -/
def padded (message : List UInt8) : List UInt8 :=
  let zeros := (119 - message.length % 64) % 64
  message ++ 0x80 :: (List.replicate zeros 0 ++ bytesOf 8 (8 * message.length))

/-- Absorb `count` blocks. -/
def State.absorbAll (state : State) (bytes : List UInt8) : Nat → State
  | 0 => state
  | count + 1 => (state.absorb (bytes.take 64)).absorbAll (bytes.drop 64) count

/-- The digest of a message as eight words. -/
def hashWords (message : List UInt8) : List UInt32 :=
  let blocks := padded message
  let state := initialState.absorbAll blocks (blocks.length / 64)
  [state.a, state.b, state.c, state.d, state.e, state.f, state.g, state.h]

/-- Lower-case hexadecimal text of a number in `count` digits. -/
def hexText (count value : Nat) : String :=
  String.ofList ((List.range count).map fun place =>
    Nat.digitChar (value / 16 ^ (count - 1 - place) % 16))

/-- The hash as sixty-four hexadecimal digits. -/
def hashHex (message : List UInt8) : String :=
  String.join ((hashWords message).map fun word => hexText 8 word.toNat)

end RuleSchema.Digest.Sha256
