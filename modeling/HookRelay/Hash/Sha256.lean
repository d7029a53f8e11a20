import HookRelay.Text.Utf8

namespace HookRelay.Sha256

/-- The first thirty-two bits of the fractional parts of the cube roots of the first sixty-four
primes. -/
def roundConstants : Array UInt32 := #[
  0x428a2f98, 0x71374491, 0xb5c0fbcf, 0xe9b5dba5, 0x3956c25b, 0x59f111f1, 0x923f82a4, 0xab1c5ed5,
  0xd807aa98, 0x12835b01, 0x243185be, 0x550c7dc3, 0x72be5d74, 0x80deb1fe, 0x9bdc06a7, 0xc19bf174,
  0xe49b69c1, 0xefbe4786, 0x0fc19dc6, 0x240ca1cc, 0x2de92c6f, 0x4a7484aa, 0x5cb0a9dc, 0x76f988da,
  0x983e5152, 0xa831c66d, 0xb00327c8, 0xbf597fc7, 0xc6e00bf3, 0xd5a79147, 0x06ca6351, 0x14292967,
  0x27b70a85, 0x2e1b2138, 0x4d2c6dfc, 0x53380d13, 0x650a7354, 0x766a0abb, 0x81c2c92e, 0x92722c85,
  0xa2bfe8a1, 0xa81a664b, 0xc24b8b70, 0xc76c51a3, 0xd192e819, 0xd6990624, 0xf40e3585, 0x106aa070,
  0x19a4c116, 0x1e376c08, 0x2748774c, 0x34b0bcb5, 0x391c0cb3, 0x4ed8aa4a, 0x5b9cca4f, 0x682e6ff3,
  0x748f82ee, 0x78a5636f, 0x84c87814, 0x8cc70208, 0x90befffa, 0xa4506ceb, 0xbef9a3f7, 0xc67178f2]

structure State where
  a : UInt32
  b : UInt32
  c : UInt32
  d : UInt32
  e : UInt32
  f : UInt32
  g : UInt32
  h : UInt32

def State.initial : State :=
  ⟨0x6a09e667, 0xbb67ae85, 0x3c6ef372, 0xa54ff53a, 0x510e527f, 0x9b05688c, 0x1f83d9ab, 0x5be0cd19⟩

def rotateRight (word : UInt32) (count : UInt32) : UInt32 :=
  (word >>> count) ||| (word <<< (32 - count))

/-- Words sixteen to sixty-three of the message schedule, each from four earlier ones. -/
def extendSchedule (words : Array UInt32) (index : Nat) : Array UInt32 :=
  let recent := words.getD (index - 2) 0
  let distant := words.getD (index - 15) 0
  let spreadRecent := rotateRight recent 17 ^^^ rotateRight recent 19 ^^^ (recent >>> 10)
  let spreadDistant := rotateRight distant 7 ^^^ rotateRight distant 18 ^^^ (distant >>> 3)
  words.push (words.getD (index - 16) 0 + spreadDistant + words.getD (index - 7) 0 + spreadRecent)

def schedule (block : Array UInt32) : Array UInt32 :=
  (List.range' 16 48).foldl extendSchedule block

def State.round (state : State) (word constant : UInt32) : State :=
  let spreadE := rotateRight state.e 6 ^^^ rotateRight state.e 11 ^^^ rotateRight state.e 25
  let choice := (state.e &&& state.f) ^^^ (~~~ state.e &&& state.g)
  let first := state.h + spreadE + choice + constant + word
  let spreadA := rotateRight state.a 2 ^^^ rotateRight state.a 13 ^^^ rotateRight state.a 22
  let majority := (state.a &&& state.b) ^^^ (state.a &&& state.c) ^^^ (state.b &&& state.c)
  ⟨first + (spreadA + majority), state.a, state.b, state.c, state.d + first, state.e, state.f,
    state.g⟩

def State.add (left right : State) : State :=
  ⟨left.a + right.a, left.b + right.b, left.c + right.c, left.d + right.d, left.e + right.e,
    left.f + right.f, left.g + right.g, left.h + right.h⟩

def State.compress (state : State) (block : Array UInt32) : State :=
  let words := schedule block
  let mixed := (List.range 64).foldl
    (fun current index => current.round (words.getD index 0) (roundConstants.getD index 0)) state
  state.add mixed

def bigEndian (width number : Nat) : Bytes :=
  (List.range width).reverse.map fun place => (number / Nat.pow 256 place % 256).toUInt8

/-- The message, a one bit, zeros up to eight bytes short of a block, and the length in bits. -/
def pad (message : Bytes) : Bytes :=
  let zeros := (119 - message.length % 64) % 64
  message ++ 0x80 :: (List.replicate zeros 0 ++ bigEndian 8 (message.length * 8))

private def absorb (words : Array UInt32) (state : State) : Bytes → State
  | first :: second :: third :: fourth :: rest =>
    let word := first.toUInt32 <<< 24 ||| second.toUInt32 <<< 16 ||| third.toUInt32 <<< 8 |||
      fourth.toUInt32
    let words := words.push word
    if words.size = 16 then absorb #[] (state.compress words) rest else absorb words state rest
  | _ => state

def State.bytes (state : State) : Bytes :=
  [state.a, state.b, state.c, state.d, state.e, state.f, state.g, state.h].flatMap fun word =>
    bigEndian 4 word.toNat

def digest (message : Bytes) : Bytes := (absorb #[] State.initial (pad message)).bytes

theorem length_digest (message : Bytes) : (digest message).length = 32 := by
  simp [digest, State.bytes, bigEndian]

end HookRelay.Sha256
