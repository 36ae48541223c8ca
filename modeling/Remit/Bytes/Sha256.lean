import Remit.Bytes.Utf8

/-
  This file defines the SHA-256 digest of bytes: the message is
  padded to blocks of sixteen words, each block is expanded to
  sixty-four words, and as many rounds mix them into the state.

  Key definitions include:
    * `Sha256.State`
    * `Sha256.padding`
    * `Sha256.schedule`
    * `Sha256.compress`
    * `Sha256.digest`
-/

namespace Remit.Sha256

------------------------------------------------------------
-- Words
------------------------------------------------------------

/- Turn the bits of a word to the right, end around. -/
def rotate (x : UInt32) (n : UInt32) : UInt32 :=
  (x >>> n) ||| (x <<< (32 - n))

/- The four bytes of a word, the highest first. -/
def wordBytes (x : UInt32) : Bytes :=
  [(x >>> 24).toUInt8, (x >>> 16).toUInt8, (x >>> 8).toUInt8, x.toUInt8]

/- The words of bytes, four bytes each. -/
def words : Bytes → List UInt32
| a :: b :: c :: d :: rest =>
    ((a.toUInt32 <<< 24) ||| (b.toUInt32 <<< 16) |||
      (c.toUInt32 <<< 8) ||| d.toUInt32) :: words rest
| _ => []

/-
  The round constants: the first 32 fractional bits of the cube
  roots of the first sixty-four primes.
-/
def constants : List UInt32 :=
  [0x428a2f98, 0x71374491, 0xb5c0fbcf, 0xe9b5dba5,
   0x3956c25b, 0x59f111f1, 0x923f82a4, 0xab1c5ed5,
   0xd807aa98, 0x12835b01, 0x243185be, 0x550c7dc3,
   0x72be5d74, 0x80deb1fe, 0x9bdc06a7, 0xc19bf174,
   0xe49b69c1, 0xefbe4786, 0x0fc19dc6, 0x240ca1cc,
   0x2de92c6f, 0x4a7484aa, 0x5cb0a9dc, 0x76f988da,
   0x983e5152, 0xa831c66d, 0xb00327c8, 0xbf597fc7,
   0xc6e00bf3, 0xd5a79147, 0x06ca6351, 0x14292967,
   0x27b70a85, 0x2e1b2138, 0x4d2c6dfc, 0x53380d13,
   0x650a7354, 0x766a0abb, 0x81c2c92e, 0x92722c85,
   0xa2bfe8a1, 0xa81a664b, 0xc24b8b70, 0xc76c51a3,
   0xd192e819, 0xd6990624, 0xf40e3585, 0x106aa070,
   0x19a4c116, 0x1e376c08, 0x2748774c, 0x34b0bcb5,
   0x391c0cb3, 0x4ed8aa4a, 0x5b9cca4f, 0x682e6ff3,
   0x748f82ee, 0x78a5636f, 0x84c87814, 0x8cc70208,
   0x90befffa, 0xa4506ceb, 0xbef9a3f7, 0xc67178f2]

------------------------------------------------------------
-- The State
------------------------------------------------------------

/- The eight words that the rounds mix. -/
structure State where
  a : UInt32
  b : UInt32
  c : UInt32
  d : UInt32
  e : UInt32
  f : UInt32
  g : UInt32
  h : UInt32
deriving DecidableEq, Repr

namespace State

/-
  The first state: the first 32 fractional bits of the square
  roots of the first eight primes.
-/
def start : State :=
  ⟨0x6a09e667, 0xbb67ae85, 0x3c6ef372, 0xa54ff53a,
   0x510e527f, 0x9b05688c, 0x1f83d9ab, 0x5be0cd19⟩

/- One round with the sum of a round constant and a word. -/
def round (s : State) (k : UInt32) : State :=
  let mixE := rotate s.e 6 ^^^ rotate s.e 11 ^^^ rotate s.e 25
  let choice := (s.e &&& s.f) ^^^ ((~~~ s.e) &&& s.g)
  let first := s.h + mixE + choice + k
  let mixA := rotate s.a 2 ^^^ rotate s.a 13 ^^^ rotate s.a 22
  let majority := (s.a &&& s.b) ^^^ (s.a &&& s.c) ^^^ (s.b &&& s.c)
  ⟨first + mixA + majority, s.a, s.b, s.c,
   s.d + first, s.e, s.f, s.g⟩

/- Add two states word by word. -/
def add (s : State) (t : State) : State :=
  ⟨s.a + t.a, s.b + t.b, s.c + t.c, s.d + t.d,
   s.e + t.e, s.f + t.f, s.g + t.g, s.h + t.h⟩

/- The words of a state in order. -/
def toList (s : State) : List UInt32 :=
  [s.a, s.b, s.c, s.d, s.e, s.f, s.g, s.h]

end State

------------------------------------------------------------
-- The Digest
------------------------------------------------------------

/-
  What follows a message of so many bytes: one set bit, zeros
  up to a whole block, and the length in bits as eight bytes.
-/
def padding (size : Nat) : Bytes :=
  let zeros := (119 - size % 64) % 64
  let bits := UInt64.ofNat (8 * size)
  (0x80 : UInt8) :: (List.replicate zeros (0 : UInt8) ++
    wordBytes (bits >>> 32).toUInt32 ++ wordBytes bits.toUInt32)

/- The next word of a schedule, from those before it. -/
def nextWord (ws : Array UInt32) : UInt32 :=
  let n := ws.size
  let x := ws.getD (n - 15) 0
  let y := ws.getD (n - 2) 0
  let mixX := rotate x 7 ^^^ rotate x 18 ^^^ (x >>> 3)
  let mixY := rotate y 17 ^^^ rotate y 19 ^^^ (y >>> 10)
  ws.getD (n - 16) 0 + mixX + ws.getD (n - 7) 0 + mixY

/- The sixty-four words of a block of sixteen. -/
def schedule (block : List UInt32) : List UInt32 :=
  ((List.range 48).foldl
    (fun ws _ => ws.push (nextWord ws))
    block.toArray).toList

/- Mix one block into the state. -/
def compress (s : State) (block : List UInt32) : State :=
  s.add
    ((List.zipWith (· + ·) constants (schedule block)).foldl
      State.round s)

/- Mix so many blocks of sixteen words into the state. -/
def absorb : Nat → State → List UInt32 → State
| 0, s, _ => s
| n + 1, s, ws => absorb n (compress s (ws.take 16)) (ws.drop 16)

/- The thirty-two bytes of the digest of a message. -/
def digest (message : Bytes) : Bytes :=
  let ws := words (message ++ padding message.length)
  (absorb (ws.length / 16) State.start ws).toList.flatMap wordBytes

end Remit.Sha256
