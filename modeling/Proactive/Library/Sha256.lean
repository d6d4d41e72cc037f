import Mathlib.Data.List.Basic

/-! SHA-256 over byte lists. -/
namespace Proactive.Library.Sha256

abbrev Word := BitVec 32

abbrev Digest := BitVec 256

def roundConstants : List Word :=
  [0x428a2f98,0x71374491,0xb5c0fbcf,0xe9b5dba5,0x3956c25b,0x59f111f1,0x923f82a4,0xab1c5ed5,
    0xd807aa98,0x12835b01,0x243185be,0x550c7dc3,0x72be5d74,0x80deb1fe,0x9bdc06a7,0xc19bf174,
    0xe49b69c1,0xefbe4786,0x0fc19dc6,0x240ca1cc,0x2de92c6f,0x4a7484aa,0x5cb0a9dc,0x76f988da,
    0x983e5152,0xa831c66d,0xb00327c8,0xbf597fc7,0xc6e00bf3,0xd5a79147,0x06ca6351,0x14292967,
    0x27b70a85,0x2e1b2138,0x4d2c6dfc,0x53380d13,0x650a7354,0x766a0abb,0x81c2c92e,0x92722c85,
    0xa2bfe8a1,0xa81a664b,0xc24b8b70,0xc76c51a3,0xd192e819,0xd6990624,0xf40e3585,0x106aa070,
    0x19a4c116,0x1e376c08,0x2748774c,0x34b0bcb5,0x391c0cb3,0x4ed8aa4a,0x5b9cca4f,0x682e6ff3,
    0x748f82ee,0x78a5636f,0x84c87814,0x8cc70208,0x90befffa,0xa4506ceb,0xbef9a3f7,0xc67178f2]

structure Working where
  a : Word
  b : Word
  c : Word
  d : Word
  e : Word
  f : Word
  g : Word
  h : Word

def initial : Working :=
  ⟨0x6a09e667,0xbb67ae85,0x3c6ef372,0xa54ff53a,0x510e527f,0x9b05688c,0x1f83d9ab,0x5be0cd19⟩

def smallSigma0 (word : Word) : Word :=
  word.rotateRight 7 ^^^ word.rotateRight 18 ^^^ word >>> 3

def smallSigma1 (word : Word) : Word :=
  word.rotateRight 17 ^^^ word.rotateRight 19 ^^^ word >>> 10

def bigSigma0 (word : Word) : Word :=
  word.rotateRight 2 ^^^ word.rotateRight 13 ^^^ word.rotateRight 22

def bigSigma1 (word : Word) : Word :=
  word.rotateRight 6 ^^^ word.rotateRight 11 ^^^ word.rotateRight 25

def round (working : Working) (input : Word × Word) : Working :=
  let choose := (working.e &&& working.f) ^^^ (~~~working.e &&& working.g)
  let majority := (working.a &&& working.b) ^^^ (working.a &&& working.c) ^^^ (working.b &&& working.c)
  let first := working.h + bigSigma1 working.e + choose + input.1 + input.2
  let other := bigSigma0 working.a + majority
  ⟨first + other,working.a,working.b,working.c,working.d + first,working.e,working.f,working.g⟩

def extend : Nat → List Word → List Word
  | 0,words => words
  | more + 1,words => extend more
      ((smallSigma1 (words.getD 1 0) + words.getD 6 0 + smallSigma0 (words.getD 14 0) +
        words.getD 15 0)::words)

def compress (working : Working) (block : List Word) : Working :=
  let last := (roundConstants.zip (extend 48 block.reverse).reverse).foldl round working
  ⟨working.a + last.a,working.b + last.b,working.c + last.c,working.d + last.d,
    working.e + last.e,working.f + last.f,working.g + last.g,working.h + last.h⟩

/-- The big-endian words of a byte list whose length is a multiple of four. -/
def words : List UInt8 → List Word
  | first::second::third::fourth::rest =>
    BitVec.ofNat 32 (((first.toNat * 256 + second.toNat) * 256 + third.toNat) * 256 + fourth.toNat)::
      words rest
  | _ => []

def lengthBytes (bits : Nat) : List UInt8 :=
  [56,48,40,32,24,16,8,0].map (fun shift => UInt8.ofNat (bits >>> shift))

def padding (message : List UInt8) : List UInt8 :=
  message ++ 0x80::List.replicate ((119 - message.length % 64) % 64) 0 ++ lengthBytes (8 * message.length)

def absorb : Nat → List Word → Working → Working
  | 0,_,working => working
  | blocks + 1,rest,working => absorb blocks (rest.drop 16) (compress working (rest.take 16))

def sha256 (message : List UInt8) : Digest :=
  let padded := padding message
  let last := absorb (padded.length / 64) (words padded) initial
  last.a ++ last.b ++ last.c ++ last.d ++ last.e ++ last.f ++ last.g ++ last.h

example : sha256 [97,98,99] =
    0xba7816bf8f01cfea414140de5dae2223b00361a396177a9cb410ff61f20015ad := by decide +kernel

end Proactive.Library.Sha256
