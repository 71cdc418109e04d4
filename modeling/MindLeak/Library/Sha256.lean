import Mathlib.Data.List.Defs

/-! SHA-256 over bytes, with its words of 32 bits as numbers. -/

namespace MindLeak.Sha256

def WORD : Nat := 4294967296

def constants : List Nat :=
  [0x428a2f98, 0x71374491, 0xb5c0fbcf, 0xe9b5dba5, 0x3956c25b, 0x59f111f1, 0x923f82a4, 0xab1c5ed5,
    0xd807aa98, 0x12835b01, 0x243185be, 0x550c7dc3, 0x72be5d74, 0x80deb1fe, 0x9bdc06a7, 0xc19bf174,
    0xe49b69c1, 0xefbe4786, 0x0fc19dc6, 0x240ca1cc, 0x2de92c6f, 0x4a7484aa, 0x5cb0a9dc, 0x76f988da,
    0x983e5152, 0xa831c66d, 0xb00327c8, 0xbf597fc7, 0xc6e00bf3, 0xd5a79147, 0x06ca6351, 0x14292967,
    0x27b70a85, 0x2e1b2138, 0x4d2c6dfc, 0x53380d13, 0x650a7354, 0x766a0abb, 0x81c2c92e, 0x92722c85,
    0xa2bfe8a1, 0xa81a664b, 0xc24b8b70, 0xc76c51a3, 0xd192e819, 0xd6990624, 0xf40e3585, 0x106aa070,
    0x19a4c116, 0x1e376c08, 0x2748774c, 0x34b0bcb5, 0x391c0cb3, 0x4ed8aa4a, 0x5b9cca4f, 0x682e6ff3,
    0x748f82ee, 0x78a5636f, 0x84c87814, 0x8cc70208, 0x90befffa, 0xa4506ceb, 0xbef9a3f7, 0xc67178f2]

def rotateRight (word count : Nat) : Nat := word >>> count ||| word <<< (32 - count) % WORD

structure Registers where
  (a b c d e f g h : Nat)

def initial : Registers :=
  ⟨0x6a09e667, 0xbb67ae85, 0x3c6ef372, 0xa54ff53a, 0x510e527f, 0x9b05688c, 0x1f83d9ab, 0x5be0cd19⟩

def round (r : Registers) (constant word : Nat) : Registers :=
  let first := r.h + (rotateRight r.e 6 ^^^ rotateRight r.e 11 ^^^ rotateRight r.e 25) +
    (r.e &&& r.f ^^^ (WORD - 1 - r.e) &&& r.g) + constant + word
  let second := (rotateRight r.a 2 ^^^ rotateRight r.a 13 ^^^ rotateRight r.a 22) + (r.a &&& r.b ^^^ r.a &&& r.c ^^^ r.b &&& r.c)
  ⟨(first + second) % WORD, r.a, r.b, r.c, (r.d + first) % WORD, r.e, r.f, r.g⟩

/-- The word behind a window of sixteen, which begins with `word`. -/
def nextWord (word : Nat) (rest : List Nat) : Nat :=
  let early := rest.getD 0 0
  let late := rest.getD 13 0
  (word + (rotateRight early 7 ^^^ rotateRight early 18 ^^^ early >>> 3) + rest.getD 8 0 +
    (rotateRight late 17 ^^^ rotateRight late 19 ^^^ late >>> 10)) % WORD

def rounds : List Nat → List Nat → Registers → Registers
  | constant :: constants, word :: rest, r => rounds constants (rest ++ [nextWord word rest]) (round r constant word)
  | _, _, r => r

def compress (r : Registers) (block : List Nat) : Registers :=
  let s := rounds constants block r
  ⟨(r.a + s.a) % WORD, (r.b + s.b) % WORD, (r.c + s.c) % WORD, (r.d + s.d) % WORD, (r.e + s.e) % WORD, (r.f + s.f) % WORD,
    (r.g + s.g) % WORD, (r.h + s.h) % WORD⟩

def compressAll : Nat → List Nat → Registers → Registers
  | 0, _, r => r
  | blocks + 1, words, r => compressAll blocks (words.drop 16) (compress r (words.take 16))

def wordsOf : List UInt8 → List Nat
  | a :: b :: c :: d :: rest => (((a.toNat * 256 + b.toNat) * 256 + c.toNat) * 256 + d.toNat) :: wordsOf rest
  | _ => []

def bytesOf (word : Nat) : List UInt8 :=
  [UInt8.ofNat (word >>> 24), UInt8.ofNat (word >>> 16), UInt8.ofNat (word >>> 8), UInt8.ofNat word]

/-- How many zero bytes fill the last block up to its length. -/
def filling (length : Nat) : Nat := (119 - length % 64) % 64

def pad (message : List UInt8) : List UInt8 :=
  message ++ 0x80 :: List.replicate (filling message.length) 0 ++ bytesOf (message.length * 8 / WORD) ++ bytesOf (message.length * 8)

def digest (message : List UInt8) : List UInt8 :=
  let r := compressAll ((pad message).length / 64) (wordsOf (pad message)) initial
  [r.a, r.b, r.c, r.d, r.e, r.f, r.g, r.h].flatMap bytesOf

@[simp] theorem length_digest (message : List UInt8) : (digest message).length = 32 := rfl

/-- The rounds on a window of sixteen numbers, none of them behind a list. -/
def unrolled (a b c d e f g h i j k l m n o p : Nat) (r : Registers) : List Nat → Registers
  | [] => r
  | constant :: constants =>
    unrolled b c d e f g h i j k l m n o p ((a + (rotateRight b 7 ^^^ rotateRight b 18 ^^^ b >>> 3) + j +
      (rotateRight o 17 ^^^ rotateRight o 19 ^^^ o >>> 10)) % WORD) (round r constant a) constants

theorem rounds_unrolled (constants : List Nat) (a b c d e f g h i j k l m n o p : Nat) (r : Registers) :
    rounds constants [a, b, c, d, e, f, g, h, i, j, k, l, m, n, o, p] r =
      unrolled a b c d e f g h i j k l m n o p r constants := by
  induction constants generalizing a b c d e f g h i j k l m n o p r with
  | nil => rfl
  | cons constant constants ih => exact ih ..

def unrolledAll : Nat → List Nat → Registers → Registers
  | blocks + 1, a :: b :: c :: d :: e :: f :: g :: h :: i :: j :: k :: l :: m :: n :: o :: p :: words, r =>
    let s := unrolled a b c d e f g h i j k l m n o p r constants
    unrolledAll blocks words ⟨(r.a + s.a) % WORD, (r.b + s.b) % WORD, (r.c + s.c) % WORD, (r.d + s.d) % WORD, (r.e + s.e) % WORD,
      (r.f + s.f) % WORD, (r.g + s.g) % WORD, (r.h + s.h) % WORD⟩
  | blocks, words, r => compressAll blocks words r

theorem compressAll_unrolled (blocks : Nat) (words : List Nat) (r : Registers) :
    compressAll blocks words r = unrolledAll blocks words r := by
  fun_induction unrolledAll blocks words r with
  | case1 r blocks a b c d e f g h i j k l m n o p words s ih =>
    rw [← ih, compressAll, compress]
    simp only [List.take_succ_cons, List.take_zero, List.drop_succ_cons, List.drop_zero, rounds_unrolled]
    rfl
  | case2 => rfl

def unrolledDigest (message : List UInt8) : List UInt8 :=
  let r := unrolledAll ((pad message).length / 64) (wordsOf (pad message)) initial
  [r.a, r.b, r.c, r.d, r.e, r.f, r.g, r.h].flatMap bytesOf

theorem digest_unrolled : digest = unrolledDigest := by
  funext message
  rw [digest, unrolledDigest, compressAll_unrolled]

example : digest [0x61, 0x62, 0x63] =
    [0xba, 0x78, 0x16, 0xbf, 0x8f, 0x01, 0xcf, 0xea, 0x41, 0x41, 0x40, 0xde, 0x5d, 0xae, 0x22, 0x23,
      0xb0, 0x03, 0x61, 0xa3, 0x96, 0x17, 0x7a, 0x9c, 0xb4, 0x10, 0xff, 0x61, 0xf2, 0x00, 0x15, 0xad] := by decide +kernel

end MindLeak.Sha256
