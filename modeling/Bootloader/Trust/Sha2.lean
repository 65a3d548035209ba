import Bootloader.Bytes

/-!
# The SHA-2 family

Both members used here work alike: a message is cut into blocks of sixteen
words, each block is folded into a chain of eight words, and the last block is
padded with a one bit, zeros and the length of the message. A variant fixes the
word, its rotations, the start of the chain and how much of it is the digest.

A running digest is fed piece by piece. It keeps the chain after the blocks that
are complete, the bytes behind them, and the number of bytes seen.
-/

set_option autoImplicit false

namespace Bootloader.Trust

/-- The bytes of a number with the highest first. -/
def bigEndian (count number : Nat) : Bytes :=
  (Bytes.ofNat count number).reverse

/-- The number stored with its highest byte first. -/
def ofBigEndian (bytes : Bytes) : Nat :=
  Bytes.toNat bytes.reverse

namespace Sha2

/-- The eight words between two blocks. -/
structure Chain (ω : Type) where
  a : ω
  b : ω
  c : ω
  d : ω
  e : ω
  f : ω
  g : ω
  h : ω
  deriving DecidableEq, Repr

namespace Chain

variable {ω : Type}

/-- The words in order. -/
def toList (chain : Chain ω) : List ω :=
  [chain.a, chain.b, chain.c, chain.d, chain.e, chain.f, chain.g, chain.h]

/-- Word by word. -/
def zipWith (combine : ω → ω → ω) (first second : Chain ω) : Chain ω where
  a := combine first.a second.a
  b := combine first.b second.b
  c := combine first.c second.c
  d := combine first.d second.d
  e := combine first.e second.e
  f := combine first.f second.f
  g := combine first.g second.g
  h := combine first.h second.h

end Chain

/-- How far a word is turned three times before the results are combined. -/
structure Turns where
  first : Nat
  second : Nat
  third : Nat

/-- A member of the family. -/
structure Variant (ω : Type) where
  wordBytes : Nat
  ofNat : Nat → ω
  toNat : ω → Nat
  rotate : ω → Nat → ω
  shift : ω → Nat → ω
  constants : List ω
  initial : Chain ω
  schedulePast : Turns
  scheduleRecent : Turns
  chainFirst : Turns
  chainFifth : Turns
  digestWords : Nat

namespace Variant

variable {ω : Type} (variant : Variant ω)

/-- Bytes of a block. -/
def blockBytes : Nat := 16 * variant.wordBytes

section

variable [Add ω] [XorOp ω] [AndOp ω] [Complement ω]

/-- The exclusive or of three rotations. -/
def rotations (turns : Turns) (word : ω) : ω :=
  variant.rotate word turns.first ^^^ variant.rotate word turns.second ^^^
    variant.rotate word turns.third

/-- The exclusive or of two rotations and a shift. -/
def rotationsAndShift (turns : Turns) (word : ω) : ω :=
  variant.rotate word turns.first ^^^ variant.rotate word turns.second ^^^
    variant.shift word turns.third

/-- The word of the schedule that follows sixteen others. -/
def nextWord (window : List ω) : ω :=
  let word (index : Nat) : ω := window.getD index (variant.ofNat 0)
  variant.rotationsAndShift variant.scheduleRecent (word 14) + word 9 +
    variant.rotationsAndShift variant.schedulePast (word 1) + word 0

/-- One round: it uses the first word of the schedule and its own constant. -/
def round (state : Chain ω × List ω) (constant : ω) : Chain ω × List ω :=
  let (chain, window) := state
  let word := window.headD (variant.ofNat 0)
  let choice := (chain.e &&& chain.f) ^^^ (~~~chain.e &&& chain.g)
  let majority := (chain.a &&& chain.b) ^^^ (chain.a &&& chain.c) ^^^ (chain.b &&& chain.c)
  let fromFifth := chain.h + variant.rotations variant.chainFifth chain.e + choice + constant + word
  let fromFirst := variant.rotations variant.chainFirst chain.a + majority
  ({ a := fromFifth + fromFirst, b := chain.a, c := chain.b, d := chain.c,
     e := chain.d + fromFifth, f := chain.e, g := chain.f, h := chain.g },
    window.tail ++ [variant.nextWord window])

/-- The words of a block. -/
def blockWords (count : Nat) (bytes : Bytes) : List ω :=
  match count with
  | 0 => []
  | count + 1 =>
      variant.ofNat (ofBigEndian (bytes.take variant.wordBytes)) ::
        blockWords count (bytes.drop variant.wordBytes)

/-- The chain after one more block. -/
def compress (chain : Chain ω) (block : Bytes) : Chain ω :=
  let start := (chain, variant.blockWords 16 block)
  chain.zipWith (· + ·) (variant.constants.foldl variant.round start).1

/-- The chain after `count` more blocks, and the bytes behind them. -/
def absorbBlocks (count : Nat) (chain : Chain ω) (bytes : Bytes) : Chain ω × Bytes :=
  match count with
  | 0 => (chain, bytes)
  | count + 1 =>
      absorbBlocks count (variant.compress chain (bytes.take variant.blockBytes))
        (bytes.drop variant.blockBytes)

end

end Variant

/-- A digest on its way: the chain, the bytes of the unfinished block, all bytes seen. -/
structure Running (ω : Type) where
  chain : Chain ω
  pending : Bytes
  fed : Nat
  deriving DecidableEq, Repr

namespace Running

variable {ω : Type} (variant : Variant ω)

/-- Nothing was fed yet. -/
def start : Running ω :=
  ⟨variant.initial, [], 0⟩

variable [Add ω] [XorOp ω] [AndOp ω] [Complement ω]

/-- Feed more bytes. -/
def feed (running : Running ω) (bytes : Bytes) : Running ω :=
  let available := running.pending ++ bytes
  let (chain, pending) :=
    variant.absorbBlocks (available.length / variant.blockBytes) running.chain available
  ⟨chain, pending, running.fed + bytes.length⟩

/-- What is fed at the end: a one bit, zeros, and the length of the message in bits. -/
def padding (fed : Nat) : Bytes :=
  let lengthBytes := 2 * variant.wordBytes
  let used := (fed + 1 + lengthBytes) % variant.blockBytes
  let zeros := (variant.blockBytes - used) % variant.blockBytes
  0x80 :: (List.replicate zeros 0 ++ bigEndian lengthBytes (8 * fed))

/-- The digest of everything that was fed. -/
def finish (running : Running ω) : Bytes :=
  let final := running.feed variant (padding variant running.fed)
  (final.chain.toList.take variant.digestWords).flatMap fun word =>
    bigEndian variant.wordBytes (variant.toNat word)

end Running

/-- The fractional parts of the cube roots of the first eighty primes. -/
def cubeRoots : List UInt64 :=
  [0x428a2f98d728ae22, 0x7137449123ef65cd, 0xb5c0fbcfec4d3b2f, 0xe9b5dba58189dbbc,
   0x3956c25bf348b538, 0x59f111f1b605d019, 0x923f82a4af194f9b, 0xab1c5ed5da6d8118,
   0xd807aa98a3030242, 0x12835b0145706fbe, 0x243185be4ee4b28c, 0x550c7dc3d5ffb4e2,
   0x72be5d74f27b896f, 0x80deb1fe3b1696b1, 0x9bdc06a725c71235, 0xc19bf174cf692694,
   0xe49b69c19ef14ad2, 0xefbe4786384f25e3, 0x0fc19dc68b8cd5b5, 0x240ca1cc77ac9c65,
   0x2de92c6f592b0275, 0x4a7484aa6ea6e483, 0x5cb0a9dcbd41fbd4, 0x76f988da831153b5,
   0x983e5152ee66dfab, 0xa831c66d2db43210, 0xb00327c898fb213f, 0xbf597fc7beef0ee4,
   0xc6e00bf33da88fc2, 0xd5a79147930aa725, 0x06ca6351e003826f, 0x142929670a0e6e70,
   0x27b70a8546d22ffc, 0x2e1b21385c26c926, 0x4d2c6dfc5ac42aed, 0x53380d139d95b3df,
   0x650a73548baf63de, 0x766a0abb3c77b2a8, 0x81c2c92e47edaee6, 0x92722c851482353b,
   0xa2bfe8a14cf10364, 0xa81a664bbc423001, 0xc24b8b70d0f89791, 0xc76c51a30654be30,
   0xd192e819d6ef5218, 0xd69906245565a910, 0xf40e35855771202a, 0x106aa07032bbd1b8,
   0x19a4c116b8d2d0c8, 0x1e376c085141ab53, 0x2748774cdf8eeb99, 0x34b0bcb5e19b48a8,
   0x391c0cb3c5c95a63, 0x4ed8aa4ae3418acb, 0x5b9cca4f7763e373, 0x682e6ff3d6b2b8a3,
   0x748f82ee5defb2fc, 0x78a5636f43172f60, 0x84c87814a1f0ab72, 0x8cc702081a6439ec,
   0x90befffa23631e28, 0xa4506cebde82bde9, 0xbef9a3f7b2c67915, 0xc67178f2e372532b,
   0xca273eceea26619c, 0xd186b8c721c0c207, 0xeada7dd6cde0eb1e, 0xf57d4f7fee6ed178,
   0x06f067aa72176fba, 0x0a637dc5a2c898a6, 0x113f9804bef90dae, 0x1b710b35131c471b,
   0x28db77f523047d84, 0x32caab7b40c72493, 0x3c9ebe0a15c9bebc, 0x431d67c49c100d4c,
   0x4cc5d4becb3e42b6, 0x597f299cfc657e2a, 0x5fcb6fab3ad6faec, 0x6c44198c4a475817]

/-- A 32-bit word turned right. -/
def rotate32 (word : UInt32) (count : Nat) : UInt32 :=
  (word >>> UInt32.ofNat count) ||| (word <<< UInt32.ofNat (32 - count))

/-- A 64-bit word turned right. -/
def rotate64 (word : UInt64) (count : Nat) : UInt64 :=
  (word >>> UInt64.ofNat count) ||| (word <<< UInt64.ofNat (64 - count))

/-- SHA-256: 32-bit words, sixty-four rounds, the whole chain. -/
def sha256 : Variant UInt32 where
  wordBytes := 4
  ofNat := UInt32.ofNat
  toNat := UInt32.toNat
  rotate := rotate32
  shift word count := word >>> UInt32.ofNat count
  constants := (cubeRoots.take 64).map fun (root : UInt64) => (root >>> 32).toUInt32
  initial := ⟨
    0x6a09e667, 0xbb67ae85, 0x3c6ef372, 0xa54ff53a,
    0x510e527f, 0x9b05688c, 0x1f83d9ab, 0x5be0cd19⟩
  schedulePast := ⟨7, 18, 3⟩
  scheduleRecent := ⟨17, 19, 10⟩
  chainFirst := ⟨2, 13, 22⟩
  chainFifth := ⟨6, 11, 25⟩
  digestWords := 8

/-- SHA-384: 64-bit words, eighty rounds, six words of the chain. -/
def sha384 : Variant UInt64 where
  wordBytes := 8
  ofNat := UInt64.ofNat
  toNat := UInt64.toNat
  rotate := rotate64
  shift word count := word >>> UInt64.ofNat count
  constants := cubeRoots
  initial := ⟨
    0xcbbb9d5dc1059ed8, 0x629a292a367cd507, 0x9159015a3070dd17, 0x152fecd8f70e5939,
    0x67332667ffc00b31, 0x8eb44a8768581511, 0xdb0c2e0d64f98fa7, 0x47b5481dbefa4fa4⟩
  schedulePast := ⟨1, 8, 7⟩
  scheduleRecent := ⟨19, 61, 6⟩
  chainFirst := ⟨28, 34, 39⟩
  chainFifth := ⟨14, 18, 41⟩
  digestWords := 6

end Sha2

end Bootloader.Trust
