import Bootloader.Trust.P256
import Bootloader.Trust.Sha2

/-!
# Deterministic nonces

The nonce of a signature is drawn from a generator seeded with the private key
and the digest, so signing twice gives the same signature. The generator is the
one of HMAC with SHA-256: it keeps a key and a value, and mixes its seed into
both twice before the first value is taken.
-/

set_option autoImplicit false

namespace Bootloader.Trust

/-- The SHA-256 digest of bytes. -/
def sha256Bytes (bytes : Bytes) : Bytes :=
  ((Sha2.Running.start Sha2.sha256).feed Sha2.sha256 bytes).finish Sha2.sha256

/-- The code that authenticates a message under a key of at most one block. -/
def hmac (key message : Bytes) : Bytes :=
  let block := key.resize Sha2.sha256.blockBytes
  let inner := sha256Bytes (block.map (· ^^^ 0x36) ++ message)
  sha256Bytes (block.map (· ^^^ 0x5c) ++ inner)

namespace Nonce

/-- The state of the generator. -/
structure Generator where
  key : Bytes
  value : Bytes
  deriving DecidableEq, Repr

/-- Mix bytes into key and value. -/
def Generator.mix (generator : Generator) (tag : UInt8) (bytes : Bytes) : Generator :=
  let key := hmac generator.key (generator.value ++ [tag] ++ bytes)
  ⟨key, hmac key generator.value⟩

/-- The generator seeded with a private key and a digest. -/
def Generator.seed (privateKey digest : Bytes) : Generator :=
  let fresh : Generator := ⟨List.replicate 32 0, List.replicate 32 1⟩
  (fresh.mix 0 (privateKey ++ digest)).mix 1 (privateKey ++ digest)

/-- The next value that is a scalar other than zero, within a number of draws. -/
def Generator.draw? (generator : Generator) : (draws : Nat) → Option Nat
  | 0 => none
  | draws + 1 =>
      let value := hmac generator.key generator.value
      let candidate := ofBigEndian value
      if 0 < candidate ∧ candidate < P256.order then some candidate
      else (Generator.mix ⟨generator.key, value⟩ 0 []).draw? draws

/-- Draws before the generator is given up; a draw fails once in four thousand million. -/
def maximumDraws : Nat := 64

/-- The nonce for a private key and a digest of thirty-two bytes each. -/
def derive? (privateKey digest : Bytes) : Option Nat :=
  (Generator.seed privateKey digest).draw? maximumDraws

end Nonce

end Bootloader.Trust
