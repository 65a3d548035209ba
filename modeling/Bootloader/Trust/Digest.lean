import Bootloader.Act
import Bootloader.Text.Digits
import Bootloader.Trust.Error
import Bootloader.Trust.Sha2

/-!
# Digests of images

A digest is computed while the bytes of an image stream by: a hasher is fed
chunk by chunk and finished at the end. A finished digest is compared with the
expected bytes, and a difference in length is a mismatch too.
-/

set_option autoImplicit false

namespace Bootloader.Trust

/-- The supported digests. -/
inductive Algorithm where
  | sha256
  | sha384
  deriving DecidableEq, Repr, Inhabited

namespace Algorithm

/-- The word that selects an algorithm. -/
def name : Algorithm → String
  | sha256 => "sha256"
  | sha384 => "sha384"

/-- The algorithm of a word. -/
def ofName (word : String) : Except Error Algorithm :=
  if word = sha256.name then .ok sha256
  else if word = sha384.name then .ok sha384
  else .error .unknownAlgorithm

/-- Bytes of a digest. -/
def digestLength : Algorithm → Nat
  | sha256 => 32
  | sha384 => 48

end Algorithm

/-- The longest digest. -/
def maximumDigest : Nat := 48

/-- The bytes of a digest. -/
structure Digest where
  bytes : Bytes
  deriving DecidableEq, Repr

namespace Digest

/-- Bytes as a digest, unless there are more of them than any digest has. -/
def ofBytes (bytes : Bytes) : Except Error Digest :=
  if maximumDigest < bytes.length then .error (.badLength maximumDigest bytes.length)
  else .ok ⟨bytes⟩

/-- The bytes in hexadecimal, two digits each. -/
def render (digest : Digest) : String :=
  Text.hexOfBytes digest.bytes

/-- Compare a computed digest with the expected bytes. -/
def verify {σ : Type} (digest : Digest) (expected : Bytes) : Act σ Error Unit := do
  if digest.bytes = expected then
    pure ()
  else
    Act.note (Log.Component.digests.report .warn ("digest mismatch: computed " ++ digest.render))
    Act.fail .digestMismatch

end Digest

/-- A digest on its way, of one of the algorithms. -/
inductive Hasher where
  | sha256 (running : Sha2.Running UInt32)
  | sha384 (running : Sha2.Running UInt64)
  deriving DecidableEq, Repr

namespace Hasher

/-- A hasher that was fed nothing. -/
def start : Algorithm → Hasher
  | .sha256 => sha256 (Sha2.Running.start Sha2.sha256)
  | .sha384 => sha384 (Sha2.Running.start Sha2.sha384)

/-- The algorithm of a hasher. -/
def algorithm : Hasher → Algorithm
  | sha256 _ => .sha256
  | sha384 _ => .sha384

/-- Feed more bytes. -/
def feed (hasher : Hasher) (bytes : Bytes) : Hasher :=
  match hasher with
  | sha256 running => sha256 (running.feed Sha2.sha256 bytes)
  | sha384 running => sha384 (running.feed Sha2.sha384 bytes)

/-- How many bytes were fed. -/
def fed : Hasher → Nat
  | sha256 running => running.fed
  | sha384 running => running.fed

/-- The digest of what was fed. -/
def finish : Hasher → Digest
  | sha256 running => ⟨running.finish Sha2.sha256⟩
  | sha384 running => ⟨running.finish Sha2.sha384⟩

end Hasher

/-- The digest of bytes that are all at hand. -/
def digestOf (algorithm : Algorithm) (bytes : Bytes) : Digest :=
  ((Hasher.start algorithm).feed bytes).finish

end Bootloader.Trust
