import Bootloader.Proofs.Act.Ends
import Bootloader.Trust.Signature
import Mathlib.Tactic.MkIffOfInductiveProp

/-!
# Signatures and their check

The scalars of a signature are their bytes: they are read back from them, and different ones have
different bytes. Whether the check of a signature goes through is a matter of the signature, the
digest and the key (`Accepts`), and of the number of bits that the curve asks for. Nothing else is
looked at, and nothing is changed (`verifySignature_done_iff`).
-/

set_option autoImplicit false

namespace Bootloader.Trust

open Act

namespace ScalarPair

/-- A signature has as many bytes as it takes. -/
theorem length_toBytes (signature : ScalarPair) :
    signature.toBytes.length = signatureLength := by
  rw [toBytes, List.length_append, signature.first.length_eq, signature.second.length_eq]
  rfl

/-- Different scalars have different bytes. -/
theorem toBytes_injective : Function.Injective toBytes := by
  rintro ⟨⟨first, one⟩, ⟨second, two⟩⟩ ⟨⟨other, three⟩, ⟨last, four⟩⟩ same
  obtain ⟨rfl, rfl⟩ := List.append_inj same (one.trans three.symm)
  rfl

/-- Scalars are read back as they were written. -/
theorem toBytes_of_ofBytes {bytes : Bytes} {pair : ScalarPair}
    (read : ofBytes bytes = .ok pair) : pair.toBytes = bytes := by
  unfold ofBytes at read
  split at read
  case isTrue exact =>
    cases read
    have first : bytes.resize scalarLength = bytes.take scalarLength := by
      rw [Bytes.resize, exact]
      simp [signatureLength, scalarLength]
    have second : Bytes.resize (bytes.drop scalarLength) scalarLength = bytes.drop scalarLength := by
      refine Bytes.resize_of_length_eq ?_
      rw [List.length_drop, exact]
      rfl
    show bytes.resize scalarLength ++ Bytes.resize (bytes.drop scalarLength) scalarLength = bytes
    rw [first, second, List.take_append_drop]
  case isFalse => cases read

end ScalarPair

/-! ## The check -/

/-- The key is a point of the curve, the parts of the signature are in range, and the signature
belongs to the number that the digest counts as. -/
@[mk_iff]
structure Accepts (signature : ScalarPair) (digest : Bytes) (key : ScalarPair) : Prop where
  point : P256.Point.onCurve key.first.toNat key.second.toNat = true
  valid : Scalar.isValid signature.first.toNat = true ∧ Scalar.isValid signature.second.toNat = true
  belongs : ∃ number, digestNumber? digest = some number ∧
    matchesKey signature.first.toNat signature.second.toNat (ofBigEndian number) key.first.toNat
      key.second.toNat = true

variable {σ : Type} {before after : σ} {signature key : ScalarPair} {digest : Bytes} {bits : Nat}

/-- **The check of a signature goes through exactly if the signature is accepted**, for a key of
the right number of bits. -/
theorem verifySignature_done_iff :
    (verifySignature signature digest key bits : Act σ Error Unit).Ends before (.done ()) after ↔
      bits = Curve.secp256r1.keyBits ∧ Accepts signature digest key ∧ before = after := by
  -- what comes after the checks of the key and of the ranges
  have settles : ∀ accepted : Bool, (if accepted = true
      then note (Log.Component.signatures.report .debug "ECDSA signature verified")
      else do
        note (Log.Component.signatures.report .warn
          "ECDSA signature does not match the public key")
        fail .verifyFailed : Act σ Error Unit).Ends before (.done ()) after ↔
      accepted = true ∧ before = after := by
    intro accepted
    cases accepted with
    | true => simp
    | false => simp [ends_note_bind]
  unfold verifySignature
  rw [ends_require_bind, accepts_iff]
  dsimp only
  cases P256.Point.onCurve key.first.toNat key.second.toNat with
  | true =>
      simp only [Bool.not_true, Bool.false_eq_true, if_false, ends_require_bind, settles]
      cases digestNumber? digest with
      | some number => simp [and_assoc]
      | none => simp
  | false => simp [ends_note_bind, ends_fail_bind]

end Bootloader.Trust
