import PaymentChannel.Proofs.Lock
import PaymentChannel.Proofs.MaskingSoundness

/-! A commitment binds everything that was committed to.
What is hashed is written field by field without marks between the fields, but every field has a
width of its own, so the bytes tell each field. Their length even tells what kind of thing they are.
-/

namespace PaymentChannel

-----------------------------------------------------------------------------------------
-- What the bytes tell
-----------------------------------------------------------------------------------------

/-- A balance is told by its bytes with its sign, and apart from what follows it. -/
theorem Balance.append_inj {left right : Balance} {rest other : List UInt8}
    : left.toBytes ++ rest = right.toBytes ++ other ↔ left = right ∧ rest = other := by
  have lengths : left.toBytes.length = right.toBytes.length := by
    rw [toBytes, toBytes, length_bigEndian, length_bigEndian]
  have bits : left.toBytes = right.toBytes ↔ left = right := by
    cases left
    cases right
    rw [toBytes, toBytes, bigEndian_inj (UInt64.toNat_lt _) (UInt64.toNat_lt _), UInt64.toNat_inj,
      Int64.ofUInt64.injEq]
  rw [List.append_eq_append_iff_of_size_eq_left lengths, bits]

theorem ChannelState.preimage_inj {left right : ChannelState}
    : left.preimage = right.preimage ↔ left = right := by
  obtain ⟨⟨_⟩, ⟨_⟩, _, _, _, _, ⟨_⟩, ⟨_⟩, ⟨_⟩, ⟨_⟩⟩ := left
  obtain ⟨⟨_⟩, ⟨_⟩, _, _, _, _, ⟨_⟩, ⟨_⟩, ⟨_⟩, ⟨_⟩⟩ := right
  simp only [preimage, List.append_assoc, Bytes.append_inj, Balance.append_inj, Bytes.toList_inj,
    PublicKey.toBytes_inj, mk.injEq, Nonce.mk.injEq, RevLock.mk.injEq, Txid.mk.injEq,
    Prevout.mk.injEq]

theorem InitialState.preimage_inj {left right : InitialState}
    : left.preimage = right.preimage ↔ left = right := by
  obtain ⟨⟨_⟩, _, _, _, _, ⟨_⟩, ⟨_⟩⟩ := left
  obtain ⟨⟨_⟩, _, _, _, _, ⟨_⟩, ⟨_⟩⟩ := right
  simp only [preimage, List.append_assoc, Bytes.append_inj, Balance.append_inj, Bytes.toList_inj,
    PublicKey.toBytes_inj, mk.injEq, Nonce.mk.injEq, RevLock.mk.injEq, Txid.mk.injEq]

theorem ChannelToken.preimage_inj {left right : ChannelToken}
    : left.preimage = right.preimage ↔ left = right := by
  obtain ⟨_, _, _, _, ⟨_⟩, ⟨_⟩, ⟨_⟩, ⟨_⟩⟩ := left
  obtain ⟨_, _, _, _, ⟨_⟩, ⟨_⟩, ⟨_⟩, ⟨_⟩⟩ := right
  simp only [preimage, List.append_assoc, Bytes.append_inj, Bytes.toList_inj, PublicKey.toBytes_inj,
    mk.injEq, Txid.mk.injEq, Prevout.mk.injEq]

theorem RevLockCom.preimage_inj {lock other : RevLock} {blinding otherBlinding : BlindingFactor}
    : preimage lock blinding = preimage other otherBlinding
      ↔ lock = other ∧ blinding = otherBlinding := by
  cases lock
  cases other
  cases blinding
  cases otherBlinding
  simp only [preimage, Bytes.append_inj, Bytes.toList_inj, RevLock.mk.injEq,
    BlindingFactor.mk.injEq]

theorem PayMaskCom.preimage_inj {mask other : PayTokenMask}
    {randomness otherRandomness : PayMaskRandomness}
    : preimage mask randomness = preimage other otherRandomness
      ↔ mask = other ∧ randomness = otherRandomness := by
  cases mask
  cases other
  cases randomness
  cases otherRandomness
  simp only [preimage, Bytes.append_inj, Bytes.toList_inj, PayTokenMask.mk.injEq,
    PayMaskRandomness.mk.injEq]

theorem OutPoint.toBytes_inj {left right : OutPoint}
    : left.toBytes = right.toBytes ↔ left = right := by
  obtain ⟨⟨_⟩, index⟩ := left
  obtain ⟨⟨_⟩, other⟩ := right
  have indices : littleEndian 4 index.toNat = littleEndian 4 other.toNat ↔ index = other := by
    rw [← List.reverse_inj, ← UInt32.toNat_inj]
    exact bigEndian_inj index.toNat_lt other.toNat_lt
  simp only [toBytes, Bytes.append_inj, indices, mk.injEq, Txid.mk.injEq]

-----------------------------------------------------------------------------------------
-- Commitments
-----------------------------------------------------------------------------------------

/-- What the parties commit to by a hash. -/
inductive Committed
  | state (state : ChannelState)
  | announcement (init : InitialState)
  | channel (token : ChannelToken)
  | revocationLock (lock : RevLock) (blinding : BlindingFactor)
  | payMask (mask : PayTokenMask) (randomness : PayMaskRandomness)
  | output (outpoint : OutPoint)

namespace Committed

/-- The hash by which it is known. -/
def digest : Committed → Bytes 32
  | state current => current.hash.bytes
  | announcement init => init.hash.bytes
  | channel token => token.channelId.bytes
  | revocationLock lock blinding => (RevLockCom.commit lock blinding).bytes
  | payMask mask randomness => (PayMaskCom.commit mask randomness).bytes
  | output outpoint => outpoint.prevout.bytes

/-- The bytes that are hashed. -/
def preimage : Committed → List UInt8
  | state current => current.preimage
  | announcement init => init.preimage
  | channel token => token.preimage
  | revocationLock lock blinding => RevLockCom.preimage lock blinding
  | payMask mask randomness => PayMaskCom.preimage mask randomness
  | output outpoint => outpoint.toBytes

/-- Outputs are hashed twice. -/
def isHashedTwice : Committed → Bool
  | output _ => true
  | _ => false

/-- The bytes of which the digest is the SHA-256 hash. -/
def message (committed : Committed) : List UInt8 :=
  if committed.isHashedTwice then (sha256 committed.preimage).toList else committed.preimage

/-- How many bytes are hashed, which depends on the kind only. -/
def width : Committed → Nat
  | state _ => 258
  | announcement _ => 162
  | channel _ => 260
  | revocationLock _ _ => 64
  | payMask _ _ => 48
  | output _ => 36

variable {left right : Committed}

theorem length_preimage (committed : Committed) : committed.preimage.length = committed.width := by
  cases committed <;>
    simp [preimage, width, ChannelState.preimage, InitialState.preimage, ChannelToken.preimage,
      RevLockCom.preimage, PayMaskCom.preimage, OutPoint.toBytes, Balance.toBytes,
      Bytes.length_toList]

/-- The bytes tell the kind by their number, and then every field. -/
theorem preimage_injective : Function.Injective preimage := by
  intro left right same
  have widths : left.width = right.width := by
    rw [← length_preimage, same, length_preimage]
  cases left with
  | state =>
      cases right with
      | state => exact congrArg state (ChannelState.preimage_inj.1 same)
      | _ => cases widths
  | announcement =>
      cases right with
      | announcement => exact congrArg announcement (InitialState.preimage_inj.1 same)
      | _ => cases widths
  | channel =>
      cases right with
      | channel => exact congrArg channel (ChannelToken.preimage_inj.1 same)
      | _ => cases widths
  | revocationLock =>
      cases right with
      | revocationLock =>
          obtain ⟨rfl, rfl⟩ := RevLockCom.preimage_inj.1 same
          rfl
      | _ => cases widths
  | payMask =>
      cases right with
      | payMask =>
          obtain ⟨rfl, rfl⟩ := PayMaskCom.preimage_inj.1 same
          rfl
      | _ => cases widths
  | output =>
      cases right with
      | output => exact congrArg output (OutPoint.toBytes_inj.1 same)
      | _ => cases widths

theorem digest_eq (committed : Committed) : committed.digest = sha256 committed.message := by
  cases committed <;> rfl

/-- Nothing that is hashed is as short as a hash. -/
theorem lt_width (committed : Committed) : 32 < committed.width := by
  cases committed <;> simp [width]

theorem length_message_iff (committed : Committed)
    : committed.message.length = 32 ↔ committed.isHashedTwice = true := by
  unfold message
  split
  case isTrue twice => simp only [Bytes.length_toList, twice]
  case isFalse once =>
    rw [length_preimage]
    exact iff_of_false committed.lt_width.ne' once

/-- Messages that are the same are of the same thing, unless they are hashes of different bytes: by
its length a message is never both a hash and the bytes of another kind.
-/
theorem eq_or_collision_of_message (same : left.message = right.message)
    : left = right ∨ IsCollision left.preimage right.preimage := by
  have twice : left.isHashedTwice = right.isHashedTwice := by
    rw [Bool.eq_iff_iff, ← length_message_iff, ← length_message_iff, same]
  rw [message, message, ← twice] at same
  split at same
  case isTrue =>
    by_cases bytes : left.preimage = right.preimage
    · exact .inl (preimage_injective bytes)
    · exact .inr ⟨bytes, Bytes.ext same⟩
  case isFalse => exact .inl (preimage_injective same)

/-- Two commitments show a collision: of their bytes, or of the hashes of their bytes. -/
def Collides (left right : Committed) : Prop :=
  IsCollision left.preimage right.preimage ∨ IsCollision left.message right.message

/-- A digest binds all that it was computed of. What is hashed is an injective function of a state,
an announcement, a token, a lock with its blinding factor, a mask with its randomness or an output,
also between these kinds. So two commitments with one digest are the same, unless they show a
collision of the hash.
-/
theorem digest_binds
    : (∀ committed : Committed, committed.digest
        = if committed.isHashedTwice then doubleSha256 committed.preimage
          else sha256 committed.preimage)
      ∧ Function.Injective preimage
      ∧ ∀ left right : Committed, left.digest = right.digest
        → left = right ∨ left.Collides right := by
  refine ⟨fun committed => ?_, preimage_injective, fun left right same => ?_⟩
  · cases committed <;> rfl
  · rw [digest_eq, digest_eq] at same
    by_cases messages : left.message = right.message
    · exact (eq_or_collision_of_message messages).imp_right .inl
    · exact .inr (.inr ⟨messages, same⟩)

open Bench in
/-- The state that was announced has one digest, and a balance that is owed is told from one that is
held.
-/
theorem digest_binds_steady
    : (state steadyFirst).digest = (state ((steadyInit 1).state steadyToken)).digest
      ∧ (state steadyFirst = state ((steadyInit 1).state steadyToken)
        ∨ (state steadyFirst).Collides (state ((steadyInit 1).state steadyToken)))
      ∧ (state steadyFirst).preimage
        ≠ (state { steadyFirst with customerBalance := -10000 }).preimage := by
  obtain ⟨-, injective, binds⟩ := digest_binds
  refine ⟨rfl, binds _ _ rfl, fun same => ?_⟩
  have balances := congrArg ChannelState.customerBalance (state.inj (injective same))
  revert balances
  decide

end Committed

end PaymentChannel
