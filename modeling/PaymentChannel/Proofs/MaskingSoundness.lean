import PaymentChannel.Proofs.Customer.ForceClose
import PaymentChannel.Proofs.Masking
import PaymentChannel.Proofs.Merchant.StaleStates
import PaymentChannel.Proofs.Service

/-! What the masking service computes is a payment, and is worth what it promises.
Nothing that the customer gives is trusted: the service answers only if the new state follows from the
old one in a channel of the merchant. What it masks comes out again under the masks of the merchant.
-/

namespace PaymentChannel

-----------------------------------------------------------------------------------------
-- What an answer says about the request
-----------------------------------------------------------------------------------------

/-- A state names the keys and the funding transactions of a channel. -/
structure ChannelToken.NamedBy (token : ChannelToken) (state : ChannelState) : Prop where
  customerKey : state.customerKey = token.customerKey
  merchantKey : state.merchantKey = token.merchantKey
  escrowTxid : state.escrowTxid = token.escrowTxid
  merchantCloseTxid : state.merchantCloseTxid = token.merchantCloseTxid
  escrowPrevout : state.escrowPrevout = token.escrowPrevout
  merchantClosePrevout : state.merchantClosePrevout = token.merchantClosePrevout

/-- The comparison with a token passes for the states that name its channel. -/
theorem ChannelToken.NamedBy.of_checkState {token : ChannelToken} {state : ChannelState}
    (fits : token.checkState state = .ok ())
    : token.NamedBy state := by
  obtain ⟨customer, merchant, ⟨escrow, escrowPrevout⟩, close, closePrevout⟩ :=
    checkState_eq_ok.1 fits
  exact ⟨customer, merchant, escrow, close, escrowPrevout, closePrevout⟩

/-- One state follows another by a payment of an amount: the balances move by exactly this amount, the
nonce is the next one and the lock may be any.
-/
structure ChannelState.Pays (old new : ChannelState) (amount : Balance) : Prop where
  same : new = { old with
    nonce := new.nonce
    lock := new.lock
    customerBalance := new.customerBalance
    merchantBalance := new.merchantBalance }
  nonce : new.nonce = old.nonce.next
  customerBalance : new.customerBalance.toInt = old.customerBalance.toInt - amount.toInt
  merchantBalance : new.merchantBalance.toInt = old.merchantBalance.toInt + amount.toInt

/-- Two states of one channel differ in the nonce, the lock and the balances only. -/
theorem ChannelToken.NamedBy.same {token : ChannelToken} {old new : ChannelState}
    (before : token.NamedBy old) (after : token.NamedBy new)
    : new = { old with
        nonce := new.nonce
        lock := new.lock
        customerBalance := new.customerBalance
        merchantBalance := new.merchantBalance } := by
  obtain ⟨customer, merchant, escrow, close, escrowPrevout, closePrevout⟩ := before
  obtain ⟨newCustomer, newMerchant, newEscrow, newClose, newPrevout, newClosePrevout⟩ := after
  rw [customer, merchant, escrow, close, escrowPrevout, closePrevout, ← newCustomer, ← newMerchant,
    ← newEscrow, ← newClose, ← newPrevout, ← newClosePrevout]

namespace MaskingRequest

variable {request : MaskingRequest}

/-- The new state of an accepted request follows from the old one. -/
theorem Accepted.pays (accepted : request.Accepted)
    : request.customer.old.Pays request.customer.new request.customer.amount where
  same := (ChannelToken.NamedBy.of_checkState accepted.oldFits).same (.of_checkState accepted.newFits)
  nonce := accepted.next
  customerBalance := Balance.sub_eq_ok.1 accepted.customerBalance
  merchantBalance := Balance.add_eq_ok.1 accepted.merchantBalance

/-- The token of an accepted request is one of the merchant. -/
theorem Accepted.merchantKeys (accepted : request.Accepted)
    : request.customer.token.merchantKeys = request.merchant.keys := by
  obtain ⟨escrow, payout, dispute⟩ := ChannelToken.checkMerchant_eq_ok.1 accepted.merchant
  rw [ChannelToken.merchantKeys, escrow, payout, dispute]

end MaskingRequest

-----------------------------------------------------------------------------------------
-- What an answer is worth
-----------------------------------------------------------------------------------------

/-- The bytes that are hashed into a commitment tell the mask. -/
theorem PayMaskCom.mask_eq_of_preimage {mask other : PayTokenMask}
    {randomness otherRandomness : PayMaskRandomness}
    (same : preimage mask randomness = preimage other otherRandomness)
    : mask = other := by
  cases mask
  cases other
  exact congrArg PayTokenMask.mk (Bytes.append_inj.1 same).1

/-- Two different byte strings with one hash. -/
def IsCollision (left right : List UInt8) : Prop :=
  left ≠ right ∧ sha256 left = sha256 right

/-- Two openings of one commitment open the same mask, unless they are a collision of the hash. -/
theorem PayMaskOpening.mask_eq_or_collision {opening other : PayMaskOpening}
    {commitment : PayMaskCom} (opens : opening.opens commitment = true)
    (otherOpens : other.opens commitment = true)
    : opening.mask = other.mask
      ∨ IsCollision (PayMaskCom.preimage opening.mask opening.randomness)
          (PayMaskCom.preimage other.mask other.randomness) := by
  have hashes := (opens_eq_true.1 opens).trans (opens_eq_true.1 otherOpens).symm
  by_cases same : PayMaskCom.preimage opening.mask opening.randomness
      = PayMaskCom.preimage other.mask other.randomness
  · exact .inl (PayMaskCom.mask_eq_of_preimage same)
  · exact .inr ⟨same, congrArg PayMaskCom.bytes hashes⟩

namespace MaskingRequest

variable {request : MaskingRequest} {result : MaskingResult}

/-- The answer is made of signatures of both close transactions of the new state. -/
theorem result_of_compute (computed : request.compute = .ok result)
    : ∃ signatures, result = request.resultOf signatures
      ∧ ∀ source, ∃ close, request.customer.token.customerCloseTx source request.customer.new
          request.customer.closeKey request.merchant.params = .ok close
        ∧ signatures.of source = close.sign request.merchant.key := by
  obtain ⟨-, _, escrowMasked, _, closeMasked, rfl⟩ := compute_eq_ok.1 computed
  obtain ⟨escrow, escrowFormed, rfl⟩ := maskedSignature_eq_ok.1 escrowMasked
  obtain ⟨merchantClose, closeFormed, rfl⟩ := maskedSignature_eq_ok.1 closeMasked
  refine ⟨⟨escrow.sign request.merchant.key, merchantClose.sign request.merchant.key⟩, rfl,
    fun source => ?_⟩
  cases source with
  | escrow => exact ⟨escrow, escrowFormed, CloseSignatures.of_escrow _ _⟩
  | merchantClose => exact ⟨merchantClose, closeFormed, CloseSignatures.of_merchantClose _ _⟩

/-- Whatever the customer gave, an answer of the masking service is a payment in a channel of the
merchant. The new state follows from the old one by exactly the amount, both are states of the
channel, and the commitment of the merchant opens to the lock of the old state. The masks of the
merchant uncover signatures that verify for both close transactions of the new state, and its opening
uncovers the pay token of the new state, as does every other opening of the same commitment that is
no collision of the hash.
-/
theorem masking_sound (computed : request.compute = .ok result)
    : request.customer.old.Pays request.customer.new request.customer.amount
      ∧ request.customer.token.NamedBy request.customer.old
      ∧ request.customer.token.NamedBy request.customer.new
      ∧ request.customer.token.merchantKeys = request.merchant.keys
      ∧ request.merchant.commitment
        = .commit request.customer.old.lock request.customer.blinding
      ∧ (∃ signatures,
        Customer.unmaskSignatures result.customer request.merchant.masks = .ok signatures
        ∧ ∀ source, ∃ close,
          request.customer.token.customerCloseTx source request.customer.new
            request.customer.closeKey request.merchant.params = .ok close
          ∧ close.verifies (signatures.of source) request.merchant.keys.escrow = true)
      ∧ request.merchant.opening.opens request.customer.commitment = true
      ∧ ∀ opening : PayMaskOpening, opening.opens request.customer.commitment = true
        → (opening = request.merchant.opening
            ∨ ¬IsCollision (PayMaskCom.preimage opening.mask opening.randomness)
              (PayMaskCom.preimage request.merchant.opening.mask
                request.merchant.opening.randomness))
        → result.customer.payToken.unmask opening.mask
          = .compute request.merchant.hmacKey request.customer.new := by
  obtain ⟨accepted, -⟩ := compute_eq_ok.1 computed
  obtain ⟨signatures, rfl, signs⟩ := result_of_compute computed
  refine ⟨accepted.pays, .of_checkState accepted.oldFits, .of_checkState accepted.newFits,
    accepted.merchantKeys, (RevLockCom.opensWith_eq_true.1 accepted.lock).symm,
    ⟨signatures, Customer.unmaskSignatures_mask _ _ _, fun source => ?_⟩, accepted.mask, ?_⟩
  · obtain ⟨close, formed, signature⟩ := signs source
    refine ⟨close, formed, ?_⟩
    rw [signature, ← accepted.key]
    exact close.verifies_sign request.merchant.key
  · intro opening opens apart
    -- Both openings fit one commitment, so they have one mask unless the hash collides.
    have mask : opening.mask = request.merchant.opening.mask := by
      rcases apart with rfl | apart
      · rfl
      · exact (PayMaskOpening.mask_eq_or_collision opens accepted.mask).resolve_right apart
    rw [mask, resultOf, MaskedPayToken.unmask_mask]

section Example

open Bench

-- Unification would compute keys and hashes where comparing their arguments is enough.
attribute [local irreducible] SecretKey.publicKey SignableTx.txid SignableTx.sign
  SignableTx.verifies sha256 hmacSha256

/-- A payment of 5 out of 10000. -/
theorem masking_sound_steady
    : ∃ result, MaskingRequest.compute ⟨steadyCustomer, steadyInput⟩ = .ok result
      ∧ steadySecond.customerBalance.toInt = 10000 - 5
      ∧ (∃ signatures, Customer.unmaskSignatures result.customer steadyInput.masks = .ok signatures)
      ∧ result.customer.payToken.unmask steadyInput.opening.mask
        = .compute steadyInput.hmacKey steadySecond := by
  obtain ⟨result, computed⟩ := steadyCustomer_computed
  obtain ⟨pays, -, -, -, -, ⟨signatures, unmasked, -⟩, opens, token⟩ := masking_sound computed
  exact ⟨result, computed, pays.customerBalance, ⟨signatures, unmasked⟩, token _ opens (.inl rfl)⟩

end Example

end MaskingRequest

end PaymentChannel
