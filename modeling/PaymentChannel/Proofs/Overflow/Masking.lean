import PaymentChannel.Proofs.Merchant.StaleStates
import PaymentChannel.Proofs.Overflow.Templates

/-! Where arithmetic stops the masking service.
The input of the merchant is its own, and all of the other input may be made up. The service computes the
balances of the new state itself, without looking at their range, to compare them with the ones it
was given. So it is stopped by a payment that no balance can take, if the input passed all checks
before this one. The merchant takes payments of any size, so such inputs are possible.
-/

namespace PaymentChannel

-----------------------------------------------------------------------------------------
-- Balances out of range
-----------------------------------------------------------------------------------------

/-- No balance has this size. -/
def Balance.OutOfRange (size : Int) : Prop :=
  size < -0x8000000000000000 ∨ 0x7fffffffffffffff < size

instance (size : Int) : Decidable (Balance.OutOfRange size) :=
  inferInstanceAs (Decidable (_ ∨ _))

section Balances

variable {ε : Type} {left right : Balance}

theorem Balance.ofInt?_eq_none {size : Int} : ofInt? size = none ↔ OutOfRange size := by
  unfold ofInt? OutOfRange
  split
  case isTrue within =>
    simp only [reduceCtorEq, false_iff]
    omega
  case isFalse out =>
    simp only [true_iff]
    omega

theorem Balance.stopped_add
    : (add left right : Outcome ε Balance).Stopped ↔ OutOfRange (left.toInt + right.toInt) := by
  rw [← ofInt?_eq_none, add, add?]
  split
  case h_1 sum found => simp [found]
  case h_2 none => simp [none, Outcome.Stopped]

theorem Balance.stopped_sub
    : (sub left right : Outcome ε Balance).Stopped ↔ OutOfRange (left.toInt - right.toInt) := by
  rw [← ofInt?_eq_none, sub, sub?]
  split
  case h_1 difference found => simp [found]
  case h_2 none => simp [none, Outcome.Stopped]

end Balances

-----------------------------------------------------------------------------------------
-- The checks of the service
-----------------------------------------------------------------------------------------

namespace MaskingRequest

variable {request : MaskingRequest}

/-- A request passes all checks that come before the balances of the new state. -/
structure Compared (request : MaskingRequest) : Prop where
  key : request.merchant.key.publicKey = request.merchant.keys.escrow
  merchant : request.customer.token.checkMerchant request.merchant.keys = .ok ()
  oldFits : request.customer.token.checkState request.customer.old = .ok ()
  newFits : request.customer.token.checkState request.customer.new = .ok ()
  payToken : PayToken.compute request.merchant.hmacKey request.customer.old
    = request.customer.payToken
  nonce : request.customer.old.nonce = request.merchant.nonce
  lock : request.merchant.commitment.opensWith request.customer.old.lock request.customer.blinding
    = true
  amount : request.customer.amount = request.merchant.amount
  next : request.customer.new.nonce = request.customer.old.nonce.next

/-- The payment of a request is more than a balance can take: the customer would have a balance that is
out of range, or it has the right one and the merchant would have such a balance.
-/
def Unpayable (request : MaskingRequest) : Prop :=
  Balance.OutOfRange (request.customer.old.customerBalance.toInt - request.customer.amount.toInt)
    ∨ request.customer.new.customerBalance.toInt
        = request.customer.old.customerBalance.toInt - request.customer.amount.toInt
      ∧ Balance.OutOfRange
        (request.customer.old.merchantBalance.toInt + request.customer.amount.toInt)

theorem stopped_accept {ε : Type} {check : Outcome ε Unit} {reason : String}
    : (accept check reason).Stopped ↔ check.Stopped :=
  Outcome.stopped_mapRefusal

/-- The checks are stopped only while they compute the balances. -/
theorem stopped_validate : request.validate.Stopped ↔ request.Compared ∧ request.Unpayable := by
  have exact : (∃ customerBalance, (request.customer.old.customerBalance.sub request.customer.amount
        : Outcome String Balance) = .ok customerBalance
      ∧ request.customer.new.customerBalance = customerBalance
      ∧ Balance.OutOfRange
        (request.customer.old.merchantBalance.toInt + request.customer.amount.toInt))
      ↔ request.customer.new.customerBalance.toInt
          = request.customer.old.customerBalance.toInt - request.customer.amount.toInt
        ∧ Balance.OutOfRange
          (request.customer.old.merchantBalance.toInt + request.customer.amount.toInt) := by
    rw [← Balance.sub_eq_ok (ε := String)]
    exact ⟨fun ⟨_, paid, same, out⟩ => ⟨same ▸ paid, out⟩, fun ⟨paid, out⟩ => ⟨_, paid, rfl, out⟩⟩
  simp only [validate, Outcome.stopped_bind, Outcome.stopped_ensure, Outcome.ensure_eq_ok,
    Outcome.exists_unit, accept_eq_ok, stopped_accept, ChannelToken.stopped_checkMerchant,
    ChannelToken.stopped_checkState, Balance.stopped_sub, Balance.stopped_add, false_or, or_false,
    and_false, exists_false, exact]
  constructor
  · rintro ⟨key, merchant, oldFits, newFits, payToken, nonce, lock, amount, next, out⟩
    exact ⟨⟨key, merchant, oldFits, newFits, payToken, nonce, lock, amount, next⟩, out⟩
  · rintro ⟨⟨key, merchant, oldFits, newFits, payToken, nonce, lock, amount, next⟩, out⟩
    exact ⟨key, merchant, oldFits, newFits, payToken, nonce, lock, amount, next, out⟩

/-- Close transactions of accepted inputs stop the service only where fees are no amounts. -/
theorem stopped_compute (payable : request.merchant.params.fees.MerchantCloseFits)
    (closable : request.merchant.params.fees.CustomerCloseFits)
    : request.compute.Stopped ↔ request.Compared ∧ request.Unpayable := by
  have masks : ∀ source, ¬(request.maskedSignature source).Stopped := by
    intro source
    simp [maskedSignature, ChannelToken.stopped_customerCloseTx, payable, closable]
  rw [← stopped_validate, compute, Outcome.stopped_mapRefusal]
  simp only [Outcome.stopped_bind, masks, Outcome.stopped_pure, or_false, and_false,
    exists_false]

end MaskingRequest

-----------------------------------------------------------------------------------------
-- Made-up inputs
-----------------------------------------------------------------------------------------

/-- For an input that a merchant gave out, the service answers or rejects whatever the other input is,
unless that one passes all checks before the balances and asks for a payment that no balance can take.
-/
theorem masking_ends_iff {merchant after : Merchant} {id : SessionId} {input : MerchantInput}
    (given : merchant.maskingInput id = .ok (input, after))
    (payable : merchant.params.fees.MerchantCloseFits)
    (closable : merchant.params.fees.CustomerCloseFits) (customer : CustomerInput)
    : ((∃ result, MaskingRequest.compute ⟨customer, input⟩ = .ok result)
        ∨ ∃ reason, MaskingRequest.compute ⟨customer, input⟩ = .refuse (.rejected reason))
      ↔ ¬(MaskingRequest.Compared ⟨customer, input⟩
        ∧ MaskingRequest.Unpayable ⟨customer, input⟩) := by
  obtain ⟨session, -, -, rfl, -⟩ := Merchant.maskingInput_eq_ok.1 given
  rw [← MaskingRequest.stopped_compute payable closable, MaskingRequest.compute,
    Outcome.mapRefusal_ends, Outcome.stopped_mapRefusal]

section Example

open Bench Merchant

-- Unification would compute keys and hashes where comparing their arguments is enough.
attribute [local irreducible] SecretKey.publicKey sha256 hmacSha256

/-- For the payment of 5 the service answers or rejects all inputs that start from the state of the
channel, whatever else they make up.
-/
theorem masking_ends_iff_steady
    : ∃ merchant after : Merchant,
      merchant.maskingInput ⟨.ofNat 16 1⟩ = .ok (steadyInput, after)
      ∧ merchant.params.fees.MerchantCloseFits ∧ merchant.params.fees.CustomerCloseFits
      ∧ ∀ customer, customer.old = steadyFirst
        → (∃ result, MaskingRequest.compute ⟨customer, steadyInput⟩ = .ok result)
          ∨ ∃ reason, MaskingRequest.compute ⟨customer, steadyInput⟩ = .refuse (.rejected reason) := by
  let prepared := steadyShop.merchant.setSession ⟨.ofNat 16 1⟩
    (begunSession steadyPaymentRequest steadySource)
  have given : prepared.maskingInput ⟨.ofNat 16 1⟩ = .ok (steadyInput, _) :=
    maskingInput_eq_ok.2 ⟨_, Dict.get?_insert_self _ _ _, rfl, rfl, rfl⟩
  have payable : prepared.params.fees.MerchantCloseFits := by
    decide
  have closable : prepared.params.fees.CustomerCloseFits := by
    decide
  refine ⟨prepared, _, given, payable, closable, fun customer start => ?_⟩
  refine (masking_ends_iff given payable closable customer).2 ?_
  rintro ⟨compared, out⟩
  have amount : customer.amount = 5 := compared.amount
  rw [MaskingRequest.Unpayable, start, amount] at out
  have within : ¬Balance.OutOfRange (steadyFirst.customerBalance.toInt - (5 : Balance).toInt)
      ∧ ¬Balance.OutOfRange (steadyFirst.merchantBalance.toInt + (5 : Balance).toInt) := by
    decide
  exact out.elim within.1 fun ⟨_, past⟩ => within.2 past

/-- A request for the greatest payment. -/
def boundlessRequest : PaymentRequest := { steadyPaymentRequest with amount := Balance.greatest }

/-- An input that goes with it, with a pay token for its old state. The new balance of the customer is
what the payment leaves of 10000.
-/
def boundlessCustomer : CustomerInput :=
  { steadyCustomer with
    new := { steadySecond with customerBalance := 10000 - Balance.greatest }
    amount := Balance.greatest }

/-- A merchant takes this payment, and the service is stopped by it, with the usual fees. -/
theorem boundless_payment_stops
    : ∃ response input, ∃ prepared after : Merchant,
      (steadyShop.merchant.preparePayment boundlessRequest).outcome steadySource
        = .ok (response, prepared)
      ∧ prepared.maskingInput ⟨.ofNat 16 1⟩ = .ok (input, after)
      ∧ prepared.params.fees.MerchantCloseFits ∧ prepared.params.fees.CustomerCloseFits
      ∧ (MaskingRequest.compute ⟨boundlessCustomer, input⟩).Stopped := by
  have compared : MaskingRequest.Compared
      ⟨boundlessCustomer, { steadyInput with amount := Balance.greatest }⟩ :=
    { key := rfl
      merchant := ChannelToken.checkMerchant_eq_ok.2 ⟨rfl, rfl, rfl⟩
      oldFits := ChannelToken.checkState_eq_ok.2 ⟨rfl, rfl, ⟨rfl, rfl⟩, rfl, rfl⟩
      newFits := ChannelToken.checkState_eq_ok.2 ⟨rfl, rfl, ⟨rfl, rfl⟩, rfl, rfl⟩
      payToken := rfl
      nonce := rfl
      lock := RevLockCom.opensWith_eq_true.2 rfl
      amount := rfl
      next := rfl }
  have payable : ChannelParams.default.fees.MerchantCloseFits := by
    decide
  have closable : ChannelParams.default.fees.CustomerCloseFits := by
    decide
  -- The customer can pay all but 10000 of it with a debt. The merchant cannot receive it.
  have out : MaskingRequest.Unpayable
      ⟨boundlessCustomer, { steadyInput with amount := Balance.greatest }⟩ :=
    .inr ⟨by decide, by decide⟩
  exact ⟨_, _, _, _, preparePayment_eq_ok.2 ⟨rfl, rfl, rfl⟩,
    maskingInput_eq_ok.2 ⟨_, Dict.get?_insert_self _ _ _, rfl, rfl, rfl⟩, payable, closable,
    (MaskingRequest.stopped_compute payable closable).2 ⟨compared, out⟩⟩

end Example

end PaymentChannel
