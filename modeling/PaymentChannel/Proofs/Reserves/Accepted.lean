import PaymentChannel.Proofs.Params
import PaymentChannel.Proofs.Payment

/-! Which balances the parties accept, compared with the minimums of the terms as integers.
Minimums are amounts and balances are signed, and a minimum is compared with a balance after its bits
are read as one. That changes nothing as long as the minimum is a balance. A larger one comes out
negative: acceptable terms may ask for it, and the checks then pass for balances that are far below,
even for negative ones.
-/

namespace PaymentChannel

-----------------------------------------------------------------------------------------
-- Minimums
-----------------------------------------------------------------------------------------

/-- An amount that is read as a balance keeps its size, or comes out negative if it is too large. -/
theorem Balance.toInt_ofBits (amount : Sat)
    : (ofBits amount).toInt
      = if amount.toNat < 2 ^ 63 then (amount.toNat : Int) else amount.toNat - 2 ^ 64 := by
  change amount.toBitVec.toInt = _
  rw [BitVec.toInt_eq_toNat_cond]
  change (if 2 * amount.toNat < 2 ^ 64 then (amount.toNat : Int) else amount.toNat - 2 ^ 64) = _
  split <;> split <;> omega

/-- A minimum is kept as it is meant if it is a balance. -/
theorem Balance.ofBits_le_iff {amount : Sat} {left : Balance} (fits : amount.toNat < 2 ^ 63)
    : ofBits amount ≤ left ↔ (amount.toNat : Int) ≤ left.toInt := by
  rw [Int64.le_iff_toInt_le, toInt_ofBits, if_pos fits]

/-- Two balances have their minimums, compared as integers. As a minimum is a natural number, none of
the balances is negative then.
-/
structure MinimumsKept (customerMinimum merchantMinimum : Nat) (customer merchant : Balance)
    : Prop where
  customer : (customerMinimum : Int) ≤ customer.toInt
  merchant : (merchantMinimum : Int) ≤ merchant.toInt

/-- Two minimums are balances. -/
structure MinimumsFit (customerMinimum merchantMinimum : Nat) : Prop where
  customer : customerMinimum < 2 ^ 63
  merchant : merchantMinimum < 2 ^ 63

section Minimums

variable {customer merchant : Balance} {customerMinimum merchantMinimum : Sat}

/-- Only minimums that are balances can be kept. -/
theorem MinimumsKept.fit {customerMinimum merchantMinimum : Nat}
    (kept : MinimumsKept customerMinimum merchantMinimum customer merchant)
    : MinimumsFit customerMinimum merchantMinimum := by
  obtain ⟨customerKept, merchantKept⟩ := kept
  have customerFits := customer.toInt_lt
  have merchantFits := merchant.toInt_lt
  constructor <;> omega

/-- Balances that pass the comparisons with two minimums keep them exactly if both are balances. -/
theorem minimumsKept_iff (customerEnough : Balance.ofBits customerMinimum ≤ customer)
    (merchantEnough : Balance.ofBits merchantMinimum ≤ merchant)
    : MinimumsKept customerMinimum.toNat merchantMinimum.toNat customer merchant
      ↔ MinimumsFit customerMinimum.toNat merchantMinimum.toNat :=
  ⟨MinimumsKept.fit, fun fits =>
    ⟨(Balance.ofBits_le_iff fits.customer).1 customerEnough,
      (Balance.ofBits_le_iff fits.merchant).1 merchantEnough⟩⟩

end Minimums

/-- Both parties of a state have their reserves. -/
abbrev ChannelState.Reserved (state : ChannelState) (fees : FeeSchedule) : Prop :=
  MinimumsKept fees.customerReserve.toNat fees.merchantReserve.toNat state.customerBalance
    state.merchantBalance

/-- Both reserves are balances. -/
abbrev FeeSchedule.ReservesFit (fees : FeeSchedule) : Prop :=
  MinimumsFit fees.customerReserve.toNat fees.merchantReserve.toNat

/-- Both parties have what they have to put into a channel. -/
abbrev FeeSchedule.OpeningKept (fees : FeeSchedule) (customer merchant : Balance) : Prop :=
  MinimumsKept fees.customerReserve.toNat fees.openingMinimum customer merchant

/-- What both parties have to put into a channel are balances. -/
abbrev FeeSchedule.OpeningFits (fees : FeeSchedule) : Prop :=
  MinimumsFit fees.customerReserve.toNat fees.openingMinimum

-----------------------------------------------------------------------------------------
-- New channels
-----------------------------------------------------------------------------------------

/-- The balance nearest to a size has that size, unless it is out of range. -/
theorem Balance.toInt_clamp (value : Int)
    : (clamp value).toInt = max (-2 ^ 63) (min value (2 ^ 63 - 1)) := by
  unfold clamp
  cases found : ofInt? value with
  | some balance =>
      have exact := ofInt?_eq_some.1 found
      have low := balance.le_toInt
      have high := balance.toInt_lt
      simp only [Option.getD_some]
      omega
  | none =>
      have out : ¬(-0x8000000000000000 ≤ value ∧ value ≤ 0x7fffffffffffffff) := by
        intro within
        simp [ofInt?, within] at found
      simp only [Option.getD_none, greatest]
      split
      case isTrue =>
        have least : Int64.minValue.toInt = -2 ^ 63 := rfl
        omega
      case isFalse =>
        have most : Int64.maxValue.toInt = 2 ^ 63 - 1 := rfl
        omega

namespace Customer

variable {params : ChannelParams} {customer merchant : Balance} {balances : Balance × Balance}

/-- What a customer starts with, and which checks it passed. -/
theorem openingBalances_eq_ok
    : openingBalances params customer merchant = .ok balances
      ↔ ∃ minimum, (params.merchantMinimum : Outcome ChannelError Sat) = .ok minimum
        ∧ (if merchant = 0 then
            (Balance.clamp (customer.toInt - (Balance.ofBits minimum).toInt), Balance.ofBits minimum)
          else (customer, merchant)) = balances
        ∧ Balance.ofBits params.fees.customerReserve ≤ balances.1
        ∧ Balance.ofBits minimum ≤ balances.2
        ∧ ∃ value, escrowValue balances.1 balances.2 = .ok value := by
  simp only [openingBalances, Outcome.bind_eq_ok, Outcome.ensure_eq_ok, Outcome.exists_unit,
    Outcome.pure_eq_ok]
  constructor
  · rintro ⟨minimum, least, customerEnough, merchantEnough, value, worth, rfl⟩
    exact ⟨minimum, least, rfl, customerEnough, merchantEnough, value, worth⟩
  · rintro ⟨minimum, least, rfl, customerEnough, merchantEnough, value, worth⟩
    exact ⟨minimum, least, customerEnough, merchantEnough, value, worth, rfl⟩

/-- A customer accepts balances that keep the minimums exactly if both minimums are balances. -/
theorem openingKept_iff (accepted : openingBalances params customer merchant = .ok balances)
    : params.fees.OpeningKept balances.1 balances.2 ↔ params.fees.OpeningFits := by
  obtain ⟨minimum, least, -, customerEnough, merchantEnough, -⟩ := openingBalances_eq_ok.1 accepted
  have exact := minimumsKept_iff customerEnough merchantEnough
  rwa [ChannelParams.merchantMinimum_eq_ok.1 least] at exact

/-- A customer starts with the sum that it was asked for, unless it pays for a merchant whose minimum
is negative when it is read as a balance, and gets more than a balance holds. A difference that is
too small for a balance would leave the escrow without value, so it is never accepted.
-/
theorem openingBalances_total (accepted : openingBalances params customer merchant = .ok balances)
    : balances.1.toInt + balances.2.toInt = customer.toInt + merchant.toInt
      ↔ (merchant = 0 → customer.toInt - balances.2.toInt < 2 ^ 63) := by
  obtain ⟨minimum, -, chosen, -, -, value, worth⟩ := openingBalances_eq_ok.1 accepted
  have total := escrowValue_eq_ok worth
  split at chosen
  case isFalse own =>
    subst chosen
    simp [own]
  case isTrue none =>
    subst chosen none
    have nothing : (0 : Balance).toInt = 0 := rfl
    have clamped := Balance.toInt_clamp (customer.toInt - (Balance.ofBits minimum).toInt)
    have high := (Balance.ofBits minimum).toInt_lt
    dsimp only at total ⊢
    rw [clamped] at total ⊢
    simp only [nothing, forall_const]
    omega

end Customer

-----------------------------------------------------------------------------------------
-- The parties
-----------------------------------------------------------------------------------------

/-- Accepted balances have the minimums of the terms where these are balances, and only there. A new
customer starts with what it was asked for then, also where it pays for the merchant. Under other
terms it does so unless what is left after paying for the merchant is more than a balance. A payment
changes the balances by its amount.
-/
theorem accepted_balances_iff (params : ChannelParams)
    : (∀ keys customerBalance merchantBalance name source customer,
        (Customer.init params keys customerBalance merchantBalance name).outcome source = .ok customer
        → (params.fees.OpeningKept customer.initialBalances.1 customer.initialBalances.2
            ↔ params.fees.OpeningFits)
          ∧ (params.fees.OpeningFits
            → customer.initialBalances.1.toInt + customer.initialBalances.2.toInt
              = customerBalance.toInt + merchantBalance.toInt)
          ∧ (customer.initialBalances.1.toInt + customer.initialBalances.2.toInt
              = customerBalance.toInt + merchantBalance.toInt
            ↔ (merchantBalance = 0
              → customerBalance.toInt - customer.initialBalances.2.toInt < 2 ^ 63)))
      ∧ (∀ (merchant : Merchant) request signed after, merchant.params = params
        → merchant.openChannel request = .ok (signed, after)
        → ∃ channel, after.channels.get? request.token.escrowTxid = some channel
          ∧ (params.fees.OpeningKept channel.funding.customerBalance
              channel.funding.merchantBalance
            ↔ params.fees.OpeningFits))
      ∧ (∀ (customer : Customer) amount justification source request after, customer.params = params
        → (customer.preparePayment amount justification).outcome source = .ok (request, after)
        → ∃ state pending, customer.state = some state ∧ after.pending = some pending
          ∧ pending.new.customerBalance.toInt = state.customerBalance.toInt - amount.toInt
          ∧ pending.new.merchantBalance.toInt = state.merchantBalance.toInt + amount.toInt
          ∧ (pending.new.Reserved params.fees ↔ params.fees.ReservesFit)) := by
  refine ⟨?_, ?_, ?_⟩
  · intro keys customerBalance merchantBalance name source customer initialized
    obtain ⟨-, balances, accepted, _, -, _, -, rfl⟩ := Customer.init_eq_ok.1 initialized
    have kept := Customer.openingKept_iff accepted
    have total := Customer.openingBalances_total accepted
    refine ⟨kept, fun fits => total.2 fun _ => ?_, total⟩
    -- The minimum of the merchant is not negative, so what is left after it is a balance.
    have least := (kept.2 fits).merchant
    have high := customerBalance.toInt_lt
    omega
  · rintro merchant request signed after rfl opened
    obtain ⟨agreed, -, _, -, _, -, -, -, -, rfl⟩ := Merchant.openChannel_eq_ok.1 opened
    obtain ⟨-, -, -, customerEnough, minimum, least, merchantEnough⟩ :=
      Merchant.checkFunding_eq_ok.1 agreed
    have exact := minimumsKept_iff customerEnough merchantEnough
    rw [ChannelParams.merchantMinimum_eq_ok.1 least] at exact
    exact ⟨_, Dict.get?_insert_self _ _ _, exact⟩
  · rintro customer amount justification source request after rfl prepared
    obtain ⟨state, allowed, new, paid, -, -, rfl⟩ := Customer.preparePayment_eq_ok.1 prepared
    obtain ⟨-, -, -, -, channel, found, checked, rfl⟩ := Customer.checkPayment_eq_ok.1 allowed
    have enough := Concord.reserves_of_checkAmount checked paid
    obtain ⟨_, subtracted, _, added, rfl⟩ := ChannelState.pay_eq_ok.1 paid
    exact ⟨channel.state, _, by simp [Customer.state, found], rfl, Balance.sub_eq_ok.1 subtracted,
      Balance.add_eq_ok.1 added, minimumsKept_iff enough.1 enough.2⟩

section Example

open Customer

-- Unification would compute keys and hashes where comparing their arguments is enough.
attribute [local irreducible] SecretKey.publicKey sha256 hmacSha256

/-- The usual minimums are balances, so a customer who starts under the usual terms has them, and
exactly what it was asked for.
-/
theorem accepted_balances_iff_patron
    : (init .default soleKeys 10000 10000 "patron").outcome (.ofBlocks fun _ => .ofNat 32 1)
        = .ok patron
      ∧ FeeSchedule.default.OpeningKept patron.initialBalances.1 patron.initialBalances.2
      ∧ patron.initialBalances.1.toInt + patron.initialBalances.2.toInt = 10000 + 10000 := by
  obtain ⟨kept, total, -⟩ := (accepted_balances_iff .default).1 _ _ _ _ _ _ init_patron
  have fits : FeeSchedule.default.OpeningFits := ⟨by decide, by decide⟩
  exact ⟨init_patron, kept.2 fits, total fits⟩

/-- Terms whose customer reserve is far above all balances, and spells -10 when it is read as one. -/
def ChannelParams.wideReserve : ChannelParams :=
  { default with
    fees := { FeeSchedule.default with customerReserve := 0xfffffffffffffff6 } }

/-- Terms under which the minimum of the merchant spells a negative balance of that kind. -/
def ChannelParams.wideMerchantReserve : ChannelParams :=
  { default with
    fees := { FeeSchedule.default with merchantReserve := 0xffffff0000000000 } }

/-- Both kinds of terms are acceptable. Under the first ones a customer starts with a balance of -5.
Under the others, where it pays for the merchant, it starts with less than the sum it was asked for.
-/
theorem negative_balance_accepted
    : ChannelParams.wideReserve.validate = .ok ()
      ∧ ChannelParams.wideMerchantReserve.validate = .ok ()
      ∧ (∃ customer, (init .wideReserve soleKeys (-5) 1000000 "patron").outcome
            (.ofBlocks fun _ => .ofNat 32 1) = .ok customer
          ∧ customer.initialBalances.1.toInt = -5)
      ∧ (∃ customer, (init .wideMerchantReserve soleKeys Balance.greatest 0 "patron").outcome
            (.ofBlocks fun _ => .ofNat 32 1) = .ok customer
          ∧ customer.initialBalances.1.toInt + customer.initialBalances.2.toInt
            < Balance.greatest.toInt) := by
  refine ⟨rfl, rfl, ⟨_, init_eq_ok.2 ⟨rfl, (-5, 1000000), rfl, soleKey, ?_, soleKey, ?_, rfl⟩, rfl⟩,
    ⟨_, init_eq_ok.2 ⟨rfl, _, rfl, soleKey, ?_, soleKey, ?_, rfl⟩, by decide⟩⟩
  all_goals decide +kernel

end Example

end PaymentChannel
