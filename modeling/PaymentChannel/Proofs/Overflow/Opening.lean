import PaymentChannel.Proofs.Customer.Arithmetic
import PaymentChannel.Proofs.Customer.ForceClose
import PaymentChannel.Proofs.Merchant.Channels
import PaymentChannel.Proofs.Params

/-! Where arithmetic stops the opening of a channel.
The terms bound the fees of close transactions by each other and by nothing else, and the reserves and
the output for a child from above by nothing at all. So acceptable terms may ask for sums that no word
holds. Each operation of an opening is stopped exactly where it comes to such a sum; the sum of two
balances is never one.
-/

namespace PaymentChannel

-----------------------------------------------------------------------------------------
-- The terms
-----------------------------------------------------------------------------------------

section Terms

variable {ε : Type} {params : ChannelParams}

@[simp] theorem ChannelParams.stopped_validate : ¬params.validate.Stopped := by
  simp [validate, FeeSchedule.validate]

@[simp] theorem ChannelParams.stopped_merchantMinimum
    : (params.merchantMinimum : Outcome ε Sat).Stopped
      ↔ UInt64.size ≤ params.fees.openingMinimum := by
  simp only [merchantMinimum, FeeSchedule.merchantCloseDeduction, Outcome.stopped_bind,
    Sat.stopped_add, Sat.add_eq_ok, FeeSchedule.openingMinimum]
  constructor
  · rintro (past | ⟨_, ⟨fits, rfl⟩, past⟩)
    · omega
    · rw [Sat.toNat_add fits] at past
      omega
  · intro past
    by_cases fits : params.fees.merchantCloseFee.toNat + params.fees.anchorValue.toNat < UInt64.size
    case pos =>
      refine .inr ⟨_, ⟨fits, rfl⟩, ?_⟩
      rw [Sat.toNat_add fits]
      omega
    case neg => exact .inl (Nat.le_of_not_lt fits)

/-- Where the minimum of the merchant is an amount, so is what a merchant-close transaction takes. -/
theorem FeeSchedule.merchantCloseFits_of_openingMinimum {fees : FeeSchedule}
    (fits : fees.openingMinimum < UInt64.size)
    : fees.MerchantCloseFits := by
  unfold openingMinimum at fits
  unfold MerchantCloseFits
  omega

end Terms

-----------------------------------------------------------------------------------------
-- The customer
-----------------------------------------------------------------------------------------

namespace Customer

/-- Only the minimum of the merchant stops a customer that starts. -/
theorem stopped_init {params : ChannelParams} {keys : MerchantKeys}
    {customerBalance merchantBalance : Balance} {name : String} {source : Entropy}
    : ((init params keys customerBalance merchantBalance name).outcome source).Stopped
      ↔ params.validate = .ok () ∧ UInt64.size ≤ params.fees.openingMinimum := by
  have drawn : ∀ bytes : Bytes 32,
      ¬(Outcome.require ChannelError.keyGeneration (SecretKey.ofBytes? bytes)).Stopped :=
    fun _ => Outcome.stopped_require
  simp [init, openingBalances, drawn]

end Customer

-----------------------------------------------------------------------------------------
-- The merchant
-----------------------------------------------------------------------------------------

namespace Merchant

variable {merchant : Merchant}

/-- A request passes all checks that come before the minimum of the merchant. -/
structure Considers (merchant : Merchant) (request : OpenRequest) : Prop where
  keys : request.token.checkMerchant merchant.keys = .ok ()
  token : ChannelToken.ofFunding request.token.customerKey merchant.keys request.funding
    = request.token
  fees : request.funding.merchantCloseFee = merchant.params.fees.merchantCloseFee
    ∧ request.funding.leastFee = merchant.params.fees.leastFee
    ∧ request.funding.greatestFee = merchant.params.fees.greatestFee
  customerBalance : Balance.ofBits merchant.params.fees.customerReserve
    ≤ request.funding.customerBalance

theorem stopped_checkFunding {request : OpenRequest}
    : (merchant.checkFunding request).Stopped
      ↔ merchant.Considers request ∧ UInt64.size ≤ merchant.params.fees.openingMinimum := by
  simp only [checkFunding, Outcome.stopped_bind, ChannelToken.stopped_checkMerchant,
    Outcome.stopped_ensure, Outcome.ensure_eq_ok, Outcome.exists_unit,
    ChannelParams.stopped_merchantMinimum, false_or, and_false, exists_false, or_false]
  constructor
  · rintro ⟨keys, token, fees, customerBalance, past⟩
    exact ⟨⟨keys, token, fees, customerBalance⟩, past⟩
  · rintro ⟨⟨keys, token, fees, customerBalance⟩, past⟩
    exact ⟨keys, token, fees, customerBalance, past⟩

/-- The minimum of the merchant is an amount where a request passed all checks of its funding. -/
theorem openingMinimum_of_checkFunding {request : OpenRequest}
    (checked : merchant.checkFunding request = .ok ())
    : merchant.params.fees.openingMinimum < UInt64.size := by
  obtain ⟨-, -, -, -, minimum, least, -⟩ := checkFunding_eq_ok.1 checked
  rw [← ChannelParams.merchantMinimum_eq_ok.1 least]
  exact minimum.toNat_lt_size

/-- The merchant-close transaction of a request takes a part of the minimum, so it is never what stops
the merchant.
-/
theorem stopped_openChannel {request : OpenRequest}
    : (merchant.openChannel request).Stopped
      ↔ merchant.Considers request ∧ UInt64.size ≤ merchant.params.fees.openingMinimum := by
  rw [← stopped_checkFunding]
  have registered : ¬(merchant.checkUnfunded request.token.escrowTxid).Stopped := by
    unfold checkUnfunded
    split <;> simp
  have closes : ∀ value, merchant.checkFunding request = .ok ()
      → ¬(request.token.merchantCloseTx value merchant.params).Stopped := by
    intro value checked stopped
    exact (stopped_merchantCloseTx.1 stopped).2
      (FeeSchedule.merchantCloseFits_of_openingMinimum (openingMinimum_of_checkFunding checked))
  simp only [openChannel, Outcome.stopped_bind, registered, FundingInfo.escrowValue,
    stopped_escrowValue, Outcome.stopped_mapRefusal, Outcome.stopped_ensure, Outcome.stopped_pure,
    false_or, or_false, and_false, exists_false]
  constructor
  · rintro (stopped | ⟨_, checked, _, -, _, -, stopped⟩)
    · exact stopped
    · exact absurd stopped (closes _ checked)
  · exact .inl

/-- The signatures of a first state are stopped by what a customer-close transaction takes from the
customer. For a channel that was registered, a merchant-close transaction takes an amount.
-/
theorem stopped_signInitial (init : InitialState)
    (bounds : merchant.params.fees.leastFee ≤ merchant.params.fees.customerCloseFee
      ∧ merchant.params.fees.customerCloseFee ≤ merchant.params.fees.greatestFee)
    (agrees : ∀ escrow channel, merchant.channels.get? escrow = some channel
      → merchant.Agrees channel)
    : (merchant.signInitial init).Stopped
      ↔ ∃ channel, merchant.channels.get? init.escrowTxid = some channel
        ∧ channel.status = .unfunded
        ∧ init.customerKey = channel.token.customerKey
        ∧ (init.customerBalance = channel.funding.customerBalance
          ∧ init.merchantBalance = channel.funding.merchantBalance)
        ∧ (0 ≤ init.customerBalance ∧ 0 ≤ init.merchantBalance)
        ∧ ¬merchant.params.fees.CustomerCloseFits := by
  have signs : ∀ channel source, merchant.channels.get? init.escrowTxid = some channel
      → (merchant.signClose channel.token source (init.state channel.token) init.closeKey).Stopped
      → (0 ≤ init.customerBalance ∧ 0 ≤ init.merchantBalance)
        ∧ ¬merchant.params.fees.CustomerCloseFits := by
    intro channel source found stopped
    obtain ⟨signature, checked⟩ := (agrees _ channel found).funding
    have payable : merchant.params.fees.MerchantCloseFits :=
      FeeSchedule.merchantCloseFits_of_openingMinimum (openingMinimum_of_checkFunding checked)
    simp only [signClose, Outcome.stopped_bind, Outcome.stopped_mapRefusal, Outcome.stopped_pure,
      and_false, exists_false, or_false, ChannelToken.stopped_customerCloseTx] at stopped
    obtain ⟨nonneg, -, ⟨-, wide⟩ | ⟨-, wide⟩⟩ := stopped
    · exact absurd payable wide
    · exact ⟨nonneg, wide⟩
  have channels : ¬(merchant.channel init.escrowTxid).Stopped := Outcome.stopped_require
  simp only [signInitial, Outcome.stopped_bind, channels, Outcome.stopped_ensure,
    Outcome.ensure_eq_ok, Outcome.exists_unit, Outcome.stopped_pure, false_or, and_false,
    exists_false, or_false]
  constructor
  · rintro ⟨channel, found, unfunded, key, balances, stopped⟩
    have found := channel_eq_ok.1 found
    refine ⟨channel, found, unfunded, key, balances, ?_⟩
    rcases stopped with stopped | ⟨_, -, stopped⟩
    · exact signs channel .escrow found stopped
    · exact signs channel .merchantClose found stopped
  · rintro ⟨channel, found, unfunded, key, balances, nonneg, wide⟩
    refine ⟨channel, channel_eq_ok.2 found, unfunded, key, balances, .inl ?_⟩
    simp only [signClose, Outcome.stopped_bind, Outcome.stopped_mapRefusal,
      ChannelToken.stopped_customerCloseTx]
    exact .inl ⟨nonneg, bounds, .inr ⟨Int64.le_iff_toInt_le.1 nonneg.2, wide⟩⟩

end Merchant

-----------------------------------------------------------------------------------------
-- All of an opening
-----------------------------------------------------------------------------------------

/-- What arithmetic stops under acceptable terms. What is compared with the minimum of the merchant is
stopped exactly if the minimum is no amount, and a funding of a customer that started exactly if the
fee of the escrow transaction is within its bounds, but is no amount together with the value. For the
channel of a request that was accepted before, the signatures of the first state are stopped exactly if
a customer-close transaction takes from the customer what is no amount. The templates on their own
are stopped by the same sums, and never by the sum of two balances.
-/
theorem opening_stops_iff {params : ChannelParams} (valid : params.validate = .ok ())
    : (∀ ε, (params.merchantMinimum : Outcome ε Sat).Stopped
        ↔ UInt64.size ≤ params.fees.openingMinimum)
      ∧ (∀ keys customerBalance merchantBalance name source,
        ((Customer.init params keys customerBalance merchantBalance name).outcome source).Stopped
          ↔ UInt64.size ≤ params.fees.openingMinimum)
      ∧ (∀ (start customer : Customer) history source, start.Starts → start.params = params
        → start.Run history customer
        → ((customer.fund source).Stopped
          ↔ customer.stage = .initialized ∧ customer.status = .unfunded
            ∧ ∃ value, escrowValue customer.initialBalances.1 customer.initialBalances.2 = .ok value
            ∧ ∃ utxo key changeKey fee, source = .utxo utxo key changeKey fee
              ∧ EscrowTx.Exceeds value fee params.fees params.dustLimit))
      ∧ (∀ (merchant : Merchant) request, merchant.params = params
        → ((merchant.openChannel request).Stopped
          ↔ merchant.Considers request ∧ UInt64.size ≤ params.fees.openingMinimum))
      ∧ (∀ policy source (start shop : Shop) history init, start.Opens params policy source
        → start.Run history shop
        → ((shop.merchant.signInitial init).Stopped
          ↔ ∃ channel, shop.merchant.channels.get? init.escrowTxid = some channel
            ∧ channel.status = .unfunded
            ∧ init.customerKey = channel.token.customerKey
            ∧ (init.customerBalance = channel.funding.customerBalance
              ∧ init.merchantBalance = channel.funding.merchantBalance)
            ∧ (0 ≤ init.customerBalance ∧ 0 ≤ init.merchantBalance)
            ∧ ¬params.fees.CustomerCloseFits))
      ∧ (∀ utxo merchant customer value changeKey fee,
        (EscrowTx.form utxo merchant customer value changeKey fee params.fees
            params.dustLimit).Stopped
          ↔ EscrowTx.Exceeds value fee params.fees params.dustLimit)
      ∧ (∀ escrow value keys,
        (merchantCloseTx escrow value keys params.selfDelay params.fees params.dustLimit).Stopped
          ↔ ¬params.fees.MerchantCloseFits)
      ∧ (∀ (token : ChannelToken) source state key,
        (token.customerCloseTx source state key params).Stopped
          ↔ (0 ≤ state.customerBalance ∧ 0 ≤ state.merchantBalance)
            ∧ (source = .merchantClose ∧ ¬params.fees.MerchantCloseFits
              ∨ (source.deducted params.fees : Int) ≤ state.merchantBalance.toInt
                ∧ ¬params.fees.CustomerCloseFits)) := by
  have acceptable := ChannelParams.validate_eq_ok.1 valid
  refine ⟨fun ε => ChannelParams.stopped_merchantMinimum, ?_, ?_, ?_, ?_, ?_, ?_, ?_⟩
  · intro keys customerBalance merchantBalance name source
    rw [Customer.stopped_init]
    exact and_iff_right valid
  · rintro start customer history source starts rfl run
    have same := run.sameParty
    have payable : customer.params.fees.MerchantCloseFits := same.params ▸ starts.merchantCloseFits
    rw [Customer.stopped_fund payable, same.params]
  · rintro merchant request rfl
    exact Merchant.stopped_openChannel
  · intro policy source start shop history init opens run
    have standing := Merchant.Standing.run opens run
    obtain ⟨terms, -⟩ := Merchant.terms_of_run opens standing
    have stopped := Merchant.stopped_signInitial init (terms ▸ acceptable.customerCloseFee)
      standing.agrees
    rwa [terms] at stopped
  · intro utxo merchant customer value changeKey fee
    exact EscrowTx.stopped_form
  · intro escrow value keys
    rw [stopped_merchantCloseTx]
    exact and_iff_right acceptable.merchantCloseFee
  · intro token source state key
    rw [ChannelToken.stopped_customerCloseTx, and_iff_right acceptable.customerCloseFee]

/-- The usual terms ask for sums that are amounts, so neither party is stopped. -/
theorem opening_stops_iff_default
    : ChannelParams.default.validate = .ok ()
      ∧ (∀ keys customerBalance merchantBalance name source,
        ¬((Customer.init .default keys customerBalance merchantBalance name).outcome
          source).Stopped)
      ∧ (∀ (merchant : Merchant) request, merchant.params = .default
        → ¬(merchant.openChannel request).Stopped) := by
  have valid : ChannelParams.default.validate = .ok () := rfl
  obtain ⟨-, starts, -, opens, -⟩ := opening_stops_iff valid
  have amount : ¬UInt64.size ≤ ChannelParams.default.fees.openingMinimum := by decide
  refine ⟨valid, fun keys customerBalance merchantBalance name source stopped => ?_,
    fun merchant request same stopped => ?_⟩
  · exact amount ((starts _ _ _ _ _).1 stopped)
  · exact amount ((opens merchant request same).1 stopped).2

/-- Terms that ask for the greatest output for a child. -/
def ChannelParams.wideAnchor : ChannelParams :=
  { default with fees := { FeeSchedule.default with anchorValue := 0xffffffffffffffff } }

/-- Such terms are acceptable, and a customer who starts under them is stopped. -/
theorem wide_anchor_stops
    : ChannelParams.wideAnchor.validate = .ok ()
      ∧ ((Customer.init .wideAnchor Customer.soleKeys 10000 10000 "patron").outcome
        (.ofBlocks fun _ => .ofNat 32 1)).Stopped :=
  ⟨rfl, Customer.stopped_init.2 ⟨rfl, by decide⟩⟩

end PaymentChannel
