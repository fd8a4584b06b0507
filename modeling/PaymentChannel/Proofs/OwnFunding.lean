import PaymentChannel.Proofs.Opening

/-! What both parties ask of the same funding.
The customer chooses a funding once and cannot choose again, and then the merchant checks it. The two
lists of checks differ in one point: the merchant asks for its own fees, and the customer takes a
funding with any fees.
-/

namespace PaymentChannel

open Customer Merchant

/-- A funding that is formed here names the fees of both parties; one that was formed elsewhere may name
any.
-/
def FundingSource.HasFees (source : FundingSource) (fees : FeeSchedule) : Prop :=
  match source with
  | .utxo _ _ _ _ => True
  | .formed funding => funding.HasFees fees

-----------------------------------------------------------------------------------------
-- Customers that can choose a funding
-----------------------------------------------------------------------------------------

/-- A customer whose channel is not funded is as it started, by induction on the run: there is nothing
else that it can be called for.
-/
theorem Customer.Run.eq_start {start customer : Customer} {history : List CustomerExchange}
    (starts : start.Starts) (run : start.Run history customer)
    (unfunded : customer.status = .unfunded)
    : customer = start := by
  obtain ⟨channel, pending, stage, -⟩ := starts.idle
  induction run with
  | start => rfl
  | @call _ customer run call same =>
      have step := customer.step call
      generalize customer.exchange call = exchange, customer.after call = after at step unfunded ⊢
      cases step with
      | silent | repeated => exact same unfunded
      | funded | opened | closed => cases unfunded
      | ended _ _ past =>
          obtain ⟨-, rfl⟩ | ⟨-, rfl⟩ := past
          all_goals cases unfunded
      | stored _ _ found =>
          rw [same unfunded, channel] at found
          cases found
      | requested _ _ confirmed => cases confirmed.symm.trans unfunded
      | activated _ activated =>
          rw [same unfunded, stage] at activated
          cases activated
      | began ready | committed _ ready | accepted _ ready | distrusted _ ready | promoted ready
      | finished _ ready | mistaken _ ready =>
          rw [same unfunded, stage] at ready
          cases ready
      | aborted _ round =>
          rw [same unfunded, pending] at round
          cases round

-----------------------------------------------------------------------------------------
-- What the merchant makes of the funding
-----------------------------------------------------------------------------------------

section Registration

-- Unification would compute keys and hashes where comparing their arguments is enough.
attribute [local irreducible] SecretKey.publicKey SignableTx.txid SignableTx.sign
  SignableTx.verifies sha256 hmacSha256

variable {merchant registered : Merchant} {start funded : Customer} {choice : FundingSource}
  {request : OpenRequest}

theorem FundingSource.hasFees_iff (funds : start.fund choice = .ok (request, funded))
    : choice.HasFees start.params.fees ↔ request.funding.HasFees start.params.fees := by
  cases choice with
  | utxo => exact iff_of_true trivial (hasFees_of_fund_utxo funds)
  | formed =>
      obtain ⟨-, -, _, -, _, _, chosen, _, -, -, rfl, -⟩ := fund_eq_ok.1 funds
      obtain ⟨-, rfl, -⟩ := chooseFunding_formed.1 chosen
      exact Iff.rfl

/-- A request whose token is right is refused if its funding names other fees. -/
theorem Merchant.openChannel_of_fees
    (issuer : request.token.checkMerchant merchant.keys = .ok ())
    (token : ChannelToken.ofFunding request.token.customerKey merchant.keys request.funding
      = request.token)
    (differ : ¬request.funding.HasFees merchant.params.fees)
    : merchant.openChannel request = .refuse (.tokenMismatch .feeParameters) := by
  have other : ¬(request.funding.merchantCloseFee = merchant.params.fees.merchantCloseFee
      ∧ request.funding.leastFee = merchant.params.fees.leastFee
      ∧ request.funding.greatestFee = merchant.params.fees.greatestFee) :=
    differ
  have refused : merchant.checkFunding request = .refuse (.tokenMismatch .feeParameters) := by
    simp only [checkFunding, issuer, Outcome.ok_bind, Outcome.ensure_of token,
      Outcome.ensure_of_not other]
    rfl
  rw [openChannel, refused]
  rfl

/-- The funding of a customer with the merchant's keys is refused for other fees. -/
theorem Newcomer.refused_of_fees (newcomer : Newcomer start merchant)
    (funds : start.fund choice = .ok (request, funded))
    (differ : ¬request.funding.HasFees merchant.params.fees)
    : merchant.openChannel request = .refuse (.tokenMismatch .feeParameters) := by
  obtain ⟨-, -, _, -, funding, _, -, _, -, -, rfl, -⟩ := fund_eq_ok.1 funds
  refine openChannel_of_fees ?_ ?_ differ
  · rw [newcomer.keys]
    exact ChannelToken.checkMerchant_eq_ok.2 ⟨rfl, rfl, rfl⟩
  · rw [newcomer.keys]
    rfl

/-- A customer takes every funding with its first balances that the merchant accepts for its token. -/
theorem Newcomer.fund_of_openChannel (newcomer : Newcomer start merchant)
    (unfunded : start.status = .unfunded) {funding : FundingInfo} {signature : Signature}
    {signed : SignedTx}
    (first : funding.customerBalance = start.initialBalances.1)
    (second : funding.merchantBalance = start.initialBalances.2)
    (opened : merchant.openChannel
        ⟨.ofFunding start.escrowKey start.merchantKeys funding, funding, signature⟩
      = .ok (signed, registered))
    : funding.HasFees merchant.params.fees
      ∧ ∃ request funded, start.fund (.formed funding) = .ok (request, funded) := by
  obtain ⟨agreed, -, value, worth, close, formed, named, -⟩ := openChannel_eq_ok.1 opened
  obtain ⟨-, -, fees, -⟩ := checkFunding_eq_ok.1 agreed
  rw [FundingInfo.escrowValue, first, second] at worth
  rw [← newcomer.params] at formed
  have chosen : start.chooseFunding value (.formed funding) = .ok (funding, none) :=
    chooseFunding_formed.2 ⟨⟨first, second⟩, rfl, rfl⟩
  exact ⟨fees, _, _, fund_eq_ok.2 ⟨newcomer.stage, unfunded, value, worth, _, _, chosen, close, formed,
    named, rfl, rfl⟩⟩

/-- The merchant takes a customer's own funding exactly if it names the merchant's fees, and refuses any
other for its fees, as long as no channel of the escrow went past its first step. A funding that is
formed from an output always names them. Conversely every funding with the customer's first balances
that the merchant takes for the customer's token is one that the customer would have chosen, and it
names these fees: beside the fees both parties ask the same of a funding.
-/
theorem own_funding_accepted_iff {params : ChannelParams} {policy : RefundPolicy} {seed : Entropy}
    {opened shop : Shop} {served : List MerchantExchange} (opens : opened.Opens params policy seed)
    (serves : opened.Run served shop) {customerBalance merchantBalance : Balance} {name : String}
    {source : Entropy}
    (starts : (Customer.init params shop.merchant.keys customerBalance merchantBalance
      name).outcome source = .ok start)
    {customer : Customer} {history : List CustomerExchange} (run : start.Run history customer)
    (funds : customer.fund choice = .ok (request, funded))
    (unused : ∀ known, shop.merchant.channels.get? request.token.escrowTxid = some known
      → known.status = .unfunded)
    : ((∃ signed registered, shop.merchant.openChannel request = .ok (signed, registered))
        ↔ choice.HasFees params.fees)
      ∧ (¬choice.HasFees params.fees
        → shop.merchant.openChannel request = .refuse (.tokenMismatch .feeParameters))
      ∧ ∀ funding signature signed registered,
        funding.customerBalance = customer.initialBalances.1
        → funding.merchantBalance = customer.initialBalances.2
        → shop.merchant.openChannel
            ⟨.ofFunding customer.escrowKey customer.merchantKeys funding, funding, signature⟩
          = .ok (signed, registered)
        → funding.HasFees params.fees
          ∧ ∃ request funded, customer.fund (.formed funding) = .ok (request, funded) := by
  have terms := terms_of_run opens (Standing.run opens serves)
  rw [← terms.1] at starts ⊢
  have unfunded := (fund_eq_ok.1 funds).2.1
  obtain rfl : customer = start := run.eq_start ⟨_, _, _, _, _, _, starts⟩ unfunded
  have newcomer := Newcomer.of_init starts
  have fees := FundingSource.hasFees_iff funds
  rw [newcomer.params] at fees
  refine ⟨⟨?_, fun same => ?_⟩, fun differ => newcomer.refused_of_fees funds (mt fees.2 differ),
    fun _ _ _ _ => newcomer.fund_of_openChannel unfunded⟩
  · rintro ⟨_, _, accepted⟩
    obtain ⟨-, -, agreed, -⟩ := checkFunding_eq_ok.1 (openChannel_eq_ok.1 accepted).1
    exact fees.2 agreed
  · obtain ⟨_, _, registers, -⟩ :=
      newcomer.registers funds (fees.1 same) unused (KeysFit.run opens serves).escrow
    exact ⟨_, _, registers⟩

/-- A funding that was formed elsewhere with the merchant's fees is taken by both. -/
theorem own_funding_accepted_patron
    : steadyShop.Opens .default .reject steadySource
      ∧ ∃ request funded, patron.fund (.formed patronFunding) = .ok (request, funded)
        ∧ (∃ signed registered, steadyShop.merchant.openChannel request = .ok (signed, registered))
        := by
  have funds := fund_patronFunding patronFunding.merchantCloseFee
  have unknown : steadyShop.merchant.channels.get? patronToken.escrowTxid = none := rfl
  obtain ⟨accepted, -⟩ :=
    own_funding_accepted_iff steadyShop_opens .start init_patron .start funds
      fun known found => by cases unknown.symm.trans found
  exact ⟨steadyShop_opens, _, _, funds, accepted.2 ⟨rfl, rfl, rfl⟩⟩

/-- A customer can choose a funding that the merchant refuses for its fees, and it cannot choose again.
-/
theorem own_funding_refused_for_fees
    : steadyShop.Opens .default .reject steadySource
      ∧ (Customer.init .default steadyShop.merchant.keys 10000 10000 "patron").outcome
          (.ofBlocks fun _ => .ofNat 32 1)
        = .ok patron
      ∧ ∃ funding request funded, patron.fund (.formed funding) = .ok (request, funded)
        ∧ steadyShop.merchant.channels.get? request.token.escrowTxid = none
        ∧ steadyShop.merchant.openChannel request = .refuse (.tokenMismatch .feeParameters)
        ∧ ∀ choice again, funded.fund choice ≠ .ok again := by
  have funds := fund_patronFunding 999
  have differ : (999 : Sat) ≠ 1000 := by decide
  have refused := newcomer_patron.refused_of_fees funds fun agreed => differ agreed.1
  refine ⟨steadyShop_opens, init_patron, _, _, _, funds, rfl, refused, fun choice again chosen => ?_⟩
  cases (fund_eq_ok.1 chosen).2.1

end Registration

end PaymentChannel
