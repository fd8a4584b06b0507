import PaymentChannel.Proofs.Balance
import PaymentChannel.Proofs.Merchant.Steps
import PaymentChannel.Proofs.Service

/-! What stays true of a merchant and its channels.
No call changes the terms and the keys of a merchant, so whatever was checked against them when a
channel was registered holds ever after.
-/

namespace PaymentChannel

namespace Merchant

variable {merchant after : Merchant} {channel changed : MerchantChannel}

-----------------------------------------------------------------------------------------
-- Terms
-----------------------------------------------------------------------------------------

/-- Two merchants with the same terms, keys and secrets. -/
structure SameTerms (before after : Merchant) : Prop where
  params : after.params = before.params
  policy : after.policy = before.policy
  escrowSecret : after.escrowSecret = before.escrowSecret
  payoutSecret : after.payoutSecret = before.payoutSecret
  disputeSecret : after.disputeSecret = before.disputeSecret
  keys : after.keys = before.keys
  hmacKey : after.hmacKey = before.hmacKey

theorem SameTerms.refl (merchant : Merchant) : SameTerms merchant merchant :=
  ⟨rfl, rfl, rfl, rfl, rfl, rfl, rfl⟩

theorem SameTerms.trans {next : Merchant} (first : SameTerms merchant after)
    (second : SameTerms after next)
    : SameTerms merchant next where
  params := second.params.trans first.params
  policy := second.policy.trans first.policy
  escrowSecret := second.escrowSecret.trans first.escrowSecret
  payoutSecret := second.payoutSecret.trans first.payoutSecret
  disputeSecret := second.disputeSecret.trans first.disputeSecret
  keys := second.keys.trans first.keys
  hmacKey := second.hmacKey.trans first.hmacKey

theorem sameTerms_spend (merchant : Merchant) (nonce : Nonce) (record : SpentNonce)
    : SameTerms merchant (merchant.spend nonce record) :=
  ⟨rfl, rfl, rfl, rfl, rfl, rfl, rfl⟩

theorem sameTerms_closeSession (merchant : Merchant) (id : SessionId)
    : SameTerms merchant (merchant.closeSession id) := by
  unfold closeSession
  split
  · exact ⟨rfl, rfl, rfl, rfl, rfl, rfl, rfl⟩
  · exact .refl merchant

/-- No step touches the terms. -/
theorem SameTerms.of_step {shop next : Shop} {exchange : MerchantExchange}
    (step : ShopStep shop exchange next)
    : SameTerms shop.merchant next.merchant := by
  cases step with
  | dropped _ _ _ => exact sameTerms_closeSession _ _
  | @spoiled id session _ _ _ _ =>
      exact (sameTerms_spend _ session.nonce _).trans (sameTerms_closeSession _ id)
  | @revoked id session _ _ _ _ _ _ =>
      exact (sameTerms_spend _ session.nonce _).trans (sameTerms_closeSession _ id)
  | _ => exact ⟨rfl, rfl, rfl, rfl, rfl, rfl, rfl⟩

-----------------------------------------------------------------------------------------
-- Channels
-----------------------------------------------------------------------------------------

namespace Agrees

/-- A channel is agreed with for its token and its funding. -/
theorem of_same (agrees : merchant.Agrees channel) (token : changed.token = channel.token)
    (funding : changed.funding = channel.funding)
    : merchant.Agrees changed := by
  obtain ⟨checked, worth⟩ := agrees
  rw [← token, ← funding] at checked
  rw [← funding] at worth
  exact ⟨checked, worth⟩

/-- Whether a channel is agreed with depends on the terms only. -/
theorem of_terms (agrees : merchant.Agrees channel) (same : SameTerms merchant after)
    : after.Agrees channel := by
  obtain ⟨⟨signature, checked⟩, worth⟩ := agrees
  refine ⟨⟨signature, ?_⟩, worth⟩
  rw [checkFunding_eq_ok] at checked ⊢
  rwa [same.keys, same.params]

theorem checkMerchant (agrees : merchant.Agrees channel)
    : channel.token.checkMerchant merchant.keys = .ok () := by
  obtain ⟨_, checked⟩ := agrees.funding
  exact (checkFunding_eq_ok.1 checked).1

/-- The escrow is worth what both parties put into it. -/
theorem escrowValue (agrees : merchant.Agrees channel)
    : ∃ value, channel.funding.escrowValue = .ok value
      ∧ (value.toNat : Int)
        = channel.funding.customerBalance.toInt + channel.funding.merchantBalance.toInt :=
  agrees.value.imp fun _ worth => ⟨worth, escrowValue_eq_ok worth⟩

end Agrees

/-- What is true of a merchant that began with certain terms, and of its channels. -/
structure Standing (start merchant : Merchant) : Prop where
  terms : SameTerms start merchant
  agrees : ∀ escrow channel, merchant.channels.get? escrow = some channel
    → merchant.Agrees channel
  /-- The announced first state divides the escrow as the funding does. -/
  first : ∀ escrow channel init, merchant.channels.get? escrow = some channel
    → channel.init = some init
    → init.customerBalance = channel.funding.customerBalance
      ∧ init.merchantBalance = channel.funding.merchantBalance

namespace Standing

variable {start : Merchant} {escrow : Txid}

/-- A change that leaves the channels alone. -/
theorem kept (standing : Standing start merchant) (same : SameTerms merchant after)
    (channels : after.channels = merchant.channels)
    : Standing start after where
  terms := standing.terms.trans same
  agrees other known found := by
    rw [channels] at found
    exact (standing.agrees other known found).of_terms same
  first := by simpa only [channels] using standing.first

/-- A channel that is put in place of another one, or is new. -/
theorem setChannel (standing : Standing start merchant) (agrees : merchant.Agrees channel)
    (first : ∀ init, channel.init = some init
      → init.customerBalance = channel.funding.customerBalance
        ∧ init.merchantBalance = channel.funding.merchantBalance)
    : Standing start (merchant.setChannel escrow channel) where
  terms := standing.terms.trans ⟨rfl, rfl, rfl, rfl, rfl, rfl, rfl⟩
  agrees other known found := by
    rw [setChannel_channels, Dict.get?_insert] at found
    have same : SameTerms merchant (merchant.setChannel escrow channel) :=
      ⟨rfl, rfl, rfl, rfl, rfl, rfl, rfl⟩
    split at found
    case isTrue =>
      cases found
      exact agrees.of_terms same
    case isFalse => exact (standing.agrees other known found).of_terms same
  first other known init found announced := by
    rw [setChannel_channels, Dict.get?_insert] at found
    split at found
    case isTrue =>
      cases found
      exact first init announced
    case isFalse => exact standing.first other known init found announced

/-- Every step keeps what stands, by cases on the kinds of steps. -/
theorem step {shop next : Shop} (standing : Standing start shop.merchant)
    {exchange : MerchantExchange} (step : ShopStep shop exchange next)
    : Standing start next.merchant := by
  have same := SameTerms.of_step step
  cases step with
  | silent _ | issued _ _ _ _ _ | repeated _ _ | refused _ => exact standing
  | registered _ _ _ init _ agrees =>
      refine standing.setChannel agrees fun _ known => ?_
      rw [init] at known
      cases known
  | announced found _ balances =>
      refine standing.setChannel ((standing.agrees _ _ found).of_same rfl rfl) fun init known => ?_
      cases known
      exact balances
  | moved _ found _ =>
      refine standing.setChannel ((standing.agrees _ _ found).of_same rfl rfl) ?_
      intro init known
      have balances := standing.first _ _ init found known
      exact balances
  | began _ | handed _ _ | confirmed _ _ => exact standing.kept same rfl
  | dropped _ _ _ | spoiled _ _ _ | revoked _ _ _ _ => exact standing.kept same (by simp)

/-- What stands at the beginning stands in every run, by induction on the run. -/
theorem run {params : ChannelParams} {policy : RefundPolicy} {source : Entropy}
    {start shop : Shop} (opens : start.Opens params policy source)
    {history : List MerchantExchange} (run : start.Run history shop)
    : Standing start.merchant shop.merchant := by
  induction run with
  | start =>
      obtain ⟨-, _, -, _, -, _, -, opened⟩ := init_eq_ok.1 opens
      have none : start.merchant.channels = .empty := by rw [opened, fresh]
      exact ⟨.refl _, by simp [none], by simp [none]⟩
  | @call _ shop _ call ih => exact ih.step (shop.step call)
  | ledger _ _ ih => exact ih

end Standing

/-- A merchant keeps the terms and the policy that it opened with. -/
theorem terms_of_run {params : ChannelParams} {policy : RefundPolicy} {source : Entropy}
    {start shop : Shop} (opens : start.Opens params policy source)
    (standing : Standing start.merchant shop.merchant)
    : shop.merchant.params = params ∧ shop.merchant.policy = policy := by
  obtain ⟨-, _, -, _, -, _, -, opened⟩ := init_eq_ok.1 opens
  rw [standing.terms.params, standing.terms.policy, opened]
  exact ⟨rfl, rfl⟩

/-- The keys of a merchant are those of its secrets. -/
structure KeysFit (merchant : Merchant) : Prop where
  escrow : merchant.escrowSecret.publicKey = merchant.keys.escrow
  payout : merchant.payoutSecret.publicKey = merchant.keys.payout
  dispute : merchant.disputeSecret.publicKey = merchant.keys.dispute

theorem KeysFit.run {params : ChannelParams} {policy : RefundPolicy} {source : Entropy}
    {start shop : Shop} (opens : start.Opens params policy source)
    {history : List MerchantExchange} (run : start.Run history shop)
    : shop.merchant.KeysFit := by
  obtain ⟨-, _, -, _, -, _, -, opened⟩ := init_eq_ok.1 opens
  have terms := (Standing.run opens run).terms
  constructor
  · rw [terms.escrowSecret, terms.keys, opened, fresh]
  · rw [terms.payoutSecret, terms.keys, opened, fresh]
  · rw [terms.disputeSecret, terms.keys, opened, fresh]

end Merchant

end PaymentChannel
