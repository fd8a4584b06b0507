import PaymentChannel.Proofs.Merchant.Recognition
import PaymentChannel.Proofs.TemplateChain

/-! What the merchant takes for the customer's close of a channel.
It asks that the second output pays to its own key. That is so in a customer-close transaction, but
also in its own merchant-close transaction whenever the fees ask for an output by which a child can
raise the fee.
-/

namespace PaymentChannel

open Merchant

-----------------------------------------------------------------------------------------
-- Merchant-close transactions
-----------------------------------------------------------------------------------------

theorem Script.isPublication_payToScript (witness : Script)
    : (payToScript witness).isPublication = false := by
  rw [isPublication, bytes_payToScript]
  rfl

theorem Script.isPublication_toKey (key : PublicKey) : (toKey key).isPublication = false := rfl

/-- The transaction spends the escrow of a token. It pays to the script of its output and, if the
fees ask for it, to the merchant as well.
-/
structure ChannelToken.MerchantClosedBy (token : ChannelToken) (params : ChannelParams)
    (tx : Transaction)
    : Prop where
  spends : ∃ input, tx.inputs.head? = some input ∧ input.previousOutput = token.escrowOutPoint
  pays : ∃ value script,
    tx.outputs = ⟨value, .payToScript script⟩ :: anchorOutput params.fees token.payoutKey

namespace ChannelToken.MerchantClosedBy

variable {token : ChannelToken} {params : ChannelParams} {tx : Transaction}

theorem of_merchantCloseTx {value : Sat} {close : SignableTx}
    (formed : token.merchantCloseTx value params = .ok close) (witness : List (List UInt8))
    : token.MerchantClosedBy params (close.withWitness witness) := by
  obtain ⟨-, left, -, -, rfl⟩ := merchantCloseTx_eq_ok.1 formed
  exact ⟨⟨_, rfl, rfl⟩, left, _, rfl⟩

/-- Nothing is published by the transaction. -/
theorem unpublished (closed : token.MerchantClosedBy params tx) (published : Publication)
    : Publication.ofTransaction tx ≠ .ok published := by
  obtain ⟨value, script, outputs⟩ := closed.pays
  have none : tx.outputs.find? (·.script.isPublication) = none := by
    rw [outputs, List.find?_eq_none]
    intro output member
    rcases List.mem_cons.1 member with rfl | anchor
    · simp [Script.isPublication_payToScript]
    · unfold anchorOutput at anchor
      split at anchor
      · cases anchor
      · obtain rfl := List.mem_singleton.1 anchor
        simp [Script.isPublication_toKey]
  rw [Publication.ofTransaction, none]
  nofun

theorem second_output (closed : token.MerchantClosedBy params tx)
    : tx.outputs[1]? = if params.fees.anchorValue = 0 then none
      else some ⟨params.fees.anchorValue, .toKey token.payoutKey⟩ := by
  obtain ⟨value, script, outputs⟩ := closed.pays
  rw [outputs, List.getElem?_cons_succ, anchorOutput]
  split <;> rfl

end ChannelToken.MerchantClosedBy

-----------------------------------------------------------------------------------------
-- Claims of the second output
-----------------------------------------------------------------------------------------

namespace Merchant

variable {merchant after : Merchant} {channel : MerchantChannel} {escrow : Txid} {fee : Sat}
  {tx : Transaction} {signed : SignedTx}

/-- The fee is within its bounds and leaves the output by which a child can raise the fee worth
spending.
-/
structure AnchorWorth (params : ChannelParams) (fee : Sat) : Prop where
  asked : params.fees.anchorValue ≠ 0
  bounds : params.fees.leastFee ≤ fee ∧ fee ≤ params.fees.greatestFee
  enough : fee ≤ params.fees.anchorValue
  worth : params.dustLimit ≤ params.fees.anchorValue - fee

/-- The second output of a merchant-close transaction can be claimed if it is there and is worth
the fee.
-/
theorem claimable_of_merchantClosedBy (closed : channel.token.MerchantClosedBy merchant.params tx)
    (own : channel.token.payoutKey = merchant.keys.payout)
    : (∃ output, merchant.Claimable tx fee output) ↔ AnchorWorth merchant.params fee := by
  have second := closed.second_output
  constructor
  · rintro ⟨output, placed, -, bounds, enough, worth⟩
    rw [second] at placed
    split at placed
    · cases placed
    case isFalse asked =>
      cases placed
      exact ⟨asked, bounds, enough, worth⟩
  · intro ⟨asked, bounds, enough, worth⟩
    rw [if_neg asked, own] at second
    exact ⟨_, second, rfl, bounds, enough, worth⟩

/-- A transaction is answered exactly if it spends an output of a registered channel and its second
output can be claimed.
-/
theorem claimOutput_answered_iff
    : (∃ signed after, merchant.claimOutput tx fee = .ok (signed, after))
      ↔ (∃ input escrow channel, tx.inputs.head? = some input
          ∧ merchant.channels.get? escrow = some channel ∧ channel.Owns input.previousOutput)
        ∧ ∃ output, merchant.Claimable tx fee output := by
  constructor
  · rintro ⟨signed, after, claimed⟩
    obtain ⟨escrow, channel, spends, output, claimable, -, -⟩ := claimOutput_iff.1 claimed
    obtain ⟨found, input, first, owns⟩ := channelSpentBy_eq_ok spends
    exact ⟨⟨input, escrow, channel, first, found, owns⟩, output, claimable⟩
  · rintro ⟨⟨input, escrow, channel, first, found, owns⟩, output, claimable⟩
    obtain ⟨hit, known, spends, -⟩ := exists_owner first found owns
    exact ⟨_, _, claimOutput_iff.2 ⟨hit, known, spends, output, claimable, rfl, rfl⟩⟩

/-- A merchant-close transaction without an output for a child is refused. -/
theorem claimOutput_of_no_anchor (found : merchant.channels.get? escrow = some channel)
    (closed : channel.token.MerchantClosedBy merchant.params tx)
    (none : merchant.params.fees.anchorValue = 0)
    : merchant.claimOutput tx fee = .refuse .unrecognizedCloseTx := by
  obtain ⟨input, first, spends⟩ := closed.spends
  obtain ⟨hit, known, leads, -⟩ := exists_owner first found (.inl spends.symm)
  have second := closed.second_output
  rw [if_pos none] at second
  simp only [claimOutput, leads, Outcome.ok_bind, second]
  rfl

/-- Once the merchant's claim was noted for a channel that it was closing, it can't take the output
of its merchant-close transaction any more.
-/
theorem claimMerchantClose_of_claimed (noted : merchant.Observes after escrow ChannelStatus.claimed)
    (found : merchant.channels.get? escrow = some channel)
    (closing : channel.status = .merchantClosing)
    : after.claimMerchantClose escrow fee
      = .refuse (.statusMismatch .customerClosing .merchantClosing) := by
  have changed := noted.noted
  rw [found, Option.map_some, closing] at changed
  have known : after.channel escrow = .ok { channel with status := .customerClosing } :=
    channel_eq_ok.2 changed
  rw [claimMerchantClose, known, Outcome.ok_bind]
  rfl

/-- What becomes of the merchant-close transaction of a channel when the merchant is asked to take
an output of it as if the customer had closed the channel.
-/
structure TakesOwnClose (merchant : Merchant) (escrow : Txid) (channel : MerchantChannel)
    : Prop where
  unpublished : ∀ published, Publication.ofTransaction channel.signedClose.tx ≠ .ok published
  answered_iff : ∀ fee,
    (∃ signed after, merchant.claimOutput channel.signedClose.tx fee = .ok (signed, after))
      ↔ AnchorWorth merchant.params fee
  refused : merchant.params.fees.anchorValue = 0
    → ∀ fee, merchant.claimOutput channel.signedClose.tx fee = .refuse .unrecognizedCloseTx
  blocked : channel.status = .merchantClosing
    → merchant.Foremost channel.token.escrowOutPoint escrow
    → ∀ fee signed after, merchant.claimOutput channel.signedClose.tx fee = .ok (signed, after)
    → after.channelStatus escrow = some .customerClosing
      ∧ ∀ later, after.claimMerchantClose escrow later
        = .refuse (.statusMismatch .customerClosing .merchantClosing)

/-- A merchant-close transaction of a channel is taken as far as it has an output for a child. -/
theorem TakesOwnClose.of_closed (found : merchant.channels.get? escrow = some channel)
    (own : channel.token.payoutKey = merchant.keys.payout)
    (closed : channel.token.MerchantClosedBy merchant.params channel.signedClose.tx)
    : merchant.TakesOwnClose escrow channel where
  unpublished := closed.unpublished
  answered_iff fee := by
    rw [claimOutput_answered_iff, claimable_of_merchantClosedBy closed own]
    obtain ⟨input, first, spends⟩ := closed.spends
    exact and_iff_right ⟨input, escrow, channel, first, found, .inl spends.symm⟩
  refused none fee := claimOutput_of_no_anchor found closed none
  blocked closing foremost fee signed after claimed := by
    obtain ⟨input, first, spends⟩ := closed.spends
    have owns : channel.Owns input.previousOutput := .inl spends.symm
    obtain ⟨hit, known, leads, owner⟩ := exists_owner first found owns
    rw [← spends] at foremost
    obtain rfl := owner.eq_of_foremost found owns foremost
    have noted := observes_of_claimOutput leads claimed
    refine ⟨?_, fun later => claimMerchantClose_of_claimed noted found closing⟩
    rw [channelStatus, noted.noted, found, Option.map_some, Option.map_some, closing]
    rfl

end Merchant

-----------------------------------------------------------------------------------------
-- Runs
-----------------------------------------------------------------------------------------

section Runs

variable {params : ChannelParams} {policy : RefundPolicy} {source : Entropy} {start shop : Shop}
  {history : List MerchantExchange} {escrow : Txid} {channel : MerchantChannel}

/-- The transaction that the merchant keeps of a channel is a merchant-close transaction of it. -/
theorem signedClose_of_run (opens : start.Opens params policy source)
    (run : start.Run history shop)
    (found : shop.merchant.channels.get? escrow = some channel)
    : channel.token.MerchantClosedBy params channel.signedClose.tx := by
  obtain ⟨_, _, _, registered⟩ := Shop.registeredFor_of_run opens run found
  rw [registered.signedClose, registered.token]
  exact .of_merchantCloseTx registered.asks.formed _

/-- The merchant takes its output of any transaction that spends an output of a registered channel
and pays to its key in the second place, whether that is a customer-close transaction or not. It
takes the merchant-close transaction of a channel for one exactly if the fees ask for an output for
a child and that is worth the fee; after that it refuses to claim the merchant-close transaction.
-/
theorem output_claimed_iff (opens : start.Opens params policy source)
    (run : start.Run history shop)
    : (∀ tx fee, (∃ signed after, shop.merchant.claimOutput tx fee = .ok (signed, after))
        ↔ (∃ input escrow channel, tx.inputs.head? = some input
            ∧ shop.merchant.channels.get? escrow = some channel
            ∧ channel.Owns input.previousOutput)
          ∧ ∃ output, shop.merchant.Claimable tx fee output)
      ∧ ∀ escrow channel, shop.merchant.channels.get? escrow = some channel
        → shop.merchant.TakesOwnClose escrow channel := by
  refine ⟨fun tx fee => claimOutput_answered_iff, fun escrow channel found => ?_⟩
  have standing := Standing.run opens run
  obtain ⟨-, own, -⟩ :=
    ChannelToken.checkMerchant_eq_ok.1 (standing.agrees escrow channel found).checkMerchant
  have closed := signedClose_of_run opens run found
  rw [← (terms_of_run opens standing).1] at closed
  exact .of_closed found own closed

end Runs

-----------------------------------------------------------------------------------------
-- A channel that the merchant closes
-----------------------------------------------------------------------------------------

section Example

open Bench

-- Unification would compute keys and hashes where comparing their arguments is enough.
attribute [local irreducible] SecretKey.publicKey SignableTx.txid SignableTx.sign
  SignableTx.verifies sha256 hmacSha256

/-- Without a fee the output for a child is worth claiming. -/
theorem anchorWorth_default : AnchorWorth .default 0 where
  asked := by decide
  bounds := by decide
  enough := by decide
  worth := by decide

/-- The merchant closes a channel, takes its own close transaction for one of the customer and can't
claim the output of it any more.
-/
theorem output_claimed_iff_steady
    : steadyShop.Opens .default .reject steadySource
      ∧ ∃ history, ∃ channel : MerchantChannel, steadyShop.Run history (steadyShopWith channel)
      ∧ channel.status = .merchantClosing
      ∧ ∃ signed after,
        (steadyShopWith channel).merchant.claimOutput channel.signedClose.tx 0
          = .ok (signed, after)
        ∧ after.channelStatus steadyEscrow = some .customerClosing
        ∧ ∀ fee, after.claimMerchantClose steadyEscrow fee
          = .refuse (.statusMismatch .customerClosing .merchantClosing) := by
  obtain ⟨history, run⟩ := closingShop_run
  obtain ⟨-, takes⟩ := output_claimed_iff steadyShop_opens run
  have takes := takes steadyEscrow _ (steadyShopWith_found _)
  obtain ⟨signed, after, claimed⟩ := (takes.answered_iff 0).2 anchorWorth_default
  obtain ⟨status, blocked⟩ := takes.blocked rfl (steadyShopWith_foremost _ _) 0 signed after claimed
  exact ⟨steadyShop_opens, history, _, run, rfl, signed, after, claimed, status, blocked⟩

/-- The merchant-close transaction of a channel publishes no lock, yet it is taken for a close
transaction of the customer.
-/
theorem merchant_close_claimed_as_customer_close
    : steadyShop.Opens .default .reject steadySource
      ∧ ∃ history shop, ∃ channel : MerchantChannel, steadyShop.Run history shop
      ∧ shop.merchant.channels.get? steadyEscrow = some channel
      ∧ channel.status = .merchantClosing
      ∧ (∀ published, Publication.ofTransaction channel.signedClose.tx ≠ .ok published)
      ∧ ∃ signed after, shop.merchant.claimOutput channel.signedClose.tx 0 = .ok (signed, after)
      ∧ after.channelStatus steadyEscrow ≠ some .merchantClosing := by
  obtain ⟨history, run⟩ := closingShop_run
  have formed : steadyToken.merchantCloseTx 20000 .default = .ok steadyClose := by
    unfold ChannelToken.merchantCloseTx merchantCloseTx
    rfl
  have found := steadyShopWith_found { announcedChannel with status := .merchantClosing }
  have takes := TakesOwnClose.of_closed found rfl (.of_merchantCloseTx formed _)
  obtain ⟨signed, after, claimed⟩ := (takes.answered_iff 0).2 anchorWorth_default
  obtain ⟨status, -⟩ := takes.blocked rfl (steadyShopWith_foremost _ _) 0 signed after claimed
  refine ⟨steadyShop_opens, history, _, _, run, found, rfl, takes.unpublished, signed, after,
    claimed, ?_⟩
  rw [status]
  nofun

end Example

end PaymentChannel
