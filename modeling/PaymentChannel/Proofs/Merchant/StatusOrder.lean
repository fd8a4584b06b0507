import PaymentChannel.Proofs.Merchant.ChannelMoves
import PaymentChannel.Proofs.Merchant.Disputes

/-! Channels move on along their statuses, but for one step.
Every operation but a dispute asks for a status from which it leads on. A dispute takes a channel
from any status, and the one status above that of a dispute is that of a settled channel.
-/

namespace PaymentChannel

open Merchant

-----------------------------------------------------------------------------------------
-- What lasts of a channel
-----------------------------------------------------------------------------------------

/-- What a channel became later. Once it is funded nothing but its status changes, and its status
falls at most to that of a dispute.
-/
structure MerchantChannel.Lasts (before after : MerchantChannel) : Prop where
  data : before.status ≠ .unfunded → after = { before with status := after.status }
  rank : min before.status.rank ChannelStatus.disputed.rank ≤ after.status.rank

namespace MerchantChannel.Lasts

variable {before middle after : MerchantChannel}

theorem refl (channel : MerchantChannel) : channel.Lasts channel :=
  ⟨fun _ => rfl, Nat.min_le_left _ _⟩

/-- A channel that is funded never loses that. -/
theorem funded (lasts : before.Lasts after) (past : before.status ≠ .unfunded)
    : after.status ≠ .unfunded := by
  have disputed : ChannelStatus.disputed.rank = 5 := rfl
  have rank := lasts.rank
  rw [ne_eq, ← ChannelStatus.rank_eq_zero] at past ⊢
  omega

theorem trans (first : before.Lasts middle) (second : middle.Lasts after) : before.Lasts after where
  data past := by
    rw [second.data (first.funded past), first.data past]
  rank := by
    have left := first.rank
    have right := second.rank
    omega

end MerchantChannel.Lasts

section Steps

variable {shop : Shop} {exchange : MerchantExchange} {channels : Dict Txid MerchantChannel}
  {escrow : Txid} {before : MerchantChannel}

/-- A registered channel lasts through every step, by cases on what it becomes. -/
theorem ChannelStep.lasts (step : ChannelStep shop exchange channels)
    (found : shop.merchant.channels.get? escrow = some before)
    : ∃ after, channels.get? escrow = some after ∧ before.Lasts after := by
  obtain ⟨after, found, changed⟩ := step.change found
  refine ⟨after, found, ?_⟩
  obtain rfl | ⟨unfunded, still⟩ | ⟨move, same⟩ | ⟨_, _, _, -, -, rfl⟩ := changed
  · exact .refl _
  · refine ⟨fun past => absurd unfunded past, ?_⟩
    rw [unfunded, still]
    exact Nat.min_le_left _ _
  · exact ⟨fun _ => same, (Nat.min_le_left _ _).trans move.rank_le⟩
  · exact ⟨fun _ => rfl, Nat.min_le_right _ _⟩

/-- A registered channel lasts through every run, by induction on the run. -/
theorem Shop.Run.lasts {history : List MerchantExchange} {next : Shop}
    (run : shop.Run history next) (found : shop.merchant.channels.get? escrow = some before)
    : ∃ after, next.merchant.channels.get? escrow = some after ∧ before.Lasts after := by
  induction run with
  | start => exact ⟨before, found, .refl before⟩
  | @call _ shop _ call ih =>
      obtain ⟨middle, there, lasts⟩ := ih
      obtain ⟨after, found, goes⟩ := (shop.channelStep call).lasts there
      exact ⟨after, found, lasts.trans goes⟩
  | ledger _ _ ih => exact ih

end Steps

-----------------------------------------------------------------------------------------
-- Disputes
-----------------------------------------------------------------------------------------

section Runs

variable {params : ChannelParams} {policy : RefundPolicy} {source : Entropy} {start shop : Shop}
  {history : List MerchantExchange} {escrow : Txid} {before : MerchantChannel}

/-- No channel waits for the chain to confirm its closing: a channel is settled without that. -/
theorem ne_pendingClose_of_run (opens : start.Opens params policy source)
    (run : start.Run history shop) (found : shop.merchant.channels.get? escrow = some before)
    : before.status ≠ .pendingClose :=
  Shop.forall_channels (fun _ channel => channel.status ≠ .pendingClose) opens run
    (fun _ _ _ _ => nofun) (fun _ _ _ kept => kept) (fun _ _ _ _ other => other) escrow before found

/-- A call in which the merchant disputes a transaction that leads to the channel of an escrow. -/
def Shop.Disputes (shop : Shop) (call : MerchantCall) (escrow : Txid) : Prop :=
  ∃ tx fee signed channel, shop.exchange call = ⟨.dispute tx fee, .ok (some signed)⟩
    ∧ shop.merchant.channelSpentBy tx = .ok (escrow, channel)

theorem Shop.Disputes.of_answered {tx : Transaction} {fee : Sat} {signed : SignedTx}
    {after : Merchant} {channel : MerchantChannel}
    (disputed : shop.merchant.dispute shop.ledger tx fee = .ok (some signed, after))
    (leads : shop.merchant.channelSpentBy tx = .ok (escrow, channel))
    : shop.Disputes (.dispute tx fee) escrow := by
  refine ⟨tx, fee, signed, channel, ?_, leads⟩
  rw [exchange, serve, disputed]
  rfl

/-- An answered dispute leaves the channel disputed, whatever its status was. -/
theorem Shop.Disputes.get?_after {call : MerchantCall} (disputes : shop.Disputes call escrow)
    : ∃ channel : MerchantChannel, (shop.after call).merchant.channels.get? escrow
      = some { channel with status := .disputed } := by
  obtain ⟨tx, fee, signed, channel, answered, leads⟩ := disputes
  have same : call = .dispute tx fee := congrArg MerchantExchange.call answered
  subst same
  have served : (shop.serve (.dispute tx fee)).1 = .ok (some signed) :=
    eq_of_heq (MerchantExchange.mk.inj answered).2
  rcases ended : shop.merchant.dispute shop.ledger tx fee with failure | ⟨answer, after⟩
  · rw [serve, ended] at served
    cases served
  · obtain rfl : answer = some signed := by
      rw [serve, ended] at served
      exact Except.ok.inj served
    obtain ⟨_, _, spends, -, rfl⟩ := dispute_eq_some ended
    cases leads.symm.trans spends
    rw [after_of_keep rfl ended]
    exact ⟨channel, Dict.get?_insert_self _ _ _⟩

/-- The status of a channel falls in a single case: a settled channel is disputed. In every run and
whatever the merchant is called for, a registered channel stays registered, only its status changes
once it is funded, and an answered dispute leaves it disputed.
-/
theorem status_falls_iff (opens : start.Opens params policy source)
    (run : start.Run history shop)
    (found : shop.merchant.channels.get? escrow = some before) (call : MerchantCall)
    : ∃ after, (shop.after call).merchant.channels.get? escrow = some after
      ∧ (before.status ≠ .unfunded → after = { before with status := after.status })
      ∧ (after.status.rank < before.status.rank
        ↔ before.status = .settled ∧ shop.Disputes call escrow)
      ∧ (shop.Disputes call escrow → after.status = .disputed)
      ∧ ∀ later next, (shop.after call).Run later next
        → ∃ last, next.merchant.channels.get? escrow = some last ∧ after.Lasts last := by
  obtain ⟨after, there, changed⟩ := (shop.channelStep call).change found
  have disputed : shop.Disputes call escrow → after.status = .disputed := by
    intro disputes
    obtain ⟨channel, left⟩ := disputes.get?_after
    cases there.symm.trans left
    rfl
  refine ⟨after, there, ?_, ⟨?_, ?_⟩, disputed, fun _ _ later => later.lasts there⟩
  · intro past
    obtain ⟨_, same, lasts⟩ := (shop.channelStep call).lasts found
    cases there.symm.trans same
    exact lasts.data past
  · intro falls
    obtain rfl | ⟨unfunded, still⟩ | ⟨move, -⟩ | ⟨tx, fee, signed, answered, leads, rfl⟩ := changed
    · exact absurd falls (Nat.lt_irrefl _)
    · rw [unfunded, still] at falls
      exact absurd falls (Nat.lt_irrefl _)
    · exact absurd falls (Nat.not_lt.2 move.rank_le)
    · refine ⟨?_, tx, fee, signed, before, answered, leads⟩
      by_contra unsettled
      exact absurd falls (Nat.not_lt.2
        (ChannelStatus.rank_le_disputed (ne_pendingClose_of_run opens run found)
          unsettled))
  · rintro ⟨settled, disputes⟩
    rw [settled, disputed disputes]
    decide

end Runs

-----------------------------------------------------------------------------------------
-- A settled channel
-----------------------------------------------------------------------------------------

section Example

open Bench

-- Unification would compute keys and hashes where comparing their arguments is enough.
attribute [local irreducible] SecretKey.publicKey SignableTx.txid SignableTx.sign
  SignableTx.verifies sha256 hmacSha256

/-- The channel of a shop is settled, and then a close of its first state is disputed. -/
theorem settledShop_disputes
    : ∃ history shop call, steadyShop.Run history shop
      ∧ shop.merchant.channels.get? steadyEscrow = some { announcedChannel with status := .settled }
      ∧ shop.Disputes call steadyEscrow := by
  obtain ⟨history, run⟩ := closingShop_run
  have settles :
      (steadyShopWith { announcedChannel with status := .merchantClosing }).merchant.markClosed
        steadyEscrow
      = .ok ((), (steadyShopWith
          { announcedChannel with status := .merchantClosing }).merchant.setChannel
          steadyEscrow { announcedChannel with status := .settled }) :=
    markClosed_eq_ok.2 ⟨_, steadyShopWith_found _, .inl rfl, rfl⟩
  have settled := steadyShopWith_run run (.markClosed steadyEscrow) rfl settles
  have recorded := settled.ledger (.record steadyRevocation.lock steadyRevocation.secret)
  have found := steadyShopWith_found { announcedChannel with status := .settled }
  have formed : steadyToken.customerCloseTx .escrow steadyFirst steadyKey.publicKey .default
      = .ok steadyStaleClose := rfl
  obtain ⟨signed, after, disputed, -⟩ := dispute_of_revoked (Standing.run steadyShop_opens recorded)
    (KeysFit.run steadyShop_opens recorded) found formed [] rfl steadySecret_recorded
    (⟨by decide, by decide⟩ : 0 ≤ (1000 : Sat) ∧ (1000 : Sat) ≤ 10000) (by decide) (by decide)
  obtain ⟨escrow, channel, leads, registered, -⟩ := dispute_eq_some disputed
  obtain rfl : escrow = steadyEscrow := steadyShopWith_only registered
  exact ⟨_, _, _, recorded, found, .of_answered disputed leads⟩

/-- A settled channel falls back when a close transaction of it is disputed. -/
theorem status_falls_iff_steady
    : steadyShop.Opens .default .reject steadySource
      ∧ ∃ history shop call after, steadyShop.Run history shop
      ∧ shop.merchant.channels.get? steadyEscrow = some { announcedChannel with status := .settled }
      ∧ (shop.after call).merchant.channels.get? steadyEscrow = some after
      ∧ after.status.rank < ChannelStatus.settled.rank := by
  obtain ⟨history, shop, call, run, found, disputes⟩ := settledShop_disputes
  obtain ⟨after, there, -, falls, -⟩ := status_falls_iff steadyShop_opens run found call
  exact ⟨steadyShop_opens, _, _, call, after, run, found, there, falls.2 ⟨rfl, disputes⟩⟩

/-- The status of a registered channel is not always at or above the one before: a settled channel
is disputed.
-/
theorem settled_channel_disputed
    : steadyShop.Opens .default .reject steadySource
      ∧ ∃ history shop call before after, steadyShop.Run history shop
      ∧ shop.merchant.channels.get? steadyEscrow = some before
      ∧ (shop.after call).merchant.channels.get? steadyEscrow = some after
      ∧ before.status = .settled ∧ after.status = .disputed
      ∧ ¬before.status.rank ≤ after.status.rank := by
  obtain ⟨history, shop, call, run, found, disputes⟩ := settledShop_disputes
  obtain ⟨channel, there⟩ := disputes.get?_after
  have falls : ¬ChannelStatus.settled.rank ≤ ChannelStatus.disputed.rank := by decide
  exact ⟨steadyShop_opens, _, _, call, _, _, run, found, there, rfl, rfl, falls⟩

end Example

end PaymentChannel
