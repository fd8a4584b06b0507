import PaymentChannel.Proofs.Merchant.ChannelMoves
import PaymentChannel.Proofs.Merchant.Disputes

/-! Which channel a transaction of the chain is about.
The merchant knows a channel by its escrow and by the output of its merchant-close transaction, and
takes the first registered channel to which the spent output belongs. A customer may name any
transaction as its escrow, even one that another channel has for its merchant-close transaction, so
an output can belong to two channels.
-/

namespace PaymentChannel

open Merchant

-----------------------------------------------------------------------------------------
-- Owners of outputs
-----------------------------------------------------------------------------------------

/-- The output is the escrow of the channel or that of its merchant-close transaction. -/
def MerchantChannel.Owns (channel : MerchantChannel) (point : OutPoint) : Prop :=
  channel.token.escrowOutPoint = point ∨ channel.token.merchantCloseOutPoint = point

theorem MerchantChannel.owns_outPoint (channel : MerchantChannel) (source : CloseSource)
    : channel.Owns (channel.token.outPoint source) := by
  cases source
  · exact .inl rfl
  · exact .inr rfl

/-- Two channels of which one has the transaction of the other for its own, or that have the same
merchant-close transaction.
-/
inductive MerchantChannel.Entangled (channel other : MerchantChannel) : Prop
  | before (same : other.token.merchantCloseTxid = channel.token.escrowTxid)
  | after (same : other.token.escrowTxid = channel.token.merchantCloseTxid)
  | beside (same : other.token.merchantCloseTxid = channel.token.merchantCloseTxid)

/-- Channels with different escrows to which one output belongs are entangled. -/
theorem MerchantChannel.Entangled.of_owns {channel other : MerchantChannel} {source : CloseSource}
    (apart : other.token.escrowTxid ≠ channel.token.escrowTxid)
    (owns : other.Owns (channel.token.outPoint source))
    : channel.Entangled other := by
  cases source with
  | escrow =>
      rcases owns with same | same
      · exact absurd (congrArg OutPoint.txid same) apart
      · exact .before (congrArg OutPoint.txid same)
  | merchantClose =>
      rcases owns with same | same
      · exact .after (congrArg OutPoint.txid same)
      · exact .beside (congrArg OutPoint.txid same)

namespace Merchant

variable {merchant after : Merchant} {point : OutPoint} {escrow : Txid} {channel : MerchantChannel}

/-- No registered channel with a smaller escrow has the output. -/
def Foremost (merchant : Merchant) (point : OutPoint) (escrow : Txid) : Prop :=
  ∀ other rival, merchant.channels.get? other = some rival → rival.Owns point
    → compare escrow other ≠ .gt

/-- A registered channel that has an output before all others. -/
structure Owner (merchant : Merchant) (point : OutPoint) (escrow : Txid)
    (channel : MerchantChannel) : Prop where
  registered : merchant.channels.get? escrow = some channel
  owns : channel.Owns point
  foremost : merchant.Foremost point escrow

/-- Of two foremost channels each has the smaller escrow, so they are the same. -/
theorem Owner.eq_of_foremost {other : Txid} {rival : MerchantChannel}
    (owner : merchant.Owner point escrow channel)
    (found : merchant.channels.get? other = some rival) (owns : rival.Owns point)
    (foremost : merchant.Foremost point other)
    : escrow = other := by
  have below := owner.foremost other rival found owns
  have above := foremost escrow channel owner.registered owner.owns
  cases order : compare escrow other with
  | lt => exact absurd (Std.OrientedCmp.gt_iff_lt.2 order) above
  | eq => exact Std.LawfulEqOrd.eq_of_compare order
  | gt => exact absurd order below

/-- The merchant takes a transaction to be about the owner of the output it spends first. -/
theorem Owner.of_channelSpentBy {tx : Transaction} {input : TxIn}
    (first : tx.inputs.head? = some input)
    (spends : merchant.channelSpentBy tx = .ok (escrow, channel))
    : merchant.Owner input.previousOutput escrow channel := by
  obtain ⟨registered, _, head, owns⟩ := channelSpentBy_eq_ok spends
  cases first.symm.trans head
  refine ⟨registered, owns, fun other rival found alsoOwns => ?_⟩
  simp only [channelSpentBy, first, Outcome.require, Outcome.ok_bind] at spends
  refine Dict.le_of_find? (Outcome.require_eq_ok.1 spends) found ?_
  simpa [MerchantChannel.Owns] using alsoOwns

/-- A transaction that spends an output of a registered channel is taken to be about an owner. -/
theorem exists_owner {tx : Transaction} {input : TxIn} (first : tx.inputs.head? = some input)
    (found : merchant.channels.get? escrow = some channel)
    (owns : channel.Owns input.previousOutput)
    : ∃ hit known, merchant.channelSpentBy tx = .ok (hit, known)
      ∧ merchant.Owner input.previousOutput hit known := by
  obtain ⟨hit, known, spends⟩ := exists_channelSpentBy first found owns
  exact ⟨hit, known, spends, .of_channelSpentBy first spends⟩

-----------------------------------------------------------------------------------------
-- Observations
-----------------------------------------------------------------------------------------

/-- A merchant takes note of a transaction: one channel changes its status, and nothing else about
it nor any other channel changes.
-/
structure Observes (merchant after : Merchant) (escrow : Txid)
    (status : ChannelStatus → ChannelStatus) : Prop where
  noted : after.channels.get? escrow = (merchant.channels.get? escrow).map
    fun channel => { channel with status := status channel.status }
  rest : ∀ other, other ≠ escrow
    → after.channels.get? other = merchant.channels.get? other

theorem Observes.setChannel (found : merchant.channels.get? escrow = some channel)
    (status : ChannelStatus → ChannelStatus)
    : merchant.Observes
        (merchant.setChannel escrow { channel with status := status channel.status }) escrow
        status where
  noted := by rw [found]; exact Dict.get?_insert_self _ _ _
  rest _ apart := Dict.get?_insert_of_ne apart

end Merchant

/-- What taking the merchant's output of a customer-close transaction makes of a status. -/
def ChannelStatus.claimed (status : ChannelStatus) : ChannelStatus :=
  if status.Live then .customerClosing else status

namespace Merchant

variable {merchant after : Merchant} {escrow : Txid} {channel : MerchantChannel} {tx : Transaction}
  {fee : Sat} {signed : SignedTx}

/-- A dispute that gives a transaction is noted for the channel it is about. -/
theorem observes_of_dispute {ledger : Ledger}
    (spends : merchant.channelSpentBy tx = .ok (escrow, channel))
    (disputed : merchant.dispute ledger tx fee = .ok (some signed, after))
    : merchant.Observes after escrow fun _ => .disputed := by
  obtain ⟨_, _, same, found, rfl⟩ := dispute_eq_some disputed
  cases spends.symm.trans same
  exact .setChannel found fun _ => .disputed

/-- The second output of a transaction pays to the merchant, and a claim of it can be formed: the
fee is within its bounds and leaves an output worth spending.
-/
structure Claimable (merchant : Merchant) (tx : Transaction) (fee : Sat) (output : TxOut)
    : Prop where
  placed : tx.outputs[1]? = some output
  script : output.script = .toKey merchant.keys.payout
  bounds : merchant.params.fees.leastFee ≤ fee ∧ fee ≤ merchant.params.fees.greatestFee
  enough : fee ≤ output.value
  worth : merchant.params.dustLimit ≤ output.value - fee

/-- The transaction by which the merchant takes that output. -/
def outputClaim (merchant : Merchant) (tx : Transaction) (fee : Sat) (output : TxOut)
    : SignableTx where
  kind := .merchantClaimToMerchant
  spent := ⟨tx.txid, 1⟩
  sequence := finalSequence
  outputs := [⟨output.value - fee, .toKey merchant.keys.payout⟩]
  scriptCode := .keyCode merchant.keys.payout
  inputValue := output.value

/-- All that is asked of a transaction whose second output the merchant takes is that it is about a
registered channel and that the output can be claimed.
-/
theorem claimOutput_iff
    : merchant.claimOutput tx fee = .ok (signed, after)
      ↔ ∃ escrow channel, merchant.channelSpentBy tx = .ok (escrow, channel)
        ∧ ∃ output, merchant.Claimable tx fee output
        ∧ signed = (merchant.outputClaim tx fee output).finalizeKey
          ((merchant.outputClaim tx fee output).sign merchant.payoutSecret) merchant.keys.payout
        ∧ after = if channel.status.Live
          then merchant.setChannel escrow { channel with status := .customerClosing }
          else merchant := by
  simp only [claimOutput, Outcome.bind_eq_ok, Outcome.pure_eq_ok, Outcome.require_eq_ok,
    Outcome.ensure_eq_ok, Outcome.mapRefusal_eq_ok, Outcome.exists_unit, merchantOutputClaimTx,
    claimTx_eq_ok, Prod.mk.injEq, Prod.exists]
  constructor
  · rintro ⟨escrow, channel, spends, output, placed, script, _, ⟨bounds, enough, worth, rfl⟩,
      rfl, rfl⟩
    exact ⟨escrow, channel, spends, output, ⟨placed, script, bounds, enough, worth⟩, rfl, rfl⟩
  · rintro ⟨escrow, channel, spends, output, ⟨placed, script, bounds, enough, worth⟩, rfl, rfl⟩
    exact ⟨escrow, channel, spends, output, placed, script, _, ⟨bounds, enough, worth, rfl⟩, rfl,
      rfl⟩

/-- A claim of the merchant's output is noted for the channel it is about, if that is live. -/
theorem observes_of_claimOutput (spends : merchant.channelSpentBy tx = .ok (escrow, channel))
    (claimed : merchant.claimOutput tx fee = .ok (signed, after))
    : merchant.Observes after escrow ChannelStatus.claimed := by
  obtain ⟨found, -⟩ := channelSpentBy_eq_ok spends
  obtain ⟨_, _, same, _, -, -, rfl⟩ := claimOutput_iff.1 claimed
  cases spends.symm.trans same
  split
  case isTrue live =>
    have noted := Observes.setChannel found ChannelStatus.claimed
    rwa [ChannelStatus.claimed, if_pos live] at noted
  case isFalse settled =>
    refine ⟨?_, fun _ _ => rfl⟩
    rw [found, Option.map_some, ChannelStatus.claimed, if_neg settled]

end Merchant

-----------------------------------------------------------------------------------------
-- Close transactions
-----------------------------------------------------------------------------------------

section Runs

variable {params : ChannelParams} {policy : RefundPolicy} {source : Entropy} {start shop : Shop}
  {history : List MerchantExchange} {escrow : Txid} {channel : MerchantChannel}

/-- A customer-close transaction of a channel changes the status of the owner of the output it
spends, and no other channel. That is the channel itself exactly if it has the output before all
others; otherwise a customer registered a channel that is entangled with it.
-/
theorem close_noted_for_owner (opens : start.Opens params policy source)
    (run : start.Run history shop)
    (found : shop.merchant.channels.get? escrow = some channel) {origin : CloseSource}
    {state : ChannelState} {key : PublicKey} {close : SignableTx}
    (formed : channel.token.customerCloseTx origin state key shop.merchant.params = .ok close)
    (witness : List (List UInt8))
    : ∃ hit known, shop.merchant.Owner (channel.token.outPoint origin) hit known
      ∧ (hit = escrow ↔ shop.merchant.Foremost (channel.token.outPoint origin) escrow)
      ∧ (hit ≠ escrow → channel.Entangled known)
      ∧ (∀ fee signed after,
        shop.merchant.dispute shop.ledger (close.withWitness witness) fee = .ok (some signed, after)
        → shop.merchant.Observes after hit fun _ => .disputed)
      ∧ ∀ fee signed after,
        shop.merchant.claimOutput (close.withWitness witness) fee = .ok (signed, after)
        → shop.merchant.Observes after hit ChannelStatus.claimed := by
  obtain ⟨spent, -⟩ := shape_of_customerCloseTx formed
  have first : (close.withWitness witness).inputs.head? = some (close.input witness) := rfl
  have owns : channel.Owns (close.input witness).previousOutput := by
    change channel.Owns close.spent
    rw [spent]
    exact channel.owns_outPoint origin
  obtain ⟨hit, known, spends, owner⟩ := exists_owner first found owns
  have owner : shop.merchant.Owner (channel.token.outPoint origin) hit known := spent ▸ owner
  refine ⟨hit, known, owner, ⟨?_, ?_⟩, ?_, ?_, ?_⟩
  · rintro rfl
    exact owner.foremost
  · exact owner.eq_of_foremost found (channel.owns_outPoint origin)
  · intro apart
    refine .of_owns ?_ owner.owns
    rwa [Shop.escrowTxid_of_run opens run owner.registered,
      Shop.escrowTxid_of_run opens run found]
  · exact fun fee signed after disputed => observes_of_dispute spends disputed
  · exact fun fee signed after claimed => observes_of_claimOutput spends claimed

end Runs

-----------------------------------------------------------------------------------------
-- Two entangled channels
-----------------------------------------------------------------------------------------

section Example

open Bench

-- Unification would compute keys and hashes where comparing their arguments is enough.
attribute [local irreducible] SecretKey.publicKey SignableTx.txid SignableTx.sign
  SignableTx.verifies sha256 hmacSha256

/-- The only channel of a shop has its outputs before all others. -/
theorem steadyShopWith_foremost (channel : MerchantChannel) (point : OutPoint)
    : (steadyShopWith channel).merchant.Foremost point steadyEscrow := by
  intro other rival found _
  rw [steadyShopWith_only found, Std.ReflOrd.compare_self]
  nofun

/-- The merchant-close transaction of a channel whose escrow is that of another channel. -/
def linkedClose : SignableTx := { steadyClose with spent := ⟨steadyClose.txid, 0⟩ }

def linkedFunding : FundingInfo :=
  { steadyFunding with escrowTxid := steadyClose.txid, merchantCloseTxid := linkedClose.txid }

def linkedToken : ChannelToken :=
  .ofFunding steadyKey.publicKey steadyShop.merchant.keys linkedFunding

def linkedRequest : OpenRequest := ⟨linkedToken, linkedFunding, linkedClose.sign steadyKey⟩

/-- The channel with the merchant-close transaction of another channel for its escrow. -/
def linkedChannel : MerchantChannel :=
  linkedRequest.channel
    (linkedClose.finalizeMultisig (linkedClose.sign steadyKey) (linkedClose.sign steadyKey))

/-- The shop at which both channels are registered. -/
def linkedShop : Shop :=
  { steadyShop with
    merchant := (steadyShopWith { announcedChannel with init := none }).merchant.setChannel
      steadyClose.txid linkedChannel }

/-- The escrow of the other channel comes first. -/
theorem compare_linkedEscrow : compare steadyClose.txid steadyEscrow = .gt := by
  decide +kernel

theorem linkedEscrow_ne : steadyClose.txid ≠ steadyEscrow := by
  intro same
  have order := compare_linkedEscrow
  rw [same, Std.ReflOrd.compare_self] at order
  cases order

theorem linkedShop_run : ∃ history, steadyShop.Run history linkedShop := by
  obtain ⟨history, run⟩ := registeredBench_run.shopRun
  have run : steadyShop.Run history (steadyShopWith { announcedChannel with init := none }) := run
  have formed : linkedToken.merchantCloseTx 20000 .default = .ok linkedClose := by
    unfold ChannelToken.merchantCloseTx merchantCloseTx
    rfl
  have opened : (steadyShopWith { announcedChannel with init := none }).merchant.openChannel
      linkedRequest
      = .ok (linkedChannel.signedClose, linkedShop.merchant) := by
    refine openChannel_eq_ok.2 ⟨?_, ?_, 20000, rfl, linkedClose, formed, rfl, ?_, rfl, rfl⟩
    · refine checkFunding_eq_ok.2 ⟨?_, rfl, ⟨rfl, rfl, rfl⟩, ?_, 4730, rfl, ?_⟩
      · exact ChannelToken.checkMerchant_eq_ok.2 ⟨rfl, rfl, rfl⟩
      · decide
      · decide
    · exact checkUnfunded_eq_ok.2 fun known found =>
        absurd (steadyShopWith_only found) linkedEscrow_ne
    · exact SignableTx.verifies_sign _ _
  exact ⟨_, run.kept (.openChannel linkedRequest) rfl opened⟩

theorem linkedShop_linked
    : linkedShop.merchant.channels.get? steadyClose.txid = some linkedChannel :=
  Dict.get?_insert_self _ _ _

theorem linkedShop_steady
    : linkedShop.merchant.channels.get? steadyEscrow
      = some { announcedChannel with init := none } :=
  (Dict.get?_insert_of_ne (Ne.symm linkedEscrow_ne)).trans (steadyShopWith_found _)

/-- The channel that was registered later does not come first at the output that both have. -/
theorem linkedShop_not_foremost
    : ¬linkedShop.merchant.Foremost (linkedToken.outPoint .escrow) steadyClose.txid :=
  fun foremost => foremost steadyEscrow _ linkedShop_steady (.inr rfl) compare_linkedEscrow

/-- A close transaction of the channel that was registered later. -/
def linkedStaleClose : SignableTx := { steadyStaleClose with spent := ⟨steadyClose.txid, 0⟩ }

theorem linkedStaleClose_formed
    : linkedToken.customerCloseTx .escrow steadyFirst steadyKey.publicKey .default
      = .ok linkedStaleClose := rfl

/-- A close transaction of one channel is noted for the channel it is entangled with. -/
theorem close_noted_for_owner_linked
    : steadyShop.Opens .default .reject steadySource
      ∧ (∃ history, steadyShop.Run history linkedShop)
      ∧ linkedShop.merchant.channels.get? steadyClose.txid = some linkedChannel
      ∧ ∃ hit known, linkedShop.merchant.Owner (linkedToken.outPoint .escrow) hit known
      ∧ hit ≠ steadyClose.txid ∧ linkedChannel.Entangled known := by
  obtain ⟨history, run⟩ := linkedShop_run
  obtain ⟨hit, known, owner, foremost, entangled, -⟩ := close_noted_for_owner steadyShop_opens run
    linkedShop_linked linkedStaleClose_formed []
  have apart : hit ≠ steadyClose.txid := fun same => linkedShop_not_foremost (foremost.1 same)
  exact ⟨steadyShop_opens, ⟨history, run⟩, linkedShop_linked, hit, known, owner, apart,
    entangled apart⟩

/-- A dispute of a close transaction of one channel leaves that channel as it was and changes the
status of another one.
-/
theorem dispute_of_entangled_channel
    : steadyShop.Opens .default .reject steadySource
      ∧ ∃ history shop signed after, steadyShop.Run history shop
      ∧ shop.merchant.channels.get? steadyClose.txid = some linkedChannel
      ∧ linkedChannel.token.customerCloseTx .escrow steadyFirst steadyKey.publicKey
          shop.merchant.params
        = .ok linkedStaleClose
      ∧ shop.merchant.dispute shop.ledger (linkedStaleClose.withWitness []) 1000
        = .ok (some signed, after)
      ∧ after.channels.get? steadyClose.txid = some linkedChannel
      ∧ linkedChannel.status ≠ .disputed
      ∧ shop.merchant.channels.get? steadyEscrow = some { announcedChannel with init := none }
      ∧ after.channels.get? steadyEscrow
        = some { announcedChannel with init := none, status := .disputed } := by
  obtain ⟨history, run⟩ := linkedShop_run
  have recorded := run.ledger (.record steadyRevocation.lock steadyRevocation.secret)
  obtain ⟨signed, after, disputed, -⟩ := dispute_of_revoked (Standing.run steadyShop_opens recorded)
    (KeysFit.run steadyShop_opens recorded) linkedShop_linked linkedStaleClose_formed [] rfl
    steadySecret_recorded
    (⟨by decide, by decide⟩ : 0 ≤ (1000 : Sat) ∧ (1000 : Sat) ≤ 10000) (by decide) (by decide)
  obtain ⟨hit, channel, spends, found, rfl⟩ := dispute_eq_some disputed
  have owner : linkedShop.merchant.Owner (linkedToken.outPoint .escrow) hit channel :=
    .of_channelSpentBy rfl spends
  have apart : hit ≠ steadyClose.txid := by
    rintro rfl
    exact linkedShop_not_foremost owner.foremost
  have elsewhere := found
  simp only [linkedShop, setChannel_channels, Dict.get?_insert_of_ne apart] at elsewhere
  obtain rfl : hit = steadyEscrow := steadyShopWith_only elsewhere
  cases linkedShop_steady.symm.trans found
  exact ⟨steadyShop_opens, _, _, signed, _, recorded, linkedShop_linked, linkedStaleClose_formed,
    disputed, (Dict.get?_insert_of_ne linkedEscrow_ne).trans linkedShop_linked, by decide,
    linkedShop_steady, Dict.get?_insert_self _ _ _⟩

end Example

end PaymentChannel
