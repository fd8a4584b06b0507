import PaymentChannel.Proofs.Customer.RevokedLocks
import PaymentChannel.Proofs.Merchant.OutputClaims
import PaymentChannel.Proofs.Opening
import PaymentChannel.Proofs.Script.FinishedSpends

/-! The outputs of a close transaction are claimed by those they pay.
A party that claims an output derives its script again, from what the transaction publishes and from
keys and terms of its own. It finds the script of every transaction by which the customer closed the
channel, so the fee alone decides whether the claim can be formed.
-/

namespace PaymentChannel

-----------------------------------------------------------------------------------------
-- Claims
-----------------------------------------------------------------------------------------

/-- A fee that a claim of an output of the given worth can pay: it is within its bounds and leaves an
output worth spending.
-/
structure ChannelParams.Affords (params : ChannelParams) (worth fee : Sat) : Prop where
  least : params.fees.leastFee ≤ fee
  greatest : fee ≤ params.fees.greatestFee
  leaves : fee.toNat + params.dustLimit.toNat ≤ worth.toNat

/-- What a claim checks of its fee, where amounts are not negative. -/
theorem ChannelParams.affords_iff {params : ChannelParams} {worth fee : Sat}
    : params.Affords worth fee
      ↔ (params.fees.leastFee ≤ fee ∧ fee ≤ params.fees.greatestFee) ∧ fee ≤ worth
        ∧ params.dustLimit ≤ worth - fee := by
  constructor
  · intro ⟨least, greatest, leaves⟩
    have enough : fee ≤ worth := UInt64.le_iff_toNat_le.2 (by omega)
    have left := Sat.toNat_sub_add enough
    exact ⟨⟨least, greatest⟩, enough, UInt64.le_iff_toNat_le.2 (by omega)⟩
  · rintro ⟨⟨least, greatest⟩, enough, dust⟩
    have left := Sat.toNat_sub_add enough
    have dust := UInt64.le_iff_toNat_le.1 dust
    exact ⟨least, greatest, by omega⟩

/-- A finished transaction takes one output, and nothing else. It pays to a key what the output is
worth, less the fee.
-/
structure SignedTx.Takes (signed : SignedTx) (point : OutPoint) (sequence : UInt32)
    (worth fee : Sat) (key : PublicKey) : Prop where
  input : ∃ input, signed.tx.inputs = [input] ∧ input.previousOutput = point
    ∧ input.sequence = sequence
  pays : signed.tx.outputs = [⟨worth - fee, .toKey key⟩]

/-- The witness of a finished transaction ends with the script that an output names by its hash. -/
def SignedTx.Reveals (signed : SignedTx) (output : Script) : Prop :=
  ∃ input before, ∃ script : Script, signed.tx.inputs = [input]
    ∧ input.witness = before ++ [script.bytes]
    ∧ output.bytes = [0x00, 0x20] ++ (sha256 script.bytes).toList

/-- The customer takes the first output of a transaction, when the delay is over, for every fee that
the output affords and for no other one.
-/
structure Customer.CanClaim (customer : Customer) (tx : Transaction) (output : TxOut) : Prop where
  placed : tx.outputs[0]? = some output
  answered : ∀ fee,
    (∃ claim, customer.claim tx fee = .ok claim) ↔ customer.params.Affords output.value fee
  takes : ∀ fee claim, customer.claim tx fee = .ok claim
    → claim.Takes ⟨tx.txid, 0⟩ (blockSequence customer.params.selfDelay) output.value fee
      customer.closeKey
  reveals : ∀ fee claim, customer.claim tx fee = .ok claim → claim.Reveals output.script
  spends : ∀ fee claim, customer.claim tx fee = .ok claim → claim.Spends output

/-- The merchant takes the second output of a transaction at once, for every fee that the output
affords and for no other one.
-/
structure Merchant.CanClaim (merchant : Merchant) (tx : Transaction) (output : TxOut) : Prop where
  placed : tx.outputs[1]? = some output
  answered : ∀ fee, (∃ claim after, merchant.claimOutput tx fee = .ok (claim, after))
    ↔ merchant.params.Affords output.value fee
  takes : ∀ fee claim after, merchant.claimOutput tx fee = .ok (claim, after)
    → claim.Takes ⟨tx.txid, 1⟩ finalSequence output.value fee merchant.keys.payout

-----------------------------------------------------------------------------------------
-- The closes of a customer
-----------------------------------------------------------------------------------------

namespace Customer

variable {start customer after : Customer} {history : List CustomerExchange}
  {exchange : CustomerExchange} {source : CloseSource} {signed : SignedTx}

/-- The customer closed its channel with the current state, by this transaction. -/
structure ClosedBy (customer : Customer) (source : CloseSource) (signed : SignedTx) : Prop where
  isOver : customer.Over
  formed : ∃ channel close merchant, customer.channel = some channel
    ∧ channel.token.customerCloseTx source channel.state customer.closeKey customer.params
      = .ok close
    ∧ signed = close.finalizeMultisig merchant (close.sign customer.escrowSecret)

/-- The state with which a channel was closed stays the current one. -/
theorem ClosedBy.step (closed : customer.ClosedBy source signed)
    (step : CustomerStep customer exchange after)
    : after.ClosedBy source signed := by
  obtain ⟨isOver, formed⟩ := closed
  cases step with
  | silent | aborted => exact ⟨isOver, formed⟩
  | closed => exact ⟨by simp [Over], formed⟩
  | ended _ _ past =>
      rcases past with ⟨rfl, rfl⟩ | ⟨rfl, rfl⟩
      · exact ⟨by simp [Over], formed⟩
      · exact ⟨by simp [Over], formed⟩
  | funded stage | stored _ stage | opened _ stage | requested _ stage | activated _ stage
  | began stage | committed _ stage | accepted _ stage | distrusted _ stage | promoted stage
  | repeated stage | finished _ stage | mistaken _ stage => simp [Over, stage] at isOver

/-- Every close of a run was made with the state that the customer still has, by induction on the
run.
-/
theorem Run.closedBy (run : start.Run history customer)
    : ∀ source signed, ⟨.forceClose source, .ok signed⟩ ∈ history
      → customer.ClosedBy source signed := by
  induction run with
  | start => simp
  | @call _ customer _ call ih =>
      intro source signed member
      have step := customer.step call
      rcases List.mem_cons.1 member with now | earlier
      · rw [← now] at step
        generalize customer.after call = after at step
        cases step with
        | closed _ found _ formed => exact ⟨by simp [Over], _, _, _, found, formed, rfl⟩
        | _ quiet => cases quiet
      · exact (ih source signed earlier).step step

-----------------------------------------------------------------------------------------
-- The output of the customer
-----------------------------------------------------------------------------------------

section Output

variable {channel : FundedChannel} {claim : SignedTx} {lock : RevLock} {output : TxOut} {fee : Sat}

/-- The transaction by which the customer takes its output, which has the script of a lock. -/
def outputClaim (customer : Customer) (tx : Transaction) (lock : RevLock) (output : TxOut)
    (fee : Sat)
    : SignableTx where
  kind := .customerClaim
  spent := ⟨tx.txid, 0⟩
  sequence := blockSequence customer.params.selfDelay
  outputs := [⟨output.value - fee, .toKey customer.closeKey⟩]
  scriptCode := .toCustomer lock customer.merchantKeys.dispute customer.closeKey
    customer.params.selfDelay
  inputValue := output.value

/-- Of a transaction that shows a lock the customer claims its output if that affords the fee. -/
theorem claim_iff_affords (closing : customer.stage = .closing)
    (found : customer.channel = some channel) (funded : customer.FundedBy channel)
    (shows : customer.Shows signed lock) (first : signed.tx.outputs.head? = some output)
    : customer.claim signed.tx fee = .ok claim
      ↔ customer.params.Affords output.value fee
        ∧ claim = (customer.outputClaim signed.tx lock output fee).finalizeDelayed
          ((customer.outputClaim signed.tx lock output fee).sign customer.closeSecret) := by
  obtain ⟨published, _, same, script⟩ := shows
  cases first.symm.trans same
  have dispute : (channel.token.closingKeys customer.closeKey).dispute
      = customer.merchantKeys.dispute := by rw [funded.token]; rfl
  rw [claim_eq_ok, ChannelParams.affords_iff]
  constructor
  · rintro ⟨-, _, again, _, also, -, _, place, -, signable, formed, rfl⟩
    cases found.symm.trans again
    cases published.symm.trans also
    cases first.symm.trans place
    obtain ⟨bounds, enough, dust, rfl⟩ := claimTx_eq_ok.1 formed
    refine ⟨⟨bounds, enough, dust⟩, ?_⟩
    rw [dispute]
    rfl
  · rintro ⟨⟨bounds, enough, dust⟩, rfl⟩
    refine ⟨closing, channel, found, _, published, rfl, output, first, script, _,
      claimTx_eq_ok.2 ⟨bounds, enough, dust, rfl⟩, ?_⟩
    rw [dispute]
    rfl

/-- The claim of an output has the right to it. -/
theorem outputClaim_spends (own : customer.closeKey = customer.closeSecret.publicKey)
    (tx : Transaction)
    (script : output.script = .payToScript (.toCustomer lock customer.merchantKeys.dispute
      customer.closeKey customer.params.selfDelay))
    : ((customer.outputClaim tx lock output fee).finalizeDelayed
        ((customer.outputClaim tx lock output fee).sign customer.closeSecret)).Spends output := by
  have verified : (customer.outputClaim tx lock output fee).verifies
      ((customer.outputClaim tx lock output fee).sign customer.closeSecret)
      customer.closingKeys.close = true := by
    rw [show customer.closingKeys.close = customer.closeSecret.publicKey from own]
    exact SignableTx.verifies_sign _ _
  have asked : (customer.outputClaim tx lock output fee).scriptCode
      = .toCustomer lock customer.closingKeys.dispute customer.closingKeys.close
        customer.params.selfDelay := rfl
  have spends := SignableTx.finalizeDelayed_toCustomer asked rfl verified
  obtain ⟨value, _⟩ := output
  cases script
  exact spends

/-- A customer that is closing its channel can claim its output of what shows a lock. -/
theorem canClaim_of_shows (closing : customer.stage = .closing)
    (found : customer.channel = some channel) (funded : customer.FundedBy channel)
    (own : customer.closeKey = customer.closeSecret.publicKey)
    (shows : customer.Shows signed lock)
    : ∃ output, customer.CanClaim signed.tx output := by
  obtain ⟨output, first, script⟩ := shows.paid
  have claims := fun fee claim =>
    @claim_iff_affords _ _ _ claim _ _ fee closing found funded shows first
  refine ⟨output, {
    placed := by rw [← List.head?_eq_getElem?]; exact first
    answered := fun fee => ?_
    takes := ?_
    reveals := ?_
    spends := ?_ }⟩
  · constructor
    · rintro ⟨claim, claimed⟩
      exact ((claims fee claim).1 claimed).1
    · exact fun affords => ⟨_, (claims fee _).2 ⟨affords, rfl⟩⟩
  · intro fee claim claimed
    obtain ⟨-, rfl⟩ := (claims fee claim).1 claimed
    exact ⟨⟨_, rfl, rfl, rfl⟩, rfl⟩
  · intro fee claim claimed
    obtain ⟨-, rfl⟩ := (claims fee claim).1 claimed
    rw [script]
    exact ⟨_, [_, _], _, rfl, rfl, Script.bytes_payToScript _⟩
  · intro fee claim claimed
    obtain ⟨-, rfl⟩ := (claims fee claim).1 claimed
    exact outputClaim_spends own signed.tx script

end Output

/-- The customer has the secret of its close key, as it did at the start. -/
theorem Run.closeKey (starts : start.Starts) (run : start.Run history customer)
    : customer.closeKey = customer.closeSecret.publicKey := by
  have same := run.sameParty
  rw [same.closeKey, same.closeSecret]
  obtain ⟨_, _, _, _, _, _, initialized⟩ := starts
  obtain ⟨-, _, -, _, -, _, -, rfl⟩ := init_eq_ok.1 initialized
  simp only [fresh]

/-- A transaction by which the customer closed its channel shows the lock of the current state. -/
theorem ClosedBy.shows (closed : customer.ClosedBy source signed)
    (funded : ∀ channel, customer.channel = some channel → customer.FundedBy channel)
    : ∃ channel, customer.channel = some channel
      ∧ customer.Shows signed channel.state.lock := by
  obtain ⟨channel, close, merchant, found, formed, rfl⟩ := closed.formed
  exact ⟨channel, found, shows_of_customerCloseTx merchant (close.sign customer.escrowSecret)
    ⟨rfl, rfl, rfl, rfl, rfl, rfl, rfl⟩ (funded channel found) formed⟩

end Customer

-----------------------------------------------------------------------------------------
-- The output of the merchant
-----------------------------------------------------------------------------------------

/-- The channel that is registered for an escrow is not replaced by another one. That can happen
only until it is funded.
-/
def MerchantChannel.Stays (channel : MerchantChannel) (escrow : Txid)
    (later : List MerchantExchange) : Prop :=
  channel.status = .unfunded → ∀ request signed, ⟨.openChannel request, .ok signed⟩ ∈ later
    → request.token.escrowTxid = escrow → request.token = channel.token

theorem MerchantChannel.Stays.mono {channel : MerchantChannel} {escrow : Txid}
    {earlier later : List MerchantExchange} (stays : channel.Stays escrow later)
    (sub : earlier ⊆ later)
    : channel.Stays escrow earlier :=
  fun unfunded request signed member => stays unfunded request signed (sub member)

/-- The token of a channel is still registered, and funded if it was. -/
def MerchantChannel.KeptIn (before : MerchantChannel) (channels : Dict Txid MerchantChannel)
    (escrow : Txid) : Prop :=
  ∃ channel, channels.get? escrow = some channel ∧ channel.token = before.token
    ∧ (before.status ≠ .unfunded → channel.status ≠ .unfunded)

namespace MerchantChannel

variable {before : MerchantChannel} {shop after : Shop} {exchange : MerchantExchange}
  {channels : Dict Txid MerchantChannel} {escrow : Txid} {later : List MerchantExchange}

/-- No step but the registration of another channel gives up a token. -/
theorem KeptIn.step (kept : before.KeptIn shop.merchant.channels escrow)
    (step : ChannelStep shop exchange channels) (stays : before.Stays escrow [exchange])
    : before.KeptIn channels escrow := by
  obtain ⟨known, found, token, past⟩ := kept
  have inserted : ∀ {other : Txid} {changed : MerchantChannel},
      (escrow = other → changed.token = before.token
        ∧ (before.status ≠ .unfunded → changed.status ≠ .unfunded))
      → before.KeptIn (shop.merchant.channels.insert other changed) escrow := by
    intro other changed same
    by_cases here : escrow = other
    · subst here
      exact ⟨changed, Dict.get?_insert_self _ _ _, same rfl⟩
    · exact ⟨known, by rwa [Dict.get?_insert_of_ne here], token, past⟩
  cases step with
  | kept | activated => exact ⟨known, found, token, past⟩
  | @registered request _ _ free _ =>
      refine inserted fun here => ?_
      subst here
      have unfunded : before.status = .unfunded :=
        Decidable.byContradiction fun funded => past funded (free known found)
      exact ⟨stays unfunded request _ List.mem_cons_self rfl, fun funded => absurd unfunded funded⟩
  | announced there =>
      refine inserted fun here => ?_
      subst here
      cases found.symm.trans there
      exact ⟨token, past⟩
  | validated there | disputed there =>
      refine inserted fun here => ?_
      subst here
      cases found.symm.trans there
      exact ⟨token, fun _ => nofun⟩
  | moved _ there _ move =>
      refine inserted fun here => ?_
      subst here
      cases found.symm.trans there
      exact ⟨token, fun _ => move.ne_unfunded⟩

/-- A channel that is not replaced keeps its token however the run goes on, by induction on the
run.
-/
theorem KeptIn.run (found : shop.merchant.channels.get? escrow = some before)
    (goes : shop.Run later after) (stays : before.Stays escrow later)
    : before.KeptIn after.merchant.channels escrow := by
  induction goes with
  | start => exact ⟨before, found, rfl, id⟩
  | @call _ shop _ call ih =>
      exact (ih (stays.mono (List.subset_cons_self _ _))).step (shop.channelStep call)
        (stays.mono (by simp))
  | ledger _ _ ih => exact ih stays

end MerchantChannel

namespace Merchant

variable {merchant : Merchant} {registered : MerchantChannel} {escrow : Txid}

/-- No run touches the terms of a merchant, by induction on the run. -/
theorem SameTerms.run {shop after : Shop} {later : List MerchantExchange}
    (goes : shop.Run later after)
    : SameTerms shop.merchant after.merchant := by
  induction goes with
  | start => exact .refl _
  | @call _ shop _ call ih => exact ih.trans (.of_step (shop.step call))
  | ledger _ _ ih => exact ih

/-- A merchant that has a channel with its payout key can claim its output of every customer-close
transaction of the channel.
-/
theorem canClaim_of_customerCloseTx (found : merchant.channels.get? escrow = some registered)
    (own : registered.token.payoutKey = merchant.keys.payout) {source : CloseSource}
    {state : ChannelState} {key : PublicKey} {params : ChannelParams} {close : SignableTx}
    (formed : registered.token.customerCloseTx source state key params = .ok close)
    (witness : List (List UInt8))
    : ∃ output, merchant.CanClaim (close.withWitness witness) output := by
  obtain ⟨balances, -, template⟩ := ChannelToken.customerCloseTx_eq_ok.1 formed
  obtain ⟨spent, -⟩ := shape_of_customerCloseTx formed
  have owns : registered.Owns (close.input witness).previousOutput := by
    change registered.Owns close.spent
    rw [spent]
    exact registered.owns_outPoint source
  have spends : ∃ input escrow channel, (close.withWitness witness).inputs.head? = some input
      ∧ merchant.channels.get? escrow = some channel ∧ channel.Owns input.previousOutput :=
    ⟨_, escrow, registered, rfl, found, owns⟩
  obtain ⟨worth, second⟩ : ∃ worth, (close.withWitness witness).outputs[1]?
      = some ⟨worth, .toKey merchant.keys.payout⟩ := by
    obtain ⟨-, input, -, _, -, -, -, -, rfl⟩ := customerCloseTx_eq_ok.1 template
    exact ⟨input.toMerchant, own ▸ rfl⟩
  refine ⟨_, {
    placed := second
    answered := fun fee => ?_
    takes := ?_ }⟩
  · rw [claimOutput_answered_iff, ChannelParams.affords_iff, and_iff_right spends]
    constructor
    · rintro ⟨output, placed, -, bounds, enough, dust⟩
      cases second.symm.trans placed
      exact ⟨bounds, enough, dust⟩
    · rintro ⟨bounds, enough, dust⟩
      exact ⟨_, second, rfl, bounds, enough, dust⟩
  · intro fee claim after claimed
    obtain ⟨_, _, -, output, ⟨placed, -⟩, rfl, -⟩ := claimOutput_iff.1 claimed
    cases second.symm.trans placed
    exact ⟨⟨_, rfl, rfl, rfl⟩, rfl⟩

end Merchant

-----------------------------------------------------------------------------------------
-- Both outputs
-----------------------------------------------------------------------------------------

/-- Both outputs of every transaction by which a customer closed its channel can be claimed, each by
its owner and for exactly the fees that it affords: by the customer while it is closing the channel,
and by a merchant with the keys of the channel from its registration on. The merchant's terms need
not be those of the customer, and the channel can only be replaced by another one until it is funded.
-/
theorem close_outputs_claimable {start customer : Customer} {history : List CustomerExchange}
    {source : CloseSource} {signed : SignedTx} (starts : start.Starts)
    (run : start.Run history customer) (closed : ⟨.forceClose source, .ok signed⟩ ∈ history)
    : (customer.stage = .closing → ∃ output, customer.CanClaim signed.tx output)
      ∧ ∃ channel, customer.channel = some channel
        ∧ ∀ (shop after : Shop) (later : List MerchantExchange) (escrow : Txid)
          (registered : MerchantChannel),
          shop.merchant.keys = start.merchantKeys
          → shop.merchant.channels.get? escrow = some registered
          → registered.token = channel.token
          → shop.Run later after → registered.Stays escrow later
          → ∃ output, after.merchant.CanClaim signed.tx output := by
  have funded := run.fundedBy starts
  have closed := run.closedBy source signed closed
  constructor
  · intro closing
    obtain ⟨channel, found, shows⟩ := closed.shows funded
    exact Customer.canClaim_of_shows closing found (funded channel found) (run.closeKey starts)
      shows
  · obtain ⟨channel, close, merchant, found, formed, rfl⟩ := closed.formed
    refine ⟨channel, found, fun shop after later escrow registered keys known token goes stays => ?_⟩
    obtain ⟨kept, known, same, -⟩ := MerchantChannel.KeptIn.run known goes stays
    rw [← token, ← same] at formed
    refine Merchant.canClaim_of_customerCloseTx known ?_ formed _
    rw [same, token, (funded channel found).token, (Merchant.SameTerms.run goes).keys, keys,
      ← run.sameParty.merchantKeys]
    rfl

-----------------------------------------------------------------------------------------
-- A close from the escrow
-----------------------------------------------------------------------------------------

section Example

open Customer

-- Unification would compute keys and hashes where comparing their arguments is enough.
attribute [local irreducible] SecretKey.publicKey SignableTx.txid SignableTx.sign
  SignableTx.verifies sha256 hmacSha256

/-- A fee that both outputs of the close afford. -/
theorem affords_default {worth : Sat} (enough : 500 + defaultDustLimit.toNat ≤ worth.toNat)
    : ChannelParams.default.Affords worth 500 where
  least := by decide
  greatest := by decide
  leaves := enough

/-- The customer closes a channel that was just registered, and both parties claim what it pays them
for a fee of 500.
-/
theorem close_outputs_claimable_patron
    : patron.Starts
      ∧ ∃ history customer signed, patron.Run history customer
      ∧ ⟨.forceClose .escrow, .ok signed⟩ ∈ history ∧ customer.stage = .closing
      ∧ (∃ claim, customer.claim signed.tx 500 = .ok claim
        ∧ claim.tx.outputs = [⟨7500, .toKey soleKey.publicKey⟩])
      ∧ ∃ served shop, steadyShop.Run served shop ∧ shop.merchant.keys = patron.merchantKeys
      ∧ ∃ claim after, shop.merchant.claimOutput signed.tx 500 = .ok (claim, after)
        ∧ claim.tx.outputs = [⟨9500, .toKey soleKey.publicKey⟩] := by
  have closes : fundedPatron.forceClose .escrow = .ok (_, _) :=
    forceClose_eq_ok.2 ⟨by decide, _, rfl, _, rfl,
      patronClose patronChannel.state 8000 .escrow (20000, 10000), rfl, rfl, rfl⟩
  have run := fundedPatron_run.kept (.forceClose .escrow) rfl closes
  obtain ⟨own, channel, found, merchants⟩ :=
    close_outputs_claimable patron_starts run List.mem_cons_self
  cases found
  refine ⟨patron_starts, _, _, _, run, List.mem_cons_self, rfl, ?_, ?_⟩
  · obtain ⟨output, claims⟩ := own rfl
    obtain rfl := Option.some.inj claims.placed
    obtain ⟨claim, claimed⟩ := (claims.answered 500).2 (affords_default (by decide))
    exact ⟨claim, claimed, (claims.takes 500 claim claimed).pays⟩
  · have unknown : steadyShop.merchant.channels.get? patronToken.escrowTxid = none := rfl
    obtain ⟨channel, registered, registers, -, -, token, -, prospect⟩ :=
      newcomer_patron.registers (fund_patronFunding patronFunding.merchantCloseFee)
        ⟨rfl, rfl, rfl⟩ (fun known found => by cases unknown.symm.trans found)
        (Merchant.KeysFit.run steadyShop_opens .start).escrow
    have served := Shop.Run.start.kept (.openChannel _) rfl registers
    have keys : (steadyShop.merchant.setChannel channel.funding.escrowTxid registered).keys
        = patron.merchantKeys := rfl
    have same : registered.token = patronToken := prospect.token.trans token
    obtain ⟨output, claims⟩ := merchants { steadyShop with merchant := _ } _ [] _ registered keys
      prospect.known same .start fun _ _ _ member => nomatch member
    obtain rfl := Option.some.inj claims.placed
    obtain ⟨claim, after, claimed⟩ := (claims.answered 500).2 (affords_default (by decide))
    exact ⟨_, _, served, rfl, claim, after, claimed, (claims.takes 500 claim after claimed).pays⟩

end Example

end PaymentChannel
