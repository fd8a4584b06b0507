import PaymentChannel.Proofs.Opening

/-! Where the hashes of the channel's outputs come from.
The funding of a channel names two transactions and, beside them, the hashes of their first outputs.
Tokens and states copy all four, and nobody compares a hash with its transaction. So the hashes are
right wherever the channel is known exactly if they were right where the funding came from.
-/

namespace PaymentChannel

-----------------------------------------------------------------------------------------
-- The roots of a channel
-----------------------------------------------------------------------------------------

/-- The two transactions of a channel, each with a hash for its first output. -/
structure ChannelRoots where
  escrowTxid : Txid
  escrowPrevout : Prevout
  merchantCloseTxid : Txid
  merchantClosePrevout : Prevout

/-- Each hash is that of the output it stands for. -/
structure ChannelRoots.Linked (roots : ChannelRoots) : Prop where
  escrow : roots.escrowPrevout = OutPoint.prevout ⟨roots.escrowTxid, 0⟩
  merchantClose : roots.merchantClosePrevout = OutPoint.prevout ⟨roots.merchantCloseTxid, 0⟩

def FundingInfo.roots (funding : FundingInfo) : ChannelRoots :=
  ⟨funding.escrowTxid, funding.escrowPrevout, funding.merchantCloseTxid,
    funding.merchantClosePrevout⟩

def ChannelToken.roots (token : ChannelToken) : ChannelRoots :=
  ⟨token.escrowTxid, token.escrowPrevout, token.merchantCloseTxid, token.merchantClosePrevout⟩

def ChannelState.roots (state : ChannelState) : ChannelRoots :=
  ⟨state.escrowTxid, state.escrowPrevout, state.merchantCloseTxid, state.merchantClosePrevout⟩

/-- A funding that is formed here has the right hashes; one that was formed elsewhere may have any. -/
def FundingSource.Linked : FundingSource → Prop
  | .utxo _ _ _ _ => True
  | .formed funding => funding.roots.Linked

/-- The same request with other hashes in its token and in its funding. -/
def OpenRequest.withPrevouts (request : OpenRequest) (escrow merchantClose : Prevout)
    : OpenRequest :=
  { request with
    token := { request.token with
      escrowPrevout := escrow
      merchantClosePrevout := merchantClose }
    funding := { request.funding with
      escrowPrevout := escrow
      merchantClosePrevout := merchantClose } }

theorem ChannelToken.roots_of_checkState {token : ChannelToken} {state : ChannelState}
    (fits : token.checkState state = .ok ())
    : state.roots = token.roots := by
  obtain ⟨-, -, ⟨escrow, escrowPrevout⟩, close, closePrevout⟩ := checkState_eq_ok.1 fits
  rw [ChannelState.roots, roots, escrow, escrowPrevout, close, closePrevout]

theorem FundingSource.linked_iff {customer after : Customer} {source : FundingSource}
    {request : OpenRequest} (funds : customer.fund source = .ok (request, after))
    : request.funding.roots.Linked ↔ source.Linked := by
  obtain ⟨-, -, value, -, funding, escrowTx, chosen, _, -, -, rfl, -⟩ := Customer.fund_eq_ok.1 funds
  cases source with
  | utxo =>
      obtain ⟨_, -, _, -, _, -, rfl, -⟩ := Customer.chooseFunding_utxo.1 chosen
      exact iff_true_intro ⟨rfl, rfl⟩
  | formed =>
      obtain ⟨-, rfl, -⟩ := Customer.chooseFunding_formed.1 chosen
      exact Iff.rfl

-----------------------------------------------------------------------------------------
-- What a customer keeps
-----------------------------------------------------------------------------------------

namespace Customer

variable {start customer after : Customer} {history : List CustomerExchange}
  {exchange : CustomerExchange} {request : OpenRequest}

/-- All that a customer keeps of its channel has these roots. -/
structure RootedIn (customer : Customer) (roots : ChannelRoots) : Prop where
  channel : ∃ channel, customer.channel = some channel ∧ channel.funding.roots = roots
    ∧ channel.token.roots = roots ∧ channel.state.roots = roots
  next : ∀ pending, customer.pending = some pending → pending.new.roots = roots

/-- A funding in a run was chosen by the customer at that time. -/
theorem Run.fund_of_mem (run : start.Run history customer) {source : FundingSource}
    (funded : ⟨.fund source, .ok request⟩ ∈ history)
    : ∃ before after : Customer, before.fund source = .ok (request, after) := by
  obtain ⟨later, earlier, rfl⟩ := List.append_of_mem funded
  obtain ⟨before, -, gave⟩ := run.before (List.suffix_append later _)
  refine ⟨before, ?_⟩
  simp only [exchange, serve, CustomerExchange.mk.injEq, heq_eq_eq, true_and] at gave
  rcases ended : before.fund source with reason | ⟨given, after⟩
  · rw [ended] at gave
    cases gave
  · rw [ended] at gave
    cases gave
    exact ⟨after, rfl⟩

/-- The channel of a customer is the one that it asked for. -/
structure Carries (customer : Customer) (request : OpenRequest) : Prop where
  chosen : customer.status ≠ .unfunded
  channel : ∃ channel, customer.channel = some channel ∧ channel.token = request.token
    ∧ channel.funding = request.funding

/-- A funding is chosen once: every step after that keeps the channel. -/
theorem Carries.step (carries : customer.Carries request)
    (step : CustomerStep customer exchange after)
    : after.Carries request := by
  obtain ⟨chosen, channel, known, same⟩ := carries
  cases step with
  | silent | requested | activated | began | committed | accepted | distrusted | repeated | finished
  | mistaken | aborted => exact ⟨chosen, channel, known, same⟩
  | funded _ unfunded => exact absurd unfunded chosen
  | stored _ _ found | promoted _ found =>
      cases found.symm.trans known
      exact ⟨chosen, _, rfl, same⟩
  | opened | closed => exact ⟨nofun, channel, known, same⟩
  | ended _ _ past =>
      obtain ⟨rfl, rfl⟩ | ⟨rfl, rfl⟩ := past
      all_goals exact ⟨nofun, channel, known, same⟩

theorem Carries.of_funded (step : CustomerStep customer exchange after)
    (funded : exchange.event? = some (.funded request))
    : after.Carries request := by
  cases step with
  | funded =>
      cases funded
      exact ⟨nofun, _, rfl, rfl, rfl⟩
  | silent quiet | stored quiet | opened quiet | requested quiet | activated quiet
  | committed quiet | accepted quiet | distrusted quiet | finished quiet | mistaken quiet
  | aborted quiet | ended quiet => cases quiet.symm.trans funded
  | began | promoted | repeated | closed => cases funded

/-- A channel has the funding that was chosen for it, by induction on the run. -/
theorem Carries.run (run : start.Run history customer)
    (funded : .funded request ∈ eventsOf history)
    : customer.Carries request := by
  induction run with
  | start => cases funded
  | @call _ customer _ call carries =>
      rw [eventsOf_cons, List.mem_append, Option.mem_toList] at funded
      rcases funded with now | earlier
      · exact .of_funded (customer.step call) now
      · exact (carries earlier).step (customer.step call)

/-- What a customer keeps of its channel has the roots of the funding that it chose. -/
theorem Run.rootedIn (starts : start.Starts) (run : start.Run history customer)
    (funded : .funded request ∈ eventsOf history)
    : customer.RootedIn request.funding.roots := by
  obtain ⟨-, channel, found, -, funding⟩ := Carries.run run funded
  have fits := StatesFit.run starts run
  have token : channel.token.roots = request.funding.roots := by
    rw [(run.fundedBy starts channel found).token, funding]
    rfl
  exact {
    channel := ⟨channel, found, congrArg FundingInfo.roots funding, token,
      (ChannelToken.roots_of_checkState (fits.current channel found)).trans token⟩
    next := fun pending round =>
      (ChannelToken.roots_of_checkState (fits.next channel pending found round)).trans token }

end Customer

-----------------------------------------------------------------------------------------
-- What a merchant accepts
-----------------------------------------------------------------------------------------

/-- All that a merchant derives from a request has the roots of its funding. -/
structure OpenRequest.Rooted (request : OpenRequest) : Prop where
  token : request.token.roots = request.funding.roots
  first : ∀ init : InitialState, (init.state request.token).roots = request.funding.roots
  states : ∀ state, request.token.checkState state = .ok () → state.roots = request.funding.roots

namespace Merchant

variable {merchant registered : Merchant} {request : OpenRequest} {signed : SignedTx}

theorem rooted_of_openChannel (opened : merchant.openChannel request = .ok (signed, registered))
    : request.Rooted := by
  obtain ⟨-, same, -⟩ := checkFunding_eq_ok.1 (openChannel_eq_ok.1 opened).1
  have token : request.token.roots = request.funding.roots := by
    rw [← same]
    rfl
  exact ⟨token, fun _ => token, fun _ fits => (ChannelToken.roots_of_checkState fits).trans token⟩

/-- A merchant that accepts a request accepts it with any other hashes. -/
theorem openChannel_withPrevouts (opened : merchant.openChannel request = .ok (signed, registered))
    (escrow merchantClose : Prevout)
    : ∃ signed registered,
      merchant.openChannel (request.withPrevouts escrow merchantClose) = .ok (signed, registered) := by
  obtain ⟨agreed, new, value, worth, close, formed, named, verified, -, -⟩ :=
    openChannel_eq_ok.1 opened
  obtain ⟨issuer, same, fees, customerEnough, merchantEnough⟩ := checkFunding_eq_ok.1 agreed
  have given : merchant.checkFunding (request.withPrevouts escrow merchantClose) = .ok () := by
    refine checkFunding_eq_ok.2 ⟨issuer, ?_, fees, customerEnough, merchantEnough⟩
    rw [OpenRequest.withPrevouts, ← same]
    rfl
  exact ⟨_, _, openChannel_eq_ok.2 ⟨given, new, value, worth, close, formed, named, verified, rfl, rfl⟩⟩

end Merchant

-----------------------------------------------------------------------------------------
-- Copies
-----------------------------------------------------------------------------------------

/-- The hashes of the outputs are copied from the funding that a customer chose or that a merchant
accepts: all that either of them keeps or derives has the same ones. So everywhere they are the
hashes of the outputs that the channel spends exactly if they were so in the funding. For a funding
that was formed elsewhere nothing makes sure of that: a merchant that accepts it accepts it with any
other hashes too.
-/
theorem prevouts_copied_from_funding {start customer : Customer} (starts : start.Starts)
    {history : List CustomerExchange} (run : start.Run history customer) {source : FundingSource}
    {request : OpenRequest} (funded : ⟨.fund source, .ok request⟩ ∈ history) (merchant : Merchant)
    : (request.funding.roots.Linked ↔ source.Linked)
      ∧ request.token.roots = request.funding.roots
      ∧ customer.RootedIn request.funding.roots
      ∧ ∀ given signed registered, merchant.openChannel given = .ok (signed, registered)
        → given.Rooted
          ∧ ∀ escrow merchantClose, ∃ signed registered,
            merchant.openChannel (given.withPrevouts escrow merchantClose)
              = .ok (signed, registered) := by
  have event : .funded request ∈ Customer.eventsOf history :=
    List.mem_filterMap.2 ⟨_, funded, rfl⟩
  obtain ⟨before, _, funds⟩ := run.fund_of_mem funded
  obtain ⟨-, -, _, -, _, _, -, _, -, -, rfl, -⟩ := Customer.fund_eq_ok.1 funds
  exact ⟨FundingSource.linked_iff funds, rfl, run.rootedIn starts event,
    fun given signed registered opened =>
      ⟨Merchant.rooted_of_openChannel opened, Merchant.openChannel_withPrevouts opened⟩⟩

section Example

open Customer

-- Unification would compute keys and hashes where comparing their arguments is enough.
attribute [local irreducible] SecretKey.publicKey SignableTx.txid SignableTx.sign
  SignableTx.verifies sha256 hmacSha256

/-- The hashes of a funding that is formed from an output are right, and its channel has them. -/
theorem prevouts_copied_from_funding_patron
    : patron.Starts
      ∧ ∃ history customer request, patron.Run history customer
        ∧ ⟨.fund (.utxo patronUtxo soleKey soleKey.publicKey 1000), .ok request⟩ ∈ history
        ∧ request.funding.roots.Linked
        ∧ customer.RootedIn request.funding.roots := by
  obtain ⟨request, funded, funds⟩ := fund_patron_utxo
  have run := Run.start.kept (.fund (.utxo patronUtxo soleKey soleKey.publicKey 1000)) rfl funds
  obtain ⟨linked, -, rooted, -⟩ :=
    prevouts_copied_from_funding patron_starts run List.mem_cons_self steadyShop.merchant
  exact ⟨patron_starts, _, _, request, run, List.mem_cons_self, linked.2 trivial, rooted⟩

/-- A customer takes a funding with wrong hashes, and the merchant accepts its request. -/
theorem wrong_prevouts_accepted
    : patron.Starts
      ∧ steadyShop.Opens .default .reject steadySource
      ∧ ∃ request funded signed registered,
        patron.fund (.formed patronFunding) = .ok (request, funded)
        ∧ steadyShop.merchant.openChannel request = .ok (signed, registered)
        ∧ request.token.escrowPrevout ≠ OutPoint.prevout ⟨request.token.escrowTxid, 0⟩
        ∧ request.funding.escrowPrevout ≠ OutPoint.prevout ⟨request.funding.escrowTxid, 0⟩
        ∧ funded.state.map (·.escrowPrevout) = some patronFunding.escrowPrevout := by
  have funds := fund_patronFunding patronFunding.merchantCloseFee
  have unknown : steadyShop.merchant.channels.get? patronToken.escrowTxid = none := rfl
  obtain ⟨_, _, accepted, -⟩ := newcomer_patron.registers funds ⟨rfl, rfl, rfl⟩
    (fun known found => by cases unknown.symm.trans found)
    (Merchant.KeysFit.run steadyShop_opens .start).escrow
  have wrong : (⟨.ofNat 32 8⟩ : Prevout) ≠ OutPoint.prevout ⟨⟨.ofNat 32 7⟩, 0⟩ := by
    decide +kernel
  exact ⟨patron_starts, steadyShop_opens, _, _, _, _, funds, accepted, wrong, wrong, rfl⟩

end Example

end PaymentChannel
