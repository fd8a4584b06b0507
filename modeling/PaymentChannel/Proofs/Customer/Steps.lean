import PaymentChannel.Proofs.Customer.Operations

/-! What a call makes of a customer.
Whatever a customer is called for, the call is one of a few kinds of steps. Everything that holds
through all runs is derived from these steps and never from the operations again.
-/

namespace PaymentChannel

-----------------------------------------------------------------------------------------
-- Events
-----------------------------------------------------------------------------------------

/-- What a customer gives to others that binds it. -/
inductive CustomerEvent
  /-- The funding of the channel was chosen. -/
  | funded (request : OpenRequest)
  /-- A payment began, with a secret for its new state. -/
  | began (request : PaymentRequest) (secret : RevSecret)
  /-- The old state of a payment was revoked. -/
  | revoked (revoked : RevokedState)
  /-- The channel was closed. -/
  | closed (signed : SignedTx)

/-- The event that an exchange makes known. -/
def CustomerExchange.event? : CustomerExchange → Option CustomerEvent
  | ⟨.fund _, .ok request⟩ => some (.funded request)
  | ⟨.preparePayment _ _ source, .ok request⟩ => some (.began request (Customer.drawnSecret source))
  | ⟨.revoke, .ok revoked⟩ => some (.revoked revoked)
  | ⟨.forceClose _, .ok signed⟩ => some (.closed signed)
  | _ => none

-----------------------------------------------------------------------------------------
-- Kinds of steps
-----------------------------------------------------------------------------------------

/-- How a customer changes in an exchange. -/
inductive CustomerStep (customer : Customer) : CustomerExchange → Customer → Prop
  /-- Nothing changes and nothing becomes known. -/
  | silent {exchange : CustomerExchange} (quiet : exchange.event? = none)
    : CustomerStep customer exchange customer
  /-- The funding of the channel is chosen, and with it the first state. -/
  | funded {source : FundingSource} {value : Sat} {funding : FundingInfo}
    {escrowTx : Option SignedTx} {signature : Signature}
    (initialized : customer.stage = .initialized) (unfunded : customer.status = .unfunded)
    (worth : escrowValue customer.initialBalances.1 customer.initialBalances.2 = .ok value)
    (chosen : customer.chooseFunding value source = .ok (funding, escrowTx))
    : CustomerStep customer
        ⟨.fund source,
          .ok ⟨.ofFunding customer.escrowKey customer.merchantKeys funding, funding, signature⟩⟩
        { customer with
          channel := some {
            token := .ofFunding customer.escrowKey customer.merchantKeys funding
            funding
            state := customer.firstState funding
            escrowTx
            signatures := none }
          status := .pendingOpen }
  /-- The signatures of the first state are kept. -/
  | stored {exchange : CustomerExchange} {channel : FundedChannel} {signatures : CloseSignatures}
    (quiet : exchange.event? = none) (initialized : customer.stage = .initialized)
    (found : customer.channel = some channel)
    (verified : customer.verifySignatures channel.token channel.state signatures = .ok ())
    : CustomerStep customer exchange
        { customer with
          channel := some { channel with signatures := some signatures }
          stage := .funded }
  /-- The escrow is on the chain. -/
  | opened {exchange : CustomerExchange} (quiet : exchange.event? = none)
    (funded : customer.stage = .funded) (pendingOpen : customer.status = .pendingOpen)
    : CustomerStep customer exchange { customer with status := .confirmed }
  /-- The first pay token is asked for. -/
  | requested {exchange : CustomerExchange} (quiet : exchange.event? = none)
    (funded : customer.stage = .funded) (confirmed : customer.status = .confirmed)
    : CustomerStep customer exchange { customer with stage := .activated }
  /-- The first pay token arrives. -/
  | activated {exchange : CustomerExchange} {token : PayToken} (quiet : exchange.event? = none)
    (activated : customer.stage = .activated)
    : CustomerStep customer exchange { customer with payToken := some token, stage := .ready }
  /-- A payment begins. -/
  | began {amount : Balance} {justification : Option String} {source : Entropy}
    {channel : FundedChannel} {new : ChannelState}
    (ready : customer.stage = .ready) (trusted : customer.merchantTrusted = true)
    (idle : customer.pending = none) (found : customer.channel = some channel)
    (checked : customer.checkAmount channel.state amount = .ok ())
    (paid : (channel.state.pay amount (Customer.drawnSecret source).lock
      : Outcome ChannelError ChannelState) = .ok new)
    (fresh : new.nonce ≠ channel.state.nonce)
    : CustomerStep customer
        ⟨.preparePayment amount justification source,
          .ok {
            session := Customer.drawnSession source
            nonce := channel.state.nonce
            commitment := .commit channel.state.lock (Customer.drawnBlinding source)
            amount, justification }⟩
        { customer with
          pending := some {
            session := Customer.drawnSession source
            amount, new
            newSecret := Customer.drawnSecret source
            blinding := Customer.drawnBlinding source
            commitment := .commit channel.state.lock (Customer.drawnBlinding source)
            maskCommitment := none
            unmasked := none
            revoked := none } }
  /-- The merchant's commitment to a mask is kept. -/
  | committed {exchange : CustomerExchange} {pending : PendingRound} {commitment : PayMaskCom}
    (quiet : exchange.event? = none) (ready : customer.stage = .ready)
    (round : customer.pending = some pending) (unsigned : pending.unmasked = none)
    : CustomerStep customer exchange
        { customer with pending := some { pending with maskCommitment := some commitment } }
  /-- The signatures of the new state are kept. -/
  | accepted {exchange : CustomerExchange} {channel : FundedChannel} {pending : PendingRound}
    {signatures : CloseSignatures} {masked : MaskedPayToken}
    (quiet : exchange.event? = none) (ready : customer.stage = .ready)
    (found : customer.channel = some channel) (round : customer.pending = some pending)
    (unrevoked : pending.revoked = none)
    (verified : customer.verifySignatures channel.token pending.new signatures = .ok ())
    (bound : pending.maskCommitment ≠ none)
    : CustomerStep customer exchange
        { customer with pending := some { pending with unmasked := some (signatures, masked) } }
  /-- Wrong signatures cost the merchant the customer's trust. -/
  | distrusted {exchange : CustomerExchange} (quiet : exchange.event? = none)
    (ready : customer.stage = .ready)
    : CustomerStep customer exchange { customer with merchantTrusted := false }
  /-- The customer moves to the new state and revokes the old one. -/
  | promoted {channel : FundedChannel} {pending : PendingRound} {signatures : CloseSignatures}
    {masked : MaskedPayToken} {revoked : RevokedState}
    (ready : customer.stage = .ready) (found : customer.channel = some channel)
    (round : customer.pending = some pending) (unrevoked : pending.revoked = none)
    (signed : pending.unmasked = some (signatures, masked))
    (given : revoked = {
      nonce := channel.state.nonce
      commitment := pending.commitment
      lock := channel.state.lock
      secret := customer.secret
      blinding := pending.blinding })
    : CustomerStep customer ⟨.revoke, .ok revoked⟩
        { customer with
          channel := some { channel with state := pending.new, signatures := some signatures }
          secret := pending.newSecret
          payToken := none
          pending := some { pending with revoked := some revoked } }
  /-- The same revocation is given again. -/
  | repeated {pending : PendingRound} {revoked : RevokedState} (ready : customer.stage = .ready)
    (round : customer.pending = some pending) (given : pending.revoked = some revoked)
    : CustomerStep customer ⟨.revoke, .ok revoked⟩ customer
  /-- A payment ends with its pay token. -/
  | finished {exchange : CustomerExchange} {pending : PendingRound} {revoked : RevokedState}
    {token : PayToken} (quiet : exchange.event? = none) (ready : customer.stage = .ready)
    (round : customer.pending = some pending) (given : pending.revoked = some revoked)
    : CustomerStep customer exchange { customer with pending := none, payToken := some token }
  /-- A payment ends with a wrong mask. -/
  | mistaken {exchange : CustomerExchange} {pending : PendingRound} {revoked : RevokedState}
    (quiet : exchange.event? = none) (ready : customer.stage = .ready)
    (round : customer.pending = some pending) (given : pending.revoked = some revoked)
    : CustomerStep customer exchange { customer with pending := none, merchantTrusted := false }
  /-- A payment is dropped. -/
  | aborted {exchange : CustomerExchange} {pending : PendingRound}
    (quiet : exchange.event? = none) (round : customer.pending = some pending)
    (unrevoked : pending.revoked = none)
    : CustomerStep customer exchange { customer with pending := none }
  /-- The channel closes with its current state. -/
  | closed {source : CloseSource} {channel : FundedChannel} {signatures : CloseSignatures}
    {close : SignableTx} (closable : customer.stage ∈ [.funded, .activated, .ready, .closing])
    (found : customer.channel = some channel) (signed : channel.signatures = some signatures)
    (formed : channel.token.customerCloseTx source channel.state customer.closeKey customer.params
      = .ok close)
    : CustomerStep customer
        ⟨.forceClose source,
          .ok (close.finalizeMultisig (signatures.of source) (close.sign customer.escrowSecret))⟩
        { customer with pending := none, stage := .closing, status := .customerClosing }
  /-- The close of the channel is settled or disputed. -/
  | ended {exchange : CustomerExchange} {stage : Stage} {status : ChannelStatus}
    (quiet : exchange.event? = none) (closing : customer.stage = .closing)
    (past : (stage = .closed ∧ status = .settled) ∨ (stage = .disputed ∧ status = .disputed))
    : CustomerStep customer exchange { customer with stage, status }

namespace Customer

variable {customer : Customer}

/-- A call that changes nothing when it is refused is a step if its success is one. -/
theorem step_afterwards {call : CustomerCall}
    {outcome : Outcome ChannelError (call.Answer × Customer)}
    (quiet : ∀ failure, CustomerExchange.event? ⟨call, .error failure⟩ = none)
    (succeeded : ∀ answer after, outcome = .ok (answer, after)
      → CustomerStep customer ⟨call, .ok answer⟩ after)
    : CustomerStep customer ⟨call, (Parties.afterwards customer outcome).1⟩
        (Parties.afterwards customer outcome).2 := by
  rcases ended : outcome with failure | ⟨answer, after⟩
  · exact .silent (quiet failure)
  · exact succeeded answer after ended

/-- Every call is one of the steps, by cases on the call and on its outcome. -/
theorem step (customer : Customer) (call : CustomerCall)
    : CustomerStep customer (customer.exchange call) (customer.after call) := by
  cases call with
  | fund source =>
      refine step_afterwards (fun _ => rfl) fun request after formed => ?_
      obtain ⟨initialized, unfunded, _, worth, _, _, chosen, _, -, -, rfl, rfl⟩ :=
        fund_eq_ok.1 formed
      exact .funded initialized unfunded worth chosen
  | initialState => exact .silent rfl
  | storeInitialSignatures signatures =>
      refine step_afterwards (fun _ => rfl) fun answer after stored => ?_
      obtain ⟨initialized, _, found, verified, rfl⟩ := storeInitialSignatures_eq_ok.1 stored
      exact .stored rfl initialized found verified
  | markOpen =>
      refine step_afterwards (fun _ => rfl) fun answer after marked => ?_
      obtain ⟨funded, pendingOpen, rfl⟩ := markOpen_eq_ok.1 marked
      exact .opened rfl funded pendingOpen
  | requestActivation =>
      refine step_afterwards (fun _ => rfl) fun state after requested => ?_
      obtain ⟨funded, confirmed, _, -, -, rfl⟩ := requestActivation_eq_ok.1 requested
      exact .requested rfl funded confirmed
  | finishActivation token =>
      refine step_afterwards (fun _ => rfl) fun answer after finished => ?_
      obtain ⟨activated, rfl⟩ := finishActivation_eq_ok.1 finished
      exact .activated rfl activated
  | preparePayment amount justification source =>
      refine step_afterwards (fun _ => rfl) fun request after prepared => ?_
      obtain ⟨_, allowed, _, paid, fresh, rfl, rfl⟩ := preparePayment_eq_ok.1 prepared
      obtain ⟨ready, trusted, idle, -, _, found, checked, rfl⟩ := checkPayment_eq_ok.1 allowed
      exact .began ready trusted idle found checked paid fresh
  | maskingInput response =>
      refine step_afterwards (fun _ => rfl) fun input after handed => ?_
      obtain ⟨ready, _, -, _, -, _, round, -, unsigned, -, rfl⟩ := maskingInput_eq_ok.1 handed
      exact .committed rfl ready round unsigned
  | acceptSignatures outputs released =>
      unfold exchange Customer.after
      rcases ended : customer.acceptSignatures outputs released with ⟨failure | answer, after⟩
      · simp only [serve, ended]
        rcases acceptSignatures_error ended with rfl | ⟨⟨⟨_, _⟩, awaiting⟩, rfl⟩
        · exact .silent rfl
        · exact .distrusted rfl (roundAwaitingSignatures_eq_ok.1 awaiting).1
      · simp only [serve, ended]
        obtain ⟨_, _, awaiting, _, -, verified, rfl⟩ := acceptSignatures_eq_ok ended
        obtain ⟨ready, found, round, -, bound, unrevoked⟩ :=
          roundAwaitingSignatures_eq_ok.1 awaiting
        exact .accepted rfl ready found round unrevoked verified bound
  | revoke =>
      refine step_afterwards (fun _ => rfl) fun revoked after answered => ?_
      obtain ⟨ready, _, round, ⟨given, rfl⟩ | ⟨unrevoked, _, _, signed, _, found, rfl, rfl⟩⟩ :=
        revoke_eq_ok.1 answered
      · exact .repeated ready round given
      · exact .promoted ready found round unrevoked signed rfl
  | acceptToken opening =>
      unfold exchange Customer.after
      rcases ended : customer.acceptToken opening with ⟨failure | token, after⟩
      · simp only [serve, ended]
        rcases acceptToken_error ended with rfl | ⟨⟨_, _, awaited, -⟩, rfl⟩
        · exact .silent rfl
        · obtain ⟨ready, _, round, _, _, given, -, -⟩ := awaitedToken_eq_ok.1 awaited
          exact .mistaken rfl ready round given
      · simp only [serve, ended]
        obtain ⟨_, _, awaited, -, -, rfl⟩ := acceptToken_eq_ok.1 ended
        obtain ⟨ready, _, round, _, _, given, -, -⟩ := awaitedToken_eq_ok.1 awaited
        exact .finished rfl ready round given
  | abort =>
      refine step_afterwards (fun _ => rfl) fun answer after dropped => ?_
      obtain ⟨_, round, unrevoked, rfl⟩ := abort_eq_ok.1 dropped
      exact .aborted rfl round unrevoked
  | forceClose source =>
      refine step_afterwards (fun _ => rfl) fun signed after closed => ?_
      obtain ⟨closable, _, found, _, signed, _, formed, rfl, rfl⟩ := forceClose_eq_ok.1 closed
      exact .closed closable found signed formed
  | claim tx fee => exact .silent rfl
  | markClosed =>
      refine step_afterwards (fun _ => rfl) fun answer after marked => ?_
      obtain ⟨closing, rfl⟩ := markClosed_eq_ok.1 marked
      exact .ended rfl closing (.inl ⟨rfl, rfl⟩)
  | markDisputed =>
      refine step_afterwards (fun _ => rfl) fun answer after marked => ?_
      obtain ⟨closing, rfl⟩ := markDisputed_eq_ok.1 marked
      exact .ended rfl closing (.inr ⟨rfl, rfl⟩)

-----------------------------------------------------------------------------------------
-- What never changes
-----------------------------------------------------------------------------------------

/-- A customer that starts: with fresh keys and no channel. -/
def Starts (customer : Customer) : Prop :=
  ∃ params merchantKeys customerBalance merchantBalance name source,
    (init params merchantKeys customerBalance merchantBalance name).outcome source = .ok customer

/-- Two customers with the same keys, terms and first balances. -/
structure SameParty (start customer : Customer) : Prop where
  params : customer.params = start.params
  escrowSecret : customer.escrowSecret = start.escrowSecret
  escrowKey : customer.escrowKey = start.escrowKey
  closeSecret : customer.closeSecret = start.closeSecret
  closeKey : customer.closeKey = start.closeKey
  merchantKeys : customer.merchantKeys = start.merchantKeys
  initialBalances : customer.initialBalances = start.initialBalances

/-- A channel that the customer funded with its first balances. -/
structure FundedBy (customer : Customer) (channel : FundedChannel) : Prop where
  token : channel.token = .ofFunding customer.escrowKey customer.merchantKeys channel.funding
  customerBalance : channel.funding.customerBalance = customer.initialBalances.1
  merchantBalance : channel.funding.merchantBalance = customer.initialBalances.2
  worth : ∃ value, channel.funding.escrowValue = .ok value

variable {start after : Customer} {history : List CustomerExchange} {exchange : CustomerExchange}

theorem SameParty.step (same : start.SameParty customer)
    (step : CustomerStep customer exchange after)
    : start.SameParty after := by
  obtain ⟨params, escrowSecret, escrowKey, closeSecret, closeKey, merchantKeys, balances⟩ := same
  cases step <;>
    exact ⟨params, escrowSecret, escrowKey, closeSecret, closeKey, merchantKeys, balances⟩

/-- A run keeps the party, by induction on the run. -/
theorem Run.sameParty (run : start.Run history customer) : start.SameParty customer := by
  induction run with
  | start => exact ⟨rfl, rfl, rfl, rfl, rfl, rfl, rfl⟩
  | call run call same => exact same.step (step _ call)

/-- The funding of a channel stays what it was. -/
theorem FundedBy.step
    (funded : ∀ channel, customer.channel = some channel → customer.FundedBy channel)
    (step : CustomerStep customer exchange after)
    : ∀ channel, after.channel = some channel → after.FundedBy channel := by
  cases step with
  | silent | opened | requested | activated | began | committed | accepted | distrusted
  | repeated | finished | mistaken | aborted | closed | ended =>
      intro channel found
      obtain ⟨token, first, second, worth⟩ := funded channel found
      exact ⟨token, first, second, worth⟩
  | funded _ _ worth chosen =>
      intro channel found
      cases found
      obtain ⟨first, second⟩ := chooseFunding_eq_ok chosen
      have value := worth
      rw [← first, ← second] at value
      exact ⟨rfl, first, second, _, value⟩
  | stored _ _ found | promoted _ found =>
      intro channel now
      cases now
      obtain ⟨token, first, second, worth⟩ := funded _ found
      exact ⟨token, first, second, worth⟩

/-- A customer that starts has no channel and no payment under way. -/
theorem Starts.idle (starts : start.Starts)
    : start.channel = none ∧ start.pending = none ∧ start.stage = .initialized
      ∧ start.escrowKey = start.escrowSecret.publicKey := by
  obtain ⟨_, _, _, _, _, _, initialized⟩ := starts
  obtain ⟨-, _, -, _, -, _, -, rfl⟩ := init_eq_ok.1 initialized
  exact ⟨rfl, rfl, rfl, by simp only [fresh]⟩

/-- A payment is under way only in an open channel, by induction on the run. -/
theorem Run.ready (starts : start.Starts) (run : start.Run history customer)
    : ∀ pending, customer.pending = some pending → customer.stage = .ready := by
  induction run with
  | start =>
      intro pending round
      rw [starts.idle.2.1] at round
      cases round
  | @call _ customer _ call ready =>
      have step := customer.step call
      generalize customer.exchange call = exchange, customer.after call = after at step
      cases step with
      | silent | opened | distrusted | repeated | funded => exact ready
      | began ready' | committed _ ready' | accepted _ ready' | promoted ready' =>
          exact fun _ _ => ready'
      | finished | mistaken | aborted | closed => exact fun _ round => nomatch round
      | stored _ stage | requested _ stage | activated _ stage | ended _ stage =>
          intro pending round
          exact absurd (ready pending round) (by simp [stage])

theorem Run.idle (starts : start.Starts) (run : start.Run history customer)
    (unready : customer.stage ≠ .ready)
    : customer.pending = none := by
  rcases round : customer.pending with - | pending
  · rfl
  · exact absurd (run.ready starts pending round) unready

/-- In a run every channel was funded by the customer, by induction on the run. -/
theorem Run.fundedBy (starts : start.Starts) (run : start.Run history customer)
    : ∀ channel, customer.channel = some channel → customer.FundedBy channel := by
  induction run with
  | start =>
      intro channel found
      rw [starts.idle.1] at found
      cases found
  | call run call funded => exact FundedBy.step funded (step _ call)

end Customer

end PaymentChannel
