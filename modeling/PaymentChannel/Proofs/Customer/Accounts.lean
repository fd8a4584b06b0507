import PaymentChannel.Proofs.Balance
import PaymentChannel.Proofs.Customer.Arithmetic
import PaymentChannel.Proofs.Customer.RevokedLocks
import PaymentChannel.Proofs.Nonce

/-! The books of a customer.
A payment is prepared, signed and committed in separate calls, with repetitions and failures in
between. The balances of the current state are the first ones with all committed payments made, and
its nonce counts these payments.
-/

namespace PaymentChannel

-----------------------------------------------------------------------------------------
-- Committed payments
-----------------------------------------------------------------------------------------

/-- The payments of a run. -/
structure Tally where
  /-- The amount of the payment that began last, until its old state is revoked. -/
  underWay : Option Balance
  /-- The payments whose old states were revoked, with the nonces of these states, the latest in
  front.
  -/
  committed : List (Nonce × Balance)

namespace Tally

/-- No payments. -/
def empty : Tally := ⟨none, []⟩

/-- The payments after an exchange. A revocation commits the payment that began last, or it repeats
the one that committed it.
-/
def note (tally : Tally) : CustomerExchange → Tally
  | ⟨.preparePayment amount _ _, .ok _⟩ => { tally with underWay := some amount }
  | ⟨.revoke, .ok revoked⟩ =>
      match tally.underWay with
      | some amount => ⟨none, (revoked.nonce, amount) :: tally.committed⟩
      | none => tally
  | _ => tally

/-- The payments of a run with the latest exchange in front. -/
def of (history : List CustomerExchange) : Tally :=
  history.foldr (fun exchange tally => tally.note exchange) empty

/-- What the customer paid with all committed payments. -/
def paid (tally : Tally) : Int := (tally.committed.map (·.2.toInt)).sum

/-- The nonces of the states that were left behind. -/
def nonces (tally : Tally) : List Nonce := tally.committed.map (·.1)

variable {tally : Tally} {exchange : CustomerExchange} {revoked : RevokedState}

/-- A revocation commits the payment under way. -/
theorem note_revoke {amount : Balance} (underWay : tally.underWay = some amount)
    : tally.note ⟨.revoke, .ok revoked⟩ = ⟨none, (revoked.nonce, amount) :: tally.committed⟩ := by
  simp [note, underWay]

/-- A revocation that is repeated commits nothing. -/
theorem note_revoke_again (committed : tally.underWay = none)
    : tally.note ⟨.revoke, .ok revoked⟩ = tally := by
  simp [note, committed]

/-- A close commits nothing, even with a payment under way. -/
theorem note_forceClose {source : CloseSource} {signed : SignedTx}
    : tally.note ⟨.forceClose source, .ok signed⟩ = tally := by
  simp [note]

theorem note_of_quiet (quiet : exchange.event? = none)
    : tally.note exchange = tally := by
  unfold note
  split
  · cases quiet
  · cases quiet
  · rfl

end Tally

namespace Customer

/-- The balances and the nonce of a customer are those it started with after some payments. -/
structure Accounted (start customer : Customer) (tally : Tally) : Prop where
  balance : customer.balance.toInt = start.balance.toInt - tally.paid
  merchantBalance : customer.merchantBalance.toInt = start.merchantBalance.toInt + tally.paid
  salt : customer.nonce.salt = start.nonce.salt
  count : customer.nonce.count = tally.committed.length
  growing : (customer.nonce :: tally.nonces).Pairwise fun newer older => compare older newer = .lt

/-- A payment that has begun is under way until its old state is revoked. -/
inductive RoundCounted (tally : Tally) (customer : Customer) (pending : PendingRound) : Prop
  /-- The new state is that of the payment of the amount. -/
  | unrevoked (unrevoked : pending.revoked = none) (underWay : tally.underWay = some pending.amount)
    (pays : ∀ state, customer.state = some state
      → ∃ lock, (state.pay pending.amount lock : Outcome ChannelError ChannelState)
          = .ok pending.new
        ∧ pending.new.nonce ≠ state.nonce)
  | revoked {revoked : RevokedState} (given : pending.revoked = some revoked)
    (committed : tally.underWay = none)

/-- The accounts of a customer and its payment under way fit the payments of a run. -/
structure Books (start customer : Customer) (tally : Tally) : Prop where
  accounted : start.Accounted customer tally
  unfunded : customer.status = .unfunded → customer.state = none
  round : ∀ pending, customer.pending = some pending → RoundCounted tally customer pending

-----------------------------------------------------------------------------------------
-- What a step does to the books
-----------------------------------------------------------------------------------------

variable {start customer after : Customer} {tally : Tally} {history : List CustomerExchange}
  {exchange : CustomerExchange}

theorem balance_of_state {state : ChannelState} (current : customer.state = some state)
    : customer.balance = state.customerBalance := by
  rw [balance, current]

theorem merchantBalance_of_state {state : ChannelState} (current : customer.state = some state)
    : customer.merchantBalance = state.merchantBalance := by
  rw [merchantBalance, current]

theorem nonce_of_state {state : ChannelState} (current : customer.state = some state)
    : customer.nonce = state.nonce := by
  rw [nonce, current]

/-- Two customers with the same balances and the same nonce. -/
structure SameAccounts (customer after : Customer) : Prop where
  balance : after.balance = customer.balance
  merchantBalance : after.merchantBalance = customer.merchantBalance
  nonce : after.nonce = customer.nonce

theorem SameAccounts.of_state (balances : after.initialBalances = customer.initialBalances)
    (nonce : after.initialNonce = customer.initialNonce) (state : after.state = customer.state)
    : customer.SameAccounts after := by
  constructor
  · rw [Customer.balance, state, balances, Customer.balance]
  · rw [Customer.merchantBalance, state, balances, Customer.merchantBalance]
  · rw [Customer.nonce, state, nonce, Customer.nonce]

/-- The accounts of the first state are those of a customer that has none yet. -/
theorem SameAccounts.of_first {state : ChannelState} {funding : FundingInfo}
    (stateless : customer.state = none) (current : after.state = some state)
    (first : state = customer.firstState funding)
    : customer.SameAccounts after := by
  subst first
  constructor
  · rw [balance_of_state current, Customer.balance, stateless, firstState]
  · rw [merchantBalance_of_state current, Customer.merchantBalance, stateless, firstState]
  · rw [nonce_of_state current, Customer.nonce, stateless, firstState]

theorem Accounted.same (accounted : start.Accounted customer tally)
    (same : customer.SameAccounts after)
    : start.Accounted after tally := by
  obtain ⟨balance, merchantBalance, nonce⟩ := same
  refine ⟨?_, ?_, ?_, ?_, ?_⟩
  · rw [balance, accounted.balance]
  · rw [merchantBalance, accounted.merchantBalance]
  · rw [nonce, accounted.salt]
  · rw [nonce, accounted.count]
  · rw [nonce]
    exact accounted.growing

/-- The books stay as they are for the same payment, whatever the merchant has given for it. -/
theorem Books.lasts (books : start.Books customer tally)
    (balances : after.initialBalances = customer.initialBalances)
    (nonce : after.initialNonce = customer.initialNonce) (state : after.state = customer.state)
    (status : after.status = customer.status)
    (kept : ∀ pending, after.pending = some pending → ∃ before, customer.pending = some before
      ∧ pending.amount = before.amount ∧ pending.new = before.new
      ∧ pending.revoked = before.revoked)
    : start.Books after tally := by
  refine {
    accounted := books.accounted.same (.of_state balances nonce state)
    unfunded := fun unfunded => state.trans (books.unfunded (status.symm.trans unfunded))
    round := ?_ }
  intro pending round
  obtain ⟨before, earlier, amount, new, revoked⟩ := kept pending round
  cases books.round before earlier with
  | unrevoked unrevoked underWay pays =>
      refine .unrevoked (revoked.trans unrevoked) (by rw [amount, underWay]) ?_
      rw [state, amount, new]
      exact pays
  | revoked given committed => exact .revoked (revoked.trans given) committed

/-- The books stay as they are where no payment is under way afterwards. -/
theorem Books.lasts_idle (books : start.Books customer tally) (same : customer.SameAccounts after)
    (unfunded : after.status = .unfunded → after.state = none) (idle : after.pending = none)
    : start.Books after tally := by
  refine {
    accounted := books.accounted.same same
    unfunded := unfunded
    round := ?_ }
  intro pending round
  rw [idle] at round
  cases round

/-- A payment that begins is under way, and nothing is committed. -/
theorem Books.begin (books : start.Books customer tally) {channel : FundedChannel}
    {pending : PendingRound} {lock : RevLock} (found : customer.channel = some channel)
    (unrevoked : pending.revoked = none)
    (paid : (channel.state.pay pending.amount lock : Outcome ChannelError ChannelState)
      = .ok pending.new)
    (fresh : pending.new.nonce ≠ channel.state.nonce)
    : start.Books { customer with pending := some pending }
        { tally with underWay := some pending.amount } := by
  obtain ⟨balance, merchantBalance, salt, count, growing⟩ := books.accounted
  refine {
    accounted := ⟨balance, merchantBalance, salt, count, growing⟩
    unfunded := books.unfunded
    round := ?_ }
  intro round same
  cases same
  refine .unrevoked unrevoked rfl fun state current => ?_
  rw [Customer.state, found] at current
  cases current
  exact ⟨lock, paid, fresh⟩

/-- One more payment moves its amount and the count of the nonce. -/
theorem Accounted.commit (accounted : start.Accounted customer tally) {state new : ChannelState}
    {amount : Balance} {lock : RevLock} (current : customer.state = some state)
    (next : after.state = some new)
    (paid : (state.pay amount lock : Outcome ChannelError ChannelState) = .ok new)
    (fresh : new.nonce ≠ state.nonce)
    : start.Accounted after ⟨none, (state.nonce, amount) :: tally.committed⟩ := by
  obtain ⟨balance, merchantBalance, salt, count, growing⟩ := accounted
  obtain ⟨left, subtracted, received, added, rfl⟩ := ChannelState.pay_eq_ok.1 paid
  have subtracted := Balance.sub_eq_ok.1 subtracted
  have added := Balance.add_eq_ok.1 added
  have total : Tally.paid ⟨none, (state.nonce, amount) :: tally.committed⟩
      = amount.toInt + tally.paid := by
    simp [Tally.paid]
  rw [balance_of_state current] at balance
  rw [merchantBalance_of_state current] at merchantBalance
  rw [nonce_of_state current] at salt count growing
  refine {
    balance := ?_
    merchantBalance := ?_
    salt := ?_
    count := ?_
    growing := ?_ }
  · rw [balance_of_state next, total]
    dsimp only
    omega
  · rw [merchantBalance_of_state next, total]
    dsimp only
    omega
  · rw [nonce_of_state next, Nonce.salt_next, salt]
  · rw [nonce_of_state next, state.nonce.count_next fresh, count, List.length_cons]
  · have grows := state.nonce.lt_next fresh
    rw [nonce_of_state next]
    refine List.pairwise_cons.2 ⟨fun older member => ?_, growing⟩
    rcases List.mem_cons.1 member with rfl | member
    · exact grows
    · exact Std.TransCmp.lt_trans ((List.pairwise_cons.1 growing).1 older member) grows

/-- A revocation that is new commits the payment under way. -/
theorem Books.promote (books : start.Books customer tally) {channel : FundedChannel}
    {pending : PendingRound} {revoked : RevokedState} {signatures : CloseSignatures}
    (found : customer.channel = some channel) (round : customer.pending = some pending)
    (unrevoked : pending.revoked = none) (nonce : revoked.nonce = channel.state.nonce)
    : start.Books
        { customer with
          channel := some { channel with state := pending.new, signatures := some signatures }
          secret := pending.newSecret
          payToken := none
          pending := some { pending with revoked := some revoked } }
        (tally.note ⟨.revoke, .ok revoked⟩) := by
  have current : customer.state = some channel.state := by rw [state, found]; rfl
  cases books.round pending round with
  | unrevoked _ underWay pays =>
      obtain ⟨lock, paid, fresh⟩ := pays _ current
      rw [Tally.note_revoke underWay, nonce]
      refine {
        accounted := books.accounted.commit current rfl paid fresh
        unfunded := ?_
        round := ?_ }
      · intro unfunded
        rw [books.unfunded unfunded] at current
        cases current
      · intro next same
        cases same
        exact .revoked rfl rfl
  | revoked given =>
      rw [given] at unrevoked
      cases unrevoked

/-- A revocation that is given again commits nothing. -/
theorem Books.again (books : start.Books customer tally) {pending : PendingRound}
    {revoked : RevokedState} (round : customer.pending = some pending)
    (given : pending.revoked = some revoked)
    : start.Books customer (tally.note ⟨.revoke, .ok revoked⟩) := by
  cases books.round pending round with
  | unrevoked unrevoked =>
      rw [given] at unrevoked
      cases unrevoked
  | revoked _ committed =>
      rw [Tally.note_revoke_again committed]
      exact books

/-- A step keeps the books, with the payment that its exchange begins or commits, by cases on the
step.
-/
theorem Books.step (books : start.Books customer tally)
    (idle : customer.stage ≠ .ready → customer.pending = none)
    (step : CustomerStep customer exchange after)
    : start.Books after (tally.note exchange) := by
  have quietly : exchange.event? = none → start.Books after tally
      → start.Books after (tally.note exchange) := by
    intro quiet books
    rw [Tally.note_of_quiet quiet]
    exact books
  cases step with
  | silent quiet => exact quietly quiet books
  | funded initialized unfunded =>
      exact books.lasts_idle (.of_first (books.unfunded unfunded) rfl rfl) (by simp)
        (idle (by simp [initialized]))
  | stored quiet _ found =>
      refine quietly quiet (books.lasts rfl rfl ?_ rfl fun _ round => ⟨_, round, rfl, rfl, rfl⟩)
      simp [state, found]
  | opened quiet funded =>
      exact quietly quiet (books.lasts_idle (.of_state rfl rfl rfl) (by simp)
        (idle (by simp [funded])))
  | requested quiet stage | activated quiet stage =>
      exact quietly quiet (books.lasts_idle (.of_state rfl rfl rfl) books.unfunded
        (idle (by simp [stage])))
  | began _ _ _ found _ paid fresh => exact books.begin found rfl paid fresh
  | committed quiet _ round | accepted quiet _ _ round =>
      refine quietly quiet (books.lasts rfl rfl rfl rfl ?_)
      intro _ again
      cases again
      exact ⟨_, round, rfl, rfl, rfl⟩
  | distrusted quiet =>
      exact quietly quiet (books.lasts rfl rfl rfl rfl fun _ round => ⟨_, round, rfl, rfl, rfl⟩)
  | promoted _ found round unrevoked _ given =>
      exact books.promote found round unrevoked (by rw [given])
  | repeated _ round given => exact books.again round given
  | finished quiet | mistaken quiet | aborted quiet =>
      exact quietly quiet (books.lasts_idle (.of_state rfl rfl rfl) books.unfunded rfl)
  | closed =>
      rw [Tally.note_forceClose]
      exact books.lasts_idle (.of_state rfl rfl rfl) (by simp) rfl
  | ended quiet closing past =>
      refine quietly quiet (books.lasts_idle (.of_state rfl rfl rfl) ?_
        (idle (by simp [closing])))
      rcases past with ⟨rfl, rfl⟩ | ⟨rfl, rfl⟩
      · simp
      · simp

-----------------------------------------------------------------------------------------
-- Accounts of a run
-----------------------------------------------------------------------------------------

/-- The salt that a customer draws for its nonces. -/
def drawnSalt (source : Entropy) : Bytes 8 := (((source.draw 32).2.draw 32).2.draw 8).1

section Opened

variable {params : ChannelParams} {merchantKeys : MerchantKeys}
  {customerBalance merchantBalance : Balance} {name : String} {source : Entropy}
  (initialized : (init params merchantKeys customerBalance merchantBalance name).outcome source
    = .ok start)

include initialized

/-- A customer that starts has no state yet, and the first nonce of its salt. -/
theorem stateless_of_init : start.state = none ∧ start.nonce = .first (drawnSalt source) := by
  obtain ⟨-, _, -, _, -, _, -, rfl⟩ := init_eq_ok.1 initialized
  exact ⟨rfl, rfl⟩

/-- A customer that starts has paid nothing. -/
theorem Books.opening : start.Books start .empty := by
  have starts : start.Starts := ⟨_, _, _, _, _, _, initialized⟩
  obtain ⟨stateless, first⟩ := stateless_of_init initialized
  refine {
    accounted := ⟨?_, ?_, rfl, ?_, ?_⟩
    unfunded := fun _ => stateless
    round := ?_ }
  · simp [Tally.paid, Tally.empty]
  · simp [Tally.paid, Tally.empty]
  · rw [first]
    exact Nonce.count_ofParts (by decide)
  · simp [Tally.nonces, Tally.empty]
  · intro pending round
    rw [starts.idle.2.1] at round
    cases round

/-- The books fit in every run, by induction on the run. -/
theorem Books.run (run : start.Run history customer) : start.Books customer (.of history) := by
  have starts : start.Starts := ⟨_, _, _, _, _, _, initialized⟩
  induction run with
  | start => exact .opening initialized
  | call run call books => exact books.step (run.idle starts) (Customer.step _ call)

/-- Whatever the merchant sends, the balances are the first ones with all committed payments made,
and the nonce counts these payments under the salt that was drawn at first, so the nonces of the
states grow. Nothing of it overflows: the calls that arithmetic may stop add values of outputs and
not balances.
-/
theorem balances_accounted (run : start.Run history customer)
    : start.Accounted customer (.of history) ∧ customer.nonce.salt = drawnSalt source
      ∧ customer.balance.toInt + customer.merchantBalance.toInt
        = start.balance.toInt + start.merchantBalance.toInt
      ∧ ∀ exchange ∈ history, exchange.outcome.Stopped → start.Exceeds exchange.call := by
  have accounted := (Books.run initialized run).accounted
  obtain ⟨-, first⟩ := stateless_of_init initialized
  refine ⟨accounted, ?_, ?_, run.exceeds ⟨_, _, _, _, _, _, initialized⟩⟩
  · rw [accounted.salt, first]
    exact Nonce.salt_ofParts _ _
  · have balance := accounted.balance
    have merchantBalance := accounted.merchantBalance
    omega

end Opened

-----------------------------------------------------------------------------------------
-- A payment whose revocation is repeated
-----------------------------------------------------------------------------------------

/-- The customer commits its payment and repeats the revocation. -/
theorem committedPatron_run
    : ∃ history customer, patron.Run history customer
      ∧ [⟨.revoke, .ok patronRevocation⟩, ⟨.revoke, .ok patronRevocation⟩] <+: history
      ∧ customer.state = some patronSecond := by
  obtain ⟨history, run, -⟩ := signedPatron_run
  have revoked : ∃ after, signedPatron.serve .revoke = (.ok patronRevocation, after)
      ∧ after.serve .revoke = (.ok patronRevocation, after) ∧ after.state = some patronSecond :=
    ⟨_, rfl, rfl, rfl⟩
  obtain ⟨after, revoked, again, current⟩ := revoked
  exact ⟨_, after, (run.answered _ revoked).answered _ again, List.prefix_append _ history, current⟩

/-- A revocation that is given twice commits a payment of 5 once. -/
theorem balances_accounted_patron
    : (init .default soleKeys 10000 10000 "patron").outcome (.ofBlocks fun _ => .ofNat 32 1)
        = .ok patron
      ∧ ∃ history customer, patron.Run history customer
      ∧ [⟨.revoke, .ok patronRevocation⟩, ⟨.revoke, .ok patronRevocation⟩] <+: history
      ∧ customer.balance = 9995 ∧ customer.merchantBalance = 10005
      ∧ (Tally.of history).paid = 5 ∧ (Tally.of history).committed.length = 1 := by
  obtain ⟨history, customer, run, revoked, current⟩ := committedPatron_run
  obtain ⟨accounted, -⟩ := balances_accounted init_patron run
  have balance : customer.balance = 9995 := balance_of_state current
  have first : patron.balance = 10000 := rfl
  have count : customer.nonce.count = 1 := by
    rw [nonce_of_state current]
    decide
  refine ⟨init_patron, history, customer, run, revoked, balance, merchantBalance_of_state current,
    ?_, ?_⟩
  · have paid := accounted.balance
    rw [balance, first] at paid
    have left : (9995 : Balance).toInt = 9995 := by decide
    have opening : (10000 : Balance).toInt = 10000 := by decide
    omega
  · rw [← accounted.count, count]

end Customer

end PaymentChannel
