import PaymentChannel.Proofs.Customer.ForceClose
import PaymentChannel.Proofs.Revocation
import PaymentChannel.Proofs.Script.LockingScript

/-! A customer never closes a channel with a lock that it revoked.
Every state of a channel has its own secret, drawn when its payment began. The secrets of a run are
used in the order in which they were drawn, and a revocation reveals the one that is left behind.
-/

namespace PaymentChannel

-----------------------------------------------------------------------------------------
-- Secrets and requests of a run
-----------------------------------------------------------------------------------------

namespace CustomerEvent

/-- The secret that was drawn. -/
def secret? : CustomerEvent → Option RevSecret
  | .began _ secret => some secret
  | _ => none

/-- The request that opened a payment. -/
def request? : CustomerEvent → Option PaymentRequest
  | .began request _ => some request
  | _ => none

end CustomerEvent

/-- The customer revoked the state of the request, with a secret that opens its lock. -/
structure RevokedState.Answers (revoked : RevokedState) (request : PaymentRequest) : Prop where
  verifies : revoked.verify = true
  nonce : revoked.nonce = request.nonce
  commitment : revoked.commitment = request.commitment

namespace Customer

/-- What became known in a run, the latest in front. -/
def eventsOf (history : List CustomerExchange) : List CustomerEvent :=
  history.filterMap (·.event?)

/-- The secrets of a run, the latest in front, down to the one that the customer started with. -/
def drawn (start : Customer) (events : List CustomerEvent) : List RevSecret :=
  events.filterMap (·.secret?) ++ [start.secret]

/-- The request of the payment that began last. -/
def latestRequest? (events : List CustomerEvent) : Option PaymentRequest :=
  events.findSome? (·.request?)

theorem eventsOf_cons (exchange : CustomerExchange) (history : List CustomerExchange)
    : eventsOf (exchange :: history) = exchange.event?.toList ++ eventsOf history := by
  rcases known : exchange.event? with - | event
  · simp [eventsOf, known]
  · simp [eventsOf, known]

/-- A closing transaction shows a lock: it publishes the lock, and the customer's funds are under
the script of the lock.
-/
structure Shows (customer : Customer) (signed : SignedTx) (lock : RevLock) : Prop where
  published : Publication.ofTransaction signed.tx = .ok ⟨lock, customer.closeKey⟩
  paid : ∃ output, signed.tx.outputs.head? = some output
    ∧ output.script = .payToScript (.toCustomer lock customer.merchantKeys.dispute
      customer.closeKey customer.params.selfDelay)

/-- The channel was closed. -/
def Over (customer : Customer) : Prop :=
  customer.stage ∈ [.closing, .closed, .disputed]

/-- A payment under way fits the request that opened it. -/
inductive RoundFits (events : List CustomerEvent) (customer : Customer) (pending : PendingRound)
    : Prop
  /-- The old state is the current one, and the commitment is to its lock. -/
  | unrevoked (state : ChannelState) (request : PaymentRequest)
    (current : customer.state = some state) (latest : latestRequest? events = some request)
    (unrevoked : pending.revoked = none) (lock : pending.new.lock = pending.newSecret.lock)
    (nonce : request.nonce = state.nonce)
    (commitment : pending.commitment = .commit state.lock pending.blinding)
    (sent : request.commitment = pending.commitment)
  /-- The old state was revoked. -/
  | revoked (revoked : RevokedState) (request : PaymentRequest)
    (latest : latestRequest? events = some request) (given : pending.revoked = some revoked)
    (known : .revoked revoked ∈ events) (answers : revoked.Answers request)

/-- The secrets are used in their order. The one of the current state comes after all that were
revealed, and the one of a payment under way comes after it.
-/
structure SecretsInOrder (drawn : List RevSecret) (events : List CustomerEvent)
    (customer : Customer) (newer older : List RevSecret)
    : Prop where
  order : drawn = newer ++ customer.secret :: older
  revealed : ∀ revoked, .revoked revoked ∈ events → ∃ secret ∈ older, revoked.lock = secret.lock
  next : ∀ pending, customer.pending = some pending → pending.revoked = none
    → pending.newSecret ∈ newer

/-- The secrets, the payment under way and the closes of a run fit together. -/
structure LocksFit (start : Customer) (events : List CustomerEvent) (customer : Customer) : Prop where
  lock : ∀ state, customer.state = some state → state.lock = customer.secret.lock
  secrets : ∃ newer older, SecretsInOrder (start.drawn events) events customer newer older
  round : ∀ pending, customer.pending = some pending → RoundFits events customer pending
  closed : ∀ signed, .closed signed ∈ events → customer.Over
    ∧ start.Shows signed customer.secret.lock

-----------------------------------------------------------------------------------------
-- What a step keeps
-----------------------------------------------------------------------------------------

variable {start customer after : Customer} {history : List CustomerExchange}
  {exchange : CustomerExchange} {events : List CustomerEvent}

/-- The same payment, whatever the merchant has given for it. -/
structure SameRound (before pending : PendingRound) : Prop where
  new : pending.new = before.new
  newSecret : pending.newSecret = before.newSecret
  blinding : pending.blinding = before.blinding
  commitment : pending.commitment = before.commitment
  revoked : pending.revoked = before.revoked

/-- A payment fits its request whatever the merchant gives for it. -/
theorem RoundFits.lasts {before pending : PendingRound} (fits : RoundFits events customer before)
    (same : SameRound before pending) (state : after.state = customer.state)
    : RoundFits events after pending := by
  obtain ⟨new, newSecret, blinding, commitment, revoked⟩ := same
  cases fits with
  | unrevoked old request current latest unrevoked lock nonce committed sent =>
      refine .unrevoked old request (state.trans current) latest (revoked.trans unrevoked) ?_ nonce
        ?_ (sent.trans commitment.symm)
      · rw [new, newSecret]
        exact lock
      · rw [commitment, blinding]
        exact committed
  | revoked given request latest same known answers =>
      exact .revoked given request latest (revoked.trans same) known answers

/-- Everything fits as long as the state and its secret stay and no payment is added. -/
theorem LocksFit.lasts (fits : LocksFit start events customer)
    (secret : after.secret = customer.secret) (state : after.state = customer.state)
    (kept : ∀ pending, after.pending = some pending
      → ∃ before, customer.pending = some before ∧ SameRound before pending)
    (stays : customer.Over → after.Over)
    : LocksFit start events after := by
  obtain ⟨newer, older, order, revealed, next⟩ := fits.secrets
  refine {
    lock := ?_
    secrets := ⟨newer, older, ?_, revealed, ?_⟩
    round := ?_
    closed := ?_ }
  · rw [state, secret]
    exact fits.lock
  · rw [secret]
    exact order
  · intro pending round unrevoked
    obtain ⟨before, was, same⟩ := kept pending round
    rw [same.newSecret]
    exact next before was (same.revoked.symm.trans unrevoked)
  · intro pending round
    obtain ⟨before, was, same⟩ := kept pending round
    exact (fits.round before was).lasts same state
  · intro signed known
    obtain ⟨past, shows⟩ := fits.closed signed known
    rw [secret]
    exact ⟨stays past, shows⟩

theorem LocksFit.lasts_same (fits : LocksFit start events customer)
    (secret : after.secret = customer.secret) (state : after.state = customer.state)
    (pending : after.pending = customer.pending) (stage : after.stage = customer.stage)
    : LocksFit start events after := by
  refine fits.lasts secret state (fun round under => ?_) fun stays => ?_
  · exact ⟨round, pending.symm.trans under, ⟨rfl, rfl, rfl, rfl, rfl⟩⟩
  · rw [Over, stage]
    exact stays

/-- Without a payment under way the stage may change, as long as it does not go back. -/
theorem LocksFit.lasts_idle (fits : LocksFit start events customer)
    (secret : after.secret = customer.secret) (state : after.state = customer.state)
    (none : after.pending = none) (stays : customer.Over → after.Over)
    : LocksFit start events after := by
  refine fits.lasts secret state (fun round under => ?_) stays
  rw [none] at under
  cases under

/-- The first state has the lock of the first secret. -/
theorem LocksFit.fund (fits : LocksFit start events customer) {channel : FundedChannel}
    {request : OpenRequest} {status : ChannelStatus}
    (lock : channel.state.lock = customer.secret.lock) (none : customer.pending = none)
    : LocksFit start (.funded request :: events)
        { customer with channel := some channel, status } := by
  obtain ⟨newer, older, order, revealed, next⟩ := fits.secrets
  refine {
    lock := ?_
    secrets := ⟨newer, older, order, ?_, next⟩
    round := ?_
    closed := ?_ }
  · intro _ found
    cases found
    exact lock
  · intro revoked known
    obtain ⟨⟩ | ⟨_, known⟩ := known
    exact revealed revoked known
  · intro pending round
    exact absurd round (by simp [none])
  · intro signed known
    obtain ⟨⟩ | ⟨_, known⟩ := known
    exact fits.closed signed known

/-- A revocation that is given again adds nothing. -/
theorem LocksFit.again (fits : LocksFit start events customer) {revoked : RevokedState}
    (known : .revoked revoked ∈ events)
    : LocksFit start (.revoked revoked :: events) customer := by
  obtain ⟨newer, older, order, revealed, next⟩ := fits.secrets
  refine {
    lock := fits.lock
    secrets := ⟨newer, older, order, ?_, next⟩
    round := ?_
    closed := ?_ }
  · intro other member
    obtain ⟨⟩ | ⟨_, member⟩ := member
    · exact revealed revoked known
    · exact revealed other member
  · intro pending round
    cases fits.round pending round with
    | unrevoked state request current latest unrevoked lock nonce commitment sent =>
        exact .unrevoked state request current latest unrevoked lock nonce commitment sent
    | revoked given request latest same member answers =>
        exact .revoked given request latest same (List.mem_cons_of_mem _ member) answers
  · intro signed member
    obtain ⟨⟩ | ⟨_, member⟩ := member
    exact fits.closed signed member

/-- A payment begins with a secret that comes after all others. -/
theorem LocksFit.begin (fits : LocksFit start events customer) {channel : FundedChannel}
    {request : PaymentRequest} {pending : PendingRound} {secret : RevSecret}
    (found : customer.channel = some channel) (nonce : request.nonce = channel.state.nonce)
    (sent : request.commitment = pending.commitment)
    (commitment : pending.commitment = .commit channel.state.lock pending.blinding)
    (lock : pending.new.lock = pending.newSecret.lock) (drawn : pending.newSecret = secret)
    (unrevoked : pending.revoked = none)
    : LocksFit start (.began request secret :: events)
        { customer with pending := some pending } := by
  subst drawn
  obtain ⟨newer, older, order, revealed, next⟩ := fits.secrets
  have current : customer.state = some channel.state := by
    rw [state, found]
    rfl
  refine {
    lock := fits.lock
    secrets := ⟨pending.newSecret :: newer, older, ?_, ?_, ?_⟩
    round := ?_
    closed := ?_ }
  · exact congrArg (pending.newSecret :: ·) order
  · intro revoked known
    obtain ⟨⟩ | ⟨_, known⟩ := known
    exact revealed revoked known
  · intro _ round _
    cases round
    exact List.mem_cons_self
  · intro _ round
    cases round
    exact .unrevoked _ _ current rfl unrevoked lock nonce commitment sent
  · intro signed known
    obtain ⟨⟩ | ⟨_, known⟩ := known
    exact fits.closed signed known

/-- A revocation reveals the secret of the current state, and the next secret takes its place. -/
theorem LocksFit.promote (fits : LocksFit start events customer) {channel : FundedChannel}
    {pending : PendingRound} {revoked : RevokedState} (signatures : CloseSignatures)
    (ready : customer.stage = .ready) (found : customer.channel = some channel)
    (round : customer.pending = some pending) (unrevoked : pending.revoked = none)
    (given : revoked = {
      nonce := channel.state.nonce
      commitment := pending.commitment
      lock := channel.state.lock
      secret := customer.secret
      blinding := pending.blinding })
    : LocksFit start (.revoked revoked :: events)
        { customer with
          channel := some { channel with state := pending.new, signatures := some signatures }
          secret := pending.newSecret
          payToken := none
          pending := some { pending with revoked := some revoked } } := by
  obtain ⟨newer, older, order, revealed, next⟩ := fits.secrets
  have current : customer.state = some channel.state := by
    rw [state, found]
    rfl
  have opens : channel.state.lock = customer.secret.lock := fits.lock _ current
  -- The next secret is one of those drawn later, so the current one joins the older ones.
  obtain ⟨latest, between, rfl⟩ := List.append_of_mem (next pending round unrevoked)
  cases fits.round pending round with
  | revoked _ _ _ already =>
      rw [unrevoked] at already
      cases already
  | unrevoked state request now last _ lock nonce commitment sent =>
      obtain rfl : state = channel.state := Option.some.inj (now.symm.trans current)
      have answers : revoked.Answers request := by
        subst given
        refine ⟨RevokedState.verify_eq_true.2 ⟨opens.symm, commitment.symm⟩, nonce.symm, sent.symm⟩
      refine {
        lock := ?_
        secrets := ⟨latest, between ++ customer.secret :: older, ?_, ?_, ?_⟩
        round := ?_
        closed := ?_ }
      · intro state promoted
        cases promoted
        exact lock
      · change start.drawn events = _
        rw [order]
        simp only [List.append_assoc, List.cons_append]
      · intro other known
        obtain ⟨⟩ | ⟨_, known⟩ := known
        · refine ⟨customer.secret, by simp, ?_⟩
          rw [given]
          exact opens
        · obtain ⟨secret, member, same⟩ := revealed other known
          exact ⟨secret, by simp [member], same⟩
      · intro _ again unrevoked
        cases again
        cases unrevoked
      · intro _ again
        cases again
        exact .revoked revoked request last rfl List.mem_cons_self answers
      · intro signed known
        obtain ⟨⟩ | ⟨_, known⟩ := known
        -- A customer that is ready has signed no close transaction before.
        obtain ⟨past, -⟩ := fits.closed signed known
        rw [Over, ready] at past
        simp at past

/-- The transaction that closes a channel shows the lock of its state. -/
theorem shows_of_customerCloseTx {channel : FundedChannel} {source : CloseSource}
    {close : SignableTx} (merchant own : Signature) (party : start.SameParty customer)
    (funded : customer.FundedBy channel)
    (formed : channel.token.customerCloseTx source channel.state customer.closeKey customer.params
      = .ok close)
    : start.Shows (close.finalizeMultisig merchant own) channel.state.lock := by
  obtain ⟨balances, -, template⟩ := ChannelToken.customerCloseTx_eq_ok.1 formed
  refine ⟨?_, ?_⟩
  · rw [← party.closeKey]
    exact ofTransaction_of_customerCloseTx template _
  · obtain ⟨-, _, -, _, -, -, -, -, rfl⟩ := customerCloseTx_eq_ok.1 template
    refine ⟨_, rfl, ?_⟩
    rw [← party.closeKey, ← party.merchantKeys, ← party.params, funded.token]
    rfl

/-- A close shows the lock of the current state and leaves no payment behind. -/
theorem LocksFit.close (fits : LocksFit start events customer) {signed : SignedTx}
    (shows : start.Shows signed customer.secret.lock)
    : LocksFit start (.closed signed :: events)
        { customer with pending := none, stage := .closing, status := .customerClosing } := by
  obtain ⟨newer, older, order, revealed, -⟩ := fits.secrets
  refine {
    lock := fits.lock
    secrets := ⟨newer, older, order, ?_, ?_⟩
    round := ?_
    closed := ?_ }
  · intro revoked known
    obtain ⟨⟩ | ⟨_, known⟩ := known
    exact revealed revoked known
  · intro _ round
    cases round
  · intro _ round
    cases round
  · intro other known
    refine ⟨by simp [Over], ?_⟩
    obtain ⟨⟩ | ⟨_, known⟩ := known
    · exact shows
    · exact (fits.closed other known).2

/-- Every step keeps what fits. -/
theorem LocksFit.step (fits : LocksFit start events customer) (party : start.SameParty customer)
    (funded : ∀ channel, customer.channel = some channel → customer.FundedBy channel)
    (idle : customer.stage ≠ .ready → customer.pending = none)
    (step : CustomerStep customer exchange after)
    : LocksFit start (exchange.event?.toList ++ events) after := by
  -- Most steps leave no event, so that only what the customer keeps has to be compared.
  have quietly : exchange.event? = none → LocksFit start events after
      → LocksFit start (exchange.event?.toList ++ events) after := by
    intro quiet fits
    rw [quiet]
    exact fits
  cases step with
  | silent quiet => exact quietly quiet fits
  | funded initialized _ _ _ => exact fits.fund rfl (idle (by simp [initialized]))
  | stored quiet initialized found _ =>
      refine quietly quiet (fits.lasts_idle rfl ?_ (idle (by simp [initialized])) ?_)
      · simp [state, found]
      · simp [Over, initialized]
  | opened quiet _ _ => exact quietly quiet (fits.lasts_same rfl rfl rfl rfl)
  | requested quiet funded _ =>
      refine quietly quiet (fits.lasts_idle rfl rfl (idle (by simp [funded])) ?_)
      simp [Over, funded]
  | activated quiet activated =>
      refine quietly quiet (fits.lasts_idle rfl rfl (idle (by simp [activated])) ?_)
      simp [Over, activated]
  | began _ _ _ found _ paid _ =>
      obtain ⟨_, -, _, -, rfl⟩ := ChannelState.pay_eq_ok.1 paid
      exact fits.begin found rfl rfl rfl rfl rfl rfl
  | committed quiet _ round _ | accepted quiet _ _ round _ _ =>
      refine quietly quiet (fits.lasts rfl rfl ?_ id)
      intro _ again
      cases again
      exact ⟨_, round, ⟨rfl, rfl, rfl, rfl, rfl⟩⟩
  | distrusted quiet _ => exact quietly quiet (fits.lasts_same rfl rfl rfl rfl)
  | promoted ready found round unrevoked _ given =>
      exact fits.promote _ ready found round unrevoked given
  | repeated ready round given =>
      refine fits.again ?_
      cases fits.round _ round with
      | unrevoked _ _ _ _ unrevoked =>
          rw [given] at unrevoked
          cases unrevoked
      | revoked _ _ _ same known =>
          rw [given] at same
          cases same
          exact known
  | finished quiet | mistaken quiet | aborted quiet =>
      exact quietly quiet (fits.lasts_idle rfl rfl rfl id)
  | @closed source channel signatures close _ found _ formed =>
      have current : customer.state = some channel.state := by simp [state, found]
      have shows := shows_of_customerCloseTx (signatures.of source)
        (close.sign customer.escrowSecret) party (funded channel found) formed
      rw [fits.lock _ current] at shows
      exact fits.close shows
  | ended quiet closing past =>
      refine quietly quiet (fits.lasts_idle rfl rfl (idle (by simp [closing])) ?_)
      rcases past with ⟨rfl, rfl⟩ | ⟨rfl, rfl⟩
      · simp [Over]
      · simp [Over]

/-- A customer that starts has one secret and has given nothing to anyone. -/
theorem LocksFit.starts (starts : start.Starts) : LocksFit start [] start := by
  obtain ⟨channel, pending, -, -⟩ := starts.idle
  refine {
    lock := ?_
    secrets := ⟨[], [], rfl, ?_, ?_⟩
    round := ?_
    closed := ?_ }
  · simp [state, channel]
  · simp
  · simp [pending]
  · simp [pending]
  · simp

/-- Everything fits in every run, by induction on the run. -/
theorem LocksFit.run (starts : start.Starts) (run : start.Run history customer)
    : LocksFit start (eventsOf history) customer := by
  induction run with
  | start => exact .starts starts
  | call run call fits =>
      rw [eventsOf_cons]
      exact fits.step run.sameParty (run.fundedBy starts) (run.idle starts) (Customer.step _ call)

-----------------------------------------------------------------------------------------
-- Revocations and closes of a run
-----------------------------------------------------------------------------------------

/-- Every exchange of a run was made at the end of a shorter run, by induction on the run. -/
theorem Run.before {earlier : List CustomerExchange} (run : start.Run history customer)
    (made : exchange :: earlier <:+ history)
    : ∃ before, start.Run earlier before ∧ before.exchange exchange.call = exchange := by
  induction run with
  | start => simp at made
  | call run call before =>
      rcases List.suffix_cons_iff.1 made with same | made
      · cases same
        exact ⟨_, run, rfl⟩
      · exact before made

/-- A customer never closes its channel with a lock that it revokes before or after, as long as the
secrets that it drew have different locks. What it revokes is the state of the payment that began
last, by the secret that opens the lock of that state.
-/
theorem revoked_locks_stay_off_chain (starts : start.Starts) (run : start.Run history customer)
    (distinct : ((start.drawn (eventsOf history)).map (·.lock)).Nodup)
    : (∀ source signed revoked, ⟨.forceClose source, .ok signed⟩ ∈ history
        → ⟨.revoke, .ok revoked⟩ ∈ history
        → ∃ lock, start.Shows signed lock ∧ lock ≠ revoked.lock
          ∧ ∀ dispute close delay,
            Script.toCustomer lock start.merchantKeys.dispute start.closeKey start.params.selfDelay
              ≠ .toCustomer revoked.lock dispute close delay)
      ∧ ∀ revoked earlier, ⟨.revoke, .ok revoked⟩ :: earlier <:+ history
        → ∃ request, latestRequest? (eventsOf earlier) = some request ∧ revoked.Answers request := by
  have fits := LocksFit.run starts run
  constructor
  · intro source signed revoked closed gave
    obtain ⟨-, shows⟩ := fits.closed signed (List.mem_filterMap.2 ⟨_, closed, rfl⟩)
    obtain ⟨newer, older, order, revealed, -⟩ := fits.secrets
    obtain ⟨secret, member, same⟩ := revealed revoked (List.mem_filterMap.2 ⟨_, gave, rfl⟩)
    rw [order, List.map_append, List.map_cons] at distinct
    have apart := (List.nodup_cons.1 (List.nodup_append.1 distinct).2.1).1
    have ne : customer.secret.lock ≠ revoked.lock := by
      intro equal
      rw [equal, same] at apart
      exact apart (List.mem_map_of_mem member)
    exact ⟨_, shows, ne, fun _ _ _ script => ne (Script.lock_eq_of_toCustomer script)⟩
  · intro revoked earlier made
    obtain ⟨before, reached, gave⟩ := run.before made
    have fits := LocksFit.run starts reached
    have step := before.step .revoke
    rw [gave] at step
    generalize before.after .revoke = after at step
    cases step with
    | @promoted _ _ signatures _ _ ready found round unrevoked _ given =>
        cases (fits.promote signatures ready found round unrevoked given).round _ rfl with
        | unrevoked _ _ _ _ unrevoked => cases unrevoked
        | revoked _ request latest same _ answers =>
            cases same
            exact ⟨request, latest, answers⟩
    | repeated _ round given =>
        cases fits.round _ round with
        | unrevoked _ _ _ _ unrevoked =>
            rw [given] at unrevoked
            cases unrevoked
        | revoked _ request latest same _ answers =>
            rw [given] at same
            cases same
            exact ⟨request, latest, answers⟩
    | silent quiet | stored quiet | opened quiet | requested quiet | activated quiet
    | committed quiet | accepted quiet | distrusted quiet | finished quiet | mistaken quiet
    | aborted quiet | ended quiet => cases quiet

-----------------------------------------------------------------------------------------
-- A payment and a close
-----------------------------------------------------------------------------------------

section Example

-- Unification would compute keys and hashes where comparing their arguments is enough.
attribute [local irreducible] SecretKey.publicKey SignableTx.txid SignableTx.sign
  SignableTx.verifies sha256 hmacSha256

/-- The customer with the pay token of its first state. -/
def readyPatron : Customer :=
  { fundedPatron with
    payToken := some (.compute ⟨.ofNat 32 1⟩ patronChannel.state)
    stage := .ready
    status := .confirmed }

theorem readyPatron_run
    : ∃ history, patron.Run history readyPatron
      ∧ patron.drawn (eventsOf history) = [patron.secret] := by
  have marked : fundedPatron.serve .markOpen
      = (.ok (), { fundedPatron with status := .confirmed }) := rfl
  have asked : serve { fundedPatron with status := .confirmed } .requestActivation
      = (.ok patronChannel.state, { fundedPatron with status := .confirmed, stage := .activated }) :=
    rfl
  have finished : serve { fundedPatron with status := .confirmed, stage := .activated }
      (.finishActivation (.compute ⟨.ofNat 32 1⟩ patronChannel.state)) = (.ok (), readyPatron) := rfl
  exact ⟨_, ((fundedPatron_run.answered _ marked).answered _ asked).answered _ finished, rfl⟩

/-- The source of a payment, whose secret is not that of the first state. -/
def patronEntropy : Entropy := .ofBlocks fun _ => .ofNat 32 2

/-- The state after a payment of 5. -/
def patronSecond : ChannelState :=
  { patronChannel.state with
    nonce := patronChannel.state.nonce.next
    lock := (drawnSecret patronEntropy).lock
    customerBalance := 9995
    merchantBalance := 10005 }

/-- The merchant's signatures of that state. -/
def secondSignatures : CloseSignatures :=
  ⟨(patronClose patronSecond 7995 .escrow (20000, 10005)).sign soleKey,
    (patronClose patronSecond 7995 .merchantClose (18000, 8005)).sign soleKey⟩

def patronRequest : PaymentRequest where
  session := drawnSession patronEntropy
  nonce := patronChannel.state.nonce
  commitment := .commit patronChannel.state.lock (drawnBlinding patronEntropy)
  amount := 5
  justification := none

/-- The payment as it begins. -/
def patronRound : PendingRound where
  session := drawnSession patronEntropy
  amount := 5
  new := patronSecond
  newSecret := drawnSecret patronEntropy
  blinding := drawnBlinding patronEntropy
  commitment := .commit patronChannel.state.lock (drawnBlinding patronEntropy)
  maskCommitment := none
  unmasked := none
  revoked := none

theorem preparePayment_readyPatron
    : (readyPatron.preparePayment 5 none).outcome patronEntropy
      = .ok (patronRequest, { readyPatron with pending := some patronRound }) := by
  have fresh : patronSecond.nonce ≠ patronChannel.state.nonce := by decide
  refine preparePayment_eq_ok.2 ⟨patronChannel.state, ?_, patronSecond, rfl, fresh, rfl, rfl⟩
  exact checkPayment_eq_ok.2 ⟨rfl, rfl, rfl, nofun, _, rfl, rfl, rfl⟩

/-- The payment that waits for its signatures. -/
def awaitingRound : PendingRound := { patronRound with maskCommitment := some ⟨.ofNat 32 6⟩ }

/-- The customer that waits for them. -/
def awaitingPatron : Customer := { readyPatron with pending := some awaitingRound }

theorem awaitingPatron_run
    : ∃ history, patron.Run history awaitingPatron
      ∧ patron.drawn (eventsOf history) = [drawnSecret patronEntropy, patron.secret] := by
  obtain ⟨history, run, drawn⟩ := readyPatron_run
  have asked := run.kept (.preparePayment 5 none patronEntropy) rfl preparePayment_readyPatron
  have handed : ∃ input, serve { readyPatron with pending := some patronRound }
      (.maskingInput ⟨patronRound.session, ⟨.ofNat 32 6⟩⟩) = (.ok input, awaitingPatron) := ⟨_, rfl⟩
  obtain ⟨input, handed⟩ := handed
  exact ⟨_, asked.answered _ handed, congrArg (drawnSecret patronEntropy :: ·) drawn⟩

theorem awaitingPatron_awaits (masks : TxMasks)
    : awaitingPatron.roundAwaitingSignatures ⟨patronRound.session, masks⟩
      = .ok ({ patronChannel with signatures := some patronSignatures }, awaitingRound) :=
  roundAwaitingSignatures_eq_ok.2 ⟨rfl, rfl, rfl, rfl, nofun, rfl⟩

/-- The masks and the masked outputs that the merchant sends. -/
def patronMasks : TxMasks := ⟨⟨.ofNat 32 3⟩, ⟨.ofNat 32 4⟩⟩

def patronOutputs : MaskedOutputs where
  escrow := .mask secondSignatures.escrow patronMasks.escrow
  merchantClose := .mask secondSignatures.merchantClose patronMasks.merchantClose
  payToken := ⟨.ofNat 32 5⟩

/-- The customer that has the signatures. -/
def signedPatron : Customer :=
  { readyPatron with
    pending := some { awaitingRound with
      unmasked := some (secondSignatures, ⟨.ofNat 32 5⟩) } }

theorem signedPatron_run
    : ∃ history, patron.Run history signedPatron
      ∧ patron.drawn (eventsOf history) = [drawnSecret patronEntropy, patron.secret] := by
  obtain ⟨history, run, drawn⟩ := awaitingPatron_run
  have escrow : patronToken.customerCloseTx .escrow patronSecond patron.closeKey .default
      = .ok (patronClose patronSecond 7995 .escrow (20000, 10005)) := rfl
  have merchantClose : patronToken.customerCloseTx .merchantClose patronSecond patron.closeKey
      .default
      = .ok (patronClose patronSecond 7995 .merchantClose (18000, 8005)) := rfl
  have unmasked : unmaskSignatures patronOutputs patronMasks = .ok secondSignatures :=
    unmaskSignatures_mask secondSignatures patronMasks _
  have accepted := acceptSignatures_of (awaitingPatron_awaits patronMasks) unmasked
    (verifySignatures_of_sign rfl escrow merchantClose)
  exact ⟨_, run.answered (.acceptSignatures patronOutputs ⟨patronRound.session, patronMasks⟩)
    accepted, drawn⟩

/-- The revocation of the first state. -/
def patronRevocation : RevokedState where
  nonce := patronChannel.state.nonce
  commitment := patronRound.commitment
  lock := patronChannel.state.lock
  secret := patron.secret
  blinding := patronRound.blinding

theorem revokedPatron_run
    : ∃ history customer signed,
      patron.Run (⟨.forceClose .escrow, .ok signed⟩ :: ⟨.revoke, .ok patronRevocation⟩ :: history)
        customer
      ∧ patron.drawn (eventsOf history) = [drawnSecret patronEntropy, patron.secret] := by
  obtain ⟨history, run, drawn⟩ := signedPatron_run
  have revoked : ∃ after, signedPatron.serve .revoke = (.ok patronRevocation, after)
      ∧ ∃ final, after.serve (.forceClose .escrow)
        = (.ok ((patronClose patronSecond 7995 .escrow (20000, 10005)).finalizeMultisig
          (secondSignatures.of .escrow)
          ((patronClose patronSecond 7995 .escrow (20000, 10005)).sign soleKey)), final) :=
    ⟨_, rfl, _, rfl⟩
  obtain ⟨after, revoked, final, closed⟩ := revoked
  exact ⟨history, final, _, (run.answered _ revoked).answered _ closed, drawn⟩

/-- A channel that is closed after a payment shows the lock of the new state and not the revoked one.
-/
theorem revoked_locks_stay_off_chain_patron
    : patron.Starts ∧ ∃ history customer, patron.Run history customer
      ∧ ((patron.drawn (eventsOf history)).map (·.lock)).Nodup
      ∧ ∃ signed, ⟨.forceClose .escrow, .ok signed⟩ ∈ history
        ∧ ⟨.revoke, .ok patronRevocation⟩ ∈ history
        ∧ ∃ lock, patron.Shows signed lock ∧ lock ≠ patronRevocation.lock := by
  obtain ⟨history, customer, signed, run, drawn⟩ := revokedPatron_run
  have distinct : ((patron.drawn (eventsOf
      (⟨.forceClose .escrow, .ok signed⟩ :: ⟨.revoke, .ok patronRevocation⟩ :: history))).map
      (·.lock)).Nodup := by
    change ((patron.drawn (eventsOf history)).map (·.lock)).Nodup
    rw [drawn]
    decide +kernel
  refine ⟨patron_starts, _, customer, run, distinct, signed, List.mem_cons_self,
    List.mem_cons_of_mem _ List.mem_cons_self, ?_⟩
  obtain ⟨apart, -⟩ := revoked_locks_stay_off_chain patron_starts run distinct
  obtain ⟨lock, shows, ne, -⟩ := apart .escrow signed patronRevocation List.mem_cons_self
    (List.mem_cons_of_mem _ List.mem_cons_self)
  exact ⟨lock, shows, ne⟩

end Example

end Customer

end PaymentChannel
