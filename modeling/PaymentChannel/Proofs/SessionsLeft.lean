import PaymentChannel.Proofs.Endings

/-! What a payment leaves of the sessions of the merchant, its own and those of others.
The merchant is told to drop a session by its identifier alone. So a payment that draws the
identifier of another one drops it, although it never had a session. And once the masks are released
nobody tells the merchant any more that the customer gave the payment up.
-/

namespace PaymentChannel

open Customer Merchant

-----------------------------------------------------------------------------------------
-- Sessions of others
-----------------------------------------------------------------------------------------

/-- A session can still be dropped: none of its masks was released. -/
def Session.Droppable (session : Session) : Prop :=
  session.status = .prepared ∨ session.status = .updating

namespace Merchant

variable {merchant : Merchant} {id other : SessionId} {session : Session}

/-- A session is under way, and its nonce is in use for it. -/
structure UnderWay (merchant : Merchant) (id : SessionId) (session : Session) : Prop where
  found : merchant.sessions.get? id = some session
  indexed : merchant.liveNonces.get? session.nonce = some id

/-- Nothing of a session is left, so its identifier and its nonce are free. -/
structure Forgets (merchant : Merchant) (id : SessionId) (session : Session) : Prop where
  gone : merchant.sessions.get? id = none
  unlived : merchant.liveNonces.get? session.nonce = none

/-- Another payment whose masks are released leaves a session alone. -/
theorem UnderWay.masked {request : PaymentRequest} (live : merchant.UnderWay id session)
    (unused : merchant.checkPayment request = .ok ()) (rest : Entropy)
    : (merchant.masked request rest).UnderWay id session := by
  obtain ⟨-, unlived, free⟩ := free_of_checkPayment unused
  obtain ⟨found, indexed⟩ := live
  have elsewhere : id ≠ request.session := Dict.ne_of_get?_eq_none free found
  have apart : session.nonce ≠ request.nonce := by
    intro same
    rw [same, unlived] at indexed
    cases indexed
  exact ⟨(Dict.get?_insert_of_ne elsewhere).trans found,
    (Dict.get?_insert_of_ne apart).trans indexed⟩

/-- A session stays when another one is closed. -/
theorem UnderWay.closeSession (live : merchant.UnderWay id session) (index : merchant.SessionIndex)
    (elsewhere : id ≠ other) {closed : Session} (known : merchant.sessions.get? other = some closed)
    : (merchant.closeSession other).UnderWay id session := by
  obtain ⟨found, indexed⟩ := live
  have apart : session.nonce ≠ closed.nonce :=
    fun same => elsewhere (index.id_unique known found same)
  rw [closeSession_of_get? known]
  exact ⟨(Dict.get?_erase_of_ne elsewhere).trans found, (Dict.get?_erase_of_ne apart).trans indexed⟩

/-- A merchant that is told to drop another session, or one that cannot be dropped any more, keeps
a session.
-/
theorem UnderWay.failSession (live : merchant.UnderWay id session) (index : merchant.SessionIndex)
    (spared : id = other → ¬session.Droppable)
    : (Parties.afterwards merchant (merchant.failSession other)).2.UnderWay id session := by
  rcases fails : merchant.failSession other with failure | ⟨⟨⟩, after⟩
  · exact live
  · obtain ⟨closed, known, droppable, rfl⟩ := failSession_eq_ok.1 fails
    refine live.closeSession index ?_ known
    rintro rfl
    cases live.found.symm.trans known
    exact spared rfl droppable

/-- A merchant that is told to drop a session forgets it, as long as it can be dropped. -/
theorem UnderWay.forgets (live : merchant.UnderWay id session) (droppable : session.Droppable)
    : (Parties.afterwards merchant (merchant.failSession id)).2.Forgets id session := by
  have fails : merchant.failSession id = .ok ((), merchant.closeSession id) :=
    failSession_eq_ok.2 ⟨session, live.found, droppable, rfl⟩
  rw [fails, closeSession_of_get? live.found]
  exact ⟨Dict.get?_erase_self _ _, Dict.get?_erase_self _ _⟩

end Merchant

/-- A customer begins a payment under the identifier of a session that can still be dropped. -/
structure Customer.Collides (customer : Customer) (amount : Balance)
    (justification : Option String) (source : Entropy) (id : SessionId) (session : Session)
    : Prop where
  begins : ∃ request begun,
    (customer.preparePayment amount justification).outcome source = .ok (request, begun)
  drawn : id = drawnSession source
  droppable : session.Droppable

namespace Parties.Ends

variable {before : Parties} {client : ServiceClient} {amount : Balance}
  {justification : Option String} {source : Entropy}
  {ended : Outcome ChannelError Receipt × Parties} {id : SessionId} {session : Session}

/-- A payment that does not collide with a session leaves it alone, however it ends. -/
theorem spares (ends : before.Ends client amount justification source ended)
    (index : before.merchant.SessionIndex) (live : before.merchant.UnderWay id session)
    (apart : ¬before.customer.Collides amount justification source id session)
    : ended.2.merchant.UnderWay id session := by
  cases ends with
  | unprepared | unmasked => exact live
  | unopened begins _ =>
      exact live.failSession index fun drawn droppable => apart ⟨⟨_, _, begins⟩, drawn, droppable⟩
  | unsigned round fits | overflowed round fits => exact live.masked fits.unused round.rest
  | unrecorded round signs => exact live.masked signs.unused round.rest
  | disproved | completed => exact ⟨live.found, live.indexed⟩

/-- A payment that collides with a session does not begin, so it ends in one way only. -/
theorem forgets (ends : before.Ends client amount justification source ended)
    (live : before.merchant.UnderWay id session)
    (collides : before.customer.Collides amount justification source id session)
    : (∃ reason, ended.1 = .refuse reason) ∧ ended.2.merchant.Forgets id session := by
  obtain ⟨⟨_, _, begins⟩, rfl, droppable⟩ := collides
  have taken : ∀ round : BegunRound amount justification source,
      ¬round.Fits before.customer before.merchant := by
    intro round fits
    cases live.found.symm.trans fits.free
  cases ends with
  | unprepared refused => cases begins.symm.trans refused
  | unopened => exact ⟨⟨_, rfl⟩, live.forgets droppable⟩
  | unmasked round fits | unsigned round fits | overflowed round fits => cases taken round fits
  | disproved round signs | unrecorded round signs | completed round signs =>
      cases taken round.toBegunRound signs.toFits

end Parties.Ends

/-- A payment leaves a session that is under way alone, with its nonce, its masks and its status,
exactly if it does not begin under the identifier of a session that can still be dropped. If it
does, the payment is refused, and when it is dropped the session is.
-/
theorem payment_spares_session_iff {params : ChannelParams} {policy : RefundPolicy}
    {seed : Entropy} {start shop : Shop} (opens : start.Opens params policy seed)
    {history : List MerchantExchange} (run : start.Run history shop) {id : SessionId}
    {session : Session} (found : shop.merchant.sessions.get? id = some session)
    (customer : Customer) (client : ServiceClient) (amount : Balance)
    (justification : Option String) (source : Entropy)
    : let ended := (Parties.pay ⟨customer, shop.merchant, shop.ledger⟩ client amount justification
        source).1
      (ended.2.merchant.UnderWay id session
          ↔ ¬customer.Collides amount justification source id session)
        ∧ (customer.Collides amount justification source id session
          → (∃ reason, ended.1 = .refuse reason) ∧ ended.2.merchant.Forgets id session) := by
  obtain ⟨_, records⟩ := PaymentRecords.run opens run
  have index := records.index
  have live : shop.merchant.UnderWay id session := ⟨found, index.indexed id session found⟩
  have ends := Parties.ends ⟨customer, shop.merchant, shop.ledger⟩ client amount justification
    source
  refine ⟨⟨fun stays collides => ?_, ends.spares index live⟩, ends.forgets live⟩
  obtain ⟨-, gone, -⟩ := ends.forgets live collides
  cases stays.found.symm.trans gone

section Example

-- Unification would compute keys and hashes where comparing their arguments is enough.
attribute [local irreducible] SecretKey.publicKey SignableTx.txid SignableTx.sign
  SignableTx.verifies sha256 hmacSha256

/-- What another customer asks the merchant under an identifier of its choice. -/
def neighbourRequest (id : SessionId) : PaymentRequest where
  session := id
  nonce := .first (.ofNat 8 3)
  commitment := steadyRevocation.commitment
  amount := 5
  justification := none

def neighbourSession (id : SessionId) : Session := begunSession (neighbourRequest id) steadySource

/-- The shop with the payment of another customer under way. -/
def neighbourShop (id : SessionId) : Shop :=
  { steadyShop with merchant := steadyShop.merchant.withSession id (neighbourSession id) }

theorem neighbourShop_run (id : SessionId)
    : ∃ history, steadyShop.Run history (neighbourShop id) := by
  have begins : (steadyShop.merchant.preparePayment (neighbourRequest id)).outcome steadySource
      = .ok (_, (neighbourShop id).merchant) :=
    Merchant.preparePayment_eq_ok.2
      ⟨Merchant.checkPayment_eq_ok.2 ⟨⟨rfl, rfl⟩, rfl, rfl⟩, rfl, rfl⟩
  exact ⟨_, Shop.Run.start.kept (.preparePayment (neighbourRequest id) steadySource) rfl begins⟩

theorem neighbourShop_found (id : SessionId)
    : (neighbourShop id).merchant.sessions.get? id = some (neighbourSession id) :=
  Dict.get?_insert_self _ _ _

/-- A payment under another identifier leaves the session of the other customer alone. -/
theorem payment_spares_session_neighbour
    : let id : SessionId := ⟨.ofNat 16 7⟩
      steadyShop.Opens .default .reject steadySource
        ∧ (∃ history, steadyShop.Run history (neighbourShop id))
        ∧ (Parties.pay ⟨readyPatron, (neighbourShop id).merchant, (neighbourShop id).ledger⟩
            (.direct 0) 5 none patronEntropy).1.2.merchant.UnderWay id (neighbourSession id) := by
  intro id
  obtain ⟨history, run⟩ := neighbourShop_run id
  have apart : id ≠ drawnSession patronEntropy := by decide
  exact ⟨steadyShop_opens, ⟨_, run⟩,
    (payment_spares_session_iff steadyShop_opens run (neighbourShop_found id) readyPatron (.direct 0)
      5 none patronEntropy).1.2 fun collides => apart collides.drawn⟩

/-- A payment that draws the identifier of the other customer's session is refused, and drops that
session.
-/
theorem payment_drops_neighbour
    : let id := drawnSession patronEntropy
      let ended := (Parties.pay ⟨readyPatron, (neighbourShop id).merchant, (neighbourShop id).ledger⟩
        (.direct 0) 5 none patronEntropy).1
      steadyShop.Opens .default .reject steadySource
        ∧ (∃ history, steadyShop.Run history (neighbourShop id))
        ∧ (neighbourShop id).merchant.sessions.get? id = some (neighbourSession id)
        ∧ (∃ reason, ended.1 = .refuse reason)
        ∧ ended.2.merchant.sessions.get? id = none := by
  intro id ended
  obtain ⟨history, run⟩ := neighbourShop_run id
  have live : (neighbourShop id).merchant.UnderWay id (neighbourSession id) :=
    ⟨neighbourShop_found id, Dict.get?_insert_self _ _ _⟩
  have collides : readyPatron.Collides 5 none patronEntropy id (neighbourSession id) :=
    ⟨⟨_, _, preparePayment_readyPatron⟩, rfl, .inl rfl⟩
  have ends := Parties.ends ⟨readyPatron, (neighbourShop id).merchant, (neighbourShop id).ledger⟩
    (.direct 0) 5 none patronEntropy
  obtain ⟨refused, forgotten⟩ := ends.forgets live collides
  exact ⟨steadyShop_opens, ⟨_, run⟩, live.found, refused, forgotten.gone⟩

end Example

-----------------------------------------------------------------------------------------
-- The session of the payment
-----------------------------------------------------------------------------------------

/-- A customer keeps a payment of which it has revoked the old state, so it can resume the payment. -/
def Customer.CanResume (customer : Customer) (id : SessionId) : Prop :=
  ∃ pending revoked, customer.pending = some pending ∧ pending.session = id
    ∧ pending.revoked = some revoked

/-- The customer after it refused signatures. -/
def Customer.distrusting (customer : Customer) : Customer :=
  { customer with merchantTrusted := false }

theorem Customer.ne_distrusting {customer other : Customer} (trusts : other.merchantTrusted = true)
    : other ≠ customer.distrusting := by
  rintro rfl
  cases trusts

/-- What becomes of a session that a payment opened. -/
structure Parties.Accounts (before : Parties) (id : SessionId)
    (ended : Outcome ChannelError Receipt × Parties) : Prop where
  /-- The session is left if the customer can resume the payment, if it refused its signatures, or if
  the amounts were out of range, and in no other case.
  -/
  left_iff : ended.2.merchant.sessions.get? id ≠ none
    ↔ ended.2.customer.CanResume id ∨ ended.2.customer = before.customer.distrusting
      ∨ ∃ kind, ended.1 = .error (.overflow kind)
  /-- Where it is not left the merchant has the sessions and the nonces in use from before. -/
  restored : ended.2.merchant.sessions.get? id = none
    → ended.2.merchant.sessions = before.merchant.sessions
      ∧ ended.2.merchant.liveNonces = before.merchant.liveNonces
  /-- Where it is not left a payment that was refused was taken back on both sides. -/
  undone : ended.2.merchant.sessions.get? id = none → ∀ reason, ended.1 = .refuse reason
    → ended.2 = before
  /-- After the signatures were refused the session can neither be resumed nor dropped. -/
  stuck : ended.2.customer = before.customer.distrusting
    → ∃ session, ended.2.merchant.UnderWay id session ∧ session.status = .confirmed
      ∧ ¬ended.2.customer.CanResume id

/-- The session of a payment whose masks were released is under way. -/
theorem BegunRound.underWay_masked {amount : Balance} {justification : Option String}
    {source : Entropy} (round : BegunRound amount justification source) (merchant : Merchant)
    : (round.masked merchant).UnderWay (drawnSession source)
        (releasedSession round.request round.rest) :=
  ⟨round.get?_masked merchant, Dict.get?_insert_self _ _ _⟩

/-- A session that is left has one of three reasons. -/
theorem Parties.Accounts.of_left {before : Parties} {id : SessionId} {session : Session}
    {ended : Outcome ChannelError Receipt × Parties} (live : ended.2.merchant.UnderWay id session)
    (why : ended.2.customer.CanResume id ∨ ended.2.customer = before.customer.distrusting
      ∨ ∃ kind, ended.1 = .error (.overflow kind))
    (stuck : ended.2.customer = before.customer.distrusting
      → session.status = .confirmed ∧ ¬ended.2.customer.CanResume id)
    : before.Accounts id ended where
  left_iff := ⟨fun _ => why, fun _ gone => by cases live.found.symm.trans gone⟩
  restored gone := by cases live.found.symm.trans gone
  undone gone := by cases live.found.symm.trans gone
  stuck distrusts := ⟨session, live, stuck distrusts⟩

namespace Parties.Ends

variable {before : Parties} {client : ServiceClient} {amount : Balance}
  {justification : Option String} {source : Entropy}
  {ended : Outcome ChannelError Receipt × Parties}

/-- What becomes of the session, by cases on the endings of a payment that both parties begin. -/
theorem accounts (ends : before.Ends client amount justification source ended)
    {request : PaymentRequest} {begun : Customer}
    (begins : (before.customer.preparePayment amount justification).outcome source
      = .ok (request, begun))
    {response : PaymentResponse} {opened : Merchant}
    (opens : (before.merchant.preparePayment request).outcome
        ((before.customer.preparePayment amount justification).rest source)
      = .ok (response, opened))
    (keeps : ∀ state, before.customer.state = some state → state.lock = before.customer.secret.lock)
    : before.Accounts (drawnSession source) ended := by
  cases ends with
  | unprepared refused => cases begins.symm.trans refused
  | unopened again refused =>
      cases begins.symm.trans again
      cases opens.symm.trans refused
  | unmasked round fits =>
      have trusts : before.customer ≠ before.customer.distrusting :=
        Customer.ne_distrusting fits.trusted
      exact {
        left_iff := by simp [fits.free, CanResume, fits.idle, trusts, Outcome.refuse]
        restored := fun _ => ⟨rfl, rfl⟩
        undone := fun _ _ _ => rfl
        stuck := fun distrusts => absurd distrusts trusts }
  | unsigned round fits =>
      exact .of_left (round.underWay_masked _) (.inr (.inl rfl))
        fun _ => ⟨rfl, by simp [CanResume, fits.idle]⟩
  | overflowed round fits =>
      have trusts : round.committed before.customer ≠ before.customer.distrusting :=
        Customer.ne_distrusting fits.trusted
      exact .of_left (round.underWay_masked _) (.inr (.inr ⟨_, rfl⟩))
        fun distrusts => absurd distrusts trusts
  | disproved round signs differs =>
      exact absurd (keeps _ (by simp [Customer.state, signs.found])).symm differs
  | unrecorded round signs =>
      have trusts : round.moved before.customer ≠ before.customer.distrusting :=
        Customer.ne_distrusting signs.trusted
      exact .of_left (round.underWay_masked _) (.inl ⟨_, _, rfl, rfl, rfl⟩)
        fun distrusts => absurd distrusts trusts
  | completed round signs =>
      have gone : (round.spent before.merchant (some (round.record before.customer))).sessions.get?
          (drawnSession source) = none :=
        signs.free
      have trusts : round.paid before.customer ≠ before.customer.distrusting :=
        Customer.ne_distrusting signs.trusted
      have idle : (round.paid before.customer).pending = none := rfl
      exact {
        left_iff := by simp [gone, CanResume, idle, trusts]
        restored := fun _ => ⟨rfl, rfl⟩
        undone := fun _ _ refused => by cases refused
        stuck := fun distrusts => absurd distrusts trusts }

end Parties.Ends

/-- A session that a payment opened is accounted for, whatever the service does: it is left at the
merchant exactly if the customer can resume the payment, if it refused its signatures, or if the
amounts were out of range. Refused signatures are the one refusal that is not taken back at the
merchant, although no state was revoked.
-/
theorem opened_session_accounted {start customer : Customer} (starts : start.Starts)
    {history : List CustomerExchange} (run : start.Run history customer)
    {amount : Balance} {justification : Option String} {source : Entropy}
    {request : PaymentRequest} {begun : Customer}
    (begins : (customer.preparePayment amount justification).outcome source = .ok (request, begun))
    {merchant opened : Merchant} {response : PaymentResponse}
    (opens : (merchant.preparePayment request).outcome
        ((customer.preparePayment amount justification).rest source)
      = .ok (response, opened)) (ledger : Ledger) (client : ServiceClient)
    : Parties.Accounts ⟨customer, merchant, ledger⟩ request.session
        (Parties.pay ⟨customer, merchant, ledger⟩ client amount justification source).1 := by
  have keeps := (LocksFit.run starts run).lock
  have ends := Parties.ends ⟨customer, merchant, ledger⟩ client amount justification source
  rw [session_of_preparePayment begins]
  exact ends.accounts begins opens keeps

section Example

-- Unification would compute keys and hashes where comparing their arguments is enough.
attribute [local irreducible] SecretKey.publicKey SignableTx.txid SignableTx.sign
  SignableTx.verifies sha256 hmacSha256

/-- The merchant begins the first payment. -/
theorem steadyShop_begins
    : ∃ response opened,
      (steadyShop.merchant.preparePayment patronRequest).outcome
          ((readyPatron.preparePayment 5 none).rest patronEntropy)
        = .ok (response, opened) :=
  ⟨_, _, Merchant.preparePayment_eq_ok.2
    ⟨Merchant.checkPayment_eq_ok.2 ⟨⟨rfl, rfl⟩, rfl, rfl⟩, rfl, rfl⟩⟩

/-- A masked signature that comes out too large under every mask. -/
def brokenSignature : MaskedSignature := ⟨.ofNat 32 (2 ^ 256 - 1), .ofNat 32 0⟩

/-- A service that confirms every masking and delivers nothing of use. -/
def carelessService : ServiceClient where
  service _ := .answered (.ok ⟨⟨brokenSignature, brokenSignature, ⟨.ofNat 32 0⟩⟩, true⟩)
  timeout := 0

theorem unmask?_brokenSignature (mask : SigMask) : brokenSignature.unmask? mask = none := by
  have large : Residue.ofNat? Curve.order brokenSignature.r.toNat = none := by decide +kernel
  simp [MaskedSignature.unmask?, Signature.ofCompact?, large]

/-- A first payment of 5 by way of this service. -/
theorem careless_payment
    : ∃ round : BegunRound 5 none patronEntropy,
      (Parties.pay ⟨readyPatron, steadyShop.merchant, steadyShop.ledger⟩ carelessService 5 none
          patronEntropy).1
        = (.refuse (.signatureVerification .customerCloseFromEscrow),
          ⟨readyPatron.distrusting, round.masked steadyShop.merchant, steadyShop.ledger⟩) := by
  obtain ⟨response, opened, opens⟩ := steadyShop_begins
  obtain ⟨round, -, fits⟩ := Parties.exists_begunRound preparePayment_readyPatron opens
  have refused : (round.committed readyPatron).acceptSignatures
      ⟨brokenSignature, brokenSignature, ⟨.ofNat 32 0⟩⟩ round.released
      = (.refuse (.signatureVerification .customerCloseFromEscrow),
        { round.committed readyPatron with merchantTrusted := false }) := by
    unfold acceptSignatures
    simp only [fits.awaits, unmaskSignatures, unmaskSignature, unmask?_brokenSignature,
      Outcome.require, Outcome.refuse, Outcome.error_bind]
  refine ⟨round, (fits.pay_of_confirmed rfl rfl steadyShop.ledger).trans ?_⟩
  exact Parties.finish_of_refused fits refused _ _

/-- After a payment by way of the careless service its session can neither be resumed nor dropped. -/
theorem opened_session_accounted_patron
    : (∃ history, patron.Run history readyPatron)
      ∧ ∃ session,
        let after := (Parties.pay ⟨readyPatron, steadyShop.merchant, steadyShop.ledger⟩
          carelessService 5 none patronEntropy).1.2
        after.merchant.UnderWay patronRequest.session session ∧ session.status = .confirmed
          ∧ ¬after.customer.CanResume patronRequest.session := by
  obtain ⟨history, run, -⟩ := readyPatron_run
  obtain ⟨_, _, opens⟩ := steadyShop_begins
  obtain ⟨round, ended⟩ := careless_payment
  have accounts := opened_session_accounted patron_starts run preparePayment_readyPatron opens
    steadyShop.ledger carelessService
  exact ⟨⟨_, run⟩, accounts.stuck (by rw [ended])⟩

/-- A payment that is refused before any state is revoked can leave its session at the merchant. -/
theorem refused_signatures_leave_session
    : steadyShop.Opens .default .reject steadySource
      ∧ (∃ history, patron.Run history readyPatron)
      ∧ steadyShop.merchant.sessions.get? patronRequest.session = none
      ∧ ∃ reason after,
        (Parties.pay ⟨readyPatron, steadyShop.merchant, steadyShop.ledger⟩ carelessService 5 none
            patronEntropy).1 = (.refuse reason, after)
        ∧ after.merchant.sessions.get? patronRequest.session ≠ none
        ∧ after.customer.pending = none := by
  obtain ⟨history, run, -⟩ := readyPatron_run
  obtain ⟨round, ended⟩ := careless_payment
  have left : (round.masked steadyShop.merchant).sessions.get? patronRequest.session
      = some (releasedSession round.request round.rest) :=
    (round.underWay_masked steadyShop.merchant).found
  exact ⟨steadyShop_opens, ⟨_, run⟩, rfl, _, _, ended, left ▸ nofun, rfl⟩

end Example

end PaymentChannel
