import PaymentChannel.Proofs.Merchant.Sessions

/-! Each nonce buys at most one payment.
Identifiers of sessions and nonces of dropped sessions are used again in any order, so a
confirmation is counted for the payment that began last with its identifier.
-/

namespace PaymentChannel

open Merchant

-----------------------------------------------------------------------------------------
-- Payments of a history
-----------------------------------------------------------------------------------------

/-- The opening of the commitment of a payment, as it was drawn when the payment began. -/
def Payment.opening (payment : Payment) : PayMaskOpening := drawnOpening payment.source

/-- The payment that began last with an identifier. Events come with the latest in front. -/
def lastBegun (id : SessionId) : List PaymentEvent → Option Payment
  | [] => none
  | .began payment :: earlier =>
      if payment.request.session = id then some payment else lastBegun id earlier
  | .confirmed _ :: earlier => lastBegun id earlier
  | .released _ _ _ :: earlier => lastBegun id earlier

/-- For each confirmation of a history, the payment it was for. -/
def confirmedPayments : List PaymentEvent → List (Option Payment)
  | [] => []
  | .began _ :: earlier => confirmedPayments earlier
  | .confirmed id :: earlier => lastBegun id earlier :: confirmedPayments earlier
  | .released _ _ _ :: earlier => confirmedPayments earlier

/-- The events of a history. -/
def paymentEvents (history : List MerchantExchange) : List PaymentEvent :=
  history.filterMap (·.payment?)

-----------------------------------------------------------------------------------------
-- The records of payments
-----------------------------------------------------------------------------------------

/-- A payment answers for an identifier, a nonce and an opening: it began with them, and the
merchant committed to the opening.
-/
structure Payment.Settles (payment : Payment) (id : SessionId) (nonce : Nonce)
    (opening : PayMaskOpening) : Prop where
  session : payment.request.session = id
  nonce : payment.request.nonce = nonce
  drawn : payment.opening = opening
  committed : opening.opens payment.response.commitment = true

/-- What the merchant keeps about payments agrees with their history. -/
structure PaymentRecords (events : List PaymentEvent) (payments : List Payment)
    (merchant : Merchant) : Prop where
  index : merchant.SessionIndex
  /-- The confirmed payments are known, the latest in front. -/
  confirmed : confirmedPayments events = payments.map some
  once : (payments.map (·.request.nonce)).Nodup
  /-- A session belongs to the payment that began last with its identifier. -/
  sessions : ∀ id session, merchant.sessions.get? id = some session
    → ∃ payment, lastBegun id events = some payment
      ∧ payment.Settles id session.nonce session.opening
      ∧ (session.status = .confirmed → payment ∈ payments)
  /-- The nonce of a confirmed payment is still that of a confirmed session, or used up. -/
  taken : ∀ payment ∈ payments,
    (∃ id session, merchant.sessions.get? id = some session ∧ session.status = .confirmed
      ∧ session.nonce = payment.request.nonce)
    ∨ ∃ record, merchant.spentNonces.get? payment.request.nonce = some record
  /-- A nonce that is used up was that of a confirmed payment. -/
  spent : ∀ nonce record, merchant.spentNonces.get? nonce = some record
    → ∃ payment ∈ payments, payment.Settles record.session nonce record.opening
  /-- What was released belongs to a confirmed payment. -/
  released : ∀ id revoked opening, .released id revoked opening ∈ events
    → ∃ payment ∈ payments, payment.Settles id revoked.nonce opening

namespace PaymentRecords

variable {events : List PaymentEvent} {payments : List Payment} {merchant after : Merchant}
  {id : SessionId} {session : Session}

/-- A merchant with no payments has nothing to agree with. -/
theorem start (sessions : merchant.sessions = .empty) (liveNonces : merchant.liveNonces = .empty)
    (spentNonces : merchant.spentNonces = .empty)
    : PaymentRecords [] [] merchant := by
  constructor
  case index => constructor <;> simp [sessions, liveNonces]
  all_goals simp [confirmedPayments, sessions, spentNonces]

/-- The nonces of confirmed payments are burnt. -/
theorem burnt (records : PaymentRecords events payments merchant) {payment : Payment}
    (member : payment ∈ payments)
    : merchant.Burnt payment.request.nonce :=
  (records.taken payment member).symm

/-- A payment of which no session was confirmed is new: its nonce is that of its session only. -/
theorem unconfirmed_new (records : PaymentRecords events payments merchant)
    (found : merchant.sessions.get? id = some session) (unconfirmed : session.status ≠ .confirmed)
    : session.nonce ∉ payments.map (·.request.nonce) := by
  intro member
  obtain ⟨payment, member, same⟩ := List.mem_map.1 member
  exact records.index.not_burnt found unconfirmed (same ▸ records.burnt member)

theorem kept (records : PaymentRecords events payments merchant)
    (same : SamePayments merchant after)
    : PaymentRecords events payments after where
  index := records.index.of_same same
  confirmed := records.confirmed
  once := records.once
  sessions := by simpa only [same.sessions] using records.sessions
  taken := by simpa only [same.sessions, same.spentNonces] using records.taken
  spent := by simpa only [same.spentNonces] using records.spent
  released := records.released

/-- A payment that begins has an identifier of its own among the sessions under way. -/
theorem began (records : PaymentRecords events payments merchant) {request : PaymentRequest}
    {source : Entropy} (checked : merchant.checkPayment request = .ok ())
    : PaymentRecords
        (.began ⟨request, source, request.session,
          .commit (drawnOpening source).mask (drawnOpening source).randomness⟩ :: events)
        payments
        { merchant.setSession request.session (begunSession request source) with
          liveNonces := merchant.liveNonces.insert request.nonce request.session } := by
  have free := (free_of_checkPayment checked).2.2
  constructor
  case index => exact records.index.opened checked
  case confirmed => exact records.confirmed
  case once => exact records.once
  case sessions =>
    intro other known there
    simp only [setSession_sessions, Dict.get?_insert] at there
    split at there
    case isTrue here =>
      cases there
      subst here
      refine ⟨_, if_pos rfl, ⟨rfl, rfl, rfl, ?_⟩, by rintro ⟨⟩⟩
      simp [PayMaskOpening.opens, begunSession]
    case isFalse apart =>
      obtain ⟨payment, last, settles, member⟩ := records.sessions other known there
      exact ⟨payment, by simpa [lastBegun, Ne.symm apart] using last, settles, member⟩
  case taken =>
    exact fun payment member =>
      ((records.burnt member).setSession (unconfirmed_of_free free)).symm
  case spent => exact records.spent
  case released => simpa using records.released

/-- A prepared session whose input is given out is still the same payment. -/
theorem handed (records : PaymentRecords events payments merchant)
    (found : merchant.sessions.get? id = some session) (prepared : session.status = .prepared)
    : PaymentRecords events payments
        (merchant.setSession id { session with status := .updating }) := by
  constructor
  case index => exact records.index.setStatus found .updating
  case confirmed => exact records.confirmed
  case once => exact records.once
  case sessions =>
    intro other known there
    simp only [setSession_sessions, Dict.get?_insert] at there
    split at there
    case isTrue here =>
      cases there
      obtain ⟨payment, last, settles, -⟩ := records.sessions id session found
      exact ⟨payment, here ▸ last, here ▸ settles, by rintro ⟨⟩⟩
    case isFalse => exact records.sessions other known there
  case taken =>
    have unconfirmed := unconfirmed_of_get? found (by simp [prepared])
    exact fun payment member => ((records.burnt member).setSession unconfirmed).symm
  case spent => exact records.spent
  case released => exact records.released

/-- A session that is confirmed adds its payment to the confirmed ones, and its nonce is new
among them.
-/
theorem confirm (records : PaymentRecords events payments merchant)
    (found : merchant.sessions.get? id = some session) (updating : session.status = .updating)
    : ∃ payment, PaymentRecords (.confirmed id :: events) (payment :: payments)
        (merchant.setSession id { session with status := .confirmed }) := by
  have unconfirmed : session.status ≠ .confirmed := by simp [updating]
  obtain ⟨payment, last, settles, -⟩ := records.sessions id session found
  refine ⟨payment, ?_⟩
  constructor
  case index => exact records.index.setStatus found .confirmed
  case confirmed => simp [confirmedPayments, last, records.confirmed]
  case once =>
    rw [List.map_cons, List.nodup_cons, settles.nonce]
    exact ⟨records.unconfirmed_new found unconfirmed, records.once⟩
  case sessions =>
    intro other known there
    simp only [setSession_sessions, Dict.get?_insert] at there
    split at there
    case isTrue here =>
      cases there
      exact ⟨payment, here ▸ last, here ▸ settles, fun _ => List.mem_cons_self⟩
    case isFalse =>
      obtain ⟨older, last, settles, member⟩ := records.sessions other known there
      exact ⟨older, last, settles, fun status => List.mem_cons_of_mem _ (member status)⟩
  case taken =>
    intro older member
    rcases List.mem_cons.1 member with rfl | member
    · exact .inl ⟨id, { session with status := .confirmed }, by simp, rfl, settles.nonce.symm⟩
    · exact ((records.burnt member).setSession (unconfirmed_of_get? found unconfirmed)).symm
  case spent =>
    intro nonce record used
    obtain ⟨older, member, settles⟩ := records.spent nonce record used
    exact ⟨older, List.mem_cons_of_mem _ member, settles⟩
  case released =>
    intro other revoked opening member
    obtain ⟨older, member, settles⟩ := records.released other revoked opening (by simpa using member)
    exact ⟨older, List.mem_cons_of_mem _ member, settles⟩

/-- A session that was not confirmed can be dropped. -/
theorem dropped (records : PaymentRecords events payments merchant)
    (found : merchant.sessions.get? id = some session) (unconfirmed : session.status ≠ .confirmed)
    : PaymentRecords events payments (merchant.closeSession id) := by
  constructor
  case index => exact records.index.closeSession found
  case confirmed => exact records.confirmed
  case once => exact records.once
  case sessions =>
    intro other known there
    exact records.sessions other known (get?_of_closeSession there)
  case taken =>
    exact fun payment member => ((records.burnt member).closeSession found unconfirmed).symm
  case spent => simpa using records.spent
  case released => exact records.released

/-- A confirmed session that ends uses its nonce up, with the record of its own payment. -/
theorem spend (records : PaymentRecords events payments merchant)
    (found : merchant.sessions.get? id = some session) (confirmed : session.status = .confirmed)
    (revocation : Option (RevLock × RevSecret))
    : PaymentRecords events payments
        ((merchant.spend session.nonce ⟨id, revocation, session.opening⟩).closeSession id) := by
  constructor
  case index => exact records.index.spendSession found _
  case confirmed => exact records.confirmed
  case once => exact records.once
  case sessions =>
    intro other known there
    have kept := get?_of_closeSession there
    exact records.sessions other known kept
  case taken =>
    exact fun payment member => ((records.burnt member).spend found _).symm
  case spent =>
    intro nonce record used
    rw [closeSession_spentNonces, spend_spentNonces, Dict.get?_insert] at used
    split at used
    case isTrue same =>
      cases used
      obtain ⟨payment, -, settles, member⟩ := records.sessions id session found
      exact ⟨payment, member confirmed, same ▸ settles⟩
    case isFalse => exact records.spent nonce record used
  case released => exact records.released

/-- What is released for a confirmed payment joins the history. -/
theorem release (records : PaymentRecords events payments merchant) {revoked : RevokedState}
    {opening : PayMaskOpening}
    (known : ∃ payment ∈ payments, payment.Settles id revoked.nonce opening)
    : PaymentRecords (.released id revoked opening :: events) payments merchant where
  index := records.index
  confirmed := records.confirmed
  once := records.once
  sessions := records.sessions
  taken := records.taken
  spent := records.spent
  released := by
    intro other again given member
    rcases List.mem_cons.1 member with same | member
    · cases same
      exact known
    · exact records.released other again given member

/-- Every step keeps the records right, by cases on the kinds of steps. -/
theorem step (records : PaymentRecords events payments merchant) {exchange : MerchantExchange}
    (step : PaymentStep merchant exchange after)
    : ∃ payments', PaymentRecords (exchange.payment?.toList ++ events) payments' after := by
  cases step with
  | kept quiet same =>
      rw [quiet]
      exact ⟨payments, records.kept same⟩
  | began checked => exact ⟨payments, records.began checked⟩
  | handed found prepared => exact ⟨payments, records.handed found prepared⟩
  | confirmed found updating =>
      obtain ⟨payment, records⟩ := records.confirm found updating
      exact ⟨payment :: payments, records⟩
  | @dropped _ id session quiet found unconfirmed =>
      rw [quiet]
      have unconfirmed : session.status ≠ .confirmed := by
        rcases unconfirmed with status | status <;> simp [status]
      exact ⟨payments, records.dropped found unconfirmed⟩
  | spoiled found confirmed _ => exact ⟨payments, records.spend found confirmed none⟩
  | @revoked id session revoked found confirmed right =>
      obtain ⟨payment, -, settles, member⟩ := records.sessions id session found
      exact ⟨payments, (records.spend found confirmed _).release
        ⟨payment, member confirmed, right.1.symm ▸ settles⟩⟩
  | @repeated id revoked opening released =>
      obtain ⟨record, used, rfl, -, rfl⟩ := releasedOpening_eq_ok.1 released
      exact ⟨payments, records.release (records.spent _ record used)⟩

/-- A record of a nonce that is used up stays through every step. -/
theorem spent_step (index : merchant.SessionIndex) {exchange : MerchantExchange}
    (step : PaymentStep merchant exchange after) {nonce : Nonce} {record : SpentNonce}
    (used : merchant.spentNonces.get? nonce = some record)
    : after.spentNonces.get? nonce = some record := by
  have apart : ∀ id session, merchant.sessions.get? id = some session → nonce ≠ session.nonce := by
    rintro id session found rfl
    rw [index.unspent id session found] at used
    cases used
  cases step with
  | kept _ same => rwa [same.spentNonces]
  | began _ => exact used
  | handed _ _ => exact used
  | confirmed _ _ => exact used
  | dropped _ _ _ => rwa [closeSession_spentNonces]
  | spoiled found _ _ =>
      rwa [closeSession_spentNonces, spend_spentNonces,
        Dict.get?_insert_of_ne (apart _ _ found)]
  | revoked found _ _ =>
      rwa [closeSession_spentNonces, spend_spentNonces,
        Dict.get?_insert_of_ne (apart _ _ found)]
  | repeated _ => exact used

/-- What a merchant keeps about payments is right in every run, by induction on the run. -/
theorem run {params : ChannelParams} {policy : RefundPolicy} {source : Entropy}
    {start shop : Shop} (opens : start.Opens params policy source)
    {history : List MerchantExchange} (run : start.Run history shop)
    : ∃ payments, PaymentRecords (paymentEvents history) payments shop.merchant := by
  induction run with
  | start =>
      obtain ⟨-, _, -, _, -, _, -, opened⟩ := init_eq_ok.1 opens
      rw [opened]
      exact ⟨[], .start rfl rfl rfl⟩
  | @call history shop _ call ih =>
      obtain ⟨payments, records⟩ := ih
      obtain ⟨payments, records⟩ := records.step (shop.paymentStep call)
      refine ⟨payments, ?_⟩
      cases event : (shop.exchange call).payment? with
      | none => simpa [paymentEvents, List.filterMap_cons, event] using records
      | some payment => simpa [paymentEvents, List.filterMap_cons, event] using records
  | ledger _ _ ih => exact ih

/-- The nonce of a confirmed payment is refused. -/
theorem refuses (records : PaymentRecords events payments merchant) {payment : Payment}
    (member : payment ∈ payments) {request : PaymentRequest} {source : Entropy}
    (same : request.nonce = payment.request.nonce)
    : (merchant.preparePayment request).outcome source
      = .refuse (.nonceReused request.nonce) := by
  apply preparePayment_nonceReused
  rcases records.taken payment member with ⟨id, session, found, -, nonce⟩ | ⟨record, used⟩
  · refine .inr (Dict.contains_iff.2 ⟨id, ?_⟩)
    rw [same, ← nonce]
    exact records.index.indexed id session found
  · refine .inl (Dict.contains_iff.2 ⟨record, ?_⟩)
    rw [same]
    exact used

end PaymentRecords

/-- A record of a nonce that is used up stays through every run. Witness: induction on the later
run; the index of sessions holds at all of its shops.
-/
theorem Shop.Run.spent_stays {params : ChannelParams} {policy : RefundPolicy} {source : Entropy}
    {start shop : Shop} (opens : start.Opens params policy source)
    {history : List MerchantExchange} (run : start.Run history shop)
    {nonce : Nonce} {record : SpentNonce}
    (used : shop.merchant.spentNonces.get? nonce = some record)
    {later : List MerchantExchange} {next : Shop} (goes : shop.Run later next)
    : next.merchant.spentNonces.get? nonce = some record := by
  suffices follows : next.merchant.SessionIndex
      ∧ next.merchant.spentNonces.get? nonce = some record from follows.2
  obtain ⟨_, records⟩ := PaymentRecords.run opens run
  induction goes with
  | start => exact ⟨records.index, used⟩
  | @call _ next _ call ih =>
      have step := next.paymentStep call
      exact ⟨ih.1.step step, PaymentRecords.spent_step ih.1 step ih.2⟩
  | ledger _ _ ih => exact ih

/-- Each nonce buys at most one payment. In every run the confirmations belong to payments with
different nonces, no payment begins again with such a nonce, the record of a nonce that is used up
never changes, and every opening that is released for a nonce is that of its one confirmed payment
and opens the commitment that was answered when the payment began.
-/
theorem nonce_buys_one_payment {params : ChannelParams} {policy : RefundPolicy} {source : Entropy}
    {start shop : Shop} (opens : start.Opens params policy source)
    {history : List MerchantExchange} (run : start.Run history shop)
    : ∃ payments : List Payment,
      confirmedPayments (paymentEvents history) = payments.map some
      ∧ (payments.map (·.request.nonce)).Nodup
      ∧ (∀ payment ∈ payments, ∀ request source, request.nonce = payment.request.nonce
        → (shop.merchant.preparePayment request).outcome source
          = .refuse (.nonceReused request.nonce))
      ∧ (∀ nonce record, shop.merchant.spentNonces.get? nonce = some record
        → ∀ later next, shop.Run later next
        → next.merchant.spentNonces.get? nonce = some record)
      ∧ (∀ id revoked opening, ⟨.validateRevoked id revoked, .ok opening⟩ ∈ history
        → ∃ payment ∈ payments, payment.request.session = id
          ∧ payment.request.nonce = revoked.nonce ∧ opening = payment.opening
          ∧ opening.opens payment.response.commitment = true) := by
  obtain ⟨payments, records⟩ := PaymentRecords.run opens run
  refine ⟨payments, records.confirmed, records.once, ?_, ?_, ?_⟩
  · intro payment member request source same
    exact records.refuses member same
  · intro nonce record used later next goes
    exact run.spent_stays opens used goes
  · intro id revoked opening member
    have released : PaymentEvent.released id revoked opening ∈ paymentEvents history :=
      List.mem_filterMap.2 ⟨_, member, rfl⟩
    obtain ⟨payment, member, settles⟩ := records.released id revoked opening released
    exact ⟨payment, member, settles.session, settles.nonce, settles.drawn.symm, settles.committed⟩

-----------------------------------------------------------------------------------------
-- A run with a payment
-----------------------------------------------------------------------------------------

/-- A source that repeats one block. -/
def steadySource : Entropy := .ofBlocks fun _ => .ofNat 32 1

/-- The secret key that such a block spells. -/
def steadyKey : SecretKey := .one

/-- The shop that opens with this source and an empty ledger in memory. -/
def steadyShop : Shop where
  merchant := fresh .default .reject steadyKey steadyKey steadyKey ⟨.ofNat 32 1⟩
  ledger := { store := .memory .empty }

theorem steadyShop_opens : steadyShop.Opens .default .reject steadySource := by
  refine init_eq_ok.2 ⟨rfl, steadyKey, ?_, steadyKey, ?_, steadyKey, ?_, rfl⟩
  all_goals decide +kernel

/-- A revocation of a first nonce. -/
def steadyRevocation : RevokedState where
  nonce := .first (.ofNat 8 1)
  commitment := .commit (RevSecret.lock ⟨.ofNat 32 1⟩) ⟨.ofNat 32 2⟩
  lock := RevSecret.lock ⟨.ofNat 32 1⟩
  secret := ⟨.ofNat 32 1⟩
  blinding := ⟨.ofNat 32 2⟩

/-- The calls of one payment from its request to its revocation. -/
def steadyPayment : List MerchantCall :=
  let id : SessionId := ⟨.ofNat 16 1⟩
  [.preparePayment ⟨id, steadyRevocation.nonce, steadyRevocation.commitment, 5, none⟩ steadySource,
    .maskingInput id, .confirmMasking id true, .validateRevoked id steadyRevocation]

/-- In the run of one payment its nonce is used up. -/
theorem nonce_buys_one_payment_steady
    : steadyShop.Opens .default .reject steadySource
      ∧ steadyShop.Run (steadyShop.calls [] steadyPayment).1 (steadyShop.calls [] steadyPayment).2
      ∧ ∃ payment,
        confirmedPayments (paymentEvents (steadyShop.calls [] steadyPayment).1) = [some payment]
        ∧ ∀ request source, request.nonce = payment.request.nonce
          → ((steadyShop.calls [] steadyPayment).2.merchant.preparePayment request).outcome source
            = .refuse (.nonceReused request.nonce) := by
  have run : steadyShop.Run _ _ := Shop.Run.calls .start steadyPayment
  obtain ⟨payments, confirmed, -, refused, -⟩ := nonce_buys_one_payment steadyShop_opens run
  have one : (confirmedPayments (paymentEvents (steadyShop.calls [] steadyPayment).1)).length = 1 := by
    decide +kernel
  rw [confirmed, List.length_map] at one
  obtain ⟨payment, rfl⟩ := List.length_eq_one_iff.1 one
  exact ⟨steadyShop_opens, run, payment, confirmed, refused payment List.mem_cons_self⟩

end PaymentChannel
