import PaymentChannel.Proofs.Ledger
import PaymentChannel.Proofs.Merchant.NonceReuse
import PaymentChannel.Proofs.Revocation

/-! The mask of a new pay token is released only against a revocation of the old state that lasts.
A release is that of a confirmed session, or it repeats one. So what the customer proved when the
session ended is kept with the nonce that the session used up.
-/

namespace PaymentChannel

open Merchant

-----------------------------------------------------------------------------------------
-- Commitments of sessions
-----------------------------------------------------------------------------------------

/-- The commitment of a session is that of the payment that began last with its identifier. -/
def CommitmentsBegan (events : List PaymentEvent) (merchant : Merchant) : Prop :=
  ∀ id session, merchant.sessions.get? id = some session
    → ∃ payment, lastBegun id events = some payment
      ∧ payment.request.commitment = session.commitment

/-- No step touches the commitment of a session, by cases on the kinds of steps. -/
theorem CommitmentsBegan.step {events : List PaymentEvent} {merchant after : Merchant}
    (began : CommitmentsBegan events merchant) {exchange : MerchantExchange}
    (step : PaymentStep merchant exchange after)
    : CommitmentsBegan (exchange.payment?.toList ++ events) after := by
  intro id session found
  cases step with
  | kept quiet same =>
      rw [quiet]
      rw [same.sessions] at found
      exact began id session found
  | @began request source checked =>
      simp only [setSession_sessions, Dict.get?_insert] at found
      split at found
      case isTrue here =>
        cases found
        exact ⟨_, if_pos here.symm, rfl⟩
      case isFalse elsewhere =>
        obtain ⟨payment, last, same⟩ := began id session found
        exact ⟨payment, (if_neg (Ne.symm elsewhere)).trans last, same⟩
  | @handed other known there _ | @confirmed other known there _ =>
      simp only [setSession_sessions, Dict.get?_insert] at found
      split at found
      case isTrue here =>
        cases found
        exact here ▸ began other known there
      case isFalse => exact began id session found
  | dropped quiet _ _ =>
      rw [quiet]
      exact began id session (get?_of_closeSession found)
  | spoiled _ _ _ | revoked _ _ _ =>
      have stays := get?_of_closeSession found
      exact began id session stays
  | repeated _ => exact began id session found

-----------------------------------------------------------------------------------------
-- Records of revocations
-----------------------------------------------------------------------------------------

/-- The old state of a confirmed payment was revoked: the opening of the payment was released to a
customer who showed the secret of a lock, and the lock in the commitment that the payment began
with.
-/
def Payment.Revoked (payment : Payment) (events : List PaymentEvent) (lock : RevLock)
    (secret : RevSecret) : Prop :=
  some payment ∈ confirmedPayments events
    ∧ ∃ proof : RevokedState, .released payment.request.session proof payment.opening ∈ events
      ∧ proof.lock = lock ∧ proof.secret = secret
      ∧ payment.request.commitment = .commit lock proof.blinding

/-- What was revoked stays revoked. -/
theorem Payment.Revoked.cons {payment : Payment} {events : List PaymentEvent} {lock : RevLock}
    {secret : RevSecret} (revoked : payment.Revoked events lock secret) (event : PaymentEvent)
    : payment.Revoked (event :: events) lock secret := by
  obtain ⟨confirmed, proof, released, shows⟩ := revoked
  refine ⟨?_, proof, List.mem_cons_of_mem _ released, shows⟩
  cases event <;> simp [confirmedPayments, confirmed]

/-- The nonces that are used up tell what was revoked, and the ledger keeps it. -/
structure RevocationRecords (events : List PaymentEvent) (shop : Shop) : Prop where
  /-- A recorded secret opens its lock, the ledger keeps it, and a payment was revoked with it. -/
  recorded : ∀ nonce record lock secret,
    shop.merchant.spentNonces.get? nonce = some record → record.revocation = some (lock, secret)
    → secret.lock = lock ∧ shop.ledger.Keeps lock secret
      ∧ ∃ payment : Payment, payment.Settles record.session nonce record.opening
        ∧ payment.Revoked events lock secret
  /-- What was released is what the record of the nonce says. -/
  released : ∀ id revoked opening, .released id revoked opening ∈ events
    → shop.merchant.spentNonces.get? revoked.nonce
      = some ⟨id, some (revoked.lock, revoked.secret), opening⟩

namespace RevocationRecords

variable {events : List PaymentEvent} {shop after : Shop}

/-- The records depend on the nonces that are used up and on what the ledger keeps. -/
theorem kept (records : RevocationRecords events shop)
    (spent : after.merchant.spentNonces = shop.merchant.spentNonces)
    (keeps : ∀ lock secret, shop.ledger.Keeps lock secret → after.ledger.Keeps lock secret)
    : RevocationRecords events after where
  recorded nonce record lock secret used known := by
    rw [spent] at used
    obtain ⟨opens, kept, revoked⟩ := records.recorded nonce record lock secret used known
    exact ⟨opens, keeps lock secret kept, revoked⟩
  released := by simpa only [spent] using records.released

/-- An event joins the history; if it is a release, the record of its nonce says so. -/
theorem cons (records : RevocationRecords events shop) (event : PaymentEvent)
    (known : ∀ id revoked opening, event = .released id revoked opening
      → shop.merchant.spentNonces.get? revoked.nonce
        = some ⟨id, some (revoked.lock, revoked.secret), opening⟩)
    : RevocationRecords (event :: events) shop where
  recorded nonce record lock secret used said := by
    obtain ⟨opens, kept, payment, settles, revoked⟩ :=
      records.recorded nonce record lock secret used said
    exact ⟨opens, kept, payment, settles, revoked.cons event⟩
  released id revoked opening member := by
    rcases List.mem_cons.1 member with same | member
    · exact known id revoked opening same.symm
    · exact records.released id revoked opening member

/-- A confirmed session that ends without a revocation adds a record that says nothing. -/
theorem spoiled (records : RevocationRecords events shop) {id : SessionId} {session : Session}
    (unspent : shop.merchant.spentNonces.get? session.nonce = none)
    : RevocationRecords events
        { shop with
          merchant :=
            (shop.merchant.spend session.nonce ⟨id, none, session.opening⟩).closeSession id } where
  recorded nonce record lock secret used known := by
    simp only [closeSession_spentNonces, spend_spentNonces, Dict.get?_insert] at used
    split at used
    case isTrue =>
      cases used
      cases known
    case isFalse => exact records.recorded nonce record lock secret used known
  released other revoked opening member := by
    have used := records.released other revoked opening member
    have apart : revoked.nonce ≠ session.nonce := by
      intro same
      rw [same, unspent] at used
      cases used
    simpa [Dict.get?_insert_of_ne apart] using used

/-- A confirmed session that ends with a right revocation adds a record of it. -/
theorem revoked (records : RevocationRecords events shop) {id : SessionId} {session : Session}
    {revoked : RevokedState} {recorded : Ledger} {payment : Payment}
    (unspent : shop.merchant.spentNonces.get? session.nonce = none)
    (right : RightRevocation session revoked)
    (written : shop.ledger.put revoked.lock revoked.secret = .ok recorded)
    (settles : payment.Settles id session.nonce session.opening)
    (commitment : payment.request.commitment = session.commitment)
    (confirmed : some payment ∈ confirmedPayments events)
    : RevocationRecords (.released id revoked session.opening :: events)
        ⟨(shop.merchant.spend session.nonce
          ⟨id, some (revoked.lock, revoked.secret), session.opening⟩).closeSession id, recorded⟩
    := by
  obtain ⟨nonce_eq, commitment_eq, verifies⟩ := right
  obtain ⟨opens, commits⟩ := RevokedState.verify_eq_true.1 verifies
  constructor
  case recorded =>
    intro nonce record lock secret used known
    simp only [closeSession_spentNonces, spend_spentNonces, Dict.get?_insert] at used
    split at used
    case isTrue here =>
      cases used
      cases known
      refine ⟨opens, Ledger.keeps_put written opens, payment, here ▸ settles, confirmed, revoked,
        ?_, rfl, rfl, ?_⟩
      · rw [settles.session, settles.drawn]
        exact List.mem_cons_self
      · rw [commitment, ← commitment_eq, ← commits]
    case isFalse =>
      obtain ⟨opens, kept, older, settles, done⟩ :=
        records.recorded nonce record lock secret used known
      exact ⟨opens, kept.put written, older, settles, done.cons _⟩
  case released =>
    intro other again opening member
    simp only [closeSession_spentNonces, spend_spentNonces]
    rcases List.mem_cons.1 member with same | member
    · cases same
      rw [nonce_eq, Dict.get?_insert_self]
    · have used := records.released other again opening member
      have apart : again.nonce ≠ session.nonce := by
        intro same
        rw [same, unspent] at used
        cases used
      rwa [Dict.get?_insert_of_ne apart]

/-- Every step keeps the records right, by cases on the kinds of steps. -/
theorem step (records : RevocationRecords events shop) {payments : List Payment}
    (known : PaymentRecords events payments shop.merchant)
    (began : CommitmentsBegan events shop.merchant) {exchange : MerchantExchange}
    (step : ShopStep shop exchange after)
    : RevocationRecords (exchange.payment?.toList ++ events) after := by
  have silent {exchange : MerchantExchange} (quiet : exchange.event? = none)
      : exchange.payment? = none := by
    simp [MerchantExchange.payment?, quiet]
  cases step with
  | silent quiet =>
      rw [silent quiet]
      exact records
  | registered quiet _ _ _ _ _ | moved quiet _ _ =>
      rw [silent quiet]
      exact records.kept rfl fun _ _ kept => kept
  | announced _ _ _ => exact records.kept rfl fun _ _ kept => kept
  | issued _ _ _ _ _ => exact records
  | began _ | confirmed _ _ =>
      refine (records.cons _ fun _ _ _ same => ?_).kept rfl fun _ _ kept => kept
      cases same
  | handed _ _ => exact records.kept rfl fun _ _ kept => kept
  | dropped quiet _ _ =>
      rw [silent quiet]
      exact records.kept (closeSession_spentNonces _ _) fun _ _ kept => kept
  | spoiled found _ _ => exact records.spoiled (known.index.unspent _ _ found)
  | @revoked id session revoked recorded found confirmed right written =>
      obtain ⟨payment, last, settles, member⟩ := known.sessions id session found
      obtain ⟨_, also, commitment⟩ := began id session found
      rw [last] at also
      cases also
      refine records.revoked (known.index.unspent _ _ found) right written settles commitment ?_
      rw [known.confirmed]
      exact List.mem_map_of_mem (member confirmed)
  | repeated _ released =>
      obtain ⟨record, used, rfl, said, rfl⟩ := releasedOpening_eq_ok.1 released
      refine records.cons _ fun _ _ _ same => ?_
      cases same
      rw [used, ← said]
  | @refused id revoked failure _ =>
      have quiet : MerchantExchange.payment? ⟨.validateRevoked id revoked, .error failure⟩ = none := by
        -- A wrong revocation is an event of the shop, but no event of a payment.
        by_cases wrong : failure = .refused .invalidRevocationProof
        · rw [wrong]
          rfl
        · exact silent (Shop.event?_of_ne wrong)
      rw [quiet]
      exact records

end RevocationRecords

-----------------------------------------------------------------------------------------
-- Runs
-----------------------------------------------------------------------------------------

/-- The events of a history that one more exchange joins. -/
theorem paymentEvents_cons (exchange : MerchantExchange) (history : List MerchantExchange)
    : paymentEvents (exchange :: history) = exchange.payment?.toList ++ paymentEvents history := by
  cases event : exchange.payment? <;> simp [paymentEvents, event]

/-- Only a revocation makes a release known. -/
theorem MerchantExchange.eq_of_released {exchange : MerchantExchange} {id : SessionId}
    {revoked : RevokedState} {opening : PayMaskOpening}
    (event : exchange.payment? = some (.released id revoked opening))
    : exchange = ⟨.validateRevoked id revoked, .ok opening⟩ := by
  obtain ⟨event, known, same⟩ := Option.bind_eq_some_iff.1 event
  cases event <;> cases same
  unfold MerchantExchange.event? at known
  split at known <;> cases known
  rfl

/-- A history has a release among its events where the exchange is in it. -/
theorem released_mem_iff {history : List MerchantExchange} {id : SessionId}
    {revoked : RevokedState} {opening : PayMaskOpening}
    : .released id revoked opening ∈ paymentEvents history
      ↔ ⟨.validateRevoked id revoked, .ok opening⟩ ∈ history := by
  constructor
  · intro released
    obtain ⟨exchange, member, event⟩ := List.mem_filterMap.1 released
    exact MerchantExchange.eq_of_released event ▸ member
  · intro member
    exact List.mem_filterMap.2 ⟨_, member, rfl⟩

section Runs

variable {params : ChannelParams} {policy : RefundPolicy} {source : Entropy} {start shop : Shop}
  {history : List MerchantExchange}

theorem CommitmentsBegan.run (opens : start.Opens params policy source)
    (run : start.Run history shop)
    : CommitmentsBegan (paymentEvents history) shop.merchant := by
  induction run with
  | start =>
      obtain ⟨-, _, -, _, -, _, -, opened⟩ := init_eq_ok.1 opens
      intro id session found
      rw [opened] at found
      simp [fresh] at found
  | @call history shop _ call ih =>
      rw [paymentEvents_cons]
      exact ih.step (shop.paymentStep call)
  | ledger _ _ ih => exact ih

/-- The records of revocations are right in every run, by induction on the run. -/
theorem RevocationRecords.run (opens : start.Opens params policy source)
    (run : start.Run history shop)
    : RevocationRecords (paymentEvents history) shop := by
  induction run with
  | start =>
      obtain ⟨-, _, -, _, -, _, -, opened⟩ := init_eq_ok.1 opens
      constructor
      · intro nonce record lock secret used
        rw [opened] at used
        simp [fresh] at used
      · intro id revoked opening member
        cases member
  | @call history shop run call ih =>
      rw [paymentEvents_cons]
      obtain ⟨payments, known⟩ := PaymentRecords.run opens run
      exact ih.step known (CommitmentsBegan.run opens run) (shop.step call)
  | ledger _ event ih => exact ih.kept rfl fun _ _ kept => kept.event event

/-- A nonce that was used up without a revocation releases nothing any more, by induction on the
later run.
-/
theorem Shop.Run.nothing_released (opens : start.Opens params policy source)
    (run : start.Run history shop) {nonce : Nonce} {record : SpentNonce}
    (used : shop.merchant.spentNonces.get? nonce = some record)
    (unrevoked : record.revocation = none) {later : List MerchantExchange} {next : Shop}
    (goes : shop.Run later next)
    {id : SessionId} {revoked : RevokedState} {opening : PayMaskOpening}
    (released : ⟨.validateRevoked id revoked, .ok opening⟩ ∈ later)
    : revoked.nonce ≠ nonce := by
  rintro rfl
  have event := released_mem_iff.2 (List.mem_append_left history released)
  have recorded := (RevocationRecords.run opens (run.trans goes)).released id revoked opening event
  rw [run.spent_stays opens used goes] at recorded
  cases recorded
  cases unrevoked

/-- The mask of a pay token is released only against a right revocation that lasts. In every run,
whatever was released for an identifier was released for a secret that opens its lock, the payment
with the nonce had begun with a commitment to this lock that the customer opened, and the ledger
keeps the secret from then on, whatever anyone records in it. After a wrong revocation of a confirmed
session nothing is ever released for its nonce.
-/
theorem released_against_lasting_revocation (opens : start.Opens params policy source)
    (run : start.Run history shop)
    : (∀ id revoked opening, ⟨.validateRevoked id revoked, .ok opening⟩ ∈ history
        → revoked.secret.lock = revoked.lock
          ∧ (∃ payment : Payment, some payment ∈ confirmedPayments (paymentEvents history)
            ∧ payment.request.session = id ∧ payment.request.nonce = revoked.nonce
            ∧ payment.opening = opening
            ∧ ∃ proof : RevokedState, ⟨.validateRevoked id proof, .ok opening⟩ ∈ history
              ∧ proof.lock = revoked.lock ∧ proof.secret = revoked.secret
              ∧ payment.request.commitment = .commit revoked.lock proof.blinding)
          ∧ ∀ later next, shop.Run later next
            → next.ledger.Keeps revoked.lock revoked.secret
              ∧ (next.ledger.getOutage = none
                → next.ledger.get revoked.lock = .ok (some revoked.secret)))
      ∧ ∀ id session wrong, shop.merchant.sessions.get? id = some session
        → session.status = .confirmed → ¬RightRevocation session wrong
        → shop.exchange (.validateRevoked id wrong)
            = ⟨.validateRevoked id wrong, .error (.refused .invalidRevocationProof)⟩
          ∧ ∀ later next, (shop.after (.validateRevoked id wrong)).Run later next
            → ∀ other revoked opening, ⟨.validateRevoked other revoked, .ok opening⟩ ∈ later
            → revoked.nonce ≠ session.nonce := by
  constructor
  · intro id revoked opening member
    have records := RevocationRecords.run opens run
    have used := records.released id revoked opening (released_mem_iff.2 member)
    obtain ⟨secret_opens, kept, payment, settles, confirmed, proof, shown, lock, secret, commitment⟩ :=
      records.recorded _ _ _ _ used rfl
    rw [settles.session, settles.drawn] at shown
    refine ⟨secret_opens, ⟨payment, confirmed, settles.session, settles.nonce, settles.drawn, proof,
      released_mem_iff.1 shown, lock, secret, commitment⟩, fun later next goes => ?_⟩
    have stays : next.ledger.Keeps revoked.lock revoked.secret := by
      have records := RevocationRecords.run opens (run.trans goes)
      have released := released_mem_iff.2 (List.mem_append_right later member)
      exact (records.recorded _ _ _ _ (records.released id revoked opening released) rfl).2.1
    exact ⟨stays, stays.get⟩
  · intro id session wrong found confirmed differs
    have refused := validateRevoked_of_wrong found confirmed differs shop.ledger
    have ends : shop.after (.validateRevoked id wrong)
        = ⟨(shop.merchant.spend session.nonce ⟨id, none, session.opening⟩).closeSession id,
          shop.ledger⟩ := by
      rw [Shop.after, Shop.serve, refused]
    refine ⟨by rw [Shop.exchange, Shop.serve, refused]; rfl, ?_⟩
    have used : (shop.after (.validateRevoked id wrong)).merchant.spentNonces.get? session.nonce
        = some ⟨id, none, session.opening⟩ := by
      rw [ends, closeSession_spentNonces, spend_spentNonces, Dict.get?_insert_self]
    intro later next goes other revoked opening released
    exact (run.call (.validateRevoked id wrong)).nothing_released opens used rfl goes released

end Runs

-----------------------------------------------------------------------------------------
-- A payment that is revoked
-----------------------------------------------------------------------------------------

/-- The session of one payment once it is confirmed. -/
def steadySession : Session where
  nonce := steadyRevocation.nonce
  commitment := steadyRevocation.commitment
  amount := 5
  masks := drawnMasks steadySource
  opening := drawnOpening steadySource
  status := .confirmed

theorem steadySession_run
    : ∃ history shop, steadyShop.Run history shop ∧ shop.ledger = { store := .memory .empty }
      ∧ shop.merchant.sessions.get? ⟨.ofNat 16 1⟩ = some steadySession :=
  ⟨_, _, Shop.Run.calls .start (steadyPayment.take 3), rfl, rfl⟩

/-- The opening of one payment is released for the secret that the payment had committed to, and the
ledger gives this secret.
-/
theorem released_against_lasting_revocation_steady
    : steadyShop.Opens .default .reject steadySource
      ∧ ∃ history shop, steadyShop.Run history shop
      ∧ ⟨.validateRevoked ⟨.ofNat 16 1⟩ steadyRevocation, .ok steadySession.opening⟩ ∈ history
      ∧ shop.ledger.get steadyRevocation.lock = .ok (some steadyRevocation.secret) := by
  obtain ⟨history, shop, run, ledger, found⟩ := steadySession_run
  have written : shop.ledger.put steadyRevocation.lock steadyRevocation.secret
      = .ok { store := .memory (Dict.empty.insert steadyRevocation.lock steadyRevocation.secret) } := by
    rw [ledger]
    rfl
  have right : RightRevocation steadySession steadyRevocation :=
    ⟨rfl, rfl, RevokedState.verify_eq_true.2 ⟨rfl, rfl⟩⟩
  have validated := validateRevoked_eq_ok.2 (.inr ⟨_, found, rfl, right, written, rfl, rfl⟩)
  obtain ⟨after, served, readable⟩ : ∃ after,
      shop.serve (.validateRevoked ⟨.ofNat 16 1⟩ steadyRevocation)
        = (.ok steadySession.opening, after) ∧ after.ledger.getOutage = none := by
    rw [Shop.serve, validated]
    exact ⟨_, rfl, rfl⟩
  have revoked := run.answered _ served
  obtain ⟨released, -⟩ := released_against_lasting_revocation steadyShop_opens revoked
  obtain ⟨-, -, stays⟩ := released _ _ _ List.mem_cons_self
  exact ⟨steadyShop_opens, _, after, revoked, List.mem_cons_self, (stays [] after .start).2 readable⟩

end PaymentChannel
