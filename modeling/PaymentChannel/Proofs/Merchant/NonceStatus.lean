import PaymentChannel.Proofs.Merchant.Revocations

/-! What a merchant answers about a nonce is what became of its payment.
Sessions and the nonces in use are two views of the payments under way, and no nonce that is used up
is among them. So the status of a nonce tells these cases apart.
-/

namespace PaymentChannel

open Merchant

-----------------------------------------------------------------------------------------
-- Sessions under way
-----------------------------------------------------------------------------------------

/-- The status of a payment that is neither over nor failed. -/
def PaymentStatus.IsLive (status : PaymentStatus) : Prop :=
  status = .prepared ∨ status = .updating ∨ status = .confirmed

/-- Every session of a merchant is under way: it is closed before its payment is over. -/
def Merchant.SessionsLive (merchant : Merchant) : Prop :=
  ∀ id session, merchant.sessions.get? id = some session → session.status.IsLive

section Steps

variable {merchant after : Merchant}

/-- A session moves on to a step of a payment under way. -/
theorem Merchant.SessionsLive.setSession (live : merchant.SessionsLive) {id : SessionId}
    {session : Session} (status : session.status.IsLive)
    : (merchant.setSession id session).SessionsLive := by
  intro other known found
  simp only [setSession_sessions, Dict.get?_insert] at found
  split at found
  case isTrue =>
    cases found
    exact status
  case isFalse => exact live other known found

/-- Sessions stay under way in every step, by cases on the kinds of steps. -/
theorem Merchant.SessionsLive.step (live : merchant.SessionsLive) {exchange : MerchantExchange}
    (step : PaymentStep merchant exchange after)
    : after.SessionsLive := by
  cases step with
  | kept _ same => simpa only [SessionsLive, same.sessions] using live
  | began _ => exact live.setSession (.inl rfl)
  | handed _ _ => exact live.setSession (.inr (.inl rfl))
  | confirmed _ _ => exact live.setSession (.inr (.inr rfl))
  | dropped _ _ _ | spoiled _ _ _ | revoked _ _ _ =>
      intro id session found
      have stays := get?_of_closeSession found
      exact live id session stays
  | repeated _ => exact live

end Steps

-----------------------------------------------------------------------------------------
-- The status of a nonce
-----------------------------------------------------------------------------------------

namespace Merchant

variable {merchant : Merchant} {nonce : Nonce}

/-- A nonce that is used up was revoked or failed. -/
theorem nonceStatus_of_spent {record : SpentNonce}
    (used : merchant.spentNonces.get? nonce = some record)
    : merchant.nonceStatus nonce = some .revoked ∨ merchant.nonceStatus nonce = some .failed := by
  cases known : record.revocation.isSome <;> simp [nonceStatus, used, known]

/-- A nonce that is neither used up nor in use has no status. -/
theorem nonceStatus_of_unused (unspent : merchant.spentNonces.get? nonce = none)
    (unused : merchant.liveNonces.get? nonce = none)
    : merchant.nonceStatus nonce = none := by
  simp [nonceStatus, unspent, unused]

namespace SessionIndex

/-- The nonce of a session has the status of the session. -/
theorem nonceStatus_eq (index : merchant.SessionIndex) {id : SessionId} {session : Session}
    (found : merchant.sessions.get? id = some session)
    : merchant.nonceStatus session.nonce = some session.status := by
  simp [nonceStatus, index.unspent id session found, index.indexed id session found, sessionStatus,
    found]

/-- A nonce in use is found exactly under the identifier of its session. -/
theorem liveNonces_eq_some (index : merchant.SessionIndex) (id : SessionId)
    : merchant.liveNonces.get? nonce = some id
      ↔ ∃ session, merchant.sessions.get? id = some session ∧ session.nonce = nonce := by
  refine ⟨index.live nonce id, ?_⟩
  rintro ⟨session, found, rfl⟩
  exact index.indexed id session found

/-- A nonce is used up, that of one session, or free. -/
theorem nonce_cases (index : merchant.SessionIndex) (nonce : Nonce)
    : (∃ record, merchant.spentNonces.get? nonce = some record
        ∧ merchant.liveNonces.get? nonce = none)
      ∨ (∃ id session, merchant.sessions.get? id = some session ∧ session.nonce = nonce
        ∧ merchant.spentNonces.get? nonce = none)
      ∨ (merchant.spentNonces.get? nonce = none ∧ merchant.liveNonces.get? nonce = none) := by
  cases inUse : merchant.liveNonces.get? nonce with
  | none =>
      cases used : merchant.spentNonces.get? nonce with
      | none => exact .inr (.inr ⟨rfl, rfl⟩)
      | some record => exact .inl ⟨record, rfl, rfl⟩
  | some id =>
      obtain ⟨session, found, rfl⟩ := index.live nonce id inUse
      exact .inr (.inl ⟨id, session, found, rfl, index.unspent id session found⟩)

end SessionIndex

/-- The nonces of a merchant are accounted for: those in use are the nonces of the sessions under
way, those that are used up are apart from them, and the status of a nonce says which it is.
-/
structure NoncesAccounted (merchant : Merchant) : Prop where
  /-- A nonce is in use for an identifier exactly if the session of the identifier has it. -/
  inUse_iff : ∀ nonce id, merchant.liveNonces.get? nonce = some id
    ↔ ∃ session, merchant.sessions.get? id = some session ∧ session.nonce = nonce
  /-- No two sessions have one nonce. -/
  unique : ∀ id other session known, merchant.sessions.get? id = some session
    → merchant.sessions.get? other = some known → known.nonce = session.nonce → other = id
  size_eq : merchant.liveNonces.size = merchant.sessions.size
  /-- No nonce in use is used up. -/
  apart : ∀ nonce, merchant.liveNonces.contains nonce = true → merchant.isNonceSpent nonce = false
  live : merchant.SessionsLive
  /-- A recorded secret opens its lock. -/
  opens : ∀ nonce record lock secret, merchant.spentNonces.get? nonce = some record
    → record.revocation = some (lock, secret) → sha256 secret.bytes.toList = lock.bytes
  /-- A nonce was revoked or failed exactly if it is used up. -/
  over_iff : ∀ nonce,
    merchant.nonceStatus nonce = some .revoked ∨ merchant.nonceStatus nonce = some .failed
    ↔ merchant.isNonceSpent nonce = true
  /-- Any other status is that of the session for which the nonce is in use. -/
  underWay_iff : ∀ nonce status, status.IsLive
    → (merchant.nonceStatus nonce = some status
      ↔ ∃ id, merchant.liveNonces.get? nonce = some id ∧ merchant.sessionStatus id = some status)
  /-- A nonce has no status exactly if it is free. -/
  free_iff : ∀ nonce, merchant.nonceStatus nonce = none
    ↔ merchant.isNonceSpent nonce = false ∧ merchant.liveNonces.contains nonce = false

namespace SessionIndex

/-- A nonce was revoked or failed exactly if it is used up: the session of a nonce in use is under
way.
-/
theorem over_iff (index : merchant.SessionIndex) (live : merchant.SessionsLive) (nonce : Nonce)
    : merchant.nonceStatus nonce = some .revoked ∨ merchant.nonceStatus nonce = some .failed
      ↔ merchant.isNonceSpent nonce = true := by
  unfold isNonceSpent
  rcases index.nonce_cases nonce
    with ⟨record, used, -⟩ | ⟨id, session, found, rfl, unspent⟩ | ⟨unspent, unused⟩
  · simp [nonceStatus_of_spent used, Dict.contains, used]
  · rw [index.nonceStatus_eq found]
    rcases live id session found with status | status | status <;>
      simp [status, Dict.contains, unspent]
  · simp [nonceStatus_of_unused unspent unused, Dict.contains, unspent]

theorem underWay_iff (index : merchant.SessionIndex) {status : PaymentStatus}
    (live : status.IsLive)
    : merchant.nonceStatus nonce = some status
      ↔ ∃ id, merchant.liveNonces.get? nonce = some id
        ∧ merchant.sessionStatus id = some status := by
  constructor
  · intro told
    rcases index.nonce_cases nonce
      with ⟨record, used, -⟩ | ⟨id, session, found, rfl, -⟩ | ⟨unspent, unused⟩
    · have ended := nonceStatus_of_spent used
      rw [told] at ended
      rcases live with rfl | rfl | rfl <;> simp at ended
    · rw [index.nonceStatus_eq found] at told
      exact ⟨id, index.indexed id session found, by simpa [sessionStatus, found] using told⟩
    · rw [nonceStatus_of_unused unspent unused] at told
      cases told
  · rintro ⟨id, inUse, told⟩
    obtain ⟨session, found, rfl⟩ := index.live nonce id inUse
    rw [index.nonceStatus_eq found]
    simpa [sessionStatus, found] using told

theorem free_iff (index : merchant.SessionIndex) (nonce : Nonce)
    : merchant.nonceStatus nonce = none
      ↔ merchant.isNonceSpent nonce = false ∧ merchant.liveNonces.contains nonce = false := by
  rw [isNonceSpent, Dict.contains_eq_false_iff, Dict.contains_eq_false_iff]
  rcases index.nonce_cases nonce
    with ⟨record, used, -⟩ | ⟨id, session, found, rfl, -⟩ | ⟨unspent, unused⟩
  · rcases nonceStatus_of_spent used with status | status <;> simp [status, used]
  · simp [index.nonceStatus_eq found, index.indexed id session found]
  · simp [nonceStatus_of_unused unspent unused, unspent, unused]

end SessionIndex

end Merchant

-----------------------------------------------------------------------------------------
-- Runs
-----------------------------------------------------------------------------------------

section Runs

variable {params : ChannelParams} {policy : RefundPolicy} {source : Entropy} {start shop : Shop}
  {history : List MerchantExchange}

/-- Sessions are under way in every run, by induction on the run. -/
theorem Merchant.SessionsLive.run (opens : start.Opens params policy source)
    (run : start.Run history shop)
    : shop.merchant.SessionsLive := by
  induction run with
  | start =>
      obtain ⟨-, _, -, _, -, _, -, opened⟩ := init_eq_ok.1 opens
      intro id session found
      rw [opened] at found
      simp [fresh] at found
  | @call _ shop _ call ih => exact ih.step (shop.paymentStep call)
  | ledger _ _ ih => exact ih

/-- In every run of a merchant, whatever it is called for, its nonces are accounted for. -/
theorem nonces_accounted (opens : start.Opens params policy source)
    (run : start.Run history shop)
    : shop.merchant.NoncesAccounted := by
  obtain ⟨_, records⟩ := PaymentRecords.run opens run
  have index := records.index
  have live := SessionsLive.run opens run
  exact {
    inUse_iff := fun _ => index.liveNonces_eq_some
    unique := fun _ _ _ _ found there same => index.id_unique found there same
    size_eq := Dict.size_eq_of_labels fun _ => index.liveNonces_eq_some
    apart := by
      intro nonce inUse
      obtain ⟨id, inUse⟩ := Dict.contains_iff.1 inUse
      obtain ⟨session, found, rfl⟩ := index.live nonce id inUse
      exact Dict.contains_eq_false_iff.2 (index.unspent id session found)
    live
    opens := by
      intro nonce record lock secret used known
      have revocations := RevocationRecords.run opens run
      exact congrArg RevLock.bytes (revocations.recorded nonce record lock secret used known).1
    over_iff := index.over_iff live
    underWay_iff := fun _ _ => index.underWay_iff
    free_iff := index.free_iff }

end Runs

-----------------------------------------------------------------------------------------
-- An identifier that is used again
-----------------------------------------------------------------------------------------

/-- The request of another payment with the identifier of an earlier one. -/
def reusingRequest : PaymentRequest :=
  ⟨⟨.ofNat 16 1⟩, steadyRevocation.nonce.next, steadyRevocation.commitment, 7, none⟩

/-- The shop after one payment, when the identifier of the payment is used again. -/
def busyShop : Shop :=
  (steadyShop.calls [] (steadyPayment ++ [.preparePayment reusingRequest steadySource])).2

/-- The nonce of the first payment is used up and that of the second one is in use, although both
payments had one identifier.
-/
theorem nonces_accounted_busy
    : steadyShop.Opens .default .reject steadySource
      ∧ (∃ history, steadyShop.Run history busyShop)
      ∧ busyShop.merchant.liveNonces.get? reusingRequest.nonce = some ⟨.ofNat 16 1⟩
      ∧ busyShop.merchant.nonceStatus reusingRequest.nonce = some .prepared
      ∧ busyShop.merchant.liveNonces.size = 1
      ∧ (busyShop.merchant.nonceStatus steadyRevocation.nonce = some .revoked
        ∨ busyShop.merchant.nonceStatus steadyRevocation.nonce = some .failed)
      ∧ sha256 steadyRevocation.secret.bytes.toList = steadyRevocation.lock.bytes := by
  have run : steadyShop.Run _ busyShop := Shop.Run.calls .start _
  have accounted := nonces_accounted steadyShop_opens run
  have found : busyShop.merchant.sessions.get? ⟨.ofNat 16 1⟩
      = some (begunSession reusingRequest steadySource) := by decide +kernel
  have one : busyShop.merchant.sessions.size = 1 := by decide +kernel
  have spent : busyShop.merchant.isNonceSpent steadyRevocation.nonce = true := by decide +kernel
  have used : (busyShop.merchant.spentNonces.get? steadyRevocation.nonce).bind (·.revocation)
      = some (steadyRevocation.lock, steadyRevocation.secret) := by decide +kernel
  obtain ⟨record, recorded, known⟩ := Option.bind_eq_some_iff.1 used
  have inUse := (accounted.inUse_iff reusingRequest.nonce _).2 ⟨_, found, rfl⟩
  have status : busyShop.merchant.sessionStatus ⟨.ofNat 16 1⟩ = some .prepared :=
    congrArg (Option.map Session.status) found
  exact ⟨steadyShop_opens, ⟨_, run⟩, inUse,
    (accounted.underWay_iff _ .prepared (.inl rfl)).2 ⟨_, inUse, status⟩,
    accounted.size_eq.trans one, (accounted.over_iff _).2 spent,
    accounted.opens _ record _ _ recorded known⟩

end PaymentChannel
