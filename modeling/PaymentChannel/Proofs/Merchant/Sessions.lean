import PaymentChannel.Proofs.Merchant.Steps

/-! What a step does to the payments of a merchant.
The index of nonces in use follows the sessions through all steps, however identifiers and nonces of
dropped sessions are used again. No step makes a burnt nonce usable again.
-/

namespace PaymentChannel

namespace Merchant

-----------------------------------------------------------------------------------------
-- Steps of payments
-----------------------------------------------------------------------------------------

/-- Two merchants with the same payments, under way or over. -/
structure SamePayments (before after : Merchant) : Prop where
  sessions : after.sessions = before.sessions
  liveNonces : after.liveNonces = before.liveNonces
  spentNonces : after.spentNonces = before.spentNonces

theorem SamePayments.refl (merchant : Merchant) : SamePayments merchant merchant :=
  ⟨rfl, rfl, rfl⟩

/-- A channel in a different state leaves all payments alone. -/
theorem samePayments_setChannel (merchant : Merchant) (escrow : Txid) (channel : MerchantChannel)
    : SamePayments merchant (merchant.setChannel escrow channel) :=
  ⟨rfl, rfl, rfl⟩

end Merchant

open Merchant

/-- How the payments of a merchant change in an exchange. -/
inductive PaymentStep (before : Merchant) : MerchantExchange → Merchant → Prop
  /-- No payment is concerned. -/
  | kept {exchange : MerchantExchange} {after : Merchant} (quiet : exchange.payment? = none)
    (same : SamePayments before after)
    : PaymentStep before exchange after
  /-- A session opens with an identifier and a nonce that were free. -/
  | began {request : PaymentRequest} {source : Entropy}
    (checked : before.checkPayment request = .ok ())
    : PaymentStep before
        ⟨.preparePayment request source,
          .ok ⟨request.session,
            .commit (drawnOpening source).mask (drawnOpening source).randomness⟩⟩
        { before.setSession request.session (begunSession request source) with
          liveNonces := before.liveNonces.insert request.nonce request.session }
  /-- A prepared session gives out its input for the masking service. -/
  | handed {id : SessionId} {session : Session} (found : before.sessions.get? id = some session)
    (prepared : session.status = .prepared)
    : PaymentStep before ⟨.maskingInput id, .ok (before.inputOf id session)⟩
        (before.setSession id { session with status := .updating })
  /-- An updating session is confirmed and releases the masks of its signatures. -/
  | confirmed {id : SessionId} {session : Session}
    (found : before.sessions.get? id = some session) (updating : session.status = .updating)
    : PaymentStep before ⟨.confirmMasking id true, .ok ⟨id, session.masks⟩⟩
        (before.setSession id { session with status := .confirmed })
  /-- A session that was not confirmed is dropped, and its nonce is free again. -/
  | dropped {exchange : MerchantExchange} {id : SessionId} {session : Session}
    (quiet : exchange.payment? = none) (found : before.sessions.get? id = some session)
    (unconfirmed : session.status = .prepared ∨ session.status = .updating)
    : PaymentStep before exchange (before.closeSession id)
  /-- A wrong revocation uses the nonce of a confirmed session up. -/
  | spoiled {id : SessionId} {session : Session} {revoked : RevokedState}
    (found : before.sessions.get? id = some session)
    (confirmed : session.status = .confirmed) (wrong : ¬RightRevocation session revoked)
    : PaymentStep before ⟨.validateRevoked id revoked, .error (.refused .invalidRevocationProof)⟩
        ((before.spend session.nonce ⟨id, none, session.opening⟩).closeSession id)
  /-- A right revocation uses the nonce of a confirmed session up and releases its opening. -/
  | revoked {id : SessionId} {session : Session} {revoked : RevokedState}
    (found : before.sessions.get? id = some session) (confirmed : session.status = .confirmed)
    (right : RightRevocation session revoked)
    : PaymentStep before ⟨.validateRevoked id revoked, .ok session.opening⟩
        ((before.spend session.nonce
          ⟨id, some (revoked.lock, revoked.secret), session.opening⟩).closeSession id)
  /-- The opening of a nonce that is used up is released again. -/
  | repeated {id : SessionId} {revoked : RevokedState} {opening : PayMaskOpening}
    (released : before.releasedOpening id revoked = .ok opening)
    : PaymentStep before ⟨.validateRevoked id revoked, .ok opening⟩ before

/-- The payments of a shop change by one of these steps, whatever happens to its channels. -/
theorem ShopStep.payments {shop after : Shop} {exchange : MerchantExchange}
    (step : ShopStep shop exchange after)
    : PaymentStep shop.merchant exchange after.merchant := by
  cases step with
  | silent quiet => exact .kept (by simp [MerchantExchange.payment?, quiet]) (.refl _)
  | registered quiet _ _ _ _ _ =>
      exact .kept (by simp [MerchantExchange.payment?, quiet]) (samePayments_setChannel _ _ _)
  | announced _ _ _ => exact .kept rfl (samePayments_setChannel _ _ _)
  | moved quiet _ _ =>
      exact .kept (by simp [MerchantExchange.payment?, quiet]) (samePayments_setChannel _ _ _)
  | issued _ _ _ _ _ => exact .kept rfl (.refl _)
  | began checked => exact .began checked
  | handed found prepared => exact .handed found prepared
  | confirmed found updating => exact .confirmed found updating
  | dropped quiet found unconfirmed =>
      exact .dropped (by simp [MerchantExchange.payment?, quiet]) found unconfirmed
  | spoiled found confirmed wrong => exact .spoiled found confirmed wrong
  | revoked found confirmed right _ => exact .revoked found confirmed right
  | repeated _ released => exact .repeated released
  | @refused id revoked failure _ =>
      refine .kept ?_ (.refl _)
      by_cases wrong : failure = .refused .invalidRevocationProof
      · rw [wrong]
        rfl
      · rw [MerchantExchange.payment?, Shop.event?_of_ne wrong]
        rfl

/-- Every call is one of these steps for the payments of a merchant. -/
theorem Shop.paymentStep (shop : Shop) (call : MerchantCall)
    : PaymentStep shop.merchant (shop.exchange call) (shop.after call).merchant :=
  (shop.step call).payments

-----------------------------------------------------------------------------------------
-- The index of sessions
-----------------------------------------------------------------------------------------

namespace Merchant

/-- The nonces in use are those of the sessions under way, each is in use once, and none of them
is used up.
-/
structure SessionIndex (merchant : Merchant) : Prop where
  /-- A nonce in use is the nonce of its session. -/
  live : ∀ nonce id, merchant.liveNonces.get? nonce = some id
    → ∃ session, merchant.sessions.get? id = some session ∧ session.nonce = nonce
  /-- The nonce of a session is in use for it. -/
  indexed : ∀ id session, merchant.sessions.get? id = some session
    → merchant.liveNonces.get? session.nonce = some id
  unspent : ∀ id session, merchant.sessions.get? id = some session
    → merchant.spentNonces.get? session.nonce = none

namespace SessionIndex

variable {merchant after : Merchant} {id : SessionId} {session : Session}

/-- Two sessions with one nonce are one session. -/
theorem id_unique (index : merchant.SessionIndex) {other : SessionId} {known : Session}
    (found : merchant.sessions.get? id = some session)
    (also : merchant.sessions.get? other = some known) (same : known.nonce = session.nonce)
    : other = id := by
  have here := index.indexed id session found
  have there := index.indexed other known also
  rw [same, here] at there
  exact (Option.some.inj there).symm

/-- The index depends on the payments only. -/
theorem of_same (index : merchant.SessionIndex) (same : SamePayments merchant after)
    : after.SessionIndex := by
  obtain ⟨live, indexed, unspent⟩ := index
  constructor <;> simpa only [same.sessions, same.liveNonces, same.spentNonces]

/-- A session that only moves on to another step stays indexed. -/
theorem setStatus (index : merchant.SessionIndex)
    (found : merchant.sessions.get? id = some session) (status : PaymentStatus)
    : (merchant.setSession id { session with status }).SessionIndex where
  live nonce other used := by
    obtain ⟨known, there, same⟩ := index.live nonce other used
    by_cases here : other = id
    · subst here
      rw [found] at there
      cases there
      exact ⟨{ session with status }, by simp, same⟩
    · exact ⟨known, by simpa [Dict.get?_insert, here] using there, same⟩
  indexed other known there := by
    simp only [setSession_sessions, Dict.get?_insert] at there
    split at there
    case isTrue here =>
      cases there
      exact here ▸ index.indexed id session found
    case isFalse => exact index.indexed other known there
  unspent other known there := by
    simp only [setSession_sessions, Dict.get?_insert] at there
    split at there
    case isTrue =>
      cases there
      exact index.unspent id session found
    case isFalse => exact index.unspent other known there

/-- A session that opens with a free identifier and a free nonce is indexed. -/
theorem opened (index : merchant.SessionIndex) {request : PaymentRequest} {source : Entropy}
    (checked : merchant.checkPayment request = .ok ())
    : SessionIndex { merchant.setSession request.session (begunSession request source) with
        liveNonces := merchant.liveNonces.insert request.nonce request.session } := by
  obtain ⟨unspent, unused, free⟩ := free_of_checkPayment checked
  -- The nonce of an older session is in use, so the new session has a different one.
  have apart : ∀ other known, merchant.sessions.get? other = some known
      → known.nonce ≠ request.nonce := by
    intro other known there same
    have used := index.indexed other known there
    rw [same, unused] at used
    cases used
  constructor
  · intro nonce other used
    simp only [Dict.get?_insert] at used
    split at used
    case isTrue same =>
      cases used
      exact ⟨begunSession request source, by simp, same.symm⟩
    case isFalse =>
      obtain ⟨known, there, same⟩ := index.live nonce other used
      refine ⟨known, ?_, same⟩
      have elsewhere : other ≠ request.session := Dict.ne_of_get?_eq_none free there
      simpa [Dict.get?_insert, elsewhere] using there
  · intro other known there
    simp only [setSession_sessions, Dict.get?_insert] at there ⊢
    split at there
    case isTrue here =>
      cases there
      simp [begunSession, here]
    case isFalse =>
      simpa [apart other known there] using index.indexed other known there
  · intro other known there
    simp only [setSession_sessions, Dict.get?_insert] at there
    split at there
    case isTrue =>
      cases there
      exact unspent
    case isFalse => exact index.unspent other known there

/-- A session that is closed leaves the index, and a nonce may be used up with it. -/
theorem closed (index : merchant.SessionIndex) (found : merchant.sessions.get? id = some session)
    (sessions : after.sessions = merchant.sessions.erase id)
    (liveNonces : after.liveNonces = merchant.liveNonces.erase session.nonce)
    (spentNonces : ∀ nonce, nonce ≠ session.nonce
      → after.spentNonces.get? nonce = merchant.spentNonces.get? nonce)
    : after.SessionIndex := by
  have stays : ∀ other known, after.sessions.get? other = some known
      → merchant.sessions.get? other = some known ∧ known.nonce ≠ session.nonce := by
    intro other known there
    rw [sessions, Dict.get?_erase] at there
    split at there
    case isTrue => cases there
    case isFalse elsewhere =>
      exact ⟨there, fun same => elsewhere (index.id_unique found there same)⟩
  constructor
  · intro nonce other used
    rw [liveNonces, Dict.get?_erase] at used
    split at used
    case isTrue => cases used
    case isFalse apart =>
      obtain ⟨known, there, same⟩ := index.live nonce other used
      refine ⟨known, ?_, same⟩
      have elsewhere : other ≠ id :=
        Dict.ne_of_get? Session.nonce found there fun equal => apart (same.symm.trans equal)
      rwa [sessions, Dict.get?_erase_of_ne elsewhere]
  · intro other known there
    obtain ⟨there, apart⟩ := stays other known there
    rw [liveNonces, Dict.get?_erase_of_ne apart]
    exact index.indexed other known there
  · intro other known there
    obtain ⟨there, apart⟩ := stays other known there
    rw [spentNonces _ apart]
    exact index.unspent other known there

/-- Closing a session whose nonce stays free. -/
theorem closeSession (index : merchant.SessionIndex)
    (found : merchant.sessions.get? id = some session)
    : (merchant.closeSession id).SessionIndex := by
  refine index.closed found (closeSession_sessions _ _) ?_ fun nonce _ => ?_
  · rw [closeSession_of_get? found]
  · rw [closeSession_spentNonces]

/-- Closing a session whose nonce is used up. -/
theorem spendSession (index : merchant.SessionIndex)
    (found : merchant.sessions.get? id = some session) (record : SpentNonce)
    : ((merchant.spend session.nonce record).closeSession id).SessionIndex := by
  have found' : (merchant.spend session.nonce record).sessions.get? id = some session := found
  refine index.closed found (closeSession_sessions _ _) ?_ fun nonce apart => ?_
  · rw [closeSession_of_get? found']
    rfl
  · rw [closeSession_spentNonces, spend_spentNonces, Dict.get?_insert_of_ne apart]

/-- No step breaks the index, by cases on the kinds of steps. -/
theorem step (index : merchant.SessionIndex) {exchange : MerchantExchange}
    (step : PaymentStep merchant exchange after)
    : after.SessionIndex := by
  cases step with
  | kept _ same => exact index.of_same same
  | began checked => exact index.opened checked
  | handed found _ => exact index.setStatus found .updating
  | confirmed found _ => exact index.setStatus found .confirmed
  | dropped _ found _ => exact index.closeSession found
  | spoiled found _ _ => exact index.spendSession found _
  | revoked found _ _ => exact index.spendSession found _
  | repeated _ => exact index

end SessionIndex

-----------------------------------------------------------------------------------------
-- Nonces that no payment can use again
-----------------------------------------------------------------------------------------

/-- A nonce is used up, or it is the nonce of a confirmed session, which uses it up. -/
def Burnt (merchant : Merchant) (nonce : Nonce) : Prop :=
  (∃ record, merchant.spentNonces.get? nonce = some record)
  ∨ ∃ id session, merchant.sessions.get? id = some session ∧ session.status = .confirmed
    ∧ session.nonce = nonce

variable {merchant after : Merchant} {nonce : Nonce} {id : SessionId} {session : Session}

/-- An identifier of a session that is not confirmed has no confirmed one. -/
theorem unconfirmed_of_get? (found : merchant.sessions.get? id = some session)
    (unconfirmed : session.status ≠ .confirmed)
    : ∀ known, merchant.sessions.get? id = some known → known.status ≠ .confirmed := by
  intro known again
  rw [found] at again
  cases again
  exact unconfirmed

/-- An identifier without a session has no confirmed one. -/
theorem unconfirmed_of_free (free : merchant.sessions.get? id = none)
    : ∀ known, merchant.sessions.get? id = some known → known.status ≠ .confirmed :=
  fun _ found => nomatch free.symm.trans found

/-- A session that moves on without ending leaves every burnt nonce burnt. -/
theorem Burnt.setSession (burnt : merchant.Burnt nonce) {changed : Session}
    (stays : ∀ session, merchant.sessions.get? id = some session → session.status ≠ .confirmed)
    : (merchant.setSession id changed).Burnt nonce := by
  refine burnt.imp_right ?_
  rintro ⟨other, known, there, confirmed, same⟩
  have elsewhere : other ≠ id := by
    rintro rfl
    exact stays known there confirmed
  exact ⟨other, known, by simpa [Dict.get?_insert, elsewhere] using there, confirmed, same⟩

/-- A session that ends unconfirmed leaves every burnt nonce burnt. -/
theorem Burnt.closeSession (burnt : merchant.Burnt nonce)
    (found : merchant.sessions.get? id = some session) (unconfirmed : session.status ≠ .confirmed)
    : (merchant.closeSession id).Burnt nonce := by
  unfold Burnt
  rw [closeSession_spentNonces, closeSession_sessions]
  refine burnt.imp_right ?_
  rintro ⟨other, known, there, confirmed, same⟩
  have elsewhere : other ≠ id :=
    Dict.ne_of_get? Session.status found there (confirmed ▸ unconfirmed.symm)
  exact ⟨other, known, (Dict.get?_erase_of_ne elsewhere).trans there, confirmed, same⟩

/-- A session that ends with its nonce used up leaves every burnt nonce burnt. -/
theorem Burnt.spend (burnt : merchant.Burnt nonce)
    (found : merchant.sessions.get? id = some session) (record : SpentNonce)
    : ((merchant.spend session.nonce record).closeSession id).Burnt nonce := by
  unfold Burnt
  rw [closeSession_spentNonces, spend_spentNonces, Dict.get?_insert, closeSession_sessions,
    spend_sessions]
  by_cases same : nonce = session.nonce
  · exact .inl ⟨record, if_pos same⟩
  · rw [if_neg same]
    refine burnt.imp_right ?_
    rintro ⟨other, known, there, confirmed, nonce⟩
    have elsewhere : other ≠ id :=
      Dict.ne_of_get? Session.nonce found there fun equal => same (nonce.symm.trans equal)
    exact ⟨other, known, (Dict.get?_erase_of_ne elsewhere).trans there, confirmed, nonce⟩

/-- A burnt nonce stays burnt in every step. -/
theorem Burnt.step (burnt : merchant.Burnt nonce) {exchange : MerchantExchange}
    (step : PaymentStep merchant exchange after)
    : after.Burnt nonce := by
  cases step with
  | kept _ same =>
      unfold Burnt
      rwa [same.sessions, same.spentNonces]
  | began checked => exact burnt.setSession (unconfirmed_of_free (free_of_checkPayment checked).2.2)
  | handed found prepared => exact burnt.setSession (unconfirmed_of_get? found (by simp [prepared]))
  | confirmed found updating => exact burnt.setSession (unconfirmed_of_get? found (by simp [updating]))
  | dropped _ found unconfirmed =>
      refine burnt.closeSession found ?_
      rcases unconfirmed with status | status <;> simp [status]
  | spoiled found _ _ => exact burnt.spend found _
  | revoked found _ _ => exact burnt.spend found _
  | repeated _ => exact burnt

/-- The nonce of a session that is not confirmed is not burnt. -/
theorem SessionIndex.not_burnt (index : merchant.SessionIndex)
    (found : merchant.sessions.get? id = some session) (unconfirmed : session.status ≠ .confirmed)
    : ¬merchant.Burnt session.nonce := by
  rintro (⟨record, used⟩ | ⟨other, known, there, confirmed, same⟩)
  · rw [index.unspent id session found] at used
    cases used
  · obtain rfl := index.id_unique found there same
    rw [found] at there
    cases there
    exact unconfirmed confirmed

end Merchant

end PaymentChannel
