import PaymentChannel.Proofs.Merchant.Repetition

/-! What a refused call leaves of a merchant and its ledger.
A refusal comes before everything that an operation changes, with two exceptions. Both end a session:
the one whose masking was not confirmed, and the one whose revocation was wrong. Their effects go as
far as the session and its nonce, and no further.
-/

namespace PaymentChannel

open Merchant

-----------------------------------------------------------------------------------------
-- Sessions that end with a refusal
-----------------------------------------------------------------------------------------

namespace Merchant

/-- A call reports that the masking of an updating session was not confirmed. -/
structure Unconfirms (merchant : Merchant) (call : MerchantCall) (id : SessionId)
    (session : Session) : Prop where
  reports : call = .confirmMasking id false
  found : merchant.sessions.get? id = some session
  updating : session.status = .updating

/-- A call brings a wrong revocation of a confirmed session. -/
structure Disproves (merchant : Merchant) (call : MerchantCall) (id : SessionId)
    (session : Session) : Prop where
  brings : ∃ revoked, call = .validateRevoked id revoked ∧ ¬RightRevocation session revoked
  found : merchant.sessions.get? id = some session
  confirmed : session.status = .confirmed

end Merchant

namespace Shop

/-- The shop without a session, whose nonce can be used again. -/
def dropped (shop : Shop) (id : SessionId) (session : Session) : Shop :=
  { shop with
    merchant := { shop.merchant with
      sessions := shop.merchant.sessions.erase id
      liveNonces := shop.merchant.liveNonces.erase session.nonce } }

/-- The shop without a session, whose nonce is used up and was never revoked. -/
def spoiled (shop : Shop) (id : SessionId) (session : Session) : Shop :=
  { shop with
    merchant := { shop.merchant with
      sessions := shop.merchant.sessions.erase id
      liveNonces := shop.merchant.liveNonces.erase session.nonce
      spentNonces := shop.merchant.spentNonces.insert session.nonce
        ⟨id, none, session.opening⟩ } }

variable {shop after : Shop} {call : MerchantCall} {failure : Failure ChannelError}
  {id : SessionId} {session : Session}

/-- A shop that still had a session is another one without it. -/
theorem ne_of_erase (found : shop.merchant.sessions.get? id = some session)
    (sessions : after.merchant.sessions = shop.merchant.sessions.erase id)
    : after ≠ shop := by
  rintro rfl
  rw [sessions, Dict.get?_erase_self] at found
  cases found

-----------------------------------------------------------------------------------------
-- The effect of a refusal
-----------------------------------------------------------------------------------------

/-- An operation that answers with a changed merchant changes nothing when it is refused. -/
theorem keep_error {α : Type} {outcome : Outcome ChannelError (α × Merchant)}
    (failed : shop.keep outcome = (.error failure, after))
    : after = shop := by
  rcases outcome with reason | ⟨answer, merchant⟩
  · exact (congrArg Prod.snd failed).symm
  · cases congrArg Prod.fst failed

/-- A report that a masking was not confirmed is refused, and the session is dropped. -/
theorem serve_of_unconfirms (unconfirms : shop.merchant.Unconfirms call id session)
    : shop.serve call
      = (.refuse (.service (.rejected "masking result is not confirmed")),
        shop.dropped id session) := by
  obtain ⟨rfl, found, updating⟩ := unconfirms
  have known : shop.merchant.session id = .ok session := session_eq_ok.2 found
  simp only [serve, confirmMasking, known, updating, ne_eq, not_true_eq_false, if_false,
    Bool.false_eq_true]
  rw [dropped, closeSession_of_get? found]
  rfl

/-- A wrong revocation is refused, and its session is spoiled. -/
theorem serve_of_disproves (disproves : shop.merchant.Disproves call id session)
    : shop.serve call = (.refuse .invalidRevocationProof, shop.spoiled id session) := by
  obtain ⟨⟨revoked, rfl, wrong⟩, found, confirmed⟩ := disproves
  have spent : (shop.merchant.spend session.nonce ⟨id, none, session.opening⟩).sessions.get? id
      = some session := found
  simp only [serve, validateRevoked_of_wrong found confirmed wrong]
  rw [spoiled, closeSession_of_get? spent]
  rfl

/-- A call that fails changes nothing, unless it ends a session in one of these two ways. -/
theorem serve_error (failed : shop.serve call = (.error failure, after))
    : after = shop ∨ (∃ id session, shop.merchant.Unconfirms call id session)
      ∨ ∃ id session, shop.merchant.Disproves call id session := by
  cases call with
  | openChannel | signInitial | validateInitial | markOpen | preparePayment | maskingInput
  | failSession | dispute | forceClose | claimOutput | markClosed => exact .inl (keep_error failed)
  | activate | checkLock | claimMerchantClose => exact .inl (congrArg Prod.snd failed).symm
  | confirmMasking id confirmed =>
      rcases ended : shop.merchant.confirmMasking id confirmed with ⟨outcome, merchant⟩
      simp only [serve, ended] at failed
      obtain ⟨rfl, rfl⟩ := failed
      rcases confirmMasking_error ended with rfl | ⟨session, found, updating, rfl, -⟩
      · exact .inl rfl
      · exact .inr (.inl ⟨id, session, rfl, found, updating⟩)
  | validateRevoked id revoked =>
      rcases ended : shop.merchant.validateRevoked shop.ledger id revoked
        with ⟨outcome, merchant, recorded⟩
      simp only [serve, ended] at failed
      obtain ⟨rfl, rfl⟩ := failed
      obtain ⟨rfl, ⟨-, rfl⟩ | ⟨-, rfl⟩ | ⟨session, found, confirmed, wrong, -⟩⟩ :=
        validateRevoked_error ended
      · exact .inl rfl
      · exact .inl rfl
      · exact .inr (.inr ⟨id, session, ⟨revoked, rfl, wrong⟩, found, confirmed⟩)

end Shop

/-- A call that fails leaves channels, sessions, nonces and ledger as they were, whatever the ledger has
become, with exactly two exceptions. A masking that is not confirmed takes its updating session and
its nonce out of use. A wrong revocation takes a confirmed session out of use and moves its nonce to
those that are used up, without a revocation. Nothing else changes in either case.
-/
theorem refused_calls_atomic {params : ChannelParams} {policy : RefundPolicy} {source : Entropy}
    {start shop after : Shop} (opens : start.Opens params policy source)
    {history : List MerchantExchange} (run : start.Run history shop) (ledger : Ledger)
    {call : MerchantCall} {failure : Failure ChannelError}
    (failed : Shop.serve { shop with ledger } call = (.error failure, after))
    : (after ≠ { shop with ledger }
        ↔ (∃ id session, shop.merchant.Unconfirms call id session)
          ∨ ∃ id session, shop.merchant.Disproves call id session)
      ∧ (∀ id session, shop.merchant.Unconfirms call id session
        → failure = .refused (.service (.rejected "masking result is not confirmed"))
          ∧ shop.merchant.liveNonces.get? session.nonce = some id
          ∧ after = Shop.dropped { shop with ledger } id session)
      ∧ ∀ id session, shop.merchant.Disproves call id session
        → failure = .refused .invalidRevocationProof
          ∧ shop.merchant.liveNonces.get? session.nonce = some id
          ∧ shop.merchant.spentNonces.get? session.nonce = none
          ∧ after = Shop.spoiled { shop with ledger } id session := by
  obtain ⟨_, records⟩ := PaymentRecords.run opens run
  have index := records.index
  have unconfirmed : ∀ id session, shop.merchant.Unconfirms call id session
      → failure = .refused (.service (.rejected "masking result is not confirmed"))
        ∧ after = Shop.dropped { shop with ledger } id session := by
    intro id session unconfirms
    have served := failed.symm.trans (Shop.serve_of_unconfirms unconfirms)
    exact ⟨Except.error.inj (congrArg Prod.fst served), congrArg Prod.snd served⟩
  have disproved : ∀ id session, shop.merchant.Disproves call id session
      → failure = .refused .invalidRevocationProof
        ∧ after = Shop.spoiled { shop with ledger } id session := by
    intro id session disproves
    have served := failed.symm.trans (Shop.serve_of_disproves disproves)
    exact ⟨Except.error.inj (congrArg Prod.fst served), congrArg Prod.snd served⟩
  refine ⟨⟨fun changed => ?_, ?_⟩, fun id session unconfirms => ?_, fun id session disproves => ?_⟩
  · exact (Shop.serve_error failed).resolve_left changed
  · rintro (⟨id, session, unconfirms⟩ | ⟨id, session, disproves⟩)
    · obtain ⟨-, rfl⟩ := unconfirmed id session unconfirms
      exact Shop.ne_of_erase unconfirms.found rfl
    · obtain ⟨-, rfl⟩ := disproved id session disproves
      exact Shop.ne_of_erase disproves.found rfl
  · obtain ⟨reason, effect⟩ := unconfirmed id session unconfirms
    exact ⟨reason, index.indexed id session unconfirms.found, effect⟩
  · obtain ⟨reason, effect⟩ := disproved id session disproves
    exact ⟨reason, index.indexed id session disproves.found,
      index.unspent id session disproves.found, effect⟩

-----------------------------------------------------------------------------------------
-- Refusals of one payment
-----------------------------------------------------------------------------------------

/-- The shop when the masking of its payment is under way. -/
def updatingShop : Shop := (steadyShop.calls [] (steadyPayment.take 2)).2

/-- A revocation whose secret does not open its lock. -/
def falseRevocation : RevokedState := { steadyRevocation with secret := ⟨.ofNat 32 3⟩ }

/-- Both exceptions take place: a masking that is not confirmed drops its session, and a revocation with
another secret spoils a confirmed one.
-/
theorem refused_calls_atomic_steady
    : let id : SessionId := ⟨.ofNat 16 1⟩
      let updating := { steadySession with status := .updating }
      steadyShop.Opens .default .reject steadySource
      ∧ (∃ history failure after, steadyShop.Run history updatingShop
        ∧ updatingShop.serve (.confirmMasking id false) = (.error failure, after)
        ∧ after ≠ updatingShop ∧ after = updatingShop.dropped id updating)
      ∧ ∃ history failure after, steadyShop.Run history maskedShop
        ∧ maskedShop.serve (.validateRevoked id falseRevocation) = (.error failure, after)
        ∧ after ≠ maskedShop ∧ after = maskedShop.spoiled id steadySession := by
  intro id updating
  have reported : updatingShop.merchant.Unconfirms (.confirmMasking id false) id updating :=
    ⟨rfl, rfl, rfl⟩
  have brought : maskedShop.merchant.Disproves (.validateRevoked id falseRevocation) id
      steadySession := by
    refine ⟨⟨_, rfl, fun right => ?_⟩, rfl, rfl⟩
    exact absurd right.2.2 (by decide +kernel)
  have begun : steadyShop.Run _ updatingShop := .calls .start (steadyPayment.take 2)
  have confirmed : steadyShop.Run _ maskedShop := .calls .start (steadyPayment.take 3)
  refine ⟨steadyShop_opens, ?_, ?_⟩
  -- From here on the shops must not be evaluated, which would compute their hashes.
  · generalize updatingShop = shop at reported begun ⊢
    have failed := Shop.serve_of_unconfirms reported
    obtain ⟨changes, dropped, -⟩ := refused_calls_atomic steadyShop_opens begun shop.ledger failed
    obtain ⟨-, -, effect⟩ := dropped id updating reported
    exact ⟨_, _, _, begun, failed, changes.2 (.inl ⟨id, updating, reported⟩), effect⟩
  · generalize maskedShop = shop at brought confirmed ⊢
    have failed := Shop.serve_of_disproves brought
    obtain ⟨changes, -, spoiled⟩ :=
      refused_calls_atomic steadyShop_opens confirmed shop.ledger failed
    obtain ⟨-, -, -, effect⟩ := spoiled id steadySession brought
    exact ⟨_, _, _, confirmed, failed, changes.2 (.inr ⟨id, steadySession, brought⟩), effect⟩

end PaymentChannel
