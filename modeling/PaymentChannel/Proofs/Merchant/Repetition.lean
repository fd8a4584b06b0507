import PaymentChannel.Proofs.Merchant.Revocations

/-! Revocations that are repeated.
A revocation that was answered is answered again from the record of its nonce, through whatever the
merchant is called for in the meantime. The record is looked for only where no session is under way
with the identifier, and identifiers are free again once their payment is over, so another payment
under the same identifier stands in the way.
-/

namespace PaymentChannel

open Merchant

namespace Merchant

variable {merchant : Merchant} {id : SessionId} {session : Session} {revoked : RevokedState}

/-- Without a session the record of the nonce answers, and nothing changes. -/
theorem validateRevoked_of_gone (gone : merchant.sessions.get? id = none) (ledger : Ledger)
    (revoked : RevokedState)
    : merchant.validateRevoked ledger id revoked
      = (merchant.releasedOpening id revoked, merchant, ledger) := by
  simp [validateRevoked, gone]

/-- A session that is not confirmed refuses every revocation, and nothing changes. -/
theorem validateRevoked_of_unconfirmed (found : merchant.sessions.get? id = some session)
    (unconfirmed : session.status ≠ .confirmed) (ledger : Ledger) (revoked : RevokedState)
    : merchant.validateRevoked ledger id revoked
      = (.refuse (.sessionMismatch session.status .confirmed), merchant, ledger) := by
  simp [validateRevoked, found, unconfirmed]

/-- What a session under way makes of the revocation of an earlier payment. -/
def standIn (merchant : Merchant) (id : SessionId) (session : Session)
    : Outcome ChannelError PayMaskOpening × Merchant :=
  if session.status = .confirmed then
    (.refuse .invalidRevocationProof,
      (merchant.spend session.nonce ⟨id, none, session.opening⟩).closeSession id)
  else (.refuse (.sessionMismatch session.status .confirmed), merchant)

/-- A session under way has a nonce of its own, so the revocation of a nonce that is used up is wrong
for it.
-/
theorem validateRevoked_of_spent (index : merchant.SessionIndex)
    (found : merchant.sessions.get? id = some session) {record : SpentNonce}
    (used : merchant.spentNonces.get? revoked.nonce = some record) (ledger : Ledger)
    : merchant.validateRevoked ledger id revoked
      = ((merchant.standIn id session).1, (merchant.standIn id session).2, ledger) := by
  have wrong : ¬RightRevocation session revoked := by
    rintro ⟨nonce, -⟩
    rw [nonce, index.unspent id session found] at used
    cases used
  by_cases confirmed : session.status = .confirmed
  · simp only [standIn, confirmed, if_true, validateRevoked_of_wrong found confirmed wrong]
  · simp only [standIn, confirmed, if_false, validateRevoked_of_unconfirmed found confirmed]

end Merchant

/-- A revocation that was answered is answered again with the same opening, and nothing changes,
exactly if no session is under way with its identifier, whatever happened in the meantime. A session
under way is that of another payment. It refuses the repetition, and if it is confirmed its nonce is
used up for it.
-/
theorem repeated_revocation_answered_iff {params : ChannelParams} {policy : RefundPolicy}
    {source : Entropy} {start shop : Shop} (opens : start.Opens params policy source)
    {history : List MerchantExchange} (run : start.Run history shop) {id : SessionId}
    {revoked : RevokedState} {opening : PayMaskOpening}
    (released : ⟨.validateRevoked id revoked, .ok opening⟩ ∈ history)
    : (shop.serve (.validateRevoked id revoked) = (.ok opening, shop)
        ↔ shop.merchant.sessions.get? id = none)
      ∧ ∀ session, shop.merchant.sessions.get? id = some session
        → session.nonce ≠ revoked.nonce
          ∧ shop.serve (.validateRevoked id revoked)
            = ((shop.merchant.standIn id session).1,
              { shop with merchant := (shop.merchant.standIn id session).2 }) := by
  have used := (RevocationRecords.run opens run).released id revoked opening
    (released_mem_iff.2 released)
  obtain ⟨_, records⟩ := PaymentRecords.run opens run
  have taken : ∀ session, shop.merchant.sessions.get? id = some session
      → shop.serve (.validateRevoked id revoked)
        = ((shop.merchant.standIn id session).1,
          { shop with merchant := (shop.merchant.standIn id session).2 }) := by
    intro session found
    rw [Shop.serve, validateRevoked_of_spent records.index found used]
    rfl
  refine ⟨⟨fun answered => ?_, fun gone => ?_⟩, fun session found => ⟨?_, taken session found⟩⟩
  · rcases found : shop.merchant.sessions.get? id with - | session
    · rfl
    · rw [taken session found] at answered
      have refused := congrArg Prod.fst answered
      unfold standIn at refused
      split at refused <;> cases refused
  · have again : shop.merchant.releasedOpening id revoked = .ok opening :=
      releasedOpening_eq_ok.2 ⟨_, used, rfl, rfl, rfl⟩
    rw [Shop.serve, validateRevoked_of_gone gone, again]
    rfl
  · intro same
    have unspent := records.index.unspent id session found
    rw [same, used] at unspent
    cases unspent

-----------------------------------------------------------------------------------------
-- A payment under the identifier of an earlier one
-----------------------------------------------------------------------------------------

/-- The shop once the masks of its payment are released. -/
def maskedShop : Shop := (steadyShop.calls [] (steadyPayment.take 3)).2

/-- The shop after its payment. -/
def revokedShop : Shop := maskedShop.after (.validateRevoked ⟨.ofNat 16 1⟩ steadyRevocation)

theorem revokedShop_run
    : ∃ history, steadyShop.Run
        (⟨.validateRevoked ⟨.ofNat 16 1⟩ steadyRevocation, .ok steadySession.opening⟩ :: history)
        revokedShop := by
  have run : steadyShop.Run _ maskedShop := Shop.Run.calls .start (steadyPayment.take 3)
  have found : maskedShop.merchant.sessions.get? ⟨.ofNat 16 1⟩ = some steadySession := rfl
  have ledger : maskedShop.ledger = { store := .memory .empty } := rfl
  unfold revokedShop
  -- From here on the shop must not be evaluated again, which would compute its hashes.
  generalize maskedShop = shop at run found ledger ⊢
  have written : shop.ledger.put steadyRevocation.lock steadyRevocation.secret
      = .ok { store := .memory (Dict.empty.insert steadyRevocation.lock steadyRevocation.secret) } := by
    rw [ledger]
    rfl
  have right : RightRevocation steadySession steadyRevocation :=
    ⟨rfl, rfl, RevokedState.verify_eq_true.2 ⟨rfl, rfl⟩⟩
  have validated := validateRevoked_eq_ok.2 (.inr ⟨_, found, rfl, right, written, rfl, rfl⟩)
  have released : (shop.serve (.validateRevoked ⟨.ofNat 16 1⟩ steadyRevocation)).1
      = .ok steadySession.opening := by
    rw [Shop.serve, validated]
    rfl
  exact ⟨_, run.answered _ (Prod.ext released rfl)⟩

/-- The opening of a payment that is over is released once more. -/
theorem repeated_revocation_answered_steady
    : steadyShop.Opens .default .reject steadySource
      ∧ (∃ history, steadyShop.Run history revokedShop)
      ∧ revokedShop.serve (.validateRevoked ⟨.ofNat 16 1⟩ steadyRevocation)
        = (.ok steadySession.opening, revokedShop) := by
  obtain ⟨history, run⟩ := revokedShop_run
  have gone : revokedShop.merchant.sessions.get? ⟨.ofNat 16 1⟩ = none := by decide +kernel
  obtain ⟨answered, -⟩ := repeated_revocation_answered_iff steadyShop_opens run List.mem_cons_self
  exact ⟨steadyShop_opens, ⟨_, run⟩, answered.2 gone⟩

/-- A request for another payment under the same identifier. -/
def successorRequest : PaymentRequest where
  session := ⟨.ofNat 16 1⟩
  nonce := .first (.ofNat 8 2)
  commitment := steadyRevocation.commitment
  amount := 5
  justification := none

/-- When another payment has begun under its identifier, a revocation that was answered is refused
when it is repeated.
-/
theorem reused_session_refuses_repetition
    : steadyShop.Opens .default .reject steadySource
      ∧ ∃ history shop opening, steadyShop.Run history shop
        ∧ ⟨.validateRevoked ⟨.ofNat 16 1⟩ steadyRevocation, .ok opening⟩ ∈ history
        ∧ (shop.serve (.validateRevoked ⟨.ofNat 16 1⟩ steadyRevocation)).1
          = (.refuse (.sessionMismatch .prepared .confirmed) : Outcome ChannelError PayMaskOpening)
    := by
  obtain ⟨history, run⟩ := revokedShop_run
  have begun : ((revokedShop.after (.preparePayment successorRequest steadySource)).merchant.sessions
      |>.get? ⟨.ofNat 16 1⟩).map (·.status) = some .prepared := by
    decide +kernel
  obtain ⟨session, found, prepared⟩ := Option.map_eq_some_iff.1 begun
  refine ⟨steadyShop_opens, _, _, _, run.call (.preparePayment successorRequest steadySource),
    List.mem_cons_of_mem _ List.mem_cons_self, ?_⟩
  rw [Shop.serve, validateRevoked_of_unconfirmed found (by simp [prepared]), prepared]

end PaymentChannel
