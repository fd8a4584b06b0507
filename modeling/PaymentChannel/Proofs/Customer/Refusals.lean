import PaymentChannel.Proofs.SessionsLeft

/-! What the kind of an error tells about the customer that was refused.
Errors of one kind promise that nothing changed. Signatures that do not verify are of this kind, and
yet they cost the merchant the customer's trust. Every other error of the kind keeps the promise.
-/

namespace PaymentChannel

namespace Customer

-----------------------------------------------------------------------------------------
-- Refusals of signatures
-----------------------------------------------------------------------------------------

variable {customer after : Customer} {call : CustomerCall} {reason : ChannelError}

theorem unmaskSignatures_refused {outputs : MaskedOutputs} {masks : TxMasks}
    (refused : unmaskSignatures outputs masks = .error (.refused reason))
    : reason.kind = .validation := by
  simp only [unmaskSignatures, unmaskSignature, Outcome.bind_eq_error, Outcome.require_eq_error,
    Failure.refused.injEq] at refused
  obtain ⟨-, rfl⟩ | ⟨_, -, ⟨-, rfl⟩ | ⟨_, -, answered⟩⟩ := refused
  · rfl
  · rfl
  · cases answered

theorem verifyClose_refused {token : ChannelToken} {state : ChannelState} {source : CloseSource}
    {signature : Signature}
    (refused : customer.verifyClose token state source signature = .error (.refused reason))
    : reason.kind = .validation := by
  simp only [verifyClose, Outcome.bind_eq_error, Outcome.mapRefusal_eq_refused,
    Outcome.ensure_eq_error, Failure.refused.injEq] at refused
  obtain ⟨_, -, rfl⟩ | ⟨_, -, -, rfl⟩ := refused
  · rfl
  · rfl

theorem verifySignatures_refused {token : ChannelToken} {state : ChannelState}
    {signatures : CloseSignatures}
    (refused : customer.verifySignatures token state signatures = .error (.refused reason))
    : reason.kind = .validation := by
  simp only [verifySignatures, Outcome.bind_eq_error] at refused
  obtain first | ⟨_, -, second⟩ := refused
  · exact verifyClose_refused first
  · exact verifyClose_refused second

-----------------------------------------------------------------------------------------
-- Refusals that change the customer
-----------------------------------------------------------------------------------------

/-- A call brings signatures to a payment that waits for them. -/
def ChecksSignatures (customer : Customer) (call : CustomerCall) : Prop :=
  ∃ outputs released, call = .acceptSignatures outputs released
    ∧ ∃ round, customer.roundAwaitingSignatures released = .ok round

/-- A call brings a wrong mask to a payment that waits for its pay token. -/
def BringsWrongMask (customer : Customer) (call : CustomerCall) : Prop :=
  ∃ opening, call = .acceptToken opening
    ∧ ∃ commitment masked, customer.awaitedToken = .ok (commitment, masked)
      ∧ opening.opens commitment = false

/-- The customer after a wrong mask. -/
def disappointed (customer : Customer) : Customer :=
  { customer with pending := none, merchantTrusted := false }

/-- A customer that trusts nobody has no trust to lose. -/
theorem distrusting_of (distrusts : customer.merchantTrusted = false)
    : customer.distrusting = customer := by
  rw [distrusting, ← distrusts]

/-- Signatures that a payment waits for are refused with an error of a caller's mistake, and cost the
merchant the customer's trust.
-/
theorem serve_of_checksSignatures (checks : customer.ChecksSignatures call)
    (refused : customer.serve call = (.refuse reason, after))
    : reason.kind = .validation ∧ after = customer.distrusting := by
  obtain ⟨outputs, released, rfl, ⟨channel, pending⟩, awaiting⟩ := checks
  simp only [serve, acceptSignatures, awaiting] at refused
  split at refused
  case h_1 => cases refused
  case h_2 cause wrong =>
    obtain ⟨⟨⟩, rfl⟩ := Prod.mk.inj refused
    simp only [Outcome.bind_eq_error] at wrong
    refine ⟨?_, rfl⟩
    obtain unreadable | ⟨_, -, unverified | ⟨_, -, answered⟩⟩ := wrong
    · exact unmaskSignatures_refused unreadable
    · exact verifySignatures_refused unverified
    · cases answered
  case h_3 => cases refused

/-- A wrong mask is refused and ends the payment. -/
theorem serve_of_bringsWrongMask (brings : customer.BringsWrongMask call)
    : customer.serve call = (.refuse .payTokenMaskMismatch, customer.disappointed) := by
  obtain ⟨opening, rfl, commitment, masked, awaited, wrong⟩ := brings
  simp only [serve, acceptToken, awaited, wrong, Bool.false_eq_true, if_false]
  rfl

/-- A refusal changes nothing, unless it is one of these two. -/
theorem serve_refused (refused : customer.serve call = (.refuse reason, after))
    : after = customer ∨ customer.ChecksSignatures call ∨ customer.BringsWrongMask call := by
  cases call with
  | fund | storeInitialSignatures | markOpen | requestActivation | finishActivation
  | preparePayment | maskingInput | revoke | abort | forceClose | markClosed | markDisputed =>
      exact .inl (Parties.afterwards_error refused)
  | initialState | claim => exact .inl (congrArg Prod.snd refused).symm
  | acceptSignatures outputs released =>
      rcases acceptSignatures_error refused with same | ⟨awaiting, -⟩
      · exact .inl same
      · exact .inr (.inl ⟨outputs, released, rfl, awaiting⟩)
  | acceptToken opening =>
      rcases acceptToken_error refused with same | ⟨wrong, -⟩
      · exact .inl same
      · exact .inr (.inr ⟨opening, rfl, wrong⟩)

end Customer

/-- What the kind of an error tells. An error of a caller's mistake changed nothing, except that
signatures which are refused in the middle of a payment take away the trust that the customer had. An
error of any other kind changed nothing, or it was a wrong mask: then the payment is dropped and the
trust is gone, and nothing else changed.
-/
theorem refusal_kinds_bound_effects {customer after : Customer} {call : CustomerCall}
    {reason : ChannelError} (refused : customer.serve call = (.refuse reason, after))
    : (reason.kind = .validation
        → (after ≠ customer ↔ customer.ChecksSignatures call ∧ customer.merchantTrusted = true))
      ∧ (customer.ChecksSignatures call
        → reason.kind = .validation ∧ after = customer.distrusting)
      ∧ (reason.kind ≠ .validation → after ≠ customer
        → reason = .payTokenMaskMismatch ∧ customer.BringsWrongMask call
          ∧ after = customer.disappointed) := by
  have checked := fun checks => Customer.serve_of_checksSignatures checks refused
  have mistaken : customer.BringsWrongMask call
      → reason = .payTokenMaskMismatch ∧ after = customer.disappointed := by
    intro brings
    have served := refused.symm.trans (Customer.serve_of_bringsWrongMask brings)
    obtain ⟨answer, effect⟩ := Prod.mk.inj served
    exact ⟨Failure.refused.inj (Except.error.inj answer), effect⟩
  have cases := Customer.serve_refused refused
  refine ⟨fun validation => ⟨fun changed => ?_, ?_⟩, checked, fun violation changed => ?_⟩
  · rcases cases with same | checks | brings
    · exact absurd same changed
    · refine ⟨checks, ?_⟩
      rcases trusts : customer.merchantTrusted
      · exact absurd ((checked checks).2.trans (Customer.distrusting_of trusts)) changed
      · rfl
    · rw [(mistaken brings).1] at validation
      cases validation
  · rintro ⟨checks, trusts⟩ same
    exact Customer.ne_distrusting trusts (same.symm.trans (checked checks).2)
  · rcases cases with same | checks | brings
    · exact absurd same changed
    · exact absurd (checked checks).1 violation
    · exact ⟨(mistaken brings).1, brings, (mistaken brings).2⟩

section Example

open Customer

-- Unification would compute keys and hashes where comparing their arguments is enough.
attribute [local irreducible] SecretKey.publicKey SignableTx.txid SignableTx.sign
  SignableTx.verifies sha256 hmacSha256

/-- Signatures that cannot be read, for the first payment. -/
def brokenDelivery : CustomerCall :=
  .acceptSignatures ⟨brokenSignature, brokenSignature, ⟨.ofNat 32 0⟩⟩
    ⟨patronRound.session, patronMasks⟩

theorem brokenDelivery_checked : awaitingPatron.ChecksSignatures brokenDelivery :=
  ⟨_, _, rfl, _, awaitingPatron_awaits patronMasks⟩

theorem brokenDelivery_refused
    : awaitingPatron.serve brokenDelivery
      = (.refuse (.signatureVerification .customerCloseFromEscrow), awaitingPatron.distrusting) := by
  simp only [serve, brokenDelivery, acceptSignatures, awaitingPatron_awaits, unmaskSignatures,
    unmaskSignature, unmask?_brokenSignature, Outcome.require, Outcome.refuse, Outcome.error_bind]
  rfl

/-- Signatures that cannot be read cost the trust in the merchant, and nothing else. -/
theorem refusal_kinds_bound_effects_patron
    : (∃ history, patron.Run history awaitingPatron)
      ∧ ∃ reason after, awaitingPatron.serve brokenDelivery = (.refuse reason, after)
        ∧ reason.kind = .validation ∧ after ≠ awaitingPatron
        ∧ after = awaitingPatron.distrusting := by
  obtain ⟨history, run, -⟩ := awaitingPatron_run
  obtain ⟨changes, distrusts, -⟩ := refusal_kinds_bound_effects brokenDelivery_refused
  obtain ⟨kind, effect⟩ := distrusts brokenDelivery_checked
  exact ⟨⟨_, run⟩, _, _, brokenDelivery_refused, kind,
    (changes kind).2 ⟨brokenDelivery_checked, rfl⟩, effect⟩

/-- A call in a run of a customer is refused as its own mistake, and yet the customer is not the same
afterwards.
-/
theorem mistaken_call_changes_customer
    : patron.Starts
      ∧ ∃ history customer call reason after, patron.Run history customer
        ∧ customer.serve call = (.refuse reason, after)
        ∧ reason.kind = .validation ∧ after ≠ customer := by
  obtain ⟨history, run, -⟩ := awaitingPatron_run
  exact ⟨patron_starts, history, awaitingPatron, brokenDelivery, _, _, run, brokenDelivery_refused,
    rfl, (Customer.ne_distrusting rfl).symm⟩

end Example

end PaymentChannel
