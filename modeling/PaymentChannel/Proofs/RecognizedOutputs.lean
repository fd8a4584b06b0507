import PaymentChannel.Proofs.MaskingSoundness
import PaymentChannel.Proofs.Merchant.Disputes
import PaymentChannel.Proofs.Overflow.Templates
import PaymentChannel.Proofs.Script.LockingScript
import PaymentChannel.Proofs.TemplateChain

/-! An output is recognized as what it was built for.
An output shows no more than the hash of its script. A party that compares it with the script it
expects accepts no other one, unless both scripts have one hash. A script in turn tells its keys, its
lock and its delay.
-/

namespace PaymentChannel

-----------------------------------------------------------------------------------------
-- Outputs of locking scripts
-----------------------------------------------------------------------------------------

/-- What was built is what is expected, or the output shows the hash of both. -/
def LockingScript.IsUpToCollision (built expected : LockingScript) : Prop :=
  built = expected
    ∨ built.output = .payToScript built.script
      ∧ IsCollision built.script.bytes expected.script.bytes

/-- An output that shows the hash of a script pays to no other one, unless both have one hash. -/
theorem Script.eq_or_collision {left right : Script} (same : payToScript left = payToScript right)
    : left = right ∨ IsCollision left.bytes right.bytes := by
  have shown := congrArg bytes same
  rw [bytes_payToScript, bytes_payToScript] at shown
  by_cases equal : left.bytes = right.bytes
  · exact .inl (congrArg mk equal)
  · exact .inr ⟨equal, Bytes.ext (List.append_cancel_left shown)⟩

/-- The hash of a key is shorter than that of a script. -/
theorem Script.toKey_ne_payToScript (key : PublicKey) (witness : Script)
    : toKey key ≠ payToScript witness := by
  intro same
  have lengths := congrArg (·.bytes.length) same
  simp [bytes_toKey, bytes_payToScript, Bytes.length_toList] at lengths

namespace LockingScript

variable {built : LockingScript} {lock : RevLock} {dispute close : PublicKey} {delay : UInt16}

/-- An output that was built for a channel has the script of a customer's output only if it is the
output of the same customer, lock and delay.
-/
theorem isUpToCollision_of_output
    (same : built.output = .payToScript (.toCustomer lock dispute close delay))
    : built.IsUpToCollision (.toCustomer lock dispute close delay) := by
  have hashed (shown : built.output = .payToScript built.script)
      : built.IsUpToCollision (.toCustomer lock dispute close delay) := by
    rcases Script.eq_or_collision (shown.symm.trans same) with equal | collision
    · have alike : built.Alike (.toCustomer lock dispute close delay) := script_eq_iff.1 equal
      cases alike
      exact .inl rfl
    · exact .inr ⟨shown, collision⟩
  cases built with
  | escrow | merchantClose | toCustomer => exact hashed rfl
  | toMerchant payout => exact absurd same (Script.toKey_ne_payToScript payout _)

end LockingScript

-----------------------------------------------------------------------------------------
-- Recognized outputs
-----------------------------------------------------------------------------------------

namespace Outcome

variable {α β : Type} {answers : α → Prop}

/-- The operation gets as far as its template: it is answered in the given way, or the template is
what refuses it.
-/
def Reaches (answers : α → Prop) (outcome : Outcome ChannelError α) : Prop :=
  (∃ answer, outcome = .ok answer ∧ answers answer)
    ∨ ∃ cause, outcome = .error (.refused (.template cause))

/-- A step that no template refuses has to be passed. -/
theorem reaches_bind {first : Outcome ChannelError β} {next : β → Outcome ChannelError α}
    (apart : ∀ cause, first ≠ .error (.refused (.template cause)))
    : (first >>= next).Reaches answers
      ↔ ∃ value, first = .ok value ∧ (next value).Reaches answers := by
  rcases first with failure | value
  · simpa [Reaches] using apart
  · simp [Reaches]

/-- A template that arithmetic does not stop is the last step. -/
theorem reaches_template {template : Outcome TemplateError β} {finish : β → α}
    (ends : ¬template.Stopped) (answered : ∀ value, answers (finish value))
    : (template.mapRefusal .template >>= fun value => pure (finish value)).Reaches answers := by
  rcases mapRefusal_ends.2 ends with ⟨value, formed⟩ | ⟨cause, refused⟩
  · exact .inl ⟨_, by rw [formed]; rfl, answered value⟩
  · exact .inr ⟨cause, by rw [refused]; rfl⟩

end Outcome

section Recognition

variable {customer : Customer} {merchant : Merchant} {ledger : Ledger} {tx : Transaction} {fee : Sat}

/-- The customer accepts the script of its output: the output is claimed, or refused for its worth or
the fee only.
-/
def Customer.Recognizes (customer : Customer) (tx : Transaction) (fee : Sat) : Prop :=
  (customer.claim tx fee).Reaches fun _ => True

/-- The merchant accepts the script of the customer's output in the same way, in a dispute. -/
def Merchant.Recognizes (merchant : Merchant) (ledger : Ledger) (tx : Transaction) (fee : Sat)
    : Prop :=
  (merchant.dispute ledger tx fee).Reaches fun (answer, _) => answer.isSome = true

theorem Customer.recognizes_iff
    : customer.Recognizes tx fee
      ↔ customer.stage = .closing
        ∧ ∃ channel, customer.channel = some channel
        ∧ ∃ published, Publication.ofTransaction tx = .ok published
        ∧ published.closeKey = customer.closeKey
        ∧ ∃ output, tx.outputs.head? = some output
        ∧ output.script = .payToScript (.toCustomer published.lock customer.merchantKeys.dispute
          customer.closeKey customer.params.selfDelay) := by
  simp only [Recognizes, claim, customerClaimTx, requireStage, requireChannel, Outcome.reaches_bind,
    Outcome.ensure_eq_error, Outcome.require_eq_error, Outcome.mapRefusal_eq_refused,
    Outcome.ensure_eq_ok, Outcome.require_eq_ok, Outcome.mapRefusal_eq_ok, Outcome.exists_unit,
    Outcome.reaches_template stopped_claimTx, Failure.refused.injEq, reduceCtorEq, and_false,
    and_true, exists_false, ne_eq, not_false_eq_true, implies_true, List.mem_singleton]

theorem Merchant.recognizes_iff
    : merchant.Recognizes ledger tx fee
      ↔ ∃ published, Publication.ofTransaction tx = .ok published
        ∧ ∃ secret, checkLock ledger published.lock = .ok (some secret)
        ∧ ∃ spent, merchant.channelSpentBy tx = .ok spent
        ∧ ∃ output, tx.outputs.head? = some output
        ∧ output.script = .payToScript (.toCustomer published.lock merchant.keys.dispute
          published.closeKey merchant.params.selfDelay) := by
  have looks : ∀ lock cause, checkLock ledger lock ≠ .error (.refused (.template cause)) := by
    intro lock cause
    unfold checkLock
    split <;> simp [Outcome.refuse]
  have spends : ∀ cause, merchant.channelSpentBy tx ≠ .error (.refused (.template cause)) := by
    simp [channelSpentBy, Outcome.bind_eq_error, Outcome.require_eq_error]
  have missing : ¬(pure (none, merchant) : Outcome ChannelError (Option SignedTx × Merchant)).Reaches
      fun (answer, _) => answer.isSome = true := by
    simp [Outcome.Reaches, pure, Except.pure]
  simp only [Recognizes, dispute, publication, disputeTx, Outcome.reaches_bind, looks, spends,
    Option.exists, missing, Outcome.ensure_eq_error, Outcome.require_eq_error,
    Outcome.mapRefusal_eq_refused, Outcome.ensure_eq_ok, Outcome.require_eq_ok,
    Outcome.mapRefusal_eq_ok, Outcome.exists_unit, Outcome.reaches_template stopped_claimTx,
    Option.isSome_some, Failure.refused.injEq, reduceCtorEq, and_false, and_true, false_or,
    exists_false, ne_eq, not_false_eq_true, implies_true]

end Recognition

/-- A locking script tells its kind, and its keys, its lock and its delay; only a key that is paid is
told by its hash. So what was built as an output of a channel is accepted, by a customer that claims
it and by a merchant that disputes it, only if it was built with the published lock and with the keys
and the delay that they expect, unless it was built from another script of the same hash.
-/
theorem LockingScript.parameters_determined
    : (∀ left right : LockingScript, left.script = right.script ↔ left.Alike right)
      ∧ (∀ (customer : Customer) (tx : Transaction) (fee value : Sat) (built : LockingScript),
        customer.Recognizes tx fee → tx.outputs.head? = some ⟨value, built.output⟩
        → ∃ published, Publication.ofTransaction tx = .ok published
          ∧ built.IsUpToCollision (.toCustomer published.lock customer.merchantKeys.dispute
            customer.closeKey customer.params.selfDelay))
      ∧ ∀ (merchant : Merchant) (ledger : Ledger) (tx : Transaction) (fee value : Sat)
        (built : LockingScript),
        merchant.Recognizes ledger tx fee → tx.outputs.head? = some ⟨value, built.output⟩
        → ∃ published, Publication.ofTransaction tx = .ok published
          ∧ built.IsUpToCollision (.toCustomer published.lock merchant.keys.dispute
            published.closeKey merchant.params.selfDelay) := by
  refine ⟨fun _ _ => script_eq_iff, ?_, ?_⟩
  · intro customer tx fee value built recognizes first
    obtain ⟨-, _, -, published, publishes, -, output, place, script⟩ :=
      Customer.recognizes_iff.1 recognizes
    cases first.symm.trans place
    exact ⟨published, publishes, isUpToCollision_of_output script⟩
  · intro merchant ledger tx fee value built recognizes first
    obtain ⟨published, publishes, _, -, _, -, output, place, script⟩ :=
      Merchant.recognizes_iff.1 recognizes
    cases first.symm.trans place
    exact ⟨published, publishes, isUpToCollision_of_output script⟩

-----------------------------------------------------------------------------------------
-- A stale close
-----------------------------------------------------------------------------------------

section Example

open Bench Customer

-- Unification would compute keys and hashes where comparing their arguments is enough.
attribute [local irreducible] SecretKey.publicKey SignableTx.txid SignableTx.sign
  SignableTx.verifies sha256 hmacSha256

/-- How the customer's output of the stale close is locked. -/
def staleLocking : LockingScript :=
  .toCustomer steadyRevocation.lock steadyKey.publicKey steadyKey.publicKey defaultSelfDelay

/-- A customer that is closing its channel. -/
def closingPatron : Customer :=
  { patron with channel := some patronChannel, stage := .closing, status := .customerClosing }

/-- A ledger that has the secret of the stale state. -/
def staleLedger : Ledger :=
  (LedgerEvent.record steadyRevocation.lock steadyRevocation.secret).apply steadyShop.ledger

theorem steadyStaleClose_publishes
    : Publication.ofTransaction (steadyStaleClose.withWitness [])
      = .ok ⟨steadyRevocation.lock, steadyKey.publicKey⟩ := by
  have formed : steadyToken.customerCloseTx .escrow steadyFirst steadyKey.publicKey .default
      = .ok steadyStaleClose := rfl
  obtain ⟨_, -, template⟩ := ChannelToken.customerCloseTx_eq_ok.1 formed
  exact ofTransaction_of_customerCloseTx template []

theorem closingPatron_recognizes
    : closingPatron.Recognizes (steadyStaleClose.withWitness []) 1000 :=
  Customer.recognizes_iff.2 ⟨rfl, _, rfl, _, steadyStaleClose_publishes, rfl, _, rfl, rfl⟩

theorem registeredBench_recognizes
    : registeredBench.shop.merchant.Recognizes staleLedger (steadyStaleClose.withWitness [])
        1000 := by
  have known : Merchant.checkLock staleLedger steadyRevocation.lock
      = .ok (some steadyRevocation.secret) := by
    rw [Merchant.checkLock, staleLedger, steadySecret_recorded]
  have found : registeredBench.shop.merchant.channels.get? steadyEscrow = some _ :=
    Dict.get?_insert_self _ _ _
  have input : (steadyStaleClose.withWitness []).inputs.head? = some (steadyStaleClose.input []) :=
    rfl
  obtain ⟨escrow, channel, spent⟩ := Merchant.exists_channelSpentBy input found (.inl rfl)
  exact Merchant.recognizes_iff.2
    ⟨_, steadyStaleClose_publishes, _, known, _, spent, _, rfl, rfl⟩

/-- Both parties recognize the customer's output of the stale close, so it was built for the lock of
the state. It was not built for a longer delay.
-/
theorem parameters_determined_stale
    : (closingPatron.Recognizes (steadyStaleClose.withWitness []) 1000
        ∧ ∃ published, Publication.ofTransaction (steadyStaleClose.withWitness []) = .ok published
        ∧ staleLocking.IsUpToCollision (.toCustomer published.lock closingPatron.merchantKeys.dispute
          closingPatron.closeKey closingPatron.params.selfDelay))
      ∧ (registeredBench.shop.merchant.Recognizes staleLedger (steadyStaleClose.withWitness []) 1000
        ∧ ∃ published, Publication.ofTransaction (steadyStaleClose.withWitness []) = .ok published
        ∧ staleLocking.IsUpToCollision (.toCustomer published.lock
          registeredBench.shop.merchant.keys.dispute published.closeKey
          registeredBench.shop.merchant.params.selfDelay))
      ∧ staleLocking.script ≠ (LockingScript.toCustomer steadyRevocation.lock steadyKey.publicKey
          steadyKey.publicKey (defaultSelfDelay + 1)).script := by
  obtain ⟨scripts, claims, disputes⟩ := LockingScript.parameters_determined
  refine ⟨⟨closingPatron_recognizes, ?_⟩, ⟨registeredBench_recognizes, ?_⟩, fun same => ?_⟩
  · exact claims _ _ _ 8000 _ closingPatron_recognizes rfl
  · exact disputes _ _ _ _ 8000 _ registeredBench_recognizes rfl
  · cases (scripts _ _).1 same

end Example

end PaymentChannel
