import PaymentChannel.Proofs.Endings

/-! A payment that is interrupted at its revocation ends as if it had not been.
Two things can go wrong there: the ledger of the merchant does not take the secret, or the last answer
of the merchant is lost. Either way the customer has moved to its new state. It reveals the same
when it resumes, and what the merchant still has of the payment answers the same.
-/

namespace PaymentChannel

open Customer Merchant

namespace Parties

-----------------------------------------------------------------------------------------
-- Interruptions
-----------------------------------------------------------------------------------------

/-- The last steps of a payment when the answer of the merchant is lost: the merchant has done its
part, and the customer does not hear of it.
-/
def settleUnheard (parties : Parties) (session : SessionId) : Parties :=
  match parties.customer.revoke with
  | .error _ => parties
  | .ok (revoked, customer) =>
      let (_, merchant, ledger) := parties.merchant.validateRevoked parties.ledger session revoked
      ⟨customer, merchant, ledger⟩

/-- Resumes a payment when the answer of the merchant is lost again. -/
def resumeUnheard (parties : Parties) : Parties :=
  match parties.customer.pendingSession with
  | none => parties
  | some session => parties.settleUnheard session

section Interruptions

variable (before : Parties) (client : ServiceClient) (amount : Balance)
  (justification : Option String) (source : Entropy) (lock : RevLock) (secret : RevSecret)

/-- The parties of a payment for which the ledger did not take the secret, which happened again
every time the payment was resumed. A ledger that fails stores nothing, but fails as it likes.
-/
inductive Stalled : Parties → Prop
  | paid {broken : Ledger} {reason : LedgerError} (fails : broken.put lock secret = .error reason)
    : Stalled (Parties.pay { before with ledger := broken } client amount justification source).1.2
  | resumed {stalled : Parties} {broken : Ledger} {reason : LedgerError} (again : Stalled stalled)
    (fails : broken.put lock secret = .error reason)
    : Stalled (Parties.resume { stalled with ledger := broken }).2

/-- The parties of a payment of which the last answer was lost, at once or after the ledger had
failed, and was lost again every time the payment was resumed.
-/
inductive Unheard : Parties → Prop
  | paid {signed : Parties}
    (signs : before.sign client amount justification source = some signed)
    : Unheard (signed.settleUnheard (drawnSession source))
  | mended {stalled : Parties}
    (stalls : Stalled before client amount justification source lock secret stalled)
    : Unheard (Parties.resumeUnheard { stalled with ledger := before.ledger })
  | resumed {unheard : Parties} (again : Unheard unheard) : Unheard unheard.resumeUnheard

/-- However a payment is interrupted at its revocation, it ends with this receipt and these parties
as soon as it is resumed without an interruption.
-/
structure Resumes (receipt : Receipt) (after : Parties) : Prop where
  /-- What becomes of the payment when nothing interrupts it. -/
  completes : (before.pay client amount justification source).1 = (.ok receipt, after)
  /-- The payment comes to its last steps, in which it can be interrupted. -/
  reaches : ∃ signed, before.sign client amount justification source = some signed
    ∧ (before.pay client amount justification source).1 = signed.settle (drawnSession source)
  stops : ∀ broken reason, broken.put lock secret = .error reason
    → (Parties.pay { before with ledger := broken } client amount justification source).1.1
      = .refuse (.ledger reason)
  /-- A resumption for which the ledger fails changes neither party. -/
  waits : ∀ stalled broken reason,
    Stalled before client amount justification source lock secret stalled
    → broken.put lock secret = .error reason
    → Parties.resume { stalled with ledger := broken }
      = (.refuse (.ledger reason), { stalled with ledger := broken })
  mends : ∀ stalled, Stalled before client amount justification source lock secret stalled
    → Parties.resume { stalled with ledger := before.ledger } = (.ok receipt, after)
  hears : ∀ unheard, Unheard before client amount justification source lock secret unheard
    → unheard.resume = (.ok receipt, after)

end Interruptions

-----------------------------------------------------------------------------------------
-- What interruptions leave
-----------------------------------------------------------------------------------------

variable {parties : Parties} {session : SessionId}

theorem resume_of_pending (pending : parties.customer.pendingSession = some session)
    : parties.resume = parties.settle session := by
  unfold resume
  simp only [pending]

theorem resumeUnheard_of_pending (pending : parties.customer.pendingSession = some session)
    : parties.resumeUnheard = parties.settleUnheard session := by
  unfold resumeUnheard
  simp only [pending]

/-- What an unheard answer leaves, from the answers of both parties. -/
theorem settleUnheard_of {revoked : RevokedState} {opening : PayMaskOpening} {moved : Customer}
    {merchant : Merchant} {ledger : Ledger}
    (reveals : parties.customer.revoke = .ok (revoked, moved))
    (opens : parties.merchant.validateRevoked parties.ledger session revoked
      = (.ok opening, merchant, ledger))
    : parties.settleUnheard session = ⟨moved, merchant, ledger⟩ := by
  unfold settleUnheard
  simp only [reveals, opens]

end Parties

namespace SignedRound.Signs

variable {client : ServiceClient} {amount : Balance} {justification : Option String}
  {source : Entropy} {round : SignedRound amount justification source} {customer : Customer}
  {merchant : Merchant} {ledger recorded : Ledger} {parties : Parties}

/-- A payment that the ledger stalls has moved the customer, and the merchant waits. Both stay like
that in every resumption for which the ledger fails, by induction on the resumptions.
-/
theorem of_stalled (signs : round.Signs customer merchant client)
    (opens : customer.secret.lock = round.channel.state.lock)
    (stalled : Parties.Stalled ⟨customer, merchant, ledger⟩ client amount justification source
      round.channel.state.lock customer.secret parties)
    : ∃ broken, parties = ⟨round.moved customer, round.masked merchant, broken⟩ := by
  induction stalled with
  | @paid broken reason fails =>
      refine ⟨broken, ?_⟩
      rw [Parties.pay_of_sign (signs.signs broken),
        settle_unrecorded (revoke_signed signs.toFits) opens fails]
  | @resumed _ broken reason _ fails ih =>
      obtain ⟨_, rfl⟩ := ih
      refine ⟨broken, ?_⟩
      rw [Parties.resume_of_pending rfl]
      exact congrArg Prod.snd (settle_unrecorded (revoke_moved signs.toFits) opens fails)

/-- A payment of which the answer is lost has moved the customer, and the merchant is done with it.
Both stay like that in every resumption of which the answer is lost, by induction on the
resumptions.
-/
theorem of_unheard (signs : round.Signs customer merchant client)
    (opens : customer.secret.lock = round.channel.state.lock)
    (written : ledger.put round.channel.state.lock customer.secret = .ok recorded)
    (unheard : Parties.Unheard ⟨customer, merchant, ledger⟩ client amount justification source
      round.channel.state.lock customer.secret parties)
    : parties = ⟨round.moved customer, round.spent merchant (some (round.record customer)),
        recorded⟩ := by
  have releases := validateRevoked_masked signs.unused (right_iff.2 opens) written
  induction unheard with
  | paid reached =>
      cases reached.symm.trans (signs.signs ledger)
      exact Parties.settleUnheard_of (revoke_signed signs.toFits) releases
  | mended stalled =>
      obtain ⟨_, rfl⟩ := signs.of_stalled opens stalled
      rw [Parties.resumeUnheard_of_pending rfl]
      exact Parties.settleUnheard_of (revoke_moved signs.toFits) releases
  | resumed _ ih =>
      cases ih
      rw [Parties.resumeUnheard_of_pending rfl]
      exact Parties.settleUnheard_of (revoke_moved signs.toFits)
        (validateRevoked_repeated signs.toFits recorded)

/-- A payment that comes to its signatures, and whose secret is right and can be recorded, can be
interrupted.
-/
theorem resumes (signs : round.Signs customer merchant client)
    (opens : customer.secret.lock = round.channel.state.lock)
    (written : ledger.put round.channel.state.lock customer.secret = .ok recorded)
    : Parties.Resumes ⟨customer, merchant, ledger⟩ client amount justification source
        round.channel.state.lock customer.secret
        (Parties.receipt (round.paid customer) (drawnSession source))
        ⟨round.paid customer, round.spent merchant (some (round.record customer)), recorded⟩ where
  completes := by
    rw [Parties.pay_of_sign (signs.signs ledger)]
    exact settle_recorded (revoke_signed signs.toFits) signs.toFits opens written
  reaches := ⟨_, signs.signs ledger, Parties.pay_of_sign (signs.signs ledger)⟩
  stops broken reason fails := by
    rw [Parties.pay_of_sign (signs.signs broken),
      settle_unrecorded (revoke_signed signs.toFits) opens fails]
  waits stalled broken reason stalls fails := by
    obtain ⟨_, rfl⟩ := signs.of_stalled opens stalls
    rw [Parties.resume_of_pending rfl]
    exact settle_unrecorded (revoke_moved signs.toFits) opens fails
  mends stalled stalls := by
    obtain ⟨_, rfl⟩ := signs.of_stalled opens stalls
    rw [Parties.resume_of_pending rfl]
    exact settle_recorded (revoke_moved signs.toFits) signs.toFits opens written
  hears unheard lost := by
    cases signs.of_unheard opens written lost
    rw [Parties.resume_of_pending rfl]
    exact settle_repeated (revoke_moved signs.toFits) signs.toFits recorded

end SignedRound.Signs

/-- A payment that goes through has come to its signatures, so it can be interrupted. -/
theorem Parties.resumes_of_completes {before after : Parties} {client : ServiceClient}
    {amount : Balance} {justification : Option String} {source : Entropy} {receipt : Receipt}
    (completes : (before.pay client amount justification source).1 = (.ok receipt, after))
    {channel : FundedChannel} (found : before.customer.channel = some channel)
    : before.Resumes client amount justification source channel.state.lock before.customer.secret
        receipt after := by
  have ended := before.ends client amount justification source
  rw [completes] at ended
  cases ended with
  | completed round signs opens written =>
      cases found.symm.trans signs.found
      exact signs.resumes opens written

/-- A payment that goes through when nothing interrupts it, with any service, goes through however
often the ledger fails at its revocation or the last answer of the merchant is lost: it reports every
failure, neither party changes meanwhile, and the first resumption that is not interrupted ends with
the receipt, the parties and the ledger of the payment that was never interrupted. All payments
between parties that agree are of that kind.
-/
theorem interrupted_payment_resumes {customer : Customer} {channel : FundedChannel}
    (found : customer.channel = some channel) (merchant : Merchant) (ledger : Ledger)
    (amount : Balance) (justification : Option String) (source : Entropy)
    : (∀ client receipt after,
        (Parties.pay ⟨customer, merchant, ledger⟩ client amount justification source).1
            = (.ok receipt, after)
          → Parties.Resumes ⟨customer, merchant, ledger⟩ client amount justification source
            channel.state.lock customer.secret receipt after)
      ∧ ∀ new recorded timeout, Concord customer channel merchant
        → Concord.Payable customer channel merchant ledger amount justification source new recorded
        → ∃ receipt after,
          Parties.Resumes ⟨customer, merchant, ledger⟩ (.direct timeout) amount justification source
            channel.state.lock customer.secret receipt after := by
  refine ⟨fun _ _ _ completes => Parties.resumes_of_completes completes found,
    fun new recorded timeout concord payable => ?_⟩
  obtain ⟨_, _, completed, -⟩ := concord.completes payable timeout
  exact ⟨_, _, Parties.resumes_of_completes completed found⟩

section Example

-- Unification would compute keys and hashes where comparing their arguments is enough.
attribute [local irreducible] SecretKey.publicKey SignableTx.txid SignableTx.sign
  SignableTx.verifies sha256 hmacSha256

/-- The channel in which the first payment is made. -/
def readyChannel : FundedChannel := { patronChannel with signatures := some patronSignatures }

theorem readyPatron_concord : Concord readyPatron readyChannel steadyShop.merchant := by
  obtain ⟨history, run, -⟩ := readyPatron_run
  exact {
    ready := rfl, idle := rfl, trusted := rfl, found := rfl, payToken := rfl, params := rfl
    issuer := ChannelToken.checkMerchant_eq_ok.2 ⟨rfl, rfl, rfl⟩
    signer := (KeysFit.run steadyShop_opens .start).escrow
    fits := (StatesFit.run patron_starts run).current readyChannel rfl
    lock := (LocksFit.run patron_starts run).lock readyChannel.state rfl }

theorem readyPatron_payable
    : ∃ recorded, Concord.Payable readyPatron readyChannel steadyShop.merchant steadyShop.ledger 5
      none patronEntropy patronSecond recorded := by
  refine ⟨_, rfl, rfl, by decide, Merchant.checkPayment_eq_ok.2 ⟨⟨rfl, rfl⟩, rfl, rfl⟩, ?_, rfl⟩
  intro source
  cases source
  · exact ⟨patronClose patronSecond 7995 .escrow (20000, 10005), rfl⟩
  · exact ⟨patronClose patronSecond 7995 .merchantClose (18000, 8005), rfl⟩

/-- A ledger without room. -/
def fullLedger : Ledger := { steadyShop.ledger with putOutage := some "device is full" }

/-- A first payment of 5 for which the ledger fails, once when it is made and once when it is
resumed.
-/
theorem interrupted_payment_resumes_patron
    : ∃ receipt after stalled,
      Parties.Stalled ⟨readyPatron, steadyShop.merchant, steadyShop.ledger⟩ (.direct 0) 5 none
        patronEntropy readyChannel.state.lock readyPatron.secret stalled
      ∧ (Parties.resume { stalled with ledger := fullLedger }).1
        = .refuse (.ledger (.database "device is full"))
      ∧ Parties.resume { stalled with ledger := steadyShop.ledger } = (.ok receipt, after)
      ∧ receipt.customerBalance.toInt = 9995 := by
  obtain ⟨recorded, payable⟩ := readyPatron_payable
  obtain ⟨signatures, opening, completed, -⟩ := readyPatron_concord.completes payable 0
  have settled := readyPatron_concord.settled payable.pays payable.written signatures opening
  have resumes := (interrupted_payment_resumes readyPatron_concord.found steadyShop.merchant
    steadyShop.ledger 5 none patronEntropy).1 _ _ _ completed
  have fails : fullLedger.put readyChannel.state.lock readyPatron.secret
      = .error (.database "device is full") := rfl
  refine ⟨_, _, _, .paid fails, ?_, resumes.mends _ (.paid fails), settled.customerBalance⟩
  rw [resumes.waits _ _ _ (.paid fails) fails]

end Example

end PaymentChannel
