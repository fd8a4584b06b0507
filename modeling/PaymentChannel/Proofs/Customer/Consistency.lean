import PaymentChannel.Proofs.Customer.RevokedLocks

/-! What the fields of a customer say about each other.
Whatever a customer was called for, and whatever the merchant sent, its stage, its status, its
channel, its secrets, its payment under way and its pay token fit together.
-/

namespace PaymentChannel

-----------------------------------------------------------------------------------------
-- Fields that fit together
-----------------------------------------------------------------------------------------

/-- The statuses that a channel can have in a stage. -/
def Stage.statuses : Stage → List ChannelStatus
  | .initialized => [.unfunded, .pendingOpen]
  | .funded => [.pendingOpen, .confirmed]
  | .activated | .ready => [.confirmed]
  | .closing => [.customerClosing]
  | .closed => [.settled]
  | .disputed => [.disputed]

namespace Customer

/-- The stage, the status and the channel fit together. -/
structure Lifecycle (customer : Customer) : Prop where
  channel : customer.channel = none ↔ customer.status = .unfunded
  status : customer.status ∈ customer.stage.statuses
  signed : customer.stage ≠ .initialized
    → ∃ channel signatures, customer.channel = some channel ∧ channel.signatures = some signatures

/-- The old state of the payment under way was revoked. -/
def Committed (customer : Customer) : Prop :=
  ∃ pending, customer.pending = some pending ∧ pending.revoked ≠ none

/-- All fields of a customer fit together. -/
structure FieldsAgree (customer : Customer) : Prop extends customer.Lifecycle where
  ready : ∀ pending, customer.pending = some pending → customer.stage = .ready
  lock : ∀ state, customer.state = some state → customer.secret.lock = state.lock
  nextLock : ∀ pending, customer.pending = some pending
    → pending.newSecret.lock = pending.new.lock
  promoted : ∀ pending, customer.pending = some pending → pending.revoked ≠ none
    → pending.maskCommitment ≠ none ∧ pending.unmasked ≠ none
      ∧ customer.state = some pending.new
  spent : customer.stage = .ready → customer.Committed → customer.payToken = none
  missing : customer.stage = .ready → customer.payToken = none
    → customer.Committed ∨ (customer.pending = none ∧ customer.merchantTrusted = false)

variable {start customer after : Customer} {history later : List CustomerExchange}
  {exchange : CustomerExchange}

-----------------------------------------------------------------------------------------
-- The life of a channel
-----------------------------------------------------------------------------------------

theorem Lifecycle.starts (starts : start.Starts) : start.Lifecycle := by
  obtain ⟨_, _, _, _, _, _, initialized⟩ := starts
  obtain ⟨-, _, -, _, -, _, -, rfl⟩ := init_eq_ok.1 initialized
  exact ⟨by simp [fresh], by simp [fresh, Stage.statuses], fun later => absurd rfl later⟩

/-- A change of the stage and the status of a channel that has been funded. -/
theorem Lifecycle.advance (life : customer.Lifecycle) (past : customer.stage ≠ .initialized)
    {stage : Stage} {status : ChannelStatus} (funded : status ≠ .unfunded)
    (allowed : status ∈ stage.statuses) {payToken : Option PayToken}
    {pending : Option PendingRound}
    : Lifecycle { customer with stage, status, payToken, pending } := by
  obtain ⟨channel, signatures, found, kept⟩ := life.signed past
  exact ⟨by simp [found, funded], allowed, fun _ => ⟨channel, signatures, found, kept⟩⟩

/-- Every step keeps the stage, the status and the channel in line. -/
theorem Lifecycle.step (life : customer.Lifecycle) (step : CustomerStep customer exchange after)
    : after.Lifecycle := by
  obtain ⟨channel, status, signed⟩ := id life
  cases step with
  | silent | began | committed | accepted | distrusted | repeated | finished | mistaken
  | aborted => exact ⟨channel, status, signed⟩
  | funded initialized =>
      exact ⟨by simp, by simp [initialized, Stage.statuses], fun past => absurd initialized past⟩
  | stored _ initialized found =>
      have funded : customer.status ≠ .unfunded := fun unfunded => by simp [channel.2 unfunded] at found
      refine ⟨by simp [funded], ?_, fun _ => ⟨_, _, rfl, rfl⟩⟩
      simp only [initialized, Stage.statuses, List.mem_cons, List.not_mem_nil, or_false] at status
      simp [status.resolve_left funded, Stage.statuses]
  | opened _ funded =>
      exact life.advance (by simp [funded]) (by simp) (by simp [funded, Stage.statuses])
  | requested _ funded confirmed =>
      exact life.advance (by simp [funded]) (by simp [confirmed]) (by simp [confirmed, Stage.statuses])
  | activated _ activated =>
      have confirmed : customer.status = .confirmed := by
        simpa [activated, Stage.statuses] using status
      exact life.advance (by simp [activated]) (by simp [confirmed])
        (by simp [confirmed, Stage.statuses])
  | promoted ready =>
      have confirmed : customer.status = .confirmed := by simpa [ready, Stage.statuses] using status
      exact ⟨by simp [confirmed], status, fun _ => ⟨_, _, rfl, rfl⟩⟩
  | closed closable =>
      have past : customer.stage ≠ .initialized := fun initialized => by
        simp [initialized] at closable
      exact life.advance past (by simp) (by simp [Stage.statuses])
  | ended _ closing past =>
      rcases past with ⟨rfl, rfl⟩ | ⟨rfl, rfl⟩
      · exact life.advance (by simp [closing]) (by simp) (by simp [Stage.statuses])
      · exact life.advance (by simp [closing]) (by simp) (by simp [Stage.statuses])

/-- The stage, the status and the channel of a run fit together, by induction on the run. -/
theorem Lifecycle.run (starts : start.Starts) (run : start.Run history customer)
    : customer.Lifecycle := by
  induction run with
  | start => exact .starts starts
  | call _ call life => exact life.step (Customer.step _ call)

-----------------------------------------------------------------------------------------
-- Payments and pay tokens
-----------------------------------------------------------------------------------------

/-- A payment under way has the lock of its secret. The merchant commits to a mask before its
signatures are kept, and these are kept before the old state is revoked. Until then the customer has
its pay token, and afterwards it has the new state and no token.
-/
structure RoundAgrees (customer : Customer) (pending : PendingRound) : Prop where
  lock : pending.newSecret.lock = pending.new.lock
  bound : pending.unmasked ≠ none → pending.maskCommitment ≠ none
  unrevoked : pending.revoked = none → customer.payToken ≠ none
  revoked : pending.revoked ≠ none
    → pending.unmasked ≠ none ∧ customer.state = some pending.new ∧ customer.payToken = none

/-- The payment under way fits the customer. Without one only an untrusted merchant leaves the
customer without a pay token.
-/
structure PaymentsAgree (customer : Customer) : Prop where
  round : ∀ pending, customer.pending = some pending → customer.RoundAgrees pending
  idle : customer.stage = .ready → customer.pending = none → customer.payToken = none
    → customer.merchantTrusted = false

/-- Where no payment is possible nothing has to fit. -/
theorem PaymentsAgree.of_unready (unready : customer.stage ≠ .ready) (idle : customer.pending = none)
    : customer.PaymentsAgree where
  round pending round := by simp [idle] at round
  idle ready := absurd ready unready

/-- Where no payment is under way it is enough to look at the pay token. -/
theorem PaymentsAgree.of_idle (idle : customer.pending = none)
    (token : customer.payToken = none → customer.merchantTrusted = false)
    : customer.PaymentsAgree where
  round pending round := by simp [idle] at round
  idle _ _ := token

/-- Where a payment is under way it is enough to look at it. -/
theorem PaymentsAgree.of_round {pending : PendingRound} (round : customer.pending = some pending)
    (agrees : customer.RoundAgrees pending)
    : customer.PaymentsAgree where
  round other same := by
    cases round.symm.trans same
    exact agrees
  idle _ idle := by simp [round] at idle

/-- Every step keeps the payment under way and the pay token in line. -/
theorem PaymentsAgree.step (agree : customer.PaymentsAgree)
    (idle : customer.stage ≠ .ready → customer.pending = none)
    (step : CustomerStep customer exchange after)
    : after.PaymentsAgree := by
  cases step with
  | silent | repeated => exact agree
  | funded stage | stored _ stage | opened _ stage =>
      have unready : customer.stage ≠ .ready := by simp [stage]
      exact .of_unready (by simp [stage]) (idle unready)
  | requested _ stage => exact .of_unready (by simp) (idle (by simp [stage]))
  | activated _ stage => exact .of_idle (idle (by simp [stage])) (by simp)
  | began ready trusted none _ _ paid =>
      have token : customer.payToken ≠ .none := fun missing => by
        simp [agree.idle ready none missing] at trusted
      obtain ⟨_, -, _, -, rfl⟩ := ChannelState.pay_eq_ok.1 paid
      exact .of_round rfl ⟨rfl, by simp, fun _ => token, by simp⟩
  | committed _ _ round unsigned =>
      obtain ⟨lock, -, unrevoked, revoked⟩ := agree.round _ round
      exact .of_round rfl ⟨lock, by simp, unrevoked, revoked⟩
  | accepted _ _ _ round unrevoked _ bound =>
      obtain ⟨lock, -, token, -⟩ := agree.round _ round
      exact .of_round rfl ⟨lock, fun _ => bound, token, fun given => absurd unrevoked given⟩
  | distrusted =>
      exact ⟨fun pending round => ⟨(agree.round pending round).lock, (agree.round pending round).bound,
        (agree.round pending round).unrevoked, (agree.round pending round).revoked⟩, fun _ _ _ => rfl⟩
  | promoted _ _ round _ signed =>
      obtain ⟨lock, bound, -, -⟩ := agree.round _ round
      exact .of_round rfl ⟨lock, bound, by simp, fun _ => ⟨by simp [signed], rfl, rfl⟩⟩
  | finished => exact .of_idle rfl (by simp)
  | mistaken => exact .of_idle rfl fun _ => rfl
  | aborted _ round unrevoked =>
      exact .of_idle rfl fun missing => absurd missing ((agree.round _ round).unrevoked unrevoked)
  | closed => exact .of_unready (by simp) rfl
  | ended _ closing past =>
      have idle := idle (by simp [closing])
      rcases past with ⟨rfl, -⟩ | ⟨rfl, -⟩
      · exact .of_unready (by simp) idle
      · exact .of_unready (by simp) idle

/-- The payments of a run fit, by induction on the run. -/
theorem PaymentsAgree.run (starts : start.Starts) (run : start.Run history customer)
    : customer.PaymentsAgree := by
  induction run with
  | start => exact .of_unready (by simp [starts.idle.2.2.1]) starts.idle.2.1
  | call run call agree => exact agree.step (run.idle starts) (Customer.step _ call)

-----------------------------------------------------------------------------------------
-- Trust
-----------------------------------------------------------------------------------------

/-- An untrusted merchant stays untrusted, and no payment begins. -/
theorem distrust_step (distrusts : customer.merchantTrusted = false)
    (step : CustomerStep customer exchange after)
    : after.merchantTrusted = false
      ∧ ∀ request secret, exchange.event? ≠ some (.began request secret) := by
  cases step with
  | silent quiet | stored quiet | opened quiet | requested quiet | activated quiet | committed quiet
  | accepted quiet | finished quiet | aborted quiet | ended quiet =>
      exact ⟨distrusts, by simp [quiet]⟩
  | distrusted quiet | mistaken quiet => exact ⟨rfl, by simp [quiet]⟩
  | funded | promoted | repeated | closed => exact ⟨distrusts, nofun⟩
  | began _ trusted => simp [distrusts] at trusted

/-- It stays so however the run goes on, by induction on the run. -/
theorem Run.distrust (distrusts : customer.merchantTrusted = false)
    (run : customer.Run later after)
    : after.merchantTrusted = false
      ∧ ∀ amount justification source request,
        ⟨.preparePayment amount justification source, .ok request⟩ ∉ later := by
  induction run with
  | start => exact ⟨distrusts, by simp⟩
  | @call _ customer _ call ih =>
      obtain ⟨still, refused⟩ := ih
      obtain ⟨lasts, unbegun⟩ := distrust_step still (customer.step call)
      refine ⟨lasts, fun amount justification source request member => ?_⟩
      rcases List.mem_cons.1 member with now | earlier
      · rw [← now] at unbegun
        exact unbegun _ _ rfl
      · exact refused _ _ _ _ earlier

-----------------------------------------------------------------------------------------
-- All fields
-----------------------------------------------------------------------------------------

/-- The fields of a customer fit together after any calls, whatever the merchant sends. Once the
customer distrusts the merchant it always will, and no payment begins any more.
-/
theorem fields_agree (starts : start.Starts) (run : start.Run history customer)
    : customer.FieldsAgree
      ∧ (customer.merchantTrusted = false → ∀ later after, customer.Run later after
        → after.merchantTrusted = false
          ∧ ∀ amount justification source request,
            ⟨.preparePayment amount justification source, .ok request⟩ ∉ later) := by
  obtain ⟨round, idle⟩ := PaymentsAgree.run starts run
  refine ⟨?_, fun distrusts later after goes => goes.distrust distrusts⟩
  refine {
    toLifecycle := .run starts run
    ready := run.ready starts
    lock := fun state current => ((LocksFit.run starts run).lock state current).symm
    nextLock := fun pending under => (round pending under).lock
    promoted := ?_
    spent := ?_
    missing := ?_ }
  · intro pending under given
    obtain ⟨signed, current, -⟩ := (round pending under).revoked given
    exact ⟨(round pending under).bound signed, signed, current⟩
  · rintro - ⟨pending, under, given⟩
    exact ((round pending under).revoked given).2.2
  · intro ready missing
    rcases under : customer.pending with - | pending
    · exact .inr ⟨rfl, idle ready under missing⟩
    · refine .inl ⟨pending, under, fun unrevoked => ?_⟩
      exact (round pending under).unrevoked unrevoked missing

-----------------------------------------------------------------------------------------
-- A merchant that opens a wrong mask
-----------------------------------------------------------------------------------------

section Example

-- Unification would compute keys and hashes where comparing their arguments is enough.
attribute [local irreducible] SecretKey.publicKey SignableTx.txid SignableTx.sign
  SignableTx.verifies sha256 hmacSha256

/-- A mask to which the merchant did not commit. -/
def strayOpening : PayMaskOpening := ⟨⟨.ofNat 32 1⟩, ⟨.ofNat 16 1⟩⟩

/-- The customer that revoked its first state and got a wrong mask for it. -/
def betrayedPatron : Customer :=
  { readyPatron with
    channel := some { patronChannel with
      state := patronSecond
      signatures := some secondSignatures }
    secret := drawnSecret patronEntropy
    payToken := none
    merchantTrusted := false }

theorem betrayedPatron_run : ∃ history, patron.Run history betrayedPatron := by
  obtain ⟨history, run, -⟩ := signedPatron_run
  have revoked : ∃ after, signedPatron.serve .revoke = (.ok patronRevocation, after)
      ∧ after.awaitedToken = .ok (⟨.ofNat 32 6⟩, ⟨.ofNat 32 5⟩)
      ∧ { after with pending := none, merchantTrusted := false } = betrayedPatron :=
    ⟨_, rfl, rfl, rfl⟩
  obtain ⟨after, revoked, awaited, betrayed⟩ := revoked
  have wrong : strayOpening.opens ⟨.ofNat 32 6⟩ = false := by decide +kernel
  have mistaken : after.after (.acceptToken strayOpening) = betrayedPatron := by
    simp only [Customer.after, serve, acceptToken, awaited, wrong, Bool.false_eq_true, if_false,
      betrayed]
  have goes := (run.answered _ revoked).call (.acceptToken strayOpening)
  rw [mistaken] at goes
  exact ⟨_, goes⟩

/-- A customer that got a wrong mask is left without a pay token and never pays again. -/
theorem fields_agree_patron
    : patron.Starts ∧ ∃ history, patron.Run history betrayedPatron
      ∧ betrayedPatron.FieldsAgree
      ∧ betrayedPatron.stage = .ready ∧ betrayedPatron.payToken = none
      ∧ ∀ later after, betrayedPatron.Run later after → after.merchantTrusted = false
        ∧ ∀ amount justification source request,
          ⟨.preparePayment amount justification source, .ok request⟩ ∉ later := by
  obtain ⟨history, run⟩ := betrayedPatron_run
  obtain ⟨agree, distrust⟩ := fields_agree patron_starts run
  exact ⟨patron_starts, history, run, agree, rfl, rfl, distrust rfl⟩

end Example

end Customer

end PaymentChannel
