import PaymentChannel.Round

/-! How an outcome was reached: what every step of a successful operation must have given.
Each law turns a success of a composed operation into the successes of its parts, so an operation
is opened once and what it needed can be read off.
-/

namespace PaymentChannel

-----------------------------------------------------------------------------------------
-- Outcomes
-----------------------------------------------------------------------------------------

namespace Outcome

variable {ε ε' α β : Type}

/-- A sequence succeeds exactly if both of its parts do. -/
@[simp] theorem bind_eq_ok {outcome : Outcome ε α} {next : α → Outcome ε β} {answer : β}
    : (outcome >>= next) = .ok answer ↔ ∃ value, outcome = .ok value ∧ next value = .ok answer := by
  cases outcome <;> simp [bind, Except.bind]

/-- A last step that only answers gives the answer it states. -/
@[simp] theorem pure_eq_ok {value answer : α}
    : (pure value : Outcome ε α) = .ok answer ↔ answer = value := by
  simp [pure, Except.pure, eq_comm]

@[simp] theorem map_eq_ok {outcome : Outcome ε α} {change : α → β} {answer : β}
    : (change <$> outcome) = .ok answer ↔ ∃ value, outcome = .ok value ∧ answer = change value := by
  cases outcome <;> simp [Functor.map, Except.map, eq_comm]

/-- A step that answers nothing but that it succeeded has one success only. -/
@[simp] theorem exists_unit {succeeds : Unit → Prop} : (∃ answer, succeeds answer) ↔ succeeds () :=
  ⟨fun ⟨_, given⟩ => given, fun given => ⟨(), given⟩⟩

@[simp] theorem ok_bind {value : α} {next : α → Outcome ε β}
    : ((.ok value : Outcome ε α) >>= next) = next value := rfl

@[simp] theorem error_bind {failure : Failure ε} {next : α → Outcome ε β}
    : ((.error failure : Outcome ε α) >>= next) = .error failure := rfl

@[simp] theorem refuse_ne_ok {reason : ε} {answer : α}
    : (refuse reason : Outcome ε α) ≠ .ok answer := by
  simp [refuse]

@[simp] theorem ensure_eq_ok {condition : Prop} [Decidable condition] {reason : ε} {answer : Unit}
    : ensure condition reason = .ok answer ↔ condition := by
  by_cases holds : condition <;> simp [ensure, refuse, holds]

@[simp] theorem require_eq_ok {reason : ε} {found : Option α} {value : α}
    : require reason found = .ok value ↔ found = some value := by
  cases found <;> simp [require, refuse]

@[simp] theorem mapRefusal_eq_ok {restate : ε → ε'} {outcome : Outcome ε α} {answer : α}
    : outcome.mapRefusal restate = .ok answer ↔ outcome = .ok answer := by
  rcases outcome with (reason | kind) | value <;> simp [mapRefusal]

/-- A sequence fails if one of its parts does, and nothing after it is tried. -/
theorem bind_eq_error {outcome : Outcome ε α} {next : α → Outcome ε β} {failure : Failure ε}
    : (outcome >>= next) = .error failure
      ↔ outcome = .error failure ∨ ∃ value, outcome = .ok value ∧ next value = .error failure := by
  cases outcome <;> simp [bind, Except.bind]

/-- A condition fails with its own reason only. -/
theorem ensure_eq_error {condition : Prop} [Decidable condition] {reason : ε} {failure : Failure ε}
    : ensure condition reason = .error failure ↔ ¬condition ∧ failure = .refused reason := by
  by_cases holds : condition <;> simp [ensure, refuse, holds, eq_comm]

/-- A missing value fails with its own reason only. -/
theorem require_eq_error {reason : ε} {found : Option α} {failure : Failure ε}
    : require reason found = .error failure ↔ found = none ∧ failure = .refused reason := by
  cases found <;> simp [require, refuse, eq_comm]

/-- A restated refusal comes from a refusal. -/
theorem mapRefusal_eq_refused {restate : ε → ε'} {outcome : Outcome ε α} {reason : ε'}
    : outcome.mapRefusal restate = .error (.refused reason)
      ↔ ∃ cause, outcome = .error (.refused cause) ∧ reason = restate cause := by
  rcases outcome with (cause | kind) | value <;> simp [mapRefusal, eq_comm]

/-- A condition that holds does not stop what follows. -/
theorem ensure_of {condition : Prop} [Decidable condition] {reason : ε} (holds : condition)
    : ensure condition reason = .ok () := by
  simp [holds]

/-- A condition that fails refuses. -/
theorem ensure_of_not {condition : Prop} [Decidable condition] {reason : ε} (fails : ¬condition)
    : ensure condition reason = refuse reason := by
  simp [ensure, fails]

end Outcome

/-- A party whose operation fails is as it was. -/
theorem Parties.afterwards_error {σ α : Type} {before after : σ}
    {outcome : Outcome ChannelError (α × σ)} {failure : Failure ChannelError}
    (ended : Parties.afterwards before outcome = (.error failure, after))
    : after = before := by
  rcases outcome with reason | ⟨answer, changed⟩
  · exact (congrArg Prod.snd ended).symm
  · cases congrArg Prod.fst ended

-----------------------------------------------------------------------------------------
-- Operations that draw random bytes
-----------------------------------------------------------------------------------------

namespace Draw

variable {α β : Type}

/-- The outcome of an operation on a source of bytes. -/
def outcome (draw : Draw α) (source : Entropy) : Outcome ChannelError α := (draw source).1

/-- What an operation leaves of a source of bytes. -/
def rest (draw : Draw α) (source : Entropy) : Entropy := (draw source).2

/-- The outcome of a sequence is the sequence of the outcomes, the second operation drawing what
the first one left.
-/
@[simp] theorem outcome_bind (draw : Draw α) (next : α → Draw β) (source : Entropy)
    : (draw >>= next).outcome source
      = draw.outcome source >>= fun value => (next value).outcome (draw.rest source) := by
  change (ExceptT.bindCont next (draw source).1 (draw source).2).1 = _
  rw [outcome, rest]
  rcases (draw source).1 with failure | value
  · rfl
  · rfl

@[simp] theorem outcome_map (draw : Draw α) (change : α → β) (source : Entropy)
    : (change <$> draw).outcome source = change <$> draw.outcome source := by
  change (ExceptT.map change draw source).1 = _
  simp only [ExceptT.map, ExceptT.mk, bind, StateT.bind, outcome]
  rcases draw source with ⟨failure | value, left⟩
  · rfl
  · rfl

@[simp] theorem outcome_pure (value : α) (source : Entropy)
    : (pure value : Draw α).outcome source = pure value := rfl

@[simp] theorem outcome_of (given : Outcome ChannelError α) (source : Entropy)
    : (of given).outcome source = given := rfl

@[simp] theorem rest_of (given : Outcome ChannelError α) (source : Entropy)
    : (of given).rest source = source := rfl

@[simp] theorem outcome_bytes (n : Nat) (source : Entropy)
    : (bytes n).outcome source = .ok (source.draw n).1 := rfl

@[simp] theorem rest_bytes (n : Nat) (source : Entropy)
    : (bytes n).rest source = (source.draw n).2 := rfl

@[simp] theorem outcome_secretKey (source : Entropy)
    : secretKey.outcome source
      = .require .keyGeneration (SecretKey.ofBytes? (source.draw 32).1) := rfl

@[simp] theorem rest_secretKey (source : Entropy)
    : secretKey.rest source = (source.draw 32).2 := rfl

end Draw

end PaymentChannel
