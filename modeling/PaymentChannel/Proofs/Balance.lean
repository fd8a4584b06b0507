import PaymentChannel.Channel.Token
import PaymentChannel.Proofs.Outcome

/-! Balances as exact integers.
An operation on balances either answers with the exact result or gives none, so sums of balances are
kept as integers wherever they are kept as words.
-/

namespace PaymentChannel

namespace Balance

variable {ε : Type} {left right result : Balance}

theorem ofInt?_eq_some {value : Int} : ofInt? value = some result ↔ result.toInt = value := by
  unfold ofInt?
  split
  case isTrue within =>
    have exact : (Int64.ofInt value).toInt = value :=
      Int64.toInt_ofInt_of_le (by omega) (by omega)
    constructor
    · intro found
      rw [← Option.some.inj found]
      exact exact
    · intro same
      rw [← same, Int64.ofInt_toInt]
  case isFalse out =>
    have low := result.le_toInt
    have high := result.toInt_lt
    constructor
    · intro found
      cases found
    · intro same
      omega

theorem add?_eq_some : add? left right = some result ↔ result.toInt = left.toInt + right.toInt :=
  ofInt?_eq_some

theorem sub?_eq_some : sub? left right = some result ↔ result.toInt = left.toInt - right.toInt :=
  ofInt?_eq_some

theorem add_eq_ok
    : (add left right : Outcome ε Balance) = .ok result
      ↔ result.toInt = left.toInt + right.toInt := by
  rw [← add?_eq_some, add]
  split
  case h_1 sum found => simp [found]
  case h_2 none => simp [none]

theorem sub_eq_ok
    : (sub left right : Outcome ε Balance) = .ok result
      ↔ result.toInt = left.toInt - right.toInt := by
  rw [← sub?_eq_some, sub]
  split
  case h_1 difference found => simp [found]
  case h_2 none => simp [none]

/-- A balance that is not negative is the amount of the same size. -/
theorem toNat_toUInt64 (nonneg : 0 ≤ left) : (left.toUInt64.toNat : Int) = left.toInt := by
  rw [Int64.toNat_toUInt64_of_le nonneg, ← Int64.toInt_eq_toNatClampNeg nonneg]

end Balance

/-- The value of an escrow is the exact sum of both balances. -/
theorem escrowValue_eq_ok {customer merchant : Balance} {value : Sat}
    (worth : escrowValue customer merchant = .ok value)
    : (value.toNat : Int) = customer.toInt + merchant.toInt := by
  unfold escrowValue at worth
  split at worth
  case h_1 total summed =>
    split at worth
    case isTrue nonneg =>
      cases worth
      rw [Balance.toNat_toUInt64 nonneg, Balance.add?_eq_some.1 summed]
    case isFalse => cases worth
  case h_2 => cases worth

namespace ChannelState

/-- What both parties have in a state. -/
def total (state : ChannelState) : Int :=
  state.customerBalance.toInt + state.merchantBalance.toInt

variable {ε : Type} {state new : ChannelState} {amount : Balance} {lock : RevLock}

theorem pay_eq_ok
    : (state.pay amount lock : Outcome ε ChannelState) = .ok new
      ↔ ∃ customerBalance, (Balance.sub state.customerBalance amount : Outcome ε Balance)
          = .ok customerBalance
        ∧ ∃ merchantBalance, (Balance.add state.merchantBalance amount : Outcome ε Balance)
          = .ok merchantBalance
        ∧ new = { state with
            nonce := state.nonce.next, lock, customerBalance, merchantBalance } := by
  simp only [pay, Outcome.bind_eq_ok, Outcome.pure_eq_ok]

/-- A payment creates and destroys nothing. -/
theorem total_pay (paid : (state.pay amount lock : Outcome ε ChannelState) = .ok new)
    : new.total = state.total := by
  obtain ⟨_, subtracted, _, added, rfl⟩ := pay_eq_ok.1 paid
  have customer := Balance.sub_eq_ok.1 subtracted
  have merchant := Balance.add_eq_ok.1 added
  simp only [total]
  omega

end ChannelState

end PaymentChannel
