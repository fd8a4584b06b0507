import PaymentChannel.Proofs.Dict
import PaymentChannel.Proofs.Outcome

/-! What a ledger keeps.
A secret that was recorded for its lock is found again, and no later record displaces it.
-/

namespace PaymentChannel

-----------------------------------------------------------------------------------------
-- Records
-----------------------------------------------------------------------------------------

namespace MemoryLedger

variable {records after : MemoryLedger} {lock other : RevLock} {secret known : RevSecret}

/-- A secret that is recorded is found, whether it was new or not. -/
theorem get?_put (written : records.put lock secret = .ok after)
    : after.get? lock = some secret := by
  unfold put at written
  split at written
  case h_1 =>
    cases written
    simp
  case h_2 stored found =>
    split at written
    case isTrue same =>
      cases written
      rw [found, same]
    case isFalse => cases written

/-- A record stays when another one is made. -/
theorem get?_put_of_some (written : records.put lock secret = .ok after)
    (found : records.get? other = some known)
    : after.get? other = some known := by
  unfold put at written
  split at written
  case h_1 missing =>
    cases written
    have apart : other ≠ lock := Dict.ne_of_get?_eq_none missing found
    rwa [Dict.get?_insert_of_ne apart]
  case h_2 =>
    split at written
    case isTrue =>
      cases written
      exact found
    case isFalse => cases written

end MemoryLedger

namespace LedgerTable

variable {table after : LedgerTable} {lock other : RevLock} {secret known : RevSecret}

/-- A record of a table makes a new row, or it is there already. -/
theorem put_eq_ok (written : table.put lock secret = .ok after)
    : ∃ rows, table.rows = some rows
      ∧ ((rows.get? lock.bytes.toList = none
          ∧ after = ⟨some (rows.insert lock.bytes.toList secret.bytes.toList)⟩)
        ∨ (table.get lock = .ok (some secret) ∧ after = table)) := by
  unfold put at written
  cases present : table.rows with
  | none =>
      rw [present] at written
      cases written
  | some rows =>
      refine ⟨rows, rfl, ?_⟩
      simp only [present] at written
      cases row : rows.get? lock.bytes.toList with
      | none =>
          simp only [row] at written
          cases written
          exact .inl ⟨rfl, rfl⟩
      | some stored =>
          simp only [row] at written
          cases found : table.get lock with
          | error reason =>
              rw [found] at written
              cases written
          | ok known =>
              simp only [found, bind, Except.bind] at written
              split at written
              case isTrue same =>
                cases written
                exact .inr ⟨by rw [same], rfl⟩
              case isFalse => cases written

/-- A secret that is recorded for its own lock is found. -/
theorem get_put (written : table.put lock secret = .ok after) (opens : secret.lock = lock)
    : after.get lock = .ok (some secret) := by
  obtain ⟨rows, -, ⟨-, rfl⟩ | ⟨found, rfl⟩⟩ := put_eq_ok written
  · simp [get, opens]
  · exact found

/-- A record stays when another one is made. -/
theorem get_put_of_some (written : table.put lock secret = .ok after)
    (found : table.get other = .ok (some known))
    : after.get other = .ok (some known) := by
  obtain ⟨rows, present, ⟨missing, rfl⟩ | ⟨-, rfl⟩⟩ := put_eq_ok written
  · have apart : other.bytes.toList ≠ lock.bytes.toList := by
      intro same
      simp [get, present, same, missing] at found
    simpa [get, present, Dict.get?_insert_of_ne apart] using found
  · exact found

end LedgerTable

-----------------------------------------------------------------------------------------
-- Ledgers
-----------------------------------------------------------------------------------------

namespace Ledger

variable {ledger after : Ledger} {lock other : RevLock} {secret : RevSecret}

/-- A ledger has this secret for a lock, whether its device can be read at present or not. -/
def Keeps (ledger : Ledger) (lock : RevLock) (secret : RevSecret) : Prop :=
  Ledger.get { ledger with getOutage := none } lock = .ok (some secret)

/-- A ledger has a secret for a lock, whether its device can be read at present or not. -/
def Holds (ledger : Ledger) (lock : RevLock) : Prop :=
  ∃ secret, Ledger.get { ledger with getOutage := none } lock = .ok (some secret)

instance (ledger : Ledger) (lock : RevLock) : Decidable (ledger.Holds lock) :=
  match found : Ledger.get { ledger with getOutage := none } lock with
  | .ok (some secret) => .isTrue ⟨secret, found⟩
  | .ok none => .isFalse fun ⟨_, held⟩ => nomatch found.symm.trans held
  | .error _ => .isFalse fun ⟨_, held⟩ => nomatch found.symm.trans held

/-- Recording needs a device that can be written, and then changes the records where they are. -/
theorem put_eq_ok (written : ledger.put lock secret = .ok after)
    : (∃ records changed, ledger.store = .memory records
        ∧ records.put lock secret = .ok changed
        ∧ after = { ledger with store := .memory changed })
      ∨ ∃ table changed, ledger.store = .table table
        ∧ table.put lock secret = .ok changed
        ∧ after = { ledger with store := .table changed } := by
  obtain ⟨store, putOutage, getOutage⟩ := ledger
  cases putOutage with
  | some reason => cases written
  | none =>
      cases store with
      | memory records =>
          cases stored : records.put lock secret with
          | error reason => simp [put, stored, bind, Except.bind] at written
          | ok changed =>
              simp only [put, stored, bind, Except.bind, pure, Except.pure] at written
              cases written
              exact .inl ⟨records, changed, rfl, stored, rfl⟩
      | table table =>
          cases stored : table.put lock secret with
          | error reason => simp [put, stored, bind, Except.bind] at written
          | ok changed =>
              simp only [put, stored, bind, Except.bind, pure, Except.pure] at written
              cases written
              exact .inr ⟨table, changed, rfl, stored, rfl⟩

/-- A secret that is recorded for its own lock is kept. -/
theorem keeps_put (written : ledger.put lock secret = .ok after) (opens : secret.lock = lock)
    : after.Keeps lock secret := by
  rcases put_eq_ok written with ⟨_, _, -, stored, rfl⟩ | ⟨_, _, -, stored, rfl⟩
  · exact congrArg Except.ok (MemoryLedger.get?_put stored)
  · exact LedgerTable.get_put stored opens

/-- What a ledger keeps stays when another secret is recorded. -/
theorem Keeps.put {known : RevSecret} (kept : ledger.Keeps other known)
    (written : ledger.put lock secret = .ok after)
    : after.Keeps other known := by
  rcases put_eq_ok written with ⟨_, _, memory, stored, rfl⟩ | ⟨_, _, table, stored, rfl⟩
  · simp only [Keeps, get, memory, Except.ok.injEq] at kept ⊢
    exact MemoryLedger.get?_put_of_some stored kept
  · simp only [Keeps, get, table] at kept ⊢
    exact LedgerTable.get_put_of_some stored kept

/-- What a ledger keeps is read as long as its device can be read. -/
theorem Keeps.get (kept : ledger.Keeps lock secret) (readable : ledger.getOutage = none)
    : ledger.get lock = .ok (some secret) := by
  rwa [Keeps, ← readable] at kept

theorem holds_put (written : ledger.put lock secret = .ok after) (opens : secret.lock = lock)
    : after.Holds lock :=
  ⟨secret, keeps_put written opens⟩

theorem Holds.put (held : ledger.Holds other) (written : ledger.put lock secret = .ok after)
    : after.Holds other :=
  held.imp fun _ kept => Keeps.put kept written

end Ledger

-----------------------------------------------------------------------------------------
-- What happens to a ledger
-----------------------------------------------------------------------------------------

/-- What happens to a ledger between the calls of one of its users. -/
inductive LedgerEvent
  /-- Another writer records a secret. -/
  | record (lock : RevLock) (secret : RevSecret)
  /-- The device fails or is mended. -/
  | setOutages (putOutage getOutage : Option String)

/-- The ledger after an event; a record that is refused leaves it as it was. -/
def LedgerEvent.apply (ledger : Ledger) : LedgerEvent → Ledger
  | .record lock secret => (ledger.put lock secret).toOption.getD ledger
  | .setOutages putOutage getOutage => { ledger with putOutage, getOutage }

/-- No event takes a record away. -/
theorem Ledger.Keeps.event {ledger : Ledger} {lock : RevLock} {secret : RevSecret}
    (kept : ledger.Keeps lock secret) (event : LedgerEvent)
    : (event.apply ledger).Keeps lock secret := by
  cases event with
  | record other known =>
      simp only [LedgerEvent.apply]
      cases written : ledger.put other known with
      | error reason => exact kept
      | ok after => exact kept.put written
  | setOutages putOutage getOutage => exact kept

theorem Ledger.Holds.event {ledger : Ledger} {lock : RevLock} (held : ledger.Holds lock)
    (event : LedgerEvent)
    : (event.apply ledger).Holds lock :=
  held.imp fun _ kept => Keeps.event kept event

end PaymentChannel
