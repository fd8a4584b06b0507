import PaymentChannel.Ledger.Storage
import PaymentChannel.Proofs.Ledger

/-! What a ledger answers through a whole history of calls.
A ledger in memory gives back the first secret that was recorded for a lock and refuses any other. A
ledger on a file does the same as long as this first secret opens its lock. It takes other secrets
too, and from then on it can neither read them nor take them again.
-/

namespace PaymentChannel

-----------------------------------------------------------------------------------------
-- Calls
-----------------------------------------------------------------------------------------

/-- What a ledger can be called for. -/
inductive LedgerCall
  | put (lock : RevLock) (secret : RevSecret)
  | get (lock : RevLock)
  /-- The file of the ledger is opened again, and the new ledger is called from then on. -/
  | reopen

namespace LedgerCall

/-- The lock that a call is about. -/
def lock? : LedgerCall → Option RevLock
  | .put lock _ | .get lock => some lock
  | .reopen => none

/-- The secret that the calls record first for a lock. -/
def firstSecret (calls : List LedgerCall) (lock : RevLock) : Option RevSecret :=
  calls.findSome? fun
    | .put other secret => if lock = other then some secret else none
    | .get _ | .reopen => none

/-- The answer to a call when the first secret of every lock is known: another secret for the same
lock is refused, and the first one is given back.
-/
def answer (known : RevLock → Option RevSecret) : LedgerCall
    → Except LedgerError (Option RevSecret)
  | .put lock secret =>
      if known lock = none ∨ known lock = some secret then .ok none else .error (.conflict lock)
  | .get lock => .ok (known lock)
  | .reopen => .ok none

/-- The lock of the call has no first secret, or one that opens it. -/
def Opens (known : RevLock → Option RevSecret) (call : LedgerCall) : Prop :=
  ∀ lock ∈ call.lock?, ∀ secret ∈ known lock, secret.lock = lock

end LedgerCall

open LedgerCall

/-- A ledger in use: all ledgers that were opened, and the one that is called. -/
structure LedgerDesk where
  storage : LedgerStorage
  position : Nat

namespace LedgerDesk

/-- The desk with an empty ledger, in memory or on a new file. -/
def opened (file : Option String) : LedgerDesk := ⟨LedgerStorage.empty.openOn file, 0⟩

/-- The ledger that is called. -/
def ledger (desk : LedgerDesk) : Ledger :=
  (desk.storage.ledger? desk.position).getD { store := .memory .empty }

/-- The file of this ledger, unless it is in memory. -/
def file (desk : LedgerDesk) : Option String :=
  desk.storage.ledgers[desk.position]?.bind (·.file)

/-- What the ledger makes of a call, and the desk afterwards. -/
def serve (desk : LedgerDesk) : LedgerCall → Except LedgerError (Option RevSecret) × LedgerDesk
  | .put lock secret =>
      match desk.ledger.put lock secret with
      | .ok kept => (.ok none, { desk with storage := desk.storage.keep desk.position kept })
      | .error reason => (.error reason, desk)
  | .get lock => (desk.ledger.get lock, desk)
  | .reopen =>
      match desk.file with
      | some file => (.ok none, ⟨desk.storage.openOn (some file), desk.storage.ledgers.length⟩)
      | none => (.ok none, desk)

/-- The desk after some calls. -/
def after (desk : LedgerDesk) (calls : List LedgerCall) : LedgerDesk :=
  calls.foldl (fun desk call => (desk.serve call).2) desk

-----------------------------------------------------------------------------------------
-- The records behind the storage
-----------------------------------------------------------------------------------------

/-- The ledger that is called is there, with these records and a device that works. -/
structure Holds (desk : LedgerDesk) (file : Option String) (store : LedgerStore) : Prop where
  file : desk.file = file
  ledger : desk.storage.ledger? desk.position = some { store }

namespace Holds

variable {desk : LedgerDesk} {storage : LedgerStorage} {file : Option String}
  {store : LedgerStore} {lock : RevLock} {secret : RevSecret}

theorem ledger_eq (holds : desk.Holds file store) : desk.ledger = { store } := by
  rw [LedgerDesk.ledger, holds.ledger, Option.getD_some]

theorem memory : (opened none).Holds none (.memory .empty) := ⟨rfl, rfl⟩

/-- A ledger that is opened on a file has the records of the file. -/
theorem table (storage : LedgerStorage) (file : String)
    : Holds ⟨storage.openOn (some file), storage.ledgers.length⟩ (some file)
        (.table (storage.table file).create) := by
  constructor
  · simp [LedgerDesk.file, LedgerStorage.openOn, LedgerStorage.setTable]
  · simp [LedgerStorage.ledger?, LedgerStorage.openOn, LedgerStorage.table_setTable]
    simp [LedgerStorage.setTable]
    rfl

/-- The records in a file are the ones of the ledger that is called. -/
theorem table_eq {name : String} {records : LedgerTable}
    (holds : desk.Holds (some name) (.table records))
    : desk.storage.table name = records := by
  obtain ⟨file, ledger⟩ := holds
  obtain ⟨opened, found, ledger⟩ := Option.map_eq_some_iff.1 ledger
  have onFile : opened.file = some name := by simpa [LedgerDesk.file, found] using file
  simp only [onFile, Ledger.mk.injEq, LedgerStore.table.injEq] at ledger
  exact ledger.1

/-- A put that the records take is answered, and they are there from then on. -/
theorem put_memory {records changed : MemoryLedger} (holds : desk.Holds none (.memory records))
    (written : records.put lock secret = .ok changed)
    : (desk.serve (.put lock secret)).1 = .ok none
      ∧ (desk.serve (.put lock secret)).2.Holds none (.memory changed) := by
  have put : desk.ledger.put lock secret = .ok { store := .memory changed } := by
    simp only [holds.ledger_eq, Ledger.put, written]
    rfl
  simp only [serve, put, true_and]
  obtain ⟨file, ledger⟩ := holds
  obtain ⟨opened, found, ledger⟩ := Option.map_eq_some_iff.1 ledger
  have memory : opened.file = none := by simpa [LedgerDesk.file, found] using file
  simp only [memory, Ledger.mk.injEq] at ledger
  obtain ⟨-, writable, readable⟩ := ledger
  constructor
  · simp [LedgerDesk.file, LedgerStorage.keep, found, memory]
  · simp [LedgerStorage.ledger?, LedgerStorage.keep, found, memory, writable, readable]

/-- A put that the table takes is answered, and the table is in the file from then on. -/
theorem put_table {name : String} {records changed : LedgerTable}
    (holds : desk.Holds (some name) (.table records))
    (written : records.put lock secret = .ok changed)
    : (desk.serve (.put lock secret)).1 = .ok none
      ∧ (desk.serve (.put lock secret)).2.Holds (some name) (.table changed) := by
  have put : desk.ledger.put lock secret = .ok { store := .table changed } := by
    simp only [holds.ledger_eq, Ledger.put, written]
    rfl
  simp only [serve, put, true_and]
  obtain ⟨file, ledger⟩ := holds
  obtain ⟨opened, found, ledger⟩ := Option.map_eq_some_iff.1 ledger
  have onFile : opened.file = some name := by simpa [LedgerDesk.file, found] using file
  simp only [onFile, Ledger.mk.injEq] at ledger
  obtain ⟨-, writable, readable⟩ := ledger
  have set : desk.storage.keep desk.position { store := .table changed }
      = desk.storage.setTable name changed := by
    simp [LedgerStorage.keep, found, onFile]
  constructor
  · simpa [set, LedgerDesk.file, LedgerStorage.setTable] using file
  · simp [set, LedgerStorage.ledger?, LedgerStorage.table_setTable]
    simp [LedgerStorage.setTable, found, onFile, writable, readable]

/-- A put that the records refuse leaves everything as it was. -/
theorem put_memory_refused {records : MemoryLedger} {reason : LedgerError}
    (holds : desk.Holds none (.memory records))
    (refused : records.put lock secret = .error reason)
    : desk.serve (.put lock secret) = (.error reason, desk) := by
  simp only [serve, holds.ledger_eq, Ledger.put, refused, bind, Except.bind]

/-- A put that the table refuses leaves everything as it was. -/
theorem put_table_refused {name : String} {records : LedgerTable} {reason : LedgerError}
    (holds : desk.Holds (some name) (.table records))
    (refused : records.put lock secret = .error reason)
    : desk.serve (.put lock secret) = (.error reason, desk) := by
  simp only [serve, holds.ledger_eq, Ledger.put, refused, bind, Except.bind]

end Holds

end LedgerDesk

-----------------------------------------------------------------------------------------
-- What becomes known of the locks
-----------------------------------------------------------------------------------------

namespace LedgerCall

variable {known : RevLock → Option RevSecret} {lock : RevLock} {first secret : RevSecret}

/-- What is known of the locks after some more calls. -/
def learn (known : RevLock → Option RevSecret) (calls : List LedgerCall) (lock : RevLock)
    : Option RevSecret :=
  (known lock).or (firstSecret calls lock)

@[simp] theorem learn_nil : learn known [] = known := by
  funext lock
  simp [learn, firstSecret]

theorem learn_cons (call : LedgerCall) (calls : List LedgerCall)
    : learn known (call :: calls) = learn (learn known [call]) calls := by
  funext lock
  have split : firstSecret (call :: calls) lock
      = (firstSecret [call] lock).or (firstSecret calls lock) := by
    rw [firstSecret, firstSecret, firstSecret, ← List.findSome?_append]
    rfl
  simp only [learn, split, Option.or_assoc]

@[simp] theorem learn_get (lock : RevLock) : learn known [.get lock] = known := by
  funext other
  simp [learn, firstSecret]

@[simp] theorem learn_reopen : learn known [.reopen] = known := by
  funext other
  simp [learn, firstSecret]

/-- The first secret that is recorded for a lock becomes known. -/
theorem learn_put_new (unknown : known lock = none)
    : learn known [.put lock secret]
      = fun other => if other = lock then some secret else known other := by
  funext other
  by_cases same : other = lock
  · simp [learn, firstSecret, same, unknown]
  · simp [learn, firstSecret, same]

/-- A lock whose first secret is known has nothing to learn. -/
theorem learn_put_known (found : known lock = some first)
    : learn known [.put lock secret] = known := by
  funext other
  by_cases same : other = lock
  · simp [learn, same, found]
  · simp [learn, firstSecret, same]

end LedgerCall

-----------------------------------------------------------------------------------------
-- Calls of a ledger in memory
-----------------------------------------------------------------------------------------

variable {known : RevLock → Option RevSecret} {lock : RevLock} {first secret : RevSecret}

namespace MemoryLedger

/-- The records are the first secrets of their locks. -/
def Knows (records : MemoryLedger) (known : RevLock → Option RevSecret) : Prop :=
  ∀ lock, records.get? lock = known lock

variable {records : MemoryLedger}

/-- The first secret of a lock is recorded. -/
theorem Knows.put_new (knows : records.Knows known) (unknown : known lock = none)
    (secret : RevSecret)
    : ∃ changed, records.put lock secret = .ok changed
      ∧ changed.Knows (learn known [.put lock secret]) := by
  refine ⟨records.insert lock secret, by simp [put, knows lock, unknown], fun other => ?_⟩
  rw [learn_put_new unknown, Dict.get?_insert, knows other]

/-- Another secret is refused, and the first one is not recorded again. -/
theorem Knows.put_known (knows : records.Knows known) (found : known lock = some first)
    (secret : RevSecret)
    : records.put lock secret = if first = secret then .ok records else .error (.conflict lock) := by
  simp [put, knows lock, found]

end MemoryLedger

namespace LedgerDesk

variable {desk : LedgerDesk}

/-- A desk whose ledger in memory has the first secrets of the locks. -/
def InMemory (desk : LedgerDesk) (known : RevLock → Option RevSecret) : Prop :=
  ∃ records, desk.Holds none (.memory records) ∧ records.Knows known

/-- Every call of a ledger in memory is answered from the first secrets. -/
theorem InMemory.serve (stands : desk.InMemory known) (call : LedgerCall)
    : (desk.serve call).1 = call.answer known
      ∧ (desk.serve call).2.InMemory (learn known [call]) := by
  obtain ⟨records, holds, knows⟩ := stands
  cases call with
  | reopen =>
      simp only [LedgerDesk.serve, holds.file, learn_reopen]
      exact ⟨rfl, records, holds, knows⟩
  | get lock =>
      simp only [LedgerDesk.serve, holds.ledger_eq, learn_get]
      exact ⟨congrArg Except.ok (knows lock), records, holds, knows⟩
  | put lock secret =>
      cases found : known lock with
      | none =>
          obtain ⟨changed, written, learns⟩ := knows.put_new found secret
          obtain ⟨taken, holds⟩ := holds.put_memory written
          refine ⟨?_, changed, holds, learns⟩
          rw [taken, LedgerCall.answer, if_pos (.inl found)]
      | some first =>
          have kept := knows.put_known found secret
          rw [learn_put_known found, LedgerCall.answer]
          by_cases same : first = secret
          · rw [if_pos same] at kept
            obtain ⟨taken, holds⟩ := holds.put_memory kept
            refine ⟨?_, records, holds, knows⟩
            rw [taken, if_pos (.inr (same ▸ found))]
          · rw [if_neg same] at kept
            rw [holds.put_memory_refused kept]
            refine ⟨?_, records, holds, knows⟩
            simp only [found, reduceCtorEq, Option.some.injEq, same, or_false, if_false]

/-- After any calls a ledger in memory has the first secrets, by induction on the calls. -/
theorem InMemory.after (stands : desk.InMemory known) (calls : List LedgerCall)
    : (desk.after calls).InMemory (learn known calls) := by
  induction calls generalizing desk known with
  | nil => rwa [learn_nil]
  | cons call rest ih =>
      rw [learn_cons]
      exact ih (stands.serve call).2

end LedgerDesk

-----------------------------------------------------------------------------------------
-- Calls of a ledger on a file
-----------------------------------------------------------------------------------------

namespace LedgerTable

/-- The rows are the first secrets of their locks. -/
def Knows (table : LedgerTable) (known : RevLock → Option RevSecret) : Prop :=
  ∃ rows, table.rows = some rows
    ∧ ∀ lock, rows.get? lock.bytes.toList = (known lock).map (·.bytes.toList)

/-- What a reader is told of a first secret that does not open its lock. -/
def mismatch (lock : RevLock) : LedgerError :=
  .corrupted lock "secret does not open the lock"

variable {table : LedgerTable}

theorem Knows.create (knows : table.Knows known) : table.create.Knows known := by
  obtain ⟨rows, present, same⟩ := knows
  exact ⟨rows, by simp [LedgerTable.create, present], same⟩

/-- A secret is read back as long as it opens its lock. -/
theorem Knows.get (knows : table.Knows known) (lock : RevLock)
    : table.get lock
      = match known lock with
        | none => .ok none
        | some first => if first.lock = lock then .ok (some first) else .error (mismatch lock) := by
  obtain ⟨rows, present, same⟩ := knows
  cases found : known lock with
  | none => simp [LedgerTable.get, present, same, found]
  | some first => simp [LedgerTable.get, present, same, found, mismatch]

/-- The first secret of a lock is recorded, whether it opens the lock or not. -/
theorem Knows.put_new (knows : table.Knows known) (unknown : known lock = none)
    (secret : RevSecret)
    : ∃ changed, table.put lock secret = .ok changed
      ∧ changed.Knows (learn known [.put lock secret]) := by
  obtain ⟨rows, present, same⟩ := knows
  refine ⟨⟨some (rows.insert lock.bytes.toList secret.bytes.toList)⟩,
    by simp [put, present, same, unknown], _, rfl, fun other => ?_⟩
  have apart : other.bytes.toList = lock.bytes.toList ↔ other = lock :=
    ⟨fun bytes => congrArg RevLock.mk (Bytes.ext bytes), fun equal => by rw [equal]⟩
  rw [learn_put_new unknown, Dict.get?_insert, same other]
  simp only [apart]
  split <;> rfl

/-- A lock that has a secret has this secret read before it is compared. -/
theorem Knows.put_known (knows : table.Knows known) (found : known lock = some first)
    (secret : RevSecret)
    : table.put lock secret
      = if first.lock = lock then if first = secret then .ok table else .error (.conflict lock)
        else .error (mismatch lock) := by
  have read := knows.get lock
  obtain ⟨rows, present, same⟩ := knows
  simp only [found] at read
  simp only [put, present, same, found, Option.map_some, read]
  by_cases opens : first.lock = lock
  · simp [opens, bind, Except.bind]
  · simp [opens, bind, Except.bind]

end LedgerTable

namespace LedgerDesk

variable {desk : LedgerDesk} {file : String}

/-- A desk whose ledger on a file has the first secrets of the locks. -/
def OnFile (desk : LedgerDesk) (file : String) (known : RevLock → Option RevSecret) : Prop :=
  ∃ table, desk.Holds (some file) (.table table) ∧ table.Knows known

/-- The first secrets are there after every call, also after one that opens the file again. -/
theorem OnFile.serve (stands : desk.OnFile file known) (call : LedgerCall)
    : (desk.serve call).2.OnFile file (learn known [call]) := by
  obtain ⟨table, holds, knows⟩ := stands
  cases call with
  | reopen =>
      simp only [LedgerDesk.serve, holds.file, learn_reopen]
      refine ⟨_, .table desk.storage file, ?_⟩
      rw [holds.table_eq]
      exact knows.create
  | get lock =>
      rw [learn_get]
      exact ⟨table, holds, knows⟩
  | put lock secret =>
      cases written : table.put lock secret with
      | error reason =>
          rw [holds.put_table_refused written]
          cases found : known lock with
          | none =>
              obtain ⟨changed, taken, -⟩ := knows.put_new found secret
              cases written.symm.trans taken
          | some first =>
              rw [learn_put_known found]
              exact ⟨table, holds, knows⟩
      | ok changed =>
          refine ⟨changed, (holds.put_table written).2, ?_⟩
          cases found : known lock with
          | none =>
              obtain ⟨_, taken, learns⟩ := knows.put_new found secret
              cases written.symm.trans taken
              exact learns
          | some first =>
              rw [learn_put_known found]
              rw [knows.put_known found secret] at written
              repeat split at written
              all_goals cases written
              exact knows

/-- A call about a lock whose first secret opens it is answered from the first secrets. -/
theorem OnFile.answer_of_opens (stands : desk.OnFile file known) {call : LedgerCall}
    (opens : call.Opens known)
    : (desk.serve call).1 = call.answer known := by
  obtain ⟨table, holds, knows⟩ := stands
  cases call with
  | reopen => simp only [LedgerDesk.serve, holds.file, LedgerCall.answer]
  | get lock =>
      simp only [LedgerDesk.serve, holds.ledger_eq, Ledger.get, knows.get lock, LedgerCall.answer]
      cases found : known lock with
      | none => rfl
      | some first => exact if_pos (opens lock rfl first found)
  | put lock secret =>
      cases found : known lock with
      | none =>
          obtain ⟨changed, written, -⟩ := knows.put_new found secret
          rw [(holds.put_table written).1, LedgerCall.answer, if_pos (.inl found)]
      | some first =>
          have kept := knows.put_known found secret
          rw [if_pos (opens lock rfl first found)] at kept
          by_cases same : first = secret
          · rw [if_pos same] at kept
            rw [(holds.put_table kept).1, LedgerCall.answer, if_pos (.inr (same ▸ found))]
          · rw [if_neg same] at kept
            rw [holds.put_table_refused kept, LedgerCall.answer, if_neg]
            simpa [found] using same

/-- A call about a lock whose first secret does not open it is refused. -/
theorem OnFile.answer_of_mismatch (stands : desk.OnFile file known) {call : LedgerCall}
    (about : call.lock? = some lock) (found : known lock = some first)
    (mismatch : first.lock ≠ lock)
    : (desk.serve call).1 = .error (LedgerTable.mismatch lock) := by
  obtain ⟨table, holds, knows⟩ := stands
  cases call with
  | reopen => cases about
  | get other =>
      cases about
      simp only [LedgerDesk.serve, holds.ledger_eq, Ledger.get, knows.get lock, found,
        if_neg mismatch]
  | put other secret =>
      cases about
      have kept := knows.put_known found secret
      rw [if_neg mismatch] at kept
      rw [holds.put_table_refused kept]

/-- After any calls a ledger on a file has the first secrets, by induction on the calls. -/
theorem OnFile.after (stands : desk.OnFile file known) (calls : List LedgerCall)
    : (desk.after calls).OnFile file (learn known calls) := by
  induction calls generalizing desk known with
  | nil => rwa [learn_nil]
  | cons call rest ih =>
      rw [learn_cons]
      exact ih (stands.serve call)

end LedgerDesk

-----------------------------------------------------------------------------------------
-- Empty ledgers and what they answer
-----------------------------------------------------------------------------------------

/-- Nothing is known of the locks before the first call. -/
theorem LedgerCall.learn_nothing (calls : List LedgerCall)
    : learn (fun _ => none) calls = firstSecret calls := by
  funext lock
  simp [learn]

namespace LedgerDesk

theorem inMemory_opened : (opened none).InMemory fun _ => none :=
  ⟨.empty, .memory, fun _ => rfl⟩

theorem onFile_opened (file : String) : (opened (some file)).OnFile file fun _ => none :=
  ⟨_, .table .empty file, .empty, rfl, fun _ => rfl⟩

end LedgerDesk

/-- What is known of the locks never makes a call fail as a stray secret in a file does. -/
theorem LedgerCall.answer_ne_mismatch (call : LedgerCall) (known : RevLock → Option RevSecret)
    (lock : RevLock)
    : call.answer known ≠ .error (LedgerTable.mismatch lock) := by
  cases call with
  | put other secret =>
      rw [LedgerCall.answer]
      split <;> simp [LedgerTable.mismatch]
  | get | reopen => simp [LedgerCall.answer]

/-- After any calls a ledger in memory takes a secret unless its lock has another one, and it gives
back the first secret of a lock. A ledger on a new file, opened again any number of times, answers a
call in the same way exactly if the first secret of the call's lock opens it. Otherwise it refuses
the call, although it took the secret.
-/
theorem ledgers_alike_iff (file : String) (calls : List LedgerCall) (call : LedgerCall)
    : let memory := ((LedgerDesk.opened none).after calls).serve call
      let table := ((LedgerDesk.opened (some file)).after calls).serve call
      memory.1 = call.answer (firstSecret calls)
        ∧ (table.1 = memory.1 ↔ call.Opens (firstSecret calls))
        ∧ ∀ lock first, call.lock? = some lock → firstSecret calls lock = some first
          → first.lock ≠ lock
          → table.1 = .error (.corrupted lock "secret does not open the lock") := by
  intro memory table
  have inMemory := LedgerDesk.inMemory_opened.after calls
  have onFile := (LedgerDesk.onFile_opened file).after calls
  rw [learn_nothing] at inMemory onFile
  have answer : memory.1 = call.answer (firstSecret calls) := (inMemory.serve call).1
  refine ⟨answer, ⟨fun alike lock about first found => ?_, fun opens => ?_⟩, ?_⟩
  · by_cases opens : first.lock = lock
    case pos => exact opens
    case neg =>
      have refused := onFile.answer_of_mismatch about found opens
      rw [← alike, refused] at answer
      exact absurd answer.symm (call.answer_ne_mismatch _ lock)
  · exact (onFile.answer_of_opens opens).trans answer.symm
  · intro lock first about found mismatch
    exact onFile.answer_of_mismatch about found mismatch

section Example

/-- A lock of nobody. -/
def strayLock : RevLock := ⟨.replicate 32 0⟩

/-- A secret that does not open the lock. -/
def straySecret : RevSecret := ⟨.replicate 32 0⟩

/-- A ledger on a file takes a secret that does not open its lock, and then neither gives it back nor
takes it again. A ledger in memory does both.
-/
theorem stray_secret_unreadable
    : let taken := [LedgerCall.put strayLock straySecret]
      let unreadable := LedgerError.corrupted strayLock "secret does not open the lock"
      (∀ file, ((LedgerDesk.opened file).serve (.put strayLock straySecret)).1 = .ok none)
        ∧ (((LedgerDesk.opened none).after taken).serve (.put strayLock straySecret)).1 = .ok none
        ∧ (((LedgerDesk.opened none).after taken).serve (.get strayLock)).1
          = .ok (some straySecret)
        ∧ (((LedgerDesk.opened (some "ledger")).after taken).serve
            (.put strayLock straySecret)).1 = .error unreadable
        ∧ (((LedgerDesk.opened (some "ledger")).after taken).serve (.get strayLock)).1
          = .error unreadable := by
  have stray : straySecret.lock ≠ strayLock := by decide +kernel
  have onFile := (LedgerDesk.onFile_opened "ledger").serve (.put strayLock straySecret)
  have known : learn (fun _ => none) [.put strayLock straySecret] strayLock
      = some straySecret := by
    simp [learn_put_new]
  refine ⟨fun file => ?_, rfl, rfl, onFile.answer_of_mismatch rfl known stray,
    onFile.answer_of_mismatch rfl known stray⟩
  cases file with
  | none => rfl
  | some file =>
      exact (LedgerDesk.onFile_opened file).answer_of_opens fun _ _ _ nothing => nomatch nothing

end Example

end PaymentChannel
