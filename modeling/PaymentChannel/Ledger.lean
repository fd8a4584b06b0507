import PaymentChannel.Dict
import PaymentChannel.Revocation

/-! The ledger in which a merchant keeps revealed secrets.
A lock keeps the first secret that is recorded for it. A ledger is either kept in memory, which
compares secrets only, or in a table that other programs can change too, where every secret that is
read is checked against its lock.
-/

namespace PaymentChannel

/-- Why a ledger did not do what it was asked. -/
inductive LedgerError
  | database (reason : String)
  | conflict (lock : RevLock)
  | corrupted (lock : RevLock) (details : String)
deriving DecidableEq

/-- What is told about the error. -/
def LedgerError.message : LedgerError → String
  | .database reason => "revocation ledger database error: " ++ reason
  | .conflict lock =>
      s!"revocation lock {lock.bytes.hex} is already associated with a different secret"
  | .corrupted lock details =>
      s!"revocation ledger record for {lock.bytes.hex} is corrupted: " ++ details

/-- The records of a ledger in memory. -/
abbrev MemoryLedger := Dict RevLock RevSecret

namespace MemoryLedger

/-- Records a secret for a lock, unless the lock has a different one. -/
def put (ledger : MemoryLedger) (lock : RevLock) (secret : RevSecret)
    : Except LedgerError MemoryLedger :=
  match ledger.get? lock with
  | none => .ok (ledger.insert lock secret)
  | some known => if known = secret then .ok ledger else .error (.conflict lock)

end MemoryLedger

/-- A table of locks and secrets, in which other programs may have left anything. There is no
table when it was dropped, or when its file is new.
-/
structure LedgerTable where
  rows : Option (Dict (List UInt8) (List UInt8))

namespace LedgerTable

/-- A file that has no table yet. -/
def missing : LedgerTable := ⟨none⟩

/-- What every access to a missing table reports. -/
def missingError : LedgerError := .database "no such table: revocations"

/-- The table, created when it is missing. -/
def create (table : LedgerTable) : LedgerTable :=
  ⟨some (table.rows.getD .empty)⟩

/-- Reads the secret of a lock, and checks that it is one. -/
def get (table : LedgerTable) (lock : RevLock) : Except LedgerError (Option RevSecret) :=
  match table.rows with
  | none => .error missingError
  | some rows =>
      match rows.get? lock.bytes.toList with
      | none => .ok none
      | some stored =>
          match Bytes.ofList? 32 stored with
          | none => .error (.corrupted lock "secret must be 32 bytes long")
          | some bytes =>
              if RevSecret.lock ⟨bytes⟩ = lock then .ok (some ⟨bytes⟩)
              else .error (.corrupted lock "secret does not open the lock")

/-- Records a secret for a lock that has none; otherwise the recorded one has to be the same. -/
def put (table : LedgerTable) (lock : RevLock) (secret : RevSecret)
    : Except LedgerError LedgerTable :=
  match table.rows with
  | none => .error missingError
  | some rows =>
      match rows.get? lock.bytes.toList with
      | none => .ok ⟨some (rows.insert lock.bytes.toList secret.bytes.toList)⟩
      | some _ => do
          let known ← table.get lock
          if known = some secret then .ok table else .error (.conflict lock)

/-- The number of records. -/
def size (table : LedgerTable) : Except LedgerError Nat :=
  match table.rows with
  | none => .error missingError
  | some rows => .ok rows.size

/-- What another program does when it replaces a record. -/
def replace (table : LedgerTable) (key secret : List UInt8) : Except LedgerError LedgerTable :=
  match table.rows with
  | none => .error missingError
  | some rows => .ok ⟨some (rows.insert key secret)⟩

/-- What another program does when it drops the table. -/
def drop (table : LedgerTable) : Except LedgerError LedgerTable :=
  match table.rows with
  | none => .error missingError
  | some _ => .ok missing

end LedgerTable

/-- Where the records of a ledger are. -/
inductive LedgerStore
  | memory (records : MemoryLedger)
  | table (table : LedgerTable)

/-- A ledger, and whether its device refuses to write or to read at present. -/
structure Ledger where
  store : LedgerStore
  /-- Why nothing can be written, if so. -/
  putOutage : Option String := none
  /-- Why nothing can be read, if so. -/
  getOutage : Option String := none

namespace Ledger

/-- Records a secret for a lock. -/
def put (ledger : Ledger) (lock : RevLock) (secret : RevSecret) : Except LedgerError Ledger :=
  match ledger.putOutage with
  | some reason => .error (.database reason)
  | none =>
      match ledger.store with
      | .memory records => do
          return { ledger with store := .memory (← records.put lock secret) }
      | .table table => do
          return { ledger with store := .table (← table.put lock secret) }

/-- The secret recorded for a lock, if there is one. -/
def get (ledger : Ledger) (lock : RevLock) : Except LedgerError (Option RevSecret) :=
  match ledger.getOutage with
  | some reason => .error (.database reason)
  | none =>
      match ledger.store with
      | .memory records => .ok (records.get? lock)
      | .table table => table.get lock

end Ledger

end PaymentChannel
