import PaymentChannel.Ledger

/-! Several ledgers side by side, some of which keep their records in files.
Two ledgers on one file share its records, and a file keeps its records when a ledger is opened on it
again. A ledger in memory has its records to itself.
-/

namespace PaymentChannel

/-- An open ledger: where its records are and whether its device refuses to work. -/
structure OpenLedger where
  /-- The file with the records, unless they are in memory. -/
  file : Option String
  /-- The records in memory. -/
  records : MemoryLedger
  putOutage : Option String
  getOutage : Option String

/-- All open ledgers, by the order in which they were opened, and the tables in files. -/
structure LedgerStorage where
  ledgers : List OpenLedger
  files : List (String × LedgerTable)

namespace LedgerStorage

/-- Nothing open and no files. -/
def empty : LedgerStorage := ⟨[], []⟩

/-- The table in a file; a new file has none. -/
def table (storage : LedgerStorage) (file : String) : LedgerTable :=
  (storage.files.lookup file).getD .missing

/-- The storage after the table in a file changed. -/
def setTable (storage : LedgerStorage) (file : String) (table : LedgerTable) : LedgerStorage :=
  { storage with files := (file, table) :: storage.files.filter (·.1 ≠ file) }

/-- Opens an empty ledger in memory or a ledger on a file, of which a missing table is created. -/
def openOn (storage : LedgerStorage) (file : Option String) : LedgerStorage :=
  let opened : OpenLedger := { file, records := .empty, putOutage := none, getOutage := none }
  let storage := { storage with ledgers := storage.ledgers ++ [opened] }
  match file with
  | some file => storage.setTable file (storage.table file).create
  | none => storage

/-- The ledger that was opened after a number of others. -/
def ledger? (storage : LedgerStorage) (position : Nat) : Option Ledger :=
  storage.ledgers[position]?.map fun opened => {
    store := match opened.file with
      | some file => .table (storage.table file)
      | none => .memory opened.records
    putOutage := opened.putOutage
    getOutage := opened.getOutage }

/-- The storage after the records of a ledger changed. -/
def keep (storage : LedgerStorage) (position : Nat) (ledger : Ledger) : LedgerStorage :=
  match ledger.store, storage.ledgers[position]?.bind (·.file) with
  | .table table, some file => storage.setTable file table
  | .memory records, none =>
      { storage with ledgers := storage.ledgers.modify position ({ · with records }) }
  | _, _ => storage

/-- The storage after the device of a ledger failed or was mended. -/
def setOutages (storage : LedgerStorage) (position : Nat) (putOutage getOutage : Option String)
    : LedgerStorage :=
  { storage with
    ledgers := storage.ledgers.modify position ({ · with putOutage, getOutage }) }

theorem table_setTable (storage : LedgerStorage) (file other : String) (table : LedgerTable)
    : (storage.setTable file table).table other
      = if other = file then table else storage.table other := by
  by_cases same : other = file
  · simp [LedgerStorage.table, setTable, same]
  · have kept : ∀ files : List (String × LedgerTable),
        (files.filter (·.1 ≠ file)).lookup other = files.lookup other := by
      intro files
      induction files with
      | nil => rfl
      | cons head rest ih =>
          obtain ⟨name, stored⟩ := head
          by_cases dropped : name = file
          · subst dropped
            simpa [List.lookup_cons, beq_false_of_ne same] using ih
          · by_cases found : other = name
            · subst found
              simp [dropped]
            · simpa [List.lookup_cons, dropped, beq_false_of_ne found] using ih
    simp only [LedgerStorage.table, setTable, List.lookup_cons, beq_false_of_ne same, same, if_false]
    rw [kept]

end LedgerStorage

end PaymentChannel
