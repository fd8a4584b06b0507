import Mathlib.Data.Set.Basic
import PaymentChannel.Proofs.Concurrency.Moves
import PaymentChannel.Proofs.SessionsLeft

/-! What a payment reads and changes at a till.
A call of a payment depends on the entries of one session, of its nonces and of one lock, and changes
no others. So two payments that reach for different entries do not notice each other.
-/

namespace PaymentChannel

-----------------------------------------------------------------------------------------
-- Maps that agree on some keys
-----------------------------------------------------------------------------------------

namespace Dict

variable {κ ν : Type} [Ord κ] [DecidableEq κ] {keys fewer : Set κ} {left right dict : Dict κ ν}

/-- Two maps have the same values for some keys. -/
def AgreeOn (keys : Set κ) (left right : Dict κ ν) : Prop :=
  ∀ key ∈ keys, left.get? key = right.get? key

theorem AgreeOn.refl (keys : Set κ) (dict : Dict κ ν) : AgreeOn keys dict dict := fun _ _ => rfl

theorem AgreeOn.symm (agree : AgreeOn keys left right) : AgreeOn keys right left :=
  fun key member => (agree key member).symm

theorem AgreeOn.trans {third : Dict κ ν} (agree : AgreeOn keys left right)
    (goes : AgreeOn keys right third)
    : AgreeOn keys left third :=
  fun key member => (agree key member).trans (goes key member)

theorem AgreeOn.mono (agree : AgreeOn keys left right) (within : fewer ⊆ keys)
    : AgreeOn fewer left right :=
  fun key member => agree key (within member)

theorem AgreeOn.erase (agree : AgreeOn keys left right) (key : κ)
    : AgreeOn keys (left.erase key) (right.erase key) := by
  intro other member
  simp only [get?_erase, agree other member]

theorem agreeOn_erase {key : κ} (outside : key ∉ keys) (dict : Dict κ ν)
    : AgreeOn keys dict (dict.erase key) := by
  intro other member
  have apart : other ≠ key := fun same => outside (same ▸ member)
  exact (get?_erase_of_ne apart).symm

variable [Std.TransOrd κ] [Std.LawfulEqOrd κ]

theorem AgreeOn.insert (agree : AgreeOn keys left right) (key : κ) (value : ν)
    : AgreeOn keys (left.insert key value) (right.insert key value) := by
  intro other member
  simp only [get?_insert, agree other member]

theorem agreeOn_insert {key : κ} (outside : key ∉ keys) (dict : Dict κ ν) (value : ν)
    : AgreeOn keys dict (dict.insert key value) := by
  intro other member
  have apart : other ≠ key := fun same => outside (same ▸ member)
  exact (get?_insert_of_ne apart).symm

/-- Maps that agree on every set of a family and on all other keys are equal. -/
theorem eq_of_agreeOn {ι : Type} {keys : ι → Set κ} (inside : ∀ who, AgreeOn (keys who) left right)
    (outside : AgreeOn {key | ∀ who, key ∉ keys who} left right)
    : left = right := by
  refine ext_get? fun key => ?_
  by_cases reached : ∃ who, key ∈ keys who
  · obtain ⟨who, member⟩ := reached
    exact inside who key member
  · exact outside key (not_exists.1 reached)

end Dict

-----------------------------------------------------------------------------------------
-- Ledgers that agree on some locks
-----------------------------------------------------------------------------------------

/-- Two ledgers of one kind have the same records of some locks, which are given by their bytes. -/
inductive LedgerStore.AgreeOn (locks : Set (List UInt8)) : LedgerStore → LedgerStore → Prop
  | memory {left right : MemoryLedger}
    (agree : Dict.AgreeOn {lock : RevLock | lock.bytes.toList ∈ locks} left right)
    : AgreeOn locks (.memory left) (.memory right)
  | missing : AgreeOn locks (.table .missing) (.table .missing)
  | table {left right : Dict (List UInt8) (List UInt8)} (agree : Dict.AgreeOn locks left right)
    : AgreeOn locks (.table ⟨some left⟩) (.table ⟨some right⟩)

namespace LedgerStore

variable {locks fewer : Set (List UInt8)} {left right third store : LedgerStore} {lock : RevLock}
  {secret : RevSecret} {outage : Option String}

theorem AgreeOn.refl (locks : Set (List UInt8)) (store : LedgerStore) : AgreeOn locks store store := by
  rcases store with records | ⟨_ | rows⟩
  · exact .memory (.refl _ _)
  · exact .missing
  · exact .table (.refl _ _)

theorem AgreeOn.symm (agree : AgreeOn locks left right) : AgreeOn locks right left := by
  cases agree with
  | memory agree => exact .memory agree.symm
  | missing => exact .missing
  | table agree => exact .table agree.symm

theorem AgreeOn.trans (agree : AgreeOn locks left right) (goes : AgreeOn locks right third)
    : AgreeOn locks left third := by
  cases agree with
  | memory agree => cases goes with | memory goes => exact .memory (agree.trans goes)
  | missing => exact goes
  | table agree =>
      cases goes with
      | table goes => exact .table (agree.trans goes)

theorem AgreeOn.mono (agree : AgreeOn locks left right) (within : fewer ⊆ locks)
    : AgreeOn fewer left right := by
  cases agree with
  | memory agree => exact .memory (agree.mono fun _ member => within member)
  | missing => exact .missing
  | table agree => exact .table (agree.mono within)

theorem eq_of_agreeOn {ι : Type} {locks : ι → Set (List UInt8)}
    (inside : ∀ who, AgreeOn (locks who) left right)
    (outside : AgreeOn {lock | ∀ who, lock ∉ locks who} left right)
    : left = right := by
  cases outside with
  | @memory left right outside =>
      have inside (who : ι)
          : Dict.AgreeOn {lock : RevLock | lock.bytes.toList ∈ locks who} left right := by
        cases inside who with
        | memory agree => exact agree
      rw [Dict.eq_of_agreeOn inside outside]
  | missing => rfl
  | @table left right outside =>
      have inside (who : ι) : Dict.AgreeOn (locks who) left right := by
        cases inside who with
        | table agree => exact agree
      rw [Dict.eq_of_agreeOn inside outside]

end LedgerStore

/-- Two ledgers refuse a record for the same reason, or both take it and are alike afterwards. -/
inductive SameRecord {α : Type} (alike : α → α → Prop)
    : Except LedgerError α → Except LedgerError α → Prop
  | refused (reason : LedgerError) : SameRecord alike (.error reason) (.error reason)
  | recorded {left right : α} (after : alike left right) : SameRecord alike (.ok left) (.ok right)

theorem MemoryLedger.sameRecord {keys : Set RevLock} {left right : MemoryLedger} {lock : RevLock}
    (agree : Dict.AgreeOn keys left right) (member : lock ∈ keys) (secret : RevSecret)
    : SameRecord (Dict.AgreeOn keys) (left.put lock secret) (right.put lock secret) := by
  have same : left.get? lock = right.get? lock := agree lock member
  unfold put
  rw [same]
  split
  · exact .recorded (agree.insert lock secret)
  · split
    · exact .recorded agree
    · exact .refused _

theorem LedgerTable.sameRecord {keys : Set (List UInt8)} {left right : Dict (List UInt8) (List UInt8)}
    {lock : RevLock} (agree : Dict.AgreeOn keys left right) (member : lock.bytes.toList ∈ keys)
    (secret : RevSecret)
    : SameRecord (fun left right => LedgerStore.AgreeOn keys (.table left) (.table right))
        (LedgerTable.put ⟨some left⟩ lock secret) (LedgerTable.put ⟨some right⟩ lock secret) := by
  have same : left.get? lock.bytes.toList = right.get? lock.bytes.toList := agree _ member
  have reads : LedgerTable.get ⟨some left⟩ lock = LedgerTable.get ⟨some right⟩ lock := by
    simp only [get, same]
  simp only [put, same, reads]
  split
  · exact .recorded (.table (agree.insert lock.bytes.toList secret.bytes.toList))
  · cases LedgerTable.get ⟨some right⟩ lock with
    | error reason => exact .refused reason
    | ok known =>
        simp only [bind, Except.bind]
        split
        · exact .recorded (.table agree)
        · exact .refused _

namespace LedgerStore

variable {locks : Set (List UInt8)} {left right store : LedgerStore} {lock : RevLock}

/-- A record goes the same way in two ledgers that agree on its lock. -/
theorem AgreeOn.put (agree : AgreeOn locks left right) (member : lock.bytes.toList ∈ locks)
    (secret : RevSecret) (outage : Option String)
    : SameRecord (fun left right => AgreeOn locks left.store right.store)
        (Ledger.put ⟨left, outage, none⟩ lock secret)
        (Ledger.put ⟨right, outage, none⟩ lock secret) := by
  cases outage with
  | some reason => exact .refused _
  | none =>
      cases agree with
      | missing => exact .refused _
      | @memory left right agree =>
          have same := MemoryLedger.sameRecord agree member secret
          simp only [Ledger.put]
          generalize MemoryLedger.put left lock secret = mine at same ⊢
          generalize MemoryLedger.put right lock secret = theirs at same ⊢
          cases same with
          | refused reason => exact .refused reason
          | recorded after => exact .recorded (.memory after)
      | @table left right agree =>
          have same := LedgerTable.sameRecord agree member secret
          simp only [Ledger.put]
          generalize LedgerTable.put ⟨some left⟩ lock secret = mine at same ⊢
          generalize LedgerTable.put ⟨some right⟩ lock secret = theirs at same ⊢
          cases same with
          | refused reason => exact .refused reason
          | recorded after => exact .recorded after

/-- A record leaves all other locks alone. -/
theorem agreeOn_put {outage : Option String} {secret : RevSecret} {recorded : Ledger}
    (outside : lock.bytes.toList ∉ locks)
    (written : Ledger.put ⟨store, outage, none⟩ lock secret = .ok recorded)
    : AgreeOn locks store recorded.store := by
  rcases Ledger.put_eq_ok written with
    ⟨records, changed, rfl, stored, rfl⟩ | ⟨⟨kept⟩, changed, rfl, stored, rfl⟩
  · unfold MemoryLedger.put at stored
    split at stored
    case h_1 =>
      cases stored
      have elsewhere : lock ∉ {lock : RevLock | lock.bytes.toList ∈ locks} := outside
      exact .memory (Dict.agreeOn_insert elsewhere _ _)
    case h_2 =>
      split at stored <;> cases stored
      exact .refl _ _
  · obtain ⟨rows, rfl, ⟨-, rfl⟩ | ⟨-, rfl⟩⟩ := LedgerTable.put_eq_ok stored
    · exact .table (Dict.agreeOn_insert outside _ _)
    · exact .table (.refl _ _)

end LedgerStore

-----------------------------------------------------------------------------------------
-- Tills that agree on some entries
-----------------------------------------------------------------------------------------

/-- Entries of a till: sessions, nonces, and locks by their bytes. -/
structure Reach where
  sessions : Set SessionId
  nonces : Set Nonce
  locks : Set (List UInt8)

/-- All other entries. -/
def Reach.others (reach : Reach) : Reach := ⟨reach.sessionsᶜ, reach.noncesᶜ, reach.locksᶜ⟩

/-- The entries that no reach of a family has. -/
def Reach.beyond {ι : Type} (reach : ι → Reach) : Reach where
  sessions := {id | ∀ who, id ∉ (reach who).sessions}
  nonces := {nonce | ∀ who, nonce ∉ (reach who).nonces}
  locks := {lock | ∀ who, lock ∉ (reach who).locks}

/-- The entries of a reach are among those of another one. -/
structure Reach.Within (reach outer : Reach) : Prop where
  sessions : reach.sessions ⊆ outer.sessions
  nonces : reach.nonces ⊆ outer.nonces
  locks : reach.locks ⊆ outer.locks

theorem Reach.beyond_within {ι : Type} (reach : ι → Reach) (who : ι)
    : (beyond reach).Within (reach who).others :=
  ⟨fun _ none => none who, fun _ none => none who, fun _ none => none who⟩

/-- The merchant without its payments. -/
def Merchant.terms (merchant : Merchant) : Merchant :=
  { merchant with sessions := .empty, liveNonces := .empty, spentNonces := .empty }

/-- Two merchants are the same up to payments that are not reached for. -/
structure Merchant.AgreeOn (reach : Reach) (left right : Merchant) : Prop where
  terms : left.terms = right.terms
  sessions : Dict.AgreeOn reach.sessions left.sessions right.sessions
  liveNonces : Dict.AgreeOn reach.nonces left.liveNonces right.liveNonces
  spentNonces : Dict.AgreeOn reach.nonces left.spentNonces right.spentNonces

/-- Two tills are the same up to entries that are not reached for. -/
structure Till.AgreeOn (reach : Reach) (left right : Till) : Prop where
  merchant : Merchant.AgreeOn reach left.merchant right.merchant
  store : LedgerStore.AgreeOn reach.locks left.store right.store

namespace Merchant.AgreeOn

variable {reach inner : Reach} {left right third : Merchant} {id : SessionId} {nonce : Nonce}

theorem refl (reach : Reach) (merchant : Merchant) : AgreeOn reach merchant merchant :=
  ⟨rfl, .refl _ _, .refl _ _, .refl _ _⟩

theorem symm (agree : AgreeOn reach left right) : AgreeOn reach right left :=
  ⟨agree.terms.symm, agree.sessions.symm, agree.liveNonces.symm, agree.spentNonces.symm⟩

theorem trans (agree : AgreeOn reach left right) (goes : AgreeOn reach right third)
    : AgreeOn reach left third :=
  ⟨agree.terms.trans goes.terms, agree.sessions.trans goes.sessions,
    agree.liveNonces.trans goes.liveNonces, agree.spentNonces.trans goes.spentNonces⟩

theorem mono (agree : AgreeOn reach left right) (within : inner.Within reach)
    : AgreeOn inner left right :=
  ⟨agree.terms, agree.sessions.mono within.sessions, agree.liveNonces.mono within.nonces,
    agree.spentNonces.mono within.nonces⟩

/-- The same session is set at both merchants. -/
theorem setSession (agree : AgreeOn reach left right) (id : SessionId) (session : Session)
    : AgreeOn reach (left.setSession id session) (right.setSession id session) :=
  ⟨agree.terms, agree.sessions.insert id session, agree.liveNonces, agree.spentNonces⟩

/-- The same nonce is used up at both merchants. -/
theorem spend (agree : AgreeOn reach left right) (nonce : Nonce) (record : SpentNonce)
    : AgreeOn reach (left.spend nonce record) (right.spend nonce record) :=
  ⟨agree.terms, agree.sessions, agree.liveNonces, agree.spentNonces.insert nonce record⟩

/-- A session that both merchants know is closed at both. -/
theorem closeSession (agree : AgreeOn reach left right) (reached : id ∈ reach.sessions)
    : AgreeOn reach (left.closeSession id) (right.closeSession id) := by
  have same : left.sessions.get? id = right.sessions.get? id := agree.sessions id reached
  unfold Merchant.closeSession
  rw [same]
  cases right.sessions.get? id with
  | none => exact agree
  | some session =>
      exact ⟨agree.terms, agree.sessions.erase id, agree.liveNonces.erase session.nonce,
        agree.spentNonces⟩

end Merchant.AgreeOn

namespace Merchant

variable {reach : Reach} {merchant : Merchant} {id : SessionId} {nonce : Nonce} {session : Session}

/-- Merchants that agree on every reach of a family and beyond them are equal. -/
theorem eq_of_agreeOn {ι : Type} {reach : ι → Reach} {left right : Merchant}
    (inside : ∀ who, AgreeOn (reach who) left right) (outside : AgreeOn (.beyond reach) left right)
    : left = right := by
  have terms := outside.terms
  have sessions := Dict.eq_of_agreeOn (fun who => (inside who).sessions) outside.sessions
  have liveNonces := Dict.eq_of_agreeOn (fun who => (inside who).liveNonces) outside.liveNonces
  have spentNonces := Dict.eq_of_agreeOn (fun who => (inside who).spentNonces) outside.spentNonces
  cases left
  cases right
  simp only [Merchant.terms, mk.injEq] at terms
  simp only [mk.injEq]
  exact ⟨terms.1, terms.2.1, terms.2.2.1, terms.2.2.2.1, terms.2.2.2.2.1, terms.2.2.2.2.2.1,
    terms.2.2.2.2.2.2.1, terms.2.2.2.2.2.2.2.1, sessions, liveNonces, spentNonces⟩

theorem agreeOn_setSession (outside : id ∉ reach.sessions) (merchant : Merchant) (session : Session)
    : AgreeOn reach merchant (merchant.setSession id session) :=
  ⟨rfl, Dict.agreeOn_insert outside _ _, .refl _ _, .refl _ _⟩

theorem agreeOn_spend (outside : nonce ∉ reach.nonces) (merchant : Merchant) (record : SpentNonce)
    : AgreeOn reach merchant (merchant.spend nonce record) :=
  ⟨rfl, .refl _ _, .refl _ _, Dict.agreeOn_insert outside _ _⟩

theorem agreeOn_closeSession (outside : id ∉ reach.sessions)
    (found : merchant.sessions.get? id = some session) (beyond : session.nonce ∉ reach.nonces)
    : AgreeOn reach merchant (merchant.closeSession id) := by
  rw [closeSession_of_get? found]
  exact ⟨rfl, Dict.agreeOn_erase outside _, Dict.agreeOn_erase beyond _, .refl _ _⟩

/-- A session that ends and uses up its nonce leaves all other entries alone. -/
theorem agreeOn_endSession (outside : id ∉ reach.sessions)
    (found : merchant.sessions.get? id = some session) (beyond : session.nonce ∉ reach.nonces)
    (record : SpentNonce)
    : AgreeOn reach merchant ((merchant.spend session.nonce record).closeSession id) :=
  have stays : (merchant.spend session.nonce record).sessions.get? id = some session := found
  (agreeOn_spend beyond merchant record).trans (agreeOn_closeSession outside stays beyond)

end Merchant

namespace Till

variable {reach inner : Reach} {left right third till : Till}

theorem AgreeOn.refl (reach : Reach) (till : Till) : AgreeOn reach till till :=
  ⟨.refl _ _, .refl _ _⟩

theorem AgreeOn.symm (agree : AgreeOn reach left right) : AgreeOn reach right left :=
  ⟨agree.merchant.symm, agree.store.symm⟩

theorem AgreeOn.trans (agree : AgreeOn reach left right) (goes : AgreeOn reach right third)
    : AgreeOn reach left third :=
  ⟨agree.merchant.trans goes.merchant, agree.store.trans goes.store⟩

theorem AgreeOn.mono (agree : AgreeOn reach left right) (within : inner.Within reach)
    : AgreeOn inner left right :=
  ⟨agree.merchant.mono within, agree.store.mono within.locks⟩

/-- Tills that agree on every reach of a family and beyond them are equal. -/
theorem eq_of_agreeOn {ι : Type} {reach : ι → Reach}
    (inside : ∀ who, AgreeOn (reach who) left right) (outside : AgreeOn (.beyond reach) left right)
    : left = right := by
  have merchant := Merchant.eq_of_agreeOn (fun who => (inside who).merchant) outside.merchant
  have store := LedgerStore.eq_of_agreeOn (fun who => (inside who).store) outside.store
  cases left
  cases right
  cases merchant
  cases store
  rfl

end Till

-----------------------------------------------------------------------------------------
-- Calls of payments
-----------------------------------------------------------------------------------------

open Customer Merchant

namespace Till

variable {reach : Reach} {left right till : Till} {id : SessionId}

/-- A session is reached for, and if it can be dropped so is its nonce. -/
structure Drops (till : Till) (reach : Reach) (id : SessionId) : Prop where
  reached : id ∈ reach.sessions
  frees : ∀ session, till.merchant.sessions.get? id = some session → session.Droppable
    → session.nonce ∈ reach.nonces

/-- A session is reached for, and so is its nonce. -/
structure Owns (till : Till) (reach : Reach) (id : SessionId) : Prop where
  reached : id ∈ reach.sessions
  nonce : ∀ session, till.merchant.sessions.get? id = some session → session.nonce ∈ reach.nonces

theorem Drops.of_agree (drops : left.Drops reach id) (agree : AgreeOn reach left right)
    : right.Drops reach id where
  reached := drops.reached
  frees session found :=
    drops.frees session ((agree.merchant.sessions id drops.reached).trans found)

theorem Owns.of_agree (owns : left.Owns reach id) (agree : AgreeOn reach left right)
    : right.Owns reach id where
  reached := owns.reached
  nonce session found :=
    owns.nonce session ((agree.merchant.sessions id owns.reached).trans found)

theorem Owns.drops (owns : till.Owns reach id) : till.Drops reach id :=
  ⟨owns.reached, fun session found _ => owns.nonce session found⟩

/-- A session that only moves on to another step keeps its nonce. -/
theorem Owns.setStatus (owns : till.Owns reach id) {session : Session}
    (found : till.merchant.sessions.get? id = some session) (status : PaymentStatus)
    : Owns ⟨till.merchant.setSession id { session with status }, till.store⟩ reach id := by
  refine ⟨owns.reached, fun known also => ?_⟩
  cases (Dict.get?_insert_self _ _ _).symm.trans also
  exact owns.nonce session found

/-- Nothing is freed by dropping a session that is closed already. -/
theorem Owns.drops_closed (owns : till.Owns reach id) {session : Session}
    (found : till.merchant.sessions.get? id = some session)
    : Drops ⟨till.merchant.closeSession id, till.store⟩ reach id := by
  refine ⟨owns.reached, fun known also _ => ?_⟩
  simp only [closeSession_of_get? found, Dict.get?_erase_self, reduceCtorEq] at also

/-- A call of a payment has nothing to do with entries that are not reached for. -/
def Confines (till : Till) (reach : Reach) : MerchantCall → Prop
  | .preparePayment request _ => request.session ∈ reach.sessions ∧ request.nonce ∈ reach.nonces
  | .maskingInput id => id ∈ reach.sessions
  | .confirmMasking id _ | .failSession id => till.Drops reach id
  | .validateRevoked id revoked =>
      till.Owns reach id ∧ revoked.nonce ∈ reach.nonces ∧ revoked.lock.bytes.toList ∈ reach.locks
  | _ => False

/-- Two moves have the same result and leave tills that agree. -/
structure Alike {α : Type} (reach : Reach) (mine theirs : α × Till) : Prop where
  answer : mine.1 = theirs.1
  agree : AgreeOn reach mine.2 theirs.2

end Till

namespace Merchant

/-- The answer to a payment request, and the merchant with the new session. -/
theorem preparePayment_outcome (merchant : Merchant) (request : PaymentRequest) (source : Entropy)
    : (merchant.preparePayment request).outcome source
      = (merchant.checkPayment request).map fun _ =>
        (⟨request.session, .commit (drawnOpening source).mask (drawnOpening source).randomness⟩,
          { merchant.setSession request.session (begunSession request source) with
            liveNonces := merchant.liveNonces.insert request.nonce request.session }) := by
  simp only [preparePayment, Draw.outcome_bind, Draw.outcome_of, Draw.outcome_bytes,
    Draw.outcome_pure, Draw.rest_of, Draw.rest_bytes, Outcome.ok_bind]
  cases merchant.checkPayment request <;> rfl

namespace AgreeOn

variable {reach : Reach} {left right : Merchant} {id : SessionId}

/-- Merchants that agree give the service the same input. -/
theorem inputOf (agree : AgreeOn reach left right) (id : SessionId) (session : Session)
    : left.inputOf id session = right.inputOf id session :=
  congrArg (fun merchant => merchant.inputOf id session) agree.terms

/-- Merchants that agree take the same payments. -/
theorem checkPayment (agree : AgreeOn reach left right) {request : PaymentRequest}
    (session : request.session ∈ reach.sessions) (nonce : request.nonce ∈ reach.nonces)
    : left.checkPayment request = right.checkPayment request := by
  have accepts : left.accepts request.amount request.justification
      = right.accepts request.amount request.justification :=
    congrArg (fun merchant => merchant.accepts request.amount request.justification) agree.terms
  unfold Merchant.checkPayment Dict.contains
  rw [agree.spentNonces _ nonce, agree.liveNonces _ nonce, agree.sessions _ session, accepts]

end AgreeOn

end Merchant

/-- A call of a payment goes the same way at tills that agree on its entries. -/
theorem Till.AgreeOn.serve {reach : Reach} {left right : Till} (agree : AgreeOn reach left right)
    {call : MerchantCall} (confines : left.Confines reach call) (outage : Option String)
    : Alike reach (left.serve outage call) (right.serve outage call) := by
  obtain ⟨merchants, stores⟩ := agree
  cases call with
  | preparePayment request source =>
      obtain ⟨session, nonce⟩ := confines
      simp only [Till.serve, Shop.serve, Shop.keep, preparePayment_outcome,
        merchants.checkPayment session nonce]
      cases right.merchant.checkPayment request with
      | error failure => exact ⟨rfl, merchants, stores⟩
      | ok =>
          exact ⟨rfl, ⟨merchants.terms, merchants.sessions.insert _ _,
            merchants.liveNonces.insert _ _, merchants.spentNonces⟩, stores⟩
  | maskingInput id =>
      have same := merchants.sessions id confines
      simp only [Till.serve, Shop.serve, Shop.keep, Merchant.maskingInput, Merchant.session, same]
      cases right.merchant.sessions.get? id with
      | none => exact ⟨rfl, merchants, stores⟩
      | some session =>
          by_cases prepared : session.status = .prepared
          · simp only [Outcome.require, Outcome.ok_bind, Outcome.ensure_of prepared]
            exact ⟨congrArg Except.ok (merchants.inputOf id session), merchants.setSession _ _,
              stores⟩
          · simp only [Outcome.require, Outcome.ok_bind, Outcome.ensure_of_not prepared]
            exact ⟨rfl, merchants, stores⟩
  | confirmMasking id confirmed =>
      have same := merchants.sessions id confines.reached
      simp only [Till.serve, Shop.serve, Merchant.confirmMasking, Merchant.session, same]
      cases right.merchant.sessions.get? id with
      | none => exact ⟨rfl, merchants, stores⟩
      | some session =>
          simp only [Outcome.require]
          split
          · exact ⟨rfl, merchants, stores⟩
          · split
            · exact ⟨rfl, merchants.setSession _ _, stores⟩
            · exact ⟨rfl, merchants.closeSession confines.reached, stores⟩
  | failSession id =>
      have same := merchants.sessions id confines.reached
      simp only [Till.serve, Shop.serve, Shop.keep, Merchant.failSession, Merchant.session, same]
      cases right.merchant.sessions.get? id with
      | none => exact ⟨rfl, merchants, stores⟩
      | some session =>
          by_cases droppable : session.status = .prepared ∨ session.status = .updating
          · simp only [Outcome.require, Outcome.ok_bind, Outcome.ensure_of droppable]
            exact ⟨rfl, merchants.closeSession confines.reached, stores⟩
          · simp only [Outcome.require, Outcome.ok_bind, Outcome.ensure_of_not droppable]
            exact ⟨rfl, merchants, stores⟩
  | validateRevoked id revoked =>
      obtain ⟨⟨reached, -⟩, nonce, lock⟩ := confines
      have same := merchants.sessions id reached
      have spent := merchants.spentNonces _ nonce
      simp only [Till.serve, Shop.serve, Merchant.validateRevoked, same]
      cases right.merchant.sessions.get? id with
      | none =>
          -- A session that is gone is answered from the record of its nonce.
          simp only [Merchant.releasedOpening, spent]
          exact ⟨rfl, merchants, stores⟩
      | some session =>
          have records := stores.put lock revoked.secret outage
          simp only
          split
          · exact ⟨rfl, merchants, stores⟩
          · split
            · exact ⟨rfl, (merchants.spend _ _).closeSession reached, stores⟩
            -- The ledgers are written to alike, so only what they answer is left to tell apart.
            · generalize Ledger.put ⟨left.store, outage, none⟩ revoked.lock revoked.secret = mine
                at records ⊢
              generalize Ledger.put ⟨right.store, outage, none⟩ revoked.lock revoked.secret = theirs
                at records ⊢
              cases records with
              | refused reason => exact ⟨rfl, merchants, stores⟩
              | recorded after =>
                  exact ⟨rfl, (merchants.spend _ _).closeSession reached, after⟩
  | _ => exact confines.elim

/-- A call of a payment leaves all other entries alone. -/
theorem Till.agreeOn_serve {reach : Reach} {till : Till} {call : MerchantCall}
    (confines : till.Confines reach call) (outage : Option String)
    : Till.AgreeOn reach.others till (till.serve outage call).2 := by
  obtain ⟨merchant, store⟩ := till
  have outside {id : SessionId} (reached : id ∈ reach.sessions) : id ∉ reach.others.sessions :=
    not_not_intro reached
  have beyond {nonce : Nonce} (reached : nonce ∈ reach.nonces) : nonce ∉ reach.others.nonces :=
    not_not_intro reached
  cases call with
  | preparePayment request source =>
      obtain ⟨session, nonce⟩ := confines
      simp only [Till.serve, Shop.serve, Shop.keep, preparePayment_outcome]
      cases merchant.checkPayment request with
      | error failure => exact ⟨.refl _ _, .refl _ _⟩
      | ok =>
          exact ⟨⟨rfl, Dict.agreeOn_insert (outside session) _ _,
            Dict.agreeOn_insert (beyond nonce) _ _, .refl _ _⟩, .refl _ _⟩
  | maskingInput id =>
      simp only [Till.serve, Shop.serve, Shop.keep]
      rcases hands : merchant.maskingInput id with failure | ⟨input, after⟩
      · exact ⟨.refl _ _, .refl _ _⟩
      · obtain ⟨session, -, -, -, rfl⟩ := maskingInput_eq_ok.1 hands
        exact ⟨agreeOn_setSession (outside confines) _ _, .refl _ _⟩
  | confirmMasking id confirmed =>
      obtain ⟨reached, closes⟩ := confines
      simp only [Till.serve, Shop.serve]
      rcases confirms : merchant.confirmMasking id confirmed with ⟨failure | released, after⟩
      · rcases confirmMasking_error confirms with rfl | ⟨session, found, updating, -, rfl⟩
        · exact ⟨.refl _ _, .refl _ _⟩
        · have freed := closes session found (.inr updating)
          exact ⟨agreeOn_closeSession (outside reached) found (beyond freed), .refl _ _⟩
      · obtain ⟨session, -, -, -, -, rfl⟩ := confirmMasking_eq_ok.1 confirms
        exact ⟨agreeOn_setSession (outside reached) _ _, .refl _ _⟩
  | failSession id =>
      obtain ⟨reached, closes⟩ := confines
      simp only [Till.serve, Shop.serve, Shop.keep]
      rcases fails : merchant.failSession id with failure | ⟨⟨⟩, after⟩
      · exact ⟨.refl _ _, .refl _ _⟩
      · obtain ⟨session, found, droppable, rfl⟩ := failSession_eq_ok.1 fails
        have freed := closes session found droppable
        exact ⟨agreeOn_closeSession (outside reached) found (beyond freed), .refl _ _⟩
  | validateRevoked id revoked =>
      obtain ⟨⟨reached, closes⟩, -, lock⟩ := confines
      simp only [Till.serve, Shop.serve]
      rcases validates : merchant.validateRevoked ⟨store, outage, none⟩ id revoked
        with ⟨failure | opening, after, recorded⟩
      · obtain ⟨rfl, ⟨-, rfl⟩ | ⟨-, rfl⟩ | ⟨session, found, confirmed, -, -, rfl⟩⟩ :=
          validateRevoked_error validates
        · exact ⟨.refl _ _, .refl _ _⟩
        · exact ⟨.refl _ _, .refl _ _⟩
        · have used := closes session found
          exact ⟨agreeOn_endSession (outside reached) found (beyond used) _, .refl _ _⟩
      · obtain ⟨-, -, rfl, rfl⟩ | ⟨session, found, confirmed, -, written, -, rfl⟩ :=
          validateRevoked_eq_ok.1 validates
        · exact ⟨.refl _ _, .refl _ _⟩
        · have used := closes session found
          have elsewhere : revoked.lock.bytes.toList ∉ reach.others.locks := not_not_intro lock
          exact ⟨agreeOn_endSession (outside reached) found (beyond used) _,
            LedgerStore.agreeOn_put elsewhere written⟩
  | _ => exact confines.elim

-----------------------------------------------------------------------------------------
-- Moves of payments
-----------------------------------------------------------------------------------------

/-- The call of the merchant that a move makes, if it makes one. -/
def NextMove.call? : NextMove → Option MerchantCall
  | .register request rest => some (.preparePayment request rest)
  | .handOver session _ => some (.maskingInput session)
  | .confirm session result => some (.confirmMasking session result.confirmed)
  | .reveal session revoked => some (.validateRevoked session revoked)
  | .drop session _ => some (.failSession session)
  | .prepare | .contribute _ _ | .compute _ _ | .accept _ _ _ | .revoke _ | .redeem _ _ | .abort _
  | .done _ => none

/-- Whatever a customer can still reveal is reached for. -/
structure Customer.Reveals (customer : Customer) (reach : Reach) : Prop where
  current : ∀ state, customer.state = some state
    → state.nonce ∈ reach.nonces ∧ state.lock.bytes.toList ∈ reach.locks
  again : ∀ pending revoked, customer.pending = some pending → pending.revoked = some revoked
    → revoked.nonce ∈ reach.nonces ∧ revoked.lock.bytes.toList ∈ reach.locks

namespace Customer.Reveals

variable {customer after : Customer} {reach : Reach}

theorem maskingInput (reveals : customer.Reveals reach) {response : PaymentResponse}
    {input : CustomerInput} (gives : customer.maskingInput response = .ok (input, after))
    : after.Reveals reach := by
  obtain ⟨-, _, -, _, -, known, round, -, -, -, rfl⟩ := maskingInput_eq_ok.1 gives
  refine ⟨reveals.current, fun pending revoked found given => ?_⟩
  cases found
  exact reveals.again known revoked round given

theorem acceptSignatures (reveals : customer.Reveals reach) {outputs : MaskedOutputs}
    {released : ReleasedMasks} (accepts : customer.acceptSignatures outputs released = (.ok (), after))
    : after.Reveals reach := by
  obtain ⟨_, known, awaiting, _, -, -, rfl⟩ := acceptSignatures_eq_ok accepts
  obtain ⟨-, -, round, -⟩ := roundAwaitingSignatures_eq_ok.1 awaiting
  refine ⟨reveals.current, fun pending revoked found given => ?_⟩
  cases found
  exact reveals.again known revoked round given

/-- A revocation is given out again, or it is the one of the current state. -/
theorem revoke (reveals : customer.Reveals reach) {revoked : RevokedState}
    (given : customer.revoke = .ok (revoked, after))
    : revoked.nonce ∈ reach.nonces ∧ revoked.lock.bytes.toList ∈ reach.locks := by
  obtain ⟨-, pending, round, ⟨again, -⟩ | ⟨-, _, _, -, channel, found, rfl, -⟩⟩ :=
    revoke_eq_ok.1 given
  · exact reveals.again pending revoked round again
  · exact reveals.current channel.state (by rw [Customer.state, found]; rfl)

end Customer.Reveals

namespace Course

variable {course : Course} {reach : Reach} {left right till : Till} {call : MerchantCall}

/-- All moves that a payment has before it stay within a reach. -/
def Keeps (course : Course) (reach : Reach) (till : Till) : Prop :=
  let purchase := course.purchase
  match course.next with
  | .prepare => ∀ request begun rest,
      course.customer.preparePayment purchase.amount purchase.justification purchase.source
        = (.ok (request, begun), rest)
      → request.nonce ∈ reach.nonces ∧ begun.Reveals reach ∧ till.Drops reach request.session
  | .register request _ => request.nonce ∈ reach.nonces ∧ course.customer.Reveals reach
      ∧ till.Drops reach request.session
  | .contribute session _ | .handOver session _ | .compute session _ | .confirm session _
  | .accept session _ _ | .revoke session => course.customer.Reveals reach ∧ till.Owns reach session
  | .reveal session revoked => revoked.nonce ∈ reach.nonces
      ∧ revoked.lock.bytes.toList ∈ reach.locks ∧ till.Owns reach session
  | .drop session _ => till.Drops reach session
  | .redeem _ _ | .abort _ | .done _ => True

/-- Whether a payment stays within its reach depends on the entries of the reach only. -/
theorem Keeps.of_agree (keeps : course.Keeps reach left) (agree : Till.AgreeOn reach left right)
    : course.Keeps reach right := by
  obtain ⟨purchase, customer, next⟩ := course
  cases next with
  | prepare =>
      intro request begun rest begins
      obtain ⟨nonce, reveals, drops⟩ := keeps request begun rest begins
      exact ⟨nonce, reveals, drops.of_agree agree⟩
  | register _ _ => exact ⟨keeps.1, keeps.2.1, keeps.2.2.of_agree agree⟩
  | contribute _ _ | handOver _ _ | compute _ _ | confirm _ _ | accept _ _ _ | revoke _ =>
      exact ⟨keeps.1, keeps.2.of_agree agree⟩
  | reveal _ _ => exact ⟨keeps.1, keeps.2.1, keeps.2.2.of_agree agree⟩
  | drop _ _ => exact Till.Drops.of_agree keeps agree
  | redeem _ _ | abort _ | done _ => trivial

/-- A payment whose masking failed can only drop its session. -/
theorem keeps_failed {session : SessionId} (drops : till.Drops reach session) (course : Course)
    (failure : Failure ChannelError)
    : (course.failed session failure).Keeps reach till := by
  cases failure with
  | refused reason => exact drops
  | overflow kind => trivial

/-- A payment that stays within a reach does so after its next move. -/
theorem Keeps.move (keeps : course.Keeps reach till)
    : (course.move till).1.Keeps reach (course.move till).2 := by
  obtain ⟨purchase, customer, next⟩ := course
  cases next with
  | prepare =>
      rcases begins : customer.preparePayment purchase.amount purchase.justification
        purchase.source with ⟨failure | ⟨request, begun⟩, rest⟩
      · simp only [Course.move, begins]
        trivial
      · simp only [Course.move, begins]
        exact keeps request begun rest begins
  | register request rest =>
      obtain ⟨nonce, reveals, drops⟩ := keeps
      rcases opens : (till.merchant.preparePayment request).outcome rest
        with failure | ⟨response, opened⟩
      · simp only [Course.move, ask, Till.serve, Shop.serve, Shop.keep, Parties.afterwards, opens]
        exact keeps_failed drops _ _
      · simp only [Course.move, ask, Till.serve, Shop.serve, Shop.keep, Parties.afterwards, opens]
        obtain ⟨-, -, rfl⟩ := preparePayment_eq_ok.1 opens
        refine ⟨reveals, drops.reached, fun session found => ?_⟩
        -- The session is the one that was just opened, so its nonce is that of the request.
        cases (Dict.get?_insert_self _ _ _).symm.trans found
        exact nonce
  | contribute session response =>
      obtain ⟨reveals, owns⟩ := keeps
      rcases gives : customer.maskingInput response with failure | ⟨input, committed⟩
      · simp only [Course.move, gives]
        exact keeps_failed owns.drops _ _
      · simp only [Course.move, gives]
        exact ⟨reveals.maskingInput gives, owns⟩
  | handOver session input =>
      obtain ⟨reveals, owns⟩ := keeps
      rcases hands : till.merchant.maskingInput session with failure | ⟨merchantInput, handed⟩
      · simp only [Course.move, ask, Till.serve, Shop.serve, Shop.keep, Parties.afterwards, hands]
        exact keeps_failed owns.drops _ _
      · simp only [Course.move, ask, Till.serve, Shop.serve, Shop.keep, Parties.afterwards, hands]
        obtain ⟨opened, found, -, -, rfl⟩ := Merchant.maskingInput_eq_ok.1 hands
        exact ⟨reveals, owns.setStatus found _⟩
  | compute session asked =>
      rcases serves : purchase.client.call asked with reason | result
      · simp only [Course.move, serves]
        exact keeps_failed keeps.2.drops _ _
      · simp only [Course.move, serves]
        exact keeps
  | confirm session result =>
      obtain ⟨reveals, owns⟩ := keeps
      rcases confirms : till.merchant.confirmMasking session result.confirmed
        with ⟨failure | released, confirmed⟩
      · simp only [Course.move, ask, Till.serve, Shop.serve, confirms]
        -- A report that is not confirmed has closed the session, so dropping it frees nothing more.
        rcases confirmMasking_error confirms with rfl | ⟨dropped, found, -, -, rfl⟩
        · exact keeps_failed owns.drops _ _
        · exact keeps_failed (owns.drops_closed found) _ _
      · simp only [Course.move, ask, Till.serve, Shop.serve, confirms]
        obtain ⟨opened, found, -, -, -, rfl⟩ := confirmMasking_eq_ok.1 confirms
        exact ⟨reveals, owns.setStatus found _⟩
  | accept session outputs released =>
      rcases accepts : customer.acceptSignatures outputs released
        with ⟨(reason | kind) | ⟨⟩, signed⟩
      · simp only [Course.move, accepts]
        trivial
      · simp only [Course.move, accepts]
        trivial
      · simp only [Course.move, accepts]
        exact ⟨keeps.1.acceptSignatures accepts, keeps.2⟩
  | revoke session =>
      rcases reveals : customer.revoke with failure | ⟨revoked, revealing⟩
      · simp only [Course.move, reveals]
        trivial
      · simp only [Course.move, reveals]
        obtain ⟨nonce, lock⟩ := keeps.1.revoke reveals
        exact ⟨nonce, lock, keeps.2⟩
  | reveal _ _ | drop _ _ | abort _ =>
      simp only [Course.move, ask]
      split <;> trivial
  | redeem _ _ | done _ => trivial

/-- A move without a call does not look at the till. -/
theorem move_of_silent (silent : course.next.call? = none) (left right : Till)
    : course.move right = ((course.move left).1, right) := by
  obtain ⟨purchase, customer, next⟩ := course
  cases next with
  | register _ _ | handOver _ _ | confirm _ _ | reveal _ _ | drop _ _ => cases silent
  | prepare =>
      rcases begins : customer.preparePayment purchase.amount purchase.justification
        purchase.source with ⟨failure | ⟨request, begun⟩, rest⟩ <;>
      simp only [move, begins]
  | contribute session response =>
      rcases gives : customer.maskingInput response with failure | ⟨input, committed⟩ <;>
      simp only [move, gives]
  | compute session asked =>
      rcases serves : purchase.client.call asked with reason | result <;>
      simp only [move, serves]
  | accept session outputs released =>
      rcases accepts : customer.acceptSignatures outputs released
        with ⟨(reason | kind) | ⟨⟩, signed⟩ <;>
      simp only [move, accepts]
  | revoke session =>
      rcases reveals : customer.revoke with failure | ⟨revoked, revealing⟩ <;>
      simp only [move, reveals]
  | abort reason =>
      rcases aborts : customer.abort with failure | ⟨⟨⟩, after⟩ <;>
      simp only [move, aborts]
  | redeem _ _ | done _ => rfl

/-- A move with a call goes on with the answer. -/
theorem move_of_call (calls : course.next.call? = some call)
    : ∃ goesOn fails, ∀ till, course.move till = course.ask till call goesOn fails := by
  obtain ⟨purchase, customer, next⟩ := course
  cases next with
  | register _ _ | handOver _ _ | confirm _ _ | reveal _ _ | drop _ _ =>
      cases calls
      exact ⟨_, _, fun till => rfl⟩
  | prepare | contribute _ _ | compute _ _ | accept _ _ _ | revoke _ | redeem _ _ | abort _
  | done _ => cases calls

/-- A payment that stays within a reach makes no call beyond it. -/
theorem Keeps.confines (keeps : course.Keeps reach till) (calls : course.next.call? = some call)
    : till.Confines reach call := by
  obtain ⟨purchase, customer, next⟩ := course
  cases next with
  | register request rest =>
      cases calls
      exact ⟨keeps.2.2.reached, keeps.1⟩
  | handOver session _ =>
      cases calls
      exact keeps.2.reached
  | confirm session _ =>
      cases calls
      exact keeps.2.drops
  | reveal session revoked =>
      cases calls
      exact ⟨keeps.2.2, keeps.1, keeps.2.1⟩
  | drop session _ =>
      cases calls
      exact keeps
  | prepare | contribute _ _ | compute _ _ | accept _ _ _ | revoke _ | redeem _ _ | abort _
  | done _ => cases calls

/-- A move goes the same way at tills that agree on what the payment reaches for. -/
theorem Keeps.alike (keeps : course.Keeps reach left) (agree : Till.AgreeOn reach left right)
    : Till.Alike reach (course.move left) (course.move right) := by
  cases calls : course.next.call? with
  | none =>
      rw [move_of_silent calls left right, move_of_silent calls left left]
      exact ⟨rfl, agree⟩
  | some call =>
      obtain ⟨goesOn, fails, moves⟩ := move_of_call calls
      obtain ⟨answer, agree⟩ := agree.serve (keeps.confines calls) course.purchase.outage
      rw [moves, moves, ask, ask]
      generalize left.serve course.purchase.outage call = mine at answer agree ⊢
      generalize right.serve course.purchase.outage call = theirs at answer agree ⊢
      obtain ⟨outcome, left⟩ := mine
      obtain ⟨_, right⟩ := theirs
      cases answer
      cases outcome <;> exact ⟨rfl, agree⟩

/-- A move leaves everything alone that the payment does not reach for. -/
theorem Keeps.agreeOn_move (keeps : course.Keeps reach till)
    : Till.AgreeOn reach.others till (course.move till).2 := by
  cases calls : course.next.call? with
  | none =>
      rw [move_of_silent calls till till]
      exact .refl _ _
  | some call =>
      obtain ⟨goesOn, fails, moves⟩ := move_of_call calls
      have others := Till.agreeOn_serve (keeps.confines calls) course.purchase.outage
      rw [moves, ask]
      generalize till.serve course.purchase.outage call = served at others ⊢
      obtain ⟨_ | _, after⟩ := served <;> exact others

end Course

end PaymentChannel
