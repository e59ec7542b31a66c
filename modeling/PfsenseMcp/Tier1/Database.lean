import Mathlib.Algebra.Ring.Int.Defs
import Mathlib.Data.Int.Notation
import Mathlib.Data.Nat.Notation
import Mathlib.Data.List.Basic
import PfsenseMcp.Python.Bytes
import PfsenseMcp.Tier1.StateMachine

/-!
# The database of the recovery store

The tables of the schema that `tier1/store.py` creates, and the SQL statements it executes with
the constraints that the schema enforces on them.

A cell holds what SQLite can store in it. A text column stores numbers as text, so its cells are
texts or byte strings; an integer column stores any text or byte string that is not a number as
it is. A number with a fraction in an integer column compares unequal with every integer, as a
text there does, and is not listed apart. A version above the 64-bit range cannot be bound
(`bindInteger`).
-/

namespace Tier1

open Python

/-- A value in a `TEXT NOT NULL` column. -/
inductive TextCell where
  | text (value : String)
  | blob (value : Bytes)
deriving DecidableEq

/-- A value in an `INTEGER NOT NULL` or a `BLOB NOT NULL` column. -/
inductive Cell where
  | integer (value : ℤ)
  | text (value : String)
  | blob (value : Bytes)
deriving DecidableEq

namespace TextCell

/-- `str(cell)`. -/
def str : TextCell → String
  | text value => value
  | blob value => Bytes.str value

/-- The order of SQLite: texts before byte strings. -/
def le : TextCell → TextCell → Bool
  | text a, text b => a ≤ b
  | text _, blob _ => true
  | blob _, text _ => false
  | blob a, blob b => a ≤ b

end TextCell

namespace Cell

/-- The order of SQLite: numbers before texts before byte strings. -/
def le : Cell → Cell → Bool
  | integer a, integer b => a ≤ b
  | integer _, _ => true
  | text _, integer _ => false
  | text a, text b => a ≤ b
  | text _, blob _ => true
  | blob a, blob b => a ≤ b
  | blob _, _ => false

end Cell

/-- A row of `contracts`. -/
structure ContractRow where
  contractId : TextCell
  operationId : TextCell
  idempotencyKey : TextCell
  targetIdentityDigest : TextCell
  state : TextCell
  stateVersion : Cell
  payload : Cell
  mac : TextCell
deriving DecidableEq

/-- A row of `target_reservations`. -/
structure ReservationRow where
  targetIdentityDigest : TextCell
  contractId : TextCell
deriving DecidableEq

/-- A row of `audit_events`. Its sequence number is never read. -/
structure AuditRow where
  contractId : TextCell
  eventType : TextCell
  previousState : Option TextCell
  currentState : TextCell
  stateVersion : Cell
  recordedAt : TextCell
  mac : TextCell
deriving DecidableEq

/-- A row of `anchor_state`. -/
structure AnchorRow where
  key : String
  value : String
  mac : String
deriving DecidableEq

/-- A row of `rate_cooldowns`. -/
structure CooldownRow where
  targetIdentityDigest : String
  cooldownUntil : String
deriving DecidableEq

/-- The tables of a store. -/
structure Database where
  contracts : List ContractRow := []
  targetReservations : List ReservationRow := []
  auditEvents : List AuditRow := []
  anchorState : List AnchorRow := []
  rateCooldowns : List CooldownRow := []

namespace Database

/-! ### Queries -/

/-- `_SELECT_CONTRACT_BY_ID`. -/
def selectContract (db : Database) (contractId : String) : Option ContractRow :=
  db.contracts.find? fun row => row.contractId = .text contractId

/-- `_SELECT_ALL_CONTRACTS`. -/
def selectAllContracts (db : Database) : List ContractRow :=
  db.contracts.mergeSort fun a b => a.contractId.le b.contractId

/-- The reservation of a contract. -/
def selectReservation (db : Database) (contractId : String) : Option TextCell :=
  (db.targetReservations.find? fun row => row.contractId = .text contractId).map
    ReservationRow.targetIdentityDigest

/-- The audit rows of a contract by version. -/
def selectAudit (db : Database) (contractId : String) : List AuditRow :=
  (db.auditEvents.filter fun row => row.contractId = .text contractId).mergeSort
    fun a b => a.stateVersion.le b.stateVersion

/-- The number of contracts in one of the given states. -/
def countStates (db : Database) (states : List RecoveryState) : ℕ :=
  db.contracts.countP fun row => states.any fun s => row.state = .text s.value

/-- The number of contracts of a target in a state. -/
def countTarget (db : Database) (targetIdentityDigest : String) (state : RecoveryState) : ℕ :=
  db.contracts.countP fun row =>
    row.targetIdentityDigest = .text targetIdentityDigest ∧ row.state = .text state.value

/-- The row of `anchor_state` with a key. -/
def selectAnchor (db : Database) (key : String) : Option AnchorRow :=
  db.anchorState.find? fun row => row.key = key

/-- The cooldown of a target. -/
def selectCooldown (db : Database) (targetIdentityDigest : String) : Option String :=
  (db.rateCooldowns.find? fun row => row.targetIdentityDigest = targetIdentityDigest).map
    CooldownRow.cooldownUntil

/-! ### Statements -/

/-- The error of a statement that a constraint refuses. -/
def constraintFailed {α : Type} (constraint : String) : Except Error α :=
  fail .sqliteIntegrity s!"{constraint} constraint failed"

/-- Binding an integer parameter, which SQLite stores in 64 bits. -/
def bindInteger (n : ℤ) : Except Error Unit :=
  demand (-(2 ^ 63) ≤ n ∧ n < 2 ^ 63) .overflow "Python int too large to convert to SQLite INTEGER"

/-- Whether the partial index on active idempotency keys covers a row. -/
def isActive (row : ContractRow) : Bool :=
  RecoveryState.all.any fun s => blocksFreshIdempotencyAttempt s && decide (row.state = .text s.value)

/-- Whether two rows collide in the partial index on active idempotency keys. -/
def collides (a b : ContractRow) : Bool :=
  isActive a && isActive b && decide (a.idempotencyKey = b.idempotencyKey)

/-- `INSERT INTO contracts`. -/
def insertContract (db : Database) (row : ContractRow) : Except Error Database :=
  if db.contracts.any fun r => r.contractId = row.contractId then
    constraintFailed "UNIQUE"
  else if db.contracts.any fun r => r.operationId = row.operationId then
    constraintFailed "UNIQUE"
  else if db.contracts.any (collides row) then
    constraintFailed "UNIQUE"
  else .ok { db with contracts := db.contracts ++ [row] }

/-- The row a compare-and-set `UPDATE` writes over `row`. -/
def updatedRow (state : RecoveryState) (stateVersion : ℤ) (payload : Bytes) (mac : String)
    (row : ContractRow) : ContractRow :=
  { row with
    state := .text state.value, stateVersion := .integer stateVersion, payload := .blob payload,
    mac := .text mac }

/-- The condition of a compare-and-set `UPDATE`. -/
def updateMatches (contractId : String) (state : RecoveryState) (stateVersion : ℤ)
    (row : ContractRow) : Bool :=
  row.contractId = .text contractId ∧ row.state = .text state.value ∧
    row.stateVersion = .integer stateVersion

/-- The compare-and-set `UPDATE contracts`: the new tables and the number of rows it matched. -/
def updateContract (db : Database) (contractId : String) (oldState : RecoveryState)
    (oldVersion : ℤ) (state : RecoveryState) (stateVersion : ℤ) (payload : Bytes) (mac : String) :
    Except Error (Database × ℕ) :=
  let hit := updateMatches contractId oldState oldVersion
  let write := updatedRow state stateVersion payload mac
  if (db.contracts.filter hit).any fun row => db.contracts.any fun other =>
      decide (other.contractId ≠ row.contractId) && collides (write row) other then
    constraintFailed "UNIQUE"
  else
    .ok ({ db with contracts := db.contracts.map fun row => if hit row then write row else row },
      db.contracts.countP hit)

/-- Whether a contract exists, as a foreign key requires. -/
def hasContract (db : Database) (contractId : TextCell) : Bool :=
  db.contracts.any fun row => row.contractId = contractId

/-- `INSERT INTO target_reservations`. -/
def insertReservation (db : Database) (targetIdentityDigest contractId : String) :
    Except Error Database :=
  if db.targetReservations.any fun row => row.targetIdentityDigest = .text targetIdentityDigest then
    constraintFailed "UNIQUE"
  else if db.targetReservations.any fun row => row.contractId = .text contractId then
    constraintFailed "UNIQUE"
  else if db.hasContract (.text contractId) then
    .ok { db with targetReservations := db.targetReservations ++
      [⟨.text targetIdentityDigest, .text contractId⟩] }
  else constraintFailed "FOREIGN KEY"

/-- `DELETE FROM target_reservations WHERE contract_id = ?`. -/
def deleteReservation (db : Database) (contractId : String) : Database :=
  { db with
    targetReservations := db.targetReservations.filter fun row => row.contractId ≠ .text contractId }

/-- `INSERT INTO audit_events`. -/
def insertAuditEvent (db : Database) (row : AuditRow) : Except Error Database :=
  if db.auditEvents.any fun r =>
      r.contractId = row.contractId ∧ r.stateVersion = row.stateVersion then
    constraintFailed "UNIQUE"
  else if db.hasContract row.contractId then
    .ok { db with auditEvents := db.auditEvents ++ [row] }
  else constraintFailed "FOREIGN KEY"

/-- `INSERT INTO anchor_state`. -/
def insertAnchor (db : Database) (row : AnchorRow) : Except Error Database :=
  if db.anchorState.any fun r => r.key = row.key then constraintFailed "UNIQUE"
  else .ok { db with anchorState := db.anchorState ++ [row] }

/-- `INSERT INTO anchor_state … ON CONFLICT(key) DO UPDATE`. -/
def upsertAnchor (db : Database) (row : AnchorRow) : Database :=
  { db with anchorState := db.anchorState.filter (fun r => r.key ≠ row.key) ++ [row] }

/-- `INSERT INTO rate_cooldowns … ON CONFLICT(target_identity_digest) DO UPDATE`. -/
def upsertCooldown (db : Database) (row : CooldownRow) : Database :=
  { db with
    rateCooldowns := db.rateCooldowns.filter
      (fun r => r.targetIdentityDigest ≠ row.targetIdentityDigest) ++ [row] }

end Database

end Tier1
