import Mathlib.Data.Nat.Notation
import PfsenseMcp.Concurrency.Procedure
import PfsenseMcp.Tier1.AntiRollback
import PfsenseMcp.Tier1.Contract
import PfsenseMcp.Tier1.Transport

/-!
# The world of the store and the executor

The state that concurrent calls share, what the environment may answer at each step, and the
atomic steps from which the operations are composed.

A statement that SQLite executes outside a transaction is a step of its own, and so is a whole
`BEGIN IMMEDIATE … COMMIT` block. Reading a clock, asking a verifier or the appliance are steps
that leave the shared state alone.

The trace records every committed change of a contract, every request handed to the write client
and every verdict of an adapter on a mutation it has read back, with the number of the call that
made it. No operation reads it.
-/

namespace Tier1

open Python Concurrency

/-- A point at which the store invokes its fault hook. -/
inductive FaultPoint where
  | beforeTransaction
  | afterRecordWrite
  | beforeCommit
  | afterCommit
deriving DecidableEq, Repr

/-- What an anchor does when asked to advance from its current value. -/
inductive AnchorAnswer where
  /-- It moves `past + 1` beyond the current value and returns the new one. -/
  | advanced (past : ℕ)
  /-- It fails, and may have moved nevertheless. -/
  | failed (error : Error) (moved : ℕ)

variable [Platform]

/-- What the environment answers during one atomic step. A step consults the entries it needs;
`none` in an `Option Error` means that nothing fails. -/
structure Answers where
  /-- The store clock; `none` is an instant that is not in UTC. -/
  clock : Option DateTime
  /-- The store clock when an audit event is recorded. -/
  recordClock : Option DateTime
  /-- The store clock when a cooldown is recorded. -/
  cooldownClock : Option DateTime
  /-- The failure of opening the database or of a statement. -/
  sqlite : Option Error
  /-- The failure of a commit. -/
  commit : Option Error
  /-- What the fault hook raises. -/
  fault : FaultPoint → Option Error
  /-- The answer of a confirmation or reconciliation verifier; `none` is an exception. -/
  verdict : Option Bool
  /-- The failure of reading the anchor. -/
  anchorRead : Option Error
  /-- The answer of the anchor to an advance. -/
  anchorAdvance : AnchorAnswer
  /-- The executor clock; `none` is an instant that is not in UTC. -/
  executorClock : Option DateTime
  /-- The answer of `_verify_standard_sealed_write_approval`. -/
  approval : Except Error Bool
  /-- The `read_only` field of the REST API settings of the appliance; `none` is a value that is
  no Boolean. -/
  settings : Except Error (Option Bool)
  /-- What an adapter reads from the appliance. -/
  target : Except Error Platform.Obj
  /-- What happens on the network. -/
  exchange : Exchange

/-- A committed change of a contract. -/
structure Commit where
  /-- The call that made it. -/
  call : ℕ
  /-- The contract that the operation had loaded; `none` for a creation. -/
  before : Option RecoveryContract
  /-- The contract that was written. -/
  after : RecoveryContract
  /-- The type of its audit event. -/
  eventType : String
  /-- The time of its audit event. -/
  recordedAt : DateTime
  /-- The store clock that the guards of the operation saw, if they looked at it. -/
  checkedAt : Option DateTime

/-- Whether a request applies a mutation or takes it back. -/
inductive Direction where
  | forward
  | rollback
deriving DecidableEq, Repr

/-- An observable step of a run. -/
inductive Event where
  /-- A change of a contract was committed. -/
  | committed (commit : Commit)
  /-- A mutating request was handed to the write client; `exchange` is what happened on the
  network, or `none` when the client refused it. -/
  | handed (call : ℕ) (direction : Direction) (contractId : String) (exchange : Option Exchange)
  /-- An adapter judged whether a mutation took effect, from the state it read back. -/
  | judged (call : ℕ) (contractId : String) (verified : Bool)

namespace Event

/-- The call that made an event. -/
def call : Event → ℕ
  | committed commit => commit.call
  | handed call _ _ _ => call
  | judged call _ _ => call

end Event

/-- The shared state. -/
structure World where
  /-- The tables of the store. -/
  db : Database := {}
  /-- The durable value of the anchor. -/
  anchor : ℕ := 0
  /-- The events so far, the oldest first. -/
  trace : List Event := []

/-- Code that runs on the shared state. -/
abbrev Op (α : Type) := Procedure World Answers Error α

namespace Op

variable {α : Type}

/-- One atomic step. -/
def atomic (f : Answers → World → World × Except Error α) : Op α :=
  .atom (fun i s => (f i s).1) fun i s => .ofExcept (f i s).2

/-- A statement that reads the tables. -/
def query (f : Database → Except Error α) : Op α :=
  atomic fun i s => (s, match i.sqlite with
    | some e => .error e
    | none => f s.db)

/-- A statement that writes the tables outside a transaction. -/
def execute (f : Database → Except Error Database) : Op Unit :=
  atomic fun i s =>
    match i.sqlite with
    | some e => (s, .error e)
    | none =>
      match f s.db with
      | .error e => (s, .error e)
      | .ok db => ({ s with db := db }, .ok ())

/-- A step that only consults the environment. -/
def consult (f : Answers → Except Error α) : Op α := atomic fun i s => (s, f i)

/-- A step that only extends the trace. -/
def record (event : Event) : Op Unit :=
  atomic fun _ s => ({ s with trace := s.trace ++ [event] }, .ok ())

/-- Raise an exception, or go on. -/
def check (x : Except Error α) : Op α := .ofExcept x

end Op

/-- The anchor of the world, with the given answers. It reads its durable value, and it refuses
to advance from another value than the one expected. -/
def anchorOf (i : Answers) : AntiRollbackAnchor ℕ where
  read value := (match i.anchorRead with
    | some e => .error e
    | none => .ok value, value)
  advance expectedCurrent value :=
    if expectedCurrent = value then
      match i.anchorAdvance with
      | .advanced past => (.ok (value + past + 1), value + past + 1)
      | .failed error moved => (.error error, value + moved)
    else (fail .anchorConflict "The anchor's value does not match the expected one.", value)

end Tier1
