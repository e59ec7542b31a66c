import Mathlib.Data.Nat.Notation
import PfsenseMcp.Concurrency.Locked
import PfsenseMcp.Python.Bytes
import PfsenseMcp.Tier1.SharedWitness

/-!
# The service of the witness daemon

The daemon on the host owns a counter of the TPM. It talks to it through the tools `tpm2_nvread`
and `tpm2_nvincrement`, any run of which may fail, and the outcome of an increment may stay
unknown. `advance` compares the counter with an expected value, increments it once, and answers with
a fresh reading.

## Main results

* `goes_readCounter`, `goes_advance`: what a reading and an advance leave behind, wherever they
  stop;
* `run_read_calm`, `run_advance_calm`: on a TPM that never fails it is the service of
  `Tier1.WitnessService`.
-/

namespace Python.Bytes

/-- `int.from_bytes(value, byteorder="big", signed=False)`. -/
def ofBigEndian (value : Bytes) : ℕ := value.foldl (fun n byte => n * 256 + byte.toNat) 0

theorem ofBigEndian_append_singleton (value : Bytes) (byte : UInt8) :
    ofBigEndian (value ++ [byte]) = ofBigEndian value * 256 + byte.toNat := by
  rw [ofBigEndian, List.foldl_append, ofBigEndian]
  rfl

theorem ofBigEndian_bigEndian {width n : ℕ} (h : n < 256 ^ width) :
    ofBigEndian (bigEndian width n) = n := by
  induction width generalizing n with
  | zero =>
    have hn : n = 0 := by simpa using h
    rw [hn]
    rfl
  | succ width ih =>
    have hdiv : n / 256 < 256 ^ width := by
      rw [Nat.div_lt_iff_lt_mul (by decide)]
      rwa [Nat.pow_succ] at h
    have hmod : (UInt8.ofNat (n % 256)).toNat = n % 256 := by
      rw [UInt8.toNat_ofNat']
      exact Nat.mod_eq_of_lt (Nat.mod_lt _ (by decide))
    rw [bigEndian, ofBigEndian_append_singleton, ih hdiv, hmod, Nat.mul_comm]
    exact Nat.div_add_mod n 256

end Python.Bytes

namespace WitnessDaemon

open Python Concurrency Procedure

/-! ### The tools -/

/-- `WitnessError`, as far as the tools raise it. -/
inductive WitnessError where
  /-- `TpmUnavailableError`. -/
  | tpmUnavailable (message : String)
  /-- `TpmIncrementRejectedError`. -/
  | tpmIncrementRejected (message : String)
  /-- `TpmIncrementAmbiguousError`. -/
  | tpmIncrementAmbiguous (message : String)
deriving DecidableEq, Repr

/-- `_COUNTER_SIZE_BYTES`. -/
def counterSizeBytes : ℕ := 8

/-- How a run of `tpm2_nvread` ends. -/
inductive ReadRun where
  /-- The tool is not on the path. -/
  | missing
  /-- It cannot be executed, or times out. -/
  | notExecuted
  /-- It reports a failure. -/
  | failed
  /-- Its output cannot be read. -/
  | unreadable
  /-- Its output does not have the length of a counter. -/
  | malformed (raw : Bytes) (h : raw.length ≠ counterSizeBytes)
  /-- It has written the counter. -/
  | written

/-- How a run of `tpm2_nvincrement` ends. -/
inductive IncrementRun where
  /-- The tool is not on the path. -/
  | missing
  /-- It times out. The counter may have been incremented or not. -/
  | timedOut (moved : Bool)
  /-- The process cannot be executed, or not be waited on. -/
  | notExecuted (moved : Bool)
  /-- It reports that the increment was rejected. -/
  | rejected
  /-- It has incremented the counter. -/
  | incremented

/-- Whether the counter has been incremented. -/
def IncrementRun.moves : IncrementRun → Bool
  | .missing | .rejected => false
  | .timedOut moved | .notExecuted moved => moved
  | .incremented => true

/-- How the next run of a tool ends. -/
structure Tools where
  nvread : ReadRun
  nvincrement : IncrementRun

/-- `Tpm2ToolsClient.read_counter`, up to its output. -/
def ReadRun.output (counter : ℕ) : ReadRun → Except WitnessError Bytes
  | .missing => .error (.tpmUnavailable "Required TPM tool not found on PATH: tpm2_nvread")
  | .notExecuted => .error (.tpmUnavailable "tpm2_nvread could not be executed.")
  | .failed => .error
    (.tpmUnavailable "tpm2_nvread reported a failure reading the configured NV counter.")
  | .unreadable => .error (.tpmUnavailable "tpm2_nvread output could not be read.")
  | .malformed raw _ => .ok raw
  -- the counter has eight bytes, the most significant first
  | .written => .ok (Bytes.bigEndian counterSizeBytes counter)

/-- `Tpm2ToolsClient.read_counter` on the output of the tool. -/
def decodeCounter (raw : Bytes) : Except WitnessError ℕ :=
  if raw.length ≠ counterSizeBytes then
    .error (.tpmUnavailable
      "tpm2_nvread returned an unexpected data length for a counter index.")
  else .ok raw.ofBigEndian

/-- `Tpm2ToolsClient.increment_counter`, by how the tool ends. -/
def IncrementRun.result : IncrementRun → Except WitnessError Unit
  | .missing => .error (.tpmUnavailable "Required TPM tool not found on PATH: tpm2_nvincrement")
  | .timedOut _ => .error (.tpmIncrementAmbiguous "tpm2_nvincrement timed out; outcome unknown.")
  | .notExecuted _ => .error
    (.tpmIncrementAmbiguous "tpm2_nvincrement could not be executed; outcome unknown.")
  | .rejected => .error (.tpmIncrementRejected "tpm2_nvincrement was rejected by the TPM.")
  | .incremented => .ok ()

theorem IncrementRun.moves_of_ok {run : IncrementRun} (h : run.result = .ok ()) :
    run.moves = true := by
  cases run with
  | incremented => rfl
  | missing => cases h
  | timedOut _ => cases h
  | notExecuted _ => cases h
  | rejected => cases h

/-- Code of the daemon: the state is the counter of the TPM. -/
abbrev Daemon (α : Type) := Procedure ℕ Tools WitnessError α

/-- `Tpm2ToolsClient.read_counter`. -/
def readCounter : Daemon ℕ :=
  .atom (fun _ counter => counter) fun i counter =>
    ofExcept (i.nvread.output counter >>= decodeCounter)

/-- `Tpm2ToolsClient.increment_counter`. -/
def incrementCounter : Daemon Unit :=
  .atom (fun i counter => if i.nvincrement.moves = true then counter + 1 else counter)
    fun i _ => ofExcept i.nvincrement.result

/-! ### The service -/

open Tier1 (AdvanceOutcome)

namespace WitnessService

/-- `WitnessService.read`, under its lock. -/
def read : Daemon ℕ := readCounter

/-- What `WitnessService.advance` does after the increment. -/
def confirm : Except WitnessError Unit → Daemon AdvanceOutcome
  | .error (.tpmIncrementAmbiguous _) => do
    -- a fresh reading decides, whatever has become of the increment
    let newValue ← readCounter
    return ⟨false, newValue⟩
  | .error e => .raise e
  | .ok () => do
    let newValue ← readCounter
    return ⟨false, newValue⟩

/-- `WitnessService.advance`, under its lock. -/
def advance (expectedCurrent : ℕ) : Daemon AdvanceOutcome := do
  let current ← readCounter
  if current ≠ expectedCurrent then
    return ⟨true, current⟩
  else do
    let incremented ← incrementCounter.attempt
    confirm incremented

end WitnessService

/-! ### What the service leaves behind -/

/-- The steps of a TPM: its counter has eight bytes. -/
def Conforms (_ : Tools) (_ counter' : ℕ) : Prop := counter' < 2 ^ 64

/-- Every step that is considered is one of a TPM. -/
def Conforming (permit : Tools → ℕ → ℕ → Prop) : Prop :=
  ∀ i counter counter', permit i counter counter' → Conforms i counter counter'

/-- A step of a TPM where an increment whose outcome is unknown has happened. -/
def Certain (i : Tools) (counter counter' : ℕ) : Prop :=
  Conforms i counter counter' ∧
    ∀ message, i.nvincrement.result = .error (.tpmIncrementAmbiguous message) →
      i.nvincrement.moves = true

/-- Every step that is considered is one where unknown increments have happened. -/
def Determined (permit : Tools → ℕ → ℕ → Prop) : Prop :=
  ∀ i counter counter', permit i counter counter' → Certain i counter counter'

theorem decodeCounter_bigEndian {counter : ℕ} (h : counter < 2 ^ 64) :
    decodeCounter (Bytes.bigEndian counterSizeBytes counter) = .ok counter := by
  rw [decodeCounter, if_neg (by rw [Bytes.length_bigEndian]; exact fun h => h rfl),
    Bytes.ofBigEndian_bigEndian h]

/-- What is read is the counter. -/
theorem eq_of_output {run : ReadRun} {counter value : ℕ} (hcounter : counter < 2 ^ 64)
    (h : (run.output counter >>= decodeCounter) = .ok value) : value = counter := by
  cases run with
  | missing | notExecuted | failed | unreadable => cases h
  | malformed raw hlength =>
    have h : decodeCounter raw = .ok value := h
    rw [decodeCounter, if_pos hlength] at h
    cases h
  | written =>
    have h : decodeCounter (Bytes.bigEndian counterSizeBytes counter) = .ok value := h
    rw [decodeCounter_bigEndian hcounter] at h
    cases h
    rfl

variable {permit : Tools → ℕ → ℕ → Prop} {counter counter' : ℕ}

section Goes

variable (hpermit : Conforming permit)

include hpermit

/-- A reading changes nothing, and returns the counter. -/
theorem goes_readCounter {q : Daemon ℕ} (h : Goes permit readCounter counter q counter') :
    counter' = counter ∧ ∀ value, q = .ret value → value = counter := by
  rcases goes_atom.1 h with ⟨rfl, rfl⟩ | ⟨i, hi, h⟩
  · refine ⟨rfl, fun value hq => ?_⟩
    cases hq
  · obtain ⟨rfl, rfl⟩ := goes_ofExcept.1 h
    refine ⟨rfl, fun value hq => ?_⟩
    have hlt : counter' < 2 ^ 64 := hpermit _ _ _ hi
    cases hresult : (i.nvread.output counter' >>= decodeCounter) with
    | error e =>
      rw [hresult] at hq
      cases hq
    | ok v =>
      rw [hresult] at hq
      cases hq
      exact eq_of_output hlt hresult

omit hpermit in
/-- An increment is issued once, and its answer is known. -/
theorem goes_incrementCounter {q : Daemon (Except WitnessError Unit)}
    (h : Goes permit incrementCounter.attempt counter q counter') :
    (counter' = counter ∧ ∀ r, q ≠ .ret r) ∨
      ∃ i, permit i counter counter' ∧ q = .ret i.nvincrement.result ∧
        counter' = if i.nvincrement.moves = true then counter + 1 else counter := by
  rcases goes_atom.1 h with ⟨rfl, rfl⟩ | ⟨i, hi, h⟩
  · exact .inl ⟨rfl, fun r hr => by cases hr⟩
  · right
    have hattempt : (ofExcept i.nvincrement.result : Daemon Unit).attempt =
        .ret i.nvincrement.result := by
      cases i.nvincrement.result <;> rfl
    rw [hattempt] at h
    obtain ⟨rfl, rfl⟩ := goes_ret.1 h
    exact ⟨i, hi, rfl, rfl⟩

/-- A last reading hands the counter over. -/
theorem goes_reread {q : Daemon AdvanceOutcome}
    (h : Goes permit (readCounter >>= fun value => .ret ⟨false, value⟩) counter q counter') :
    counter' = counter ∧ ∀ outcome, q = .ret outcome → outcome = ⟨false, counter⟩ := by
  rcases goes_bind.1 h with ⟨q', hq', hne, rfl⟩ | ⟨value, t, hread, hret⟩
  · obtain ⟨rfl, -⟩ := goes_readCounter hpermit hq'
    exact ⟨rfl, fun outcome hq => absurd hq (bind_ne_ret hne outcome)⟩
  · obtain ⟨rfl, hvalue⟩ := goes_readCounter hpermit hread
    obtain ⟨rfl, rfl⟩ := goes_ret.1 hret
    refine ⟨rfl, fun outcome hq => ?_⟩
    cases hq
    rw [hvalue value rfl]

/-- What follows the increment: its outcome is not trusted where it is unknown. -/
theorem goes_confirm {r : Except WitnessError Unit} {q : Daemon AdvanceOutcome}
    (h : Goes permit (WitnessService.confirm r) counter q counter') :
    counter' = counter ∧ ∀ outcome, q = .ret outcome → outcome = ⟨false, counter⟩ ∧
      (r = .ok () ∨ ∃ message, r = .error (.tpmIncrementAmbiguous message)) := by
  cases r with
  | ok u =>
    obtain ⟨rfl, houtcome⟩ := goes_reread hpermit h
    exact ⟨rfl, fun outcome hq => ⟨houtcome outcome hq, .inl rfl⟩⟩
  | error e =>
    cases e with
    | tpmIncrementAmbiguous message =>
      obtain ⟨rfl, houtcome⟩ := goes_reread hpermit h
      exact ⟨rfl, fun outcome hq => ⟨houtcome outcome hq, .inr ⟨message, rfl⟩⟩⟩
    | tpmUnavailable message =>
      obtain ⟨rfl, rfl⟩ := goes_raise.1 h
      exact ⟨rfl, fun outcome hq => by cases hq⟩
    | tpmIncrementRejected message =>
      obtain ⟨rfl, rfl⟩ := goes_raise.1 h
      exact ⟨rfl, fun outcome hq => by cases hq⟩

/-- An advance moves the counter by one at most, and only from the expected value. It answers with
the counter as it left it; a conflict is answered if the counter was another one. -/
theorem goes_advance {expected : ℕ} {q : Daemon AdvanceOutcome}
    (h : Goes permit (WitnessService.advance expected) counter q counter') :
    (counter' = counter ∨ counter = expected ∧ counter' = counter + 1) ∧
    ∀ outcome, q = .ret outcome →
      outcome = ⟨true, counter⟩ ∧ counter ≠ expected ∧ counter' = counter ∨
      outcome = ⟨false, counter'⟩ ∧ counter = expected ∧
        (Determined permit → counter' = counter + 1) := by
  rcases goes_bind.1 h with ⟨q', hq', hne, rfl⟩ | ⟨value, t, hread, hrest⟩
  · obtain ⟨rfl, -⟩ := goes_readCounter hpermit hq'
    exact ⟨.inl rfl, fun outcome hq => absurd hq (bind_ne_ret hne outcome)⟩
  obtain ⟨rfl, hvalue⟩ := goes_readCounter hpermit hread
  obtain rfl := hvalue value rfl
  by_cases hexpected : value = expected
  · rw [if_neg (not_not.2 hexpected)] at hrest
    rcases goes_bind.1 hrest with ⟨q', hq', hne, rfl⟩ | ⟨r, t, hincrement, hconfirm⟩
    · refine ⟨?_, fun outcome hq => absurd hq (bind_ne_ret hne outcome)⟩
      rcases goes_incrementCounter hq' with ⟨rfl, -⟩ | ⟨i, -, rfl, -⟩
      · exact .inl rfl
      · exact absurd rfl (hne _)
    · obtain ⟨rfl, houtcome⟩ := goes_confirm hpermit hconfirm
      rcases goes_incrementCounter hincrement with ⟨-, hnone⟩ | ⟨i, hi, hr, hmoves⟩
      · exact absurd rfl (hnone r)
      obtain rfl : r = i.nvincrement.result := by
        cases hr
        rfl
      refine ⟨?_, fun outcome hq => .inr ⟨(houtcome outcome hq).1, hexpected, ?_⟩⟩
      · rw [hmoves]
        split
        · exact .inr ⟨hexpected, rfl⟩
        · exact .inl rfl
      · intro hcertain
        have hmoved : i.nvincrement.moves = true := by
          rcases (houtcome outcome hq).2 with hok | ⟨message, hambiguous⟩
          · exact IncrementRun.moves_of_ok hok
          · exact (hcertain _ _ _ hi).2 message hambiguous
        rw [hmoves, if_pos hmoved]
  · rw [if_pos hexpected] at hrest
    obtain ⟨rfl, rfl⟩ := goes_ret.1 hrest
    refine ⟨.inl rfl, fun outcome hq => ?_⟩
    cases hq
    exact .inl ⟨rfl, hexpected, rfl⟩

end Goes

/-! ### A TPM that never fails -/

/-- The tools do what they are asked for. -/
def Calm (i : Tools) : Prop := i.nvread = .written ∧ i.nvincrement = .incremented

section Calm

variable {inputs : ℕ → Tools} (hcalm : ∀ n, Calm (inputs n))

include hcalm

theorem run_read_calm (h : counter < 2 ^ 64) :
    (WitnessService.read.run inputs counter).result = .ok (Tier1.WitnessService.read counter) ∧
      (WitnessService.read.run inputs counter).state = counter := by
  have hread : ((inputs 0).nvread.output counter >>= decodeCounter) = .ok counter := by
    rw [(hcalm 0).1]
    exact decodeCounter_bigEndian h
  unfold WitnessService.read readCounter
  rw [run_atom, hread]
  exact ⟨rfl, rfl⟩

/-- The service of the daemon refines the one that only knows a counter. -/
theorem run_advance_calm (expected : ℕ) (h : counter + 1 < 2 ^ 64) :
    (WitnessService.advance expected).run inputs counter =
      ⟨.ok (Tier1.WitnessService.advance expected counter).1,
        (Tier1.WitnessService.advance expected counter).2,
        ((WitnessService.advance expected).run inputs counter).rest⟩ := by
  have hread : ∀ n c, c < 2 ^ 64 → ((inputs n).nvread.output c >>= decodeCounter) = .ok c := by
    intro n c hc
    rw [(hcalm n).1]
    exact decodeCounter_bigEndian hc
  unfold WitnessService.advance Tier1.WitnessService.advance readCounter
  rw [atom_bind, run_atom, hread 0 counter (Nat.lt_of_succ_lt h)]
  by_cases hexpected : counter = expected
  · rw [if_neg (not_not.2 hexpected), ofExcept_ok, ret_bind, if_neg (not_not.2 hexpected)]
    unfold incrementCounter
    rw [attempt, atom_bind, run_atom, (hcalm 1).2, IncrementRun.result, ofExcept_ok, attempt,
      ret_bind, WitnessService.confirm, readCounter, atom_bind, run_atom]
    dsimp only
    rw [IncrementRun.moves, if_pos rfl, hread 2 (counter + 1) h]
    rfl
  · rw [if_pos hexpected, ofExcept_ok, ret_bind, if_pos hexpected]
    rfl

end Calm

end WitnessDaemon
