import Mathlib.Data.Nat.Notation
import PfsenseMcp.Tier1.ExecutionCore
import PfsenseMcp.Tier1.Lifecycle
import PfsenseMcp.Tier1.PreparedExecutionIntent
import PfsenseMcp.Tier1.SettingsAdapters

/-!
# Resuming a prepared write

`authorize_and_create` and `resume_prepared` of `WriteExecutionCoreV1` in
`tier1/write_execution_core.py`, which are the same in `AliasDescriptionExecutionCoreV1` of
`tier1/alias_description_execution.py`. The first creates a contract and keeps the executor intent
and the provenance as pending. The second reconstructs both from the stored contract and a fresh
preparation, and compares four digests.

The digests bind a value in its normal form only, and the states of the log and of the NTP settings
are not required to be in it. The gates of an authorization other than its window are parameters:
the signature, the binding of the plan and the step, the risk class and the freshness of the plan.

## Main results

* `authorizeAndCreate_spec`: the contract that is committed, and what is kept as pending;
* `resumePrepared_spec`, `resumePrepared_live`: what a resumption has checked, and when it succeeds;
* `resumes_authorized`: it installs what was authorized, in normal form.
-/

namespace Tier1

open Python Concurrency Procedure RecoveryState

/-! ### Targets -/

/-- What a capability reads of its target. -/
structure TargetKind where
  /-- The fields of the fingerprint. -/
  schema : Schema
  /-- Whether the raw target has the locator in it; otherwise there is one target only. -/
  located : Bool

namespace TargetKind

/-- `AliasStateV1`. -/
def firewallAlias : TargetKind where
  schema :=
    [("name", .str), ("type", .str), ("descr", .str), ("address", .optStrs), ("detail", .optStrs)]
  located := true

/-- `NtpTimeServerStateV1`. -/
def ntpTimeServer : TargetKind where
  schema := [("timeserver", .str), ("type", .str), ("prefer", .bool), ("noselect", .bool)]
  located := true

/-- `NtpSettingsStateV1`. -/
def ntpSettings : TargetKind := ⟨Tier1.ntpSettings, false⟩

/-- `LogSettingsStateV1`. -/
def logSettings : TargetKind := ⟨Tier1.logSettings, false⟩

/-- `SystemTimezoneStateV1`. -/
def systemTimezone : TargetKind := ⟨[("timezone", .str)], false⟩

end TargetKind

/-- The authoritative state of a target. The adapters accept fewer states: they check the values of
some fields. -/
structure TargetState (kind : TargetKind) where
  record : Record kind.schema
  numericLocator : ℤ
  singleton : kind.located = false → numericLocator = singletonLocator

namespace TargetState

variable {kind : TargetKind}

/-- `fingerprint`. -/
def fingerprint (state : TargetState kind) : List (String × Json) := state.record.asDict

/-- `raw_target_fn`: `raw_target_hint`, or `_raw_target` of an alias. -/
def rawTarget (state : TargetState kind) : List (String × Json) :=
  state.fingerprint ++ if kind.located then [("id", .int state.numericLocator)] else []

end TargetState

/-! ### Preparations -/

section Model

variable [Platform]

/-- `PreparedWriteExecutionV1`, as `prepare` returns it for a target of a kind. The precondition
and the snapshot are the fingerprint; of the other arguments of the intent nothing is assumed. -/
structure Preparation (kind : TargetKind) where
  intent : PreparedExecutionIntent
  authoritativeA : TargetState kind
  applianceTargetDigest : String
  arguments : IntentArguments
  isIntent : PreparedExecutionIntent.new arguments = .ok intent
  targetPrecondition :
    arguments.targetPrecondition = Value.ofJson (.obj authoritativeA.fingerprint)
  rollbackSnapshot : arguments.rollbackSnapshot = Value.ofJson (.obj authoritativeA.fingerprint)

namespace Preparation

variable {kind : TargetKind}

/-- The property `normalized_mutation_intent` of an intent. -/
def normalizedMutationIntent (fresh : Preparation kind) : List (String × Json) :=
  match fresh.intent.normalizedMutationIntent.thaw with
  | .obj fields => fields
  | _ => []

/-- The preparation, by what the making of a contract reads of it. -/
def write (fresh : Preparation kind) : PreparedWrite where
  capability := fresh.intent.capability
  endpointSymbol := fresh.intent.endpointSymbol
  httpMethod := fresh.intent.httpMethod
  rollbackPlanVersion := fresh.intent.rollbackPlanVersion
  resourceTarget := fresh.intent.resourceTarget.thaw
  targetPrecondition := fresh.intent.targetPrecondition.thaw
  normalizedMutationIntent := fresh.normalizedMutationIntent
  rollbackSnapshot := fresh.intent.rollbackSnapshot.thaw
  rawTarget := .obj fresh.authoritativeA.rawTarget
  numericLocator := fresh.authoritativeA.numericLocator

/-- The context of the digests. -/
def context (fresh : Preparation kind) : List String :=
  [fresh.intent.capability.name, fresh.intent.endpointSymbol, fresh.intent.httpMethod]

end Preparation

/-! ### Authorization -/

omit [Platform] in
/-- `raise BoundExecutionError(_DENIED)`. -/
def denied : Error := ⟨.other "BoundExecutionError", "Bound write execution denied."⟩

omit [Platform] in
/-- Go on if the condition holds. -/
def orDenied (condition : Prop) [Decidable condition] : Except Error Unit :=
  demand condition denied.cls denied.message

/-- A `try` block that denies the execution if anything fails. -/
def Op.denying {α : Type} (p : Op α) : Op α := do
  match ← p.attempt with
  | .ok a => return a
  | .error _ => Op.check (.error denied)

omit [Platform] in
/-- `hmac.compare_digest`, which denies the execution if the digests differ. -/
def sameDigest (a b : String) : Except Error Unit := do
  let equal ← compareDigest a b
  orDenied (equal = true)

/-- `_PendingExecution`. -/
structure PendingExecution where
  contractId : String
  executorIntent : Json
  provenance : AuthorizationProvenance

/-- `PlanAuthorizationV2`, by what is copied into a provenance. -/
structure PlanAuthorization where
  schemaVersion : ℤ
  authorizationId : String
  authorityId : String
  issuedAt : DateTime
  expiresAt : DateTime

/-- A call of `authorize_and_create`, with what it gets from the objects it consults. -/
structure AuthorizeCall (kind : TargetKind) where
  core : WriteExecutionCore
  aesGcmEncrypt : (key nonce data associatedData : Bytes) → Bytes
  /-- `now + self._contract_validity`; `none` is an `OverflowError`. -/
  validUntil : DateTime → Option DateTime
  authorizedPreparation : Preparation kind
  authorization : PlanAuthorization
  requestedPlanDigest : String
  requestedStepId : String
  /-- `none` is no `datetime` in UTC. -/
  now : Option DateTime
  /-- Whether `_validate_inputs` accepts the other arguments. -/
  isValid : Bool
  /-- Whether the authorization is signed, and authorizes the intent with a digest as a step of a
  fresh plan, at the required risk class. -/
  admitted : String → Except Error Bool
  /-- `self._preparer.prepare(request)`. -/
  fresh : Except Error (Preparation kind)
  /-- `self._consumption_store.try_consume(authorization.authorization_id)`. -/
  consumed : Except Error Bool
  uuid : String
  operationUuid : String
  /-- The last value of the nonce counter. -/
  counter : ℕ

/-- What `authorize_and_create` makes a contract of: the material of `_contract_material`. -/
structure ContractMaterial (kind : TargetKind) where
  prepared : Preparation kind
  createdAt : DateTime
  expiresAt : DateTime
  provenance : AuthorizationProvenance

namespace AuthorizeCall

variable {kind : TargetKind}

/-- The gates up to the fresh preparation; its digest. -/
def gates (a : AuthorizeCall kind) : Except Error (DateTime × Preparation kind × String) :=
  match a.now with
  | none => .error denied
  | some now => do
    orDenied (a.isValid = true)
    let authorizedDigest ← a.authorizedPreparation.intent.computeExecutionIntentDigest
    orDenied (a.authorization.issuedAt ≤ now ∧ now < a.authorization.expiresAt)
    let isAdmitted ← a.admitted authorizedDigest
    orDenied (isAdmitted = true)
    let fresh ← a.fresh
    let freshDigest ← fresh.intent.computeExecutionIntentDigest
    sameDigest authorizedDigest freshDigest
    orDenied (fresh.authoritativeA.numericLocator =
      a.authorizedPreparation.authoritativeA.numericLocator)
    .ok (now, fresh, freshDigest)

/-- The provenance and the window of the contract, and `_contract_material`. -/
def material (a : AuthorizeCall kind) (now : DateTime) (fresh : Preparation kind)
    (freshDigest : String) : Except Error (ContractMaterial kind) :=
  match a.validUntil now with
  | none => .error denied
  | some validUntil => do
    let expiresAt :=
      if a.authorization.expiresAt < validUntil then a.authorization.expiresAt else validUntil
    let provenance ← AuthorizationProvenance.ofFields
      { schemaVersion := 2
        authorizationId := a.authorization.authorizationId
        authorityId := a.authorization.authorityId
        planAuthorizationSchemaVersion := a.authorization.schemaVersion
        planDigest := a.requestedPlanDigest
        stepId := a.requestedStepId
        executionIntentDigest := freshDigest
        authorizationIssuedAt := a.authorization.issuedAt
        authorizationExpiresAt := a.authorization.expiresAt
        applianceTargetDigest := fresh.applianceTargetDigest }
    orDenied (now < expiresAt ∧ fresh.applianceTargetDigest = provenance.applianceTargetDigest)
    orDenied (Json.pyEq (field fresh.normalizedMutationIntent "appliance_target_digest")
      (.str provenance.applianceTargetDigest) = true)
    .ok ⟨fresh, now, expiresAt, provenance⟩

/-- `_create_contract`, of the material. -/
def contractOf (a : AuthorizeCall kind) (m : ContractMaterial kind) :
    Except Error RecoveryContract :=
  a.core.createContract a.aesGcmEncrypt m.prepared.write m.createdAt m.expiresAt m.provenance
    a.uuid a.operationUuid a.counter

/-- `authorize_and_create`; the pending execution that it keeps. -/
def authorizeAndCreate (a : AuthorizeCall kind) (store : Store) (call : ℕ) :
    Op PendingExecution := do
  let m ← Op.denying do
    let (now, fresh, freshDigest) ← Op.check a.gates
    let derived ← Op.check fresh.write.deriveIdempotency
    let blocking ← store.findByIdempotencyKey derived.idempotencyKey
    Op.check (orDenied (blocking.isNone = true))
    Op.check (a.material now fresh freshDigest)
  let consumed ← Op.denying (Op.check a.consumed)
  Op.check (orDenied (consumed = true))
  Op.denying do
    let contract ← Op.check (a.contractOf m)
    store.createAuthorized call contract
    let preparedContract ← store.transition call contract.contractId preparing 0 prepared none
      "state_transition"
    return ⟨preparedContract.contractId, m.prepared.write.executorIntent, m.provenance⟩

end AuthorizeCall

/-! ### Resumption -/

/-- A call of `resume_prepared`, on a core of any process. -/
structure ResumeCall (kind : TargetKind) where
  contractId : String
  /-- Whether the request is one of the core. -/
  isRequest : Bool
  /-- `none` is no `datetime` in UTC. -/
  now : Option DateTime
  /-- `self._preparer.prepare(request)`. -/
  fresh : Except Error (Preparation kind)

namespace ResumeCall

variable {kind : TargetKind}

/-- `_validate_resume_inputs`. -/
def validateResumeInputs (r : ResumeCall kind) : Except Error DateTime :=
  match r.now with
  | none => .error denied
  | some now => do
    orDenied (r.contractId ≠ "" ∧ r.isRequest = true)
    .ok now

/-- What is reconstructed of the stored contract and a fresh preparation. -/
def reconstruct (r : ResumeCall kind) (now : DateTime) (contract : RecoveryContract) :
    Except Error PendingExecution :=
  match contract.authorizationProvenance with
  | none => .error denied
  | some provenance => do
    orDenied (contract.state = prepared ∧ provenance.authorizationIssuedAt ≤ now ∧
      now < provenance.authorizationExpiresAt ∧ contract.isExpired now = false)
    let fresh ← r.fresh
    orDenied (fresh.intent.capability = contract.capability ∧
      fresh.intent.endpointSymbol = contract.endpointSymbol ∧
      fresh.intent.httpMethod = contract.httpMethod ∧
      fresh.applianceTargetDigest = provenance.applianceTargetDigest)
    let freshDigest ← fresh.intent.computeExecutionIntentDigest
    sameDigest freshDigest provenance.executionIntentDigest
    orDenied (fresh.authoritativeA.numericLocator = contract.lifecycleLocator)
    let executorIntent := fresh.write.executorIntent
    let targetDigest ← digestValue .targetIdentity fresh.intent.resourceTarget.thaw
      [fresh.intent.capability.name]
    let fingerprintDigest ← digestValue .targetFingerprint fresh.intent.targetPrecondition.thaw
      fresh.context
    let intentDigest ← digestValue .intent executorIntent fresh.context
    let snapshotDigest ← digestValue .snapshot fresh.intent.rollbackSnapshot.thaw fresh.context
    sameDigest targetDigest contract.targetIdentityDigest
    sameDigest fingerprintDigest contract.targetFingerprint
    sameDigest intentDigest contract.intentDigest
    sameDigest snapshotDigest contract.snapshotDigest
    orDenied (fresh.intent.rollbackPlanVersion = contract.rollbackPlanVersion)
    .ok ⟨contract.contractId, executorIntent, provenance⟩

/-- `resume_prepared`; the pending execution that it installs. -/
def resumePrepared (r : ResumeCall kind) (store : Store) : Op PendingExecution :=
  Op.denying do
    let now ← Op.check r.validateResumeInputs
    let contract ← store.load r.contractId
    Op.check (r.reconstruct now contract)

end ResumeCall

/-! ### Values that are normalised alike -/

/-- Wherever they stand, the two values are normalised to the same. -/
def NormalizedAlike (v w : Json) : Prop :=
  ∀ depth nodes, normalize depth nodes v = normalize depth nodes w

namespace NormalizedAlike

theorem refl (v : Json) : NormalizedAlike v v := fun _ _ => rfl

/-- Two texts with the same normal form. -/
theorem str {s t : String} (h : Platform.nfc s = Platform.nfc t) :
    NormalizedAlike (.str s) (.str t) := by
  intro depth nodes
  simp only [normalize, normalizedString, h]

/-- Two lists of texts with the same normal forms. -/
theorem strs {ss ts : List String} (h : ss.map Platform.nfc = ts.map Platform.nfc) :
    NormalizedAlike (.arr (ss.map .str)) (.arr (ts.map .str)) := by
  have hlength : (ss.map Json.str).length = (ts.map Json.str).length := by
    simpa only [List.length_map] using congrArg List.length h
  have hitems : ∀ depth nodes, normalizeItems depth nodes (ss.map .str) =
      normalizeItems depth nodes (ts.map .str) := by
    clear hlength
    induction ss generalizing ts with
    | nil =>
      intro depth nodes
      rw [List.map_nil, eq_comm, List.map_eq_nil_iff] at h
      rw [h]
    | cons s ss ih =>
      intro depth nodes
      obtain ⟨t, ts, rfl, hhead, htail⟩ := List.map_eq_cons_iff.mp h.symm
      simp only [List.map_cons, normalizeItems, str hhead.symm depth nodes, ih htail.symm]
  intro depth nodes
  simp only [normalize, hlength, hitems]

/-- Two dictionaries that are normalised alike under every key. -/
theorem obj {fs gs : List (String × Json)} (hlength : fs.length = gs.length)
    (h : ∀ depth nodes, normalizeFields depth nodes [] fs = normalizeFields depth nodes [] gs) :
    NormalizedAlike (.obj fs) (.obj gs) := by
  intro depth nodes
  simp only [normalize, hlength, h]

/-- Dictionaries that are made from their keys, and go on in the same way. -/
theorem normalizeFields_map {f g : String → Json} {keys : List String}
    (h : ∀ key ∈ keys, NormalizedAlike (f key) (g key)) (rest : List (String × Json)) :
    ∀ depth nodes seen,
      normalizeFields depth nodes seen (keys.map (fun key => (key, f key)) ++ rest) =
        normalizeFields depth nodes seen (keys.map (fun key => (key, g key)) ++ rest) := by
  induction keys with
  | nil => exact fun _ _ _ => rfl
  | cons key keys ih =>
    intro depth nodes seen
    have hhead := h key List.mem_cons_self
    have htail := ih fun k hk => h k (List.mem_cons_of_mem _ hk)
    simp only [List.map_cons, List.cons_append, normalizeFields, hhead _ _, htail]

/-- A field is set to either of the values. -/
theorem normalizeFields_setField {v w : Json} (h : NormalizedAlike v w) (key : String)
    (fs : List (String × Json)) : ∀ depth nodes seen,
    normalizeFields depth nodes seen (Json.setField (key, v) fs) =
      normalizeFields depth nodes seen (Json.setField (key, w) fs) := by
  induction fs with
  | nil =>
    intro depth nodes seen
    simp only [Json.setField, normalizeFields, h _ _]
  | cons f fs ih =>
    intro depth nodes seen
    obtain ⟨k, x⟩ := f
    rw [Json.setField, Json.setField]
    by_cases hk : k = key
    · rw [if_pos hk, if_pos hk]
      simp only [normalizeFields, h _ _]
    · rw [if_neg hk, if_neg hk]
      simp only [normalizeFields, ih]

omit [Platform] in
/-- Setting a field does not depend on its value. -/
theorem length_setField (key : String) (v w : Json) (fs : List (String × Json)) :
    (Json.setField (key, v) fs).length = (Json.setField (key, w) fs).length := by
  induction fs with
  | nil => rfl
  | cons f fs ih =>
    rw [Json.setField, Json.setField]
    by_cases hk : f.1 = key
    · rw [if_pos hk, if_pos hk, List.length_cons, List.length_cons]
    · rw [if_neg hk, if_neg hk, List.length_cons, List.length_cons, ih]

/-- Values that are normalised alike are hashed alike. -/
theorem digestMessage {v w : Json} (h : NormalizedAlike v w) (purpose : DigestPurpose)
    (context : List Text) : Value.digestMessage purpose (.ofJson v) context =
      Value.digestMessage purpose (.ofJson w) context := by
  simp only [Value.digestMessage, Value.canonicalJson, Value.normalize_ofJson, h 0 0]

/-- Values that are normalised alike have the same digest. -/
theorem digestValue {v w : Json} (h : NormalizedAlike v w) (purpose : DigestPurpose)
    (context : List String) :
    Tier1.digestValue purpose v context = Tier1.digestValue purpose w context := by
  simp only [Tier1.digestValue, canonicalJson, h 0 0]

end NormalizedAlike

/-- What the fields of a dictionary are normalised to, by their keys. -/
theorem normalizeFields_map_ok {f : String → Json} {keys : List String} {depth nodes m : ℕ}
    {seen : List String} {fs : List (String × Json)}
    (h : normalizeFields depth nodes seen (keys.map fun key => (key, f key)) = .ok (fs, m)) :
    ∀ key ∈ keys, ∃ y n k, (Platform.nfc key, y) ∈ fs ∧ normalize depth n (f key) = .ok (y, k) := by
  induction keys generalizing nodes seen fs with
  | nil => exact fun _ hkey => absurd hkey List.not_mem_nil
  | cons key keys ih =>
    simp only [List.map_cons, normalizeFields, bind_eq_ok] at h
    obtain ⟨key', hkey', _, -, ⟨y, k⟩, hy, ⟨gs, l⟩, hgs, h⟩ := h
    cases h
    have hnfc : key' = Platform.nfc key := by
      unfold normalizedString fail at hkey'
      dsimp only at hkey'
      split_ifs at hkey'
      exact (Except.ok.inj hkey').symm
    rw [List.forall_mem_cons]
    refine ⟨⟨y, nodes, k, hnfc ▸ List.mem_cons_self, hy⟩, fun key hkey => ?_⟩
    obtain ⟨y, n, k, hmem, hy⟩ := ih hgs key hkey
    exact ⟨y, n, k, List.mem_cons_of_mem _ hmem, hy⟩

/-- The normal forms of a list of texts. -/
theorem normalFormItems_strs (ss : List String) :
    Value.normalFormItems (Value.ofJsonItems (ss.map .str)) =
      some (ss.map fun s => .str (Platform.nfc s)) := by
  induction ss with
  | nil => rfl
  | cons s ss ih =>
    rw [List.map_cons, Value.ofJsonItems, Value.normalFormItems, ih]
    simp only [Value.ofJson, Value.normalForm, Text.toString?_ofString]
    rfl

omit [Platform] in
/-- A value of a field is empty, a truth value, an integer, a text or a list of texts. -/
theorem shape_of_accepts {type : FieldType} {v : Json} (h : type.accepts v = true) :
    v = .null ∨ (∃ b, v = .bool b) ∨ (∃ n, v = .int n) ∨ (∃ s, v = .str s) ∨
      ∃ ss : List String, v = .arr (ss.map .str) := by
  have hstr : isStr v = true → ∃ s, v = .str s := Record.exists_of_isStr
  have hbool : isBool v = true → ∃ b, v = .bool b := Record.exists_of_isBool
  cases type with
  | str => exact .inr (.inr (.inr (.inl (hstr h))))
  | bool => exact .inr (.inl (hbool h))
  | int => exact .inr (.inr (.inl (Record.exists_of_isInt h)))
  | optStr => exact (Record.null_or_of_accepts.1 h).imp_right fun h => .inr (.inr (.inl (hstr h)))
  | optBool => exact (Record.null_or_of_accepts.2.1 h).imp_right fun h => .inl (hbool h)
  | optStrs =>
    exact (Record.null_or_of_accepts.2.2 h).imp_right fun h => .inr (.inr (.inr h))

/-- Two values of a field with the same normal form are normalised alike. -/
theorem alike_of_accepts {type : FieldType} {v w : Json} (hv : type.accepts v = true)
    (hw : type.accepts w = true)
    (h : Value.normalForm (.ofJson v) = Value.normalForm (.ofJson w)) : NormalizedAlike v w := by
  have hstrs : ∀ ss ts : List String, ss.map (fun s => Unordered.str (Platform.nfc s)) =
      ts.map (fun t => .str (Platform.nfc t)) → ss.map Platform.nfc = ts.map Platform.nfc := by
    intro ss ts h
    refine List.map_injective_iff.mpr (fun _ _ => Unordered.str.inj) ?_
    rw [List.map_map, List.map_map]
    exact h
  rcases shape_of_accepts hv with rfl | ⟨b, rfl⟩ | ⟨n, rfl⟩ | ⟨s, rfl⟩ | ⟨ss, rfl⟩ <;>
    rcases shape_of_accepts hw with rfl | ⟨b', rfl⟩ | ⟨n', rfl⟩ | ⟨t, rfl⟩ | ⟨ts, rfl⟩ <;>
    simp only [normalFormItems_strs, Value.ofJson, Value.normalForm, Text.toString?_ofString,
      Option.map_some, Option.some.injEq, reduceCtorEq, Unordered.bool.injEq,
      Unordered.int.injEq, Unordered.str.injEq, Unordered.arr.injEq] at h
  · exact .refl _
  · rw [h]
    exact .refl _
  · rw [h]
    exact .refl _
  · exact .str h
  · exact .strs (hstrs ss ts h)

namespace Preparation

variable {kind : TargetKind} {p q : Preparation kind}

/-- What the fields of the fingerprint are normalised to, and the frozen precondition. -/
theorem exists_fields (p : Preparation kind) : ∃ fs m,
    normalizeFields 1 1 [] p.authoritativeA.fingerprint = .ok (fs, m) ∧
      Value.normalize 0 0 (.ofJson (.obj p.authoritativeA.fingerprint)) = .ok (.obj fs, m) ∧
      p.intent.targetPrecondition = Frozen.freeze (.obj fs) := by
  obtain ⟨y, m, hy, hfrozen⟩ :=
    (PreparedExecutionIntent.prepared_of_new p.isIntent).targetPrecondition
  rw [p.targetPrecondition] at hy
  have hfields := hy
  simp only [Value.normalize_ofJson, normalize, bind_eq_ok, Value.enterNode_eq_ok] at hfields
  obtain ⟨_, ⟨-, -, rfl⟩, _, -, ⟨fs, k⟩, hfs, h⟩ := hfields
  cases h
  exact ⟨fs, _, hfs, hy, hfrozen⟩

/-- Preparations with the same intent have read the same, up to normal forms. -/
theorem alike_of_intent (hnfc : Value.NfcIdempotent) (h : p.intent = q.intent) :
    ∀ key ∈ kind.schema.keys, NormalizedAlike (p.authoritativeA.record.get key)
      (q.authoritativeA.record.get key) := by
  obtain ⟨fs, m, hfs, hp, hfrozen⟩ := p.exists_fields
  obtain ⟨gs, n, hgs, hq, hfrozen'⟩ := q.exists_fields
  have hdistinct : Json.Distinct (.obj fs) := (Value.plain_of_canonical _ 0
    (Value.canonical_of_normalize hnfc _ 0 0 _ _ hp).1).2
  have hdistinct' : Json.Distinct (.obj gs) := (Value.plain_of_canonical _ 0
    (Value.canonical_of_normalize hnfc _ 0 0 _ _ hq).1).2
  -- the frozen preconditions are the same, so the normalised fingerprints are, as maps
  have hsorted : (Json.obj fs).sortKeys = (Json.obj gs).sortKeys := by
    rw [← Frozen.thaw_freeze, ← hfrozen, h, hfrozen', Frozen.thaw_freeze]
  have hmaps := (Json.sortKeys_eq_iff hdistinct hdistinct').mp hsorted
  rw [Json.unordered, Json.unordered, Unordered.obj.injEq] at hmaps
  intro key hkey
  obtain ⟨y, d, k, hy, hnormal⟩ := normalizeFields_map_ok hfs key hkey
  obtain ⟨z, d', k', hz, hnormal'⟩ := normalizeFields_map_ok hgs key hkey
  have hequal : y.unordered = z.unordered := by
    have hlook := Json.unorderedFields_of_mem hdistinct.1 hy
    rw [hmaps, Json.unorderedFields_of_mem hdistinct'.1 hz] at hlook
    exact (Option.some.inj hlook).symm
  obtain ⟨f, hf, rfl⟩ := List.mem_map.mp hkey
  refine alike_of_accepts (p.authoritativeA.record.typed f hf) (q.authoritativeA.record.typed f hf)
    ?_
  rw [← Value.normalize_ofJson] at hnormal hnormal'
  rw [Value.normalForm_of_normalize _ _ _ _ _ hnormal,
    Value.normalForm_of_normalize _ _ _ _ _ hnormal', hequal]

/-- The raw targets of preparations with the same intent and locator. -/
theorem alike_rawTarget (hnfc : Value.NfcIdempotent) (h : p.intent = q.intent)
    (hlocator : p.authoritativeA.numericLocator = q.authoritativeA.numericLocator) :
    NormalizedAlike (.obj p.authoritativeA.rawTarget) (.obj q.authoritativeA.rawTarget) := by
  unfold TargetState.rawTarget
  rw [hlocator]
  refine .obj ?_ fun depth nodes => ?_
  · simp only [TargetState.fingerprint, Record.asDict, List.length_append, List.length_map]
  · exact NormalizedAlike.normalizeFields_map (alike_of_intent hnfc h) _ depth nodes []

/-- The executor intents of preparations with the same intent and locator. -/
theorem alike_executorIntent (hnfc : Value.NfcIdempotent) (h : p.intent = q.intent)
    (hlocator : p.authoritativeA.numericLocator = q.authoritativeA.numericLocator) :
    NormalizedAlike p.write.executorIntent q.write.executorIntent := by
  have hmutation : p.normalizedMutationIntent = q.normalizedMutationIntent := by
    rw [normalizedMutationIntent, normalizedMutationIntent, h]
  show NormalizedAlike (.obj (Json.setField _ p.normalizedMutationIntent))
    (.obj (Json.setField _ q.normalizedMutationIntent))
  rw [hmutation]
  refine .obj (NormalizedAlike.length_setField _ _ _ _) fun depth nodes => ?_
  exact (alike_rawTarget hnfc h hlocator).normalizeFields_setField _ _ depth nodes []

end Preparation

/-! ### What is created -/

/-- A contract binds a preparation, and an execution is pending for it. -/
structure Binds {kind : TargetKind} (prepared : Preparation kind) (pending : PendingExecution)
    (c : RecoveryContract) : Prop where
  contractId : c.contractId = pending.contractId
  executorIntent : pending.executorIntent = prepared.write.executorIntent
  provenance : c.authorizationProvenance = some pending.provenance
  capability : c.capability = prepared.intent.capability
  endpointSymbol : c.endpointSymbol = prepared.intent.endpointSymbol
  httpMethod : c.httpMethod = prepared.intent.httpMethod
  rollbackPlanVersion : c.rollbackPlanVersion = prepared.intent.rollbackPlanVersion
  lifecycleLocator : c.lifecycleLocator = prepared.authoritativeA.numericLocator
  targetIdentityDigest : digestValue .targetIdentity prepared.intent.resourceTarget.thaw
    [prepared.intent.capability.name] = .ok c.targetIdentityDigest
  targetFingerprint : digestValue .targetFingerprint prepared.intent.targetPrecondition.thaw
    prepared.context = .ok c.targetFingerprint
  intentDigest :
    digestValue .intent prepared.write.executorIntent prepared.context = .ok c.intentDigest
  snapshotDigest : digestValue .snapshot prepared.intent.rollbackSnapshot.thaw prepared.context =
    .ok c.snapshotDigest
  executionIntentDigest : prepared.intent.computeExecutionIntentDigest =
    .ok pending.provenance.executionIntentDigest
  applianceTargetDigest :
    pending.provenance.applianceTargetDigest = prepared.applianceTargetDigest
  expiresAt : c.expiresAt ≤ pending.provenance.authorizationExpiresAt

namespace Binds

variable {kind : TargetKind} {prepared : Preparation kind} {pending : PendingExecution}
  {c d : RecoveryContract}

/-- What a contract binds, its later versions bind. -/
theorem of_sameIdentity (h : Binds prepared pending c)
    (hsame : c.SameIdentity d.toContractFields) : Binds prepared pending d where
  contractId := hsame.contractId.trans h.contractId
  executorIntent := h.executorIntent
  provenance := hsame.authorizationProvenance.trans h.provenance
  capability := hsame.capability.trans h.capability
  endpointSymbol := hsame.endpointSymbol.trans h.endpointSymbol
  httpMethod := hsame.httpMethod.trans h.httpMethod
  rollbackPlanVersion := hsame.rollbackPlanVersion.trans h.rollbackPlanVersion
  lifecycleLocator := hsame.lifecycleLocator.trans h.lifecycleLocator
  targetIdentityDigest := hsame.targetIdentityDigest ▸ h.targetIdentityDigest
  targetFingerprint := hsame.targetFingerprint ▸ h.targetFingerprint
  intentDigest := hsame.intentDigest ▸ h.intentDigest
  snapshotDigest := hsame.snapshotDigest ▸ h.snapshotDigest
  executionIntentDigest := h.executionIntentDigest
  applianceTargetDigest := h.applianceTargetDigest
  expiresAt := hsame.expiresAt ▸ h.expiresAt

end Binds

omit [Platform] in
theorem orDenied_eq_ok {condition : Prop} [Decidable condition] {u : Unit} :
    orDenied condition = .ok u ↔ condition := demand_eq_ok

omit [Platform] in
/-- A provenance has the fields it was made of. -/
theorem fields_of_ofFields {f : ProvenanceFields} {p : AuthorizationProvenance}
    (h : AuthorizationProvenance.ofFields f = .ok p) : p.toProvenanceFields = f := by
  unfold AuthorizationProvenance.ofFields at h
  split at h
  · cases h
    rfl
  · cases h

namespace AuthorizeCall

variable {kind : TargetKind} {a : AuthorizeCall kind} {now : DateTime} {fresh : Preparation kind}
  {freshDigest : String} {m : ContractMaterial kind} {c : RecoveryContract}

/-- The gates let the fresh preparation pass, with its digest. -/
theorem gates_ok (h : a.gates = .ok (now, fresh, freshDigest)) :
    a.fresh = .ok fresh ∧ fresh.intent.computeExecutionIntentDigest = .ok freshDigest := by
  unfold gates at h
  split at h
  · cases h
  · simp only [bind_eq_ok] at h
    obtain ⟨_, -, _, -, _, -, _, -, _, -, _, hfresh, _, hdigest, _, -, _, -, h⟩ := h
    cases h
    exact ⟨hfresh, hdigest⟩

theorem material_ok (h : a.material now fresh freshDigest = .ok m) :
    m.prepared = fresh ∧ m.provenance.executionIntentDigest = freshDigest ∧
      m.provenance.applianceTargetDigest = fresh.applianceTargetDigest ∧
      m.expiresAt ≤ m.provenance.authorizationExpiresAt := by
  unfold material at h
  split at h
  · cases h
  · rename_i validUntil _
    simp only [bind_eq_ok] at h
    obtain ⟨provenance, hprovenance, _, -, _, -, h⟩ := h
    cases h
    have hfields := fields_of_ofFields hprovenance
    dsimp only
    rw [hfields]
    refine ⟨rfl, rfl, rfl, ?_⟩
    dsimp only
    split_ifs with hlt
    · exact Nat.le_refl _
    · exact Nat.le_of_not_lt hlt

/-- The contract that is made of the material binds the preparation. -/
theorem binds_of_contractOf (hdigest : fresh.intent.computeExecutionIntentDigest = .ok freshDigest)
    (hmaterial : a.material now fresh freshDigest = .ok m) (h : a.contractOf m = .ok c) :
    Binds fresh ⟨c.contractId, m.prepared.write.executorIntent, m.provenance⟩ c ∧
      c.state = preparing ∧ c.stateVersion = 0 := by
  obtain ⟨hprepared, hexecution, happliance, hexpires⟩ := material_ok hmaterial
  simp only [contractOf, WriteExecutionCore.createContract, bind_eq_ok] at h
  obtain ⟨derived, hderived, identity, -, intent, -, snapshot, -, h⟩ := h
  have hfields := RecoveryContract.ofFields_eq_ok.mp h
  simp only [PreparedWrite.deriveIdempotency, bind_eq_ok] at hderived
  obtain ⟨target, htarget, fingerprint, hfingerprint, intentDigest, hintent, snapshotDigest,
    hsnapshot, _, -, hderived⟩ := hderived
  cases hderived
  have hstart : c.state = preparing ∧ c.stateVersion = 0 := by
    rw [hfields]
    exact ⟨rfl, rfl⟩
  subst hprepared
  refine ⟨?_, hstart⟩
  constructor
  case contractId => rfl
  case executorIntent => rfl
  case targetIdentityDigest => rw [hfields]; exact htarget
  case targetFingerprint => rw [hfields]; exact hfingerprint
  case intentDigest => rw [hfields]; exact hintent
  case snapshotDigest => rw [hfields]; exact hsnapshot
  case executionIntentDigest => rw [hexecution]; exact hdigest
  case applianceTargetDigest => exact happliance
  case expiresAt => rw [hfields]; exact hexpires
  case provenance => rw [hfields]
  all_goals
    rw [hfields]
    rfl

end AuthorizeCall

/-! ### Both methods, step by step -/

section Steps

variable {store : Store} {call : ℕ} {S : Setting call} {s : World}

/-- A `try` block returns what its body returns. -/
theorem wp_denying {C : Context World Answers} {α : Type} {p : Op α} {Q : α → World → Prop}
    (h : wp C p (Returning Q) s) : wp C p.denying (Returning Q) s := by
  refine (wp_bind _ _ _ _).mpr ((wp_attempt _ _ _).mpr (wp_mono h fun r s hr => ?_))
  cases r with
  | ok a => exact hr
  | error e => trivial

/-- What a check lets pass. -/
theorem wp_passed {α β : Type} {x : Except Error β} {f : β → Op α} {Q : α → World → Prop}
    (h : ∀ b, x = .ok b → wp (S.context store) (f b) (Returning Q) s) :
    wp (S.context store) (Op.check x >>= f) (Returning Q) s :=
  wp_check (fun _ _ => trivial) h

/-- What was committed stays committed. -/
theorem mem_of_rely {s' : World} (hrely : S.rely s s') {k : Commit} (hk : k ∈ commitsOf s.trace) :
    k ∈ commitsOf s'.trace := by
  obtain ⟨events, htrace, -⟩ := S.frame hrely
  rw [htrace, commitsOf_append]
  exact List.mem_append_left _ hk

/-- A commit is in the trace, and so is what was there before. -/
theorem mem_of_commits {s' : World} {k : Commit} (h : S.Commits store s s' k) :
    k ∈ commitsOf s'.trace ∧ ∀ k' ∈ commitsOf s.trace, k' ∈ commitsOf s'.trace := by
  obtain ⟨⟨s₁, h₁, -, htrace⟩, -, -⟩ := h
  rw [htrace, commitsOf_append, commitsOf_committed]
  refine ⟨List.mem_append_right _ List.mem_cons_self, fun k' hk' => ?_⟩
  exact List.mem_append_left _ (mem_of_rely h₁ hk')

section Authorize

variable {kind : TargetKind} {a : AuthorizeCall kind}

/-- `authorize_and_create` commits a new contract that binds the fresh preparation, and keeps what
it binds as pending. -/
theorem authorizeAndCreate_spec (hunsent : Unsent call s) :
    wp (S.context store) (a.authorizeAndCreate store call) (Returning fun pending s' =>
      ∃ fresh k, a.fresh = .ok fresh ∧ k ∈ commitsOf s'.trace ∧ k.before = none ∧
        Binds fresh pending k.after) s := by
  refine wp_seq (Q := fun m s' => Coherent store s' ∧ S.rely s s' ∧ ∃ now fresh digest,
    a.gates = .ok (now, fresh, digest) ∧ a.material now fresh digest = .ok m) (wp_denying ?_) ?_
  · refine wp_passed fun ⟨now, fresh, digest⟩ hgates => wp_passed fun derived _ => ?_
    refine (wp_bind _ _ _ _).mpr (findByIdempotencyKey_spec fun s₁ r hs₁ h₁ => ?_)
    cases r with
    | error e => trivial
    | ok blocking =>
      refine wp_passed fun _ _ => (wp_ofExcept _).mpr ?_
      cases hm : a.material now fresh digest with
      | error e => trivial
      | ok m => exact ⟨hs₁, h₁, now, fresh, digest, hgates, hm⟩
  rintro m s₁ ⟨hs₁, h₁, now, fresh, digest, hgates, hmaterial⟩
  obtain ⟨hfresh, hdigest⟩ := AuthorizeCall.gates_ok hgates
  have hunsent₁ := hunsent.of_rely h₁
  refine wp_seq (Q := fun _ s' => s' = s₁) (wp_denying ?_) ?_
  · refine (wp_ofExcept _).mpr ?_
    cases a.consumed with
    | error e => trivial
    | ok consumed => exact rfl
  rintro consumed s₁ rfl
  refine wp_passed fun _ _ => wp_denying (wp_passed fun contract hcontract => ?_)
  obtain ⟨hbinds, -, -⟩ := AuthorizeCall.binds_of_contractOf hdigest hmaterial hcontract
  -- first the contract is created, and then it is prepared
  refine wp_seq (Q := fun _ s' => ∃ k, S.Commits store s₁ s' k ∧ k.before = none ∧
    k.after = contract) (wp_passed fun _ _ => create_spec ?_ ?_ hunsent₁ hs₁) ?_
  · intro s' k hcommits hbefore hafter r
    cases r with
    | ok _ => exact ⟨k, hcommits, hbefore, hafter⟩
    | error _ => trivial
  · exact fun _ _ _ _ => trivial
  rintro _ s₂ ⟨k, hcommits, hbefore, rfl⟩
  have hunsent₂ := hunsent₁.of_commits hcommits
  refine wp_seq (Q := fun d s' => k ∈ commitsOf s'.trace ∧ d.contractId = k.after.contractId)
    (transition_spec ?_ ?_ ?_ hcommits.coherent) ?_
  · exact fun k' hcall _ => hunsent₂.justified hcall
  · intro s' k' hcommits' hmoves
    have hk := (mem_of_commits hcommits').2 k (mem_of_commits hcommits).1
    exact ⟨⟨hk, hmoves.2.1⟩, fun _ _ => trivial⟩
  · exact fun _ _ _ _ => trivial
  rintro d s₃ ⟨hk, hid⟩
  refine ⟨fresh, k, hfresh, hk, hbefore, ?_⟩
  rw [hid]
  exact hbinds

end Authorize

section Resume

variable {kind : TargetKind} {r : ResumeCall kind}

omit [Platform] in
theorem eq_of_sameDigest {x y : String} {u : Unit} (h : sameDigest x y = .ok u) : x = y := by
  simp only [sameDigest, bind_eq_ok, orDenied_eq_ok] at h
  obtain ⟨equal, hequal, rfl⟩ := h
  exact eq_of_compareDigest hequal

omit [Platform] in
theorem sameDigest_self {x : String} (h : isHex64 x = true) : sameDigest x x = .ok () := by
  rw [sameDigest, compareDigest_of_isHex64 h h, beq_self_eq_true]
  rfl

omit [Platform] in
theorem orDenied_of {condition : Prop} [Decidable condition] (h : condition) :
    orDenied condition = .ok () := demand_of h

/-- What was compared when the pending execution was reconstructed. -/
theorem reconstruct_ok {now : DateTime} {c : RecoveryContract} {pending : PendingExecution}
    (h : r.reconstruct now c = .ok pending) : ∃ fresh : Preparation kind, r.fresh = .ok fresh ∧
      c.authorizationProvenance = some pending.provenance ∧
      pending.contractId = c.contractId ∧ pending.executorIntent = fresh.write.executorIntent ∧
      c.state = prepared ∧ c.isExpired now = false ∧
      fresh.context = [c.capability.name, c.endpointSymbol, c.httpMethod] ∧
      digestValue .intent fresh.write.executorIntent fresh.context = .ok c.intentDigest := by
  unfold ResumeCall.reconstruct at h
  split at h
  · cases h
  · rename_i provenance hprovenance
    simp only [bind_eq_ok, orDenied_eq_ok] at h
    obtain ⟨_, ⟨hstate, -, -, hexpired⟩, fresh, hfresh, _, ⟨hcapability, hendpoint, hmethod, -⟩,
      _, -, _, -, _, -, _, -, _, -, intentDigest, hintent, _, -, _, -, _, -, _, hsame, _, -, _, -,
      h⟩ := h
    cases h
    refine ⟨fresh, hfresh, hprovenance, rfl, rfl, hstate, hexpired, ?_, ?_⟩
    · rw [Preparation.context, hcapability, hendpoint, hmethod]
    · rw [hintent, eq_of_sameDigest hsame]

/-- From the same intent, locator and appliance, the pending execution is reconstructed. -/
theorem reconstruct_of_binds {authorized fresh : Preparation kind} {now : DateTime}
    {c : RecoveryContract} {pending : PendingExecution} (hnfc : Value.NfcIdempotent)
    (h : Binds authorized pending c) (hfresh : r.fresh = .ok fresh)
    (hintent : fresh.intent = authorized.intent)
    (hlocator : fresh.authoritativeA.numericLocator = authorized.authoritativeA.numericLocator)
    (happliance : fresh.applianceTargetDigest = authorized.applianceTargetDigest)
    (isPrepared : c.state = prepared) (unexpired : c.isExpired now = false)
    (hissued : pending.provenance.authorizationIssuedAt ≤ now) :
    r.reconstruct now c =
      .ok ⟨c.contractId, fresh.write.executorIntent, pending.provenance⟩ := by
  have hlt : now < pending.provenance.authorizationExpiresAt := by
    have hexpires : now < c.expiresAt := by
      rw [RecoveryContract.isExpired, decide_eq_false_iff_not] at unexpired
      exact Nat.lt_of_not_le unexpired
    exact Nat.lt_of_lt_of_le hexpires h.expiresAt
  have hcontext : fresh.context = authorized.context := by
    rw [Preparation.context, Preparation.context, hintent]
  have hexecutor := (Preparation.alike_executorIntent hnfc hintent hlocator).digestValue .intent
    authorized.context
  have hid := c.identityValid
  have hexecution : isHex64 pending.provenance.executionIntentDigest = true :=
    isHex64_of_digestValue h.executionIntentDigest
  unfold ResumeCall.reconstruct
  rw [h.provenance]
  dsimp only
  rw [orDenied_of ⟨isPrepared, hissued, hlt, unexpired⟩, ok_bind, hfresh, ok_bind, hintent,
    orDenied_of ⟨h.capability.symm, h.endpointSymbol.symm, h.httpMethod.symm,
      happliance.trans h.applianceTargetDigest.symm⟩, ok_bind, h.executionIntentDigest, ok_bind,
    sameDigest_self hexecution, ok_bind, orDenied_of (hlocator.trans h.lifecycleLocator.symm),
    ok_bind, hcontext, h.targetIdentityDigest, ok_bind, h.targetFingerprint, ok_bind, hexecutor,
    h.intentDigest, ok_bind, h.snapshotDigest, ok_bind, sameDigest_self hid.targetIdentityDigest,
    ok_bind, sameDigest_self hid.targetFingerprint, ok_bind, sameDigest_self hid.intentDigest,
    ok_bind, sameDigest_self hid.snapshotDigest, ok_bind,
    orDenied_of h.rollbackPlanVersion.symm, ok_bind]

/-- What a resumption installs was reconstructed of the contract as of one time, and the store is
as it was. -/
theorem resumePrepared_spec : wp (S.context store) (r.resumePrepared store)
    (Returning fun pending s' => ∃ now s₁ c, r.now = some now ∧ Coherent store s₁ ∧ S.rely s s₁ ∧
      S.rely s₁ s' ∧ s₁.latest r.contractId = some c ∧ r.reconstruct now c = .ok pending) s := by
  refine wp_denying (wp_passed fun now hnow => ?_)
  have hnow : r.now = some now := by
    unfold ResumeCall.validateResumeInputs at hnow
    split at hnow
    · cases hnow
    · rename_i hsome
      simp only [bind_eq_ok] at hnow
      obtain ⟨_, -, hnow⟩ := hnow
      cases hnow
      exact hsome
  refine wp_seq (Q := fun c s' => ∃ s₁, Coherent store s₁ ∧ S.rely s s₁ ∧ S.rely s₁ s' ∧
    s₁.latest r.contractId = some c) (load_latest_spec ?_ ?_) ?_
  · exact fun _ _ _ _ => trivial
  · exact fun s₁ s' c hs₁ h₁ hlatest _ h' _ => ⟨s₁, hs₁, h₁, h', hlatest⟩
  · rintro c s' ⟨s₁, hs₁, h₁, h', hlatest⟩
    refine (wp_ofExcept _).mpr ?_
    cases hpending : r.reconstruct now c with
    | error e => trivial
    | ok pending => exact ⟨now, s₁, c, hnow, hs₁, h₁, h', hlatest, hpending⟩

/-- A resumption of a contract that stays as it is ends as the reconstruction does. -/
theorem resumePrepared_live {c : RecoveryContract} {now : DateTime} (hread : S.Readable)
    (hsteady : S.Steady store c) (hs : Coherent store s) (hlatest : s.latest c.contractId = some c)
    (hid : r.contractId = c.contractId) (isRequest : r.isRequest = true) (hnow : r.now = some now) :
    wp (S.context store) (r.resumePrepared store)
      (fun result _ => result = (r.reconstruct now c).mapError fun _ => denied) s := by
  have hne : r.contractId ≠ "" := by
    rw [hid]
    intro hempty
    have hvalid := c.identityValid.contractId
    rw [hempty] at hvalid
    cases hvalid
  have hvalidate : r.validateResumeInputs = .ok now := by
    rw [ResumeCall.validateResumeInputs, hnow]
    dsimp only
    rw [orDenied_of ⟨hne, isRequest⟩, ok_bind]
  refine (wp_bind _ _ _ _).mpr ((wp_attempt _ _ _).mpr (wp_pass hvalidate ?_))
  rw [hid]
  refine (wp_bind _ _ _ _).mpr (load_live hread hsteady hs hlatest fun s' _ _ _ => ?_)
  rw [andThen_ok]
  cases r.reconstruct now c with
  | ok pending => exact rfl
  | error e => exact rfl

/-- No step of a resumption changes the store. -/
theorem within_resumePrepared : (r.resumePrepared store).Within Eq := by
  have hquery : ∀ {α : Type} (f : Database → Except Error α), (Op.query f).Within Eq :=
    fun f i s => ⟨rfl, within_ofExcept _⟩
  refine within_bind (within_attempt (within_bind (within_ofExcept _) fun now => ?_))
    fun result => ?_
  · refine within_bind (within_bind (hquery _) fun row => within_bind (within_ofExcept _)
      fun c => within_bind (within_ofExcept _) fun _ => ?_) fun c => within_ofExcept _
    refine within_bind (within_bind (hquery _) fun _ => within_bind (within_ofExcept _)
      fun _ => within_bind (hquery _) fun _ => within_bind (within_ofExcept _) fun _ => trivial)
      fun _ => trivial
  · cases result with
    | ok pending => trivial
    | error e => exact within_ofExcept _

end Resume

end Steps

/-! ### Runs of cores and other operations -/

/-- A call of an operation, or of a core over the store. -/
inductive CoreCall (store : Store) where
  | operation (op : Operation store)
  | authorizeAndCreate {kind : TargetKind} (a : AuthorizeCall kind)
  | resumePrepared {kind : TargetKind} (r : ResumeCall kind)

/-- The code of a call with the given number. -/
def CoreCall.code {store : Store} (call : ℕ) : CoreCall store → Op Unit
  | operation op => op.code call
  | authorizeAndCreate a => (a.authorizeAndCreate store call).discard
  | resumePrepared r => (r.resumePrepared store).discard

/-- The runs of cores and other operations on a new store. -/
def coreSystem (store : Store) (calls : ℕ → CoreCall store)
    (permit : Answers → World → World → Prop) : System World Answers Error where
  init s := s.db = {} ∧ s.trace = []
  program c p := p = (calls c).code c
  permit := permit

section Reachable

variable {store : Store} {calls : ℕ → CoreCall store} {permit : Answers → World → World → Prop}
  {cfg : Config World Answers Error}

/-- Every call keeps the world coherent and extends the trace by events of its own. -/
def coreSafety (store : Store) (calls : ℕ → CoreCall store)
    (permit : Answers → World → World → Prop) :
    System.Certificate (coreSystem store calls permit) where
  inv := Coherent store
  rely := Extends
  guar := Advances
  fresh c s := own c s.trace = []
  post _ _ _ := True
  rely_refl := Extends.refl
  rely_trans _ _ _ _ := .trans
  rely_of_guar hne _ h := h.extends_of_ne hne
  fresh_of_guar hne h hown := Advances.own_of_ne hne h hown
  post_stable _ _ _ _ := trivial
  of_init h := coherent_own_init h
  sound := by
    rintro c p s rfl hs hown
    cases calls c with
    | operation op => exact op.sound (S := shared c permit) hs hown
    | authorizeAndCreate a =>
      exact wp_end (wp_mono (authorizeAndCreate_spec (S := shared c permit)
        (MutationExecutor.unsent_of_own hown)) fun _ _ _ => trivial)
    | resumePrepared r =>
      exact wp_end (wp_mono (resumePrepared_spec (S := shared c permit)) fun _ _ _ => trivial)

/-- A call that has not started has done nothing. -/
theorem coherent_of_coreSystem (h : (coreSystem store calls permit).Reachable cfg) :
    Coherent store cfg.shared ∧ own cfg.next cfg.shared.trace = [] :=
  ⟨((coreSafety store calls permit).reachable h).inv,
    (((coreSafety store calls permit).reachable h).fresh cfg.next (Nat.le_refl _)).2⟩

end Reachable

/-! ### What is resumed -/

/-- The other calls leave a contract alone, and SQLite does not fail. -/
def sparing (call : ℕ) (contractId : String) : Setting call where
  rely s s' := Extends call s s' ∧ s'.latest contractId = s.latest contractId
  guar := Advances call
  permit i _ _ := i.sqlite = none
  refl s := ⟨.refl call s, rfl⟩
  trans h h' := ⟨h.1.trans h'.1, h'.2.trans h.2⟩
  quiet h := ⟨h.toExtends call, h.latest contractId⟩
  frame h := h.1
  guar_of _ h := h

/-- The intent digests of two executor intents do not collide. -/
def TellsApart (v w : Json) : Prop :=
  ∀ context m m', Value.digestMessage .intent (.ofJson v) context = .ok m →
    Value.digestMessage .intent (.ofJson w) context = .ok m' →
    Platform.sha256 m = Platform.sha256 m' → m = m'

/-- Executor intents with one digest have one normal form. -/
theorem TellsApart.normalForm_eq (hnfc : Value.NfcIdempotent) {v w : Json} (h : TellsApart v w)
    {context : List String} {digest : String} (hv : digestValue .intent v context = .ok digest)
    (hw : digestValue .intent w context = .ok digest) :
    ∃ n, Value.normalForm (.ofJson v) = some n ∧ Value.normalForm (.ofJson w) = some n := by
  rw [← Value.digestValue_ofJson] at hv hw
  simp only [Value.digestValue, bind_eq_ok, Except.ok.injEq] at hv hw
  obtain ⟨m, hm, hdigest⟩ := hv
  obtain ⟨m', hm', hdigest'⟩ := hw
  obtain rfl := h _ m m' hm hm' (hdigest.trans hdigest'.symm)
  exact (Value.eq_of_digestMessage hnfc hm hm').2.2

/-- A commit of an earlier state is in the trace of a later one. -/
theorem mem_commitsOf_of_prefix {trace trace' : List Event} (h : trace <+: trace') {k : Commit}
    (hk : k ∈ commitsOf trace) : k ∈ commitsOf trace' := by
  obtain ⟨rest, rfl⟩ := h
  rw [commitsOf_append]
  exact List.mem_append_left _ hk

/-- What a created contract binds, it binds as of any later time. -/
theorem binds_of_latest {store : Store} {s : World} {kind : TargetKind}
    {prepared : Preparation kind} {pending : PendingExecution} {k : Commit} {c : RecoveryContract}
    (hs : Coherent store s) (hk : k ∈ commitsOf s.trace) (h : Binds prepared pending k.after)
    (hlatest : s.latest pending.contractId = some c) : Binds prepared pending c := by
  have hmem : k ∈ historyOf (commitsOf s.trace) pending.contractId :=
    mem_historyOf.mpr ⟨hk, h.contractId⟩
  exact h.of_sameIdentity (sameIdentity_of_mem hs.commits hlatest k hmem).1

/-- One pending execution is what another one was, up to normal forms. -/
structure Resumed (pending pending' : PendingExecution) : Prop where
  contractId : pending'.contractId = pending.contractId
  executorIntent : TellsApart pending'.executorIntent pending.executorIntent →
    ∃ n, Value.normalForm (.ofJson pending'.executorIntent) = some n ∧
      Value.normalForm (.ofJson pending.executorIntent) = some n
  provenance : pending'.provenance = pending.provenance

/-- A preparation of the original request yields the same intent, locator and appliance, and the
contract is prepared and unexpired at a time when the authorization has been issued. -/
structure Resumable {kind : TargetKind} (a : AuthorizeCall kind) (r : ResumeCall kind)
    (pending : PendingExecution) (s : World) : Prop where
  contractId : r.contractId = pending.contractId
  isRequest : r.isRequest = true
  fresh : ∃ authorized fresh : Preparation kind, a.fresh = .ok authorized ∧ r.fresh = .ok fresh ∧
    fresh.intent = authorized.intent ∧
    fresh.authoritativeA.numericLocator = authorized.authoritativeA.numericLocator ∧
    fresh.applianceTargetDigest = authorized.applianceTargetDigest
  contract : ∃ now c, r.now = some now ∧ s.latest pending.contractId = some c ∧
    c.state = prepared ∧ c.isExpired now = false ∧ pending.provenance.authorizationIssuedAt ≤ now

/-! ### A new store -/

section New

variable {store : Store} {kind : TargetKind} {a : AuthorizeCall kind} {i : Answers}
  {now : DateTime} {fresh : Preparation kind} {freshDigest : String}
  {derived : PreparedWrite.IdempotencyDerivation} {m : ContractMaterial kind} {c : RecoveryContract}

/-- A `try` block in which nothing fails. -/
theorem wp_denying_live {C : Context World Answers} {α : Type} {p : Op α}
    {post : Except Error α → World → Prop} {s : World}
    (h : wp C p (fun r s' => ∃ a, r = .ok a ∧ post (.ok a) s') s) : wp C p.denying post s := by
  refine (wp_bind _ _ _ _).mpr ((wp_attempt _ _ _).mpr (wp_mono h fun r s' hr => ?_))
  obtain ⟨a, rfl, ha⟩ := hr
  exact ha

/-- Nothing blocks a key where there is no contract. -/
theorem findByIdempotencyKey_empty {call : ℕ} {S : Setting call} {s : World} (hread : S.Readable)
    (hempty : ∀ s', S.rely s s' → s'.db.contracts = []) {key : String}
    {post : Except Error (Option RecoveryContract) → World → Prop}
    (h : ∀ s', Coherent store s' → S.rely s s' → post (.ok none) s') :
    wp (S.context store) (store.findByIdempotencyKey key) post s := by
  refine (wp_bind _ _ _ _).mpr (wp_query_live hread fun s' hs' hrely => ⟨_, rfl, ?_⟩)
  rw [hempty s' hrely]
  exact h s' hs' hrely

/-- Alone on a new store, a call that passes its gates creates the contract and prepares it. -/
theorem authorizeAndCreate_live (hfit : Fit store i) (hrate : store.ratePolicy = none)
    (hgates : a.gates = .ok (now, fresh, freshDigest))
    (hderived : fresh.write.deriveIdempotency = .ok derived)
    (hmaterial : a.material now fresh freshDigest = .ok m) (hconsumed : a.consumed = .ok true)
    (hc : a.contractOf m = .ok c)
    (hwindow : ∀ t, i.clock = some t → c.createdAt ≤ t ∧ c.isExpired t = false) :
    wp ((alone 0 fun j _ _ => j = i).context store) (a.authorizeAndCreate store 0)
      (fun r s => ∃ d : RecoveryContract, d.toContractFields = Store.moved c prepared ∧
        Single store s d ∧ r = .ok ⟨d.contractId, m.prepared.write.executorIntent, m.provenance⟩)
      {} := by
  have hlive : (alone 0 fun j _ _ => j = i).Live store := live_alone hfit
  obtain ⟨hbinds, hpreparing, hfirst⟩ :=
    AuthorizeCall.binds_of_contractOf (AuthorizeCall.gates_ok hgates).2 hmaterial hc
  have hunconfirmed : c.isConfirmed = false := by
    simp only [AuthorizeCall.contractOf, WriteExecutionCore.createContract, bind_eq_ok] at hc
    obtain ⟨_, -, _, -, _, -, _, -, hc⟩ := hc
    rw [RecoveryContract.isConfirmed, RecoveryContract.ofFields_eq_ok.mp hc]
    rfl
  refine (wp_bind _ _ _ _).mpr (wp_denying_live (wp_pass hgates (wp_pass hderived ?_)))
  refine (wp_bind _ _ _ _).mpr (findByIdempotencyKey_empty hlive.readable
    (fun s' hquiet => hquiet.contracts) fun s₁ hs₁ h₁ => ?_)
  refine wp_pass (orDenied_of rfl) ?_
  rw [hmaterial]
  refine ⟨m, rfl, (wp_bind _ _ _ _).mpr (wp_denying_live ?_)⟩
  rw [hconsumed]
  refine ⟨true, rfl, wp_pass (orDenied_of rfl) (wp_denying_live (wp_pass hc ?_))⟩
  have hfresh : ∀ s' : World, Quiet s₁ s' → commitsOf s'.trace = [] := by
    intro s' hquiet
    rw [(h₁.trans hquiet).trace]
    rfl
  have hunsent : Unsent 0 s₁ := MutationExecutor.unsent_of_own (by rw [h₁.trace]; rfl)
  -- first the contract is created, and then it is prepared
  refine (wp_bind _ _ _ _).mpr (wp_met (by rw [hbinds.provenance]; rfl) (create_live hlive
    hpreparing hfirst hunconfirmed ?_ ?_ ?_ hunsent ?_))
  · rintro _ _ _ t rfl hclock
    exact hwindow t hclock
  · intro s' _ hquiet d hd
    rw [hfresh s' hquiet] at hd
    exact absurd hd List.not_mem_nil
  · intro _ _ _ _
    rw [Store.checkPrepareAllowed, hrate]
  rintro s₂ k hcommits - rfl
  have hsingle : Single store s₂ k.after := by
    obtain ⟨⟨s', hquiet, -, htrace⟩, hcoherent, -⟩ := hcommits
    have hone : commitsOf s₂.trace = [k] := by
      rw [htrace, commitsOf_append, hfresh s' hquiet]
      rfl
    refine ⟨hcoherent, ?_, fun k' hk' => ?_⟩
    · rw [World.latest, hone]
      exact View.latest_append_self (V := commitView) [] k
    · rw [hone] at hk'
      rw [List.mem_singleton.mp hk']
  refine (wp_bind _ _ _ _).mpr ?_
  rw [← hpreparing, ← hfirst]
  have hlegal : requireTransition k.after.state prepared false = .ok () := by rw [hpreparing]; rfl
  refine transition_live hlive steady_alone hsingle.coherent hsingle.latest (by decide)
    (by decide) hlegal ?_ ?_ ?_ ?_ (by rw [hfirst]; decide) ?_ ?_ ?_
  · rintro ⟨⟩
  · rintro ⟨⟩
  · rintro ⟨⟩
  · rintro _ _ _ t rfl hclock _ hexpired
    rw [(hwindow t hclock).2] at hexpired
    cases hexpired
  · exact fun _ _ _ hreserved => by cases hreserved
  · exact fun k' hcall _ => (hunsent.of_commits hcommits).justified hcall
  · intro s₃ k' hcommits' _ hfields
    exact ⟨_, rfl, k'.after, hfields, hsingle.of_commits hcommits' (by rw [hfields]; rfl), rfl⟩

/-- So there is a run in which the first call creates the contract and prepares it. -/
theorem reachable_authorized (hfit : Fit store i) (hrate : store.ratePolicy = none)
    (hgates : a.gates = .ok (now, fresh, freshDigest))
    (hderived : fresh.write.deriveIdempotency = .ok derived)
    (hmaterial : a.material now fresh freshDigest = .ok m) (hconsumed : a.consumed = .ok true)
    (hc : a.contractOf m = .ok c)
    (hwindow : ∀ t, i.clock = some t → c.createdAt ≤ t ∧ c.isExpired t = false)
    {calls : ℕ → CoreCall store} (hcall : calls 0 = .authorizeAndCreate a) :
    ∃ cfg d, (coreSystem store calls fun j _ _ => j = i).Reachable cfg ∧
      d.toContractFields = Store.moved c prepared ∧ cfg.shared.latest d.contractId = some d ∧
      Ends ((shared 0 fun j _ _ => j = i).context store) (a.authorizeAndCreate store 0) {}
        (.ok ⟨d.contractId, m.prepared.write.executorIntent, m.provenance⟩) cfg.shared := by
  have hstart : (coreSystem store calls fun j _ _ => j = i).Reachable (.start {}) :=
    .start ⟨rfl, rfl⟩
  have hs : Coherent store {} := coherent_init ⟨rfl, rfl⟩
  have hlive := authorizeAndCreate_live hfit hrate hgates hderived hmaterial hconsumed hc hwindow
  have hpermitted : ∀ p : Op Unit, p.Permitted (fun j _ _ => j = i) (fun _ => i) {} :=
    fun p => permitted_of_forall p _ (fun _ _ _ => rfl) _
  obtain ⟨cfg, hreach, hshared, -⟩ :=
    System.reachable_call (fun _ => i) hstart (hpermitted _) rfl
  obtain ⟨-, d, hd, hsingle, hresult⟩ :=
    run_of_wp (fun s => Quiet.refl s) (fun _ => i) (fun _ _ _ => rfl) hs hlive
  have hends := ends_run (C := (shared 0 fun j _ _ => j = i).context store) (.refl 0)
    (fun _ => i) (fun _ _ _ => rfl) hs (authorizeAndCreate_spec (a := a)
      fun _ _ _ h => absurd h List.not_mem_nil)
  -- the state of the pool is that of the run
  have hstate : cfg.shared = ((a.authorizeAndCreate store 0).run (fun _ => i) {}).state := by
    rw [hshared]
    change (((calls 0).code 0).run (fun _ => i) {}).state = _
    rw [hcall]
    change ((a.authorizeAndCreate store 0 >>= fun _ => pure ()).run (fun _ => i) {}).state = _
    rw [run_bind]
    rcases (a.authorizeAndCreate store 0).run (fun _ => i) {} with ⟨_ | _, _, _⟩ <;> rfl
  rw [hresult, ← hstate] at hends
  exact ⟨cfg, d, hreach, hd, by rw [hstate]; exact hsingle.latest, hends⟩

/-- A resumption of a contract that stays as it is ends as the reconstruction does. -/
theorem ends_resumePrepared {call : ℕ} {S : Setting call} {r : ResumeCall kind} {s : World}
    {c : RecoveryContract} (hpermit : ∀ s s', S.permit i s s') (hsqlite : i.sqlite = none)
    (hs : Coherent store s) (hlatest : s.latest c.contractId = some c)
    (hid : r.contractId = c.contractId) (isRequest : r.isRequest = true) (hnow : r.now = some now) :
    ∃ s', Ends (S.context store) (r.resumePrepared store) s
      ((r.reconstruct now c).mapError fun _ => denied) s' := by
  have hread : (alone call fun j _ _ => j = i).Readable := by
    rintro _ _ _ rfl
    exact hsqlite
  have hends := ends_run (C := S.context store) S.refl (fun _ => i) (fun _ => hpermit) hs
    (resumePrepared_spec (r := r))
  have hresult := (run_of_wp (fun s => Quiet.refl s) (fun _ => i) (fun _ _ _ => rfl) hs
    (resumePrepared_live (r := r) hread steady_alone hs hlatest hid isRequest hnow)).2
  rw [hresult] at hends
  exact ⟨_, hends⟩

end New

end Model

/-- After `authorize_and_create`, in every later state: no resumption of the contract changes the
store; one that succeeds, on whatever core, installs the executor intent that was authorized, up to
normal forms, and its provenance, while the contract is prepared and unexpired; and one on a core
for the same capability, of a request that is prepared as it was, succeeds. -/
theorem resumes_authorized [Platform] (hnfc : Value.NfcIdempotent) {store : Store}
    {calls : ℕ → CoreCall store} {permit : Answers → World → World → Prop}
    {cfg₀ cfg : Config World Answers Error} {kind : TargetKind} {a : AuthorizeCall kind}
    {pending : PendingExecution} {s₁ : World}
    (h₀ : (coreSystem store calls permit).Reachable cfg₀)
    (hauthorize : Ends ((shared cfg₀.next permit).context store)
      (a.authorizeAndCreate store cfg₀.next) cfg₀.shared (.ok pending) s₁)
    (h : (coreSystem store calls permit).Reachable cfg) (hlater : s₁.trace <+: cfg.shared.trace) :
    (∀ (kind' : TargetKind) (r : ResumeCall kind'), (r.resumePrepared store).Within Eq ∧
      ∀ call pending' s', r.contractId = pending.contractId →
        Ends ((shared call permit).context store) (r.resumePrepared store) cfg.shared
          (.ok pending') s' →
        Resumed pending pending' ∧ ∃ now s c, r.now = some now ∧ Extends call cfg.shared s ∧
          Extends call s s' ∧ s.latest pending.contractId = some c ∧ c.state = prepared ∧
          c.isExpired now = false) ∧
    ∀ (r : ResumeCall kind) call result s', Resumable a r pending cfg.shared →
      Ends ((sparing call pending.contractId).context store) (r.resumePrepared store) cfg.shared
        result s' → ∃ pending', result = .ok pending' := by
  obtain ⟨-, hown⟩ := coherent_of_coreSystem h₀
  obtain ⟨hs, -⟩ := coherent_of_coreSystem h
  obtain ⟨authorized, k, hauthorized, hk, -, hbinds⟩ :=
    hauthorize.post (authorizeAndCreate_spec (MutationExecutor.unsent_of_own hown))
  have hk := mem_commitsOf_of_prefix hlater hk
  constructor
  · refine fun kind' r => ⟨within_resumePrepared, fun call pending' s' hid hresume => ?_⟩
    obtain ⟨now, s, c, hnow, hs, hextends, hextends', hlatest, hreconstruct⟩ :=
      hresume.post resumePrepared_spec
    obtain ⟨fresh, -, hprovenance, hcontract, hexecutor, hstate, hexpired, hcontext, hdigest⟩ :=
      reconstruct_ok hreconstruct
    rw [hid] at hlatest
    have hbound := binds_of_latest hs (mem_of_rely hextends hk) hbinds hlatest
    refine ⟨⟨hcontract.trans hbound.contractId, fun happart => ?_, ?_⟩, now, s, c, hnow, hextends,
      hextends', hlatest, hstate, hexpired⟩
    · -- both executor intents have the intent digest of the contract
      have hauthorizedContext : authorized.context = fresh.context := by
        rw [hcontext, Preparation.context, hbound.capability, hbound.endpointSymbol,
          hbound.httpMethod]
      refine happart.normalForm_eq hnfc (hexecutor ▸ hdigest) ?_
      rw [hbound.executorIntent, ← hauthorizedContext]
      exact hbound.intentDigest
    · exact Option.some.inj (hprovenance.symm.trans hbound.provenance)
  · rintro r call result s' ⟨hid, isRequest, ⟨authorized', fresh, hauthorized', hfresh, hintent,
      hlocator, happliance⟩, now, c, hnow, hlatest, hstate, hexpired, hissued⟩ hresume
    cases hauthorized.symm.trans hauthorized'
    have hbound := binds_of_latest hs hk hbinds hlatest
    have hreconstruct := reconstruct_of_binds hnfc hbound hfresh hintent hlocator happliance hstate
      hexpired hissued
    have hcid := hbound.contractId
    have hsteady : (sparing call pending.contractId).Steady store c := by
      intro s s' _ _ hrely hc
      rw [hcid] at hc ⊢
      exact hrely.2.trans hc
    have hresult := hresume.post (resumePrepared_live (fun hi => hi) hsteady hs
      (by rw [hcid]; exact hlatest) (hid.trans hcid.symm) isRequest hnow)
    rw [hreconstruct] at hresult
    exact ⟨_, hresult⟩

/-! ### A sample -/

section Tame

variable [Platform]

mutual

/-- A value of few levels, with short texts in normalisation form C and single digits. -/
def isTame : ℕ → Json → Bool
  | _, .null | _, .bool _ => true
  | _, .int n => 0 ≤ n && n < 10
  | _, .str s => s.toList.length ≤ 500 && Platform.nfc s == s
  | n + 1, .arr items => items.length ≤ 100 && isTameItems n items
  | n + 1, .obj fields =>
    fields.length ≤ 100 && decide (fields.map Prod.fst).Nodup && isTameFields n fields
  | _, _ => false

def isTameItems : ℕ → List Json → Bool
  | _, [] => true
  | n, x :: xs => isTame n x && isTameItems n xs

def isTameFields : ℕ → List (String × Json) → Bool
  | _, [] => true
  | n, (k, v) :: fs =>
    k.toList.length ≤ 500 && Platform.nfc k == k && isTame n v && isTameFields n fs

end

mutual

theorem canonical_of_isTame : ∀ (v : Json) (n depth : ℕ), isTame n v = true →
    depth + n ≤ maxCanonicalDepth → Value.Canonical depth v
  | .null, _, _, _, hd => by
    rw [Value.Canonical]
    omega
  | .bool _, _, _, _, hd => by
    rw [Value.Canonical]
    omega
  | .int i, _, _, h, hd => by
    simp only [isTame, Bool.and_eq_true, decide_eq_true_eq] at h
    rw [Value.Canonical]
    omega
  | .float _, n, _, h, _ => by cases n <;> simp [isTame] at h
  | .str s, _, _, h, hd => by
    simp only [isTame, Bool.and_eq_true, decide_eq_true_eq, beq_iff_eq] at h
    exact ⟨by omega, Value.normalizedString_of_short h.1 h.2⟩
  | .arr items, 0, _, h, _ => by simp [isTame] at h
  | .arr items, n + 1, depth, h, hd => by
    simp only [isTame, Bool.and_eq_true, decide_eq_true_eq] at h
    refine ⟨by omega, ?_, canonicalItems_of_isTame items n (depth + 1) h.2 (by omega)⟩
    unfold maxCanonicalCollectionItems
    omega
  | .obj fields, 0, _, h, _ => by simp [isTame] at h
  | .obj fields, n + 1, depth, h, hd => by
    simp only [isTame, Bool.and_eq_true, decide_eq_true_eq] at h
    refine ⟨by omega, ?_, h.1.2, canonicalFields_of_isTame fields n (depth + 1) h.2 (by omega)⟩
    unfold maxCanonicalCollectionItems
    omega

theorem canonicalItems_of_isTame : ∀ (items : List Json) (n depth : ℕ),
    isTameItems n items = true → depth + n ≤ maxCanonicalDepth → Value.CanonicalItems depth items
  | [], _, _, _, _ => trivial
  | x :: xs, n, depth, h, hd => by
    simp only [isTameItems, Bool.and_eq_true] at h
    exact ⟨canonical_of_isTame x n depth h.1 hd, canonicalItems_of_isTame xs n depth h.2 hd⟩

theorem canonicalFields_of_isTame : ∀ (fields : List (String × Json)) (n depth : ℕ),
    isTameFields n fields = true → depth + n ≤ maxCanonicalDepth →
    Value.CanonicalFields depth fields
  | [], _, _, _, _ => trivial
  | (k, v) :: fs, n, depth, h, hd => by
    simp only [isTameFields, Bool.and_eq_true, decide_eq_true_eq, beq_iff_eq] at h
    exact ⟨Value.normalizedString_of_short h.1.1.1 h.1.1.2, canonical_of_isTame v n depth h.1.2 hd,
      canonicalFields_of_isTame fs n depth h.2 hd⟩

end

/-- A tame value that is not too large. -/
def isModest (v : Json) : Bool :=
  isTame 8 v && decide (Value.nodeCount v ≤ 1000) && decide (Json.weight v ≤ 100000)

theorem digestValue_of_isModest {v : Json} (h : isModest v = true) (purpose : DigestPurpose)
    {context : List String} (hcontext : context.length ≤ 16)
    (hparts : ∀ part ∈ context, part.toList.length ≤ 500) :
    ∃ message, digestValue purpose v context = .ok (Platform.sha256 message) := by
  simp only [isModest, Bool.and_eq_true, decide_eq_true_eq] at h
  obtain ⟨⟨htame, hnodes⟩, hweight⟩ := h
  refine ⟨_, (Value.digestValue_eq purpose v context (canonical_of_isTame v 8 0 htame (by decide))
    (hnodes.trans (by decide)) ?_ hcontext fun part hpart => ?_).1⟩
  · unfold maxCanonicalBytes
    omega
  · have := hparts part hpart
    unfold maxCanonicalStringBytes
    omega

end Tame

namespace Composition

@[reducible]
def platform : Platform :=
  { Sample.platform with nfc := fun s => if s = "n\u0303" then "\u00f1" else s }

attribute [local instance] platform

/-- The value of a field of the settings. -/
def value (server : String) : String → Json
  | "leapsec" | "interface" | "ntpmaxpoll" | "ntpminpoll" => .null
  | "dnsresolv" => .str server
  | "serverauthalgo" => .str "md5"
  | "ntpmaxpeers" | "orphan" => .int 5
  | key => if key ∈ ntpSettings.keys then .bool false else .null

def state (server : String) : TargetState .ntpSettings where
  record :=
    { get := value server
      typed := by
        simp only [TargetKind.ntpSettings, ntpSettings, List.forall_mem_cons]
        refine ⟨rfl, rfl, rfl, rfl, rfl, rfl, rfl, rfl, rfl, rfl, rfl, rfl, rfl, rfl, rfl, rfl,
          fun _ h => absurd h List.not_mem_nil⟩
      outside := by
        intro key hkey
        unfold value
        split
        all_goals first | exact absurd (by decide +kernel) hkey | skip
        exact if_neg hkey }
  numericLocator := 0
  singleton _ := rfl

/-- The fields of the change. -/
def mutation : List (String × Json) :=
  [("operation", .str "set_ntp_settings_observability_v1"),
    ("raw_target_hint", .obj [("resource", .str "ntp_settings")]),
    ("appliance_target_digest", .str Sample.hex), ("logpeer", .bool true), ("logsys", .bool false),
    ("clockstats", .bool false), ("loopstats", .bool false), ("peerstats", .bool false),
    ("statsgraph", .bool false)]

def arguments (server : String) : IntentArguments where
  schemaVersion := .int 1
  capability := some .ntpSettingsObservabilityWrite
  endpointSymbol := .str (Text.ofString "NTP_SETTINGS_OBSERVABILITY_TOGGLES")
  httpMethod := .str (Text.ofString "PATCH")
  adapterVersion := .str (Text.ofString "ntp-settings-observability-v1")
  rollbackPlanVersion := .str (Text.ofString "ntp-settings-observability-rollback-v1")
  resourceTarget := .ofJson (.obj [("resource", .str "ntp_settings")])
  targetPrecondition := .ofJson (.obj (state server).fingerprint)
  normalizedMutationIntent := .ofJson (.obj mutation)
  rollbackSnapshot := .ofJson (.obj (state server).fingerprint)

def composed : String := "\u00f1"

def decomposed : String := "n\u0303"

def intent : PreparedExecutionIntent where
  schemaVersion := 1
  capability := .ntpSettingsObservabilityWrite
  endpointSymbol := "NTP_SETTINGS_OBSERVABILITY_TOGGLES"
  httpMethod := "PATCH"
  adapterVersion := "ntp-settings-observability-v1"
  rollbackPlanVersion := "ntp-settings-observability-rollback-v1"
  resourceTarget := .freeze (.obj [("resource", .str "ntp_settings")])
  targetPrecondition := .freeze (.obj (state composed).fingerprint)
  normalizedMutationIntent := .freeze (.obj mutation)
  rollbackSnapshot := .freeze (.obj (state composed).fingerprint)

theorem validatedFrozen_of_isModest {fields : List (String × Json)}
    (h : isModest (.obj fields) = true) (fieldName : String) (requireObject : Bool) :
    validatedFrozen (.ofJson (.obj fields)) fieldName requireObject =
      .ok (.freeze (.obj fields)) := by
  simp only [isModest, Bool.and_eq_true, decide_eq_true_eq] at h
  obtain ⟨⟨htame, hnodes⟩, -⟩ := h
  have hnormal := Value.normalize_of_canonical (.obj fields) 0 0
    (canonical_of_isTame _ 8 0 htame (by decide)) (by unfold maxCanonicalNodes; omega)
  rw [validatedFrozen, Value.normalize_ofJson, hnormal]

/-- The parts of the intent are tame, and not too large. -/
theorem isModest_parts : isModest (.obj (state composed).fingerprint) = true ∧
    isModest (.obj mutation) = true ∧ isModest (.obj [("resource", .str "ntp_settings")]) = true ∧
    isModest intent.payload = true := by decide +kernel

theorem alike_value (key : String) :
    NormalizedAlike (value decomposed key) (value composed key) := by
  have hserver : NormalizedAlike (.str decomposed) (.str composed) := .str (by decide)
  unfold value
  split
  all_goals first | exact hserver | exact .refl _

theorem alike_fingerprint : NormalizedAlike (.obj (state decomposed).fingerprint)
    (.obj (state composed).fingerprint) := by
  refine .obj rfl fun depth nodes => ?_
  have hkeys : ∀ key ∈ ntpSettings.keys, NormalizedAlike (value decomposed key)
      (value composed key) := fun key _ => alike_value key
  have h := NormalizedAlike.normalizeFields_map hkeys [] depth nodes []
  rwa [List.append_nil, List.append_nil] at h

/-- A server that is written in either way. -/
def IsServer (server : String) : Prop := server = composed ∨ server = decomposed

theorem isServer_composed : IsServer composed := .inl rfl

theorem isServer_decomposed : IsServer decomposed := .inr rfl

theorem validatedFrozen_fingerprint {server : String} (h : IsServer server) (fieldName : String) :
    validatedFrozen (.ofJson (.obj (state server).fingerprint)) fieldName false =
      .ok (.freeze (.obj (state composed).fingerprint)) := by
  rcases h with rfl | rfl
  · exact validatedFrozen_of_isModest isModest_parts.1 fieldName false
  · rw [← validatedFrozen_of_isModest isModest_parts.1 fieldName false, validatedFrozen,
      validatedFrozen, Value.normalize_ofJson, Value.normalize_ofJson, alike_fingerprint 0 0]

theorem new_arguments {server : String} (h : IsServer server) :
    PreparedExecutionIntent.new (arguments server) = .ok intent := by
  obtain ⟨hidentifier, hmethod⟩ : (∀ name ∈ ["NTP_SETTINGS_OBSERVABILITY_TOGGLES",
      "ntp-settings-observability-v1", "ntp-settings-observability-rollback-v1"],
      orRefused ((some name).filter isIdentifier)
        "Prepared execution-intent identifier is invalid." = .ok name) ∧
      orRefused ((some "PATCH").filter fun method => method ∈ mutatingMethods)
        "Prepared execution-intent HTTP method is invalid." = .ok "PATCH" := by
    decide
  simp only [List.forall_mem_cons] at hidentifier
  obtain ⟨hendpoint, hadapter, hplan, -⟩ := hidentifier
  simp only [PreparedExecutionIntent.new, arguments, Value.string?, Text.toString?_ofString,
    validatedFrozen_fingerprint h, validatedFrozen_of_isModest isModest_parts.2.1,
    validatedFrozen_of_isModest isModest_parts.2.2.1,
    hendpoint, hadapter, hplan, hmethod]
  rfl

def preparation {server : String} (h : IsServer server) : Preparation .ntpSettings where
  intent := intent
  authoritativeA := state server
  applianceTargetDigest := Sample.hex
  arguments := arguments server
  isIntent := new_arguments h
  targetPrecondition := rfl
  rollbackSnapshot := rfl

/-! ### The call of the sample -/

open Sample (hex isHex64_hex midnight isDay_one isDay_two isDay_three isMonth_one isHour_zero
  isMinute_zero isMicrosecond_zero isIdentifier_key length_key)

theorem digest_of_isModest {v : Json} (h : isModest v = true) (purpose : DigestPurpose)
    {context : List String} (hcontext : context.length ≤ 16)
    (hparts : ∀ part ∈ context, part.toList.length ≤ 500) :
    digestValue purpose v context = .ok hex :=
  (digestValue_of_isModest h purpose hcontext hparts).elim fun _ h => h

theorem canonicalJson_of_isModest {v : Json} (h : isModest v = true) :
    ∃ data, canonicalJson v = .ok data := by
  have hdigest : digestValue .intent v [] = .ok hex :=
    digest_of_isModest h .intent (by decide) (by simp)
  simp only [digestValue, bind_eq_ok] at hdigest
  obtain ⟨_, -, _, -, data, hdata, -⟩ := hdigest
  exact ⟨data, hdata⟩

def authorized : Preparation .ntpSettings := preparation isServer_composed

def key : KeyRecord :=
  ⟨"key-1", 0, List.replicate 32 0, isIdentifier_key, length_key⟩

/-- An encryption that keeps nothing. -/
def encrypt (_key _nonce _data _associatedData : Bytes) : Bytes := List.replicate 17 0

def provenance : AuthorizationProvenance where
  schemaVersion := 2
  authorizationId := "authorization-1"
  authorityId := "owner"
  planAuthorizationSchemaVersion := 2
  planDigest := hex
  stepId := "step-1"
  executionIntentDigest := hex
  authorizationIssuedAt := midnight 1 isDay_one
  authorizationExpiresAt := midnight 3 isDay_three
  applianceTargetDigest := hex
  valid := by decide +kernel

def call : AuthorizeCall .ntpSettings where
  core := ⟨"ntpsettings", .standardSealedWrite, key⟩
  aesGcmEncrypt := encrypt
  validUntil _ := some (midnight 2 isDay_two)
  authorizedPreparation := authorized
  authorization := ⟨2, "authorization-1", "owner", midnight 1 isDay_one, midnight 3 isDay_three⟩
  requestedPlanDigest := hex
  requestedStepId := "step-1"
  now := some (midnight 1 isDay_one)
  isValid := true
  admitted _ := .ok true
  fresh := .ok authorized
  consumed := .ok true
  uuid := "00000000000000000000000000000001"
  operationUuid := "00000000000000000000000000000001"
  counter := 0

def material : ContractMaterial .ntpSettings :=
  ⟨authorized, midnight 1 isDay_one, midnight 2 isDay_two, provenance⟩

theorem executionIntentDigest : authorized.intent.computeExecutionIntentDigest = .ok hex :=
  digest_of_isModest isModest_parts.2.2.2 _ (by decide) (by decide)

/-- An instant before the authorization. -/
def newYear : DateTime where
  year := 2025
  month := 1
  day := 1
  hour := 0
  minute := 0
  second := 0
  microsecond := 0
  year_range := by decide
  month_range := isMonth_one
  day_range := isDay_one
  hour_lt := isHour_zero
  minute_lt := isMinute_zero
  second_lt := isMinute_zero
  microsecond_lt := isMicrosecond_zero

/-- The window of the authorization, and of the contract. -/
theorem window : midnight 1 (by decide) < midnight 3 (by decide) ∧
    ¬midnight 3 (by decide) < midnight 2 (by decide) ∧
    midnight 1 (by decide) < midnight 2 (by decide) ∧
    newYear < midnight 1 (by decide) ∧ newYear < midnight 2 (by decide) := by decide +kernel

theorem gates_call : call.gates = .ok (midnight 1 (by decide), authorized, hex) := by
  have hissued : midnight 1 (by decide) ≤ midnight 1 (by decide) := Nat.le_refl _
  dsimp only [AuthorizeCall.gates, call]
  rw [orDenied_of rfl, ok_bind, executionIntentDigest, ok_bind, orDenied_of ⟨hissued, window.1⟩,
    ok_bind, ok_bind, orDenied_of rfl, ok_bind, ok_bind, executionIntentDigest, ok_bind,
    sameDigest_self isHex64_hex, ok_bind, orDenied_of rfl, ok_bind]

theorem material_call : call.material (midnight 1 (by decide)) authorized hex = .ok material := by
  have hprovenance : AuthorizationProvenance.ofFields provenance.toProvenanceFields =
    .ok provenance := AuthorizationProvenance.ofFields_self provenance
  have hdigest : Json.pyEq (field authorized.normalizedMutationIntent "appliance_target_digest")
      (.str hex) = true := by decide +kernel
  dsimp only [provenance] at hprovenance
  dsimp only [AuthorizeCall.material, call]
  rw [if_neg window.2.1]
  dsimp only [authorized, preparation]
  rw [hprovenance, ok_bind]
  have hpass : ∀ {p q : Prop} [Decidable p] [Decidable q], p → q →
      (do orDenied p; orDenied q; .ok material) = .ok material := by
    intro p q _ _ hp hq
    rw [orDenied_of hp, ok_bind, orDenied_of hq, ok_bind]
  exact hpass ⟨window.2.2.1, rfl⟩ hdigest

/-- What is digested of the preparation is tame, and not too large. -/
theorem isModest_write : isModest authorized.write.executorIntent = true ∧
    isModest authorized.write.resourceTarget = true ∧
    isModest authorized.write.targetPrecondition = true ∧
    isModest authorized.write.rollbackSnapshot = true ∧
    isModest (.obj authorized.write.normalizedMutationIntent) = true ∧
    isModest (.obj [("intent_digest", .str hex),
      ("lifecycle_locator", .int authorized.write.numericLocator),
      ("rollback_plan_version", .str authorized.write.rollbackPlanVersion),
      ("snapshot_digest", .str hex), ("target_fingerprint", .str hex),
      ("target_identity_digest", .str hex)]) = true := by decide +kernel

theorem deriveIdempotencyKey_authorized : deriveIdempotencyKey authorized.write.capability
    authorized.write.endpointSymbol authorized.write.httpMethod hex hex
    authorized.write.numericLocator hex hex authorized.write.rollbackPlanVersion = .ok hex :=
  digest_of_isModest isModest_write.2.2.2.2.2 .idempotency (by decide) (by decide)

theorem deriveIdempotency_authorized :
    authorized.write.deriveIdempotency = .ok ⟨hex, hex, hex, hex, hex⟩ := by
  obtain ⟨hintent, htarget, hprecondition, hsnapshot, -, -⟩ := isModest_write
  rw [PreparedWrite.deriveIdempotency,
    digest_of_isModest htarget _ (by decide) (by decide), ok_bind,
    digest_of_isModest hprecondition _ (by decide) (by decide), ok_bind,
    digest_of_isModest hintent _ (by decide) (by decide), ok_bind,
    digest_of_isModest hsnapshot _ (by decide) (by decide), ok_bind,
    deriveIdempotencyKey_authorized, ok_bind]

def contractId : String := "ntpsettings-00000000000000000000000000000001"

/-- An artifact for the contract. What is encrypted makes no difference. -/
def artifact (counter : ℕ) (role : ArtifactRole) : Except Error ProtectedArtifact := do
  let nonce ← buildNonce key.epoch counter
  encryptArtifact encrypt key.material key.keyId contractId role [] nonce

/-- The identifiers of the contract are valid, and its artifacts can be made. -/
theorem valid_parts : "ntpsettings" ++ "-" ++ "00000000000000000000000000000001" = contractId ∧
    isIdentifier contractId = true ∧
    isIdentifier ("ntpsettings" ++ "-op-" ++ "00000000000000000000000000000001") = true ∧
    isIdentifier authorized.write.endpointSymbol = true ∧
    isIdentifier authorized.write.rollbackPlanVersion = true ∧
    (artifact 1 .targetIdentity).isOk = true ∧ (artifact 2 .intent).isOk = true ∧
    (artifact 3 .snapshot).isOk = true := by decide

theorem exists_artifact {counter : ℕ} {role : ArtifactRole} {v : Json} (h : isModest v = true)
    (hartifact : (artifact counter role).isOk = true) :
    ∃ artifact, key.encrypt encrypt counter contractId role v = .ok artifact := by
  obtain ⟨data, hdata⟩ := canonicalJson_of_isModest h
  simp only [KeyRecord.encrypt, hdata, ok_bind]
  change ∃ sealed, artifact counter role = .ok sealed
  generalize artifact counter role = x at hartifact
  cases x with
  | error e => cases hartifact
  | ok sealed => exact ⟨sealed, rfl⟩

/-- The core makes a contract of the material. -/
theorem exists_contract : ∃ c, call.contractOf material = .ok c := by
  obtain ⟨-, htarget, -, hsnapshot, hmutation, -⟩ := isModest_write
  obtain ⟨hcontractId, hcontract, hoperation, hendpoint, hplan, htarget', hintent', hsnapshot'⟩ :=
    valid_parts
  obtain ⟨identity, hidentity⟩ := exists_artifact htarget htarget'
  obtain ⟨intent, hintent⟩ := exists_artifact hmutation hintent'
  obtain ⟨snapshot, hsnapshot⟩ := exists_artifact hsnapshot hsnapshot'
  have hwindow : ∀ p ∈ some provenance, midnight 2 (by decide) ≤ p.authorizationExpiresAt := by
    rintro p ⟨⟩
    exact Nat.le_of_not_lt window.2.1
  dsimp only [AuthorizeCall.contractOf, WriteExecutionCore.createContract, call, material]
  rw [hcontractId, deriveIdempotency_authorized, ok_bind, hidentity, ok_bind, hintent, ok_bind,
    hsnapshot, ok_bind]
  refine ⟨⟨_, ContractFields.postInit_eq_ok.mpr ⟨?_, ?_⟩⟩, RecoveryContract.ofFields_eq_ok.mpr rfl⟩
  · exact ⟨hcontract, hoperation, hendpoint, hplan, rfl, rfl, isHex64_hex, isHex64_hex,
      isHex64_hex, isHex64_hex, isHex64_hex, ⟨Int.le_refl 0, by show (0 : ℤ) ≤ 2147483647; decide⟩,
      window.2.2.1, hwindow, deriveIdempotencyKey_authorized⟩
  · exact ⟨fun _ h => absurd h (by simp), fun _ h => absurd h (by simp),
      ⟨fun _ => rfl, fun h => absurd h Bool.false_ne_true⟩, Int.le_refl 0,
      ⟨fun _ => rfl, fun _ => rfl⟩, fun _ h => absurd h (by simp)⟩

/-! ### The run of the sample -/

abbrev store : Store := Sample.plain

/-- An environment in which nothing fails. -/
def answers : Answers where
  clock := some (midnight 1 isDay_one)
  recordClock := some (midnight 1 isDay_one)
  cooldownClock := some (midnight 1 isDay_one)
  sqlite := none
  commit := none
  fault _ := none
  verdict := some true
  anchorRead := none
  anchorAdvance := .advanced 0
  executorClock := some (midnight 1 isDay_one)
  approval := .ok true
  settings := .ok (some false)
  target := .ok ()
  exchange := .timeout true

theorem fit : Fit store answers where
  sqlite := rfl
  commit := rfl
  fault _ := rfl
  clock := ⟨_, rfl⟩
  recordClock := ⟨_, rfl⟩
  cooldown _ limits hlimits _ := by cases hlimits

/-- The window of the contract of the material. -/
theorem fields_of_contractOf {c : RecoveryContract} (hc : call.contractOf material = .ok c) :
    c.createdAt = midnight 1 (by decide) ∧ c.expiresAt = midnight 2 (by decide) := by
  simp only [AuthorizeCall.contractOf, WriteExecutionCore.createContract, bind_eq_ok] at hc
  obtain ⟨_, -, _, -, _, -, _, -, hc⟩ := hc
  have hfields := RecoveryContract.ofFields_eq_ok.mp hc
  constructor
  · rw [hfields, material]
  · rw [hfields, material]

/-- The calls of the sample. -/
def calls : ℕ → CoreCall store
  | 0 => .authorizeAndCreate call
  | _ => .operation (.load "")

/-- The contract is created in a run, and prepared. -/
theorem reachable_call : ∃ (cfg : Config World Answers Error) (d : RecoveryContract)
    (pending : PendingExecution),
    (coreSystem store calls fun i _ _ => i = answers).Reachable cfg ∧
      Ends ((shared 0 fun i _ _ => i = answers).context store) (call.authorizeAndCreate store 0) {}
        (.ok pending) cfg.shared ∧
      cfg.shared.latest pending.contractId = some d ∧ d.state = prepared ∧
      d.expiresAt = midnight 2 (by decide) ∧ Binds authorized pending d ∧
      pending.provenance = provenance := by
  obtain ⟨c, hc⟩ := exists_contract
  have hfields := fields_of_contractOf hc
  have hwindow : ∀ t, answers.clock = some t → c.createdAt ≤ t ∧ c.isExpired t = false := by
    intro t ht
    cases ht
    rw [RecoveryContract.isExpired, hfields.1, hfields.2]
    exact ⟨Nat.le_refl _, decide_eq_false (Nat.not_le_of_lt window.2.2.1)⟩
  have hrate : store.ratePolicy = none := rfl
  have hconsumed : call.consumed = .ok true := rfl
  have hcalls : calls 0 = .authorizeAndCreate call := rfl
  obtain ⟨cfg, d, hreach, hd, hlatest, hends⟩ := reachable_authorized fit hrate gates_call
    deriveIdempotency_authorized material_call hconsumed hc hwindow hcalls
  have hbinds := (AuthorizeCall.binds_of_contractOf executionIntentDigest material_call hc).1
  have hid : d.contractId = c.contractId := by rw [hd]; rfl
  have hsame : c.SameIdentity d.toContractFields := by
    rw [hd]
    constructor <;> rfl
  refine ⟨cfg, d, ⟨d.contractId, material.prepared.write.executorIntent, material.provenance⟩,
    hreach, hends, hlatest, ?_, ?_, ?_, ?_⟩
  · rw [hd]
    rfl
  · rw [hd]
    exact hfields.2
  · rw [hid]
    exact hbinds.of_sameIdentity hsame
  · rfl

def resumption {server : String} (h : IsServer server) (contractId : String) (now : DateTime) :
    ResumeCall .ntpSettings where
  contractId := contractId
  isRequest := true
  now := some now
  fresh := .ok (preparation h)

/-- The server of an executor intent. -/
def serverOf : Unordered → Option String
  | .obj fields =>
    match fields "raw_target_hint" with
    | some (.obj target) =>
      match target "dnsresolv" with
      | some (.str server) => some server
      | _ => none
    | _ => none
  | _ => none

theorem serverOf_executorIntent {server : String} (h : IsServer server) :
    serverOf (preparation h).write.executorIntent.unordered = some server := by
  have hservers : serverOf (preparation isServer_composed).write.executorIntent.unordered =
      some composed ∧
      serverOf (preparation isServer_decomposed).write.executorIntent.unordered =
        some decomposed := by decide
  rcases h with rfl | rfl
  · exact hservers.1
  · exact hservers.2

theorem nfcIdempotent : Value.NfcIdempotent := by
  intro s
  change (if (if s = "n\u0303" then "\u00f1" else s) = "n\u0303" then "\u00f1"
    else (if s = "n\u0303" then "\u00f1" else s)) = if s = "n\u0303" then "\u00f1" else s
  split_ifs <;> rfl

/-- A resumption of a request whose answer is decomposed, while the contract is prepared. -/
theorem reconstruct_decomposed {pending : PendingExecution} {d : RecoveryContract}
    (hbinds : Binds authorized pending d) (hstate : d.state = prepared)
    (hexpires : d.expiresAt = midnight 2 (by decide))
    (hprovenance : pending.provenance = provenance) :
    (resumption isServer_decomposed pending.contractId
      (midnight 1 (by decide))).reconstruct (midnight 1 (by decide)) d =
        .ok ⟨d.contractId, (preparation isServer_decomposed).write.executorIntent,
          pending.provenance⟩ := by
  refine reconstruct_of_binds nfcIdempotent hbinds rfl rfl rfl rfl hstate ?_ ?_
  · rw [RecoveryContract.isExpired, hexpires]
    exact decide_eq_false (Nat.not_le_of_lt window.2.2.1)
  · rw [hprovenance]
    exact Nat.le_refl _

/-- A resumption before the authorization has been issued. -/
theorem reconstruct_early {pending : PendingExecution} {d : RecoveryContract}
    (hbinds : Binds authorized pending d) (hprovenance : pending.provenance = provenance) :
    (resumption isServer_composed pending.contractId newYear).reconstruct newYear d =
      .error denied := by
  have hearly : ¬(d.state = prepared ∧ provenance.authorizationIssuedAt ≤ newYear ∧
      newYear < provenance.authorizationExpiresAt ∧ d.isExpired newYear = false) :=
    fun h => absurd h.2.1 (Nat.not_le_of_lt window.2.2.2.1)
  rw [ResumeCall.reconstruct, hbinds.provenance]
  dsimp only
  rw [hprovenance, orDenied, demand, if_neg hearly]
  rfl

theorem unexpired {d : RecoveryContract} (hexpires : d.expiresAt = midnight 2 (by decide)) :
    d.isExpired (midnight 1 (by decide)) = false ∧ d.isExpired newYear = false := by
  rw [RecoveryContract.isExpired, RecoveryContract.isExpired, hexpires]
  exact ⟨decide_eq_false (Nat.not_le_of_lt window.2.2.1),
    decide_eq_false (Nat.not_le_of_lt window.2.2.2.2)⟩

/-- The executor intents of both answers have the same intent digest, of the same bytes. -/
theorem tellsApart : TellsApart (preparation isServer_decomposed).write.executorIntent
    authorized.write.executorIntent := by
  intro context m m' hm hm' _
  have halike := Preparation.alike_executorIntent (p := preparation isServer_decomposed)
    (q := authorized) nfcIdempotent rfl rfl
  rw [halike.digestMessage] at hm
  exact Except.ok.inj (hm.symm.trans hm')

end Composition

attribute [local instance] Composition.platform in
/-- Where the answer of the appliance spells a server in two ways, a resumption installs an executor
intent that is not the authorized one, though their digests are digests of the same bytes; and
before the time of the authorization, a prepared and unexpired contract is not resumed. -/
theorem exists_resumed_unequal : Value.NfcIdempotent ∧
    ∃ (cfg : Config World Answers Error) (pending : PendingExecution),
      (coreSystem Composition.store Composition.calls fun i _ _ =>
        i = Composition.answers).Reachable cfg ∧
      Ends ((shared 0 fun i _ _ => i = Composition.answers).context Composition.store)
        (Composition.call.authorizeAndCreate Composition.store 0) {} (.ok pending) cfg.shared ∧
      (∃ (r : ResumeCall .ntpSettings) (pending' : PendingExecution) (s' : World),
        r.contractId = pending.contractId ∧
        Ends ((shared 1 fun i _ _ => i = Composition.answers).context Composition.store)
          (r.resumePrepared Composition.store) cfg.shared (.ok pending') s' ∧
        TellsApart pending'.executorIntent pending.executorIntent ∧
        pending'.executorIntent.unordered ≠ pending.executorIntent.unordered) ∧
      ∃ (r : ResumeCall .ntpSettings) (now : DateTime) (c : RecoveryContract) (s' : World),
        r.contractId = pending.contractId ∧ r.isRequest = true ∧ r.now = some now ∧
        r.fresh = Composition.call.fresh ∧ cfg.shared.latest pending.contractId = some c ∧
        c.state = prepared ∧ c.isExpired now = false ∧
        Ends ((sparing 1 pending.contractId).context Composition.store)
          (r.resumePrepared Composition.store) cfg.shared (.error denied) s' := by
  obtain ⟨cfg, d, pending, hreach, hends, hlatest, hstate, hexpires, hbinds, hprovenance⟩ :=
    Composition.reachable_call
  obtain ⟨hs, -⟩ := coherent_of_coreSystem hreach
  have hid := hbinds.contractId
  rw [← hid] at hlatest
  refine ⟨Composition.nfcIdempotent, cfg, pending, hreach, hends, ?_, ?_⟩
  · obtain ⟨s', hresume⟩ := ends_resumePrepared
      (S := shared 1 fun i _ _ => i = Composition.answers) (i := Composition.answers)
      (r := Composition.resumption Composition.isServer_decomposed pending.contractId
        (Sample.midnight 1 (by decide))) (fun _ _ => rfl) rfl hs hlatest hid.symm rfl rfl
    rw [Composition.reconstruct_decomposed hbinds hstate hexpires hprovenance] at hresume
    refine ⟨_, _, s', rfl, hresume, ?_, ?_⟩
    · rw [hbinds.executorIntent]
      exact Composition.tellsApart
    · intro hequal
      have hserver := congrArg Composition.serverOf hequal
      rw [hbinds.executorIntent] at hserver
      have hdecomposed := Composition.serverOf_executorIntent Composition.isServer_decomposed
      have hcomposed := Composition.serverOf_executorIntent Composition.isServer_composed
      exact absurd (Option.some.inj ((hdecomposed.symm.trans hserver).trans hcomposed))
        (by decide)
  · obtain ⟨s', hresume⟩ := ends_resumePrepared (S := sparing 1 pending.contractId)
      (i := Composition.answers) (r := Composition.resumption Composition.isServer_composed
        pending.contractId Composition.newYear) (fun _ _ => rfl) rfl hs hlatest hid.symm
      rfl rfl
    rw [Composition.reconstruct_early hbinds hprovenance] at hresume
    exact ⟨_, _, d, s', rfl, rfl, rfl, rfl, hid ▸ hlatest, hstate,
      (Composition.unexpired hexpires).2, hresume⟩

attribute [local instance] Composition.platform in
/-- The theorem applies to the run of the sample. -/
theorem resumes_authorized_sample : ∃ (cfg : Config World Answers Error)
    (pending pending' : PendingExecution) (s' : World),
    (coreSystem Composition.store Composition.calls fun i _ _ =>
      i = Composition.answers).Reachable cfg ∧
    Ends ((shared 1 fun i _ _ => i = Composition.answers).context Composition.store)
      ((Composition.resumption Composition.isServer_decomposed pending.contractId
        (Sample.midnight 1 (by decide))).resumePrepared Composition.store) cfg.shared (.ok pending')
      s' ∧
    Resumed pending pending' := by
  obtain ⟨cfg, d, pending, hreach, hends, hlatest, hstate, hexpires, hbinds, hprovenance⟩ :=
    Composition.reachable_call
  obtain ⟨hs, -⟩ := coherent_of_coreSystem hreach
  have hid := hbinds.contractId
  rw [← hid] at hlatest
  have hstart : (coreSystem Composition.store Composition.calls fun i _ _ =>
    i = Composition.answers).Reachable (.start {}) := .start ⟨rfl, rfl⟩
  have h := resumes_authorized Composition.nfcIdempotent hstart hends hreach (List.prefix_refl _)
  obtain ⟨s', hresume⟩ := ends_resumePrepared
    (S := shared 1 fun i _ _ => i = Composition.answers) (i := Composition.answers)
    (r := Composition.resumption Composition.isServer_decomposed pending.contractId
      (Sample.midnight 1 (by decide))) (fun _ _ => rfl) rfl hs hlatest hid.symm rfl rfl
  rw [Composition.reconstruct_decomposed hbinds hstate hexpires hprovenance] at hresume
  exact ⟨cfg, pending, _, s', hreach, hresume, ((h.1 _ _).2 1 _ s' rfl hresume).1⟩

end Tier1
