import Mathlib.Data.Bool.AllAny
import PfsenseMcp.Posture.Plan
import PfsenseMcp.Tier1.SharedWitness

/-!
# Signer and runtime derive the same plan

A signer without access to the store plans from a signed export of the anchor state, the runtime
from the store itself. The states considered are those of a store that was provisioned through
`provision_anchor_baseline` and whose mark has been advanced any number of times.

## Main results

* `read_insertMarker`: the marker of a completed provisioning is read back;
* `export_iff_and_plan_agrees`: an export of such a state can be built exactly if the handle is a
  TPM handle, and an accepted export leads to the same plan digest.
-/

namespace Posture

open Python Concurrency Procedure Tier1

/-- Texts of ASCII characters are in normalisation form C. -/
def NfcKeepsAscii [Platform] : Prop :=
  ∀ s : String, (∀ c ∈ s.toList, c.toNat < 128) → Platform.nfc s = s

section Model

variable [Platform]

/-! ### The marker is read back -/

theorem eq_of_normalizedString {s u : String} (h : normalizedString s = .ok u) :
    u = Platform.nfc s := by
  simp only [normalizedString, fail] at h
  split_ifs at h
  exact (Except.ok.inj h).symm

theorem eq_of_normalize_str {depth nodes m : ℕ} {s : String} {v : Json}
    (h : normalize depth nodes (.str s) = .ok (v, m)) : v = .str (Platform.nfc s) := by
  simp only [Tier1.normalize, bind_eq_ok, Except.ok.injEq] at h
  obtain ⟨_, -, u, hu, heq⟩ := h
  rw [← (Prod.mk.inj heq).1, eq_of_normalizedString hu]

theorem eq_of_normalize_int {depth nodes m : ℕ} {n : ℤ} {v : Json}
    (h : normalize depth nodes (.int n) = .ok (v, m)) : v = .int n := by
  simp only [Tier1.normalize, bind_eq_ok, Except.ok.injEq] at h
  obtain ⟨_, -, _, -, heq⟩ := h
  exact (Prod.mk.inj heq).1.symm

/-- The normal form of a field, and of the fields after it. -/
theorem normalizeFields_cons_ok {depth nodes m : ℕ} {seen : List String} {key : String}
    {value : Json} {fields fs : List (String × Json)}
    (h : normalizeFields depth nodes seen ((key, value) :: fields) = .ok (fs, m)) :
    ∃ v rest n seen', normalize depth nodes value = .ok (v, n) ∧
      normalizeFields depth n seen' fields = .ok (rest, m) ∧
      fs = (Platform.nfc key, v) :: rest := by
  simp only [normalizeFields, bind_eq_ok, Except.ok.injEq, Prod.exists] at h
  obtain ⟨k, hk, -, -, v, n, hv, rest, m', hrest, heq⟩ := h
  obtain ⟨rfl, rfl⟩ := Prod.mk.inj heq
  rw [eq_of_normalizedString hk] at hrest ⊢
  exact ⟨v, rest, n, _, hv, hrest, rfl⟩

/-- The payload of a marker. -/
theorem canonicalJson_marker (hascii : NfcKeepsAscii) {handle time : String} {value : ℕ}
    {encoded : Bytes} (h : canonicalJson (.obj [("handle", .str handle),
      ("verified_value", .int value), ("provisioned_at", .str time)]) = .ok encoded) :
    encoded = Bytes.encodeUtf8 (Json.dumps false (.obj [("handle", .str (Platform.nfc handle)),
      ("provisioned_at", .str (Platform.nfc time)), ("verified_value", .int value)])) := by
  simp only [canonicalJson, bind_eq_ok, Except.ok.injEq, Prod.exists] at h
  obtain ⟨normalized, nodes, hnormalized, -, -, rfl⟩ := h
  rw [Tier1.normalize] at hnormalized
  simp only [bind_eq_ok, Except.ok.injEq, Prod.exists] at hnormalized
  obtain ⟨_, -, -, -, fields, m, hfields, heq⟩ := hnormalized
  obtain ⟨v₁, _, _, _, h₁, hrest₁, hfields₁⟩ := normalizeFields_cons_ok hfields
  obtain ⟨v₂, _, _, _, h₂, hrest₂, hfields₂⟩ := normalizeFields_cons_ok hrest₁
  obtain ⟨v₃, _, _, _, h₃, hrest₃, hfields₃⟩ := normalizeFields_cons_ok hrest₂
  simp only [normalizeFields, Except.ok.injEq, Prod.mk.injEq] at hrest₃
  rw [← (Prod.mk.inj heq).1, hfields₁, hfields₂, hfields₃, ← hrest₃.1, eq_of_normalize_str h₁,
    eq_of_normalize_int h₂, eq_of_normalize_str h₃,
    hascii "handle" (List.all_iff_forall_prop.mp (by decide)),
    hascii "verified_value" (List.all_iff_forall_prop.mp (by decide)),
    hascii "provisioned_at" (List.all_iff_forall_prop.mp (by decide))]
  have hsorted : Json.sortKeys (.obj [("handle", .str (Platform.nfc handle)),
      ("verified_value", .int value), ("provisioned_at", .str (Platform.nfc time))]) =
        .obj [("handle", .str (Platform.nfc handle)),
          ("provisioned_at", .str (Platform.nfc time)), ("verified_value", .int value)] := by
    have h₁ : Json.keyLt "provisioned_at" "verified_value" = true := by decide
    have h₂ : Json.keyLt "provisioned_at" "handle" = false := by decide
    simp only [Json.sortKeys, Json.sortFields, Json.insertField, h₁, h₂, if_true,
      Bool.false_eq_true, if_false]
  rw [hsorted]

/-- The marker of a completed provisioning is read back. -/
theorem read_insertMarker (hascii : NfcKeepsAscii) {identity : StoreIdentity} {handle : String}
    {value : ℕ} {time : DateTime} {db db' : Database}
    (h : ProvisioningRecord.insertMarker identity handle value time db = .ok db') :
    ProvisioningRecord.read identity db' =
      .ok (some (.str (Platform.nfc handle), .str (Platform.nfc time.isoformat))) := by
  simp only [ProvisioningRecord.insertMarker, bind_eq_ok] at h
  obtain ⟨encoded, hencoded, code, hcode, h⟩ := h
  have hpayload := canonicalJson_marker hascii hencoded
  rw [hpayload, Bytes.decodeUtf8_encodeUtf8, Option.getD_some] at h hcode
  have hhex : isHex64 code = true := isHex64_of_authenticate hcode
  have hplain : Json.plain (.obj [("handle", .str (Platform.nfc handle)),
      ("provisioned_at", .str (Platform.nfc time.isoformat)), ("verified_value", .int value)]) =
        true := rfl
  have hdistinct : Json.Distinct (.obj [("handle", .str (Platform.nfc handle)),
      ("provisioned_at", .str (Platform.nfc time.isoformat)), ("verified_value", .int value)]) :=
    ⟨by simp, trivial, trivial, trivial, trivial⟩
  have hselect : db'.selectAnchor ProvisioningRecord.key = some ⟨ProvisioningRecord.key,
      Json.dumps false (.obj [("handle", .str (Platform.nfc handle)),
        ("provisioned_at", .str (Platform.nfc time.isoformat)), ("verified_value", .int value)]),
      code⟩ := by
    split at h
    · rename_i db'' hdb
      cases h
      unfold Database.insertAnchor Database.constraintFailed fail at hdb
      split_ifs at hdb with hfree
      cases hdb
      rw [Bool.not_eq_true, List.any_eq_false] at hfree
      rw [Database.selectAnchor, List.find?_append, List.find?_eq_none.mpr hfree]
      simp
    · cases h
  rw [ProvisioningRecord.read, hselect]
  dsimp only
  rw [hcode, ok_bind, compareDigest_of_isHex64 hhex hhex, beq_self_eq_true, ok_bind,
    demand_of rfl, ok_bind, Json.parse_dumps false hplain hdistinct]
  rfl

/-! ### The states of a provisioned store -/

/-- What becomes of the tables of a provisioned store: its mark is advanced, or the tables change
and `anchor_state` does not. -/
inductive Advanced (store : StoreIdentity) (db : Database) : Database → Prop
  | provisioned : Advanced store db db
  | advance {db' db'' : Database} {α : Type} {anchor : AntiRollbackAnchor α} {w w' : α}
      (h : Advanced store db db')
      (hadvance : HighWaterMark.beforeExecutingTransition store anchor db' w = (.ok db'', w')) :
      Advanced store db db''
  | other {db' db'' : Database} (h : Advanced store db db')
      (hsame : db''.anchorState = db'.anchorState) : Advanced store db db''

/-- An advance keeps the marker, and leaves a readable mark. -/
theorem persist_keeps {store : StoreIdentity} {value : ℕ} {db db' : Database}
    (h : HighWaterMark.persist store value db = .ok db') :
    db'.selectAnchor ProvisioningRecord.key = db.selectAnchor ProvisioningRecord.key ∧
      HighWaterMark.isSeeded db' = true ∧ HighWaterMark.read store db' = .ok value := by
  have hother : ProvisioningRecord.key ≠ HighWaterMark.key := by decide
  have hread := HighWaterMark.read_persist h
  simp only [HighWaterMark.persist, HighWaterMark.row, bind_eq_ok, Except.ok.injEq] at h
  obtain ⟨_, ⟨text, -, code, -, rfl⟩, rfl⟩ := h
  refine ⟨HighWaterMark.selectAnchor_upsertAnchor_of_ne _ _ hother, ?_, hread⟩
  have hrow := HighWaterMark.selectAnchor_upsertAnchor db ⟨HighWaterMark.key, text, code⟩
  rw [HighWaterMark.isSeeded, hrow]
  rfl

/-- Every state has the marker of the provisioning and a readable mark. -/
theorem Advanced.keeps {store : StoreIdentity} {db db' : Database} (h : Advanced store db db')
    (hseeded : HighWaterMark.isSeeded db = true)
    (hread : ∃ mark, HighWaterMark.read store db = .ok mark) :
    db'.selectAnchor ProvisioningRecord.key = db.selectAnchor ProvisioningRecord.key ∧
      HighWaterMark.isSeeded db' = true ∧ ∃ mark, HighWaterMark.read store db' = .ok mark := by
  induction h with
  | provisioned => exact ⟨rfl, hseeded, hread⟩
  | advance _ hadvance ih =>
    obtain ⟨_, _, advanced, -, -, -, hpersist⟩ :=
      HighWaterMark.beforeExecutingTransition_ok hadvance
    obtain ⟨hmarker, hseeded', hread'⟩ := persist_keeps hpersist
    exact ⟨hmarker.trans ih.1, hseeded', advanced, hread'⟩
  | other _ hsame ih =>
    have hselect (key : String) : Database.selectAnchor _ key = Database.selectAnchor _ key :=
      congrArg (fun rows => rows.find? fun row => row.key = key) hsame
    refine ⟨(hselect _).trans ih.1, ?_, ?_⟩
    · rw [HighWaterMark.isSeeded, hselect]
      exact ih.2.1
    · simpa only [HighWaterMark.read, hselect] using ih.2.2

/-- The store behind a configuration, as `read_only_anchor_provisioning_status` opens it. -/
structure Opens (config : ProductionStore) (store : StoreIdentity) (db : Database) : Prop where
  pathExists : config.pathExists = true
  identity : config.identity = .ok store
  connection : config.connection = .ok db

/-- What `read_only_anchor_provisioning_status` says of a store that was provisioned. -/
theorem status_of_advanced (hascii : NfcKeepsAscii) {str : Json → String}
    (hstr : ∀ s, str (.str s) = s) {store : Store} {value : ℤ} {handle : String}
    {inputs : ℕ → Answers} {s : World} {db : Database}
    (hprovisioned : ((store.provisionAnchorBaseline value handle).run inputs s).result = .ok ())
    (hadvanced : Advanced store.toStoreIdentity
      ((store.provisionAnchorBaseline value handle).run inputs s).state.db db) :
    ∃ (mark : ℕ) (time : DateTime), ∀ config, Opens config store.toStoreIdentity db →
      readOnlyAnchorProvisioningStatus str config =
        .ok ⟨true, some mark, true, some (Platform.nfc handle), some time.isoformat⟩ := by
  obtain ⟨-, -, before, mark₀, time, -, hseeded, hread, hmarker⟩ := provision_steps hprovisioned
  have hkept := selectAnchor_insertMarker hmarker
  obtain ⟨hselect, hseeded', mark, hread'⟩ := hadvanced.keeps
    (by rwa [HighWaterMark.isSeeded, hkept]) ⟨mark₀, by rwa [HighWaterMark.read, hkept]⟩
  have hrecord : ProvisioningRecord.read store.toStoreIdentity db =
      .ok (some (.str (Platform.nfc handle), .str time.isoformat)) := by
    have h := read_insertMarker hascii hmarker
    rw [hascii _ time.isoformat_ascii] at h
    rwa [ProvisioningRecord.read, hselect, ← ProvisioningRecord.read]
  refine ⟨mark, time, fun config hconfig => ?_⟩
  simp only [readOnlyAnchorProvisioningStatus, hconfig.identity, hconfig.connection, ok_bind,
    hseeded', if_true, hread', hrecord, Option.isSome_some, Option.map_some, hstr]

/-! ### Building an export -/

omit [Platform] in
/-- The constructor of an export checks the handle. -/
theorem isHandle_of_carries {e : AnchorEvidenceExport} {status : AnchorProvisioningStatus}
    {handle : String} (hcarries : Carries e status) (hhandle : status.handle = some handle) :
    isHandle handle = true := by
  have haccepted := e.accepted
  simp only [ExportFields.postInit, ExportPayloadFields.postInit, bind_eq_ok, demand_eq_ok]
    at haccepted
  obtain ⟨_, ⟨_, -, _, -, _, haccepted, -⟩, -⟩ := haccepted
  rwa [Option.some.inj (hhandle.symm.trans hcarries.handle)]

omit [Platform] in
/-- An export of what a store says can be built exactly if the handle is that of a TPM. -/
theorem exists_export_iff {store : StoreIdentity} {handle : String} {mark : ℕ} {time : DateTime} :
    (∃ e : AnchorEvidenceExport, e.storeId = store.storeId ∧
        Carries e ⟨true, some mark, true, some handle, some time.isoformat⟩) ↔
      isHandle handle = true := by
  constructor
  · rintro ⟨e, -, hcarries⟩
    exact isHandle_of_carries hcarries rfl
  · intro hhandle
    have hid : isIdentifier store.storeId = true := store.isIdentifier_storeId
    refine ⟨{
      schemaVersion := 1, storeId := store.storeId, handle := handle, baseline := mark
      provisionedAt := time.isoformat, issuedAt := Sample.midnight 1 (by decide)
      expiresAt := Sample.midnight 2 (by decide), authorityId := "a"
      proof := List.replicate 64 0, accepted := ?_ }, rfl, rfl, rfl, rfl⟩
    have hwindow : ¬Sample.midnight 2 (by decide) ≤ Sample.midnight 1 (by decide) := by decide
    have hauthority : isIdentifier "a" = true := by decide +kernel
    rw [ExportFields.postInit, ExportPayloadFields.postInit]
    simp only [hid, hhandle, hwindow, hauthority, time.isoformat_ne_empty, Int.natCast_nonneg,
      demand, List.length_replicate, ne_eq, not_false_eq_true, if_true, ok_bind]

/-! ### The digests -/

/-- The digest that the runtime computes over its store. -/
def storePlanDigest (str : Json → String) (env : DiscoveryEnvironment)
    (targetCapability : CapabilityPosture) (targetAnchor : AnchorAssurance) :
    Except Error String := do
  let plan ← generateSecurityPosturePlan str env targetCapability targetAnchor
  computePlanDigest plan

/-- The digest that the signer computes over an export. -/
def exportPlanDigest (e : AnchorEvidenceExport) (authorities : VerifySignature)
    (expectedStoreId : String) (now : DateTime) (env : DiscoveryEnvironment)
    (targetCapability : CapabilityPosture) (targetAnchor : AnchorAssurance) :
    Except Error String := do
  let capability ← env.capabilityPosture
  let anchor ← discoverAnchorAssuranceFromExport e authorities expectedStoreId now env
  let plan ← generateSecurityPosturePlanFromDiscovery ⟨capability, anchor⟩ targetCapability
    targetAnchor
  computePlanDigest plan

/-- The same discovery gives the same digest. -/
theorem exportPlanDigest_eq_ok {str : Json → String} {env : DiscoveryEnvironment}
    {e : AnchorEvidenceExport} {authorities : VerifySignature} {expectedStoreId : String}
    {now : DateTime} (h : discoverAnchorAssuranceFromExport e authorities expectedStoreId now env =
      discoverAnchorAssurance str env) (targetCapability : CapabilityPosture)
    (targetAnchor : AnchorAssurance) (digest : String) :
    exportPlanDigest e authorities expectedStoreId now env targetCapability targetAnchor =
        .ok digest ↔
      storePlanDigest str env targetCapability targetAnchor = .ok digest := by
  simp only [exportPlanDigest, storePlanDigest, generateSecurityPosturePlan,
    generateSecurityPosturePlanFromDiscovery, discoverSecurityPosture, h, bind_eq_ok,
    Except.ok.injEq]
  constructor
  · rintro ⟨capability, hcapability, anchor, hanchor, plan, ⟨_, htarget, rfl⟩, hdigest⟩
    exact ⟨_, ⟨_, htarget, _, ⟨capability, hcapability, anchor, hanchor, rfl⟩, rfl⟩, hdigest⟩
  · rintro ⟨plan, ⟨_, htarget, _, ⟨capability, hcapability, anchor, hanchor, rfl⟩, rfl⟩, hdigest⟩
    exact ⟨capability, hcapability, anchor, hanchor, _, ⟨_, htarget, rfl⟩, hdigest⟩

end Model

/-! ### Main theorem -/

/-- What a signer can do with a state of a provisioned store: it can be exported exactly if its
handle is that of a TPM, and an accepted export gives the digest that the store gives. -/
structure SignerAgrees [Platform] (str : Json → String) (store : StoreIdentity) (handle : String)
    (db : Database) (status : AnchorProvisioningStatus) : Prop where
  read : ∀ config, Opens config store db →
    readOnlyAnchorProvisioningStatus str config = .ok status
  provisioned : status.seeded = true ∧ status.complete = true
  statusHandle : status.handle = some (Platform.nfc handle)
  export_iff : (∃ e : AnchorEvidenceExport, e.storeId = store.storeId ∧ Carries e status) ↔
    isHandle (Platform.nfc handle) = true
  agrees : ∀ (e : AnchorEvidenceExport) (authorities : VerifySignature) (expectedStoreId : String)
    (now : DateTime) (env : DiscoveryEnvironment) (config : ProductionStore)
    (targetCapability : CapabilityPosture) (targetAnchor : AnchorAssurance) (digest : String),
    Carries e status → Admissible e authorities expectedStoreId now →
    env.storeConfig = .ok (some config) → Opens config store db →
    (exportPlanDigest e authorities expectedStoreId now env targetCapability targetAnchor =
        .ok digest ↔
      storePlanDigest str env targetCapability targetAnchor = .ok digest)

/-- For every state of a store that was provisioned and advanced, an export of its status can be
built exactly if the handle is that of a TPM; and whatever the environment, the witness and the
target, an accepted export of it leads to the digest that the store leads to. -/
theorem export_iff_and_plan_agrees [Platform] (hascii : NfcKeepsAscii) {str : Json → String}
    (hstr : ∀ s, str (.str s) = s) {store : Store} {value : ℤ} {handle : String}
    {inputs : ℕ → Answers} {s : World} {db : Database}
    (hprovisioned : ((store.provisionAnchorBaseline value handle).run inputs s).result = .ok ())
    (hadvanced : Advanced store.toStoreIdentity
      ((store.provisionAnchorBaseline value handle).run inputs s).state.db db) :
    ∃ status, SignerAgrees str store.toStoreIdentity handle db status := by
  obtain ⟨mark, time, hread⟩ := status_of_advanced hascii hstr hprovisioned hadvanced
  refine ⟨_, hread, ⟨rfl, rfl⟩, rfl, exists_export_iff, ?_⟩
  intro e authorities expectedStoreId now env config targetCapability targetAnchor digest hcarries
    hadmissible henv hconfig
  apply exportPlanDigest_eq_ok
  exact discoverAnchorAssuranceFromExport_eq
    ⟨henv, hconfig.pathExists, hread config hconfig⟩ rfl rfl hcarries hadmissible

section Sample

attribute [local instance] Sample.platform

/-- `str` of a JSON text, and of other values as far as `json.dumps` writes them alike. -/
def strOfJson : Json → String
  | .str s => s
  | value => Json.dumps true value

theorem provisionAnchorBaseline_tpm :
    (((SharedPair.store .aliasDescription).provisionAnchorBaseline (0 : ℕ) "0x01c00002").run
      (fun _ => SharedPair.answers) {}).result = .ok () := by
  decide +kernel

theorem provisionAnchorBaseline_sevenDigits :
    (((SharedPair.store .aliasDescription).provisionAnchorBaseline (0 : ℕ) "0x1c00002").run
      (fun _ => SharedPair.answers) {}).result = .ok () := by
  decide +kernel

/-- A store provisioned with the handle of a TPM index. -/
theorem export_iff_and_plan_agrees_sample :
    ∃ status, SignerAgrees strOfJson (SharedPair.store .aliasDescription).toStoreIdentity
      "0x01c00002"
      (((SharedPair.store .aliasDescription).provisionAnchorBaseline (0 : ℕ) "0x01c00002").run
        (fun _ => SharedPair.answers) {}).state.db status :=
  export_iff_and_plan_agrees (fun _ _ => rfl) (fun _ => rfl) provisionAnchorBaseline_tpm
    .provisioned

/-- A handle of seven digits is accepted by the store, and by no export. -/
theorem not_exists_export_sevenDigits :
    (((SharedPair.store .aliasDescription).provisionAnchorBaseline (0 : ℕ) "0x1c00002").run
        (fun _ => SharedPair.answers) {}).result = .ok () ∧
      ∃ status, (∀ config, Opens config (SharedPair.store .aliasDescription).toStoreIdentity
        (((SharedPair.store .aliasDescription).provisionAnchorBaseline (0 : ℕ) "0x1c00002").run
          (fun _ => SharedPair.answers) {}).state.db →
          readOnlyAnchorProvisioningStatus strOfJson config = .ok status) ∧
        status.seeded = true ∧ status.complete = true ∧
        ¬∃ e : AnchorEvidenceExport, Carries e status := by
  have hstr : ∀ s, strOfJson (.str s) = s := fun _ => rfl
  obtain ⟨mark, time, hread⟩ :=
    status_of_advanced (fun _ _ => rfl) hstr provisionAnchorBaseline_sevenDigits .provisioned
  refine ⟨provisionAnchorBaseline_sevenDigits, _, hread, rfl, rfl, ?_⟩
  rintro ⟨e, hcarries⟩
  exact absurd (isHandle_of_carries hcarries rfl) (by decide)

end Sample

end Posture
