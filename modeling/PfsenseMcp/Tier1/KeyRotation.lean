import Mathlib.Data.Nat.Notation
import PfsenseMcp.Tier1.ExecutionCore
import PfsenseMcp.Tier1.Fleet

/-!
# Rotating the encryption key

`rotate_key` of `tier1/key_lifecycle.py` with the callbacks it is given: `decrypt` sees an artifact
only, and `encrypt` sees a plaintext and a fresh nonce. The codec of `tier1/crypto.py` binds every
artifact to its contract and its role, which neither callback is told.

## Main results

* `decryptArtifact_inj`: with an ideal AEAD an artifact opens for one contract and one role;
* `not_keepsUsable`: no callbacks keep the contracts of every store usable.
-/

namespace Tier1

open Python Concurrency Procedure RecoveryState

section Model

variable [Platform]

/-! ### An ideal AEAD -/

/-- `AESGCM` as an ideal AEAD with associated data: what was sealed opens, nothing else does, and
it does not open under other associated data. -/
structure IdealAead (aesGcmEncrypt : (key nonce data associatedData : Bytes) → Bytes) : Prop where
  opens : ∀ {key nonce : Bytes} (data associatedData : Bytes), key.length = 32 →
    nonce.length = 12 → Platform.aesGcmDecrypt key nonce
      (aesGcmEncrypt key nonce data associatedData) associatedData = some data
  authentic : ∀ {key nonce sealedData associatedData data : Bytes}, key.length = 32 →
    nonce.length = 12 → Platform.aesGcmDecrypt key nonce sealedData associatedData = some data →
      sealedData = aesGcmEncrypt key nonce data associatedData
  bound : ∀ {key nonce : Bytes} (data : Bytes) {associatedData other : Bytes}, key.length = 32 →
    nonce.length = 12 → associatedData ≠ other → Platform.aesGcmDecrypt key nonce
      (aesGcmEncrypt key nonce data associatedData) other = none

section Artifacts

variable {aesGcmEncrypt : (key nonce data associatedData : Bytes) → Bytes} {key : Bytes}
  {artifact : ProtectedArtifact} {contractId contractId' : String} {role role' : ArtifactRole}
  {data plaintext plaintext' : Bytes}

omit [Platform] in
theorem frames_of_frameContext {parts : List String} {framed : Bytes}
    (h : frameContext parts = .ok framed) :
    Bytes.frames (parts.map Bytes.encodeUtf8) = some framed := by
  induction parts generalizing framed with
  | nil =>
    cases h
    rfl
  | cons part parts ih =>
    simp only [frameContext, bind_eq_ok] at h
    obtain ⟨head, hhead, rest, hrest, h⟩ := h
    cases h
    simp only [List.map_cons, Bytes.frames, frameStr_eq_ok hhead, ih hrest, Option.bind_eq_bind,
      Option.bind_some, Option.pure_def]

omit [Platform] in
theorem ArtifactRole.value_injective (h : role.value = role'.value) : role = role' := by
  cases role <;> cases role' <;> first | rfl | exact absurd h (by decide)

omit [Platform] in
/-- The associated data say which contract and which role they are made for. -/
theorem associatedData_inj (h : associatedData contractId role = .ok data)
    (h' : associatedData contractId' role' = .ok data) :
    contractId = contractId' ∧ role = role' := by
  have hparts := Bytes.frames_inj (frames_of_frameContext h) (frames_of_frameContext h')
  simp only [List.map_cons, List.map_nil, List.cons.injEq, and_true, true_and] at hparts
  exact ⟨Bytes.encodeUtf8_injective hparts.1,
    ArtifactRole.value_injective (Bytes.encodeUtf8_injective hparts.2)⟩

theorem decryptArtifact_ok (h : decryptArtifact key artifact contractId role = .ok plaintext) :
    key.length = 32 ∧ (artifact.ciphertext.take 12).length = 12 ∧
      ∃ data, associatedData contractId role = .ok data ∧
        Platform.aesGcmDecrypt key (artifact.ciphertext.take 12) (artifact.ciphertext.drop 12)
          data = some plaintext := by
  simp only [decryptArtifact, bind_eq_ok, demand_eq_ok] at h
  obtain ⟨_, hkey, _, -, _, hlength, data, hdata, h⟩ := h
  refine ⟨hkey, by rw [List.length_take]; omega, data, hdata, ?_⟩
  split at h
  · rename_i hopen
    cases h
    exact hopen
  · cases h

/-- An artifact opens for one contract and one role only. -/
theorem decryptArtifact_inj (ideal : IdealAead aesGcmEncrypt)
    (h : decryptArtifact key artifact contractId role = .ok plaintext)
    (h' : decryptArtifact key artifact contractId' role' = .ok plaintext') :
    contractId = contractId' ∧ role = role' := by
  obtain ⟨hkey, hnonce, data, hdata, hopen⟩ := decryptArtifact_ok h
  obtain ⟨-, -, data', hdata', hopen'⟩ := decryptArtifact_ok h'
  have hsame : data = data' := by
    by_contra hne
    rw [ideal.authentic hkey hnonce hopen, ideal.bound plaintext hkey hnonce hne] at hopen'
    cases hopen'
  subst hsame
  exact associatedData_inj hdata hdata'

theorem decryptArtifact_of_decrypt {contract : RecoveryContract} {value : Json}
    (h : decrypt key contract artifact role = .ok value) :
    ∃ plaintext, decryptArtifact key artifact contract.contractId role = .ok plaintext := by
  simp only [decrypt, bind_eq_ok] at h
  obtain ⟨plaintext, hplaintext, -⟩ := h
  exact ⟨plaintext, hplaintext⟩

end Artifacts

/-! ### The callbacks -/

/-- The callbacks of `rotate_key`: `RotationDecrypt`, and `RotationEncrypt` with the fresh nonce
that it takes from the counter of the new key. -/
structure RotationCallbacks where
  decrypt : ProtectedArtifact → Except Error Bytes
  encrypt : (plaintext nonce : Bytes) → Except Error ProtectedArtifact

namespace RotationCallbacks

/-- `encrypt(decrypt(artifact))`, where the counter of the new key issues `counter`. -/
def renew (callbacks : RotationCallbacks) (epoch counter : ℕ) (artifact : ProtectedArtifact) :
    Except Error ProtectedArtifact := do
  let plaintext ← callbacks.decrypt artifact
  let nonce ← buildNonce epoch counter
  callbacks.encrypt plaintext nonce

/-- What the callbacks make of the `n`-th contract of a run that finds the counter at `counter`. -/
def reencrypt (callbacks : RotationCallbacks) (epoch counter n : ℕ) (contract : RecoveryContract) :
    Except Error (ProtectedArtifact × ProtectedArtifact × ProtectedArtifact) := do
  let identity ← callbacks.renew epoch (counter + 3 * n + 1) contract.protectedTargetIdentity
  let intent ← callbacks.renew epoch (counter + 3 * n + 2) contract.protectedIntent
  let snapshot ← callbacks.renew epoch (counter + 3 * n + 3) contract.protectedSnapshot
  .ok (identity, intent, snapshot)

/-- A run of `rotate_key` to `newKey`. -/
def rotation (callbacks : RotationCallbacks) (store : Store) (newKey : KeyRecord)
    (call counter : ℕ) : Op Unit :=
  store.rotateKey call newKey.keyId (callbacks.reencrypt newKey.epoch counter)

end RotationCallbacks

/-- The artifacts of a contract are those that a core with the given key has written. -/
def Written (aesGcmEncrypt : (key nonce data associatedData : Bytes) → Bytes) (key : KeyRecord)
    (c : RecoveryContract) : Prop :=
  ∃ (core : WriteExecutionCore) (prepared : PreparedWrite) (createdAt expiresAt : DateTime)
    (provenance : AuthorizationProvenance) (uuid operationUuid : String) (counter : ℕ)
    (d : RecoveryContract), core.encryptionKey = key ∧ isUuidHex uuid = true ∧
      isUuidHex operationUuid = true ∧ core.createContract aesGcmEncrypt prepared createdAt
        expiresAt provenance uuid operationUuid counter = .ok d ∧
      c.contractId = d.contractId ∧ c.protectedTargetIdentity = d.protectedTargetIdentity ∧
      c.protectedIntent = d.protectedIntent ∧ c.protectedSnapshot = d.protectedSnapshot

/-- The contracts of a world. -/
def World.contracts (s : World) : List RecoveryContract := contractsOf (commitsOf s.trace)

/-- Runs of `rotate_key` one after the other, each with nonces that none before it has used. All
but the last are interrupted, and the last one returns. -/
inductive Rotations (callbacks : RotationCallbacks) (store : Store) (newKey : KeyRecord) :
    ℕ → World → World → Prop
  | completed {counter : ℕ} {s : World} (call : ℕ) (inputs : ℕ → Answers)
      (h : ((callbacks.rotation store newKey call counter).run inputs s).result = .ok ()) :
      Rotations callbacks store newKey counter s
        ((callbacks.rotation store newKey call counter).run inputs s).state
  | interrupted {counter counter' : ℕ} {s s' : World} (call : ℕ) (inputs : ℕ → Answers) (steps : ℕ)
      (fresh : counter + 3 * s.contracts.length ≤ counter')
      (h : Rotations callbacks store newKey counter'
        ((callbacks.rotation store newKey call counter).runFor steps inputs s).2 s') :
      Rotations callbacks store newKey counter s s'

/-- An artifact holds under a key what another one holds under another key. -/
def SamePlaintext (key key' : KeyRecord) (c d : RecoveryContract)
    (artifact artifact' : ProtectedArtifact) (role : ArtifactRole) : Prop :=
  ∃ value, decrypt key.material c artifact role = .ok value ∧
    decrypt key'.material d artifact' role = .ok value

/-- `d` is `c` after one rotation of its artifacts, which hold what they held. -/
structure Rotated (oldKey newKey : KeyRecord) (c d : RecoveryContract) : Prop where
  fields : ∃ identity intent snapshot, d.toContractFields = Store.rotated c identity intent snapshot
  identity : SamePlaintext oldKey newKey c d c.protectedTargetIdentity d.protectedTargetIdentity
    .targetIdentity
  intent : SamePlaintext oldKey newKey c d c.protectedIntent d.protectedIntent .intent
  snapshot : SamePlaintext oldKey newKey c d c.protectedSnapshot d.protectedSnapshot .snapshot

/-- With the callbacks, key rotation keeps every contract usable, in every store that the cores
have written. -/
structure KeepsUsable (aesGcmEncrypt : (key nonce data associatedData : Bytes) → Bytes)
    (oldKey newKey : KeyRecord) (callbacks : RotationCallbacks) : Prop where
  /-- `decrypt` returns the plaintext. -/
  decrypts : ∀ contractId role plaintext nonce artifact,
    encryptArtifact aesGcmEncrypt oldKey.material oldKey.keyId contractId role plaintext nonce =
      .ok artifact → callbacks.decrypt artifact = .ok plaintext
  /-- A run that nothing disturbs returns. -/
  completes : ∀ (store : Store) ops permit cfg, (system store ops permit).Reachable cfg →
    (∀ c ∈ cfg.shared.contracts, Written aesGcmEncrypt oldKey c ∧ c.stateVersion + 1 < 2 ^ 63) →
    ∀ call counter i, cfg.next ≤ call → Fit store i →
      counter + 3 * cfg.shared.contracts.length ≤ maxNonceCounter →
      ((callbacks.rotation store newKey call counter).run (fun _ => i) cfg.shared).result = .ok ()
  /-- After a run that returns, every contract has been rotated once and holds what it held. -/
  usable : ∀ (store : Store) ops permit cfg, (system store ops permit).Reachable cfg →
    (∀ c ∈ cfg.shared.contracts, Written aesGcmEncrypt oldKey c) →
    ∀ counter s', Rotations callbacks store newKey counter cfg.shared s' →
      ∀ c ∈ cfg.shared.contracts, ∃ d, s'.latest c.contractId = some d ∧ Rotated oldKey newKey c d

/-! ### A rotation of one contract -/

section Run

variable {store : Store} {i : Answers} {s : World} {c : RecoveryContract} {call : ℕ}

/-- `all_contracts` finds the contract. -/
theorem allContracts_alone (hfit : Fit store i) (hcs : Holding store s [c])
    {post : Except Error (List RecoveryContract) → World → Prop}
    (h : ∀ s', Coherent store s' → Quiet s s' → post (.ok [c]) s') :
    wp ((alone call fun j _ _ => j = i).context store) store.allContracts post s := by
  refine (wp_bind _ _ _ _).mpr (wp_query_live (Setting.Live.readable (live_alone hfit)) fun s₁ hs₁ h₁ => ⟨_, rfl, ?_⟩)
  have hcontracts : contractsOf (commitsOf s₁.trace) = [c] := by
    rw [h₁.trace]
    exact hcs.contracts
  have hmem : c ∈ contractsOf (commitsOf s₁.trace) := by
    rw [hcontracts]
    exact List.mem_singleton_self c
  have hrows : s₁.db.selectAllContracts = [store.rowOf c] := by
    rw [Database.selectAllContracts, hs₁.represents.contracts, hcontracts, List.map_singleton,
      List.mergeSort_singleton]
  have hdecode : store.decodeRows s₁.db.selectAllContracts = .ok [c] := by
    rw [hrows]
    simp only [Store.decodeRows, Store.decodeRow_rowOf (hs₁.represents.codes c hmem), ok_bind]
  refine wp_pass hdecode ?_
  refine (wp_bind _ _ _ _).mpr ((wp_bind _ _ _ _).mpr ?_)
  exact verifyRelatedState_live (Setting.Live.readable (live_alone hfit)) steady_alone hs₁
    ((mem_contractsOf hs₁.commits).mp hmem) fun s₂ hs₂ h₂ _ => h s₂ hs₂ (h₁.trans h₂)

/-- `rotate_key` replaces the artifacts of the contract by what the callbacks make of them, or
raises what they raise. -/
theorem rotateKey_alone (hfit : Fit store i) (hcs : Holding store s [c])
    (hversion : c.stateVersion + 1 < 2 ^ 63) (hunsent : Unsent call s) {newKeyId : String}
    (hold : c.protectedIntent.keyId ≠ newKeyId) {reencrypt : ℕ → RecoveryContract →
      Except Error (ProtectedArtifact × ProtectedArtifact × ProtectedArtifact)}
    {post : Except Error Unit → World → Prop}
    (herr : ∀ e s', reencrypt 0 c = .error e → post (.error e) s')
    (hok : ∀ artifacts s' d, reencrypt 0 c = .ok artifacts → s'.latest c.contractId = some d →
      d.toContractFields = Store.rotated c artifacts.1 artifacts.2.1 artifacts.2.2 →
      post (.ok ()) s') :
    wp ((alone call fun j _ _ => j = i).context store) (store.rotateKey call newKeyId reencrypt)
      post s := by
  refine (wp_bind _ _ _ _).mpr (allContracts_alone hfit hcs fun s₁ hs₁ h₁ => ?_)
  have hlatest : s₁.latest c.contractId = some c :=
    (h₁.latest c.contractId).trans (hcs.latest (List.mem_singleton_self c))
  rw [andThen_ok, Store.rotateEach, if_neg hold]
  cases hartifacts : reencrypt 0 c with
  | error e => exact herr e _ hartifacts
  | ok artifacts =>
    refine wp_pass rfl ((wp_bind _ _ _ _).mpr ?_)
    refine rotateArtifacts_live (live_alone hfit) steady_alone hs₁ hlatest hversion
      (hunsent.of_rely (S := alone call fun j _ _ => j = i) h₁) fun s' k hcommits hbefore hfields => ?_
    have hlatest' := hcommits.latest
    rw [show k.after.contractId = c.contractId by rw [hfields]; rfl] at hlatest'
    exact hok artifacts s' k.after hartifacts hlatest' hfields

end Run

/-! ### No callbacks suffice -/

section Impossible

variable {aesGcmEncrypt : (key nonce data associatedData : Bytes) → Bytes}
  {oldKey newKey : KeyRecord} {callbacks : RotationCallbacks}

/-- A store without anchor and rate policy. -/
def plainStore : Store where
  integrityKey := List.replicate 32 0
  storeId := "store-1"
  integrityKey_length := Sample.integrityKey_length
  isIdentifier_storeId := Sample.isIdentifier_store
  hasConfirmationVerifier := false
  hasReconciliationVerifier := false
  hasAnchor := false
  ratePolicy := none

/-- An environment in which nothing fails, at the given time. -/
def calmAnswers (now : DateTime) : Answers where
  clock := some now
  recordClock := some now
  cooldownClock := some now
  sqlite := none
  commit := none
  fault _ := none
  verdict := none
  anchorRead := none
  anchorAdvance := .advanced 0
  executorClock := some now
  approval := .ok true
  settings := .ok (some false)
  target := fail .transportTimeout ""
  exchange := .timeout false

theorem fit_calmAnswers (now : DateTime) : Fit plainStore (calmAnswers now) where
  sqlite := rfl
  commit := rfl
  fault _ := rfl
  clock := ⟨now, rfl⟩
  recordClock := ⟨now, rfl⟩
  cooldown _ _ hlimits := absurd hlimits nofun

omit [Platform] in
theorem keyId_of_encryptArtifact {key : Bytes} {keyId contractId : String} {role : ArtifactRole}
    {plaintext nonce : Bytes} {artifact : ProtectedArtifact}
    (h : encryptArtifact aesGcmEncrypt key keyId contractId role plaintext nonce = .ok artifact) :
    artifact.keyId = keyId := by
  simp only [encryptArtifact, bind_eq_ok] at h
  obtain ⟨_, -, _, -, _, -, h⟩ := h
  unfold ProtectedArtifact.new at h
  split at h
  · cases h
    rfl
  · cases h

/-- The contract that a core makes, by what the rotation needs of it. -/
theorem createContract_ok {core : WriteExecutionCore} {prepared : PreparedWrite}
    {createdAt expiresAt : DateTime} {provenance : AuthorizationProvenance}
    {uuid operationUuid : String} {counter : ℕ} {c : RecoveryContract}
    (h : core.createContract aesGcmEncrypt prepared createdAt expiresAt provenance uuid
      operationUuid counter = .ok c) :
    c.state = preparing ∧ c.stateVersion = 0 ∧ c.isConfirmed = false ∧
      c.authorizationProvenance.isSome = true ∧
      c.protectedIntent.keyId = core.encryptionKey.keyId ∧
      ∃ nonce plaintext, canonicalJson prepared.resourceTarget = .ok plaintext ∧
        encryptArtifact aesGcmEncrypt core.encryptionKey.material core.encryptionKey.keyId
          c.contractId .targetIdentity plaintext nonce = .ok c.protectedTargetIdentity := by
  simp only [WriteExecutionCore.createContract, bind_eq_ok] at h
  obtain ⟨derived, -, identity, hidentity, intent, hintent, snapshot, -, h⟩ := h
  have hfields := RecoveryContract.ofFields_eq_ok.mp h
  simp only [KeyRecord.encrypt, bind_eq_ok] at hidentity hintent
  obtain ⟨nonce, -, plaintext, hplaintext, hidentity⟩ := hidentity
  obtain ⟨_, -, _, -, hintent⟩ := hintent
  rw [RecoveryContract.isConfirmed, hfields]
  exact ⟨rfl, rfl, rfl, rfl, keyId_of_encryptArtifact hintent, nonce, plaintext, hplaintext,
    hidentity⟩

theorem contractId_of_createContract {core : WriteExecutionCore} {prepared : PreparedWrite}
    {createdAt expiresAt : DateTime} {provenance : AuthorizationProvenance}
    {uuid operationUuid : String} {counter : ℕ} {c : RecoveryContract}
    (h : core.createContract aesGcmEncrypt prepared createdAt expiresAt provenance uuid
      operationUuid counter = .ok c) : c.contractId = core.contractIdPrefix ++ "-" ++ uuid := by
  simp only [WriteExecutionCore.createContract, bind_eq_ok] at h
  obtain ⟨_, -, _, -, _, -, _, -, h⟩ := h
  rw [RecoveryContract.ofFields_eq_ok.mp h]

/-- A run that creates the contract. -/
theorem exists_single {c : RecoveryContract} (isPreparing : c.state = preparing)
    (isFirst : c.stateVersion = 0) (unconfirmed : c.isConfirmed = false)
    (hauthorized : c.authorizationProvenance.isSome = true) :
    ∃ cfg, (system plainStore (fun _ => .createAuthorized c) fun _ _ _ => True).Reachable cfg ∧
      Holding plainStore cfg.shared [c] := by
  have hstart : (system plainStore (fun _ => .createAuthorized c) fun _ _ _ => True).Reachable
      (.start {}) := .start ⟨rfl, rfl⟩
  have hnone : Holding plainStore ({} : World) [] := ⟨coherent_of_reachable hstart, rfl⟩
  have hcode : Operation.code 0 (.createAuthorized c : Operation plainStore) =
      plainStore.create 0 c := by
    show Op.check (demand _ _ _) >>= _ = _
    rw [demand_of hauthorized]
    rfl
  have hwindow : c.createdAt < c.expiresAt :=
    (ContractFields.postInit_eq_ok.mp c.valid).1.window
  obtain ⟨cfg, hreach, -, hone, -⟩ := exists_created (i := calmAnswers c.createdAt) (c := c) hstart
    ⟨trivial, fun _ _ _ _ => trivial⟩ hnone (fit_calmAnswers _) hcode
    (by
      rintro t ⟨⟩
      exact ⟨Nat.le_refl _, decide_eq_false (Nat.not_le.mpr hwindow)⟩)
    isPreparing isFirst unconfirmed (fun _ hd => absurd hd List.not_mem_nil) fun _ => rfl
  exact ⟨cfg, hreach, hone⟩

/-- Callbacks that keep every store usable give the target identity of a contract an artifact that
opens for this contract. -/
theorem renewed_of_keepsUsable (h : KeepsUsable aesGcmEncrypt oldKey newKey callbacks)
    (hne : oldKey.keyId ≠ newKey.keyId) {core : WriteExecutionCore}
    (hcore : core.encryptionKey = oldKey) {prepared : PreparedWrite}
    {createdAt expiresAt : DateTime} {provenance : AuthorizationProvenance}
    {uuid operationUuid : String} {counter : ℕ} {c : RecoveryContract}
    (huuid : isUuidHex uuid = true) (hoperation : isUuidHex operationUuid = true)
    (hc : core.createContract aesGcmEncrypt prepared createdAt expiresAt provenance uuid
      operationUuid counter = .ok c) :
    ∃ plaintext nonce artifact opened, canonicalJson prepared.resourceTarget = .ok plaintext ∧
      buildNonce newKey.epoch 1 = .ok nonce ∧ callbacks.encrypt plaintext nonce = .ok artifact ∧
      decryptArtifact newKey.material artifact c.contractId .targetIdentity = .ok opened := by
  obtain ⟨isPreparing, isFirst, unconfirmed, hauthorized, hkeyId, nonce, plaintext, hplaintext,
    hidentity⟩ := createContract_ok hc
  obtain ⟨cfg, hreach, hone⟩ := exists_single isPreparing isFirst unconfirmed hauthorized
  have hcontracts : cfg.shared.contracts = [c] := hone.contracts
  have hwritten : Written aesGcmEncrypt oldKey c := ⟨core, prepared, createdAt, expiresAt,
    provenance, uuid, operationUuid, counter, c, hcore, huuid, hoperation, hc, rfl, rfl, rfl, rfl⟩
  have hversion : c.stateVersion + 1 < 2 ^ 63 := by
    rw [isFirst]
    decide
  have hmem : ∀ d ∈ cfg.shared.contracts, d = c := fun d hd => by
    rw [hcontracts] at hd
    exact List.mem_singleton.mp hd
  -- the run returns
  have hresult := h.completes plainStore _ _ cfg hreach
    (fun d hd => by rw [hmem d hd]; exact ⟨hwritten, hversion⟩) cfg.next 0
    (calmAnswers c.createdAt) (Nat.le_refl _) (fit_calmAnswers _)
    (by rw [hcontracts, List.length_singleton]; decide)
  obtain ⟨d, hlatest, hrotated⟩ := h.usable plainStore _ _ cfg hreach
    (fun d hd => by rw [hmem d hd]; exact hwritten) 0 _ (.completed cfg.next _ hresult) c
    (by rw [hcontracts]; exact List.mem_singleton_self c)
  -- so it has replaced the artifacts by what the callbacks made of them
  have hholds := (safety plainStore _ _).reachable hreach
  have hunsent := MutationExecutor.unsent_of_own (hholds.fresh cfg.next (Nat.le_refl _)).2
  have hrun := (run_of_wp (C := (alone cfg.next fun j _ _ => j = calmAnswers c.createdAt).context
    plainStore) (fun s => Quiet.refl s) (fun _ => calmAnswers c.createdAt) (fun _ _ _ => rfl)
    hholds.inv (@rotateKey_alone _ _ _ _ _ _ (fit_calmAnswers _) hone hversion hunsent _
      (by rw [hkeyId, hcore]; exact hne) _ (fun r s' => r = .ok () → ∃ artifacts d',
      callbacks.reencrypt newKey.epoch 0 0 c = .ok artifacts ∧
      s'.latest c.contractId = some d' ∧
      d'.protectedTargetIdentity = artifacts.1) (fun _ _ _ he => nomatch he)
      fun artifacts s' d' hartifacts hd' hfields _ => ⟨artifacts, d', hartifacts, hd', by
        rw [hfields]; rfl⟩)).2 hresult
  obtain ⟨artifacts, d', hartifacts, hd', hartifact⟩ := hrun
  cases hlatest.symm.trans hd'
  simp only [RotationCallbacks.reencrypt, RotationCallbacks.renew, bind_eq_ok] at hartifacts
  obtain ⟨identity, ⟨plaintext', hplaintext', newNonce, hnonce, hencrypt⟩, _, -, _, -, h'⟩ :=
    hartifacts
  cases h'
  rw [hcore] at hidentity
  rw [h.decrypts _ _ _ _ _ hidentity] at hplaintext'
  cases hplaintext'
  obtain ⟨_, -, hdecrypt⟩ := hrotated.identity
  obtain ⟨opened, hopened⟩ := decryptArtifact_of_decrypt hdecrypt
  obtain ⟨_, _, _, hfields⟩ := hrotated.fields
  have hid : d.contractId = c.contractId := by
    rw [hfields]
    rfl
  rw [hid, hartifact] at hopened
  exact ⟨plaintext, newNonce, identity, opened, hplaintext, hnonce, hencrypt, hopened⟩

/-- Where callbacks keep every store usable, the contracts that a core makes of one write have one
identifier: `encrypt` cannot tell them apart, and the artifact that it returns opens for one
contract only. -/
theorem uuid_eq_of_keepsUsable (ideal : IdealAead aesGcmEncrypt)
    (h : KeepsUsable aesGcmEncrypt oldKey newKey callbacks) (hne : oldKey.keyId ≠ newKey.keyId)
    {core : WriteExecutionCore} (hcore : core.encryptionKey = oldKey) {prepared : PreparedWrite}
    {createdAt expiresAt createdAt' expiresAt' : DateTime}
    {provenance provenance' : AuthorizationProvenance}
    {uuid operationUuid uuid' operationUuid' : String} {counter counter' : ℕ}
    {c c' : RecoveryContract} (huuid : isUuidHex uuid = true)
    (hoperation : isUuidHex operationUuid = true) (huuid' : isUuidHex uuid' = true)
    (hoperation' : isUuidHex operationUuid' = true)
    (hc : core.createContract aesGcmEncrypt prepared createdAt expiresAt provenance uuid
      operationUuid counter = .ok c)
    (hc' : core.createContract aesGcmEncrypt prepared createdAt' expiresAt' provenance' uuid'
      operationUuid' counter' = .ok c') :
    uuid = uuid' := by
  obtain ⟨plaintext, nonce, artifact, opened, hplaintext, hnonce, hencrypt, hopened⟩ :=
    renewed_of_keepsUsable h hne hcore huuid hoperation hc
  obtain ⟨plaintext', nonce', artifact', opened', hplaintext', hnonce', hencrypt', hopened'⟩ :=
    renewed_of_keepsUsable h hne hcore huuid' hoperation' hc'
  -- the callbacks are given the same plaintext and the same nonce
  cases hplaintext.symm.trans hplaintext'
  cases hnonce.symm.trans hnonce'
  cases hencrypt.symm.trans hencrypt'
  have hid := (decryptArtifact_inj ideal hopened hopened').1
  rw [contractId_of_createContract hc, contractId_of_createContract hc'] at hid
  exact (String.append_right_inj _).mp hid

/-- No callbacks keep the contracts of every store usable, once a core accepts a write under two
identifiers. -/
theorem not_keepsUsable (ideal : IdealAead aesGcmEncrypt) (oldKey newKey : KeyRecord)
    (callbacks : RotationCallbacks) (hne : oldKey.keyId ≠ newKey.keyId) {core : WriteExecutionCore}
    (hcore : core.encryptionKey = oldKey) {prepared : PreparedWrite}
    {createdAt expiresAt createdAt' expiresAt' : DateTime}
    {provenance provenance' : AuthorizationProvenance}
    {uuid operationUuid uuid' operationUuid' : String} {counter counter' : ℕ}
    {c c' : RecoveryContract} (huuid : isUuidHex uuid = true)
    (hoperation : isUuidHex operationUuid = true) (huuid' : isUuidHex uuid' = true)
    (hoperation' : isUuidHex operationUuid' = true) (hdistinct : uuid ≠ uuid')
    (hc : core.createContract aesGcmEncrypt prepared createdAt expiresAt provenance uuid
      operationUuid counter = .ok c)
    (hc' : core.createContract aesGcmEncrypt prepared createdAt' expiresAt' provenance' uuid'
      operationUuid' counter' = .ok c') :
    ¬KeepsUsable aesGcmEncrypt oldKey newKey callbacks := fun h =>
  hdistinct (uuid_eq_of_keepsUsable ideal h hne hcore huuid hoperation huuid' hoperation' hc
    hc')

end Impossible

end Model

/-! ### A sample -/

namespace TwoAliases

open Sample (hex isHex64_hex midnight)

/-- What a sealed text starts with. No such text starts with another one. -/
def tag (associatedData : Bytes) : Bytes :=
  List.replicate 16 0 ++ (List.replicate associatedData.length 1 ++ 0 :: associatedData)

/-- Sealing in clear text. -/
def encrypt (_key _nonce data associatedData : Bytes) : Bytes := tag associatedData ++ data

theorem replicate_append_inj {m n : ℕ} {x y : Bytes}
    (h : List.replicate m (1 : UInt8) ++ 0 :: x = List.replicate n 1 ++ 0 :: y) :
    m = n ∧ x = y := by
  induction m generalizing n with
  | zero =>
    cases n with
    | zero => exact ⟨rfl, by simpa using h⟩
    | succ n => simp [List.replicate_succ] at h
  | succ m ih =>
    cases n with
    | zero => simp [List.replicate_succ] at h
    | succ n =>
      simp only [List.replicate_succ, List.cons_append, List.cons.injEq, true_and] at h
      obtain ⟨rfl, rfl⟩ := ih h
      exact ⟨rfl, rfl⟩

theorem tag_append_inj {a b x y : Bytes} (h : tag a ++ x = tag b ++ y) : a = b ∧ x = y := by
  simp only [tag, List.append_assoc, List.cons_append] at h
  obtain ⟨hlength, hrest⟩ := replicate_append_inj (List.append_cancel_left h)
  exact List.append_inj hrest hlength

/-- The sample platform, with an AEAD that opens what `encrypt` has sealed. -/
@[reducible]
def platform : Platform :=
  { Sample.platform with
    aesGcmDecrypt := fun _ _ sealedData associatedData =>
      if (tag associatedData).isPrefixOf sealedData then
        some (sealedData.drop (tag associatedData).length)
      else none }

attribute [local instance] platform

theorem ideal : IdealAead encrypt where
  opens data associatedData _ _ := by
    show (if (tag associatedData).isPrefixOf (tag associatedData ++ data) then
      some ((tag associatedData ++ data).drop (tag associatedData).length) else none) = some data
    simp
  authentic {key nonce sealedData associatedData data} _ _ h := by
    change (if (tag associatedData).isPrefixOf sealedData then
      some (sealedData.drop (tag associatedData).length) else none) = some data at h
    simp only [List.isPrefixOf_iff_prefix, Option.ite_none_right_eq_some,
      Option.some.injEq] at h
    obtain ⟨⟨rest, rfl⟩, rfl⟩ := h
    simp [encrypt]
  bound {key nonce} data {associatedData other} _ _ hne := by
    refine if_neg fun h => ?_
    obtain ⟨rest, h⟩ := List.isPrefixOf_iff_prefix.mp h
    exact hne (tag_append_inj h).1.symm

/-- The key that the contracts are written under. -/
def oldKey : KeyRecord :=
  ⟨"key-1", 0, List.replicate 32 0, Sample.isIdentifier_key, Sample.length_key⟩

/-- The key that they are to be rotated to. -/
def newKey : KeyRecord := ⟨"key-2", 0, List.replicate 32 1, by decide +kernel, by decide⟩

def core : WriteExecutionCore := ⟨"aliasdescr", .standardSealedWrite, oldKey⟩

/-- A change of the description of an alias. -/
def prepared : PreparedWrite where
  capability := .aliasWrite
  endpointSymbol := "FIREWALL_ALIAS_DESCRIPTION"
  httpMethod := "PATCH"
  rollbackPlanVersion := "v1"
  resourceTarget := .obj [("name", .str "alias-1")]
  targetPrecondition := .obj [("descr", .str "")]
  normalizedMutationIntent := [("descr", .str "new")]
  rollbackSnapshot := .obj [("descr", .str "")]
  rawTarget := .obj [("name", .str "alias-1")]
  numericLocator := 0

def provenance : AuthorizationProvenance where
  schemaVersion := 2
  authorizationId := "authorization-1"
  authorityId := "owner"
  planAuthorizationSchemaVersion := 2
  planDigest := Sample.hex
  stepId := "step-1"
  executionIntentDigest := Sample.hex
  authorizationIssuedAt := Sample.midnight 1 Sample.isDay_one
  authorizationExpiresAt := Sample.midnight 2 Sample.isDay_two
  applianceTargetDigest := Sample.hex
  valid := by decide +kernel

def uuid : String := "00000000000000000000000000000001"

def uuid' : String := "00000000000000000000000000000002"

theorem deriveIdempotencyKey_prepared : deriveIdempotencyKey prepared.capability
    prepared.endpointSymbol prepared.httpMethod hex hex prepared.numericLocator hex hex
    prepared.rollbackPlanVersion = .ok hex :=
  (deriveIdempotencyKey_eq (fun _ => rfl) .aliasWrite
    "FIREWALL_ALIAS_DESCRIPTION" "PATCH" hex hex 0 hex hex "v1" (by decide) (by decide) (by decide)
    (short_of_isHex64 isHex64_hex) (short_of_isHex64 isHex64_hex) (by decide)
    (short_of_isHex64 isHex64_hex) (short_of_isHex64 isHex64_hex) (by decide)).1

theorem deriveIdempotency_prepared :
    prepared.deriveIdempotency = .ok ⟨hex, hex, hex, hex, hex⟩ := by
  have htarget : digestValue .targetIdentity prepared.resourceTarget
      [prepared.capability.name] = .ok hex := by decide
  have hfingerprint : digestValue .targetFingerprint prepared.targetPrecondition
      [prepared.capability.name, prepared.endpointSymbol, prepared.httpMethod] = .ok hex := by
    decide
  have hintent : digestValue .intent prepared.executorIntent
      [prepared.capability.name, prepared.endpointSymbol, prepared.httpMethod] = .ok hex := by
    decide
  have hsnapshot : digestValue .snapshot prepared.rollbackSnapshot
      [prepared.capability.name, prepared.endpointSymbol, prepared.httpMethod] = .ok hex := by
    decide
  rw [PreparedWrite.deriveIdempotency, htarget, ok_bind, hfingerprint, ok_bind, hintent, ok_bind,
    hsnapshot, ok_bind, deriveIdempotencyKey_prepared, ok_bind]

/-- The core makes a contract of the change, if its artifacts can be encrypted. -/
theorem exists_contract {uuid : String} {counter : ℕ}
    (hid : isIdentifier ("aliasdescr" ++ "-" ++ uuid) = true)
    (hoperation : isIdentifier ("aliasdescr" ++ "-op-" ++ uuid) = true)
    (hidentity : (oldKey.encrypt encrypt (counter + 1) ("aliasdescr" ++ "-" ++ uuid)
      .targetIdentity prepared.resourceTarget).isOk = true)
    (hintent : (oldKey.encrypt encrypt (counter + 2) ("aliasdescr" ++ "-" ++ uuid)
      .intent (.obj prepared.normalizedMutationIntent)).isOk = true)
    (hsnapshot : (oldKey.encrypt encrypt (counter + 3) ("aliasdescr" ++ "-" ++ uuid)
      .snapshot prepared.rollbackSnapshot).isOk = true) :
    ∃ c, core.createContract encrypt prepared (midnight 1 (by decide)) (midnight 2 (by decide))
      provenance uuid uuid counter = .ok c := by
  have hok : ∀ {x : Except Error ProtectedArtifact}, x.isOk = true → ∃ a, x = .ok a := by
    intro x hx
    cases x with
    | error e => cases hx
    | ok a => exact ⟨a, rfl⟩
  obtain ⟨identity, hidentity⟩ := hok hidentity
  obtain ⟨intent, hintent⟩ := hok hintent
  obtain ⟨snapshot, hsnapshot⟩ := hok hsnapshot
  simp only [WriteExecutionCore.createContract, deriveIdempotency_prepared, ok_bind, core,
    hidentity, hintent, hsnapshot]
  have hwindow : ∀ p ∈ some provenance, midnight 2 (by decide) ≤ p.authorizationExpiresAt := by
    rintro p ⟨⟩
    exact Nat.le_refl _
  have hendpoint : isIdentifier prepared.endpointSymbol = true := by decide
  have hplan : isIdentifier prepared.rollbackPlanVersion = true := by decide
  have horder : midnight 1 (by decide) < midnight 2 (by decide) := by decide
  refine ⟨⟨_, ContractFields.postInit_eq_ok.mpr ⟨?_, ?_⟩⟩, RecoveryContract.ofFields_eq_ok.mpr rfl⟩
  · exact ⟨hid, hoperation, hendpoint, hplan, rfl, rfl, isHex64_hex, isHex64_hex, isHex64_hex,
      isHex64_hex, isHex64_hex, ⟨Int.le_refl 0, by show (0 : ℤ) ≤ 2147483647; decide⟩, horder,
      hwindow, deriveIdempotencyKey_prepared⟩
  · exact ⟨fun _ h => absurd h (by simp), fun _ h => absurd h (by simp),
      ⟨fun _ => rfl, fun h => absurd h Bool.false_ne_true⟩, Int.le_refl 0,
      ⟨fun _ => rfl, fun _ => rfl⟩, fun _ h => absurd h (by simp)⟩

/-- The core makes a contract of the change, under either identifier. -/
theorem exists_contracts :
    (∃ c, core.createContract encrypt prepared (midnight 1 (by decide)) (midnight 2 (by decide))
      provenance uuid uuid 0 = .ok c) ∧
    ∃ c, core.createContract encrypt prepared (midnight 1 (by decide)) (midnight 2 (by decide))
      provenance uuid' uuid' 3 = .ok c :=
  ⟨exists_contract (by decide +kernel) (by decide +kernel) (by decide +kernel) (by decide +kernel)
    (by decide +kernel), exists_contract (by decide +kernel) (by decide +kernel) (by decide +kernel)
    (by decide +kernel) (by decide +kernel)⟩

/-- The callbacks of an operator who only has the two keys, and takes the contract to be the first
of the two. -/
def callbacks : RotationCallbacks where
  decrypt artifact :=
    decryptArtifact oldKey.material artifact ("aliasdescr-" ++ uuid) .targetIdentity
  encrypt := encryptArtifact encrypt newKey.material newKey.keyId ("aliasdescr-" ++ uuid)
    .targetIdentity

end TwoAliases

attribute [local instance] TwoAliases.platform in
/-- The theorem applies to the sample. -/
theorem not_keepsUsable_sample :
    ¬KeepsUsable TwoAliases.encrypt TwoAliases.oldKey TwoAliases.newKey TwoAliases.callbacks := by
  obtain ⟨⟨c, hc⟩, ⟨c', hc'⟩⟩ := TwoAliases.exists_contracts
  exact not_keepsUsable TwoAliases.ideal _ _ _ (by decide) rfl (by decide +kernel)
    (by decide +kernel) (by decide +kernel) (by decide +kernel) (by decide) hc hc'

attribute [local instance] TwoAliases.platform in
/-- For the two keys of the sample there are no callbacks that keep every store usable. -/
theorem no_rotationCallbacks : IdealAead TwoAliases.encrypt ∧
    ¬∃ callbacks,
      KeepsUsable TwoAliases.encrypt TwoAliases.oldKey TwoAliases.newKey callbacks := by
  refine ⟨TwoAliases.ideal, fun ⟨callbacks, h⟩ => ?_⟩
  obtain ⟨⟨c, hc⟩, ⟨c', hc'⟩⟩ := TwoAliases.exists_contracts
  have hsame := uuid_eq_of_keepsUsable TwoAliases.ideal h (by decide) rfl
    (by decide +kernel) (by decide +kernel) (by decide +kernel) (by decide +kernel) hc hc'
  exact absurd hsame (by decide)

end Tier1
