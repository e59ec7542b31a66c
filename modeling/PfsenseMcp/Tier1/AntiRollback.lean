import Mathlib.Data.Nat.Notation
import Mathlib.Tactic.SplitIfs
import PfsenseMcp.Python.DateTime
import PfsenseMcp.Tier1.Canonical
import PfsenseMcp.Tier1.Database

/-!
# The store side of the anti-rollback anchor

`tier1/anti_rollback.py`: the anchor protocol, the authenticated high-water mark that a store
keeps in `anchor_state`, and the marker of a completed provisioning.

The anchor is external. An `AntiRollbackAnchor α` answers `read` and `advance` and may change an
outside world `α` while doing so, also when it fails.

## Main results

* `read_persist`, `read_of_selectAnchor_eq_none`: what the mark reads as;
* `beforeExecutingTransition_ok`: what an accepted call has seen and done.
-/

namespace Tier1

open Python

/-- `AntiRollbackAnchor`, over an outside world `α`. -/
structure AntiRollbackAnchor (α : Type) where
  /-- `read()`. -/
  read : α → Except Error ℕ × α
  /-- `advance(expected_current=…)`. -/
  advance : ℕ → α → Except Error ℕ × α

/-- `sys.get_int_max_str_digits()`. -/
def intMaxStrDigits : ℕ := 4300

/-- `str(value)` of an integer, which Python refuses beyond 4300 digits. -/
def strInt (value : ℕ) : Except Error String :=
  if value < 10 ^ intMaxStrDigits then .ok (String.ofList (Json.dumpNat value))
  else fail .valueError "Exceeds the limit (4300 digits) for integer string conversion"

/-- `int(text)` of a decimal number without sign: `none` is a `ValueError`. -/
def parseInt (text : String) : Option ℕ :=
  if text.toList ≠ [] ∧ text.toList.all Char.isDigit = true then
    some (Json.digitsValue text.toList)
  else none

theorem parseInt_of_strInt {value : ℕ} {text : String} (h : strInt value = .ok text) :
    parseInt text = some value := by
  unfold strInt fail at h
  split_ifs at h
  cases h
  have hall : (Json.dumpNat value).all Char.isDigit = true :=
    List.all_eq_true.mpr fun _ hd => Json.dumpNat_isDigit hd
  have hne : Json.dumpNat value ≠ [] := by
    obtain ⟨d, ds, hd, -⟩ := Json.dumpNat_cons value
    rw [hd]
    exact List.cons_ne_nil _ _
  rw [parseInt, String.toList_ofList, if_pos ⟨hne, hall⟩]
  exact congrArg some Nat.ofDigitChars_ten_toDigits

/-- The keys with which a store authenticates its rows. -/
structure StoreIdentity where
  /-- `integrity_key`. -/
  integrityKey : Bytes
  /-- `store_id`. -/
  storeId : String
  integrityKey_length : 32 ≤ integrityKey.length
  isIdentifier_storeId : isIdentifier storeId = true

variable [Platform]

/-! ### The high-water mark -/

namespace HighWaterMark

/-- `HighWaterMark._KEY`. -/
def key : String := "high_water_mark"

/-- `HighWaterMark._mac`. -/
def mac (store : StoreIdentity) (value : ℕ) : Except Error String := do
  let text ← strInt value
  authenticate store.integrityKey store.storeId
    [Bytes.encodeUtf8 "anchor-high-water-mark", Bytes.encodeUtf8 text]

/-- `HighWaterMark.read`. -/
def read (store : StoreIdentity) (db : Database) : Except Error ℕ :=
  match db.selectAnchor key with
  | none => .ok 0
  | some row =>
    match parseInt row.value with
    | none => fail .contractIntegrity "Anchor high-water mark is corrupted."
    | some value => do
      let expected ← mac store value
      let equal ← compareDigest row.mac expected
      demand (equal = true) .contractIntegrity
        "Anchor high-water mark failed integrity verification."
      .ok value

/-- `HighWaterMark.is_seeded`. -/
def isSeeded (db : Database) : Bool := (db.selectAnchor key).isSome

/-- The row that records a value. -/
def row (store : StoreIdentity) (value : ℕ) : Except Error AnchorRow := do
  let text ← strInt value
  let code ← mac store value
  .ok ⟨key, text, code⟩

/-- The `INSERT` of `HighWaterMark.seed`. -/
def insertSeed (store : StoreIdentity) (value : ℕ) (db : Database) : Except Error Database := do
  let row ← row store value
  match db.insertAnchor row with
  | .ok db => .ok db
  | .error _ =>
    fail .anchorAlreadyProvisioned
      "A high-water-mark baseline was concurrently recorded for this store; refusing to overwrite."

/-- `HighWaterMark._persist`. -/
def persist (store : StoreIdentity) (value : ℕ) (db : Database) : Except Error Database := do
  let row ← row store value
  .ok (db.upsertAnchor row)

/-- `HighWaterMark.before_executing_transition`. -/
def beforeExecutingTransition {α : Type} (store : StoreIdentity) (anchor : AntiRollbackAnchor α)
    (db : Database) (w : α) : Except Error Database × α :=
  match read store db with
  | .error e => (.error e, w)
  | .ok persisted =>
    match anchor.read w with
    | (.error e, w) => (.error e, w)
    | (.ok current, w) =>
      if current = persisted then
        match anchor.advance current w with
        | (.error e, w) => (.error e, w)
        | (.ok advanced, w) => (persist store advanced db, w)
      else
        (fail .wholeStoreRollbackDetected
          "Anti-rollback anchor does not match the store's recorded high-water mark.", w)

/-! ### What the mark reads as -/

theorem read_of_selectAnchor_eq_none {store : StoreIdentity} {db : Database}
    (h : db.selectAnchor key = none) : read store db = .ok 0 := by
  rw [read, h]

/-- A recorded row reads as the value it records. -/
theorem read_of_row {store : StoreIdentity} {db : Database} {value : ℕ} {r : AnchorRow}
    (hrow : row store value = .ok r) (h : db.selectAnchor key = some r) :
    read store db = .ok value := by
  simp only [row, bind_eq_ok] at hrow
  obtain ⟨text, htext, code, hcode, hr⟩ := hrow
  cases hr
  have hhex : isHex64 code = true := by
    simp only [mac, htext, ok_bind] at hcode
    exact isHex64_of_authenticate hcode
  rw [read, h]
  simp only [parseInt_of_strInt htext, hcode, ok_bind, compareDigest_of_isHex64 hhex hhex,
    beq_self_eq_true]
  rfl

omit [Platform] in
theorem selectAnchor_upsertAnchor (db : Database) (r : AnchorRow) :
    (db.upsertAnchor r).selectAnchor r.key = some r := by
  have hnone : (db.anchorState.filter fun row => row.key ≠ r.key).find?
      (fun row => row.key = r.key) = none := by
    rw [List.find?_eq_none]
    intro row hrow
    simpa using (List.mem_filter.mp hrow).2
  rw [Database.selectAnchor, Database.upsertAnchor, List.find?_append, hnone, Option.none_or]
  simp

omit [Platform] in
theorem selectAnchor_upsertAnchor_of_ne (db : Database) (r : AnchorRow) {k : String}
    (hk : k ≠ r.key) : (db.upsertAnchor r).selectAnchor k = db.selectAnchor k := by
  simp only [Database.selectAnchor, Database.upsertAnchor, List.find?_append, List.find?_filter]
  have hr : ([r] : List AnchorRow).find? (fun row => row.key = k) = none := by
    simp [Ne.symm hk]
  rw [hr, Option.or_none]
  congr 1
  funext row
  by_cases h : row.key = k
  · simp [h, hk]
  · simp [h]

theorem key_of_row {store : StoreIdentity} {value : ℕ} {r : AnchorRow}
    (h : row store value = .ok r) : r.key = key := by
  simp only [row, bind_eq_ok] at h
  obtain ⟨_, -, _, -, h⟩ := h
  cases h
  rfl

/-- A persisted value reads back. -/
theorem read_persist {store : StoreIdentity} {value : ℕ} {db db' : Database}
    (h : persist store value db = .ok db') : read store db' = .ok value := by
  simp only [persist, bind_eq_ok] at h
  obtain ⟨r, hr, hdb⟩ := h
  cases hdb
  refine read_of_row hr ?_
  rw [← key_of_row hr]
  exact selectAnchor_upsertAnchor db r

/-- A value of ordinary size can be recorded. -/
theorem exists_row (store : StoreIdentity) {value : ℕ} (h : value < 10 ^ intMaxStrDigits) :
    ∃ r, row store value = .ok r ∧ r.key = key := by
  have htext : strInt value = .ok (String.ofList (Json.dumpNat value)) := if_pos h
  have hlen : (Json.dumpNat value).length ≤ intMaxStrDigits :=
    (Nat.length_toDigits_le_iff (by decide) (by decide)).mpr h
  have hutf := Bytes.length_encodeUtf8_le (String.ofList (Json.dumpNat value))
  rw [String.toList_ofList] at hutf
  have hlabel : (Bytes.encodeUtf8 "anchor-high-water-mark").length ≤ 4 * 22 :=
    Bytes.length_encodeUtf8_le _
  have hshort : ∀ c ∈ [Bytes.encodeUtf8 "anchor-high-water-mark",
      Bytes.encodeUtf8 (String.ofList (Json.dumpNat value))], c.length < 2 ^ 32 := by
    intro c hc
    simp only [List.mem_cons, List.not_mem_nil, or_false] at hc
    unfold intMaxStrDigits at hlen
    rcases hc with rfl | rfl <;> omega
  obtain ⟨m, hm⟩ := exists_authenticatedMessage store.isIdentifier_storeId hshort
  refine ⟨⟨key, String.ofList (Json.dumpNat value), Platform.hmacSha256 store.integrityKey m⟩, ?_,
    rfl⟩
  simp only [row, mac, htext, ok_bind, authenticate, hm]

/-- An accepted call has read the anchor at the persisted mark, has advanced it, and has
persisted what it answered. -/
theorem beforeExecutingTransition_ok {α : Type} {store : StoreIdentity}
    {anchor : AntiRollbackAnchor α} {db db' : Database} {w w' : α}
    (h : beforeExecutingTransition store anchor db w = (.ok db', w')) :
    ∃ mark w₁ advanced, read store db = .ok mark ∧ anchor.read w = (.ok mark, w₁) ∧
      anchor.advance mark w₁ = (.ok advanced, w') ∧ persist store advanced db = .ok db' := by
  unfold beforeExecutingTransition at h
  cases hread : read store db with
  | error e => simp [hread] at h
  | ok mark =>
    rw [hread] at h
    obtain ⟨answer, w₁, hanchor⟩ : ∃ answer w₁, anchor.read w = (answer, w₁) := ⟨_, _, rfl⟩
    rw [hanchor] at h
    cases answer with
    | error e => simp at h
    | ok current =>
      dsimp only at h
      split_ifs at h with heq
      · subst heq
        obtain ⟨answer, w₂, hadv⟩ : ∃ answer w₂, anchor.advance current w₁ = (answer, w₂) :=
          ⟨_, _, rfl⟩
        rw [hadv] at h
        cases answer with
        | error e => simp at h
        | ok advanced =>
          simp only [Prod.mk.injEq] at h
          exact ⟨current, w₁, advanced, rfl, hanchor, by rw [hadv, h.2], h.1⟩
      · simp [fail] at h

end HighWaterMark

/-! ### The provisioning record -/

namespace ProvisioningRecord

/-- `ProvisioningRecord._KEY`. -/
def key : String := "anchor_provisioning_complete"

/-- `ProvisioningRecord._mac`. -/
def mac (store : StoreIdentity) (payload : String) : Except Error String :=
  authenticate store.integrityKey store.storeId
    [Bytes.encodeUtf8 "anchor-provisioning-complete", Bytes.encodeUtf8 payload]

/-- `ProvisioningRecord.is_complete`. -/
def isComplete (store : StoreIdentity) (db : Database) : Except Error Bool :=
  match db.selectAnchor key with
  | none => .ok false
  | some row => do
    let expected ← mac store row.value
    let equal ← compareDigest row.mac expected
    demand (equal = true) .contractIntegrity
      "Anchor provisioning-complete marker failed integrity verification."
    .ok true

/-- `ProvisioningRecord.read`: the handle and the time of a valid marker. -/
def read (store : StoreIdentity) (db : Database) : Except Error (Option (Json × Json)) :=
  match db.selectAnchor key with
  | none => .ok none
  | some row => do
    let expected ← mac store row.value
    let equal ← compareDigest row.mac expected
    demand (equal = true) .contractIntegrity
      "Anchor provisioning-complete marker failed integrity verification."
    match Json.parse row.value with
    | none => fail (.other "JSONDecodeError") "Expecting value"
    | some (.obj fields) =>
      match fields.lookup "handle", fields.lookup "verified_value",
        fields.lookup "provisioned_at" with
      | some handle, some _, some provisionedAt =>
        if fields.length = 3 then .ok (some (handle, provisionedAt))
        else fail .contractIntegrity "Anchor provisioning-complete marker payload is malformed."
      | _, _, _ =>
        fail .contractIntegrity "Anchor provisioning-complete marker payload is malformed."
    | some _ =>
      fail .contractIntegrity "Anchor provisioning-complete marker payload is malformed."

/-- The `INSERT` of `ProvisioningRecord.mark_complete`. -/
def insertMarker (store : StoreIdentity) (handle : String) (verifiedValue : ℕ)
    (provisionedAt : DateTime) (db : Database) : Except Error Database := do
  let encoded ← canonicalJson (.obj [("handle", .str handle),
    ("verified_value", .int verifiedValue), ("provisioned_at", .str provisionedAt.isoformat)])
  let payload := (Bytes.decodeUtf8 encoded).getD ""
  let code ← mac store payload
  match db.insertAnchor ⟨key, payload, code⟩ with
  | .ok db => .ok db
  | .error _ =>
    fail .anchorAlreadyProvisioned
      "Anchor provisioning was concurrently marked complete for this store; refusing to overwrite."

end ProvisioningRecord

end Tier1
