import Mathlib.Data.Nat.Notation
import PfsenseMcp.Tier1.AntiRollback
import PfsenseMcp.Tier1.KeyRotation
import PfsenseMcp.Tier1.Store

/-!
# What one integrity key authenticates

Five kinds of records are authenticated with an integrity key: the payload of a contract, an audit
event, the high-water mark of the anchor, the provisioning marker and a consumed authorization.
`store.py`, `anti_rollback.py` and `authorization_consumption_store.py` each frame the input of
their authentication code on their own, and a contract has no label at all.

## Main results

* `AuthenticatedRecord.mac_contractRow` and the theorems after it: the codes of the stores are codes
  of these messages;
* `messages_separate`: a message determines the kind of the record, the store and the content, and
  associated data determine the contract and the role.
-/

namespace Tier1

open Python

/-! ### Consumed authorizations -/

/-- The message of `SqliteAuthorizationConsumptionStore._row_mac` after the label. -/
def consumedAuthorizationBody (authorizationId consumedAt : String) : Except Error Bytes := do
  let framedId ← frameStr authorizationId
  let framedInstant ← frameStr consumedAt
  .ok (framedId ++ framedInstant)

/-- `SqliteAuthorizationConsumptionStore._row_mac`. -/
def AuthorizationConsumptionStore.rowMac [Platform] (store : StoreIdentity)
    (authorizationId consumedAt : String) : Except Error String := do
  let body ← consumedAuthorizationBody authorizationId consumedAt
  authenticate store.integrityKey store.storeId [Bytes.encodeUtf8 "consumed-authorization", body]

/-! ### Records -/

/-- A record that is authenticated, with its content. -/
inductive AuthenticatedRecord where
  /-- The payload of a row of `contracts`. -/
  | contractRow (payload : Bytes)
  /-- A row of `audit_events`. -/
  | auditEvent (contractId eventType : String) (previousState : Option String)
      (currentState : String) (stateVersion : ℤ) (recordedAt : String)
  /-- The value of `high_water_mark`. -/
  | highWaterMark (value : ℤ)
  /-- The payload of `anchor_provisioning_complete`. -/
  | provisioningMarker (payload : String)
  /-- A row of `consumed_authorizations`. -/
  | consumedAuthorization (authorizationId consumedAt : String)

namespace AuthenticatedRecord

/-- `str(value)` of an integer, which Python refuses beyond 4300 digits. -/
def intText (value : ℤ) : Except Error String :=
  if value.natAbs < 10 ^ intMaxStrDigits then .ok (String.ofList (Json.dumpInt value))
  else fail .valueError "Exceeds the limit (4300 digits) for integer string conversion"

/-- The label in the message of a record; a contract has none. -/
def label : AuthenticatedRecord → Option String
  | .contractRow _ => none
  | .auditEvent _ _ _ _ _ _ => some "audit-event"
  | .highWaterMark _ => some "anchor-high-water-mark"
  | .provisioningMarker _ => some "anchor-provisioning-complete"
  | .consumedAuthorization _ _ => some "consumed-authorization"

/-- The last component of the message of a record. -/
def body : AuthenticatedRecord → Except Error Bytes
  | .contractRow payload => .ok payload
  | .auditEvent contractId eventType previousState currentState stateVersion recordedAt =>
    .ok (auditPayload contractId eventType previousState currentState stateVersion recordedAt)
  | .highWaterMark value => do
    let text ← intText value
    .ok (Bytes.encodeUtf8 text)
  | .provisioningMarker payload => .ok (Bytes.encodeUtf8 payload)
  | .consumedAuthorization authorizationId consumedAt =>
    consumedAuthorizationBody authorizationId consumedAt

/-- What follows the identifier of the store in the message of a record. -/
def components (record : AuthenticatedRecord) : Except Error (List Bytes) := do
  let last ← record.body
  .ok ((record.label.map Bytes.encodeUtf8).toList ++ [last])

/-- The byte string that is authenticated for a record of a store. -/
def message (storeId : String) (record : AuthenticatedRecord) : Except Error Bytes := do
  let parts ← record.components
  authenticatedMessage storeId parts

/-- The authentication code of a record. -/
def mac [Platform] (key : Bytes) (storeId : String) (record : AuthenticatedRecord) :
    Except Error String := do
  let text ← record.message storeId
  .ok (Platform.hmacSha256 key text)

section Codes

variable [Platform]

theorem mac_eq (key : Bytes) (storeId : String) (record : AuthenticatedRecord) :
    record.mac key storeId = record.components >>= authenticate key storeId := by
  unfold mac message
  cases record.components <;> rfl

theorem mac_contractRow (store : Store) (payload : Bytes) :
    store.mac [payload] = (contractRow payload).mac store.integrityKey store.storeId := by
  rw [mac_eq]
  rfl

theorem mac_auditEvent (store : Store) (contractId eventType : String)
    (previousState : Option String) (currentState : String) (stateVersion : ℤ)
    (recordedAt : String) :
    store.auditMac contractId eventType previousState currentState stateVersion recordedAt =
      (auditEvent contractId eventType previousState currentState stateVersion recordedAt).mac
        store.integrityKey store.storeId := by
  rw [mac_eq]
  rfl

theorem mac_highWaterMark (store : StoreIdentity) (value : ℕ) :
    HighWaterMark.mac store value =
      (highWaterMark value).mac store.integrityKey store.storeId := by
  have htext : strInt value = intText value := rfl
  rw [mac_eq, HighWaterMark.mac, htext, components, body]
  cases intText value <;> rfl

theorem mac_provisioningMarker (store : StoreIdentity) (payload : String) :
    ProvisioningRecord.mac store payload =
      (provisioningMarker payload).mac store.integrityKey store.storeId := by
  rw [mac_eq]
  rfl

theorem mac_consumedAuthorization (store : StoreIdentity) (authorizationId consumedAt : String) :
    AuthorizationConsumptionStore.rowMac store authorizationId consumedAt =
      (consumedAuthorization authorizationId consumedAt).mac store.integrityKey store.storeId := by
  rw [mac_eq, AuthorizationConsumptionStore.rowMac, components, body]
  cases consumedAuthorizationBody authorizationId consumedAt <;> rfl

end Codes

/-! ### Contents are determined -/

theorem consumedAuthorizationBody_inj {id id' instant instant' : String} {body : Bytes}
    (h : consumedAuthorizationBody id instant = .ok body)
    (h' : consumedAuthorizationBody id' instant' = .ok body) : id = id' ∧ instant = instant' := by
  simp only [consumedAuthorizationBody, bind_eq_ok, Except.ok.injEq] at h h'
  obtain ⟨framedId, hid, framedInstant, hinstant, rfl⟩ := h
  obtain ⟨framedId', hid', framedInstant', hinstant', hbody⟩ := h'
  obtain ⟨heq, hrest⟩ := Bytes.frame_append_inj (frameStr_eq_ok hid') (frameStr_eq_ok hid) hbody
  subst hrest
  have hframe := Bytes.frame_append_inj (r := []) (t := []) (frameStr_eq_ok hinstant)
    (frameStr_eq_ok hinstant') rfl
  exact ⟨(Bytes.encodeUtf8_injective heq).symm, Bytes.encodeUtf8_injective hframe.1⟩

theorem intText_inj {value value' : ℤ} {text : String} (h : intText value = .ok text)
    (h' : intText value' = .ok text) : value = value' := by
  have hdumps : ∀ {n : ℤ}, intText n = .ok text → text = Json.dumps false (.int n) := by
    intro n hn
    unfold intText fail at hn
    split_ifs at hn
    cases hn
    rfl
  have heq := (hdumps h).symm.trans (hdumps h')
  exact Json.int.inj (Json.dumps_injective false rfl rfl heq)

theorem optionalStr_inj {a b : Option String} (h : optionalStr a = optionalStr b) : a = b := by
  cases a <;> cases b
  · rfl
  · cases h
  · cases h
  · exact congrArg some (Json.str.inj h)

/-- The fields that an audit event is authenticated with, in the order of their keys. -/
def auditFields (contractId eventType : String) (previousState : Option String)
    (currentState : String) (stateVersion : ℤ) (recordedAt : String) : Json :=
  .obj [("contract_id", .str contractId), ("current_state", .str currentState),
    ("event_type", .str eventType), ("previous_state", optionalStr previousState),
    ("recorded_at", .str recordedAt), ("state_version", .int stateVersion)]

theorem auditPayload_eq (contractId eventType : String) (previousState : Option String)
    (currentState : String) (stateVersion : ℤ) (recordedAt : String) :
    auditPayload contractId eventType previousState currentState stateVersion recordedAt =
      Bytes.encodeUtf8 (Json.dumps true
        (auditFields contractId eventType previousState currentState stateVersion recordedAt)) := by
  have hprevious : Json.sortKeys (optionalStr previousState) = optionalStr previousState := by
    cases previousState <;> rfl
  have hsorted : Json.sortKeys
      (auditFields contractId eventType previousState currentState stateVersion recordedAt) =
      auditFields contractId eventType previousState currentState stateVersion recordedAt := by
    simp [auditFields, Json.sortKeys, Json.sortFields, Json.insertField, Json.keyLt, hprevious]
  exact congrArg (fun value => Bytes.encodeUtf8 (Json.dumps true value)) hsorted

theorem plain_auditFields (contractId eventType : String) (previousState : Option String)
    (currentState : String) (stateVersion : ℤ) (recordedAt : String) :
    (auditFields contractId eventType previousState currentState stateVersion
      recordedAt).plain = true := by
  cases previousState <;> rfl

theorem auditPayload_inj {id id' event event' state state' instant instant' : String}
    {previous previous' : Option String} {version version' : ℤ}
    (h : auditPayload id event previous state version instant =
      auditPayload id' event' previous' state' version' instant') :
    id = id' ∧ event = event' ∧ previous = previous' ∧ state = state' ∧ version = version' ∧
      instant = instant' := by
  rw [auditPayload_eq, auditPayload_eq] at h
  have hvalue := Json.dumps_injective true (plain_auditFields _ _ _ _ _ _)
    (plain_auditFields _ _ _ _ _ _) (Bytes.encodeUtf8_injective h)
  simp only [auditFields, Json.obj.injEq, List.cons.injEq, Prod.mk.injEq, Json.str.injEq,
    Json.int.injEq, true_and, and_true] at hvalue
  obtain ⟨hid, hstate, hevent, hprevious, hinstant, hversion⟩ := hvalue
  exact ⟨hid, hevent, optionalStr_inj hprevious, hstate, hversion, hinstant⟩

/-- The label and the last component determine the record. -/
theorem eq_of_label_of_body {a b : AuthenticatedRecord} {last : Bytes} (hlabel : a.label = b.label)
    (ha : a.body = .ok last) (hb : b.body = .ok last) : a = b := by
  cases a <;> cases b <;>
    first
    | (simp [label] at hlabel; done)
    | skip
  case contractRow.contractRow =>
    cases ha
    cases hb
    rfl
  case auditEvent.auditEvent =>
    cases ha
    obtain ⟨rfl, rfl, rfl, rfl, rfl, rfl⟩ := auditPayload_inj (Except.ok.inj hb)
    rfl
  case highWaterMark.highWaterMark =>
    simp only [body, bind_eq_ok, Except.ok.injEq] at ha hb
    obtain ⟨text, htext, rfl⟩ := ha
    obtain ⟨text', htext', heq⟩ := hb
    obtain rfl := Bytes.encodeUtf8_injective heq
    rw [intText_inj htext htext']
  case provisioningMarker.provisioningMarker =>
    cases ha
    rw [Bytes.encodeUtf8_injective (Except.ok.inj hb)]
  case consumedAuthorization.consumedAuthorization =>
    obtain ⟨rfl, rfl⟩ := consumedAuthorizationBody_inj ha hb
    rfl

/-- The components determine the record. A contract is told from the rest by their number. -/
theorem components_inj {a b : AuthenticatedRecord} {parts : List Bytes}
    (ha : a.components = .ok parts) (hb : b.components = .ok parts) : a = b := by
  simp only [components, bind_eq_ok, Except.ok.injEq] at ha hb
  obtain ⟨last, hlast, hparts⟩ := ha
  obtain ⟨last', hlast', hparts'⟩ := hb
  obtain ⟨hlabels, hlasts⟩ := List.append_inj' (hparts.trans hparts'.symm) rfl
  have hencoded : a.label.map Bytes.encodeUtf8 = b.label.map Bytes.encodeUtf8 := by
    simpa using congrArg List.head? hlabels
  have hlabel : a.label = b.label :=
    Option.map_injective (fun _ _ => Bytes.encodeUtf8_injective) hencoded
  rw [← (List.cons.inj hlasts).1] at hlast'
  exact eq_of_label_of_body hlabel hlast hlast'

end AuthenticatedRecord

/-- Under one integrity key, equal messages belong to the same kind of record, the same store and the
same content; equal associated data belong to the same contract and the same role. -/
theorem messages_separate :
    (∀ (storeId storeId' : String) (a b : AuthenticatedRecord) (text : Bytes),
      a.message storeId = .ok text → b.message storeId' = .ok text → storeId = storeId' ∧ a = b) ∧
    ∀ (contractId contractId' : String) (role role' : ArtifactRole) (data : Bytes),
      associatedData contractId role = .ok data → associatedData contractId' role' = .ok data →
        contractId = contractId' ∧ role = role' := by
  constructor
  · intro storeId storeId' a b text ha hb
    simp only [AuthenticatedRecord.message, bind_eq_ok] at ha hb
    obtain ⟨parts, hparts, hmessage⟩ := ha
    obtain ⟨parts', hparts', hmessage'⟩ := hb
    obtain ⟨hstore, rfl⟩ := authenticatedMessage_inj hmessage hmessage'
    exact ⟨hstore, AuthenticatedRecord.components_inj hparts hparts'⟩
  · exact fun _ _ _ _ _ => associatedData_inj

/-- The empty payload has a message in a store, which is the message of nothing else. -/
theorem messages_separate_sample :
    ∃ text, (AuthenticatedRecord.contractRow []).message "store" = .ok text ∧
      "store" = "store" ∧ AuthenticatedRecord.contractRow [] = .contractRow [] := by
  obtain ⟨text, htext⟩ := @exists_authenticatedMessage "store" [[]] (by decide +kernel)
    (by decide)
  exact ⟨text, htext, messages_separate.1 "store" "store" _ _ text htext htext⟩

end Tier1
