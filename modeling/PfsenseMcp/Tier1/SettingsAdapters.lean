import Mathlib.Data.Int.Notation
import PfsenseMcp.Tier1.Executor
import PfsenseMcp.Tier1.Records

/-!
# Adapters of whole settings objects

`tier1/log_display_preferences.py`, `tier1/log_retention_settings.py` and
`tier1/ntp_settings_observability.py`, with the helpers of `tier1/write_adapter_support.py`. The
three adapters are alike: each projects some fields of a settings object that exists once, sets
exactly these, and compares all others before and after. `SettingsUnit` is what they differ in.

The two log adapters project disjoint fields of one and the same object.

## Main results

* `buildRequest_eq_ok`: the body of a request that is built, and what the verification of its
  effect compares;
* `logSettings_disjoint`: no field belongs to both log adapters.
-/

namespace Tier1

open Python

/-- `SINGLETON_LOCATOR`. -/
def singletonLocator : ℤ := 0

/-- `value[key]`, for a dictionary that has the key. -/
def field (fields : List (String × Json)) (key : String) : Json := (fields.lookup key).getD .null

/-- `fields_equal`. -/
def fieldsEqual (before after : List (String × Json)) (fields : List String) : Bool :=
  fields.all fun key =>
    match before.lookup key, after.lookup key with
    | some v, some w => Json.pyEq v w
    | _, _ => false

/-- `fields_match`. -/
def fieldsMatch (actual expected : List (String × Json)) : Bool :=
  expected.all fun f =>
    match actual.lookup f.1 with
    | some v => Json.pyEq v f.2
    | none => false

/-- Whether a dictionary has exactly the given keys. -/
def hasKeys (fields : List (String × Json)) (keys : List String) : Bool :=
  fields.all (fun f => keys.contains f.1) && keys.all fun key => (fields.lookup key).isSome

/-- An exception that an adapter raises. -/
def malformed {α : Type} (message : String) : Except Error α :=
  fail (.other "PreparedExecutionIntentError") message

/-- What a protected intent is checked for under one key. -/
inductive FieldCheck where
  | isBool
  | isInt
  /-- `value in frozenset(…)`, of texts. -/
  | oneOf (texts : List String)
  /-- `value in (…)`, of integers. -/
  | oneOfInts (numbers : List ℤ)

/-- The outcome of a check. A list or a dictionary cannot be looked up in a set. -/
def FieldCheck.passes : FieldCheck → Json → Except Error Bool
  | isBool, value => .ok (Tier1.isBool value)
  | isInt, value => .ok (Tier1.isInt value)
  | oneOf texts, .str text => .ok (texts.contains text)
  | oneOf _, .arr _ => fail (.other "TypeError") "unhashable type: 'list'"
  | oneOf _, .obj _ => fail (.other "TypeError") "unhashable type: 'dict'"
  | oneOf _, _ => .ok false
  | oneOfInts numbers, value => .ok (numbers.any fun n => Json.pyEq value (.int n))

/-- Checks one after the other, up to the first that does not pass. -/
def checkFields (fields : List (String × Json)) : List (String × FieldCheck) → Except Error Bool
  | [] => .ok true
  | (key, check) :: checks => do
    let passes ← check.passes (field fields key)
    if passes then checkFields fields checks else .ok false

/-- A field that an adapter may set: its type in the model and in the body of a request, and the
check of a protected intent. -/
structure AllowedField where
  name : String
  type : FieldType
  check : FieldCheck

/-- The constants of an adapter of a settings object. -/
structure SettingsUnit where
  capability : Capability
  semanticUnit : String
  endpointSymbol : String
  adapterVersion : String
  rollbackVersion : String
  schema : Schema
  identity : List (String × Json)
  allowedFields : List AllowedField
  forbiddenFields : List String
  targetMessage : String
  fingerprintMessage : String
  intentMessage : String
  valuesMessage : String
  noopMessage : String
  nodup : schema.keys.Nodup
  nodup_allowed : (allowedFields.map AllowedField.name).Nodup
  allowed : ∀ f ∈ allowedFields, (f.name, f.type) ∈ schema
  scalar : ∀ f ∈ allowedFields, f.type = .str ∨ f.type = .bool ∨ f.type = .int
  forbidden : ∀ key ∈ forbiddenFields,
    key ∈ schema.keys ∧ key ∉ allowedFields.map AllowedField.name
  covered : ∀ key ∈ schema.keys,
    key ∈ allowedFields.map AllowedField.name ∨ key ∈ forbiddenFields

/-- What `isinstance` tells about a raw target: it is a state, a dictionary, or something else. -/
structure Objects [Platform] (State : Type) where
  ofState : State → Platform.Obj
  ofDict : List (String × Json) → Platform.Obj
  asState : Platform.Obj → Option State
  asDict : Platform.Obj → Option (List (String × Json))
  asState_ofState : ∀ s, asState (ofState s) = some s
  asState_ofDict : ∀ d, asState (ofDict d) = none
  asDict_ofDict : ∀ d, asDict (ofDict d) = some d

/-- The `repr` of the outcome of `parse_response`. -/
def acceptedStatus (response : TransportResponse) : String :=
  "\x7b'accepted_status': " ++ toString response.statusCode ++ "\x7d"

namespace SettingsUnit

variable (unit : SettingsUnit)

/-- `_ALLOWED_FIELDS`. -/
def names : List String := unit.allowedFields.map AllowedField.name

/-- `_fingerprint`. -/
def fingerprintOf (value : Json) : Except Error (List (String × Json)) :=
  match value with
  | .obj fields =>
    if hasKeys fields unit.schema.keys then .ok fields else malformed unit.fingerprintMessage
  | _ => malformed unit.fingerprintMessage

/-- `_intent`. -/
def intent (value : Json) : Except Error (List (String × Json)) :=
  match value with
  | .obj fields => do
    demand (hasKeys fields (["operation", "raw_target_hint"] ++ unit.names ++
      ["appliance_target_digest"])) (.other "PreparedExecutionIntentError") unit.intentMessage
    demand (Json.pyEq (field fields "operation") (.str unit.semanticUnit) ∧
        Json.pyEq (field fields "raw_target_hint") (.obj unit.identity) ∧
        isStr (field fields "appliance_target_digest"))
      (.other "PreparedExecutionIntentError") unit.intentMessage
    let valid ← checkFields fields (unit.allowedFields.map fun f => (f.name, f.check))
    demand valid (.other "PreparedExecutionIntentError") unit.intentMessage
    .ok (("operation", .str unit.semanticUnit) ::
      ("appliance_target_digest", field fields "appliance_target_digest") ::
      unit.names.map fun key => (key, field fields key))
  | _ => malformed unit.intentMessage

/-- `_patch_from_values`: the fields of the body. -/
def patchFromValues (values : List (String × Json)) : Except Error (List (String × Json)) := do
  demand (unit.allowedFields.all fun f => f.type.accepts (field values f.name))
    (.other "PreparedExecutionIntentError") unit.valuesMessage
  .ok (unit.names.map fun key => (key, field values key))

/-- The request with a body, as `model_dump_json` writes it. -/
def request (body : List (String × Json)) : Request := ⟨.ok (Json.dumps false (.obj body))⟩

variable [Platform] (objects : Objects (Record unit.schema))

/-- `_state`. -/
def state (raw : Platform.Obj) : Except Error (Record unit.schema) :=
  match objects.asState raw with
  | some state => .ok state
  | none =>
    match objects.asDict raw >>= Record.ofDict with
    | some state => .ok state
    | none => malformed unit.targetMessage

/-- `is_semantically_verified`. -/
def isSemanticallyVerified (pre post : Platform.Obj) (intent : Json) : Except Error Bool := do
  let before ← unit.state objects pre
  let after ← unit.state objects post
  let normalized ← unit.intent intent
  let requested := unit.names.map fun key => (key, field normalized key)
  .ok (fieldsMatch after.asDict requested &&
    fieldsEqual before.asDict after.asDict unit.forbiddenFields)

/-- `is_rollback_verified`. -/
def isRollbackVerified (pre : Json) (postRollback : Platform.Obj) : Except Error Bool := do
  let fingerprint ← unit.fingerprintOf pre
  let after ← unit.state objects postRollback
  .ok (Json.pyEq (.obj fingerprint) (.obj after.asDict))

/-- The adapter. -/
def adapter : CapabilityAdapter where
  endpointSymbol := unit.endpointSymbol
  httpMethod := "PATCH"
  capability := unit.capability
  naturalIdentity raw := do
    let _ ← unit.state objects raw
    .ok (.obj unit.identity)
  fingerprint raw := do
    let state ← unit.state objects raw
    .ok (.obj state.asDict)
  transportLocator raw := do
    let _ ← unit.state objects raw
    .ok singletonLocator
  buildRequest value _ := do
    let normalized ← unit.intent value
    let body ← unit.patchFromValues normalized
    .ok (some (request body))
  parseResponse response := .ok (.ok (acceptedStatus response))
  isSemanticallyVerified := unit.isSemanticallyVerified objects
  buildRollbackRequest pre _ := do
    let fingerprint ← unit.fingerprintOf pre
    let body ← unit.patchFromValues fingerprint
    .ok (some (request body))
  isRollbackVerified := unit.isRollbackVerified objects

end SettingsUnit

/-! ### What is sent and what is compared -/

namespace SettingsUnit

variable (unit : SettingsUnit)

theorem accepts_allowed {f : AllowedField} (hf : f ∈ unit.allowedFields) {value : Json}
    (h : f.type.accepts value = true) : Record.accepts unit.schema f.name value = true := by
  unfold Record.accepts
  rw [List.all_eq_true]
  intro g hg
  by_cases hname : g.1 = f.name
  · have hsame : g = (f.name, f.type) :=
      List.inj_on_of_nodup_map unit.nodup hg (unit.allowed f hf) hname
    rw [hsame, h, Bool.or_true]
  · simp [hname]

theorem mem_keys {f : AllowedField} (hf : f ∈ unit.allowedFields) : f.name ∈ unit.schema.keys :=
  List.mem_map_of_mem (unit.allowed f hf)

/-- The fields of a body: the projected ones, with values of their types. -/
structure Body (body : List (String × Json)) : Prop where
  names : body.map Prod.fst = unit.names
  typed : ∀ f ∈ unit.allowedFields, f.type.accepts (field body f.name) = true
  eq : body = unit.names.map fun key => (key, field body key)

variable {unit}

theorem patchFromValues_eq_ok {values body : List (String × Json)}
    (h : unit.patchFromValues values = .ok body) :
    body = (unit.names.map fun key => (key, field values key)) ∧ unit.Body body := by
  simp only [patchFromValues, bind_eq_ok, demand_eq_ok] at h
  obtain ⟨_, htyped, h⟩ := h
  cases h
  have hfield : ∀ key ∈ unit.names,
      field (unit.names.map fun key => (key, field values key)) key = field values key := by
    intro key hkey
    rw [field, Json.lookup_map hkey]
    rfl
  refine ⟨rfl, ?_, fun f hf => ?_, ?_⟩
  · rw [List.map_map]
    exact List.map_id _
  · rw [hfield _ (List.mem_map_of_mem hf)]
    exact List.all_eq_true.mp htyped f hf
  · exact List.map_congr_left fun key hkey => by rw [hfield key hkey]

namespace Body

variable {body : List (String × Json)} (h : unit.Body body)

include h

theorem lookup {f : AllowedField} (hf : f ∈ unit.allowedFields) :
    body.lookup f.name = some (field body f.name) := by
  have hlookup := Json.lookup_map (List.mem_map_of_mem (f := AllowedField.name) hf) (field body)
  rw [show unit.allowedFields.map AllowedField.name = unit.names from rfl, ← h.eq] at hlookup
  exact hlookup

/-- The entries of a body, as the projected fields. -/
theorem forall_iff {P : String × Json → Prop} :
    (∀ f ∈ body, P f) ↔ ∀ f ∈ unit.allowedFields, P (f.name, field body f.name) := by
  conv_lhs => rw [h.eq]
  rw [List.forall_mem_map, SettingsUnit.names, List.forall_mem_map]

/-- A body fits the model. -/
theorem fits : Record.Fits unit.schema body := by
  unfold Record.Fits
  rw [h.forall_iff]
  exact fun f hf => ⟨unit.mem_keys hf, unit.accepts_allowed hf (h.typed f hf)⟩

/-- The appliance reads the body that was sent. -/
theorem parse : Json.parse (Json.dumps false (.obj body)) = some (.obj body) := by
  refine parse_flat (h.names ▸ unit.nodup_allowed) (h.forall_iff.mpr fun f hf => ?_)
  have htyped := h.typed f hf
  rcases unit.scalar f hf with hf | hf | hf <;> rw [hf] at htyped
  · exact Bool.or_eq_true_iff.mpr (.inl (Bool.or_eq_true_iff.mpr (.inl htyped)))
  · exact Bool.or_eq_true_iff.mpr (.inl (Bool.or_eq_true_iff.mpr (.inr htyped)))
  · exact Bool.or_eq_true_iff.mpr (.inr htyped)

/-- The requested values were applied. -/
theorem fieldsMatch_iff (r : Record unit.schema) :
    fieldsMatch r.asDict body = true ↔ ∀ f ∈ unit.allowedFields, r.get f.name = field body f.name := by
  rw [fieldsMatch, List.all_eq_true, h.forall_iff]
  refine forall₂_congr fun f hf => ?_
  rw [r.lookup_asDict (unit.mem_keys hf)]
  have htyped : f.type.accepts (r.get f.name) = true := r.typed _ (unit.allowed f hf)
  exact Record.pyEq_of_accepts htyped (h.typed f hf)

/-- After a patch the projected fields hold the requested values. -/
theorem get_patch (r : Record unit.schema) {f : AllowedField} (hf : f ∈ unit.allowedFields) :
    (r.patch body).get f.name = field body f.name :=
  r.get_patch_of_lookup h.fits (h.lookup hf)

/-- A patch keeps the other fields. -/
theorem get_patch_of_not_mem (r : Record unit.schema) {key : String} (hkey : key ∉ unit.names) :
    (r.patch body).get key = r.get key :=
  r.get_patch_of_not_mem (h.names ▸ hkey)

end Body

/-- The other fields are as before. -/
theorem fieldsEqual_iff (before after : Record unit.schema) :
    fieldsEqual before.asDict after.asDict unit.forbiddenFields = true ↔
      ∀ key ∈ unit.forbiddenFields, before.get key = after.get key := by
  rw [fieldsEqual, List.all_eq_true]
  refine forall₂_congr fun key hkey => ?_
  have hkey := (unit.forbidden key hkey).1
  rw [before.lookup_asDict hkey, after.lookup_asDict hkey]
  exact before.pyEq_get after hkey

variable [Platform] {objects : Objects (Record unit.schema)}

theorem state_ofState (r : Record unit.schema) :
    unit.state objects (objects.ofState r) = .ok r := by
  rw [state, objects.asState_ofState]

theorem state_ofDict (r : Record unit.schema) :
    unit.state objects (objects.ofDict r.asDict) = .ok r := by
  rw [state, objects.asState_ofDict, objects.asDict_ofDict]
  change (match Record.ofDict r.asDict with
    | some state => .ok state
    | none => malformed unit.targetMessage) = Except.ok r
  rw [Record.ofDict_asDict]

/-- A request that is built sets the projected fields, and its effect is verified by comparing
these with the body and all others with what they were. -/
theorem buildRequest_eq_ok {value : Json} {target : ResolvedTransportTarget} {request : Request}
    (h : (unit.adapter objects).buildRequest value target = .ok (some request)) :
    ∃ body, unit.Body body ∧ request = SettingsUnit.request body ∧
      ∀ before after : Record unit.schema, ∃ verified,
        (unit.adapter objects).isSemanticallyVerified (objects.ofState before)
          (objects.ofState after) value = .ok verified ∧
        (verified = true ↔ (∀ f ∈ unit.allowedFields, after.get f.name = field body f.name) ∧
          ∀ key ∈ unit.forbiddenFields, before.get key = after.get key) := by
  obtain ⟨normalized, hintent, body, hbody, h⟩ : ∃ normalized, unit.intent value = .ok normalized ∧
      ∃ body, unit.patchFromValues normalized = .ok body ∧
        Except.ok (some (SettingsUnit.request body)) = .ok (some request) := by
    simpa only [adapter, bind_eq_ok] using h
  obtain ⟨hfields, hbody⟩ := patchFromValues_eq_ok hbody
  cases h
  refine ⟨body, hbody, rfl, fun before after => ⟨fieldsMatch after.asDict body &&
    fieldsEqual before.asDict after.asDict unit.forbiddenFields, ?_, ?_⟩⟩
  · change unit.isSemanticallyVerified objects _ _ value = _
    rw [isSemanticallyVerified, state_ofState, ok_bind, state_ofState, ok_bind, hintent, ok_bind,
      ← hfields]
  · rw [Bool.and_eq_true, hbody.fieldsMatch_iff, fieldsEqual_iff]

end SettingsUnit

/-! ### The three adapters -/

/-- The fields of `LogSettings`. -/
def logSettings : Schema :=
  [("format", .str), ("reverseorder", .bool), ("nentries", .int), ("nologdefaultblock", .bool),
    ("nologdefaultpass", .bool), ("nologbogons", .bool), ("nologprivatenets", .bool),
    ("nolognginx", .bool), ("rawfilter", .bool), ("disablelocallogging", .bool),
    ("logconfigchanges", .bool), ("filterdescriptions", .int), ("logfilesize", .int),
    ("rotatecount", .int), ("logcompressiontype", .str), ("enableremotelogging", .bool),
    ("ipprotocol", .optStr), ("sourceip", .optStr), ("remoteserver", .optStr),
    ("remoteserver2", .optStr), ("remoteserver3", .optStr), ("logall", .optBool),
    ("filter", .optBool), ("dhcp", .optBool), ("auth", .optBool), ("portalauth", .optBool),
    ("vpn", .optBool), ("dpinger", .optBool), ("hostapd", .optBool), ("system", .optBool),
    ("resolver", .optBool), ("ppp", .optBool), ("routing", .optBool), ("ntpd", .optBool)]

/-- `LogDisplayPreferencesAdapterV1`. -/
def logDisplayPreferences : SettingsUnit where
  capability := .logDisplayPreferencesWrite
  semanticUnit := "set_log_display_preferences_v1"
  endpointSymbol := "LOG_DISPLAY_PREFERENCES"
  adapterVersion := "log-display-preferences-v1"
  rollbackVersion := "log-display-preferences-rollback-v1"
  schema := logSettings
  identity := [("resource", .str "status_logs_settings")]
  allowedFields :=
    [⟨"format", .str, .oneOf ["rfc3164", "rfc5424"]⟩, ⟨"reverseorder", .bool, .isBool⟩,
      ⟨"nentries", .int, .isInt⟩, ⟨"filterdescriptions", .int, .oneOfInts [0, 1, 2]⟩,
      ⟨"rawfilter", .bool, .isBool⟩]
  forbiddenFields := logSettings.keys.filter fun key =>
    key ∉ ["format", "reverseorder", "nentries", "filterdescriptions", "rawfilter"]
  targetMessage := "Log settings target is malformed."
  fingerprintMessage := "Log settings fingerprint is malformed."
  intentMessage := "Protected log display intent is malformed."
  valuesMessage := "Log display preference values are malformed."
  noopMessage := "Log display preference change is a no-op."
  nodup := by decide +kernel
  nodup_allowed := by decide +kernel
  allowed := by decide +kernel
  scalar := by decide +kernel
  forbidden := by decide +kernel
  covered := by decide +kernel

/-- `LogRetentionSettingsAdapterV1`. -/
def logRetentionSettings : SettingsUnit where
  capability := .logRetentionSettingsWrite
  semanticUnit := "set_log_retention_settings_v1"
  endpointSymbol := "LOG_RETENTION_SETTINGS"
  adapterVersion := "log-retention-settings-v1"
  rollbackVersion := "log-retention-settings-rollback-v1"
  schema := logSettings
  identity := [("resource", .str "status_logs_settings")]
  allowedFields :=
    [⟨"logfilesize", .int, .isInt⟩, ⟨"rotatecount", .int, .isInt⟩,
      ⟨"logcompressiontype", .str, .oneOf ["bzip2", "gzip", "xz", "zstd", "none"]⟩]
  forbiddenFields := logSettings.keys.filter fun key =>
    key ∉ ["logfilesize", "rotatecount", "logcompressiontype"]
  targetMessage := "Log settings target is malformed."
  fingerprintMessage := "Log settings fingerprint is malformed."
  intentMessage := "Protected log retention intent is malformed."
  valuesMessage := "Log retention setting values are malformed."
  noopMessage := "Log retention setting change is a no-op."
  nodup := by decide +kernel
  nodup_allowed := by decide +kernel
  allowed := by decide +kernel
  scalar := by decide +kernel
  forbidden := by decide +kernel
  covered := by decide +kernel

/-- The fields of `NtpSettings`, in the order of the fingerprint of `NtpSettingsStateV1`. -/
def ntpSettings : Schema :=
  [("logpeer", .bool), ("logsys", .bool), ("clockstats", .bool), ("loopstats", .bool),
    ("peerstats", .bool), ("statsgraph", .bool), ("enable", .bool), ("interface", .optStrs),
    ("leapsec", .optStr), ("dnsresolv", .str), ("ntpmaxpeers", .int), ("ntpmaxpoll", .optStr),
    ("ntpminpoll", .optStr), ("orphan", .int), ("serverauth", .bool), ("serverauthalgo", .str)]

/-- `NtpSettingsObservabilityAdapterV1`. -/
def ntpSettingsObservability : SettingsUnit where
  capability := .ntpSettingsObservabilityWrite
  semanticUnit := "set_ntp_settings_observability_v1"
  endpointSymbol := "NTP_SETTINGS_OBSERVABILITY_TOGGLES"
  adapterVersion := "ntp-settings-observability-v1"
  rollbackVersion := "ntp-settings-observability-rollback-v1"
  schema := ntpSettings
  identity := [("resource", .str "ntp_settings")]
  allowedFields :=
    [⟨"logpeer", .bool, .isBool⟩, ⟨"logsys", .bool, .isBool⟩, ⟨"clockstats", .bool, .isBool⟩,
      ⟨"loopstats", .bool, .isBool⟩, ⟨"peerstats", .bool, .isBool⟩,
      ⟨"statsgraph", .bool, .isBool⟩]
  forbiddenFields := ["enable", "interface", "leapsec", "dnsresolv", "ntpmaxpeers", "ntpmaxpoll",
    "ntpminpoll", "orphan", "serverauth", "serverauthalgo"]
  targetMessage := "NTP settings target is malformed."
  fingerprintMessage := "NTP settings fingerprint is malformed."
  intentMessage := "Protected NTP settings intent is malformed."
  valuesMessage := "NTP settings observability values are malformed."
  noopMessage := "NTP settings observability change is a no-op."
  nodup := by decide +kernel
  nodup_allowed := by decide +kernel
  allowed := by decide +kernel
  scalar := by decide +kernel
  forbidden := by decide +kernel
  covered := by decide +kernel

/-- No field belongs to both log adapters. -/
theorem logSettings_disjoint : ∀ key ∈ logDisplayPreferences.names,
    key ∉ logRetentionSettings.names := by decide

end Tier1
