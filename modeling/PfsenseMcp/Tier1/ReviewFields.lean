import PfsenseMcp.Python.JsonOrder
import PfsenseMcp.Python.Repr
import PfsenseMcp.Tier1.ArtifactExchange
import PfsenseMcp.Tier1.SettingsAdapters

/-!
# The review fields of the Shape-A capabilities

`_render_semantic_fields` of `tier1/shape_a_artifact_exchange.py`, with the requests and the states
of the five capabilities: what the owner reads before signing is the text of every requested value
and of every field of the state that was read, each text cut at 256 characters and the list of
fields cut at 16.

A prepared execution holds a request and the state its preparer read. The checks of a preparer that
do not relate the two are left out, and the form of Unicode that names are in.

## Main results

* `request_eq_of_semanticFields`: equal review fields are those of equal requests;
* `identifiesChange_iff`: the review fields of a prepared execution tell which change it is if and
  only if its capability is none of the two that keep the log settings.
-/

namespace Tier1

open Python

/-! ### Requests -/

/-- `NtpTimeServerPreferChangeV1`. -/
@[ext]
structure NtpTimeServerPreferChange where
  timeserver : String
  prefer : Bool
  nonempty : timeserver ≠ ""
  length_le : timeserver.toList.length ≤ 255

/-- `NtpSettingsObservabilityChangeV1`. -/
@[ext]
structure NtpSettingsObservabilityChange where
  logpeer : Bool
  logsys : Bool
  clockstats : Bool
  loopstats : Bool
  peerstats : Bool
  statsgraph : Bool

/-- `LogDisplayPreferencesChangeV1`. -/
@[ext]
structure LogDisplayPreferencesChange where
  format : String
  reverseorder : Bool
  nentries : ℤ
  filterdescriptions : ℤ
  rawfilter : Bool
  valid_format : format ∈ ["rfc3164", "rfc5424"]
  valid_filterdescriptions : filterdescriptions ∈ [(0 : ℤ), 1, 2]
  valid_nentries : 0 ≤ nentries ∧ nentries ≤ 1000000

/-- `LogRetentionSettingsChangeV1`. -/
@[ext]
structure LogRetentionSettingsChange where
  logfilesize : ℤ
  rotatecount : ℤ
  logcompressiontype : String
  valid_logfilesize : 1 ≤ logfilesize ∧ logfilesize ≤ 2147483647
  valid_rotatecount : 0 ≤ rotatecount ∧ rotatecount ≤ 100000
  valid_logcompressiontype : logcompressiontype ∈ ["bzip2", "gzip", "xz", "zstd", "none"]

/-- The characters of `_TIMEZONE`. -/
def isTimezoneChar (c : Char) : Bool := c.isAlphanum || c = '_' || c = '+' || c = '-' || c = '/'

/-- `_TIMEZONE.fullmatch(value)`. -/
def IsTimezone (value : String) : Prop :=
  value.toList.all isTimezoneChar = true ∧ 1 ≤ value.toList.length ∧ value.toList.length ≤ 64

/-- `SystemTimezoneChangeV1`. -/
@[ext]
structure SystemTimezoneChange where
  timezone : String
  valid : IsTimezone timezone

/-! ### States -/

/-- `NtpTimeServerStateV1`. -/
structure NtpTimeServerState where
  numericLocator : ℤ
  timeserver : String
  serverType : String
  prefer : Bool
  noselect : Bool
  valid_numericLocator : 0 ≤ numericLocator ∧ numericLocator ≤ 2147483647
  nonempty : timeserver ≠ ""
  valid_serverType : serverType ∈ ["server", "pool", "peer"]

/-- `SystemTimezoneStateV1`. -/
structure SystemTimezoneState where
  timezone : String
  valid : IsTimezone timezone

/-! ### The capabilities -/

/-- The keys of `SHAPE_A_REGISTRATIONS`. -/
inductive ShapeACapability where
  | ntpTimeServerPrefer
  | ntpSettingsObservabilityToggles
  | logDisplayPreferences
  | logRetentionSettings
  | systemTimezone
deriving DecidableEq

namespace ShapeACapability

/-- `request_type`. -/
def Request : ShapeACapability → Type
  | ntpTimeServerPrefer => NtpTimeServerPreferChange
  | ntpSettingsObservabilityToggles => NtpSettingsObservabilityChange
  | logDisplayPreferences => LogDisplayPreferencesChange
  | logRetentionSettings => LogRetentionSettingsChange
  | systemTimezone => SystemTimezoneChange

/-- The type of `authoritative_a` in `prepared_type`. The states of settings are records of the
model, with the same locator for all. -/
def State : ShapeACapability → Type
  | ntpTimeServerPrefer => NtpTimeServerState
  | ntpSettingsObservabilityToggles => Record ntpSettings
  | logDisplayPreferences => Record logSettings
  | logRetentionSettings => Record logSettings
  | systemTimezone => SystemTimezoneState

/-- `request.model_dump()`. -/
def modelDump : (c : ShapeACapability) → c.Request → List (String × Json)
  | ntpTimeServerPrefer, (r : NtpTimeServerPreferChange) =>
    [("timeserver", .str r.timeserver), ("prefer", .bool r.prefer)]
  | ntpSettingsObservabilityToggles, (r : NtpSettingsObservabilityChange) =>
    [("logpeer", .bool r.logpeer), ("logsys", .bool r.logsys),
      ("clockstats", .bool r.clockstats), ("loopstats", .bool r.loopstats),
      ("peerstats", .bool r.peerstats), ("statsgraph", .bool r.statsgraph)]
  | logDisplayPreferences, (r : LogDisplayPreferencesChange) =>
    [("format", .str r.format), ("reverseorder", .bool r.reverseorder),
      ("nentries", .int r.nentries), ("filterdescriptions", .int r.filterdescriptions),
      ("rawfilter", .bool r.rawfilter)]
  | logRetentionSettings, (r : LogRetentionSettingsChange) =>
    [("logfilesize", .int r.logfilesize), ("rotatecount", .int r.rotatecount),
      ("logcompressiontype", .str r.logcompressiontype)]
  | systemTimezone, (r : SystemTimezoneChange) => [("timezone", .str r.timezone)]

end ShapeACapability

/-- `sorted(fields.items())`, where no key is there twice. -/
def sortedItems (fields : List (String × Json)) : List (String × Json) :=
  fields.foldr Json.insertField []

/-- The fields of `LogSettingsStateV1`: the sorted snapshot, as a tuple of pairs, is one of them. -/
def logSettingsFields (state : Record logSettings) : List (String × Json) :=
  [("values", .arr ((sortedItems state.asDict).map fun f => .arr [.str f.1, f.2])),
    ("numeric_locator", .int singletonLocator)]

namespace ShapeACapability

/-- `dataclasses.fields(authoritative_a)`, with the values of the fields. -/
def dataclassFields : (c : ShapeACapability) → c.State → List (String × Json)
  | ntpTimeServerPrefer, (s : NtpTimeServerState) =>
    [("numeric_locator", .int s.numericLocator), ("timeserver", .str s.timeserver),
      ("server_type", .str s.serverType), ("prefer", .bool s.prefer),
      ("noselect", .bool s.noselect)]
  | ntpSettingsObservabilityToggles, (s : Record ntpSettings) =>
    s.asDict ++ [("numeric_locator", .int singletonLocator)]
  | logDisplayPreferences, (s : Record logSettings) => logSettingsFields s
  | logRetentionSettings, (s : Record logSettings) => logSettingsFields s
  | systemTimezone, (s : SystemTimezoneState) =>
    [("timezone", .str s.timezone), ("numeric_locator", .int singletonLocator)]

/-- The fields that the capability may change, with their values in a state. -/
def changeable : (c : ShapeACapability) → c.State → List (String × Json)
  | ntpTimeServerPrefer, (s : NtpTimeServerState) => [("prefer", .bool s.prefer)]
  | ntpSettingsObservabilityToggles, (s : Record ntpSettings) =>
    ntpSettingsObservability.names.map fun key => (key, s.get key)
  | logDisplayPreferences, (s : Record logSettings) =>
    Tier1.logDisplayPreferences.names.map fun key => (key, s.get key)
  | logRetentionSettings, (s : Record logSettings) =>
    Tier1.logRetentionSettings.names.map fun key => (key, s.get key)
  | systemTimezone, (s : SystemTimezoneState) => [("timezone", .str s.timezone)]

/-- What a preparer checks of a request and the state it reads: the target is the requested one,
and the change is no no-op. -/
def Prepares : (c : ShapeACapability) → c.Request → c.State → Prop
  | ntpTimeServerPrefer, (r : NtpTimeServerPreferChange), (s : NtpTimeServerState) =>
    s.timeserver = r.timeserver ∧ s.prefer ≠ r.prefer
  | ntpSettingsObservabilityToggles, r, s =>
    modelDump ntpSettingsObservabilityToggles r ≠ changeable ntpSettingsObservabilityToggles s
  | logDisplayPreferences, r, s =>
    modelDump logDisplayPreferences r ≠ changeable logDisplayPreferences s
  | logRetentionSettings, r, s =>
    modelDump logRetentionSettings r ≠ changeable logRetentionSettings s
  | systemTimezone, (r : SystemTimezoneChange), (s : SystemTimezoneState) =>
    s.timezone ≠ r.timezone

end ShapeACapability

/-- A prepared execution of a capability, with the request it was prepared for. -/
structure PreparedExecution (c : ShapeACapability) where
  request : c.Request
  authoritativeA : c.State
  prepares : c.Prepares request authoritativeA

/-! ### Rendering -/

variable (printable : Char → Bool)

/-- `str(value)[:_MAX_SEMANTIC_VALUE_LENGTH]`. -/
def renderedValue (value : Json) : String :=
  String.ofList ((Json.pyStr printable value).take ArtifactExchange.maxSemanticValueLength)

/-- `label[:_MAX_SEMANTIC_LABEL_LENGTH]`. -/
def renderedLabel (label : String) : String :=
  String.ofList (label.toList.take ArtifactExchange.maxSemanticLabelLength)

/-- `_render_semantic_fields`, of the fields of a request and of a state. -/
def renderSemanticFields (requested previous : List (String × Json)) : List (String × String) :=
  let fields :=
    (sortedItems requested).map (fun f => ("requested." ++ f.1, renderedValue printable f.2)) ++
      previous.map fun f => ("previous." ++ f.1, renderedValue printable f.2)
  (fields.take ArtifactExchange.maxSemanticFields).map fun f => (renderedLabel f.1, f.2)

namespace PreparedExecution

variable {c : ShapeACapability}

/-- The review fields of a prepared execution. -/
def semanticFields (p : PreparedExecution c) : List (String × String) :=
  renderSemanticFields printable (c.modelDump p.request) (c.dataclassFields p.authoritativeA)

/-- Two prepared executions are of the same change: of the same request, from the same values. -/
def SameChange (p q : PreparedExecution c) : Prop :=
  p.request = q.request ∧ c.changeable p.authoritativeA = c.changeable q.authoritativeA

/-- The review fields tell which change a prepared execution is. -/
def IdentifiesChange (p : PreparedExecution c) : Prop :=
  ∀ q : PreparedExecution c, p.semanticFields printable = q.semanticFields printable →
    p.SameChange q

end PreparedExecution

/-! ### Sorting by keys -/

theorem insertField_map (g : String → Json) (key : String) (keys : List String) :
    Json.insertField (key, g key) (keys.map fun k => (k, g k)) =
      ((Json.insertField (key, .null) (keys.map fun k => (k, .null))).map Prod.fst).map
        fun k => (k, g k) := by
  induction keys with
  | nil => rfl
  | cons k keys ih =>
    simp only [List.map_cons, Json.insertField]
    split_ifs
    · rw [ih, List.map_cons, List.map_cons]
    · simp only [List.map_cons, List.map_map, List.map_map, Function.comp_def]

/-- The order of the items is that of their keys, whatever the values are. -/
theorem sortedItems_map (keys : List String) : ∀ g : String → Json,
    sortedItems (keys.map fun k => (k, g k)) =
      ((sortedItems (keys.map fun k => (k, .null))).map Prod.fst).map fun k => (k, g k) := by
  induction keys with
  | nil => exact fun _ => rfl
  | cons k keys ih =>
    intro g
    have hfold : ∀ h : String → Json, sortedItems ((k :: keys).map fun k => (k, h k)) =
        Json.insertField (k, h k) (sortedItems (keys.map fun k => (k, h k))) := fun _ => rfl
    have hnull := ih fun _ => .null
    rw [hfold, ih, insertField_map, hfold, ← hnull]

/-! ### The text of the log settings -/

/-- The log settings in the order of their keys, up to `logcompressiontype`. -/
def firstLogSettings : Schema :=
  [("auth", .optBool), ("dhcp", .optBool), ("disablelocallogging", .bool), ("dpinger", .optBool),
    ("enableremotelogging", .bool), ("filter", .optBool), ("filterdescriptions", .int),
    ("format", .str), ("hostapd", .optBool), ("ipprotocol", .optStr), ("logall", .optBool),
    ("logcompressiontype", .str)]

/-- The keys of the log settings after `logcompressiontype`, in their order. -/
def hiddenLogKeys : List String :=
  ["logconfigchanges", "logfilesize", "nentries", "nologbogons", "nologdefaultblock",
    "nologdefaultpass", "nolognginx", "nologprivatenets", "ntpd", "portalauth", "ppp", "rawfilter",
    "remoteserver", "remoteserver2", "remoteserver3", "resolver", "reverseorder", "rotatecount",
    "routing", "sourceip", "system", "vpn"]

theorem sortedKeys_logSettings :
    (sortedItems (logSettings.keys.map fun k => (k, .null))).map Prod.fst =
      firstLogSettings.keys ++ hiddenLogKeys := by decide

theorem sortedItems_asDict (s : Record logSettings) :
    sortedItems s.asDict =
      firstLogSettings.keys.map (fun k => (k, s.get k)) ++
        hiddenLogKeys.map fun k => (k, s.get k) := by
  rw [Record.asDict, sortedItems_map, sortedKeys_logSettings, List.map_append]

/-- The least number of characters in the text of a value. -/
def FieldType.minLength : FieldType → ℕ
  | str => 2
  | bool => 4
  | int => 1
  | optStr => 2
  | optBool => 4
  | optStrs => 2

theorem minLength_le {type : FieldType} {value : Json} (h : type.accepts value = true) :
    type.minLength ≤ (Json.repr printable value).length := by
  have hstr : ∀ s, 2 ≤ (Json.repr printable (.str s)).length := by
    intro s
    have h := Json.length_reprStr printable s
    rw [Json.repr]
    omega
  have hbool : ∀ b, 4 ≤ (Json.repr printable (.bool b)).length := by
    intro b
    cases b <;> simp [Json.repr]
  cases type with
  | str =>
    obtain ⟨s, rfl⟩ := Record.exists_of_isStr h
    exact hstr s
  | bool =>
    obtain ⟨b, rfl⟩ := Record.exists_of_isBool h
    exact hbool b
  | int =>
    obtain ⟨n, rfl⟩ := Record.exists_of_isInt h
    rw [Json.repr]
    exact Json.length_dumpInt_pos n
  | optStr =>
    rcases Record.null_or_of_accepts.1 h with rfl | h
    · simp [Json.repr, FieldType.minLength]
    · obtain ⟨s, rfl⟩ := Record.exists_of_isStr h
      exact hstr s
  | optBool =>
    rcases Record.null_or_of_accepts.2.1 h with rfl | h
    · simp [Json.repr, FieldType.minLength]
    · obtain ⟨b, rfl⟩ := Record.exists_of_isBool h
      exact hbool b
  | optStrs =>
    rcases Record.null_or_of_accepts.2.2 h with rfl | ⟨texts, rfl⟩
    · simp [Json.repr, FieldType.minLength]
    · change 2 ≤ _
      rcases texts with _ | ⟨x, _ | ⟨y, texts⟩⟩
      · exact Nat.le_refl 2
      · simp only [List.map_cons, List.map_nil, Json.repr, List.length_cons, List.length_append]
        omega
      · have hx := Json.length_reprStr printable x
        simp only [List.map_cons, Json.repr, List.length_cons, List.length_append]
        omega

/-- The least number of characters in the texts of the pairs of some settings. -/
def minPrefix (schema : Schema) : ℕ :=
  (schema.map fun f => f.1.toList.length + f.2.minLength + 8).sum

theorem minPrefix_le {schema : Schema} (s : Record schema) {fields : Schema}
    (hfields : ∀ f ∈ fields, f ∈ schema) : minPrefix fields ≤
      (Json.reprPrefix printable (fields.map fun f => .arr [.str f.1, s.get f.1])).length := by
  induction fields with
  | nil => exact Nat.zero_le _
  | cons f fields ih =>
    rw [List.forall_mem_cons] at hfields
    have hrest := ih hfields.2
    have hvalue := minLength_le printable (s.typed f hfields.1)
    have hpair := Json.length_repr_pair printable f.1 (s.get f.1)
    rw [minPrefix] at hrest ⊢
    rw [List.map_cons, List.map_cons, List.sum_cons, Json.length_reprPrefix_cons]
    omega

/-- The text of the log settings that is shown ends before the value of `logconfigchanges`. -/
theorem renderedValue_values {s t : Record logSettings}
    (h : ∀ k ∈ firstLogSettings.keys, s.get k = t.get k) :
    renderedValue printable (.arr ((sortedItems s.asDict).map fun f => .arr [.str f.1, f.2])) =
      renderedValue printable
        (.arr ((sortedItems t.asDict).map fun f => .arr [.str f.1, f.2])) := by
  have hmin : ArtifactExchange.maxSemanticValueLength < minPrefix firstLogSettings := by
    decide
  have hfields : ∀ f ∈ firstLogSettings, f ∈ logSettings := by decide
  have hlength := minPrefix_le printable s hfields
  have hfirst : (firstLogSettings.keys.map fun k => (k, t.get k)) =
      firstLogSettings.keys.map fun k => (k, s.get k) :=
    List.map_congr_left fun k hk => by rw [h k hk]
  have hpairs : ((firstLogSettings.keys.map fun k => (k, s.get k)).map fun f =>
      Json.arr [.str f.1, f.2]) = firstLogSettings.map fun f => .arr [.str f.1, s.get f.1] := by
    simp only [Schema.keys, List.map_map, Function.comp_def]
  rw [sortedItems_asDict, sortedItems_asDict, hfirst, List.map_append, List.map_append, hpairs]
  unfold renderedValue
  congr 1
  have hpair : 2 ≤ (firstLogSettings.map fun f => Json.arr [.str f.1, s.get f.1]).length := by
    rw [List.length_map]
    decide
  exact Json.take_repr_tuple printable hpair _ _ (Nat.lt_of_lt_of_le hmin hlength)

/-- Two states of the log settings that agree up to `logcompressiontype` have one review. -/
theorem renderSemanticFields_logSettings (requested : List (String × Json))
    {s t : Record logSettings} (h : ∀ k ∈ firstLogSettings.keys, s.get k = t.get k) :
    renderSemanticFields printable requested (logSettingsFields s) =
      renderSemanticFields printable requested (logSettingsFields t) := by
  simp only [renderSemanticFields, logSettingsFields, List.map_cons, List.map_nil,
    renderedValue_values printable h]

/-! ### What is shown -/

variable {printable}

theorem pyStr_eq_of_renderedValue {v w : Json}
    (hv : (Json.pyStr printable v).length ≤ ArtifactExchange.maxSemanticValueLength)
    (hw : (Json.pyStr printable w).length ≤ ArtifactExchange.maxSemanticValueLength)
    (h : renderedValue printable v = renderedValue printable w) :
    Json.pyStr printable v = Json.pyStr printable w := by
  have htake := String.ofList_injective h
  rwa [List.take_of_length_le hv, List.take_of_length_le hw] at htake

theorem renderedValue_bool {a b : Bool}
    (h : renderedValue printable (.bool a) = renderedValue printable (.bool b)) : a = b := by
  have hlength : ∀ b, (Json.pyStr printable (.bool b)).length ≤ 5 := by
    intro b
    cases b <;> simp [Json.pyStr, Json.repr]
  refine Json.pyStr_bool_inj printable (pyStr_eq_of_renderedValue ?_ ?_ h)
  · exact (hlength a).trans (by decide)
  · exact (hlength b).trans (by decide)

theorem renderedValue_str {s t : String} (hs : s.toList.length ≤ 256) (ht : t.toList.length ≤ 256)
    (h : renderedValue printable (.str s) = renderedValue printable (.str t)) : s = t :=
  String.toList_injective
    (pyStr_eq_of_renderedValue (v := .str s) (w := .str t) hs ht h)

theorem renderedValue_number {m n b : ℤ} (hm : 0 ≤ m ∧ m ≤ b) (hn : 0 ≤ n ∧ n ≤ b)
    (hb : b < 10 ^ 10) (h : renderedValue printable (.int m) = renderedValue printable (.int n)) :
    m = n := by
  have hlength : ∀ k : ℤ, 0 ≤ k → k ≤ b →
      (Json.pyStr printable (.int k)).length ≤ ArtifactExchange.maxSemanticValueLength := by
    intro k h₀ hk
    have hdigits := Json.length_pyStr_int_le printable (by decide : 0 < 10) h₀ (hk.trans_lt hb)
    exact hdigits.trans (by decide)
  exact Json.pyStr_int_inj printable
    (pyStr_eq_of_renderedValue (hlength m hm.1 hm.2) (hlength n hn.1 hn.2) h)

/-- Fields are what is found under their keys. -/
theorem eq_map_field {fields : List (String × Json)} (hkeys : (fields.map Prod.fst).Nodup) :
    fields = (fields.map Prod.fst).map fun k => (k, field fields k) := by
  rw [List.map_map]
  have hfield : ∀ f ∈ fields, f = (f.1, field fields f.1) := by
    intro f hf
    rw [field, Json.lookup_of_mem hkeys hf, Option.getD_some]
  conv_lhs => rw [← List.map_id fields]
  exact List.map_congr_left hfield

theorem sortedItems_perm (fields : List (String × Json)) : (sortedItems fields).Perm fields := by
  induction fields with
  | nil => exact List.Perm.refl _
  | cons f fields ih => exact (Json.insertField_perm f _).trans (ih.cons f)

/-- Equal review fields show the same requested values, and the same previous values as long as
there is place. -/
theorem rendered_of_renderSemanticFields {requested requested' previous previous' :
    List (String × Json)} (hnodup : (requested.map Prod.fst).Nodup)
    (hkeys : requested'.map Prod.fst = requested.map Prod.fst) {n : ℕ}
    (hn : requested.length + n = ArtifactExchange.maxSemanticFields)
    (h : renderSemanticFields printable requested previous =
      renderSemanticFields printable requested' previous') :
    requested.map (fun f => renderedValue printable f.2) =
        requested'.map (fun f => renderedValue printable f.2) ∧
      (previous.take n).map (fun f => renderedValue printable f.2) =
        (previous'.take n).map fun f => renderedValue printable f.2 := by
  have hlength : requested'.length = requested.length := by
    simpa only [List.length_map] using congrArg List.length hkeys
  have hsplit : ∀ fields rest : List (String × Json), fields.length = requested.length →
      (renderSemanticFields printable fields rest).map Prod.snd =
        (sortedItems fields).map (fun f => renderedValue printable f.2) ++
          (rest.take n).map fun f => renderedValue printable f.2 := by
    intro fields rest hfields
    have hsorted := (sortedItems_perm fields).length_eq
    have hrest : ArtifactExchange.maxSemanticFields - (sortedItems fields).length = n := by omega
    simp only [renderSemanticFields, List.map_map, List.take_append, List.length_map,
      List.map_append, Function.comp_def, hrest, ← List.map_take]
    rw [List.take_of_length_le (by omega)]
  have hvalues := congrArg (List.map Prod.snd) h
  rw [hsplit _ _ rfl, hsplit _ _ hlength] at hvalues
  obtain ⟨hrequested, hprevious⟩ := List.append_inj hvalues <| by
    rw [List.length_map, List.length_map, (sortedItems_perm _).length_eq,
      (sortedItems_perm _).length_eq, hlength]
  refine ⟨?_, hprevious⟩
  -- The keys come in one order on both sides, so the values under each of them agree.
  have hsorted : ∀ fields : List (String × Json), (fields.map Prod.fst).Nodup →
      (sortedItems fields).map (fun f => renderedValue printable f.2) =
        ((sortedItems ((fields.map Prod.fst).map fun k => (k, .null))).map Prod.fst).map
          fun k => renderedValue printable (field fields k) := by
    intro fields hfields
    conv_lhs => rw [eq_map_field hfields, sortedItems_map, List.map_map]
    rfl
  have hplain : ∀ fields : List (String × Json), (fields.map Prod.fst).Nodup →
      fields.map (fun f => renderedValue printable f.2) =
        (fields.map Prod.fst).map fun k => renderedValue printable (field fields k) := by
    intro fields hfields
    conv_lhs => rw [eq_map_field hfields, List.map_map]
    rfl
  have hnodup' : (requested'.map Prod.fst).Nodup := hkeys ▸ hnodup
  rw [hsorted _ hnodup, hsorted _ hnodup', hkeys, List.map_inj_left] at hrequested
  rw [hplain _ hnodup, hplain _ hnodup', hkeys, List.map_inj_left]
  intro k hk
  refine hrequested k ?_
  have hkeep : ∀ keys : List String, (keys.map fun k => (k, Json.null)).map Prod.fst = keys := by
    intro keys
    rw [List.map_map]
    exact List.map_id keys
  have hperm := (sortedItems_perm ((requested.map Prod.fst).map fun k => (k, Json.null))).map
    Prod.fst
  rw [hkeep] at hperm
  exact hperm.mem_iff.mpr hk

namespace ShapeACapability

/-- What the values of a request are, so that they are shown in full. -/
theorem request_eq {c : ShapeACapability} {r r' : c.Request}
    (h : (c.modelDump r).map (fun f => renderedValue printable f.2) =
      (c.modelDump r').map fun f => renderedValue printable f.2) : r = r' := by
  cases c with
  | ntpTimeServerPrefer =>
    simp only [modelDump, List.map_cons, List.map_nil, List.cons.injEq, and_true] at h
    apply NtpTimeServerPreferChange.ext
    · exact renderedValue_str (r.length_le.trans (by decide)) (r'.length_le.trans (by decide)) h.1
    · exact renderedValue_bool h.2
  | ntpSettingsObservabilityToggles =>
    simp only [modelDump, List.map_cons, List.map_nil, List.cons.injEq, and_true] at h
    obtain ⟨h₁, h₂, h₃, h₄, h₅, h₆⟩ := h
    apply NtpSettingsObservabilityChange.ext
    all_goals exact renderedValue_bool (by assumption)
  | logDisplayPreferences =>
    simp only [modelDump, List.map_cons, List.map_nil, List.cons.injEq, and_true] at h
    obtain ⟨hformat, hreverseorder, hnentries, hdescriptions, hrawfilter⟩ := h
    have hshort : ∀ s ∈ ["rfc3164", "rfc5424"], s.toList.length ≤ 256 := by decide
    have hsmall : ∀ r : LogDisplayPreferencesChange,
        0 ≤ r.filterdescriptions ∧ r.filterdescriptions ≤ 1000000 := by
      intro r
      have hmem := r.valid_filterdescriptions
      simp only [List.mem_cons, List.not_mem_nil, or_false] at hmem
      omega
    apply LogDisplayPreferencesChange.ext
    · exact renderedValue_str (hshort _ r.valid_format) (hshort _ r'.valid_format) hformat
    · exact renderedValue_bool hreverseorder
    · exact renderedValue_number r.valid_nentries r'.valid_nentries (by decide) hnentries
    · exact renderedValue_number (hsmall r) (hsmall r') (by decide) hdescriptions
    · exact renderedValue_bool hrawfilter
  | logRetentionSettings =>
    simp only [modelDump, List.map_cons, List.map_nil, List.cons.injEq, and_true] at h
    obtain ⟨hsize, hcount, htype⟩ := h
    have hshort : ∀ s ∈ ["bzip2", "gzip", "xz", "zstd", "none"], s.toList.length ≤ 256 := by
      decide
    apply LogRetentionSettingsChange.ext
    · have hsize' : ∀ r : LogRetentionSettingsChange,
          0 ≤ r.logfilesize ∧ r.logfilesize ≤ 2147483647 := fun r =>
        ⟨zero_le_one.trans r.valid_logfilesize.1, r.valid_logfilesize.2⟩
      exact renderedValue_number (hsize' r) (hsize' r') (by decide) hsize
    · exact renderedValue_number r.valid_rotatecount r'.valid_rotatecount (by decide) hcount
    · exact renderedValue_str (hshort _ r.valid_logcompressiontype)
        (hshort _ r'.valid_logcompressiontype) htype
  | systemTimezone =>
    simp only [modelDump, List.map_cons, List.map_nil, List.cons.injEq, and_true] at h
    apply SystemTimezoneChange.ext
    exact renderedValue_str (r.valid.2.2.trans (by decide)) (r'.valid.2.2.trans (by decide)) h

theorem nodup_modelDump (c : ShapeACapability) (r : c.Request) :
    ((c.modelDump r).map Prod.fst).Nodup := by
  cases c <;> simp [modelDump]

theorem keys_modelDump (c : ShapeACapability) (r r' : c.Request) :
    (c.modelDump r').map Prod.fst = (c.modelDump r).map Prod.fst := by
  cases c <;> rfl

/-- The number of fields of a state that are shown. -/
def room : ShapeACapability → ℕ
  | ntpTimeServerPrefer => 14
  | ntpSettingsObservabilityToggles => 10
  | logDisplayPreferences => 11
  | logRetentionSettings => 13
  | systemTimezone => 15

theorem length_modelDump (c : ShapeACapability) (r : c.Request) :
    (c.modelDump r).length + c.room = ArtifactExchange.maxSemanticFields := by
  cases c <;> rfl

/-- The values of the two log capabilities are in one long text; the other three show each value in
a field of its own, and those that they may change among the first. -/
theorem changeable_eq {c : ShapeACapability} (hdisplay : c ≠ logDisplayPreferences)
    (hretention : c ≠ logRetentionSettings) {s t : c.State}
    (h : ((c.dataclassFields s).take c.room).map (fun f => renderedValue printable f.2) =
      ((c.dataclassFields t).take c.room).map fun f => renderedValue printable f.2) :
    c.changeable s = c.changeable t := by
  cases c with
  | logDisplayPreferences => exact absurd rfl hdisplay
  | logRetentionSettings => exact absurd rfl hretention
  | ntpTimeServerPrefer =>
    simp only [dataclassFields, room, List.take_succ_cons, List.take_nil, List.map_cons,
      List.map_nil, List.cons.injEq] at h
    simp only [changeable, renderedValue_bool h.2.2.2.1]
  | ntpSettingsObservabilityToggles =>
    have hbool : ∀ key ∈ ntpSettingsObservability.names, ∀ r : Record ntpSettings,
        isBool (r.get key) = true := by
      intro key hkey r
      have hfield : (key, FieldType.bool) ∈ ntpSettings := by
        revert key
        decide
      exact r.typed _ hfield
    have hshown : ∀ key ∈ ntpSettingsObservability.names, renderedValue printable
        (Record.get s key) = renderedValue printable (Record.get t key) := by
      have htake : ∀ r : Record ntpSettings,
          ((dataclassFields ntpSettingsObservabilityToggles r).take 10).map
              (fun f => renderedValue printable f.2) =
            (ntpSettings.keys.take 10).map fun key => renderedValue printable (r.get key) :=
        fun _ => rfl
      have hvalues := List.map_inj_left.mp ((htake s).symm.trans (h.trans (htake t)))
      intro key hkey
      refine hvalues key ?_
      revert key
      decide
    change ntpSettingsObservability.names.map (fun key => (key, Record.get s key)) =
      ntpSettingsObservability.names.map fun key => (key, Record.get t key)
    apply List.map_congr_left
    intro key hkey
    obtain ⟨a, ha⟩ := Record.exists_of_isBool (hbool key hkey s)
    obtain ⟨b, hb⟩ := Record.exists_of_isBool (hbool key hkey t)
    have hvalue := hshown key hkey
    rw [ha, hb] at hvalue ⊢
    rw [renderedValue_bool hvalue]
  | systemTimezone =>
    simp only [dataclassFields, room, List.take_succ_cons, List.take_nil, List.map_cons,
      List.map_nil, List.cons.injEq] at h
    have hshort : ∀ s : SystemTimezoneState, s.timezone.toList.length ≤ 256 := fun s =>
      s.valid.2.2.trans (by decide)
    simp only [changeable, renderedValue_str (hshort s) (hshort t) h.1]

end ShapeACapability

namespace PreparedExecution

variable {c : ShapeACapability} {p q : PreparedExecution c}

theorem rendered_eq (h : p.semanticFields printable = q.semanticFields printable) :
    (c.modelDump p.request).map (fun f => renderedValue printable f.2) =
        (c.modelDump q.request).map (fun f => renderedValue printable f.2) ∧
      ((c.dataclassFields p.authoritativeA).take c.room).map
          (fun f => renderedValue printable f.2) =
        ((c.dataclassFields q.authoritativeA).take c.room).map
          fun f => renderedValue printable f.2 :=
  rendered_of_renderSemanticFields (c.nodup_modelDump p.request)
    (c.keys_modelDump p.request q.request) (c.length_modelDump p.request) h

/-- Equal review fields are those of equal requests. -/
theorem request_eq_of_semanticFields
    (h : p.semanticFields printable = q.semanticFields printable) : p.request = q.request :=
  ShapeACapability.request_eq (rendered_eq h).1

end PreparedExecution

/-- There is an integer besides two given values. -/
theorem exists_int_ne (a b : Json) : ∃ n : ℤ, Json.int n ≠ a ∧ Json.int n ≠ b := by
  by_contra h
  simp only [not_exists, not_and_or, not_not] at h
  have h₀ := h 0
  have h₁ := h 1
  have h₂ := h 2
  have hne : ∀ m n : ℤ, m ≠ n → Json.int m ≠ .int n := fun m n hmn heq => hmn (Json.int.inj heq)
  have h₀₁ := hne 0 1 (by decide)
  have h₀₂ := hne 0 2 (by decide)
  have h₁₂ := hne 1 2 (by decide)
  rcases h₀ with rfl | rfl <;> rcases h₁ with h₁ | h₁ <;> rcases h₂ with h₂ | h₂ <;>
    simp_all

theorem get_patch_number (s : Record logSettings) {key : String}
    (hkey : (key, FieldType.int) ∈ logSettings) (n : ℤ) :
    (s.patch [(key, .int n)]).get key = .int n := by
  have hfits : Record.Fits logSettings [(key, .int n)] := by
    rw [Record.Fits, List.forall_mem_singleton]
    refine ⟨List.mem_map_of_mem hkey, List.all_eq_true.mpr fun f hf => ?_⟩
    rw [Bool.or_eq_true, decide_eq_true_iff]
    by_cases hname : f.1 = key
    · have heq : f = (key, .int) :=
        List.inj_on_of_nodup_map Tier1.logDisplayPreferences.nodup hf hkey hname
      exact .inr (by rw [heq]; rfl)
    · exact .inl hname
  exact s.get_patch_of_lookup hfits List.lookup_cons_self

/-- A patch of another key keeps the first settings. -/
theorem get_patch_first (s : Record logSettings) {key : String}
    (hhidden : key ∉ firstLogSettings.keys) (value : Json) :
    ∀ k ∈ firstLogSettings.keys, (s.patch [(key, value)]).get k = s.get k := by
  intro k hk
  apply s.get_patch_of_not_mem
  rw [List.map_singleton, List.mem_singleton]
  rintro rfl
  exact hhidden hk

/-- A number of the log settings after `logcompressiontype` can be another one, without a change of
the settings up to there. -/
theorem exists_hidden_change (s : Record logSettings) {key : String}
    (hkey : (key, FieldType.int) ∈ logSettings) (hhidden : key ∉ firstLogSettings.keys)
    (value : Json) : ∃ t : Record logSettings, t.get key ≠ s.get key ∧ t.get key ≠ value ∧
      ∀ k ∈ firstLogSettings.keys, s.get k = t.get k := by
  obtain ⟨n, hs, hvalue⟩ := exists_int_ne (s.get key) value
  have hget := get_patch_number s hkey n
  refine ⟨s.patch [(key, .int n)], by rwa [hget], by rwa [hget], fun k hk => ?_⟩
  exact (get_patch_first s hhidden _ k hk).symm

namespace ShapeACapability

/-- What a log capability may change, under one key. -/
theorem field_changeable {names : List String} (s : Record logSettings) {key : String}
    (hkey : key ∈ names) : field (names.map fun k => (k, s.get k)) key = s.get key := by
  rw [field, Json.lookup_map hkey, Option.getD_some]

end ShapeACapability

namespace PreparedExecution

/-- For every prepared execution of a log capability there is one of another change with the same
review fields. -/
theorem not_identifiesChange {c : ShapeACapability} {names : List String}
    (p : PreparedExecution c) (state : Record logSettings → c.State)
    (hstate : ∃ s, p.authoritativeA = state s)
    (hfields : ∀ s, c.dataclassFields (state s) = logSettingsFields s)
    (hchangeable : ∀ s, c.changeable (state s) = names.map fun k => (k, s.get k))
    (hprepares : ∀ r s, c.modelDump r ≠ c.changeable (state s) → c.Prepares r (state s))
    {key : String} (hmem : key ∈ names) (hkey : (key, FieldType.int) ∈ logSettings)
    (hhidden : key ∉ firstLogSettings.keys) : ¬p.IdentifiesChange printable := by
  obtain ⟨s, hs⟩ := hstate
  obtain ⟨t, hne, hvalue, hfirst⟩ :=
    exists_hidden_change s hkey hhidden (field (c.modelDump p.request) key)
  have hchange : c.modelDump p.request ≠ c.changeable (state t) := by
    intro heq
    rw [heq, hchangeable, ShapeACapability.field_changeable t hmem] at hvalue
    exact hvalue rfl
  intro h
  have hsame := h ⟨p.request, state t, hprepares _ _ hchange⟩ <| by
    unfold semanticFields
    rw [hs, hfields, hfields]
    exact renderSemanticFields_logSettings printable _ hfirst
  have hfield := congrArg (field · key) hsame.2
  rw [hs, hchangeable, hchangeable] at hfield
  simp only [ShapeACapability.field_changeable _ hmem] at hfield
  exact hne hfield.symm

/-- The review fields of a prepared execution tell which change it is if and only if its capability
does not keep the log settings. -/
theorem identifiesChange_iff (printable : Char → Bool) (c : ShapeACapability)
    (p : PreparedExecution c) :
    p.IdentifiesChange printable ↔ c ≠ .logDisplayPreferences ∧ c ≠ .logRetentionSettings := by
  constructor
  · intro h
    constructor
    · rintro rfl
      have hname : "nentries" ∈ logDisplayPreferences.names := by decide
      exact not_identifiesChange p id ⟨_, rfl⟩ (fun _ => rfl) (fun _ => rfl) (fun _ _ => id) hname
        (by decide) (by decide +kernel) h
    · rintro rfl
      have hname : "rotatecount" ∈ logRetentionSettings.names := by decide
      exact not_identifiesChange p id ⟨_, rfl⟩ (fun _ => rfl) (fun _ => rfl) (fun _ _ => id) hname
        (by decide) (by decide +kernel) h
  · rintro ⟨hdisplay, hretention⟩ q h
    exact ⟨request_eq_of_semanticFields h,
      ShapeACapability.changeable_eq hdisplay hretention (rendered_eq h).2⟩

/-- Log settings as an appliance reports them. -/
def sampleDict : List (String × Json) :=
  [("format", .str "rfc3164"), ("reverseorder", .bool true), ("nentries", .int 500),
    ("nologdefaultblock", .bool false), ("nologdefaultpass", .bool false),
    ("nologbogons", .bool false), ("nologprivatenets", .bool false), ("nolognginx", .bool false),
    ("rawfilter", .bool false), ("disablelocallogging", .bool false),
    ("logconfigchanges", .bool true), ("filterdescriptions", .int 0),
    ("logfilesize", .int 512000), ("rotatecount", .int 7), ("logcompressiontype", .str "bzip2"),
    ("enableremotelogging", .bool false), ("ipprotocol", .null), ("sourceip", .null),
    ("remoteserver", .null), ("remoteserver2", .null), ("remoteserver3", .null),
    ("logall", .null), ("filter", .null), ("dhcp", .null), ("auth", .null), ("portalauth", .null),
    ("vpn", .null), ("dpinger", .null), ("hostapd", .null), ("system", .null),
    ("resolver", .null), ("ppp", .null), ("routing", .null), ("ntpd", .null)]

def sampleSettings : Record logSettings where
  get := field sampleDict
  typed := by decide +kernel
  outside key hkey := by
    have hnone : sampleDict.lookup key = none := by
      rw [List.lookup_eq_none_iff]
      intro f hf
      rw [bne_iff_ne]
      rintro rfl
      exact hkey (List.mem_map_of_mem hf)
    rw [field, hnone, Option.getD_none]

/-- A request to show 100 entries. -/
def sampleRequest : LogDisplayPreferencesChange where
  format := "rfc3164"
  reverseorder := true
  nentries := 100
  filterdescriptions := 0
  rawfilter := false
  valid_format := by decide +kernel
  valid_filterdescriptions := by decide
  valid_nentries := by decide

/-- The settings with a number of entries to show. -/
def sampleState (n : ℤ) : Record logSettings := sampleSettings.patch [("nentries", .int n)]

theorem field_sampleState (n : ℤ) :
    field (ShapeACapability.changeable .logDisplayPreferences (sampleState n)) "nentries" =
      .int n := by
  have hkey : ("nentries", FieldType.int) ∈ logSettings := by decide
  have hget := get_patch_number sampleSettings hkey n
  exact (ShapeACapability.field_changeable (sampleState n) (by decide)).trans hget

/-- The request, prepared where another number of entries is shown now. -/
def samplePrepared (n : ℤ) (hn : n ≠ 100) : PreparedExecution .logDisplayPreferences where
  request := sampleRequest
  authoritativeA := sampleState n
  prepares := by
    intro h
    have hfield := congrArg (field · "nentries") h
    rw [field_sampleState] at hfield
    exact hn (Json.int.inj hfield).symm

/-- Whether 50 or 500 entries are shown now makes no difference to the review. -/
theorem semanticFields_hide_nentries :
    ¬∀ (c : ShapeACapability) (p q : PreparedExecution c),
      p.semanticFields (fun _ => true) = q.semanticFields (fun _ => true) → p.SameChange q := by
  intro h
  have hfirst : ∀ k ∈ firstLogSettings.keys, (sampleState 50).get k = (sampleState 500).get k := by
    intro k hk
    have hhidden : "nentries" ∉ firstLogSettings.keys := by decide
    have hkeep := get_patch_first sampleSettings hhidden
    exact (hkeep _ k hk).trans (hkeep _ k hk).symm
  have hsame := h .logDisplayPreferences (samplePrepared 50 (by decide))
    (samplePrepared 500 (by decide)) (renderSemanticFields_logSettings _ _ hfirst)
  have hfield := congrArg (field · "nentries") hsame.2
  change field (ShapeACapability.changeable .logDisplayPreferences (sampleState 50)) _ =
    field (ShapeACapability.changeable .logDisplayPreferences (sampleState 500)) _ at hfield
  rw [field_sampleState, field_sampleState] at hfield
  exact absurd (Json.int.inj hfield) (by decide)

end PreparedExecution

end Tier1
