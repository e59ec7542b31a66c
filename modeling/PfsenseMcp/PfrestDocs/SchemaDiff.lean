import Mathlib.Data.List.Dedup
import Mathlib.Data.List.Sort
import PfsenseMcp.Python.Bytes
import PfsenseMcp.Python.Json

/-!
# Comparing two OpenAPI documents

`schema_diff.py` and the part of `openapi_index.py` that it uses: two documents of any shape are
compared in thirteen dimensions. What comes from `re`, `html`, `str` and `repr` is a parameter.

## Main results

* `compareOperation_returns_iff`, `compareModel_returns_iff`, `lookupEndpoint_returns_iff`: when one
  endpoint or model can be compared;
* `diffSchemas_returns_iff`: the comparison returns a report exactly if no common endpoint or model
  has a value of a wrong type in one of three places, or too long a character reference.
-/

namespace PfrestDocs

open Python

/-! ### Values -/

/-- A JSON object. -/
abbrev Dict := List (String × Json)

/-- `dictionary.get(key)`. -/
def get (key : String) (dictionary : Dict) : Option Json :=
  (dictionary.find? (·.1 = key)).map Prod.snd

/-- The value, if it is a dictionary. -/
def asDict : Json → Option Dict
  | .obj fields => some fields
  | _ => none

/-- `dictionary.get(key)`, if it is a dictionary. -/
def getDict (key : String) (dictionary : Dict) : Option Dict := (get key dictionary).bind asDict

/-- `bool(value)`. The text of a number is its `repr`. -/
def truthy : Json → Bool
  | .null => false
  | .bool value => value
  | .int value => value ≠ 0
  | .float text => text ≠ "0.0" ∧ text ≠ "-0.0"
  | .str value => value ≠ ""
  | .arr items => !items.isEmpty
  | .obj fields => !fields.isEmpty

/-- The exceptions. -/
inductive Raised where
  | typeError
  | valueError
deriving DecidableEq

/-- `for item in dictionary.get(key, [])`. -/
def iterate : Option Json → Except Raised (List Json)
  | none => .ok []
  | some (.arr items) => .ok items
  | some (.str text) => .ok (text.toList.map fun c => .str (String.ofList [c]))
  | some (.obj fields) => .ok (fields.map fun field => .str field.1)
  | some _ => .error .typeError

/-- `dictionary.get(key, [])[:count]`. A slice is no key of a dictionary. -/
def slice (count : ℕ) : Option Json → Except Raised (List Json)
  | none => .ok []
  | some (.arr items) => .ok (items.take count)
  | some (.str text) => .ok ((text.toList.take count).map fun c => .str (String.ofList [c]))
  | some _ => .error .typeError

/-- What is written with `repr` into the details. -/
inductive Printed where
  | json (value : Json)
  /-- `_NO_DEFAULT`. -/
  | noDefault
  | field (type : Option String) (required nullable : Bool)
  | parameters (values : List (String × String × Bool))
  | texts (values : List String)
  | auth (requires : Option Bool) (modes : List String)
  | flag (value : Option Bool)

/-- What is taken from the standard library. -/
structure Libraries where
  /-- `text.upper()`. -/
  upper : String → String
  /-- `text.lower()`. -/
  lower : String → String
  /-- `str(value)`. No integer that was read from JSON is too long for it. -/
  str : Json → String
  /-- `repr(value)`. -/
  repr : Printed → String
  /-- `a == b`. -/
  equal : Json → Json → Bool
  /-- The first group of the pattern of `_extract_detail` for a label. -/
  searchDetail : (label text : String) → Option String
  /-- The first group of the pattern of `_extract_free_description`. -/
  searchDescription : String → Option String
  /-- `html.unescape(text)`, where it returns. -/
  unescape : String → String

/-! ### Sets -/

def textLe (a b : String) : Bool := !Json.keyLt b a

def pairLe (a b : String × String) : Bool := Json.keyLt a.1 b.1 || a.1 == b.1 && textLe a.2 b.2

def tripleLe (a b : String × String × Bool) : Bool :=
  Json.keyLt a.1 b.1 || a.1 == b.1 && (Json.keyLt a.2.1 b.2.1 || a.2.1 == b.2.1 && (!a.2.2 || b.2.2))

/-- `sorted(a - b)` of two sets. -/
def sortedOnly {α : Type} [DecidableEq α] (le : α → α → Bool) (a b : List α) : List α :=
  (a.filter (· ∉ b)).dedup.insertionSort fun x y => le x y

/-- `sorted(a & b)` of two sets. -/
def sortedCommon {α : Type} [DecidableEq α] (le : α → α → Bool) (a b : List α) : List α :=
  (a.filter (· ∈ b)).dedup.insertionSort fun x y => le x y

/-- `a == b` of two sets. -/
def sameSet {α : Type} [DecidableEq α] (a b : List α) : Bool := a.all (· ∈ b) && b.all (· ∈ a)

/-! ### The shapes of a document -/

/-- `_HTTP_METHODS`. -/
def httpMethods : List String := ["GET", "POST", "PUT", "PATCH", "DELETE"]

section Shapes

variable (libs : Libraries)

/-- `_endpoint_keys`. -/
def endpointKeys (document : Dict) : List (String × String) :=
  ((getDict "paths" document).getD []).flatMap fun (path, methods) =>
    ((asDict methods).getD []).filterMap fun (method, _) =>
      if libs.upper method ∈ httpMethods then some (path, libs.upper method) else none

/-- `_operation(document, path, method) or {}`. -/
def operation (document : Dict) (path method : String) : Dict :=
  ((((getDict "paths" document).bind (getDict path)).bind (getDict (libs.lower method)))).getD []

/-- `components.schemas` of a document. -/
def schemas (document : Dict) : Dict :=
  ((getDict "components" document).bind (getDict "schemas")).getD []

/-- `_model_names`. -/
def modelNames (document : Dict) : List String := (schemas document).map Prod.fst

/-- `_model_schema(document, name) or {}`. -/
def modelSchema (document : Dict) (name : String) : Dict := (getDict name (schemas document)).getD []

/-- `_fields_of`, in the order of the properties. -/
def fieldsOf (schema : Dict) : Except Raised (List (String × Option String × Bool × Bool)) :=
  match getDict "properties" schema with
  | none => .ok []
  | some properties => do
    let items ← iterate (get "required" schema)
    -- only the items of a list are names
    let required := match get "required" schema with
      | some (.arr _) => items.map libs.str
      | _ => []
    return properties.filterMap fun (name, prop) => (asDict prop).map fun prop =>
      (name, (match get "type" prop with
        | none | some .null => none
        | some type => some (libs.str type)), name ∈ required,
        ((get "nullable" prop).map truthy).getD false)

/-- The property of a model. -/
def property (schema : Dict) (fieldName : String) : Option Dict :=
  (getDict "properties" schema).bind (getDict fieldName)

/-- `_enum_values`. -/
def enumValues (schema : Dict) (fieldName : String) : Option (List String) :=
  match (property schema fieldName).bind (get "enum") with
  | some (.arr items) => some (items.map libs.str)
  | _ => none

/-- `_field_default`; `none` is `_NO_DEFAULT`. -/
def fieldDefault (schema : Dict) (fieldName : String) : Option Json :=
  (property schema fieldName).bind (get "default")

/-- `key.startswith("x-")`. -/
def isExtension (key : String) : Bool := "x-".toList.isPrefixOf key.toList

mutual

/-- `_extension_keys`, with so much depth left. -/
def extensionKeys (pre : String) : ℕ → Dict → List (String × Json)
  | 0, _ => []
  | depth + 1, fields => extensionFields pre depth fields

/-- `_extension_keys` of the fields of a dictionary. -/
def extensionFields (pre : String) (depth : ℕ) : Dict → List (String × Json)
  | [] => []
  | (key, value) :: fields =>
    (if isExtension key then [(pre ++ "/" ++ key, value)]
      else match value with
        | .obj inner => extensionKeys (pre ++ "/" ++ key) depth inner
        | _ => []) ++ extensionFields pre depth fields

end

end Shapes

/-! ### The index -/

def maxDescriptionLength : ℕ := 500

def maxListItems : ℕ := 20

/-- The most digits that `int` reads. -/
def maxStrDigits : ℕ := 4300

/-- The text has a decimal character reference of more digits than `int` reads. -/
def hasLongReference : List Char → Bool
  | '&' :: '#' :: cs =>
    decide (maxStrDigits < (cs.takeWhile Char.isDigit).length) || hasLongReference ('#' :: cs)
  | _ :: cs => hasLongReference cs
  | [] => false

/-- `_TAG_PATTERN.sub(" ", text)`. -/
def removeTags : List Char → List Char
  | [] => []
  | '<' :: cs =>
    let name := cs.takeWhile (· ≠ '>')
    if name ≠ [] ∧ name.length < cs.length then ' ' :: removeTags (cs.drop (name.length + 1))
    else '<' :: removeTags cs
  | c :: cs => c :: removeTags cs
termination_by cs => cs.length
decreasing_by all_goals simp only [List.length_cons, List.length_drop]; omega

/-- `_WHITESPACE_PATTERN.sub(" ", text)`. -/
def collapse : List Char → List Char
  | [] => []
  | c :: cs =>
    if !Bytes.isSpace c then c :: collapse cs
    else match cs with
      | [] => [' ']
      | d :: ds => if Bytes.isSpace d then collapse (d :: ds) else ' ' :: collapse (d :: ds)

/-- `_strip_html`. -/
def stripHtml (libs : Libraries) (raw : String) : Except Raised String :=
  let withoutTags := removeTags raw.toList
  if hasLongReference withoutTags then .error .valueError
  else
    let unescaped := libs.unescape (String.ofList withoutTags)
    let collapsed := Bytes.strip (String.ofList (collapse unescaped.toList))
    .ok (String.ofList (collapsed.toList.take maxDescriptionLength))

/-- `_extract_detail`. -/
def extractDetail (libs : Libraries) (text label : String) : Except Raised (Option String) :=
  match libs.searchDetail label text with
  | none => .ok none
  | some group => (stripHtml libs group).map some

/-- `_extract_free_description`. -/
def extractFreeDescription (libs : Libraries) (text : String) : Except Raised String :=
  stripHtml libs ((libs.searchDescription text).getD text)

/-- `_parse_bool_detail`. -/
def parseBoolDetail (libs : Libraries) (value : Option String) : Option Bool :=
  value.bind fun value =>
    let normalized := libs.lower (Bytes.strip value)
    if normalized ∈ ["yes", "true"] then some true
    else if normalized ∈ ["no", "false"] then some false
    else none

/-- `_parse_optional_name_detail`. -/
def parseOptionalNameDetail (libs : Libraries) (value : Option String) : Option String :=
  value.bind fun value =>
    if libs.lower (Bytes.strip value) = "none" then none else some (Bytes.strip value)

/-- `text.split(",")`. -/
def splitCommas : List Char → List (List Char)
  | [] => [[]]
  | c :: cs =>
    if c = ',' then [] :: splitCommas cs
    else match splitCommas cs with
      | [] => [[c]]
      | item :: items => (c :: item) :: items

/-- `_parse_list_detail`. -/
def parseListDetail (libs : Libraries) (value : Option String) : List String :=
  let stripped := (Bytes.strip (value.getD "")).toList
  let inner :=
    if stripped.head? = some '[' ∧ stripped.getLast? = some ']' then stripped.tail.dropLast
    else stripped
  if value.getD "" = "" ∨ libs.lower (Bytes.strip (String.ofList inner)) ∈ ["none", ""] then []
  else (((splitCommas inner).map fun item => Bytes.strip (String.ofList item)).filter (· ≠ "")).take
    maxListItems

/-- `EndpointDoc`. -/
structure EndpointDoc where
  path : String
  method : String
  operationId : Option Json
  tags : List String
  description : String
  endpointType : Option String
  associatedModel : Option String
  parentModel : Option String
  requiresAuthentication : Option Bool
  supportedAuthenticationModes : List String
  allowedPrivileges : List String
  requiredPackages : List String
  appliesImmediately : Option Bool
  utilizesCache : Option String

/-- The operations of `OpenApiIndex`, in the order in which they are entered. -/
abbrev OpenApiIndex := List ((String × String) × Dict)

/-- `parse_openapi`. -/
def parseOpenapi (libs : Libraries) (document : Dict) : OpenApiIndex :=
  ((getDict "paths" document).getD []).flatMap fun (path, methods) =>
    ((asDict methods).getD []).filterMap fun (method, operation) =>
      if libs.upper method ∈ httpMethods then
        (asDict operation).map fun operation => ((path, libs.upper method), operation)
      else none

/-- `index._paths.get(key)`: the operation that was entered last. -/
def OpenApiIndex.find (index : OpenApiIndex) (key : String × String) : Option Dict :=
  ((index.filter (·.1 = key)).getLast?).map Prod.snd

/-- `_DETAIL_LABELS`. -/
def detailLabels : List String :=
  ["Endpoint type", "Associated model", "Parent model", "Requires authentication",
    "Supported authentication modes", "Allowed privileges", "Required packages",
    "Applies immediately", "Utilizes cache"]

/-- `OpenApiIndex.lookup_endpoint`. -/
def lookupEndpoint (libs : Libraries) (index : OpenApiIndex) (path method : String) :
    Except Raised (Option EndpointDoc) :=
  match index.find (path, libs.upper method) with
  | none => .ok none
  | some operation => do
    let rawDescription := libs.str ((get "description" operation).getD (.str ""))
    let tags ← slice maxListItems (get "tags" operation)
    let description ← extractFreeDescription libs rawDescription
    let endpointType ← extractDetail libs rawDescription "Endpoint type"
    let associatedModel ← extractDetail libs rawDescription "Associated model"
    let parentModel ← extractDetail libs rawDescription "Parent model"
    let requiresAuthentication ← extractDetail libs rawDescription "Requires authentication"
    let supportedAuthenticationModes ←
      extractDetail libs rawDescription "Supported authentication modes"
    let allowedPrivileges ← extractDetail libs rawDescription "Allowed privileges"
    let requiredPackages ← extractDetail libs rawDescription "Required packages"
    let appliesImmediately ← extractDetail libs rawDescription "Applies immediately"
    let utilizesCache ← extractDetail libs rawDescription "Utilizes cache"
    return some
      { path := path
        method := libs.upper method
        operationId := get "operationId" operation
        tags := tags.map libs.str
        description := description
        endpointType := endpointType
        associatedModel := associatedModel
        parentModel := parentModel
        requiresAuthentication := parseBoolDetail libs requiresAuthentication
        supportedAuthenticationModes := parseListDetail libs supportedAuthenticationModes
        allowedPrivileges := parseListDetail libs allowedPrivileges
        requiredPackages := parseListDetail libs requiredPackages
        appliesImmediately := parseBoolDetail libs appliesImmediately
        utilizesCache := parseOptionalNameDetail libs utilizesCache }

/-! ### The report -/

/-- The dimensions, in the order of `ALL_DIMENSIONS`. -/
def allDimensions : List String :=
  ["paths_methods", "operation_ids", "parameters", "schemas_models", "fields", "enums",
    "default_values", "required_packages", "auth_metadata", "allowed_privileges",
    "applies_immediately", "extensions", "version_metadata"]

def maxEntriesPerDimension : ℕ := 25

/-- `_POSSIBLE_CAUSES_DISCLAIMER`. -/
def possibleCausesDisclaimer : String :=
  "Each entry below states WHAT differs between the two sources, never WHY. " ++
    "Possible causes include (not exhaustively, and not in priority order): pfSense " ++
    "edition, pfSense release, installed packages, runtime/package discovery, the " ++
    "schema-generation environment, appliance configuration, pfREST package build, " ++
    "or schema-generation behavior itself. Do not attribute a difference to any one " ++
    "of these without independent evidence."

/-- `ChangeKind`. -/
inductive ChangeKind where
  | addedInB
  | removedInB
  | changed
deriving DecidableEq

/-- `DiffEntry`, without its dimension. -/
structure Difference where
  key : String
  change : ChangeKind
  detail : String

/-- `SchemaDiffReport`; an entry stands with its dimension. -/
structure SchemaDiffReport where
  labelA : String
  labelB : String
  entries : List (String × Difference)
  dimensionTotals : List (String × ℕ)
  identicalDimensions : List String
  truncatedDimensions : List String
  disclaimer : String

section Compare

variable (libs : Libraries) (labelA labelB : String)

/-- An entry for each key of one document only. -/
def onlyEntries (keysA keysB : List String) : List Difference :=
  (sortedOnly textLe keysB keysA).map (⟨·, .addedInB, "present only in " ++ labelB⟩) ++
    (sortedOnly textLe keysA keysB).map (⟨·, .removedInB, "present only in " ++ labelA⟩)

/-- An entry for a key with two values. -/
def changedEntry (key : String) (a b : Printed) (note : String) : Difference :=
  ⟨key, .changed, labelA ++ "=" ++ libs.repr a ++ " " ++ labelB ++ "=" ++ libs.repr b ++ note⟩

/-- The parameters of an operation. -/
def parametersOf (operation : Dict) : Except Raised (List (String × String × Bool)) := do
  let items ← iterate (get "parameters" operation)
  return (items.filterMap asDict).map fun p =>
    (libs.str ((get "name" p).getD .null), libs.str ((get "in" p).getD .null),
      ((get "required" p).map truthy).getD false)

/-- The loop over the operations of both documents: the entries for their identifiers and for their
parameters. -/
def compareOperation (documentA documentB : Dict) (endpoint : String × String) :
    Except Raised (List Difference × List Difference) := do
  let (path, method) := endpoint
  let key := method ++ " " ++ path
  let opA := operation libs documentA path method
  let opB := operation libs documentB path method
  let idA := (get "operationId" opA).getD .null
  let idB := (get "operationId" opB).getD .null
  let ids :=
    if libs.equal idA idB then [] else [changedEntry libs labelA labelB key (.json idA) (.json idB) ""]
  let paramsA ← parametersOf libs opA
  let paramsB ← parametersOf libs opB
  let added := sortedOnly tripleLe paramsB paramsA
  let removed := sortedOnly tripleLe paramsA paramsB
  let detail :=
    (if added ≠ [] then ["added in " ++ labelB ++ ": " ++ libs.repr (.parameters added)] else []) ++
    if removed ≠ [] then ["removed in " ++ labelB ++ ": " ++ libs.repr (.parameters removed)] else []
  let params :=
    if sameSet paramsA paramsB then [] else [⟨key, .changed, "; ".intercalate detail⟩]
  return (ids, params)

/-- The entries for the fields, the enumerations and the defaults of a model. -/
structure ModelDifferences where
  fields : List Difference
  enums : List Difference
  defaults : List Difference

/-- What is compared of a field of both models. -/
def compareField (schemaA schemaB : Dict) (modelName : String)
    (fieldsA fieldsB : List (String × Option String × Bool × Bool)) (fieldName : String) :
    ModelDifferences :=
  let key := modelName ++ "." ++ fieldName
  let printed := fun (field : Option (Option String × Bool × Bool)) => match field with
    | some (type, required, nullable) => Printed.field type required nullable
    | none => .field none false false
  let fieldA := fieldsA.lookup fieldName
  let fieldB := fieldsB.lookup fieldName
  let enumA := (enumValues libs schemaA fieldName).getD []
  let enumB := (enumValues libs schemaB fieldName).getD []
  let defaultA := fieldDefault schemaA fieldName
  let defaultB := fieldDefault schemaB fieldName
  let same := match defaultA, defaultB with
    | none, none => true
    | some a, some b => libs.equal a b
    | _, _ => false
  let printedDefault := fun (value : Option Json) => (value.map Printed.json).getD .noDefault
  { fields :=
      if fieldA = fieldB then []
      else [changedEntry libs labelA labelB key (printed fieldA) (printed fieldB) ""]
    enums :=
      if enumA = enumB then []
      else [changedEntry libs labelA labelB key (.texts (enumA.insertionSort fun x y => textLe x y))
        (.texts (enumB.insertionSort fun x y => textLe x y)) ""]
    defaults :=
      if same then []
      else [changedEntry libs labelA labelB key (printedDefault defaultA) (printedDefault defaultB)
        " (often instance-specific runtime state, not a contract change)"] }

/-- The loop over the models of both documents. -/
def compareModel (documentA documentB : Dict) (modelName : String) :
    Except Raised ModelDifferences := do
  let schemaA := modelSchema documentA modelName
  let schemaB := modelSchema documentB modelName
  let fieldsA ← fieldsOf libs schemaA
  let fieldsB ← fieldsOf libs schemaB
  let namesA := fieldsA.map Prod.fst
  let namesB := fieldsB.map Prod.fst
  let only := (onlyEntries labelA labelB namesA namesB).map fun entry =>
    { entry with key := modelName ++ "." ++ entry.key }
  let compared := (sortedCommon textLe namesA namesB).map
    (compareField libs labelA labelB schemaA schemaB modelName fieldsA fieldsB)
  return { fields := only ++ compared.flatMap (·.fields)
           enums := compared.flatMap (·.enums)
           defaults := compared.flatMap (·.defaults) }

/-- The entries for what the descriptions of an endpoint say. -/
structure EndpointDifferences where
  packages : List Difference
  auth : List Difference
  privileges : List Difference
  applies : List Difference

/-- The loop over the endpoints of both indices. -/
def compareEndpoint (indexA indexB : OpenApiIndex) (endpoint : String × String) :
    Except Raised EndpointDifferences := do
  let (path, method) := endpoint
  let key := method ++ " " ++ path
  let docA ← lookupEndpoint libs indexA path method
  let docB ← lookupEndpoint libs indexB path method
  return match docA, docB with
  | some a, some b =>
    let texts := fun (x y : List String) =>
      if sameSet x y then []
      else [changedEntry libs labelA labelB key (.texts (x.insertionSort fun x y => textLe x y))
        (.texts (y.insertionSort fun x y => textLe x y)) ""]
    { packages := texts a.requiredPackages b.requiredPackages
      auth :=
        if a.requiresAuthentication = b.requiresAuthentication ∧
            sameSet a.supportedAuthenticationModes b.supportedAuthenticationModes then []
        else [changedEntry libs labelA labelB key
          (.auth a.requiresAuthentication a.supportedAuthenticationModes)
          (.auth b.requiresAuthentication b.supportedAuthenticationModes) ""]
      privileges := texts a.allowedPrivileges b.allowedPrivileges
      applies :=
        if a.appliesImmediately = b.appliesImmediately then []
        else [changedEntry libs labelA labelB key (.flag a.appliesImmediately)
          (.flag b.appliesImmediately) ""] }
  | _, _ => ⟨[], [], [], []⟩

/-- The entries for the extensions. -/
def compareExtensions (documentA documentB : Dict) : List Difference :=
  let extensionsA := extensionKeys "" 6 documentA
  let extensionsB := extensionKeys "" 6 documentB
  let keysA := extensionsA.map Prod.fst
  let keysB := extensionsB.map Prod.fst
  -- a later value of a key replaces an earlier one
  let value := fun (key : String) (extensions : Dict) => (get key extensions.reverse).getD .null
  onlyEntries labelA labelB keysA keysB ++
    (sortedCommon textLe keysA keysB).filterMap fun key =>
      if libs.equal (value key extensionsA) (value key extensionsB) then none
      else some (changedEntry libs labelA labelB key (.json (value key extensionsA))
        (.json (value key extensionsB)) "")

/-- `_version_metadata`, in the order of the keys. -/
def versionMetadata (document : Dict) : List (String × String) :=
  let info := (getDict "info" document).getD []
  let license := (getDict "license" info).getD []
  let text := fun (key : String) (fields : Dict) => libs.str ((get key fields).getD (.str ""))
  [("info.license.name", text "name" license), ("info.title", text "title" info),
    ("info.version", text "version" info), ("openapi", text "openapi" document)]

/-- The entries for the versions. -/
def compareVersions (documentA documentB : Dict) : List Difference :=
  ((versionMetadata libs documentA).zip (versionMetadata libs documentB)).filterMap
    fun ((key, a), (_, b)) =>
      if a = b then none
      else some (changedEntry libs labelA labelB key (.json (.str a)) (.json (.str b)) "")

/-- The report on the entries of all dimensions. -/
def reportOf (dimensions : List (String × List Difference)) : SchemaDiffReport :=
  { labelA := labelA
    labelB := labelB
    entries := dimensions.flatMap fun (dimension, entries) =>
      (entries.take maxEntriesPerDimension).map fun entry => (dimension, entry)
    dimensionTotals := (dimensions.map fun (dimension, entries) => (dimension, entries.length)
      ).insertionSort fun x y => textLe x.1 y.1
    identicalDimensions := allDimensions.filter fun dimension =>
      (dimensions.lookup dimension).all (·.isEmpty)
    truncatedDimensions := (dimensions.filter fun (_, entries) =>
      maxEntriesPerDimension < entries.length).map Prod.fst
    disclaimer := possibleCausesDisclaimer }

end Compare

/-- `diff_schemas`. -/
def diffSchemas (libs : Libraries) (documentA documentB : Dict) (labelA labelB : String) :
    Except Raised SchemaDiffReport := do
  let keysA := endpointKeys libs documentA
  let keysB := endpointKeys libs documentB
  let common := sortedCommon pairLe keysA keysB
  let named := fun (key : String × String) => key.2 ++ " " ++ key.1
  let paths :=
    (sortedOnly pairLe keysB keysA).map (⟨named ·, .addedInB, "present only in " ++ labelB⟩) ++
      (sortedOnly pairLe keysA keysB).map (⟨named ·, .removedInB, "present only in " ++ labelA⟩)
  let operations ← common.mapM (compareOperation libs labelA labelB documentA documentB)
  let namesA := modelNames documentA
  let namesB := modelNames documentB
  let models ← (sortedCommon textLe namesA namesB).mapM
    (compareModel libs labelA labelB documentA documentB)
  let endpoints ← common.mapM (compareEndpoint libs labelA labelB (parseOpenapi libs documentA)
    (parseOpenapi libs documentB))
  return reportOf labelA labelB (allDimensions.zip
    [paths, operations.flatMap Prod.fst, operations.flatMap Prod.snd,
      onlyEntries labelA labelB namesA namesB, models.flatMap (·.fields), models.flatMap (·.enums),
      models.flatMap (·.defaults), endpoints.flatMap (·.packages), endpoints.flatMap (·.auth),
      endpoints.flatMap (·.privileges), endpoints.flatMap (·.applies),
      compareExtensions libs labelA labelB documentA documentB,
      compareVersions libs labelA labelB documentA documentB])

/-! ### What returns -/

/-- A value is returned. -/
def Returns {α : Type} (action : Except Raised α) : Prop := ∃ value, action = .ok value

section Returns

variable {α β : Type}

theorem returns_pure (value : α) : Returns (pure value) ↔ True := iff_true_intro ⟨value, rfl⟩

theorem returns_bind_iff {action : Except Raised α} {next : α → Except Raised β} {P : Prop}
    (h : ∀ value, Returns (next value) ↔ P) : Returns (action >>= next) ↔ Returns action ∧ P := by
  cases action with
  | error e =>
    refine iff_of_false ?_ ?_
    · rintro ⟨_, hvalue⟩
      cases hvalue
    · rintro ⟨⟨_, hvalue⟩, -⟩
      cases hvalue
  | ok value =>
    exact (h value).trans (and_iff_right ⟨value, rfl⟩).symm

theorem returns_map_iff {action : Except Raised α} {f : α → β} :
    Returns (action.map f) ↔ Returns action := by
  cases action with
  | error e =>
    refine iff_of_false ?_ ?_ <;>
    · rintro ⟨_, hvalue⟩
      cases hvalue
  | ok value => exact iff_of_true ⟨f value, rfl⟩ ⟨value, rfl⟩

/-- A loop returns exactly if it does for each item. -/
theorem returns_mapM_iff {f : α → Except Raised β} {items : List α} :
    Returns (items.mapM f) ↔ ∀ item ∈ items, Returns (f item) := by
  induction items with
  | nil => exact iff_of_true ⟨[], rfl⟩ nofun
  | cons item items ih =>
    rw [List.mapM_cons, List.forall_mem_cons, ← ih]
    refine returns_bind_iff fun _ => ?_
    rw [returns_bind_iff fun _ => returns_pure _, and_true]

end Returns

/-- A missing value, a list, a string or a dictionary can be iterated over. -/
def Iterable : Option Json → Prop
  | none | some (.arr _) | some (.str _) | some (.obj _) => True
  | some _ => False

/-- A missing value, a list or a string can be sliced. -/
def Sliceable : Option Json → Prop
  | none | some (.arr _) | some (.str _) => True
  | some _ => False

/-- No character reference of the text has too many digits. -/
def Unescapable (raw : String) : Prop := hasLongReference (removeTags raw.toList) = false

theorem iterate_returns_iff {value : Option Json} : Returns (iterate value) ↔ Iterable value := by
  cases value with
  | none => exact iff_of_true ⟨_, rfl⟩ trivial
  | some value =>
    cases value
    case arr | str | obj => exact iff_of_true ⟨_, rfl⟩ trivial
    all_goals
      refine iff_of_false ?_ id
      rintro ⟨_, h⟩
      cases h

theorem slice_returns_iff {count : ℕ} {value : Option Json} :
    Returns (slice count value) ↔ Sliceable value := by
  cases value with
  | none => exact iff_of_true ⟨_, rfl⟩ trivial
  | some value =>
    cases value
    case arr | str => exact iff_of_true ⟨_, rfl⟩ trivial
    all_goals
      refine iff_of_false ?_ id
      rintro ⟨_, h⟩
      cases h

section Documents

variable {libs : Libraries}

theorem stripHtml_returns_iff {raw : String} : Returns (stripHtml libs raw) ↔ Unescapable raw := by
  rw [stripHtml, Unescapable]
  by_cases h : hasLongReference (removeTags raw.toList) = true
  · rw [if_pos h, h]
    refine iff_of_false ?_ nofun
    rintro ⟨_, hvalue⟩
    cases hvalue
  · rw [if_neg h]
    exact iff_of_true ⟨_, rfl⟩ (Bool.not_eq_true _ ▸ h)

theorem extractDetail_returns_iff {text label : String} : Returns (extractDetail libs text label) ↔
    ∀ group ∈ libs.searchDetail label text, Unescapable group := by
  rw [extractDetail]
  cases libs.searchDetail label text with
  | none => exact iff_of_true ⟨_, rfl⟩ nofun
  | some group =>
    rw [returns_map_iff, stripHtml_returns_iff]
    exact ⟨by rintro h _ ⟨⟩; exact h, fun h => h group rfl⟩

/-- The operation of an endpoint in the index can be read. -/
def ReadableOperation (libs : Libraries) (operation : Dict) : Prop :=
  let rawDescription := libs.str ((get "description" operation).getD (.str ""))
  Sliceable (get "tags" operation) ∧
    Unescapable ((libs.searchDescription rawDescription).getD rawDescription) ∧
    ∀ label ∈ detailLabels, ∀ group ∈ libs.searchDetail label rawDescription, Unescapable group

/-- An endpoint is found or not, exactly if its operation can be read. -/
theorem lookupEndpoint_returns_iff {index : OpenApiIndex} {path method : String} :
    Returns (lookupEndpoint libs index path method) ↔
      ∀ operation ∈ index.find (path, libs.upper method), ReadableOperation libs operation := by
  rw [lookupEndpoint]
  cases index.find (path, libs.upper method) with
  | none => exact iff_of_true ⟨_, rfl⟩ nofun
  | some operation =>
    dsimp only
    rw [returns_bind_iff fun _ => returns_bind_iff fun _ => returns_bind_iff fun _ =>
      returns_bind_iff fun _ => returns_bind_iff fun _ => returns_bind_iff fun _ =>
      returns_bind_iff fun _ => returns_bind_iff fun _ => returns_bind_iff fun _ =>
      returns_bind_iff fun _ => returns_bind_iff fun _ => returns_pure _]
    simp only [slice_returns_iff, extractFreeDescription, stripHtml_returns_iff,
      extractDetail_returns_iff, and_true]
    have hsome : (∀ o ∈ some operation, ReadableOperation libs o) ↔ ReadableOperation libs operation :=
      ⟨fun h => h operation rfl, by rintro h _ ⟨⟩; exact h⟩
    rw [hsome, ReadableOperation]
    simp only [detailLabels, List.forall_mem_cons, List.not_mem_nil, false_implies, implies_true,
      and_true]

theorem parametersOf_returns_iff {operation : Dict} :
    Returns (parametersOf libs operation) ↔ Iterable (get "parameters" operation) := by
  rw [parametersOf, returns_bind_iff fun _ => returns_pure _, iterate_returns_iff, and_true]

/-- The fields of a model can be read: `required` is looked at only if there are properties. -/
def ReadableFields (schema : Dict) : Prop :=
  getDict "properties" schema ≠ none → Iterable (get "required" schema)

theorem fieldsOf_returns_iff {schema : Dict} :
    Returns (fieldsOf libs schema) ↔ ReadableFields schema := by
  rw [fieldsOf, ReadableFields]
  cases getDict "properties" schema with
  | none => exact iff_of_true ⟨_, rfl⟩ fun h => absurd rfl h
  | some properties =>
    dsimp only
    rw [returns_bind_iff fun _ => returns_pure _, iterate_returns_iff, and_true]
    exact ⟨fun h _ => h, fun h => h nofun⟩

variable {labelA labelB : String} {documentA documentB : Dict}

theorem compareOperation_returns_iff {endpoint : String × String} :
    Returns (compareOperation libs labelA labelB documentA documentB endpoint) ↔
      ∀ document ∈ [documentA, documentB],
        Iterable (get "parameters" (operation libs document endpoint.1 endpoint.2)) := by
  rw [compareOperation]
  dsimp only
  rw [returns_bind_iff fun _ => returns_bind_iff fun _ => returns_pure _]
  simp only [parametersOf_returns_iff, List.forall_mem_cons, List.not_mem_nil, false_implies,
    implies_true, and_true]

theorem compareModel_returns_iff {name : String} :
    Returns (compareModel libs labelA labelB documentA documentB name) ↔
      ∀ document ∈ [documentA, documentB], ReadableFields (modelSchema document name) := by
  rw [compareModel, returns_bind_iff fun _ => returns_bind_iff fun _ => returns_pure _]
  simp only [fieldsOf_returns_iff, List.forall_mem_cons, List.not_mem_nil, false_implies,
    implies_true, and_true]

theorem compareEndpoint_returns_iff {indexA indexB : OpenApiIndex} {endpoint : String × String} :
    Returns (compareEndpoint libs labelA labelB indexA indexB endpoint) ↔
      ∀ index ∈ [indexA, indexB], ∀ operation ∈ index.find (endpoint.1, libs.upper endpoint.2),
        ReadableOperation libs operation := by
  rw [compareEndpoint]
  dsimp only
  rw [returns_bind_iff fun _ => returns_bind_iff fun _ => returns_pure _]
  simp only [lookupEndpoint_returns_iff, List.forall_mem_cons, List.not_mem_nil, false_implies,
    implies_true, and_true]

/-- What both documents have in common can be compared: the `parameters` of the operation that
stands under the method in lower case are missing, a list, a string or an object; the `tags` of the
operation in the index are missing, a list or a string, and no character reference in its
description has too many digits; and where a model has properties, its `required` is missing, a
list, a string or an object. -/
def Comparable (libs : Libraries) (documentA documentB : Dict) : Prop :=
  (∀ endpoint ∈ endpointKeys libs documentA, endpoint ∈ endpointKeys libs documentB →
    ∀ document ∈ [documentA, documentB],
      Iterable (get "parameters" (operation libs document endpoint.1 endpoint.2)) ∧
        ∀ operation ∈ (parseOpenapi libs document).find (endpoint.1, libs.upper endpoint.2),
          ReadableOperation libs operation) ∧
    ∀ name ∈ modelNames documentA, name ∈ modelNames documentB →
      ∀ document ∈ [documentA, documentB], ReadableFields (modelSchema document name)

theorem mem_sortedCommon {γ : Type} [DecidableEq γ] {le : γ → γ → Bool} {a b : List γ} {x : γ} :
    x ∈ sortedCommon le a b ↔ x ∈ a ∧ x ∈ b := by
  rw [sortedCommon, List.mem_insertionSort, List.mem_dedup, List.mem_filter, decide_eq_true_eq]

/-- The comparison of two documents returns a report exactly if what they have in common can be
compared. -/
theorem diffSchemas_returns_iff (libs : Libraries) (documentA documentB : Dict)
    (labelA labelB : String) :
    (∃ report, diffSchemas libs documentA documentB labelA labelB = .ok report) ↔
      Comparable libs documentA documentB := by
  show Returns (diffSchemas libs documentA documentB labelA labelB) ↔ _
  rw [diffSchemas]
  dsimp only
  rw [returns_bind_iff fun _ => returns_bind_iff fun _ => returns_bind_iff fun _ => returns_pure _]
  simp only [returns_mapM_iff, compareOperation_returns_iff, compareModel_returns_iff,
    compareEndpoint_returns_iff, mem_sortedCommon, and_true, and_imp]
  rw [Comparable]
  constructor
  · rintro ⟨hoperations, hmodels, hendpoints⟩
    refine ⟨fun endpoint hA hB document hdocument => ⟨hoperations endpoint hA hB document hdocument, ?_⟩,
      hmodels⟩
    refine hendpoints endpoint hA hB (parseOpenapi libs document) ?_
    exact List.mem_map_of_mem (f := parseOpenapi libs) hdocument
  · rintro ⟨hendpoints, hmodels⟩
    refine ⟨fun endpoint hA hB document hdocument => (hendpoints endpoint hA hB document hdocument).1,
      hmodels, fun endpoint hA hB index hindex => ?_⟩
    have hmem : index ∈ [documentA, documentB].map (parseOpenapi libs) := hindex
    obtain ⟨document, hdocument, rfl⟩ := List.mem_map.mp hmem
    exact (hendpoints endpoint hA hB document hdocument).2

end Documents

/-! ### Documents that cannot be compared -/

namespace Sample

/-- The libraries on texts of ASCII letters without markup. -/
def libraries : Libraries where
  upper := String.toUpper
  lower := String.toLower
  str
    | .str text => text
    | _ => "None"
  repr _ := ""
  equal _ _ := true
  searchDetail _ _ := none
  searchDescription _ := none
  unescape := id

/-- A document with one operation, whose parameters are `null`. -/
def document : Dict :=
  [("paths", .obj [("/status", .obj [("get", .obj [("parameters", .null)])])])]

end Sample

/-- Parameters that are `null` raise a `TypeError`. -/
theorem null_parameters_raise :
    diffSchemas Sample.libraries Sample.document Sample.document "a" "b" = .error .typeError := by
  have hraised : (match diffSchemas Sample.libraries Sample.document Sample.document "a" "b" with
      | .ok _ => none
      | .error e => some e) = some .typeError := by decide +kernel
  generalize diffSchemas Sample.libraries Sample.document Sample.document "a" "b" = ending at hraised
  cases ending with
  | ok report => cases hraised
  | error e => rw [Option.some.inj hraised]

end PfrestDocs
