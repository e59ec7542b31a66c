import Mathlib.Data.List.TakeDrop
import Mathlib.Logic.Function.Basic
import PfsenseMcp.Administration.ClientConfigMerge
import PfsenseMcp.Administration.SetupConfirmation

/-!
# Writing the configuration of a client

`run_client_config_write_from_environment` of `security_client_config_write.py`: the checks up to
the confirmation token, the creation of the parent directory, the backup, the temporary file that
replaces the configuration, and the restoration of the backup. Which calls of the operating system
fail is a parameter, as is how many bytes a write takes.

## Main results

* `ensureParentDirectory_ok_iff`, `writeAtomicWithBackup_ok`: what each step does;
* `completes_healthy`: where no call fails, a confirmed request completes;
* `leavesNoTrace_iff`: a request that does not complete leaves no trace exactly if the calls that
  fail come before a file is made, or only the last check fails and what it restores is whole.
-/

namespace Administration

open Python Tier1

namespace ClientConfig

/-! ### The proposed content -/

/-- `ClientType`. -/
inductive ClientType where
  | codex
  | claudeDesktop
deriving DecidableEq

namespace ClientType

def value : ClientType → String
  | codex => "codex"
  | claudeDesktop => "claude-desktop"

/-- `ClientType(client)`; `none` is a `ValueError`. -/
def ofValue? (client : String) : Option ClientType := [codex, claudeDesktop].find? (·.value = client)

end ClientType

/-- What becomes of a call of `json.loads`. -/
inductive JsonAnswer where
  | read (value : Json)
  /-- A `ValueError`. -/
  | refused
  /-- Another exception. -/
  | raised

/-- What the module takes from other libraries. -/
structure Libraries where
  /-- `tomllib.loads`. -/
  tomllibLoads : String → TomlAnswer
  /-- `json.loads` of bytes. -/
  jsonLoads : Bytes → JsonAnswer
  /-- `Path(path).expanduser()`; `none` is a `RuntimeError`. -/
  expandUser : String → Option String
  /-- The joined lines of `difflib.unified_diff` for two contents and their names. -/
  unifiedDiff : (existing proposed : Bytes) → (fromFile toFile : String) → String
  /-- `repr(text)`. -/
  repr : String → String

/-- The line end and the indentation of `json.dumps(value, indent=2)`. -/
def indent (level : ℕ) : List Char := '\n' :: List.replicate (2 * level) ' '

mutual

/-- `json.dumps(value, indent=2)` of a value at some level. -/
def dumpIndented (level : ℕ) : Json → List Char
  | .arr (x :: xs) =>
    '[' :: (indent (level + 1) ++ dumpIndented (level + 1) x ++ dumpIndentedItems level xs)
  | .obj ((key, x) :: fields) =>
    '\x7b' :: (indent (level + 1) ++ Json.dumpString true key ++ ':' :: ' ' ::
      dumpIndented (level + 1) x ++ dumpIndentedFields level fields)
  | value => Json.dumpValue true value

/-- The items of an array after the first, and its closing bracket. -/
def dumpIndentedItems (level : ℕ) : List Json → List Char
  | [] => indent level ++ [']']
  | x :: xs => ',' :: (indent (level + 1) ++ dumpIndented (level + 1) x ++ dumpIndentedItems level xs)

/-- The fields of an object after the first, and its closing brace. -/
def dumpIndentedFields (level : ℕ) : List (String × Json) → List Char
  | [] => indent level ++ ['\x7d']
  | (key, x) :: fields =>
    ',' :: (indent (level + 1) ++ Json.dumpString true key ++ ':' :: ' ' ::
      dumpIndented (level + 1) x ++ dumpIndentedFields level fields)

end

/-- `dictionary.get(key)`. -/
def getField (key : String) (fields : List (String × Json)) : Option Json :=
  (fields.find? (·.1 = key)).map Prod.snd

/-- `_merge_json`. -/
def mergeJson (jsonLoads : Bytes → JsonAnswer) (existing : Option Bytes) (command : String)
    (envVars : List (String × String)) : Except MergeError Bytes :=
  let entry := Json.obj [("command", .str command),
    ("env", .obj (envVars.map fun (key, value) => (key, .str value)))]
  let parsed : Except MergeError Json := match existing with
    | none => .ok (.obj [])
    | some existing => match jsonLoads existing with
      | .read value => .ok value
      | .refused => .error (.refused
          "Existing Claude Desktop config is not valid JSON -- refusing to touch it")
      | .raised => .error .raised
  match parsed with
  | .error e => .error e
  | .ok (.obj fields) =>
    let servers : Except MergeError (List (String × Json)) :=
      match getField "mcpServers" fields with
      | none | some .null => .ok []
      | some (.obj servers) => .ok servers
      | some _ => .error (.refused ("Existing Claude Desktop config's own 'mcpServers' is not a " ++
          "JSON object -- refusing to touch it"))
    match servers with
    | .error e => .error e
    | .ok servers =>
      let merged := Json.obj (Json.setField
        ("mcpServers", .obj (Json.setField ("pfsense", entry) servers)) fields)
      .ok (Bytes.encodeUtf8 (String.ofList (dumpIndented 0 merged ++ ['\n'])))
  | .ok _ => .error (.refused
      "Existing Claude Desktop config's top level is not a JSON object -- refusing to touch it")

/-- `_compute_proposed_content`. -/
def computeProposedContent (libs : Libraries) (client : ClientType) (existing : Option Bytes)
    (command : String) (envVars : List (String × String)) : Except MergeError Bytes :=
  match client with
  | .claudeDesktop => mergeJson libs.jsonLoads existing command envVars
  | .codex => mergeToml libs.tomllibLoads existing command envVars

/-! ### Tokens -/

/-- `ClientConfigWriteBinding`. -/
structure ClientConfigWriteBinding where
  clientType : String
  configPath : String
  planDigest : String
  existingContentDigest : String
  proposedContentDigest : String

section Tokens

variable [Platform]

/-- `_content_digest`. -/
def contentDigest : Option Bytes → String
  | none => "absent"
  | some content => Platform.sha256 content

namespace ClientConfigWriteBinding

/-- `_canonical_payload`. -/
def canonicalPayload (b : ClientConfigWriteBinding) : Bytes :=
  Bytes.encodeUtf8 (Json.dumps true (Json.sortKeys (.obj
    [("client_type", .str b.clientType), ("config_path", .str b.configPath),
      ("plan_digest", .str b.planDigest), ("existing_content_digest", .str b.existingContentDigest),
      ("proposed_content_digest", .str b.proposedContentDigest)])))

/-- `derive_confirmation_token`. -/
def deriveConfirmationToken (b : ClientConfigWriteBinding) (integrityKey : Bytes) : String :=
  Platform.hmacSha256 integrityKey
    (Bytes.encodeUtf8 "pfsense-mcp-setup-client-config-write-confirm-v1" ++ [0] ++
      b.canonicalPayload)

/-- `confirmation_token_matches`; `none` is the `UnicodeEncodeError` of a candidate. -/
def confirmationTokenMatches (candidate : Text) (b : ClientConfigWriteBinding)
    (integrityKey : Bytes) : Option Bool :=
  match candidate with
  | [] => some false
  | candidate => (encodeSurrogateEscape candidate).map
      (· == encodeAscii (b.deriveConfirmationToken integrityKey))

end ClientConfigWriteBinding

end Tokens

/-! ### The operating system -/

/-- The calls of the operating system, by their place in the code. -/
inductive Call where
  | configIsSymlink | configExists | openConfig | fstatConfig | readConfig | closeConfig
  | openKey | fstatKey | readKey | closeKey
  | parentIsSymlink | parentExists | parentIsDir | parentStat
  /-- `cursor.exists()`, so many directories above the parent. -/
  | ancestorExists (above : ℕ)
  | ancestorIsSymlink | ancestorIsDir | openAncestor
  /-- The calls for one of the missing directories, counted from the outermost. -/
  | mkdir (n : ℕ) | openCreated (n : ℕ) | closeAnchor (n : ℕ) | fstatCreated (n : ℕ)
  | fchmodCreated (n : ℕ)
  | closeCreated
  | pathExists | openBackup | readExisting | writeBackup | fsyncBackup | closeBackup
  | openTemp | fsyncTemp | closeTemp | replaceConfig
  | readBack | unlinkConfig | restoreBackup
deriving DecidableEq

/-- What a write to the temporary file does. -/
inductive WriteAnswer where
  /-- An `OSError`. -/
  | failed
  /-- It takes so many bytes, or all that are left. -/
  | took (count : ℕ)

/-- What the operating system answers. A call of `Path.exists` and its like that fails raises an
`OSError`: the errors that they take for a `False` are about what is in the folder. -/
structure OperatingSystem where
  fails : Call → Bool
  /-- How many bytes of the backup are written at most. -/
  backupLimit : Option ℕ
  /-- What the first writes to the temporary file do; later ones take all that is left. -/
  writes : List WriteAnswer

/-- No call fails, and every write takes all. -/
def OperatingSystem.healthy : OperatingSystem := ⟨fun _ => false, none, []⟩

/-- What a path leads to. -/
inductive Entry where
  | absent
  /-- A symbolic link, with the bytes of the file it leads to. -/
  | symlink (target : Option Bytes)
  /-- A regular file, and whether the user owns it. -/
  | file (owned : Bool) (content : Bytes)
  /-- A directory or a device. -/
  | other
deriving DecidableEq

namespace Entry

/-- `path.is_symlink()`. -/
def isSymlink : Entry → Bool
  | symlink _ => true
  | _ => false

/-- `path.exists()`. -/
def exists? : Entry → Bool
  | absent => false
  | symlink target => target.isSome
  | file _ _ => true
  | other => true

/-- `path.read_bytes()`; `none` is an `OSError`. -/
def readBytes? : Entry → Option Bytes
  | absent => none
  | symlink target => target
  | file _ content => some content
  | other => none

end Entry

/-- The directory of the configuration. -/
inductive Parent where
  | symlink
  | present (isDir owned : Bool)
  /-- It and some of its ancestors are missing, outermost first, below an ancestor that exists. -/
  | missing (ancestor : String) (isSymlink isDir : Bool) (name : String) (names : List String)

/-- What is on the disk. -/
structure Folder where
  parent : Parent
  config : Entry
  backup : Option Bytes
  /-- The temporary files, by the process that makes them. -/
  temp : ℕ → Option Bytes
  key : Entry

/-- What is raised. -/
inductive WriteError where
  /-- A `ClientConfigWriteError`. -/
  | refused (message : String)
  | osError
  /-- Another exception. -/
  | raised

def MergeError.raise : MergeError → WriteError
  | .refused message => .refused message
  | .raised => .raised

/-- `os.close(descriptor)` in a `finally` block. -/
def OperatingSystem.closing {α : Type} (os : OperatingSystem) (close : Call)
    (body : Except WriteError α) : Except WriteError α :=
  if os.fails close then .error .osError else body

/-! ### Up to the token -/

/-- `WriteOutcome`. -/
inductive WriteOutcome where
  | inspectCurrent
  | writeCompleted
  | confirmTokenInvalid
  | blockedConfigurationError
  | blockedMalformedExistingConfig
  | blockedPathUnsafe
  | writeValidationFailedRolledBack
deriving DecidableEq

/-- `WriteResult`. -/
structure WriteResult where
  outcome : WriteOutcome
  detail : String
  clientType : Option String := none
  configPath : Option String := none
  confirmationToken : Option String := none
  diff : Option String := none
  backupPath : Option String := none

/-- The arguments of `run_client_config_write_from_environment`. -/
structure Request where
  /-- `env["PFSENSE_SETUP_CONFIRM_KEY_FILE"]`. -/
  confirmKeyFile : Option String
  client : String
  configPathOverride : Option String
  command : String
  envVars : List (String × String)
  planDigest : String
  confirmToken : Option Text

/-- `resolve_config_path`. -/
def resolveConfigPath (libs : Libraries) (client : ClientType) (override : Option String) :
    Except WriteError String :=
  match override with
  | some override =>
    match libs.expandUser override with
    | none => .error .raised
    | some path =>
      if path.toList.head? = some '/' then .ok path
      else .error (.refused ("--config-path must be an absolute path: " ++ override))
  | none =>
    match client with
    | .codex =>
      match libs.expandUser "~/.codex/config.toml" with
      | none => .error .raised
      | some path => .ok path
    | .claudeDesktop => .error (.refused
        ("claude-desktop has no documented default config path in this project's own examples -- " ++
          "pass --config-path explicitly."))

def maxExistingConfigBytes : ℕ := 4 * 1024 * 1024

def maxConfirmKeyBytes : ℕ := 4096

/-- `open_nofollow`. -/
def openNofollow (os : OperatingSystem) (open' : Call) (path : String) (entry : Entry) :
    Except WriteError Unit :=
  match entry with
  | .symlink _ => .error (.refused ("File must not be a symbolic link: " ++ path))
  | .absent => .error (.refused ("File could not be opened: " ++ path))
  | _ =>
    if os.fails open' then .error (.refused ("File could not be opened: " ++ path)) else .ok ()

/-- What `_read_existing` reads from its descriptor. -/
def readDescriptor (os : OperatingSystem) (path : String) (entry : Entry) :
    Except WriteError (Option Bytes) :=
  if os.fails .fstatConfig then
    .error (.refused ("Config file could not be read securely: " ++ path))
  else match entry with
  | .file owned content =>
    if !owned then .error (.refused ("Config file must be owned by the current user: " ++ path))
    else if content.length > maxExistingConfigBytes then
      .error (.refused ("Config file exceeds the maximum supported size: " ++ path))
    else if os.fails .readConfig then
      .error (.refused ("Config file could not be read securely: " ++ path))
    else .ok (some content)
  | _ => .error (.refused ("Config path is not a regular file: " ++ path))

/-- `_read_existing`. -/
def readExisting (os : OperatingSystem) (path : String) (entry : Entry) :
    Except WriteError (Option Bytes) :=
  if os.fails .configIsSymlink then .error .osError
  else if entry.isSymlink then
    .error (.refused ("Config path must not be a symbolic link: " ++ path))
  else if os.fails .configExists then .error .osError
  else if !entry.exists? then .ok none
  else match openNofollow os .openConfig path entry with
  | .error e => .error e
  | .ok () => os.closing .closeConfig (readDescriptor os path entry)

/-- `value.strip()` of bytes. -/
def stripBytes (value : Bytes) : Bytes :=
  let space := fun (b : UInt8) => (9 ≤ b.toNat && b.toNat ≤ 13) || b.toNat == 32
  ((value.dropWhile space).reverse.dropWhile space).reverse

/-- What `_load_confirm_key` reads from its descriptor. -/
def readKeyDescriptor (os : OperatingSystem) (path : String) (entry : Entry) :
    Except WriteError Bytes :=
  if os.fails .fstatKey then
    .error (.refused ("Setup-apply confirmation key could not be read securely: " ++ path))
  else match entry with
  | .file _ content =>
    if content.length > maxConfirmKeyBytes then .error (.refused
      ("Setup-apply confirmation key exceeds the maximum supported size: " ++ path))
    else if os.fails .readKey then
      .error (.refused ("Setup-apply confirmation key could not be read securely: " ++ path))
    else .ok content
  | _ => .error (.refused ("Setup-apply confirmation key is not a regular file: " ++ path))

/-- `_load_confirm_key`. -/
def loadConfirmKey (libs : Libraries) (os : OperatingSystem) (confirmKeyFile : Option String)
    (entry : Entry) : Except WriteError Bytes :=
  match confirmKeyFile with
  | none => .error (.refused
      "Missing required environment variable: PFSENSE_SETUP_CONFIRM_KEY_FILE")
  | some rawPath =>
    if Bytes.strip rawPath = "" then .error (.refused
      "Missing required environment variable: PFSENSE_SETUP_CONFIRM_KEY_FILE")
    else match libs.expandUser rawPath with
    | none => .error .raised
    | some path =>
      match openNofollow os .openKey path entry with
      | .error e => .error e
      | .ok () =>
        match os.closing .closeKey (readKeyDescriptor os path entry) with
        | .error e => .error e
        | .ok value =>
          if stripBytes value = [] then
            .error (.refused ("Setup-apply confirmation key is empty: " ++ path))
          else .ok (stripBytes value)

/-- `_PATH_SAFETY_MESSAGE_MARKERS`. -/
def pathSafetyMessageMarkers : List String :=
  ["symbolic link", "regular file", "owned by", "is not a directory", "unsafe artifact"]

/-- `_classify_path_safety_error`. -/
def classifyPathSafetyError (message : String) : WriteOutcome :=
  if pathSafetyMessageMarkers.any fun marker => decide (marker.toList <:+: message.toList) then
    .blockedPathUnsafe
  else .blockedConfigurationError

/-- What becomes of a request before a file is touched. -/
inductive Inspected where
  | ended (result : WriteResult)
  | matched (client : ClientType) (path : String) (proposed : Bytes)

/-- `run_client_config_write_from_environment`, up to the check of the token. -/
def inspect [Platform] (libs : Libraries) (os : OperatingSystem) (req : Request) (folder : Folder) :
    Except WriteError Inspected :=
  match ClientType.ofValue? req.client with
  | none => .ok (.ended
      { outcome := .blockedConfigurationError
        detail := libs.repr req.client ++ " is not a valid ClientType" })
  | some client =>
    match resolveConfigPath libs client req.configPathOverride with
    | .error (.refused message) =>
      .ok (.ended { outcome := .blockedConfigurationError, detail := message })
    | .error e => .error e
    | .ok path =>
      match readExisting os path folder.config with
      | .error (.refused message) => .ok (.ended
          { outcome := classifyPathSafetyError message, detail := message
            clientType := client.value, configPath := path })
      | .error e => .error e
      | .ok existing =>
        match computeProposedContent libs client existing req.command req.envVars with
        | .error (.refused message) => .ok (.ended
            { outcome := .blockedMalformedExistingConfig, detail := message
              clientType := client.value, configPath := path })
        | .error .raised => .error .raised
        | .ok proposed =>
          let binding : ClientConfigWriteBinding :=
            { clientType := client.value
              configPath := path
              planDigest := req.planDigest
              existingContentDigest := contentDigest existing
              proposedContentDigest := contentDigest proposed }
          match loadConfirmKey libs os req.confirmKeyFile folder.key with
          | .error (.refused message) => .ok (.ended
              { outcome := .blockedConfigurationError, detail := message
                clientType := client.value, configPath := path })
          | .error e => .error e
          | .ok integrityKey =>
            match req.confirmToken with
            | none => .ok (.ended
                { outcome := .inspectCurrent
                  detail := "Proposed change is ready. Re-run with --confirm <TOKEN> (shown below) " ++
                    "to write it."
                  clientType := client.value
                  configPath := path
                  confirmationToken := binding.deriveConfirmationToken integrityKey
                  diff := libs.unifiedDiff (existing.getD []) proposed (path ++ " (current)")
                    (path ++ " (proposed)") })
            | some token =>
              match binding.confirmationTokenMatches token integrityKey with
              | none => .error .raised
              | some false => .ok (.ended
                  { outcome := .confirmTokenInvalid
                    detail := "The supplied --confirm token does not match this exact " ++
                      "client/path/plan/current-file-state. Refused before any file was touched. " ++
                      "If the file changed since inspection, re-inspect first."
                    clientType := client.value
                    configPath := path })
              | some true => .ok (.matched client path proposed)

/-! ### The parent directory -/

/-- A path without its last component, and that component. -/
def splitPath (path : String) : String × String :=
  let name := (path.toList.reverse.takeWhile (· ≠ '/')).reverse
  let parent := (path.toList.reverse.dropWhile (· ≠ '/')).drop 1 |>.reverse
  (String.ofList (if parent = [] then ['/'] else parent), String.ofList name)

/-- `directory / name`. -/
def joinPath (directory name : String) : String :=
  if directory = "/" then "/" ++ name else directory ++ "/" ++ name

/-- The parent, when the directories down to `ancestor` are there. -/
def Parent.below (ancestor : String) : List String → Parent
  | [] => .present true true
  | name :: names => .missing ancestor false true name names

/-- The loop of `_ensure_parent_directory` over the missing directories, and the `finally` block. -/
def createMissing (os : OperatingSystem) (ancestor : String) :
    ℕ → Parent → List String → Except WriteError Unit × Parent
  | _, parent, [] => (os.closing .closeCreated (.ok ()), parent)
  | n, parent, name :: names =>
    let directory := joinPath ancestor name
    let created := Parent.below directory names
    if os.fails (.mkdir n) then
      (os.closing .closeCreated (.error (.refused ("Could not create config directory: " ++ name))),
        parent)
    else if os.fails (.openCreated n) then
      (os.closing .closeCreated
        (.error (.refused ("Could not open newly created config directory: " ++ name))), created)
    else if os.fails (.closeAnchor n) || os.fails (.fstatCreated n) || os.fails (.fchmodCreated n) then
      (.error .osError, created)
    else createMissing os directory (n + 1) created names

/-- `_ensure_parent_directory`. No other process puts another directory in the place of a new one. -/
def ensureParentDirectory (os : OperatingSystem) (path : String) (parent : Parent) :
    Except WriteError Unit × Parent :=
  if os.fails .parentIsSymlink then (.error .osError, parent)
  else match parent with
  | .symlink =>
    (.error (.refused ("Config directory must not be a symbolic link: " ++ path)), parent)
  | .present isDir owned =>
    if os.fails .parentExists || os.fails .parentIsDir then (.error .osError, parent)
    else if !isDir then
      (.error (.refused ("Config directory path exists but is not a directory: " ++ path)), parent)
    else if os.fails .parentStat then
      (.error (.refused ("Could not inspect config directory: " ++ path)), parent)
    else if !owned then
      (.error (.refused ("Config directory must be owned by the current user: " ++ path)), parent)
    else (.ok (), parent)
  | .missing ancestor isSymlink isDir name names =>
    if os.fails .parentExists || (List.range (names.length + 2)).any fun n =>
        os.fails (.ancestorExists n) then (.error .osError, parent)
    else if os.fails .ancestorIsSymlink then (.error .osError, parent)
    else if isSymlink then
      (.error (.refused ("Config directory ancestor must not be a symbolic link: " ++ ancestor)),
        parent)
    else if os.fails .ancestorIsDir then (.error .osError, parent)
    else if !isDir then
      (.error (.refused ("Config directory ancestor is not a directory: " ++ ancestor)), parent)
    else if os.fails .openAncestor then
      (.error (.refused ("Could not open existing config directory: " ++ ancestor)), parent)
    else createMissing os ancestor 0 parent (name :: names)

/-! ### The files -/

/-- The part of `_write_atomic_with_backup` that makes the backup. -/
def backUp (os : OperatingSystem) (path : String) (folder : Folder) :
    Except WriteError (Option String) × Folder :=
  if os.fails .pathExists then (.error .osError, folder)
  else if !folder.config.exists? then (.ok none, folder)
  else if os.fails .openBackup || folder.backup.isSome then
    (.error (.refused ("Could not create backup at " ++ path ++ ".bak (a backup from a prior " ++
      "interrupted attempt may already exist -- move or remove it by hand before retrying)")),
      folder)
  else
    let created := { folder with backup := some [] }
    if os.fails .readExisting then (.error .osError, created)
    else match folder.config.readBytes? with
    | none => (.error .osError, created)
    | some existing =>
      if os.fails .writeBackup then (.error .osError, created)
      else
        let written := { folder with
          backup := some (existing.take (os.backupLimit.getD existing.length)) }
        if os.fails .fsyncBackup || os.fails .closeBackup then (.error .osError, written)
        else (.ok (some (path ++ ".bak")), written)

/-- The loop that writes to the temporary file: how it ends, and what is in the file then. -/
def writeAll (temp : String) : List WriteAnswer → Bytes → Except WriteError Unit × Bytes
  | _, [] => (.ok (), [])
  | [], content => (.ok (), content)
  | .failed :: _, _ => (.error .osError, [])
  | .took count :: more, content =>
    if min count content.length = 0 then
      (.error (.refused ("Could not write temporary file: " ++ temp)), [])
    else
      let (ending, written) := writeAll temp more (content.drop count)
      (ending, content.take count ++ written)

/-- The part of `_write_atomic_with_backup` that replaces the configuration. -/
def replaceConfig (os : OperatingSystem) (pid : ℕ) (path : String) (content : Bytes)
    (folder : Folder) : Except WriteError Unit × Folder :=
  let (parent, name) := splitPath path
  let temp := joinPath parent ("." ++ name ++ ".tmp-" ++ toString pid)
  if os.fails .openTemp || (folder.temp pid).isSome then
    (.error (.refused ("Could not create temporary file for atomic write: " ++ temp)), folder)
  else
    let (ending, written) := writeAll temp os.writes content
    let filled := { folder with temp := Function.update folder.temp pid (some written) }
    let synced := match ending with
      | .error e => .error e
      | .ok () => if os.fails .fsyncTemp then .error .osError else .ok ()
    match os.closing .closeTemp synced with
    | .error e => (.error e, filled)
    | .ok () =>
      if os.fails .replaceConfig then (.error .osError, filled)
      else (.ok (), { folder with config := .file true written })

/-- `_write_atomic_with_backup`. -/
def writeAtomicWithBackup (os : OperatingSystem) (pid : ℕ) (path : String) (content : Bytes)
    (folder : Folder) : Except WriteError (Option String) × Folder :=
  match backUp os path folder with
  | (.error e, backed) => (.error e, backed)
  | (.ok backupPath, backed) =>
    match replaceConfig os pid path content backed with
    | (.error e, replaced) => (.error e, replaced)
    | (.ok (), replaced) => (.ok backupPath, replaced)

/-- `_restore_backup`. -/
def restoreBackup (os : OperatingSystem) (backupPath : Option String) (folder : Folder) :
    Except WriteError Unit × Folder :=
  match backupPath with
  | none =>
    if os.fails .unlinkConfig then (.ok (), folder) else (.ok (), { folder with config := .absent })
  | some _ =>
    if os.fails .restoreBackup then (.error .osError, folder)
    else match folder.backup with
    | none => (.error .osError, folder)
    | some content => (.ok (), { folder with config := .file true content, backup := none })

/-- The end of `run_client_config_write_from_environment`: the new configuration is read back. -/
def readBack (os : OperatingSystem) (client : ClientType) (path : String) (proposed : Bytes)
    (backupPath : Option String) (folder : Folder) : Except WriteError WriteResult × Folder :=
  let written := if os.fails .readBack then [] else folder.config.readBytes?.getD []
  if written ≠ proposed then
    match restoreBackup os backupPath folder with
    | (.error e, folder) => (.error e, folder)
    | (.ok (), folder) =>
      (.ok { outcome := .writeValidationFailedRolledBack
             detail := "The written file did not read back as intended -- restored the original " ++
               "(or removed the new file, if none existed before) and made no lasting change."
             clientType := client.value, configPath := path, backupPath := backupPath }, folder)
  else
    (.ok { outcome := .writeCompleted
           detail := "Wrote the pfsense entry to " ++ path ++ "." ++ (match backupPath with
             | some backup => " Original backed up at " ++ backup ++ "."
             | none => "")
           clientType := client.value, configPath := path, backupPath := backupPath }, folder)

/-- The part of `run_client_config_write_from_environment` that writes and checks the files. -/
def writeFiles (os : OperatingSystem) (pid : ℕ) (client : ClientType) (path : String)
    (proposed : Bytes) (folder : Folder) : Except WriteError WriteResult × Folder :=
  match writeAtomicWithBackup os pid path proposed folder with
  | (.error (.refused message), folder) =>
    (.ok { outcome := .blockedConfigurationError, detail := message
           clientType := client.value, configPath := path }, folder)
  | (.error e, folder) => (.error e, folder)
  | (.ok backupPath, folder) => readBack os client path proposed backupPath folder

/-- `run_client_config_write_from_environment`, after the check of the token. -/
def writeConfirmed (os : OperatingSystem) (pid : ℕ) (client : ClientType) (path : String)
    (proposed : Bytes) (folder : Folder) : Except WriteError WriteResult × Folder :=
  match ensureParentDirectory os (splitPath path).1 folder.parent with
  | (.error (.refused message), parent) =>
    (.ok { outcome := classifyPathSafetyError message, detail := message
           clientType := client.value, configPath := path }, { folder with parent := parent })
  | (.error e, parent) => (.error e, { folder with parent := parent })
  | (.ok (), parent) => writeFiles os pid client path proposed { folder with parent := parent }

/-- `run_client_config_write_from_environment` in the process `pid`. -/
def runClientConfigWrite [Platform] (libs : Libraries) (os : OperatingSystem) (pid : ℕ) (req : Request)
    (folder : Folder) : Except WriteError WriteResult × Folder :=
  match inspect libs os req folder with
  | .error e => (.error e, folder)
  | .ok (.ended result) => (.ok result, folder)
  | .ok (.matched client path proposed) => writeConfirmed os pid client path proposed folder

/-! ### What the parent directory needs -/

/-- The calls for one of the missing directories succeed. -/
def Creates (os : OperatingSystem) (n : ℕ) : Prop :=
  ∀ call ∈ [Call.mkdir n, .openCreated n, .closeAnchor n, .fstatCreated n, .fchmodCreated n],
    os.fails call = false

/-- The parent is a directory of the user, or missing below a directory; and no call for it
fails. -/
def ParentUsable (os : OperatingSystem) (parent : Parent) : Prop :=
  os.fails .parentIsSymlink = false ∧ match parent with
  | .symlink => False
  | .present isDir owned =>
    isDir = true ∧ owned = true ∧
      ∀ call ∈ [Call.parentExists, .parentIsDir, .parentStat], os.fails call = false
  | .missing _ isSymlink isDir _ names =>
    isSymlink = false ∧ isDir = true ∧
      (∀ call ∈ [Call.parentExists, .ancestorIsSymlink, .ancestorIsDir, .openAncestor, .closeCreated],
        os.fails call = false) ∧
      (∀ n < names.length + 2, os.fails (.ancestorExists n) = false) ∧
      ∀ n < names.length + 1, Creates os n

/-- A parent that is a directory of the user, or is missing below a directory. -/
def Parent.Sound : Parent → Prop
  | .symlink => False
  | .present isDir owned => isDir = true ∧ owned = true
  | .missing _ isSymlink isDir _ _ => isSymlink = false ∧ isDir = true

theorem Parent.sound_below (ancestor : String) (names : List String) :
    (Parent.below ancestor names).Sound := by
  cases names with
  | nil => exact ⟨rfl, rfl⟩
  | cons name names => exact ⟨rfl, rfl⟩

theorem closing_ok_iff {α : Type} {os : OperatingSystem} {close : Call}
    {body : Except WriteError α} {a : α} :
    os.closing close body = .ok a ↔ os.fails close = false ∧ body = .ok a := by
  rw [OperatingSystem.closing]
  cases os.fails close
  · exact ⟨fun h => ⟨rfl, h⟩, And.right⟩
  · exact ⟨nofun, nofun⟩

theorem createMissing_ok_iff {os : OperatingSystem} {ancestor : String} {names : List String}
    {n : ℕ} {parent : Parent} :
    (createMissing os ancestor n parent names).1 = .ok () ↔
      (∀ k < names.length, Creates os (n + k)) ∧ os.fails .closeCreated = false := by
  induction names generalizing ancestor n parent with
  | nil =>
    rw [createMissing, closing_ok_iff]
    exact ⟨fun h => ⟨nofun, h.1⟩, fun h => ⟨h.2, rfl⟩⟩
  | cons name names ih =>
    -- the first directory, and the others
    have hsplit : (∀ k < (name :: names).length, Creates os (n + k)) ↔
        Creates os n ∧ ∀ k < names.length, Creates os (n + 1 + k) := by
      constructor
      · intro h
        refine ⟨h 0 (Nat.succ_pos _), fun k hk => ?_⟩
        have hnext := h (k + 1) (Nat.succ_lt_succ hk)
        rwa [Nat.add_comm k 1, ← Nat.add_assoc] at hnext
      · rintro ⟨hfirst, hrest⟩ k hk
        cases k with
        | zero => exact hfirst
        | succ k =>
          have hnext := hrest k (Nat.lt_of_succ_lt_succ hk)
          rwa [Nat.add_assoc, Nat.add_comm 1 k] at hnext
    rw [hsplit, createMissing]
    simp only [Creates, List.forall_mem_cons, List.not_mem_nil, false_implies, implies_true, and_true]
    split_ifs with hmkdir hopen hothers
    · simp [closing_ok_iff, hmkdir]
    · simp [closing_ok_iff, hopen]
    · simp only [Bool.or_eq_true] at hothers
      rcases hothers with (h | h) | h <;> simp [h]
    · simp only [Bool.or_eq_true, not_or, Bool.not_eq_true] at hmkdir hopen hothers
      rw [ih]
      simp only [Creates, List.forall_mem_cons, List.not_mem_nil, false_implies, implies_true,
        and_true, hmkdir, hopen, hothers, true_and]

theorem createMissing_sound {os : OperatingSystem} {ancestor : String} {names : List String} {n : ℕ}
    {parent : Parent} (h : parent.Sound) : (createMissing os ancestor n parent names).2.Sound := by
  induction names generalizing ancestor n parent with
  | nil => exact h
  | cons name names ih =>
    rw [createMissing]
    have hcreated := Parent.sound_below (joinPath ancestor name) names
    split_ifs
    · exact h
    · exact hcreated
    · exact hcreated
    · exact ih hcreated

/-- The parent is there in the end exactly if it is usable. -/
theorem ensureParentDirectory_ok_iff {os : OperatingSystem} {path : String} {parent : Parent} :
    (ensureParentDirectory os path parent).1 = .ok () ↔ ParentUsable os parent := by
  unfold ensureParentDirectory ParentUsable
  cases hsymlink : os.fails .parentIsSymlink with
  | true => simp
  | false =>
    rw [if_neg Bool.false_ne_true]
    cases parent with
    | symlink => simp
    | present isDir owned =>
      simp only [List.forall_mem_cons, List.not_mem_nil, false_implies, implies_true, and_true,
        true_and]
      split_ifs with h₁ h₂ h₃ h₄
      · rw [Bool.or_eq_true] at h₁
        rcases h₁ with h₁ | h₁ <;> simp [h₁]
      all_goals simp_all
    | missing ancestor isSymlink isDir name names =>
      simp only [List.forall_mem_cons, List.not_mem_nil, false_implies, implies_true, and_true,
        true_and]
      have hrange : ((List.range (names.length + 2)).any fun n => os.fails (.ancestorExists n)) =
          false ↔ ∀ n < names.length + 2, os.fails (.ancestorExists n) = false := by
        simp [List.any_eq_false]
      rw [← hrange]
      have hcreate : ∀ parent, (createMissing os ancestor 0 parent (name :: names)).1 = .ok () ↔
          os.fails .closeCreated = false ∧ ∀ n < names.length + 1, Creates os n := by
        intro parent
        rw [createMissing_ok_iff, and_comm]
        simp only [Nat.zero_add, List.length_cons]
      split_ifs with h₁ h₂ h₃ h₄ h₅ h₆
      · rw [Bool.or_eq_true] at h₁
        rcases h₁ with h₁ | h₁ <;> simp [h₁]
      · simp [h₂]
      · simp [h₃]
      · simp [h₄]
      · simp_all
      · simp [h₆]
      · simp only [Bool.or_eq_true, not_or, Bool.not_eq_true, Bool.not_eq_eq_eq_not, Bool.not_true,
          Bool.not_eq_false] at h₁ h₂ h₃ h₄ h₅ h₆
        simp only [hcreate, h₁, h₂, h₃, h₄, h₅, h₆, true_and]

theorem ensureParentDirectory_sound {os : OperatingSystem} {path : String} {parent : Parent}
    (h : parent.Sound) : (ensureParentDirectory os path parent).2.Sound := by
  unfold ensureParentDirectory
  cases parent with
  | symlink => exact h.elim
  | present isDir owned =>
    dsimp only
    split_ifs <;> exact h
  | missing ancestor isSymlink isDir name names =>
    dsimp only
    split_ifs
    all_goals first | exact h | exact createMissing_sound h

theorem parentUsable_healthy {parent : Parent} (h : parent.Sound) :
    ParentUsable .healthy parent := by
  refine ⟨rfl, ?_⟩
  cases parent with
  | symlink => exact h
  | present isDir owned => exact ⟨h.1, h.2, fun _ _ => rfl⟩
  | missing ancestor isSymlink isDir name names =>
    exact ⟨h.1, h.2, fun _ _ => rfl, fun _ _ => rfl, fun _ _ _ _ => rfl⟩

/-! ### What the files need -/

/-- No write of the content fails or takes nothing. -/
def WritesAll : List WriteAnswer → Bytes → Prop
  | _, [] => True
  | [], _ => True
  | .failed :: _, _ :: _ => False
  | .took count :: more, b :: content => count ≠ 0 ∧ WritesAll more ((b :: content).drop count)

/-- The calls from the temporary file to the replacement of the configuration succeed. -/
def Replaces (os : OperatingSystem) (content : Bytes) : Prop :=
  os.fails .openTemp = false ∧ WritesAll os.writes content ∧ os.fails .fsyncTemp = false ∧
    os.fails .closeTemp = false ∧ os.fails .replaceConfig = false

/-- The calls for the backup succeed. -/
def BacksUp (os : OperatingSystem) : Prop :=
  ∀ call ∈ [Call.openBackup, .readExisting, .writeBackup, .fsyncBackup, .closeBackup],
    os.fails call = false

theorem writeAll_of_writesAll {temp : String} {writes : List WriteAnswer} {content : Bytes}
    (h : WritesAll writes content) : writeAll temp writes content = (.ok (), content) := by
  induction writes generalizing content with
  | nil => cases content <;> rfl
  | cons answer more ih =>
    cases content with
    | nil => cases answer <;> rfl
    | cons b content =>
      cases answer with
      | failed => exact h.elim
      | took count =>
        have hmin : min count (b :: content).length ≠ 0 := by
          have hcount := h.1
          rw [List.length_cons]
          omega
        rw [writeAll, if_neg hmin, ih h.2]
        · simp only [List.take_append_drop]
        · exact nofun

theorem writeAll_error {temp : String} {writes : List WriteAnswer} {content : Bytes}
    (h : ¬WritesAll writes content) : ∃ e, (writeAll temp writes content).1 = .error e := by
  induction writes generalizing content with
  | nil => cases content <;> exact absurd trivial h
  | cons answer more ih =>
    cases content with
    | nil => cases answer <;> exact absurd trivial h
    | cons b content =>
      cases answer with
      | failed => exact ⟨_, rfl⟩
      | took count =>
        rw [writeAll]
        swap
        · exact nofun
        split_ifs with hmin
        · exact ⟨_, rfl⟩
        · have hcount : count ≠ 0 := by
            rintro rfl
            exact hmin (Nat.zero_min _)
          obtain ⟨e, he⟩ := @ih ((b :: content).drop count) fun hall => h ⟨hcount, hall⟩
          exact ⟨e, he⟩

section Files

variable {os : OperatingSystem} {pid : ℕ} {path : String} {content : Bytes} {folder : Folder}

theorem replaceConfig_unopened (h : os.fails .openTemp = true) :
    ∃ message, replaceConfig os pid path content folder = (.error (.refused message), folder) := by
  rw [replaceConfig]
  dsimp only
  rw [if_pos (by rw [h, Bool.true_or])]
  exact ⟨_, rfl⟩

theorem replaceConfig_ok (htemp : folder.temp pid = none) (h : Replaces os content) :
    replaceConfig os pid path content folder =
      (.ok (), { folder with config := .file true content }) := by
  obtain ⟨hopen, hwrites, hsync, hclose, hreplace⟩ := h
  rw [replaceConfig]
  simp only [hopen, htemp, writeAll_of_writesAll hwrites, hsync, hreplace, OperatingSystem.closing,
    hclose, Option.isSome_none, Bool.or_false, Bool.false_eq_true, if_false]

/-- A temporary file that was opened and did not replace the configuration is still there. -/
theorem replaceConfig_failed (htemp : folder.temp pid = none) (hopen : os.fails .openTemp = false)
    (h : ¬Replaces os content) : ∃ e written, replaceConfig os pid path content folder =
      (.error e, { folder with temp := Function.update folder.temp pid (some written) }) := by
  rw [replaceConfig]
  dsimp only
  rw [if_neg (by rw [hopen, htemp]; exact Bool.false_ne_true)]
  by_cases hwrites : WritesAll os.writes content
  · rw [writeAll_of_writesAll hwrites]
    dsimp only
    rw [OperatingSystem.closing]
    by_cases hclose : os.fails .closeTemp = true
    · rw [if_pos hclose]
      exact ⟨_, _, rfl⟩
    · rw [if_neg hclose]
      by_cases hsync : os.fails .fsyncTemp = true
      · rw [if_pos hsync]
        exact ⟨_, _, rfl⟩
      · rw [if_neg hsync]
        by_cases hreplace : os.fails .replaceConfig = true
        · rw [if_pos hreplace]
          exact ⟨_, _, rfl⟩
        · rw [Bool.not_eq_true] at hclose hsync hreplace
          exact absurd ⟨hopen, hwrites, hsync, hclose, hreplace⟩ h
  · obtain ⟨e, he⟩ := @writeAll_error (joinPath (splitPath path).1
      ("." ++ (splitPath path).2 ++ ".tmp-" ++ toString pid)) _ _ hwrites
    rw [he, OperatingSystem.closing]
    by_cases hclose : os.fails .closeTemp = true
    · rw [if_pos hclose]
      exact ⟨_, _, rfl⟩
    · rw [if_neg hclose]
      exact ⟨_, _, rfl⟩

theorem backUp_unasked (h : os.fails .pathExists = true) :
    backUp os path folder = (.error .osError, folder) := by
  rw [backUp, if_pos h]

theorem backUp_absent (h : os.fails .pathExists = false) (hconfig : folder.config = .absent) :
    backUp os path folder = (.ok none, folder) := by
  rw [backUp, if_neg (by rw [h]; exact Bool.false_ne_true), hconfig]
  rfl

theorem backUp_unopened (h : os.fails .pathExists = false) {owned : Bool} {existing : Bytes}
    (hconfig : folder.config = .file owned existing)
    (hopen : (os.fails .openBackup || folder.backup.isSome) = true) :
    ∃ message, backUp os path folder = (.error (.refused message), folder) := by
  rw [backUp, if_neg (by rw [h]; exact Bool.false_ne_true), if_neg (by rw [hconfig]; exact nofun),
    if_pos hopen]
  exact ⟨_, rfl⟩

/-- The backup of an existing configuration. -/
def backupOf (os : OperatingSystem) (existing : Bytes) : Bytes :=
  existing.take (os.backupLimit.getD existing.length)

theorem backUp_ok (h : os.fails .pathExists = false) {owned : Bool} {existing : Bytes}
    (hconfig : folder.config = .file owned existing) (hbackup : folder.backup = none)
    (hback : BacksUp os) : backUp os path folder =
      (.ok (some (path ++ ".bak")), { folder with backup := some (backupOf os existing) }) := by
  simp only [BacksUp, List.forall_mem_cons, List.not_mem_nil, false_implies, implies_true,
    and_true] at hback
  obtain ⟨hopen, hread, hwrite, hsync, hclose⟩ := hback
  rw [backUp]
  simp only [h, hconfig, hbackup, hopen, hread, hwrite, hsync, hclose, Entry.exists?,
    Entry.readBytes?, Option.isSome_none, Bool.or_false, Bool.not_true, Bool.false_eq_true,
    if_false]
  rfl

/-- A backup that was opened and not finished is still there. -/
theorem backUp_failed (h : os.fails .pathExists = false) {owned : Bool} {existing : Bytes}
    (hconfig : folder.config = .file owned existing) (hbackup : folder.backup = none)
    (hopen : os.fails .openBackup = false) (hback : ¬BacksUp os) :
    ∃ e written, backUp os path folder = (.error e, { folder with backup := some written }) := by
  rw [backUp, if_neg (by rw [h]; exact Bool.false_ne_true), if_neg (by rw [hconfig]; exact nofun),
    if_neg (by rw [hopen, hbackup]; exact Bool.false_ne_true), hconfig]
  dsimp only [Entry.readBytes?]
  split_ifs with hread hwrite hsync
  · exact ⟨_, _, rfl⟩
  · exact ⟨_, _, rfl⟩
  · exact ⟨_, _, rfl⟩
  · refine absurd ?_ hback
    simp only [Bool.or_eq_true, not_or, Bool.not_eq_true] at hread hwrite hsync
    simp [BacksUp, hopen, hread, hwrite, hsync]

end Files

/-! ### What a confirmed request has passed -/

theorem encodeUtf8_ne_nil {cs : List Char} (h : cs ≠ []) :
    Bytes.encodeUtf8 (String.ofList cs) ≠ [] := by
  intro hnil
  have hle := Bytes.length_le_encodeUtf8 (String.ofList cs)
  rw [hnil, String.toList_ofList] at hle
  exact h (List.length_eq_zero_iff.mp (Nat.le_zero.mp hle))

theorem mergeToml_ne_nil {tomllibLoads : String → TomlAnswer} {existing : Option Bytes}
    {command : String} {envVars : List (String × String)} {merged : Bytes}
    (h : mergeToml tomllibLoads existing command envVars = .ok merged) : merged ≠ [] := by
  have hmerged : ∀ text stanza, mergedText text stanza ≠ [] := by
    intro text stanza
    unfold mergedText
    dsimp only
    split
    · exact List.append_ne_nil_of_right_ne_nil _ (List.cons_ne_nil _ _)
    · split_ifs with hend
      · intro hnil
        rw [hnil] at hend
        cases hend
      · exact List.append_ne_nil_of_right_ne_nil _ (List.cons_ne_nil _ _)
  unfold mergeToml at h
  cases existing with
  | none =>
    cases h
    exact encodeUtf8_ne_nil (List.append_ne_nil_of_right_ne_nil _ (List.cons_ne_nil _ _))
  | some existing =>
    dsimp only at h
    split at h
    · cases h
    · split at h
      · cases h
      · cases h
      · cases h
        exact encodeUtf8_ne_nil (hmerged _ _)

theorem mergeJson_ne_nil {jsonLoads : Bytes → JsonAnswer} {existing : Option Bytes}
    {command : String} {envVars : List (String × String)} {merged : Bytes}
    (h : mergeJson jsonLoads existing command envVars = .ok merged) : merged ≠ [] := by
  unfold mergeJson at h
  dsimp only at h
  split at h
  · cases h
  · split at h
    · cases h
    · cases h
      exact encodeUtf8_ne_nil (List.append_ne_nil_of_right_ne_nil _ (List.cons_ne_nil _ _))
  · cases h

theorem computeProposedContent_ne_nil {libs : Libraries} {client : ClientType}
    {existing : Option Bytes} {command : String} {envVars : List (String × String)}
    {proposed : Bytes}
    (h : computeProposedContent libs client existing command envVars = .ok proposed) :
    proposed ≠ [] := by
  cases client with
  | codex => exact mergeToml_ne_nil h
  | claudeDesktop => exact mergeJson_ne_nil h

theorem closing_healthy {α : Type} (close : Call) (body : Except WriteError α) :
    OperatingSystem.closing .healthy close body = body := rfl

theorem openNofollow_ok {os : OperatingSystem} {call : Call} {path : String} {entry : Entry}
    (h : openNofollow os call path entry = .ok ()) :
    openNofollow .healthy call path entry = .ok () := by
  cases entry with
  | absent => cases h
  | symlink target => cases h
  | file owned content => rfl
  | other => rfl

theorem readDescriptor_ok {os : OperatingSystem} {path : String} {entry : Entry}
    {existing : Option Bytes} (h : readDescriptor os path entry = .ok existing) :
    (∃ content, entry = .file true content) ∧ readDescriptor .healthy path entry = .ok existing := by
  unfold readDescriptor at h ⊢
  by_cases hfstat : os.fails .fstatConfig = true
  · rw [if_pos hfstat] at h
    cases h
  rw [if_neg hfstat] at h
  rw [if_neg (show OperatingSystem.healthy.fails .fstatConfig ≠ true from Bool.false_ne_true)]
  cases entry with
  | absent => cases h
  | symlink target => cases h
  | other => cases h
  | file owned content =>
    dsimp only at h ⊢
    cases owned with
    | false => cases h
    | true =>
      split_ifs at h ⊢ with _ hlength
      · exact absurd ‹(!true) = true› Bool.false_ne_true
      · exact ⟨⟨content, rfl⟩, h⟩

/-- A configuration that was read is absent or a file of the user, and is read again where no call
fails. -/
theorem readExisting_ok {os : OperatingSystem} {path : String} {entry : Entry}
    {existing : Option Bytes} (h : readExisting os path entry = .ok existing) :
    (entry = .absent ∨ ∃ content, entry = .file true content) ∧
      readExisting .healthy path entry = .ok existing := by
  unfold readExisting at h ⊢
  by_cases hsymlink : os.fails .configIsSymlink = true
  · rw [if_pos hsymlink] at h
    cases h
  rw [if_neg hsymlink] at h
  rw [if_neg (show OperatingSystem.healthy.fails .configIsSymlink ≠ true from Bool.false_ne_true)]
  by_cases hlink : entry.isSymlink = true
  · rw [if_pos hlink] at h
    cases h
  rw [if_neg hlink] at h ⊢
  by_cases hexists : os.fails .configExists = true
  · rw [if_pos hexists] at h
    cases h
  rw [if_neg hexists] at h
  rw [if_neg (show OperatingSystem.healthy.fails .configExists ≠ true from Bool.false_ne_true)]
  by_cases habsent : (!entry.exists?) = true
  · rw [if_pos habsent] at h ⊢
    refine ⟨.inl ?_, h⟩
    cases entry with
    | absent => rfl
    | symlink target => exact absurd rfl hlink
    | file owned content => cases habsent
    | other => cases habsent
  · rw [if_neg habsent] at h ⊢
    cases hopen : openNofollow os .openConfig path entry with
    | error e =>
      rw [hopen] at h
      cases h
    | ok u =>
      rw [hopen] at h
      obtain ⟨hfile, hread⟩ := readDescriptor_ok (closing_ok_iff.mp h).2
      rw [openNofollow_ok hopen]
      exact ⟨.inr hfile, hread⟩

theorem readKeyDescriptor_ok {os : OperatingSystem} {path : String} {entry : Entry} {content : Bytes}
    (h : readKeyDescriptor os path entry = .ok content) :
    readKeyDescriptor .healthy path entry = .ok content := by
  unfold readKeyDescriptor at h ⊢
  by_cases hfstat : os.fails .fstatKey = true
  · rw [if_pos hfstat] at h
    cases h
  rw [if_neg hfstat] at h
  rw [if_neg (show OperatingSystem.healthy.fails .fstatKey ≠ true from Bool.false_ne_true)]
  cases entry with
  | absent => cases h
  | symlink target => cases h
  | other => cases h
  | file owned content =>
    dsimp only at h ⊢
    split_ifs at h with hlength
    rw [if_neg hlength]
    exact h

/-- A key that was loaded is loaded again where no call fails. -/
theorem loadConfirmKey_ok {libs : Libraries} {os : OperatingSystem} {confirmKeyFile : Option String}
    {entry : Entry} {key : Bytes} (h : loadConfirmKey libs os confirmKeyFile entry = .ok key) :
    loadConfirmKey libs .healthy confirmKeyFile entry = .ok key := by
  unfold loadConfirmKey at h ⊢
  cases confirmKeyFile with
  | none => cases h
  | some rawPath =>
    dsimp only at h ⊢
    by_cases hblank : Bytes.strip rawPath = ""
    · rw [if_pos hblank] at h
      cases h
    rw [if_neg hblank] at h ⊢
    cases hpath : libs.expandUser rawPath with
    | none =>
      rw [hpath] at h
      cases h
    | some path =>
      rw [hpath] at h
      dsimp only at h ⊢
      cases hopen : openNofollow os .openKey path entry with
      | error e =>
        rw [hopen] at h
        cases h
      | ok u =>
        rw [hopen] at h
        rw [openNofollow_ok hopen]
        dsimp only at h ⊢
        cases hread : os.closing .closeKey (readKeyDescriptor os path entry) with
        | error e =>
          rw [hread] at h
          cases h
        | ok value =>
          rw [hread] at h
          rw [closing_healthy, readKeyDescriptor_ok (closing_ok_iff.mp hread).2]
          exact h

section Confirmed

variable [Platform] {libs : Libraries} {os : OperatingSystem} {req : Request} {folder : Folder}
  {client : ClientType} {path : String} {proposed : Bytes}

/-- What has been checked of a request whose token matches. -/
theorem inspect_matched_iff : inspect libs os req folder = .ok (.matched client path proposed) ↔
    ∃ existing integrityKey token, ClientType.ofValue? req.client = some client ∧
      resolveConfigPath libs client req.configPathOverride = .ok path ∧
      readExisting os path folder.config = .ok existing ∧
      computeProposedContent libs client existing req.command req.envVars = .ok proposed ∧
      loadConfirmKey libs os req.confirmKeyFile folder.key = .ok integrityKey ∧
      req.confirmToken = some token ∧
      ClientConfigWriteBinding.confirmationTokenMatches token
        { clientType := client.value
          configPath := path
          planDigest := req.planDigest
          existingContentDigest := contentDigest existing
          proposedContentDigest := contentDigest proposed } integrityKey = some true := by
  constructor
  · intro h
    unfold inspect at h
    split at h
    · cases h
    rename_i client' hclient
    split at h
    · cases h
    · cases h
    rename_i path' hpath
    split at h
    · cases h
    · cases h
    rename_i existing hexisting
    split at h
    · cases h
    · cases h
    rename_i proposed' hproposed
    dsimp only at h
    split at h
    · cases h
    · cases h
    rename_i integrityKey hkey
    split at h
    · cases h
    rename_i token htoken
    split at h
    · cases h
    · cases h
    rename_i hmatches
    cases h
    exact ⟨existing, integrityKey, token, hclient, hpath, hexisting, hproposed, hkey, htoken, hmatches⟩
  · rintro ⟨existing, integrityKey, token, hclient, hpath, hexisting, hproposed, hkey, htoken, hmatches⟩
    unfold inspect
    simp only [hclient, hpath, hexisting, hproposed, hkey, htoken, hmatches]

/-- A request whose token matches has a token that matches where no call fails. -/
theorem inspect_healthy (h : inspect libs os req folder = .ok (.matched client path proposed))
    {folder' : Folder} (hconfig : folder'.config = folder.config) (hkey : folder'.key = folder.key) :
    inspect libs .healthy req folder' = .ok (.matched client path proposed) := by
  obtain ⟨existing, integrityKey, token, hclient, hpath, hexisting, hproposed, hload, htoken,
    hmatches⟩ := inspect_matched_iff.mp h
  refine inspect_matched_iff.mpr ⟨existing, integrityKey, token, hclient, hpath, ?_, hproposed, ?_,
    htoken, hmatches⟩
  · rw [hconfig]
    exact (readExisting_ok hexisting).2
  · rw [hkey]
    exact loadConfirmKey_ok hload

end Confirmed

/-! ### When nothing is left behind -/

/-- The configuration is written. -/
def Completed (ending : Except WriteError WriteResult) : Prop :=
  ∃ result, ending = .ok result ∧ result.outcome = .writeCompleted

/-- There is no backup and no temporary file. -/
def NoLeftover (folder : Folder) : Prop := folder.backup = none ∧ ∀ pid, folder.temp pid = none

/-- The configuration is as it was, and there is no backup and no temporary file. -/
def Untouched (folder after : Folder) : Prop := after.config = folder.config ∧ NoLeftover after

/-- A request that does not complete leaves no trace, and completes when it is repeated, by any
process, where no call fails and the parent can be used. -/
def LeavesNoTrace [Platform] (libs : Libraries) (os : OperatingSystem) (pid : ℕ) (req : Request)
    (folder : Folder) : Prop :=
  Completed (runClientConfigWrite libs os pid req folder).1 ∨
    Untouched folder (runClientConfigWrite libs os pid req folder).2 ∧
      (folder.parent.Sound → ∀ pid', Completed (runClientConfigWrite libs .healthy pid' req
        (runClientConfigWrite libs os pid req folder).2).1)

/-- The parent cannot be used, or the call fails that makes the first file, or all calls succeed up
to the replacement of the configuration, and then it is read back, or what was there is
restored. -/
def Spared (os : OperatingSystem) (folder : Folder) (proposed : Bytes) : Prop :=
  ¬ParentUsable os folder.parent ∨ os.fails .pathExists = true ∨
    match folder.config.readBytes? with
    | none => os.fails .openTemp = true ∨
        Replaces os proposed ∧ (os.fails .readBack = false ∨ os.fails .unlinkConfig = false)
    | some existing => os.fails .openBackup = true ∨
        BacksUp os ∧ Replaces os proposed ∧ (os.fails .readBack = false ∨
          os.fails .restoreBackup = false ∧ ∀ limit ∈ os.backupLimit, existing.length ≤ limit)

section Ends

variable {os : OperatingSystem} {pid : ℕ} {client : ClientType} {path : String} {proposed : Bytes}
  {folder : Folder}

theorem writeConfirmed_unusable (h : ¬ParentUsable os folder.parent) :
    ∃ parent, (writeConfirmed os pid client path proposed folder).2 =
      { folder with parent := parent } := by
  rw [← @ensureParentDirectory_ok_iff _ ((splitPath path).1)] at h
  rw [writeConfirmed]
  generalize ensureParentDirectory os (splitPath path).1 folder.parent = ending at h
  obtain ⟨ending, parent⟩ := ending
  cases ending with
  | ok u => exact absurd rfl h
  | error e => cases e <;> exact ⟨parent, rfl⟩

theorem writeConfirmed_usable (h : ParentUsable os folder.parent) :
    ∃ parent, writeConfirmed os pid client path proposed folder =
      writeFiles os pid client path proposed { folder with parent := parent } := by
  rw [← @ensureParentDirectory_ok_iff _ ((splitPath path).1)] at h
  rw [writeConfirmed]
  generalize ensureParentDirectory os (splitPath path).1 folder.parent = ending at h
  obtain ⟨ending, parent⟩ := ending
  cases h
  exact ⟨parent, rfl⟩

theorem not_completed_error (e : WriteError) : ¬Completed (.error e) := by
  rintro ⟨result, hresult, -⟩
  cases hresult

theorem not_completed_ok {result : WriteResult} (h : result.outcome ≠ .writeCompleted) :
    ¬Completed (.ok result) := by
  rintro ⟨result, hresult, houtcome⟩
  cases hresult
  exact h houtcome

theorem readBack_ok {backupPath : Option String} (hread : os.fails .readBack = false)
    (hconfig : folder.config = .file true proposed) :
    Completed (readBack os client path proposed backupPath folder).1 := by
  unfold readBack
  rw [hread, hconfig]
  dsimp only [Entry.readBytes?]
  rw [if_neg (by simp)]
  exact ⟨_, rfl, rfl⟩

/-- Where the new configuration is not read back, what the restoration leaves is left. -/
theorem readBack_failed (backupPath : Option String) (hread : os.fails .readBack = true)
    (hne : proposed ≠ []) :
    ¬Completed (readBack os client path proposed backupPath folder).1 ∧
      (readBack os client path proposed backupPath folder).2 =
        (restoreBackup os backupPath folder).2 := by
  unfold readBack
  dsimp only
  rw [if_pos (by rw [if_pos hread]; exact hne.symm)]
  generalize restoreBackup os backupPath folder = restored
  obtain ⟨ending, restored⟩ := restored
  cases ending with
  | error e => exact ⟨not_completed_error e, rfl⟩
  | ok u => exact ⟨not_completed_ok nofun, rfl⟩

theorem writeFiles_ok {backupPath : Option String} {after : Folder}
    (hwrite : writeAtomicWithBackup os pid path proposed folder = (.ok backupPath, after)) :
    writeFiles os pid client path proposed folder =
      readBack os client path proposed backupPath after := by
  rw [writeFiles, hwrite]

/-- A write that fails leaves what it has made. -/
theorem writeFiles_failed {after : Folder} {e : WriteError}
    (hwrite : writeAtomicWithBackup os pid path proposed folder = (.error e, after)) :
    ¬Completed (writeFiles os pid client path proposed folder).1 ∧
      (writeFiles os pid client path proposed folder).2 = after := by
  rw [writeFiles, hwrite]
  cases e with
  | refused message => exact ⟨not_completed_ok nofun, rfl⟩
  | osError => exact ⟨not_completed_error _, rfl⟩
  | raised => exact ⟨not_completed_error _, rfl⟩

theorem writeAtomicWithBackup_ok {backupPath : Option String} {backed replaced : Folder}
    (hback : backUp os path folder = (.ok backupPath, backed))
    (hreplace : replaceConfig os pid path proposed backed = (.ok (), replaced)) :
    writeAtomicWithBackup os pid path proposed folder = (.ok backupPath, replaced) := by
  rw [writeAtomicWithBackup, hback]
  dsimp only
  rw [hreplace]

theorem writeAtomicWithBackup_error {backupPath : Option String} {backed replaced : Folder}
    {e : WriteError} (hback : backUp os path folder = (.ok backupPath, backed))
    (hreplace : replaceConfig os pid path proposed backed = (.error e, replaced)) :
    writeAtomicWithBackup os pid path proposed folder = (.error e, replaced) := by
  rw [writeAtomicWithBackup, hback]
  dsimp only
  rw [hreplace]

theorem backupOf_eq_iff {existing : Bytes} :
    backupOf os existing = existing ↔ ∀ limit ∈ os.backupLimit, existing.length ≤ limit := by
  rw [backupOf, List.take_eq_self_iff]
  cases os.backupLimit with
  | none => simp
  | some limit => simp

/-- Without a configuration, only the temporary file and the new configuration may be left. -/
theorem spared_absent (hempty : NoLeftover folder) (hconfig : folder.config = .absent)
    (hne : proposed ≠ []) (hexists : os.fails .pathExists = false) :
    (Completed (writeFiles os pid client path proposed folder).1 ∨
      Untouched folder (writeFiles os pid client path proposed folder).2) ↔
      os.fails .openTemp = true ∨
        Replaces os proposed ∧ (os.fails .readBack = false ∨ os.fails .unlinkConfig = false) := by
  have hback : backUp os path folder = (.ok none, folder) := backUp_absent hexists hconfig
  by_cases hopen : os.fails .openTemp = true
  · -- nothing has been made
    obtain ⟨message, hreplace⟩ := @replaceConfig_unopened _ pid path proposed folder hopen
    have hafter := (@writeFiles_failed _ _ client _ _ _ _ _
      (writeAtomicWithBackup_error hback hreplace)).2
    rw [hafter]
    exact iff_of_true (.inr ⟨rfl, hempty⟩) (.inl hopen)
  by_cases hreplaces : Replaces os proposed
  · rw [writeFiles_ok (writeAtomicWithBackup_ok hback (replaceConfig_ok (hempty.2 pid) hreplaces))]
    by_cases hread : os.fails .readBack = true
    · obtain ⟨hnot, hafter⟩ := @readBack_failed os client path proposed
        { folder with config := .file true proposed } none hread hne
      rw [hafter, restoreBackup]
      by_cases hunlink : os.fails .unlinkConfig = true
      · rw [if_pos hunlink]
        refine iff_of_false ?_ ?_
        · rintro (h | ⟨h, -⟩)
          · exact hnot h
          · rw [hconfig] at h
            cases h
        · simp [hread, hunlink, hopen]
      · rw [if_neg hunlink]
        exact iff_of_true (.inr ⟨hconfig.symm, hempty⟩)
          (.inr ⟨hreplaces, .inr (Bool.not_eq_true _ ▸ hunlink)⟩)
    · rw [Bool.not_eq_true] at hread
      exact iff_of_true (.inl (readBack_ok hread rfl)) (.inr ⟨hreplaces, .inl hread⟩)
  · -- the temporary file is left
    obtain ⟨e, written, hreplace⟩ := @replaceConfig_failed _ _ path _ _ (hempty.2 pid)
      (by rwa [Bool.not_eq_true] at hopen) hreplaces
    obtain ⟨hnot, hafter⟩ := @writeFiles_failed _ _ client _ _ _ _ _
      (writeAtomicWithBackup_error hback hreplace)
    rw [hafter]
    refine iff_of_false ?_ ?_
    · rintro (h | h)
      · exact hnot h
      · have htemp : Function.update folder.temp pid (some written) pid = none := h.2.2 pid
        rw [Function.update_self] at htemp
        cases htemp
    · simp [hopen, hreplaces]

/-- With a configuration, its backup may also be left, or not be whole. -/
theorem spared_file (hempty : NoLeftover folder) {existing : Bytes}
    (hconfig : folder.config = .file true existing) (hne : proposed ≠ [])
    (hexists : os.fails .pathExists = false) :
    (Completed (writeFiles os pid client path proposed folder).1 ∨
      Untouched folder (writeFiles os pid client path proposed folder).2) ↔
      os.fails .openBackup = true ∨
        BacksUp os ∧ Replaces os proposed ∧ (os.fails .readBack = false ∨
          os.fails .restoreBackup = false ∧ ∀ limit ∈ os.backupLimit, existing.length ≤ limit) := by
  by_cases hopen : os.fails .openBackup = true
  · -- nothing has been made
    obtain ⟨message, hback⟩ := @backUp_unopened _ path _ hexists _ _ hconfig
      (by rw [hopen, Bool.true_or])
    have hwrite : writeAtomicWithBackup os pid path proposed folder =
        (.error (.refused message), folder) := by
      rw [writeAtomicWithBackup, hback]
    rw [(@writeFiles_failed _ _ client _ _ _ _ _ hwrite).2]
    exact iff_of_true (.inr ⟨rfl, hempty⟩) (.inl hopen)
  have hopen' : os.fails .openBackup = false := by rwa [Bool.not_eq_true] at hopen
  by_cases hbacks : BacksUp os
  · have hback := @backUp_ok _ path _ hexists _ _ hconfig hempty.1 hbacks
    by_cases hreplaces : Replaces os proposed
    · rw [writeFiles_ok (writeAtomicWithBackup_ok hback (replaceConfig_ok (hempty.2 pid) hreplaces))]
      by_cases hread : os.fails .readBack = true
      · obtain ⟨hnot, hafter⟩ := @readBack_failed os client path proposed { folder with
            backup := some (backupOf os existing), config := .file true proposed }
          (some (path ++ ".bak")) hread hne
        rw [hafter, restoreBackup]
        by_cases hrestore : os.fails .restoreBackup = true
        · rw [if_pos hrestore]
          refine iff_of_false ?_ ?_
          · rintro (h | h)
            · exact hnot h
            · cases h.2.1
          · simp [hopen, hread, hrestore]
        · rw [if_neg hrestore]
          rw [Bool.not_eq_true] at hrestore
          dsimp only
          rw [← backupOf_eq_iff]
          constructor
          · rintro (h | ⟨h, -⟩)
            · exact absurd h hnot
            · -- the configuration is the backup
              rw [hconfig, Entry.file.injEq] at h
              exact .inr ⟨hbacks, hreplaces, .inr ⟨hrestore, h.2⟩⟩
          · rintro (h | ⟨-, -, h | ⟨-, h⟩⟩)
            · exact absurd h hopen
            · rw [hread] at h
              cases h
            · refine .inr ⟨?_, rfl, hempty.2⟩
              rw [h, hconfig]
      · rw [Bool.not_eq_true] at hread
        exact iff_of_true (.inl (readBack_ok hread rfl)) (.inr ⟨hbacks, hreplaces, .inl hread⟩)
    · -- the backup is left, whatever happens to the temporary file
      have hleft : ∃ e temp, replaceConfig os pid path proposed
          { folder with backup := some (backupOf os existing) } =
            (.error e, { folder with backup := some (backupOf os existing), temp := temp }) := by
        by_cases htemp : os.fails .openTemp = true
        · obtain ⟨message, h⟩ := @replaceConfig_unopened _ pid path proposed { folder with
              backup := some (backupOf os existing) } htemp
          exact ⟨_, _, h⟩
        · rw [Bool.not_eq_true] at htemp
          obtain ⟨e, written, h⟩ := @replaceConfig_failed _ _ path _ { folder with
            backup := some (backupOf os existing) } (hempty.2 pid) htemp hreplaces
          exact ⟨_, _, h⟩
      obtain ⟨e, temp, hreplace⟩ := hleft
      obtain ⟨hnot, hafter⟩ := @writeFiles_failed _ _ client _ _ _ _ _
        (writeAtomicWithBackup_error hback hreplace)
      rw [hafter]
      refine iff_of_false ?_ ?_
      · rintro (h | h)
        · exact hnot h
        · cases h.2.1
      · simp [hopen, hreplaces]
  · -- the backup is left
    obtain ⟨e, written, hback⟩ := @backUp_failed _ path _ hexists _ _ hconfig hempty.1 hopen'
      hbacks
    have hwrite : writeAtomicWithBackup os pid path proposed folder =
        (.error e, { folder with backup := some written }) := by
      rw [writeAtomicWithBackup, hback]
    obtain ⟨hnot, hafter⟩ := @writeFiles_failed _ _ client _ _ _ _ _ hwrite
    rw [hafter]
    refine iff_of_false ?_ ?_
    · rintro (h | h)
      · exact hnot h
      · cases h.2.1
    · simp [hopen, hbacks]

/-- The parent and the key are as they were. -/
def SameOutside (folder after : Folder) : Prop :=
  after.parent = folder.parent ∧ after.key = folder.key

theorem SameOutside.trans {a b c : Folder} (h : SameOutside a b) (h' : SameOutside b c) :
    SameOutside a c := ⟨h'.1.trans h.1, h'.2.trans h.2⟩

theorem backUp_outside : SameOutside folder (backUp os path folder).2 := by
  rw [backUp]
  cases folder.config.readBytes? with
  | none =>
    dsimp only
    split_ifs <;> exact ⟨rfl, rfl⟩
  | some existing =>
    dsimp only
    split_ifs <;> exact ⟨rfl, rfl⟩

theorem replaceConfig_outside :
    SameOutside folder (replaceConfig os pid path proposed folder).2 := by
  rw [replaceConfig]
  dsimp only
  generalize os.closing .closeTemp _ = closed
  cases closed <;> dsimp only <;> split_ifs <;> exact ⟨rfl, rfl⟩

theorem restoreBackup_outside (backupPath : Option String) :
    SameOutside folder (restoreBackup os backupPath folder).2 := by
  cases backupPath with
  | none =>
    rw [restoreBackup]
    split_ifs <;> exact ⟨rfl, rfl⟩
  | some backup =>
    rw [restoreBackup]
    split_ifs
    · exact ⟨rfl, rfl⟩
    · split <;> exact ⟨rfl, rfl⟩

theorem readBack_outside (backupPath : Option String) :
    SameOutside folder (readBack os client path proposed backupPath folder).2 := by
  have hrestore := @restoreBackup_outside os folder backupPath
  unfold readBack
  generalize (if os.fails .readBack then [] else folder.config.readBytes?.getD []) = written
  dsimp only
  split_ifs
  · generalize restoreBackup os backupPath folder = restored at hrestore
    obtain ⟨ending, restored⟩ := restored
    cases ending <;> exact hrestore
  · exact ⟨rfl, rfl⟩

theorem writeFiles_outside :
    SameOutside folder (writeFiles os pid client path proposed folder).2 := by
  have hwrite : SameOutside folder (writeAtomicWithBackup os pid path proposed folder).2 := by
    have hback := @backUp_outside os path folder
    rw [writeAtomicWithBackup]
    generalize backUp os path folder = backed at hback
    obtain ⟨ending, backed⟩ := backed
    cases ending with
    | error e => exact hback
    | ok backupPath =>
      have hreplace := @replaceConfig_outside os pid path proposed backed
      dsimp only
      generalize replaceConfig os pid path proposed backed = replaced at hreplace
      obtain ⟨ending, replaced⟩ := replaced
      cases ending <;> exact hback.trans hreplace
  rw [writeFiles]
  generalize writeAtomicWithBackup os pid path proposed folder = written at hwrite
  obtain ⟨ending, written⟩ := written
  cases ending with
  | error e => cases e <;> exact hwrite
  | ok backupPath => exact hwrite.trans (readBack_outside backupPath)

theorem writeConfirmed_outside : (writeConfirmed os pid client path proposed folder).2.key = folder.key ∧
    (folder.parent.Sound → (writeConfirmed os pid client path proposed folder).2.parent.Sound) := by
  have hsound := @ensureParentDirectory_sound os ((splitPath path).1) folder.parent
  rw [writeConfirmed]
  generalize ensureParentDirectory os (splitPath path).1 folder.parent = ending at hsound
  obtain ⟨ending, parent⟩ := ending
  cases ending with
  | error e => cases e <;> exact ⟨rfl, hsound⟩
  | ok u =>
    obtain ⟨hparent, hkey⟩ := @writeFiles_outside os pid client path proposed
      { folder with parent := parent }
    dsimp only
    rw [hparent, hkey]
    exact ⟨rfl, hsound⟩

end Ends


theorem spared_iff {os : OperatingSystem} {pid : ℕ} {folder : Folder} {client : ClientType}
    {path : String} {proposed : Bytes} (hempty : NoLeftover folder) (hne : proposed ≠ [])
    (hconfig : folder.config = .absent ∨ ∃ content, folder.config = .file true content) :
    (Completed (writeConfirmed os pid client path proposed folder).1 ∨
      Untouched folder (writeConfirmed os pid client path proposed folder).2) ↔
      Spared os folder proposed := by
  by_cases husable : ParentUsable os folder.parent
  · obtain ⟨parent, hfiles⟩ := @writeConfirmed_usable _ pid client path proposed _ husable
    rw [hfiles, Spared]
    have hsame : Untouched folder (writeFiles os pid client path proposed
        { folder with parent := parent }).2 ↔ Untouched { folder with parent := parent }
          (writeFiles os pid client path proposed { folder with parent := parent }).2 := Iff.rfl
    rw [hsame]
    by_cases hexists : os.fails .pathExists = true
    · have hwrite : writeAtomicWithBackup os pid path proposed { folder with parent := parent } =
          (.error .osError, { folder with parent := parent }) := by
        rw [writeAtomicWithBackup, backUp_unasked hexists]
      rw [(@writeFiles_failed _ _ client _ _ _ _ _ hwrite).2]
      exact iff_of_true (.inr ⟨rfl, hempty⟩) (.inr (.inl hexists))
    · rw [or_iff_right (not_not_intro husable), or_iff_right hexists]
      rw [Bool.not_eq_true] at hexists
      rcases hconfig with hconfig | ⟨existing, hconfig⟩
      · have hread : folder.config.readBytes? = none := by rw [hconfig]; rfl
        rw [hread]
        exact @spared_absent _ _ _ _ _ { folder with parent := parent } hempty hconfig hne hexists
      · have hread : folder.config.readBytes? = some existing := by rw [hconfig]; rfl
        rw [hread]
        exact @spared_file _ _ _ _ _ { folder with parent := parent } hempty _ hconfig hne hexists
  · obtain ⟨parent, hafter⟩ := @writeConfirmed_unusable _ pid client path proposed _ husable
    rw [hafter]
    exact iff_of_true (.inr ⟨rfl, hempty⟩) (.inl husable)

/-- Where no call fails, a confirmed request completes. -/
theorem completes_healthy [Platform] {libs : Libraries} {pid : ℕ} {req : Request}
    {folder : Folder} {client : ClientType} {path : String} {proposed : Bytes}
    (hmatched : inspect libs .healthy req folder =
      .ok (.matched client path proposed))
    (hsound : folder.parent.Sound) (hempty : NoLeftover folder) :
    Completed (runClientConfigWrite libs .healthy pid req folder).1 := by
  rw [runClientConfigWrite, hmatched]
  dsimp only
  obtain ⟨parent, hfiles⟩ := @writeConfirmed_usable _ pid client path proposed _
    (parentUsable_healthy hsound)
  rw [hfiles]
  have hreplaces : Replaces .healthy proposed :=
    ⟨rfl, by cases proposed <;> trivial, rfl, rfl, rfl⟩
  obtain ⟨existing, -, -, -, -, hexisting, -⟩ := inspect_matched_iff.mp hmatched
  rcases (readExisting_ok hexisting).1 with hconfig | ⟨content, hconfig⟩
  · have hback : backUp .healthy path { folder with parent := parent } =
        (.ok none, { folder with parent := parent }) := backUp_absent rfl hconfig
    rw [writeFiles_ok (writeAtomicWithBackup_ok hback (replaceConfig_ok (hempty.2 pid) hreplaces))]
    exact readBack_ok rfl rfl
  · have hback := @backUp_ok .healthy path { folder with parent := parent } rfl _ _ hconfig
      hempty.1 fun _ _ => rfl
    rw [writeFiles_ok (writeAtomicWithBackup_ok hback (replaceConfig_ok (hempty.2 pid) hreplaces))]
    exact readBack_ok rfl rfl

/-- A confirmed request that does not complete leaves no trace and can be repeated exactly if the
calls that fail come before the first file is made, or what the last check restores is whole. -/
theorem leavesNoTrace_iff [Platform] (libs : Libraries) (os : OperatingSystem) (pid : ℕ)
    (req : Request) (folder : Folder) (hempty : NoLeftover folder) {client : ClientType}
    {path : String} {proposed : Bytes}
    (hmatched : inspect libs os req folder = .ok (.matched client path proposed)) :
    LeavesNoTrace libs os pid req folder ↔ Spared os folder proposed := by
  obtain ⟨existing, -, -, -, -, hexisting, hproposed, -⟩ := inspect_matched_iff.mp hmatched
  rw [← @spared_iff _ pid _ client path _ hempty (computeProposedContent_ne_nil hproposed)
    (readExisting_ok hexisting).1]
  have hrun : runClientConfigWrite libs os pid req folder =
      writeConfirmed os pid client path proposed folder := by
    rw [runClientConfigWrite, hmatched]
  rw [LeavesNoTrace, hrun]
  refine or_congr Iff.rfl (and_iff_left_of_imp ?_)
  rintro ⟨hconfig, hleft⟩ hsound pid'
  obtain ⟨hkey, hparent⟩ := @writeConfirmed_outside os pid client path proposed folder
  exact completes_healthy (inspect_healthy hmatched hconfig hkey) (hparent hsound) hleft

/-! ### A request that leaves a backup -/

namespace Sample

/-- Libraries that read every text as an empty document. -/
def libraries : Libraries where
  tomllibLoads _ := .accepted
  jsonLoads _ := .read (.obj [])
  expandUser := some
  unifiedDiff _ _ _ _ := ""
  repr := id

/-- A request to write the configuration `/c`. -/
def request : Request where
  confirmKeyFile := some "/k"
  client := "codex"
  configPathOverride := some "/c"
  command := ""
  envVars := []
  planDigest := ""
  confirmToken := some (Text.ofString Tier1.Sample.hex)

/-- An empty configuration in a directory of the user. -/
def folder : Folder where
  parent := .present true true
  config := .file true []
  backup := none
  temp _ := none
  key := .file true [1]

/-- The same with its backup. -/
def backedUp : Folder := { folder with backup := some [] }

/-- What is to be written. -/
def proposed : Bytes := Bytes.encodeUtf8 (String.ofList (mergedText [] (tomlStanzaLines "" [])))

/-- One call fails. -/
def failing (call : Call) : OperatingSystem := ⟨fun c => c = call, none, []⟩

attribute [local instance] Tier1.Sample.platform

/-- The token of the request matches, where no call fails before. -/
theorem matched (call : Call)
    (hcall : ∀ c ∈ [Call.configIsSymlink, .configExists, .openConfig, .fstatConfig, .readConfig,
      .closeConfig, .openKey, .fstatKey, .readKey, .closeKey], (failing call).fails c = false) :
    inspect libraries (failing call) request folder = .ok (.matched .codex "/c" proposed) := by
  simp only [List.forall_mem_cons, List.not_mem_nil, false_implies, implies_true, and_true] at hcall
  obtain ⟨hsymlink, hexists, hopen, hfstat, hread, hclose, hopenKey, hfstatKey, hreadKey, hcloseKey⟩ :=
    hcall
  have hempty : Bytes.decodeUtf8 [] = some "" := Bytes.decodeUtf8_encodeUtf8 ""
  refine inspect_matched_iff.mpr ⟨some [], [1], Text.ofString Tier1.Sample.hex, by decide, rfl, ?_, ?_,
    ?_, rfl, ?_⟩
  · have hdescriptor : readDescriptor (failing call) "/c" (.file true []) = .ok (some []) := by
      simp [readDescriptor, hfstat, hread, maxExistingConfigBytes]
    simp [readExisting, folder, hsymlink, hexists, hopen, openNofollow, OperatingSystem.closing,
      hclose, hdescriptor, Entry.isSymlink, Entry.exists?]
  · simp only [computeProposedContent, mergeToml, libraries, request, hempty]
    rfl
  · have hdescriptor : readKeyDescriptor (failing call) "/k" (.file true [1]) = .ok [1] := by
      simp [readKeyDescriptor, hfstatKey, hreadKey, maxConfirmKeyBytes]
    have hblank : Bytes.strip "/k" ≠ "" := by decide +kernel
    have hstrip : stripBytes [1] = [1] := by decide
    simp [loadConfirmKey, request, libraries, folder, hblank, hopenKey, openNofollow,
      OperatingSystem.closing, hcloseKey, hdescriptor, hstrip]
  · have hencode : encodeSurrogateEscape (Text.ofString Tier1.Sample.hex) =
        some (encodeAscii Tier1.Sample.hex) := by decide +kernel
    have htext : Text.ofString Tier1.Sample.hex ≠ [] := by decide +kernel
    have hsome : ∀ (text : Text) (b : ClientConfigWriteBinding) (key : Bytes), text ≠ [] →
        b.confirmationTokenMatches text key = (encodeSurrogateEscape text).map
          (· == encodeAscii (b.deriveConfirmationToken key)) := by
      intro text b key htext
      cases text with
      | nil => exact absurd rfl htext
      | cons c cs => rfl
    rw [hsome _ _ _ htext, hencode]
    exact congrArg some (beq_self_eq_true (encodeAscii Tier1.Sample.hex))

end Sample

section Sample

attribute [local instance] Tier1.Sample.platform

open Sample

theorem leavesNoTrace_sample : LeavesNoTrace libraries (failing .openBackup) 0 request folder :=
  (leavesNoTrace_iff libraries (failing .openBackup) 0 request folder ⟨rfl, fun _ => rfl⟩
    (matched .openBackup (by decide))).mpr (.inr (.inr (.inl rfl)))

/-- The temporary file cannot be made: the backup stays, and from then on every attempt is
refused. -/
theorem backup_blocks_retry :
    NoLeftover folder ∧ folder.parent.Sound ∧
      inspect libraries (failing .openTemp) request folder =
        .ok (.matched .codex "/c" proposed) ∧
      (runClientConfigWrite libraries (failing .openTemp) 0 request folder).2 = backedUp ∧
      (∀ pid, ¬Completed (runClientConfigWrite libraries .healthy pid request
        (runClientConfigWrite libraries (failing .openTemp) 0 request folder).2).1) ∧
      ¬LeavesNoTrace libraries (failing .openTemp) 0 request folder := by
  have hmatched := matched .openTemp (by decide)
  have hrun : runClientConfigWrite libraries (failing .openTemp) 0 request folder =
      writeFiles (failing .openTemp) 0 .codex "/c" proposed folder := by
    rw [runClientConfigWrite, hmatched]
    rfl
  have hbacks : BacksUp (failing .openTemp) := by
    unfold BacksUp
    decide
  have hback : backUp (failing .openTemp) "/c" folder = (.ok (some ("/c" ++ ".bak")), backedUp) :=
    @backUp_ok _ _ _ rfl true [] rfl rfl hbacks
  obtain ⟨message, hreplace⟩ := @replaceConfig_unopened (failing .openTemp) 0 "/c" proposed
    backedUp rfl
  obtain ⟨hnot, hafter⟩ := @writeFiles_failed _ _ .codex _ _ _ _ _
    (writeAtomicWithBackup_error hback hreplace)
  rw [← hrun] at hnot hafter
  have hretry : ∀ pid, ¬Completed (runClientConfigWrite libraries .healthy pid request
      (runClientConfigWrite libraries (failing .openTemp) 0 request folder).2).1 := by
    intro pid
    have hagain : inspect libraries .healthy request backedUp =
        .ok (.matched .codex "/c" proposed) := inspect_healthy hmatched rfl rfl
    rw [hafter, runClientConfigWrite, hagain]
    obtain ⟨message, hblocked⟩ := @backUp_unopened .healthy "/c" backedUp rfl _ _ rfl rfl
    have hwrite : writeAtomicWithBackup .healthy pid "/c" proposed backedUp =
        (.error (.refused message), backedUp) := by
      rw [writeAtomicWithBackup, hblocked]
    exact (@writeFiles_failed _ _ .codex _ _ _ _ _ hwrite).1
  refine ⟨⟨rfl, fun _ => rfl⟩, ⟨rfl, rfl⟩, hmatched, hafter, hretry, ?_⟩
  rintro (h | ⟨-, h⟩)
  · exact hnot h
  · exact hretry 0 (h ⟨rfl, rfl⟩ 0)

end Sample

end ClientConfig

end Administration
