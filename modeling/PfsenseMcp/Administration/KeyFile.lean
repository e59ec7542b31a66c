import PfsenseMcp.Administration.ClientConfigWrite
import PfsenseMcp.Administration.OperationJournal

/-!
# The file of the API key

`store_api_key` and `load_api_key` of `config.py`, with the descriptor checks of `secure_file.py`.
Which calls of the operating system fail is a parameter, as is how much a write takes and what kind
of file is made; no other process touches the path. `unicodedata.category` is a parameter too.

## Main results

* `loadApiKey_stored`: a key that was stored is loaded again;
* `storeApiKey_allOrNothing_iff`: when storing is all or nothing.
-/

namespace Administration

open Python Tier1

namespace KeyFile

/-! ### Keys -/

/-- `_KEY_FILE_MAX_BYTES`. -/
def keyFileMaxBytes : ℕ := 16 * 1024

/-- `_KEY_LINE_MAX_LENGTH`. -/
def keyLineMaxLength : ℕ := 4096

/-- `char.isspace()` of a code point; a surrogate is no white space. -/
def isSpace (c : Fin 0x110000) : Bool := ((Text.scalar c).map Bytes.isSpace).getD false

/-- `text.strip()`. -/
def strip (text : Text) : Text := ((text.dropWhile isSpace).reverse.dropWhile isSpace).reverse

/-- `_contains_control_characters`. -/
def containsControlCharacters (category : Fin 0x110000 → String) (value : Text) : Bool :=
  value.any fun c => c.val < 32 || c.val = 127 || category c ∈ ["Cf", "Zl", "Zp"]

/-- What is raised. -/
inductive KeyError where
  /-- A `ConfigurationError`. -/
  | configuration (message : String)
  | osError
  /-- The `TypeError` of `compare_digest`. -/
  | typeError
deriving DecidableEq

/-- `hmac.compare_digest` of two texts: both have to be ASCII. -/
def compareDigest (a b : String) : Except KeyError Bool :=
  if (a.toList ++ b.toList).all fun c => c.toNat < 128 then .ok (a = b) else .error .typeError

/-! ### The operating system -/

/-- The calls of the operating system, by their place in the code. -/
inductive Call where
  | openKey | fstatKey | readKey | closeKey
  | openParent | create | fchmod | fstat | fsync | close | fsyncParent
  | statCreated | unlinkCreated
deriving DecidableEq

/-- What the operating system answers. -/
structure OperatingSystem where
  fails : Call → Bool
  /-- What the first writes do; later ones take all that is left. -/
  writes : List ClientConfig.WriteAnswer
  /-- Whether what is created is a regular file, and whether the user owns it. -/
  regular : Bool
  owned : Bool
  /-- Whether other users have permissions after `fchmod`. -/
  shared : Bool

/-- No call fails, every write takes all, and files are as they should be. -/
def OperatingSystem.healthy : OperatingSystem := ⟨fun _ => false, [], true, true, false⟩

/-- What is created at the path, with some content. -/
def OperatingSystem.created (os : OperatingSystem) (content : Bytes) : File :=
  ⟨false, os.regular, os.owned, os.shared, content⟩

/-! ### Loading -/

section

variable (os : OperatingSystem) (path : String)

/-- Raise a `ConfigurationError`. -/
def refuse {α : Type} (message : String) : Except KeyError α := .error (.configuration message)

/-- Raise a `ConfigurationError` unless the condition holds. -/
def demand (condition : Prop) [Decidable condition] (message : String) : Except KeyError Unit :=
  if condition then .ok () else refuse message

/-- `validate_descriptor`. -/
def validateDescriptor (file : File) : Except KeyError Unit := do
  demand (os.fails .fstatKey = false) ("File metadata could not be read: " ++ path)
  demand (file.regular = true) ("File is not a regular file: " ++ path)
  demand (file.owned = true) ("File must be owned by the current user: " ++ path)
  demand (file.shared = false)
    ("File must not grant permissions to group or other users: " ++ path)
  demand (file.content.length ≤ keyFileMaxBytes) ("File exceeds the maximum allowed size: " ++ path)

/-- The part of `load_api_key` that has the descriptor: the first line. -/
def readFirstLine (file : File) : Except KeyError Bytes := do
  validateDescriptor os path file
  demand (os.fails .readKey = false) ("Key file could not be read: " ++ path)
  .ok ((file.content.take (keyLineMaxLength + 1)).takeWhile (· ≠ 10))

/-- The last part of `load_api_key`: what the first line has to be. -/
def parseFirstLine (firstLine : Bytes) : Except KeyError String := do
  demand (firstLine.length ≤ keyLineMaxLength) ("Key file first line is too long: " ++ path)
  demand (0 ∉ firstLine) ("Key file first line contains a NUL byte: " ++ path)
  demand (¬(firstLine.any fun byte => byte < 32 || byte = 127) = true)
    ("Key file first line contains control characters: " ++ path)
  match Bytes.decodeUtf8 firstLine with
  | none => refuse ("Key file first line is not valid UTF-8: " ++ path)
  | some text =>
    demand (Bytes.strip text ≠ "") ("Key file is empty: " ++ path)
    .ok (Bytes.strip text)

/-- `load_api_key`. The descriptor is closed whatever was raised before, and if that fails, its
error is raised. -/
def loadApiKey (file : Option File) : Except KeyError String :=
  match file with
  | none => refuse ("File could not be opened: " ++ path)
  | some file =>
    if os.fails .openKey then refuse ("File could not be opened: " ++ path)
    else if file.symlink then refuse ("File must not be a symbolic link: " ++ path)
    else
      let firstLine := readFirstLine os path file
      if os.fails .closeKey then refuse ("Key file descriptor could not be closed: " ++ path)
      else firstLine >>= parseFirstLine path

/-! ### Storing -/

/-- The loop that writes: how it ends, and what is in the file then. -/
def writeAll : List ClientConfig.WriteAnswer → Bytes → Except KeyError Unit × Bytes
  | _, [] => (.ok (), [])
  | [], content => (.ok (), content)
  | .failed :: _, _ => (.error .osError, [])
  | .took count :: more, content =>
    if min count content.length = 0 then
      (refuse ("Key file could not be written: " ++ path), [])
    else
      let (ending, written) := writeAll more (content.drop count)
      (ending, content.take count ++ written)

/-- An `OSError` unless the call succeeds. -/
def succeeds (call : Call) : Except KeyError Unit :=
  if os.fails call then .error .osError else .ok ()

/-- The part of `store_api_key` after the writes. -/
def verifyStored (key : String) (file : File) : Except KeyError Unit := do
  succeeds os .fsync
  succeeds os .close
  let loaded ← loadApiKey os path (some file)
  let same ← compareDigest loaded key
  demand (same = true) ("Key file verification failed: " ++ path)
  succeeds os .fsyncParent

/-- The part of `store_api_key` after the identity of the new file is known: how it ends, and the
file. -/
def fillCreated (key : String) : Except KeyError Unit × File :=
  let (ending, written) := writeAll path os.writes (Bytes.encodeUtf8 key ++ [10])
  let file := os.created written
  (ending >>= fun _ => verifyStored os path key file, file)

/-- The handlers of `store_api_key`. -/
def handled : Except KeyError Unit → Except KeyError Unit
  | .error .osError => refuse ("Key file could not be stored safely: " ++ path)
  | ending => ending

/-- The part of `store_api_key` after the exclusive creation, with the clean-up. That unlinks the
path only if the identity of the new file is known. -/
def storeCreated (key : String) : Except KeyError Unit × Option File :=
  if os.fails .fchmod || os.fails .fstat then
    (handled path (.error .osError), some (os.created []))
  else if !os.regular || !os.owned then
    (refuse ("Key file creation produced an unsafe artifact: " ++ path), some (os.created []))
  else
    match fillCreated os path key with
    | (.ok (), file) => (.ok (), some file)
    | (ending, file) =>
      (handled path ending,
        if os.fails .statCreated || os.fails .unlinkCreated then some file else none)

/-- `store_api_key`. -/
def storeApiKey (category : Fin 0x110000 → String) (apiKey : Text) (file : Option File) :
    Except KeyError Unit × Option File :=
  if apiKey = [] ∨ apiKey ≠ strip apiKey ∨ containsControlCharacters category apiKey = true then
    (refuse "Provisioned API key is invalid", file)
  else
    match Text.toString? apiKey with
    | none => (refuse "Provisioned API key is invalid", file)
    | some key =>
      if keyLineMaxLength < (Bytes.encodeUtf8 key).length then
        (refuse "Provisioned API key exceeds the maximum supported length", file)
      else if os.fails .openParent || os.fails .create || file.isSome then
        (refuse ("Key file could not be created exclusively: " ++ path), file)
      else storeCreated os path key

end

/-! ### Keys that are accepted -/

theorem isSpace_ofChar (c : Char) (h : c.toNat < 0x110000) :
    isSpace ⟨c.toNat, h⟩ = Bytes.isSpace c := by
  rw [isSpace, Text.scalar_ofChar]
  rfl

/-- A text without surrogates is stripped as the string is. -/
theorem strip_ofString (s : String) : strip (Text.ofString s) = Text.ofString (Bytes.strip s) := by
  have hdrop : ∀ (f : Char → Fin 0x110000), (∀ c, isSpace (f c) = Bytes.isSpace c) →
      ∀ cs : List Char, (cs.map f).dropWhile isSpace = (cs.dropWhile Bytes.isSpace).map f := by
    intro f hf cs
    rw [List.dropWhile_map]
    congr 2
    ext c
    exact hf c
  have hspace : ∀ c : Char, isSpace ⟨c.toNat, by rcases Json.toNat_cases c with h | h <;> omega⟩ =
      Bytes.isSpace c := fun c => isSpace_ofChar c _
  rw [strip, Bytes.strip, Text.ofString, Text.ofString, hdrop _ hspace, ← List.map_reverse,
    hdrop _ hspace, ← List.map_reverse, String.toList_ofList]

/-- What `store_api_key` asks of a key before it touches the disk. -/
structure Accepted (category : Fin 0x110000 → String) (apiKey : Text) (key : String) : Prop where
  nonempty : apiKey ≠ []
  stripped : apiKey = strip apiKey
  printable : containsControlCharacters category apiKey = false
  encodes : Text.toString? apiKey = some key
  short : (Bytes.encodeUtf8 key).length ≤ keyLineMaxLength

section Accepted

variable {category : Fin 0x110000 → String} {apiKey : Text} {key : String}

theorem Accepted.eq_ofString (h : Accepted category apiKey key) : apiKey = Text.ofString key :=
  Text.toString?_injective h.encodes (Text.toString?_ofString key)

theorem Accepted.strip_eq (h : Accepted category apiKey key) : Bytes.strip key = key := by
  have hstripped := h.stripped
  rw [h.eq_ofString, strip_ofString] at hstripped
  have hstring := congrArg Text.toString? hstripped
  rw [Text.toString?_ofString, Text.toString?_ofString] at hstring
  exact (Option.some.inj hstring).symm

theorem Accepted.ne_empty (h : Accepted category apiKey key) : key ≠ "" := by
  rintro rfl
  exact h.nonempty h.eq_ofString

/-- No byte of the key is a control character, so that the key is one line. -/
theorem Accepted.byte (h : Accepted category apiKey key) {b : UInt8}
    (hb : b ∈ Bytes.encodeUtf8 key) : 32 ≤ b.toNat ∧ b.toNat ≠ 127 := by
  rcases Bytes.mem_of_mem_encodeUtf8 hb with hlarge | ⟨c, hc, heq⟩
  · omega
  have hmem : (⟨c.toNat, by rcases Json.toNat_cases c with h | h <;> omega⟩ : Fin 0x110000) ∈
      apiKey := by
    rw [h.eq_ofString]
    exact List.mem_map.mpr ⟨c, hc, rfl⟩
  have hprintable := List.any_eq_false.mp h.printable _ hmem
  simp only [Bool.or_eq_true, decide_eq_true_eq, not_or] at hprintable
  omega

/-- The first line of a file that holds the key is the key. -/
theorem Accepted.firstLine (h : Accepted category apiKey key) :
    ((Bytes.encodeUtf8 key ++ [10]).take (keyLineMaxLength + 1)).takeWhile (· ≠ 10) =
      Bytes.encodeUtf8 key := by
  have hlength : (Bytes.encodeUtf8 key ++ [10]).length ≤ keyLineMaxLength + 1 := by
    rw [List.length_append]
    exact Nat.succ_le_succ h.short
  rw [List.take_of_length_le hlength, List.takeWhile_append_of_pos]
  · simp
  · intro b hb
    have hbyte := (h.byte hb).1
    apply decide_eq_true
    rintro rfl
    exact absurd hbyte (by decide)

theorem Accepted.parseFirstLine_eq (h : Accepted category apiKey key) (path : String) :
    parseFirstLine path (Bytes.encodeUtf8 key) = .ok key := by
  have hnul : (0 : UInt8) ∉ Bytes.encodeUtf8 key := by
    intro hb
    exact absurd (h.byte hb).1 (by decide)
  have hcontrol : ¬((Bytes.encodeUtf8 key).any fun byte => byte < 32 || byte = 127) = true := by
    rw [List.any_eq_true]
    rintro ⟨b, hb, hcase⟩
    obtain ⟨hlow, hdel⟩ := h.byte hb
    simp only [Bool.or_eq_true, decide_eq_true_eq] at hcase
    rcases hcase with hlt | rfl
    · have : b.toNat < 32 := hlt
      omega
    · exact hdel rfl
  simp only [parseFirstLine, demand, if_pos h.short, if_pos hnul, if_pos hcontrol,
    Bytes.decodeUtf8_encodeUtf8, h.strip_eq, if_pos h.ne_empty]
  rfl

end Accepted

/-! ### Loading what was stored -/

/-- The calls of `load_api_key`. -/
def loadCalls : List Call := [.openKey, .fstatKey, .readKey, .closeKey]

section

variable {os : OperatingSystem} {path : String} {category : Fin 0x110000 → String} {apiKey : Text}
  {key : String}

/-- A file of the user alone that holds an accepted key is loaded as this key. -/
theorem loadApiKey_of_content (h : Accepted category apiKey key)
    (hcalls : ∀ call ∈ loadCalls, os.fails call = false) {file : File}
    (hsymlink : file.symlink = false) (hregular : file.regular = true) (howned : file.owned = true)
    (hshared : file.shared = false) (hcontent : file.content = Bytes.encodeUtf8 key ++ [10]) :
    loadApiKey os path (some file) = .ok key := by
  have hlength : file.content.length ≤ keyFileMaxBytes := by
    rw [hcontent, List.length_append]
    exact (Nat.succ_le_succ h.short).trans (by decide)
  have hopen : os.fails .openKey = false := hcalls _ (by decide)
  have hfstat : os.fails .fstatKey = false := hcalls _ (by decide)
  have hread : os.fails .readKey = false := hcalls _ (by decide)
  have hclose : os.fails .closeKey = false := hcalls _ (by decide)
  have hvalid : validateDescriptor os path file = .ok () := by
    simp only [validateDescriptor, demand, if_pos hfstat, if_pos hregular, if_pos howned,
      if_pos hshared, if_pos hlength]
    rfl
  have hline : readFirstLine os path file = .ok (Bytes.encodeUtf8 key) := by
    simp only [readFirstLine, hvalid, demand, if_pos hread, hcontent, h.firstLine]
    rfl
  simp only [loadApiKey, hopen, hsymlink, hclose, hline, Bool.false_eq_true, if_false]
  exact h.parseFirstLine_eq path

/-! ### How storing ends -/

/-- A computation that ends in an error that `store_api_key` raises as a `ConfigurationError`. -/
def Refuses {α : Type} (x : Except KeyError α) : Prop := ∃ e, x = .error e ∧ e ≠ .typeError

theorem refuses_refuse {α : Type} (message : String) :
    Refuses (refuse message : Except KeyError α) := ⟨_, rfl, nofun⟩

theorem Refuses.bind {α β : Type} {x : Except KeyError α} (h : Refuses x)
    (f : α → Except KeyError β) : Refuses (x >>= f) := by
  obtain ⟨e, rfl, he⟩ := h
  exact ⟨e, rfl, he⟩

theorem Refuses.handled {x : Except KeyError Unit} (h : Refuses x) :
    ∃ message, KeyFile.handled path x = .error (.configuration message) := by
  obtain ⟨e, rfl, he⟩ := h
  rcases e with message | _ | _
  · exact ⟨message, rfl⟩
  · exact ⟨_, rfl⟩
  · contradiction

theorem refuses_succeeds {call : Call} (h : os.fails call = true) : Refuses (succeeds os call) := by
  rw [succeeds, if_pos h]
  exact ⟨_, rfl, nofun⟩

theorem succeeds_eq_ok {call : Call} (h : os.fails call = false) : succeeds os call = .ok () := by
  rw [succeeds, if_neg (by simp [h])]

theorem writeAll_of_writesAll {writes : List ClientConfig.WriteAnswer} {content : Bytes}
    (h : ClientConfig.WritesAll writes content) :
    writeAll path writes content = (.ok (), content) := by
  induction writes generalizing content with
  | nil => rcases content with _ | ⟨b, content⟩ <;> rfl
  | cons answer more ih =>
    rcases content with _ | ⟨b, content⟩
    · rcases answer with _ | count <;> rfl
    rcases answer with _ | count
    · exact h.elim
    have hmin : min count (b :: content).length ≠ 0 := by
      have hcount := h.1
      rw [List.length_cons]
      omega
    rw [writeAll, if_neg hmin, ih h.2]
    · simp only [List.take_append_drop]
    · exact nofun

/-- A write that fails or takes nothing ends the loop. -/
theorem refuses_writeAll {writes : List ClientConfig.WriteAnswer} {content : Bytes}
    (h : ¬ClientConfig.WritesAll writes content) : Refuses (writeAll path writes content).1 := by
  induction writes generalizing content with
  | nil => rcases content with _ | ⟨b, content⟩ <;> exact absurd trivial h
  | cons answer more ih =>
    rcases content with _ | ⟨b, content⟩
    · rcases answer with _ | count <;> exact absurd trivial h
    rcases answer with _ | count
    · exact ⟨_, rfl, nofun⟩
    rw [writeAll]
    swap
    · exact nofun
    split_ifs with hmin
    · exact refuses_refuse _
    · refine ih fun hall => h ⟨?_, hall⟩
      rintro rfl
      exact hmin (Nat.zero_min _)

/-- The calls up to the comparison of the keys succeed. -/
def Reaches (os : OperatingSystem) (key : String) : Prop :=
  ClientConfig.WritesAll os.writes (Bytes.encodeUtf8 key ++ [10]) ∧ os.shared = false ∧
    ∀ call ∈ Call.fsync :: .close :: loadCalls, os.fails call = false

theorem refuses_demand_bind {α : Type} {condition : Prop} [Decidable condition] {message : String}
    {f : Unit → Except KeyError α} (hf : condition → Refuses (f ())) :
    Refuses (demand condition message >>= f) := by
  rw [demand]
  split_ifs with h
  · exact hf h
  · exact (refuses_refuse message).bind f

theorem refuses_validateDescriptor (path : String) (file : File)
    (h : os.fails .fstatKey = true ∨ file.shared = true) :
    Refuses (validateDescriptor os path file) := by
  refine refuses_demand_bind fun hfstat => refuses_demand_bind fun _ => refuses_demand_bind fun _ =>
    refuses_demand_bind fun hshared => ?_
  rw [hfstat, hshared] at h
  simp at h

theorem validateDescriptor_eq_ok_or (path : String) (file : File) :
    validateDescriptor os path file = .ok () ∨ Refuses (validateDescriptor os path file) := by
  by_cases h : validateDescriptor os path file = .ok ()
  · exact .inl h
  right
  by_contra hnot
  refine hnot (refuses_demand_bind fun hfstat => refuses_demand_bind fun hregular =>
    refuses_demand_bind fun howned => refuses_demand_bind fun hshared => ?_)
  by_cases hlength : file.content.length ≤ keyFileMaxBytes
  · refine absurd ?_ h
    simp only [validateDescriptor, demand, if_pos hfstat, if_pos hregular, if_pos howned,
      if_pos hshared, if_pos hlength]
    rfl
  · rw [demand, if_neg hlength]
    exact refuses_refuse _

/-- What is not private to the user, or what a call fails for, is not loaded. -/
theorem refuses_loadApiKey {content : Bytes}
    (h : os.shared = true ∨ ∃ call ∈ loadCalls, os.fails call = true) :
    Refuses (loadApiKey os path (some (os.created content))) := by
  rw [loadApiKey]
  dsimp only
  split_ifs with hopen hsymlink hclose
  · exact refuses_refuse _
  · exact refuses_refuse _
  · exact refuses_refuse _
  apply Refuses.bind
  rw [readFirstLine]
  -- The descriptor is open and is closed, so it is not valid or cannot be read.
  rcases validateDescriptor_eq_ok_or path (os.created content) with hvalid | hrefuses
  swap
  · exact hrefuses.bind _
  have hread : os.fails .readKey = true := by
    by_contra hread
    rcases h with hshared | ⟨call, hcall, hfails⟩
    · obtain ⟨e, he, -⟩ := refuses_validateDescriptor path (os.created content)
        (.inr hshared)
      rw [hvalid] at he
      contradiction
    simp only [loadCalls, List.mem_cons, List.not_mem_nil, or_false] at hcall
    rcases hcall with rfl | rfl | rfl | rfl
    · exact hopen hfails
    · obtain ⟨e, he, -⟩ := refuses_validateDescriptor path (os.created content)
        (.inl hfails)
      rw [hvalid] at he
      contradiction
    · exact hread hfails
    · exact hclose hfails
  rw [hvalid]
  refine refuses_demand_bind fun hnot => ?_
  rw [hread] at hnot
  contradiction

/-- If the calls up to the comparison do not all succeed, storing is refused before it. -/
theorem refuses_fillCreated (h : ¬Reaches os key) : Refuses (fillCreated os path key).1 := by
  rw [fillCreated]
  dsimp only
  by_cases hwrites : ClientConfig.WritesAll os.writes (Bytes.encodeUtf8 key ++ [10])
  swap
  · exact (refuses_writeAll hwrites).bind _
  rw [writeAll_of_writesAll hwrites]
  show Refuses (verifyStored os path key _)
  rw [verifyStored]
  by_cases hfsync : os.fails .fsync = true
  · exact (refuses_succeeds hfsync).bind _
  by_cases hclose : os.fails .close = true
  · rw [succeeds_eq_ok (by simpa using hfsync)]
    exact (refuses_succeeds hclose).bind _
  rw [succeeds_eq_ok (by simpa using hfsync), succeeds_eq_ok (by simpa using hclose)]
  show Refuses (loadApiKey os path _ >>= _)
  apply Refuses.bind
  apply refuses_loadApiKey
  by_contra hnot
  rw [not_or] at hnot
  refine h ⟨hwrites, by simpa using hnot.1, ?_⟩
  intro call hcall
  rcases List.mem_cons.mp hcall with rfl | hcall
  · simpa using hfsync
  rcases List.mem_cons.mp hcall with rfl | hcall
  · simpa using hclose
  · by_contra hfails
    exact hnot.2 ⟨call, hcall, by simpa using hfails⟩

/-- `compare_digest` takes the key. -/
def Ascii (key : String) : Prop := ∀ c ∈ key.toList, c.toNat < 128

instance (key : String) : Decidable (Ascii key) :=
  List.decidableBAll (fun c : Char => c.toNat < 128) key.toList

theorem compareDigest_self :
    compareDigest key key = if Ascii key then .ok true else .error .typeError := by
  have hiff : ((key.toList ++ key.toList).all fun c => decide (c.toNat < 128)) = true ↔
      Ascii key := by
    simp [Ascii, List.all_append]
  rw [compareDigest]
  by_cases h : Ascii key
  · rw [if_pos (hiff.mpr h), if_pos h, decide_eq_true rfl]
  · rw [if_neg fun hall => h (hiff.mp hall), if_neg h]

/-- At the comparison, the key decides, and then the last call. -/
theorem fillCreated_of_reaches (path : String) (haccepted : Accepted category apiKey key)
    (h : Reaches os key) (hregular : os.regular = true) (howned : os.owned = true) :
    fillCreated os path key =
      (if Ascii key then succeeds os .fsyncParent else .error .typeError,
        os.created (Bytes.encodeUtf8 key ++ [10])) := by
  obtain ⟨hwrites, hshared, hcalls⟩ := h
  have hload : loadApiKey os path (some (os.created (Bytes.encodeUtf8 key ++ [10]))) = .ok key :=
    loadApiKey_of_content haccepted
      (fun call hcall => hcalls call (List.mem_cons_of_mem _ (List.mem_cons_of_mem _ hcall)))
      rfl hregular howned hshared rfl
  rw [fillCreated, writeAll_of_writesAll hwrites]
  refine Prod.ext ?_ rfl
  show verifyStored os path key _ = _
  rw [verifyStored, succeeds_eq_ok (hcalls .fsync (by decide)),
    succeeds_eq_ok (hcalls .close (by decide)), hload]
  show (compareDigest key key >>= _) = _
  rw [compareDigest_self]
  split_ifs <;> rfl

/-! ### All or nothing -/

/-- Storing returned and the key is loaded again, or it raised a `ConfigurationError` and left what
there was. -/
def AllOrNothing (os : OperatingSystem) (path : String) (category : Fin 0x110000 → String)
    (apiKey : Text) (file : Option File) : Prop :=
  let ending := storeApiKey os path category apiKey file
  (ending.1 = .ok () ∧ ∃ key, Text.toString? apiKey = some key ∧ ∀ later : OperatingSystem,
      (∀ call ∈ loadCalls, later.fails call = false) → loadApiKey later path ending.2 = .ok key) ∨
    (∃ message, ending.1 = .error (.configuration message)) ∧ ending.2 = file

/-- The calls of the clean-up succeed. -/
def CleansUp (os : OperatingSystem) : Prop :=
  os.fails .statCreated = false ∧ os.fails .unlinkCreated = false

/-- When storing is all or nothing: the key is not accepted, or no file can be created, or the new
file is identified, and either the key can be compared and all calls succeed, or what goes wrong is
no comparison and is cleaned up. -/
def Meets (os : OperatingSystem) (category : Fin 0x110000 → String) (apiKey : Text)
    (file : Option File) : Prop :=
  ∀ key, Accepted category apiKey key →
    os.fails .openParent = false → os.fails .create = false → file = none →
    (os.fails .fchmod = false ∧ os.fails .fstat = false ∧ os.regular = true ∧ os.owned = true) ∧
    (Reaches os key → Ascii key ∧ (os.fails .fsyncParent = false ∨ CleansUp os)) ∧
    (¬Reaches os key → CleansUp os)

/-- A key that is not accepted, or for which no file can be created, changes nothing. -/
theorem storeApiKey_refused {file : Option File}
    (h : ∀ key, Accepted category apiKey key →
      os.fails .openParent = true ∨ os.fails .create = true ∨ file.isSome = true) :
    (∃ message, (storeApiKey os path category apiKey file).1 = .error (.configuration message)) ∧
      (storeApiKey os path category apiKey file).2 = file := by
  rw [storeApiKey]
  by_cases hinvalid : apiKey = [] ∨ apiKey ≠ strip apiKey ∨
      containsControlCharacters category apiKey = true
  · rw [if_pos hinvalid]
    exact ⟨⟨_, rfl⟩, rfl⟩
  rw [if_neg hinvalid]
  simp only [not_or, Bool.not_eq_true, ne_eq, not_not] at hinvalid
  obtain ⟨hnonempty, hstripped, hprintable⟩ := hinvalid
  rcases hencodes : Text.toString? apiKey with _ | key
  · exact ⟨⟨_, rfl⟩, rfl⟩
  dsimp only
  by_cases hlong : keyLineMaxLength < (Bytes.encodeUtf8 key).length
  · rw [if_pos hlong]
    exact ⟨⟨_, rfl⟩, rfl⟩
  -- An accepted key: no file is created for it.
  have hblocked := h key ⟨hnonempty, hstripped, hprintable, hencodes, Nat.not_lt.mp hlong⟩
  have hcreate : (os.fails .openParent || os.fails .create || file.isSome) = true := by
    simpa [or_assoc] using hblocked
  rw [if_neg hlong, if_pos hcreate]
  exact ⟨⟨_, rfl⟩, rfl⟩

/-- An accepted key is stored in a new file. -/
theorem storeApiKey_created (haccepted : Accepted category apiKey key)
    (hparent : os.fails .openParent = false) (hcreate : os.fails .create = false) :
    storeApiKey os path category apiKey none = storeCreated os path key := by
  have hvalid : ¬(apiKey = [] ∨ apiKey ≠ strip apiKey ∨
      containsControlCharacters category apiKey = true) := by
    rintro (h | h | h)
    · exact haccepted.nonempty h
    · exact h haccepted.stripped
    · rw [haccepted.printable] at h
      contradiction
  rw [storeApiKey, if_neg hvalid, haccepted.encodes]
  dsimp only
  rw [if_neg (Nat.not_lt.mpr haccepted.short), hparent, hcreate]
  rfl

/-- What is left where storing goes wrong in a new file that is identified. -/
theorem storeCreated_error (hfchmod : os.fails .fchmod = false) (hfstat : os.fails .fstat = false)
    (hregular : os.regular = true) (howned : os.owned = true) {e : KeyError} {stored : File}
    (h : fillCreated os path key = (.error e, stored)) :
    storeCreated os path key = (handled path (.error e),
      if os.fails .statCreated || os.fails .unlinkCreated then some stored else none) := by
  simp [storeCreated, hfchmod, hfstat, hregular, howned, h]

/-- Storing goes wrong with an error that is converted: nothing is left exactly if the clean-up
succeeds. -/
theorem storeCreated_refuses (hfchmod : os.fails .fchmod = false)
    (hfstat : os.fails .fstat = false) (hregular : os.regular = true) (howned : os.owned = true)
    (h : Refuses (fillCreated os path key).1) :
    (∃ message, (storeCreated os path key).1 = .error (.configuration message)) ∧
      ((storeCreated os path key).2 = none ↔ CleansUp os) := by
  obtain ⟨e, he, hkind⟩ := h
  rw [storeCreated_error hfchmod hfstat hregular howned (Prod.ext he rfl)]
  refine ⟨Refuses.handled ⟨e, rfl, hkind⟩, ?_⟩
  simp [CleansUp]

/-- A new file that is not identified stays. -/
theorem storeCreated_unidentified (path key : String) (h : ¬(os.fails .fchmod = false ∧
    os.fails .fstat = false ∧ os.regular = true ∧ os.owned = true)) :
    ∃ message, storeCreated os path key =
      (.error (.configuration message), some (os.created [])) := by
  rw [storeCreated]
  by_cases hcall : (os.fails .fchmod || os.fails .fstat) = true
  · rw [if_pos hcall]
    exact ⟨_, rfl⟩
  by_cases hunsafe : (!os.regular || !os.owned) = true
  · rw [if_neg hcall, if_pos hunsafe]
    exact ⟨_, rfl⟩
  · rw [Bool.not_eq_true, Bool.or_eq_false_iff] at hcall hunsafe
    simp only [Bool.not_eq_false'] at hunsafe
    exact absurd ⟨hcall.1, hcall.2, hunsafe⟩ h

/-- What comes of a new file. -/
theorem storeCreated_iff (os : OperatingSystem) (path : String)
    (haccepted : Accepted category apiKey key) :
    (((storeCreated os path key).1 = .ok () ∧ ∀ later : OperatingSystem,
        (∀ call ∈ loadCalls, later.fails call = false) →
        loadApiKey later path (storeCreated os path key).2 = .ok key) ∨
      (∃ message, (storeCreated os path key).1 = .error (.configuration message)) ∧
        (storeCreated os path key).2 = none) ↔
    (os.fails .fchmod = false ∧ os.fails .fstat = false ∧ os.regular = true ∧ os.owned = true) ∧
    (Reaches os key → Ascii key ∧ (os.fails .fsyncParent = false ∨ CleansUp os)) ∧
    (¬Reaches os key → CleansUp os) := by
  by_cases hidentified : os.fails .fchmod = false ∧ os.fails .fstat = false ∧
      os.regular = true ∧ os.owned = true
  swap
  · obtain ⟨message, heq⟩ := storeCreated_unidentified path key hidentified
    rw [heq]
    simp [hidentified]
  obtain ⟨hfchmod, hfstat, hregular, howned⟩ := hidentified
  -- A refusal meets the specification exactly if it is cleaned up.
  have hrefuses : Refuses (fillCreated os path key).1 →
      ((((storeCreated os path key).1 = .ok () ∧ ∀ later : OperatingSystem,
          (∀ call ∈ loadCalls, later.fails call = false) →
          loadApiKey later path (storeCreated os path key).2 = .ok key) ∨
        (∃ message, (storeCreated os path key).1 = .error (.configuration message)) ∧
          (storeCreated os path key).2 = none) ↔ CleansUp os) := by
    intro h
    obtain ⟨⟨message, hmessage⟩, hleft⟩ := storeCreated_refuses hfchmod hfstat hregular howned h
    rw [hmessage, hleft]
    simp
  by_cases hreaches : Reaches os key
  swap
  · rw [hrefuses (refuses_fillCreated hreaches)]
    simp [hreaches, hfchmod, hfstat, hregular, howned]
  have hfill := fillCreated_of_reaches path haccepted hreaches hregular howned
  by_cases hascii : Ascii key
  swap
  · rw [if_neg hascii] at hfill
    rw [storeCreated_error hfchmod hfstat hregular howned hfill]
    simp [handled, hreaches, hascii]
  rw [if_pos hascii] at hfill
  by_cases hsync : os.fails .fsyncParent = true
  · rw [hrefuses]
    · simp [hreaches, hascii, hsync, hfchmod, hfstat, hregular, howned]
    · rw [hfill]
      exact refuses_succeeds hsync
  · rw [Bool.not_eq_true] at hsync
    rw [succeeds_eq_ok hsync] at hfill
    have hstored : storeCreated os path key =
        (.ok (), some (os.created (Bytes.encodeUtf8 key ++ [10]))) := by
      simp [storeCreated, hfchmod, hfstat, hregular, howned, hfill]
    rw [hstored]
    have hload : ∀ later : OperatingSystem, (∀ call ∈ loadCalls, later.fails call = false) →
        loadApiKey later path (some (os.created (Bytes.encodeUtf8 key ++ [10]))) = .ok key :=
      fun later hlater =>
        loadApiKey_of_content haccepted hlater rfl hregular howned hreaches.2.1 rfl
    simp only [hreaches, hascii, hsync, hfchmod, hfstat, hregular, howned, true_and, and_true,
      true_or, not_true_eq_false, false_imp_iff, implies_true, iff_true]
    exact .inl hload

/-- When storing a key is all or nothing. -/
theorem storeApiKey_allOrNothing_iff (os : OperatingSystem) (path : String)
    (category : Fin 0x110000 → String) (apiKey : Text) (file : Option File) :
    AllOrNothing os path category apiKey file ↔ Meets os category apiKey file := by
  by_cases h : ∃ key, Accepted category apiKey key ∧ os.fails .openParent = false ∧
      os.fails .create = false ∧ file = none
  · obtain ⟨key, haccepted, hparent, hcreate, rfl⟩ := h
    have hunique : ∀ {key'}, Text.toString? apiKey = some key' → key' = key := by
      intro key' h'
      exact Option.some.inj (h'.symm.trans haccepted.encodes)
    have hstore := storeCreated_iff os path haccepted
    rw [AllOrNothing, storeApiKey_created haccepted hparent hcreate]
    constructor
    · intro hends key' haccepted' _ _ _
      rw [hunique haccepted'.encodes]
      refine hstore.mp (hends.imp_left ?_)
      rintro ⟨hok, key', hencodes, hload⟩
      exact ⟨hok, hunique hencodes ▸ hload⟩
    · intro hmeets
      refine (hstore.mpr (hmeets key haccepted hparent hcreate rfl)).imp_left ?_
      exact fun ⟨hok, hload⟩ => ⟨hok, key, haccepted.encodes, hload⟩
  · constructor
    · intro _ key haccepted hparent hcreate hfile
      exact absurd ⟨key, haccepted, hparent, hcreate, hfile⟩ h
    · intro _
      refine .inr (storeApiKey_refused fun key haccepted => ?_)
      by_contra hnot
      simp only [not_or, Bool.not_eq_true, Option.isSome_eq_false_iff, Option.isNone_iff_eq_none]
        at hnot
      exact h ⟨key, haccepted, hnot⟩

end

/-- A key with a letter that is not ASCII: no call fails, and storing it ends in a `TypeError`. -/
theorem storeApiKey_nonAscii :
    (storeApiKey .healthy "/etc/pfsense-mcp/api.key" (fun _ => "Ll") (Text.ofString "clé") none).1 =
      .error .typeError ∧
    ¬AllOrNothing .healthy "/etc/pfsense-mcp/api.key" (fun _ => "Ll") (Text.ofString "clé")
      none := by
  have hshort : (Bytes.encodeUtf8 "clé").length ≤ keyLineMaxLength :=
    (Bytes.length_encodeUtf8_le "clé").trans (by decide)
  have hstrip : Bytes.strip "clé" = "clé" := by decide
  have haccepted : Accepted (fun _ => "Ll") (Text.ofString "clé") "clé" :=
    ⟨by decide, by rw [strip_ofString, hstrip], by decide, Text.toString?_ofString _, hshort⟩
  have hreaches : Reaches .healthy "clé" := by
    refine ⟨?_, rfl, fun _ _ => rfl⟩
    rw [OperatingSystem.healthy]
    unfold ClientConfig.WritesAll
    split <;> trivial
  have hascii : ¬Ascii "clé" := by decide
  have hfill := fillCreated_of_reaches "/etc/pfsense-mcp/api.key" haccepted hreaches rfl rfl
  rw [if_neg hascii] at hfill
  have hstored := storeCreated_error rfl rfl rfl rfl hfill
  rw [AllOrNothing, storeApiKey_created haccepted rfl rfl, hstored]
  refine ⟨rfl, ?_⟩
  rintro (⟨h, -⟩ | ⟨⟨message, h⟩, -⟩)
  · exact nomatch h
  · exact absurd (Except.error.inj h) nofun

end KeyFile

end Administration
