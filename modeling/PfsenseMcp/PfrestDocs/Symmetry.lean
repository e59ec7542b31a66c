import Mathlib.Data.List.Forall2
import Mathlib.Data.List.Zip
import Mathlib.Tactic.SplitIfs
import PfsenseMcp.Python.JsonOrder
import PfsenseMcp.PfrestDocs.SchemaDiff

/-!
# The comparison of documents in the other order

`diff_schemas` with its documents and labels exchanged, and of a document with itself.

## Main results

* `compareOperation_swap`, `compareModel_swap`, `compareEndpoint_swap`, `compareExtensions_swap`,
  `compareVersions_swap`: one round of each loop, and the dimensions without a loop, with the
  documents exchanged;
* `diffSchemas_swap_and_self`: the report with the documents exchanged is the mirrored report, and a
  document differs from itself exactly in what is not a number.
-/

namespace PfrestDocs

open Python

/-! ### Sorting -/

section Orders

variable {α : Type}

/-- The order of the values that are sorted. -/
structure IsLinear (le : α → α → Bool) : Prop where
  total : ∀ x y, le x y = true ∨ le y x = true
  trans : ∀ x y z, le x y = true → le y z = true → le x z = true
  antisymm : ∀ x y, le x y = true → le y x = true → x = y

theorem keyLt_asymm {a b : String} (h : Json.keyLt a b = true) : Json.keyLt b a = false := by
  rw [← Bool.not_eq_true]
  intro hba
  have haa := Json.keyLt_trans h hba
  rw [Json.keyLt_irrefl] at haa
  exact Bool.false_ne_true haa

theorem textLe_iff {a b : String} : textLe a b = true ↔ Json.keyLt b a = false := by
  rw [textLe, Bool.not_eq_true']

theorem textLe_antisymm {a b : String} (hab : textLe a b = true) (hba : textLe b a = true) :
    a = b := by
  rw [textLe_iff] at hab hba
  by_contra hne
  rw [Json.keyLt_of_ne hne hba] at hab
  cases hab

theorem textLe_isLinear : IsLinear textLe where
  total a b := by
    rw [textLe_iff, textLe_iff]
    cases h : Json.keyLt b a with
    | false => exact Or.inl rfl
    | true => exact Or.inr (keyLt_asymm h)
  trans a b c hab hbc := by
    by_cases hne : b = c
    · rwa [← hne]
    · rw [textLe_iff] at *
      have hlt : Json.keyLt b c = true := Json.keyLt_of_ne (Ne.symm hne) hbc
      rw [← Bool.not_eq_true]
      intro hca
      rw [Json.keyLt_trans hlt hca] at hab
      cases hab
  antisymm _ _ hab hba := textLe_antisymm hab hba

theorem pairLe_iff {a b : String × String} : pairLe a b = true ↔
    Json.keyLt a.1 b.1 = true ∨ a.1 = b.1 ∧ textLe a.2 b.2 = true := by
  rw [pairLe, Bool.or_eq_true, Bool.and_eq_true, beq_iff_eq]

theorem pairLe_isLinear : IsLinear pairLe where
  total a b := by
    rw [pairLe_iff, pairLe_iff]
    by_cases hne : a.1 = b.1
    · rcases textLe_isLinear.total a.2 b.2 with h | h
      · exact Or.inl (Or.inr ⟨hne, h⟩)
      · exact Or.inr (Or.inr ⟨hne.symm, h⟩)
    · cases h : Json.keyLt a.1 b.1 with
      | true => exact Or.inl (Or.inl rfl)
      | false => exact Or.inr (Or.inl (Json.keyLt_of_ne hne h))
  trans a b c hab hbc := by
    rw [pairLe_iff] at *
    rcases hab with hab | ⟨hab, hab2⟩ <;> rcases hbc with hbc | ⟨hbc, hbc2⟩
    · exact Or.inl (Json.keyLt_trans hab hbc)
    · exact Or.inl (hbc ▸ hab)
    · exact Or.inl (hab ▸ hbc)
    · exact Or.inr ⟨hab.trans hbc, textLe_isLinear.trans _ _ _ hab2 hbc2⟩
  antisymm a b hab hba := by
    rw [pairLe_iff] at *
    have hirrefl : ∀ {x y : String}, x = y → Json.keyLt y x = true → False := by
      rintro x _ rfl h
      rw [Json.keyLt_irrefl] at h
      cases h
    rcases hab with hab | ⟨hab, hab2⟩ <;> rcases hba with hba | ⟨hba, hba2⟩
    · rw [keyLt_asymm hab] at hba
      cases hba
    · exact (hirrefl hba hab).elim
    · exact (hirrefl hab hba).elim
    · exact Prod.ext hab (textLe_antisymm hab2 hba2)

variable [DecidableEq α]

theorem sortedCommon_comm {le : α → α → Bool} (hle : IsLinear le) (a b : List α) :
    sortedCommon le a b = sortedCommon le b a := by
  have : Std.Total fun x y => le x y = true := ⟨hle.total⟩
  have : IsTrans α fun x y => le x y = true := ⟨hle.trans⟩
  have hperm : (sortedCommon le a b).Perm (sortedCommon le b a) := by
    refine (List.perm_insertionSort _ _).trans
      (List.Perm.trans ?_ (List.perm_insertionSort _ _).symm)
    refine (List.perm_ext_iff_of_nodup (List.nodup_dedup _) (List.nodup_dedup _)).mpr fun x => ?_
    rw [List.mem_dedup, List.mem_dedup, List.mem_filter, List.mem_filter, decide_eq_true_eq,
      decide_eq_true_eq]
    exact And.comm
  refine hperm.eq_of_pairwise (fun x y _ _ => hle.antisymm x y) ?_ ?_
  · exact List.pairwise_insertionSort _ _
  · exact List.pairwise_insertionSort _ _

theorem sortedOnly_self {le : α → α → Bool} (a : List α) : sortedOnly le a a = [] := by
  have hempty : a.filter (· ∉ a) = [] := by
    rw [List.filter_eq_nil_iff]
    exact fun x hx => by simpa using hx
  rw [sortedOnly, hempty]
  rfl

theorem sameSet_comm (a b : List α) : sameSet a b = sameSet b a := Bool.and_comm _ _

theorem sameSet_self (a : List α) : sameSet a a = true := by
  rw [sameSet, Bool.and_self, List.all_eq_true]
  exact fun x hx => decide_eq_true hx

end Orders

/-! ### Mirrored entries -/

/-- What a change is when the documents are exchanged. -/
def ChangeKind.swap : ChangeKind → ChangeKind
  | .addedInB => .removedInB
  | .removedInB => .addedInB
  | .changed => .changed

/-- The keys of the entries of one kind, in their order. -/
def keysOf (change : ChangeKind) (entries : List Difference) : List String :=
  (entries.filter (·.change = change)).map Difference.key

/-- The entries with the documents exchanged: what was added is removed, what was removed is added,
and what was changed is changed. -/
def Mirror (entries swapped : List Difference) : Prop :=
  ∀ change, keysOf change.swap swapped = keysOf change entries

theorem keysOf_append {change : ChangeKind} (a b : List Difference) :
    keysOf change (a ++ b) = keysOf change a ++ keysOf change b := by
  rw [keysOf, List.filter_append, List.map_append]
  rfl

theorem length_eq_keysOf (entries : List Difference) : entries.length =
    (keysOf .addedInB entries).length + (keysOf .removedInB entries).length +
      (keysOf .changed entries).length := by
  simp only [keysOf, List.length_map]
  induction entries with
  | nil => rfl
  | cons entry entries ih =>
    rw [List.length_cons, ih]
    cases hchange : entry.change <;> simp [hchange] <;> omega

namespace Mirror

theorem nil : Mirror [] [] := fun _ => rfl

theorem append {a b c d : List Difference} (hab : Mirror a b) (hcd : Mirror c d) :
    Mirror (a ++ c) (b ++ d) := by
  intro change
  rw [keysOf_append, keysOf_append, hab change, hcd change]

theorem length {a b : List Difference} (h : Mirror a b) : b.length = a.length := by
  have hadded := h .addedInB
  have hremoved := h .removedInB
  have hchanged := h .changed
  simp only [ChangeKind.swap] at hadded hremoved hchanged
  rw [length_eq_keysOf, length_eq_keysOf, hadded, hremoved, hchanged, Nat.add_comm (List.length _)]

theorem flatMap {γ δ : Type} {R : γ → δ → Prop} {f : γ → List Difference} {g : δ → List Difference}
    {xs : List γ} {ys : List δ} (hR : ∀ x y, R x y → Mirror (f x) (g y))
    (h : List.Forall₂ R xs ys) : Mirror (xs.flatMap f) (ys.flatMap g) := by
  induction h with
  | nil => exact nil
  | cons hxy _ ih =>
    rw [List.flatMap_cons, List.flatMap_cons]
    exact (hR _ _ hxy).append ih

/-- An entry for a key that has two values, or none. -/
theorem changed {key detail detail' : String} {p q : Prop} [Decidable p] [Decidable q]
    (h : p ↔ q) : Mirror (if p then [] else [⟨key, .changed, detail⟩])
      (if q then [] else [⟨key, .changed, detail'⟩]) := by
  by_cases hp : p
  · rw [if_pos hp, if_pos (h.mp hp)]
    exact nil
  · rw [if_neg hp, if_neg fun hq => hp (h.mpr hq)]
    intro change
    cases change <;> rfl

theorem mapKey {a b : List Difference} (h : Mirror a b) (f : String → String) :
    Mirror (a.map fun entry => { entry with key := f entry.key })
      (b.map fun entry => { entry with key := f entry.key }) := by
  have hkeys : ∀ (change : ChangeKind) (entries : List Difference),
      keysOf change (entries.map fun entry => { entry with key := f entry.key }) =
        (keysOf change entries).map f := by
    intro change entries
    rw [keysOf, keysOf, List.filter_map, List.map_map, List.map_map]
    rfl
  intro change
  rw [hkeys, hkeys, h change]

end Mirror

/-! ### One round of each loop -/

/-- What is needed of the comparison of values: it does not depend on the order, and a value that is
compared with itself is equal to it unless it is the float that is not a number. -/
structure ComparesValues (libs : Libraries) : Prop where
  symm : ∀ a b, libs.equal a b = libs.equal b a
  self : ∀ a, libs.equal a a = true ↔ a ≠ .float "nan"

/-- What both of two computations return, if they return, is related. -/
def Related {α β : Type} (R : α → β → Prop) (action : Except Raised α) (swapped : Except Raised β) :
    Prop :=
  ∀ value, action = .ok value → ∃ value', swapped = .ok value' ∧ R value value'

theorem exists_of_bind {α β : Type} {action : Except Raised α} {next : α → Except Raised β}
    {result : β} (h : action >>= next = .ok result) :
    ∃ value, action = .ok value ∧ next value = .ok result := by
  cases action with
  | error e => cases h
  | ok value => exact ⟨value, rfl, h⟩

theorem Related.bind {α β α' β' : Type} {R : α → α' → Prop} {S : β → β' → Prop}
    {action : Except Raised α} {action' : Except Raised α'} {next : α → Except Raised β}
    {next' : α' → Except Raised β'} (h : Related R action action')
    (hnext : ∀ value value', R value value' → Related S (next value) (next' value')) :
    Related S (action >>= next) (action' >>= next') := by
  intro result hresult
  obtain ⟨value, haction, hresult⟩ := exists_of_bind hresult
  obtain ⟨value', haction', hR⟩ := h value haction
  rw [haction']
  exact hnext value value' hR result hresult

theorem Related.pure {α β : Type} {R : α → β → Prop} {a : α} {b : β} (h : R a b) :
    Related R (Pure.pure a) (Pure.pure b) := by
  rintro _ ⟨⟩
  exact ⟨b, rfl, h⟩

/-- Two computations that do not depend on each other can be exchanged. -/
theorem Related.bind_bind {α α' β β' : Type} {S : β → β' → Prop} {x : Except Raised α}
    {y : Except Raised α'} {next : α → α' → Except Raised β} {next' : α' → α → Except Raised β'}
    (h : ∀ a b, Related S (next a b) (next' b a)) :
    Related S (x >>= fun a => y >>= fun b => next a b)
      (y >>= fun b => x >>= fun a => next' b a) := by
  cases x with
  | error e => exact nofun
  | ok a =>
    cases y with
    | error e => exact nofun
    | ok b => exact h a b

theorem Related.mapM {γ α β : Type} {R : α → β → Prop} {f : γ → Except Raised α}
    {g : γ → Except Raised β} (h : ∀ item, Related R (f item) (g item)) (items : List γ) :
    Related (List.Forall₂ R) (items.mapM f) (items.mapM g) := by
  induction items with
  | nil => exact .pure .nil
  | cons item items ih =>
    rw [List.mapM_cons, List.mapM_cons]
    exact (h item).bind fun a b hab => ih.bind fun as bs habs => .pure (.cons hab habs)

section Compare

variable {libs : Libraries} {labelA labelB : String} {documentA documentB : Dict}

theorem keysOf_map {γ : Type} {change change' : ChangeKind} {key : γ → String} {detail : String}
    (items : List γ) : keysOf change (items.map fun item => ⟨key item, change', detail⟩) =
      if change' = change then items.map key else [] := by
  have hfilter : (items.filter fun _ => decide (change' = change)) =
      if change' = change then items else [] := by
    by_cases h : change' = change <;> simp [h]
  rw [keysOf, List.filter_map, List.map_map]
  change (items.filter fun _ => decide (change' = change)).map key = _
  rw [hfilter]
  split_ifs <;> rfl

/-- The entries for what only one document has. -/
theorem Mirror.added_removed {γ : Type} {key : γ → String} {onlyA onlyB : List γ}
    {detail₁ detail₂ detail₃ detail₄ : String} :
    Mirror (onlyB.map (⟨key ·, .addedInB, detail₁⟩) ++ onlyA.map (⟨key ·, .removedInB, detail₂⟩))
      (onlyA.map (⟨key ·, .addedInB, detail₃⟩) ++ onlyB.map (⟨key ·, .removedInB, detail₄⟩)) := by
  intro change
  rw [keysOf_append, keysOf_append, keysOf_map, keysOf_map, keysOf_map, keysOf_map]
  cases change <;> simp [ChangeKind.swap]

theorem onlyEntries_swap (keysA keysB : List String) :
    Mirror (onlyEntries labelA labelB keysA keysB) (onlyEntries labelB labelA keysB keysA) :=
  .added_removed

theorem compareOperation_swap (hlibs : ComparesValues libs) (endpoint : String × String) :
    Related (fun x y => Mirror x.1 y.1 ∧ Mirror x.2 y.2)
      (compareOperation libs labelA labelB documentA documentB endpoint)
      (compareOperation libs labelB labelA documentB documentA endpoint) := by
  refine Related.bind_bind fun paramsA paramsB => .pure ⟨?_, ?_⟩
  · refine .changed ?_
    rw [hlibs.symm]
  · refine .changed ?_
    rw [sameSet_comm]

/-- The entries of a model with the documents exchanged. -/
structure ModelDifferences.Mirrored (x y : ModelDifferences) : Prop where
  fields : Mirror x.fields y.fields
  enums : Mirror x.enums y.enums
  defaults : Mirror x.defaults y.defaults

theorem compareField_swap (hlibs : ComparesValues libs) {schemaA schemaB : Dict}
    {modelName : String} {fieldsA fieldsB : List (String × Option String × Bool × Bool)}
    (fieldName : String) :
    (compareField libs labelA labelB schemaA schemaB modelName fieldsA fieldsB fieldName).Mirrored
      (compareField libs labelB labelA schemaB schemaA modelName fieldsB fieldsA fieldName) where
  fields := .changed eq_comm
  enums := .changed eq_comm
  defaults := by
    refine .changed ?_
    cases fieldDefault schemaA fieldName with
    | none => cases fieldDefault schemaB fieldName <;> exact Iff.rfl
    | some a =>
      cases fieldDefault schemaB fieldName with
      | none => exact Iff.rfl
      | some b =>
        dsimp only
        rw [hlibs.symm]

theorem compareModel_swap (hlibs : ComparesValues libs) (modelName : String) :
    Related ModelDifferences.Mirrored
      (compareModel libs labelA labelB documentA documentB modelName)
      (compareModel libs labelB labelA documentB documentA modelName) := by
  refine Related.bind_bind fun fieldsA fieldsB => .pure ?_
  have hcommon := sortedCommon_comm textLe_isLinear (fieldsB.map Prod.fst) (fieldsA.map Prod.fst)
  rw [hcommon]
  have hcompared : ∀ names : List String, List.Forall₂ ModelDifferences.Mirrored
      (names.map (compareField libs labelA labelB (modelSchema documentA modelName)
        (modelSchema documentB modelName) modelName fieldsA fieldsB))
      (names.map (compareField libs labelB labelA (modelSchema documentB modelName)
        (modelSchema documentA modelName) modelName fieldsB fieldsA)) := fun names =>
    List.forall₂_map_left_iff.mpr (List.forall₂_map_right_iff.mpr
      (List.forall₂_same.mpr fun name _ => compareField_swap hlibs name))
  exact ⟨((onlyEntries_swap _ _).mapKey _).append (.flatMap (fun _ _ h => h.fields) (hcompared _)),
    .flatMap (fun _ _ h => h.enums) (hcompared _), .flatMap (fun _ _ h => h.defaults) (hcompared _)⟩

/-- The entries of an endpoint with the documents exchanged. -/
structure EndpointDifferences.Mirrored (x y : EndpointDifferences) : Prop where
  packages : Mirror x.packages y.packages
  auth : Mirror x.auth y.auth
  privileges : Mirror x.privileges y.privileges
  applies : Mirror x.applies y.applies

theorem compareEndpoint_swap {indexA indexB : OpenApiIndex} (endpoint : String × String) :
    Related EndpointDifferences.Mirrored
      (compareEndpoint libs labelA labelB indexA indexB endpoint)
      (compareEndpoint libs labelB labelA indexB indexA endpoint) := by
  refine Related.bind_bind fun docA docB => .pure ?_
  cases docA with
  | none => cases docB <;> exact ⟨.nil, .nil, .nil, .nil⟩
  | some a =>
    cases docB with
    | none => exact ⟨.nil, .nil, .nil, .nil⟩
    | some b =>
      have hset : ∀ x y : List String, sameSet x y = true ↔ sameSet y x = true := fun x y => by
        rw [sameSet_comm]
      exact ⟨.changed (hset _ _), .changed (and_congr eq_comm (hset _ _)), .changed (hset _ _),
        .changed eq_comm⟩

/-- The entries of a loop that makes at most one entry for each item. -/
theorem Mirror.filterMap {γ : Type} {f g : γ → Option Difference} {items : List γ}
    (h : ∀ item ∈ items, Mirror (f item).toList (g item).toList) :
    Mirror (items.filterMap f) (items.filterMap g) := by
  rw [List.filterMap_eq_flatMap_toList, List.filterMap_eq_flatMap_toList]
  exact Mirror.flatMap (fun _ _ => id) (R := fun x y => Mirror (f x).toList (g y).toList)
    (List.forall₂_same.mpr h)

theorem Mirror.toList_ite {key detail detail' : String} {p q : Prop} [Decidable p] [Decidable q]
    (h : p ↔ q) : Mirror (if p then none else some (⟨key, .changed, detail⟩ : Difference)).toList
      (if q then none else some ⟨key, .changed, detail'⟩).toList := by
  by_cases hp : p
  · rw [if_pos hp, if_pos (h.mp hp)]
    exact .nil
  · rw [if_neg hp, if_neg fun hq => hp (h.mpr hq)]
    intro change
    cases change <;> rfl

theorem compareExtensions_swap (hlibs : ComparesValues libs) :
    Mirror (compareExtensions libs labelA labelB documentA documentB)
      (compareExtensions libs labelB labelA documentB documentA) := by
  refine (onlyEntries_swap _ _).append ?_
  have hcommon := sortedCommon_comm textLe_isLinear
    ((extensionKeys "" 6 documentB).map Prod.fst) ((extensionKeys "" 6 documentA).map Prod.fst)
  rw [hcommon]
  refine .filterMap fun key _ => .toList_ite ?_
  rw [hlibs.symm]

theorem compareVersions_swap : Mirror (compareVersions libs labelA labelB documentA documentB)
    (compareVersions libs labelB labelA documentB documentA) := by
  have hswap : (versionMetadata libs documentB).zip (versionMetadata libs documentA) =
      ((versionMetadata libs documentA).zip (versionMetadata libs documentB)).map Prod.swap :=
    (List.zip_swap _ _).symm
  rw [compareVersions, compareVersions, hswap, List.filterMap_map]
  refine .filterMap fun pair hpair => ?_
  have hkey : pair.1.1 = pair.2.1 := by
    simp only [versionMetadata, List.zip_cons_cons, List.zip_nil_right, List.mem_cons,
      List.not_mem_nil, or_false] at hpair
    rcases hpair with rfl | rfl | rfl | rfl <;> rfl
  obtain ⟨⟨key, a⟩, key', b⟩ := pair
  obtain rfl : key = key' := hkey
  exact .toList_ite eq_comm

end Compare

/-! ### The report -/

/-- The entries of a dimension in the report. -/
def SchemaDiffReport.entriesOf (report : SchemaDiffReport) (dimension : String) :
    List Difference :=
  (report.entries.filter (·.1 = dimension)).map Prod.snd

/-- The report with the documents and their labels exchanged. -/
structure SchemaDiffReport.Swapped (report swapped : SchemaDiffReport) : Prop where
  totals : swapped.dimensionTotals = report.dimensionTotals
  identical : swapped.identicalDimensions = report.identicalDimensions
  truncated : swapped.truncatedDimensions = report.truncatedDimensions
  mirrored : ∀ dimension, dimension ∉ report.truncatedDimensions →
    Mirror (report.entriesOf dimension) (swapped.entriesOf dimension)

section Report

variable {labelA labelB : String}

/-- The dimensions of both reports, one by one. -/
def DimensionsMirror : List (String × List Difference) → List (String × List Difference) → Prop :=
  List.Forall₂ fun x y => x.1 = y.1 ∧ Mirror x.2 y.2

namespace DimensionsMirror

variable {dimensions swapped : List (String × List Difference)}

theorem totals (h : DimensionsMirror dimensions swapped) :
    swapped.map (fun x => (x.1, x.2.length)) = dimensions.map fun x => (x.1, x.2.length) := by
  induction h with
  | nil => rfl
  | cons hxy _ ih => rw [List.map_cons, List.map_cons, hxy.1, hxy.2.length, ih]

theorem identical (h : DimensionsMirror dimensions swapped) (dimension : String) :
    (swapped.lookup dimension).all (·.isEmpty) = (dimensions.lookup dimension).all (·.isEmpty) := by
  induction h with
  | nil => rfl
  | @cons x y _ _ hxy _ ih =>
    obtain ⟨name, entries⟩ := x
    obtain ⟨name', entries'⟩ := y
    obtain ⟨rfl, hmirror⟩ := hxy
    rw [List.lookup_cons, List.lookup_cons]
    cases dimension == name with
    | false => exact ih
    | true =>
      have hlength := hmirror.length
      cases entries <;> cases entries' <;> first | rfl | cases hlength

theorem truncated (h : DimensionsMirror dimensions swapped) :
    (swapped.filter fun x => maxEntriesPerDimension < x.2.length).map Prod.fst =
      (dimensions.filter fun x => maxEntriesPerDimension < x.2.length).map Prod.fst := by
  induction h with
  | nil => rfl
  | @cons x y _ _ hxy _ ih =>
    by_cases hlong : maxEntriesPerDimension < x.2.length
    · rw [List.filter_cons_of_pos (by simpa [hxy.2.length] using hlong),
        List.filter_cons_of_pos (by simpa using hlong), List.map_cons, List.map_cons, hxy.1, ih]
    · rw [List.filter_cons_of_neg (by simpa [hxy.2.length] using hlong),
        List.filter_cons_of_neg (by simpa using hlong), ih]

end DimensionsMirror

/-- What is shown of a dimension. -/
def shownOf (dimension : String) (x : String × List Difference) : List Difference :=
  if x.1 = dimension then x.2.take maxEntriesPerDimension else []

theorem entriesOf_reportOf (dimensions : List (String × List Difference)) (dimension : String) :
    (reportOf labelA labelB dimensions).entriesOf dimension =
      dimensions.flatMap (shownOf dimension) := by
  rw [SchemaDiffReport.entriesOf, reportOf]
  dsimp only
  rw [List.filter_flatMap, List.map_flatMap]
  refine List.flatMap_congr fun x _ => ?_
  rw [List.filter_map, List.map_map, shownOf]
  by_cases hx : x.1 = dimension
  · simp [hx, Function.comp_def]
  · simp [hx, Function.comp_def]

theorem DimensionsMirror.shown {dimensions swapped : List (String × List Difference)}
    (h : DimensionsMirror dimensions swapped) {dimension : String}
    (hshort : ∀ x ∈ dimensions, x.1 = dimension → x.2.length ≤ maxEntriesPerDimension) :
    Mirror (dimensions.flatMap (shownOf dimension)) (swapped.flatMap (shownOf dimension)) := by
  induction h with
  | nil => exact .nil
  | @cons x y _ _ hxy _ ih =>
    rw [List.forall_mem_cons] at hshort
    rw [List.flatMap_cons, List.flatMap_cons]
    refine .append ?_ (ih hshort.2)
    rw [shownOf, shownOf, ← hxy.1]
    by_cases hx : x.1 = dimension
    · have hlength := hshort.1 hx
      rw [if_pos hx, if_pos hx, List.take_of_length_le hlength,
        List.take_of_length_le (hxy.2.length ▸ hlength)]
      exact hxy.2
    · rw [if_neg hx, if_neg hx]
      exact .nil

theorem reportOf_swap {dimensions swapped : List (String × List Difference)}
    (h : DimensionsMirror dimensions swapped) :
    (reportOf labelA labelB dimensions).Swapped (reportOf labelB labelA swapped) where
  totals := congrArg (List.insertionSort _) h.totals
  identical := List.filter_congr fun dimension _ => h.identical dimension
  truncated := h.truncated
  mirrored dimension hdimension := by
    rw [entriesOf_reportOf, entriesOf_reportOf]
    refine h.shown fun x hx hname => ?_
    by_contra hlong
    refine hdimension (List.mem_map.mpr ⟨x, List.mem_filter.mpr ⟨hx, ?_⟩, hname⟩)
    exact decide_eq_true (Nat.lt_of_not_le hlong)

end Report

/-- The comparison with the documents and their labels exchanged. -/
theorem diffSchemas_swap {libs : Libraries} (hlibs : ComparesValues libs)
    (documentA documentB : Dict) (labelA labelB : String) : Related SchemaDiffReport.Swapped
      (diffSchemas libs documentA documentB labelA labelB)
      (diffSchemas libs documentB documentA labelB labelA) := by
  have hcommon := sortedCommon_comm pairLe_isLinear (endpointKeys libs documentB)
    (endpointKeys libs documentA)
  have hnames := sortedCommon_comm textLe_isLinear (modelNames documentB) (modelNames documentA)
  unfold diffSchemas
  dsimp only
  rw [hcommon, hnames]
  refine (Related.mapM (compareOperation_swap hlibs) _).bind
    fun operations operations' hoperations =>
    (Related.mapM (compareModel_swap hlibs) _).bind fun models models' hmodels =>
    (Related.mapM compareEndpoint_swap _).bind fun endpoints endpoints' hendpoints =>
    .pure (reportOf_swap ?_)
  exact .cons ⟨rfl, .added_removed⟩ <|
    .cons ⟨rfl, .flatMap (fun _ _ h => h.1) hoperations⟩ <|
    .cons ⟨rfl, .flatMap (fun _ _ h => h.2) hoperations⟩ <|
    .cons ⟨rfl, onlyEntries_swap _ _⟩ <|
    .cons ⟨rfl, .flatMap (fun _ _ h => h.fields) hmodels⟩ <|
    .cons ⟨rfl, .flatMap (fun _ _ h => h.enums) hmodels⟩ <|
    .cons ⟨rfl, .flatMap (fun _ _ h => h.defaults) hmodels⟩ <|
    .cons ⟨rfl, .flatMap (fun _ _ h => h.packages) hendpoints⟩ <|
    .cons ⟨rfl, .flatMap (fun _ _ h => h.auth) hendpoints⟩ <|
    .cons ⟨rfl, .flatMap (fun _ _ h => h.privileges) hendpoints⟩ <|
    .cons ⟨rfl, .flatMap (fun _ _ h => h.applies) hendpoints⟩ <|
    .cons ⟨rfl, compareExtensions_swap hlibs⟩ <|
    .cons ⟨rfl, compareVersions_swap⟩ .nil

/-! ### A document and itself -/

/-- A value that is compared: the identifier of an operation, the default of a field, or what stands
under an extension. -/
inductive Compared (libs : Libraries) (document : Dict) : Json → Prop
  | operationId {endpoint : String × String} {value : Json}
      (isEndpoint : endpoint ∈ endpointKeys libs document)
      (h : get "operationId" (operation libs document endpoint.1 endpoint.2) = some value) :
      Compared libs document value
  | default {modelName fieldName : String} {value : Json}
      (isModel : modelName ∈ modelNames document)
      (h : fieldDefault (modelSchema document modelName) fieldName = some value) :
      Compared libs document value
  | extension {key : String} {value : Json}
      (h : get key (extensionKeys "" 6 document).reverse = some value) :
      Compared libs document value

theorem mem_of_get {key : String} {dictionary : Dict} {value : Json}
    (h : get key dictionary = some value) : (key, value) ∈ dictionary := by
  rw [get, Option.map_eq_some_iff] at h
  obtain ⟨field, hfind, rfl⟩ := h
  have hkey : field.1 = key := of_decide_eq_true (List.find?_some hfind :)
  rw [← hkey]
  exact List.mem_of_find?_eq_some hfind

theorem exists_get {key : String} {dictionary : Dict} (h : key ∈ dictionary.map Prod.fst) :
    ∃ value, get key dictionary = some value := by
  obtain ⟨field, hfield, rfl⟩ := List.mem_map.mp h
  have hsome : (dictionary.find? (·.1 = field.1)).isSome = true :=
    List.find?_isSome.mpr ⟨field, hfield, decide_eq_true rfl⟩
  obtain ⟨found, hfound⟩ := Option.isSome_iff_exists.mp hsome
  exact ⟨found.2, by rw [get, hfound, Option.map_some]⟩

/-- A field with a default is among the fields of the model. -/
theorem mem_of_fieldDefault {libs : Libraries} {schema : Dict} {fieldName : String} {value : Json}
    {fields : List (String × Option String × Bool × Bool)}
    (hfields : fieldsOf libs schema = .ok fields) (h : fieldDefault schema fieldName = some value) :
    fieldName ∈ fields.map Prod.fst := by
  obtain ⟨prop, hprop, -⟩ := Option.bind_eq_some_iff.mp h
  obtain ⟨properties, hproperties, hprop⟩ := Option.bind_eq_some_iff.mp hprop
  obtain ⟨field, hfield, hdict⟩ := Option.bind_eq_some_iff.mp hprop
  rw [fieldsOf, hproperties] at hfields
  dsimp only at hfields
  cases hitems : iterate (get "required" schema) with
  | error e =>
    rw [hitems] at hfields
    cases hfields
  | ok items =>
    rw [hitems] at hfields
    cases hfields
    rw [List.map_filterMap]
    refine List.mem_filterMap.mpr ⟨_, mem_of_get hfield, ?_⟩
    dsimp only
    rw [hdict]
    rfl

theorem forall₂_of_mapM {α β : Type} {f : α → Except Raised β} {items : List α} {values : List β}
    (h : items.mapM f = .ok values) :
    List.Forall₂ (fun item value => f item = .ok value) items values := by
  induction items generalizing values with
  | nil =>
    cases h
    exact .nil
  | cons item items ih =>
    rw [List.mapM_cons] at h
    obtain ⟨value, hitem, h⟩ := exists_of_bind h
    obtain ⟨rest, hrest, h⟩ := exists_of_bind h
    cases h
    exact .cons hitem (ih hrest)

/-- The entries of a loop are none exactly if no round makes one. -/
theorem flatMap_eq_nil_iff_of_forall₂ {α β : Type} {R : α → β → Prop} {P : α → Prop}
    {f : β → List Difference} {items : List α} {values : List β} (h : List.Forall₂ R items values)
    (hf : ∀ item value, R item value → (f value = [] ↔ P item)) :
    values.flatMap f = [] ↔ ∀ item ∈ items, P item := by
  induction h with
  | nil => exact iff_of_true rfl nofun
  | cons hitem _ ih =>
    rw [List.flatMap_cons, List.append_eq_nil_iff, List.forall_mem_cons, ih, hf _ _ hitem]

section Self

variable {libs : Libraries} {labelA labelB : String} {document : Dict}

theorem onlyEntries_self (keys : List String) : onlyEntries labelA labelB keys keys = [] := by
  rw [onlyEntries, sortedOnly_self]
  rfl

theorem ite_eq_nil_iff {p : Prop} [Decidable p] {entry : Difference} :
    (if p then [] else [entry]) = [] ↔ p := by
  by_cases hp : p
  · rw [if_pos hp]
    exact iff_of_true rfl hp
  · rw [if_neg hp]
    exact iff_of_false (List.cons_ne_nil _ _) hp

/-- A value that may be missing is equal to itself, unless it is not a number. -/
theorem equal_getD_iff (hlibs : ComparesValues libs) (value : Option Json) :
    libs.equal (value.getD .null) (value.getD .null) = true ↔
      ∀ v, value = some v → v ≠ .float "nan" := by
  rw [hlibs.self]
  cases value with
  | none => exact iff_of_true Json.noConfusion nofun
  | some v =>
    constructor
    · rintro h _ ⟨⟩
      exact h
    · exact fun h => h v rfl

theorem compareOperation_self (hlibs : ComparesValues libs) {endpoint : String × String}
    {entries : List Difference × List Difference}
    (h : compareOperation libs labelA labelB document document endpoint = .ok entries) :
    (entries.1 = [] ↔ ∀ value,
      get "operationId" (operation libs document endpoint.1 endpoint.2) = some value →
        value ≠ .float "nan") ∧ entries.2 = [] := by
  rw [compareOperation] at h
  dsimp only at h
  cases hparams : parametersOf libs (operation libs document endpoint.1 endpoint.2) with
  | error e =>
    rw [hparams] at h
    cases h
  | ok params =>
    rw [hparams] at h
    cases h
    exact ⟨ite_eq_nil_iff.trans (equal_getD_iff hlibs _), ite_eq_nil_iff.mpr (sameSet_self _)⟩

theorem compareField_self (hlibs : ComparesValues libs) {schema : Dict} {modelName : String}
    {fields : List (String × Option String × Bool × Bool)} (fieldName : String) :
    let entries :=
      compareField libs labelA labelB schema schema modelName fields fields fieldName
    entries.fields = [] ∧ entries.enums = [] ∧
      (entries.defaults = [] ↔ ∀ value, fieldDefault schema fieldName = some value →
        value ≠ .float "nan") := by
  refine ⟨ite_eq_nil_iff.mpr rfl, ite_eq_nil_iff.mpr rfl, ite_eq_nil_iff.trans ?_⟩
  cases fieldDefault schema fieldName with
  | none => exact iff_of_true rfl nofun
  | some value => exact equal_getD_iff hlibs (some value)

theorem compareModel_self (hlibs : ComparesValues libs) {modelName : String}
    {entries : ModelDifferences}
    (h : compareModel libs labelA labelB document document modelName = .ok entries) :
    entries.fields = [] ∧ entries.enums = [] ∧ (entries.defaults = [] ↔ ∀ fieldName value,
      fieldDefault (modelSchema document modelName) fieldName = some value →
        value ≠ .float "nan") := by
  rw [compareModel] at h
  cases hfields : fieldsOf libs (modelSchema document modelName) with
  | error e =>
    rw [hfields] at h
    cases h
  | ok fields =>
    rw [hfields] at h
    cases h
    dsimp only
    rw [onlyEntries_self, List.map_nil, List.nil_append, List.flatMap_map, List.flatMap_map,
      List.flatMap_map]
    simp only [List.flatMap_eq_nil_iff, mem_sortedCommon, and_self,
      compareField_self hlibs, implies_true, true_and]
    refine ⟨fun h fieldName value hvalue => ?_, fun h fieldName _ => h fieldName⟩
    exact h fieldName (mem_of_fieldDefault hfields hvalue) value hvalue

theorem compareEndpoint_self {index : OpenApiIndex} {endpoint : String × String}
    {entries : EndpointDifferences}
    (h : compareEndpoint libs labelA labelB index index endpoint = .ok entries) :
    entries.packages = [] ∧ entries.auth = [] ∧ entries.privileges = [] ∧ entries.applies = [] := by
  rw [compareEndpoint] at h
  dsimp only at h
  cases hdoc : lookupEndpoint libs index endpoint.1 endpoint.2 with
  | error e =>
    rw [hdoc] at h
    cases h
  | ok doc =>
    rw [hdoc] at h
    cases h
    cases doc with
    | none => exact ⟨rfl, rfl, rfl, rfl⟩
    | some doc =>
      exact ⟨ite_eq_nil_iff.mpr (sameSet_self _), ite_eq_nil_iff.mpr ⟨rfl, sameSet_self _⟩,
        ite_eq_nil_iff.mpr (sameSet_self _), ite_eq_nil_iff.mpr rfl⟩

theorem compareExtensions_self (hlibs : ComparesValues libs) :
    compareExtensions libs labelA labelB document document = [] ↔ ∀ key value,
      get key (extensionKeys "" 6 document).reverse = some value → value ≠ .float "nan" := by
  rw [compareExtensions]
  dsimp only
  rw [onlyEntries_self, List.nil_append, List.filterMap_eq_nil_iff]
  have hentry : ∀ (p : Prop) [Decidable p] (entry : Difference),
      (if p then none else some entry) = none ↔ p := by
    intro p _ entry
    by_cases hp : p <;> simp [hp]
  simp only [hentry, equal_getD_iff hlibs, mem_sortedCommon, and_self]
  refine ⟨fun h key value hvalue => h key ?_ value hvalue, fun h key _ => h key⟩
  exact List.mem_map.mpr ⟨_, List.mem_reverse.mp (mem_of_get hvalue), rfl⟩

theorem compareVersions_self : compareVersions libs labelA labelB document document = [] := by
  have hself : ∀ items : List (String × String), ∀ pair ∈ items.zip items, pair.1 = pair.2 := by
    intro items
    induction items with
    | nil => exact nofun
    | cons item items ih =>
      rw [List.zip_cons_cons, List.forall_mem_cons]
      exact ⟨rfl, ih⟩
  rw [compareVersions, List.filterMap_eq_nil_iff]
  rintro ⟨⟨key, a⟩, key', b⟩ hpair
  cases hself _ _ hpair
  exact if_pos rfl

/-- The list of the dimensions without an entry is whole exactly if no dimension has one. -/
theorem identical_reportOf_iff {names : List String} {entries : List (List Difference)}
    (hnames : names.Nodup) (hlength : names.length = entries.length) :
    (∀ dimension ∈ names, ((names.zip entries).lookup dimension).all (·.isEmpty) = true) ↔
      ∀ x ∈ entries, x = [] := by
  induction names generalizing entries with
  | nil =>
    cases entries with
    | nil => exact iff_of_true nofun nofun
    | cons x entries => cases hlength
  | cons name names ih =>
    cases entries with
    | nil => cases hlength
    | cons x entries =>
      obtain ⟨hname, hnames⟩ := List.nodup_cons.mp hnames
      rw [List.forall_mem_cons, List.forall_mem_cons, List.zip_cons_cons, List.lookup_cons_self,
        Option.all_some, List.isEmpty_iff, ← ih hnames (Nat.succ.inj hlength)]
      refine and_congr_right fun _ => forall₂_congr fun dimension hdimension => ?_
      have hne : dimension ≠ name := fun heq => hname (heq ▸ hdimension)
      rw [List.lookup_cons, beq_false_of_ne hne]

/-- A document has the same dimensions as itself exactly if no value of it that is compared is not a
number. -/
theorem diffSchemas_self (hlibs : ComparesValues libs) {report : SchemaDiffReport}
    (h : diffSchemas libs document document labelA labelB = .ok report) :
    report.identicalDimensions = allDimensions ↔
      ∀ value, Compared libs document value → value ≠ .float "nan" := by
  unfold diffSchemas at h
  dsimp only at h
  obtain ⟨operations, hoperations, h⟩ := exists_of_bind h
  obtain ⟨models, hmodels, h⟩ := exists_of_bind h
  obtain ⟨endpoints, hendpoints, h⟩ := exists_of_bind h
  cases h
  rw [reportOf]
  dsimp only
  rw [List.filter_eq_self, identical_reportOf_iff (by decide) rfl]
  have hoperations := forall₂_of_mapM hoperations
  have hmodels := forall₂_of_mapM hmodels
  have hendpoints := forall₂_of_mapM hendpoints
  have hids := flatMap_eq_nil_iff_of_forall₂ hoperations
    fun _ _ h => (compareOperation_self hlibs h).1
  have hdefaults := flatMap_eq_nil_iff_of_forall₂ hmodels
    fun _ _ h => (compareModel_self hlibs h).2.2
  -- the other loops make no entries
  have hnone : ∀ {α β : Type} {R : α → β → Prop} {items : List α} {values : List β}
      {f : β → List Difference}, List.Forall₂ R items values →
      (∀ item value, R item value → f value = []) → values.flatMap f = [] := fun hR hf =>
    (flatMap_eq_nil_iff_of_forall₂ hR fun item value h => iff_true_intro (hf item value h)).mpr
      fun _ _ => trivial
  rw [sortedOnly_self, onlyEntries_self, compareVersions_self,
    hnone hoperations fun _ _ h => (compareOperation_self hlibs h).2,
    hnone hmodels fun _ _ h => (compareModel_self hlibs h).1,
    hnone hmodels fun _ _ h => (compareModel_self hlibs h).2.1,
    hnone hendpoints fun _ _ h => (compareEndpoint_self h).1,
    hnone hendpoints fun _ _ h => (compareEndpoint_self h).2.1,
    hnone hendpoints fun _ _ h => (compareEndpoint_self h).2.2.1,
    hnone hendpoints fun _ _ h => (compareEndpoint_self h).2.2.2]
  simp only [List.forall_mem_cons, hids, hdefaults, compareExtensions_self hlibs, mem_sortedCommon,
    and_self, List.map_nil, List.append_nil, List.not_mem_nil, true_and, and_true, false_implies,
    implies_true]
  constructor
  · rintro ⟨hids, hdefaults, hextensions⟩ value hvalue
    cases hvalue with
    | operationId isEndpoint h => exact hids _ isEndpoint _ h
    | default isModel h => exact hdefaults _ isModel _ _ h
    | extension h => exact hextensions _ _ h
  · intro h
    exact ⟨fun _ isEndpoint value hvalue => h value (.operationId isEndpoint hvalue),
      fun _ isModel _ value hvalue => h value (.default isModel hvalue),
      fun _ value hvalue => h value (.extension hvalue)⟩

end Self

/-- If the comparison of two documents returns, so does the comparison with the documents and their
labels exchanged, and its report is the mirrored one. If a document is compared with itself, every
dimension is the same exactly if no identifier of an operation, default of a field or extension is
not a number. -/
theorem diffSchemas_swap_and_self {libs : Libraries} (hlibs : ComparesValues libs)
    (documentA documentB : Dict) (labelA labelB : String) :
    (∀ report, diffSchemas libs documentA documentB labelA labelB = .ok report →
      ∃ swapped, diffSchemas libs documentB documentA labelB labelA = .ok swapped ∧
        report.Swapped swapped) ∧
    ∀ report, diffSchemas libs documentA documentA labelA labelB = .ok report →
      (report.identicalDimensions = allDimensions ↔
        ∀ value, Compared libs documentA value → value ≠ .float "nan") :=
  ⟨diffSchemas_swap hlibs documentA documentB labelA labelB,
    fun _ h => diffSchemas_self hlibs h⟩

namespace NotANumber

def isNan : Json → Bool
  | .float text => text == "nan"
  | _ => false

theorem isNan_iff {value : Json} : isNan value = true ↔ value = .float "nan" := by
  cases value with
  | float text => simp [isNan]
  | _ => exact iff_of_false Bool.false_ne_true nofun

/-- Values are compared by their texts. -/
def libraries : Libraries :=
  { Sample.libraries with
    equal := fun a b => !isNan a && !isNan b && Json.dumps true a == Json.dumps true b }

theorem comparesValues : ComparesValues libraries where
  symm a b := by
    change (!isNan a && !isNan b && Json.dumps true a == Json.dumps true b) =
      (!isNan b && !isNan a && Json.dumps true b == Json.dumps true a)
    rw [Bool.and_comm (!isNan a), Bool.beq_comm]
  self a := by
    change (!isNan a && !isNan a && Json.dumps true a == Json.dumps true a) = true ↔ _
    rw [beq_self_eq_true, Bool.and_true, Bool.and_self, Bool.not_eq_true', ← Bool.not_eq_true,
      isNan_iff]

/-- A document with an extension that is not a number. -/
def document : Dict := [("x-limit", .float "nan")]

/-- A document with two extensions. -/
def other : Dict := [("x-limit", .int 5), ("x-rate", .int 1)]

theorem swap_and_self_sample :
    (∀ report, diffSchemas libraries other document "a" "b" = .ok report →
      ∃ swapped, diffSchemas libraries document other "b" "a" = .ok swapped ∧
        report.Swapped swapped) ∧
    ∀ report, diffSchemas libraries other other "a" "b" = .ok report →
      (report.identicalDimensions = allDimensions ↔
        ∀ value, Compared libraries other value → value ≠ .float "nan") :=
  diffSchemas_swap_and_self comparesValues other document "a" "b"

theorem extensionKeys_document :
    extensionKeys "" 6 document = [("/x-limit", .float "nan")] := by
  have hextension : isExtension "x-limit" = true := by decide
  simp only [document, extensionKeys, extensionFields, if_pos hextension, List.append_nil]
  rfl

/-- A document with an extension that is not a number is reported to differ from itself. -/
theorem not_identical : ∃ report, diffSchemas libraries document document "a" "a" = .ok report ∧
    report.identicalDimensions ≠ allDimensions := by
  have hendpoints : endpointKeys libraries document = [] := rfl
  have hmodels : modelNames document = [] := rfl
  obtain ⟨report, hreport⟩ := (diffSchemas_returns_iff libraries document document "a" "a").mpr
    ⟨by rw [hendpoints]; exact nofun, by rw [hmodels]; exact nofun⟩
  refine ⟨report, hreport, fun hall => ?_⟩
  have hnone := (diffSchemas_self comparesValues hreport).mp hall
  have hget : get "/x-limit" (extensionKeys "" 6 document).reverse = some (.float "nan") := by
    rw [extensionKeys_document]
    rfl
  exact hnone (.float "nan") (.extension hget) rfl

end NotANumber

end PfrestDocs
