import PfsenseMcp.Guidance.Applicability

/-!
# The references between overlays

What the loops of `guidance/applicability.py` compute, in terms of the relation that the references
of the overlays make: an overlay supersedes what it refers to, and what that supersedes.

## Main results

* `cases_of_compute`, `stale_iff`: an entry is stale if an overlay that counts for it supersedes it;
* `exists_compute_iff`, `returns_perm`: when the state is computed, and that the order of the
  overlays is nothing to it;
* `idxOf_lt_of_orderOverlayChain`: an overlay comes after those that it supersedes;
* `exists_returns_findSupersessionChainDefects`, `mem_conflictsAmong`: what the two checks find.
-/

namespace Guidance

open Chain Relation

variable {overlays overlays' : List ReleaseOverlay} {id a b : String} {fuel : ℕ}

/-! ### The references of overlays that have different identifiers -/

/-- An overlay of the list has the one identifier, and refers to the other. -/
def Supersedes (overlays : List ReleaseOverlay) (a b : String) : Prop :=
  ∃ overlay ∈ overlays, overlay.overlayId = a ∧ overlay.supersedesId = some b

theorem byId_eq_some (hids : (ids overlays).Nodup) {overlay : ReleaseOverlay} :
    byId overlays id = some overlay ↔ overlay ∈ overlays ∧ overlay.overlayId = id := by
  constructor
  · intro h
    have hmem := List.mem_of_find?_eq_some h
    have hid := List.find?_some h
    exact ⟨List.mem_reverse.mp hmem, of_decide_eq_true hid⟩
  · rintro ⟨hmem, rfl⟩
    have hsome : (byId overlays overlay.overlayId).isSome = true := by
      rw [byId, List.find?_isSome]
      exact ⟨overlay, List.mem_reverse.mpr hmem, decide_eq_true rfl⟩
    obtain ⟨found, hfound⟩ := Option.isSome_iff_exists.mp hsome
    rw [hfound]
    rw [byId] at hfound
    have hid := List.find?_some hfound
    rw [decide_eq_true_eq] at hid
    have hfoundMem := List.mem_reverse.mp (List.mem_of_find?_eq_some hfound)
    rw [List.inj_on_of_nodup_map hids hfoundMem hmem hid]

theorem isKnown_iff : isKnown overlays id = true ↔ id ∈ ids overlays := by
  rw [isKnown, byId, List.find?_isSome, ids, List.mem_map]
  simp only [List.mem_reverse, decide_eq_true_eq]

theorem next_eq_some (hids : (ids overlays).Nodup) :
    next overlays a = some b ↔ Supersedes overlays a b := by
  rw [next, Option.bind_eq_some_iff]
  simp only [byId_eq_some hids, Supersedes, and_assoc]

/-- The steps that the walks take are the references. -/
theorem follows_eq (hids : (ids overlays).Nodup) :
    Follows (next overlays) = Supersedes overlays := by
  funext a b
  exact propext (next_eq_some hids)

theorem next_overlayId (hids : (ids overlays).Nodup) {overlay : ReleaseOverlay}
    (hmem : overlay ∈ overlays) : next overlays overlay.overlayId = overlay.supersedesId := by
  rw [next, (byId_eq_some hids).mpr ⟨hmem, rfl⟩, Option.bind_some]

theorem isKnown_of_next (h : next overlays a = some b) : isKnown overlays a = true := by
  obtain ⟨overlay, hoverlay, -⟩ := Option.bind_eq_some_iff.mp h
  rw [isKnown, hoverlay, Option.isSome_some]

theorem definedOn : DefinedOn (next overlays) (ids overlays) :=
  fun _ _ h => isKnown_iff.mp (isKnown_of_next h)

theorem ids_perm (hperm : overlays.Perm overlays') : (ids overlays).Perm (ids overlays') :=
  hperm.map _

/-- The identifiers find the same overlays in another order of the list. -/
theorem byId_perm (hids : (ids overlays).Nodup) (hperm : overlays.Perm overlays') :
    byId overlays = byId overlays' := by
  funext id
  have hids' : (ids overlays').Nodup := (ids_perm hperm).nodup_iff.mp hids
  ext overlay
  rw [byId_eq_some hids, byId_eq_some hids', hperm.mem_iff]

theorem next_perm (hids : (ids overlays).Nodup) (hperm : overlays.Perm overlays') :
    next overlays = next overlays' := by
  funext id
  rw [next, next, byId_perm hids hperm]

theorem isKnown_perm (hids : (ids overlays).Nodup) (hperm : overlays.Perm overlays') :
    isKnown overlays = isKnown overlays' := by
  funext id
  rw [isKnown, isKnown, byId_perm hids hperm]

/-! ### Loops that may not return -/

theorem filterAuxM_eq_some {α : Type} {f : α → Option Bool} {l acc r : List α} :
    l.filterAuxM f acc = some r ↔
      (∀ a ∈ l, ∃ b, f a = some b) ∧ r = (l.filter (f · = some true)).reverse ++ acc := by
  induction l generalizing acc with
  | nil => simp [List.filterAuxM, eq_comm]
  | cons a l ih =>
    cases ha : f a with
    | none => simp [List.filterAuxM, ha]
    | some b => cases b <;> simp [List.filterAuxM, ha, ih]

/-- A loop over a list returns if each of its steps does. -/
theorem filterM_eq_some {α : Type} {f : α → Option Bool} {l r : List α} :
    l.filterM f = some r ↔ (∀ a ∈ l, ∃ b, f a = some b) ∧ r = l.filter (f · = some true) := by
  have hrun : l.filterM f = some r ↔ ∃ r', l.filterAuxM f [] = some r' ∧ r'.reverse = r := by
    simp only [List.filterM, Option.bind_eq_bind, Option.bind_eq_some_iff, Option.pure_def,
      Option.some.injEq]
  rw [hrun]
  constructor
  · rintro ⟨r', hr', rfl⟩
    obtain ⟨hall, rfl⟩ := filterAuxM_eq_some.mp hr'
    exact ⟨hall, by rw [List.append_nil, List.reverse_reverse]⟩
  · rintro ⟨hall, rfl⟩
    exact ⟨_, filterAuxM_eq_some.mpr ⟨hall, rfl⟩, by rw [List.append_nil, List.reverse_reverse]⟩

theorem mapM_eq_some {α β : Type} [Inhabited β] {g : α → Option β} {l : List α}
    {r : List (α × β)} :
    (l.mapM fun a => (g a).map fun n => (a, n)) = some r ↔
      (∀ a ∈ l, ∃ n, g a = some n) ∧ r = l.map fun a => (a, (g a).getD default) := by
  induction l generalizing r with
  | nil => simp [eq_comm]
  | cons a l ih =>
    rw [List.mapM_cons]
    cases ha : g a with
    | none => simp [ha]
    | some n =>
      simp only [Option.map_some, Option.bind_eq_bind, Option.bind_some, Option.bind_eq_some_iff,
        ih, Option.pure_def, Option.some.injEq, List.forall_mem_cons, ha, exists_eq', true_and,
        List.map_cons, Option.getD_some]
      constructor
      · rintro ⟨r', ⟨hall, rfl⟩, rfl⟩
        exact ⟨hall, rfl⟩
      · rintro ⟨hall, rfl⟩
        exact ⟨_, ⟨hall, rfl⟩, rfl⟩

/-! ### One walk -/

/-- As many steps as there are overlays, and two, are enough. -/
def enough (overlays : List ReleaseOverlay) : ℕ := overlays.length + 2

theorem walk_returns_of_enough {stop : String → Bool} {start : Option String}
    {visited : List String} (hfuel : enough overlays ≤ fuel) :
    ∃ outcome, walk (next overlays) stop fuel start visited = some outcome := by
  refine walk_returns definedOn ?_
  have hle := List.length_filter_le (· ∉ visited) (ids overlays)
  have hlength : (ids overlays).length = overlays.length := List.length_map _
  unfold enough at hfuel
  omega

theorem exists_chainReaches (start : Option String) (id : String)
    (hfuel : enough overlays ≤ fuel) :
    ∃ reaches, chainReaches fuel start id overlays = some reaches := by
  obtain ⟨outcome, h⟩ := walk_returns_of_enough hfuel
  exact ⟨_, by rw [chainReaches, h, Option.map_some]⟩

/-- `_chain_reaches` finds what is in the chain. -/
theorem chainReaches_iff {start : Option String} {reaches : Bool}
    (h : chainReaches fuel start id overlays = some reaches) :
    reaches = true ↔ Meets (next overlays) start id := by
  obtain ⟨outcome, hwalk, rfl⟩ := Option.map_eq_some_iff.mp h
  rw [decide_eq_true_eq, walk_found_iff hwalk]
  simp only [decide_eq_true_eq, exists_eq_right]

/-! ### The overlays that supersede an entry -/

/-- The overlay counts for the entry, and its chain comes to the entry. -/
structure SupersedesEntry (entry : Entry) (observed : Observed) (overlays : List ReleaseOverlay)
    (overlay : ReleaseOverlay) : Prop where
  mem : overlay ∈ overlays
  isCandidate : isCandidate entry.capability observed overlay = true
  reaches : TransGen (Supersedes overlays) overlay.overlayId entry.id

open Classical in
/-- The candidates that supersede the entry, in the order of the registry. -/
noncomputable def superseding (entry : Entry) (observed : Observed)
    (overlays : List ReleaseOverlay) : List ReleaseOverlay :=
  (overlays.filter (isCandidate entry.capability observed)).filter fun overlay =>
    TransGen (Supersedes overlays) overlay.overlayId entry.id

section Status

variable {entry : Entry} {observed : Observed} {overlay : ReleaseOverlay}

theorem mem_superseding :
    overlay ∈ superseding entry observed overlays ↔
      SupersedesEntry entry observed overlays overlay := by
  classical
  rw [superseding, List.mem_filter, List.mem_filter, decide_eq_true_eq]
  exact ⟨fun ⟨⟨hmem, hcandidate⟩, hreaches⟩ => ⟨hmem, hcandidate, hreaches⟩,
    fun ⟨hmem, hcandidate, hreaches⟩ => ⟨⟨hmem, hcandidate⟩, hreaches⟩⟩

theorem meets_iff (hids : (ids overlays).Nodup) (hmem : overlay ∈ overlays) :
    Meets (next overlays) overlay.supersedesId a ↔
      TransGen (Supersedes overlays) overlay.overlayId a := by
  rw [← next_overlayId hids hmem, meets_next_iff, LeadsTo, follows_eq hids]

/-- The candidates that the loop keeps are those that supersede the entry. -/
theorem filterM_chainReaches (hids : (ids overlays).Nodup) {kept : List ReleaseOverlay}
    (h : (overlays.filter (isCandidate entry.capability observed)).filterM
      (fun c => chainReaches fuel c.supersedesId entry.id overlays) = some kept) :
    kept = superseding entry observed overlays := by
  classical
  obtain ⟨hall, rfl⟩ := filterM_eq_some.mp h
  refine List.filter_congr fun c hc => ?_
  obtain ⟨reaches, hreaches⟩ := hall c hc
  rw [Bool.eq_iff_iff, decide_eq_true_eq, decide_eq_true_eq, hreaches, Option.some.injEq,
    chainReaches_iff hreaches, meets_iff hids (List.mem_of_mem_filter hc)]

theorem exists_filterM_chainReaches (entry : Entry) (observed : Observed)
    (hids : (ids overlays).Nodup) (hfuel : enough overlays ≤ fuel) :
    (overlays.filter (isCandidate entry.capability observed)).filterM
      (fun c => chainReaches fuel c.supersedesId entry.id overlays) =
        some (superseding entry observed overlays) := by
  have h := filterM_eq_some.mpr ⟨fun c (_ : c ∈ overlays.filter
    (isCandidate entry.capability observed)) =>
      exists_chainReaches c.supersedesId entry.id hfuel, rfl⟩
  rw [h, filterM_chainReaches hids h]

/-- The identifiers that `order_overlay_chain` is given. -/
noncomputable def chainIds (entry : Entry) (observed : Observed) (overlays : List ReleaseOverlay) :
    List String :=
  sortedIds (ids (superseding entry observed overlays)).dedup

theorem mem_chainIds :
    a ∈ chainIds entry observed overlays ↔
      ∃ overlay, SupersedesEntry entry observed overlays overlay ∧ overlay.overlayId = a := by
  rw [chainIds, sortedIds, List.mem_insertionSort, List.mem_dedup, ids, List.mem_map]
  simp only [mem_superseding]

theorem nodup_chainIds : (chainIds entry observed overlays).Nodup :=
  (List.perm_insertionSort _ _).nodup_iff.mpr (List.nodup_dedup _)

/-- `_entry_supersession_status`, with the overlays that supersede the entry. -/
theorem entrySupersessionStatus_eq (hids : (ids overlays).Nodup) {kept : List ReleaseOverlay}
    (h : (overlays.filter (isCandidate entry.capability observed)).filterM
      (fun c => chainReaches fuel c.supersedesId entry.id overlays) = some kept) :
    entrySupersessionStatus fuel entry.id entry.capability observed overlays =
      if superseding entry observed overlays ≠ [] then
        (orderOverlayChain fuel (chainIds entry observed overlays) overlays).map
          fun chain => (.superseded, chain)
      else if overlays.filter (isCandidate entry.capability observed) = [] then some (.none, [])
      else some (.caveated, sortedIds
        (ids (overlays.filter (isCandidate entry.capability observed)))) := by
  have hkept := filterM_chainReaches hids h
  rw [hkept] at h
  simp only [entrySupersessionStatus, h, Option.bind_eq_bind, Option.bind_some, Option.pure_def]
  by_cases hnil : overlays.filter (isCandidate entry.capability observed) = []
  · have hnone : superseding entry observed overlays = [] := by
      rw [superseding, hnil, List.filter_nil]
    rw [if_pos hnil, if_neg (not_not.mpr hnone), if_pos hnil]
  · rw [if_neg hnil, if_neg hnil]
    split_ifs
    · exact Option.map_eq_bind.symm
    · rfl

end Status

/-! ### The order of a chain -/

section Order

variable {l r : List String}

theorem orderOverlayChain_eq_some :
    orderOverlayChain fuel l overlays = some r ↔
      (∀ id ∈ l, ∃ n, chainLength fuel overlays id = some n) ∧
        r = ((l.map fun id => (id, (chainLength fuel overlays id).getD default)).insertionSort
          fun x y => x.2 ≤ y.2).map (·.1) := by
  simp only [orderOverlayChain, Option.bind_eq_bind, Option.bind_eq_some_iff, mapM_eq_some,
    Option.pure_def, Option.some.injEq]
  constructor
  · rintro ⟨_, ⟨hall, rfl⟩, rfl⟩
    exact ⟨hall, rfl⟩
  · rintro ⟨hall, rfl⟩
    exact ⟨_, ⟨hall, rfl⟩, rfl⟩

theorem perm_of_orderOverlayChain (h : orderOverlayChain fuel l overlays = some r) : r.Perm l := by
  obtain ⟨-, rfl⟩ := orderOverlayChain_eq_some.mp h
  refine ((List.perm_insertionSort _ _).map _).trans ?_
  rw [List.map_map]
  exact List.Perm.of_eq (List.map_id'' (fun _ => rfl) l)

/-- A longer chain does not come before a shorter one. -/
theorem pairwise_of_orderOverlayChain (h : orderOverlayChain fuel l overlays = some r) :
    r.Pairwise fun x y => ∀ m n, chainLength fuel overlays x = some m →
      chainLength fuel overlays y = some n → m ≤ n := by
  obtain ⟨-, rfl⟩ := orderOverlayChain_eq_some.mp h
  have : Std.Total fun x y : String × ℕ => x.2 ≤ y.2 := ⟨fun x y => Nat.le_total x.2 y.2⟩
  have : IsTrans (String × ℕ) fun x y => x.2 ≤ y.2 := ⟨fun _ _ _ => Nat.le_trans⟩
  rw [List.pairwise_map]
  refine List.Pairwise.imp_of_mem ?_ (List.pairwise_insertionSort _ _)
  rintro ⟨x, m⟩ ⟨y, n⟩ hx hy hle m' n' hm hn
  rw [List.mem_insertionSort, List.mem_map] at hx hy
  obtain ⟨_, -, hx⟩ := hx
  obtain ⟨_, -, hy⟩ := hy
  cases hx
  cases hy
  rwa [hm, hn] at hle

/-- An overlay comes after those that it supersedes. -/
theorem idxOf_lt_of_orderOverlayChain
    (h : orderOverlayChain fuel l overlays = some r) (ha : a ∈ r) (hb : b ∈ r)
    (hknown : isKnown overlays a = true) (hba : LeadsTo (next overlays) b a) :
    r.idxOf a < r.idxOf b := by
  have hperm := perm_of_orderOverlayChain h
  obtain ⟨hall, -⟩ := orderOverlayChain_eq_some.mp h
  obtain ⟨m, hm⟩ := hall a (hperm.mem_iff.mp ha)
  obtain ⟨n, hn⟩ := hall b (hperm.mem_iff.mp hb)
  have hinside : ∀ x y, next overlays x = some y → isKnown overlays x = true :=
    fun _ _ => isKnown_of_next
  have hlt : m < n := count_lt hinside hknown hba hn hm
  by_contra hle
  have hne : r.idxOf b ≠ r.idxOf a := by
    intro heq
    rw [(List.idxOf_inj hb).mp heq, hm] at hn
    exact absurd (Option.some.inj hn) (Nat.ne_of_lt hlt)
  have hpairs := List.pairwise_iff_getElem.mp (pairwise_of_orderOverlayChain h) (r.idxOf b)
    (r.idxOf a) (List.idxOf_lt_length_of_mem hb) (List.idxOf_lt_length_of_mem ha) (by omega) n m
  rw [List.getElem_idxOf, List.getElem_idxOf] at hpairs
  have := hpairs hn hm
  omega

end Order

/-! ### More steps do not change a result -/

section Mono

variable {more : ℕ} {l r : List String}

theorem chainReaches_mono (hle : fuel ≤ more) {start : Option String} {reaches : Bool}
    (h : chainReaches fuel start id overlays = some reaches) :
    chainReaches more start id overlays = some reaches := by
  obtain ⟨outcome, hwalk, rfl⟩ := Option.map_eq_some_iff.mp h
  rw [chainReaches, walk_mono hwalk hle, Option.map_some]

theorem filterM_mono {α : Type} {f g : α → Option Bool} {l r : List α}
    (hfg : ∀ a b, f a = some b → g a = some b) (h : l.filterM f = some r) :
    l.filterM g = some r := by
  obtain ⟨hall, rfl⟩ := filterM_eq_some.mp h
  refine filterM_eq_some.mpr ⟨fun a ha => ?_, List.filter_congr fun a ha => ?_⟩
  · obtain ⟨b, hb⟩ := hall a ha
    exact ⟨b, hfg a b hb⟩
  · obtain ⟨b, hb⟩ := hall a ha
    rw [hb, hfg a b hb]

theorem orderOverlayChain_mono (hle : fuel ≤ more)
    (h : orderOverlayChain fuel l overlays = some r) :
    orderOverlayChain more l overlays = some r := by
  obtain ⟨hall, rfl⟩ := orderOverlayChain_eq_some.mp h
  have hmore : ∀ id ∈ l, ∀ n, chainLength fuel overlays id = some n →
      chainLength more overlays id = some n := fun _ _ _ hn => count_mono hn hle
  refine orderOverlayChain_eq_some.mpr ⟨fun id hid => ?_, ?_⟩
  · obtain ⟨n, hn⟩ := hall id hid
    exact ⟨n, hmore id hid n hn⟩
  · congr 2
    refine List.map_congr_left fun id hid => ?_
    obtain ⟨n, hn⟩ := hall id hid
    rw [hn, hmore id hid n hn]

theorem entrySupersessionStatus_mono {entry : Entry} {observed : Observed} (hle : fuel ≤ more)
    {status : SupersessionStatus × List String}
    (h : entrySupersessionStatus fuel entry.id entry.capability observed overlays = some status) :
    entrySupersessionStatus more entry.id entry.capability observed overlays = some status := by
  simp only [entrySupersessionStatus, Option.bind_eq_bind, Option.bind_eq_some_iff,
    Option.pure_def] at h ⊢
  obtain ⟨kept, hkept, h⟩ := h
  refine ⟨kept, filterM_mono (fun _ _ => chainReaches_mono hle) hkept, ?_⟩
  split_ifs at h ⊢
  · exact h
  · obtain ⟨chain, hchain, h⟩ := Option.bind_eq_some_iff.mp h
    rw [orderOverlayChain_mono hle hchain]
    exact h
  · exact h

end Mono

/-! ### The state of an entry -/

section Applicability

variable {entry : Entry} {observed : Observed} {r : ApplicabilityState × List String}

theorem computeEntryApplicability_mono {m n : ℕ} (hle : m ≤ n)
    (h : computeEntryApplicability m entry observed overlays = some r) :
    computeEntryApplicability n entry observed overlays = some r := by
  obtain ⟨status, hstatus, rfl⟩ := Option.map_eq_some_iff.mp h
  rw [computeEntryApplicability, entrySupersessionStatus_mono hle hstatus, Option.map_some]

/-- The calls `compute_entry_applicability` that return, and what they return. -/
theorem returns_computeEntryApplicability :
    Returns (computeEntryApplicability · entry observed overlays) r ↔
      ∃ fuel, computeEntryApplicability fuel entry observed overlays = some r :=
  returns_iff_exists fun _ _ _ => computeEntryApplicability_mono

theorem capApplicability_stale {level : EvidenceLevel} {state : ApplicabilityState} :
    capApplicabilityByEvidenceLevel level state = .stale ↔ state = .stale := by
  cases level <;> cases state <;> decide

theorem baseApplicability_stale {editionStatus : EditionStatus} {versionStatus : VersionStatus}
    {status : SupersessionStatus × List String} :
    (baseApplicability editionStatus versionStatus status).1 = .stale ↔
      editionStatus ≠ .mismatch ∧ status.1 = .superseded := by
  obtain ⟨status, chain⟩ := status
  simp only [baseApplicability]
  split_ifs with h₁ h₂ h₃ h₄
  · simp [h₁]
  · simp [h₁, h₂]
  · simp [h₂]
  · simp [h₂]
  · simp [h₂]

theorem finalApplicability_stale {level : EvidenceLevel}
    {base : ApplicabilityState × List String} :
    (finalApplicability level base).1 = .stale ↔ base.1 = .stale :=
  capApplicability_stale

/-- The chain of a stale entry is the one that was found. -/
theorem snd_of_stale {editionStatus : EditionStatus} {versionStatus : VersionStatus}
    {level : EvidenceLevel} {status : SupersessionStatus × List String}
    (h : (finalApplicability level (baseApplicability editionStatus versionStatus status)).1 =
      .stale) :
    (finalApplicability level (baseApplicability editionStatus versionStatus status)).2 =
      status.2 := by
  obtain ⟨hedition, hstatus⟩ := baseApplicability_stale.mp (finalApplicability_stale.mp h)
  have hfinal : (finalApplicability level
      (baseApplicability editionStatus versionStatus status)).2 =
        (baseApplicability editionStatus versionStatus status).2 :=
    if_pos (by rw [show capApplicabilityByEvidenceLevel _ _ = .stale from h]; rfl)
  rw [hfinal]
  obtain ⟨status, chain⟩ := status
  simp only [baseApplicability]
  rw [if_neg hedition, if_pos hstatus]

/-- What is computed: an entry that is superseded gets the chain of the overlays that supersede
it. -/
theorem cases_of_compute (hids : (ids overlays).Nodup)
    (h : computeEntryApplicability fuel entry observed overlays = some r) :
    ∃ status, (r = finalApplicability entry.evidenceLevel (baseApplicability
        (entryEditionStatus entry.edition observed.edition)
        (entryVersionStatus entry.versionApplicability observed.version) status)) ∧
      (superseding entry observed overlays ≠ [] ∧ status.1 = .superseded ∧
          orderOverlayChain fuel (chainIds entry observed overlays) overlays = some status.2 ∨
        superseding entry observed overlays = [] ∧ status.1 ≠ .superseded) := by
  obtain ⟨status, hstatus, rfl⟩ := Option.map_eq_some_iff.mp h
  obtain ⟨kept, hkept, -⟩ := Option.bind_eq_some_iff.mp hstatus
  rw [entrySupersessionStatus_eq hids hkept] at hstatus
  refine ⟨status, rfl, ?_⟩
  split_ifs at hstatus with hsuperseded hnil
  · obtain ⟨chain, hchain, rfl⟩ := Option.map_eq_some_iff.mp hstatus
    exact .inl ⟨hsuperseded, rfl, hchain⟩
  · cases hstatus
    exact .inr ⟨not_not.mp hsuperseded, by decide⟩
  · cases hstatus
    exact .inr ⟨not_not.mp hsuperseded, by simp⟩

theorem superseding_ne_nil :
    superseding entry observed overlays ≠ [] ↔
      ∃ overlay, SupersedesEntry entry observed overlays overlay := by
  simp only [← mem_superseding]
  exact ⟨List.exists_mem_of_ne_nil _, fun ⟨_, hmem⟩ => List.ne_nil_of_mem hmem⟩

/-- An entry is stale if it is superseded. -/
theorem stale_iff (hids : (ids overlays).Nodup)
    (h : computeEntryApplicability fuel entry observed overlays = some r) :
    r.1 = .stale ↔ entryEditionStatus entry.edition observed.edition ≠ .mismatch ∧
      ∃ overlay, SupersedesEntry entry observed overlays overlay := by
  obtain ⟨status, rfl, hcases⟩ := cases_of_compute hids h
  rw [finalApplicability_stale, baseApplicability_stale, ← superseding_ne_nil]
  rcases hcases with ⟨hne, hstatus, -⟩ | ⟨hnil, hstatus⟩
  · simp only [hne, hstatus, ne_eq, not_false_eq_true]
  · simp only [hnil, hstatus, ne_eq, not_true_eq_false]

theorem chain_of_stale (hids : (ids overlays).Nodup)
    (h : computeEntryApplicability fuel entry observed overlays = some r) (hstale : r.1 = .stale) :
    orderOverlayChain fuel (chainIds entry observed overlays) overlays = some r.2 := by
  obtain ⟨status, rfl, hcases⟩ := cases_of_compute hids h
  have hstatus := (baseApplicability_stale.mp (finalApplicability_stale.mp hstale)).2
  rw [snd_of_stale hstale]
  rcases hcases with ⟨-, -, hchain⟩ | ⟨-, hnot⟩
  · exact hchain
  · exact absurd hstatus hnot

/-- The loop of `order_overlay_chain` returns on the chains that end. -/
theorem exists_chainLength_iff :
    (∃ fuel n, chainLength fuel overlays id = some n) ↔ Ends (next overlays) id := by
  constructor
  · rintro ⟨fuel, n, hn⟩
    exact endsFrom_next.mp (endsFrom_of_count (fun _ _ => isKnown_of_next) hn)
  · intro h
    obtain ⟨n, hn⟩ := exists_count (isKnown overlays) (endsFrom_next.mpr h)
    exact ⟨n + 1, 0 + n, hn (n + 1) (Nat.lt_succ_self n) 0⟩

/-- The computation returns unless an overlay that supersedes the entry has a chain without an
end. -/
theorem exists_compute_iff (entry : Entry) (observed : Observed) (hids : (ids overlays).Nodup) :
    (∃ fuel r, computeEntryApplicability fuel entry observed overlays = some r) ↔
      ∀ overlay, SupersedesEntry entry observed overlays overlay →
        Ends (next overlays) overlay.overlayId := by
  constructor
  · rintro ⟨fuel, r, h⟩ overlay hoverlay
    obtain ⟨status, -, ⟨-, -, hchain⟩ | ⟨hnil, -⟩⟩ := cases_of_compute hids h
    · obtain ⟨n, hn⟩ := (orderOverlayChain_eq_some.mp hchain).1 overlay.overlayId
        (mem_chainIds.mpr ⟨overlay, hoverlay, rfl⟩)
      exact exists_chainLength_iff.mp ⟨fuel, n, hn⟩
    · exact absurd hnil (superseding_ne_nil.mpr ⟨overlay, hoverlay⟩)
  · intro hends
    have hchains : ∀ id ∈ chainIds entry observed overlays, ∃ enough, ∀ fuel ≥ enough,
        ∃ n, chainLength fuel overlays id = some n := by
      intro id hid
      obtain ⟨overlay, hoverlay, rfl⟩ := mem_chainIds.mp hid
      obtain ⟨fuel, n, hn⟩ := exists_chainLength_iff.mpr (hends overlay hoverlay)
      exact ⟨fuel, fun more hle => ⟨n, count_mono hn hle⟩⟩
    obtain ⟨steps, hsteps⟩ := exists_enough hchains
    have hkept := exists_filterM_chainReaches entry observed hids
      (Nat.le_max_right steps (enough overlays))
    have hchain := orderOverlayChain_eq_some.mpr
      ⟨hsteps _ (Nat.le_max_left steps (enough overlays)), rfl⟩
    refine ⟨max steps (enough overlays), ?_⟩
    rw [computeEntryApplicability, entrySupersessionStatus_eq hids hkept, hchain]
    split_ifs
    · exact ⟨_, rfl⟩
    · exact ⟨_, rfl⟩
    · exact ⟨_, rfl⟩

/-! ### The order of the overlays -/

theorem sortedIds_perm {l l' : List String} (h : l.Perm l') : sortedIds l = sortedIds l' :=
  List.Perm.eq_of_sortedLE List.sortedLE_insertionSort List.sortedLE_insertionSort
    (((List.perm_insertionSort _ l).trans h).trans (List.perm_insertionSort _ l').symm)

theorem supersedes_perm (hperm : overlays.Perm overlays') :
    Supersedes overlays = Supersedes overlays' := by
  funext a b
  simp only [Supersedes, hperm.mem_iff]

theorem superseding_perm (hperm : overlays.Perm overlays') :
    (superseding entry observed overlays).Perm (superseding entry observed overlays') := by
  rw [superseding, superseding, supersedes_perm hperm]
  exact (hperm.filter _).filter _

theorem chainIds_perm (hperm : overlays.Perm overlays') :
    chainIds entry observed overlays = chainIds entry observed overlays' :=
  sortedIds_perm (ids_perm (superseding_perm hperm)).dedup

theorem orderOverlayChain_perm (hids : (ids overlays).Nodup) (hperm : overlays.Perm overlays')
    {l : List String} :
    orderOverlayChain fuel l overlays = orderOverlayChain fuel l overlays' := by
  have hlength : chainLength fuel overlays = chainLength fuel overlays' := by
    funext id
    rw [chainLength, chainLength, next_perm hids hperm, isKnown_perm hids hperm]
  rw [orderOverlayChain, orderOverlayChain, hlength]

theorem eq_nil_iff_of_perm {l l' : List ReleaseOverlay} (h : l.Perm l') : l = [] ↔ l' = [] := by
  rw [← List.length_eq_zero_iff, ← List.length_eq_zero_iff, h.length_eq]

theorem entrySupersessionStatus_perm (hids : (ids overlays).Nodup)
    (hperm : overlays.Perm overlays') (hfuel : enough overlays ≤ fuel) :
    entrySupersessionStatus fuel entry.id entry.capability observed overlays =
      entrySupersessionStatus fuel entry.id entry.capability observed overlays' := by
  have hids' : (ids overlays').Nodup := (ids_perm hperm).nodup_iff.mp hids
  have hfuel' : enough overlays' ≤ fuel := by rwa [enough, ← hperm.length_eq]
  have hcandidates := hperm.filter (isCandidate entry.capability observed)
  have hnil : superseding entry observed overlays = [] ↔
      superseding entry observed overlays' = [] := eq_nil_iff_of_perm (superseding_perm hperm)
  rw [entrySupersessionStatus_eq hids (exists_filterM_chainReaches entry observed hids hfuel),
    entrySupersessionStatus_eq hids' (exists_filterM_chainReaches entry observed hids' hfuel'),
    chainIds_perm hperm, orderOverlayChain_perm hids hperm, sortedIds_perm (ids_perm hcandidates)]
  simp only [ne_eq, hnil, eq_nil_iff_of_perm hcandidates]

/-- The computation returns the same for every order of the overlays. -/
theorem returns_perm (hids : (ids overlays).Nodup) (hperm : overlays.Perm overlays')
    (h : Returns (computeEntryApplicability · entry observed overlays) r) :
    Returns (computeEntryApplicability · entry observed overlays') r := by
  obtain ⟨steps, hsteps⟩ := h
  refine ⟨max steps (enough overlays), fun fuel hfuel => ?_⟩
  have hsame := hsteps fuel (le_of_max_le_left hfuel)
  simp only [computeEntryApplicability] at hsame ⊢
  rwa [← entrySupersessionStatus_perm hids hperm (le_of_max_le_right hfuel)]

end Applicability

/-! ### The checks of the registry -/

section Checks

variable {repr : String → String} {overlay : ReleaseOverlay}

/-- An overlay without a defect: what it refers to is an overlay, and its chain ends. -/
def Sound (overlays : List ReleaseOverlay) (overlay : ReleaseOverlay) : Prop :=
  ∀ target, overlay.supersedesId = some target →
    target ∈ ids overlays ∧ Ends (next overlays) target

theorem chainDefect_mono {more : ℕ} (hle : fuel ≤ more) {defect : Option String}
    (h : chainDefect repr fuel overlays overlay = some defect) :
    chainDefect repr more overlays overlay = some defect := by
  cases htarget : overlay.supersedesId with
  | none =>
    simp only [chainDefect, htarget] at h ⊢
    exact h
  | some target =>
    simp only [chainDefect, htarget] at h ⊢
    split_ifs at h ⊢
    · exact h
    · obtain ⟨outcome, hwalk, rfl⟩ := Option.map_eq_some_iff.mp h
      rw [walk_mono hwalk hle, Option.map_some]

theorem exists_chainDefect (repr : String → String) (overlay : ReleaseOverlay)
    (hfuel : enough overlays ≤ fuel) :
    ∃ defect, chainDefect repr fuel overlays overlay = some defect := by
  rw [chainDefect]
  split
  · exact ⟨_, rfl⟩
  · split_ifs
    · exact ⟨_, rfl⟩
    · obtain ⟨outcome, h⟩ := walk_returns_of_enough hfuel
      exact ⟨_, by rw [h, Option.map_some]⟩

/-- Each defect is found, and nothing else. -/
theorem chainDefect_eq_none_iff (hids : (ids overlays).Nodup) (hmem : overlay ∈ overlays)
    {defect : Option String} (h : chainDefect repr fuel overlays overlay = some defect) :
    defect = none ↔ Sound overlays overlay := by
  cases htarget : overlay.supersedesId with
  | none =>
    simp only [chainDefect, htarget, Option.some.injEq] at h
    exact ⟨fun _ target heq => (by rw [htarget] at heq; cases heq), fun _ => h.symm⟩
  | some target =>
    simp only [chainDefect, htarget] at h
    by_cases hknown : isKnown overlays target = true
    · rw [if_neg (by rw [hknown]; decide)] at h
      obtain ⟨outcome, hwalk, rfl⟩ := Option.map_eq_some_iff.mp h
      have hsound : Sound overlays overlay ↔ Ends (next overlays) target := by
        constructor
        · exact fun hsound => (hsound target htarget).2
        · intro hends target' htarget'
          cases htarget.symm.trans htarget'
          exact ⟨isKnown_iff.mp hknown, hends⟩
      rw [hsound]
      cases outcome with
      | found =>
        obtain ⟨b, -, hb⟩ := exists_of_walk_found hwalk
        cases hb
      | cycled current =>
        -- the walk started at the overlay, which leads to where it goes on
        have hcycle := leadsTo_of_walk hwalk fun v hv b hb => by
          cases List.mem_singleton.mp hv
          cases hb
          exact .single ((next_overlayId hids hmem).trans htarget)
        refine iff_of_false (by simp) fun hends => ?_
        exact (hends.of_reach (meets_some.mp hcycle.1)).not_leadsTo_self hcycle.2
      | ended => exact iff_of_true rfl (endsFrom_some.mp (endsFrom_of_walk hwalk))
    · rw [if_pos (by simpa using hknown)] at h
      cases h
      refine iff_of_false (by simp) fun hsound => hknown ?_
      exact isKnown_iff.mpr (hsound target htarget).1

theorem setDefect_ne_nil {id description : String} {defects : List (String × String)} :
    setDefect id description defects ≠ [] := by
  cases defects with
  | nil => exact List.cons_ne_nil _ _
  | cons d ds =>
    rw [setDefect]
    split_ifs
    · exact List.cons_ne_nil _ _
    · exact List.cons_ne_nil _ _

theorem collectDefects_mono {more : ℕ} (hle : fuel ≤ more) {l : List ReleaseOverlay}
    {defects defects' : List (String × String)}
    (h : collectDefects repr fuel overlays l defects = some defects') :
    collectDefects repr more overlays l defects = some defects' := by
  induction l generalizing defects with
  | nil => exact h
  | cons overlay l ih =>
    simp only [collectDefects, Option.bind_eq_bind, Option.bind_eq_some_iff] at h ⊢
    obtain ⟨defect, hdefect, h⟩ := h
    refine ⟨defect, chainDefect_mono hle hdefect, ?_⟩
    cases defect with
    | none => exact ih h
    | some description => exact ih h

/-- The loop returns, and adds nothing if and only if no overlay has a defect. -/
theorem exists_collectDefects (repr : String → String) (hids : (ids overlays).Nodup) (hfuel : enough overlays ≤ fuel)
    {l : List ReleaseOverlay} (hl : ∀ overlay ∈ l, overlay ∈ overlays)
    (defects : List (String × String)) :
    ∃ defects', collectDefects repr fuel overlays l defects = some defects' ∧
      (defects' = [] ↔ defects = [] ∧ ∀ overlay ∈ l, Sound overlays overlay) := by
  induction l generalizing defects with
  | nil => exact ⟨defects, rfl, by simp⟩
  | cons overlay l ih =>
    obtain ⟨hoverlay, hl⟩ := List.forall_mem_cons.mp hl
    obtain ⟨defect, hdefect⟩ := exists_chainDefect repr overlay hfuel
    have hiff := chainDefect_eq_none_iff hids hoverlay hdefect
    simp only [collectDefects, hdefect, Option.bind_eq_bind, Option.bind_some,
      List.forall_mem_cons]
    cases defect with
    | none =>
      obtain ⟨defects', h, hnil⟩ := ih hl defects
      exact ⟨defects', h, by rw [hnil, ← hiff]; simp⟩
    | some description =>
      obtain ⟨defects', h, hnil⟩ := ih hl (setDefect overlay.overlayId description defects)
      exact ⟨defects', h, by rw [hnil, ← hiff]; simp [setDefect_ne_nil]⟩

/-- The check returns. -/
theorem exists_returns_findSupersessionChainDefects (repr : String → String)
    (hids : (ids overlays).Nodup) :
    ∃ defects, Returns (findSupersessionChainDefects repr · overlays) defects ∧
      (defects = [] ↔ ∀ overlay ∈ overlays, Sound overlays overlay) := by
  obtain ⟨defects, h, hnil⟩ := exists_collectDefects repr hids le_rfl
    (fun _ hoverlay => hoverlay) []
  refine ⟨defects, ⟨enough overlays, fun fuel hfuel => collectDefects_mono hfuel h⟩, ?_⟩
  rw [hnil]
  simp

/-- No overlay has a defect exactly if no chain comes back and each reference is to an overlay. -/
theorem forall_sound_iff (hids : (ids overlays).Nodup) :
    (∀ overlay ∈ overlays, Sound overlays overlay) ↔
      (∀ id, ¬TransGen (Supersedes overlays) id id) ∧
        ∀ a b, Supersedes overlays a b → b ∈ ids overlays := by
  rw [← follows_eq hids]
  constructor
  · intro hsound
    refine ⟨fun id hid => ?_, fun a b hab => ?_⟩
    · obtain ⟨target, hfirst, hrest⟩ := TransGen.head'_iff.mp hid
      obtain ⟨overlay, hmem, -, htarget⟩ := (next_eq_some hids).mp hfirst
      exact ((hsound overlay hmem target htarget).2.of_reach hrest).not_leadsTo_self hid
    · obtain ⟨overlay, hmem, -, htarget⟩ := (next_eq_some hids).mp hab
      exact (hsound overlay hmem b htarget).1
  · rintro ⟨hacyclic, hrefs⟩ overlay hmem target htarget
    exact ⟨hrefs _ target ((next_eq_some hids).mpr ⟨overlay, hmem, rfl, htarget⟩),
      (ends_iff_forall_not_leadsTo definedOn).mpr fun b _ => hacyclic b⟩

end Checks

/-! ### Overlays of one scope -/

section Conflicts

variable {left right : ReleaseOverlay}

/-- `_ancestor_closure` has what an overlay supersedes, as far as it is an overlay. -/
theorem mem_ancestors_iff (hids : (ids overlays).Nodup) (hleft : left ∈ overlays) :
    id ∈ ancestors overlays left.overlayId ↔
      TransGen (Supersedes overlays) left.overlayId id ∧ id ∈ ids overlays := by
  have hlength : (ids overlays).length < overlays.length + 1 := by
    rw [ids, List.length_map]
    exact Nat.lt_succ_self _
  rw [ancestors, (byId_eq_some hids).mpr ⟨hleft, rfl⟩]
  simp only
  rw [mem_collect_iff definedOn (fun _ _ => isKnown_of_next) hlength, meets_iff hids hleft,
    isKnown_iff]

/-- `find_duplicate_scope_conflicts` reports the two overlays: one scope, and no way from either to
the other. -/
structure Conflicting (overlays : List ReleaseOverlay) (left right : ReleaseOverlay) : Prop where
  capability : left.capability = right.capability
  edition : left.appliesToEdition = right.appliesToEdition ∨ left.appliesToEdition = .both ∨
    right.appliesToEdition = .both
  version : left.appliesToVersion = right.appliesToVersion
  not_left : ¬TransGen (Supersedes overlays) left.overlayId right.overlayId
  not_right : ¬TransGen (Supersedes overlays) right.overlayId left.overlayId

theorem conflicting_iff (hids : (ids overlays).Nodup) (hleft : left ∈ overlays)
    (hright : right ∈ overlays) :
    conflicting overlays left right = true ↔ Conflicting overlays left right := by
  have hleftId : left.overlayId ∈ ids overlays := List.mem_map_of_mem hleft
  have hrightId : right.overlayId ∈ ids overlays := List.mem_map_of_mem hright
  simp only [conflicting, editionCompatible, Bool.and_eq_true, Bool.or_eq_true, decide_eq_true_eq,
    mem_ancestors_iff hids hleft, mem_ancestors_iff hids hright, hleftId, hrightId, and_true]
  exact ⟨fun ⟨⟨⟨⟨h₁, h₂⟩, h₃⟩, h₄⟩, h₅⟩ => ⟨h₁, h₂, h₃, h₄, h₅⟩,
    fun ⟨h₁, h₂, h₃, h₄, h₅⟩ => ⟨⟨⟨⟨h₁, h₂⟩, h₃⟩, h₄⟩, h₅⟩⟩

theorem mem_conflictsAmong {l : List ReleaseOverlay} {p : String × String} :
    p ∈ conflictsAmong overlays l ↔ ∃ left right, [left, right].Sublist l ∧
      conflicting overlays left right = true ∧ p = (left.overlayId, right.overlayId) := by
  induction l with
  | nil => simp [conflictsAmong]
  | cons first rest ih =>
    simp only [conflictsAmong, List.mem_append, List.mem_map, List.mem_filter, ih]
    constructor
    · rintro (⟨right, ⟨hright, hconflict⟩, rfl⟩ | ⟨left, right, hsub, hconflict⟩)
      · exact ⟨first, right, (List.singleton_sublist.mpr hright).cons_cons first, hconflict, rfl⟩
      · exact ⟨left, right, hsub.cons first, hconflict⟩
    · rintro ⟨left, right, hsub, hconflict, rfl⟩
      cases hsub with
      | cons _ hsub => exact .inr ⟨left, right, hsub, hconflict, rfl⟩
      | cons_cons _ hsub =>
        exact .inl ⟨right, ⟨List.singleton_sublist.mp hsub, hconflict⟩, rfl⟩

/-- Each pair is reported once. -/
theorem nodup_conflictsAmong {l : List ReleaseOverlay} (hl : (ids l).Nodup) :
    (conflictsAmong overlays l).Nodup := by
  induction l with
  | nil => exact List.nodup_nil
  | cons first rest ih =>
    obtain ⟨hfirst, hrest⟩ := List.nodup_cons.mp hl
    refine List.nodup_append.mpr ⟨?_, ih hrest, ?_⟩
    · have hinner : ((rest.filter (conflicting overlays first)).map (·.overlayId)).Nodup :=
        hrest.sublist (List.filter_sublist.map _)
      refine List.Nodup.of_map Prod.snd ?_
      rw [List.map_map]
      exact hinner
    · rintro p hp q hq rfl
      obtain ⟨right, -, rfl⟩ := List.mem_map.mp hp
      obtain ⟨left, _, hsub, -, heq⟩ := mem_conflictsAmong.mp hq
      have hid : first.overlayId = left.overlayId := (Prod.mk.inj heq).1
      refine hfirst ?_
      show first.overlayId ∈ ids rest
      rw [hid]
      exact List.mem_map_of_mem (hsub.subset List.mem_cons_self)

end Conflicts

end Guidance
