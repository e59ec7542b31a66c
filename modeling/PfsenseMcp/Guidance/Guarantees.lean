import PfsenseMcp.Guidance.Supersession

/-!
# What the guidance registry can rely on

The checks that are made when the registry is loaded, and the state that an entry gets, for every
list of overlays that have different identifiers.

## Main results

* `checks_exact`: the two checks find the defects and the conflicts, and nothing else;
* `accepted_and_stale_iff`: a supersession takes effect, but one of a document is refused;
* `returns_iff`: the state is computed unless an overlay that supersedes the entry runs into a
  cycle.
-/

namespace Guidance

open Chain Relation

variable {overlays : List ReleaseOverlay}

/-! ### The checks -/

/-- The registry checks are exact, also if there are cycles: no defect is found if and only if no
chain of references comes back and each reference is to an overlay; and the conflicts are the pairs
of overlays of one scope that are not connected, each once. -/
theorem checks_exact (repr : String → String) (hids : (ids overlays).Nodup) :
    (∃ defects, Returns (findSupersessionChainDefects repr · overlays) defects ∧
      (defects = [] ↔ (∀ id, ¬TransGen (Supersedes overlays) id id) ∧
        ∀ a b, Supersedes overlays a b → b ∈ ids overlays)) ∧
    (findDuplicateScopeConflicts overlays).Nodup ∧
    ∀ p, p ∈ findDuplicateScopeConflicts overlays ↔
      ∃ left right, [left, right].Sublist overlays ∧ Conflicting overlays left right ∧
        p = (left.overlayId, right.overlayId) := by
  refine ⟨?_, nodup_conflictsAmong hids, fun p => ?_⟩
  · obtain ⟨defects, hreturns, hnil⟩ := exists_returns_findSupersessionChainDefects repr hids
    exact ⟨defects, hreturns, hnil.trans (forall_sound_iff hids)⟩
  · rw [findDuplicateScopeConflicts, mem_conflictsAmong]
    refine exists₂_congr fun left right => and_congr_right fun hsub => ?_
    have hleft : left ∈ overlays := hsub.subset List.mem_cons_self
    have hright : right ∈ overlays :=
      hsub.subset (List.mem_cons_of_mem left List.mem_cons_self)
    rw [conflicting_iff hids hleft hright]

namespace Sample

/-- An overlay of one capability, for every version and edition. -/
def notice (overlayId : String) (supersedesId : Option String) : ReleaseOverlay where
  overlayId := overlayId
  capability := "firewall"
  appliesToVersion := unversioned
  appliesToEdition := .both
  supersedesId := supersedesId

/-- An erratum corrects a note. -/
def corrected : List ReleaseOverlay := [notice "errata" (some "note"), notice "note" none]

/-- Two overlays that supersede each other. -/
def circular : List ReleaseOverlay := [notice "first" (some "second"), notice "second" (some "first")]

end Sample

/-- The checks of two overlays that supersede each other. -/
theorem checks_exact_sample :
    (∃ defects, Returns (findSupersessionChainDefects id · Sample.circular) defects ∧
      (defects = [] ↔ (∀ id, ¬TransGen (Supersedes Sample.circular) id id) ∧
        ∀ a b, Supersedes Sample.circular a b → b ∈ ids Sample.circular)) ∧
    (findDuplicateScopeConflicts Sample.circular).Nodup ∧
    ∀ p, p ∈ findDuplicateScopeConflicts Sample.circular ↔
      ∃ left right, [left, right].Sublist Sample.circular ∧
        Conflicting Sample.circular left right ∧ p = (left.overlayId, right.overlayId) :=
  checks_exact id (by decide)

/-! ### Supersession of documents -/

/-- The chains of the overlays end in no reference, or in one of the documents. -/
def EndsIn (documents : List String) (overlays : List ReleaseOverlay) : Prop :=
  (∀ id, ¬TransGen (Supersedes overlays) id id) ∧
    ∀ overlay ∈ overlays, ∀ id, TransGen (Supersedes overlays) overlay.overlayId id →
      id ∉ ids overlays → id ∈ documents

/-- The check reports nothing, and each entry is stale if it is superseded. -/
def AcceptedAndStale (repr : String → String) (overlays : List ReleaseOverlay) : Prop :=
  Returns (findSupersessionChainDefects repr · overlays) [] ∧
    ∀ (entry : Entry) (observed : Observed), ∃ r,
      Returns (computeEntryApplicability · entry observed overlays) r ∧
        (r.1 = .stale ↔ entryEditionStatus entry.edition observed.edition ≠ .mismatch ∧
          ∃ overlay, SupersedesEntry entry observed overlays overlay)

/-- Without a cycle every state is computed, and is stale if the entry is superseded. -/
theorem exists_returns_stale_iff (hids : (ids overlays).Nodup)
    (hacyclic : ∀ id, ¬TransGen (Supersedes overlays) id id) (entry : Entry)
    (observed : Observed) :
    ∃ r, Returns (computeEntryApplicability · entry observed overlays) r ∧
      (r.1 = .stale ↔ entryEditionStatus entry.edition observed.edition ≠ .mismatch ∧
        ∃ overlay, SupersedesEntry entry observed overlays overlay) := by
  have hends : ∀ id, Ends (next overlays) id := by
    rw [← follows_eq hids] at hacyclic
    exact fun id => (ends_iff_forall_not_leadsTo definedOn).mpr fun b _ => hacyclic b
  obtain ⟨fuel, r, hr⟩ := (exists_compute_iff entry observed hids).mpr
    fun overlay _ => hends overlay.overlayId
  exact ⟨r, returns_computeEntryApplicability.mpr ⟨fuel, hr⟩, stale_iff hids hr⟩

/-- Of overlays whose chains end in a document or in nothing, those are accepted, with supersessions
that take effect, that refer to overlays only. -/
theorem accepted_and_stale_iff (repr : String → String) (documents : List String)
    (hids : (ids overlays).Nodup) (hends : EndsIn documents overlays) :
    AcceptedAndStale repr overlays ↔ ∀ a b, Supersedes overlays a b → b ∈ ids overlays := by
  obtain ⟨defects, hreturns, hnil⟩ := exists_returns_findSupersessionChainDefects repr hids
  rw [forall_sound_iff hids] at hnil
  constructor
  · rintro ⟨haccepted, -⟩
    exact (hnil.mp (hreturns.unique haccepted)).2
  · intro hrefs
    obtain rfl := hnil.mpr ⟨hends.1, hrefs⟩
    exact ⟨hreturns, exists_returns_stale_iff hids hends.1⟩

theorem Sample.sound_corrected : ∀ overlay ∈ corrected, Sound corrected overlay := by
  intro overlay hmem target htarget
  have hnote : next corrected "note" = none := by decide
  rcases List.mem_cons.mp hmem with rfl | hmem
  · cases htarget
    exact ⟨by decide, ends_of_eq_none hnote⟩
  · cases List.mem_singleton.mp hmem
    cases htarget

/-- An erratum supersedes a note, and is accepted. -/
theorem accepted_and_stale_iff_sample :
    EndsIn ["handbook"] Sample.corrected ∧
      (AcceptedAndStale id Sample.corrected ↔
        ∀ a b, Supersedes Sample.corrected a b → b ∈ ids Sample.corrected) := by
  obtain ⟨hacyclic, hrefs⟩ := (forall_sound_iff (by decide)).mp Sample.sound_corrected
  have hends : EndsIn ["handbook"] Sample.corrected := by
    refine ⟨hacyclic, fun overlay _ id hreach hnot => absurd ?_ hnot⟩
    obtain ⟨b, -, hlast⟩ := TransGen.tail'_iff.mp hreach
    exact hrefs b id hlast
  exact ⟨hends, accepted_and_stale_iff id ["handbook"] (by decide) hends⟩

/-- An overlay that supersedes a document is refused. -/
theorem document_not_accepted :
    ¬∀ (overlays : List ReleaseOverlay) (documents : List String), (ids overlays).Nodup →
      EndsIn documents overlays → AcceptedAndStale id overlays := by
  intro h
  have hends : ∀ a, Ends (next [Sample.notice "errata" (some "handbook")]) a := by
    intro a
    refine .intro fun b hb => ends_of_eq_none ?_
    obtain ⟨overlay, hmem, -, hoverlay⟩ := (next_eq_some (by decide)).mp hb
    cases List.mem_singleton.mp hmem
    cases hoverlay
    decide
  have hacyclic := fun a => (ends_iff_forall_not_leadsTo definedOn).mp (hends a) a .refl
  rw [LeadsTo, follows_eq (by decide)] at hacyclic
  have hendsIn : EndsIn ["handbook"] [Sample.notice "errata" (some "handbook")] := by
    refine ⟨hacyclic, fun overlay _ a hreach _ => ?_⟩
    obtain ⟨b, -, last, hlast, -, hid⟩ := TransGen.tail'_iff.mp hreach
    cases List.mem_singleton.mp hlast
    cases hid
    exact List.mem_cons_self
  have hids : (ids [Sample.notice "errata" (some "handbook")]).Nodup := by decide
  obtain ⟨defects, hreturns, hnil⟩ := exists_returns_findSupersessionChainDefects id hids
  have hsound := hnil.mp (hreturns.unique (h _ _ hids hendsIn).1)
  -- the document is no overlay
  have hknown := (hsound _ List.mem_cons_self "handbook" rfl).1
  exact absurd hknown (by decide)

/-! ### Termination and order -/

/-- The state of an entry is computed, it is the same for every order of the overlays, and if they
have no defects the chain of a stale entry has each overlay after those that it supersedes. -/
def ComputedInOrder (repr : String → String) (overlays : List ReleaseOverlay) (entry : Entry)
    (observed : Observed) : Prop :=
  ∃ r, (∀ overlays' : List ReleaseOverlay, overlays.Perm overlays' →
      Returns (computeEntryApplicability · entry observed overlays') r) ∧
    (Returns (findSupersessionChainDefects repr · overlays) [] → r.1 = .stale →
      ∀ a ∈ r.2, ∀ b ∈ r.2, TransGen (Supersedes overlays) b a → r.2.idxOf a < r.2.idxOf b)

/-- The state of an entry is computed unless an overlay that supersedes the entry runs into a
cycle. -/
theorem computedInOrder_iff (repr : String → String) (hids : (ids overlays).Nodup) (entry : Entry)
    (observed : Observed) :
    ComputedInOrder repr overlays entry observed ↔
      ∀ overlay, SupersedesEntry entry observed overlays overlay →
        ∀ a, ReflTransGen (Supersedes overlays) overlay.overlayId a →
          ¬TransGen (Supersedes overlays) a a := by
  rw [← follows_eq hids]
  constructor
  · rintro ⟨r, hreturns, -⟩ overlay hoverlay a ha
    obtain ⟨steps, hsteps⟩ := hreturns overlays (List.Perm.refl overlays)
    have hends := (exists_compute_iff entry observed hids).mp ⟨steps, r, hsteps steps le_rfl⟩
    exact (ends_iff_forall_not_leadsTo definedOn).mp (hends overlay hoverlay) a ha
  · intro hcycles
    obtain ⟨fuel, r, hr⟩ := (exists_compute_iff entry observed hids).mpr fun overlay hoverlay =>
      (ends_iff_forall_not_leadsTo definedOn).mpr (hcycles overlay hoverlay)
    refine ⟨r, fun overlays' hperm => ?_, fun _ hstale a ha b hb hba => ?_⟩
    · exact returns_perm hids hperm (returns_computeEntryApplicability.mpr ⟨fuel, hr⟩)
    · have hchain := chain_of_stale hids hr hstale
      obtain ⟨overlay, hoverlay, rfl⟩ := mem_chainIds.mp
        ((perm_of_orderOverlayChain hchain).mem_iff.mp ha)
      rw [← follows_eq hids] at hba
      exact idxOf_lt_of_orderOverlayChain hchain ha hb
        (isKnown_iff.mpr (List.mem_map_of_mem hoverlay.mem)) hba

/-- The chain of an erratum ends. -/
theorem computedInOrder_iff_sample :
    ComputedInOrder id Sample.corrected
        ⟨"note", "firewall", .both, unversioned, .explicitUnversioned⟩ ⟨.knownCe, none⟩ ↔
      ∀ overlay, SupersedesEntry ⟨"note", "firewall", .both, unversioned, .explicitUnversioned⟩
          ⟨.knownCe, none⟩ Sample.corrected overlay →
        ∀ a, ReflTransGen (Supersedes Sample.corrected) overlay.overlayId a →
          ¬TransGen (Supersedes Sample.corrected) a a :=
  computedInOrder_iff id (by decide) _ _

/-- The state of an overlay is not computed if another one and it supersede each other. -/
theorem circular_not_computed :
    ¬∀ (overlays : List ReleaseOverlay) (entry : Entry) (observed : Observed),
      (ids overlays).Nodup → ComputedInOrder id overlays entry observed := by
  intro h
  obtain ⟨r, hreturns, -⟩ := h Sample.circular
    ⟨"second", "firewall", .both, unversioned, .explicitUnversioned⟩ ⟨.knownCe, none⟩ (by decide)
  obtain ⟨steps, hsteps⟩ := hreturns Sample.circular (List.Perm.refl _)
  have hfirst : Supersedes Sample.circular "first" "second" :=
    ⟨_, List.mem_cons_self, rfl, rfl⟩
  have hsecond : Supersedes Sample.circular "second" "first" :=
    ⟨_, List.mem_cons_of_mem _ List.mem_cons_self, rfl, rfl⟩
  have hends := (exists_compute_iff _ _ (by decide)).mp ⟨steps, r, hsteps steps le_rfl⟩
    (Sample.notice "first" (some "second")) ⟨List.mem_cons_self, by decide, .single hfirst⟩
  refine hends.not_leadsTo_self ?_
  rw [LeadsTo, follows_eq (by decide)]
  exact (TransGen.single hfirst).tail hsecond

end Guidance
