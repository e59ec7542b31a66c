import Mathlib.Data.List.Sort
import Mathlib.Data.String.Basic
import PfsenseMcp.Graph.Chain

/-!
# Which guidance is applicable

`guidance/applicability.py`: the state of one entry of the guidance registry for an appliance that
was observed, and the two checks of the overlays that are made when the registry is loaded. The
texts, hashes and addresses of an overlay are read by nothing here and are left out; `repr` is a
parameter.

An overlay supersedes a document or another overlay. Three loops walk along these references: one
remembers where it has been, one takes so many steps at most, and one does neither. A loop takes so
many steps here, and no result is a loop that needs more of them.

## Main results

* `defects_and_conflicts_exact`: the two checks find exactly what they are for;
* `accepts_and_stale_iff`: a supersession takes effect, but the check refuses it if it is of a
  document;
* `returns_iff`: the state of an entry is computed unless an overlay that supersedes it runs into a
  cycle, and does not depend on the order of the overlays.
-/

namespace Guidance

open Chain Relation

/-! ### The registry -/

/-- `models.Edition`: the edition that a document is for. -/
inductive Edition where
  | ce
  | plus
  | both
deriving DecidableEq, Repr

/-- `appliance_identity.ObservedEdition`. -/
inductive ObservedEdition where
  | knownCe
  | knownPlus
  | unknown
deriving DecidableEq, Repr

/-- `models.EvidenceLevel`. -/
inductive EvidenceLevel where
  | explicitVersionScoped
  | explicitUnversioned
  | inferredFromCurrentDocs
  | unknown
deriving DecidableEq, Repr

/-- `models.ApplicabilityState`. -/
inductive ApplicabilityState where
  | applicable
  | partiallyApplicable
  | versionUnconfirmed
  | editionMismatch
  | stale
  | noOfficialGuidanceFound
deriving DecidableEq, Repr

/-- `UNVERSIONED`. -/
def unversioned : String := "unversioned"

/-- `evidence.ReleaseOverlay`. -/
structure ReleaseOverlay where
  overlayId : String
  capability : String
  appliesToVersion : String
  appliesToEdition : Edition
  /-- A document, or another overlay. -/
  supersedesId : Option String
deriving DecidableEq, Repr

/-- The arguments `entry_…` of `compute_entry_applicability`. -/
structure Entry where
  id : String
  capability : String
  edition : Edition
  versionApplicability : String
  evidenceLevel : EvidenceLevel

/-- The arguments `observed_…` of `compute_entry_applicability`. -/
structure Observed where
  edition : ObservedEdition
  version : Option String

/-! ### The parts of the decision -/

/-- `_LEVELS_THAT_CANNOT_REACH_APPLICABLE`. -/
def EvidenceLevel.cannotReachApplicable : EvidenceLevel → Bool
  | .inferredFromCurrentDocs | .unknown => true
  | .explicitVersionScoped | .explicitUnversioned => false

/-- `cap_applicability_by_evidence_level`. -/
def capApplicabilityByEvidenceLevel (evidenceLevel : EvidenceLevel)
    (computedState : ApplicabilityState) : ApplicabilityState :=
  if !evidenceLevel.cannotReachApplicable then computedState
  else if computedState = .applicable || computedState = .partiallyApplicable then
    .versionUnconfirmed
  else computedState

/-- `_EditionStatus`. -/
inductive EditionStatus where
  | «match»
  | mismatch
  | unconfirmed
deriving DecidableEq, Repr

/-- `_VersionStatus`. -/
inductive VersionStatus where
  | «match»
  | unconfirmed
deriving DecidableEq, Repr

/-- `_SupersessionStatus`. -/
inductive SupersessionStatus where
  | superseded
  | caveated
  | none
deriving DecidableEq, Repr

/-- `ObservedEdition.KNOWN_CE if edition is Edition.CE else ObservedEdition.KNOWN_PLUS`. -/
def Edition.expected : Edition → ObservedEdition
  | .ce => .knownCe
  | _ => .knownPlus

/-- `_entry_edition_status`. -/
def entryEditionStatus (entryEdition : Edition) (observedEdition : ObservedEdition) :
    EditionStatus :=
  if entryEdition = .both then .match
  else if observedEdition = .unknown then .unconfirmed
  else if observedEdition = entryEdition.expected then .match
  else .mismatch

/-- `_entry_version_status`. -/
def entryVersionStatus (versionApplicability : String) (observedVersion : Option String) :
    VersionStatus :=
  if versionApplicability = unversioned then .match
  else if observedVersion = some versionApplicability then .match
  else .unconfirmed

/-- `_overlay_is_edition_candidate`. -/
def overlayIsEditionCandidate (overlayEdition : Edition) (observedEdition : ObservedEdition) :
    Bool :=
  if overlayEdition = .both then true
  else if observedEdition = .unknown then false
  else observedEdition = overlayEdition.expected

/-- The overlays that `_entry_supersession_status` looks at. -/
def isCandidate (capability : String) (observed : Observed) (overlay : ReleaseOverlay) : Bool :=
  overlay.capability = capability
    && overlayIsEditionCandidate overlay.appliesToEdition observed.edition
    && (overlay.appliesToVersion = unversioned
      || some overlay.appliesToVersion = observed.version)

/-! ### The references -/

/-- The identifiers of the overlays. -/
def ids (overlays : List ReleaseOverlay) : List String := overlays.map (·.overlayId)

/-- `{overlay.overlay_id: overlay for overlay in overlays}.get(id)`: of two overlays of one
identifier the later one is there. -/
def byId (overlays : List ReleaseOverlay) (id : String) : Option ReleaseOverlay :=
  overlays.reverse.find? fun overlay => overlay.overlayId = id

/-- The step that every walk takes. -/
def next (overlays : List ReleaseOverlay) (id : String) : Option String :=
  (byId overlays id).bind (·.supersedesId)

/-- `id in overlays_by_id`. -/
def isKnown (overlays : List ReleaseOverlay) (id : String) : Bool := (byId overlays id).isSome

/-- `_chain_reaches`. -/
def chainReaches (fuel : ℕ) (start : Option String) (targetId : String)
    (overlays : List ReleaseOverlay) : Option Bool :=
  (walk (next overlays) (· = targetId) fuel start []).map fun outcome => outcome = .found

/-- The loop of `order_overlay_chain`. -/
def chainLength (fuel : ℕ) (overlays : List ReleaseOverlay) (overlayId : String) : Option ℕ :=
  count (next overlays) (isKnown overlays) fuel (next overlays overlayId) 0

/-- `order_overlay_chain`, of identifiers that are known. -/
def orderOverlayChain (fuel : ℕ) (overlayIds : List String) (overlays : List ReleaseOverlay) :
    Option (List String) := do
  let depth ← overlayIds.mapM fun id => (chainLength fuel overlays id).map fun n => (id, n)
  return (depth.insertionSort fun x y => x.2 ≤ y.2).map (·.1)

/-- `sorted` of identifiers. -/
def sortedIds (l : List String) : List String := l.insertionSort (· ≤ ·)

/-- `_entry_supersession_status`. -/
def entrySupersessionStatus (fuel : ℕ) (entryId entryCapability : String) (observed : Observed)
    (allOverlays : List ReleaseOverlay) : Option (SupersessionStatus × List String) := do
  let candidates := allOverlays.filter (isCandidate entryCapability observed)
  let superseding ← candidates.filterM fun c => chainReaches fuel c.supersedesId entryId allOverlays
  if candidates = [] then return (.none, [])
  else if superseding ≠ [] then
    let chain ← orderOverlayChain fuel (sortedIds (ids superseding).dedup) allOverlays
    return (.superseded, chain)
  else return (.caveated, sortedIds (ids candidates))

/-- The branches of `compute_entry_applicability`, the first of which that applies is taken. -/
def baseApplicability (editionStatus : EditionStatus) (versionStatus : VersionStatus) :
    SupersessionStatus × List String → ApplicabilityState × List String
  | (supersessionStatus, candidateChain) =>
    if editionStatus = .mismatch then (.editionMismatch, [])
    else if supersessionStatus = .superseded then (.stale, candidateChain)
    else if editionStatus = .unconfirmed || versionStatus = .unconfirmed then
      (.versionUnconfirmed, [])
    else if supersessionStatus = .caveated then (.partiallyApplicable, candidateChain)
    else (.applicable, [])

/-- The end of `compute_entry_applicability`: a chain is reported for two of the states only. -/
def finalApplicability (evidenceLevel : EvidenceLevel) :
    ApplicabilityState × List String → ApplicabilityState × List String
  | (baseState, chain) =>
    let finalState := capApplicabilityByEvidenceLevel evidenceLevel baseState
    (finalState, if finalState = .stale || finalState = .partiallyApplicable then chain else [])

/-- `compute_entry_applicability`. -/
def computeEntryApplicability (fuel : ℕ) (entry : Entry) (observed : Observed)
    (allOverlays : List ReleaseOverlay) : Option (ApplicabilityState × List String) :=
  let editionStatus := entryEditionStatus entry.edition observed.edition
  let versionStatus := entryVersionStatus entry.versionApplicability observed.version
  (entrySupersessionStatus fuel entry.id entry.capability observed allOverlays).map fun status =>
    finalApplicability entry.evidenceLevel (baseApplicability editionStatus versionStatus status)

/-! ### The checks of the registry -/

/-- `_edition_compatible`. -/
def editionCompatible (left right : Edition) : Bool :=
  left = right || (left = .both || right = .both)

/-- `_ancestor_closure(overlays).get(id, frozenset())`. -/
def ancestors (overlays : List ReleaseOverlay) (id : String) : List String :=
  match byId overlays id with
  | some overlay =>
    collect (next overlays) (isKnown overlays) (overlays.length + 1) overlay.supersedesId
  | none => []

/-- Two overlays that `find_duplicate_scope_conflicts` reports. -/
def conflicting (overlays : List ReleaseOverlay) (left right : ReleaseOverlay) : Bool :=
  left.capability = right.capability
    && editionCompatible left.appliesToEdition right.appliesToEdition
    && left.appliesToVersion = right.appliesToVersion
    && right.overlayId ∉ ancestors overlays left.overlayId
    && left.overlayId ∉ ancestors overlays right.overlayId

/-- The pairs of each overlay and the later ones. -/
def conflictsAmong (overlays : List ReleaseOverlay) : List ReleaseOverlay → List (String × String)
  | [] => []
  | left :: rest =>
    (rest.filter (conflicting overlays left)).map (fun right => (left.overlayId, right.overlayId))
      ++ conflictsAmong overlays rest

/-- `find_duplicate_scope_conflicts`. -/
def findDuplicateScopeConflicts (overlays : List ReleaseOverlay) : List (String × String) :=
  conflictsAmong overlays overlays

/-- `defects[overlay_id] = description`. -/
def setDefect (overlayId description : String) : List (String × String) → List (String × String)
  | [] => [(overlayId, description)]
  | d :: ds =>
    if d.1 = overlayId then (overlayId, description) :: ds
    else d :: setDefect overlayId description ds

/-- What `find_supersession_chain_defects` finds out about one overlay. -/
def chainDefect (repr : String → String) (fuel : ℕ) (overlays : List ReleaseOverlay)
    (overlay : ReleaseOverlay) : Option (Option String) :=
  match overlay.supersedesId with
  | none => some none
  | some target =>
    if !isKnown overlays target then
      some (some s!"supersedes_id {repr target} does not resolve to any known overlay_id")
    else
      (walk (next overlays) (fun _ => false) fuel (some target) [overlay.overlayId]).map fun
        | .cycled current => some s!"supersedes_id chain cycles back to {repr current}"
        | _ => none

/-- The loop of `find_supersession_chain_defects`. -/
def collectDefects (repr : String → String) (fuel : ℕ) (overlays : List ReleaseOverlay) :
    List ReleaseOverlay → List (String × String) → Option (List (String × String))
  | [], defects => some defects
  | overlay :: rest, defects => do
    match ← chainDefect repr fuel overlays overlay with
    | some description =>
      collectDefects repr fuel overlays rest (setDefect overlay.overlayId description defects)
    | none => collectDefects repr fuel overlays rest defects

/-- `find_supersession_chain_defects`. -/
def findSupersessionChainDefects (repr : String → String) (fuel : ℕ)
    (overlays : List ReleaseOverlay) : Option (List (String × String)) :=
  collectDefects repr fuel overlays overlays []

end Guidance
