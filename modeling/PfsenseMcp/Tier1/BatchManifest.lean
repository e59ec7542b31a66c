import PfsenseMcp.Collections.Blocks
import PfsenseMcp.Tier1.ArtifactExchange

/-!
# The manifest of a batch

`tier1/shape_a_batch_manifest.py`: previews of several capabilities are put into one manifest, and
the owner reads one text before approving all of them. The names and values of the review fields
stand in this text as they are, without quotes.

## Main results

* `buildShapeABatchManifest_perm`: the manifest does not depend on the order of the previews;
* `review_unambiguous`: a review is that of one list of entries only, as long as no field has a line
  that looks like one of the review, and the names are told from the values;
* `reviewText_merge`: two fields look like one, whose value has the line of the other.
-/

namespace Tier1

open Python Posture ArtifactExchange

/-! ### Building -/

/-- `ShapeABatchManifestEntry`. -/
structure ShapeABatchManifestEntry where
  capabilitySymbol : String
  executionIntentDigest : String
  semanticFields : List (String × String)
deriving DecidableEq

/-- `ShapeABatchManifest`. -/
structure ShapeABatchManifest where
  schemaVersion : ℤ
  batchId : String
  capabilitySymbols : List String
  entries : List ShapeABatchManifestEntry
  requestedPlanDigest : String
  requestedStepId : String
  targetCapabilityPosture : CapabilityPosture
  targetAnchorAssurance : AnchorAssurance

def shapeABatchManifestSchemaVersion : ℤ := 1

def maxBatchSize : ℕ := 200

/-- `ShapeABatchManifestError`. -/
def batchManifestError : ErrorClass := .other "ShapeABatchManifestError"

namespace ArtifactExchange.ShapeAPreviewFields

/-- What a preview contributes to a manifest. -/
def entry (v : ShapeAPreviewFields) : ShapeABatchManifestEntry where
  capabilitySymbol := v.capabilitySymbol
  executionIntentDigest := v.executionIntentDigest
  semanticFields := v.semanticFields

/-- The comparison that every preview of a batch is held against the first one with. -/
def SameTarget (v w : ShapeAPreviewFields) : Prop :=
  v.requestedPlanDigest = w.requestedPlanDigest ∧ v.requestedStepId = w.requestedStepId ∧
    v.targetCapabilityPosture = w.targetCapabilityPosture ∧
    v.targetAnchorAssurance = w.targetAnchorAssurance

instance (v w : ShapeAPreviewFields) : Decidable (v.SameTarget w) := by
  unfold SameTarget
  infer_instance

end ArtifactExchange.ShapeAPreviewFields

/-- `sorted(previews, key=lambda preview: preview.capability_symbol)`. -/
def sortPreviews (previews : List ShapeAAuthorizationPreview) : List ShapeAAuthorizationPreview :=
  previews.mergeSort fun p q => !Json.keyLt q.1.capabilitySymbol p.1.capabilitySymbol

/-- `build_shape_a_batch_manifest`. -/
def buildShapeABatchManifest (previews : List ShapeAAuthorizationPreview) (batchId : String) :
    Except Error ShapeABatchManifest :=
  match previews with
  | [] =>
    fail batchManifestError "A batch manifest requires a non-empty, explicit tuple of previews."
  | first :: rest => do
    demand (previews.length ≤ maxBatchSize) batchManifestError
      s!"Batch size {previews.length} exceeds the maximum of {maxBatchSize}."
    demand (batchId ≠ "") batchManifestError "batch_id must be a non-empty string."
    demand ((previews.map fun p => p.1.capabilitySymbol).Nodup) batchManifestError
      "Batch manifest must not contain duplicate capability_symbol entries."
    demand (∀ p ∈ rest, p.1.SameTarget first.1) batchManifestError
      ("Batch manifest requires every preview to share the exact same requested_plan_digest, " ++
        "requested_step_id, target_capability_posture, and target_anchor_assurance -- refusing " ++
        "a heterogeneous batch that would obscure a mixed-posture or mixed-risk-class approval.")
    let entries := (sortPreviews previews).map fun p => p.1.entry
    .ok
      { schemaVersion := shapeABatchManifestSchemaVersion
        batchId := batchId
        capabilitySymbols := entries.map ShapeABatchManifestEntry.capabilitySymbol
        entries := entries
        requestedPlanDigest := first.1.requestedPlanDigest
        requestedStepId := first.1.requestedStepId
        targetCapabilityPosture := first.1.targetCapabilityPosture
        targetAnchorAssurance := first.1.targetAnchorAssurance }

/-! ### The digest and the review -/

namespace ShapeABatchManifest

/-- `_manifest_payload`. -/
def payload (m : ShapeABatchManifest) : Json :=
  .obj
    [("schema_version", .int m.schemaVersion),
      ("batch_id", .str m.batchId),
      ("capability_symbols", .arr (m.capabilitySymbols.map .str)),
      ("entries", .arr (m.entries.map fun e => .obj
        [("capability_symbol", .str e.capabilitySymbol),
          ("execution_intent_digest", .str e.executionIntentDigest),
          ("semantic_fields", semanticPayload e.semanticFields)])),
      ("requested_plan_digest", .str m.requestedPlanDigest),
      ("requested_step_id", .str m.requestedStepId),
      ("target_capability_posture", .str m.targetCapabilityPosture.value),
      ("target_anchor_assurance", .str m.targetAnchorAssurance.value)]

/-- What `compute_shape_a_batch_manifest_digest` hashes. -/
def digestInput [Platform] (m : ShapeABatchManifest) : Except Error Bytes := do
  let body ← canonicalJson m.payload
  .ok (Bytes.encodeUtf8 "pfsense-mcp-shape-a-batch-manifest-v1" ++ [0] ++ body)

/-- `compute_shape_a_batch_manifest_digest`. -/
def computeDigest [Platform] (m : ShapeABatchManifest) : Except Error String := do
  .ok (Platform.sha256 (← m.digestInput))

/-- The lines before the digest. -/
def firstLines (m : ShapeABatchManifest) : List String :=
  ["Batch authorization review -- " ++ toString m.entries.length ++
      " capabilities, ONE owner approval",
    "  batch_id:              " ++ m.batchId]

/-- The lines after the digest and before the entries. -/
def targetLines (m : ShapeABatchManifest) : List String :=
  ["  requested_plan_digest: " ++ m.requestedPlanDigest,
    "  requested_step_id:     " ++ m.requestedStepId,
    "  target_capability_posture: " ++ m.targetCapabilityPosture.value,
    "  target_anchor_assurance:   " ++ m.targetAnchorAssurance.value,
    "",
    "Capabilities in this batch (canonical order):"]

end ShapeABatchManifest

/-- The line of a review field. -/
def fieldLine (field : String × String) : String := "      " ++ field.1 ++ " = " ++ field.2

namespace ShapeABatchManifestEntry

/-- The lines of an entry. -/
def lines (e : ShapeABatchManifestEntry) : List String :=
  ("  - " ++ e.capabilitySymbol) ::
    ("      execution_intent_digest: " ++ e.executionIntentDigest) ::
    e.semanticFields.map fieldLine

end ShapeABatchManifestEntry

namespace ShapeABatchManifest

/-- The lines after the entries. -/
def lastLines (m : ShapeABatchManifest) : List String :=
  ["",
    "Approving this batch authorizes signing exactly these " ++ toString m.entries.length ++
      " capabilities against exactly this plan digest -- " ++
      "no other capability, no future addition, no substitution."]

/-- The lines of the review besides that of the digest. -/
def otherLines (m : ShapeABatchManifest) : List String :=
  m.targetLines ++ m.entries.flatMap ShapeABatchManifestEntry.lines ++ m.lastLines

/-- `render_shape_a_batch_manifest_review`. -/
def renderReview [Platform] (m : ShapeABatchManifest) : Except Error String := do
  let digest ← m.computeDigest
  .ok (String.intercalate "\n"
    (m.firstLines ++ ("  manifest_digest:       " ++ digest) :: m.otherLines))

/-- The review without the line of the digest. -/
def reviewText (m : ShapeABatchManifest) : String :=
  String.intercalate "\n" (m.firstLines ++ m.otherLines)

end ShapeABatchManifest

/-- A line begins like those of the review. -/
def LooksLikeReview (line : List Char) : Prop :=
  "      ".toList <+: line ∨ "  - ".toList <+: line

instance (line : List Char) : Decidable (LooksLikeReview line) := by
  unfold LooksLikeReview
  infer_instance

/-- A field is read in one way: no line after its first looks like one of the review, and the sign
between name and value does not occur earlier. -/
def ReadsOneWay (field : String × String) : Prop :=
  (∀ line ∈ ((fieldLine field).toList.splitOn '\n').tail, ¬LooksLikeReview line) ∧
    ¬" = ".toList <:+: field.1.toList ++ " =".toList

instance (field : String × String) : Decidable (ReadsOneWay field) := by
  unfold ReadsOneWay
  infer_instance

/-- All fields of a manifest are read in one way. -/
def ShapeABatchManifest.ReadsOneWay (m : ShapeABatchManifest) : Prop :=
  ∀ e ∈ m.entries, ∀ field ∈ e.semanticFields, Tier1.ReadsOneWay field

/-! ### Order of the previews -/

/-- Sorting by distinct symbols forgets the order. -/
theorem sortPreviews_perm {previews previews' : List ShapeAAuthorizationPreview}
    (hperm : previews'.Perm previews)
    (hnodup : (previews.map fun p => p.1.capabilitySymbol).Nodup) :
    sortPreviews previews' = sortPreviews previews := by
  have htrans : ∀ a b c : ShapeAAuthorizationPreview,
      (!Json.keyLt b.1.capabilitySymbol a.1.capabilitySymbol) = true →
      (!Json.keyLt c.1.capabilitySymbol b.1.capabilitySymbol) = true →
      (!Json.keyLt c.1.capabilitySymbol a.1.capabilitySymbol) = true := by
    intro a b c hab hbc
    rw [Bool.not_eq_true'] at *
    by_contra hca
    rw [Bool.not_eq_false] at hca
    by_cases heq : a.1.capabilitySymbol = b.1.capabilitySymbol
    · rw [heq, hbc] at hca
      exact Bool.false_ne_true hca
    · have hba := Json.keyLt_of_ne (fun h => heq h.symm) hab
      rw [Json.keyLt_trans hca hba] at hbc
      exact Bool.false_ne_true hbc.symm
  have htotal : ∀ a b : ShapeAAuthorizationPreview,
      (!Json.keyLt b.1.capabilitySymbol a.1.capabilitySymbol ||
        !Json.keyLt a.1.capabilitySymbol b.1.capabilitySymbol) = true := by
    intro a b
    rw [Bool.or_eq_true, Bool.not_eq_true', Bool.not_eq_true']
    by_contra h
    rw [not_or, Bool.not_eq_false, Bool.not_eq_false] at h
    have hself := Json.keyLt_trans h.1 h.2
    rw [Json.keyLt_irrefl] at hself
    exact Bool.false_ne_true hself
  have hsorted := fun l : List ShapeAAuthorizationPreview => l.pairwise_mergeSort htrans htotal
  refine List.Perm.eq_of_pairwise ?_ (hsorted previews') (hsorted previews) ?_
  · intro a b ha hb hab hba
    have ha := hperm.mem_iff.mp ((List.mergeSort_perm _ _).mem_iff.mp ha)
    have hb := (List.mergeSort_perm _ _).mem_iff.mp hb
    rw [Bool.not_eq_true'] at hab hba
    refine List.inj_on_of_nodup_map hnodup ha hb (by_contra fun hne => ?_)
    rw [Json.keyLt_of_ne (fun h => hne h.symm) hab] at hba
    exact Bool.false_ne_true hba.symm
  · exact ((List.mergeSort_perm _ _).trans hperm).trans (List.mergeSort_perm _ _).symm

theorem entry_of_mem_sortPreviews {previews : List ShapeAAuthorizationPreview}
    {p : ShapeAAuthorizationPreview} (h : p ∈ sortPreviews previews) : p ∈ previews :=
  (List.mergeSort_perm _ _).mem_iff.mp h


/-- What a manifest is made of. -/
theorem buildShapeABatchManifest_eq_ok {previews : List ShapeAAuthorizationPreview}
    {batchId : String} {m : ShapeABatchManifest}
    (h : buildShapeABatchManifest previews batchId = .ok m) :
    previews.length ≤ maxBatchSize ∧ batchId ≠ "" ∧
      (previews.map fun p => p.1.capabilitySymbol).Nodup ∧
      (∀ p ∈ previews, ∀ q ∈ previews, p.1.SameTarget q.1) ∧
      ∃ first ∈ previews, m =
        { schemaVersion := shapeABatchManifestSchemaVersion
          batchId := batchId
          capabilitySymbols := ((sortPreviews previews).map fun p => p.1.entry).map
            ShapeABatchManifestEntry.capabilitySymbol
          entries := (sortPreviews previews).map fun p => p.1.entry
          requestedPlanDigest := first.1.requestedPlanDigest
          requestedStepId := first.1.requestedStepId
          targetCapabilityPosture := first.1.targetCapabilityPosture
          targetAnchorAssurance := first.1.targetAnchorAssurance } := by
  rcases previews with _ | ⟨first, rest⟩
  · cases h
  · simp only [buildShapeABatchManifest, bind_eq_ok, demand_eq_ok] at h
    obtain ⟨_, hlength, _, hbatch, _, hnodup, _, hsame, h⟩ := h
    have hfirst : ∀ p ∈ first :: rest, p.1.SameTarget first.1 := by
      rw [List.forall_mem_cons]
      exact ⟨⟨rfl, rfl, rfl, rfl⟩, hsame⟩
    refine ⟨hlength, hbatch, hnodup, fun p hp q hq => ?_, first, List.mem_cons_self,
      (Except.ok.inj h).symm⟩
    obtain ⟨h₁, h₂, h₃, h₄⟩ := hfirst p hp
    obtain ⟨h₁', h₂', h₃', h₄'⟩ := hfirst q hq
    exact ⟨h₁.trans h₁'.symm, h₂.trans h₂'.symm, h₃.trans h₃'.symm, h₄.trans h₄'.symm⟩

/-- The manifest does not depend on the order of the previews. -/
theorem buildShapeABatchManifest_perm {previews previews' : List ShapeAAuthorizationPreview}
    {batchId : String} {m : ShapeABatchManifest}
    (h : buildShapeABatchManifest previews batchId = .ok m) (hperm : previews'.Perm previews) :
    buildShapeABatchManifest previews' batchId = .ok m := by
  obtain ⟨hlength, hbatch, hnodup, hsame, first, hfirst, rfl⟩ := buildShapeABatchManifest_eq_ok h
  have hsorted := sortPreviews_perm hperm hnodup
  rcases previews' with _ | ⟨first', rest⟩
  · rw [hperm.symm.eq_nil] at hfirst
    exact absurd hfirst List.not_mem_nil
  · have hmem : ∀ p ∈ first' :: rest, p ∈ previews := fun p hp => hperm.mem_iff.mp hp
    obtain ⟨hplan, hstep, hposture, hassurance⟩ :=
      hsame first' (hmem first' List.mem_cons_self) first hfirst
    have hrest : ∀ p ∈ rest, p.1.SameTarget first'.1 := fun p hp =>
      hsame p (hmem p (List.mem_cons_of_mem _ hp)) first' (hmem first' List.mem_cons_self)
    simp only [buildShapeABatchManifest, demand_of (hperm.length_eq.trans_le hlength),
      demand_of hbatch, demand_of ((hperm.map _).nodup_iff.mpr hnodup), demand_of hrest, ok_bind,
      hsorted, hplan, hstep, hposture, hassurance]


/-! ### Reading the review -/

/-- The lines of a text. -/
def textLines (text : String) : List (List Char) := text.toList.splitOn '\n'

theorem textLines_eq_singleton {text : String} (h : '\n' ∉ text.toList) :
    textLines text = [text.toList] := List.splitOn_eq_singleton h

theorem textLines_inj {text text' : String} (h : textLines text = textLines text') :
    text = text' := by
  have hjoin := congrArg (List.intercalate ['\n']) h
  rw [textLines, textLines, List.intercalate_splitOn, List.intercalate_splitOn] at hjoin
  exact String.toList_injective hjoin

theorem textLines_intercalate {lines : List String} (hne : lines ≠ []) :
    textLines (String.intercalate "\n" lines) = lines.flatMap textLines := by
  have hmap : lines.map String.toList ≠ [] := fun h => hne (List.map_eq_nil_iff.mp h)
  rw [textLines, String.toList_intercalate, show "\n".toList = ['\n'] from rfl,
    Collections.splitOn_intercalate_flatMap '\n' hmap, List.flatMap_map]
  rfl

/-- A line of the review that has no line break is a block. -/
theorem isBlock_textLines_of_not_mem {text : String} (h : '\n' ∉ text.toList)
    (hmark : LooksLikeReview text.toList) :
    Collections.IsBlock LooksLikeReview (textLines text) :=
  ⟨text.toList, [], textLines_eq_singleton h, hmark, by simp⟩

theorem isBlock_textLines_fieldLine {field : String × String} (h : ReadsOneWay field) :
    Collections.IsBlock LooksLikeReview (textLines (fieldLine field)) := by
  have hblanks : '\n' ∉ "      ".toList := by decide
  have htext : (fieldLine field).toList =
      "      ".toList ++ (field.1.toList ++ " = ".toList ++ field.2.toList) := by
    simp only [fieldLine, String.toList_append, List.append_assoc]
  obtain ⟨line, rest, hlines⟩ := List.exists_cons_of_ne_nil
    (List.splitOn_ne_nil '\n' (field.1.toList ++ " = ".toList ++ field.2.toList))
  have hsplit : textLines (fieldLine field) = ("      ".toList ++ line) :: rest := by
    rw [textLines, htext, Collections.splitOn_append_of_not_mem hblanks, hlines,
      List.modifyHead_cons]
  refine ⟨_, rest, hsplit, .inl (List.prefix_append _ _), ?_⟩
  have hrest := h.1
  rwa [show (fieldLine field).toList.splitOn '\n' = _ from hsplit] at hrest

/-- The signs in the texts of an entry that its preview was checked for. -/
structure ShapeABatchManifestEntry.Plain (e : ShapeABatchManifestEntry) : Prop where
  symbol : '\n' ∉ e.capabilitySymbol.toList
  digest : '\n' ∉ e.executionIntentDigest.toList

namespace ShapeABatchManifestEntry

variable {e : ShapeABatchManifestEntry}

theorem isBlock_textLines (hplain : e.Plain) (h : ∀ field ∈ e.semanticFields, ReadsOneWay field) :
    ∀ block ∈ e.lines.map textLines, Collections.IsBlock LooksLikeReview block := by
  rw [List.forall_mem_map, lines, List.forall_mem_cons, List.forall_mem_cons, List.forall_mem_map]
  refine ⟨isBlock_textLines_of_not_mem ?_ ?_, isBlock_textLines_of_not_mem ?_ ?_,
    fun field hfield => isBlock_textLines_fieldLine (h field hfield)⟩
  · rw [String.toList_append, List.mem_append, not_or]
    exact ⟨by decide, hplain.symbol⟩
  · rw [String.toList_append]
    exact .inr (List.prefix_append _ _)
  · rw [String.toList_append, List.mem_append, not_or]
    exact ⟨by decide, hplain.digest⟩
  · rw [String.toList_append]
    exact .inl ((by decide : _ <+: _).trans (List.prefix_append _ _))

/-- Of the lines of an entry the first alone begins with a dash. -/
theorem isBlock_lines (e : ShapeABatchManifestEntry) :
    Collections.IsBlock (fun line : String => "  - ".toList <+: line.toList) e.lines := by
  have hblanks : ∀ text : List Char, ¬"  - ".toList <+: "      ".toList ++ text := by
    intro text h
    have hdash := List.prefix_of_prefix_length_le h (List.prefix_append "      ".toList text)
      (by decide)
    exact absurd hdash (by decide)
  refine ⟨"  - " ++ e.capabilitySymbol, _, rfl, ?_, ?_⟩
  · show "  - ".toList <+: ("  - " ++ e.capabilitySymbol).toList
    rw [String.toList_append]
    exact List.prefix_append _ _
  · rw [List.forall_mem_cons, List.forall_mem_map]
    constructor
    · change ¬"  - ".toList <+: _
      rw [String.toList_append,
        show "      execution_intent_digest: ".toList =
          "      ".toList ++ "execution_intent_digest: ".toList by decide, List.append_assoc]
      exact hblanks _
    · intro field _
      change ¬"  - ".toList <+: _
      rw [fieldLine, String.toList_append, String.toList_append, String.toList_append,
        List.append_assoc, List.append_assoc]
      exact hblanks _

/-- A field that is read in one way is read back from its line. -/
theorem fieldLine_inj {field field' : String × String} (h : ReadsOneWay field)
    (h' : ReadsOneWay field') (heq : fieldLine field = fieldLine field') : field = field' := by
  have htext := congrArg String.toList heq
  simp only [fieldLine, String.toList_append, List.append_assoc] at htext
  have hrest := List.append_cancel_left htext
  rw [← List.append_assoc, ← List.append_assoc] at hrest
  obtain ⟨hname, hvalue⟩ := Collections.eq_of_append_separator (by decide) h.2 h'.2 hrest
  exact Prod.ext (String.toList_injective hname) (String.toList_injective hvalue)

/-- An entry is read back from its lines. -/
theorem lines_inj {e e' : ShapeABatchManifestEntry}
    (he : ∀ field ∈ e.semanticFields, ReadsOneWay field)
    (he' : ∀ field ∈ e'.semanticFields, ReadsOneWay field) (h : e.lines = e'.lines) : e = e' := by
  obtain ⟨hhead, hdigest, hfields⟩ : _ ∧ _ ∧ _ := by
    simpa only [lines, List.cons.injEq] using h
  obtain ⟨symbol, digest, fields⟩ := e
  obtain ⟨symbol', digest', fields'⟩ := e'
  rw [ShapeABatchManifestEntry.mk.injEq]
  refine ⟨?_, ?_, ?_⟩
  · exact (String.append_right_inj _).mp hhead
  · exact (String.append_right_inj _).mp hdigest
  · exact Collections.map_inj_of_forall
      (fun f hf g hg => fieldLine_inj (he f hf) (he' g hg)) hfields

end ShapeABatchManifestEntry


/-- Entries are read back from their lines. -/
theorem entries_eq_of_lines {entries entries' : List ShapeABatchManifestEntry}
    (hplain : ∀ e ∈ entries, e.Plain) (hplain' : ∀ e ∈ entries', e.Plain)
    (h : ∀ e ∈ entries, ∀ field ∈ e.semanticFields, ReadsOneWay field)
    (h' : ∀ e ∈ entries', ∀ field ∈ e.semanticFields, ReadsOneWay field)
    (heq : (entries.flatMap ShapeABatchManifestEntry.lines).flatMap textLines =
      (entries'.flatMap ShapeABatchManifestEntry.lines).flatMap textLines) :
    entries = entries' := by
  have hblocks : ∀ es : List ShapeABatchManifestEntry, (∀ e ∈ es, e.Plain) →
      (∀ e ∈ es, ∀ field ∈ e.semanticFields, ReadsOneWay field) →
      ∀ block ∈ (es.flatMap ShapeABatchManifestEntry.lines).map textLines,
        Collections.IsBlock LooksLikeReview block := by
    intro es hes hfields block hblock
    obtain ⟨line, hline, rfl⟩ := List.mem_map.mp hblock
    obtain ⟨e, he, hline⟩ := List.mem_flatMap.mp hline
    exact ShapeABatchManifestEntry.isBlock_textLines (hes e he) (hfields e he) _
      (List.mem_map_of_mem hline)
  -- First the lines that begin a text of the review, then those of them that begin an entry.
  rw [List.flatMap_def, List.flatMap_def (f := textLines)] at heq
  have htexts := Collections.flatten_inj_of_isBlock (hblocks _ hplain h) (hblocks _ hplain' h') heq
  have hlines := List.map_injective_iff.mpr (fun _ _ => textLines_inj) htexts
  rw [List.flatMap_def, List.flatMap_def] at hlines
  have hheads : ∀ es : List ShapeABatchManifestEntry,
      ∀ block ∈ es.map ShapeABatchManifestEntry.lines,
        Collections.IsBlock (fun line : String => "  - ".toList <+: line.toList) block := by
    intro es
    rw [List.forall_mem_map]
    exact fun e _ => e.isBlock_lines
  exact Collections.map_inj_of_forall
    (fun e he f hf => ShapeABatchManifestEntry.lines_inj (h e he) (h' f hf))
    (Collections.flatten_inj_of_isBlock (hheads _) (hheads _) hlines)

/-- What of a manifest has no line break. -/
structure ShapeABatchManifest.Plain (m : ShapeABatchManifest) : Prop where
  entries : ∀ e ∈ m.entries, e.Plain
  plan : '\n' ∉ m.requestedPlanDigest.toList
  step : '\n' ∉ m.requestedStepId.toList

theorem not_mem_of_isHex64 {s : String} (h : isHex64 s = true) : '\n' ∉ s.toList := by
  intro hmem
  have hchar := List.all_eq_true.mp (Bool.and_eq_true_iff.mp h).2 _ hmem
  exact absurd hchar (by decide)

theorem not_mem_of_isIdentifier {s : String} (h : isIdentifier s = true) : '\n' ∉ s.toList := by
  unfold isIdentifier at h
  intro hmem
  split at h
  · cases h
  · rename_i c cs hs
    rw [hs] at hmem
    rw [Bool.and_eq_true, Bool.and_eq_true] at h
    rcases List.mem_cons.mp hmem with rfl | hmem
    · exact absurd h.1.1 (by decide)
    · have hchar := List.all_eq_true.mp h.2 _ hmem
      exact absurd hchar (by decide)

theorem not_mem_of_registered {symbol : String} (h : symbol ∈ registeredCapabilities) :
    '\n' ∉ symbol.toList := by
  have hall : ∀ symbol ∈ registeredCapabilities, '\n' ∉ symbol.toList := by decide
  exact hall symbol h

theorem plain_of_build {previews : List ShapeAAuthorizationPreview} {batchId : String}
    {m : ShapeABatchManifest} (h : buildShapeABatchManifest previews batchId = .ok m) :
    m.Plain := by
  obtain ⟨-, -, -, -, first, -, rfl⟩ := buildShapeABatchManifest_eq_ok h
  refine ⟨?_, not_mem_of_isHex64 first.2.2.2.2.1, not_mem_of_isIdentifier first.2.2.2.2.2⟩
  rw [List.forall_mem_map]
  intro p _
  exact ⟨not_mem_of_registered p.2.1, not_mem_of_isHex64 p.2.2.2.1⟩

theorem not_mem_toString (n : ℕ) : '\n' ∉ (toString n).toList := by
  rw [Nat.toString_eq_repr, Nat.toList_repr]
  intro hmem
  exact absurd (Json.dumpNat_isDigit hmem) (by decide)

/-- As many lines as there are texts without a line break. -/
theorem length_flatMap_textLines {texts : List String} (h : ∀ text ∈ texts, '\n' ∉ text.toList) :
    (texts.flatMap textLines).length = texts.length := by
  induction texts with
  | nil => rfl
  | cons text texts ih =>
    rw [List.forall_mem_cons] at h
    rw [List.flatMap_cons, List.length_append, textLines_eq_singleton h.1, ih h.2, Nat.add_comm]
    rfl

theorem not_mem_targetLines {m : ShapeABatchManifest} (hplain : m.Plain) :
    ∀ line ∈ m.targetLines, '\n' ∉ line.toList := by
  have hposture : ∀ p : CapabilityPosture, '\n' ∉ p.value.toList := by
    intro p
    cases p <;> decide
  have hassurance : ∀ a : AnchorAssurance, '\n' ∉ a.value.toList := by
    intro a
    cases a <;> decide
  simp only [ShapeABatchManifest.targetLines, List.forall_mem_cons, String.toList_append,
    List.mem_append, not_or]
  refine ⟨⟨by decide, hplain.plan⟩, ⟨by decide, hplain.step⟩, ⟨by decide, hposture _⟩,
    ⟨by decide, hassurance _⟩, by decide, by decide, by simp⟩

theorem not_mem_lastLines (m : ShapeABatchManifest) :
    ∀ line ∈ m.lastLines, '\n' ∉ line.toList := by
  simp only [ShapeABatchManifest.lastLines, List.forall_mem_cons, String.toList_append,
    List.mem_append, not_or]
  exact ⟨by decide, ⟨⟨⟨by decide, not_mem_toString _⟩, by decide⟩, by decide⟩, by simp⟩

/-- The lines of the review are those of its parts. -/
theorem textLines_reviewText (m : ShapeABatchManifest) :
    textLines m.reviewText =
      textLines ("Batch authorization review -- " ++ toString m.entries.length ++
          " capabilities, ONE owner approval") ++
        (textLines ("  batch_id:              " ++ m.batchId) ++
          (m.targetLines.flatMap textLines ++
            ((m.entries.flatMap ShapeABatchManifestEntry.lines).flatMap textLines ++
              m.lastLines.flatMap textLines))) := by
  have hne : m.firstLines ++ m.otherLines ≠ [] := List.cons_ne_nil _ _
  rw [ShapeABatchManifest.reviewText, textLines_intercalate hne]
  simp only [ShapeABatchManifest.firstLines, ShapeABatchManifest.otherLines, List.flatMap_append,
    List.flatMap_cons, List.flatMap_nil, List.append_nil, List.append_assoc]

/-- The review besides the line of the digest is that of one list of entries only, as long as the
fields of both manifests are read in one way. -/
theorem entries_eq_of_review {m m' : ShapeABatchManifest} (hplain : m.Plain) (hplain' : m'.Plain)
    (hbatch : m.batchId = m'.batchId) (h : m.ReadsOneWay) (h' : m'.ReadsOneWay)
    (heq : m.reviewText = m'.reviewText) : m.entries = m'.entries := by
  have hcount : ∀ n : ℕ, (textLines ("Batch authorization review -- " ++ toString n ++
      " capabilities, ONE owner approval")).length = 1 := by
    intro n
    rw [textLines_eq_singleton]
    · rfl
    · rw [String.toList_append, String.toList_append, List.mem_append, List.mem_append, not_or,
        not_or]
      exact ⟨⟨by decide, not_mem_toString n⟩, by decide⟩
  have hlines := congrArg textLines heq
  rw [textLines_reviewText, textLines_reviewText, hbatch] at hlines
  -- The parts before the entries have as many lines on both sides, and so has the part after them.
  have hrest := (List.append_inj hlines ((hcount _).trans (hcount _).symm)).2
  have htarget := List.append_cancel_left hrest
  have hbody := (List.append_inj htarget <| by
    rw [length_flatMap_textLines (not_mem_targetLines hplain),
      length_flatMap_textLines (not_mem_targetLines hplain')]
    rfl).2
  have hentries := (List.append_inj' hbody <| by
    rw [length_flatMap_textLines (not_mem_lastLines m),
      length_flatMap_textLines (not_mem_lastLines m')]
    rfl).1
  exact entries_eq_of_lines hplain.entries hplain'.entries h h' hentries


/-- The manifest, with its digest and its review, is the same for every order of the previews; and
of the manifests with the review of one whose fields are read in one way, those that are of other
entries are those that have a field which is not. -/
theorem review_unambiguous {previews : List ShapeAAuthorizationPreview} {batchId : String}
    {m : ShapeABatchManifest} (h : buildShapeABatchManifest previews batchId = .ok m) :
    (∀ previews', previews'.Perm previews → buildShapeABatchManifest previews' batchId = .ok m) ∧
      ∀ previews' m', buildShapeABatchManifest previews' batchId = .ok m' → m.ReadsOneWay →
        m.reviewText = m'.reviewText → (m.entries = m'.entries ↔ m'.ReadsOneWay) := by
  refine ⟨fun previews' hperm => buildShapeABatchManifest_perm h hperm, ?_⟩
  intro previews' m' h' hone heq
  have hbatch : m.batchId = m'.batchId := by
    obtain ⟨-, -, -, -, _, -, rfl⟩ := buildShapeABatchManifest_eq_ok h
    obtain ⟨-, -, -, -, _, -, rfl⟩ := buildShapeABatchManifest_eq_ok h'
    rfl
  constructor
  · intro hentries
    rw [ShapeABatchManifest.ReadsOneWay, ← hentries]
    exact hone
  · intro hone'
    exact entries_eq_of_review (plain_of_build h) (plain_of_build h') hbatch hone hone' heq

/-! ### Reviews that are read in two ways -/

/-- Two lines are one text with a line break in it. -/
theorem intercalate_merge (before after : List String) (first second : String) :
    String.intercalate "\n" (before ++ first :: second :: after) =
      String.intercalate "\n" (before ++ (first ++ "\n" ++ second) :: after) := by
  induction before with
  | nil =>
    rw [List.nil_append, List.nil_append, String.intercalate_cons_cons]
    rcases after with _ | ⟨next, after⟩
    · rw [String.intercalate_singleton, String.intercalate_singleton]
    · rw [String.intercalate_cons_cons, String.intercalate_cons_cons]
      simp only [String.append_assoc]
  | cons line before ih =>
    rw [List.cons_append, List.cons_append, String.intercalate_cons_of_ne_nil (by simp),
      String.intercalate_cons_of_ne_nil (by simp), ih]

/-- Two lines of the entries look like one text with a line break in it. -/
theorem reviewText_merge {m m' : ShapeABatchManifest} (hfirst : m.firstLines = m'.firstLines)
    (htarget : m.targetLines = m'.targetLines) (hlast : m.lastLines = m'.lastLines)
    (before after : List String) {first second : String}
    (h : m.entries.flatMap ShapeABatchManifestEntry.lines = before ++ first :: second :: after)
    (h' : m'.entries.flatMap ShapeABatchManifestEntry.lines =
      before ++ (first ++ "\n" ++ second) :: after) : m.reviewText = m'.reviewText := by
  have hmerge := intercalate_merge (m.firstLines ++ (m.targetLines ++ before))
    (after ++ m.lastLines) first second
  unfold ShapeABatchManifest.reviewText ShapeABatchManifest.otherLines
  rw [h, h', ← hfirst, ← htarget, ← hlast]
  simpa only [List.append_assoc, List.cons_append] using hmerge

namespace BatchSample

/-- A preview with the given review fields. -/
def previewFields (fields : List (String × String)) : ShapeAPreviewFields where
  capabilitySymbol := "NTP_TIME_SERVER_PREFER"
  semanticFields := fields
  executionIntentDigest := Sample.hex
  requestedPlanDigest := Sample.hex
  requestedStepId := "step-1"
  targetCapabilityPosture := .readOnly
  targetAnchorAssurance := .software
  generatedAt := ArtifactExchange.Sample.generatedAt

theorem valid_previewFields {fields : List (String × String)} (h : ValidSemanticFields fields) :
    (previewFields fields).Valid := by
  have hsymbol : "NTP_TIME_SERVER_PREFER" ∈ registeredCapabilities := by decide
  exact ⟨hsymbol, h, Sample.isHex64_hex, Sample.isHex64_hex,
    ArtifactExchange.Sample.isIdentifier_step⟩

/-- The manifest of one preview. -/
theorem build_singleton (p : ShapeAAuthorizationPreview) {batchId : String} (h : batchId ≠ "") :
    buildShapeABatchManifest [p] batchId = .ok
      { schemaVersion := shapeABatchManifestSchemaVersion
        batchId := batchId
        capabilitySymbols := [p.1.capabilitySymbol]
        entries := [p.1.entry]
        requestedPlanDigest := p.1.requestedPlanDigest
        requestedStepId := p.1.requestedStepId
        targetCapabilityPosture := p.1.targetCapabilityPosture
        targetAnchorAssurance := p.1.targetAnchorAssurance } := by
  have hsort : sortPreviews [p] = [p] := List.mergeSort_singleton p
  have hsize : [p].length ≤ maxBatchSize := Nat.le_add_left 1 199
  have hnodup : ([p].map fun p => p.1.capabilitySymbol).Nodup := List.nodup_singleton _
  have hsame : ∀ q ∈ ([] : List ShapeAAuthorizationPreview), q.1.SameTarget p.1 := by simp
  simp only [buildShapeABatchManifest, demand_of hsize, demand_of h, demand_of hnodup,
    demand_of hsame, ok_bind, hsort]
  rfl

/-- The previous value is shown, or it looks as if it was. -/
def shown : List (String × String) :=
  [("requested.prefer", "True"), ("previous.prefer", "False")]

def hidden : List (String × String) :=
  [("requested.prefer", "True\n      previous.prefer = False")]

/-- A manifest that is read in one way. -/
theorem review_unambiguous_sample : ∃ previews m,
    buildShapeABatchManifest previews "batch-1" = .ok m ∧ m.ReadsOneWay ∧
      (∀ previews', previews'.Perm previews →
        buildShapeABatchManifest previews' "batch-1" = .ok m) ∧
        ∀ previews' m', buildShapeABatchManifest previews' "batch-1" = .ok m' → m.ReadsOneWay →
          m.reviewText = m'.reviewText → (m.entries = m'.entries ↔ m'.ReadsOneWay) := by
  have hvalid : ValidSemanticFields shown := by decide
  have hone : ∀ field ∈ shown, ReadsOneWay field := by decide
  have hbuild := build_singleton ⟨previewFields shown, valid_previewFields hvalid⟩
    (by decide : "batch-1" ≠ "")
  refine ⟨_, _, hbuild, ?_, review_unambiguous hbuild⟩
  intro e he
  rw [List.mem_singleton.mp he]
  exact hone

/-- A value looks like another field. -/
theorem review_ambiguous : ¬∀ (previews previews' : List ShapeAAuthorizationPreview)
    (batchId : String) (m m' : ShapeABatchManifest),
    buildShapeABatchManifest previews batchId = .ok m →
    buildShapeABatchManifest previews' batchId = .ok m' →
    m.reviewText = m'.reviewText → m.entries = m'.entries := by
  intro h
  have hvalid : ValidSemanticFields shown := by decide
  have hvalid' : ValidSemanticFields hidden := by decide
  have hentries := h _ _ "batch-1" _ _
    (build_singleton ⟨previewFields shown, valid_previewFields hvalid⟩ (by decide))
    (build_singleton ⟨previewFields hidden, valid_previewFields hvalid'⟩ (by decide))
    (reviewText_merge rfl rfl rfl
      ["  - NTP_TIME_SERVER_PREFER", "      execution_intent_digest: " ++ Sample.hex] [] rfl rfl)
  have hfields : [shown] = [hidden] :=
    congrArg (List.map ShapeABatchManifestEntry.semanticFields) hentries
  exact absurd hfields (by decide)

end BatchSample

end Tier1
