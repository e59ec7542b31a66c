import PfsenseMcp.Administration.EngineOnce

/-!
# What a late attempt spoils

After a completed bootstrap the namespace is classified as cleanly completed, provided that no
other attempt takes the lock after the journal was created. An attempt classifies the namespace
before it takes the lock and not again under it. One that was late leaves its own operation in the
lock, and the finished bootstrap is reported as corrupt from then on.

## Main results

* `cleanCompleted_of_early`: the classification after a completed bootstrap, in runs without late
  attempts;
* `corrupt_of_late`: a run with a late attempt.
-/

namespace Administration

open Python Concurrency Procedure Tier1 OperationJournal

/-! ### Classification -/

section

variable [Platform] [Conversions] {s : LocalState}

omit [Platform] [Conversions] in
/-- A step that looks, of a call that runs alone. -/
theorem run_observe {α β : Type} {call : ℕ} {f : BootstrapAnswers → LocalState → Except Error α}
    {g : α → BootstrapOp β} {inputs : ℕ → BootstrapAnswers} (hdead : s.dead call = false) {a : α}
    (h : f (inputs 0) s = .ok a) :
    (observe call f >>= g).run inputs s = (g a).run (fun n => inputs (n + 1)) s := by
  rw [observe, step, atom_bind, run_atom]
  simp only [hdead, Bool.false_eq_true, if_false, h, ofExcept_ok, ret_bind]

/-- How a namespace is classified whose journal is there and can be loaded. -/
theorem run_classify (context : AdministrativeContext) {call : ℕ} {records : List JournalRecord}
    {latest : JournalRecord} (hdead : s.dead call = false) (hjournal : s.files.journal ≠ none)
    (hload : context.journal.load s.files = .ok records) (hlast : records.getLast? = some latest)
    (authoritative : Option AuthoritativeRestartObservation) {inputs : ℕ → BootstrapAnswers}
    (hinputs : ∀ n, (inputs n).contended = false) :
    ((classify context call authoritative).run inputs s).result =
      .ok (classifyRestart (some latest) (context.trusts latest)
        (inspect context.journal.integrityKey context.lockPath s.lock s.held)
        (context.observeLocalArtifacts s.custody) authoritative) := by
  have hbound : ∀ inputs : ℕ → BootstrapAnswers, (loadBoundJournal context call).run inputs s =
      ⟨.ok (some latest, context.trusts latest), s, fun n => inputs (n + 2)⟩ := by
    intro inputs
    rw [loadBoundJournal, run_observe hdead rfl, if_neg hjournal, run_observe hdead rfl]
    have hfiles : context.journal.load { s.files with head := s.files.head } = .ok records := hload
    rw [hfiles]
    dsimp only
    rw [hlast]
    rfl
  rw [classify, run_bind, hbound]
  dsimp only
  rw [run_observe hdead rfl, run_observe hdead rfl, hinputs]
  rfl

/-- Whatever the state of a lock, the operation of its metadata is seen. -/
theorem operationId_inspect_lockText {key : Bytes} {lockPath operationId timestamp : String} {active held : Bool}
    (h : (lockText key operationId timestamp active).length ≤ maxMetadataBytes) :
    (inspect key lockPath (some (.created (lockText key operationId timestamp active))) held).operationId =
      some operationId := by
  have hread := readSecure_created lockPath h
  rw [inspect, if_neg (Option.some_ne_none _), hread]
  dsimp only
  rw [readMetadata_lockText h]
  cases held with
  | true => exact congrArg some (Conversions.str_str operationId)
  | false => exact congrArg some (Conversions.str_str operationId)

/-- After a completed bootstrap, in a run in which no call takes the lock once there is a journal,
the namespace is classified as cleanly completed, when the appliance is as expected. -/
theorem cleanCompleted_of_early {contexts : ℕ → AdministrativeContext}
    {cfg : Config LocalState BootstrapAnswers Error}
    (h : (bootstrapSystem contexts earlySteps).Reachable cfg) {c : ℕ} {result : BootstrapResult}
    (hmem : .returned c result ∈ cfg.shared.trace) (hcompleted : result.outcome = .completed)
    (hsizes : WithinSizes cfg.shared) :
    ∃ operationId, result.operationId = some operationId ∧
      ∀ a : AuthoritativeRestartObservation,
        a.Matches ((contexts c).newOperationBinding operationId) →
        a.finalVerificationComplete = true → a.serverState = .expectedCompleted →
        ∀ observer, cfg.shared.dead observer = false →
        ∀ inputs : ℕ → BootstrapAnswers, (∀ n, (inputs n).contended = false) →
          ((classify (contexts c) observer (some a)).run inputs cfg.shared).result =
            .ok ⟨.cleanCompleted, some operationId, none⟩ := by
  have hinv := ((bootstrapCertificate contexts earlySteps).reachable h).inv
  obtain ⟨operationId, hid, hreleased, hkept⟩ :=
    hinv.settled early_earlySteps c result hmem hcompleted
  obtain ⟨_, hid', hends⟩ := ((hinv.course c).of_returned (mem_own.2 ⟨hmem, rfl⟩)).1 hcompleted
  obtain rfl : operationId = _ := Option.some.inj (hid.symm.trans hid')
  obtain ⟨records, latest, hwritten, hbinding, hstate⟩ := hends
  refine ⟨operationId, hid, fun a hmatches hfinal hserver observer hdead inputs hinputs => ?_⟩
  have hjournal : cfg.shared.files.journal ≠ none := by
    rw [hwritten.journal_eq]
    rintro ⟨⟩
  have hlast : (records ++ [latest]).getLast? = some latest := by simp
  rw [run_classify _ hdead hjournal (hwritten.load hsizes.journal) hlast _ hinputs]
  have htrusts : (contexts c).trusts latest = true := by
    rw [AdministrativeContext.trusts, hbinding]
    simp [AdministrativeContext.newOperationBinding]
  have hlock : inspect (contexts c).journal.integrityKey (contexts c).lockPath cfg.shared.lock
      cfg.shared.held = ⟨.released, some operationId⟩ := by
    obtain ⟨-, file, -, hfile, -, hinspect⟩ := hreleased
    exact hinspect (hsizes.lock file hfile)
  have hartifacts :
      ((contexts c).observeLocalArtifacts cfg.shared.custody).trusted = true := by
    rcases hkept with hnone | ⟨content, hcontent⟩
    · rw [hnone]
      rfl
    · have hlength : content.length ≤ maxSecretBytes := hsizes.custody _ hcontent
      rw [AdministrativeContext.observeLocalArtifacts, hcontent, if_neg (by rintro ⟨⟩),
        readSecure_created _ hlength]
  rw [hlock, htrusts]
  have hcorrupt : ¬(true = false ∨
      ((contexts c).observeLocalArtifacts cfg.shared.custody).trusted = false ∨
        LockState.released = .corrupt) := by
    rw [hartifacts]
    simp
  have hlatest : latest.binding.operationId = operationId := by
    rw [hbinding]
    rfl
  rw [classifyRestart, if_neg hcorrupt]
  dsimp only
  rw [hbinding, if_neg (fun h => h.2 rfl), if_neg (by rintro ⟨⟩), if_neg (not_not.2 hmatches),
    classifyLatest, hstate, hlatest]
  dsimp only
  rw [if_pos ⟨hfinal, hserver⟩]

end

/-! ### A late attempt -/

section

attribute [local instance] Sample.platform sampleConversions

/-- What is observed after the first operation of the sample. -/
def sampleEvidence : AuthoritativeRestartObservation where
  targetIdentity := "firewall"
  targetOrigin := "https://firewall"
  accountIdentity := "pfsense-mcp"
  approvedProfile := "write_protected"
  schemaVersion := "1"
  schemaEvidenceDigest := "digest"
  authMethods := ["KeyAuth"]
  serverState := .expectedCompleted
  finalVerificationComplete := true

theorem matches_sampleEvidence :
    sampleEvidence.Matches (sampleContext.newOperationBinding "op-1") :=
  ⟨rfl, rfl, rfl, rfl, rfl, rfl, rfl⟩

theorem cleanCompleted_of_early_sample :
    ∃ cfg, (bootstrapSystem (fun _ => sampleContext) earlySteps).Reachable cfg ∧
      ∃ operationId, some operationId = some "op-1" ∧ ∀ inputs : ℕ → BootstrapAnswers,
        (∀ n, (inputs n).contended = false) →
          ((classify sampleContext 1 (some sampleEvidence)).run inputs cfg.shared).result =
            .ok ⟨.cleanCompleted, some operationId, none⟩ := by
  obtain ⟨cfg, hreach, ⟨files, hfinal⟩, hsizes⟩ := exists_sample earlySteps fun _ _ _ h => h
  have hmem : .returned 0 sampleReturned ∈ cfg.shared.trace := by
    rw [hfinal]
    exact List.mem_append_right _ (List.mem_singleton.2 rfl)
  obtain ⟨operationId, hid, hclassified⟩ := cleanCompleted_of_early hreach hmem rfl hsizes
  cases hid
  refine ⟨cfg, hreach, "op-1", rfl, ?_⟩
  exact hclassified sampleEvidence matches_sampleEvidence rfl rfl 1 (by rw [hfinal]; rfl)

/-- A late attempt: both calls have returned, the first one with a completed operation, and the
namespace is classified as corrupt. -/
theorem corrupt_of_late :
    ∃ cfg, (bootstrapSystem (fun _ => sampleContext) fun _ _ _ => True).Reachable cfg ∧
      cfg.next = 2 ∧ cfg.calls 0 = some (.ret ()) ∧ cfg.calls 1 = some (.ret ()) ∧
      (∃ result, .returned 1 result ∈ cfg.shared.trace ∧ result.outcome = .completed ∧
        result.operationId = some "op-1") ∧
      sampleEvidence.Matches (sampleContext.newOperationBinding "op-1") ∧
      sampleEvidence.finalVerificationComplete = true ∧
      sampleEvidence.serverState = .expectedCompleted ∧
      ∀ inputs : ℕ → BootstrapAnswers, (∀ n, (inputs n).contended = false) → ∃ decision,
        ((classify sampleContext 2 (some sampleEvidence)).run inputs cfg.shared).result =
          .ok decision ∧ decision.classification = .corruptOrUntrustedLocalState := by
  let S := bootstrapSystem (fun _ => sampleContext) fun _ _ _ => True
  have hpermit : ∀ i s s', earlySteps i s s' → S.permit i s s' := fun _ _ _ _ => trivial
  have hstart : S.Reachable (.start sampleState) := .start ⟨rfl, rfl⟩
  -- call 0 classifies the namespace, which is clean
  obtain ⟨cfg₁, h₁, hshared₁, hnext₁, hcalls₁⟩ := System.exists_start hstart
    (p := runBootstrap sampleContext 0 2 none) (.inl ⟨2, none, rfl⟩)
  have hclassify : Runs S.permit (sampleAnswers "op-2") (classify sampleContext 0 none) cfg₁.shared
      (.ok ⟨.cleanNoOperation, none, none⟩) sampleState := by
    rw [hshared₁]
    exact runs_classify hpermit rfl rfl rfl rfl sampleContext none
  have hwaiting₁ : cfg₁.calls 0 = some (runBootstrap sampleContext 0 2 none) := by
    rw [hcalls₁]
    exact Function.update_self _ _ _
  obtain ⟨cfg₂, h₂, hshared₂, hnext₂, hcalls₂⟩ := System.exists_runs h₁ hwaiting₁ hclassify
  have hwaiting₂ : cfg₂.calls 0 = some (startBootstrap sampleContext 0 2) := by
    rw [hcalls₂]
    exact Function.update_self _ _ _
  -- call 1 completes its operation in the meantime
  obtain ⟨cfg₃, h₃, hshared₃, hnext₃, hcalls₃⟩ := System.exists_start h₂
    (p := runBootstrap sampleContext cfg₂.next 1 none) (.inl ⟨1, none, rfl⟩)
  have hone : cfg₂.next = 1 := by
    rw [hnext₂, hnext₁]
    rfl
  rw [hone] at hcalls₃ hnext₃
  obtain ⟨files, hrun, hwritten, hlimit, hfiles⟩ := runs_sample hpermit 1
  rw [← hshared₂, ← hshared₃] at hrun
  obtain ⟨cfg₄, h₄, hshared₄, hnext₄, hcall₄, hothers₄⟩ := System.reachable_run (c := 1)
    (runBootstrap sampleContext 1 1 none) (fun _ => sampleAnswers "op-1") h₃ hrun.permitted
    (by rw [hcalls₃]; exact Function.update_self _ _ _)
  rw [hrun.run] at hcall₄
  have hdone : cfg₄.shared = sampleFinal 1 files := by rw [hshared₄, hrun.run]
  have hwaiting₄ : cfg₄.calls 0 = some (startBootstrap sampleContext 0 2) := by
    rw [hothers₄ 0 Nat.zero_ne_one, hcalls₃, Function.update_of_ne Nat.zero_ne_one, hwaiting₂]
  -- call 0 takes over the lock
  have hjournal : (sampleFinal 1 files).files.journal ≠ none := by
    show files.journal ≠ none
    rw [hwritten.journal_eq]
    exact nofun
  have hparent : sampleJournal.validateParent files = .ok () := by
    rw [OperationJournal.validateParent, hfiles]
    exact validateParent_sample
  have hlate := runs_late (i := sampleAnswers "op-2") (s := sampleFinal 1 files)
    0 hpermit sampleContext (fun _ _ => trivial) rfl rfl rfl rfl rfl 2 (by decide) hparent
    (validateBinding_sample "op-2" (by decide)) rfl length_sampleLock_le.1 hjournal
  rw [← hdone] at hlate
  obtain ⟨cfg₅, h₅, hshared₅, hnext₅, hcall₅, hothers₅⟩ := System.reachable_run (c := 0)
    (startBootstrap sampleContext 0 2) (fun _ => sampleAnswers "op-2") h₄ hlate.permitted hwaiting₄
  rw [hlate.run, hdone] at hshared₅
  rw [hlate.run] at hcall₅
  refine ⟨cfg₅, h₅, ?_, hcall₅, ?_, ?_, matches_sampleEvidence, rfl, rfl, fun inputs hinputs => ?_⟩
  · rw [hnext₅, hnext₄, hnext₃]
  · rw [hothers₅ 1 Nat.one_ne_zero, hcall₄]
    rfl
  · refine ⟨sampleReturned, ?_, rfl, rfl⟩
    rw [hshared₅]
    exact List.mem_append_left _ (List.mem_append_right _ (List.mem_singleton.2 rfl))
  · have hdead : cfg₅.shared.dead 2 = false := by
      rw [hshared₅]
      rfl
    have hload : sampleJournal.load cfg₅.shared.files =
        .ok [sampleCreated, sampleReady, sampleIntent, samplePending, sampleCompleted] := by
      rw [hshared₅]
      exact hwritten.load hlimit
    have hlock : cfg₅.shared.lock = some (.created (sampleLock "op-2" true)) := by
      rw [hshared₅]
      rfl
    have hkept : cfg₅.shared.files.journal ≠ none := by
      rw [hshared₅]
      exact hjournal
    have hne : "op-2" ≠ sampleCompleted.binding.operationId := by decide
    refine ⟨_, run_classify sampleContext hdead hkept hload rfl _ hinputs, ?_⟩
    rw [hlock]
    exact corrupt_of_mismatch (operationId_inspect_lockText length_sampleLock_le.2) hne _ _

end

end Administration
