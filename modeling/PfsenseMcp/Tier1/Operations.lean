import Mathlib.Data.Int.Notation
import Mathlib.Data.Nat.Notation
import PfsenseMcp.Tier1.Executor
import PfsenseMcp.Tier1.Representation

/-!
# What the operations of the store do

Each operation of the store is verified on its own, against any interference that only extends
the trace by events of other calls. A `Setting` fixes what interference is considered: `shared`
is all of it, and `alone` none.

The specifications have one form. An operation ends by raising without having changed a contract,
or it commits one change, and `hok` is asked for exactly that commit.

## Main results

* `load_spec`, `replace_spec`, `transition_spec` and one specification for every other operation:
  every step keeps the world coherent, and a commit is one of the kinds in `Change`.
-/

namespace Tier1

open Python Concurrency Procedure RecoveryState

variable [Platform]

/-! ### Coherent worlds and settings -/

/-- The trace is lawful, and the tables represent its commits. -/
structure Coherent (store : Store) (s : World) : Prop where
  lawful : Lawful LawfulEvent s.trace
  represents : store.Represents s.db (commitsOf s.trace)

namespace World

/-- The commits about a contract. -/
def history (s : World) (contractId : String) : List Commit :=
  historyOf (commitsOf s.trace) contractId

/-- The contract as of now. -/
def latest (s : World) (contractId : String) : Option RecoveryContract :=
  latestOf (commitsOf s.trace) contractId

/-- The contract was committed at some time. -/
def Recorded (s : World) (c : RecoveryContract) : Prop := ∃ k ∈ commitsOf s.trace, k.after = c

end World

/-- Two worlds with the same contracts and the same trace: they differ at most in the anchor and
its marks. -/
structure Quiet (s s' : World) : Prop where
  trace : s'.trace = s.trace
  contracts : s'.db.contracts = s.db.contracts
  targetReservations : s'.db.targetReservations = s.db.targetReservations
  auditEvents : s'.db.auditEvents = s.db.auditEvents
  rateCooldowns : s'.db.rateCooldowns = s.db.rateCooldowns

/-- The trace was extended by events of other calls than the given one. -/
def Extends (call : ℕ) (s s' : World) : Prop :=
  ∃ events, s'.trace = s.trace ++ events ∧ ∀ e ∈ events, e.call ≠ call

/-- A call leaves the contracts alone, or extends the trace by one event of its own. -/
def Advances (call : ℕ) (s s' : World) : Prop :=
  Quiet s s' ∨ ∃ e : Event, e.call = call ∧ s'.trace = s.trace ++ [e]

theorem Quiet.refl (s : World) : Quiet s s := ⟨rfl, rfl, rfl, rfl, rfl⟩

theorem Quiet.trans {s₁ s₂ s₃ : World} (h : Quiet s₁ s₂) (h' : Quiet s₂ s₃) : Quiet s₁ s₃ :=
  ⟨h'.trace.trans h.trace, h'.contracts.trans h.contracts,
    h'.targetReservations.trans h.targetReservations, h'.auditEvents.trans h.auditEvents,
    h'.rateCooldowns.trans h.rateCooldowns⟩

theorem Quiet.toExtends {s s' : World} (h : Quiet s s') (call : ℕ) : Extends call s s' :=
  ⟨[], by rw [h.trace, List.append_nil], fun _ he => absurd he List.not_mem_nil⟩

theorem Quiet.coherent {store : Store} {s s' : World} (h : Quiet s s') (hs : Coherent store s) :
    Coherent store s' := by
  obtain ⟨hlaw, hrep⟩ := hs
  refine ⟨h.trace ▸ hlaw, ?_⟩
  rw [h.trace]
  constructor
  · rw [h.contracts, hrep.contracts]
  · exact hrep.codes
  · rw [h.auditEvents, hrep.auditEvents]
  · exact hrep.auditTags
  · rw [h.targetReservations]; exact hrep.reservations
  · rw [h.targetReservations]; exact hrep.targets

/-- An event that is no commit leaves the tables as they represent the history. -/
theorem Coherent.record {store : Store} {s : World} {e : Event} (h : Coherent store s)
    (he : LawfulEvent s.trace e) (hnone : commitsOf [e] = []) :
    Coherent store { s with trace := s.trace ++ [e] } := by
  refine ⟨.append h.lawful he, ?_⟩
  rw [commitsOf_append, hnone, List.append_nil]
  exact h.represents

namespace Extends

variable {call : ℕ} {s s' s'' : World}

theorem refl (call : ℕ) (s : World) : Extends call s s := (Quiet.refl s).toExtends call

theorem trans (h : Extends call s s') (h' : Extends call s' s'') : Extends call s s'' := by
  obtain ⟨events, htrace, hevents⟩ := h
  obtain ⟨events', htrace', hevents'⟩ := h'
  refine ⟨events ++ events', by rw [htrace', htrace, List.append_assoc], fun e he => ?_⟩
  rcases List.mem_append.mp he with he | he
  · exact hevents e he
  · exact hevents' e he

/-- Other calls leave the events of a call alone. -/
theorem own (h : Extends call s s') : own call s'.trace = own call s.trace := by
  obtain ⟨events, htrace, hevents⟩ := h
  have hnil : Tier1.own call events = [] := by
    rw [Tier1.own, List.filter_eq_nil_iff]
    intro e he
    simpa using hevents e he
  rw [htrace, own_append, hnil, List.append_nil]

theorem recorded (h : Extends call s s') {c : RecoveryContract} (hc : s.Recorded c) :
    s'.Recorded c := by
  obtain ⟨events, htrace, -⟩ := h
  obtain ⟨k, hk, rfl⟩ := hc
  refine ⟨k, ?_, rfl⟩
  rw [htrace, commitsOf_append]
  exact List.mem_append_left _ hk

end Extends

/-- The interference that is considered, and what each step of the call has to guarantee. -/
structure Setting (call : ℕ) where
  /-- What other calls may do between two steps. -/
  rely : World → World → Prop
  /-- What each step of the call may do. -/
  guar : World → World → Prop
  /-- The steps that are considered. -/
  permit : Answers → World → World → Prop
  refl : ∀ s, rely s s
  trans : ∀ {s₁ s₂ s₃}, rely s₁ s₂ → rely s₂ s₃ → rely s₁ s₃
  quiet : ∀ {s s'}, Quiet s s' → rely s s'
  frame : ∀ {s s'}, rely s s' → Extends call s s'
  guar_of : ∀ {i s s'}, permit i s s' → Advances call s s' → guar s s'

namespace Setting

variable {call : ℕ}

/-- The context in which the operations of a store are verified. -/
def context (S : Setting call) (store : Store) : Context World Answers :=
  ⟨Coherent store, S.rely, S.guar, S.permit⟩

/-- The fault hook may raise right after a commit. -/
def Faulty (S : Setting call) : Prop :=
  ∃ i s s' e, S.permit i s s' ∧ invokeFault i .afterCommit = .error e

/-- A transaction raises instead of committing. -/
def Fails (S : Setting call) (block : Answers → Database → Except Error (Database × DateTime))
    (s : World) (e : Error) : Prop :=
  ∃ i, S.permit i s s ∧ (i.sqlite = some e ∨ (do
    let result ← block i s.db
    commitFailure i
    .ok result) = .error e)

/-- The call has made its commit `k`, and the world is `s'` after it. -/
structure Commits (S : Setting call) (store : Store) (s s' : World) (k : Commit) : Prop where
  before : ∃ s₁, S.rely s s₁ ∧ Coherent store s₁ ∧ s'.trace = s₁.trace ++ [.committed k]
  coherent : Coherent store s'
  call : k.call = call

end Setting

/-! ### Steps -/

section Steps

variable {store : Store} {call : ℕ} {S : Setting call} {α β : Type} {s : World}
  {post : Except Error α → World → Prop}

theorem wp_ofExcept {C : Context World Answers} (x : Except Error α) :
    wp C (ofExcept x) post s ↔ post x s := by
  cases x <;> rfl

/-- A check that raises, or goes on. -/
theorem wp_check {x : Except Error β} {f : β → Op α}
    (herr : ∀ e, x = .error e → post (.error e) s)
    (hok : ∀ b, x = .ok b → wp (S.context store) (f b) post s) :
    wp (S.context store) (Op.check x >>= f) post s := by
  cases x with
  | error e => exact herr e rfl
  | ok b => exact hok b rfl

theorem wp_demand {condition : Prop} [Decidable condition] {cls : ErrorClass} {message : String}
    {f : Unit → Op α} (herr : ∀ e, post (.error e) s)
    (hok : condition → wp (S.context store) (f ()) post s) :
    wp (S.context store) (Op.check (demand condition cls message) >>= f) post s := by
  refine wp_check (fun e _ => herr e) fun _ h => hok (demand_eq_ok.mp h)

/-- An atomic step. -/
theorem wp_atomic {f : Answers → World → World × Except Error α}
    (h : ∀ s', Coherent store s' → S.rely s s' → ∀ i, S.permit i s' (f i s').1 →
      Coherent store (f i s').1 ∧ Advances call s' (f i s').1 ∧ post (f i s').2 (f i s').1) :
    wp (S.context store) (Op.atomic f) post s := by
  intro s' hs' hrely i hi
  obtain ⟨hcoherent, hadvances, hpost⟩ := h s' hs' hrely i hi
  exact ⟨hcoherent, S.guar_of hi hadvances, (wp_ofExcept _).mpr hpost⟩

/-- A step that leaves the world alone. -/
theorem wp_consult {f : Answers → Except Error α}
    (h : ∀ s', Coherent store s' → S.rely s s' → ∀ i, post (f i) s') :
    wp (S.context store) (Op.consult f) post s :=
  wp_atomic fun s' hs' hrely i _ => ⟨hs', .inl (.refl s'), h s' hs' hrely i⟩

/-- A statement that reads the tables. -/
theorem wp_query {f : Database → Except Error α}
    (herr : ∀ s' e, Coherent store s' → S.rely s s' → post (.error e) s')
    (hok : ∀ s' a, Coherent store s' → S.rely s s' → f s'.db = .ok a → post (.ok a) s') :
    wp (S.context store) (Op.query f) post s := by
  refine wp_atomic fun s' hs' hrely i _ => ⟨hs', .inl (.refl s'), ?_⟩
  dsimp only
  split
  · exact herr s' _ hs' hrely
  · cases hf : f s'.db with
    | error e => exact herr s' e hs' hrely
    | ok a => exact hok s' a hs' hrely hf

/-- A statement that writes `anchor_state` only. -/
theorem wp_execute {f : Database → Except Error Database}
    (hf : ∀ db db', f db = .ok db' → db' = { db with anchorState := db'.anchorState })
    {post : Except Error Unit → World → Prop}
    (h : ∀ s' r, Coherent store s' → S.rely s s' → post r s') :
    wp (S.context store) (Op.execute f) post s := by
  refine wp_atomic fun s' hs' hrely i _ => ?_
  split
  · exact ⟨hs', .inl (.refl s'), h s' _ hs' hrely⟩
  · split
    · exact ⟨hs', .inl (.refl s'), h s' _ hs' hrely⟩
    · rename_i db hdb
      have hquiet : Quiet s' { s' with db := db } := by
        have := hf _ _ hdb
        constructor
        · rfl
        all_goals
          dsimp only
          rw [this]
      exact ⟨hquiet.coherent hs', .inl hquiet,
        h _ _ (hquiet.coherent hs') (S.trans hrely (S.quiet hquiet))⟩

theorem now_spec {post : Except Error DateTime → World → Prop}
    (h : ∀ s' r, Coherent store s' → S.rely s s' → post r s') :
    wp (S.context store) Store.now post s :=
  wp_consult fun s' hs' hrely _ => h s' _ hs' hrely

end Steps

/-! ### Reading operations -/

section Reading

variable {store : Store} {call : ℕ} {S : Setting call} {s : World}

theorem Coherent.commits {s : World} (h : Coherent store s) :
    Lawful LawfulCommit (commitsOf s.trace) := lawful_commitsOf h.lawful

theorem recorded_of_latest {s : World} {contractId : String} {c : RecoveryContract}
    (h : s.latest contractId = some c) : s.Recorded c := by
  obtain ⟨k, hk, rfl⟩ := View.exists_of_latest h
  exact ⟨k, (mem_historyOf.mp hk).1, rfl⟩

/-- A row found by its identifier decodes to the latest contract. -/
theorem Coherent.selectContract {s : World} (h : Coherent store s) {contractId : String}
    {row : ContractRow} (hrow : Store.requireRow (s.db.selectContract contractId) = .ok row) :
    ∃ c, s.latest contractId = some c ∧ store.decodeRow row = .ok c := by
  rw [Store.selectContract_eq h.commits h.represents] at hrow
  cases hl : latestOf (commitsOf s.trace) contractId with
  | none => simp [hl, Store.requireRow, fail] at hrow
  | some c =>
    rw [hl] at hrow
    cases hrow
    have hmem : c ∈ contractsOf (commitsOf s.trace) :=
      (mem_contractsOf h.commits).mpr (by rw [contractId_of_latestOf hl, hl])
    exact ⟨c, hl, Store.decodeRow_rowOf (h.represents.codes c hmem)⟩

theorem verifyRelatedState_spec {c : RecoveryContract} {post : Except Error Unit → World → Prop}
    (h : ∀ s' r, Coherent store s' → S.rely s s' → post r s') :
    wp (S.context store) (store.verifyRelatedState c) post s := by
  refine (wp_bind _ _ _ _).mpr (wp_query (fun s₁ e hs₁ h₁ => h s₁ _ hs₁ h₁) ?_)
  intro s₁ reservation hs₁ h₁ _
  refine wp_check (fun e _ => h s₁ _ hs₁ h₁) fun _ _ => ?_
  refine (wp_bind _ _ _ _).mpr
    (wp_query (fun s₂ e hs₂ h₂ => h s₂ _ hs₂ (S.trans h₁ h₂)) ?_)
  intro s₂ rows hs₂ h₂ _
  exact wp_check (fun e _ => h s₂ _ hs₂ (S.trans h₁ h₂)) fun _ _ => h s₂ _ hs₂ (S.trans h₁ h₂)

/-- What `load` returns was the latest contract at one time. -/
theorem load_latest_spec {contractId : String}
    {post : Except Error RecoveryContract → World → Prop}
    (herr : ∀ s' e, Coherent store s' → S.rely s s' → post (.error e) s')
    (hok : ∀ s₁ s' c, Coherent store s₁ → S.rely s s₁ → s₁.latest contractId = some c →
      Coherent store s' → S.rely s₁ s' → c.contractId = contractId → post (.ok c) s') :
    wp (S.context store) (store.load contractId) post s := by
  refine (wp_bind _ _ _ _).mpr (wp_query (fun s₁ e hs₁ h₁ => herr s₁ e hs₁ h₁) ?_)
  intro s₁ row hs₁ h₁ hrow
  obtain ⟨c, hlatest, hdecode⟩ := hs₁.selectContract hrow
  refine wp_check (fun e _ => herr s₁ e hs₁ h₁) fun c' hc' => ?_
  rw [hdecode] at hc'
  cases hc'
  refine wp_demand (fun e => herr s₁ e hs₁ h₁) fun hid => ?_
  refine (wp_bind _ _ _ _).mpr (verifyRelatedState_spec ?_)
  intro s₂ r hs₂ h₂
  cases r with
  | error e => exact herr s₂ e hs₂ (S.trans h₁ h₂)
  | ok _ => exact hok s₁ s₂ c hs₁ h₁ hlatest hs₂ h₂ hid

/-- What `load` returns was committed under the identifier. -/
theorem load_spec {contractId : String} {post : Except Error RecoveryContract → World → Prop}
    (herr : ∀ s' e, Coherent store s' → S.rely s s' → post (.error e) s')
    (hok : ∀ s' c, Coherent store s' → S.rely s s' → s'.Recorded c → c.contractId = contractId →
      post (.ok c) s') :
    wp (S.context store) (store.load contractId) post s :=
  load_latest_spec herr fun _ s' c _ h₁ hlatest hs' h' hid =>
    hok s' c hs' (S.trans h₁ h') ((S.frame h').recorded (recorded_of_latest hlatest)) hid

/-- What `audit_events` returns are the events of the contract as of its last step. -/
theorem auditEvents_spec {contractId : String}
    {post : Except Error (List AuditEvent) → World → Prop}
    (herr : ∀ s' e, Coherent store s' → S.rely s s' → post (.error e) s')
    (hok : ∀ s' events, Coherent store s' → S.rely s s' →
      events = (s'.history contractId).map (fun k => (store.auditRowOf k).event) →
      post (.ok events) s') :
    wp (S.context store) (store.auditEvents contractId) post s := by
  refine (wp_bind _ _ _ _).mpr (wp_query (fun s₁ e hs₁ h₁ => herr s₁ e hs₁ h₁) ?_)
  intro s₁ row hs₁ h₁ hrow
  obtain ⟨c, hlatest, hdecode⟩ := hs₁.selectContract hrow
  have hid := contractId_of_latestOf hlatest
  refine wp_check (fun e _ => herr s₁ e hs₁ h₁) fun c' hc' => ?_
  rw [hdecode] at hc'
  cases hc'
  refine (wp_bind _ _ _ _).mpr
    (wp_query (fun s₂ e hs₂ h₂ => herr s₂ e hs₂ (S.trans h₁ h₂)) ?_)
  intro s₂ reservation hs₂ h₂ _
  have h₂ := S.trans h₁ h₂
  refine wp_check (fun e _ => herr s₂ e hs₂ h₂) fun _ _ => ?_
  refine (wp_bind _ _ _ _).mpr
    (wp_query (fun s₃ e hs₃ h₃ => herr s₃ e hs₃ (S.trans h₂ h₃)) ?_)
  intro s₃ rows hs₃ h₃ hrows
  have h₃ := S.trans h₂ h₃
  refine wp_check (fun e _ => herr s₃ e hs₃ h₃) fun rows' hrows' => ?_
  -- the rows that pass the checks are the rows that were read
  have hsame : rows' = rows := by
    simp only [Store.verifiedAuditRows, bind_eq_ok] at hrows'
    obtain ⟨_, -, _, -, _, -, h⟩ := hrows'
    cases h
    rfl
  have hrows : rows = s₃.db.selectAudit c.contractId := (Except.ok.inj hrows).symm
  rw [hid, Store.selectAudit_eq hs₃.commits hs₃.represents] at hrows
  refine hok s₃ _ hs₃ h₃ ?_
  rw [hsame, hrows, List.map_map]
  rfl

/-- Rows of contracts decode to contracts. -/
theorem decodeRows_ok {s : World} (h : Coherent store s) (rows : List ContractRow)
    (hrows : ∀ row ∈ rows, row ∈ s.db.contracts) :
    ∃ contracts, store.decodeRows rows = .ok contracts ∧ ∀ c ∈ contracts, s.Recorded c := by
  induction rows with
  | nil => exact ⟨[], rfl, fun _ hc => absurd hc List.not_mem_nil⟩
  | cons row rows ih =>
    obtain ⟨contracts, hcontracts, hrecorded⟩ :=
      ih fun r hr => hrows r (List.mem_cons_of_mem _ hr)
    have hrow := hrows row List.mem_cons_self
    rw [h.represents.contracts, List.mem_map] at hrow
    obtain ⟨c, hc, rfl⟩ := hrow
    refine ⟨c :: contracts, ?_, fun d hd => ?_⟩
    · rw [Store.decodeRows, Store.decodeRow_rowOf (h.represents.codes c hc), ok_bind, hcontracts]
      rfl
    · rcases List.mem_cons.mp hd with rfl | hd
      · exact recorded_of_latest ((mem_contractsOf h.commits).mp hc)
      · exact hrecorded d hd

theorem verifyContracts_spec {contracts : List RecoveryContract}
    {post : Except Error Unit → World → Prop}
    (h : ∀ s' r, Coherent store s' → S.rely s s' → post r s') (hs : Coherent store s) :
    wp (S.context store) (store.verifyContracts contracts) post s := by
  induction contracts generalizing s with
  | nil => exact h s _ hs (S.refl s)
  | cons c contracts ih =>
    refine (wp_bind _ _ _ _).mpr (verifyRelatedState_spec fun s₁ r hs₁ h₁ => ?_)
    cases r with
    | error e => exact h s₁ _ hs₁ h₁
    | ok _ => exact ih (fun s₂ r hs₂ h₂ => h s₂ r hs₂ (S.trans h₁ h₂)) hs₁

/-- What `all_contracts` returns was committed. -/
theorem allContracts_spec {post : Except Error (List RecoveryContract) → World → Prop}
    (herr : ∀ s' e, Coherent store s' → S.rely s s' → post (.error e) s')
    (hok : ∀ s' contracts, Coherent store s' → S.rely s s' →
      (∀ c ∈ contracts, s'.Recorded c) → post (.ok contracts) s') :
    wp (S.context store) store.allContracts post s := by
  refine (wp_bind _ _ _ _).mpr (wp_query (fun s₁ e hs₁ h₁ => herr s₁ e hs₁ h₁) ?_)
  intro s₁ rows hs₁ h₁ hrows
  have hrows : rows = s₁.db.selectAllContracts := (Except.ok.inj hrows).symm
  obtain ⟨contracts, hcontracts, hrecorded⟩ := decodeRows_ok hs₁ rows fun row hrow => by
    rw [hrows, Database.selectAllContracts, List.mem_mergeSort] at hrow
    exact hrow
  refine wp_check (fun e _ => herr s₁ e hs₁ h₁) fun contracts' h' => ?_
  rw [hcontracts] at h'
  cases h'
  refine (wp_bind _ _ _ _).mpr (verifyContracts_spec (fun s₂ r hs₂ h₂ => ?_) hs₁)
  cases r with
  | error e => exact herr s₂ e hs₂ (S.trans h₁ h₂)
  | ok _ =>
    exact hok s₂ contracts hs₂ (S.trans h₁ h₂) fun c hc => (S.frame h₂).recorded (hrecorded c hc)

end Reading

/-! ### Commits -/

section Changing

variable {store : Store} {call : ℕ} {S : Setting call} {s : World}

omit [Platform] in
theorem upsertAnchor_eq (db : Database) (row : AnchorRow) :
    db.upsertAnchor row = { db with anchorState := (db.upsertAnchor row).anchorState } := rfl

/-- The anchor protocol writes `anchor_state` only. -/
theorem beforeExecutingTransition_eq {α : Type} {identity : StoreIdentity}
    {anchor : AntiRollbackAnchor α} {db db' : Database} {w w' : α}
    (h : HighWaterMark.beforeExecutingTransition identity anchor db w = (.ok db', w')) :
    db' = { db with anchorState := db'.anchorState } := by
  obtain ⟨_, _, _, -, -, -, hpersist⟩ := HighWaterMark.beforeExecutingTransition_ok h
  simp only [HighWaterMark.persist, bind_eq_ok] at hpersist
  obtain ⟨row, -, h⟩ := hpersist
  cases h
  rfl

/-- The transaction before an `EXECUTING` transition leaves the contracts alone. -/
theorem executingGate_spec {policy : ExecutionSecurityPolicy}
    {post : Except Error Unit → World → Prop}
    (h : ∀ s' r, Coherent store s' → S.rely s s' → post r s') :
    wp (S.context store) (store.executingGate policy) post s := by
  refine wp_atomic fun s' hs' hrely i _ => ?_
  split
  · exact ⟨hs', .inl (.refl s'), h s' _ hs' hrely⟩
  · -- the tables are at most marked
    have hmarked : ∀ marked anchor, (if store.hasAnchor ∧ policy.participatesInWitness then
        HighWaterMark.beforeExecutingTransition store.toStoreIdentity (anchorOf i) s'.db s'.anchor
        else (.ok s'.db, s'.anchor)) = (marked, anchor) →
        ∀ db, marked = .ok db → db = { s'.db with anchorState := db.anchorState } := by
      intro marked anchor heq db hdb
      subst hdb
      split_ifs at heq
      · exact beforeExecutingTransition_eq heq
      · cases heq
        rfl
    generalize hpair : (if store.hasAnchor ∧ policy.participatesInWitness then
        HighWaterMark.beforeExecutingTransition store.toStoreIdentity (anchorOf i) s'.db s'.anchor
        else (.ok s'.db, s'.anchor)) = pair
    obtain ⟨marked, anchor⟩ := pair
    dsimp only
    have finish : ∀ (s'' : World) (r : Except Error Unit), Quiet s' s'' →
        Coherent store s'' ∧ Advances call s' s'' ∧ post r s'' := fun s'' r hquiet =>
      ⟨hquiet.coherent hs', .inl hquiet,
        h _ _ (hquiet.coherent hs') (S.trans hrely (S.quiet hquiet))⟩
    split
    · exact finish _ _ ⟨rfl, rfl, rfl, rfl, rfl⟩
    · rename_i db hdb
      simp only [bind_eq_ok] at hdb
      obtain ⟨db', hdb', _, -, _, -, hdb⟩ := hdb
      cases hdb
      have := hmarked marked anchor hpair db hdb'
      refine finish _ _ ⟨rfl, ?_, ?_, ?_, ?_⟩ <;> dsimp only <;> rw [this]

/-- A transaction that extends the history by one lawful commit. -/
theorem transact_spec {block : Answers → Database → Except Error (Database × DateTime)}
    {commit : DateTime → Commit} {post : Except Error RecoveryContract → World → Prop}
    (hcall : ∀ t, (commit t).call = call)
    (hblock : ∀ s' i db t, Coherent store s' → S.rely s s' → block i s'.db = .ok (db, t) →
      LawfulCommit (commitsOf s'.trace) (commit t) ∧
        store.Represents db (commitsOf s'.trace ++ [commit t]))
    (hjust : ∀ t, Justified (own call s.trace) (commit t))
    (hok : ∀ s' t, S.Commits store s s' (commit t) →
      post (.ok (commit t).after) s' ∧ (S.Faulty → ∀ e, post (.error e) s'))
    (herr : ∀ s' e, Coherent store s' → S.rely s s' → S.Fails block s' e → post (.error e) s') :
    wp (S.context store) (Store.transact block commit) post s := by
  refine wp_atomic fun s' hs' hrely i => ?_
  split
  · rename_i e he
    exact fun hi => ⟨hs', .inl (.refl s'), herr s' e hs' hrely ⟨i, hi, .inl he⟩⟩
  · split
    · rename_i e he
      exact fun hi => ⟨hs', .inl (.refl s'), herr s' e hs' hrely ⟨i, hi, .inr he⟩⟩
    · intro hpermit
      rename_i db t hdb
      simp only [bind_eq_ok] at hdb
      obtain ⟨⟨db', t'⟩, hdb', _, -, hdb⟩ := hdb
      cases hdb
      obtain ⟨hlawful, hrep⟩ := hblock s' i db t hs' hrely hdb'
      have hown : own (commit t).call s'.trace = own call s.trace := by
        rw [hcall, (S.frame hrely).own]
      have hcoherent : Coherent store
          { s' with db := db, trace := s'.trace ++ [.committed (commit t)] } := by
        refine ⟨.append hs'.lawful (.committed hlawful (hown ▸ hjust t)), ?_⟩
        rw [commitsOf_append]
        exact hrep
      obtain ⟨hpost, hpost'⟩ := hok _ t ⟨⟨s', hrely, hs', rfl⟩, hcoherent, hcall t⟩
      refine ⟨hcoherent, .inr ⟨.committed (commit t), hcall t, rfl⟩, ?_⟩
      dsimp only
      split
      · rename_i e he
        exact hpost' ⟨i, _, _, e, hpermit, he⟩ _
      · exact hpost

/-- `_replace` commits a change of the contract it was given, which then was the latest. -/
theorem replace_spec {current updated : RecoveryContract} {eventType : String}
    {checkedAt : Option DateTime} {post : Except Error RecoveryContract → World → Prop}
    (hrecorded : s.Recorded current) (hupdate : UpdateOf current updated.toContractFields)
    (hchange : ∀ s', Coherent store s' → S.rely s s' →
      s'.latest current.contractId = some current →
      Change (originOf (s'.history current.contractId)) current eventType checkedAt
        updated.toContractFields)
    (hjust : ∀ t, Justified (own call s.trace)
      ⟨call, some current, updated, eventType, t, checkedAt⟩)
    (hok : ∀ s' t, S.Commits store s s' ⟨call, some current, updated, eventType, t, checkedAt⟩ →
      post (.ok updated) s' ∧ (S.Faulty → ∀ e, post (.error e) s'))
    (herr : ∀ s' e, Coherent store s' → S.rely s s' →
      S.Fails (store.replaceBlock current updated eventType) s' e → post (.error e) s') :
    wp (S.context store) (store.replace call current updated eventType checkedAt) post s := by
  refine transact_spec (fun _ => rfl) ?_ hjust hok herr
  intro s' i db t hs' hrely hblock
  obtain ⟨hlatest, hrep⟩ := Store.replaceBlock_ok hs'.commits hs'.represents
    ((S.frame hrely).recorded hrecorded) hupdate hblock call checkedAt
  exact ⟨.change hlatest (hchange s' hs' hrely hlatest), hrep⟩

/-- The call has not handed on a request. -/
def Unsent (call : ℕ) (s : World) : Prop :=
  ∀ direction contractId exchange, .handed call direction contractId exchange ∉ own call s.trace

theorem Unsent.justified {k : Commit} (h : Unsent call s) (hcall : k.call = call) :
    Justified (own call s.trace) k := by
  intro direction contractId exchange hmem
  rw [hcall] at hmem
  exact absurd hmem (h direction contractId exchange)

theorem Unsent.of_rely {s' : World} (h : Unsent call s) (hrely : S.rely s s') :
    Unsent call s' := by
  unfold Unsent
  rw [(S.frame hrely).own]
  exact h

theorem Unsent.of_commits {s' : World} {k : Commit} (h : Unsent call s)
    (hcommits : S.Commits store s s' k) : Unsent call s' := by
  obtain ⟨⟨s₁, h₁, -, htrace⟩, -, hcall⟩ := hcommits
  intro direction contractId exchange hmem
  rw [htrace, own_append, List.mem_append] at hmem
  rcases hmem with hmem | hmem
  · exact h.of_rely h₁ direction contractId exchange hmem
  · cases List.mem_singleton.mp (List.mem_of_mem_filter hmem)

/-- `create` commits a new contract. -/
theorem create_spec {contract : RecoveryContract} {post : Except Error Unit → World → Prop}
    (hok : ∀ s' k, S.Commits store s s' k → k.before = none → k.after = contract →
      ∀ r, post r s')
    (herr : ∀ s' e, Coherent store s' → S.rely s s' → post (.error e) s')
    (hunsent : Unsent call s) (hs : Coherent store s) :
    wp (S.context store) (store.create call contract) post s := by
  refine wp_demand (fun e => herr s e hs (S.refl s)) fun hstart => ?_
  obtain ⟨isPreparing, isFirst, unconfirmed⟩ := hstart
  refine (wp_bind _ _ _ _).mpr (now_spec fun s₁ r hs₁ h₁ => ?_)
  cases r with
  | error e => exact herr s₁ e hs₁ h₁
  | ok instant =>
    refine wp_demand (fun e => herr s₁ e hs₁ h₁) fun _ => ?_
    refine (wp_bind _ _ _ _).mpr (transact_spec (fun _ => rfl) ?_ ?_ ?_ ?_)
    · intro s₂ i db t hs₂ _ hblock
      obtain ⟨hfresh, hunblocked, hrep⟩ := Store.createBlock_ok hs₂.commits hs₂.represents
        isPreparing hblock call (some instant)
      exact ⟨.creation isPreparing isFirst unconfirmed hfresh hunblocked, hrep⟩
    · exact fun t => (hunsent.of_rely h₁).justified rfl
    · intro s' t hcommits
      obtain ⟨⟨s₂, h₂, hs₂, htrace⟩, hcoherent, hcall⟩ := hcommits
      have hcommits := hok s' _ ⟨⟨s₂, S.trans h₁ h₂, hs₂, htrace⟩, hcoherent, hcall⟩ rfl rfl
      exact ⟨hcommits _, fun _ e => hcommits _⟩
    · exact fun s₂ e hs₂ h₂ _ => herr s₂ e hs₂ (S.trans h₁ h₂)

/-- The commit moves a contract from an expected state and version to a target state. -/
def Moves (contractId : String) (expectedState : RecoveryState) (expectedVersion : ℤ)
    (targetState : RecoveryState) (k : Commit) : Prop :=
  (∃ c, k.before = some c ∧ c.contractId = contractId ∧ c.state = expectedState ∧
    c.stateVersion = expectedVersion) ∧
  k.after.contractId = contractId ∧ k.after.state = targetState

theorem Setting.Commits.of_rely {s₁ s' : World} {k : Commit} (h : S.Commits store s₁ s' k)
    (hrely : S.rely s s₁) : S.Commits store s s' k := by
  obtain ⟨⟨s₂, h₂, hs₂, htrace⟩, hcoherent, hcall⟩ := h
  exact ⟨⟨s₂, S.trans hrely h₂, hs₂, htrace⟩, hcoherent, hcall⟩

/-- What was committed is the latest. -/
theorem Setting.Commits.latest {s' : World} {k : Commit} (h : S.Commits store s s' k) :
    s'.latest k.after.contractId = some k.after := by
  obtain ⟨⟨s₁, -, -, htrace⟩, -, -⟩ := h
  rw [World.latest, htrace, commitsOf_append]
  exact View.latest_append_self (V := commitView) _ _

/-- What `transition` checks before `EXECUTING`, it has checked when it goes on. -/
theorem enterExecuting_spec {current : RecoveryContract} {targetState : RecoveryState}
    {instant : DateTime} {policy : Option ExecutionSecurityPolicy}
    {post : Except Error Unit → World → Prop}
    (herr : ∀ s' e, Coherent store s' → S.rely s s' → post (.error e) s')
    (hok : ∀ s', Coherent store s' → S.rely s s' →
      (targetState = executing → current.isConfirmed = true ∧ current.isExpired instant = false) →
      post (.ok ()) s') (hs : Coherent store s) :
    wp (S.context store) (store.enterExecuting current targetState instant policy) post s := by
  unfold Store.enterExecuting
  split
  · refine wp_demand (fun e => herr s e hs (S.refl s)) fun hguard => ?_
    cases policy with
    | none => exact herr s _ hs (S.refl s)
    | some policy =>
      dsimp only
      split
      · refine executingGate_spec fun s₁ r hs₁ h₁ => ?_
        cases r with
        | error e => exact herr s₁ e hs₁ h₁
        | ok _ => exact hok s₁ hs₁ h₁ fun _ => hguard
      · exact hok s hs (S.refl s) fun _ => hguard
  · rename_i hne
    exact hok s hs (S.refl s) fun h => absurd h hne

/-- The tail of an operation that builds the updated contract and replaces the loaded one, where
its guards allow the change whatever the origin. -/
theorem construct_spec {s₁ : World} {current : RecoveryContract} {fields : ContractFields}
    {eventType : String} {checkedAt : Option DateTime}
    {post : Except Error RecoveryContract → World → Prop} (h₁ : S.rely s s₁)
    (hs₁ : Coherent store s₁) (hrecorded : s₁.Recorded current)
    (hchange : ∀ origin, Change origin current eventType checkedAt fields)
    (hjust : ∀ k : Commit, k.call = call → k.before = some current →
      k.after.toContractFields = fields → Justified (own call s.trace) k)
    (hok : ∀ s' k, S.Commits store s s' k → k.before = some current →
      k.after.toContractFields = fields → post (.ok k.after) s' ∧ (S.Faulty → ∀ e, post (.error e) s'))
    (herr : ∀ s' e, Coherent store s' → S.rely s s' → post (.error e) s') :
    wp (S.context store) (do
      let updated ← Op.check (RecoveryContract.ofFields fields)
      store.replace call current updated eventType checkedAt) post s₁ := by
  refine wp_check (fun e _ => herr s₁ e hs₁ h₁) fun updated hupdated => ?_
  have hfields := RecoveryContract.ofFields_eq_ok.mp hupdated
  refine replace_spec hrecorded (hfields ▸ (hchange none).updateOf)
    (fun s' _ _ _ => hfields ▸ hchange _) ?_ ?_ ?_
  · intro t
    rw [(S.frame h₁).own]
    exact hjust ⟨_, _, _, _, _, _⟩ rfl rfl hfields
  · exact fun s' t hcommits => hok s' _ (hcommits.of_rely h₁) rfl hfields
  · exact fun s' e hs' hrely _ => herr s' e hs' (S.trans h₁ hrely)

/-- `transition` commits a listed transition of a contract in the expected state and version. -/
theorem transition_spec {contractId : String} {expectedState : RecoveryState}
    {expectedVersion : ℤ} {targetState : RecoveryState}
    {executionPolicy : Option ExecutionSecurityPolicy} {eventType : String}
    {post : Except Error RecoveryContract → World → Prop}
    (hjust : ∀ k : Commit, k.call = call →
      Moves contractId expectedState expectedVersion targetState k →
      Justified (own call s.trace) k)
    (hok : ∀ s' k, S.Commits store s s' k →
      Moves contractId expectedState expectedVersion targetState k →
      post (.ok k.after) s' ∧ (S.Faulty → ∀ e, post (.error e) s'))
    (herr : ∀ s' e, Coherent store s' → S.rely s s' → post (.error e) s')
    (hs : Coherent store s) :
    wp (S.context store) (store.transition call contractId expectedState expectedVersion
      targetState executionPolicy eventType) post s := by
  have here := fun e => herr s e hs (S.refl s)
  refine wp_demand here fun named => ?_
  refine wp_check (fun e _ => here e) fun _ legal => ?_
  refine wp_demand here fun ne_verified => ?_
  refine wp_demand here fun ne_rolledBack => ?_
  refine (wp_bind _ _ _ _).mpr (load_spec herr ?_)
  intro s₁ current hs₁ h₁ hrecorded hid
  refine wp_demand (fun e => herr s₁ e hs₁ h₁) fun hexpected => ?_
  obtain ⟨hstate, hversion⟩ := hexpected
  refine (wp_bind _ _ _ _).mpr (now_spec fun s₂ r hs₂ h₂ => ?_)
  cases r with
  | error e => exact herr s₂ e hs₂ (S.trans h₁ h₂)
  | ok instant =>
    have hrecorded := (S.frame h₂).recorded hrecorded
    have h₂ := S.trans h₁ h₂
    refine wp_demand (fun e => herr s₂ e hs₂ h₂) fun unexpired => ?_
    refine (wp_bind _ _ _ _).mpr (enterExecuting_spec ?_ ?_ hs₂)
    · exact fun s₃ e hs₃ h₃ => herr s₃ e hs₃ (S.trans h₂ h₃)
    intro s₃ hs₃ h₃ hconfirmed
    have hrecorded := (S.frame h₃).recorded hrecorded
    have h₃ := S.trans h₂ h₃
    have hmoves : ∀ k : Commit, k.before = some current →
        k.after.toContractFields = Store.moved current targetState →
        Moves contractId expectedState expectedVersion targetState k :=
      fun k hbefore hfields => ⟨⟨current, hbefore, hid, hstate, hversion⟩,
        by rw [hfields]; exact hid, by rw [hfields]; rfl⟩
    refine construct_spec h₃ hs₃ hrecorded ?_ ?_ ?_ herr
    · exact fun origin =>
        .transition (hstate ▸ legal) ne_verified ne_rolledBack unexpired hconfirmed named
    · exact fun k hcall hbefore hfields => hjust k hcall (hmoves k hbefore hfields)
    · exact fun s' k hcommits hbefore hfields => hok s' k hcommits (hmoves k hbefore hfields)

theorem expirePrepared_spec {contractId : String} {expectedVersion : ℤ} {now : Option DateTime}
    {post : Except Error RecoveryContract → World → Prop}
    (hok : ∀ s' k, S.Commits store s s' k → ∀ r, post r s')
    (herr : ∀ s' e, Coherent store s' → S.rely s s' → post (.error e) s')
    (hunsent : Unsent call s) :
    wp (S.context store) (store.expirePrepared call contractId expectedVersion now) post s := by
  refine (wp_bind _ _ _ _).mpr (load_spec herr ?_)
  intro s₁ current hs₁ h₁ _ _
  have here := fun e => herr s₁ e hs₁ h₁
  refine wp_demand here fun _ => ?_
  refine wp_demand here fun _ => ?_
  refine wp_check (fun e _ => here e) fun instant _ => ?_
  refine wp_demand here fun _ => ?_
  refine wp_demand here fun _ => ?_
  refine transition_spec ?_ ?_ ?_ hs₁
  · exact fun k hcall _ => (hunsent.of_rely h₁).justified hcall
  · intro s' k hcommits _
    have := hok s' k (hcommits.of_rely h₁)
    exact ⟨this _, fun _ e => this _⟩
  · exact fun s' e hs' hrely => herr s' e hs' (S.trans h₁ hrely)

theorem verify_spec {configured : Bool} {missing failing refused : String}
    {post : Except Error Unit → World → Prop}
    (h : ∀ s' r, Coherent store s' → S.rely s s' → post r s') (hs : Coherent store s) :
    wp (S.context store) (Store.verify configured missing failing refused) post s := by
  refine wp_demand (fun e => h s _ hs (S.refl s)) fun _ => ?_
  exact wp_consult fun s' hs' hrely i => h s' _ hs' hrely

/-- The outcome of `with_confirmation`. -/
theorem withConfirmation_ok {current updated : RecoveryContract} {authorityId digest : String}
    {instant : DateTime}
    (h : current.withConfirmation authorityId digest instant = .ok updated) :
    current.state = prepared ∧ current.isConfirmed = false ∧
      ∃ d, updated.toContractFields = confirmed current d instant := by
  simp only [RecoveryContract.withConfirmation, bind_eq_ok, demand_eq_ok] at h
  obtain ⟨_, ⟨hstate, hunconfirmed⟩, _, -, _, -, d, -, h⟩ := h
  exact ⟨hstate, hunconfirmed, d, RecoveryContract.ofFields_eq_ok.mp h⟩

/-- `confirm` commits a confirmation. -/
theorem confirm_spec {contractId : String} {evidence : ConfirmationEvidence}
    {expectedVersion : ℤ} {post : Except Error RecoveryContract → World → Prop}
    (hok : ∀ s' k, S.Commits store s s' k → ∀ r, post r s')
    (herr : ∀ s' e, Coherent store s' → S.rely s s' → post (.error e) s')
    (hunsent : Unsent call s) :
    wp (S.context store) (store.confirm call contractId evidence expectedVersion) post s := by
  refine (wp_bind _ _ _ _).mpr (load_spec herr ?_)
  intro s₁ current hs₁ h₁ hrecorded _
  refine wp_demand (fun e => herr s₁ e hs₁ h₁) fun _ => ?_
  refine (wp_bind _ _ _ _).mpr (now_spec fun s₂ r hs₂ h₂ => ?_)
  cases r with
  | error e => exact herr s₂ e hs₂ (S.trans h₁ h₂)
  | ok instant =>
    have hrecorded := (S.frame h₂).recorded hrecorded
    have h₂ := S.trans h₁ h₂
    refine wp_demand (fun e => herr s₂ e hs₂ h₂) fun unexpired => ?_
    refine wp_check (fun e _ => herr s₂ e hs₂ h₂) fun _ _ => ?_
    refine (wp_bind _ _ _ _).mpr (verify_spec (fun s₃ r hs₃ h₃ => ?_) hs₂)
    have hrecorded := (S.frame h₃).recorded hrecorded
    have h₃ := S.trans h₂ h₃
    cases r with
    | error e => exact herr s₃ e hs₃ h₃
    | ok _ =>
      refine wp_check (fun e _ => herr s₃ e hs₃ h₃) fun digest _ => ?_
      refine wp_check (fun e _ => herr s₃ e hs₃ h₃) fun updated hupdated => ?_
      obtain ⟨hstate, hunconfirmed, d, hfields⟩ := withConfirmation_ok hupdated
      have hchange : ∀ origin, Change origin current "contract_confirmed" (some instant)
          updated.toContractFields := by
        intro origin
        rw [hfields]
        exact .confirmation hstate hunconfirmed unexpired
      refine replace_spec hrecorded (hchange none).updateOf (fun s' _ _ _ => hchange _) ?_ ?_ ?_
      · exact fun t => (hunsent.of_rely h₃).justified rfl
      · intro s' t hcommits
        have := hok s' _ (hcommits.of_rely h₃)
        exact ⟨this _, fun _ e => this _⟩
      · exact fun s' e hs' hrely _ => herr s' e hs' (S.trans h₃ hrely)

/-- If a contract that was recorded is still the latest, its history has not changed since. -/
theorem history_eq_of_latest {s s' : World} (hs' : Coherent store s') (h : Extends call s s')
    {c : RecoveryContract} (hrecorded : s.Recorded c) (hlatest : s'.latest c.contractId = some c) :
    s'.history c.contractId = s.history c.contractId := by
  obtain ⟨events, htrace, -⟩ := h
  obtain ⟨k, hk, rfl⟩ := hrecorded
  have hcommits : commitsOf s'.trace = commitsOf s.trace ++ commitsOf events := by
    rw [htrace, commitsOf_append]
  have hnil := historyOf_eq_nil_of_latest hs'.commits hcommits hk hlatest
  rw [World.history, hcommits, historyOf, View.history_append, ← historyOf, ← historyOf, hnil,
    List.append_nil, World.history]

/-- The `previous_state` of the last audit event is the origin of the history. -/
theorem origin_events (store : Store) (history : List Commit) :
    ((history.map fun k => (store.auditRowOf k).event).getLast?.bind AuditEvent.previousState) =
      (originOf history).map fun state => .text state.value := by
  rw [List.getLast?_map, originOf]
  cases history.getLast? with
  | none => rfl
  | some k => cases hb : k.before <;> simp [hb, Store.auditRowOf, Store.auditRow, AuditRow.event]

omit [Platform] in
theorem text_value_inj {origin : Option RecoveryState} {state : RecoveryState} :
    origin.map (fun state => TextCell.text state.value) = some (.text state.value) ↔
      origin = some state := by
  cases origin with
  | none => simp
  | some o => simp [RecoveryState.value_inj]

/-- `resolve_reconciliation` commits a resolution whose outcome fits the origin of the
uncertainty. -/
theorem resolveReconciliation_spec {contractId : String} {evidence : ReconciliationEvidence}
    {post : Except Error RecoveryContract → World → Prop}
    (hok : ∀ s' k, S.Commits store s s' k → ∀ r, post r s')
    (herr : ∀ s' e, Coherent store s' → S.rely s s' → post (.error e) s')
    (hunsent : Unsent call s) :
    wp (S.context store) (store.resolveReconciliation call contractId evidence) post s := by
  refine (wp_bind _ _ _ _).mpr (load_spec herr ?_)
  intro s₁ current hs₁ h₁ hrecorded hid
  refine wp_demand (fun e => herr s₁ e hs₁ h₁) fun isReconciliation => ?_
  refine (wp_bind _ _ _ _).mpr (auditEvents_spec ?_ ?_)
  · exact fun s₂ e hs₂ h₂ => herr s₂ e hs₂ (S.trans h₁ h₂)
  intro s₂ events hs₂ h₂ hevents
  have hrecorded := (S.frame h₂).recorded hrecorded
  have h₂ := S.trans h₁ h₂
  have here := fun e => herr s₂ e hs₂ h₂
  rw [andThen_ok]
  dsimp only
  rw [hevents, origin_events]
  refine wp_demand here fun hboundary => ?_
  refine wp_demand here fun horigin => ?_
  simp only [text_value_inj] at hboundary horigin
  refine wp_check (fun e _ => here e) fun _ _ => ?_
  refine (wp_bind _ _ _ _).mpr (verify_spec (fun s₃ r hs₃ h₃ => ?_) hs₂)
  cases r with
  | error e => exact herr s₃ e hs₃ (S.trans h₂ h₃)
  | ok _ =>
    have here := fun e => herr s₃ e hs₃ (S.trans h₂ h₃)
    refine wp_check (fun e _ => here e) fun _ _ => ?_
    refine wp_check (fun e _ => here e) fun updated hupdated => ?_
    have hfields := RecoveryContract.ofFields_eq_ok.mp hupdated
    have hchange : ∀ history, history = s₂.history contractId →
        Change (originOf history) current "reconciliation_resolved" none
          updated.toContractFields := by
      rintro history rfl
      rw [hfields]
      refine .resolution isReconciliation ?_
      rcases horigin with horigin | horigin
      · exact .inl ⟨horigin, hboundary.1 horigin⟩
      · exact .inr ⟨horigin, hboundary.2 horigin⟩
    refine replace_spec ((S.frame h₃).recorded hrecorded) (hchange _ rfl).updateOf ?_ ?_ ?_ ?_
    · intro s' hs' hrely hlatest
      -- the audit events were read after the contract, and it is still the latest
      have hsame := history_eq_of_latest hs' (S.frame (S.trans h₃ hrely)) hrecorded hlatest
      exact hchange _ (hsame.trans (by rw [hid]))
    · exact fun t => (hunsent.of_rely (S.trans h₂ h₃)).justified rfl
    · intro s' t hcommits
      have := hok s' _ (hcommits.of_rely (S.trans h₂ h₃))
      exact ⟨this _, fun _ e => this _⟩
    · exact fun s' e hs' hrely _ => herr s' e hs' (S.trans (S.trans h₂ h₃) hrely)

/-- `rotate_artifacts` commits a rotation. -/
theorem rotateArtifacts_spec {contractId : String} {expectedVersion : ℤ}
    {targetIdentity intent snapshot : ProtectedArtifact}
    {post : Except Error RecoveryContract → World → Prop}
    (hok : ∀ s' k, S.Commits store s s' k → ∀ r, post r s')
    (herr : ∀ s' e, Coherent store s' → S.rely s s' → post (.error e) s')
    (hunsent : Unsent call s) :
    wp (S.context store) (store.rotateArtifacts call contractId expectedVersion targetIdentity
      intent snapshot) post s := by
  refine (wp_bind _ _ _ _).mpr (load_spec herr ?_)
  intro s₁ current hs₁ h₁ hrecorded _
  refine wp_demand (fun e => herr s₁ e hs₁ h₁) fun _ => ?_
  refine construct_spec h₁ hs₁ hrecorded (fun origin => .rotation) ?_ ?_ herr
  · exact fun k hcall _ _ => hunsent.justified hcall
  · intro s' k hcommits _ _
    exact ⟨hok s' k hcommits _, fun _ e => hok s' k hcommits _⟩

/-- `mark_execution_verified` commits a verification. -/
theorem markExecutionVerified_spec {contractId : String} {expectedVersion : ℤ}
    {fingerprint : String} {locator : ℤ} {post : Except Error RecoveryContract → World → Prop}
    (hjust : ∀ k : Commit, k.call = call → Moves contractId executing expectedVersion verified k →
      Justified (own call s.trace) k)
    (hok : ∀ s' k, S.Commits store s s' k → Moves contractId executing expectedVersion verified k →
      post (.ok k.after) s' ∧ (S.Faulty → ∀ e, post (.error e) s'))
    (herr : ∀ s' e, Coherent store s' → S.rely s s' → post (.error e) s') :
    wp (S.context store) (store.markExecutionVerified call contractId expectedVersion fingerprint
      locator) post s := by
  refine (wp_bind _ _ _ _).mpr (load_spec herr ?_)
  intro s₁ current hs₁ h₁ hrecorded hid
  refine wp_demand (fun e => herr s₁ e hs₁ h₁) fun hexpected => ?_
  refine wp_demand (fun e => herr s₁ e hs₁ h₁) fun _ => ?_
  have hmoves : ∀ k : Commit, k.before = some current → k.after.toContractFields = Store.sealed current fingerprint →
      Moves contractId executing expectedVersion verified k :=
    fun k hbefore hfields => ⟨⟨current, hbefore, hid, hexpected.1, hexpected.2⟩,
      by rw [hfields]; exact hid, by rw [hfields]; rfl⟩
  refine construct_spec h₁ hs₁ hrecorded (fun origin => .verification hexpected.1)
    ?_ ?_ herr
  · exact fun k hcall hbefore hfields => hjust k hcall (hmoves k hbefore hfields)
  · exact fun s' k hcommits hbefore hfields => hok s' k hcommits (hmoves k hbefore hfields)

/-- `mark_rollback_verified` commits the end of a rollback. -/
theorem markRollbackVerified_spec {contractId : String} {expectedVersion : ℤ} {locator : ℤ}
    {post : Except Error RecoveryContract → World → Prop}
    (hjust : ∀ k : Commit, k.call = call → Moves contractId rollingBack expectedVersion rolledBack k →
      Justified (own call s.trace) k)
    (hok : ∀ s' k, S.Commits store s s' k → Moves contractId rollingBack expectedVersion rolledBack k →
      post (.ok k.after) s' ∧ (S.Faulty → ∀ e, post (.error e) s'))
    (herr : ∀ s' e, Coherent store s' → S.rely s s' → post (.error e) s') :
    wp (S.context store) (store.markRollbackVerified call contractId expectedVersion locator)
      post s := by
  refine (wp_bind _ _ _ _).mpr (load_spec herr ?_)
  intro s₁ current hs₁ h₁ hrecorded hid
  refine wp_demand (fun e => herr s₁ e hs₁ h₁) fun hexpected => ?_
  refine wp_demand (fun e => herr s₁ e hs₁ h₁) fun _ => ?_
  have hmoves : ∀ k : Commit, k.before = some current → k.after.toContractFields = Store.moved current rolledBack →
      Moves contractId rollingBack expectedVersion rolledBack k :=
    fun k hbefore hfields => ⟨⟨current, hbefore, hid, hexpected.1, hexpected.2⟩,
      by rw [hfields]; exact hid, by rw [hfields]; rfl⟩
  refine construct_spec h₁ hs₁ hrecorded (fun origin => .rollbackVerification hexpected.1)
    ?_ ?_ herr
  · exact fun k hcall hbefore hfields => hjust k hcall (hmoves k hbefore hfields)
  · exact fun s' k hcommits hbefore hfields => hok s' k hcommits (hmoves k hbefore hfields)

end Changing

/-! ### Operations of several steps -/

section Loops

variable {store : Store} {call : ℕ} {S : Setting call} {s : World}

theorem reconcileEach_spec {contracts : List RecoveryContract}
    {post : Except Error (List RecoveryContract) → World → Prop}
    (h : ∀ s' r, Coherent store s' → post r s') (hunsent : Unsent call s)
    (hs : Coherent store s) :
    wp (S.context store) (store.reconcileEach call contracts) post s := by
  induction contracts generalizing s post with
  | nil => exact h s _ hs
  | cons c contracts ih =>
    refine (wp_bind _ _ _ _).mpr (transition_spec ?_ ?_ (fun s' e hs' _ => h s' _ hs') hs)
    · exact fun k hcall _ => hunsent.justified hcall
    · refine fun s₁ k hcommits _ => ⟨?_, fun _ e => h s₁ _ hcommits.coherent⟩
      refine (wp_bind _ _ _ _).mpr
        (ih (fun s₂ r hs₂ => ?_) (hunsent.of_commits hcommits) hcommits.coherent)
      cases r <;> exact h s₂ _ hs₂

theorem reconcileInterrupted_spec {post : Except Error (List RecoveryContract) → World → Prop}
    (h : ∀ s' r, Coherent store s' → post r s') (hunsent : Unsent call s) :
    wp (S.context store) (store.reconcileInterrupted call) post s := by
  refine (wp_bind _ _ _ _).mpr ((wp_bind _ _ _ _).mpr
    (allContracts_spec (fun s₁ e hs₁ _ => h s₁ _ hs₁) ?_))
  intro s₁ contracts hs₁ h₁ _
  exact reconcileEach_spec h (hunsent.of_rely h₁) hs₁

theorem rotateEach_spec {newKeyId : String}
    {reencrypt : ℕ → RecoveryContract →
      Except Error (ProtectedArtifact × ProtectedArtifact × ProtectedArtifact)}
    {n : ℕ} {contracts : List RecoveryContract} {post : Except Error Unit → World → Prop}
    (h : ∀ s' r, Coherent store s' → post r s') (hunsent : Unsent call s)
    (hs : Coherent store s) :
    wp (S.context store) (store.rotateEach call newKeyId reencrypt n contracts) post s := by
  induction contracts generalizing s n with
  | nil => exact h s _ hs
  | cons c contracts ih =>
    unfold Store.rotateEach
    split
    · exact ih hunsent hs
    · refine wp_check (fun e _ => h s _ hs) fun artifacts _ => ?_
      refine (wp_bind _ _ _ _).mpr
        (rotateArtifacts_spec ?_ (fun s' e hs' _ => h s' _ hs') hunsent)
      intro s₁ k hcommits r
      cases r with
      | error e => exact h s₁ _ hcommits.coherent
      | ok _ => exact ih (hunsent.of_commits hcommits) hcommits.coherent

theorem rotateKey_spec {newKeyId : String}
    {reencrypt : ℕ → RecoveryContract →
      Except Error (ProtectedArtifact × ProtectedArtifact × ProtectedArtifact)}
    {post : Except Error Unit → World → Prop} (h : ∀ s' r, Coherent store s' → post r s')
    (hunsent : Unsent call s) :
    wp (S.context store) (store.rotateKey call newKeyId reencrypt) post s := by
  refine (wp_bind _ _ _ _).mpr (allContracts_spec (fun s₁ e hs₁ _ => h s₁ _ hs₁) ?_)
  intro s₁ contracts hs₁ h₁ _
  exact rotateEach_spec h (hunsent.of_rely h₁) hs₁

theorem findByIdempotencyKey_spec {idempotencyKey : String}
    {post : Except Error (Option RecoveryContract) → World → Prop}
    (h : ∀ s' r, Coherent store s' → S.rely s s' → post r s') :
    wp (S.context store) (store.findByIdempotencyKey idempotencyKey) post s := by
  refine (wp_bind _ _ _ _).mpr (wp_query (fun s₁ e hs₁ h₁ => h s₁ _ hs₁ h₁) ?_)
  intro s₁ row hs₁ h₁ _
  cases row with
  | none => exact h s₁ _ hs₁ h₁
  | some row =>
    refine wp_check (fun e _ => h s₁ _ hs₁ h₁) fun c _ => ?_
    refine wp_demand (fun e => h s₁ _ hs₁ h₁) fun _ => ?_
    refine wp_demand (fun e => h s₁ _ hs₁ h₁) fun _ => ?_
    refine (wp_bind _ _ _ _).mpr (verifyRelatedState_spec fun s₂ r hs₂ h₂ => ?_)
    cases r <;> exact h s₂ _ hs₂ (S.trans h₁ h₂)

theorem verifyHistorical_spec {idempotencyKey : String} {rows : List ContractRow}
    {post : Except Error (List RecoveryContract) → World → Prop}
    (h : ∀ s' r, Coherent store s' → S.rely s s' → post r s') (hs : Coherent store s) :
    wp (S.context store) (store.verifyHistorical idempotencyKey rows) post s := by
  induction rows generalizing s post with
  | nil => exact h s _ hs (S.refl s)
  | cons row rows ih =>
    refine wp_check (fun e _ => h s _ hs (S.refl s)) fun c _ => ?_
    refine wp_demand (fun e => h s _ hs (S.refl s)) fun _ => ?_
    refine (wp_bind _ _ _ _).mpr (verifyRelatedState_spec fun s₁ r hs₁ h₁ => ?_)
    cases r with
    | error e => exact h s₁ _ hs₁ h₁
    | ok _ =>
      refine (wp_bind _ _ _ _).mpr (ih (fun s₂ r hs₂ h₂ => ?_) hs₁)
      cases r <;> exact h s₂ _ hs₂ (S.trans h₁ h₂)

theorem findHistoricalByIdempotencyKey_spec {idempotencyKey : String}
    {post : Except Error (List RecoveryContract) → World → Prop}
    (h : ∀ s' r, Coherent store s' → S.rely s s' → post r s') :
    wp (S.context store) (store.findHistoricalByIdempotencyKey idempotencyKey) post s := by
  refine (wp_bind _ _ _ _).mpr (wp_query (fun s₁ e hs₁ h₁ => h s₁ _ hs₁ h₁) ?_)
  intro s₁ rows hs₁ h₁ _
  exact verifyHistorical_spec (fun s₂ r hs₂ h₂ => h s₂ r hs₂ (S.trans h₁ h₂)) hs₁

omit [Platform] in
theorem insertAnchor_eq {db db' : Database} {row : AnchorRow}
    (h : db.insertAnchor row = .ok db') : db' = { db with anchorState := db'.anchorState } := by
  unfold Database.insertAnchor Database.constraintFailed fail at h
  split_ifs at h
  cases h
  rfl

theorem insertSeed_eq {identity : StoreIdentity} {value : ℕ} {db db' : Database}
    (h : HighWaterMark.insertSeed identity value db = .ok db') :
    db' = { db with anchorState := db'.anchorState } := by
  simp only [HighWaterMark.insertSeed, bind_eq_ok] at h
  obtain ⟨row, -, h⟩ := h
  split at h
  · rename_i db'' hdb
    cases h
    exact insertAnchor_eq hdb
  · cases h

theorem insertMarker_eq {identity : StoreIdentity} {handle : String} {value : ℕ}
    {provisionedAt : DateTime} {db db' : Database}
    (h : ProvisioningRecord.insertMarker identity handle value provisionedAt db = .ok db') :
    db' = { db with anchorState := db'.anchorState } := by
  simp only [ProvisioningRecord.insertMarker, bind_eq_ok] at h
  obtain ⟨_, -, _, -, h⟩ := h
  split at h
  · rename_i db'' hdb
    cases h
    exact insertAnchor_eq hdb
  · cases h

/-- A query whose result is only checked. -/
theorem wp_query_any {α β : Type} {f : Database → Except Error α} {k : α → Op β}
    {post : Except Error β → World → Prop} (h : ∀ s' e, Coherent store s' → post (.error e) s')
    (hk : ∀ s' a, Coherent store s' → wp (S.context store) (k a) post s') :
    wp (S.context store) (Op.query f >>= k) post s :=
  (wp_bind _ _ _ _).mpr (wp_query (fun s' e hs' _ => h s' e hs') fun s' a hs' _ _ => hk s' a hs')

theorem provisionAnchorBaseline_spec {value : ℤ} {handle : String}
    {post : Except Error Unit → World → Prop} (h : ∀ s' r, Coherent store s' → post r s')
    (hs : Coherent store s) :
    wp (S.context store) (store.provisionAnchorBaseline value handle) post s := by
  have herr : ∀ s' e, Coherent store s' → post (.error e) s' := fun s' e hs' => h s' _ hs'
  refine wp_demand (fun e => h s _ hs) fun _ => ?_
  refine (wp_bind _ _ _ _).mpr (now_spec fun s₁ r hs₁ _ => ?_)
  cases r with
  | error e => exact h s₁ _ hs₁
  | ok provisionedAt =>
    rw [andThen_ok]
    refine wp_demand (fun e => h s₁ _ hs₁) fun _ => ?_
    refine wp_query_any herr fun s₂ seeded hs₂ => ?_
    refine wp_demand (fun e => h s₂ _ hs₂) fun _ => ?_
    refine (wp_bind _ _ _ _).mpr
      (wp_execute (fun _ _ => insertSeed_eq) fun s₃ r hs₃ _ => ?_)
    cases r with
    | error e => exact h s₃ _ hs₃
    | ok _ =>
      rw [andThen_ok]
      refine wp_query_any herr fun s₄ _ hs₄ => ?_
      refine wp_demand (fun e => h s₄ _ hs₄) fun _ => ?_
      refine wp_query_any herr fun s₅ _ hs₅ => ?_
      refine wp_demand (fun e => h s₅ _ hs₅) fun _ => ?_
      refine wp_query_any herr fun s₆ _ hs₆ => ?_
      refine wp_demand (fun e => h s₆ _ hs₆) fun _ => ?_
      refine wp_query_any herr fun s₇ _ hs₇ => ?_
      refine wp_demand (fun e => h s₇ _ hs₇) fun _ => ?_
      exact wp_execute (fun _ _ => insertMarker_eq) fun s₈ r hs₈ _ => h s₈ r hs₈

end Loops

end Tier1
