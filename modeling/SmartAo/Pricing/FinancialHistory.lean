import SmartAo.Pricing.FinancialRuns

namespace SmartAo.Pricing

open SmartAo.Foundation SmartAo.Platform SmartAo.Case

abbrev ReportInput := HolderInput ReportWrite FinancialTransaction

/-- The sessions a list of inputs leads to from the empty store. -/
def reportsAfter (inputs : List ReportInput) : ReportSessions := run interleaveReports ⟨.empty, []⟩ inputs

theorem reportsAfter_concat (inputs : List ReportInput) (input : ReportInput) :
    reportsAfter (inputs ++ [input]) = commit interleaveReports (reportsAfter inputs) input := by
  rw [reportsAfter, run_append]
  rfl

/-- The input ends a selected transaction, which commits. -/
def committing (select : FinancialTransaction → Bool) (state : ReportSessions) (input : ReportInput) : Bool :=
  match input with
  | .finish index =>
    state.active[index]?.any (fun locker => select locker.command) && (interleaveReports state input).isOk
  | _ => false

def writesTo (snapshotId : Uuid) (entry : FinancialTransaction) : Bool := entry.target = some snapshotId

def commitsBatch (batchId : Uuid) (entry : FinancialTransaction) : Bool := entry.batch = some batchId

def PricingStore.revisionOf (store : PricingStore) (id : Uuid) : Nat :=
  ((store.snapshots.find? fun row => row.id = id).map (·.aggregateRevision)).getD 0

def PricingStore.commitsOf (store : PricingStore) (batchId : Uuid) : Nat :=
  (store.importTransitions.rows.filter fun row => row.batchId = batchId).length

variable {store next : PricingStore} {snapshot : FinancialReportSnapshotRecord} {target : Option Uuid}

theorem revisionOf_mem (member : snapshot ∈ store.snapshots) : store.revisionOf snapshot.id = snapshot.aggregateRevision := by
  have key {first second : FinancialReportSnapshotRecord} (one : decide (first.id = snapshot.id) = true)
      (other : decide (second.id = snapshot.id) = true) : Schema.Conflict first second :=
    .inl ((of_decide_eq_true one).trans (of_decide_eq_true other).symm)
  have found := (Table.find?_eq_some key).mpr ⟨member, decide_eq_true rfl⟩
  rw [PricingStore.revisionOf, found]
  rfl

theorem revisionOf_absent {id : Uuid} (absent : ∀ stored ∈ store.snapshots, stored.id ≠ id) : store.revisionOf id = 0 := by
  have missing : (store.snapshots.find? fun row => row.id = id) = none :=
    Table.find?_none.mpr fun row member => decide_eq_false (absent row member)
  rw [PricingStore.revisionOf, missing]
  rfl

/-- A write raises the revision of its target by one. -/
theorem Move.revisionOf (move : Move store next target) (id : Uuid) :
    next.revisionOf id = store.revisionOf id + if target = some id then 1 else 0 := by
  by_cases its : target = some id
  · obtain ⟨old, stored, new, present, rfl, same, revision⟩ := move.written id its
    have after := revisionOf_mem present
    rw [same] at after
    rw [if_pos its, after, revision, revisionOf_mem stored]
  · rw [if_neg its, Nat.add_zero]
    by_cases present : ∃ old ∈ store.snapshots, old.id = id
    · obtain ⟨old, stored, rfl⟩ := present
      rw [revisionOf_mem stored, revisionOf_mem (move.stays old stored its)]
    · have absent : ∀ old ∈ store.snapshots, old.id ≠ id := fun old stored same => present ⟨old, stored, same⟩
      rw [revisionOf_absent absent]
      by_cases added : ∃ new ∈ next.snapshots, new.id = id
      · obtain ⟨new, member, rfl⟩ := added
        rw [revisionOf_mem member, move.fresh new member absent]
      · exact revisionOf_absent fun new member same => added ⟨new, member, same⟩

theorem Ended.commitsOf {store next : ReportStore} {batch : Option Uuid} (ended : Ended store next target batch)
    (batchId : Uuid) :
    next.pricing.commitsOf batchId = store.pricing.commitsOf batchId + if batch = some batchId then 1 else 0 := by
  obtain ⟨added, appended, batches⟩ := ended.transitions
  have counted : (added.filter fun row => row.batchId = batchId).length = if batch = some batchId then 1 else 0 := by
    have mapped : added.countP (fun row => row.batchId = batchId) =
        (added.map (·.batchId)).countP fun id => id = batchId := by
      rw [List.countP_map]
      rfl
    rw [← List.countP_eq_length_filter, mapped, batches]
    cases batch with
    | none => simp
    | some id => by_cases same : id = batchId <;> simp [same]
  rw [PricingStore.commitsOf, appended, List.filter_append, List.length_append, counted]
  rfl

section Runs

variable {state after : ReportSessions} {input : ReportInput}

theorem committing_accepted {select : FinancialTransaction → Bool} (accepted : interleaveReports state input = .ok after) :
    committing select state input = true ↔ ∃ index locker, input = .finish index ∧ state.active[index]? = some locker ∧
      select locker.command = true := by
  cases input <;> simp [committing, accepted, Except.isOk, Except.toBool, Option.any_eq_true]

theorem committing_refused {select : FinancialTransaction → Bool} {error : CommandError}
    (refused : interleaveReports state input = .error error) : committing select state input = false := by
  cases input <;> simp [committing, refused, Except.isOk, Except.toBool]

/-- What a measure gains at each command that ends is counted along the run. -/
theorem Reporting.counts (reporting : Reporting state) (measure : PricingStore → Nat) (select : FinancialTransaction → Bool)
    (gains : ∀ (store next : ReportStore) target batch, Ended store next target batch → ∀ entry : FinancialTransaction,
      entry.target = target → entry.batch = batch →
        measure next.pricing = measure store.pricing + if select entry then 1 else 0)
    (still : ∀ store next : ReportStore, Ended store next none none → measure next.pricing = measure store.pricing)
    (input : ReportInput) : measure (commit interleaveReports state input).store.pricing =
      measure state.store.pricing + if committing select state input then 1 else 0 := by
  cases accepted : interleaveReports state input with
  | error error => rw [commit_error accepted, committing_refused accepted]; rfl
  | ok after =>
    rw [commit_ok accepted]
    obtain ⟨target, batch, ended, finished, ongoing⟩ := (reporting.step accepted).2
    by_cases ending : ∃ index, input = .finish index
    · obtain ⟨index, is⟩ := ending
      obtain ⟨locker, picked, its, also⟩ := finished index is
      have counted : committing select state input = select locker.command := by
        rw [Bool.eq_iff_iff, committing_accepted accepted]
        constructor
        · rintro ⟨other, second, same, found, chosen⟩
          rw [is, HolderInput.finish.injEq] at same
          rw [← same, picked] at found
          rwa [Option.some.inj found]
        · exact fun chosen => ⟨index, locker, is, picked, chosen⟩
      rw [counted]
      exact gains _ _ target batch ended locker.command its also
    · have never : ∀ index, input ≠ .finish index := fun index is => ending ⟨index, is⟩
      obtain ⟨rfl, rfl⟩ := ongoing never
      have uncounted : committing select state input = false := by
        rw [Bool.eq_false_iff, Ne, committing_accepted accepted]
        rintro ⟨index, _, is, _⟩
        exact never index is
      rw [uncounted]
      exact still _ _ ended

theorem reporting_empty : Reporting ⟨.empty, []⟩ where
  ledger := by
    refine ⟨⟨?_, ?_, ?_⟩, ⟨?_, ?_, ?_⟩⟩
    all_goals exact fun _ member => absurd member Table.not_mem_empty
  locked := Lockers.locked_empty _
  ordered _ member := absurd member List.not_mem_nil

theorem reporting_after (inputs : List ReportInput) : Reporting (reportsAfter inputs) :=
  run_invariant_always (fun _ _ _ reporting accepted => (reporting.step accepted).1) inputs reporting_empty

theorem revision_counts (snapshotId : Uuid) (inputs : List ReportInput) :
    (reportsAfter inputs).store.pricing.revisionOf snapshotId =
      tally interleaveReports (committing (writesTo snapshotId)) ⟨.empty, []⟩ inputs := by
  have counted := run_tally_of (fun state : ReportSessions => state.store.pricing.revisionOf snapshotId)
    (fun _ _ _ reporting accepted => (Reporting.step reporting accepted).1)
    (fun state input reporting => reporting.counts (PricingStore.revisionOf · snapshotId) (writesTo snapshotId)
      (fun store next target batch ended entry its _ => by
        rw [ended.move.revisionOf, ← its]
        simp [writesTo])
      (fun store next ended => by rw [ended.move.revisionOf]; simp) input) reporting_empty inputs
  have zero : ReportStore.empty.pricing.revisionOf snapshotId = 0 := rfl
  rw [zero, Nat.zero_add] at counted
  exact counted

theorem commit_counts (batchId : Uuid) (inputs : List ReportInput) :
    (reportsAfter inputs).store.pricing.commitsOf batchId =
      tally interleaveReports (committing (commitsBatch batchId)) ⟨.empty, []⟩ inputs := by
  have counted := run_tally_of (fun state : ReportSessions => state.store.pricing.commitsOf batchId)
    (fun _ _ _ reporting accepted => (Reporting.step reporting accepted).1)
    (fun state input reporting => reporting.counts (PricingStore.commitsOf · batchId) (commitsBatch batchId)
      (fun store next target batch ended entry _ its => by
        rw [ended.commitsOf, ← its]
        simp [commitsBatch])
      (fun store next ended => by rw [ended.commitsOf]; simp) input) reporting_empty inputs
  have zero : ReportStore.empty.pricing.commitsOf batchId = 0 := rfl
  rw [zero, Nat.zero_add] at counted
  exact counted

/-- Two transitions of one batch would have one version. -/
theorem Imports.commitsOf_le {store : PricingStore} (imports : Imports store) (batchId : Uuid) :
    store.commitsOf batchId ≤ 1 := by
  have apart := store.importTransitions.distinct.sublist (List.filter_sublist (p := fun row => row.batchId = batchId))
  have listed : ∀ row ∈ store.importTransitions.rows.filter fun row => row.batchId = batchId,
      row ∈ store.importTransitions ∧ row.batchId = batchId := fun row member =>
    ⟨(List.mem_filter.mp member).1, of_decide_eq_true (List.mem_filter.mp member).2⟩
  unfold PricingStore.commitsOf
  rcases split : store.importTransitions.rows.filter fun row => row.batchId = batchId with _ | ⟨one, _ | ⟨two, rest⟩⟩
  · rw [split]
    exact Nat.zero_le 1
  · rw [split]
    exact Nat.le_refl 1
  · rw [split] at apart listed
    obtain ⟨first, its⟩ := listed one (by simp)
    obtain ⟨second, also⟩ := listed two (by simp)
    obtain ⟨_, version, batch, stored, named, owner⟩ := imports.committed one first
    obtain ⟨_, same, other, present, called, held⟩ := imports.committed two second
    have equal : batch = other := batch_of_id stored present (by rw [named, its, called, also])
    have tenant : one.tenantId = two.tenantId := by rw [← owner, equal, held]
    have conflict : Schema.Conflict one two :=
      .inr ⟨tenant, .inl (Prod.ext (its.trans also.symm) (version.trans same.symm))⟩
    exact absurd conflict ((List.pairwise_cons.mp apart).1 two (by simp))

/-- An accepted commit in a state a run leads to contributes its batch, whose rows have no errors. -/
theorem Reporting.commits {state after : ReportSessions} (reporting : Reporting state) {index : Nat}
    (accepted : interleaveReports state (.finish index) = .ok after)
    {locker : Locker ReportStore FinancialTransaction (Touched FinancialRow)} (picked : state.active[index]? = some locker)
    {command : CommitPricingImportCommand} {transitionId : Uuid} {lineId : Nat → Uuid}
    (its : locker.command.command = .commit command transitionId lineId) : ∃ batch added,
      Contributes state.store.pricing after.store.pricing command.reportId command.batchId batch added ∧
        ∀ row ∈ after.store.pricing.batchRows batch, row.errorCodes = [] := by
  obtain ⟨other, store, found, done, written, rfl⟩ := Lockers.step_finish accepted
  obtain rfl : other = locker := Option.some.inj (found.symm.trans picked)
  obtain ⟨outcome, written⟩ := map_fst_ok.mp written
  have member := List.mem_of_getElem? picked
  simp only [FinancialTransaction.execute, its] at written
  obtain ⟨batch, snapshot, added, written⟩ := commitImportSession_ok written
  have order := (reporting.ordered.view Stage.refl member (by omega : 0 < 3)).1
  refine ⟨batch, added, (written.contributes (reporting.stages member) reporting.ledger order).1, ?_⟩
  have read := (written.batchRows_read (reporting.stages member) reporting.ledger order).2
  intro row listed
  apply written.clean row
  rw [← read]
  exact listed

theorem growth_after {first inputs : List ReportInput} (before : first <+: inputs) :
    Growth (reportsAfter first).store.pricing (reportsAfter inputs).store.pricing := by
  obtain ⟨rest, rfl⟩ := before
  unfold reportsAfter
  rw [run_append]
  exact run_related (fun old new : ReportSessions => Growth old.store.pricing new.store.pricing) (fun _ => Growth.refl _)
    Growth.trans (fun _ _ _ _ reporting accepted => ((Reporting.step reporting accepted).2.elim
      fun _ ended => ended.elim fun _ ended => ended.1.growth))
    (fun _ _ _ reporting _ accepted => (Reporting.step reporting accepted).1) (reporting_after first) (along_trivial _ rest)

end Runs

/-- What every run of the financial commands keeps: the totals are the sums of the lines, a revision counts the writes,
    a batch is committed once and contributes its rows, and what is published stays. -/
structure FinancialHistory (inputs : List ReportInput) : Prop where
  ledger : Ledger (reportsAfter inputs).store.pricing
  revisions : ∀ snapshot ∈ (reportsAfter inputs).store.pricing.snapshots, snapshot.aggregateRevision =
    tally interleaveReports (committing (writesTo snapshot.id)) ⟨.empty, []⟩ inputs
  once : ∀ batchId, tally interleaveReports (committing (commitsBatch batchId)) ⟨.empty, []⟩ inputs ≤ 1
  contributes : ∀ first index, first ++ [.finish index] <+: inputs →
    ∀ locker, (reportsAfter first).active[index]? = some locker →
    ∀ command transitionId lineId, locker.command.command = .commit command transitionId lineId →
      (interleaveReports (reportsAfter first) (.finish index)).isOk = true →
      ∃ batch added, Contributes (reportsAfter first).store.pricing
        (reportsAfter (first ++ [.finish index])).store.pricing command.reportId command.batchId batch added
  draft : ∀ one ∈ (reportsAfter inputs).store.pricing.snapshots, ∀ two ∈ (reportsAfter inputs).store.pricing.snapshots,
    one.state = .draft → two.state = .draft → one.tenantId = two.tenantId → one.caseId = two.caseId → one = two
  published : ∀ first, first <+: inputs → ∀ snapshot ∈ (reportsAfter first).store.pricing.snapshots,
    snapshot.state = .published → snapshot ∈ (reportsAfter inputs).store.pricing.snapshots ∧
      (reportsAfter inputs).store.pricing.linesOf snapshot.id = (reportsAfter first).store.pricing.linesOf snapshot.id

/-- Whatever the interleaving of the financial commands. -/
theorem financial_history (inputs : List ReportInput) : FinancialHistory inputs where
  ledger := (reporting_after inputs).ledger
  revisions snapshot member := by rw [← revision_counts, revisionOf_mem member]
  once batchId := by
    rw [← commit_counts]
    exact (reporting_after inputs).ledger.imports.commitsOf_le batchId
  contributes first index _ locker picked command transitionId lineId its accepted := by
    have done := commit_of_isOk accepted
    obtain ⟨batch, added, contributes, _⟩ := (reporting_after first).commits done picked its
    rw [reportsAfter_concat]
    exact ⟨batch, added, contributes⟩
  draft one first two second draft also tenant owner := by
    refine Table.eq_of_conflict first second (.inr ⟨?_, draft⟩)
    exact Prod.ext (draft.trans also.symm) (Prod.ext tenant owner)
  published first before snapshot member published := (growth_after before).published snapshot member published

end SmartAo.Pricing
