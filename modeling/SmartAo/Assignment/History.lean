import SmartAo.Assignment.Runs

namespace SmartAo.Assignment

open SmartAo.Foundation SmartAo.Platform SmartAo.Membership

/-- The change events of an assignment, in order of insertion. -/
def changesOf (store : AssignmentStore) (tenantId assignmentId : Uuid) : List CaseAssignmentChangeEventRecord :=
  store.changes.rows.filter fun row => row.tenantId = tenantId ∧ row.assignmentId = assignmentId

/-- The change events of an assignment, in order of revision. -/
def changeHistory (store : AssignmentStore) (assignment : CaseAssignmentRecord) :
    List CaseAssignmentChangeEventRecord :=
  (changesOf store assignment.tenantId assignment.id).insertionSort fun first second =>
    first.resultingRevision ≤ second.resultingRevision

def acknowledgedRevisions (store : AssignmentStore) (tenantId assignmentId : Uuid) : List Nat :=
  (store.acknowledgements.rows.filter fun row =>
    row.tenantId = tenantId ∧ row.assignmentId = assignmentId).map (·.assignmentRevision)

def unavailableRevisions (store : AssignmentStore) (tenantId assignmentId : Uuid) : List Nat :=
  (store.unavailabilities.rows.filter fun row =>
    row.tenantId = tenantId ∧ row.assignmentId = assignmentId).map (·.assignmentRevision)

/-- The revisions that change events, acknowledgements and unavailability reports account for. -/
def accountedRevisions (store : AssignmentStore) (assignment : CaseAssignmentRecord) : List Nat :=
  (changesOf store assignment.tenantId assignment.id).map (·.resultingRevision) ++
    (acknowledgedRevisions store assignment.tenantId assignment.id ++
      unavailableRevisions store assignment.tenantId assignment.id)

/-- Every revision is accounted for once, and the change events replay to the stored authority. -/
structure HistoryComplete (store : AssignmentStore) (assignment : CaseAssignmentRecord) : Prop where
  accounted : (accountedRevisions store assignment).Perm (List.range (assignment.aggregateRevision + 1))
  linked : Linked (·.previous) (·.resulting) none (changeHistory store assignment)
  replayed : replay (·.resulting) none (changeHistory store assignment) = some (authority assignment)

/-- A list of change events and the revisions of interactions that record an assignment completely. -/
structure Recorded (changes : List CaseAssignmentChangeEventRecord) (interactions : List Nat) (revision : Nat)
    (stored : Authority) : Prop where
  accounted : (changes.map (·.resultingRevision) ++ interactions).Perm (List.range (revision + 1))
  increasing : changes.Pairwise fun first second => first.resultingRevision < second.resultingRevision
  linked : Linked (·.previous) (·.resulting) none changes
  replayed : replay (·.resulting) none changes = some stored

variable {store next : AssignmentStore} {changes : List CaseAssignmentChangeEventRecord} {interactions : List Nat}
  {revision : Nat} {stored : Authority} {event : CaseAssignmentChangeEventRecord}

theorem Recorded.first (zero : event.resultingRevision = 0) (starts : event.previous = none) :
    Recorded [event] [] 0 event.resulting where
  accounted := by simp [zero]
  increasing := List.pairwise_singleton _ _
  linked := ⟨starts, True.intro⟩
  replayed := rfl

theorem Recorded.change (recorded : Recorded changes interactions revision stored)
    (after : event.resultingRevision = revision + 1) (starts : event.previous = some stored) :
    Recorded (changes ++ [event]) interactions (revision + 1) event.resulting where
  accounted := by
    have moved : ((changes ++ [event]).map (·.resultingRevision) ++ interactions).Perm
        ((changes.map (·.resultingRevision) ++ interactions) ++ [revision + 1]) := by
      simp only [List.map_append, List.map_cons, List.map_nil, after, List.append_assoc]
      exact (List.perm_append_comm).append_left _
    exact moved.trans (perm_range_concat recorded.accounted)
  increasing := by
    refine List.pairwise_append.mpr ⟨recorded.increasing, List.pairwise_singleton _ _, ?_⟩
    intro earlier member last only
    have within : earlier.resultingRevision ∈ List.range (revision + 1) :=
      recorded.accounted.subset (List.mem_append_left _ (List.mem_map_of_mem member))
    rw [List.mem_singleton.mp only, after]
    exact List.mem_range.mp within
  linked := linked_concat.mpr ⟨recorded.linked, starts.trans recorded.replayed.symm⟩
  replayed := replay_concat

theorem Recorded.interact {more : List Nat} (recorded : Recorded changes interactions revision stored)
    (grown : more.Perm (interactions ++ [revision + 1])) : Recorded changes more (revision + 1) stored where
  accounted := by
    have moved : (changes.map (·.resultingRevision) ++ more).Perm
        ((changes.map (·.resultingRevision) ++ interactions) ++ [revision + 1]) := by
      rw [List.append_assoc]
      exact grown.append_left _
    exact moved.trans (perm_range_concat recorded.accounted)
  increasing := recorded.increasing
  linked := recorded.linked
  replayed := recorded.replayed

def RecordedIn (store : AssignmentStore) (assignment : CaseAssignmentRecord) : Prop :=
  Recorded (changesOf store assignment.tenantId assignment.id)
    (acknowledgedRevisions store assignment.tenantId assignment.id ++
      unavailableRevisions store assignment.tenantId assignment.id)
    assignment.aggregateRevision (authority assignment)

theorem RecordedIn.historyComplete {assignment : CaseAssignmentRecord} (recorded : RecordedIn store assignment) :
    HistoryComplete store assignment := by
  have ordered : changeHistory store assignment = changesOf store assignment.tenantId assignment.id :=
    insertionSort_of_increasing recorded.increasing
  refine ⟨recorded.accounted, ?_, ?_⟩
  · rw [ordered]
    exact recorded.linked
  · rw [ordered]
    exact recorded.replayed

/-- Revisions are recorded under stored assignments only. -/
structure Named (store : AssignmentStore) : Prop where
  changes : ∀ row ∈ store.changes, ∃ assignment ∈ store.assignments,
    assignment.tenantId = row.tenantId ∧ assignment.id = row.assignmentId
  acknowledgements : ∀ row ∈ store.acknowledgements, ∃ assignment ∈ store.assignments,
    assignment.tenantId = row.tenantId ∧ assignment.id = row.assignmentId
  unavailabilities : ∀ row ∈ store.unavailabilities, ∃ assignment ∈ store.assignments,
    assignment.tenantId = row.tenantId ∧ assignment.id = row.assignmentId

/-- A membership has one open assignment to a case at most. -/
def OneOpen (store : AssignmentStore) : Prop :=
  ∀ first ∈ store.assignments, ∀ second ∈ store.assignments, first.tenantId = second.tenantId →
    first.membershipId = second.membershipId → first.caseId = second.caseId → IsOpen first → IsOpen second →
      first = second

structure Invariant (store : AssignmentStore) : Prop where
  recorded : ∀ assignment ∈ store.assignments, RecordedIn store assignment
  named : Named store
  oneOpen : OneOpen store

/-- A step that advances one open assignment. -/
structure Updates (store next : AssignmentStore) (assignment : CaseAssignmentRecord)
    (change : CaseAssignmentRecord → CaseAssignmentRecord) : Prop where
  stored : assignment ∈ store.assignments
  wasOpen : IsOpen assignment
  advances : Advances assignment (change assignment)
  updated : ∃ keeps, next.assignments = store.assignments.update (fun row => row.id = assignment.id) change keeps

theorem same_assignment {first second : CaseAssignmentRecord} (one : first ∈ store.assignments)
    (two : second ∈ store.assignments) (same : first.id = second.id) : first = second :=
  Table.eq_of_conflict one two same

namespace Updates

variable {assignment : CaseAssignmentRecord} {change : CaseAssignmentRecord → CaseAssignmentRecord}

theorem interacted (stored : assignment ∈ store.assignments) (wasActive : assignment.state = .active)
    (updated : next.assignments = interactAssignment store.assignments assignment) :
    Updates store next assignment Assignment.interacted :=
  ⟨stored, .inl wasActive, ⟨rfl, rfl, rfl, rfl, rfl⟩, interacted_columns, updated⟩

theorem mem (updates : Updates store next assignment change) {other : CaseAssignmentRecord} :
    other ∈ next.assignments ↔ other = change assignment ∨ (other ∈ store.assignments ∧ other.id ≠ assignment.id) := by
  obtain ⟨keeps, updated⟩ := updates.updated
  rw [updated, Table.mem_update_key (fun one two => ?_) updates.stored (by simp)]
  · simp
  · exact (of_decide_eq_true one).trans (of_decide_eq_true two).symm

theorem ended_kept (updates : Updates store next assignment change) {other : CaseAssignmentRecord}
    (present : other ∈ store.assignments) (ended : other.state = .ended) : other ∈ next.assignments := by
  refine updates.mem.mpr (.inr ⟨present, fun same => ?_⟩)
  have wasOpen := updates.wasOpen
  rw [← same_assignment present updates.stored same] at wasOpen
  rcases wasOpen with active | suspended
  · rw [ended] at active
    cases active
  · rw [ended] at suspended
    cases suspended

theorem named (updates : Updates store next assignment change) {tenantId assignmentId : Uuid}
    (before : ∃ row ∈ store.assignments, row.tenantId = tenantId ∧ row.id = assignmentId) :
    ∃ row ∈ next.assignments, row.tenantId = tenantId ∧ row.id = assignmentId := by
  obtain ⟨row, present, tenant, name⟩ := before
  by_cases same : row.id = assignment.id
  · refine ⟨change assignment, updates.mem.mpr (.inl rfl), ?_, ?_⟩
    · rw [updates.advances.tenantId, ← same_assignment present updates.stored same, tenant]
    · rw [updates.advances.id, ← same, name]
  · exact ⟨row, updates.mem.mpr (.inr ⟨present, same⟩), tenant, name⟩

theorem oneOpen (updates : Updates store next assignment change) (holds : OneOpen store) : OneOpen next := by
  have advances := updates.advances
  have apart {other : CaseAssignmentRecord} (present : other ∈ store.assignments) (differ : other.id ≠ assignment.id)
      (tenant : other.tenantId = (change assignment).tenantId)
      (member : other.membershipId = (change assignment).membershipId)
      (case : other.caseId = (change assignment).caseId) : ¬ IsOpen other := by
    intro isOpen
    have one := holds other present assignment updates.stored (tenant.trans advances.tenantId)
      (member.trans advances.membershipId) (case.trans advances.caseId) isOpen updates.wasOpen
    exact differ (congrArg (·.id) one)
  intro first one second two tenant member case firstOpen secondOpen
  rcases updates.mem.mp one with rfl | ⟨presentFirst, differFirst⟩
  · rcases updates.mem.mp two with rfl | ⟨present, differ⟩
    · rfl
    · exact absurd secondOpen (apart present differ tenant.symm member.symm case.symm)
  · rcases updates.mem.mp two with rfl | ⟨present, _⟩
    · exact absurd firstOpen (apart presentFirst differFirst tenant member case)
    · exact holds first presentFirst second present tenant member case firstOpen secondOpen

end Updates

theorem changesOf_insert? (recorded : store.changes.insert? event = some next.changes) (tenantId assignmentId : Uuid) :
    changesOf next tenantId assignmentId = changesOf store tenantId assignmentId ++
      if event.tenantId = tenantId ∧ event.assignmentId = assignmentId then [event] else [] := by
  unfold changesOf
  rw [Table.filter_insert? recorded]
  simp only [decide_eq_true_eq]

theorem acknowledgedRevisions_insert? {record : CaseAssignmentAcknowledgementRecord}
    (recorded : store.acknowledgements.insert? record = some next.acknowledgements) (tenantId assignmentId : Uuid) :
    acknowledgedRevisions next tenantId assignmentId = acknowledgedRevisions store tenantId assignmentId ++
      if record.tenantId = tenantId ∧ record.assignmentId = assignmentId then [record.assignmentRevision] else [] := by
  unfold acknowledgedRevisions
  rw [Table.filter_insert? recorded, List.map_append]
  by_cases about : record.tenantId = tenantId ∧ record.assignmentId = assignmentId
  · simp [about]
  · simp only [decide_eq_true_eq, if_neg about, List.map_nil]

theorem unavailableRevisions_insert? {record : CaseAssignmentUnavailabilityRecord}
    (recorded : store.unavailabilities.insert? record = some next.unavailabilities) (tenantId assignmentId : Uuid) :
    unavailableRevisions next tenantId assignmentId = unavailableRevisions store tenantId assignmentId ++
      if record.tenantId = tenantId ∧ record.assignmentId = assignmentId then [record.assignmentRevision] else [] := by
  unfold unavailableRevisions
  rw [Table.filter_insert? recorded, List.map_append]
  by_cases about : record.tenantId = tenantId ∧ record.assignmentId = assignmentId
  · simp [about]
  · simp only [decide_eq_true_eq, if_neg about, List.map_nil]

theorem acknowledgedRevisions_kept (same : next.acknowledgements = store.acknowledgements)
    (tenantId assignmentId : Uuid) :
    acknowledgedRevisions next tenantId assignmentId = acknowledgedRevisions store tenantId assignmentId := by
  rw [acknowledgedRevisions, same]
  rfl

theorem unavailableRevisions_kept (same : next.unavailabilities = store.unavailabilities)
    (tenantId assignmentId : Uuid) :
    unavailableRevisions next tenantId assignmentId = unavailableRevisions store tenantId assignmentId := by
  rw [unavailableRevisions, same]
  rfl

theorem changesOf_kept (same : next.changes = store.changes) (tenantId assignmentId : Uuid) :
    changesOf next tenantId assignmentId = changesOf store tenantId assignmentId := by
  rw [changesOf, same]
  rfl

/-- Nothing is recorded under the id of a new assignment. -/
theorem Named.unrecorded (named : Named store) {assignment : CaseAssignmentRecord}
    (fresh : ∀ row ∈ store.assignments, row.id ≠ assignment.id) (tenantId : Uuid) :
    changesOf store tenantId assignment.id = [] ∧ acknowledgedRevisions store tenantId assignment.id = [] ∧
      unavailableRevisions store tenantId assignment.id = [] := by
  have none {row : Uuid} (stored : ∃ other ∈ store.assignments, other.tenantId = tenantId ∧ other.id = row) :
      row ≠ assignment.id := by
    obtain ⟨other, present, _, rfl⟩ := stored
    exact fresh other present
  refine ⟨?_, ?_, ?_⟩
  · refine List.filter_eq_nil_iff.mpr fun row member matched => ?_
    obtain ⟨tenant, about⟩ := of_decide_eq_true matched
    exact none (tenant ▸ named.changes row member) about
  · refine List.map_eq_nil_iff.mpr (List.filter_eq_nil_iff.mpr fun row member matched => ?_)
    obtain ⟨tenant, about⟩ := of_decide_eq_true matched
    exact none (tenant ▸ named.acknowledgements row member) about
  · refine List.map_eq_nil_iff.mpr (List.filter_eq_nil_iff.mpr fun row member matched => ?_)
    obtain ⟨tenant, about⟩ := of_decide_eq_true matched
    exact none (tenant ▸ named.unavailabilities row member) about

theorem fresh_of_insert? {assignment : CaseAssignmentRecord}
    (inserted : store.assignments.insert? assignment = some next.assignments) :
    ∀ row ∈ store.assignments, row.id ≠ assignment.id :=
  fun row present same => Table.insert?_absent inserted row present same

theorem Effect.recorded (effect : Effect store next) (holds : Invariant store) :
    ∀ assignment ∈ next.assignments, RecordedIn next assignment := by
  intro other member
  cases effect with
  | created assignment event inserted recorded first about starts results _ _ acknowledgements unavailabilities =>
    have fresh := fresh_of_insert? inserted
    unfold RecordedIn
    rw [changesOf_insert? recorded, acknowledgedRevisions_kept acknowledgements,
      unavailableRevisions_kept unavailabilities]
    rcases (Table.mem_insert? inserted).mp member with old | rfl
    · have unrelated : ¬ (event.tenantId = other.tenantId ∧ event.assignmentId = other.id) := by
        rintro ⟨_, same⟩
        exact fresh other old (same.symm.trans about.2)
      rw [if_neg unrelated, List.append_nil]
      exact holds.recorded other old
    · obtain ⟨unchanged, unacknowledged, available⟩ := holds.named.unrecorded fresh other.tenantId
      rw [if_pos about, unchanged, unacknowledged, available, first.1, ← results]
      exact .first first.2 starts
  | changed assignment change keeps event stored wasOpen advances updated recorded revision about starts results _
      acknowledgements unavailabilities =>
    have updates : Updates store next assignment change := ⟨stored, wasOpen, advances, keeps, updated⟩
    unfold RecordedIn
    rw [changesOf_insert? recorded, acknowledgedRevisions_kept acknowledgements,
      unavailableRevisions_kept unavailabilities]
    rcases updates.mem.mp member with rfl | ⟨old, differ⟩
    · rw [advances.tenantId, advances.id, advances.revision, if_pos about, ← results]
      exact (holds.recorded assignment stored).change revision starts
    · have unrelated : ¬ (event.tenantId = other.tenantId ∧ event.assignmentId = other.id) := by
        rintro ⟨_, same⟩
        exact differ (same.symm.trans about.2)
      rw [if_neg unrelated, List.append_nil]
      exact holds.recorded other old
  | acknowledged assignment record stored wasActive updated recorded revision about changes unavailabilities =>
    have updates := Updates.interacted stored wasActive updated
    unfold RecordedIn
    rw [changesOf_kept changes, acknowledgedRevisions_insert? recorded, unavailableRevisions_kept unavailabilities]
    rcases updates.mem.mp member with rfl | ⟨old, differ⟩
    · have here : record.tenantId = (interacted assignment).tenantId ∧
          record.assignmentId = (interacted assignment).id := about
      rw [if_pos here, revision, List.append_assoc]
      exact (holds.recorded assignment stored).interact
        (by rw [List.append_assoc]; exact (List.perm_append_comm).append_left _)
    · have unrelated : ¬ (record.tenantId = other.tenantId ∧ record.assignmentId = other.id) := by
        rintro ⟨_, same⟩
        exact differ (same.symm.trans about.2)
      rw [if_neg unrelated, List.append_nil]
      exact holds.recorded other old
  | unavailable assignment record stored wasActive updated recorded revision about changes acknowledgements =>
    have updates := Updates.interacted stored wasActive updated
    unfold RecordedIn
    rw [changesOf_kept changes, acknowledgedRevisions_kept acknowledgements, unavailableRevisions_insert? recorded]
    rcases updates.mem.mp member with rfl | ⟨old, differ⟩
    · have here : record.tenantId = (interacted assignment).tenantId ∧
          record.assignmentId = (interacted assignment).id := about
      rw [if_pos here, revision, ← List.append_assoc]
      exact (holds.recorded assignment stored).interact (List.Perm.refl _)
    · have unrelated : ¬ (record.tenantId = other.tenantId ∧ record.assignmentId = other.id) := by
        rintro ⟨_, same⟩
        exact differ (same.symm.trans about.2)
      rw [if_neg unrelated, List.append_nil]
      exact holds.recorded other old
  | kept assignments changes acknowledgements unavailabilities =>
    rw [assignments] at member
    unfold RecordedIn
    rw [changesOf_kept changes, acknowledgedRevisions_kept acknowledgements,
      unavailableRevisions_kept unavailabilities]
    exact holds.recorded other member

theorem Named.grow (named : Named store) (grown : ∀ tenantId assignmentId,
      (∃ row ∈ store.assignments, row.tenantId = tenantId ∧ row.id = assignmentId) →
        ∃ row ∈ next.assignments, row.tenantId = tenantId ∧ row.id = assignmentId)
    (changes : ∀ row ∈ next.changes, row ∈ store.changes ∨ ∃ assignment ∈ next.assignments,
      assignment.tenantId = row.tenantId ∧ assignment.id = row.assignmentId)
    (acknowledgements : ∀ row ∈ next.acknowledgements, row ∈ store.acknowledgements ∨
      ∃ assignment ∈ next.assignments, assignment.tenantId = row.tenantId ∧ assignment.id = row.assignmentId)
    (unavailabilities : ∀ row ∈ next.unavailabilities, row ∈ store.unavailabilities ∨
      ∃ assignment ∈ next.assignments, assignment.tenantId = row.tenantId ∧ assignment.id = row.assignmentId) :
    Named next where
  changes row member := (changes row member).elim (fun old => grown _ _ (named.changes row old)) id
  acknowledgements row member :=
    (acknowledgements row member).elim (fun old => grown _ _ (named.acknowledgements row old)) id
  unavailabilities row member :=
    (unavailabilities row member).elim (fun old => grown _ _ (named.unavailabilities row old)) id

theorem Effect.named (effect : Effect store next) (holds : Named store) : Named next := by
  cases effect with
  | created assignment event inserted recorded _ about _ _ _ _ acknowledgements unavailabilities =>
    refine holds.grow (fun _ _ => ?_) (fun row member => ?_) (fun _ member => .inl (acknowledgements ▸ member)) (fun _ member => .inl (unavailabilities ▸ member))
    · rintro ⟨row, present, same⟩
      exact ⟨row, (Table.mem_insert? inserted).mpr (.inl present), same⟩
    · refine ((Table.mem_insert? recorded).mp member).imp_right ?_
      rintro rfl
      exact ⟨assignment, (Table.mem_insert? inserted).mpr (.inr rfl), about.1.symm, about.2.symm⟩
  | changed assignment change keeps event stored wasOpen advances updated recorded _ about _ _ _ acknowledgements
      unavailabilities =>
    have updates : Updates store next assignment change := ⟨stored, wasOpen, advances, keeps, updated⟩
    refine holds.grow (fun _ _ => updates.named) (fun row member => ?_) (fun _ member => .inl (acknowledgements ▸ member))
      (fun _ member => .inl (unavailabilities ▸ member))
    refine ((Table.mem_insert? recorded).mp member).imp_right ?_
    rintro rfl
    exact updates.named ⟨assignment, stored, about.1.symm, about.2.symm⟩
  | acknowledged assignment record stored wasActive updated recorded _ about changes unavailabilities =>
    have updates := Updates.interacted stored wasActive updated
    refine holds.grow (fun _ _ => updates.named) (fun _ member => .inl (changes ▸ member)) (fun row member => ?_)
      (fun _ member => .inl (unavailabilities ▸ member))
    refine ((Table.mem_insert? recorded).mp member).imp_right ?_
    rintro rfl
    exact updates.named ⟨assignment, stored, about.1.symm, about.2.symm⟩
  | unavailable assignment record stored wasActive updated recorded _ about changes acknowledgements =>
    have updates := Updates.interacted stored wasActive updated
    refine holds.grow (fun _ _ => updates.named) (fun _ member => .inl (changes ▸ member)) (fun _ member => .inl (acknowledgements ▸ member))
      (fun row member => ?_)
    refine ((Table.mem_insert? recorded).mp member).imp_right ?_
    rintro rfl
    exact updates.named ⟨assignment, stored, about.1.symm, about.2.symm⟩
  | kept assignments changes acknowledgements unavailabilities =>
    exact holds.grow (fun _ _ stored => assignments ▸ stored) (fun _ member => .inl (changes ▸ member)) (fun _ member => .inl (acknowledgements ▸ member))
      (fun _ member => .inl (unavailabilities ▸ member))

theorem Effect.oneOpen (effect : Effect store next) (holds : OneOpen store) : OneOpen next := by
  cases effect with
  | created assignment event inserted _ _ _ _ _ alone =>
    intro first one second two tenant member case firstOpen secondOpen
    rcases (Table.mem_insert? inserted).mp one with presentFirst | rfl
    · rcases (Table.mem_insert? inserted).mp two with present | rfl
      · exact holds first presentFirst second present tenant member case firstOpen secondOpen
      · exact absurd firstOpen (alone first presentFirst tenant member case)
    · rcases (Table.mem_insert? inserted).mp two with present | rfl
      · exact absurd secondOpen (alone second present tenant.symm member.symm case.symm)
      · rfl
  | changed assignment change keeps _ stored wasOpen advances updated =>
    exact Updates.oneOpen ⟨stored, wasOpen, advances, keeps, updated⟩ holds
  | acknowledged assignment _ stored wasActive updated =>
    exact (Updates.interacted stored wasActive updated).oneOpen holds
  | unavailable assignment _ stored wasActive updated =>
    exact (Updates.interacted stored wasActive updated).oneOpen holds
  | kept assignments =>
    unfold OneOpen
    rw [assignments]
    exact holds

theorem Effect.ended_kept (effect : Effect store next) {assignment : CaseAssignmentRecord}
    (present : assignment ∈ store.assignments) (ended : assignment.state = .ended) : assignment ∈ next.assignments := by
  cases effect with
  | created _ _ inserted => exact (Table.mem_insert? inserted).mpr (.inl present)
  | changed other change keeps _ stored wasOpen advances updated =>
    exact Updates.ended_kept ⟨stored, wasOpen, advances, keeps, updated⟩ present ended
  | acknowledged other _ stored wasActive updated =>
    exact (Updates.interacted stored wasActive updated).ended_kept present ended
  | unavailable other _ stored wasActive updated =>
    exact (Updates.interacted stored wasActive updated).ended_kept present ended
  | kept assignments => exact assignments ▸ present

theorem run_holds (inputs : List Input) : Invariant (run step .empty inputs) := by
  have initial : Invariant .empty := {
    recorded := fun _ member => absurd member Table.not_mem_empty
    named := ⟨fun _ member => absurd member Table.not_mem_empty, fun _ member => absurd member Table.not_mem_empty,
      fun _ member => absurd member Table.not_mem_empty⟩
    oneOpen := fun _ member => absurd member Table.not_mem_empty }
  refine run_invariant_always (fun store input next holds accepted => ?_) inputs initial
  have effect := step_effect accepted
  exact ⟨effect.recorded holds, effect.named holds.named, effect.oneOpen holds.oneOpen⟩

/-- After every run the history of every assignment is complete, ENDED assignments never change, and a
    membership has one open assignment to a case at most. -/
theorem run_historyComplete (inputs : List Input) :
    (∀ assignment ∈ (run step .empty inputs).assignments,
      HistoryComplete (run step .empty inputs) assignment) ∧
    (∀ first, first <+: inputs → ∀ assignment ∈ (run step .empty first).assignments,
      assignment.state = .ended → assignment ∈ (run step .empty inputs).assignments) ∧
    OneOpen (run step .empty inputs) := by
  have holds := run_holds inputs
  refine ⟨fun assignment member => (holds.recorded assignment member).historyComplete, ?_, holds.oneOpen⟩
  rintro first ⟨later, rfl⟩ assignment member ended
  rw [run_append]
  have kept : ∀ store input next, assignment ∈ store.assignments → step store input = .ok next →
      assignment ∈ next.assignments :=
    fun _ _ _ present accepted => (step_effect accepted).ended_kept present ended
  exact run_invariant_always kept later member

end SmartAo.Assignment
