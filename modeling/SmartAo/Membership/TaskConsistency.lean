import SmartAo.Membership.WorkTask

namespace SmartAo.Membership

section Consistency

open SmartAo.Foundation SmartAo.Platform SmartAo.Case SmartAo.Dce

def CollaboratorTaskBlockerRecord.OpenOn (blocker : CollaboratorTaskBlockerRecord)
    (task : CollaboratorTaskRecord) : Prop :=
  blocker.tenantId = task.tenantId ∧ blocker.taskId = task.id ∧ blocker.state = .open

/-- A task is BLOCKED exactly when it has an OPEN blocker, and carries a completion time exactly
    when it is COMPLETED. -/
structure Consistent (store : Store) : Prop where
  blocked_iff : ∀ task ∈ store.tasks,
    task.state = .blocked ↔ ∃ blocker ∈ store.blockers, blocker.OpenOn task
  completed_iff : ∀ task ∈ store.tasks, task.completedAt.isSome ↔ task.state = .completed

structure Invariant (store : Store) : Prop extends Consistent store where
  owned : ∀ blocker ∈ store.blockers,
    ∃ task ∈ store.tasks, task.tenantId = blocker.tenantId ∧ task.id = blocker.taskId

/-- Every completed task of the first store is a completed task of the second. -/
def CompletedKept (before after : Store) : Prop :=
  ∀ task ∈ before.tasks, task.state = .completed →
    ∃ later ∈ after.tasks, later.id = task.id ∧ later.tenantId = task.tenantId ∧
      later.state = .completed

/-- A ResolveTaskBlocker whose guards pass names the only OPEN blocker of its task. -/
def ResolvesLastBlocker (store : Store) : Input → Prop
  | .command (.resolveTaskBlocker command) context =>
    ∀ task membershipId blocker,
      commandedTask store context command.taskId command.expectedRevision = .ok (task, membershipId) →
      store.findBlocker context command.blockerId task = some blocker → blocker.state = .open →
      ∀ other ∈ store.blockers, other.OpenOn task → other = blocker
  | _ => True

theorem commandedTask_ok {store : Store} {context : CommandContext} {taskId membershipId : Uuid}
    {revision : Nat} {task : CollaboratorTaskRecord}
    (found : commandedTask store context taskId revision = .ok (task, membershipId)) :
    task ∈ store.tasks ∧ task.tenantId = context.tenantId ∧ task.id = taskId := by
  simp only [commandedTask, bind_ok, orRaise_ok, pure_ok, Prod.mk.injEq] at found
  obtain ⟨_, _, row, looked, _, _, _, _, rfl, _⟩ := found
  have queried := Table.find?_query looked
  simp only [decide_eq_true_eq] at queried
  exact ⟨Table.find?_mem looked, queried.1, queried.2⟩

theorem findBlocker_some {store : Store} {context : CommandContext} {blockerId : Uuid}
    {task : CollaboratorTaskRecord} {blocker : CollaboratorTaskBlockerRecord}
    (found : store.findBlocker context blockerId task = some blocker) :
    blocker ∈ store.blockers ∧ blocker.tenantId = context.tenantId ∧ blocker.id = blockerId ∧
      blocker.taskId = task.id := by
  have queried := Table.find?_query found
  simp only [decide_eq_true_eq] at queried
  exact ⟨Table.find?_mem found, queried⟩

theorem mem_writeTask {store : Store} {task other : CollaboratorTaskRecord}
    {change : CollaboratorTaskRecord → CollaboratorTaskRecord}
    {keeps : ∀ row, Schema.columns (change row) = Schema.columns row} (stored : task ∈ store.tasks) :
    other ∈ (store.writeTask task change keeps).tasks ↔
      other = change task ∨ (other ∈ store.tasks ∧ other.id ≠ task.id) := by
  have key : ∀ {first second : CollaboratorTaskRecord}, decide (first.id = task.id) = true →
      decide (second.id = task.id) = true → Schema.Conflict first second := by
    intro first second hf hs
    simp only [decide_eq_true_eq] at hf hs
    exact .inl (hf.trans hs.symm)
  rw [Store.writeTask, Table.mem_update_key key stored (by simp)]
  simp

theorem task_eq {store : Store} {first second : CollaboratorTaskRecord} (hf : first ∈ store.tasks)
    (hs : second ∈ store.tasks) (same : first.id = second.id) : first = second :=
  Table.eq_of_conflict hf hs (.inl same)

/-- What an accepted input writes to the tasks and their blockers. -/
inductive Effect (store next : Store) : Prop
  | kept (tasks : next.tasks = store.tasks) (blockers : next.blockers = store.blockers)
  | created (task : CollaboratorTaskRecord) (inserted : store.tasks.insert? task = some next.tasks)
      (ready : task.state = .ready) (fresh : task.completedAt = none)
      (blockers : next.blockers = store.blockers)
  | worked (task : CollaboratorTaskRecord) (stored : task ∈ store.tasks)
      (change : CollaboratorTaskRecord → CollaboratorTaskRecord)
      (keeps : ∀ row, Schema.columns (change row) = Schema.columns row)
      (tasks : next.tasks = (store.writeTask task change keeps).tasks)
      (blockers : next.blockers = store.blockers)
      (active : task.state ∈ [TaskState.inProgress, .ready])
      (after : (change task).state ≠ .blocked)
      (completion : (change task).completedAt.isSome ↔
        task.completedAt.isSome ∨ (change task).state = .completed)
  | declared (task : CollaboratorTaskRecord) (stored : task ∈ store.tasks)
      (blocker : CollaboratorTaskBlockerRecord)
      (inserted : store.blockers.insert? blocker = some next.blockers)
      (openOn : blocker.OpenOn task) (active : task.state ∉ [TaskState.completed, .abandoned])
      (tasks : next.tasks = (store.writeTask task blocked blocked_columns).tasks)
  | resolvedLast (task : CollaboratorTaskRecord) (stored : task ∈ store.tasks)
      (blocker : CollaboratorTaskBlockerRecord) (member : blocker ∈ store.blockers)
      (openOn : blocker.OpenOn task)
      (last : ∀ other ∈ store.blockers, other.OpenOn task → other = blocker)
      (command : ResolveTaskBlockerCommand) (context : CommandContext)
      (tasks : next.tasks = (store.writeTask task unblocked unblocked_columns).tasks)
      (blockers : next.blockers = store.blockers.update (fun row => row.id = blocker.id)
        (resolved command context (unblocked task).aggregateRevision) (resolved_columns _ _ _))

theorem createTaskFromRequirement_effect {store next : Store} {outcome : HandlerOutcome}
    {command : CreateTaskFromRequirementCommand} {context : CommandContext}
    (accepted : createTaskFromRequirement store command context = .ok (next, outcome)) :
    Effect store next := by
  simp only [createTaskFromRequirement, bind_ok, orRaise_ok] at accepted
  obtain ⟨_, _, assignment, _, _, _, _, _, _, _, _, _, case, _, _, _, requirement, _, _, _, made⟩ :=
    accepted
  split at made
  · cases made
    exact .kept rfl rfl
  · simp only [bind_ok, flush, orRaise_ok, pure_ok, Prod.mk.injEq] at made
    obtain ⟨tasks, inserted, rfl, _⟩ := made
    exact .created _ inserted rfl rfl rfl

theorem claimTask_effect {store next : Store} {outcome : HandlerOutcome}
    {command : ClaimTaskCommand} {context : CommandContext}
    (accepted : claimTask store command context = .ok (next, outcome)) : Effect store next := by
  simp only [claimTask, bind_ok, raiseIf_ok, exists_unit, pure_ok, Prod.mk.injEq, Prod.exists,
    Decidable.not_not] at accepted
  obtain ⟨task, _, found, ready, rfl, _⟩ := accepted
  exact .worked task (commandedTask_ok found).1 (claimed context) (claimed_columns context) rfl rfl
    (by simp [ready]) (by simp [claimed]) (by simp [claimed])

theorem recordTaskResult_effect {store next : Store} {outcome : HandlerOutcome}
    {command : RecordTaskResultCommand} {resultId : Uuid} {context : CommandContext}
    (accepted : recordTaskResult store command resultId context = .ok (next, outcome)) :
    Effect store next := by
  simp only [recordTaskResult, bind_ok, raiseIf_ok, exists_unit, pure_ok, Prod.mk.injEq,
    Prod.exists, Decidable.not_not] at accepted
  obtain ⟨task, _, found, active, results, _, rfl, _⟩ := accepted
  have state : task.state = .inProgress ∨ task.state = .ready := by simpa using active
  refine .worked task (commandedTask_ok found).1 revised revised_columns rfl rfl active ?_ ?_ <;>
    rcases state with state | state <;> simp [revised, state]

theorem completeTask_effect {store next : Store} {outcome : HandlerOutcome}
    {command : CompleteTaskCommand} {context : CommandContext}
    (accepted : completeTask store command context = .ok (next, outcome)) : Effect store next := by
  simp only [completeTask, bind_ok, raiseIf_ok, exists_unit, pure_ok, Prod.mk.injEq, Prod.exists,
    Decidable.not_not] at accepted
  obtain ⟨task, _, found, active, _, _, rfl, _⟩ := accepted
  exact .worked task (commandedTask_ok found).1 (completed context) (completed_columns context) rfl rfl active
    (by simp [completed]) (by simp [completed])

theorem declareTaskBlocker_effect {store next : Store} {outcome : HandlerOutcome}
    {command : DeclareTaskBlockerCommand} {context : CommandContext}
    (accepted : declareTaskBlocker store command context = .ok (next, outcome)) :
    Effect store next := by
  simp only [declareTaskBlocker, bind_ok, raiseIf_ok, exists_unit, pure_ok, Prod.mk.injEq,
    Prod.exists, flush, orRaise_ok] at accepted
  obtain ⟨task, _, found, active, blockers, inserted, rfl, _⟩ := accepted
  obtain ⟨stored, tenant, _⟩ := commandedTask_ok found
  exact .declared task stored _ inserted ⟨tenant.symm, rfl, rfl⟩ active rfl

theorem resolveTaskBlocker_ok {store next : Store} {outcome : HandlerOutcome}
    {command : ResolveTaskBlockerCommand} {context : CommandContext}
    (accepted : resolveTaskBlocker store command context = .ok (next, outcome)) :
    ∃ task membershipId blocker,
      commandedTask store context command.taskId command.expectedRevision = .ok (task, membershipId) ∧
      store.findBlocker context command.blockerId task = some blocker ∧ blocker.state = .open ∧
      next = { store.writeTask task unblocked unblocked_columns with
        blockers := store.blockers.update (fun row => row.id = blocker.id)
          (resolved command context (unblocked task).aggregateRevision) (resolved_columns _ _ _) } := by
  simp only [resolveTaskBlocker, bind_ok, raiseIf_ok, exists_unit, pure_ok, Prod.mk.injEq,
    Prod.exists, orRaise_ok, Decidable.not_not] at accepted
  obtain ⟨task, membershipId, found, blocker, looked, opened, rfl, _⟩ := accepted
  exact ⟨task, membershipId, blocker, found, looked, opened, rfl⟩

theorem step_effect {store next : Store} {input : Input} (lastBlocker : ResolvesLastBlocker store input)
    (accepted : step store input = .ok next) : Effect store next := by
  cases input with
  | foreign cases requirements assignments => cases accepted; exact .kept rfl rfl
  | command command context =>
    simp only [step, map_fst_ok] at accepted
    obtain ⟨outcome, accepted⟩ := accepted
    cases command with
    | createTaskFromRequirement command => exact createTaskFromRequirement_effect accepted
    | claimTask command => exact claimTask_effect accepted
    | recordTaskResult command resultId => exact recordTaskResult_effect accepted
    | completeTask command => exact completeTask_effect accepted
    | declareTaskBlocker command => exact declareTaskBlocker_effect accepted
    | resolveTaskBlocker command =>
      obtain ⟨task, membershipId, blocker, found, looked, opened, rfl⟩ :=
        resolveTaskBlocker_ok accepted
      obtain ⟨stored, tenant, _⟩ := commandedTask_ok found
      obtain ⟨member, blockerTenant, _, onTask⟩ := findBlocker_some looked
      exact .resolvedLast task stored blocker member
        ⟨blockerTenant.trans tenant.symm, onTask, opened⟩
        (lastBlocker task membershipId blocker found looked opened) command context rfl rfl

theorem task_columns {first second : CollaboratorTaskRecord}
    (same : Schema.columns first = Schema.columns second) :
    first.id = second.id ∧ first.tenantId = second.tenantId :=
  ⟨congrArg (fun columns : Uuid × Uuid × Uuid × String => columns.1) same,
    congrArg (fun columns : Uuid × Uuid × Uuid × String => columns.2.1) same⟩

theorem openOn_congr {blocker : CollaboratorTaskBlockerRecord} {first second : CollaboratorTaskRecord}
    (same : Schema.columns first = Schema.columns second) :
    blocker.OpenOn first ↔ blocker.OpenOn second := by
  obtain ⟨sameId, sameTenant⟩ := task_columns same
  simp only [CollaboratorTaskBlockerRecord.OpenOn, sameId, sameTenant]

theorem Invariant.transport {store next : Store} (holds : Invariant store)
    (tasks : next.tasks = store.tasks) (blockers : next.blockers = store.blockers) :
    Invariant next where
  blocked_iff := by rw [tasks, blockers]; exact holds.blocked_iff
  completed_iff := by rw [tasks]; exact holds.completed_iff
  owned := by rw [tasks, blockers]; exact holds.owned

theorem Invariant.created {store next : Store} (holds : Invariant store)
    {task : CollaboratorTaskRecord} (inserted : store.tasks.insert? task = some next.tasks)
    (ready : task.state = .ready) (fresh : task.completedAt = none)
    (blockers : next.blockers = store.blockers) : Invariant next where
  blocked_iff := by
    intro other member
    rw [blockers]
    rcases (Table.mem_insert? inserted).mp member with member | rfl
    · exact holds.blocked_iff other member
    · refine iff_of_false (by simp [ready]) ?_
      rintro ⟨blocker, stored, openOn⟩
      obtain ⟨owner, owning, _, same⟩ := holds.owned blocker stored
      exact Table.insert?_absent inserted owner owning (.inl (same.trans openOn.2.1))
  completed_iff := by
    intro other member
    rcases (Table.mem_insert? inserted).mp member with member | rfl
    · exact holds.completed_iff other member
    · simp [ready, fresh]
  owned := by
    intro blocker member
    rw [blockers] at member
    obtain ⟨owner, owning, same⟩ := holds.owned blocker member
    exact ⟨owner, (Table.mem_insert? inserted).mpr (.inl owning), same⟩

/-- The rows of a task write still own every blocker they owned. -/
theorem owned_writeTask {store next : Store} {task : CollaboratorTaskRecord}
    {change : CollaboratorTaskRecord → CollaboratorTaskRecord}
    {keeps : ∀ row, Schema.columns (change row) = Schema.columns row} (stored : task ∈ store.tasks)
    (tasks : next.tasks = (store.writeTask task change keeps).tasks) {tenantId taskId : Uuid}
    (owner : ∃ row ∈ store.tasks, row.tenantId = tenantId ∧ row.id = taskId) :
    ∃ row ∈ next.tasks, row.tenantId = tenantId ∧ row.id = taskId := by
  obtain ⟨row, member, tenant, same⟩ := owner
  rw [tasks]
  by_cases target : row.id = task.id
  · obtain ⟨sameId, sameTenant⟩ := task_columns (keeps task)
    rw [task_eq member stored target] at tenant same
    exact ⟨change task, (mem_writeTask stored).mpr (.inl rfl), sameTenant.trans tenant,
      sameId.trans same⟩
  · exact ⟨row, (mem_writeTask stored).mpr (.inr ⟨member, target⟩), tenant, same⟩

theorem Invariant.worked {store next : Store} (holds : Invariant store)
    {task : CollaboratorTaskRecord} (stored : task ∈ store.tasks)
    {change : CollaboratorTaskRecord → CollaboratorTaskRecord}
    {keeps : ∀ row, Schema.columns (change row) = Schema.columns row}
    (tasks : next.tasks = (store.writeTask task change keeps).tasks)
    (blockers : next.blockers = store.blockers) (active : task.state ∈ [TaskState.inProgress, .ready])
    (after : (change task).state ≠ .blocked)
    (completion : (change task).completedAt.isSome ↔
      task.completedAt.isSome ∨ (change task).state = .completed) : Invariant next where
  blocked_iff := by
    intro other member
    rw [tasks, mem_writeTask stored] at member
    rw [blockers]
    rcases member with rfl | ⟨member, _⟩
    · refine iff_of_false after ?_
      rintro ⟨blocker, among, openOn⟩
      have state := (holds.blocked_iff task stored).mpr
        ⟨blocker, among, (openOn_congr (keeps task)).mp openOn⟩
      simp [state] at active
    · exact holds.blocked_iff other member
  completed_iff := by
    intro other member
    rw [tasks, mem_writeTask stored] at member
    rcases member with rfl | ⟨member, _⟩
    · have unfinished : ¬ task.completedAt.isSome := by
        rw [holds.completed_iff task stored]
        intro state
        simp [state] at active
      simpa [unfinished] using completion
    · exact holds.completed_iff other member
  owned := by
    intro blocker member
    rw [blockers] at member
    exact owned_writeTask stored tasks (holds.owned blocker member)

theorem Invariant.declared {store next : Store} (holds : Invariant store)
    {task : CollaboratorTaskRecord} (stored : task ∈ store.tasks)
    {blocker : CollaboratorTaskBlockerRecord}
    (inserted : store.blockers.insert? blocker = some next.blockers) (openOn : blocker.OpenOn task)
    (active : task.state ∉ [TaskState.completed, .abandoned])
    (tasks : next.tasks = (store.writeTask task blocked blocked_columns).tasks) : Invariant next where
  blocked_iff := by
    intro other member
    rw [tasks, mem_writeTask stored] at member
    rcases member with rfl | ⟨member, different⟩
    · exact iff_of_true rfl ⟨blocker, (Table.mem_insert? inserted).mpr (.inr rfl), openOn⟩
    · rw [holds.blocked_iff other member]
      constructor
      · rintro ⟨row, among, openRow⟩
        exact ⟨row, (Table.mem_insert? inserted).mpr (.inl among), openRow⟩
      · rintro ⟨row, among, openRow⟩
        rcases (Table.mem_insert? inserted).mp among with among | rfl
        · exact ⟨row, among, openRow⟩
        · exact absurd (openRow.2.1.symm.trans openOn.2.1) different
  completed_iff := by
    intro other member
    rw [tasks, mem_writeTask stored] at member
    rcases member with rfl | ⟨member, _⟩
    · have unfinished := holds.completed_iff task stored
      have state : task.state ≠ .completed := fun state => active (by simp [state])
      simpa [blocked, state] using unfinished
    · exact holds.completed_iff other member
  owned := by
    intro row member
    rcases (Table.mem_insert? inserted).mp member with member | rfl
    · exact owned_writeTask stored tasks (holds.owned row member)
    · exact owned_writeTask stored tasks ⟨task, stored, openOn.1.symm, openOn.2.1.symm⟩

theorem mem_resolve {blockers : Table CollaboratorTaskBlockerRecord}
    {blocker other : CollaboratorTaskBlockerRecord} (member : blocker ∈ blockers)
    {change : CollaboratorTaskBlockerRecord → CollaboratorTaskBlockerRecord}
    {keeps : ∀ row, Schema.columns (change row) = Schema.columns row} :
    other ∈ blockers.update (fun row => row.id = blocker.id) change keeps ↔
      other = change blocker ∨ (other ∈ blockers ∧ other.id ≠ blocker.id) := by
  have key : ∀ {first second : CollaboratorTaskBlockerRecord}, decide (first.id = blocker.id) = true →
      decide (second.id = blocker.id) = true → Schema.Conflict first second := by
    intro first second hf hs
    simp only [decide_eq_true_eq] at hf hs
    exact hf.trans hs.symm
  rw [Table.mem_update_key key member (by simp)]
  simp

theorem Invariant.resolvedLast {store next : Store} (holds : Invariant store)
    {task : CollaboratorTaskRecord} (stored : task ∈ store.tasks)
    {blocker : CollaboratorTaskBlockerRecord} (member : blocker ∈ store.blockers)
    (openOn : blocker.OpenOn task)
    (last : ∀ other ∈ store.blockers, other.OpenOn task → other = blocker)
    {command : ResolveTaskBlockerCommand} {context : CommandContext}
    (tasks : next.tasks = (store.writeTask task unblocked unblocked_columns).tasks)
    (blockers : next.blockers = store.blockers.update (fun row => row.id = blocker.id)
      (resolved command context (unblocked task).aggregateRevision) (resolved_columns _ _ _)) :
    Invariant next where
  blocked_iff := by
    intro other among
    rw [tasks, mem_writeTask stored] at among
    rw [blockers]
    rcases among with rfl | ⟨among, different⟩
    · refine iff_of_false (by simp [unblocked]) ?_
      rintro ⟨row, rowMember, openRow⟩
      rcases (mem_resolve member).mp rowMember with rfl | ⟨rowMember, apart⟩
      · exact absurd openRow.2.2 (by simp [resolved])
      · exact apart (congrArg _ (last row rowMember openRow))
    · rw [holds.blocked_iff other among]
      constructor
      · rintro ⟨row, rowMember, openRow⟩
        refine ⟨row, (mem_resolve member).mpr (.inr ⟨rowMember, ?_⟩), openRow⟩
        intro same
        rw [Table.eq_of_conflict rowMember member same] at openRow
        exact different (openRow.2.1.symm.trans openOn.2.1)
      · rintro ⟨row, rowMember, openRow⟩
        rcases (mem_resolve member).mp rowMember with rfl | ⟨rowMember, _⟩
        · exact absurd openRow.2.2 (by simp [resolved])
        · exact ⟨row, rowMember, openRow⟩
  completed_iff := by
    intro other among
    rw [tasks, mem_writeTask stored] at among
    rcases among with rfl | ⟨among, _⟩
    · have state := (holds.blocked_iff task stored).mpr ⟨blocker, member, openOn⟩
      have unfinished := holds.completed_iff task stored
      simpa [unblocked, state] using unfinished
    · exact holds.completed_iff other among
  owned := by
    intro row rowMember
    rw [blockers] at rowMember
    rcases (mem_resolve member).mp rowMember with rfl | ⟨rowMember, _⟩
    · exact owned_writeTask stored tasks ⟨task, stored, openOn.1.symm, openOn.2.1.symm⟩
    · exact owned_writeTask stored tasks (holds.owned row rowMember)

theorem Invariant.preserved {store next : Store} (holds : Invariant store)
    (effect : Effect store next) : Invariant next := by
  cases effect with
  | kept tasks blockers => exact holds.transport tasks blockers
  | created task inserted ready fresh blockers => exact holds.created inserted ready fresh blockers
  | worked task stored change keeps tasks blockers active after completion =>
    exact holds.worked stored tasks blockers active after completion
  | declared task stored blocker inserted openOn active tasks =>
    exact holds.declared stored inserted openOn active tasks
  | resolvedLast task stored blocker member openOn last command context tasks blockers =>
    exact holds.resolvedLast stored member openOn last tasks blockers

theorem completedKept_writeTask {store next : Store} {task : CollaboratorTaskRecord}
    {change : CollaboratorTaskRecord → CollaboratorTaskRecord}
    {keeps : ∀ row, Schema.columns (change row) = Schema.columns row} (stored : task ∈ store.tasks)
    (tasks : next.tasks = (store.writeTask task change keeps).tasks)
    (unfinished : task.state ≠ .completed) : CompletedKept store next := by
  intro row member state
  refine ⟨row, ?_, rfl, rfl, state⟩
  rw [tasks, mem_writeTask stored]
  refine .inr ⟨member, fun same => unfinished ?_⟩
  rw [← task_eq member stored same]
  exact state

theorem CompletedKept.refl (store : Store) : CompletedKept store store :=
  fun task member state => ⟨task, member, rfl, rfl, state⟩

theorem CompletedKept.trans {first second third : Store} (before : CompletedKept first second)
    (after : CompletedKept second third) : CompletedKept first third := by
  intro task member state
  obtain ⟨middle, middleMember, sameId, sameTenant, middleState⟩ := before task member state
  obtain ⟨last, lastMember, lastId, lastTenant, lastState⟩ := after middle middleMember middleState
  exact ⟨last, lastMember, lastId.trans sameId, lastTenant.trans sameTenant, lastState⟩

theorem Invariant.completedKept {store next : Store} (holds : Invariant store)
    (effect : Effect store next) : CompletedKept store next := by
  cases effect with
  | kept tasks blockers =>
    intro row member state
    exact ⟨row, tasks ▸ member, rfl, rfl, state⟩
  | created task inserted ready fresh blockers =>
    intro row member state
    exact ⟨row, (Table.mem_insert? inserted).mpr (.inl member), rfl, rfl, state⟩
  | worked task stored change keeps tasks blockers active after completion =>
    exact completedKept_writeTask stored tasks fun state => by simp [state] at active
  | declared task stored blocker inserted openOn active tasks =>
    exact completedKept_writeTask stored tasks fun state => by simp [state] at active
  | resolvedLast task stored blocker member openOn last command context tasks blockers =>
    have state := (holds.blocked_iff task stored).mpr ⟨blocker, member, openOn⟩
    exact completedKept_writeTask stored tasks (by simp [state])

theorem Invariant.empty : Invariant .empty where
  blocked_iff := fun _ member => absurd member Table.not_mem_empty
  completed_iff := fun _ member => absurd member Table.not_mem_empty
  owned := fun _ member => absurd member Table.not_mem_empty

end Consistency

section Runs

open SmartAo.Foundation SmartAo.Platform SmartAo.Case SmartAo.Dce

/-- Consistency in every state a run reaches, and no completed task reopened on the way from one
    of these states to a later one. -/
structure RunConsistent (inputs : List Input) : Prop where
  consistent : ∀ first, first <+: inputs → Consistent (run step .empty first)
  completed : ∀ first middle, first ++ middle <+: inputs →
    CompletedKept (run step .empty first) (run step .empty (first ++ middle))

theorem run_holds {inputs : List Input} (along : Along step ResolvesLastBlocker .empty inputs) :
    Invariant (run step .empty inputs) :=
  run_invariant (fun _ _ _ holds lastBlocker accepted =>
    holds.preserved (step_effect lastBlocker accepted)) Invariant.empty along

theorem run_completedKept {store : Store} {inputs : List Input} (holds : Invariant store)
    (along : Along step ResolvesLastBlocker store inputs) :
    CompletedKept store (run step store inputs) :=
  run_related CompletedKept CompletedKept.refl CompletedKept.trans
    (fun _ _ _ lastBlocker holds accepted => holds.completedKept (step_effect lastBlocker accepted))
    (fun _ _ _ holds lastBlocker accepted => holds.preserved (step_effect lastBlocker accepted))
    holds along

theorem resolveTaskBlocker_accepted {store : Store} {command : ResolveTaskBlockerCommand}
    {context : CommandContext} {task : CollaboratorTaskRecord} {membershipId : Uuid}
    {blocker : CollaboratorTaskBlockerRecord}
    (found : commandedTask store context command.taskId command.expectedRevision =
      .ok (task, membershipId))
    (looked : store.findBlocker context command.blockerId task = some blocker)
    (opened : blocker.state = .open) :
    step store (.command (.resolveTaskBlocker command) context) =
      .ok { store.writeTask task unblocked unblocked_columns with
        blockers := store.blockers.update (fun row => row.id = blocker.id)
          (resolved command context (unblocked task).aggregateRevision) (resolved_columns _ _ _) } := by
  simp only [step, map_fst_ok, execute, resolveTaskBlocker, bind_ok, raiseIf_ok, exists_unit,
    pure_ok, Prod.mk.injEq, Prod.exists, orRaise_ok, Decidable.not_not]
  exact ⟨_, task, membershipId, found, blocker, looked, opened, rfl, rfl⟩

/-- Resolving one of several OPEN blockers leaves an IN_PROGRESS task with an OPEN blocker. -/
theorem resolvesLastBlocker_of_consistent {store : Store} {input : Input}
    (after : Consistent (commit step store input)) : ResolvesLastBlocker store input := by
  cases input with
  | foreign => exact True.intro
  | command command context =>
    cases command with
    | resolveTaskBlocker command =>
      intro task membershipId blocker found looked opened other member openOn
      by_contra different
      rw [commit_ok (resolveTaskBlocker_accepted found looked opened)] at after
      obtain ⟨stored, _⟩ := commandedTask_ok found
      have remaining : other.OpenOn (unblocked task) :=
        (openOn_congr (unblocked_columns task)).mpr openOn
      have kept : other.id ≠ blocker.id := fun same =>
        different (Table.eq_of_conflict member (findBlocker_some looked).1 same)
      have reopened : unblocked task ∈ (store.writeTask task unblocked unblocked_columns).tasks :=
        (mem_writeTask stored).mpr (.inl rfl)
      have among : other ∈ store.blockers.update (fun row => row.id = blocker.id)
          (resolved command context (unblocked task).aggregateRevision) (resolved_columns _ _ _) :=
        (mem_resolve (findBlocker_some looked).1).mpr (.inr ⟨member, kept⟩)
      have state := (after.blocked_iff (unblocked task) reopened).mpr ⟨other, among, remaining⟩
      simp [unblocked] at state
    | _ => exact True.intro

/-- A run keeps tasks and blockers consistent exactly when every ResolveTaskBlocker that passes its
    guards names the last OPEN blocker of its task. -/
theorem runConsistent_iff_resolves_last_blocker (inputs : List Input) :
    RunConsistent inputs ↔ Along step ResolvesLastBlocker .empty inputs := by
  constructor
  · intro consistent
    rw [along_iff_each]
    intro first input before
    have after := consistent.consistent _ before
    rw [run_append] at after
    exact resolvesLastBlocker_of_consistent after
  · intro along
    refine ⟨fun first before => (run_holds (along.initial before)).toConsistent, ?_⟩
    intro first middle before
    obtain ⟨early, late⟩ := Along.append.mp (along.initial before)
    rw [run_append]
    exact run_completedKept (run_holds early) late

section Reopening

def collaborator : CommandContext := ⟨1, 2, .collaborateur, 100, some 3, some 4⟩

/-- Two blockers are declared on one task; the first is resolved, the task is completed, and the
    second is resolved last. -/
def reopeningRun : List Input := [
  .foreign (.singleton ⟨4, 1, .active, "scope", some 5, 0⟩) (.singleton ⟨6, 1, 60, 5, 61, .siteVisit, .requiredSignal⟩)
    (.singleton ⟨7, 1, 3, 4, .active, 0, none, [.workTaskWrite], [.internalOperational], 0, 9, 0, none⟩),
  .command (.createTaskFromRequirement
    ⟨⟨20, 20, none⟩, 10, 7, 4, 6, .siteVisit, "Visite", "Visiter le site", none⟩) collaborator,
  .command (.declareTaskBlocker
    ⟨⟨21, 21, none⟩, 10, 0, 11, .missingInformation, "Plan absent", none, .collaborateur⟩) collaborator,
  .command (.declareTaskBlocker
    ⟨⟨22, 22, none⟩, 10, 1, 12, .reviewRequired, "Accord requis", none, .patronAdmin⟩) collaborator,
  .command (.resolveTaskBlocker ⟨⟨23, 23, none⟩, 10, 11, 2, "Plan recu"⟩) collaborator,
  .command (.recordTaskResult ⟨⟨24, 24, none⟩, 10, 3, "Fait", none, .recorded⟩ 30) collaborator,
  .command (.completeTask ⟨⟨25, 25, none⟩, 10, 4⟩) collaborator,
  .command (.resolveTaskBlocker ⟨⟨26, 26, none⟩, 10, 12, 5, "Accord donne"⟩) collaborator]

instance (blocker : CollaboratorTaskBlockerRecord) (task : CollaboratorTaskRecord)  :
    Decidable (blocker.OpenOn task) :=
  inferInstanceAs (Decidable (_ ∧ _ ∧ _))

theorem reopeningRun_inconsistent :
    ¬ Consistent (run step .empty (reopeningRun.take 5)) ∧
      ¬ CompletedKept (run step .empty (reopeningRun.take 7)) (run step .empty reopeningRun) ∧
      ¬ Consistent (run step .empty reopeningRun) ∧ ¬ RunConsistent reopeningRun := by
  have early : ¬ Consistent (run step .empty (reopeningRun.take 5)) := fun consistent =>
    absurd consistent.blocked_iff (by decide +kernel)
  have late : ¬ CompletedKept (run step .empty (reopeningRun.take 7)) (run step .empty reopeningRun) := by
    unfold CompletedKept
    decide +kernel
  exact ⟨early, late, fun consistent => absurd consistent.completed_iff (by decide +kernel),
    fun holds => early (holds.consistent _ ⟨_, List.take_append_drop 5 _⟩)⟩

end Reopening

end Runs

end SmartAo.Membership
