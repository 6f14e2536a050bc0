import SmartAo.PatronAction.Actions
import SmartAo.Foundation.Chain
import SmartAo.Foundation.Sessions

namespace SmartAo.PatronAction

open SmartAo.Foundation SmartAo.Platform

/-- A command that creates an action, for a patron or from another module, or that moves one. -/
inductive ActionCommand where
  | create (command : CreatePatronActionCommand) (context : CommandContext)
  | reviewTransmission (tenantId caseId transmissionId : Uuid)
  | decideLink (tenantId caseId linkId : Uuid)
  | transition (command : TransitionPatronActionCommand) (context : CommandContext)

def openedAction (id tenantId : Uuid) (caseId : Option Uuid) (functionalKey : String) (actionType : ActionType)
    (severity : Severity) : PatronActionRecord :=
  { id, tenantId, caseId, functionalKey, actionType, severity, state := .open, aggregateRevision := 1 }

/-- The key is looked up before the action is inserted. -/
def createSession (view : Nat → ActionStore) (store : ActionStore) (command : CreatePatronActionCommand)
    (context : CommandContext) : Transaction ActionStore := do
  raiseIf (context.actorKind ≠ .patronAdmin ∨ context.membershipId = none) (.execution "PATRON_REQUIRED")
  raiseIf ((view 0).withKey context.tenantId command.functionalKey ≠ none)
    (.execution "PATRON_ACTION_ALREADY_EXISTS")
  let actions ← flush (store.actions.insert? (openedAction command.actionId context.tenantId command.caseId
    command.functionalKey command.actionType command.severity))
  return { store with actions }

def raiseSession (view : Nat → ActionStore) (store : ActionStore) (record : PatronActionRecord) :
    Transaction ActionStore :=
  match (view 0).withKey record.tenantId record.functionalKey with
  | some _ => return store
  | none => do
    let actions ← flush (store.actions.insert? record)
    return { store with actions }

/-- A transition reads its action and then the latest transition; no lock is counted on. -/
def transitionSession (view : Nat → ActionStore) (store : ActionStore) (command : TransitionPatronActionCommand)
    (context : CommandContext) : Transaction ActionStore := do
  let action ← orRaise
    ((view 0).actions.find? fun row => row.tenantId = context.tenantId ∧ row.id = command.actionId)
    (.execution "NOT_FOUND_OR_FORBIDDEN")
  let latest := (view 1).latestTransition context.tenantId action.id
  let currentState := (latest.map (·.toState)).getD action.state
  let currentRevision := (latest.map (·.aggregateRevision)).getD action.aggregateRevision
  raiseIf (currentRevision ≠ command.expectedRevision) (.execution "VERSION_CONFLICT")
  raiseIf (currentState.closed = true) (.execution "ACTION_ALREADY_CLOSED")
  raiseIf (command.targetState ∉ currentState.allowedTransitions) (.execution "INVALID_STATE_TRANSITION")
  let transition : PatronActionTransitionRecord := {
    id := command.transitionId, tenantId := context.tenantId, actionId := action.id,
    fromState := currentState, toState := command.targetState, reasonCode := command.reasonCode,
    aggregateRevision := currentRevision + 1, commandId := command.commandId }
  let transitions ← flush (store.transitions.insert? transition)
  return {
    actions := store.actions.update (fun row => row.id = action.id)
      (moved transition.toState transition.aggregateRevision) (moved_columns _ _)
    transitions }

def ActionCommand.execute (view : Nat → ActionStore) (store : ActionStore) : ActionCommand → Transaction ActionStore
  | .create command context => createSession view store command context
  | .reviewTransmission tenantId caseId transmissionId => raiseSession view store
      (openedAction transmissionId tenantId (some caseId) (transmissionActionKey transmissionId) .reviewPreparation
        .blocking)
  | .decideLink tenantId caseId linkId => raiseSession view store
      (openedAction linkId tenantId (some caseId) (linkActionKey linkId) .decideGoNoGo .blocking)
  | .transition command context => transitionSession view store command context

def finishAction (session : Session ActionStore ActionCommand) (store : ActionStore) : Transaction ActionStore :=
  session.command.execute (session.view store) store

/-- The commands on patron actions, interleaved statement by statement. -/
def interleave (state : Sessions ActionStore ActionCommand) (input : SessionInput Empty ActionCommand) :
    Transaction (Sessions ActionStore ActionCommand) := state.step (fun _ => Empty.elim) finishAction input

def idle : Sessions ActionStore ActionCommand := ⟨.empty, []⟩

/-- A row of the patron's queue. -/
structure PatronActionProjection where
  actionId : Uuid
  caseId : Option Uuid
  functionalKey : String
  actionType : ActionType
  severity : Severity
  state : PatronActionState
  aggregateRevision : Nat
deriving DecidableEq

/-- `list_open` of the queue, without its order. -/
def listOpen (store : ActionStore) (tenantId : Uuid) : List PatronActionProjection :=
  (store.actions.rows.filter fun row => row.tenantId = tenantId ∧
    row.state ∈ [PatronActionState.open, .inProgress, .waiting]).filterMap fun row =>
      let latest := store.latestTransition tenantId row.id
      let state : PatronActionState := (latest.map (·.toState)).getD row.state
      if state.closed = true then none
      else some {
        actionId := row.id, caseId := row.caseId, functionalKey := row.functionalKey,
        actionType := row.actionType, severity := row.severity, state,
        aggregateRevision := (latest.map (·.aggregateRevision)).getD row.aggregateRevision }

/-- What `list_open` of the transition service shows of an action. -/
structure OpenAction where
  actionId : Uuid
  caseId : Option Uuid
  severity : Severity
  state : PatronActionState
deriving DecidableEq

def listOpenForTransition (store : ActionStore) (tenantId : Uuid) : List OpenAction :=
  (store.actions.rows.filter fun row => row.tenantId = tenantId ∧
    row.state ∉ [PatronActionState.completed, .abandoned]).filterMap fun row =>
      let state : PatronActionState := ((store.latestTransition tenantId row.id).map (·.toState)).getD row.state
      if state.closed = true then none
      else some { actionId := row.id, caseId := row.caseId, severity := row.severity, state }

abbrev actionSteps : Steps PatronActionTransitionRecord PatronActionState where
  version := (·.aggregateRevision)
  before := (·.fromState)
  after := (·.toState)

def ofAction (tenantId actionId : Uuid) (row : PatronActionTransitionRecord) : Bool :=
  row.tenantId = tenantId ∧ row.actionId = actionId

/-- The transitions of an action, in the order they were committed. -/
def transitionsOf (store : ActionStore) (action : PatronActionRecord) : List PatronActionTransitionRecord :=
  store.transitions.rows.filter (ofAction action.tenantId action.id)

/-- The revision and the state that the transitions of an action lead to, from its creation. -/
def reached (store : ActionStore) (action : PatronActionRecord) : Nat × PatronActionState :=
  actionSteps.position (1, .open) (transitionsOf store action)

def Allowed (first second : PatronActionState) : Prop := second ∈ first.allowedTransitions

/-- The transitions of every action follow the table with consecutive revisions, and its row shows the last. -/
structure ActionHistory (store : ActionStore) : Prop where
  owned : ∀ transition ∈ store.transitions, ∃ action ∈ store.actions,
    ofAction action.tenantId action.id transition = true
  chained : ∀ action ∈ store.actions, actionSteps.Chain Allowed (1, .open) (transitionsOf store action)
  current : ∀ action ∈ store.actions, (action.aggregateRevision, action.state) = reached store action

/-- Actions keep what they were created with, and transitions stay. -/
structure Grows (old new : ActionStore) : Prop where
  actions : ∀ action ∈ old.actions, ∃ later ∈ new.actions, later = moved later.state later.aggregateRevision action
  transitions : old.transitions.rows <+: new.transitions.rows

/-- A completed or abandoned action stays as it is. -/
def Absorbed (old new : ActionStore) : Prop := ∀ action ∈ old.actions, action.state.closed = true →
  action ∈ new.actions ∧ transitionsOf new action = transitionsOf old action

/-- The actions of a tenant whose last transition is not terminal. -/
def openIds (store : ActionStore) (tenantId : Uuid) : List Uuid :=
  (store.actions.rows.filter fun action =>
    action.tenantId = tenantId ∧ (reached store action).2.closed = false).map (·.id)

structure ListsOpen (store : ActionStore) : Prop where
  queue : ∀ tenantId, (listOpen store tenantId).map (·.actionId) = openIds store tenantId
  transition : ∀ tenantId, (listOpenForTransition store tenantId).map (·.actionId) = openIds store tenantId

variable {view : Nat → ActionStore} {store next old new : ActionStore} {context : CommandContext}
  {action : PatronActionRecord}

/-- A command whose statements all see the store it commits in is the handler. -/
theorem createSession_alone (store : ActionStore) (command : CreatePatronActionCommand) (context : CommandContext) :
    createSession (fun _ => store) store command context = (createPatronAction store command context).map (·.1) := by
  simp only [createSession, createPatronAction, openedAction, Foundation.map_bind, Foundation.map_pure]

theorem raiseSession_transmission (store : ActionStore) (tenantId caseId transmissionId : Uuid) :
    (ActionCommand.reviewTransmission tenantId caseId transmissionId).execute (fun _ => store) store =
      (createFromPreparationTransmission store tenantId caseId transmissionId).map (·.1) := by
  unfold ActionCommand.execute raiseSession createFromPreparationTransmission openedAction
  dsimp only
  cases store.withKey tenantId (transmissionActionKey transmissionId) with
  | some _ => rfl
  | none => simp only [Foundation.map_bind, Foundation.map_pure]

theorem raiseSession_link (store : ActionStore) (tenantId caseId linkId : Uuid) :
    (ActionCommand.decideLink tenantId caseId linkId).execute (fun _ => store) store =
      (createFromRiskRequirementLink store tenantId caseId linkId).map (·.1) := by
  unfold ActionCommand.execute raiseSession createFromRiskRequirementLink openedAction
  dsimp only
  cases store.withKey tenantId (linkActionKey linkId) with
  | some _ => rfl
  | none => simp only [Foundation.map_bind, Foundation.map_pure]

theorem transitionSession_alone (store : ActionStore) (command : TransitionPatronActionCommand)
    (context : CommandContext) : transitionSession (fun _ => store) store command context =
      (transitionPatronAction store command context).map (·.1) := by
  simp only [transitionSession, transitionPatronAction, Foundation.map_bind, Foundation.map_pure]

theorem ofAction_iff {tenantId actionId : Uuid} {row : PatronActionTransitionRecord} :
    ofAction tenantId actionId row = true ↔ row.tenantId = tenantId ∧ row.actionId = actionId := decide_eq_true_iff

theorem Grows.refl (store : ActionStore) : Grows store store :=
  ⟨fun action member => ⟨action, member, rfl⟩, List.prefix_refl _⟩

theorem Grows.trans {first second third : ActionStore} (before : Grows first second) (after : Grows second third) :
    Grows first third where
  actions action member := by
    obtain ⟨middle, stored, same⟩ := before.actions action member
    obtain ⟨later, present, equal⟩ := after.actions middle stored
    refine ⟨later, present, ?_⟩
    rw [equal, same]
    rfl
  transitions := before.transitions.trans after.transitions

theorem actionHistory_empty : ActionHistory .empty where
  owned _ member := absurd member Table.not_mem_empty
  chained _ member := absurd member Table.not_mem_empty
  current _ member := absurd member Table.not_mem_empty

theorem ActionHistory.insert (history : ActionHistory store) {record : PatronActionRecord}
    {actions : Table PatronActionRecord} (fresh : record.state = .open ∧ record.aggregateRevision = 1)
    (inserted : store.actions.insert? record = some actions) :
    ActionHistory { store with actions } ∧ Grows store { store with actions } := by
  have none : transitionsOf store record = [] := by
    refine List.filter_eq_nil_iff.mpr fun transition member matched => ?_
    obtain ⟨owner, stored, its⟩ := history.owned transition member
    have same : owner.id = record.id := (ofAction_iff.mp its).2.symm.trans (ofAction_iff.mp matched).2
    exact Table.insert?_absent inserted owner stored (.inl same)
  refine ⟨⟨fun transition member => ?_, fun action member => ?_, fun action member => ?_⟩, fun action member =>
    ⟨action, (Table.mem_insert? inserted).mpr (.inl member), rfl⟩, List.prefix_refl _⟩
  · obtain ⟨action, stored, its⟩ := history.owned transition member
    exact ⟨action, (Table.mem_insert? inserted).mpr (.inl stored), its⟩
  · rcases (Table.mem_insert? inserted).mp member with old | rfl
    · exact history.chained action old
    · show actionSteps.Chain Allowed (1, .open) (transitionsOf store action)
      rw [none]
      exact .nil
  · rcases (Table.mem_insert? inserted).mp member with old | rfl
    · exact history.current action old
    · show _ = actionSteps.position (1, .open) (transitionsOf store action)
      rw [none, fresh.1, fresh.2]
      rfl

/-- The row of an action, read before its latest transition, shows nothing that the transition does not. -/
theorem ActionHistory.seen (history : ActionHistory old) (member : action ∈ old.actions) (later : Grows old new) :
    ((new.latestTransition action.tenantId action.id).map (·.toState)).getD action.state =
        (actionSteps.shown (1, .open) new.transitions (ofAction action.tenantId action.id)).2 ∧
      ((new.latestTransition action.tenantId action.id).map (·.aggregateRevision)).getD action.aggregateRevision =
        (actionSteps.shown (1, .open) new.transitions (ofAction action.tenantId action.id)).1 := by
  have looked : new.latestTransition action.tenantId action.id =
      new.transitions.latest (ofAction action.tenantId action.id) actionSteps.version := rfl
  rw [Steps.shown_fst, Steps.shown_snd, looked]
  cases found : new.transitions.latest (ofAction action.tenantId action.id) actionSteps.version with
  | some latest => exact ⟨rfl, rfl⟩
  | none =>
    have empty : transitionsOf old action = [] := by
      refine List.filter_eq_nil_iff.mpr fun transition stored matched => ?_
      have missed := Table.latest_none.mp found transition (later.transitions.subset stored)
      rw [matched] at missed
      cases missed
    have current := history.current action member
    rw [reached, empty, Steps.position_nil, Prod.mk.injEq] at current
    exact ⟨current.2, current.1⟩

/-- What a transition session writes. -/
structure Transitions (view : Nat → ActionStore) (store next : ActionStore) (action : PatronActionRecord)
    (transition : PatronActionTransitionRecord) : Prop where
  read : action ∈ (view 0).actions
  its : ofAction action.tenantId action.id transition = true
  before : transition.fromState =
    (((view 1).latestTransition action.tenantId action.id).map (·.toState)).getD action.state
  version : transition.aggregateRevision =
    (((view 1).latestTransition action.tenantId action.id).map (·.aggregateRevision)).getD action.aggregateRevision + 1
  move : Allowed transition.fromState transition.toState
  inserted : store.transitions.insert? transition = some next.transitions
  actions : next.actions = store.actions.update (fun row => row.id = action.id)
    (moved transition.toState transition.aggregateRevision) (moved_columns _ _)

theorem transitionSession_ok {command : TransitionPatronActionCommand}
    (accepted : transitionSession view store command context = .ok next) :
    ∃ action transition, Transitions view store next action transition := by
  simp only [transitionSession, bind_ok, raiseIf_ok, exists_unit, orRaise_ok, pure_ok, flush,
    Decidable.not_not] at accepted
  obtain ⟨action, found, _, _, move, transitions, inserted, same⟩ := accepted
  have matched := Table.find?_query found
  simp only [decide_eq_true_eq] at matched
  rw [← matched.1] at inserted move same
  subst same
  refine ⟨action, _, Table.find?_mem found, ?_, ?_, ?_, ?_, inserted, rfl⟩
  · exact ofAction_iff.mpr ⟨rfl, rfl⟩
  · rfl
  · rfl
  · exact move

theorem Transitions.history {transition : PatronActionTransitionRecord}
    (written : Transitions view store next action transition) (history : ActionHistory store)
    (seen : ActionHistory (view 0)) (first : Grows (view 0) (view 1))
    (second : Grows (view 1) store) : ActionHistory next ∧ Grows store next := by
  obtain ⟨shows, version⟩ := seen.seen written.read first
  obtain ⟨stored, member, same⟩ := (first.trans second).actions action written.read
  have named : stored.tenantId = action.tenantId ∧ stored.id = action.id := by
    rw [same]
    exact ⟨rfl, rfl⟩
  have chain : actionSteps.Chain Allowed (1, .open)
      (store.transitions.rows.filter (ofAction action.tenantId action.id)) := by
    have its := history.chained stored member
    rw [transitionsOf, named.1, named.2] at its
    exact its
  obtain ⟨rows, extended, _⟩ := chain.insert second.transitions written.inserted written.its
    (fun other _ matched equal => by
      obtain ⟨tenant, owner⟩ := ofAction_iff.mp matched
      obtain ⟨its, mine⟩ := ofAction_iff.mp written.its
      exact .inr ⟨tenant.trans its.symm, .inl (Prod.ext (owner.trans mine.symm) equal)⟩)
    (written.version.trans (congrArg (· + 1) version)) (written.before.trans shows) written.move
  have others : ∀ other : PatronActionRecord, other.id ≠ action.id →
      transitionsOf next other = transitionsOf store other := by
    intro other different
    have outside : ofAction other.tenantId other.id transition = false := by
      rw [Bool.eq_false_iff]
      intro matched
      exact different ((ofAction_iff.mp matched).2.symm.trans (ofAction_iff.mp written.its).2)
    rw [transitionsOf, Table.filter_insert? written.inserted, outside]
    exact List.append_nil _
  have cases : ∀ other ∈ next.actions, (other ∈ store.actions ∧ other.id ≠ action.id) ∨
      other = moved transition.toState transition.aggregateRevision stored := by
    intro other listed
    rw [written.actions] at listed
    rcases Table.mem_update_cases listed with ⟨old, outside⟩ | ⟨row, old, inside, rfl⟩
    · exact .inl ⟨old, by simpa using outside⟩
    · have equal : row = stored :=
        Table.eq_of_conflict old member (.inl ((of_decide_eq_true inside).trans named.2.symm))
      rw [equal]
      exact .inr rfl
  have mine : transitionsOf next (moved transition.toState transition.aggregateRevision stored) =
      next.transitions.rows.filter (ofAction action.tenantId action.id) := by
    rw [← named.1, ← named.2]
    rfl
  have grows : Grows store next := by
    refine ⟨fun other listed => ?_, ?_⟩
    · rw [written.actions]
      by_cases its : other.id = action.id
      · exact ⟨_, Table.mem_update_of listed (by simpa using its), rfl⟩
      · exact ⟨other, Table.mem_update_of_not listed (by simpa using its), rfl⟩
    · rw [Table.insert?_rows written.inserted]
      exact List.prefix_append _ _
  refine ⟨⟨fun appended listed => ?_, fun other listed => ?_, fun other listed => ?_⟩, grows⟩
  · have owner : ∃ action ∈ store.actions, ofAction action.tenantId action.id appended = true := by
      rcases (Table.mem_insert? written.inserted).mp listed with old | rfl
      · exact history.owned appended old
      · refine ⟨stored, member, ?_⟩
        rw [named.1, named.2]
        exact written.its
    obtain ⟨owner, old, its⟩ := owner
    obtain ⟨later, present, equal⟩ := grows.actions owner old
    refine ⟨later, present, ?_⟩
    rw [equal]
    exact its
  · rcases cases other listed with ⟨old, different⟩ | rfl
    · rw [others other different]
      exact history.chained other old
    · rw [mine]
      exact extended
  · rcases cases other listed with ⟨old, different⟩ | rfl
    · rw [reached, others other different]
      exact history.current other old
    · rw [reached, mine, rows, Steps.position_concat]
      rfl

theorem finishAction_history {session : Session ActionStore ActionCommand}
    (saw : (session.seen ++ [store]).Pairwise Grows) (seen : ∀ old ∈ session.seen ++ [store], ActionHistory old)
    (accepted : finishAction session store = .ok next) : ActionHistory next ∧ Grows store next := by
  have history : ActionHistory store := seen store (by simp)
  have raised : ∀ record : PatronActionRecord, record.state = .open ∧ record.aggregateRevision = 1 →
      raiseSession (session.view store) store record = .ok next → ActionHistory next ∧ Grows store next := by
    intro record fresh accepted
    unfold raiseSession at accepted
    split at accepted
    · rw [← pure_ok.mp accepted]
      exact ⟨history, Grows.refl store⟩
    · simp only [bind_ok, orRaise_ok, pure_ok, flush] at accepted
      obtain ⟨actions, inserted, rfl⟩ := accepted
      exact history.insert fresh inserted
  unfold finishAction ActionCommand.execute at accepted
  split at accepted
  · simp only [createSession, bind_ok, raiseIf_ok, exists_unit, orRaise_ok, pure_ok, flush] at accepted
    obtain ⟨_, _, actions, inserted, rfl⟩ := accepted
    exact history.insert ⟨rfl, rfl⟩ inserted
  · exact raised _ ⟨rfl, rfl⟩ accepted
  · exact raised _ ⟨rfl, rfl⟩ accepted
  · obtain ⟨action, transition, written⟩ := transitionSession_ok accepted
    exact written.history history (seen _ (session.view_mem store 0))
      (session.view_view Grows.refl saw Nat.zero_lt_one) (session.view_store Grows.refl saw 1)

theorem ActionHistory.absorbed (history : ActionHistory old) (later : ActionHistory new) (grows : Grows old new) :
    Absorbed old new := by
  intro action member closed
  obtain ⟨kept, present, same⟩ := grows.actions action member
  have current := history.current action member
  have chain : actionSteps.Chain Allowed (1, .open) (transitionsOf new action) := by
    have its := later.chained kept present
    rw [same] at its
    exact its
  have final : (kept.aggregateRevision, kept.state) = reached new action := by
    have its := later.current kept present
    rw [its, same]
    rfl
  have older : transitionsOf old action <+: transitionsOf new action := grows.transitions.filter _
  have equal : transitionsOf new action = transitionsOf old action := by
    obtain ⟨rest, appended⟩ := older
    rcases List.eq_nil_or_concat (transitionsOf old action) with empty | ⟨first, last, split⟩
    · rw [reached, empty, Steps.position_nil, Prod.mk.injEq] at current
      rw [current.2] at closed
      cases closed
    · rw [List.concat_eq_append] at split
      rw [reached, split, Steps.position_concat, Prod.mk.injEq] at current
      have none : rest = [] := by
        have whole : transitionsOf new action = first ++ last :: rest := by
          rw [← appended, split, List.append_assoc]
          rfl
        refine chain.absorbs action.state (fun state move => ?_) whole current.2.symm
        have nowhere := (PatronActionState.closed_iff_final action.state).mp closed
        rw [Allowed, nowhere] at move
        exact List.not_mem_nil move
      rw [← appended, none, List.append_nil]
  have shown : (kept.aggregateRevision, kept.state) = (action.aggregateRevision, action.state) := by
    rw [final, reached, equal]
    exact current.symm
  rw [Prod.mk.injEq] at shown
  rw [shown.1, shown.2] at same
  have still : kept = action := same
  rw [still] at present
  exact ⟨present, equal⟩

theorem map_filterMap_filter {α β γ : Type} {items : List α} {keep other : α → Bool} {change : α → Option β}
    {shown : β → γ} {name : α → γ}
    (each : ∀ item ∈ items, (if keep item then (change item).map shown else none) =
      if other item then some (name item) else none) :
    ((items.filter keep).filterMap change).map shown = (items.filter other).map name := by
  induction items with
  | nil => rfl
  | cons item items ih =>
    have rest := ih fun later member => each later (List.mem_cons_of_mem _ member)
    have first := each item List.mem_cons_self
    cases kept : keep item <;> cases listed : other item <;> cases changed : change item <;>
      simp_all

theorem ActionHistory.lists (history : ActionHistory store) : ListsOpen store := by
  have shows : ∀ action ∈ store.actions,
      ((store.latestTransition action.tenantId action.id).map (·.toState)).getD action.state = action.state ∧
        action.state = (reached store action).2 := by
    intro action member
    have current := history.current action member
    have shown := (history.seen member (Grows.refl store)).1
    have chain : actionSteps.Chain Allowed (1, .open)
        (store.transitions.rows.filter (ofAction action.tenantId action.id)) := history.chained action member
    rw [chain.shown] at shown
    have state : action.state = (reached store action).2 := congrArg Prod.snd current
    exact ⟨shown.trans state.symm, state⟩
  constructor
  · intro tenantId
    refine map_filterMap_filter fun action member => ?_
    obtain ⟨shown, state⟩ := shows action member
    by_cases tenant : action.tenantId = tenantId
    · rw [tenant] at shown
      simp only [shown, ← state]
      cases action.state <;> simp [tenant, PatronActionState.closed]
    · simp [tenant]
  · intro tenantId
    refine map_filterMap_filter fun action member => ?_
    obtain ⟨shown, state⟩ := shows action member
    by_cases tenant : action.tenantId = tenantId
    · rw [tenant] at shown
      simp only [shown, ← state]
      cases action.state <;> simp [tenant, PatronActionState.closed]
    · simp [tenant]

/-- Whatever the commands and their interleaving, every action follows its history, both listings show the open
    ones, and a closed action stays as it is. -/
theorem patron_action_history (inputs : List (SessionInput Empty ActionCommand)) :
    (ActionHistory (run interleave idle inputs).store ∧ ListsOpen (run interleave idle inputs).store) ∧
      ∀ first, first <+: inputs → Absorbed (run interleave idle first).store (run interleave idle inputs).store := by
  have kept : ∀ inputs, ActionHistory (run interleave idle inputs).store ∧ ∀ first, first <+: inputs →
      Grows (run interleave idle first).store (run interleave idle inputs).store := by
    intro inputs
    exact Sessions.run_seen ActionHistory (fun _ _ => True) Grows.refl Grows.trans (fun _ input => input.elim)
      (fun _ _ _ saw seen _ accepted => finishAction_history saw seen accepted) actionHistory_empty rfl
      (Sessions.finishing_always idle inputs)
  obtain ⟨history, grows⟩ := kept inputs
  exact ⟨⟨history, history.lists⟩, fun first before => (kept first).1.absorbed history (grows first before)⟩

end SmartAo.PatronAction
