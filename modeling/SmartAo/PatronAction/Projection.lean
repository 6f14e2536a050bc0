import SmartAo.PatronAction.Actions

namespace SmartAo.PatronAction

open SmartAo.Foundation SmartAo.Platform

/-- Transitions belong to stored actions, and the row of an action shows its latest one. -/
structure Projected (store : ActionStore) : Prop where
  owned : ∀ transition ∈ store.transitions, ∃ action ∈ store.actions, action.id = transition.actionId
  shown : ∀ action ∈ store.actions, ∀ transition,
    store.latestTransition action.tenantId action.id = some transition → transition.toState = action.state

variable {store next : ActionStore} {context : CommandContext} {outcome : HandlerOutcome}

theorem Projected.currentState (holds : Projected store) {action : PatronActionRecord}
    (stored : action ∈ store.actions) :
    ((store.latestTransition action.tenantId action.id).map (·.toState)).getD action.state =
      action.state := by
  cases looked : store.latestTransition action.tenantId action.id with
  | none => rfl
  | some transition => exact holds.shown action stored transition looked

/-- A new action has no transition. -/
theorem projected_insert (holds : Projected store) {record : PatronActionRecord}
    {actions : Table PatronActionRecord} (inserted : store.actions.insert? record = some actions) :
    Projected { store with actions } := by
  refine ⟨fun transition member => ?_, fun action member transition looked => ?_⟩
  · obtain ⟨action, stored, same⟩ := holds.owned transition member
    exact ⟨action, (Table.mem_insert? inserted).mpr (.inl stored), same⟩
  · rcases (Table.mem_insert? inserted).mp member with old | rfl
    · exact holds.shown action old transition looked
    · obtain ⟨present, matched⟩ := Table.latest_mem looked
      obtain ⟨owner, stored, same⟩ := holds.owned transition present
      simp only [decide_eq_true_eq] at matched
      have conflict := Table.insert?_absent inserted owner stored
      exact absurd (.inl (same.trans matched.2)) conflict

theorem projected_create {command : CreatePatronActionCommand} (holds : Projected store)
    (accepted : createPatronAction store command context = .ok (next, outcome)) : Projected next := by
  simp only [createPatronAction, bind_ok, raiseIf_ok, exists_unit, pure_ok, Prod.mk.injEq, flush,
    orRaise_ok] at accepted
  obtain ⟨_, _, actions, inserted, rfl, _⟩ := accepted
  exact projected_insert holds inserted

theorem projected_createFromLink {tenantId caseId linkId : Uuid} {created : Option PatronActionRecord}
    (holds : Projected store)
    (accepted : createFromRiskRequirementLink store tenantId caseId linkId = .ok (next, created)) :
    Projected next := by
  unfold createFromRiskRequirementLink at accepted
  cases taken : store.withKey tenantId (linkActionKey linkId) with
  | some action =>
    simp only [taken, pure_ok, Prod.mk.injEq] at accepted
    rw [← accepted.1]
    exact holds
  | none =>
    simp only [taken, bind_ok, pure_ok, Prod.mk.injEq, flush, orRaise_ok] at accepted
    obtain ⟨actions, inserted, rfl, _⟩ := accepted
    exact projected_insert holds inserted

/-- An accepted transition appends one row beyond the latest and moves its action. -/
theorem transitionPatronAction_ok {command : TransitionPatronActionCommand}
    (accepted : transitionPatronAction store command context = .ok (next, outcome)) :
    ∃ action ∈ store.actions, action.tenantId = context.tenantId ∧
      ∃ transition : PatronActionTransitionRecord, transition.tenantId = action.tenantId ∧
        transition.actionId = action.id ∧
        (∀ stored ∈ store.transitions, stored.tenantId = action.tenantId → stored.actionId = action.id →
          stored.aggregateRevision < transition.aggregateRevision) ∧
        ∃ transitions, store.transitions.insert? transition = some transitions ∧
          { actions := store.actions.update (fun row => row.id = action.id)
              (moved transition.toState transition.aggregateRevision) (moved_columns _ _)
            transitions } = next := by
  simp only [transitionPatronAction, bind_ok, raiseIf_ok, exists_unit, orRaise_ok, pure_ok,
    Prod.mk.injEq, flush] at accepted
  obtain ⟨action, found, _, _, _, transitions, inserted, same, _⟩ := accepted
  have matched := Table.find?_query found
  simp only [decide_eq_true_eq] at matched
  refine ⟨action, Table.find?_mem found, matched.1, _, matched.1.symm, rfl, ?_, transitions, inserted, same⟩
  intro stored member tenant owner
  have query : decide (stored.tenantId = context.tenantId ∧ stored.actionId = action.id) = true :=
    decide_eq_true ⟨tenant.trans matched.1, owner⟩
  cases looked : store.latestTransition context.tenantId action.id with
  | none =>
    have missed := Table.latest_none.mp looked stored member
    rw [query] at missed
    cases missed
  | some latest =>
    have bound : stored.aggregateRevision ≤ latest.aggregateRevision := Table.latest_le looked member query
    show stored.aggregateRevision < latest.aggregateRevision + 1
    omega

theorem projected_transition {command : TransitionPatronActionCommand} (holds : Projected store)
    (accepted : transitionPatronAction store command context = .ok (next, outcome)) : Projected next := by
  obtain ⟨action, stored, _, transition, tenant, owner, beyond, transitions, inserted, rfl⟩ :=
    transitionPatronAction_ok accepted
  have key : ∀ {first second : PatronActionRecord}, decide (first.id = action.id) = true →
      decide (second.id = action.id) = true → Schema.Conflict first second := by
    intro first second hf hs
    exact .inl ((of_decide_eq_true hf).trans (of_decide_eq_true hs).symm)
  have rows {other : PatronActionRecord} : other ∈ store.actions.update (fun row => row.id = action.id)
      (moved transition.toState transition.aggregateRevision) (moved_columns _ _) ↔
        other = moved transition.toState transition.aggregateRevision action ∨
          (other ∈ store.actions ∧ decide (other.id = action.id) = false) :=
    Table.mem_update_key key stored (by simp)
  refine ⟨fun appended member => ?_, fun other member latest looked => ?_⟩
  · obtain ⟨old, present, same⟩ : ∃ old ∈ store.actions, old.id = appended.actionId := by
      rcases (Table.mem_insert? inserted).mp member with old | rfl
      · exact holds.owned appended old
      · exact ⟨action, stored, owner.symm⟩
    by_cases moves : old.id = action.id
    · exact ⟨moved transition.toState transition.aggregateRevision action, rows.mpr (.inl rfl),
        moves.symm.trans same⟩
    · exact ⟨old, rows.mpr (.inr ⟨present, decide_eq_false moves⟩), same⟩
  · rcases rows.mp member with rfl | ⟨present, different⟩
    · have newest : transitions.latest (fun row => row.tenantId = action.tenantId ∧
          row.actionId = action.id) (·.aggregateRevision) = some transition := by
        apply Table.latest_insert? inserted
        · exact decide_eq_true ⟨tenant, owner⟩
        · intro row kept matched
          exact beyond row kept (of_decide_eq_true matched).1 (of_decide_eq_true matched).2
      rw [Option.some.inj (newest.symm.trans looked)]
      rfl
    · have outside : decide (transition.tenantId = other.tenantId ∧ transition.actionId = other.id) = false := by
        refine decide_eq_false fun ⟨_, same⟩ => ?_
        exact of_decide_eq_false different (same.symm.trans owner)
      have unchanged : transitions.latest (fun row => row.tenantId = other.tenantId ∧
          row.actionId = other.id) (·.aggregateRevision) = store.latestTransition other.tenantId other.id :=
        Table.latest_insert?_of_not inserted outside
      exact holds.shown other present latest (unchanged.symm.trans looked)

end SmartAo.PatronAction
