import SmartAo.Decision.Aggregate

namespace SmartAo.DecisionDomain

open SmartAo.Foundation SmartAo.Platform SmartAo.Decision

variable {decision next : Decision} {operation : DecisionOperation}

/-- A call of `approve_conditional_go` that passes its checks also gives what `_finalize` demands, and its
    conditions are still to be met. -/
def Completes (decision : Decision) : DecisionOperation → Prop
  | .approveConditionalGo fingerprint justification conditions approvedBy _ =>
    Decision.conditionalGoChecks fingerprint conditions decision = .ok () →
      (blank justification = false ∧ blank approvedBy = false) ∧
        (∀ condition ∈ conditions, condition.status ≠ .failed) ∧
        ∃ condition ∈ conditions, condition.status ≠ .satisfied ∧ condition.status ≠ .waived
  | _ => True

/-- The condition status that the outcome and the conditions call for. -/
def Decision.dueConditionStatus (decision : Decision) : DecisionConditionStatus :=
  if decision.outcome = .conditionalGo then Decision.deriveConditionStatus decision.conditions else .notApplicable

/-- What stays once a decision is final. -/
def Decision.settlement (decision : Decision) :
    Option DecisionContext × DecisionOutcome × Option String × Option String × Option Timestamp :=
  (decision.contextHistory.getLast?, decision.outcome, decision.finalJustification, decision.finalApprovedBy,
    decision.finalApprovedAt)

abbrev operated (decision : Decision) (operations : List DecisionOperation) : Decision :=
  run (Mutation.calls operate) decision operations

/-- The law of the aggregate over a sequence of operations, refused ones included. -/
structure DecisionLaw (decision : Decision) (operations : List DecisionOperation) : Prop where
  atomic : ∀ first operation, first ++ [operation] <+: operations → ∀ error next,
    operate operation (operated decision first) = .error error next → next = operated decision first
  revision : ∀ first, first <+: operations → (operated decision first).aggregateRevision =
    Mutation.returned operate decision first
  conditions : ∀ first, first <+: operations →
    ((operated decision first).conditions ≠ [] ↔ (operated decision first).outcome = .conditionalGo)
  conditionStatus : ∀ first, first <+: operations →
    (operated decision first).conditionStatus = (operated decision first).dueConditionStatus
  final : ∀ first second, first <+: second → second <+: operations →
    (operated decision first).lifecycle = .finalized →
      (operated decision second).settlement = (operated decision first).settlement

namespace Decision

theorem ensureNotFinalized_ok {done : Unit} : decision.ensureNotFinalized = .ok done ↔
    decision.lifecycle ≠ .finalized ∧ decision.lifecycle ≠ .superseded ∧ decision.lifecycle ≠ .cancelled := by
  simp only [ensureNotFinalized, bind_ok, raiseIf_ok, exists_unit, not_or, ne_eq]

theorem ensurePending_ok {fingerprint : String} {done : Unit}
    (passed : decision.ensurePendingCurrentContext fingerprint = .ok done) : decision.lifecycle = .pendingPatron := by
  simp only [ensurePendingCurrentContext, bind_ok, raiseIf_ok, exists_unit, not_not] at passed
  exact passed.2.1

theorem conditionalGoChecks_ok {fingerprint : String} {conditions : List DecisionCondition} {done : Unit}
    (passed : conditionalGoChecks fingerprint conditions decision = .ok done) :
    decision.lifecycle = .pendingPatron ∧ conditions ≠ [] := by
  simp only [conditionalGoChecks, bind_ok, raiseIf_ok, exists_unit] at passed
  exact ⟨ensurePending_ok passed.1, passed.2.1⟩

/-- The assignments of `_finalize`. -/
def finalizedAs (outcome : DecisionOutcome) (justification approvedBy : String) (approvedAt : Timestamp)
    (decision : Decision) : Decision :=
  { decision with
    lifecycle := .finalized
    outcome := outcome
    validity := .current
    finalJustification := some (strip justification)
    finalApprovedBy := some (strip approvedBy)
    finalApprovedAt := some approvedAt
    aggregateRevision := decision.aggregateRevision + 1 }

theorem finalize_bind_ok {outcome : DecisionOutcome} {justification approvedBy : String} {approvedAt : Timestamp}
    {rest : Unit → Operation} {done : Unit} :
    (finalize outcome justification approvedBy approvedAt >>= rest) decision = .ok done next ↔
      (blank justification = false ∧ blank approvedBy = false) ∧
        rest () (finalizedAs outcome justification approvedBy approvedAt decision) = .ok done next := by
  have blanks : (¬ (blank justification = true ∨ blank approvedBy = true)) ↔
      blank justification = false ∧ blank approvedBy = false := by simp
  rw [finalize, bind_assoc, Mutation.test_bind_ok, ← blanks]
  simp only [raiseIf_ok, exists_unit]
  rfl

theorem finalize_bind_error {outcome : DecisionOutcome} {justification approvedBy : String}
    {approvedAt : Timestamp} {rest : Unit → Operation} {error : DecisionDomainError}
    (raised : (finalize outcome justification approvedBy approvedAt >>= rest) decision = .error error next)
    (returns : ∀ state, ∃ later, rest () state = .ok () later) :
    (blank justification = true ∨ blank approvedBy = true) ∧ next = decision := by
  rw [finalize, bind_assoc, Mutation.test_bind_error] at raised
  rcases raised with ⟨refused, same⟩ | ⟨_, _, later⟩
  · have blanks : blank justification = true ∨ blank approvedBy = true := by
      by_contra none
      rw [raiseIf_pass none] at refused
      cases refused
    exact ⟨blanks, same.symm⟩
  · obtain ⟨left, returned⟩ := returns (finalizedAs outcome justification approvedBy approvedAt decision)
    have same : rest () (finalizedAs outcome justification approvedBy approvedAt decision) = .error error next := later
    rw [returned] at same
    cases same

end Decision

/-- What an operation that returns has changed. -/
inductive Change (decision : Decision) : DecisionOperation → Decision → Prop
  | prepared (context : DecisionContext) (modifiable : decision.lifecycle ≠ .finalized ∧
      decision.lifecycle ≠ .superseded ∧ decision.lifecycle ≠ .cancelled) :
    Change decision (.prepareContext context) { decision with
      contextHistory := decision.contextHistory ++ [context]
      lifecycle := .pendingPatron
      contextStatus := .frozen
      aggregateRevision := decision.aggregateRevision + 1
      pendingEvents := decision.pendingEvents ++ [.contextPrepared decision.id context.contextId context.fingerprint] }
  | approved (operation : DecisionOperation) (outcome : DecisionOutcome) (event : DecisionEvent)
      (justification approvedBy : String) (approvedAt : Timestamp) (pending : decision.lifecycle = .pendingPatron)
      (unconditional : outcome ≠ .conditionalGo) :
    Change decision operation { decision.finalizedAs outcome justification approvedBy approvedAt with
      conditionStatus := .notApplicable
      pendingEvents := decision.pendingEvents ++ [event] }
  | conditional (fingerprint justification approvedBy : String) (approvedAt : Timestamp)
      (conditions : List DecisionCondition)
      (checked : Decision.conditionalGoChecks fingerprint conditions decision = .ok ()) :
    Change decision (.approveConditionalGo fingerprint justification conditions approvedBy approvedAt) {
      decision.finalizedAs .conditionalGo justification approvedBy approvedAt with
      conditions := conditions
      conditionStatus := .open
      pendingEvents := decision.pendingEvents ++ [.conditionalGoApproved decision.id] }
  | satisfied (conditionId : Uuid) (evidenceReference : String) (observedAt : Timestamp)
      (condition : DecisionCondition) (conditions : List DecisionCondition)
      (final : decision.lifecycle = .finalized) (outcome : decision.outcome = .conditionalGo)
      (kept : conditions.length = decision.conditions.length) :
    Change decision (.recordConditionSatisfied conditionId evidenceReference observedAt) { decision with
      conditions := conditions
      conditionStatus := Decision.deriveConditionStatus conditions
      aggregateRevision := decision.aggregateRevision + 1
      pendingEvents := decision.pendingEvents ++ [.conditionSatisfied decision.id condition.id] }
  | reviewed (reason : String) (final : decision.lifecycle = .finalized) :
    Change decision (.markReviewRequired reason) { decision with
      validity := .reviewRequired
      contextStatus := .stale
      aggregateRevision := decision.aggregateRevision + 1
      pendingEvents := decision.pendingEvents ++ [.markedReviewRequired decision.id] }
  | superseded (successorDecisionId : Uuid) (rationale : String) (final : decision.lifecycle = .finalized) :
    Change decision (.supersede successorDecisionId rationale) { decision with
      lifecycle := .superseded
      validity := .superseded
      successorDecisionId := some successorDecisionId
      aggregateRevision := decision.aggregateRevision + 1
      pendingEvents := decision.pendingEvents ++ [.superseded decision.id successorDecisionId] }

theorem approveUnconditional_change (operation : DecisionOperation) {outcome : DecisionOutcome} {event : Uuid → DecisionEvent} {fingerprint justification approvedBy : String} {approvedAt : Timestamp} {done : Unit}
    (unconditional : outcome ≠ .conditionalGo)
    (returned : Decision.approveUnconditional outcome event fingerprint justification approvedBy approvedAt decision =
      .ok done next) : Change decision operation next := by
  rw [Decision.approveUnconditional, Mutation.test_bind_ok] at returned
  obtain ⟨_, checked, finalized⟩ := returned
  have later := (Decision.finalize_bind_ok.mp finalized).2
  cases later
  exact .approved operation outcome (event decision.id) justification approvedBy approvedAt
    (Decision.ensurePending_ok checked) unconditional

theorem operate_change {done : Unit} (returned : operate operation decision = .ok done next) :
    Change decision operation next := by
  cases operation with
  | prepareContext context =>
    simp only [operate, Decision.prepareContext, Mutation.test_bind_ok, exists_unit] at returned
    obtain ⟨modifiable, _, _, later⟩ := returned
    cases later
    exact .prepared context (Decision.ensureNotFinalized_ok.mp modifiable)
  | approveGo fingerprint justification approvedBy approvedAt =>
    exact approveUnconditional_change _ (by decide) returned
  | approveConditionalGo fingerprint justification conditions approvedBy approvedAt =>
    rw [operate, Decision.approveConditionalGo, Mutation.test_bind_ok] at returned
    obtain ⟨_, checked, finalized⟩ := returned
    rw [Mutation.assign_bind] at finalized
    have later := (Decision.finalize_bind_ok.mp finalized).2
    cases later
    exact .conditional fingerprint justification approvedBy approvedAt conditions checked
  | approveNoGo fingerprint justification approvedBy approvedAt =>
    exact approveUnconditional_change _ (by decide) returned
  | recordConditionSatisfied conditionId evidenceReference observedAt =>
    simp only [operate, Decision.recordConditionSatisfied, Mutation.test_bind_ok, exists_unit] at returned
    obtain ⟨final, outcome, condition, _, _, later⟩ := returned
    cases later
    have finalized : decision.lifecycle = .finalized := by simpa [Decision.ensureFinalized] using final
    exact .satisfied conditionId evidenceReference observedAt condition _ finalized (by simpa using outcome) List.length_replaceF
  | markReviewRequired reason =>
    simp only [operate, Decision.markReviewRequired, Mutation.test_bind_ok, exists_unit] at returned
    obtain ⟨final, _, later⟩ := returned
    cases later
    exact .reviewed reason (by simpa [Decision.ensureFinalized] using final)
  | supersede successorDecisionId rationale =>
    simp only [operate, Decision.supersede, Mutation.test_bind_ok, exists_unit] at returned
    obtain ⟨final, _, later⟩ := returned
    cases later
    exact .superseded successorDecisionId rationale (by simpa [Decision.ensureFinalized] using final)

theorem approveUnconditional_atomic {outcome : DecisionOutcome} {event : Uuid → DecisionEvent}
    {fingerprint justification approvedBy : String} {approvedAt : Timestamp} :
    (Decision.approveUnconditional outcome event fingerprint justification approvedBy approvedAt).AtomicAt decision := by
  apply Mutation.AtomicAt.test
  intro _ _ error next raised
  exact (Decision.finalize_bind_error raised fun state => ⟨_, rfl⟩).2

/-- An operation that raises changes the decision only where the conditions are assigned too early. -/
theorem operate_refused {error : DecisionDomainError} (raised : operate operation decision = .error error next) :
    next = decision ∨ ∃ fingerprint justification conditions approvedBy approvedAt,
      operation = .approveConditionalGo fingerprint justification conditions approvedBy approvedAt ∧
        Decision.conditionalGoChecks fingerprint conditions decision = .ok () ∧
        (blank justification = true ∨ blank approvedBy = true) ∧ next = { decision with conditions := conditions } := by
  cases operation with
  | prepareContext context =>
    have atomic : (Decision.prepareContext context).AtomicAt decision := by
      apply Mutation.AtomicAt.test
      intro _ _
      apply Mutation.AtomicAt.test
      intro _ _
      apply Mutation.AtomicAt.test
      intro _ _
      exact Mutation.AtomicAt.of_ok rfl
    exact .inl (atomic error next raised)
  | approveGo fingerprint justification approvedBy approvedAt =>
    exact .inl (approveUnconditional_atomic error next raised)
  | approveConditionalGo fingerprint justification conditions approvedBy approvedAt =>
    rw [operate, Decision.approveConditionalGo, Mutation.test_bind_error] at raised
    rcases raised with ⟨_, same⟩ | ⟨_, checked, later⟩
    · exact .inl same.symm
    · rw [Mutation.assign_bind] at later
      obtain ⟨blanks, same⟩ := Decision.finalize_bind_error later fun state => ⟨_, rfl⟩
      exact .inr ⟨fingerprint, justification, conditions, approvedBy, approvedAt, rfl, checked, blanks, same⟩
  | approveNoGo fingerprint justification approvedBy approvedAt =>
    exact .inl (approveUnconditional_atomic error next raised)
  | recordConditionSatisfied conditionId evidenceReference observedAt =>
    have atomic : (Decision.recordConditionSatisfied conditionId evidenceReference observedAt).AtomicAt decision := by
      apply Mutation.AtomicAt.test
      intro _ _
      apply Mutation.AtomicAt.test
      intro _ _
      apply Mutation.AtomicAt.test
      intro _ _
      apply Mutation.AtomicAt.test
      intro _ _
      exact Mutation.AtomicAt.of_ok rfl
    exact .inl (atomic error next raised)
  | markReviewRequired reason =>
    have atomic : (Decision.markReviewRequired reason).AtomicAt decision := by
      apply Mutation.AtomicAt.test
      intro _ _
      apply Mutation.AtomicAt.test
      intro _ _
      exact Mutation.AtomicAt.of_ok rfl
    exact .inl (atomic error next raised)
  | supersede successorDecisionId rationale =>
    have atomic : (Decision.supersede successorDecisionId rationale).AtomicAt decision := by
      apply Mutation.AtomicAt.test
      intro _ _
      apply Mutation.AtomicAt.test
      intro _ _
      exact Mutation.AtomicAt.of_ok rfl
    exact .inl (atomic error next raised)

/-- A refused operation that meets the condition changes nothing. -/
theorem Completes.refused {error : DecisionDomainError} (completes : Completes decision operation)
    (raised : operate operation decision = .error error next) : next = decision := by
  rcases operate_refused raised with same | ⟨fingerprint, justification, conditions, approvedBy, _, rfl, checked, blanks, _⟩
  · exact same
  · have given := (completes checked).1
    rw [given.1, given.2] at blanks
    exact absurd blanks (by decide)

theorem Change.revision (change : Change decision operation next) : next.aggregateRevision = decision.aggregateRevision + 1 := by
  cases change <;> rfl

/-- A decision that is not final yet has no outcome. -/
def Undecided (decision : Decision) : Prop :=
  decision.lifecycle = .draft ∨ decision.lifecycle = .pendingPatron → decision.outcome = .undecided

theorem Change.undecided (change : Change decision operation next) (before : Undecided decision) : Undecided next := by
  cases change with
  | prepared context modifiable =>
    intro _
    apply before
    cases life : decision.lifecycle with
    | draft => exact .inl rfl
    | pendingPatron => exact .inr rfl
    | finalized => exact absurd life modifiable.1
    | superseded => exact absurd life modifiable.2.1
    | cancelled => exact absurd life modifiable.2.2
  | approved => exact fun life => absurd life (by simp [Decision.finalizedAs])
  | conditional => exact fun life => absurd life (by simp [Decision.finalizedAs])
  | satisfied conditionId evidenceReference observedAt condition conditions final => exact fun life => absurd life (by simp [final])
  | reviewed reason final => exact fun life => absurd life (by simp [final])
  | superseded successorDecisionId rationale final => exact fun life => absurd life (by simp)

/-- The state of the decision agrees with its conditions. -/
structure Agrees (decision : Decision) : Prop where
  conditions : decision.conditions ≠ [] ↔ decision.outcome = .conditionalGo
  conditionStatus : decision.conditionStatus = decision.dueConditionStatus

theorem deriveConditionStatus_open {conditions : List DecisionCondition} :
    Decision.deriveConditionStatus conditions = .open ↔ (∀ condition ∈ conditions, condition.status ≠ .failed) ∧
      ∃ condition ∈ conditions, condition.status ≠ .satisfied ∧ condition.status ≠ .waived := by
  unfold Decision.deriveConditionStatus
  by_cases failed : conditions.any (fun condition => condition.status = .failed) = true
  · rw [if_pos failed]
    have some : ∃ condition ∈ conditions, condition.status = .failed := by simpa using failed
    obtain ⟨condition, member, its⟩ := some
    refine iff_of_false (by decide) ?_
    rintro ⟨none, _⟩
    exact none condition member its
  · rw [if_neg failed]
    have none : ∀ condition ∈ conditions, condition.status ≠ .failed := by simpa using failed
    by_cases met : conditions.all (fun condition => condition.status = .satisfied ∨ condition.status = .waived) = true
    · rw [if_pos met]
      refine iff_of_false (by decide) ?_
      rintro ⟨_, condition, member, unsatisfied, unwaived⟩
      have its := List.all_eq_true.mp met condition member
      simp [unsatisfied, unwaived] at its
    · rw [if_neg met]
      refine iff_of_true rfl ⟨none, ?_⟩
      simpa using met

theorem Change.agrees (change : Change decision operation next) (undecided : Undecided decision) (before : Agrees decision)
    (completes : Completes decision operation) : Agrees next := by
  cases change with
  | prepared context => exact ⟨before.conditions, before.conditionStatus⟩
  | approved operation outcome event justification approvedBy approvedAt pending unconditional =>
    have none : decision.conditions = [] := by
      by_contra some
      have outcome := before.conditions.mp some
      rw [undecided (.inr pending)] at outcome
      cases outcome
    refine ⟨?_, ?_⟩
    · show decision.conditions ≠ [] ↔ outcome = .conditionalGo
      simp [none, unconditional]
    · show DecisionConditionStatus.notApplicable = if outcome = .conditionalGo then _ else _
      rw [if_neg unconditional]
  | conditional fingerprint justification approvedBy approvedAt conditions checked =>
    have still := (completes checked).2
    refine ⟨?_, ?_⟩
    · show conditions ≠ [] ↔ DecisionOutcome.conditionalGo = .conditionalGo
      exact iff_of_true (Decision.conditionalGoChecks_ok checked).2 rfl
    · show DecisionConditionStatus.open = if DecisionOutcome.conditionalGo = .conditionalGo then
        Decision.deriveConditionStatus conditions else _
      rw [if_pos rfl, deriveConditionStatus_open.mpr still]
  | satisfied conditionId evidenceReference observedAt condition conditions final outcome kept =>
    refine ⟨?_, ?_⟩
    · show conditions ≠ [] ↔ decision.outcome = .conditionalGo
      rw [← before.conditions, ← List.length_pos_iff_ne_nil, ← List.length_pos_iff_ne_nil, kept]
    · show Decision.deriveConditionStatus conditions = if decision.outcome = .conditionalGo then _ else _
      rw [if_pos outcome]
  | reviewed reason final => exact ⟨before.conditions, before.conditionStatus⟩
  | superseded successorDecisionId rationale final => exact ⟨before.conditions, before.conditionStatus⟩

theorem Undecided.after (before : Undecided decision) : Undecided ((operate operation).after decision) := by
  rcases Mutation.after_cases (operate operation) decision with returned | ⟨error, raised⟩
  · exact (operate_change returned).undecided before
  · rcases operate_refused raised with same | ⟨_, _, conditions, _, _, _, _, _, same⟩
    · rw [same]
      exact before
    · rw [same]
      exact before

theorem Agrees.after (before : Agrees decision) (undecided : Undecided decision)
    (completes : Completes decision operation) : Agrees ((operate operation).after decision) := by
  rcases Mutation.after_cases (operate operation) decision with returned | ⟨error, raised⟩
  · exact (operate_change returned).agrees undecided before completes
  · rw [completes.refused raised]
    exact before

theorem revision_after (decision : Decision) (operation : DecisionOperation) :
    ((operate operation).after decision).aggregateRevision =
      decision.aggregateRevision + if (operate operation).returns decision then 1 else 0 := by
  rcases Mutation.after_cases (operate operation) decision with returned | ⟨error, raised⟩
  · rw [Mutation.returns_ok returned, if_pos rfl]
    exact (operate_change returned).revision
  · rw [Mutation.returns_error raised]
    rcases operate_refused raised with same | ⟨_, _, conditions, _, _, _, _, _, same⟩ <;> rw [same] <;> rfl

/-- The decision has been made, whether or not it has been superseded. -/
def Closed (decision : Decision) : Prop := decision.lifecycle = .finalized ∨ decision.lifecycle = .superseded

/-- A closed decision stays closed, on the same settlement. -/
def KeepsSettlement (before after : Decision) : Prop :=
  Closed before → Closed after ∧ after.settlement = before.settlement

theorem Change.keepsSettlement (change : Change decision operation next) : KeepsSettlement decision next := by
  intro closed
  cases change with
  | prepared context modifiable =>
    rcases closed with final | superseded
    · exact absurd final modifiable.1
    · exact absurd superseded modifiable.2.1
  | approved _ _ _ _ _ _ pending => exact absurd closed (by simp [Closed, pending])
  | conditional _ _ _ _ _ checked => exact absurd closed (by simp [Closed, (Decision.conditionalGoChecks_ok checked).1])
  | satisfied => exact ⟨closed, rfl⟩
  | reviewed => exact ⟨closed, rfl⟩
  | superseded => exact ⟨.inr rfl, rfl⟩

theorem keepsSettlement_after (decision : Decision) (operation : DecisionOperation) :
    KeepsSettlement decision ((operate operation).after decision) := by
  rcases Mutation.after_cases (operate operation) decision with returned | ⟨error, raised⟩
  · exact (operate_change returned).keepsSettlement
  · rcases operate_refused raised with same | ⟨_, _, conditions, _, _, _, _, _, same⟩
    · rw [same]
      exact fun closed => ⟨closed, rfl⟩
    · rw [same]
      exact fun closed => ⟨closed, rfl⟩

theorem KeepsSettlement.trans {first second third : Decision} (one : KeepsSettlement first second)
    (two : KeepsSettlement second third) : KeepsSettlement first third := by
  intro closed
  have middle := one closed
  have last := two middle.1
  exact ⟨last.1, last.2.trans middle.2⟩

theorem keepsSettlement_run (decision : Decision) (operations : List DecisionOperation) :
    KeepsSettlement decision (operated decision operations) :=
  Mutation.run_calls_related KeepsSettlement (fun _ closed => ⟨closed, rfl⟩) KeepsSettlement.trans
    keepsSettlement_after decision operations

theorem undecided_run (before : Undecided decision) (operations : List DecisionOperation) :
    Undecided (operated decision operations) :=
  Mutation.run_calls_invariant Undecided (fun _ _ held _ => held.after) before (along_trivial decision operations)

theorem agrees_run (before : Agrees decision) (undecided : Undecided decision) {operations : List DecisionOperation}
    (along : Along (Mutation.calls operate) Completes decision operations) :
    Agrees (operated decision operations) := by
  have both := Mutation.run_calls_invariant (fun state => Undecided state ∧ Agrees state)
    (fun _ _ held completes => ⟨held.1.after, held.2.after held.1 completes⟩) ⟨undecided, before⟩ along
  exact both.2

theorem approveConditionalGo_blank {fingerprint justification approvedBy : String} {approvedAt : Timestamp}
    {conditions : List DecisionCondition}
    (checked : Decision.conditionalGoChecks fingerprint conditions decision = .ok ())
    (blanks : blank justification = true ∨ blank approvedBy = true) :
    Decision.approveConditionalGo fingerprint justification conditions approvedBy approvedAt decision =
      .error (.contextIncomplete "Decision finalization requires justification and patron")
        { decision with conditions := conditions } := by
  rw [Decision.approveConditionalGo, Mutation.test_bind_error]
  refine .inr ⟨(), checked, ?_⟩
  rw [Mutation.assign_bind, Decision.finalize, bind_assoc, Mutation.test_bind_error]
  exact .inl ⟨raiseIf_fail blanks, rfl⟩

theorem approveConditionalGo_returns {fingerprint justification approvedBy : String} {approvedAt : Timestamp}
    {conditions : List DecisionCondition}
    (checked : Decision.conditionalGoChecks fingerprint conditions decision = .ok ())
    (given : blank justification = false ∧ blank approvedBy = false) :
    ∃ next, Decision.approveConditionalGo fingerprint justification conditions approvedBy approvedAt decision =
        .ok () next ∧
      next.conditions = conditions ∧ next.outcome = .conditionalGo ∧ next.conditionStatus = .open := by
  have returned : Decision.approveConditionalGo fingerprint justification conditions approvedBy approvedAt decision =
      .ok () (Decision.record (.conditionalGoApproved decision.id)
        { Decision.finalizedAs .conditionalGo justification approvedBy approvedAt
            { decision with conditions := conditions } with conditionStatus := .open }) := by
    rw [Decision.approveConditionalGo, Mutation.test_bind_ok]
    refine ⟨(), checked, ?_⟩
    rw [Mutation.assign_bind, Decision.finalize_bind_ok]
    exact ⟨given, rfl⟩
  exact ⟨_, returned, rfl, rfl, rfl⟩

/-- A call that does not meet the condition breaks the law at once. -/
theorem completes_of_agrees (undecided : Undecided decision) (before : Agrees decision)
    (atomic : (operate operation).AtomicAt decision)
    (after : (operate operation).returns decision = true → Agrees ((operate operation).after decision)) :
    Completes decision operation := by
  cases operation with
  | approveConditionalGo fingerprint justification conditions approvedBy approvedAt =>
    intro checked
    have opened := Decision.conditionalGoChecks_ok checked
    by_cases blanks : blank justification = true ∨ blank approvedBy = true
    · have same := atomic _ _ (approveConditionalGo_blank checked blanks)
      have held : decision.conditions = conditions := (congrArg Decision.conditions same).symm
      have outcome := before.conditions.mp (by rw [held]; exact opened.2)
      rw [undecided (.inr opened.1)] at outcome
      cases outcome
    · have given : blank justification = false ∧ blank approvedBy = false := by simpa using blanks
      obtain ⟨next, returned, conditions_eq, outcome, status⟩ := approveConditionalGo_returns checked given
      have agrees := after (Mutation.returns_ok returned)
      have left : (operate (.approveConditionalGo fingerprint justification conditions approvedBy approvedAt)).after
          decision = next := Mutation.after_ok returned
      rw [left] at agrees
      have due := agrees.conditionStatus
      rw [status, Decision.dueConditionStatus, if_pos outcome, conditions_eq] at due
      exact ⟨given, deriveConditionStatus_open.mp due.symm⟩
  | prepareContext context => exact True.intro
  | approveGo fingerprint justification approvedBy approvedAt => exact True.intro
  | approveNoGo fingerprint justification approvedBy approvedAt => exact True.intro
  | recordConditionSatisfied conditionId evidenceReference observedAt => exact True.intro
  | markReviewRequired reason => exact True.intro
  | supersede successorDecisionId rationale => exact True.intro

theorem createDraft_ok {decisionId tenantId : Uuid} {decisionType : DecisionType}
    {subjectReference scopeFingerprint createdBy : String}
    (created : createDraft decisionId tenantId decisionType subjectReference scopeFingerprint createdBy =
      .ok decision) : Undecided decision ∧ Agrees decision ∧ decision.aggregateRevision = 0 := by
  simp only [createDraft, bind_ok, pure_ok] at created
  obtain ⟨_, _, rfl⟩ := created
  exact ⟨fun _ => rfl, ⟨by simp, rfl⟩, rfl⟩

/-- The law holds over a sequence of operations exactly when each call of `approve_conditional_go` that passes
    its first checks has a justification, an approver and open conditions. -/
theorem decision_law {decisionId tenantId : Uuid} {decisionType : DecisionType}
    {subjectReference scopeFingerprint createdBy : String}
    (created : createDraft decisionId tenantId decisionType subjectReference scopeFingerprint createdBy =
      .ok decision) (operations : List DecisionOperation) :
    DecisionLaw decision operations ↔ Along (Mutation.calls operate) Completes decision operations := by
  obtain ⟨undecided, agrees, zero⟩ := createDraft_ok created
  have extended (first : List DecisionOperation) (operation : DecisionOperation) :
      operated decision (first ++ [operation]) = (operate operation).after (operated decision first) := by
    rw [operated, run_append]
    rfl
  constructor
  · intro law
    rw [along_iff_each]
    intro first operation before
    have agreed (other : List DecisionOperation) (prefixed : other <+: operations) : Agrees (operated decision other) :=
      ⟨law.conditions other prefixed, law.conditionStatus other prefixed⟩
    apply completes_of_agrees (undecided_run undecided first)
    · exact agreed first ((List.prefix_append _ _).trans before)
    · exact law.atomic first operation before
    · intro _
      rw [← extended]
      exact agreed _ before
  · intro along
    have agreed (first : List DecisionOperation) (before : first <+: operations) : Agrees (operated decision first) :=
      agrees_run agrees undecided (along.initial before)
    refine ⟨?_, ?_, fun first before => (agreed first before).conditions,
      fun first before => (agreed first before).conditionStatus, ?_⟩
    · intro first operation before error next raised
      exact (along_iff_each.mp along first operation before).refused raised
    · intro first before
      have counted := Mutation.run_calls_measure Decision.aggregateRevision revision_after decision first
      rw [zero, Nat.zero_add] at counted
      exact counted
    · intro first second before _ final
      obtain ⟨rest, rfl⟩ := before
      rw [operated, run_append]
      exact (keepsSettlement_run (operated decision first) rest (.inl final)).2

def exampleDraft : Decision where
  id := 1
  tenantId := 2
  decisionType := .goNoGo
  subjectReference := "case"
  scopeFingerprint := "scope"
  createdBy := "patron"
  pendingEvents := [.draftCreated 1 2]

def exampleContext : DecisionContext := ⟨3, 2, ["case:4"], [], [], 0, "fingerprint"⟩

def exampleCondition : DecisionCondition where
  id := 5
  label := "bond"
  owner := some "owner"
  dueAt := some 0
  dueDateAbsenceReason := none
  failureConsequence := some "withdraw"

def exampleApproval (justification : String) : DecisionOperation :=
  .approveConditionalGo "fingerprint" justification [exampleCondition] "patron" 0

theorem exampleDraft_created : createDraft 1 2 .goNoGo "case" "scope" "patron" = .ok exampleDraft := by decide

/-- A blank justification is refused once the conditions are assigned. -/
theorem blank_justification_law : ¬ DecisionLaw exampleDraft [.prepareContext exampleContext, exampleApproval " "] := by
  intro law
  have kept := (law.conditions _ (List.prefix_refl _)).mp (by decide)
  revert kept
  decide

theorem justified_approval_law : DecisionLaw exampleDraft [.prepareContext exampleContext, exampleApproval "worth it",
    .recordConditionSatisfied 5 "letter" 1] := by
  refine (decision_law exampleDraft_created _).mpr ⟨True.intro, fun _ => ?_, True.intro, True.intro⟩
  exact ⟨by decide, by decide, exampleCondition, List.mem_singleton.mpr rfl, by decide, by decide⟩
end SmartAo.DecisionDomain
