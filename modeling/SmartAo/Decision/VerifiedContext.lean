import SmartAo.Decision.Effects

namespace SmartAo.Decision

open SmartAo.Foundation SmartAo.Platform SmartAo.Case SmartAo.Dce SmartAo.Pricing SmartAo.PatronAction

variable {store : Store} {dce : DceStore} {tenantId caseId dceVersionId contextId : Uuid} {ids : List Uuid}

theorem applicableVersion_some : store.applicableVersion tenantId caseId = some dceVersionId ↔
    ∃ case ∈ store.cases, case.tenantId = tenantId ∧ case.id = caseId ∧
      case.applicableDceVersionId = some dceVersionId := by
  have key : ∀ {first second : CaseRecord}, decide (first.tenantId = tenantId ∧ first.id = caseId) = true →
      decide (second.tenantId = tenantId ∧ second.id = caseId) = true → Schema.Conflict first second := by
    intro first second hf hs
    simp only [decide_eq_true_eq] at hf hs
    exact hf.2.trans hs.2.symm
  simp only [Store.applicableVersion, Option.bind_eq_some_iff, Store.case, Table.find?_eq_some key,
    decide_eq_true_eq, and_assoc]

theorem requirementIsConfirmed_iff {requirementId : Uuid} :
    requirementIsConfirmed dce tenantId requirementId dceVersionId ↔
      ∃ requirement ∈ dce.requirements, (requirement.tenantId = tenantId ∧
        requirement.id = requirementId ∧ requirement.dceVersionId = dceVersionId) ∧
        ∃ current ∈ dce.currentConfirmations, current.tenantId = requirement.tenantId ∧
          current.requirementId = requirement.id ∧ current.outcome = .confirmed := by
  simp only [requirementIsConfirmed, decide_eq_true_eq]

theorem mem_confirmedRequirements {requirementId : Uuid} :
    requirementId ∈ (confirmedRequirements dce tenantId dceVersionId ids).map (fun pair => pair.1.id) ↔
      requirementId ∈ ids ∧ requirementIsConfirmed dce tenantId requirementId dceVersionId := by
  rw [requirementIsConfirmed_iff, List.mem_map]
  simp only [confirmedRequirements, Table.mem_join, decide_eq_true_eq]
  constructor
  · rintro ⟨⟨requirement, current⟩, ⟨stored, confirmed, ⟨tenant, named⟩, owner, version, among, outcome⟩, rfl⟩
    exact ⟨among, requirement, stored, ⟨owner, rfl, version⟩, current, confirmed, tenant, named, outcome⟩
  · rintro ⟨among, requirement, stored, ⟨owner, rfl, version⟩, current, confirmed, tenant, named, outcome⟩
    exact ⟨(requirement, current), ⟨stored, confirmed, ⟨tenant, named⟩, owner, version, among, outcome⟩, rfl⟩

/-- The count the readers compare: it reaches the number of references only when no requirement is
    quoted twice and every one is confirmed. -/
theorem confirmedRequirements_length :
    (confirmedRequirements dce tenantId dceVersionId ids).length = ids.length ↔
      ids.Nodup ∧ ∀ id ∈ ids, requirementIsConfirmed dce tenantId id dceVersionId := by
  have distinct : ((confirmedRequirements dce tenantId dceVersionId ids).map fun pair => pair.1.id).Nodup := by
    apply Table.join_keys_nodup
    · exact fun same => .inl same
    · intro requirement first second hf hs
      simp only [decide_eq_true_eq] at hf hs
      exact hf.1.2.trans hs.1.2.symm
  have among : (confirmedRequirements dce tenantId dceVersionId ids).map (fun pair => pair.1.id) ⊆ ids :=
    fun id member => (mem_confirmedRequirements.mp member).1
  have counted := length_eq_iff_of_nodup_subset distinct among
  rw [List.length_map] at counted
  rw [counted]
  refine and_congr_right fun _ => ⟨fun covered id member => ?_, fun confirmed id member => ?_⟩
  · exact (mem_confirmedRequirements.mp (covered member)).2
  · exact mem_confirmedRequirements.mpr ⟨member, confirmed id member⟩

theorem hasConfirmedDceRequirements_iff : hasConfirmedDceRequirements store tenantId contextId caseId ↔
    ∃ dceVersionId, store.applicableVersion tenantId caseId = some dceVersionId ∧
      (store.decisions.requirementIds tenantId contextId).Nodup ∧
      ∀ id ∈ store.decisions.requirementIds tenantId contextId,
        requirementIsConfirmed store.dce tenantId id dceVersionId := by
  unfold hasConfirmedDceRequirements
  cases store.applicableVersion tenantId caseId with
  | none => simp
  | some version =>
    simp only [confirmedRequirements_length, decide_eq_true_eq, Option.some.injEq, exists_eq_left']
    constructor
    · rintro (none | all)
      · simp [none]
      · exact all
    · exact .inr

/-- A valid requirement reference: a requirement of the applicable version, CONFIRMED at the quoted
    revision, quoted without a content hash. -/
theorem requirementReference_valid {requirementId : Uuid} {revision : Nat} {contentHash : Option String} :
    contextReferenceIsValid store tenantId caseId .dceRequirement requirementId revision contentHash ↔
      contentHash = none ∧ ∃ dceVersionId, store.applicableVersion tenantId caseId = some dceVersionId ∧
        ∃ requirement ∈ store.dce.requirements, (requirement.tenantId = tenantId ∧
          requirement.id = requirementId ∧ requirement.dceVersionId = dceVersionId) ∧
          ∃ current ∈ store.dce.currentConfirmations, current.tenantId = requirement.tenantId ∧
            current.requirementId = requirement.id ∧ current.revision = revision ∧
            current.outcome = .confirmed := by
  simp only [contextReferenceIsValid, decide_eq_true_eq, applicableVersion_some]
  refine and_congr_right fun _ => ?_
  constructor
  · rintro ⟨requirement, stored, ⟨case, known, tenant, applicable, same⟩, owner, named, confirmed⟩
    exact ⟨requirement.dceVersionId, ⟨case, known, tenant.trans owner, same, applicable⟩, requirement, stored,
      ⟨owner, named, rfl⟩, confirmed⟩
  · rintro ⟨_, ⟨case, known, tenant, same, applicable⟩, requirement, stored, ⟨owner, named, rfl⟩, confirmed⟩
    exact ⟨requirement, stored, ⟨case, known, tenant.trans owner.symm, applicable, same⟩, owner, named,
      confirmed⟩

theorem caseHasApplicableDce_iff : caseHasApplicableDce store tenantId caseId ↔
    ∃ version ∈ store.dce.versions, version.tenantId = tenantId ∧ version.lifecycle = .admitted ∧
      store.applicableVersion tenantId caseId = some version.id := by
  simp only [caseHasApplicableDce, decide_eq_true_eq, applicableVersion_some]
  constructor
  · rintro ⟨version, stored, admitted, case, known, owner, applicable, tenant, same⟩
    exact ⟨version, stored, owner.symm.trans tenant, admitted, case, known, tenant, same, applicable⟩
  · rintro ⟨version, stored, owner, admitted, case, known, tenant, same, applicable⟩
    exact ⟨version, stored, admitted, case, known, tenant.trans owner.symm, applicable, tenant, same⟩

end SmartAo.Decision
