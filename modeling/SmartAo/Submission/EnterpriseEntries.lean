import SmartAo.Preparation.Readiness
import SmartAo.Foundation.Instant

namespace SmartAo.Submission

open SmartAo.Foundation SmartAo.Platform SmartAo.Enterprise SmartAo.Preparation

/-- The check of one proof document of a proposed capability. -/
def validatedProof (store : EnterpriseStore) (context : CommandContext)
    (capability : EnterpriseCapabilityRecord) (link : EnterpriseCapabilityProofLinkRecord) : Transaction Json := do
  let document ← orRaise (store.document context.tenantId link.documentId)
    (.execution "CAPABILITY_PROOF_UNAUTHORIZED")
  raiseIf (document.companyId ≠ capability.companyId) (.execution "CAPABILITY_PROOF_UNAUTHORIZED")
  raiseIf (document.verificationStatus ≠ .validated) (.execution "CAPABILITY_PROOF_UNAUTHORIZED")
  raiseIf (expiredAt context.receivedAt document.expiresAt) (.execution "CAPABILITY_PROOF_EXPIRED")
  return .obj [("document_id", .str document.id.str), ("document_kind", .str document.documentKind.value),
    ("document_label", .str document.documentLabel),
    ("expires_at", document.expiresAt.elim .null fun expiry => .str (isoformat expiry)),
    ("sha256", .str document.sha256)]

/-- The entry of one proposal, with every proof its capability version links. -/
def validatedEntry (store : EnterpriseStore) (context : CommandContext)
    (proposal : CaseCapabilityProposalRecord) : Transaction Json := do
  raiseIf (proposal.validityState ≠ .current) (.execution "CAPABILITY_PROOF_EXPIRED")
  let capability ← orRaise (store.capability context.tenantId proposal.capabilityId)
    (.execution "CAPABILITY_PROOF_UNAUTHORIZED")
  let version ← orRaise
    (store.version context.tenantId proposal.capabilityVersionId proposal.capabilityId)
    (.execution "CAPABILITY_PROOF_UNAUTHORIZED")
  raiseIf (capability.state ≠ .active) (.execution "CAPABILITY_PROOF_UNAUTHORIZED")
  raiseIf (context.receivedAt < version.validFrom ∨ expiredAt context.receivedAt version.validUntil)
    (.execution "CAPABILITY_PROOF_EXPIRED")
  let links := (store.proofLinks context.tenantId version.id).insertionSort fun first second =>
    first.documentId.toNat ≤ second.documentId.toNat
  raiseIf (links = []) (.execution "CAPABILITY_PROOF_MISSING")
  let proofs ← collect (validatedProof store context capability) links
  return .obj [("capability_id", .str capability.id.str),
    ("capability_kind", .str capability.capabilityKind.value),
    ("description", .str version.description), ("kind", .str "ENTERPRISE_CAPABILITY"),
    ("name", .str capability.name), ("proof_documents", .arr proofs), ("summary", .str capability.summary),
    ("title", .str version.title), ("usage_scope", .str version.usageScope),
    ("version_id", .str version.id.str), ("version_number", .int version.versionNumber)]

/-- `_validated_enterprise_entries`. -/
def validatedEnterpriseEntries (store : EnterpriseStore) (context : CommandContext) (caseId assignmentId : Uuid) :
    Transaction (List Json) :=
  collect (validatedEntry store context) ((store.caseProposals context.tenantId caseId assignmentId).insertionSort
    fun first second => first.id.toNat ≤ second.id.toNat)

def BlockerCode.isProof : BlockerCode → Bool
  | .capabilityProofExpired | .capabilityProofMissing | .capabilityProofUnauthorized => true
  | _ => false

/-- An evaluation adds no code about proofs exactly when the submission's validation succeeds. -/
def ProofsAgree (readiness : PreparationReadinessRecord) (entries : Transaction (List Json)) : Prop :=
  (∀ code ∈ readiness.blockerCodes, BlockerCode.isProof code = false) ↔ ∃ validated, entries = .ok validated

/-- A proof both modules accept: a validated, unexpired document of the capability's company. -/
def Eligible (store : EnterpriseStore) (context : CommandContext) (proposal : CaseCapabilityProposalRecord)
    (link : EnterpriseCapabilityProofLinkRecord) : Prop :=
  ∃ capability document, store.capability context.tenantId proposal.capabilityId = some capability ∧
    store.document context.tenantId link.documentId = some document ∧
    document.companyId = capability.companyId ∧ document.verificationStatus = .validated ∧
    expiredAt context.receivedAt document.expiresAt = false

/-- An active capability in a version valid at the instant. -/
def Usable (store : EnterpriseStore) (context : CommandContext) (proposal : CaseCapabilityProposalRecord) : Prop :=
  ∃ capability version, store.capability context.tenantId proposal.capabilityId = some capability ∧
    store.version context.tenantId proposal.capabilityVersionId proposal.capabilityId = some version ∧
    capability.state = .active ∧ version.validFrom ≤ context.receivedAt ∧
    expiredAt context.receivedAt version.validUntil = false

def versionLinks (store : EnterpriseStore) (context : CommandContext) (proposal : CaseCapabilityProposalRecord) :
    List EnterpriseCapabilityProofLinkRecord :=
  store.proofLinks context.tenantId proposal.capabilityVersionId

/-- Enough for readiness: one eligible proof. -/
def SomeProof (store : EnterpriseStore) (context : CommandContext) (proposal : CaseCapabilityProposalRecord) : Prop :=
  Usable store context proposal ∧ proposal.validityState ≠ .expired ∧
    ∃ link ∈ versionLinks store context proposal, Eligible store context proposal link

variable {store : EnterpriseStore} {context : CommandContext} {proposal : CaseCapabilityProposalRecord}
  {capability : EnterpriseCapabilityRecord} {link : EnterpriseCapabilityProofLinkRecord}

theorem proofState_current : proofState store context
    (store.capability context.tenantId proposal.capabilityId) link = .current ↔
      Eligible store context proposal link := by
  unfold proofState Eligible
  cases store.document context.tenantId link.documentId with
  | none => simp
  | some document =>
    cases store.capability context.tenantId proposal.capabilityId with
    | none => simp
    | some capability =>
      by_cases company : document.companyId = capability.companyId
      · by_cases validated : document.verificationStatus = .validated
        · cases expired : expiredAt context.receivedAt document.expiresAt <;>
            simp [company, validated, expired]
        · simp [company, validated]
      · simp [company]

theorem current_mem_proofStates : .current ∈ proofStates store context proposal ↔
    ∃ link ∈ versionLinks store context proposal, Eligible store context proposal link := by
  simp only [proofStates, List.mem_map, proofState_current, versionLinks]

/-- Readiness adds no code for a proposal with some proof. -/
theorem proofBlocker_none : proofBlocker store context proposal = none ↔ SomeProof store context proposal := by
  unfold proofBlocker SomeProof Usable
  rw [← current_mem_proofStates]
  cases store.capability context.tenantId proposal.capabilityId with
  | none => simp
  | some capability =>
    cases store.version context.tenantId proposal.capabilityVersionId proposal.capabilityId with
    | none => simp
    | some version =>
      by_cases active : capability.state = .active
      · by_cases window : version.validFrom ≤ context.receivedAt ∧
            expiredAt context.receivedAt version.validUntil = false ∧ proposal.validityState ≠ .expired
        · obtain ⟨started, running, valid⟩ := window
          by_cases current : .current ∈ proofStates store context proposal
          · have some : proofStates store context proposal ≠ [] := List.ne_nil_of_mem current
            simp [active, started, running, valid, current, some, Int.not_lt.mpr started]
          · simp only [active, running, valid, current, Int.not_lt.mpr started]
            split_ifs <;> simp_all
        · have refused : context.receivedAt < version.validFrom ∨
              expiredAt context.receivedAt version.validUntil ∨ proposal.validityState = .expired := by
            by_contra admitted
            simp only [not_or, Int.not_lt, Bool.not_eq_true] at admitted
            exact window admitted
          simp only [active, refused, ne_eq, not_true_eq_false, if_false, if_true]
          simp only [reduceCtorEq, false_iff]
          rintro ⟨⟨_, _, one, two, _, started, running⟩, valid, _⟩
          cases one
          cases two
          exact window ⟨started, running, valid⟩
      · simp [active]

theorem validatedProof_ok (found : store.capability context.tenantId proposal.capabilityId = some capability) :
    (∃ proof, validatedProof store context capability link = .ok proof) ↔
      Eligible store context proposal link := by
  simp only [validatedProof, bind_ok, orRaise_ok, raiseIf_ok, exists_unit, pure_ok, Eligible, found,
    Decidable.not_not, Bool.not_eq_true]
  constructor
  · rintro ⟨_, document, looked, company, validated, running, _⟩
    exact ⟨capability, document, rfl, looked, company, validated, running⟩
  · rintro ⟨_, document, same, looked, company, validated, running⟩
    cases same
    exact ⟨_, document, looked, company, validated, running, rfl⟩

/-- The submission accepts a proposal when it is CURRENT and has proofs, all of them eligible. -/
theorem validatedEntry_ok : (∃ entry, validatedEntry store context proposal = .ok entry) ↔
    Usable store context proposal ∧ proposal.validityState = .current ∧
      versionLinks store context proposal ≠ [] ∧
      ∀ link ∈ versionLinks store context proposal, Eligible store context proposal link := by
  simp only [validatedEntry, bind_ok, orRaise_ok, raiseIf_ok, exists_unit, pure_ok, Decidable.not_not,
    not_or, Int.not_lt, Bool.not_eq_true]
  have sorted (versionId : Uuid) : (store.proofLinks context.tenantId versionId).insertionSort
      (fun first second => first.documentId.toNat ≤ second.documentId.toNat) = [] ↔
      store.proofLinks context.tenantId versionId = [] := by
    rw [← List.length_eq_zero_iff, List.length_insertionSort, List.length_eq_zero_iff]
  constructor
  · rintro ⟨_, current, capability, found, version, looked, active, ⟨started, running⟩, some, proofs, checked, _⟩
    have query := Table.find?_query looked
    simp only [decide_eq_true_eq] at query
    rw [query.2.1, sorted] at some
    have each := collect_ok.mp ⟨proofs, checked⟩
    refine ⟨⟨capability, version, found, looked, active, started, running⟩, current, some, fun link member => ?_⟩
    refine (validatedProof_ok found).mp (each link ((List.mem_insertionSort _).mpr ?_))
    rw [query.2.1]
    exact member
  · rintro ⟨⟨capability, version, found, looked, active, started, running⟩, current, some, eligible⟩
    have query := Table.find?_query looked
    simp only [decide_eq_true_eq] at query
    have each : ∀ link ∈ (store.proofLinks context.tenantId version.id).insertionSort
        (fun first second => first.documentId.toNat ≤ second.documentId.toNat),
        ∃ proof, validatedProof store context capability link = .ok proof := by
      intro link member
      rw [query.2.1] at member
      exact (validatedProof_ok found).mpr (eligible link ((List.mem_insertionSort _).mp member))
    obtain ⟨proofs, checked⟩ := collect_ok.mpr each
    have nonempty := (not_congr (sorted version.id)).mpr (by rw [query.2.1]; exact some)
    exact ⟨_, current, capability, found, version, looked, active, ⟨started, running⟩, nonempty, proofs,
      checked, rfl⟩

theorem validatedEnterpriseEntries_ok {caseId assignmentId : Uuid} :
    (∃ entries, validatedEnterpriseEntries store context caseId assignmentId = .ok entries) ↔
      ∀ proposal ∈ store.caseProposals context.tenantId caseId assignmentId,
        ∃ entry, validatedEntry store context proposal = .ok entry := by
  rw [validatedEnterpriseEntries, collect_ok]
  simp only [List.mem_insertionSort]

theorem proofBlocker_isProof {code : BlockerCode} (blocked : proofBlocker store context proposal = some code) :
    BlockerCode.isProof code = true := by
  unfold proofBlocker at blocked
  split at blocked
  · simp only at blocked
    split_ifs at blocked <;> cases blocked <;> rfl
  · cases blocked
    rfl

theorem blockedBy_isProof {sources : Sources} {inputs : ReadinessInputs} {code : BlockerCode}
    (proof : BlockerCode.isProof code = true) : blockedBy sources context inputs code = true ↔
      ∃ proposal ∈ inputs.proposals, proofBlocker sources.enterprise context proposal = some code := by
  cases code with
  | capabilityProofExpired => simp [blockedBy]
  | capabilityProofMissing => simp [blockedBy]
  | capabilityProofUnauthorized => simp [blockedBy]
  | _ => cases proof

/-- An evaluation adds no code about proofs when every proposal has some proof. -/
theorem readinessRecord_proofs {sources : Sources} {command : EvaluatePreparationReadinessCommand}
    {membershipId : Uuid} {package : PreparationPackageRecord} {dce : PreparationDceInput} :
    (∀ code ∈ (readinessRecord sources command context membershipId package dce).blockerCodes,
      BlockerCode.isProof code = false) ↔
      ∀ proposal ∈ sources.enterprise.caseProposals context.tenantId package.caseId package.assignmentId,
        SomeProof sources.enterprise context proposal := by
  constructor
  · intro clean proposal listed
    rw [← proofBlocker_none]
    cases blocked : proofBlocker sources.enterprise context proposal with
    | none => rfl
    | some code =>
      have proof := proofBlocker_isProof blocked
      have added := clean code (List.mem_filter.mpr
        ⟨code.mem_all, (blockedBy_isProof proof).mpr ⟨proposal, listed, blocked⟩⟩)
      rw [proof] at added
      cases added
  · intro proven code added
    by_contra proof
    rw [Bool.not_eq_false] at proof
    obtain ⟨proposal, listed, blocked⟩ := (blockedBy_isProof proof).mp (List.mem_filter.mp added).2
    rw [proofBlocker_none.mpr (proven proposal listed)] at blocked
    cases blocked

/-- A collaborator's context in the tenant and at the instant of another one. -/
def atInstantOf (submission collaborator : CommandContext) : CommandContext :=
  { collaborator with
    tenantId := submission.tenantId
    receivedAt := submission.receivedAt }

/-- The two modules agree exactly when proposals that all have some proof are never of unknown validity
    and never mix eligible proofs with others. -/
theorem proofsAgree_iff_unmixed (sources : Sources) (command : EvaluatePreparationReadinessCommand)
    (submission collaborator : CommandContext) (membershipId : Uuid) (package : PreparationPackageRecord)
    (dce : PreparationDceInput) :
    ProofsAgree
        (readinessRecord sources command (atInstantOf submission collaborator) membershipId package dce)
        (validatedEnterpriseEntries sources.enterprise submission package.caseId package.assignmentId) ↔
      ((∀ proposal ∈ sources.enterprise.caseProposals submission.tenantId package.caseId package.assignmentId,
          SomeProof sources.enterprise submission proposal) →
        ∀ proposal ∈ sources.enterprise.caseProposals submission.tenantId package.caseId package.assignmentId,
          proposal.validityState ≠ .unknown ∧ ∀ link ∈ versionLinks sources.enterprise submission proposal,
            Eligible sources.enterprise submission proposal link) := by
  unfold ProofsAgree
  rw [readinessRecord_proofs, validatedEnterpriseEntries_ok]
  constructor
  · intro agree proven proposal listed
    obtain ⟨_, current, _, eligible⟩ := validatedEntry_ok.mp (agree.mp proven proposal listed)
    exact ⟨by simp [current], eligible⟩
  · intro unmixed
    constructor
    · intro proven proposal listed
      obtain ⟨usable, unexpired, link, linked, _⟩ := proven proposal listed
      obtain ⟨known, eligible⟩ := unmixed proven proposal listed
      have current : proposal.validityState = .current := by
        cases validity : proposal.validityState with
        | current => rfl
        | expired => exact absurd validity unexpired
        | unknown => exact absurd validity known
      exact validatedEntry_ok.mpr ⟨usable, current, List.ne_nil_of_mem linked, eligible⟩
    · intro validated proposal listed
      obtain ⟨usable, current, some, eligible⟩ := validatedEntry_ok.mp (validated proposal listed)
      obtain ⟨link, linked⟩ := List.exists_mem_of_ne_nil _ some
      have unexpired : proposal.validityState ≠ .expired := by simp [current]
      exact ⟨usable, unexpired, link, linked, eligible link linked⟩

section MixedProofs

/-- One capability version with a validated proof and a pending one, proposed for case 4. -/
def mixedSources : Sources := { Sources.empty with
  enterprise := {
    documents := ⟨[
      ⟨43, 1, 41, .insurance, "Assurance", 53, "a.pdf", 0, none, "", .validated, 9, 63⟩,
      ⟨44, 1, 41, .kbis, "Kbis", 54, "k.pdf", 0, none, "", .pending, 9, 64⟩], by decide⟩
    capabilities := .singleton ⟨40, 1, 41, 0, .team, "Equipe", "Equipe de pose", .active, 60⟩
    versions := .singleton ⟨42, 1, 40, 1, "Equipe", "Pose", 0, none, "Travaux", 9, 62⟩
    links := ⟨[⟨45, 1, 42, 43, "SUPPORTS_CAPABILITY"⟩, ⟨46, 1, 42, 44, "SUPPORTS_CAPABILITY"⟩], by decide⟩
    proposals := .singleton ⟨47, 1, 4, 7, 40, 42, .current, "key", 65, some 30, none, "Equipe", none, 3⟩
    gaps := .empty } }

def mixedEvaluation : PreparationReadinessRecord :=
  readinessRecord mixedSources ⟨⟨20, 20, none⟩, 10, 4, 7, 5, 0⟩
    (atInstantOf ⟨1, 8, .patronAdmin, 100, some 9, none⟩ ⟨1, 2, .collaborateur, 100, some 3, some 4⟩) 3
    ⟨10, 1, 4, 7, 5, .inPreparation, 0, 2, 3⟩ ⟨.readyForAnalysis, []⟩

def mixedEntries : Transaction (List Json) :=
  validatedEnterpriseEntries mixedSources.enterprise ⟨1, 8, .patronAdmin, 100, some 9, none⟩ 4 7

theorem mixedProofs_disagree : mixedEvaluation.state = .ready ∧ mixedEntries.isOk = false ∧
    ¬ ProofsAgree mixedEvaluation mixedEntries := by
  have evaluated : mixedEvaluation.state = .ready ∧ mixedEvaluation.blockerCodes = [] ∧
      mixedEntries.isOk = false := by decide +kernel
  obtain ⟨ready, clean, refused⟩ := evaluated
  refine ⟨ready, refused, fun agree => ?_⟩
  obtain ⟨entries, validated⟩ := agree.mp (by simp [clean])
  rw [validated] at refused
  cases refused

end MixedProofs

end SmartAo.Submission
