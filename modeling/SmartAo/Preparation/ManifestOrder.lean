import SmartAo.Foundation.Json
import SmartAo.Foundation.Ranking
import SmartAo.Preparation.Readiness
import Mathlib.Data.String.Basic

namespace SmartAo.Preparation

open SmartAo.Foundation SmartAo.Platform SmartAo.Dce SmartAo.Membership SmartAo.Enterprise

/-- The same rows in the tables an evaluation reads, in whatever order the database returns them. -/
structure Reordered (sources other : Sources) : Prop where
  versions : sources.dce.versions.rows.Perm other.dce.versions.rows
  requirements : sources.dce.requirements.rows.Perm other.dce.requirements.rows
  confirmations : sources.dce.currentConfirmations.rows.Perm other.dce.currentConfirmations.rows
  tasks : sources.tasks.rows.Perm other.tasks.rows
  results : sources.results.rows.Perm other.results.rows
  documents : sources.enterprise.documents.rows.Perm other.enterprise.documents.rows
  capabilities : sources.enterprise.capabilities.rows.Perm other.enterprise.capabilities.rows
  capabilityVersions : sources.enterprise.versions.rows.Perm other.enterprise.versions.rows
  links : sources.enterprise.links.rows.Perm other.enterprise.links.rows
  proposals : sources.enterprise.proposals.rows.Perm other.enterprise.proposals.rows
  gaps : sources.enterprise.gaps.rows.Perm other.enterprise.gaps.rows

/-- An evaluation of a package, once its DCE version is read. -/
def evaluation (sources : Sources) (command : EvaluatePreparationReadinessCommand) (context : CommandContext)
    (membershipId : Uuid) (package : PreparationPackageRecord) : Option PreparationReadinessRecord :=
  (readDce sources.dce context.tenantId package.dceVersionId).map
    (readinessRecord sources command context membershipId package)

/-- Evaluations over the same rows have the same manifest hash and the same blockers. -/
def Canonical (sources : Sources) (context : CommandContext) (package : PreparationPackageRecord) : Prop :=
  ∀ other, Reordered sources other → ∀ first second membershipId one two,
    evaluation sources first context membershipId package = some one →
    evaluation other second context membershipId package = some two →
      one.inputManifestSha256 = two.inputManifestSha256 ∧ one.blockerCodes = two.blockerCodes

/-- The codes an evaluation of some inputs finds, and the text it hashes. -/
def blockersOf (sources : Sources) (context : CommandContext) (inputs : ReadinessInputs) : List BlockerCode :=
  BlockerCode.all.filter (blockedBy sources context inputs)

def warningsOf (sources : Sources) (context : CommandContext) (inputs : ReadinessInputs) : List WarningCode :=
  WarningCode.all.filter (warnedBy sources context inputs)

def manifestOf (sources : Sources) (context : CommandContext) (package : PreparationPackageRecord)
    (dce : PreparationDceInput) : Json :=
  let inputs := readinessInputs sources context package dce
  readinessManifest sources context package inputs (blockersOf sources context inputs) (warningsOf sources context inputs)

/-- SHA-256 tells the manifests of evaluations over the same rows apart. -/
def ManifestsApart (sources : Sources) (context : CommandContext) (package : PreparationPackageRecord) : Prop :=
  ∀ other, Reordered sources other → ∀ dce, readDce sources.dce context.tenantId package.dceVersionId = some dce →
    sha256 (manifestOf sources context package dce).dumpsChars = sha256 (manifestOf other context package dce).dumpsChars →
      (manifestOf sources context package dce).dumpsChars = (manifestOf other context package dce).dumpsChars

/-- The proposals an evaluation of a package reads. -/
def packageProposals (sources : Sources) (context : CommandContext) (package : PreparationPackageRecord) :
    List CaseCapabilityProposalRecord :=
  sources.enterprise.caseProposals context.tenantId package.caseId package.assignmentId

variable {sources other : Sources} {context : CommandContext} {package : PreparationPackageRecord}
  {dce : PreparationDceInput} {inputs : ReadinessInputs}

section Order

/-- Rows with an identifier of their own are ranked by it in one way. -/
theorem rankById_eq {ρ : Type} [Schema ρ] {table next : Table ρ} (id : ρ → Uuid) {query : ρ → Bool}
    (key : ∀ {first second : ρ}, id first = id second → Schema.Conflict first second)
    (same : table.rows.Perm next.rows) :
    rankBy (fun row => (id row).toNat) (table.rows.filter query) =
      rankBy (fun row => (id row).toNat) (next.rows.filter query) := by
  refine rankBy_eq_of_perm (same.filter query) fun one found another member equal => ?_
  have ids : id one = id another := BitVec.eq_of_toNat_eq equal
  exact Table.eq_of_conflict (List.mem_of_mem_filter found) (List.mem_of_mem_filter member) (key ids)

theorem currentConfirmation_reordered (same : Reordered sources other) (tenantId requirementId : Uuid) :
    sources.dce.currentConfirmation tenantId requirementId = other.dce.currentConfirmation tenantId requirementId := by
  refine Table.find?_perm (fun one two => ?_) same.confirmations
  exact (of_decide_eq_true one).2.trans (of_decide_eq_true two).2.symm

theorem readDce_reordered (same : Reordered sources other) (tenantId dceVersionId : Uuid) :
    readDce sources.dce tenantId dceVersionId = readDce other.dce tenantId dceVersionId := by
  have version : (sources.dce.versions.find? fun row => row.tenantId = tenantId ∧ row.id = dceVersionId) =
      other.dce.versions.find? fun row => row.tenantId = tenantId ∧ row.id = dceVersionId :=
    Table.find?_perm (fun one two => .inl ((of_decide_eq_true one).2.trans (of_decide_eq_true two).2.symm)) same.versions
  have rows : rankBy (fun row : DceRequirementRecord => row.id.toNat) (sources.dce.requirements.rows.filter fun row =>
      row.tenantId = tenantId ∧ row.dceVersionId = dceVersionId) =
        rankBy (fun row : DceRequirementRecord => row.id.toNat) (other.dce.requirements.rows.filter fun row =>
          row.tenantId = tenantId ∧ row.dceVersionId = dceVersionId) :=
    rankById_eq DceRequirementRecord.id (fun equal => .inl equal) same.requirements
  have inputs : requirementInput sources.dce tenantId = requirementInput other.dce tenantId := by
    funext requirement
    rw [requirementInput, requirementInput, currentConfirmation_reordered same]
  unfold rankBy at rows
  rw [readDce, readDce, version, rows, inputs]

theorem capability_reordered (same : Reordered sources other) (tenantId capabilityId : Uuid) :
    sources.enterprise.capability tenantId capabilityId = other.enterprise.capability tenantId capabilityId :=
  Table.find?_perm (fun one two => .inl ((of_decide_eq_true one).2.trans (of_decide_eq_true two).2.symm)) same.capabilities

theorem version_reordered (same : Reordered sources other) (tenantId versionId capabilityId : Uuid) :
    sources.enterprise.version tenantId versionId capabilityId =
      other.enterprise.version tenantId versionId capabilityId :=
  Table.find?_perm (fun one two => .inl ((of_decide_eq_true one).2.1.trans (of_decide_eq_true two).2.1.symm))
    same.capabilityVersions

theorem document_reordered (same : Reordered sources other) (tenantId documentId : Uuid) :
    sources.enterprise.document tenantId documentId = other.enterprise.document tenantId documentId :=
  Table.find?_perm (fun one two => .inl ((of_decide_eq_true one).2.trans (of_decide_eq_true two).2.symm)) same.documents

theorem proofStates_reordered (same : Reordered sources other) (proposal : CaseCapabilityProposalRecord) :
    (proofStates sources.enterprise context proposal).Perm (proofStates other.enterprise context proposal) := by
  have states (capability : Option EnterpriseCapabilityRecord) :
      proofState sources.enterprise context capability = proofState other.enterprise context capability := by
    funext link
    simp only [proofState, document_reordered same]
  rw [proofStates, proofStates, states, capability_reordered same]
  exact (same.links.filter _).map _

theorem proofBlocker_reordered (same : Reordered sources other) :
    proofBlocker sources.enterprise context = proofBlocker other.enterprise context := by
  funext proposal
  have states := @proofStates_reordered _ _ context same proposal
  have none : proofStates sources.enterprise context proposal = [] ↔ proofStates other.enterprise context proposal = [] := by
    rw [← List.length_eq_zero_iff, states.length_eq, List.length_eq_zero_iff]
  have current : .current ∈ proofStates sources.enterprise context proposal ↔
      .current ∈ proofStates other.enterprise context proposal := states.mem_iff
  have expired : .expired ∈ proofStates sources.enterprise context proposal ↔
      .expired ∈ proofStates other.enterprise context proposal := states.mem_iff
  rw [proofBlocker, proofBlocker, capability_reordered same, version_reordered same]
  simp only [none, current, expired]

theorem sortedTexts_perm {first second : List String} (same : first.Perm second) : sortedTexts first = sortedTexts second := by
  have ranked : rankBy (fun text : String => text) first = rankBy (fun text : String => text) second :=
    rankBy_eq_of_perm same fun _ _ _ _ equal => equal
  exact congrArg (fun texts => Json.arr (texts.map Json.str)) ranked

theorem any_perm {α : Type} {first second : List α} (same : first.Perm second) (holds : α → Bool) :
    first.any holds = second.any holds := by
  rw [Bool.eq_iff_iff, List.any_eq_true, List.any_eq_true]
  simp only [same.mem_iff]

theorem all_perm {α : Type} {first second : List α} (same : first.Perm second) (holds : α → Bool) :
    first.all holds = second.all holds := by
  rw [Bool.eq_iff_iff, List.all_eq_true, List.all_eq_true]
  simp only [same.mem_iff]

theorem tasks_reordered (same : Reordered sources other) :
    (readinessInputs sources context package dce).tasks.Perm (readinessInputs other context package dce).tasks :=
  same.tasks.filter _

theorem proposals_reordered (same : Reordered sources other) :
    (packageProposals sources context package).Perm (packageProposals other context package) :=
  same.proposals.filter _

theorem gaps_reordered (same : Reordered sources other) :
    (readinessInputs sources context package dce).gaps.Perm (readinessInputs other context package dce).gaps :=
  same.gaps.filter _

theorem blockersOf_reordered (same : Reordered sources other) :
    blockersOf sources context (readinessInputs sources context package dce) =
      blockersOf other context (readinessInputs other context package dce) := by
  refine List.filter_congr fun code _ => ?_
  have tasks := @tasks_reordered _ _ context package dce same
  have gaps := @gaps_reordered _ _ context package dce same
  have found : ((readinessInputs sources context package dce).proposals.map (proofBlocker sources.enterprise context)).Perm
      ((readinessInputs other context package dce).proposals.map (proofBlocker other.enterprise context)) := by
    rw [proofBlocker_reordered same]
    exact (@proposals_reordered _ _ context package same).map _
  cases code with
  | capabilityGapBlocking => exact any_perm gaps _
  | dceNotReady => rfl
  | requirementUnconfirmed => rfl
  | taskBlocked => exact any_perm tasks _
  | capabilityProofExpired | capabilityProofMissing | capabilityProofUnauthorized =>
    simp only [blockedBy, found.mem_iff]

theorem warningsOf_reordered (same : Reordered sources other) :
    warningsOf sources context (readinessInputs sources context package dce) =
      warningsOf other context (readinessInputs other context package dce) := by
  refine List.filter_congr fun code _ => ?_
  have tasks := @tasks_reordered _ _ context package dce same
  have gaps := @gaps_reordered _ _ context package dce same
  have missing : resultMissing sources context = resultMissing other context := by
    funext task
    have none : ((sources.results.find? fun row => row.tenantId = context.tenantId ∧ row.taskId = task.id) = none) ↔
        (other.results.find? fun row => row.tenantId = context.tenantId ∧ row.taskId = task.id) = none := by
      rw [Table.find?_none, Table.find?_none]
      simp only [← Table.mem_rows, same.results.mem_iff]
    simp only [resultMissing, none]
  cases code with
  | capabilityGapImportant => simp only [warnedBy, all_perm gaps, any_perm gaps]
  | taskResultMissing =>
    rw [warnedBy, warnedBy, missing]
    exact any_perm tasks _

end Order

section Manifest

/-- The entry of a proposal in the manifest. -/
def assessment (sources : Sources) (context : CommandContext) (proposal : CaseCapabilityProposalRecord) : Json :=
  .obj [("capability_version_id", .str proposal.capabilityVersionId.str),
    ("proof_states", sortedTexts ((proofStates sources.enterprise context proposal).map (·.value))),
    ("proposal_id", .str proposal.id.str)]

theorem assessment_reordered (same : Reordered sources other) : assessment sources context = assessment other context := by
  funext proposal
  have states := sortedTexts_perm ((@proofStates_reordered _ _ context same proposal).map (·.value))
  rw [assessment, assessment, states]

/-- The manifests of evaluations over the same rows differ in the order of the proposals alone. -/
theorem manifest_eq_iff (same : Reordered sources other) :
    manifestOf sources context package dce = manifestOf other context package dce ↔
      (packageProposals sources context package).map (assessment other context) =
        (packageProposals other context package).map (assessment other context) := by
  have gaps : rankBy (fun gap : CaseCapabilityGapRecord => gap.id.toNat) (readinessInputs sources context package dce).gaps =
      rankBy (fun gap : CaseCapabilityGapRecord => gap.id.toNat) (readinessInputs other context package dce).gaps :=
    rankById_eq CaseCapabilityGapRecord.id (fun equal => .inl equal) same.gaps
  have tasks := sortedTexts_perm ((@tasks_reordered _ _ context package dce same).map (·.id.str))
  unfold rankBy at gaps
  unfold manifestOf readinessManifest
  simp only [gaps, tasks, blockersOf_reordered same, warningsOf_reordered same, Json.obj.injEq, List.cons.injEq,
    Prod.mk.injEq, Json.arr.injEq, true_and, and_true]
  have entries : (packageProposals sources context package).map (assessment other context) =
      (packageProposals sources context package).map (assessment sources context) := by
    rw [assessment_reordered same]
  rw [entries]
  exact and_iff_left rfl

/-- Every proposal is named by its entry. -/
theorem assessments_injective {first second : List CaseCapabilityProposalRecord}
    (same : first.map (assessment sources context) = second.map (assessment sources context)) :
    first.map (·.id) = second.map (·.id) := by
  have names {one two : CaseCapabilityProposalRecord} (equal : assessment sources context one = assessment sources context two) :
      one.id = two.id := by
    simp only [assessment, Json.obj.injEq, List.cons.injEq, Prod.mk.injEq, Json.str.injEq, true_and, and_true] at equal
    exact Uuid.chars_injective (String.ofList_injective equal.2.2)
  induction first generalizing second with
  | nil =>
    rw [List.map_nil, eq_comm, List.map_eq_nil_iff] at same
    rw [same]
  | cons one first ih =>
    cases second with
    | nil => cases same
    | cons two second =>
      obtain ⟨head, tail⟩ := List.cons.inj same
      rw [List.map_cons, List.map_cons, names head, ih tail]

theorem packageProposals_nodup (sources : Sources) (context : CommandContext) (package : PreparationPackageRecord) :
    ((packageProposals sources context package).map (·.id)).Nodup := by
  refine List.pairwise_map.mpr ((sources.enterprise.proposals.distinct.filter _).imp fun apart equal => ?_)
  exact apart (.inl equal)

theorem evaluation_some {command : EvaluatePreparationReadinessCommand} {membershipId : Uuid}
    {record : PreparationReadinessRecord} (evaluated : evaluation sources command context membershipId package = some record) :
    ∃ dce, readDce sources.dce context.tenantId package.dceVersionId = some dce ∧
      record.inputManifestSha256 = hexdigest (manifestOf sources context package dce).dumpsChars ∧
      record.blockerCodes = blockersOf sources context (readinessInputs sources context package dce) := by
  obtain ⟨dce, read, rfl⟩ := Option.map_eq_some_iff.mp evaluated
  exact ⟨dce, read, rfl, rfl⟩

/-- The rows of a table, the last one first. -/
def reversedTable {ρ : Type} [Schema ρ] (table : Table ρ) : Table ρ where
  rows := table.rows.reverse
  distinct := List.pairwise_reverse.mpr (table.distinct.imp fun apart clash => apart (Schema.symm clash))

def withProposalsReversed (sources : Sources) : Sources :=
  { sources with enterprise := { sources.enterprise with proposals := reversedTable sources.enterprise.proposals } }

theorem withProposalsReversed_reordered (sources : Sources) : Reordered sources (withProposalsReversed sources) where
  versions := .refl _
  requirements := .refl _
  confirmations := .refl _
  tasks := .refl _
  results := .refl _
  documents := .refl _
  capabilities := .refl _
  capabilityVersions := .refl _
  links := .refl _
  proposals := (List.reverse_perm _).symm
  gaps := .refl _

theorem withProposalsReversed_proposals (sources : Sources) (context : CommandContext) (package : PreparationPackageRecord) :
    packageProposals (withProposalsReversed sources) context package = (packageProposals sources context package).reverse :=
  List.filter_reverse ..

/-- A list without repetition that is its own reverse has one item at most. -/
theorem length_le_one_of_reverse {α : Type} {items : List α} (apart : items.Nodup) (same : items = items.reverse) :
    items.length ≤ 1 := by
  by_contra long
  have nonempty : 0 < items.length := by omega
  have last : items.length - 1 < items.length := by omega
  have first : items[0] = items[items.length - 1] := by
    have equal := List.getElem_of_eq same nonempty
    rw [equal, List.getElem_reverse]
    simp
  have index := (List.Nodup.getElem_inj_iff apart).mp first
  omega

theorem eq_of_perm_of_length {α : Type} {first second : List α} (same : first.Perm second) (few : first.length ≤ 1) :
    first = second := by
  cases first with
  | nil => exact (List.nil_perm.mp same).symm
  | cons item rest =>
    have none : rest = [] := List.length_eq_zero_iff.mp (by simpa using few)
    subst none
    exact List.singleton_perm.mp same

/-- One proposal has one place. -/
theorem manifest_of_few (same : Reordered sources other) (few : (packageProposals sources context package).length ≤ 1) :
    manifestOf sources context package dce = manifestOf other context package dce := by
  have proposals := eq_of_perm_of_length (@proposals_reordered _ _ context package same) few
  exact (manifest_eq_iff same).mpr (by rw [proposals])

/-- Evaluations over the same rows agree exactly when the assignment of the package has one proposal at most. -/
theorem readiness_manifest_canonical (apart : ManifestsApart sources context package)
    (read : readDce sources.dce context.tenantId package.dceVersionId = some dce) :
    Canonical sources context package ↔ (packageProposals sources context package).length ≤ 1 := by
  constructor
  · intro canonical
    have same := withProposalsReversed_reordered sources
    let command : EvaluatePreparationReadinessCommand :=
      ⟨⟨0, 0, none⟩, package.id, package.caseId, package.assignmentId, package.dceVersionId, 0⟩
    have evaluated : evaluation sources command context 0 package =
        some (readinessRecord sources command context 0 package dce) := by
      rw [evaluation, read]
      rfl
    have reevaluated : evaluation (withProposalsReversed sources) command context 0 package =
        some (readinessRecord (withProposalsReversed sources) command context 0 package dce) := by
      rw [evaluation, ← readDce_reordered same, read]
      rfl
    have hashes := (canonical _ same command command 0 _ _ evaluated reevaluated).1
    have texts := apart _ same dce read (hexdigest_injective hashes)
    have entries := (manifest_eq_iff same).mp (Json.dumpsChars_injective texts)
    have ids := assessments_injective entries
    rw [withProposalsReversed_proposals, List.map_reverse] at ids
    have length := length_le_one_of_reverse (packageProposals_nodup sources context package) ids
    rwa [List.length_map] at length
  · intro few other same first second membershipId one two evaluated reevaluated
    obtain ⟨input, its, hash, blockers⟩ := evaluation_some evaluated
    obtain ⟨reread, again, rehash, reblockers⟩ := evaluation_some reevaluated
    rw [← readDce_reordered same, its] at again
    obtain rfl := Option.some.inj again
    rw [hash, rehash, blockers, reblockers, manifest_of_few same few]
    exact ⟨rfl, blockersOf_reordered same⟩

def examplePackage : PreparationPackageRecord := ⟨1, 2, 3, 4, 5, .inPreparation, 0, 6, 7⟩

def exampleContext : CommandContext := ⟨2, 6, .collaborateur, 0, some 7, none⟩

def exampleProposal (id : Uuid) (functionalKey : String) : CaseCapabilityProposalRecord :=
  ⟨id, 2, 3, 4, 8, 9, .current, functionalKey, id, none, none, "fit", none, 7⟩

def exampleDceVersion : DceVersionRecord :=
  ⟨5, 2, 10, "corpus", none, .admitted, .verified, .classified, .readyForAnalysis, 0⟩

def sourcesWith (proposals : Table CaseCapabilityProposalRecord) : Sources :=
  { Sources.empty with
    dce := { DceStore.empty with versions := .singleton exampleDceVersion }
    enterprise := { EnterpriseStore.empty with proposals } }

def twoProposals : Table CaseCapabilityProposalRecord :=
  ⟨[exampleProposal 11 "one", exampleProposal 12 "two"], by decide⟩

def exampleEvaluation : EvaluatePreparationReadinessCommand := ⟨⟨13, 14, none⟩, 1, 3, 4, 5, 0⟩

/-- Two proposals are hashed in the order their rows come. -/
theorem two_proposals_manifest : ¬ Canonical (sourcesWith twoProposals) exampleContext examplePackage := by
  intro canonical
  have hashes := (canonical _ (withProposalsReversed_reordered _) exampleEvaluation exampleEvaluation 7 _ _ rfl rfl).1
  revert hashes
  decide +kernel

theorem single_proposal_manifest :
    Canonical (sourcesWith (.singleton (exampleProposal 11 "one"))) exampleContext examplePackage := by
  have few : (packageProposals (sourcesWith (.singleton (exampleProposal 11 "one"))) exampleContext examplePackage).length ≤ 1 := by
    decide
  have apart : ManifestsApart (sourcesWith (.singleton (exampleProposal 11 "one"))) exampleContext examplePackage :=
    fun _ same _ _ _ => congrArg Json.dumpsChars (manifest_of_few same few)
  exact (readiness_manifest_canonical apart rfl).mpr few

end Manifest

end SmartAo.Preparation
