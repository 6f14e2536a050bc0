import SmartAo.Enterprise.Library
import SmartAo.Submission.EnterpriseEntries
import SmartAo.Foundation.Transition

namespace SmartAo.Enterprise

open SmartAo.Foundation SmartAo.Platform SmartAo.Preparation SmartAo.Submission

/-- A command of the library, or one transaction of the upload service. -/
inductive Input where
  | createCompany (command : CreateEnterpriseCompanyCommand) (context : CommandContext)
  | prepare (command : PrepareEnterpriseDocumentUploadCommand) (context : CommandContext)
  | progress (tenantId uploadId : Uuid) (progress : UploadProgress)
  | finalize (command : FinalizeEnterpriseDocumentUploadCommand) (context : CommandContext)
  | register (command : RegisterEnterpriseDocumentCommand) (context : CommandContext)
  | verify (command : VerifyEnterpriseDocumentCommand) (context : CommandContext)
  | createCapability (command : CreateEnterpriseCapabilityCommand) (context : CommandContext)
  | addVersion (command : AddEnterpriseCapabilityVersionCommand) (context : CommandContext) (uuid4 : Nat → Uuid)

def step (store : LibraryStore) (input : Input) : Transaction LibraryStore :=
  match input with
  | .createCompany command context => (createCompany store command context).map (·.1)
  | .prepare command context => (prepareUpload store command context).map (·.1)
  | .progress tenantId uploadId progress => progressUpload store tenantId uploadId progress
  | .finalize command context => (finalizeUpload store command context).map (·.1)
  | .register command context => (registerDocument store command context).map (·.1)
  | .verify command context => (verifyDocument store command context).map (·.1)
  | .createCapability command context => (createCapability store command context).map (·.1)
  | .addVersion command context uuid4 => (addVersion store command context uuid4).map (·.1)

def Accepted (store : LibraryStore) (input : Input) : Prop := (step store input).isOk = true

/-- The outcome an input verifies a document with, when it does. -/
def verifiedOutcome (store : LibraryStore) (tenantId documentId : Uuid) (input : Input) :
    Option VerificationOutcome :=
  match input with
  | .verify command context =>
    if (step store input).isOk ∧ context.tenantId = tenantId ∧ command.documentId = documentId then
      some command.outcome
    else none
  | _ => none

/-- The outcome of the latest accepted verification of a document. -/
def latestOutcome (tenantId documentId : Uuid) :
    LibraryStore → Option VerificationOutcome → List Input → Option VerificationOutcome
  | _, latest, [] => latest
  | store, latest, input :: inputs => latestOutcome tenantId documentId (commit step store input)
    ((verifiedOutcome store tenantId documentId input).or latest) inputs

/-- A consumer's question about a document, as proof of a capability. -/
structure Reading where
  context : CommandContext
  capability : EnterpriseCapabilityRecord
  link : EnterpriseCapabilityProofLinkRecord

def Reading.Cites (reading : Reading) (document : EnterpriseDocumentRecord) : Prop :=
  reading.context.tenantId = document.tenantId ∧ reading.capability.companyId = document.companyId ∧
    reading.link.documentId = document.id

inductive Consumer where
  | capabilityLinking
  | readiness
  | submission
  | libraryListing

def TreatsValidated (store : LibraryStore) (reading : Reading) : Consumer → Prop
  | .capabilityLinking => ∃ done, checkProofs store.enterprise reading.context.tenantId
    reading.capability.companyId [reading.link.documentId] = .ok done
  | .readiness =>
    proofState store.enterprise reading.context (some reading.capability) reading.link ≠ .unauthorized
  | .submission => (validatedProof store.enterprise reading.context reading.capability reading.link).map
    (fun _ => ()) ≠ .error (.execution "CAPABILITY_PROOF_UNAUTHORIZED")
  | .libraryListing => ∃ company, readCompany store reading.context.tenantId = some company ∧
    ∃ listed ∈ company.documents, listed.documentId = reading.link.documentId ∧
      listed.verificationStatus = .validated

/-- In every state of the run the consumer treats every document as its latest verification says. -/
def Reaches (inputs : List Input) (consumer : Consumer) : Prop :=
  ∀ first, first <+: inputs → ∀ document ∈ (run step .empty first).enterprise.documents,
    ∀ reading : Reading, reading.Cites document →
      (TreatsValidated (run step .empty first) reading consumer ↔
        latestOutcome document.tenantId document.id .empty none first = some .validated)

/-- The input does not register a document. -/
def RegistersNothing (store : LibraryStore) (input : Input) : Prop :=
  match input with
  | .finalize _ _ | .register _ _ => ¬ Accepted store input
  | _ => True

variable {store next : LibraryStore} {context : CommandContext} {outcome : HandlerOutcome}

theorem isOk_iff {α : Type} {result : Transaction α} : result.isOk = true ↔ ∃ value, result = .ok value := by
  cases result with
  | ok value => exact iff_of_true rfl ⟨value, rfl⟩
  | error error => exact iff_of_false Bool.false_ne_true (by rintro ⟨_, same⟩; cases same)

theorem map_fst_ok {result : Transaction (LibraryStore × HandlerOutcome)} :
    result.map (·.1) = .ok next ↔ ∃ outcome, result = .ok (next, outcome) := by
  cases result with
  | ok value => simp [Except.map, Prod.ext_iff]
  | error error => simp [Except.map]

/-- What an accepted input does to the companies, the documents and the verifications. -/
inductive Effect (store next : LibraryStore) : Input → Prop where
  | registered {input : Input} (document : EnterpriseDocumentRecord) (company : EnterpriseCompanyRecord)
      (registers : ¬ RegistersNothing store input)
      (inserted : store.enterprise.documents.insert? document = some next.enterprise.documents)
      (pending : document.verificationStatus = .pending)
      (owned : store.company document.tenantId document.companyId = some company)
      (companies : next.companies = advanceCompany store.companies company)
      (verifications : next.verifications = store.verifications)
      (unverified : ∀ tenantId documentId, verifiedOutcome store tenantId documentId input = none) :
      Effect store next input
  | verified {command : VerifyEnterpriseDocumentCommand} {context : CommandContext}
      (record : EnterpriseDocumentVerificationRecord)
      (inserted : store.verifications.insert? record = some next.verifications)
      (tenant : record.tenantId = context.tenantId) (document : record.documentId = command.documentId)
      (outcome : record.outcome = command.outcome)
      (revision : record.revision =
        (store.latestVerification context.tenantId command.documentId).elim 0 (·.revision + 1))
      (documents : next.enterprise.documents = store.enterprise.documents)
      (companies : next.companies = store.companies) : Effect store next (.verify command context)
  | kept {input : Input} (registers : RegistersNothing store input)
      (documents : next.enterprise.documents = store.enterprise.documents)
      (companies : ∀ company ∈ store.companies, company ∈ next.companies)
      (verifications : next.verifications = store.verifications)
      (unverified : ∀ tenantId documentId, verifiedOutcome store tenantId documentId input = none) :
      Effect store next input

theorem finalizeUpload_effect {command : FinalizeEnterpriseDocumentUploadCommand}
    (accepted : finalizeUpload store command context = .ok (next, outcome)) :
    Effect store next (.finalize command context) := by
  have registers : Accepted store (.finalize command context) :=
    isOk_iff.mpr ⟨next, map_fst_ok.mpr ⟨outcome, accepted⟩⟩
  simp only [finalizeUpload, bind_ok, orRaise_ok, raiseIf_ok, exists_unit, pure_ok, Prod.mk.injEq,
    flush] at accepted
  obtain ⟨_, _, _, _, _, _, _, company, found, _, _, documents, inserted, rfl, _⟩ := accepted
  exact .registered _ company (fun nothing => nothing registers) inserted rfl found rfl rfl fun _ _ => rfl

theorem registerDocument_effect {command : RegisterEnterpriseDocumentCommand}
    (accepted : registerDocument store command context = .ok (next, outcome)) :
    Effect store next (.register command context) := by
  have registers : Accepted store (.register command context) :=
    isOk_iff.mpr ⟨next, map_fst_ok.mpr ⟨outcome, accepted⟩⟩
  simp only [registerDocument, bind_ok, orRaise_ok, raiseIf_ok, exists_unit, pure_ok, Prod.mk.injEq,
    flush] at accepted
  obtain ⟨_, _, company, found, _, _, _, _, _, _, documents, inserted, rfl, _⟩ := accepted
  have query := Table.find?_query found
  simp only [decide_eq_true_eq] at query
  have owned : store.company context.tenantId company.id = some company := by
    rw [query.2]
    exact found
  exact .registered _ company (fun nothing => nothing registers) inserted command.pending owned rfl rfl
    fun _ _ => rfl

theorem verifyDocument_effect {command : VerifyEnterpriseDocumentCommand}
    (accepted : verifyDocument store command context = .ok (next, outcome)) :
    Effect store next (.verify command context) := by
  simp only [verifyDocument, bind_ok, orRaise_ok, raiseIf_ok, exists_unit, pure_ok, Prod.mk.injEq,
    flush] at accepted
  obtain ⟨_, _, _, _, _, _, _, verifications, inserted, rfl, _⟩ := accepted
  exact .verified _ inserted rfl rfl rfl rfl rfl rfl

theorem step_effect {input : Input} (accepted : step store input = .ok next) : Effect store next input := by
  cases input with
  | createCompany command context =>
    obtain ⟨_, accepted⟩ := map_fst_ok.mp accepted
    simp only [createCompany, bind_ok, orRaise_ok, raiseIf_ok, exists_unit, pure_ok, Prod.mk.injEq,
      flush] at accepted
    obtain ⟨_, _, _, _, inserted, rfl, _⟩ := accepted
    exact .kept True.intro rfl (fun _ stored => (Table.mem_insert? inserted).mpr (.inl stored)) rfl fun _ _ => rfl
  | prepare command context =>
    obtain ⟨_, accepted⟩ := map_fst_ok.mp accepted
    simp only [prepareUpload, bind_ok, orRaise_ok, raiseIf_ok, exists_unit, pure_ok, Prod.mk.injEq,
      flush] at accepted
    obtain ⟨_, _, _, _, _, _, _, _, rfl, _⟩ := accepted
    exact .kept True.intro rfl (fun _ stored => stored) rfl fun _ _ => rfl
  | progress tenantId uploadId progress =>
    simp only [step, progressUpload, bind_ok, orRaise_ok, raiseIf_ok, exists_unit, pure_ok] at accepted
    obtain ⟨_, _, _, _, rfl⟩ := accepted
    exact .kept True.intro rfl (fun _ stored => stored) rfl fun _ _ => rfl
  | finalize command context =>
    obtain ⟨_, accepted⟩ := map_fst_ok.mp accepted
    exact finalizeUpload_effect accepted
  | register command context =>
    obtain ⟨_, accepted⟩ := map_fst_ok.mp accepted
    exact registerDocument_effect accepted
  | verify command context =>
    obtain ⟨_, accepted⟩ := map_fst_ok.mp accepted
    exact verifyDocument_effect accepted
  | createCapability command context =>
    obtain ⟨_, accepted⟩ := map_fst_ok.mp accepted
    simp only [createCapability, bind_ok, orRaise_ok, raiseIf_ok, exists_unit, pure_ok, Prod.mk.injEq,
      flush] at accepted
    obtain ⟨_, _, _, _, _, _, _, rfl, _⟩ := accepted
    exact .kept True.intro rfl (fun _ stored => stored) rfl fun _ _ => rfl
  | addVersion command context uuid4 =>
    obtain ⟨_, accepted⟩ := map_fst_ok.mp accepted
    simp only [addVersion, bind_ok, orRaise_ok, raiseIf_ok, exists_unit, pure_ok, Prod.mk.injEq,
      flush] at accepted
    obtain ⟨_, _, _, _, _, _, _, _, _, _, _, rfl, _⟩ := accepted
    exact .kept True.intro rfl (fun _ stored => stored) rfl fun _ _ => rfl

/-- Documents stay PENDING, under a company of their tenant. -/
structure Registered (store : LibraryStore) : Prop where
  pending : ∀ document ∈ store.enterprise.documents, document.verificationStatus = .pending
  owned : ∀ document ∈ store.enterprise.documents, ∃ company ∈ store.companies,
    company.tenantId = document.tenantId ∧ company.id = document.companyId

theorem company_some {tenantId companyId : Uuid} {company : EnterpriseCompanyRecord}
    (found : store.company tenantId companyId = some company) :
    company ∈ store.companies ∧ company.tenantId = tenantId ∧ company.id = companyId := by
  have query := Table.find?_query found
  simp only [decide_eq_true_eq] at query
  exact ⟨Table.find?_mem found, query⟩

/-- A company keeps its row, at another revision. -/
theorem advanceCompany_mem {companies : Table EnterpriseCompanyRecord} {company other : EnterpriseCompanyRecord}
    (member : other ∈ companies) : ∃ kept ∈ advanceCompany companies company,
      kept.tenantId = other.tenantId ∧ kept.id = other.id := by
  by_cases same : other.id = company.id
  · exact ⟨companyAdvanced other, Table.mem_update_of member (by simpa using same), rfl, rfl⟩
  · exact ⟨other, Table.mem_update_of_not member (by simpa using same), rfl, rfl⟩

theorem Effect.registered_kept {input : Input} (effect : Effect store next input) (holds : Registered store) :
    Registered next := by
  cases effect with
  | registered document company _ inserted pending owned companies =>
    have moved {other : EnterpriseCompanyRecord} (member : other ∈ store.companies) :
        ∃ kept ∈ next.companies, kept.tenantId = other.tenantId ∧ kept.id = other.id := by
      rw [companies]
      exact advanceCompany_mem member
    constructor
    · intro other member
      rcases (Table.mem_insert? inserted).mp member with old | rfl
      · exact holds.pending other old
      · exact pending
    · intro other member
      rcases (Table.mem_insert? inserted).mp member with old | rfl
      · obtain ⟨owner, present, tenant, same⟩ := holds.owned other old
        obtain ⟨kept, still, keptTenant, keptId⟩ := moved present
        exact ⟨kept, still, keptTenant.trans tenant, keptId.trans same⟩
      · obtain ⟨present, tenant, same⟩ := company_some owned
        obtain ⟨kept, still, keptTenant, keptId⟩ := moved present
        exact ⟨kept, still, keptTenant.trans tenant, keptId.trans same⟩
  | verified _ _ _ _ _ _ documents companies =>
    exact ⟨documents ▸ holds.pending, documents ▸ companies ▸ holds.owned⟩
  | kept _ documents companies =>
    refine ⟨documents ▸ holds.pending, fun document member => ?_⟩
    rw [documents] at member
    obtain ⟨owner, present, same⟩ := holds.owned document member
    exact ⟨owner, companies owner present, same⟩

theorem run_registered (inputs : List Input) : Registered (run step .empty inputs) := by
  have initial : Registered .empty :=
    ⟨fun _ member => absurd member Table.not_mem_empty, fun _ member => absurd member Table.not_mem_empty⟩
  exact run_invariant_always (fun _ _ _ holds accepted => (step_effect accepted).registered_kept holds) inputs initial

theorem commit_latestVerification (store : LibraryStore) (input : Input) (tenantId documentId : Uuid) :
    ((commit step store input).latestVerification tenantId documentId).map (·.outcome) =
      (verifiedOutcome store tenantId documentId input).or
        ((store.latestVerification tenantId documentId).map (·.outcome)) := by
  cases taken : step store input with
  | ok next =>
    rw [commit_ok taken]
    cases step_effect taken with
    | registered _ _ _ _ _ _ _ verifications unverified =>
      rw [unverified, LibraryStore.latestVerification, verifications]
      rfl
    | kept _ _ _ verifications unverified =>
      rw [unverified, LibraryStore.latestVerification, verifications]
      rfl
    | @verified command context record inserted tenant document outcome revision _ _ =>
      have ok : (step store (.verify command context)).isOk = true := isOk_iff.mpr ⟨next, taken⟩
      by_cases about : context.tenantId = tenantId ∧ command.documentId = documentId
      · obtain ⟨rfl, rfl⟩ := about
        have beyond : ∀ stored ∈ store.verifications,
            decide (stored.tenantId = context.tenantId ∧ stored.documentId = command.documentId) = true →
              stored.revision < record.revision := by
          intro stored member matched
          cases looked : store.latestVerification context.tenantId command.documentId with
          | none =>
            have missed := Table.latest_none.mp looked stored member
            rw [matched] at missed
            cases missed
          | some latest =>
            have below := Table.latest_le looked member matched
            rw [revision, looked]
            exact Nat.lt_succ_of_le below
        have newest := Table.latest_insert? inserted (by simp [tenant, document]) beyond
        rw [LibraryStore.latestVerification, newest]
        simp [verifiedOutcome, ok, outcome]
      · have outside : decide (record.tenantId = tenantId ∧ record.documentId = documentId) = false := by
          rw [tenant, document]
          exact decide_eq_false about
        have silent : verifiedOutcome store tenantId documentId (.verify command context) = none := by
          simp [verifiedOutcome, about]
        rw [silent, LibraryStore.latestVerification, Table.latest_insert?_of_not inserted outside]
        rfl
  | error error =>
    have silent : verifiedOutcome store tenantId documentId input = none := by
      cases input with
      | verify command context => simp [verifiedOutcome, taken, Except.isOk, Except.toBool]
      | _ => rfl
    rw [commit_error taken, silent]
    rfl

/-- The latest row of the verification table carries the outcome of the latest accepted verification. -/
theorem run_latestVerification (tenantId documentId : Uuid) (store : LibraryStore) (inputs : List Input) :
    ((run step store inputs).latestVerification tenantId documentId).map (·.outcome) =
      latestOutcome tenantId documentId store ((store.latestVerification tenantId documentId).map (·.outcome))
        inputs := by
  induction inputs generalizing store with
  | nil => rfl
  | cons input inputs ih =>
    rw [run_cons, ih, commit_latestVerification]
    rfl

theorem latestOutcome_eq (tenantId documentId : Uuid) (inputs : List Input) :
    latestOutcome tenantId documentId .empty none inputs =
      ((run step .empty inputs).latestVerification tenantId documentId).map (·.outcome) :=
  (run_latestVerification tenantId documentId .empty inputs).symm

section Consumers

variable {document : EnterpriseDocumentRecord} {reading : Reading}

theorem document_key {tenantId documentId : Uuid} {first second : EnterpriseDocumentRecord}
    (one : decide (first.tenantId = tenantId ∧ first.id = documentId) = true)
    (two : decide (second.tenantId = tenantId ∧ second.id = documentId) = true) :
    Schema.Conflict first second := by
  simp only [decide_eq_true_eq] at one two
  exact .inl (one.2.trans two.2.symm)

theorem Reading.Cites.found (cites : reading.Cites document) (member : document ∈ store.enterprise.documents) :
    store.enterprise.document reading.context.tenantId reading.link.documentId = some document := by
  obtain ⟨tenant, _, named⟩ := cites
  exact (Table.find?_eq_some document_key).mpr ⟨member, by simp [tenant, named]⟩

/-- Linking refuses only REJECTED documents, and no document is. -/
theorem linking_accepts (holds : Registered store) (member : document ∈ store.enterprise.documents)
    (cites : reading.Cites document) : TreatsValidated store reading .capabilityLinking := by
  obtain ⟨tenant, company, named⟩ := cites
  have selected : proofDocuments store.enterprise reading.context.tenantId reading.capability.companyId
      [reading.link.documentId] = [document] := by
    refine Table.filter_key (fun one two => ?_) member ?_
    · simp only [List.mem_singleton, decide_eq_true_eq] at one two
      exact .inl (one.2.2.trans two.2.2.symm)
    · simp [tenant, company, named]
  have accepted : document.verificationStatus ≠ .rejected := by
    rw [holds.pending document member]
    decide
  refine ⟨(), ?_⟩
  simp only [checkProofs, selected, bind_ok, raiseIf_ok, exists_unit]
  simpa using accepted

/-- Readiness accepts only VALIDATED documents, and no document is. -/
theorem readiness_refuses (holds : Registered store) (member : document ∈ store.enterprise.documents)
    (cites : reading.Cites document) : ¬ TreatsValidated store reading .readiness := by
  have found := cites.found member
  have pending := holds.pending document member
  simp [TreatsValidated, proofState, found, cites.2.1, pending]

theorem submission_refuses (holds : Registered store) (member : document ∈ store.enterprise.documents)
    (cites : reading.Cites document) : ¬ TreatsValidated store reading .submission := by
  have found := cites.found member
  have pending := holds.pending document member
  simp only [TreatsValidated, validatedProof, found, orRaise_some, not_not]
  rw [bind_of_ok rfl, bind_of_ok (raiseIf_pass (by simp [cites.2.1])),
    bind_of_error (raiseIf_fail (by simp [pending]))]
  rfl

theorem readCompany_of_owned (holds : Registered store) (member : document ∈ store.enterprise.documents) :
    ∃ company, readCompany store document.tenantId = some company ∧
      ∀ listed, listed ∈ company.documents ↔ ∃ row ∈ store.enterprise.documents,
        row.tenantId = document.tenantId ∧ row.companyId = document.companyId ∧ projectDocument store row = listed := by
  obtain ⟨owner, present, tenant, same⟩ := holds.owned document member
  have found : store.companies.find? (fun row => row.tenantId = document.tenantId) = some owner := by
    refine (Table.find?_eq_some fun one two => ?_).mpr ⟨present, by simpa using tenant⟩
    simp only [decide_eq_true_eq] at one two
    exact .inr (one.trans two.symm)
  refine ⟨_, by rw [readCompany, found]; rfl, fun listed => ?_⟩
  simp only [List.mem_map, List.mem_filter, decide_eq_true_eq, same, Table.mem_rows, and_assoc]

/-- The listing shows VALIDATED exactly for a document whose latest verification says so. -/
theorem listing_validated (holds : Registered store) (member : document ∈ store.enterprise.documents)
    (cites : reading.Cites document) : TreatsValidated store reading .libraryListing ↔
      (store.latestVerification document.tenantId document.id).map (·.outcome) = some .validated := by
  obtain ⟨tenant, _, named⟩ := cites
  obtain ⟨company, read, lists⟩ := readCompany_of_owned holds member
  have shown : (projectDocument store document).verificationStatus = .validated ↔
      (store.latestVerification document.tenantId document.id).map (·.outcome) = some .validated := by
    simp only [projectDocument]
    cases store.latestVerification document.tenantId document.id with
    | none => simp [holds.pending document member]
    | some latest => cases outcome : latest.outcome <;> simp [outcome, VerificationOutcome.status]
  rw [← shown]
  unfold TreatsValidated
  rw [tenant, named, read]
  constructor
  · rintro ⟨_, same, listed, within, about, status⟩
    cases same
    obtain ⟨row, stored, _, _, rfl⟩ := (lists listed).mp within
    have one : row = document := Table.eq_of_conflict stored member (.inl about)
    rw [← one]
    exact status
  · intro status
    exact ⟨company, rfl, _, (lists _).mpr ⟨document, member, rfl, rfl, rfl⟩, rfl, status⟩

end Consumers

theorem library_reaches (inputs : List Input) : Reaches inputs .libraryListing := by
  intro first _ document member reading cites
  rw [latestOutcome_eq, listing_validated (run_registered first) member cites]

def readingOf (document : EnterpriseDocumentRecord) : Reading where
  context := ⟨document.tenantId, 0, .patronAdmin, 0, none, none⟩
  capability := ⟨0, document.tenantId, document.companyId, 0, .method, "", "", .active, 0⟩
  link := ⟨0, document.tenantId, 0, document.id, ""⟩

theorem readingOf_cites (document : EnterpriseDocumentRecord) : (readingOf document).Cites document :=
  ⟨rfl, rfl, rfl⟩

theorem commit_unregistered {input : Input} (nothing : RegistersNothing store input)
    (none : ∀ document, document ∉ store.enterprise.documents) (accepted : step store input = .ok next) :
    ∀ document, document ∉ next.enterprise.documents := by
  cases step_effect accepted with
  | registered _ _ registers => exact absurd nothing registers
  | verified _ _ _ _ _ _ documents => exact documents ▸ none
  | kept _ documents => exact documents ▸ none

/-- Verification reaches every consumer exactly in the runs that register no document: linking accepts every
    registered document, readiness and submission none. -/
theorem reaches_iff_registersNothing (inputs : List Input) :
    (∀ consumer, Reaches inputs consumer) ↔ Along step RegistersNothing .empty inputs := by
  constructor
  · intro reaches
    rw [along_iff_each]
    intro first input before
    by_contra registers
    have after : run step .empty (first ++ [input]) = commit step (run step .empty first) input := by
      rw [run_append]
      rfl
    have accepted : Accepted (run step .empty first) input := by
      cases input with
      | finalize command context => exact not_not.mp registers
      | register command context => exact not_not.mp registers
      | _ => exact absurd True.intro registers
    have taken := commit_of_isOk accepted
    cases step_effect taken with
    | registered document _ _ inserted =>
      have member : document ∈ (run step .empty (first ++ [input])).enterprise.documents := by
        rw [after]
        exact (Table.mem_insert? inserted).mpr (.inr rfl)
      have holds := run_registered (first ++ [input])
      have cites := readingOf_cites document
      have linked := reaches .capabilityLinking _ before document member _ cites
      have checked := reaches .readiness _ before document member _ cites
      have validated := linked.mp (linking_accepts holds member cites)
      exact readiness_refuses holds member cites (checked.mpr validated)
    | verified => exact registers True.intro
    | kept nothing => exact registers nothing
  · intro along consumer first before document member
    have none : ∀ document, document ∉ (run step .empty first).enterprise.documents :=
      run_invariant (fun _ _ _ none nothing accepted => commit_unregistered nothing none accepted)
        (fun _ => Table.not_mem_empty) (along.initial before)
    exact absurd member (none document)

section VerifiedDocument

def patron : CommandContext := ⟨1, 2, .patronAdmin, 100, some 3, none⟩

def attestation : EnterpriseDocumentRecord :=
  ⟨20, 1, 10, .insurance, "Décennale", 30, "decennale.pdf", 100, some 500, String.ofList (List.replicate 64 'a'),
    .pending, 3, 43⟩

/-- Insurance document 20 of company 10 is uploaded, scanned and registered. -/
def registration : List Input := [
  .createCompany ⟨⟨40, 40, none⟩, 10⟩ patron,
  .createCapability ⟨⟨41, 41, none⟩, 10, 50, .qualification, "Qualibat", "2112", .active⟩ patron,
  .prepare ⟨⟨42, 42, none⟩, 30, 10, 20, .insurance, "Décennale", "decennale.pdf", 8, "key", 500⟩ patron,
  .progress 1 30 .claimed,
  .progress 1 30 (.quarantined 8 attestation.sha256 "application/pdf"),
  .progress 1 30 (.scanned .clean),
  .finalize ⟨⟨43, 43, none⟩, 30, 10, 20⟩ patron]

def validation : Input :=
  .verify ⟨⟨44, 44, none⟩, 10, 20, 0, .validated, .documentAccepted, by decide⟩ patron

def rejection : Input :=
  .verify ⟨⟨45, 45, none⟩, 10, 20, 0, .rejected, .documentIllegible, by decide⟩ patron

def linking : Input :=
  .addVersion ⟨⟨46, 46, none⟩, 50, 60, 0, "2026", "Qualification", 0, none, "Gros œuvre", [20], by simp, by decide⟩
    patron fun index => BitVec.ofNat 128 (70 + index)

/-- A validated document is refused by readiness; a rejected one is linked as a proof. -/
theorem registration_not_reached :
    ¬ Reaches (registration ++ [validation]) .readiness ∧
    ¬ Reaches (registration ++ [rejection]) .capabilityLinking ∧
    Accepted (run step .empty (registration ++ [rejection])) linking := by
  have evaluated :
      (attestation ∈ (run step .empty (registration ++ [validation])).enterprise.documents.rows ∧
        latestOutcome 1 20 .empty none (registration ++ [validation]) = some .validated) ∧
      (attestation ∈ (run step .empty (registration ++ [rejection])).enterprise.documents.rows ∧
        latestOutcome 1 20 .empty none (registration ++ [rejection]) = some .rejected) ∧
      (step (run step .empty (registration ++ [rejection])) linking).isOk = true := by decide +kernel
  obtain ⟨⟨validated, latest⟩, ⟨rejected, refused⟩, linked⟩ := evaluated
  have cites := readingOf_cites attestation
  refine ⟨fun reaches => ?_, fun reaches => ?_, linked⟩
  · have treats := (reaches _ (List.prefix_refl _) attestation validated _ cites).mpr latest
    exact readiness_refuses (run_registered _) validated cites treats
  · have treats := linking_accepts (run_registered _) rejected cites
    have outcome := (reaches _ (List.prefix_refl _) attestation rejected _ cites).mp treats
    rw [show latestOutcome attestation.tenantId attestation.id .empty none (registration ++ [rejection]) =
      some .rejected from refused] at outcome
    cases outcome

end VerifiedDocument

end SmartAo.Enterprise
