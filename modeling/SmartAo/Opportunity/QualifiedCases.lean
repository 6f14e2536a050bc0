import SmartAo.Opportunity.CaseCreation

namespace SmartAo.Opportunity

open SmartAo.Foundation SmartAo.Platform SmartAo.Case

/-- The most recent verdict on the observation of a creation. -/
def CaseCreationCall.lastVerdict (call : CaseCreationCall) (store : OpportunityStore) : Option QualificationDecision :=
  (call.verdicts store).getLast?.map (·.decision)

/-- The verdicts on it that a store has and an earlier one had not. -/
def CaseCreationCall.verdictsSince (call : CaseCreationCall) (earlier store : OpportunityStore) :
    List BoampOpportunityQualificationRecord := (call.verdicts store).drop (call.verdicts earlier).length

/-- A creation that succeeds finds the last verdict favourable. -/
def OpensQualified : OpportunityState → OpportunityStep → Prop :=
  Finishing fun session store => (finishCreation session store).isOk = true →
    session.command.lastVerdict store = some .qualified

/-- The last verdict is not against the observation when it is checked, and no verdict against it comes between the
    check and the dispatch. -/
structure Undisturbed (session : Session OpportunityStore CaseCreationCall) (store : OpportunityStore) : Prop where
  checked : ∀ verdict ∈ session.command.lastVerdict (session.view store 0), verdict = .qualified
  since : ∀ row ∈ session.command.verdictsSince (session.view store 0) store, row.decision = .qualified

instance (session : Session OpportunityStore CaseCreationCall) (store : OpportunityStore) :
    Decidable (Undisturbed session store) :=
  decidable_of_iff ((∀ verdict ∈ session.command.lastVerdict (session.view store 0), verdict = .qualified) ∧
    ∀ row ∈ session.command.verdictsSince (session.view store 0) store, row.decision = .qualified)
    ⟨fun both => ⟨both.1, both.2⟩, fun undisturbed => ⟨undisturbed.checked, undisturbed.since⟩⟩

/-- Qualifications are only added. -/
def Appended (first second : OpportunityStore) : Prop :=
  first.qualification.qualifications.rows <+: second.qualification.qualifications.rows

variable {store next : OpportunityStore} {session : Session OpportunityStore CaseCreationCall}
  {state after : OpportunityState} {input : OpportunityStep}

theorem persistQualification_appends {tables later : QualificationStore} {call : QualificationCall}
    {observation : BoampOpportunityObservationRecord} {result : QualificationPersistenceResult}
    (persisted : persistQualification tables call observation = .ok (later, result)) :
    tables.qualifications.rows <+: later.qualifications.rows := by
  unfold persistQualification at persisted
  split at persisted
  · simp only [recordQualification, bind_ok, raiseIf_ok, exists_unit, pure_ok, flush, orRaise_ok,
      Prod.mk.injEq] at persisted
    obtain ⟨-, rows, inserted, events, -, outbox, -, rfl, rfl⟩ := persisted
    show tables.qualifications.rows <+: rows.rows
    rw [Table.insert?_rows inserted]
    exact List.prefix_append _ _
  · simp only [bind_ok, raiseIf_ok, exists_unit, pure_ok, Prod.mk.injEq] at persisted
    obtain ⟨-, _, -, rfl, -⟩ := persisted
    exact List.prefix_refl _

theorem alone_appends {single : OpportunityInput} (accepted : store.alone single = .ok next) : Appended store next := by
  cases single with
  | qualify call =>
    obtain ⟨⟨later, result⟩, done, rfl⟩ := except_map_ok.mp accepted
    simp only [qualify, bind_ok, raiseIf_ok, exists_unit, orRaise_ok] at done
    obtain ⟨-, -, -, observation, -, persisted⟩ := done
    exact persistQualification_appends persisted
  | observe row =>
    simp only [OpportunityStore.alone, bind_ok, pure_ok] at accepted
    obtain ⟨observations, -, rfl⟩ := accepted
    exact List.prefix_refl _
  | membership patrons =>
    cases accepted
    exact List.prefix_refl _
  | otherCases cases =>
    cases accepted
    exact List.prefix_refl _

/-- A creation that succeeds saw a favourable verdict, and leaves the verdicts as they are. -/
theorem finishCreation_cases (accepted : finishCreation session store = .ok next) :
    (∃ row ∈ session.command.verdicts (session.view store 0), row.decision = .qualified) ∧
      next.qualification = store.qualification := by
  simp only [finishCreation, CaseCreationCall.check, CaseCreationCall.dispatch, bind_ok, raiseIf_ok, exists_unit,
    orRaise_ok, pure_ok] at accepted
  obtain ⟨command, ⟨-, observation, -, found, -⟩, ⟨cases, outcome⟩, -, rfl⟩ := accepted
  have present : ((session.command.verdicts (session.view store 0)).any fun row => row.decision = .qualified) =
      true := by simpa using found
  obtain ⟨row, member, decision⟩ := List.any_eq_true.mp present
  exact ⟨⟨row, member, of_decide_eq_true decision⟩, rfl⟩

theorem opportunityStep_appends (accepted : opportunityStep state input = .ok after) :
    Appended state.store after.store := by
  rcases Sessions.step_store accepted with ⟨same, _⟩ | ⟨_, ⟨single, _, written⟩ | ⟨index, session, _, _, written⟩⟩
  · rw [same]
    exact List.prefix_refl _
  · exact alone_appends written
  · show state.store.qualification.qualifications.rows <+: after.store.qualification.qualifications.rows
    rw [(finishCreation_cases written).2]

theorem opportunityStep_ordered (ordered : state.Ordered Appended) (accepted : opportunityStep state input = .ok after) :
    after.Ordered Appended :=
  Sessions.step_ordered (fun _ => List.prefix_refl _) List.IsPrefix.trans ordered (opportunityStep_appends accepted) accepted

/-- The verdicts of a later store are those of the earlier one, and those since. -/
theorem verdicts_since {earlier : OpportunityStore} (call : CaseCreationCall) (appended : Appended earlier store) :
    call.verdicts store = call.verdicts earlier ++ call.verdictsSince earlier store := by
  obtain ⟨more, rows⟩ := appended
  unfold CaseCreationCall.verdictsSince CaseCreationCall.verdicts
  rw [← rows, List.filter_append, List.drop_left]

theorem undisturbed_qualified (appended : Appended (session.view store 0) store)
    (undisturbed : Undisturbed session store) (accepted : finishCreation session store = .ok next) : session.command.lastVerdict store = some .qualified := by
  obtain ⟨⟨row, member, -⟩, -⟩ := finishCreation_cases accepted
  have nonempty : session.command.verdicts (session.view store 0) ≠ [] := List.ne_nil_of_mem member
  unfold CaseCreationCall.lastVerdict
  rw [verdicts_since session.command appended]
  cases later : (session.command.verdictsSince (session.view store 0) store).getLast? with
  | none =>
    have last := List.getLast?_eq_some_getLast nonempty
    have favourable : ((session.command.verdicts (session.view store 0)).getLast nonempty).decision = .qualified := by
      apply undisturbed.checked
      rw [CaseCreationCall.lastVerdict, last]
      rfl
    rw [List.getLast?_append, later, Option.none_or, last, Option.map_some, favourable]
  | some verdict =>
    rw [List.getLast?_append, later, Option.some_or, Option.map_some,
      undisturbed.since verdict (List.mem_of_getLast? later)]

section Opening

/-- The text has a character that is no space. -/
def Solid (text : List Char) : Prop := ∃ c ∈ text, isSpace c = false

theorem solid_trimText {text : String} (solid : Solid text.toList) : Solid (trimText text).toList := by
  obtain ⟨c, member, clear⟩ := solid
  have kept : isWhiteSpace c = false := by rw [isWhiteSpace, clear, Bool.false_and]
  rw [trimText, String.toList_ofList]
  exact ⟨c, mem_trimBy member kept, clear⟩

theorem strip_ne_of_solid {text : String} (solid : Solid text.toList) : strip text ≠ "" := by
  obtain ⟨c, member, clear⟩ := solid
  intro empty
  have chars := congrArg String.toList empty
  rw [strip, String.toList_ofList, stripChars_eq_trimBy] at chars
  have inside : c ∈ trimBy isSpace text.toList := mem_trimBy member clear
  rw [chars] at inside
  cases inside

theorem one_le_of_solid {text : String} (solid : Solid text.toList) : 1 ≤ text.length := by
  obtain ⟨c, member, -⟩ := solid
  rw [← String.length_toList]
  exact List.length_pos_of_mem member

theorem trimText_length_le (text : String) : (trimText text).length ≤ text.length := by
  rw [trimText, String.length_ofList, ← String.length_toList]
  exact trimBy_length_le

theorem upTo_length_le (limit : Nat) (text : List Char) : (upTo limit text).length ≤ limit := by
  rw [upTo, String.length_ofList]
  exact List.length_take_le _ _

theorem fitsText_trim {text : String} {limit : Nat} (fits : text.length ≤ limit) :
    fitsText limit (some (trimText text)) = true := by
  rw [fitsText, Option.all_some, decide_eq_true_eq]
  exact (trimText_length_le text).trans fits

variable {call : CaseCreationCall} {observation : BoampOpportunityObservationRecord}

theorem description_solid : Solid (description observation).toList := by
  rw [description, upTo, String.toList_ofList]
  exact ⟨'O', by simp, by decide⟩

/-- The command of a creation as its validators leave it. -/
def CaseCreationCall.prepared (call : CaseCreationCall) (observation : BoampOpportunityObservationRecord) :
    CreateCaseCommand :=
  let sent := call.caseCommand observation
  { sent with
    title := trimText sent.title
    objectDescription := trimText sent.objectDescription
    scopeJustification := sent.scopeJustification.map trimText
    originRationale := sent.originRationale.map trimText }

theorem build_caseCommand (titled : Solid (caseTitle observation).toList) :
    (call.caseCommand observation).build = some (call.prepared observation) := by
  have title : 1 ≤ (trimText (call.caseCommand observation).title).length ∧
      (trimText (call.caseCommand observation).title).length ≤ 240 :=
    ⟨one_le_of_solid (solid_trimText titled), (trimText_length_le _).trans (upTo_length_le _ _)⟩
  have described : 1 ≤ (trimText (call.caseCommand observation).objectDescription).length ∧
      (trimText (call.caseCommand observation).objectDescription).length ≤ 10000 :=
    ⟨one_le_of_solid (solid_trimText description_solid), (trimText_length_le _).trans (upTo_length_le _ _)⟩
  have references : fitsText 240 ((call.caseCommand observation).trancheReference.map trimText) = true ∧
      fitsText 240 ((call.caseCommand observation).variantReference.map trimText) = true := ⟨rfl, rfl⟩
  have justified : fitsText 2000 ((call.caseCommand observation).scopeJustification.map trimText) = true ∧
      fitsText 2000 ((call.caseCommand observation).originRationale.map trimText) = true :=
    ⟨fitsText_trim (by decide +kernel), fitsText_trim (upTo_length_le _ _)⟩
  unfold CreateCaseCommand.build
  simp only [guard]
  rw [if_pos title, if_pos described, if_pos references, if_pos justified]
  rfl

theorem prepared_accepted (titled : Solid (caseTitle observation).toList) (consultations : Table Dce.ConsultationRecord)
    (tenantId : Uuid) : checkCreation consultations (call.prepared observation) tenantId = .ok () := by
  have title : strip (call.prepared observation).title ≠ "" := strip_ne_of_solid (solid_trimText titled)
  have described : strip (call.prepared observation).objectDescription ≠ "" :=
    strip_ne_of_solid (solid_trimText description_solid)
  have justification : stripped (call.prepared observation).scopeJustification ≠ "" :=
    strip_ne_of_solid (solid_trimText ⟨'P', by decide +kernel, by decide⟩)
  have mixed : ¬ (namedLots [] ≠ [] ∨ stripped none ≠ "" ∨ stripped none ≠ "") := by decide +kernel
  have scope : (call.prepared observation).scope.validate = .ok () := by
    show (do
      raiseIf (stripped (call.prepared observation).scopeJustification = "") _
      raiseIf _ _ : Transaction Unit) = .ok ()
    rw [bind_of_ok (raiseIf_pass justification)]
    exact raiseIf_pass mixed
  have kind : (call.prepared observation).originKind = .opportunity := rfl
  have known : (call.prepared observation).consultationId = none := rfl
  have revision : (call.prepared observation).consultationRevision = none := rfl
  have origin : (call.prepared observation).originReferenceId = some observation.id := rfl
  have checked : checkCase (call.prepared observation) = .ok () := by
    simp only [checkCase, bind_ok, raiseIf_ok, exists_unit]
    exact ⟨title, described, scope, by simp [kind], by simp [kind]⟩
  simp only [checkCreation, bind_ok, raiseIf_ok, exists_unit]
  exact ⟨by simp [kind], by simp [origin], by simp [revision], by simp [kind],
    by simp [checkConsultation, known], checked⟩

/-- A patron's creation opens the case of a titled notice that was found qualified, whatever has come since. -/
theorem finishCreation_opens (patron : session.command.context.actorKind = .patronAdmin)
    (found : (session.view store 0).qualification.observation session.command.context.tenantId
      session.command.command.observationId = some observation)
    (titled : Solid (caseTitle observation).toList)
    (qualified : ((session.command.verdicts (session.view store 0)).any fun row => row.decision = .qualified) = true)
    (first : store.cases.cases.rows = []) : (finishCreation session store).isOk = true := by
  have checked : session.command.check (session.view store 0) = .ok (session.command.prepared observation) := by
    simp only [CaseCreationCall.check, bind_ok, raiseIf_ok, exists_unit, orRaise_ok]
    exact ⟨by simp [patron], observation, found, by simp [qualified], build_caseCommand titled⟩
  have absent : ¬ hasActiveFunctionalIdentity store.cases.cases session.command.context.tenantId
      (functionalIdentityHash (session.command.prepared observation)) = true := by
    rw [hasActiveFunctionalIdentity, first]
    exact Bool.false_ne_true
  have free : (store.cases.cases.insert? (createdCase (session.command.prepared observation)
      session.command.context)).isSome := by
    refine Table.insert?_isSome.mpr fun row member => ?_
    rw [← Table.mem_rows, first] at member
    cases member
  obtain ⟨cases, inserted⟩ := Option.isSome_iff_exists.mp free
  rw [finishCreation, bind_of_ok checked, CaseCreationCall.dispatch, createCaseRoot,
    bind_of_ok (prepared_accepted titled store.cases.consultations session.command.context.tenantId),
    bind_of_ok (raiseIf_pass absent), flush, inserted]
  rfl

end Opening

/-- A patron's call on the observation of the example. -/
def exampleContext : CommandContext := ⟨1, 2, .patronAdmin, 0, none, none⟩

def exampleObservation : BoampOpportunityObservationRecord where
  id := 7
  tenantId := 1
  source := "BOAMP"
  sourceNoticeId := "26-1"
  fingerprintSha256 := ""
  title := some "école"
  publicationDate := none
  responseDeadline := none
  departmentCodes := []
  marketTypes := []
  sourceStatus := none
  scoreVersion := "BOAMP_PUBLIC_V1"
  score := 50
  scoreExplanation := ⟨"BOAMP_PUBLIC_V1", 50, [], ""⟩
  scoreExplanationSha256 := ""
  observedAt := 0

def exampleStore : OpportunityStore :=
  ⟨⟨.singleton exampleObservation, .empty, .empty, .empty, [(1, 2)]⟩, ⟨.empty, .empty, .empty⟩⟩

def exampleVerdict (key : Uuid) (decision : QualificationDecision) (reason : QualificationReason) : OpportunityStep :=
  .alone (.qualify ⟨exampleContext, ⟨⟨key, key, none⟩, 7, decision, reason⟩, 0, key, key⟩)

def exampleCreation : CaseCreationCall := ⟨exampleContext, ⟨⟨20, 20, none⟩, 7⟩, 21⟩

def exampleQualified : OpportunityStep := exampleVerdict 10 .qualified .relevantPublicSignal

def exampleRejected : OpportunityStep := exampleVerdict 11 .rejected .notRelevant

end SmartAo.Opportunity
