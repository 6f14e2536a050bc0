import SmartAo.Case.Creation
import SmartAo.Foundation.Sessions
import SmartAo.Opportunity.Qualification

namespace SmartAo.Opportunity

open SmartAo.Foundation SmartAo.Platform SmartAo.Case

structure BoampCaseCreationCommand extends ApplicationCommand where
  observationId : Uuid

/-- A creation: the actor, the command, and the id its consultation link would get. -/
structure CaseCreationCall where
  context : CommandContext
  command : BoampCaseCreationCommand
  linkId : Uuid

structure OpportunityStore where
  qualification : QualificationStore
  cases : CaseStore

/-- The first characters of a text. -/
def upTo (limit : Nat) (text : List Char) : String := String.ofList (text.take limit)

/-- `", ".join(texts) or "non précisés"`. -/
def listed (texts : List String) : List Char :=
  let joined := [',', ' '].intercalate (texts.map String.toList)
  if joined = [] then "non précisés".toList else joined

/-- `_description`. -/
def description (observation : BoampOpportunityObservationRecord) : String :=
  upTo 10000 ("Observation publique BOAMP ".toList ++ observation.sourceNoticeId.toList ++
    ". Départements : ".toList ++ listed observation.departmentCodes ++
    ". Types de marché : ".toList ++ listed observation.marketTypes ++
    ". Date limite publiée : ".toList ++ (observation.responseDeadline.elim "non précisée" isoformat).toList ++
    ". Description contractuelle à compléter après réception et contrôle du DCE.".toList)

/-- The title of the observation, when it has one that is not empty. -/
def caseTitle (observation : BoampOpportunityObservationRecord) : String :=
  upTo 240 (stripChars (((observation.title.filter (· ≠ "")).map String.toList).getD
    ("Avis BOAMP ".toList ++ observation.sourceNoticeId.toList)))

namespace CaseCreationCall

variable (call : CaseCreationCall)

def caseId : Uuid :=
  uuid5 0x6ba7b8119dad11d180b400c04fd430c8 ("smart-ao:case:".toList ++ call.command.idempotencyKey.chars)

/-- The fields of the command that a creation sends on. -/
def caseCommand (observation : BoampOpportunityObservationRecord) : CreateCaseCommand where
  toApplicationCommand := call.command.toApplicationCommand
  caseId := call.caseId
  title := caseTitle observation
  objectDescription := description observation
  consultationId := none
  consultationRevision := none
  scopeKind := .customSourcedScope
  lotNumbers := []
  trancheReference := none
  variantReference := none
  scopeJustification := some
    "Périmètre issu d’un signal public : confirmer les lots et pièces du DCE avant chiffrage ou décision."
  originKind := .opportunity
  originRationale := some (upTo 2000 ("Signal BOAMP ".toList ++ observation.sourceNoticeId.toList ++
    " qualifié par décision humaine; score public figé ".toList ++ (toString observation.score).toList ++
    "/100 (".toList ++ observation.scoreVersion.toList ++ ").".toList))
  originReferenceId := some observation.id

/-- The qualifications of the call's observation. -/
def verdicts (store : OpportunityStore) : List BoampOpportunityQualificationRecord :=
  store.qualification.qualifications.rows.filter fun row =>
    row.tenantId = call.context.tenantId ∧ row.observationId = call.command.observationId

/-- The first session of `BoampCaseCreationService.create`, and the command it prepares. -/
def check (store : OpportunityStore) : Transaction CreateCaseCommand := do
  raiseIf (call.context.actorKind ≠ .patronAdmin) (.failed "BOAMP_CASE_CREATION_PATRON_REQUIRED")
  let observation ← orRaise (store.qualification.observation call.context.tenantId call.command.observationId)
    (.failed "NOT_FOUND_OR_FORBIDDEN")
  raiseIf ((call.verdicts store).any (·.decision = .qualified) = false) (.failed "BOAMP_QUALIFICATION_REQUIRED")
  orRaise (call.caseCommand observation).build (.failed "ValidationError")

/-- The dispatch of the prepared command. -/
def dispatch (command : CreateCaseCommand) (store : OpportunityStore) : Transaction OpportunityStore := do
  let (cases, _) ← createCaseRoot store.cases command call.context call.linkId
  return { store with cases }

end CaseCreationCall

/-- What happens beside the creations under way: qualifications, and what other services write. -/
inductive OpportunityInput where
  | qualify (call : QualificationCall)
  | observe (row : BoampOpportunityObservationRecord)
  | membership (patrons : List (Uuid × Uuid))
  | otherCases (cases : CaseStore)

def OpportunityStore.alone (store : OpportunityStore) : OpportunityInput → Transaction OpportunityStore
  | .qualify call => (qualify store.qualification call).map fun done => { store with qualification := done.1 }
  | .observe row => do
    let observations ← flush (store.qualification.observations.insert? row)
    return { store with qualification := { store.qualification with observations } }
  | .membership patrons => return { store with qualification := { store.qualification with patrons } }
  | .otherCases cases => return { store with cases }

/-- A creation checks the store that its first session saw, and dispatches to the one it commits in. -/
def finishCreation (session : Session OpportunityStore CaseCreationCall) (store : OpportunityStore) :
    Transaction OpportunityStore := do
  let command ← session.command.check (session.view store 0)
  session.command.dispatch command store

abbrev OpportunityState := Sessions OpportunityStore CaseCreationCall

abbrev OpportunityStep := SessionInput OpportunityInput CaseCreationCall

def opportunityStep (state : OpportunityState) (input : OpportunityStep) : Transaction OpportunityState :=
  state.step OpportunityStore.alone finishCreation input

end SmartAo.Opportunity
