import SmartAo.Case.Record
import SmartAo.Dce.Staging
import SmartAo.Foundation.Digest
import SmartAo.Foundation.Text

namespace SmartAo.Case

open SmartAo.Foundation SmartAo.Platform SmartAo.Dce

inductive CaseScopeKind where
  | singleLot
  | multiLot
  | tranche
  | variant
  | customSourcedScope
deriving DecidableEq

/-- The kind as the scope stores it. -/
def CaseScopeKind.value : CaseScopeKind → String
  | singleLot => "SINGLE_LOT"
  | multiLot => "MULTI_LOT"
  | tranche => "TRANCHE"
  | variant => "VARIANT"
  | customSourcedScope => "CUSTOM_SOURCED_SCOPE"

inductive CaseOriginKind where
  | opportunity
  | manual
  | import_
  | customerRequest
deriving DecidableEq

/-- The kind as a command names it. -/
def CaseOriginKind.commandValue : CaseOriginKind → String
  | opportunity => "OPPORTUNITY"
  | manual => "MANUAL"
  | import_ => "IMPORT"
  | customerRequest => "CLIENT_REQUEST"

structure CaseScope where
  kind : CaseScopeKind
  lotNumbers : List String
  trancheReference : Option String
  variantReference : Option String
  sourceJustification : Option String
deriving DecidableEq

def stripped (text : Option String) : String := strip (text.getD "")

/-- The lots that are not blank, without their surrounding spaces. -/
def namedLots (lotNumbers : List String) : List String := (lotNumbers.map strip).filter (· ≠ "")

def scopeAmbiguous (message : String) : CommandError := .failed message

def CaseScope.validate (scope : CaseScope) : Transaction Unit := do
  let lots := namedLots scope.lotNumbers
  let tranche := stripped scope.trancheReference
  let variant_ := stripped scope.variantReference
  let justification := stripped scope.sourceJustification
  match scope.kind with
  | .singleLot =>
    raiseIf (lots.length ≠ 1 ∨ tranche ≠ "" ∨ variant_ ≠ "" ∨ justification ≠ "")
      (scopeAmbiguous "single lot scope requires exactly one lot and no mixed scope")
  | .multiLot =>
    raiseIf (lots.length < 2) (scopeAmbiguous "multi lot scope requires at least two lots")
    raiseIf (justification = "") (scopeAmbiguous "multi lot scope requires a source justification")
    raiseIf (tranche ≠ "" ∨ variant_ ≠ "")
      (scopeAmbiguous "multi lot scope cannot mix tranche or variant references")
  | .tranche =>
    raiseIf (tranche = "") (scopeAmbiguous "tranche scope requires a tranche reference")
    raiseIf (lots ≠ [] ∨ variant_ ≠ "" ∨ justification ≠ "")
      (scopeAmbiguous "tranche scope cannot mix lots, variants or justification")
  | .variant =>
    raiseIf (variant_ = "") (scopeAmbiguous "variant scope requires a variant reference")
    raiseIf (lots ≠ [] ∨ tranche ≠ "" ∨ justification ≠ "")
      (scopeAmbiguous "variant scope cannot mix lots, tranche or justification")
  | .customSourcedScope =>
    raiseIf (justification = "") (scopeAmbiguous "custom sourced scope requires a source justification")
    raiseIf (lots ≠ [] ∨ tranche ≠ "" ∨ variant_ ≠ "")
      (scopeAmbiguous "custom sourced scope cannot mix lot, tranche or variant")

structure CreateCaseCommand extends ApplicationCommand where
  caseId : Uuid
  title : String
  objectDescription : String
  consultationId : Option Uuid
  consultationRevision : Option Nat
  scopeKind : CaseScopeKind
  lotNumbers : List String
  trancheReference : Option String
  variantReference : Option String
  scopeJustification : Option String
  originKind : CaseOriginKind
  originRationale : Option String
  originReferenceId : Option Uuid

/-- White space at the ends of a command's texts is taken off when it is built. -/
def trimText (text : String) : String := String.ofList (trimBy isWhiteSpace text.toList)

def fitsText (limit : Nat) (text : Option String) : Bool := text.all fun text => text.length ≤ limit

/-- The command that the validators build from the fields a client sends. -/
def CreateCaseCommand.build (sent : CreateCaseCommand) : Option CreateCaseCommand := do
  let command := { sent with
    title := trimText sent.title
    objectDescription := trimText sent.objectDescription
    lotNumbers := sent.lotNumbers.map trimText
    trancheReference := sent.trancheReference.map trimText
    variantReference := sent.variantReference.map trimText
    scopeJustification := sent.scopeJustification.map trimText
    originRationale := sent.originRationale.map trimText }
  guard (1 ≤ command.title.length ∧ command.title.length ≤ 240)
  guard (1 ≤ command.objectDescription.length ∧ command.objectDescription.length ≤ 10000)
  guard (fitsText 240 command.trancheReference ∧ fitsText 240 command.variantReference)
  guard (fitsText 2000 command.scopeJustification ∧ fitsText 2000 command.originRationale)
  return command

def CreateCaseCommand.scope (command : CreateCaseCommand) : CaseScope where
  kind := command.scopeKind
  lotNumbers := command.lotNumbers
  trancheReference := command.trancheReference
  variantReference := command.variantReference
  sourceJustification := command.scopeJustification

structure CreatedCaseRecord where
  id : Uuid
  tenantId : Uuid
  aggregateRevision : Nat
  functionalIdentityHash : String
  title : String
  objectDescription : String
  businessOrigin : CaseOriginKind
  originReferenceId : Option Uuid
  originRationale : Option String
  consultationId : Option Uuid
  scope : CaseScope
  scopeFingerprint : String
  lifecycle : CaseLifecycle
  createdByActorId : Uuid
deriving DecidableEq

instance : Schema CreatedCaseRecord := .primary (·.id)

structure CaseConsultationLinkRecord where
  id : Uuid
  tenantId : Uuid
  caseId : Uuid
  consultationId : Uuid
  scopeSnapshot : CaseScope
  rationale : Option String
  isCurrent : Bool
  createdByActorId : Uuid
deriving DecidableEq

instance : Schema CaseConsultationLinkRecord := .primary (·.id)

structure CaseStore where
  consultations : Table ConsultationRecord
  cases : Table CreatedCaseRecord
  links : Table CaseConsultationLinkRecord

def jsonText (text : Option String) : Json := (text.map Json.str).getD .null

/-- `_scope_json`, with its keys in order. -/
def scopeJson (scope : CaseScope) : Json :=
  .obj [("kind", .str scope.kind.value), ("lot_numbers", .arr (scope.lotNumbers.map .str)),
    ("source_justification", jsonText scope.sourceJustification),
    ("tranche_reference", jsonText scope.trancheReference), ("variant_reference", jsonText scope.variantReference)]

def sha256Json (value : Json) : String := hexdigest value.dumpsChars

/-- What the functional identity of a case hashes. -/
def functionalIdentity (command : CreateCaseCommand) : Json :=
  .obj [("consultation_id", jsonText (command.consultationId.map Uuid.str)),
    ("origin_kind", .str command.originKind.commandValue),
    ("origin_reference_id", jsonText (command.originReferenceId.map Uuid.str)), ("scope", scopeJson command.scope)]

def functionalIdentityHash (command : CreateCaseCommand) : String := sha256Json (functionalIdentity command)

/-- The consultation of a command is known at the revision it names. -/
def checkConsultation (consultations : Table ConsultationRecord) (command : CreateCaseCommand) (tenantId : Uuid) :
    Transaction Unit :=
  match command.consultationId with
  | none => .ok ()
  | some consultationId => do
    let revision ← orRaise command.consultationRevision (.failed "CONSULTATION_REQUIRED_OR_STALE")
    let consultation ← orRaise
      (consultations.find? fun row => row.tenantId = tenantId ∧ row.id = consultationId)
      (.failed "CONSULTATION_REQUIRED_OR_STALE")
    raiseIf (consultation.aggregateRevision ≠ revision) (.failed "CONSULTATION_REQUIRED_OR_STALE")

/-- The checks of `Case.create`; the reference it is given is the command's own consultation. -/
def checkCase (command : CreateCaseCommand) : Transaction Unit := do
  raiseIf (strip command.title = "") (.failed "case title must be non-empty")
  raiseIf (strip command.objectDescription = "") (.failed "case object description must be non-empty")
  command.scope.validate
  raiseIf (command.originKind = .manual ∧ stripped command.originRationale = "")
    (scopeAmbiguous "manual case origin requires an explicit rationale")
  raiseIf ((command.originKind ≠ .manual ∧ command.originKind ≠ .opportunity) ∧ command.consultationId = none)
    (scopeAmbiguous "this case origin requires a consultation reference")

/-- What `CreateCaseHandler.execute` checks before it looks for the identity. -/
def checkCreation (consultations : Table ConsultationRecord) (command : CreateCaseCommand) (tenantId : Uuid) :
    Transaction Unit := do
  raiseIf (command.originKind = .manual ∧ command.originReferenceId ≠ none)
    (.failed "MANUAL_ORIGIN_MUST_NOT_HAVE_REFERENCE")
  raiseIf (command.originKind ≠ .manual ∧ command.originReferenceId = none)
    (.failed "NON_MANUAL_ORIGIN_REQUIRES_REFERENCE")
  raiseIf (command.consultationId = none ∧ command.consultationRevision ≠ none)
    (.failed "CONSULTATION_REQUIRED_OR_STALE")
  raiseIf (command.consultationId = none ∧ command.originKind ≠ .manual ∧ command.originKind ≠ .opportunity)
    (.failed "CONSULTATION_REQUIRED_OR_STALE")
  checkConsultation consultations command tenantId
  checkCase command

def hasActiveFunctionalIdentity (cases : Table CreatedCaseRecord) (tenantId : Uuid) (hash : String) : Bool :=
  cases.rows.any fun row => row.tenantId = tenantId ∧ row.functionalIdentityHash = hash ∧ row.lifecycle ≠ .archived

def createdCase (command : CreateCaseCommand) (context : CommandContext) : CreatedCaseRecord where
  id := command.caseId
  tenantId := context.tenantId
  aggregateRevision := 0
  functionalIdentityHash := functionalIdentityHash command
  title := strip command.title
  objectDescription := strip command.objectDescription
  businessOrigin := command.originKind
  originReferenceId := command.originReferenceId
  originRationale := command.originRationale
  consultationId := command.consultationId
  scope := command.scope
  scopeFingerprint := sha256Json (scopeJson command.scope)
  lifecycle := .active
  createdByActorId := context.actorId

/-- The link of a case to its consultation, when it has one. -/
def linkConsultation (links : Table CaseConsultationLinkRecord) (linkId : Uuid) (command : CreateCaseCommand)
    (context : CommandContext) : Transaction (Table CaseConsultationLinkRecord) :=
  match command.consultationId with
  | none => .ok links
  | some consultationId => flush (links.insert? {
      id := linkId, tenantId := context.tenantId, caseId := command.caseId, consultationId,
      scopeSnapshot := command.scope, rationale := command.scopeJustification, isCurrent := true,
      createdByActorId := context.actorId })

/-- `CreateCaseHandler.execute`; the id of the link is drawn. -/
def createCaseRoot (store : CaseStore) (command : CreateCaseCommand) (context : CommandContext) (linkId : Uuid) :
    Transaction (CaseStore × HandlerOutcome) := do
  checkCreation store.consultations command context.tenantId
  raiseIf (hasActiveFunctionalIdentity store.cases context.tenantId (functionalIdentityHash command) = true)
    (.failed "DUPLICATE_FUNCTIONAL_IDENTITY")
  let cases ← flush (store.cases.insert? (createdCase command context))
  let links ← linkConsultation store.links linkId command context
  return ({ store with cases, links }, {
    resultCode := "CASE_CREATED"
    aggregateRefs := [⟨"AFF", command.caseId.str, 0, none⟩]
    events := [{
      aggregateType := "CASE", aggregateId := command.caseId, aggregateRevision := 0, eventType := "CASE_CREATED"
      payload := [("case_id", .str command.caseId.str), ("tenant_id", .str context.tenantId.str)] }] })

end SmartAo.Case
