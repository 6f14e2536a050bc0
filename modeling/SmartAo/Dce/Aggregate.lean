import SmartAo.Dce.Fragments
import SmartAo.Foundation.Mutation

namespace SmartAo.DceDomain

open SmartAo.Foundation SmartAo.Platform SmartAo.Dce

inductive DceDomainError where
  | documentOriginalImmutable (message : String)
  | dceVersionUnusable (message : String)
  | sourceLocationRequired (message : String)
deriving DecidableEq

def DceDomainError.code : DceDomainError → String
  | documentOriginalImmutable _ => "DOCUMENT_ORIGINAL_IMMUTABLE"
  | dceVersionUnusable _ => "DCE_VERSION_UNUSABLE"
  | sourceLocationRequired _ => "SOURCE_LOCATION_REQUIRED"

def blank (text : String) : Bool := strip text = ""

/-- An admitted original; one that fails its checks is not built. -/
structure DceDocument where
  documentId : Uuid
  originalFilename : String
  sha256 : String
  mediaType : String
  sizeBytes : Int
  described : blank originalFilename = false ∧ blank mediaType = false ∧ 0 < sizeBytes
  hex : isSha256 sha256 = true

structure MissingDocument where
  expectedFamily : String
  reason : String
  sourceReference : String

structure SourceStatement where
  sourceStatementId : Uuid
  documentId : Uuid
  locator : String
  excerpt : String
  provenance : String

inductive DceEvent where
  | versionRegistered (dceVersionId tenantId consultationId : Uuid) (corpusHash : String)
  | documentMissingDeclared (dceVersionId : Uuid) (expectedFamily : String)
  | versionSuperseded (dceVersionId supersededByVersionId : Uuid)
  | versionWithdrawn (dceVersionId : Uuid)
  | sourceStatementRegistered (dceVersionId sourceStatementId : Uuid)

/-- The DCE aggregate root. -/
structure DceVersion where
  id : Uuid
  tenantId : Uuid
  consultationId : Uuid
  corpusHash : String
  documents : List DceDocument
  provenance : String
  receivedAt : Timestamp
  supersedesVersionId : Option Uuid := none
  supersessionSource : Option String := none
  lifecycle : DceLifecycle := .admitted
  integrity : DceIntegrity := .verified
  classificationReadiness : ClassificationReadiness := .unclassified
  analysisReadiness : AnalysisReadiness := .notReady
  missingDocuments : List MissingDocument := []
  sourceStatements : List SourceStatement := []
  aggregateRevision : Nat := 0
  pendingEvents : List DceEvent := []

abbrev Operation := Mutation DceDomainError DceVersion Unit

/-- `DceVersion.register` -/
def register (dceVersionId tenantId consultationId : Uuid) (corpusHash : String) (documents : List DceDocument)
    (provenance : String) (receivedAt : Timestamp) (supersedesVersionId : Option Uuid)
    (supersessionSource : Option String) : Except DceDomainError DceVersion := do
  let normalizedCorpusHash := lower corpusHash
  raiseIf (isSha256 normalizedCorpusHash = false)
    (.documentOriginalImmutable "DCE corpus hash must be a valid SHA-256")
  raiseIf (documents = []) (.documentOriginalImmutable "DCE version requires at least one admitted original")
  raiseIf (blank provenance = true) (.sourceLocationRequired "DCE version requires provenance")
  raiseIf (supersedesVersionId ≠ none ∧ blank (supersessionSource.getD "") = true)
    (.sourceLocationRequired "rectificatif requires supersession source")
  raiseIf (¬ (documents.map (·.documentId)).Nodup)
    (.documentOriginalImmutable "DCE version contains duplicate document identifiers")
  return {
    id := dceVersionId, tenantId, consultationId, corpusHash := normalizedCorpusHash, documents
    provenance := strip provenance, receivedAt, supersedesVersionId
    supersessionSource := (supersessionSource.filter (· ≠ "")).map strip
    pendingEvents := [.versionRegistered dceVersionId tenantId consultationId normalizedCorpusHash] }

namespace DceVersion

def ensureAdmittedAndUsable (version : DceVersion) : Except DceDomainError Unit := do
  raiseIf (version.lifecycle = .withdrawn ∨ version.integrity = .unusable)
    (.dceVersionUnusable "DCE version is withdrawn or unusable")
  raiseIf (version.lifecycle ≠ .admitted) (.dceVersionUnusable "operation requires an admitted DCE version")

def incrementRevision (version : DceVersion) : DceVersion :=
  { version with aggregateRevision := version.aggregateRevision + 1 }

def record (event : DceEvent) (version : DceVersion) : DceVersion :=
  { version with pendingEvents := version.pendingEvents ++ [event] }

/-- A rectificatif must be a new root. -/
def replaceAdmittedCorpus : Operation :=
  Mutation.test fun _ =>
    .error (.documentOriginalImmutable "admitted corpus and original documents cannot be replaced")

def declareMissingDocument (expectedFamily reason sourceReference : String) : Operation := do
  Mutation.test ensureAdmittedAndUsable
  Mutation.test fun _ => raiseIf (blank expectedFamily = true ∨ blank reason = true ∨ blank sourceReference = true)
    (.sourceLocationRequired "missing document declaration requires family, reason and source reference")
  Mutation.assign fun version => { version with
    missingDocuments := version.missingDocuments ++ [⟨strip expectedFamily, strip reason, strip sourceReference⟩] }
  Mutation.assign fun version => { version with integrity := .partialCorpus }
  Mutation.assign incrementRevision
  Mutation.assign fun version => version.record (.documentMissingDeclared version.id (strip expectedFamily))

def registerSourceStatement (sourceStatementId documentId : Uuid) (locator excerpt provenance : String) :
    Operation := do
  Mutation.test ensureAdmittedAndUsable
  Mutation.test fun version => raiseIf (documentId ∉ version.documents.map (·.documentId))
    (.sourceLocationRequired "source statement document is not in DCE version")
  Mutation.test fun _ => raiseIf (blank locator = true ∨ blank excerpt = true ∨ blank provenance = true)
    (.sourceLocationRequired "source statement requires locator, excerpt and provenance")
  Mutation.test fun version =>
    raiseIf (version.sourceStatements.any fun statement => statement.sourceStatementId = sourceStatementId)
      (.sourceLocationRequired "source statement identifier is already registered")
  Mutation.assign fun version => { version with sourceStatements := version.sourceStatements ++
    [⟨sourceStatementId, documentId, strip locator, strip excerpt, strip provenance⟩] }
  Mutation.assign incrementRevision
  Mutation.assign fun version => version.record (.sourceStatementRegistered version.id sourceStatementId)

def markSupersededBy (successorVersionId : Uuid) : Operation := do
  Mutation.test fun version => raiseIf (version.lifecycle = .withdrawn)
    (.dceVersionUnusable "withdrawn DCE version cannot be superseded")
  Mutation.test fun version => raiseIf (successorVersionId = version.id)
    (.documentOriginalImmutable "DCE version cannot supersede itself")
  Mutation.assign fun version => { version with lifecycle := .superseded }
  Mutation.assign fun version => { version with analysisReadiness := .reviewRequired }
  Mutation.assign incrementRevision
  Mutation.assign fun version => version.record (.versionSuperseded version.id successorVersionId)

def withdraw (reason sourceReference : String) : Operation := do
  Mutation.test fun version => raiseIf (version.lifecycle ≠ .admitted)
    (.dceVersionUnusable "only an admitted DCE version can be withdrawn")
  Mutation.test fun _ => raiseIf (blank reason = true ∨ blank sourceReference = true)
    (.sourceLocationRequired "DCE withdrawal requires reason and source reference")
  Mutation.assign fun version => { version with lifecycle := .withdrawn }
  Mutation.assign fun version => { version with analysisReadiness := .reviewRequired }
  Mutation.assign incrementRevision
  Mutation.assign fun version => version.record (.versionWithdrawn version.id)

end DceVersion

inductive DceOperation where
  | replaceAdmittedCorpus (corpusHash : String) (documents : List DceDocument)
  | declareMissingDocument (expectedFamily reason sourceReference : String)
  | registerSourceStatement (sourceStatementId documentId : Uuid) (locator excerpt provenance : String)
  | markSupersededBy (successorVersionId : Uuid)
  | withdraw (reason sourceReference : String)

def operate : DceOperation → Operation
  | .replaceAdmittedCorpus _ _ => DceVersion.replaceAdmittedCorpus
  | .declareMissingDocument expectedFamily reason sourceReference =>
    DceVersion.declareMissingDocument expectedFamily reason sourceReference
  | .registerSourceStatement sourceStatementId documentId locator excerpt provenance =>
    DceVersion.registerSourceStatement sourceStatementId documentId locator excerpt provenance
  | .markSupersededBy successorVersionId => DceVersion.markSupersededBy successorVersionId
  | .withdraw reason sourceReference => DceVersion.withdraw reason sourceReference

abbrev operated (version : DceVersion) (operations : List DceOperation) : DceVersion :=
  run (Mutation.calls operate) version operations

/-- The successor an event names. -/
def DceEvent.successor : DceEvent → Option Uuid
  | versionSuperseded _ supersededByVersionId => some supersededByVersionId
  | _ => none

def DceVersion.successors (version : DceVersion) : List Uuid := version.pendingEvents.filterMap DceEvent.successor

/-- The operations that take a version out of ADMITTED. -/
def departures (version : DceVersion) (operations : List DceOperation) : Nat :=
  tally (Mutation.calls operate) (fun version operation => version.lifecycle = .admitted ∧
    ((operate operation).after version).lifecycle ≠ .admitted) version operations

/-- A version leaves ADMITTED at most once, nothing changes it afterwards, and it names at most one successor, which
    is another version. -/
structure OneShot (version : DceVersion) (operations : List DceOperation) : Prop where
  departs : departures version operations ≤ 1
  frozen : ∀ first operation, first ++ [operation] <+: operations → (operated version first).lifecycle ≠ .admitted →
    ∃ error, operate operation (operated version first) = .error error (operated version first)
  successor : (operated version operations).successors.length ≤ 1
  another : ∀ successor ∈ (operated version operations).successors, successor ≠ version.id

/-- A superseded version is not superseded again by another one. -/
def SupersedesOnce (version : DceVersion) : DceOperation → Prop
  | .markSupersededBy successorVersionId => version.lifecycle = .superseded → successorVersionId = version.id
  | _ => True

variable {version next : DceVersion} {operation : DceOperation}

/-- What an operation that returns has done. -/
inductive Change (version : DceVersion) : DceOperation → DceVersion → Prop where
  | declared (expectedFamily reason sourceReference : String) (admitted : version.lifecycle = .admitted) :
    Change version (.declareMissingDocument expectedFamily reason sourceReference) { version with
      missingDocuments := version.missingDocuments ++ [⟨strip expectedFamily, strip reason, strip sourceReference⟩]
      integrity := .partialCorpus
      aggregateRevision := version.aggregateRevision + 1
      pendingEvents := version.pendingEvents ++ [.documentMissingDeclared version.id (strip expectedFamily)] }
  | stated (sourceStatementId documentId : Uuid) (locator excerpt provenance : String)
    (admitted : version.lifecycle = .admitted) :
    Change version (.registerSourceStatement sourceStatementId documentId locator excerpt provenance) { version with
      sourceStatements := version.sourceStatements ++
        [⟨sourceStatementId, documentId, strip locator, strip excerpt, strip provenance⟩]
      aggregateRevision := version.aggregateRevision + 1
      pendingEvents := version.pendingEvents ++ [.sourceStatementRegistered version.id sourceStatementId] }
  | superseded (successorVersionId : Uuid) (present : version.lifecycle ≠ .withdrawn)
    (another : successorVersionId ≠ version.id) : Change version (.markSupersededBy successorVersionId) { version with
      lifecycle := .superseded
      analysisReadiness := .reviewRequired
      aggregateRevision := version.aggregateRevision + 1
      pendingEvents := version.pendingEvents ++ [.versionSuperseded version.id successorVersionId] }
  | withdrawn (reason sourceReference : String) (admitted : version.lifecycle = .admitted) :
    Change version (.withdraw reason sourceReference) { version with
      lifecycle := .withdrawn
      analysisReadiness := .reviewRequired
      aggregateRevision := version.aggregateRevision + 1
      pendingEvents := version.pendingEvents ++ [.versionWithdrawn version.id] }

theorem ensureAdmittedAndUsable_ok {done : Unit} (passed : version.ensureAdmittedAndUsable = .ok done) :
    version.lifecycle = .admitted := by
  simp only [DceVersion.ensureAdmittedAndUsable, bind_ok, raiseIf_ok, exists_unit, not_not] at passed
  exact passed.2

theorem operate_change {done : Unit} (returned : operate operation version = .ok done next) :
    Change version operation next := by
  cases operation with
  | replaceAdmittedCorpus corpusHash documents => cases returned
  | declareMissingDocument expectedFamily reason sourceReference =>
    simp only [operate, DceVersion.declareMissingDocument, Mutation.test_bind_ok, exists_unit] at returned
    obtain ⟨usable, _, later⟩ := returned
    cases later
    exact .declared expectedFamily reason sourceReference (ensureAdmittedAndUsable_ok usable)
  | registerSourceStatement sourceStatementId documentId locator excerpt provenance =>
    simp only [operate, DceVersion.registerSourceStatement, Mutation.test_bind_ok, exists_unit] at returned
    obtain ⟨usable, _, _, _, later⟩ := returned
    cases later
    exact .stated sourceStatementId documentId locator excerpt provenance (ensureAdmittedAndUsable_ok usable)
  | markSupersededBy successorVersionId =>
    simp only [operate, DceVersion.markSupersededBy, Mutation.test_bind_ok, exists_unit, raiseIf_ok] at returned
    obtain ⟨present, another, later⟩ := returned
    cases later
    exact .superseded successorVersionId present another
  | withdraw reason sourceReference =>
    simp only [operate, DceVersion.withdraw, Mutation.test_bind_ok, exists_unit, raiseIf_ok, not_not] at returned
    obtain ⟨admitted, _, later⟩ := returned
    cases later
    exact .withdrawn reason sourceReference admitted

/-- Every operation makes its tests before its first assignment. -/
theorem operate_atomic (operation : DceOperation) (version : DceVersion) : (operate operation).AtomicAt version := by
  cases operation with
  | replaceAdmittedCorpus corpusHash documents =>
    intro error next raised
    cases raised
    rfl
  | declareMissingDocument expectedFamily reason sourceReference =>
    apply Mutation.AtomicAt.test
    intro _ _
    apply Mutation.AtomicAt.test
    intro _ _
    exact Mutation.AtomicAt.of_ok rfl
  | registerSourceStatement sourceStatementId documentId locator excerpt provenance =>
    apply Mutation.AtomicAt.test
    intro _ _
    apply Mutation.AtomicAt.test
    intro _ _
    apply Mutation.AtomicAt.test
    intro _ _
    apply Mutation.AtomicAt.test
    intro _ _
    exact Mutation.AtomicAt.of_ok rfl
  | markSupersededBy successorVersionId =>
    apply Mutation.AtomicAt.test
    intro _ _
    apply Mutation.AtomicAt.test
    intro _ _
    exact Mutation.AtomicAt.of_ok rfl
  | withdraw reason sourceReference =>
    apply Mutation.AtomicAt.test
    intro _ _
    apply Mutation.AtomicAt.test
    intro _ _
    exact Mutation.AtomicAt.of_ok rfl

/-- An operation changes a version, or is refused and leaves it. -/
theorem operate_cases (operation : DceOperation) (version : DceVersion) :
    Change version operation ((operate operation).after version) ∨
      ∃ error, operate operation version = .error error version := by
  rcases Mutation.after_cases (operate operation) version with returned | ⟨error, raised⟩
  · exact .inl (operate_change returned)
  · have same := operate_atomic operation version error _ raised
    rw [same] at raised
    exact .inr ⟨error, raised⟩

theorem after_of_error {error : DceDomainError} (raised : operate operation version = .error error version) :
    (operate operation).after version = version := by
  rw [Mutation.after, raised]

theorem Change.id (change : Change version operation next) : next.id = version.id := by
  cases change <;> rfl

/-- Only another supersession changes a version that is no longer admitted. -/
theorem Change.departed (change : Change version operation next) (left : version.lifecycle ≠ .admitted) :
    version.lifecycle = .superseded ∧ next.lifecycle = .superseded ∧
      ∃ successor, operation = .markSupersededBy successor ∧ successor ≠ version.id := by
  cases change with
  | declared _ _ _ admitted => exact absurd admitted left
  | stated _ _ _ _ _ admitted => exact absurd admitted left
  | superseded successor present another =>
    refine ⟨?_, rfl, successor, rfl, another⟩
    cases life : version.lifecycle with
    | admitted => exact absurd life left
    | superseded => rfl
    | withdrawn => exact absurd life present
  | withdrawn _ _ admitted => exact absurd admitted left

theorem departed_after (left : version.lifecycle ≠ .admitted) (operation : DceOperation) :
    ((operate operation).after version).lifecycle ≠ .admitted := by
  rcases operate_cases operation version with change | ⟨error, raised⟩
  · rw [(change.departed left).2.1]
    decide
  · rw [after_of_error raised]
    exact left

theorem departures_departed (left : version.lifecycle ≠ .admitted) (operations : List DceOperation) :
    departures version operations = 0 := by
  induction operations generalizing version with
  | nil => rfl
  | cons operation operations ih =>
    have rest := ih (departed_after left operation)
    unfold departures at rest ⊢
    rw [tally, Mutation.commit_calls, rest]
    simp [left]

theorem departures_le_one (version : DceVersion) (operations : List DceOperation) : departures version operations ≤ 1 := by
  induction operations generalizing version with
  | nil => exact Nat.zero_le 1
  | cons operation operations ih =>
    by_cases stays : ((operate operation).after version).lifecycle = .admitted
    · have rest := ih ((operate operation).after version)
      unfold departures at rest ⊢
      rw [tally, Mutation.commit_calls]
      simpa [stays] using rest
    · have rest := departures_departed stays operations
      unfold departures at rest ⊢
      rw [tally, Mutation.commit_calls, rest]
      split <;> omega

theorem operated_id (version : DceVersion) (operations : List DceOperation) : (operated version operations).id = version.id := by
  have transitive {first second third : DceVersion} (one : second.id = first.id) (two : third.id = second.id) :
      third.id = first.id := two.trans one
  have kept (version : DceVersion) (operation : DceOperation) : ((operate operation).after version).id = version.id := by
    rcases operate_cases operation version with change | ⟨error, raised⟩
    · exact change.id
    · rw [after_of_error raised]
  exact Mutation.run_calls_related (fun before after => after.id = before.id) (fun _ => rfl) transitive kept version
    operations

/-- A version names a successor, another version and only one, exactly when it is superseded. -/
structure Named (version : DceVersion) : Prop where
  superseded : version.lifecycle = .superseded → ∃ successor, successor ≠ version.id ∧ version.successors = [successor]
  others : version.lifecycle ≠ .superseded → version.successors = []

theorem Change.named (change : Change version operation next) (before : Named version)
    (once : SupersedesOnce version operation) : Named next := by
  cases change with
  | declared _ _ _ admitted =>
    refine ⟨fun superseded => absurd superseded (by simp [admitted]), fun left => ?_⟩
    simpa [DceVersion.successors, DceEvent.successor] using before.others left
  | stated _ _ _ _ _ admitted =>
    refine ⟨fun superseded => absurd superseded (by simp [admitted]), fun left => ?_⟩
    simpa [DceVersion.successors, DceEvent.successor] using before.others left
  | superseded successor present another =>
    refine ⟨fun _ => ⟨successor, another, ?_⟩, fun left => absurd rfl left⟩
    have none := before.others fun superseded => another (once superseded)
    simpa [DceVersion.successors, DceEvent.successor] using none
  | withdrawn _ _ admitted =>
    refine ⟨fun superseded => absurd superseded (by simp), fun _ => ?_⟩
    simpa [DceVersion.successors, DceEvent.successor] using before.others (by simp [admitted])

theorem named_after (before : Named version) (once : SupersedesOnce version operation) :
    Named ((operate operation).after version) := by
  rcases operate_cases operation version with change | ⟨error, raised⟩
  · exact change.named before once
  · rw [after_of_error raised]
    exact before

theorem named_run {operations : List DceOperation} (before : Named version)
    (once : Along (Mutation.calls operate) SupersedesOnce version operations) : Named (operated version operations) := by
  have preserved (version : DceVersion) (operation : DceOperation) (named : Named version)
      (once : SupersedesOnce version operation) : Named ((operate operation).after version) := named_after named once
  exact Mutation.run_calls_invariant Named preserved before once

theorem refused_of_departed (left : version.lifecycle ≠ .admitted) (once : SupersedesOnce version operation) :
    ∃ error, operate operation version = .error error version := by
  rcases operate_cases operation version with change | refused
  · obtain ⟨superseded, _, successor, rfl, another⟩ := change.departed left
    exact absurd (once superseded) another
  · exact refused

theorem once_of_refused (refused : version.lifecycle ≠ .admitted → ∃ error, operate operation version = .error error version) :
    SupersedesOnce version operation := by
  cases operation with
  | markSupersededBy successor =>
    intro superseded
    by_contra another
    obtain ⟨error, raised⟩ := refused (by simp [superseded])
    have present : version.lifecycle ≠ .withdrawn := by simp [superseded]
    have returns : (operate (.markSupersededBy successor)).returns version = true := by
      simp [operate, DceVersion.markSupersededBy, Mutation.returns, Mutation.test_bind, raiseIf_pass present,
        raiseIf_pass another]
    rw [Mutation.returns_error raised] at returns
    cases returns
  | _ => exact True.intro

theorem register_named {dceVersionId tenantId consultationId : Uuid} {corpusHash provenance : String}
    {documents : List DceDocument} {receivedAt : Timestamp} {supersedesVersionId : Option Uuid}
    {supersessionSource : Option String} (registered : register dceVersionId tenantId consultationId corpusHash documents
      provenance receivedAt supersedesVersionId supersessionSource = .ok version) : Named version := by
  simp only [register, bind_ok, raiseIf_ok, exists_unit, pure_ok] at registered
  obtain ⟨_, _, _, _, _, rfl⟩ := registered
  exact ⟨fun superseded => DceLifecycle.noConfusion superseded, fun _ => rfl⟩

/-- A registered version is superseded or withdrawn once and for all exactly when no operation names another
    successor of a superseded version. -/
theorem supersession_one_shot {dceVersionId tenantId consultationId : Uuid} {corpusHash provenance : String}
    {documents : List DceDocument} {receivedAt : Timestamp} {supersedesVersionId : Option Uuid}
    {supersessionSource : Option String} (registered : register dceVersionId tenantId consultationId corpusHash documents
      provenance receivedAt supersedesVersionId supersessionSource = .ok version) (operations : List DceOperation) :
    OneShot version operations ↔ Along (Mutation.calls operate) SupersedesOnce version operations := by
  constructor
  · intro shot
    rw [along_iff_each]
    intro first operation before
    exact once_of_refused (shot.frozen first operation before)
  · intro once
    have named := named_run (register_named registered) once
    refine ⟨departures_le_one version operations, fun first operation before left => ?_, ?_, fun successor member => ?_⟩
    · exact refused_of_departed left (along_iff_each.mp once first operation before)
    · by_cases superseded : (operated version operations).lifecycle = .superseded
      · obtain ⟨successor, _, only⟩ := named.superseded superseded
        simp [only]
      · simp [named.others superseded]
    · by_cases superseded : (operated version operations).lifecycle = .superseded
      · obtain ⟨named, another, only⟩ := named.superseded superseded
        rw [only] at member
        rw [List.mem_singleton.mp member, ← operated_id version operations]
        exact another
      · rw [named.others superseded] at member
        cases member

theorem isSha256_repeated : isSha256 (String.ofList (List.replicate 64 'a')) = true := by decide +kernel

def exampleDocument : DceDocument where
  documentId := 9
  originalFilename := "rc.pdf"
  sha256 := String.ofList (List.replicate 64 'a')
  mediaType := "application/pdf"
  sizeBytes := 1
  described := by decide
  hex := isSha256_repeated

def exampleVersion : DceVersion where
  id := 1
  tenantId := 2
  consultationId := 3
  corpusHash := String.ofList (List.replicate 64 'b')
  documents := [exampleDocument]
  provenance := "portal"
  receivedAt := 0
  pendingEvents := [.versionRegistered 1 2 3 (String.ofList (List.replicate 64 'b'))]

theorem exampleVersion_registered : register 1 2 3 (String.ofList (List.replicate 64 'b')) [exampleDocument] "portal" 0
    none none = .ok exampleVersion := by rfl

/-- A second supersession names a second successor. -/
theorem supersession_repeated : ¬ OneShot exampleVersion [.markSupersededBy 4, .markSupersededBy 5] := by
  intro shot
  have one := shot.successor
  revert one
  decide

theorem supersession_single : OneShot exampleVersion [.markSupersededBy 4, .markSupersededBy 1, .withdraw "r" "s"] := by
  refine (supersession_one_shot exampleVersion_registered _).mpr ⟨?_, ?_, True.intro, True.intro⟩
  · intro superseded
    cases superseded
  · intro _
    rfl

end SmartAo.DceDomain
