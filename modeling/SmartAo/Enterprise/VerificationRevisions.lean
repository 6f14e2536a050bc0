import SmartAo.Enterprise.Verification
import SmartAo.Foundation.Sessions
import SmartAo.Foundation.Succession

namespace SmartAo.Enterprise

open SmartAo.Foundation SmartAo.Platform SmartAo.Preparation SmartAo.Submission

structure VerifyCommand where
  command : VerifyEnterpriseDocumentCommand
  context : CommandContext

/-- The document and its upload are read before the latest verification. -/
def verifySession (view : Nat → LibraryStore) (store : LibraryStore) (command : VerifyEnterpriseDocumentCommand)
    (context : CommandContext) : Transaction LibraryStore := do
  let membershipId ← patronMembership context "ENTERPRISE_LIBRARY_PATRON_REQUIRED"
  let _ ← orRaise
    ((view 0).enterprise.documents.find? fun row => row.tenantId = context.tenantId ∧
      row.companyId = command.companyId ∧ row.id = command.documentId)
    (.execution "NOT_FOUND_OR_FORBIDDEN")
  let _ ← orRaise
    ((view 1).uploads.find? fun row => row.tenantId = context.tenantId ∧
      row.documentId = command.documentId ∧ row.state = .clean)
    (.execution "DOCUMENT_UPLOAD_NOT_CLEAN")
  let current := (view 2).latestVerification context.tenantId command.documentId
  raiseIf ((current.elim 0 (·.revision)) ≠ command.expectedVerificationRevision) (.execution "VERSION_CONFLICT")
  let verifications ← flush (store.verifications.insert? {
    id := command.commandId, tenantId := context.tenantId, documentId := command.documentId,
    revision := current.elim 0 (·.revision + 1), outcome := command.outcome, reasonCode := command.reasonCode,
    membershipId, commandId := command.commandId })
  return { store with verifications }

def finishVerify (session : Session LibraryStore VerifyCommand) (store : LibraryStore) : Transaction LibraryStore :=
  verifySession (session.view store) store session.command.command session.command.context

/-- The other commands of the library write everything but verifications. -/
def writeLibrary (store written : LibraryStore) : Transaction LibraryStore :=
  .ok { written with verifications := store.verifications }

/-- Verifications interleaved statement by statement, among the other writers. -/
def interleaveVerifications (state : Sessions LibraryStore VerifyCommand)
    (input : SessionInput LibraryStore VerifyCommand) : Transaction (Sessions LibraryStore VerifyCommand) :=
  state.step writeLibrary finishVerify input

def unverified : Sessions LibraryStore VerifyCommand := ⟨.empty, []⟩

def ofDocument (document : Uuid × Uuid) (row : EnterpriseDocumentVerificationRecord) : Bool :=
  row.tenantId = document.1 ∧ row.documentId = document.2

/-- The verifications of a document, in the order they were committed. -/
def verificationsOf (store : LibraryStore) (document : Uuid × Uuid) : List EnterpriseDocumentVerificationRecord :=
  store.verifications.rows.filter (ofDocument document)

def VerifyCommand.document (verify : VerifyCommand) : Uuid × Uuid :=
  (verify.context.tenantId, verify.command.documentId)

/-- The input commits a verification that is counted. -/
def commits (counted : VerifyCommand → Bool) (state : Sessions LibraryStore VerifyCommand)
    (input : SessionInput LibraryStore VerifyCommand) : Bool :=
  match input with
  | .finish index => state.active[index]?.any fun session =>
    counted session.command && (finishVerify session state.store).isOk
  | _ => false

def naming (document : Uuid × Uuid) (revision : Nat) (verify : VerifyCommand) : Bool :=
  verify.document = document ∧ verify.command.expectedVerificationRevision = revision

/-- Of the verifications that name one revision of a document at most one is committed, and the revisions of
    a document are consecutive. -/
structure Optimistic (inputs : List (SessionInput LibraryStore VerifyCommand)) : Prop where
  once : ∀ document revision, tally interleaveVerifications (commits (naming document revision)) unverified inputs ≤ 1
  consecutive : ∀ document, (verificationsOf (run interleaveVerifications unverified inputs).store document).map
    (·.revision) = List.range' 0 (verificationsOf (run interleaveVerifications unverified inputs).store document).length

/-- The latest verification that the transaction reads for its document. -/
def readVerification (session : Session LibraryStore VerifyCommand) (store : LibraryStore) :
    Option EnterpriseDocumentVerificationRecord :=
  (session.view store 2).latestVerification session.command.document.1 session.command.document.2

/-- A command that names revision 0 does not run on a document that has a verification of revision 0. -/
def NamesWhatItFollows (session : Session LibraryStore VerifyCommand) (store : LibraryStore) : Prop :=
  session.command.command.expectedVerificationRevision = 0 → (readVerification session store).map (·.revision) ≠ some 0

instance (session : Session LibraryStore VerifyCommand) (store : LibraryStore) :
    Decidable (NamesWhatItFollows session store) := by
  unfold NamesWhatItFollows
  infer_instance

variable {view : Nat → LibraryStore} {store next : LibraryStore} {context : CommandContext}

/-- A session whose statements all see the store it commits in is the handler. -/
theorem verifySession_alone (store : LibraryStore) (command : VerifyEnterpriseDocumentCommand)
    (context : CommandContext) :
    verifySession (fun _ => store) store command context = (verifyDocument store command context).map (·.1) := by
  simp only [verifySession, verifyDocument, Foundation.map_bind, Foundation.map_pure]

theorem ofDocument_iff {document : Uuid × Uuid} {row : EnterpriseDocumentVerificationRecord} :
    ofDocument document row = true ↔ row.tenantId = document.1 ∧ row.documentId = document.2 := decide_eq_true_iff

def Appends (old new : LibraryStore) : Prop := old.verifications.rows <+: new.verifications.rows

theorem Appends.refl (store : LibraryStore) : Appends store store := List.prefix_refl _

theorem Appends.trans {first second third : LibraryStore} (before : Appends first second)
    (after : Appends second third) : Appends first third := List.IsPrefix.trans before after

/-- What a verification appends, following on from the latest one it read. -/
structure Verifies (seen store next : LibraryStore) (verify : VerifyCommand)
    (record : EnterpriseDocumentVerificationRecord) : Prop where
  its : ofDocument verify.document record = true
  named : (seen.latestVerification verify.document.1 verify.document.2).elim 0 (·.revision) =
    verify.command.expectedVerificationRevision
  numbered : record.revision =
    (seen.latestVerification verify.document.1 verify.document.2).elim 0 (·.revision + 1)
  inserted : store.verifications.insert? record = some next.verifications

theorem finishVerify_ok {session : Session LibraryStore VerifyCommand}
    (accepted : finishVerify session store = .ok next) :
    ∃ record, Verifies (session.view store 2) store next session.command record := by
  simp only [finishVerify, verifySession, bind_ok, raiseIf_ok, exists_unit, orRaise_ok, pure_ok, flush,
    Decidable.not_not] at accepted
  obtain ⟨_, _, _, _, _, _, named, verifications, inserted, rfl⟩ := accepted
  exact ⟨_, ofDocument_iff.mpr ⟨rfl, rfl⟩, named, rfl, inserted⟩

abbrev Revisions (store : LibraryStore) : Prop :=
  ∀ document, Succession (·.revision) 0 (fun _ _ => True) (verificationsOf store document)

theorem Verifies.unique {seen : LibraryStore} {verify : VerifyCommand}
    {record : EnterpriseDocumentVerificationRecord} (written : Verifies seen store next verify record) :
    ∀ stored ∈ store.verifications, ofDocument verify.document stored = true → stored.revision = record.revision →
      Schema.Conflict stored record := by
  intro stored _ matched equal
  obtain ⟨tenant, document⟩ := ofDocument_iff.mp written.its
  obtain ⟨same, named⟩ := ofDocument_iff.mp matched
  exact .inr (Prod.ext (same.trans tenant.symm) (Prod.ext (named.trans document.symm) equal))

theorem Verifies.revisions {seen : LibraryStore} {verify : VerifyCommand}
    {record : EnterpriseDocumentVerificationRecord} (written : Verifies seen store next verify record)
    (revisions : Revisions store) (older : Appends seen store) : Revisions next := by
  refine Succession.insert_each ofDocument revisions older written.inserted written.its (fun other its => ?_)
    written.unique written.numbered True.intro
  obtain ⟨tenant, document⟩ := ofDocument_iff.mp written.its
  obtain ⟨same, named⟩ := ofDocument_iff.mp its
  exact Prod.ext (same.symm.trans tenant) (named.symm.trans document)

theorem Verifies.rows {seen : LibraryStore} {verify : VerifyCommand} {record : EnterpriseDocumentVerificationRecord}
    (written : Verifies seen store next verify record) (document : Uuid × Uuid) :
    (verificationsOf next document).length =
      (verificationsOf store document).length + if verify.document = document then 1 else 0 := by
  obtain ⟨tenant, about⟩ := ofDocument_iff.mp written.its
  have same : ofDocument document record = true ↔ verify.document = document := by
    rw [ofDocument_iff, tenant, about]
    exact ⟨fun both => Prod.ext both.1 both.2, fun equal => by rw [equal]; exact ⟨rfl, rfl⟩⟩
  rw [verificationsOf, Table.filter_insert? written.inserted, List.length_append]
  by_cases its : verify.document = document
  · rw [if_pos its, if_pos (same.mpr its)]
    rfl
  · rw [if_neg its, if_neg (same.not.mpr its)]
    rfl

/-- Every document has one verification at most. -/
def Single (store : LibraryStore) : Prop := ∀ document, (verificationsOf store document).length ≤ 1

/-- A verification that meets the condition is the first one of its document. -/
theorem Verifies.first {session : Session LibraryStore VerifyCommand} {record : EnterpriseDocumentVerificationRecord}
    (written : Verifies (session.view store 2) store next session.command record) (revisions : Revisions store)
    (single : Single store) (older : Appends (session.view store 2) store) (met : NamesWhatItFollows session store) :
    verificationsOf store session.command.document = [] := by
  have chain := revisions session.command.document
  obtain ⟨_, _, still⟩ := chain.insert older written.inserted written.its written.unique written.numbered True.intro
  have read : readVerification session store = (verificationsOf store session.command.document).getLast? :=
    still.symm.trans chain.latest
  have named : (readVerification session store).elim 0 (·.revision) =
      session.command.command.expectedVerificationRevision := written.named
  have atMost := single session.command.document
  have versions := chain.versions
  unfold NamesWhatItFollows at met
  rw [read] at named met
  cases rows : verificationsOf store session.command.document with
  | nil => rfl
  | cons only rest =>
    rw [rows, List.length_cons] at atMost
    have none : rest = [] := List.length_eq_zero_iff.mp (by omega)
    rw [rows, none] at named met versions
    have zero : only.revision = 0 := by simpa using versions
    simp only [List.getLast?_singleton, Option.elim_some, Option.map_some, zero] at named met
    exact absurd rfl (met named.symm)

theorem finishVerify_kept {session : Session LibraryStore VerifyCommand}
    (saw : (session.seen ++ [store]).Pairwise Appends) (holds : Revisions store)
    (accepted : finishVerify session store = .ok next) : Revisions next ∧ Appends store next := by
  obtain ⟨record, written⟩ := finishVerify_ok accepted
  refine ⟨written.revisions holds (session.view_store Appends.refl saw 2), ?_⟩
  rw [Appends, Table.insert?_rows written.inserted]
  exact List.prefix_append _ _

theorem commits_rows (document : Uuid × Uuid) (state : Sessions LibraryStore VerifyCommand)
    (input : SessionInput LibraryStore VerifyCommand) :
    (verificationsOf (commit interleaveVerifications state input).store document).length =
      (verificationsOf state.store document).length +
        if commits (fun verify => verify.document = document) state input then 1 else 0 := by
  cases input with
  | alone written => rfl
  | start command => rfl
  | read index => rfl
  | finish index =>
    cases found : state.active[index]? with
    | none => simp [commit, interleaveVerifications, Sessions.step, commits, found]
    | some session =>
      cases taken : finishVerify session state.store with
      | error error =>
        simp [commit, interleaveVerifications, Sessions.step, commits, found, taken, Except.map, Except.isOk, Except.toBool]
      | ok next =>
        obtain ⟨record, written⟩ := finishVerify_ok taken
        simpa [commit, interleaveVerifications, Sessions.step, commits, found, taken, Except.map, Except.isOk,
          Except.toBool] using written.rows document

/-- In a run whose verifications meet the condition, of those that name one revision of a document at most one
    is committed, and the revisions are consecutive. -/
theorem optimistic_while_named {inputs : List (SessionInput LibraryStore VerifyCommand)}
    (met : Along interleaveVerifications (Finishing NamesWhatItFollows) unverified inputs) : Optimistic inputs := by
  have empty : Revisions unverified.store ∧ Single unverified.store := ⟨fun _ => .nil, fun _ => Nat.zero_le 1⟩
  obtain ⟨⟨revisions, single⟩, _⟩ := Sessions.run_invariant
    (fun store => Revisions store ∧ Single store) NamesWhatItFollows Appends.refl Appends.trans
    (fun store written next holds accepted => by
      cases accepted
      exact ⟨holds, List.prefix_refl _⟩)
    (fun session store next saw met holds accepted => by
      obtain ⟨later, appends⟩ := finishVerify_kept saw holds.1 accepted
      obtain ⟨record, written⟩ := finishVerify_ok accepted
      have first := written.first holds.1 holds.2 (session.view_store Appends.refl saw 2) met
      refine ⟨⟨later, fun document => ?_⟩, appends⟩
      rw [written.rows]
      by_cases its : session.command.document = document
      · rw [if_pos its, ← its, first]
        exact Nat.le_refl 1
      · rw [if_neg its]
        exact holds.2 document)
    empty (fun _ member => absurd member List.not_mem_nil) met
  refine ⟨fun document revision => ?_, fun document => (revisions document).versions⟩
  have counts : (verificationsOf (run interleaveVerifications unverified inputs).store document).length =
      0 + tally interleaveVerifications (commits fun verify => verify.document = document) unverified inputs :=
    run_tally (fun state : Sessions LibraryStore VerifyCommand => (verificationsOf state.store document).length)
      (commits_rows document)
  have fewer : tally interleaveVerifications (commits (naming document revision)) unverified inputs ≤
      tally interleaveVerifications (commits fun verify => verify.document = document) unverified inputs := by
    refine tally_mono (fun state input counted => ?_) unverified inputs
    cases input with
    | finish index =>
      simp only [commits, Option.any_eq_true, Bool.and_eq_true, naming, decide_eq_true_eq] at counted ⊢
      obtain ⟨session, found, ⟨its, _⟩, ok⟩ := counted
      exact ⟨session, found, its, ok⟩
    | _ => cases counted
  have atMost : (verificationsOf (run interleaveVerifications unverified inputs).store document).length ≤ 1 :=
    single document
  omega

section VerifiedTwice

def verifying (command : VerifyEnterpriseDocumentCommand) : VerifyCommand := ⟨command, patron⟩

theorem accepted_reasoned : VerificationOutcome.validated = .validated ↔ ReasonCode.documentAccepted = .documentAccepted := by
  decide

theorem illegible_reasoned :
    VerificationOutcome.rejected = .validated ↔ ReasonCode.documentIllegible = .documentAccepted := by decide

def validates : VerifyEnterpriseDocumentCommand :=
  ⟨⟨44, 44, none⟩, 10, 20, 0, .validated, .documentAccepted, accepted_reasoned⟩

def rejects : VerifyEnterpriseDocumentCommand :=
  ⟨⟨45, 45, none⟩, 10, 20, 0, .rejected, .documentIllegible, illegible_reasoned⟩

/-- The document is registered, and a patron validates it. -/
def validated : List (SessionInput LibraryStore VerifyCommand) :=
  [.alone (run step .empty registration), .start (verifying validates), .finish 0]

/-- Two verifications overlap: the second one is refused by the revision the first one took. -/
def overlapping : List (SessionInput LibraryStore VerifyCommand) :=
  [.alone (run step .empty registration), .start (verifying validates), .start (verifying rejects), .read 0, .read 0,
    .read 0, .read 1, .read 1, .read 1, .finish 0, .finish 0]

theorem overlapping_optimistic : Optimistic overlapping ∧
    tally interleaveVerifications (commits (naming (1, 20) 0)) unverified overlapping = 1 :=
  ⟨optimistic_while_named (by decide +kernel), by decide +kernel⟩

/-- A verdict on an unverified document and the one after it both name revision 0. -/
theorem second_verdict_unseen : ¬ Optimistic (validated ++ [.start (verifying rejects), .finish 0]) := by
  intro optimistic
  have twice : tally interleaveVerifications (commits (naming (1, 20) 0)) unverified
      (validated ++ [.start (verifying rejects), .finish 0]) = 2 := by decide +kernel
  have once := optimistic.once (1, 20) 0
  omega

end VerifiedTwice

end SmartAo.Enterprise
