import SmartAo.Preparation.Review
import SmartAo.Foundation.Sessions
import SmartAo.Foundation.Succession

namespace SmartAo.Preparation

open SmartAo.Foundation SmartAo.Platform SmartAo.Membership

/-- The commands that write reviews. -/
inductive ReviewCommand where
  | request (command : RequestPreparationReviewCommand) (context : CommandContext)
  | decide (command : DecidePreparationReviewCommand) (context : CommandContext)

/-- The package is read first, then the document, then the latest transition of the review. -/
def requestSession (view : Nat → Store) (store : Store) (command : RequestPreparationReviewCommand)
    (context : CommandContext) : Transaction Store := do
  raiseIf (context.actorKind ≠ .collaborateur) (.execution "COLLABORATOR_REQUIRED")
  let package ← loadedPackage (view 0) context command.packageId
  raiseIf (package.aggregateRevision ≠ command.expectedPackageRevision) (.execution "VERSION_CONFLICT")
  let _ ← orRaise
    ((view 1).documents.find? fun row => row.tenantId = context.tenantId ∧
      row.id = command.targetDocumentId ∧ row.packageId = package.id ∧ row.version = command.targetVersion)
    (.execution "TARGET_VERSION_NOT_FOUND")
  raiseIf ((view 2).latestReview context.tenantId command.reviewId ≠ none) (.execution "REVIEW_ALREADY_EXISTS")
  let reviews ← flush (store.reviews.insert? {
    id := command.commandId, tenantId := context.tenantId, reviewId := command.reviewId,
    packageId := package.id, targetDocumentId := command.targetDocumentId,
    targetVersion := command.targetVersion, revision := 1, state := .requested, decisionCode := none,
    decisionNote := none, actorId := context.actorId, commandId := command.commandId })
  return { store with packages := advancePackage store.packages package .aReview, reviews }

def decideSession (view : Nat → Store) (store : Store) (command : DecidePreparationReviewCommand)
    (context : CommandContext) : Transaction Store := do
  raiseIf (context.actorKind ≠ .patronAdmin) (.execution "PATRON_REQUIRED")
  let package ← loadedPackage (view 0) context command.packageId
  let latest ← commandedReview (view 1) context package command.reviewId command.targetDocumentId
  raiseIf (latest.revision ≠ command.expectedReviewRevision) (.execution "VERSION_CONFLICT")
  raiseIf (latest.state ∉ [ReviewState.requested, .returnedWithCorrections])
    (.execution "REVIEW_STATE_INVALID")
  let reviews ← flush (store.reviews.insert? { latest with
    id := command.commandId, packageId := package.id, revision := latest.revision + 1,
    state := command.decisionCode.reviewState, decisionCode := some command.decisionCode,
    decisionNote := command.decisionNote, actorId := context.actorId, commandId := command.commandId })
  return { store with
    packages := advancePackage store.packages package command.decisionCode.packageState, reviews }

def finishReview (session : Session Store ReviewCommand) (store : Store) : Transaction Store :=
  match session.command with
  | .request command context => requestSession (session.view store) store command context
  | .decide command context => decideSession (session.view store) store command context

/-- The other commands of the module, and other modules, write everything but reviews. -/
def writeOther (store written : Store) : Transaction Store := .ok { written with reviews := store.reviews }

/-- Review commands interleaved statement by statement, among the other writers. -/
def interleaveReviews (state : Sessions Store ReviewCommand) (input : SessionInput Store ReviewCommand) :
    Transaction (Sessions Store ReviewCommand) := state.step writeOther finishReview input

def noReviews : Sessions Store ReviewCommand := ⟨.empty, []⟩

def ofReview (review : Uuid × Uuid) (row : PreparationReviewRecord) : Bool :=
  row.tenantId = review.1 ∧ row.reviewId = review.2

/-- The transitions of a review, in the order they were committed. -/
def reviewsOf (store : Store) (review : Uuid × Uuid) : List PreparationReviewRecord :=
  store.reviews.rows.filter (ofReview review)

/-- Two transitions of one document version of a package. -/
def SameTarget (first second : PreparationReviewRecord) : Prop :=
  first.packageId = second.packageId ∧ first.targetDocumentId = second.targetDocumentId ∧
    first.targetVersion = second.targetVersion

/-- A request comes first; a decision follows a request or returned corrections, on the same document version. -/
def ReviewFollows : Option PreparationReviewRecord → PreparationReviewRecord → Prop
  | none, record => record.state = .requested
  | some latest, record => latest.state ∈ [ReviewState.requested, .returnedWithCorrections] ∧
    record.state ≠ .requested ∧ SameTarget record latest

abbrev ReviewHistory (store : Store) : Prop :=
  ∀ review, Succession (·.revision) 1 ReviewFollows (reviewsOf store review)

def Appended (old new : Store) : Prop := old.reviews.rows <+: new.reviews.rows

/-- A review whose last transition accepts or rejects it has no further one. -/
def Concluded (old new : Store) : Prop :=
  ∀ review, ∀ record ∈ (reviewsOf old review).getLast?, record.state ∈ [ReviewState.accepted, .rejected] →
    reviewsOf new review = reviewsOf old review

/-- What a decision appends: the successor of the revision it names, on the same document version. -/
structure Decides (command : DecidePreparationReviewCommand) (context : CommandContext) (store next : Store)
    (latest record : PreparationReviewRecord) : Prop where
  last : (reviewsOf store (context.tenantId, command.reviewId)).getLast? = some latest
  named : latest.revision = command.expectedReviewRevision
  appended : next.reviews.rows = store.reviews.rows ++ [record]
  its : ofReview (context.tenantId, command.reviewId) record = true
  successor : record.revision = command.expectedReviewRevision + 1
  decided : record.state = command.decisionCode.reviewState
  commanded : record.packageId = command.packageId ∧ record.targetDocumentId = command.targetDocumentId
  target : SameTarget record latest

variable {view : Nat → Store} {store next old new : Store} {context : CommandContext}

/-- A session whose statements all see the store it commits in is the handler. -/
theorem requestSession_alone (store : Store) (command : RequestPreparationReviewCommand) (context : CommandContext) :
    requestSession (fun _ => store) store command context = (requestReview store command context).map (·.1) := by
  simp only [requestSession, requestReview, Foundation.map_bind, Foundation.map_pure]

theorem decideSession_alone (store : Store) (command : DecidePreparationReviewCommand) (context : CommandContext) :
    decideSession (fun _ => store) store command context = (decideReview store command context).map (·.1) := by
  simp only [decideSession, decideReview, Foundation.map_bind, Foundation.map_pure]

theorem ofReview_iff {review : Uuid × Uuid} {row : PreparationReviewRecord} :
    ofReview review row = true ↔ row.tenantId = review.1 ∧ row.reviewId = review.2 := decide_eq_true_iff

theorem Appended.refl (store : Store) : Appended store store := List.prefix_refl _

theorem Appended.trans {first second third : Store} (before : Appended first second) (after : Appended second third) :
    Appended first third := List.IsPrefix.trans before after

/-- What a review command appends, following on from the latest transition it read. -/
structure Reviews (seen store next : Store) (review : Uuid × Uuid) (record : PreparationReviewRecord) : Prop where
  its : ofReview review record = true
  numbered : record.revision = (seen.latestReview review.1 review.2).elim 1 (·.revision + 1)
  follows : ReviewFollows (seen.latestReview review.1 review.2) record
  inserted : store.reviews.insert? record = some next.reviews

theorem requestSession_ok {command : RequestPreparationReviewCommand}
    (accepted : requestSession view store command context = .ok next) :
    ∃ record, Reviews (view 2) store next (context.tenantId, command.reviewId) record := by
  simp only [requestSession, bind_ok, raiseIf_ok, exists_unit, orRaise_ok, pure_ok, flush, Decidable.not_not] at accepted
  obtain ⟨_, _, _, _, _, _, absent, reviews, inserted, rfl⟩ := accepted
  refine ⟨_, ofReview_iff.mpr ⟨rfl, rfl⟩, ?_, ?_, inserted⟩
  · rw [absent]
    rfl
  · rw [absent]
    rfl

theorem commandedReview_ok {package : PreparationPackageRecord} {reviewId documentId : Uuid}
    {latest : PreparationReviewRecord} (read : commandedReview store context package reviewId documentId = .ok latest) :
    store.latestReview context.tenantId reviewId = some latest ∧ latest.packageId = package.id ∧
      latest.targetDocumentId = documentId := by
  simp only [commandedReview, bind_ok, raiseIf_ok, exists_unit, orRaise_ok, pure_ok, not_or, Decidable.not_not] at read
  obtain ⟨_, found, same, rfl⟩ := read
  exact ⟨found, same⟩

theorem decideSession_ok {command : DecidePreparationReviewCommand}
    (accepted : decideSession view store command context = .ok next) :
    ∃ latest record, (view 1).latestReview context.tenantId command.reviewId = some latest ∧
      latest.revision = command.expectedReviewRevision ∧
      Reviews (view 1) store next (context.tenantId, command.reviewId) record ∧
      record.state = command.decisionCode.reviewState ∧
      (record.packageId = command.packageId ∧ record.targetDocumentId = command.targetDocumentId) ∧
      SameTarget record latest := by
  simp only [decideSession, bind_ok, raiseIf_ok, exists_unit, orRaise_ok, pure_ok, flush, loadedPackage,
    Decidable.not_not] at accepted
  obtain ⟨_, package, loaded, latest, read, named, pending, reviews, inserted, rfl⟩ := accepted
  obtain ⟨found, packaged, targeted⟩ := commandedReview_ok read
  have matched := Table.find?_query loaded
  have owned := (Table.latest_mem found).2
  simp only [decide_eq_true_eq] at matched owned
  have decided : command.decisionCode.reviewState ≠ .requested := by
    cases command.decisionCode <;> simp [DecisionCode.reviewState]
  refine ⟨latest, _, found, named, ⟨?_, ?_, ?_, inserted⟩, rfl, ⟨matched.2, targeted⟩, ?_⟩
  · exact ofReview_iff.mpr owned
  · rw [found]
    rfl
  · rw [found]
    exact ⟨pending, decided, packaged.symm, rfl, rfl⟩
  · exact ⟨packaged.symm, rfl, rfl⟩

theorem Reviews.history {seen : Store} {review : Uuid × Uuid} {record : PreparationReviewRecord}
    (written : Reviews seen store next review record) (history : ReviewHistory store) (older : Appended seen store) :
    ReviewHistory next ∧ Appended store next ∧
      (reviewsOf store review).getLast? = seen.latestReview review.1 review.2 := by
  have unique : ∀ stored ∈ store.reviews, ofReview review stored = true → stored.revision = record.revision →
      Schema.Conflict stored record := by
    intro stored _ matched equal
    obtain ⟨tenant, owner⟩ := ofReview_iff.mp written.its
    obtain ⟨same, named⟩ := ofReview_iff.mp matched
    exact .inr (Prod.ext (same.trans tenant.symm) (Prod.ext (named.trans owner.symm) equal))
  refine ⟨?_, ?_, ?_⟩
  · refine Succession.insert_each ofReview history older written.inserted written.its (fun other its => ?_)
      unique written.numbered written.follows
    obtain ⟨tenant, owner⟩ := ofReview_iff.mp written.its
    obtain ⟨same, named⟩ := ofReview_iff.mp its
    exact Prod.ext (same.symm.trans tenant) (named.symm.trans owner)
  · rw [Appended, Table.insert?_rows written.inserted]
    exact List.prefix_append _ _
  · obtain ⟨_, _, still⟩ := (history review).insert older written.inserted written.its unique written.numbered
      written.follows
    exact (history review).latest.symm.trans still

theorem finishReview_history {session : Session Store ReviewCommand}
    (saw : (session.seen ++ [store]).Pairwise Appended) (history : ReviewHistory store)
    (accepted : finishReview session store = .ok next) : ReviewHistory next ∧ Appended store next := by
  have older : ∀ statement, Appended (session.view store statement) store := session.view_store Appended.refl saw
  unfold finishReview at accepted
  split at accepted
  · obtain ⟨record, written⟩ := requestSession_ok accepted
    obtain ⟨later, appended, _⟩ := written.history history (older 2)
    exact ⟨later, appended⟩
  · obtain ⟨_, record, _, _, written, _⟩ := decideSession_ok accepted
    obtain ⟨later, appended, _⟩ := written.history history (older 1)
    exact ⟨later, appended⟩

theorem finishReview_decides {session : Session Store ReviewCommand} {command : DecidePreparationReviewCommand}
    (saw : (session.seen ++ [store]).Pairwise Appended) (history : ReviewHistory store)
    (decides : session.command = .decide command context) (accepted : finishReview session store = .ok next) :
    ∃ latest record, Decides command context store next latest record := by
  unfold finishReview at accepted
  rw [decides] at accepted
  obtain ⟨latest, record, found, named, written, state, commanded, target⟩ := decideSession_ok accepted
  obtain ⟨_, _, still⟩ := written.history history (session.view_store Appended.refl saw 1)
  refine ⟨latest, record, still.trans found, named, Table.insert?_rows written.inserted, written.its, ?_, state,
    commanded, target⟩
  have numbered := written.numbered
  rw [found] at numbered
  rw [← named]
  exact numbered

theorem Appended.concluded (appended : Appended old new) (history : ReviewHistory new) : Concluded old new := by
  intro review record last final
  obtain ⟨first, split⟩ := List.getLast?_eq_some_iff.mp last
  obtain ⟨rest, rows⟩ := List.IsPrefix.filter (ofReview review) appended
  have whole : reviewsOf new review = first ++ record :: rest := by
    rw [reviewsOf, ← rows]
    show reviewsOf old review ++ rest = _
    rw [split]
    simp
  have none : rest = [] := by
    refine (history review).last whole fun other follow => ?_
    have pending := follow.1
    simp only [List.mem_cons, List.not_mem_nil, or_false] at final pending
    rcases final with state | state <;> rw [state] at pending <;> simp at pending
  rw [whole, split, none]

theorem runs_reviewed (inputs : List (SessionInput Store ReviewCommand)) :
    (ReviewHistory (run interleaveReviews noReviews inputs).store ∧
      (run interleaveReviews noReviews inputs).Ordered Appended) ∧
    ∀ first, first <+: inputs →
      Appended (run interleaveReviews noReviews first).store (run interleaveReviews noReviews inputs).store := by
  have single : ∀ (store written next : Store), ReviewHistory store → writeOther store written = .ok next →
      ReviewHistory next ∧ Appended store next := by
    rintro store written _ history ⟨⟩
    exact ⟨history, List.prefix_refl _⟩
  have finishes : ∀ (session : Session Store ReviewCommand) (store next : Store),
      (session.seen ++ [store]).Pairwise Appended → ReviewHistory store → finishReview session store = .ok next →
        ReviewHistory next ∧ Appended store next :=
    fun _ _ _ saw history accepted => finishReview_history saw history accepted
  have empty : ReviewHistory noReviews.store := fun _ => .nil
  refine ⟨?_, ?_⟩
  · exact Sessions.run_invariant ReviewHistory (fun _ _ => True) Appended.refl Appended.trans single
      (fun session store next saw _ => finishes session store next saw) empty
      (fun _ member => absurd member List.not_mem_nil) (Sessions.finishing_always noReviews inputs)
  · exact (Sessions.run_seen ReviewHistory (fun _ _ => True) Appended.refl Appended.trans single
      (fun session store next saw seen _ => finishes session store next saw (seen store (by simp))) empty rfl
      (Sessions.finishing_always noReviews inputs)).2

/-- Whatever the commands and their interleaving, the transitions of a review follow each other with consecutive
    revisions; stored ones stay, a concluded review has no further one, and a decision follows the one it names. -/
theorem preparation_review_history (inputs : List (SessionInput Store ReviewCommand)) :
    ReviewHistory (run interleaveReviews noReviews inputs).store ∧
    (∀ first, first <+: inputs →
      Appended (run interleaveReviews noReviews first).store (run interleaveReviews noReviews inputs).store ∧
      Concluded (run interleaveReviews noReviews first).store (run interleaveReviews noReviews inputs).store) ∧
    ∀ (index : Nat) session command context next,
      (run interleaveReviews noReviews inputs).active[index]? = some session →
      session.command = .decide command context →
      finishReview session (run interleaveReviews noReviews inputs).store = .ok next →
        ∃ latest record, Decides command context (run interleaveReviews noReviews inputs).store next latest record := by
  obtain ⟨⟨history, ordered⟩, appended⟩ := runs_reviewed inputs
  refine ⟨history, fun first before => ⟨appended first before, (appended first before).concluded history⟩, ?_⟩
  intro index session command context next found decides accepted
  exact finishReview_decides (ordered session (List.mem_of_getElem? found)) history decides accepted

end SmartAo.Preparation
