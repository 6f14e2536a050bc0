import SmartAo.Foundation.Transition
import SmartAo.Opportunity.Observations

namespace SmartAo.Opportunity

open SmartAo.Foundation SmartAo.Platform

/-- The content, score and reasons that a stored observation carries. -/
def BoampOpportunityObservationRecord.carried (row : BoampOpportunityObservationRecord) : ScoredCandidate :=
  ({ source := row.source, sourceNoticeId := row.sourceNoticeId, title := row.title,
     publicationDate := row.publicationDate, responseDeadline := row.responseDeadline,
     departmentCodes := row.departmentCodes, marketTypes := row.marketTypes, sourceStatus := row.sourceStatus },
   { version := row.scoreVersion, score := row.score, factors := row.scoreExplanation.factors,
     explanationSha256 := row.scoreExplanationSha256 })

/-- What the observations linked to a run carry. -/
def ObservationStore.shownBy (store : ObservationStore) (tenantId runId : Uuid) : List ScoredCandidate :=
  (store.observations.rows.filter fun row =>
    store.links.rows.any fun link => link.target = (tenantId, runId, row.id) ∧ row.tenantId = tenantId).map
      (·.carried)

section Statement

variable (tables : CaseTables)

/-- The call is accepted as a new run. -/
def recorded (store : ObservationStore) (call : IngestionCall) : Bool :=
  match persist tables store call with
  | .ok (_, result) => !result.replayed
  | .error _ => false

/-- The observations linked to the call's run carry exactly what the call computed. -/
def ShowsOwn (store : ObservationStore) (call : IngestionCall) : Prop :=
  ∀ scored, scored ∈ store.shownBy call.tenantId call.runId ↔ scored ∈ call.scoredCandidates tables

/-- Every run of a history shows its own scores at the end of it. -/
def RunsShowOwn (calls : List IngestionCall) : Prop :=
  ∀ before call after, calls = before ++ call :: after → recorded tables (run (step tables) .empty before) call = true →
    ShowsOwn tables (run (step tables) .empty calls) call

/-- An observation that is stored under the key of a candidate carries what the call computed for it, and no two
    candidates of the call share a key. -/
def Agrees (store : ObservationStore) (call : IngestionCall) : Prop :=
  ∀ scored ∈ call.scoredCandidates tables,
    (∀ row ∈ store.observations, row.sourceKey = (call.observationRow scored).sourceKey → row.carried = scored) ∧
      ∀ other ∈ call.scoredCandidates tables,
        (call.observationRow other).sourceKey = (call.observationRow scored).sourceKey → other = scored

end Statement

/-- What holds of the tables in every state: an observation is filed under its own fingerprint, and a link has its
    run and its observation. -/
structure ObservationStore.Sound (store : ObservationStore) : Prop where
  filed : ∀ row ∈ store.observations, row.fingerprintSha256 = row.carried.1.fingerprint
  linked_observation : ∀ link ∈ store.links, ∃ row ∈ store.observations,
    row.tenantId = link.tenantId ∧ row.id = link.observationId
  linked_run : ∀ link ∈ store.links, ∃ row ∈ store.runs, row.tenantId = link.tenantId ∧ row.id = link.ingestionRunId

section Writes

variable {call : IngestionCall} {scored : ScoredCandidate} {before after : WrittenObservations}
  {list : List ScoredCandidate}

@[simp] theorem carried_observationRow : (call.observationRow scored).carried = scored := rfl

/-- What writing candidates leaves in the tables. -/
structure Wrote (call : IngestionCall) (list : List ScoredCandidate) (before after : WrittenObservations) : Prop where
  kept : ∀ row ∈ before.observations, row ∈ after.observations
  new : ∀ row ∈ after.observations, row ∈ before.observations ∨ ∃ scored ∈ list, row = call.observationRow scored
  stored : ∀ scored ∈ list, ∃ row ∈ after.observations, row.sourceKey = (call.observationRow scored).sourceKey
  linked : ∀ target, (∃ link ∈ after.links, link.target = target) ↔ (∃ link ∈ before.links, link.target = target) ∨
    ∃ scored ∈ list, ∃ row ∈ after.observations, row.sourceKey = (call.observationRow scored).sourceKey ∧
      target = (call.tenantId, call.runId, row.id)

theorem eq_of_sourceKey {observations : Table BoampOpportunityObservationRecord}
    {first second : BoampOpportunityObservationRecord} (one : first ∈ observations) (other : second ∈ observations)
    (same : first.sourceKey = second.sourceKey) : first = second :=
  Table.eq_of_conflict one other (.inr same)

theorem linked_insertIgnoring {links next : Table BoampIngestionObservationLinkRecord}
    {link : BoampIngestionObservationLinkRecord}
    (inserted : links.insertIgnoring (·.target = link.target) link = some next) (target : Uuid × Uuid × Uuid) :
    (∃ row ∈ next, row.target = target) ↔ (∃ row ∈ links, row.target = target) ∨ target = link.target := by
  constructor
  · rintro ⟨row, member, rfl⟩
    rcases Table.mem_of_insertIgnoring inserted member with old | ⟨rfl, -⟩
    · exact .inl ⟨row, old, rfl⟩
    · exact .inr rfl
  · rintro (⟨row, member, rfl⟩ | rfl)
    · exact ⟨row, Table.mem_insertIgnoring inserted member, rfl⟩
    · obtain ⟨row, member, same⟩ := Table.insertIgnoring_found inserted (by simp)
      exact ⟨row, member, by simpa using same⟩

theorem writeObservation_wrote (written : writeObservation call before scored = .ok after) :
    Wrote call [scored] before after := by
  simp only [writeObservation, bind_ok, raiseIf_ok, exists_unit, orRaise_ok, pure_ok, flush] at written
  obtain ⟨-, observations, stored, row, found, links, linked, rfl⟩ := written
  have member : row ∈ observations := List.mem_of_find?_eq_some found
  have key : row.sourceKey = (call.observationRow scored).sourceKey := by simpa using List.find?_some found
  refine ⟨fun _ old => Table.mem_insertIgnoring stored old, fun other present => ?_, fun other only => ?_,
    fun target => ?_⟩
  · rcases Table.mem_of_insertIgnoring stored present with old | ⟨rfl, -⟩
    · exact .inl old
    · exact .inr ⟨scored, by simp, rfl⟩
  · rw [List.mem_singleton.mp only]
    exact ⟨row, member, key⟩
  · rw [linked_insertIgnoring linked target]
    refine or_congr_right ⟨?_, ?_⟩
    · rintro rfl
      exact ⟨scored, by simp, row, member, key, rfl⟩
    · rintro ⟨other, only, same, present, filed, rfl⟩
      rw [List.mem_singleton.mp only] at filed
      rw [eq_of_sourceKey present member (filed.trans key.symm)]
      rfl

theorem Wrote.cons {middle : WrittenObservations} (first : Wrote call [scored] before middle)
    (rest : Wrote call list middle after) : Wrote call (scored :: list) before after := by
  obtain ⟨row, member, key⟩ := first.stored scored (by simp)
  have present : row ∈ after.observations := rest.kept row member
  refine ⟨fun row old => rest.kept row (first.kept row old), fun other found => ?_, fun other chosen => ?_,
    fun target => ?_⟩
  · rcases rest.new other found with old | ⟨one, chosen, rfl⟩
    · rcases first.new other old with older | ⟨one, only, rfl⟩
      · exact .inl older
      · exact .inr ⟨one, List.mem_cons.mpr (.inl (List.mem_singleton.mp only)), rfl⟩
    · exact .inr ⟨one, List.mem_cons_of_mem _ chosen, rfl⟩
  · rcases List.mem_cons.mp chosen with rfl | later
    · exact ⟨row, present, key⟩
    · exact rest.stored other later
  · rw [rest.linked target, first.linked target, or_assoc]
    refine or_congr_right ?_
    simp only [List.mem_cons, List.not_mem_nil, or_false, exists_eq_left, exists_eq_or_imp]
    refine or_congr_left ⟨?_, ?_⟩
    · rintro ⟨same, found, filed, rfl⟩
      exact ⟨same, rest.kept same found, filed, rfl⟩
    · rintro ⟨same, found, filed, rfl⟩
      exact ⟨row, member, key, by rw [eq_of_sourceKey found present (filed.trans key.symm)]⟩

theorem writeObservations_wrote (written : writeObservations call before list = .ok after) :
    Wrote call list before after := by
  induction list generalizing before with
  | nil =>
    rw [writeObservations, pure_ok] at written
    rw [← written]
    exact ⟨fun _ old => old, fun _ old => .inl old, fun _ none => absurd none List.not_mem_nil, fun _ => by simp⟩
  | cons scored list ih =>
    simp only [writeObservations, bind_ok] at written
    obtain ⟨middle, first, rest⟩ := written
    exact (writeObservation_wrote first).cons (ih rest)

end Writes

section Steps

variable {tables : CaseTables} {store next : ObservationStore} {call : IngestionCall} {result : BoampPersistenceResult}
  {calls : List IngestionCall} {tenantId runId : Uuid} {scored : ScoredCandidate}

/-- What an accepted new run does. -/
structure Records (tables : CaseTables) (call : IngestionCall) (store next : ObservationStore) : Prop where
  unnamed : ∀ row ∈ store.runs, call.names row = false
  runs : ∀ row, row ∈ next.runs ↔ row ∈ store.runs ∨ row = call.runRecord tables
  wrote : ∃ ids, Wrote call (call.scoredCandidates tables) ⟨store.observations, store.links, []⟩
    ⟨next.observations, next.links, ids⟩

theorem persist_cases (persisted : persist tables store call = .ok (next, result)) :
    (result.replayed = true ∧ next = store) ∨ (result.replayed = false ∧ Records tables call store next) := by
  unfold persist at persisted
  split at persisted
  · rename_i unnamed
    simp only [recordRun, bind_ok, raiseIf_ok, exists_unit, pure_ok, flush, orRaise_ok, Prod.mk.injEq] at persisted
    obtain ⟨-, runs, inserted, written, wrote, events, -, outbox, -, rfl, rfl⟩ := persisted
    refine .inr ⟨rfl, fun row member => ?_, fun row => Table.mem_insert? inserted, written.observationIds,
      writeObservations_wrote wrote⟩
    simpa using List.filter_eq_nil_iff.mp unnamed row member
  · simp only [bind_ok, raiseIf_ok, exists_unit, pure_ok, Prod.mk.injEq, replayRun, orRaise_ok] at persisted
    obtain ⟨-, replay, ⟨-, event, -, rfl⟩, rfl, rfl⟩ := persisted
    exact .inl ⟨rfl, rfl⟩

theorem step_cases (accepted : step tables store call = .ok next) : next = store ∨ Records tables call store next := by
  obtain ⟨result, persisted⟩ := map_fst_ok.mp accepted
  rcases persist_cases persisted with ⟨-, same⟩ | ⟨-, records⟩
  · exact .inl same
  · exact .inr records

theorem recorded_iff : recorded tables store call = true ↔
    ∃ next result, persist tables store call = .ok (next, result) ∧ result.replayed = false := by
  unfold recorded
  cases persist tables store call with
  | error error => simp
  | ok pair => obtain ⟨next, result⟩ := pair; simp

theorem mem_shownBy : scored ∈ store.shownBy tenantId runId ↔ ∃ row ∈ store.observations, row.tenantId = tenantId ∧
    (∃ link ∈ store.links, link.target = (tenantId, runId, row.id)) ∧ row.carried = scored := by
  unfold ObservationStore.shownBy
  simp only [List.mem_map, List.mem_filter, List.any_eq_true, decide_eq_true_eq]
  constructor
  · rintro ⟨row, ⟨member, link, stored, target, owner⟩, rfl⟩
    exact ⟨row, member, owner, ⟨link, stored, target⟩, rfl⟩
  · rintro ⟨row, member, owner, ⟨link, stored, target⟩, rfl⟩
    exact ⟨row, ⟨member, link, stored, target, owner⟩, rfl⟩

/-- An observation is filed under the key of what it carries. -/
theorem sourceKey_carried {row : BoampOpportunityObservationRecord} (sound : store.Sound)
    (member : row ∈ store.observations) (owner : row.tenantId = call.tenantId) :
    row.sourceKey = (call.observationRow row.carried).sourceKey := by
  show (row.tenantId, row.source, row.sourceNoticeId, row.fingerprintSha256) =
    (call.tenantId, row.source, row.sourceNoticeId, row.carried.1.fingerprint)
  rw [owner, sound.filed row member]

theorem Records.sound (records : Records tables call store next) (sound : store.Sound) : next.Sound := by
  obtain ⟨ids, wrote⟩ := records.wrote
  have traced : ∀ link ∈ next.links, (∃ old ∈ store.links, old.target = link.target) ∨
      ∃ scored ∈ call.scoredCandidates tables, ∃ row ∈ next.observations,
        row.sourceKey = (call.observationRow scored).sourceKey ∧ link.target = (call.tenantId, call.runId, row.id) :=
    fun link member => (wrote.linked link.target).mp ⟨link, member, rfl⟩
  refine ⟨fun row member => ?_, fun link member => ?_, fun link member => ?_⟩
  · rcases wrote.new row member with old | ⟨scored, -, rfl⟩
    · exact sound.filed row old
    · rfl
  · rcases traced link member with ⟨old, stored, same⟩ | ⟨scored, -, row, present, key, target⟩
    · obtain ⟨row, found, owner, id⟩ := sound.linked_observation old stored
      simp only [BoampIngestionObservationLinkRecord.target, Prod.mk.injEq] at same
      exact ⟨row, wrote.kept row found, owner.trans same.1, id.trans same.2.2⟩
    · simp only [BoampIngestionObservationLinkRecord.target, Prod.mk.injEq] at target
      have owner : row.tenantId = call.tenantId := congrArg Prod.fst key
      exact ⟨row, present, owner.trans target.1.symm, target.2.2.symm⟩
  · rcases traced link member with ⟨old, stored, same⟩ | ⟨scored, -, row, present, key, target⟩
    · obtain ⟨row, found, owner, id⟩ := sound.linked_run old stored
      simp only [BoampIngestionObservationLinkRecord.target, Prod.mk.injEq] at same
      exact ⟨row, (records.runs row).mpr (.inl found), owner.trans same.1, id.trans same.2.1⟩
    · simp only [BoampIngestionObservationLinkRecord.target, Prod.mk.injEq] at target
      exact ⟨call.runRecord tables, (records.runs _).mpr (.inr rfl), target.1.symm, target.2.1.symm⟩

theorem step_sound (sound : store.Sound) (accepted : step tables store call = .ok next) : next.Sound := by
  rcases step_cases accepted with rfl | records
  · exact sound
  · exact records.sound sound

theorem empty_sound : ObservationStore.empty.Sound :=
  ⟨fun _ member => absurd member Table.not_mem_empty, fun _ member => absurd member Table.not_mem_empty,
    fun _ member => absurd member Table.not_mem_empty⟩

theorem run_sound (calls : List IngestionCall) : (run (step tables) .empty calls).Sound :=
  run_invariant_always (fun _ _ _ sound accepted => step_sound sound accepted) calls empty_sound

/-- A later run leaves what an earlier one shows. -/
theorem Records.shownBy_kept (records : Records tables call store next) (sound : store.Sound)
    (stored : ∃ row ∈ store.runs, row.tenantId = tenantId ∧ row.id = runId) :
    scored ∈ next.shownBy tenantId runId ↔ scored ∈ store.shownBy tenantId runId := by
  obtain ⟨ids, wrote⟩ := records.wrote
  rw [mem_shownBy, mem_shownBy]
  constructor
  · rintro ⟨row, member, owner, link, rfl⟩
    rcases (wrote.linked _).mp link with ⟨old, linked, target⟩ | ⟨scored, -, new, -, -, target⟩
    · obtain ⟨earlier, found, owned, id⟩ := sound.linked_observation old linked
      simp only [BoampIngestionObservationLinkRecord.target, Prod.mk.injEq] at target
      have same : earlier = row := Table.eq_of_conflict (wrote.kept earlier found) member
        (.inl (id.trans target.2.2))
      subst same
      refine ⟨earlier, found, owner, ⟨old, linked, ?_⟩, rfl⟩
      simp only [BoampIngestionObservationLinkRecord.target, target]
    · obtain ⟨run, found, owned, id⟩ := stored
      simp only [Prod.mk.injEq] at target
      have named : call.names run = true := by simp [IngestionCall.names, owned, id, target.1, target.2.1]
      exact absurd (records.unnamed run found) (by simp [named])
  · rintro ⟨row, member, owner, link, rfl⟩
    exact ⟨row, wrote.kept row member, owner, (wrote.linked _).mpr (.inl link), rfl⟩

/-- The observations of the run just recorded are those stored under the keys of its candidates. -/
theorem Records.mem_shownBy_own (records : Records tables call store next) (sound : store.Sound) :
    scored ∈ next.shownBy call.tenantId call.runId ↔ ∃ own ∈ call.scoredCandidates tables,
      ∃ row ∈ next.observations, row.sourceKey = (call.observationRow own).sourceKey ∧ row.carried = scored := by
  obtain ⟨ids, wrote⟩ := records.wrote
  rw [mem_shownBy]
  constructor
  · rintro ⟨row, member, owner, link, rfl⟩
    rcases (wrote.linked _).mp link with ⟨old, linked, target⟩ | ⟨own, chosen, new, present, key, target⟩
    · obtain ⟨run, found, owned, id⟩ := sound.linked_run old linked
      simp only [BoampIngestionObservationLinkRecord.target, Prod.mk.injEq] at target
      have named : call.names run = true := by simp [IngestionCall.names, owned, id, target.1, target.2.1]
      exact absurd (records.unnamed run found) (by simp [named])
    · simp only [Prod.mk.injEq] at target
      have same : row = new := Table.eq_of_conflict member present (.inl target.2.2)
      exact ⟨own, chosen, row, member, by rw [same, key], rfl⟩
  · rintro ⟨own, chosen, row, member, key, rfl⟩
    exact ⟨row, member, congrArg Prod.fst key, (wrote.linked _).mpr (.inr ⟨own, chosen, row, member, key, rfl⟩), rfl⟩

/-- What is stored under the key of a candidate is the candidate itself, scored by the call. -/
def Faithful (tables : CaseTables) (store : ObservationStore) (call : IngestionCall) : Prop :=
  ∀ scored ∈ call.scoredCandidates tables, ∀ row ∈ store.observations,
    row.sourceKey = (call.observationRow scored).sourceKey → row.carried = scored

theorem Records.shows_iff_faithful (records : Records tables call store next) (sound : store.Sound) :
    ShowsOwn tables next call ↔ Faithful tables next call := by
  have shown : ∀ scored, scored ∈ next.shownBy call.tenantId call.runId ↔ ∃ own ∈ call.scoredCandidates tables,
      ∃ row ∈ next.observations, row.sourceKey = (call.observationRow own).sourceKey ∧ row.carried = scored :=
    fun _ => records.mem_shownBy_own sound
  constructor
  · intro shows scored chosen row member key
    obtain ⟨own, -, other, present, filed, carried⟩ := (shown scored).mp ((shows scored).mpr chosen)
    have owner : other.tenantId = call.tenantId := congrArg Prod.fst filed
    have same : other.sourceKey = (call.observationRow scored).sourceKey := by
      rw [sourceKey_carried (records.sound sound) present owner, carried]
    rw [eq_of_sourceKey member present (key.trans same.symm), carried]
  · intro faithful scored
    rw [shown scored]
    constructor
    · rintro ⟨own, chosen, row, member, key, rfl⟩
      rw [faithful own chosen row member key]
      exact chosen
    · intro chosen
      obtain ⟨ids, wrote⟩ := records.wrote
      obtain ⟨row, member, key⟩ := wrote.stored scored chosen
      exact ⟨scored, chosen, row, member, key, faithful scored chosen row member key⟩

theorem Records.faithful_iff_agrees (records : Records tables call store next) :
    Faithful tables next call ↔ Agrees tables store call := by
  obtain ⟨ids, wrote⟩ := records.wrote
  constructor
  · intro faithful scored chosen
    refine ⟨fun row member => faithful scored chosen row (wrote.kept row member), fun other also same => ?_⟩
    obtain ⟨row, member, key⟩ := wrote.stored other also
    rw [← faithful other also row member key, faithful scored chosen row member (key.trans same)]
  · intro agrees scored chosen row member key
    rcases wrote.new row member with old | ⟨other, also, rfl⟩
    · exact (agrees scored chosen).1 row old key
    · exact (agrees scored chosen).2 other also key

/-- A state that still shows of a stored run what an earlier one showed. -/
structure StillShows (tenantId runId : Uuid) (earlier store : ObservationStore) : Prop where
  sound : store.Sound
  stored : ∃ row ∈ store.runs, row.tenantId = tenantId ∧ row.id = runId
  shown : ∀ scored, scored ∈ store.shownBy tenantId runId ↔ scored ∈ earlier.shownBy tenantId runId

theorem StillShows.step {earlier : ObservationStore} (still : StillShows tenantId runId earlier store)
    (accepted : step tables store call = .ok next) : StillShows tenantId runId earlier next := by
  rcases step_cases accepted with rfl | records
  · exact still
  · obtain ⟨row, member, identity⟩ := still.stored
    exact ⟨records.sound still.sound, ⟨row, (records.runs row).mpr (.inl member), identity⟩,
      fun scored => (records.shownBy_kept still.sound still.stored).trans (still.shown scored)⟩

theorem stillShows_run (sound : store.Sound) (stored : ∃ row ∈ store.runs, row.tenantId = tenantId ∧ row.id = runId) :
    StillShows tenantId runId store (run (step tables) store calls) :=
  run_invariant_always (fun _ _ _ still accepted => still.step accepted) calls ⟨sound, stored, fun _ => Iff.rfl⟩

/-- A recorded run shows its own scores at the end of a history exactly when the tables it met agreed with it. -/
theorem shows_after_iff (sound : store.Sound) (new : recorded tables store call = true) :
    ShowsOwn tables (run (step tables) store (call :: calls)) call ↔ Agrees tables store call := by
  obtain ⟨next, result, persisted, fresh⟩ := recorded_iff.mp new
  have accepted : step tables store call = .ok next := map_fst_ok.mpr ⟨result, persisted⟩
  have records : Records tables call store next := by
    rcases persist_cases persisted with ⟨replayed, -⟩ | ⟨-, records⟩
    · exact absurd replayed (by simp [fresh])
    · exact records
  have stored : ∃ row ∈ next.runs, row.tenantId = call.tenantId ∧ row.id = call.runId :=
    ⟨call.runRecord tables, (records.runs _).mpr (.inr rfl), rfl, rfl⟩
  have later : ShowsOwn tables (run (step tables) next calls) call ↔ ShowsOwn tables next call :=
    forall_congr' fun scored => iff_congr ((stillShows_run (records.sound sound) stored).shown scored) Iff.rfl
  rw [run_cons, commit_ok accepted, later, records.shows_iff_faithful sound, records.faithful_iff_agrees]

end Steps

/-- Every run shows its own scores exactly when each run, as it is recorded, meets no stored observation of one of
    its candidates that carries another score, other reasons or another content. -/
theorem runs_show_own_scores (tables : CaseTables) (calls : List IngestionCall) : RunsShowOwn tables calls ↔
    Along (step tables) (fun store call => recorded tables store call = true → Agrees tables store call)
      .empty calls := by
  rw [along_iff_each]
  constructor
  · intro shows before call initial new
    obtain ⟨after, rfl⟩ := initial
    have own := shows before call after (by simp) new
    rw [List.append_assoc, run_append] at own
    exact (shows_after_iff (run_sound before) new).mp own
  · rintro each before call after rfl new
    rw [run_append]
    exact (shows_after_iff (run_sound before) new).mpr (each before call ⟨after, by simp⟩ new)

def schoolCandidate : OpportunityCandidate := ⟨"BOAMP", "26-1", some "école", none, none, ["59"], [], none⟩

/-- A run of a profile that watches the keyword of the notice, or its department. -/
def profileRun (key : Uuid) (criteria : WatchProfileCriteria) : IngestionCall :=
  ⟨1, 2, key, 1, key, key, none, [schoolCandidate], 1, false, criteria, 0, key, key⟩

def keywordRun : IngestionCall := profileRun 10 ⟨["école"], [], []⟩

def departmentRun : IngestionCall := profileRun 11 ⟨["crèche"], ["59"], []⟩

def asIs : CaseTables := ⟨id, id⟩

/-- What the second profile computes for the notice. -/
def departmentScored : ScoredCandidate :=
  (schoolCandidate, scoreCandidate asIs ⟨["crèche"], ["59"], []⟩ 0 schoolCandidate)

/-- The run of the second profile shows the score of the first. -/
theorem second_profile_shows_first : ¬ RunsShowOwn asIs [keywordRun, departmentRun] := by
  intro shows
  have new : recorded asIs (run (step asIs) .empty [keywordRun]) departmentRun = true := by decide +kernel
  have own := shows [keywordRun] departmentRun [] rfl new
  rw [show [keywordRun, departmentRun] = [keywordRun] ++ [departmentRun] from rfl, run_append] at own
  have agrees := (shows_after_iff (run_sound [keywordRun]) new).mp own
  have stored : ((run (step asIs) .empty [keywordRun]).observations.rows.any fun row =>
      row.sourceKey = (departmentRun.observationRow departmentScored).sourceKey ∧
        row.score ≠ departmentScored.2.score) = true := by decide +kernel
  obtain ⟨row, member, holds⟩ := List.any_eq_true.mp stored
  obtain ⟨key, differs⟩ := of_decide_eq_true holds
  have same := (agrees departmentScored (List.mem_singleton.mpr rfl)).1 row member key
  exact differs (by rw [← same]; rfl)

end SmartAo.Opportunity
