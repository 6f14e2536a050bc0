import SmartAo.Foundation.Hex
import SmartAo.Preparation.LatestReadiness

namespace SmartAo.Preparation

open SmartAo.Foundation SmartAo.Platform SmartAo.Membership

/-- A stored document or draft refers to the file. -/
def Referenced (store : Store) (key : String) : Prop :=
  (∃ document ∈ store.documents, document.storageKey = key) ∨ ∃ draft ∈ store.drafts, draft.storageKey = key

instance (store : Store) (key : String) : Decidable (Referenced store key) :=
  inferInstanceAs (Decidable ((∃ document ∈ store.documents, _) ∨ ∃ draft ∈ store.drafts, _))

/-- The state without the files no row refers to. -/
def cleaned (store : Store) : Store :=
  { store with files := store.files.keep fun key => Referenced store key }

/-- What succeeds without the leftovers of failed attempts succeeds with them. -/
def Retryable (inputs : List Input) : Prop :=
  ∀ first command context, first ++ [.command command context] <+: inputs →
    Accepted (cleaned (run step .empty first)) command context →
      Accepted (run step .empty first) command context

/-- An attempt that writes a file and is rolled back. -/
def LeavesBehind (store : Store) (key : String) : Input → Prop
  | .foreign _ => False
  | .interrupted command context =>
    store.files.read key = none ∧ ∃ content, writtenFile store command context = some (key, content)
  | .command command context => ¬ Accepted store command context ∧
    store.files.read key = none ∧ ∃ content, writtenFile store command context = some (key, content)

def LeftBehind (inputs : List Input) (key : String) : Prop :=
  ∃ first input, first ++ [input] <+: inputs ∧ LeavesBehind (run step .empty first) key input

/-- No stored row conflicts with the one the command adds. -/
def AddsNewRow (store : Store) (command : Command) (context : CommandContext) : Prop :=
  match command with
  | .generate command => ∀ pending, pendingDocument store command context = .ok pending →
    (store.documents.insert? (documentRecord command context pending (hexdigest pending.content))).isSome
  | .createDraft command => ∀ pending, pendingDraft store command context = .ok pending →
    (store.drafts.insert? (draftRecord command context pending (hexdigest pending.content))).isSome
  | _ => True

/-- A generation or a draft whose checks pass writes no file that a rolled-back attempt left. -/
def WritesFresh (inputs : List Input) : Prop :=
  ∀ first command context, first ++ [.command command context] <+: inputs → ∀ key content,
    writtenFile (run step .empty first) command context = some (key, content) →
      AddsNewRow (run step .empty first) command context → ¬ LeftBehind first key

variable {store next : Store} {context : CommandContext} {outcome : HandlerOutcome}

theorem uuid_prefixCode : PrefixCode Uuid.chars :=
  prefixCode_of_length Uuid.chars_injective 36 fun id => by simp [Uuid.chars]

theorem documentKey_injective {tenantId packageId documentId tenant package document : Uuid}
    (same : documentKey tenantId packageId documentId = documentKey tenant package document) :
    documentId = document := by
  have chars := List.append_cancel_left (String.ofList_injective same)
  obtain ⟨_, rest⟩ := uuid_prefixCode chars
  obtain ⟨_, rest⟩ := uuid_prefixCode (List.tail_eq_of_cons_eq rest)
  exact (uuid_prefixCode (List.tail_eq_of_cons_eq rest)).1

theorem draftKey_injective {tenantId packageId draftId tenant package draft : Uuid} {version number : Nat}
    (same : draftKey tenantId packageId draftId version = draftKey tenant package draft number) :
    tenantId = tenant ∧ draftId = draft ∧ version = number := by
  have chars := List.append_cancel_left (String.ofList_injective same)
  obtain ⟨tenants, rest⟩ := uuid_prefixCode chars
  obtain ⟨_, rest⟩ := uuid_prefixCode (List.tail_eq_of_cons_eq rest)
  obtain ⟨drafts, rest⟩ := uuid_prefixCode (List.tail_eq_of_cons_eq rest)
  exact ⟨tenants, drafts, toDigits_injective (List.append_cancel_right (List.tail_eq_of_cons_eq rest))⟩

theorem documentKey_ne_draftKey {tenantId packageId documentId tenant package draft : Uuid} {version : Nat} :
    documentKey tenantId packageId documentId ≠ draftKey tenant package draft version := by
  intro same
  have heads := congrArg List.head? (String.ofList_injective same)
  cases heads

def withFiles (files : Files String (List Char)) (store : Store) : Store := { store with files }

def changedFiles (files : Files String (List Char)) (result : Store × HandlerOutcome) : Store × HandlerOutcome :=
  (withFiles files result.1, result.2)

theorem evaluate_withFiles (files : Files String (List Char)) (command : EvaluatePreparationReadinessCommand) :
    evaluate (withFiles files store) command context =
      (evaluate store command context).map (changedFiles files) := by
  simp only [evaluate, map_bind, map_pure]
  rfl

theorem requestReview_withFiles (files : Files String (List Char)) (command : RequestPreparationReviewCommand) :
    requestReview (withFiles files store) command context =
      (requestReview store command context).map (changedFiles files) := by
  simp only [requestReview, map_bind, map_pure]
  rfl

theorem decideReview_withFiles (files : Files String (List Char)) (command : DecidePreparationReviewCommand) :
    decideReview (withFiles files store) command context =
      (decideReview store command context).map (changedFiles files) := by
  simp only [decideReview, map_bind, map_pure]
  rfl

theorem addCorrection_withFiles (files : Files String (List Char)) (command : AddPreparationCorrectionCommand) :
    addCorrection (withFiles files store) command context =
      (addCorrection store command context).map (changedFiles files) := by
  simp only [addCorrection, map_bind, map_pure]
  rfl

theorem createSnapshot_withFiles (files : Files String (List Char)) (command : CreatePreparationSnapshotCommand) :
    createSnapshot (withFiles files store) command context =
      (createSnapshot store command context).map (changedFiles files) := by
  simp only [createSnapshot, map_bind, map_pure]
  rfl

theorem transmitSnapshot_withFiles (files : Files String (List Char))
    (command : TransmitPreparationSnapshotCommand) : transmitSnapshot (withFiles files store) command context =
      (transmitSnapshot store command context).map (changedFiles files) := by
  simp only [transmitSnapshot, map_bind, map_pure]
  rfl

theorem isOk_map {change : Store × HandlerOutcome → Store × HandlerOutcome}
    {result : Transaction (Store × HandlerOutcome)} : (result.map change).isOk = result.isOk := by
  cases result <;> rfl

/-- A command that writes no file does not depend on the storage. -/
theorem accepted_cleaned_of_unwritten {command : Command}
    (unwritten : writtenFile store command context = none) (accepted : Accepted (cleaned store) command context) :
    Accepted store command context := by
  unfold Accepted at accepted ⊢
  cases command with
  | evaluate command => exact isOk_map.symm.trans ((congrArg _ (evaluate_withFiles _ command)).symm.trans accepted)
  | requestReview command =>
    exact isOk_map.symm.trans ((congrArg _ (requestReview_withFiles _ command)).symm.trans accepted)
  | decideReview command =>
    exact isOk_map.symm.trans ((congrArg _ (decideReview_withFiles _ command)).symm.trans accepted)
  | addCorrection command =>
    exact isOk_map.symm.trans ((congrArg _ (addCorrection_withFiles _ command)).symm.trans accepted)
  | createSnapshot command =>
    exact isOk_map.symm.trans ((congrArg _ (createSnapshot_withFiles _ command)).symm.trans accepted)
  | transmitSnapshot command =>
    exact isOk_map.symm.trans ((congrArg _ (transmitSnapshot_withFiles _ command)).symm.trans accepted)
  | generate command =>
    obtain ⟨_, _, executed⟩ := accepted_ok accepted
    obtain ⟨pending, _, _, checked, _⟩ := generate_ok executed
    have same : pendingDocument store command context = .ok pending := checked
    simp [writtenFile, same] at unwritten
  | createDraft command =>
    obtain ⟨_, _, executed⟩ := accepted_ok accepted
    obtain ⟨pending, _, _, checked, _⟩ := createDraft_ok executed
    have same : pendingDraft store command context = .ok pending := checked
    simp [writtenFile, same] at unwritten

/-- A command that writes a file is accepted when the file is absent and its row is new. -/
theorem accepted_of_written {command : Command} {key : String} {content : List Char}
    (written : writtenFile store command context = some (key, content)) :
    Accepted store command context ↔ store.files.read key = none ∧ AddsNewRow store command context := by
  cases command with
  | generate command =>
    cases checked : pendingDocument store command context with
    | error error => simp [writtenFile, checked] at written
    | ok pending =>
      simp only [writtenFile, checked, Option.some.injEq, Prod.mk.injEq] at written
      obtain ⟨rfl, rfl⟩ := written
      simp only [AddsNewRow, checked, Except.ok.injEq, forall_eq']
      constructor
      · intro accepted
        obtain ⟨_, _, executed⟩ := accepted_ok accepted
        obtain ⟨other, _, _, same, created, inserted, _⟩ := generate_ok executed
        rw [checked] at same
        cases same
        exact ⟨Files.write?_absent created, by rw [inserted]; rfl⟩
      · rintro ⟨absent, inserted⟩
        obtain ⟨files, created⟩ := Option.isSome_iff_exists.mp (Files.write?_isSome.mpr absent)
        obtain ⟨documents, inserted⟩ := Option.isSome_iff_exists.mp inserted
        have executed : ∃ next outcome, generate store command context = .ok (next, outcome) := by
          simp only [generate, bind_ok, writeFile_ok, flush, orRaise_ok, pure_ok, Prod.exists]
          exact ⟨_, _, pending, checked, files, _, ⟨created, rfl⟩, documents, inserted, rfl⟩
        obtain ⟨next, outcome, executed⟩ := executed
        exact accepted_of_ok executed
  | createDraft command =>
    cases checked : pendingDraft store command context with
    | error error => simp [writtenFile, checked] at written
    | ok pending =>
      simp only [writtenFile, checked, Option.some.injEq, Prod.mk.injEq] at written
      obtain ⟨rfl, rfl⟩ := written
      simp only [AddsNewRow, checked, Except.ok.injEq, forall_eq']
      constructor
      · intro accepted
        obtain ⟨_, _, executed⟩ := accepted_ok accepted
        obtain ⟨other, _, _, same, created, inserted, _⟩ := createDraft_ok executed
        rw [checked] at same
        cases same
        exact ⟨Files.write?_absent created, by rw [inserted]; rfl⟩
      · rintro ⟨absent, inserted⟩
        obtain ⟨files, created⟩ := Option.isSome_iff_exists.mp (Files.write?_isSome.mpr absent)
        obtain ⟨drafts, inserted⟩ := Option.isSome_iff_exists.mp inserted
        have executed : ∃ next outcome, createDraft store command context = .ok (next, outcome) := by
          simp only [createDraft, bind_ok, writeFile_ok, flush, orRaise_ok, pure_ok, Prod.exists]
          exact ⟨_, _, pending, checked, files, _, ⟨created, rfl⟩, drafts, inserted, rfl⟩
        obtain ⟨next, outcome, executed⟩ := executed
        exact accepted_of_ok executed
  | _ => cases written

theorem writtenFile_cleaned (command : Command) :
    writtenFile (cleaned store) command context = writtenFile store command context := by
  cases command <;> rfl

theorem addsNewRow_cleaned (command : Command) :
    AddsNewRow (cleaned store) command context ↔ AddsNewRow store command context := by
  cases command <;> exact Iff.rfl

/-- An attempt keeps the stored files and adds the one it writes. -/
theorem attemptedFiles_read {command : Command} {key : String} :
    (attemptedFiles store command context).read key ≠ none ↔
      store.files.read key ≠ none ∨ ∃ content, writtenFile store command context = some (key, content) := by
  unfold attemptedFiles
  cases attempted : writtenFile store command context with
  | none => simp
  | some file =>
    obtain ⟨name, content⟩ := file
    simp only [Option.bind_some, Option.some.injEq, Prod.mk.injEq]
    cases written : store.files.write? name content with
    | none =>
      have present : store.files.read name ≠ none := by
        intro absent
        have created : (store.files.write? name content).isSome := Files.write?_isSome.mpr absent
        rw [written] at created
        cases created
      simp only [Option.getD_none]
      constructor
      · exact .inl
      · rintro (stored | ⟨_, rfl, _⟩)
        · exact stored
        · exact present
    | some files =>
      rw [Option.getD_some, Files.read_write? written]
      by_cases same : key = name
      · simp [same]
      · simp [same, Ne.symm same]

theorem writtenFile_generate {command : GenerateTechnicalDocumentCommand} {pending : PendingDocument}
    (checked : pendingDocument store command context = .ok pending) :
    writtenFile store (.generate command) context =
      some (documentKey context.tenantId pending.package.id command.documentId, pending.content) := by
  simp [writtenFile, checked]

theorem writtenFile_createDraft {command : CreateTechnicalResponseDraftCommand} {pending : PendingDraft}
    (checked : pendingDraft store command context = .ok pending) :
    writtenFile store (.createDraft command) context =
      some (draftKey context.tenantId pending.package.id command.draftId pending.version, pending.content) := by
  simp [writtenFile, checked]

theorem attemptedFiles_written {command : Command} {key : String} {content : List Char}
    {files : Files String (List Char)} (attempted : writtenFile store command context = some (key, content))
    (written : store.files.write? key content = some files) : attemptedFiles store command context = files := by
  simp [attemptedFiles, attempted, written]

theorem Effect.files {command : Command} (effect : Effect store next context command) :
    next.files = attemptedFiles store command context := by
  cases effect with
  | evaluated _ _ _ _ _ _ files => exact files
  | generated _ checked written => exact (attemptedFiles_written (writtenFile_generate checked) written).symm
  | drafted _ checked written => exact (attemptedFiles_written (writtenFile_createDraft checked) written).symm
  | snapshotted _ _ _ _ _ _ _ _ _ _ _ _ _ _ _ files => exact files
  | kept kept silent =>
    rw [kept.files]
    simp [attemptedFiles, silent]

/-- An accepted command refers to the file it writes and to no other new one. -/
theorem Effect.referenced {command : Command} (effect : Effect store next context command) {key : String} :
    Referenced next key ↔
      Referenced store key ∨ ∃ content, writtenFile store command context = some (key, content) := by
  cases effect with
  | evaluated _ _ _ documents drafts => simp [Referenced, documents, drafts, writtenFile]
  | generated pending checked _ inserted _ _ drafts =>
    simp only [Referenced, Table.mem_insert? inserted, drafts, writtenFile_generate checked, Option.some.injEq,
      Prod.mk.injEq, exists_and_left, exists_eq', and_true, or_and_right, exists_or, exists_eq_left]
    rw [or_right_comm]
    rfl
  | drafted pending checked _ inserted _ _ documents =>
    simp only [Referenced, Table.mem_insert? inserted, documents, writtenFile_createDraft checked,
      Option.some.injEq, Prod.mk.injEq, exists_and_left, exists_eq', and_true, or_and_right, exists_or,
      exists_eq_left, or_assoc]
    rfl
  | snapshotted _ _ _ _ _ _ _ _ _ _ _ _ _ documents drafts => simp [Referenced, documents, drafts, writtenFile]
  | kept kept silent => simp [Referenced, kept.documents, kept.drafts, silent]

theorem leftBehind_append {first : List Input} {input : Input} {key : String} :
    LeftBehind (first ++ [input]) key ↔
      LeftBehind first key ∨ LeavesBehind (run step .empty first) key input := by
  constructor
  · rintro ⟨earlier, other, before, leaves⟩
    rcases List.prefix_concat_iff.mp before with same | within
    · obtain ⟨earlier_eq, input_eq⟩ := List.append_inj' same rfl
      rw [earlier_eq, List.singleton_inj.mp input_eq] at leaves
      exact .inr leaves
    · exact .inl ⟨earlier, other, within, leaves⟩
  · rintro (⟨earlier, other, before, leaves⟩ | leaves)
    · exact ⟨earlier, other, before.trans (List.prefix_append _ _), leaves⟩
    · exact ⟨first, input, List.prefix_refl _, leaves⟩

/-- After an input the storage holds what rows refer to and what rolled-back attempts left. -/
theorem advance_stored {input : Input} {key : String} {left : Prop}
    (held : store.files.read key ≠ none ↔ Referenced store key ∨ left) :
    (advance store input).files.read key ≠ none ↔
      Referenced (advance store input) key ∨ left ∨ LeavesBehind store key input := by
  cases input with
  | foreign sources =>
    have same : Referenced (advance store (.foreign sources)) key ↔ Referenced store key := Iff.rfl
    show store.files.read key ≠ none ↔ _
    rw [same, held]
    simp [LeavesBehind]
  | interrupted command context =>
    have same : Referenced (advance store (.interrupted command context)) key ↔ Referenced store key := Iff.rfl
    show (attemptedFiles store command context).read key ≠ none ↔ _
    rw [attemptedFiles_read, same, held]
    by_cases present : store.files.read key = none
    · have absent := mt held.mpr (not_not.mpr present)
      simp only [LeavesBehind, present, true_and]
      tauto
    · simp only [LeavesBehind, present, false_and, or_false]
      have stored := held.mp present
      tauto
  | command command context =>
    cases executed : execute store command context with
    | ok result =>
      obtain ⟨next, outcome⟩ := result
      have reached : advance store (.command command context) = next := by simp [advance, executed]
      have effect := execute_effect executed
      have accepted : ¬ LeavesBehind store key (.command command context) :=
        fun leaves => leaves.1 (accepted_of_ok executed)
      rw [reached, effect.files, attemptedFiles_read, effect.referenced, held]
      tauto
    | error error =>
      have refused : ¬ Accepted store command context := by simp [Accepted, executed, Except.isOk, Except.toBool]
      have reached : advance store (.command command context) =
        { store with files := attemptedFiles store command context } := by simp [advance, executed]
      have same : Referenced { store with files := attemptedFiles store command context } key ↔
        Referenced store key := Iff.rfl
      rw [reached, same]
      show (attemptedFiles store command context).read key ≠ none ↔ _
      rw [attemptedFiles_read, held]
      by_cases present : store.files.read key = none
      · have absent := mt held.mpr (not_not.mpr present)
        simp only [LeavesBehind, present, true_and, refused, not_false_eq_true]
        tauto
      · simp only [LeavesBehind, present, false_and, and_false, or_false]
        have stored := held.mp present
        tauto

theorem run_stored (inputs : List Input) (key : String) :
    (run step .empty inputs).files.read key ≠ none ↔
      Referenced (run step .empty inputs) key ∨ LeftBehind inputs key := by
  induction inputs using List.reverseRecOn with
  | nil =>
    have empty : ¬ LeftBehind [] key := by
      rintro ⟨first, input, before, _⟩
      simp at before
    have unreferenced : ¬ Referenced .empty key := by
      rintro (⟨_, member, _⟩ | ⟨_, member, _⟩)
      · exact Table.not_mem_empty member
      · exact Table.not_mem_empty member
    exact iff_of_false (fun present => present rfl) (fun either => either.elim unreferenced empty)
  | append_singleton first input ih =>
    rw [run_append, leftBehind_append]
    exact advance_stored ih

/-- The storage keys of stored rows are those their writers computed. -/
structure StoredKeys (store : Store) : Prop where
  documents : ∀ document ∈ store.documents,
    document.storageKey = documentKey document.tenantId document.packageId document.id
  drafts : ∀ draft ∈ store.drafts,
    draft.storageKey = draftKey draft.tenantId draft.packageId draft.draftId draft.version

theorem Effect.storedKeys {command : Command} (effect : Effect store next context command)
    (held : StoredKeys store) : StoredKeys next := by
  cases effect with
  | evaluated _ _ _ documents drafts => exact ⟨documents ▸ held.documents, drafts ▸ held.drafts⟩
  | generated pending _ _ inserted _ _ drafts =>
    refine ⟨fun document member => ?_, drafts ▸ held.drafts⟩
    rcases (Table.mem_insert? inserted).mp member with old | rfl
    · exact held.documents document old
    · rfl
  | drafted pending _ _ inserted _ _ documents =>
    refine ⟨documents ▸ held.documents, fun draft member => ?_⟩
    rcases (Table.mem_insert? inserted).mp member with old | rfl
    · exact held.drafts draft old
    · rfl
  | snapshotted _ _ _ _ _ _ _ _ _ _ _ _ _ documents drafts =>
    exact ⟨documents ▸ held.documents, drafts ▸ held.drafts⟩
  | kept kept _ => exact ⟨kept.documents ▸ held.documents, kept.drafts ▸ held.drafts⟩

theorem run_storedKeys (inputs : List Input) : StoredKeys (run step .empty inputs) := by
  have initial : StoredKeys .empty :=
    ⟨fun _ member => absurd member Table.not_mem_empty, fun _ member => absurd member Table.not_mem_empty⟩
  refine run_invariant_always (fun store input next held accepted => ?_) inputs initial
  cases accepted
  cases input with
  | foreign sources => exact ⟨held.documents, held.drafts⟩
  | interrupted command context => exact ⟨held.documents, held.drafts⟩
  | command command context =>
    rcases advance_command store command context with ⟨outcome, executed⟩ | unchanged
    · exact (execute_effect executed).storedKeys held
    · rw [unchanged]
      exact ⟨held.documents, held.drafts⟩

/-- No stored row refers to the file of a row that is new. -/
theorem unreferenced_of_addsNewRow {command : Command} {key : String} {content : List Char}
    (held : StoredKeys store) (written : writtenFile store command context = some (key, content))
    (fresh : AddsNewRow store command context) : ¬ Referenced store key := by
  cases command with
  | generate command =>
    cases checked : pendingDocument store command context with
    | error error => simp [writtenFile, checked] at written
    | ok pending =>
      simp only [writtenFile_generate checked, Option.some.injEq, Prod.mk.injEq] at written
      obtain ⟨rfl, _⟩ := written
      have absent := Table.insert?_isSome.mp (fresh pending checked)
      rintro (⟨document, stored, same⟩ | ⟨draft, stored, same⟩)
      · rw [held.documents document stored] at same
        exact absent document stored (.inl (documentKey_injective same))
      · rw [held.drafts draft stored] at same
        exact documentKey_ne_draftKey same.symm
  | createDraft command =>
    cases checked : pendingDraft store command context with
    | error error => simp [writtenFile, checked] at written
    | ok pending =>
      simp only [writtenFile_createDraft checked, Option.some.injEq, Prod.mk.injEq] at written
      obtain ⟨rfl, _⟩ := written
      have absent := Table.insert?_isSome.mp (fresh pending checked)
      rintro (⟨document, stored, same⟩ | ⟨draft, stored, same⟩)
      · rw [held.documents document stored] at same
        exact documentKey_ne_draftKey same
      · rw [held.drafts draft stored] at same
        obtain ⟨tenant, name, version⟩ := draftKey_injective same
        refine absent draft stored (.inr ?_)
        show (draft.tenantId, draft.draftId, draft.version) =
          (context.tenantId, command.draftId, pending.version)
        rw [tenant, name, version]
  | _ => cases written

/-- What passes its checks without the leftovers succeeds with them exactly when no generation or draft
    writes a file that a rolled-back attempt left. -/
theorem retryable_iff_writesFresh (inputs : List Input) : Retryable inputs ↔ WritesFresh inputs := by
  constructor
  · intro retryable first command context before key content written fresh left
    have unreferenced := unreferenced_of_addsNewRow (run_storedKeys first) written fresh
    have absent : (cleaned (run step .empty first)).files.read key = none := by
      simp only [cleaned, Files.read_keep, unreferenced, decide_false, Bool.false_eq_true, if_false]
    have accepted : Accepted (cleaned (run step .empty first)) command context :=
      (accepted_of_written ((writtenFile_cleaned command).trans written)).mpr
        ⟨absent, (addsNewRow_cleaned command).mpr fresh⟩
    have retried := retryable first command context before accepted
    exact (run_stored first key).mpr (.inr left) ((accepted_of_written written).mp retried).1
  · intro fresh first command context before accepted
    cases written : writtenFile (run step .empty first) command context with
    | none => exact accepted_cleaned_of_unwritten written accepted
    | some file =>
      obtain ⟨key, content⟩ := file
      have adds := (addsNewRow_cleaned command).mp
        ((accepted_of_written ((writtenFile_cleaned command).trans written)).mp accepted).2
      have unreferenced := unreferenced_of_addsNewRow (run_storedKeys first) written adds
      refine (accepted_of_written written).mpr ⟨?_, adds⟩
      by_contra present
      rcases (run_stored first key).mp present with referenced | left
      · exact unreferenced referenced
      · exact fresh first command context before key content written adds left

section Leftovers

def drafting (commandId : Uuid) : Command :=
  .createDraft ⟨⟨commandId, commandId, none⟩, 40, 10, 30, 2, ["METHOD"], []⟩

def generating (commandId documentId : Uuid) (revision : Nat) : Command :=
  .generate ⟨⟨commandId, commandId, none⟩, 10, documentId, revision, 1, .technicalResponse⟩

/-- A draft and a second document are rolled back after their storage writes. -/
def interruptedRun : List Input := [
  .foreign (preparationSources .completed),
  .command (.evaluate ⟨⟨20, 20, none⟩, 10, 4, 7, 5, 0⟩) preparer,
  .command (generating 21 30 1) preparer,
  .interrupted (drafting 22) preparer,
  .interrupted (generating 23 31 2) preparer]

theorem not_retryable {command : Command}
    (passes : Accepted (cleaned (run step .empty interruptedRun)) command preparer)
    (fails : ¬ Accepted (run step .empty interruptedRun) command preparer) :
    ¬ Retryable (interruptedRun ++ [.command command preparer]) :=
  fun retryable => fails (retryable interruptedRun command preparer (List.prefix_refl _) passes)

theorem interruptedRun_not_retryable :
    ((execute (run step .empty interruptedRun) (drafting 24) preparer).map fun _ => ()) =
      .error (.failed "private generated document already exists") ∧
    ((execute (run step .empty interruptedRun) (generating 25 31 2) preparer).map fun _ => ()) =
      .error (.failed "private generated document already exists") ∧
    ¬ Retryable (interruptedRun ++ [.command (drafting 24) preparer]) ∧
    ¬ Retryable (interruptedRun ++ [.command (generating 25 31 2) preparer]) := by
  have evaluated :
      (((execute (run step .empty interruptedRun) (drafting 24) preparer).map fun _ => ()) =
        .error (.failed "private generated document already exists") ∧
      ((execute (run step .empty interruptedRun) (generating 25 31 2) preparer).map fun _ => ()) =
        .error (.failed "private generated document already exists")) ∧
      Accepted (cleaned (run step .empty interruptedRun)) (drafting 24) preparer ∧
      Accepted (cleaned (run step .empty interruptedRun)) (generating 25 31 2) preparer := by
    unfold Accepted
    decide +kernel
  obtain ⟨⟨draftFails, generationFails⟩, drafts, generates⟩ := evaluated
  refine ⟨draftFails, generationFails, not_retryable drafts fun accepted => ?_,
    not_retryable generates fun accepted => ?_⟩
  · obtain ⟨_, _, executed⟩ := accepted_ok accepted
    rw [executed] at draftFails
    cases draftFails
  · obtain ⟨_, _, executed⟩ := accepted_ok accepted
    rw [executed] at generationFails
    cases generationFails

end Leftovers

end SmartAo.Preparation
