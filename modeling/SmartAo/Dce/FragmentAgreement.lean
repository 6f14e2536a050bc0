import SmartAo.Dce.Fragments
import Mathlib.Algebra.Order.BigOperators.Group.List

namespace SmartAo.Dce

section Agreement

open SmartAo.Foundation SmartAo.Platform

variable {text : List Char}

theorem slice_flatten (text : List Char) (width count : Nat) :
    ((List.range count).map fun index => (text.drop (width * index)).take width).flatten =
      text.take (width * count) := by
  induction count with
  | zero => simp
  | succ count ih =>
    rw [List.range_succ, List.map_append, List.flatten_append, ih, Nat.mul_succ, List.take_add]
    simp

theorem splitText_flatten (text : List Char) : (splitText text).flatten = text := by
  have covered : text.length ≤ maxFragmentChars *
      ((text.length + (maxFragmentChars - 1)) / maxFragmentChars) := by
    unfold maxFragmentChars
    omega
  rw [splitText, slice_flatten, List.take_of_length_le covered]

theorem splitText_chars (text : List Char) : ((splitText text).map List.length).sum = text.length := by
  rw [← List.length_flatten, splitText_flatten]

theorem mem_splitText {part : List Char} : part ∈ splitText text ↔ ∃ index,
    maxFragmentChars * index < text.length ∧
      (text.drop (maxFragmentChars * index)).take maxFragmentChars = part := by
  simp only [splitText, List.mem_map, List.mem_range]
  refine exists_congr fun index => and_congr ?_ Iff.rfl
  unfold maxFragmentChars
  omega

theorem splitText_width {part : List Char} (member : part ∈ splitText text) :
    part ≠ [] ∧ part.length ≤ maxFragmentChars := by
  obtain ⟨index, inside, rfl⟩ := mem_splitText.mp member
  have width : 0 < maxFragmentChars := by decide
  constructor
  · rw [← List.length_pos_iff, List.length_take, List.length_drop]
    omega
  · rw [List.length_take]
    omega

/-- No whitespace stands on either side of the places where a text is cut. -/
def BareCuts (text : List Char) : Prop :=
  ∀ index, maxFragmentChars * (index + 1) < text.length →
    (∀ c ∈ text[maxFragmentChars * (index + 1) - 1]?, isWhiteSpace c = false) ∧
      ∀ c ∈ text[maxFragmentChars * (index + 1)]?, isWhiteSpace c = false

theorem slice_head (text : List Char) {width : Nat} (start : Nat) (positive : 0 < width) :
    ((text.drop start).take width).head? = text[start]? := by
  rw [List.head?_take, if_neg (by omega), List.head?_drop]

theorem slice_last {start width : Nat} (positive : 0 < width) (inside : start < text.length) :
    ((text.drop start).take width).getLast? = text[min (start + width) text.length - 1]? := by
  have length : ((text.drop start).take width).length = min width (text.length - start) := by
    rw [List.length_take, List.length_drop]
  rw [List.getLast?_eq_getElem?, length, List.getElem?_take_of_lt (by omega), List.getElem?_drop]
  congr 1
  omega

/-- The parts of a text with bare ends have bare ends exactly when its cuts are bare. -/
theorem splitText_bareEnds (bare : BareEnds isWhiteSpace text) :
    (∀ part ∈ splitText text, BareEnds isWhiteSpace part) ↔ BareCuts text := by
  have width : 0 < maxFragmentChars := by decide
  constructor
  · intro ends index inside
    have before : maxFragmentChars * index < text.length := by
      rw [Nat.mul_succ] at inside
      omega
    have left := ends _ (mem_splitText.mpr ⟨index, before, rfl⟩)
    have right := ends _ (mem_splitText.mpr ⟨index + 1, inside, rfl⟩)
    rw [BareEnds, slice_last width before] at left
    rw [BareEnds, slice_head text _ width] at right
    have cut : min (maxFragmentChars * index + maxFragmentChars) text.length =
        maxFragmentChars * (index + 1) := by
      rw [Nat.mul_succ] at inside ⊢
      omega
    rw [cut] at left
    exact ⟨left.2, right.1⟩
  · intro cuts part member
    obtain ⟨index, inside, rfl⟩ := mem_splitText.mp member
    rw [BareEnds, slice_head text _ width, slice_last width inside]
    constructor
    · cases index with
      | zero =>
        rw [Nat.mul_zero, ← List.head?_eq_getElem?]
        exact bare.1
      | succ index => exact (cuts index inside).2
    · by_cases final : text.length ≤ maxFragmentChars * index + maxFragmentChars
      · rw [Nat.min_eq_right final, ← List.getLast?_eq_getElem?]
        exact bare.2
      · rw [Nat.min_eq_left (by omega), ← Nat.mul_succ]
        exact (cuts index (by rw [Nat.mul_succ]; omega)).1

theorem appendParts_texts (locator : Locator) (part : Nat) (texts : List (List Char))
    (fragments : List ExtractedFragment) :
    (appendParts locator part texts fragments).map (·.text) = fragments.map (·.text) ++ texts := by
  induction texts generalizing part fragments with
  | nil => simp [appendParts]
  | cons text texts ih =>
    rw [appendParts, ih, List.map_append]
    simp

/-- Fragments numbered from one in their order. -/
def Numbered (fragments : List ExtractedFragment) : Prop :=
  fragments.map (·.ordinal) = List.range' 1 fragments.length

theorem appendParts_numbered (locator : Locator) (part : Nat) (texts : List (List Char))
    {fragments : List ExtractedFragment} (numbered : Numbered fragments) :
    Numbered (appendParts locator part texts fragments) := by
  induction texts generalizing part fragments with
  | nil => exact numbered
  | cons text texts ih =>
    refine ih (part + 1) ?_
    unfold Numbered at numbered ⊢
    rw [List.map_append, numbered, List.length_append, List.length_singleton, List.range'_concat]
    simp [Nat.add_comm]

def ExtractedEntry.normalized (entry : ExtractedEntry) : List Char := stripChars entry.rawText

variable {entries : List ExtractedEntry} {fragments before : List ExtractedFragment} {total : Nat}

theorem fragmentizeFrom_texts (fragmented : fragmentizeFrom total before entries = .ok fragments) :
    fragments.map (·.text) = before.map (·.text) ++ entries.flatMap fun entry => splitText entry.normalized := by
  induction entries generalizing total before with
  | nil =>
    rw [fragmentizeFrom, pure_ok] at fragmented
    rw [fragmented]
    simp
  | cons entry entries ih =>
    simp only [fragmentizeFrom, bind_ok, raiseIf_ok, exists_unit] at fragmented
    rw [ih fragmented.2.2, appendParts_texts, List.flatMap_cons, List.append_assoc]
    rfl

theorem fragmentizeFrom_numbered (fragmented : fragmentizeFrom total before entries = .ok fragments)
    (numbered : Numbered before) : Numbered fragments := by
  induction entries generalizing total before with
  | nil =>
    rw [fragmentizeFrom, pure_ok] at fragmented
    exact fragmented ▸ numbered
  | cons entry entries ih =>
    simp only [fragmentizeFrom, bind_ok, raiseIf_ok, exists_unit] at fragmented
    exact ih fragmented.2.2 (appendParts_numbered _ _ _ numbered)

theorem fragmentize_texts (fragmented : fragmentize entries = .ok fragments) :
    fragments.map (·.text) = entries.flatMap fun entry => splitText entry.normalized :=
  fragmentizeFrom_texts fragmented

theorem fragmentize_numbered (fragmented : fragmentize entries = .ok fragments) : Numbered fragments :=
  fragmentizeFrom_numbered fragmented rfl

theorem fragmentize_length (fragmented : fragmentize entries = .ok fragments) :
    fragments.length = (entries.map fun entry => (splitText entry.normalized).length).sum := by
  have texts := congrArg List.length (fragmentize_texts fragmented)
  rw [List.length_map, List.length_flatMap] at texts
  exact texts

theorem fragmentize_chars (fragmented : fragmentize entries = .ok fragments) :
    charCount (·.text) fragments = (entries.map fun entry => entry.normalized.length).sum := by
  have texts := congrArg (fun texts => (texts.map List.length).sum) (fragmentize_texts fragmented)
  simp only [List.map_map, List.map_flatMap] at texts
  rw [charCount]
  refine Eq.trans texts ?_
  rw [List.flatMap, List.sum_flatten, List.map_map]
  congr 1
  exact List.map_congr_left fun entry _ => splitText_chars entry.normalized

/-- The number of parts of a text of some length. -/
def partCount (length : Nat) : Nat := (length + (maxFragmentChars - 1)) / maxFragmentChars

/-- The entries whose texts the command model leaves as they are and whose totals it admits. -/
structure Recordable (entries : List ExtractedEntry) : Prop where
  cuts : ∀ entry ∈ entries, BareCuts entry.normalized
  chars : (entries.map fun entry => entry.normalized.length).sum ≤ 10000000
  parts : (entries.map fun entry => partCount entry.normalized.length).sum ≤ 500000

structure Admissible (fragments : List ExtractedFragment) : Prop where
  bare : ∀ fragment ∈ fragments, BareEnds isWhiteSpace fragment.text
  chars : charCount (·.text) fragments ≤ 10000000
  count : fragments.length ≤ 500000

theorem normalized_bareEnds (entry : ExtractedEntry) : BareEnds isWhiteSpace entry.normalized := by
  rw [ExtractedEntry.normalized, stripChars_eq_trimBy]
  exact (trimBy_bareEnds entry.rawText).weaken fun c => isSpace_of_isWhiteSpace

theorem admissible_iff (fragmented : fragmentize entries = .ok fragments) :
    Admissible fragments ↔ Recordable entries := by
  have parts : fragments.length = (entries.map fun entry => partCount entry.normalized.length).sum := by
    rw [fragmentize_length fragmented]
    simp [splitText, partCount]
  have chars := fragmentize_chars fragmented
  have bare : (∀ fragment ∈ fragments, BareEnds isWhiteSpace fragment.text) ↔
      ∀ entry ∈ entries, BareCuts entry.normalized := by
    have texts : (∀ text ∈ fragments.map (·.text), BareEnds isWhiteSpace text) ↔
        ∀ fragment ∈ fragments, BareEnds isWhiteSpace fragment.text := List.forall_mem_map
    rw [← texts, fragmentize_texts fragmented]
    simp only [List.mem_flatMap, forall_exists_index, and_imp]
    constructor
    · intro ends entry member
      exact (splitText_bareEnds (normalized_bareEnds entry)).mp fun part inside => ends part entry member inside
    · intro cuts part entry member inside
      exact (splitText_bareEnds (normalized_bareEnds entry)).mpr (cuts entry member) part inside
  constructor
  · intro admissible
    exact ⟨bare.mp admissible.bare, chars ▸ admissible.chars, parts ▸ admissible.count⟩
  · intro recordable
    exact ⟨bare.mpr recordable.cuts, chars ▸ recordable.chars, parts ▸ recordable.parts⟩

theorem fragmentize_widths (fragmented : fragmentize entries = .ok fragments) :
    ∀ fragment ∈ fragments, fragment.text ≠ [] ∧ fragment.text.length ≤ maxFragmentChars := by
  intro fragment member
  have inside : fragment.text ∈ entries.flatMap fun entry => splitText entry.normalized := by
    rw [← fragmentize_texts fragmented]
    exact List.mem_map_of_mem member
  obtain ⟨entry, _, part⟩ := List.mem_flatMap.mp inside
  exact splitText_width part

theorem Numbered.positive (numbered : Numbered fragments) : ∀ fragment ∈ fragments, fragment.ordinal ≠ 0 := by
  intro fragment member
  have inside : fragment.ordinal ∈ fragments.map (·.ordinal) := List.mem_map_of_mem member
  rw [numbered, List.mem_range'_1] at inside
  omega

def fragmentInput (fragment : ExtractedFragment) : DceExtractionFragmentInput :=
  ⟨fragment.ordinal, fragment.locator, fragment.text, hexdigest fragment.text⟩

def buildFragment (fragment : ExtractedFragment) : Except ValidationError DceExtractionFragmentInput :=
  DceExtractionFragmentInput.build fragment.ordinal fragment.locator fragment.text (hexdigest fragment.text)

theorem buildFragment_text {fragment : ExtractedFragment} {input : DceExtractionFragmentInput}
    (built : buildFragment fragment = .ok input) : input.text = trimBy isWhiteSpace fragment.text := by
  simp only [buildFragment, DceExtractionFragmentInput.build, bind_ok, raiseIf_ok, exists_unit, pure_ok] at built
  rw [← built.2.2.2]

theorem buildFragment_ok {fragment : ExtractedFragment} (positive : fragment.ordinal ≠ 0)
    (width : fragment.text ≠ [] ∧ fragment.text.length ≤ maxFragmentChars)
    (bare : BareEnds isWhiteSpace fragment.text) : buildFragment fragment = .ok (fragmentInput fragment) := by
  simp only [buildFragment, DceExtractionFragmentInput.build, bind_ok, raiseIf_ok, exists_unit, pure_ok,
    trimBy_eq_self_iff.mpr bare, isSha256_hexdigest]
  refine ⟨positive, ?_, by simp, rfl⟩
  rw [not_or]
  exact ⟨width.1, by omega⟩

/-- Trimming the fragments keeps their number of characters exactly when their ends are bare. -/
theorem charCount_trim_iff : charCount (fun fragment => trimBy isWhiteSpace fragment.text) fragments =
    charCount (·.text) fragments ↔ ∀ fragment ∈ fragments, BareEnds isWhiteSpace fragment.text := by
  induction fragments with
  | nil => simp [charCount]
  | cons fragment fragments ih =>
    have first : (trimBy isWhiteSpace fragment.text).length ≤ fragment.text.length := trimBy_length_le
    have rest : charCount (fun fragment => trimBy isWhiteSpace fragment.text) fragments ≤
        charCount (·.text) fragments :=
      List.sum_le_sum fun fragment _ => trimBy_length_le
    simp only [charCount, List.map_cons, List.sum_cons, List.forall_mem_cons] at ih rest ⊢
    rw [← ih]
    constructor
    · intro same
      have whole : fragment.text.length ≤ (trimBy isWhiteSpace fragment.text).length := by omega
      exact ⟨trimBy_eq_self_iff.mp (trimBy_of_length whole), by omega⟩
    · rintro ⟨bare, same⟩
      rw [trimBy_eq_self_iff.mpr bare, same]

variable {document : DceDocumentRecord} {projection : ExtractionProjection}
  {command : RecordDceDocumentExtractionCommand}

/-- The rows of a command are those of the fragments it was built from. -/
structure Faithful (fragments : List ExtractedFragment) (command : RecordDceDocumentExtractionCommand)
    (rows : List DceDocumentExtractionFragmentRecord) : Prop where
  ordinals : rows.map (·.ordinal) = List.range' 1 rows.length
  texts : rows.map (·.text.toList) = fragments.map (·.text)
  nonempty : ∀ row ∈ rows, row.text ≠ ""
  hashes : ∀ row ∈ rows, row.textSha256 = hexdigest row.text.toList
  total : command.extractedCharCount = (rows.map (·.text.length)).sum

theorem recordingCommand_ok : recordingCommand document projection = .ok command ↔
    ∃ inputs, collect buildFragment projection.fragments = .ok inputs ∧
      RecordDceDocumentExtractionCommand.build {
        commandId := uuid5 document.id (extractionName document projection)
        idempotencyKey := uuid5 document.id (extractionName document projection)
        correlationId := some document.dceVersionId
        extractionId := uuid5 document.id (extractionName document projection)
        dceDocumentId := document.id, inputSha256 := lower document.sha256
        extractorId := projection.extractorId, extractorVersion := projection.extractorVersion
        status := projection.status, extractedCharCount := charCount (·.text) projection.fragments
        failureCode := projection.failureCode, fragments := inputs } = .ok command := by
  simp only [recordingCommand, bind_ok]
  exact Iff.rfl

theorem command_build_ok {built : RecordDceDocumentExtractionCommand} :
    command.build = .ok built ↔ (isSha256 command.inputSha256 = true ∧
      ¬ (command.extractorId = "" ∨ 100 < command.extractorId.length) ∧
      ¬ (command.extractorVersion = "" ∨ 64 < command.extractorVersion.length) ∧
      command.extractedCharCount ≤ 10000000 ∧ (command.failureCode.any fun code => 120 < code.length) = false ∧
      command.fragments.length ≤ 500000 ∧ command.validateTerminalProjection = .ok ()) ∧ command = built := by
  simp only [RecordDceDocumentExtractionCommand.build, bind_ok, raiseIf_ok, exists_unit, pure_ok, Nat.not_lt,
    Bool.not_eq_false, Bool.not_eq_true, and_assoc]

theorem projectDocument_ok (fragmented : fragmentize entries = .ok fragments) :
    projectDocument entries =
      if fragments = [] then ⟨.failedSafe, some "EMPTY_EXTRACTED_TEXT", [], "smart-ao-deterministic", "1"⟩
      else ⟨.completed, none, fragments, "smart-ao-deterministic", "1"⟩ := by
  rw [projectDocument, fragmented]

/-- A command is built from the fragments only when the command model leaves them as they are. -/
theorem admissible_of_recordingCommand (fragmented : fragmentize entries = .ok fragments)
    (recorded : recordingCommand document (projectDocument entries) = .ok command) : Admissible fragments := by
  rw [projectDocument_ok fragmented] at recorded
  by_cases empty : fragments = []
  · subst empty
    exact ⟨by simp, by simp [charCount], by simp⟩
  · rw [if_neg empty, recordingCommand_ok] at recorded
    obtain ⟨inputs, traversed, built⟩ := recorded
    obtain ⟨⟨_, _, _, chars, _, count, terminal⟩, _⟩ := command_build_ok.mp built
    have texts := collect_map (fun _ _ => buildFragment_text) traversed
    have lengths := congrArg List.length texts
    rw [List.length_map, List.length_map] at lengths
    simp only [RecordDceDocumentExtractionCommand.validateTerminalProjection, bind_ok, raiseIf_ok, exists_unit,
      not_not] at terminal
    have trimmed : charCount (fun fragment => trimBy isWhiteSpace fragment.text) fragments =
        charCount (·.text) fragments := by
      rw [← terminal.2, charCount, charCount]
      have mapped := congrArg (fun texts => (texts.map List.length).sum) texts
      simp only [List.map_map] at mapped
      exact mapped.symm
    exact ⟨charCount_trim_iff.mp trimmed, chars, lengths ▸ count⟩

/-- The command of a projection whose fragments lose nothing. -/
def projectedCommand (document : DceDocumentRecord) (projection : ExtractionProjection) :
    RecordDceDocumentExtractionCommand where
  commandId := uuid5 document.id (extractionName document projection)
  idempotencyKey := uuid5 document.id (extractionName document projection)
  correlationId := some document.dceVersionId
  extractionId := uuid5 document.id (extractionName document projection)
  dceDocumentId := document.id
  inputSha256 := lower document.sha256
  extractorId := projection.extractorId
  extractorVersion := projection.extractorVersion
  status := projection.status
  extractedCharCount := charCount (·.text) projection.fragments
  failureCode := projection.failureCode
  fragments := projection.fragments.map fragmentInput

theorem charCount_inputs : charCount (·.text) (fragments.map fragmentInput) = charCount (·.text) fragments := by
  rw [charCount, List.map_map]
  rfl

theorem recordingCommand_of_admissible (fragmented : fragmentize entries = .ok fragments)
    (admissible : Admissible fragments) : recordingCommand document (projectDocument entries) =
      .ok (projectedCommand document (projectDocument entries)) := by
  have hex := isSha256_lower document.hex
  have positive := (fragmentize_numbered fragmented).positive
  have widths := fragmentize_widths fragmented
  have identifier : ¬ ("smart-ao-deterministic" = "" ∨ 100 < "smart-ao-deterministic".length) := by decide
  have version : ¬ ("1" = "" ∨ 64 < "1".length) := by decide
  rw [projectDocument_ok fragmented, recordingCommand_ok]
  by_cases empty : fragments = []
  · subst empty
    have code : (some "EMPTY_EXTRACTED_TEXT").any (fun code => 120 < code.length) = false := by decide
    exact ⟨[], rfl, command_build_ok.mpr
      ⟨⟨hex, identifier, version, Nat.zero_le _, code, Nat.zero_le _, rfl⟩, rfl⟩⟩
  · rw [if_neg empty]
    have traversed : collect buildFragment fragments = .ok (fragments.map fragmentInput) :=
      collect_of_ok fun fragment member =>
        buildFragment_ok (positive fragment member) (widths fragment member) (admissible.bare fragment member)
    have count : (fragments.map fragmentInput).length ≤ 500000 := by
      rw [List.length_map]
      exact admissible.count
    refine ⟨_, traversed, command_build_ok.mpr
      ⟨⟨hex, identifier, version, admissible.chars, rfl, count, ?_⟩, rfl⟩⟩
    simp only [RecordDceDocumentExtractionCommand.validateTerminalProjection, bind_ok, raiseIf_ok, exists_unit,
      not_not, charCount_inputs, and_true]
    simpa using empty

theorem projectedCommand_fragments (fragmented : fragmentize entries = .ok fragments) :
    (projectedCommand document (projectDocument entries)).fragments = fragments.map fragmentInput := by
  rw [projectedCommand, projectDocument_ok fragmented]
  by_cases empty : fragments = []
  · rw [if_pos empty, empty]
  · rw [if_neg empty]

theorem projectedCommand_total (fragmented : fragmentize entries = .ok fragments) :
    (projectedCommand document (projectDocument entries)).extractedCharCount = charCount (·.text) fragments := by
  rw [projectedCommand, projectDocument_ok fragmented]
  by_cases empty : fragments = []
  · rw [if_pos empty, empty]
  · rw [if_neg empty]

theorem checkFragments_projectedCommand (fragmented : fragmentize entries = .ok fragments) :
    checkFragments (projectedCommand document (projectDocument entries)) = .ok () := by
  have numbered := fragmentize_numbered fragmented
  have checked : validateExtractionFragments (projectedCommand document (projectDocument entries)) = .ok () := by
    rw [validateExtractionFragments, projectedCommand_fragments fragmented, List.map_map, List.length_map]
    have ordinals : fragments.map ((·.ordinal) ∘ fragmentInput) = List.range' 1 fragments.length := numbered
    rw [ordinals, raiseIf_pass (by simp)]
    refine raiseIf_ok.mpr ?_
    rintro ⟨input, member, different⟩
    obtain ⟨fragment, _, rfl⟩ := List.mem_map.mp member
    exact different (lower_hexdigest fragment.text)
  unfold checkFragments
  split
  · exact checked
  · rfl

theorem fragmentRecords_faithful (fragmented : fragmentize entries = .ok fragments) (tenantId : Uuid)
    (draw : Nat → Uuid) : Faithful fragments (projectedCommand document (projectDocument entries))
      (fragmentRecords tenantId draw (projectedCommand document (projectDocument entries))) := by
  have numbered := fragmentize_numbered fragmented
  have widths := fragmentize_widths fragmented
  have mapped {α : Type} (column : DceDocumentExtractionFragmentRecord → α) (value : ExtractedFragment → α)
      (same : ∀ index fragment, column ⟨draw index, tenantId,
        (projectedCommand document (projectDocument entries)).extractionId, (fragmentInput fragment).ordinal,
        (fragmentInput fragment).locator, String.ofList (fragmentInput fragment).text,
        lower (fragmentInput fragment).textSha256⟩ = value fragment) :
      (fragmentRecords tenantId draw (projectedCommand document (projectDocument entries))).map column =
        fragments.map value := by
    rw [fragmentRecords, projectedCommand_fragments fragmented]
    refine List.ext_getElem (by simp) fun index _ _ => ?_
    simp [same]
  have rows {column : DceDocumentExtractionFragmentRecord → Prop} {value : ExtractedFragment → Prop}
      (whole : (fragmentRecords tenantId draw (projectedCommand document (projectDocument entries))).map column =
        fragments.map value) (each : ∀ fragment ∈ fragments, value fragment) :
      ∀ row ∈ fragmentRecords tenantId draw (projectedCommand document (projectDocument entries)), column row := by
    intro row member
    have inside : column row ∈ fragments.map value := whole ▸ List.mem_map_of_mem member
    obtain ⟨fragment, stored, same⟩ := List.mem_map.mp inside
    exact same ▸ each fragment stored
  have length : (fragmentRecords tenantId draw (projectedCommand document (projectDocument entries))).length =
      fragments.length := by
    rw [fragmentRecords, List.length_mapIdx, projectedCommand_fragments fragmented, List.length_map]
  refine ⟨?_, ?_, ?_, ?_, ?_⟩
  · rw [mapped (·.ordinal) (·.ordinal) fun _ _ => rfl, length]
    exact numbered
  · exact mapped (·.text.toList) (·.text) fun _ _ => String.toList_ofList
  · refine rows (mapped (·.text ≠ "") (·.text ≠ []) fun _ fragment => ?_) fun fragment member => (widths fragment member).1
    simp [fragmentInput, String.ofList_eq_empty_iff]
  · refine rows (mapped (fun row => row.textSha256 = hexdigest row.text.toList) (fun _ => True) fun _ fragment => ?_)
      fun _ _ => trivial
    simp [fragmentInput, lower_hexdigest]
  · rw [projectedCommand_total fragmented, mapped (·.text.length) (·.text.length)]
    · rfl
    · intro _ fragment
      simp [fragmentInput]

/-- The handler stores the rows of a command whose fragments it has checked. -/
theorem recordDceDocumentExtraction_stores {store next : ExtractionStore} {draw : Nat → Uuid}
    {context : CommandContext} {outcome : HandlerOutcome}
    (accepted : recordDceDocumentExtraction store draw command context = .ok (next, outcome)) :
    checkFragments command = .ok () ∧ next.sources.fragments.rows =
      store.sources.fragments.rows ++ fragmentRecords context.tenantId draw command := by
  simp only [recordDceDocumentExtraction, bind_ok, raiseIf_ok, exists_unit, orRaise_ok, flush, pure_ok,
    Prod.mk.injEq] at accepted
  obtain ⟨_, _, _, _, _, _, _, _, checked, _, _, fragments, inserted, rfl, _⟩ := accepted
  exact ⟨checked, Table.insertAll?_rows inserted⟩

/-- An extraction that `fragmentize` accepts is recorded, its fragments as they are, exactly when no
    cut falls on whitespace and the totals stay within the limits of the command. -/
theorem extraction_agreement (document : DceDocumentRecord) (fragmented : fragmentize entries = .ok fragments) :
    (∃ command, recordingCommand document (projectDocument entries) = .ok command ∧
      checkFragments command = .ok () ∧
      ∀ tenantId draw, Faithful fragments command (fragmentRecords tenantId draw command)) ↔
      Recordable entries := by
  rw [← admissible_iff fragmented]
  constructor
  · rintro ⟨command, recorded, _⟩
    exact admissible_of_recordingCommand fragmented recorded
  · intro admissible
    exact ⟨_, recordingCommand_of_admissible fragmented admissible, checkFragments_projectedCommand fragmented,
      fragmentRecords_faithful fragmented⟩

def tenderDocument : DceDocumentRecord where
  id := 3
  tenantId := 1
  dceVersionId := 2
  storageObjectId := 4
  storageKey := "dce/4"
  mediaType := "text/plain"
  byteSize := 3
  sha256 := "ba7816bf8f01cfea414140de5dae2223b00361a396177a9cb410ff61f20015ad"
  hex := by decide

def tenderLine : ExtractedEntry := ⟨.textLine 1, " Offre".toList⟩

theorem extraction_agreement_line : (∃ command,
    recordingCommand tenderDocument (projectDocument [tenderLine]) = .ok command ∧ checkFragments command = .ok () ∧
      ∀ tenantId draw, Faithful [⟨1, ⟨.textLine 1, 1⟩, "Offre".toList⟩] command
        (fragmentRecords tenantId draw command)) ↔ Recordable [tenderLine] :=
  extraction_agreement tenderDocument (by decide)

theorem fragmentizeFrom_accepts (bounded : total ≤ maxTotalDocumentChars) :
    (∃ fragments, fragmentizeFrom total before entries = .ok fragments) ↔
      (∀ entry ∈ entries, entry.rawText.length ≤ maxTotalChars) ∧
        total + (entries.map fun entry => entry.rawText.length).sum ≤ maxTotalDocumentChars := by
  induction entries generalizing total before with
  | nil => simpa [fragmentizeFrom] using bounded
  | cons entry entries ih =>
    simp only [fragmentizeFrom, bind_ok, raiseIf_ok, exists_unit, Nat.not_lt, List.forall_mem_cons, List.map_cons,
      List.sum_cons, exists_and_left]
    constructor
    · rintro ⟨short, within, accepted⟩
      obtain ⟨rest, sum⟩ := (ih within).mp accepted
      exact ⟨⟨short, rest⟩, by omega⟩
    · rintro ⟨⟨short, rest⟩, sum⟩
      have within : total + entry.rawText.length ≤ maxTotalDocumentChars := by omega
      exact ⟨short, within, (ih within).mpr ⟨rest, by omega⟩⟩

/-- A line of 8001 characters with a space before its cut. -/
def spacedLine : ExtractedEntry := ⟨.textLine 1, List.replicate 7999 'a' ++ [' ', 'a']⟩

theorem spacedLine_length : spacedLine.rawText.length = 8001 := by
  rw [spacedLine, List.length_append, List.length_replicate]
  rfl

theorem spacedLine_normalized : spacedLine.normalized = List.replicate 7999 'a' ++ [' ', 'a'] := by
  have clear : isSpace 'a' = false := by decide
  apply stripChars_of_ends
  · intro c first
    rw [spacedLine, List.head?_append, List.head?_replicate, if_neg (by omega)] at first
    cases first
    exact clear
  · intro c last
    rw [spacedLine, List.getLast?_append] at last
    cases last
    exact clear

theorem spacedLine_cut : ¬ BareCuts spacedLine.normalized := by
  intro cuts
  rw [spacedLine_normalized] at cuts
  have inside : maxFragmentChars * (0 + 1) < (List.replicate 7999 'a' ++ [' ', 'a']).length := by
    rw [List.length_append, List.length_replicate]
    decide
  have space : (List.replicate 7999 'a' ++ [' ', 'a'])[maxFragmentChars * (0 + 1) - 1]? = some ' ' := by
    rw [List.getElem?_append_right (by rw [List.length_replicate]; decide), List.length_replicate]
    rfl
  have clear := (cuts 0 inside).1 ' ' space
  exact absurd clear (by decide)

/-- Two paragraphs within the limits of `fragmentize`, together beyond the limit of the command. -/
def longParagraphs : List ExtractedEntry :=
  [⟨.docxParagraph 1, List.replicate 6000000 'a'⟩, ⟨.docxParagraph 2, List.replicate 6000000 'a'⟩]

theorem longParagraphs_chars : (longParagraphs.map fun entry => entry.normalized.length).sum = 12000000 := by
  have same : stripChars (List.replicate 6000000 'a') = List.replicate 6000000 'a' := by
    have clear : isSpace 'a' = false := by decide
    apply stripChars_of_ends
    · intro c first
      rw [List.head?_replicate, if_neg (by omega)] at first
      cases first
      exact clear
    · intro c last
      rw [List.getLast?_replicate, if_neg (by omega)] at last
      cases last
      exact clear
  simp only [longParagraphs, ExtractedEntry.normalized, List.map_cons, same, List.length_replicate, List.map_nil,
    List.sum_cons, List.sum_nil, Nat.reduceAdd]

/-- Both are accepted, and neither has a command. -/
theorem cuts_and_totals_refused :
    ((∃ fragments, fragmentize [spacedLine] = .ok fragments) ∧
      ¬ ∃ command, recordingCommand tenderDocument (projectDocument [spacedLine]) = .ok command) ∧
    (∃ fragments, fragmentize longParagraphs = .ok fragments) ∧
      ¬ ∃ command, recordingCommand tenderDocument (projectDocument longParagraphs) = .ok command := by
  have spaced : ∃ fragments, fragmentize [spacedLine] = .ok fragments := by
    refine (fragmentizeFrom_accepts (Nat.zero_le _)).mpr ?_
    simp only [List.forall_mem_singleton, List.map_cons, List.map_nil, List.sum_cons, List.sum_nil, spacedLine_length]
    decide
  have long : ∃ fragments, fragmentize longParagraphs = .ok fragments := by
    refine (fragmentizeFrom_accepts (Nat.zero_le _)).mpr ?_
    have short : 6000000 ≤ maxTotalChars := by decide
    simp only [longParagraphs, List.forall_mem_cons, List.map_cons, List.map_nil, List.sum_cons, List.sum_nil,
      List.length_replicate]
    exact ⟨⟨short, short, fun _ member => absurd member List.not_mem_nil⟩, by decide⟩
  refine ⟨⟨spaced, ?_⟩, long, ?_⟩
  · rintro ⟨command, recorded⟩
    obtain ⟨fragments, fragmented⟩ := spaced
    have recordable := (admissible_iff fragmented).mp (admissible_of_recordingCommand fragmented recorded)
    exact spacedLine_cut (recordable.cuts spacedLine List.mem_cons_self)
  · rintro ⟨command, recorded⟩
    obtain ⟨fragments, fragmented⟩ := long
    have recordable := (admissible_iff fragmented).mp (admissible_of_recordingCommand fragmented recorded)
    have chars := recordable.chars
    rw [longParagraphs_chars] at chars
    omega

end Agreement

section Coverage

open SmartAo.Foundation

/-- The fragments of an entry: its locator, part by part, and its stripped text once they are put together. -/
structure CoversEntry (entry : ExtractedEntry) (parts : List ExtractedFragment) : Prop where
  locators : parts.map (·.locator) = (List.range' 1 parts.length).map fun part => ⟨entry.locator, part⟩
  text : (parts.map (·.text)).flatten = stripChars entry.rawText

structure Lossless (entries : List ExtractedEntry) (fragments : List ExtractedFragment) : Prop where
  ordinals : fragments.map (·.ordinal) = List.range' 1 fragments.length
  widths : ∀ fragment ∈ fragments, fragment.text ≠ [] ∧ fragment.text.length ≤ 8000
  entries : ∃ groups, fragments = groups.flatten ∧ List.Forall₂ CoversEntry entries groups

variable {entry : ExtractedEntry} {entries : List ExtractedEntry} {fragments before : List ExtractedFragment}
  {total : Nat}

/-- The parts of an entry come after the fragments before it, numbered in both ways. -/
theorem appendParts_group (locator : Locator) (part : Nat) (texts : List (List Char)) (before : List ExtractedFragment) :
    ∃ parts, appendParts locator part texts before = before ++ parts ∧ parts.map (·.text) = texts ∧
      parts.map (·.locator) = (List.range' part texts.length).map fun part => ⟨locator, part⟩ := by
  induction texts generalizing part before with
  | nil => exact ⟨[], by simp [appendParts]⟩
  | cons text texts ih =>
    obtain ⟨parts, appended, partTexts, locators⟩ := ih (part + 1) (before ++ [⟨before.length + 1, ⟨locator, part⟩, text⟩])
    refine ⟨⟨before.length + 1, ⟨locator, part⟩, text⟩ :: parts, ?_, ?_, ?_⟩
    · rw [appendParts, appended, List.append_assoc, List.singleton_append]
    · rw [List.map_cons, partTexts]
    · rw [List.map_cons, locators, List.length_cons, List.range'_succ, List.map_cons]

theorem entry_covered (entry : ExtractedEntry) (before : List ExtractedFragment) :
    ∃ parts, appendParts entry.locator 1 (splitText (stripChars entry.rawText)) before = before ++ parts ∧
      CoversEntry entry parts := by
  obtain ⟨parts, appended, texts, locators⟩ := appendParts_group entry.locator 1 (splitText (stripChars entry.rawText)) before
  have length := congrArg List.length texts
  rw [List.length_map] at length
  rw [← length] at locators
  exact ⟨parts, appended, locators, by rw [texts, splitText_flatten]⟩

theorem fragmentizeFrom_groups (fragmented : fragmentizeFrom total before entries = .ok fragments) :
    ∃ groups, fragments = before ++ groups.flatten ∧ List.Forall₂ CoversEntry entries groups := by
  induction entries generalizing total before with
  | nil =>
    rw [fragmentizeFrom, pure_ok] at fragmented
    exact ⟨[], by simp [fragmented], List.Forall₂.nil⟩
  | cons entry entries ih =>
    simp only [fragmentizeFrom, bind_ok, raiseIf_ok, exists_unit] at fragmented
    obtain ⟨parts, appended, covers⟩ := entry_covered entry before
    obtain ⟨groups, rest, covered⟩ := ih fragmented.2.2
    refine ⟨parts :: groups, ?_, List.Forall₂.cons covers covered⟩
    rw [rest, appended, List.flatten_cons, List.append_assoc]

/-- Fragmentation loses nothing: every entry it accepts is found again in its fragments, in order. -/
theorem fragmentize_lossless (fragmented : fragmentize entries = .ok fragments) : Lossless entries fragments := by
  have numbered := fragmentize_numbered fragmented
  have widths := fragmentize_widths fragmented
  obtain ⟨groups, flattened, covered⟩ := fragmentizeFrom_groups fragmented
  exact ⟨numbered, widths, groups, flattened, covered⟩

theorem fragmentize_lossless_lines : Lossless [⟨.textLine 1, " RC ".toList⟩, ⟨.textLine 2, "\t".toList⟩]
    [⟨1, ⟨.textLine 1, 1⟩, "RC".toList⟩] := fragmentize_lossless (by rfl)

end Coverage

end SmartAo.Dce
