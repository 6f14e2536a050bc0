import Mathlib.Algebra.BigOperators.Group.List.Basic
import Mathlib.Data.List.Fold
import Mathlib.Data.List.MinMax
import Mathlib.Data.List.Nodup
import SmartAo.Dce.Classification

namespace SmartAo.Dce

open SmartAo.Foundation SmartAo.Platform

/-- The family and the rule of a proof, read again from its excerpt. -/
def isValidDocumentClassificationEvidence (unicode : Unicode) (classification ruleId : String) (excerpt : List Char) :
    Bool :=
  (classificationRules.find? fun rule => rule.classification.value = classification ∧ rule.ruleId = ruleId).any
    fun rule => (rule.pattern.search unicode.alphabet excerpt).isSome

def matchCount (unicode : Unicode) (fragment : ClassificationFragment) (rule : ClassificationRule) : Nat :=
  (rule.pattern.finditer unicode.alphabet fragment.text).length

/-- The matches of the rules of a family in a fragment. -/
def fragmentScore (unicode : Unicode) (family : DocumentFamily) (fragment : ClassificationFragment) : Nat :=
  ((classificationRules.filter fun rule => rule.classification = family).map (matchCount unicode fragment)).sum

def familyScore (unicode : Unicode) (fragments : List ClassificationFragment) (family : DocumentFamily) : Nat :=
  (fragments.map (fragmentScore unicode family)).sum

/-- A family with a positive score, which every other family stays below. -/
def Wins (scores : DocumentFamily → Nat) (family : DocumentFamily) : Prop :=
  0 < scores family ∧ ∀ rival, rival ≠ family → scores rival < scores family

/-- What the result of a document says, besides its evidence. -/
def ClassificationResult.outcome (result : ClassificationResult) : ClassificationStatus × Option DocumentFamily × Nat :=
  (result.status, result.classification, result.ruleMatchCount)

structure Proves (unicode : Unicode) (family : DocumentFamily) (evidence : List ClassificationEvidence) : Prop where
  nonempty : 1 ≤ evidence.length
  capped : evidence.length ≤ maxEvidencePerDocument
  distinct : evidence.Nodup
  valid : ∀ item ∈ evidence, isValidDocumentClassificationEvidence unicode family.value item.ruleId item.excerpt = true

structure ClassifiedByScore (unicode : Unicode) (document : ClassificationDocument) : Prop where
  classified : ∀ family count, (classifyDocument unicode document).outcome = (.classified, some family, count) ↔
    Wins (familyScore unicode document.fragments) family ∧ count = familyScore unicode document.fragments family
  unclassified : (classifyDocument unicode document).status = .unclassified ↔
    ∀ family, familyScore unicode document.fragments family = 0
  reviewRequired : (classifyDocument unicode document).status = .reviewRequired ↔
    (¬ ∃ family, Wins (familyScore unicode document.fragments) family) ∧
      ¬ ∀ family, familyScore unicode document.fragments family = 0
  permuted : ∀ other : ClassificationDocument, other.fragments.Perm document.fragments →
    (classifyDocument unicode other).outcome = (classifyDocument unicode document).outcome
  evidence : (classifyDocument unicode document).status = .classified →
    ∃ family, (classifyDocument unicode document).classification = some family ∧
      Proves unicode family (classifyDocument unicode document).evidence

variable {unicode : Unicode} {rule : ClassificationRule} {fragment : ClassificationFragment} {tally : Tally}
  {family : DocumentFamily} {found : Span} {document : ClassificationDocument}

section Scores

/-- A fold over steps that each add to a score adds their amounts. -/
theorem foldl_scores {α : Type} {step : Tally → α → Tally} {amount : α → Nat}
    (each : ∀ tally item, (step tally item).scores family = tally.scores family + amount item) (items : List α)
    (tally : Tally) : (items.foldl step tally).scores family = tally.scores family + (items.map amount).sum := by
  induction items generalizing tally with
  | nil => rfl
  | cons item items ih => rw [List.foldl_cons, ih, each, List.map_cons, List.sum_cons, Nat.add_assoc]

theorem addEvidence_scores : (tally.addEvidence rule fragment found).scores = tally.scores := by
  rw [Tally.addEvidence]
  split
  · rfl
  · dsimp only
    split <;> rfl

theorem foldl_addEvidence_scores (spans : List Span) (tally : Tally) :
    (spans.foldl (Tally.addEvidence rule fragment) tally).scores = tally.scores := by
  induction spans generalizing tally with
  | nil => rfl
  | cons span spans ih => rw [List.foldl_cons, ih, addEvidence_scores]

theorem addMatches_scores (tally : Tally) (rule : ClassificationRule) :
    (tally.addMatches unicode rule fragment).scores family =
      tally.scores family + if rule.classification = family then matchCount unicode fragment rule else 0 := by
  rw [Tally.addMatches, matchCount]
  split
  · rename_i none
    rw [none]
    simp
  · rename_i found others some
    rw [foldl_addEvidence_scores, some]
    dsimp only
    by_cases own : rule.classification = family
    · rw [if_pos own.symm, if_pos own]
    · rw [if_neg (Ne.symm own), if_neg own, Nat.add_zero]

theorem sum_map_ite {α : Type} (chosen : α → Prop) [DecidablePred chosen] (amount : α → Nat) (items : List α) :
    (items.map fun item => if chosen item then amount item else 0).sum =
      ((items.filter fun item => chosen item).map amount).sum := by
  induction items with
  | nil => rfl
  | cons item items ih =>
    by_cases its : chosen item
    · simp [its, ih]
    · simp [its, ih]

theorem addFragment_scores (tally : Tally) (fragment : ClassificationFragment) :
    (tally.addFragment unicode fragment).scores family = tally.scores family + fragmentScore unicode family fragment := by
  have each := foldl_scores (fun tally rule => @addMatches_scores unicode fragment family tally rule) classificationRules tally
  rw [Tally.addFragment, each, sum_map_ite]
  rfl

theorem tallyDocument_scores (document : ClassificationDocument) :
    (tallyDocument unicode document).scores = familyScore unicode document.fragments := by
  funext family
  have total := foldl_scores (fun tally fragment => @addFragment_scores unicode family tally fragment) document.fragments
    Tally.empty
  rw [tallyDocument, total]
  exact Nat.zero_add _

theorem familyScore_perm {first second : List ClassificationFragment} (permuted : first.Perm second) :
    familyScore unicode first = familyScore unicode second := by
  funext family
  exact (permuted.map (fragmentScore unicode family)).sum_nat

/-- Only a family with a rule has a score. -/
theorem family_of_score {fragments : List ClassificationFragment} (positive : familyScore unicode fragments family ≠ 0) :
    family ∈ classificationRules.map (·.classification) := by
  by_contra absent
  have none : (classificationRules.filter fun rule => rule.classification = family) = [] := by
    rw [List.filter_eq_nil_iff]
    intro rule member own
    exact absent (List.mem_map.mpr ⟨rule, member, of_decide_eq_true own⟩)
  have zero : fragmentScore unicode family = fun _ => 0 := by
    funext fragment
    rw [fragmentScore, none]
    rfl
  refine positive ?_
  rw [familyScore, zero]
  simp

end Scores

section Winners

/-- Only families of the rules have a score. -/
def Tally.OfRules (tally : Tally) : Prop :=
  ∀ family, tally.scores family ≠ 0 → family ∈ classificationRules.map (·.classification)

theorem ruleFamilies_nodup : (classificationRules.map (·.classification)).Nodup := by decide +kernel

theorem mem_scored (ofRules : tally.OfRules) : family ∈ tally.scored ↔ 0 < tally.scores family := by
  rw [Tally.scored, List.mem_filter, decide_eq_true_eq]
  refine and_iff_right_of_imp fun positive => ofRules family (by omega)

theorem scored_eq_nil (ofRules : tally.OfRules) : tally.scored = [] ↔ ∀ family, tally.scores family = 0 := by
  rw [List.eq_nil_iff_forall_not_mem]
  refine forall_congr' fun family => ?_
  rw [mem_scored ofRules]
  omega

theorem highestScore_eq_foldr : tally.highestScore = (tally.scored.map tally.scores).foldr max ⊥ := List.foldl_eq_foldr

theorem score_le_highest (ofRules : tally.OfRules) (family : DocumentFamily) :
    tally.scores family ≤ tally.highestScore := by
  rcases Nat.eq_zero_or_pos (tally.scores family) with zero | positive
  · omega
  · rw [highestScore_eq_foldr]
    exact List.le_max_of_le (List.mem_map_of_mem ((mem_scored ofRules).mpr positive)) (Nat.le_refl _)

theorem highest_of_wins (ofRules : tally.OfRules) (wins : Wins tally.scores family) :
    tally.highestScore = tally.scores family := by
  refine Nat.le_antisymm ?_ (score_le_highest ofRules family)
  rw [highestScore_eq_foldr]
  refine List.max_le_of_forall_le _ _ fun score member => ?_
  obtain ⟨rival, _, rfl⟩ := List.mem_map.mp member
  by_cases same : rival = family
  · rw [same]
  · exact Nat.le_of_lt (wins.2 rival same)

theorem mem_winners (ofRules : tally.OfRules) : family ∈ tally.winners ↔
    0 < tally.scores family ∧ tally.scores family = tally.highestScore := by
  rw [Tally.winners, List.mem_filter, mem_scored ofRules, decide_eq_true_eq]

theorem winners_nodup : tally.winners.Nodup := (ruleFamilies_nodup.filter _).filter _

/-- A single winner is a family no other one reaches. -/
theorem winners_eq_singleton (ofRules : tally.OfRules) : tally.winners = [family] ↔ Wins tally.scores family := by
  constructor
  · intro only
    have own : family ∈ tally.winners := by simp [only]
    obtain ⟨positive, highest⟩ := (mem_winners ofRules).mp own
    refine ⟨positive, fun rival different => ?_⟩
    have below := score_le_highest ofRules rival
    by_contra reached
    have winner : rival ∈ tally.winners := (mem_winners ofRules).mpr ⟨by omega, by omega⟩
    rw [only] at winner
    exact different (List.mem_singleton.mp winner)
  · intro wins
    have highest := highest_of_wins ofRules wins
    have own : family ∈ tally.winners := (mem_winners ofRules).mpr ⟨wins.1, highest.symm⟩
    refine List.perm_singleton.mp ((List.perm_ext_iff_of_nodup winners_nodup (List.nodup_singleton _)).mpr fun rival => ?_)
    rw [List.mem_singleton]
    constructor
    · intro winner
      by_contra different
      have below := wins.2 rival different
      have reached := ((mem_winners ofRules).mp winner).2
      omega
    · rintro rfl
      exact own

end Winners

section Evidence

theorem classificationRules_wordBound : ∀ rule ∈ classificationRules, WordBound rule.pattern := by decide +kernel

theorem ruleIds_nodup : (classificationRules.map (·.ruleId)).Nodup := by decide +kernel

theorem rule_of_ruleId {first second : ClassificationRule} (one : first ∈ classificationRules)
    (two : second ∈ classificationRules) (same : first.ruleId = second.ruleId) : first = second :=
  List.inj_on_of_nodup_map ruleIds_nodup one two same

/-- The rule of a proof is found by its family and its identifier. -/
theorem find?_classificationRules (member : rule ∈ classificationRules) :
    (classificationRules.find? fun candidate => candidate.classification.value = rule.classification.value ∧
      candidate.ruleId = rule.ruleId) = some rule := by
  cases found : classificationRules.find? fun candidate => candidate.classification.value = rule.classification.value ∧
      candidate.ruleId = rule.ruleId with
  | none =>
    have never := List.find?_eq_none.mp found rule member
    simp at never
  | some candidate =>
    have its := List.find?_some found
    simp only [decide_eq_true_eq] at its
    rw [rule_of_ruleId (List.mem_of_find?_eq_some found) member its.2]

/-- The excerpt of a match proves the family of its rule. -/
theorem excerpt_valid {text : List Char} (member : rule ∈ classificationRules)
    (matched : found ∈ rule.pattern.finditer unicode.alphabet text) :
    isValidDocumentClassificationEvidence unicode rule.classification.value rule.ruleId
      (boundedExcerpt text found).excerpt = true := by
  rw [isValidDocumentClassificationEvidence, find?_classificationRules member]
  exact (classificationRules_wordBound rule member).again (Regex.found_of_mem_finditer matched)

def ClassificationEvidence.key (item : ClassificationEvidence) : EvidenceKey :=
  (item.ruleId, item.fragmentId, item.startByteOffset, item.endByteOffset)

/-- What the loops keep of the evidence: few enough proofs of every family, all with keys of their own that are
    noted, and no key noted for a rule whose family has no proof. -/
structure Gathered (unicode : Unicode) (tally : Tally) : Prop where
  capped : ∀ family, (tally.evidence family).length ≤ maxEvidencePerDocument
  noted : ∀ family, ∀ item ∈ tally.evidence family, item.key ∈ tally.evidenceKeys
  distinct : ∀ family, ((tally.evidence family).map (·.key)).Nodup
  valid : ∀ family, ∀ item ∈ tally.evidence family,
    isValidDocumentClassificationEvidence unicode family.value item.ruleId item.excerpt = true
  owned : ∀ rule ∈ classificationRules, ∀ key ∈ tally.evidenceKeys, key.1 = rule.ruleId →
    tally.evidence rule.classification ≠ []

theorem empty_gathered : Gathered unicode .empty where
  capped _ := Nat.zero_le _
  noted _ _ member := absurd member List.not_mem_nil
  distinct _ := List.nodup_nil
  valid _ _ member := absurd member List.not_mem_nil
  owned _ _ _ member := absurd member List.not_mem_nil

/-- The proof a match gives. -/
def proofOf (rule : ClassificationRule) (fragment : ClassificationFragment) (found : Span) : ClassificationEvidence :=
  ⟨fragment.fragmentId, rule.ruleId, (boundedExcerpt fragment.text found).startByteOffset,
    (boundedExcerpt fragment.text found).endByteOffset, (boundedExcerpt fragment.text found).excerpt⟩

/-- A match adds nothing, when its family has enough proofs or its key is noted, or its proof. -/
theorem addEvidence_cases (tally : Tally) (rule : ClassificationRule) (fragment : ClassificationFragment) (found : Span) :
    (tally.addEvidence rule fragment found = tally ∧ (maxEvidencePerDocument ≤ (tally.evidence rule.classification).length ∨
      (proofOf rule fragment found).key ∈ tally.evidenceKeys)) ∨
    ((tally.evidence rule.classification).length < maxEvidencePerDocument ∧
      (proofOf rule fragment found).key ∉ tally.evidenceKeys ∧
      tally.addEvidence rule fragment found = { tally with
        evidence := fun family => if family = rule.classification then
          tally.evidence family ++ [proofOf rule fragment found] else tally.evidence family
        evidenceKeys := tally.evidenceKeys ++ [(proofOf rule fragment found).key] }) := by
  by_cases full : maxEvidencePerDocument ≤ (tally.evidence rule.classification).length
  · exact .inl ⟨by rw [Tally.addEvidence, if_pos full], .inl full⟩
  · by_cases known : (proofOf rule fragment found).key ∈ tally.evidenceKeys
    · refine .inl ⟨?_, .inr known⟩
      rw [Tally.addEvidence, if_neg full]
      exact if_pos known
    · refine .inr ⟨Nat.lt_of_not_le full, known, ?_⟩
      rw [Tally.addEvidence, if_neg full]
      exact if_neg known

theorem addEvidence_gathered (member : rule ∈ classificationRules)
    (matched : found ∈ rule.pattern.finditer unicode.alphabet fragment.text) (gathered : Gathered unicode tally) :
    Gathered unicode (tally.addEvidence rule fragment found) := by
  rcases addEvidence_cases tally rule fragment found with ⟨same, _⟩ | ⟨short, fresh, added⟩
  · rwa [same]
  rw [added]
  refine ⟨fun family => ?_, fun family item inside => ?_, fun family => ?_, fun family item inside => ?_,
    fun other listed key noted own => ?_⟩
  · dsimp only
    split
    · rename_i own
      rw [List.length_append, List.length_singleton, own]
      exact short
    · exact gathered.capped family
  · dsimp only at inside ⊢
    rw [List.mem_append]
    split at inside
    · rcases List.mem_append.mp inside with old | new
      · exact .inl (gathered.noted family item old)
      · rw [List.mem_singleton.mp new]
        exact .inr List.mem_cons_self
    · exact .inl (gathered.noted family item inside)
  · dsimp only
    split
    · have apart : (proofOf rule fragment found).key ∉ (tally.evidence family).map (·.key) := by
        intro inside
        obtain ⟨item, old, same⟩ := List.mem_map.mp inside
        exact fresh (same ▸ gathered.noted family item old)
      rw [List.map_append, List.map_singleton, List.nodup_append]
      refine ⟨gathered.distinct family, List.nodup_singleton _, fun key old one new equal => ?_⟩
      rw [List.mem_singleton.mp new] at equal
      exact apart (equal ▸ old)
    · exact gathered.distinct family
  · dsimp only at inside
    split at inside
    · rename_i own
      rcases List.mem_append.mp inside with old | new
      · exact gathered.valid family item old
      · rw [List.mem_singleton.mp new, own]
        exact excerpt_valid member matched
    · exact gathered.valid family item inside
  · dsimp only at noted ⊢
    split
    · simp
    · rename_i apart
      rcases List.mem_append.mp noted with old | new
      · exact gathered.owned other listed key old own
      · rw [List.mem_singleton.mp new] at own
        exact absurd (congrArg (·.classification) (rule_of_ruleId listed member own.symm)) apart

/-- Once its family has no proof, a match gives one. -/
theorem addEvidence_nonempty (member : rule ∈ classificationRules) (gathered : Gathered unicode tally) :
    (tally.addEvidence rule fragment found).evidence rule.classification ≠ [] := by
  rcases addEvidence_cases tally rule fragment found with ⟨same, full | known⟩ | ⟨_, _, added⟩
  · rw [same]
    intro empty
    rw [empty] at full
    cases full
  · rw [same]
    exact gathered.owned rule member _ known rfl
  · simp [added]

theorem addEvidence_keeps (present : tally.evidence family ≠ []) :
    (tally.addEvidence rule fragment found).evidence family ≠ [] := by
  rcases addEvidence_cases tally rule fragment found with ⟨same, _⟩ | ⟨_, _, added⟩
  · rwa [same]
  · rw [added]
    dsimp only
    split
    · simp
    · exact present

/-- And every family with a score has a proof. -/
structure Tallied (unicode : Unicode) (tally : Tally) : Prop extends Gathered unicode tally where
  proven : ∀ family, 0 < tally.scores family → tally.evidence family ≠ []

theorem foldl_addEvidence_gathered {spans : List Span} (member : rule ∈ classificationRules)
    (matched : ∀ found ∈ spans, found ∈ rule.pattern.finditer unicode.alphabet fragment.text)
    (gathered : Gathered unicode tally) : Gathered unicode (spans.foldl (Tally.addEvidence rule fragment) tally) :=
  List.foldlRecOn spans _ gathered fun _ kept found inside => addEvidence_gathered member (matched found inside) kept

theorem foldl_addEvidence_keeps (spans : List Span) (present : tally.evidence family ≠ []) :
    (spans.foldl (Tally.addEvidence rule fragment) tally).evidence family ≠ [] := by
  induction spans generalizing tally with
  | nil => exact present
  | cons found spans ih => exact ih (addEvidence_keeps present)

theorem addMatches_tallied (member : rule ∈ classificationRules) (tallied : Tallied unicode tally) :
    Tallied unicode (tally.addMatches unicode rule fragment) := by
  rw [Tally.addMatches]
  split
  · exact tallied
  · rename_i found others matched
    have all : ∀ span ∈ found :: others, span ∈ rule.pattern.finditer unicode.alphabet fragment.text := by
      rw [matched]
      exact fun span member => member
    have counted (scores : DocumentFamily → Nat) : Gathered unicode { tally with scores } :=
      ⟨tallied.capped, tallied.noted, tallied.distinct, tallied.valid, tallied.owned⟩
    refine ⟨foldl_addEvidence_gathered member all (counted _), fun family positive => ?_⟩
    by_cases own : family = rule.classification
    · rw [List.foldl_cons, own]
      exact foldl_addEvidence_keeps others (addEvidence_nonempty member (counted _))
    · rw [foldl_addEvidence_scores] at positive
      dsimp only at positive
      rw [if_neg own] at positive
      exact foldl_addEvidence_keeps _ (tallied.proven family positive)

theorem addFragment_tallied (tallied : Tallied unicode tally) : Tallied unicode (tally.addFragment unicode fragment) :=
  List.foldlRecOn classificationRules _ tallied fun _ kept _ member => addMatches_tallied member kept

theorem tallyDocument_tallied (document : ClassificationDocument) : Tallied unicode (tallyDocument unicode document) := by
  have first : Tallied unicode .empty := ⟨empty_gathered, fun _ positive => absurd positive (Nat.lt_irrefl 0)⟩
  exact List.foldlRecOn document.fragments _ first fun _ kept _ _ => addFragment_tallied kept

theorem tallyDocument_proves (positive : 0 < (tallyDocument unicode document).scores family) :
    Proves unicode family ((tallyDocument unicode document).evidence family) := by
  have tallied := @tallyDocument_tallied unicode document
  exact ⟨List.length_pos_iff.mpr (tallied.proven family positive), tallied.capped family,
    List.Nodup.of_map _ (tallied.distinct family), tallied.valid family⟩

end Evidence

section Outcome

theorem tallyDocument_ofRules (document : ClassificationDocument) : (tallyDocument unicode document).OfRules := by
  intro family positive
  rw [tallyDocument_scores] at positive
  exact family_of_score positive

theorem wins_unique {scores : DocumentFamily → Nat} {first second : DocumentFamily} (one : Wins scores first)
    (two : Wins scores second) : first = second := by
  by_contra different
  have below := one.2 second (Ne.symm different)
  have above := two.2 first different
  omega

/-- What the scores of the families decide. -/
inductive Decides (scores : DocumentFamily → Nat) : ClassificationStatus × Option DocumentFamily × Nat → Prop where
  | silent (zero : ∀ family, scores family = 0) : Decides scores (.unclassified, none, 0)
  | won (family : DocumentFamily) (wins : Wins scores family) : Decides scores (.classified, some family, scores family)
  | tied (open_ : ¬ ∃ family, Wins scores family) (matched : ¬ ∀ family, scores family = 0) :
    Decides scores (.reviewRequired, none, 0)

theorem Wins.not_silent {scores : DocumentFamily → Nat} (wins : Wins scores family) : ¬ ∀ family, scores family = 0 :=
  fun zero => absurd (zero family) (Nat.ne_of_gt wins.1)

theorem Decides.unique {scores : DocumentFamily → Nat} {first second : ClassificationStatus × Option DocumentFamily × Nat}
    (one : Decides scores first) (two : Decides scores second) : first = second := by
  cases one with
  | silent zero => cases two with
    | silent => rfl
    | won family wins => exact absurd zero wins.not_silent
    | tied _ matched => exact absurd zero matched
  | won family wins => cases two with
    | silent zero => exact absurd zero wins.not_silent
    | won rival its => rw [wins_unique wins its]
    | tied open_ _ => exact absurd ⟨family, wins⟩ open_
  | tied open_ matched => cases two with
    | silent zero => exact absurd zero matched
    | won family wins => exact absurd ⟨family, wins⟩ open_
    | tied => rfl

theorem Decides.unclassified {scores : DocumentFamily → Nat} {outcome : ClassificationStatus × Option DocumentFamily × Nat}
    (decided : Decides scores outcome) : outcome.1 = .unclassified ↔ ∀ family, scores family = 0 := by
  cases decided with
  | silent zero => exact iff_of_true rfl zero
  | won family wins => exact iff_of_false ClassificationStatus.noConfusion wins.not_silent
  | tied _ matched => exact iff_of_false ClassificationStatus.noConfusion matched

theorem Decides.reviewRequired {scores : DocumentFamily → Nat}
    {outcome : ClassificationStatus × Option DocumentFamily × Nat} (decided : Decides scores outcome) :
    outcome.1 = .reviewRequired ↔ (¬ ∃ family, Wins scores family) ∧ ¬ ∀ family, scores family = 0 := by
  cases decided with
  | silent zero => exact iff_of_false ClassificationStatus.noConfusion fun both => both.2 zero
  | won family wins => exact iff_of_false ClassificationStatus.noConfusion fun both => both.1 ⟨family, wins⟩
  | tied open_ matched => exact iff_of_true rfl ⟨open_, matched⟩

theorem classifyDocument_decides (full : document.fragments ≠ []) :
    Decides (familyScore unicode document.fragments) (classifyDocument unicode document).outcome := by
  have ofRules := @tallyDocument_ofRules unicode document
  rw [← tallyDocument_scores, classifyDocument, if_neg full]
  dsimp only
  split
  · rename_i none
    exact .silent ((scored_eq_nil ofRules).mp none)
  · rename_i some
    split
    · rename_i family only
      have wins := (winners_eq_singleton ofRules).mp only
      rw [highest_of_wins ofRules wins]
      exact .won family wins
    · rename_i several
      refine .tied ?_ fun zero => some ((scored_eq_nil ofRules).mpr zero)
      rintro ⟨family, wins⟩
      exact several family ((winners_eq_singleton ofRules).mpr wins)

theorem classifyDocument_evidence (classified : (classifyDocument unicode document).status = .classified) :
    ∃ family, (classifyDocument unicode document).classification = some family ∧
      Proves unicode family (classifyDocument unicode document).evidence := by
  rw [classifyDocument] at classified ⊢
  split at classified
  · cases classified
  · rename_i full
    rw [if_neg full]
    dsimp only at classified ⊢
    split at classified
    · cases classified
    · rename_i some
      rw [if_neg some]
      split at classified
      · rename_i family only
        have wins := (winners_eq_singleton (tallyDocument_ofRules document)).mp only
        exact ⟨family, rfl, tallyDocument_proves wins.1⟩
      · cases classified

/-- The family of a document is the one its rules match most, without a rival; order does not matter, and the
    proofs of the family reproduce it. -/
theorem classify_by_score (full : document.fragments ≠ []) : ClassifiedByScore unicode document := by
  have decided := @classifyDocument_decides unicode document full
  refine ⟨fun family count => ?_, ?_, ?_, fun shuffled permuted => ?_, classifyDocument_evidence⟩
  · constructor
    · intro outcome
      rw [outcome] at decided
      cases decided with
      | won _ wins => exact ⟨wins, rfl⟩
    · rintro ⟨wins, rfl⟩
      exact decided.unique (.won family wins)
  · exact decided.unclassified
  · exact decided.reviewRequired
  · have others : shuffled.fragments ≠ [] := fun empty => full (List.nil_perm.mp (empty ▸ permuted))
    have redecided := @classifyDocument_decides unicode shuffled others
    rw [familyScore_perm permuted] at redecided
    exact redecided.unique decided

theorem classify_by_score_annex : ClassifiedByScore .latin ⟨20, [⟨41, 51, 1, "Annexe".toList, "hash"⟩]⟩ :=
  classify_by_score (List.cons_ne_nil _ _)

end Outcome

end SmartAo.Dce
