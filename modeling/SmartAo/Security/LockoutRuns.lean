import SmartAo.Security.RateLimit
import Mathlib.Tactic.Linarith

namespace SmartAo.Security

open SmartAo.Foundation

section Effects

variable {κ : Type} [DecidableEq κ] {limiter : LoginRateLimiter} {states : Dict κ FailureState} {now : ℚ}
  {key other : κ} {state : FailureState}

/-- A failure opens a bucket where there is none, or an idle one. -/
def Opens (limiter : LoginRateLimiter) (now : ℚ) (key : κ) (states : Dict κ FailureState) : Prop :=
  current limiter now key states = none

instance : Decidable (Opens limiter now key states) := inferInstanceAs (Decidable (_ = none))

/-- A failure that opens a bucket drops the idle ones, and the oldest of a full table. -/
def Dropped (limiter : LoginRateLimiter) (now : ℚ) (key other : κ) (states : Dict κ FailureState) : Prop :=
  (states.get other).any (idle limiter now) = true ∨
    ((evictExpired limiter now states).get key = none ∧
      limiter.maxBuckets ≤ (evictExpired limiter now states).size ∧
      oldestKey (evictExpired limiter now states) = some other)

instance : Decidable (Dropped limiter now key other states) := inferInstanceAs (Decidable (_ ∨ _))

theorem check_denied : (check limiter now key states).1.allowed = false ↔
    ∃ state, states.get key = some state ∧ now < state.lockedUntil := by
  unfold check
  cases found : states.get key with
  | none => simp
  | some state =>
    by_cases locked : now < state.lockedUntil
    · simp [locked]
    · by_cases old : idle limiter now state = true <;> simp [locked, old]

/-- A check forgets a bucket that is idle and not locked. -/
theorem get_check : (check limiter now key states).2.get other =
    if other = key ∧ ∃ state, states.get key = some state ∧ ¬ now < state.lockedUntil ∧ idle limiter now state = true
    then none else states.get other := by
  unfold check
  cases found : states.get key with
  | none => simp
  | some state =>
    by_cases locked : now < state.lockedUntil
    · simp [locked]
    · by_cases old : idle limiter now state = true
      · have past : state.lockedUntil ≤ now := not_lt.mp locked
        simp [locked, old, past, Dict.get_pop]
      · simp [locked, old]

theorem get_evictExpired : (evictExpired limiter now states).get other =
    (states.get other).filter fun state => !idle limiter now state :=
  Dict.get_keep

theorem get_makeRoom : (makeRoom limiter key states).get other =
    if states.get key = none ∧ limiter.maxBuckets ≤ states.size ∧ oldestKey states = some other then none
    else states.get other := by
  unfold makeRoom
  by_cases full : states.get key = none ∧ limiter.maxBuckets ≤ states.size
  · rw [if_pos full]
    cases oldest : oldestKey states with
    | none => simp
    | some dropped =>
      simp only [Dict.get_pop, full.1, full.2, true_and, Option.some.injEq, eq_comm]
  · rw [if_neg full]
    have open_ : ¬ (states.get key = none ∧ limiter.maxBuckets ≤ states.size ∧ oldestKey states = some other) :=
      fun both => full ⟨both.1, both.2.1⟩
    rw [if_neg open_]

theorem opens_iff : Opens limiter now key states ↔
    ∀ state, states.get key = some state → idle limiter now state = true := by
  unfold Opens current
  cases states.get key with
  | none => simp
  | some state => simp

/-- What a failure leaves of a bucket it is not counted in. -/
theorem get_recordFailure_other (different : other ≠ key) : (recordFailure limiter now key states).get other =
    states.get other ∨ (Opens limiter now key states ∧ Dropped limiter now key other states ∧
      (recordFailure limiter now key states).get other = none) := by
  unfold recordFailure
  cases opens : current limiter now key states with
  | some state =>
    left
    rw [Dict.get_assign, if_neg different]
  | none =>
    dsimp only
    rw [Dict.get_assign, if_neg different, get_makeRoom]
    by_cases oldest : (evictExpired limiter now states).get key = none ∧
        limiter.maxBuckets ≤ (evictExpired limiter now states).size ∧
        oldestKey (evictExpired limiter now states) = some other
    · rw [if_pos oldest]
      exact .inr ⟨opens, .inr oldest, rfl⟩
    · rw [if_neg oldest, get_evictExpired]
      cases found : states.get other with
      | none => exact .inl rfl
      | some state =>
        by_cases old : idle limiter now state = true
        · exact .inr ⟨opens, .inl (by rw [found]; exact old), by simp [old]⟩
        · exact .inl (by simp [old])

theorem get_recordFailure_dropped (opens : Opens limiter now key states)
    (dropped : Dropped limiter now key other states) (different : other ≠ key) :
    (recordFailure limiter now key states).get other = none := by
  unfold recordFailure
  rw [opens]
  dsimp only
  rw [Dict.get_assign, if_neg different, get_makeRoom]
  rcases dropped with old | oldest
  · have evicted : (evictExpired limiter now states).get other = none := by
      rw [get_evictExpired]
      cases found : states.get other with
      | none => rfl
      | some state =>
        rw [found, Option.any_some] at old
        simp [old]
    rw [evicted, ite_self]
  · rw [if_pos oldest]

theorem get_recordFailure_self : (recordFailure limiter now key states).get key =
    some (counted limiter now ((current limiter now key states).getD (.fresh now))) := by
  unfold recordFailure
  cases current limiter now key states with
  | some state => rw [Option.getD_some, Dict.get_assign_self]
  | none => rw [Option.getD_none, Dict.get_assign_self]

end Effects

section Clock

variable {κ : Type} {operation : Operation κ} {operations first : List (Operation κ)}

def times (operations : List (Operation κ)) : List ℚ := operations.filterMap Operation.time

/-- The clock of a run does not go back. -/
def Clocked (operations : List (Operation κ)) : Prop := (times operations).Pairwise (· ≤ ·)

instance : Decidable (Clocked operations) := inferInstanceAs (Decidable (List.Pairwise _ _))

theorem times_tail : times operations ⊆ times (operation :: operations) := by
  intro time member
  exact List.mem_filterMap.mpr ((List.mem_filterMap.mp member).imp fun _ found => ⟨.tail _ found.1, found.2⟩)

theorem Clocked.tail (clocked : Clocked (operation :: operations)) : Clocked operations := by
  unfold Clocked times at clocked ⊢
  rw [List.filterMap_cons] at clocked
  split at clocked
  · exact clocked
  · exact (List.pairwise_cons.mp clocked).2

theorem Clocked.initial (clocked : Clocked operations) (before : first <+: operations) : Clocked first :=
  List.Pairwise.sublist (before.sublist.filterMap _) clocked

end Clock

section Locks

variable {κ : Type} [DecidableEq κ] {limiter : LoginRateLimiter} {states : Dict κ FailureState}
  {operation : Operation κ} {operations first later : List (Operation κ)} {key : κ} {now deadline : ℚ}

/-- A bucket has been locked until a time by its last failure. -/
def Locked (limiter : LoginRateLimiter) (states : Dict κ FailureState) (key : κ) (deadline : ℚ) : Prop :=
  ∃ state, states.get key = some state ∧ limiter.maxFailures ≤ state.failures ∧ state.lockedUntil = deadline

/-- A failure that opens a bucket drops no locked one, but its own for a lock at least as long. -/
def KeepsLocks (limiter : LoginRateLimiter) (states : Dict κ FailureState) : Operation κ → Prop
  | .recordFailure now key => Opens limiter now key states → ∀ entry ∈ states.entries,
      limiter.maxFailures ≤ entry.2.failures → now < entry.2.lockedUntil → Dropped limiter now key entry.1 states →
        entry.1 = key ∧ limiter.maxFailures ≤ 1 ∧ entry.2.lockedUntil ≤ now + lockout limiter 1
  | _ => True

instance : ∀ operation : Operation κ, Decidable (KeepsLocks limiter states operation)
  | .recordFailure _ _ => inferInstanceAs (Decidable (_ → _))
  | .check _ _ | .recordSuccess _ => inferInstanceAs (Decidable True)

/-- Each check of a bucket before its lock ends is denied, unless a success was recorded for it. -/
def LocksPersist (limiter : LoginRateLimiter) (operations : List (Operation κ)) : Prop :=
  ∀ first later key deadline now, first ++ later <+: operations →
    Locked limiter (run (operate limiter) .empty first) key deadline →
    (∀ operation ∈ later, operation.successOf key = false) → (∀ time ∈ times later, time ≤ now) → now < deadline →
    (check limiter now key (run (operate limiter) .empty (first ++ later))).1.allowed = false

/-- A bucket's lock counts from its last failure, which does not lie ahead of what remains of the run. -/
def Sound (limiter : LoginRateLimiter) (remaining : List (Operation κ)) (states : Dict κ FailureState) : Prop :=
  ∀ key state, states.get key = some state → (∀ time ∈ times remaining, state.lastFailureAt ≤ time) ∧
    (limiter.maxFailures ≤ state.failures → state.lockedUntil = state.lastFailureAt + lockout limiter state.failures)

theorem lockout_mono {fewer more : Nat} (ordered : fewer ≤ more) : lockout limiter fewer ≤ lockout limiter more := by
  have exponents : fewer - limiter.maxFailures ≤ more - limiter.maxFailures := by omega
  have powers : (2 : ℚ) ^ (fewer - limiter.maxFailures) ≤ 2 ^ (more - limiter.maxFailures) :=
    pow_le_pow_right₀ (by norm_num) exponents
  have base : (0 : ℚ) ≤ limiter.baseLockoutSeconds := Nat.cast_nonneg _
  exact min_le_min_left _ (mul_le_mul_of_nonneg_left powers base)

theorem lockout_le {failures : Nat} : lockout limiter failures ≤ limiter.maxLockoutSeconds := min_le_left _ _

theorem sound_empty (remaining : List (Operation κ)) : Sound limiter remaining .empty := by
  intro key state found
  rw [Dict.get_empty] at found
  cases found

theorem Sound.step (clocked : Clocked (operation :: operations)) (sound : Sound limiter (operation :: operations) states) :
    Sound limiter operations (commit (operate limiter) states operation) := by
  have carried : ∀ key state, states.get key = some state →
      (∀ time ∈ times operations, state.lastFailureAt ≤ time) ∧ (limiter.maxFailures ≤ state.failures →
        state.lockedUntil = state.lastFailureAt + lockout limiter state.failures) := by
    intro key state found
    obtain ⟨past, counts⟩ := sound key state found
    exact ⟨fun time member => past time (times_tail member), counts⟩
  intro other state found
  cases operation with
  | check now key =>
    have stored : (check limiter now key states).2.get other = some state := found
    rw [get_check] at stored
    split at stored
    · cases stored
    · exact carried other state stored
  | recordFailure now key =>
    have stored : (recordFailure limiter now key states).get other = some state := found
    by_cases same : other = key
    · subst same
      rw [get_recordFailure_self, Option.some.injEq] at stored
      have ahead : ∀ time ∈ times operations, now ≤ time := (List.pairwise_cons.mp clocked).1
      rw [← stored]
      refine ⟨ahead, fun reached => ?_⟩
      exact if_pos reached
    · have others := @get_recordFailure_other _ _ limiter states now _ _ same
      rcases others with unchanged | ⟨_, _, gone⟩
      · rw [unchanged] at stored
        exact carried other state stored
      · rw [gone] at stored
        cases stored
  | recordSuccess key =>
    have stored : (states.pop key).get other = some state := found
    rw [Dict.get_pop] at stored
    split at stored
    · cases stored
    · exact carried other state stored

theorem Sound.run (clocked : Clocked (first ++ later)) (sound : Sound limiter (first ++ later) states) :
    Sound limiter later (run (operate limiter) states first) := by
  induction first generalizing states with
  | nil => exact sound
  | cons operation first ih => exact ih clocked.tail (sound.step clocked)

/-- A lock lasts through each operation but a success of its own bucket. -/
theorem Locked.step (sound : Sound limiter (operation :: operations) states)
    (keeps : KeepsLocks limiter states operation) (locked : Locked limiter states key deadline)
    (kept : operation.successOf key = false) (before : ∀ time ∈ operation.time, time < deadline) :
    ∃ longer, deadline ≤ longer ∧ Locked limiter (commit (operate limiter) states operation) key longer := by
  obtain ⟨state, found, reached, ends⟩ := locked
  cases operation with
  | check now other =>
    have early : now < deadline := before now rfl
    refine ⟨deadline, le_refl _, state, ?_, reached, ends⟩
    show (check limiter now other states).2.get key = some state
    rw [get_check, if_neg, found]
    rintro ⟨rfl, stored, present, past, _⟩
    rw [found, Option.some.injEq] at present
    rw [← present, ends] at past
    exact past early
  | recordFailure now other =>
    have early : now < deadline := before now rfl
    by_cases same : key = other
    · subst same
      have after : (commit (operate limiter) states (.recordFailure now key)).get key =
          some (counted limiter now ((current limiter now key states).getD (.fresh now))) := get_recordFailure_self
      by_cases opens : Opens limiter now key states
      · have old : idle limiter now state = true := opens_iff.mp opens state found
        obtain ⟨_, single, longer⟩ := keeps opens (key, state) (Dict.get_eq_some.mp found) reached
          (by rw [ends]; exact early) (.inl (by rw [found]; exact old))
        rw [opens, Option.getD_none] at after
        exact ⟨now + lockout limiter 1, ends ▸ longer, _, after, single, if_pos single⟩
      · have young : idle limiter now state = false := by
          by_contra old
          refine opens (opens_iff.mpr fun other present => ?_)
          rw [found, Option.some.injEq] at present
          rw [← present]
          simpa using old
        have counting : current limiter now key states = some state := by
          rw [current, found]
          simp [young]
        rw [counting, Option.getD_some] at after
        have more : limiter.maxFailures ≤ state.failures + 1 := by omega
        obtain ⟨past, counts⟩ := sound key state found
        have behind : state.lastFailureAt ≤ now := past now (by simp [times, Operation.time])
        have longer := @lockout_mono limiter _ _ (Nat.le_succ state.failures)
        refine ⟨now + lockout limiter (state.failures + 1), ?_, _, after, more, if_pos more⟩
        rw [← ends, counts reached]
        exact add_le_add behind longer
    · have others := @get_recordFailure_other _ _ limiter states now _ _ same
      rcases others with unchanged | ⟨opens, dropped, _⟩
      · exact ⟨deadline, le_refl _, state, unchanged.trans found, reached, ends⟩
      · have own := keeps opens (key, state) (Dict.get_eq_some.mp found) reached (by rw [ends]; exact early) dropped
        exact absurd own.1 same
  | recordSuccess other =>
    have different : key ≠ other := by
      intro same
      simp [Operation.successOf, same] at kept
    refine ⟨deadline, le_refl _, state, ?_, reached, ends⟩
    show (states.pop other).get key = some state
    rw [Dict.get_pop, if_neg different, found]

theorem Locked.run (clocked : Clocked later) (sound : Sound limiter later states)
    (along : Along (operate limiter) (KeepsLocks limiter) states later) (locked : Locked limiter states key deadline)
    (kept : ∀ operation ∈ later, operation.successOf key = false) (before : ∀ time ∈ times later, time < deadline) :
    ∃ longer, deadline ≤ longer ∧ Locked limiter (run (operate limiter) states later) key longer := by
  induction later generalizing states deadline with
  | nil => exact ⟨deadline, le_refl _, locked⟩
  | cons operation later ih =>
    obtain ⟨own, others⟩ := List.forall_mem_cons.mp kept
    have now : ∀ time ∈ operation.time, time < deadline := fun time member =>
      before time (List.mem_filterMap.mpr ⟨operation, List.mem_cons_self, member⟩)
    have rest : ∀ time ∈ times later, time < deadline := fun time member => before time (times_tail member)
    obtain ⟨longer, lasts, still⟩ := locked.step sound along.1 own now
    obtain ⟨longest, extends_, ends⟩ := ih clocked.tail (sound.step clocked) along.2 still others
      fun time member => lt_of_lt_of_le (rest time member) lasts
    exact ⟨longest, le_trans lasts extends_, ends⟩

/-- Locks persist along a run in which no failure drops one. -/
theorem locksPersist_of_along (clocked : Clocked operations)
    (along : Along (operate limiter) (KeepsLocks limiter) .empty operations) : LocksPersist limiter operations := by
  intro first later key deadline now before locked kept past early
  have clock : Clocked (first ++ later) := clocked.initial before
  have sound : Sound limiter later (run (operate limiter) .empty first) := (sound_empty _).run clock
  obtain ⟨_, keeps⟩ := Along.append.mp (along.initial before)
  have inside : Clocked later := clock.sublist ((List.sublist_append_right first later).filterMap _)
  obtain ⟨longer, lasts, state, found, _, ends⟩ := locked.run inside sound keeps kept fun time member =>
    lt_of_le_of_lt (past time member) early
  rw [run_append, check_denied]
  exact ⟨state, found, by rw [ends]; exact lt_of_lt_of_le early lasts⟩

/-- A failure that drops a lock makes a check before its end pass. -/
theorem along_of_locksPersist (started : ∀ time ∈ times operations, 0 ≤ time)
    (persist : LocksPersist limiter operations) :
    Along (operate limiter) (KeepsLocks limiter) .empty operations := by
  rw [along_iff_each]
  intro first operation before
  cases operation with
  | check now key => exact True.intro
  | recordSuccess key => exact True.intro
  | recordFailure now key =>
    rintro opens ⟨other, bucket⟩ member reached early dropped
    have locked : Locked limiter (run (operate limiter) .empty first) other bucket.lockedUntil :=
      ⟨bucket, Dict.get_eq_some.mpr member, reached, rfl⟩
    have denied := fun time (later : now ≤ time) => persist first [.recordFailure now key] other bucket.lockedUntil time before
      locked (by simp [Operation.successOf]) (by simpa [times, Operation.time] using later)
    simp only [run_append, check_denied] at denied
    have stepped : run (operate limiter) (run (operate limiter) .empty first) [.recordFailure now key] =
        recordFailure limiter now key (run (operate limiter) .empty first) := rfl
    rw [stepped] at denied
    dsimp only at early ⊢
    by_cases same : other = key
    · subst same
      have after := @get_recordFailure_self _ _ limiter (run (operate limiter) .empty first) now other
      rw [opens, Option.getD_none] at after
      have zero : 0 ≤ now := started now (by
        refine List.mem_filterMap.mpr ⟨.recordFailure now other, before.subset ?_, rfl⟩
        exact List.mem_append_right _ (List.mem_singleton_self _))
      have locks : ∀ time, now ≤ time → time < bucket.lockedUntil →
          time < (counted limiter now (.fresh now)).lockedUntil := by
        intro time later until_
        obtain ⟨state, found, holds⟩ := denied time later until_
        rw [after, Option.some.injEq] at found
        rw [found]
        exact holds
      have single : limiter.maxFailures ≤ 1 := by
        by_contra several
        have never : (counted limiter now (.fresh now)).lockedUntil = 0 := if_neg several
        have late := locks now (le_refl _) early
        rw [never] at late
        exact absurd zero (not_le.mpr late)
      have ends : (counted limiter now (.fresh now)).lockedUntil = now + lockout limiter 1 := if_pos single
      refine ⟨rfl, single, ?_⟩
      by_contra shorter
      have soon : now + lockout limiter 1 < bucket.lockedUntil := not_le.mp shorter
      have reached := locks now (le_refl _) early
      rw [ends] at reached
      have late := locks (now + lockout limiter 1) (le_of_lt reached) soon
      rw [ends] at late
      exact lt_irrefl _ late
    · obtain ⟨state, found, _⟩ := denied now (le_refl _) early
      rw [get_recordFailure_dropped opens dropped same] at found
      cases found

/-- A window no shorter than the longest lockout has passed only after every lock. -/
theorem not_idle_of_locked (wide : limiter.maxLockoutSeconds ≤ limiter.failureWindowSeconds)
    (sound : Sound limiter (.check now key :: operations) states) {state : FailureState}
    (found : states.get key = some state) (reached : limiter.maxFailures ≤ state.failures)
    (locked : now < state.lockedUntil) : idle limiter now state = false := by
  obtain ⟨_, counts⟩ := sound key state found
  have bound := @lockout_le limiter state.failures
  have window : (limiter.maxLockoutSeconds : ℚ) ≤ limiter.failureWindowSeconds := Nat.cast_le.mpr wide
  rw [counts reached] at locked
  have inside : ¬ (limiter.failureWindowSeconds : ℚ) < now - state.lastFailureAt := by linarith
  simpa [idle] using inside

end Locks

/-- The window ends before the lockout. -/
def narrowWindow : LoginRateLimiter := ⟨1, 1, 30, 30, 10, by decide, by decide⟩

end SmartAo.Security
