import SmartAo.Security.BucketIsolation

namespace SmartAo.Security

open SmartAo.Foundation

section Retry

variable {κ : Type} [DecidableEq κ] {limiter : LoginRateLimiter} {states : Dict κ FailureState} {key : κ}
  {operation : Operation κ} {operations : List (Operation κ)} {now time : ℚ} {seconds : Int}

def Operation.isFailureOf (key : κ) : Operation κ → Bool
  | .recordFailure _ other => other = key
  | _ => false

/-- After the advised delay a check is allowed, whatever happens in between but a failure of the bucket. -/
def SufficientDelay (limiter : LoginRateLimiter) (states : Dict κ FailureState) (key : κ) (now : ℚ)
    (seconds : Int) : Prop :=
  0 < seconds ∧ ∀ (between : List (Operation κ)) (time : ℚ),
    (∀ operation ∈ between, operation.isFailureOf key = false) → now + seconds ≤ time →
      (check limiter time key (run (operate limiter) states between)).1.allowed = true

/-- What is left of the lock of a bucket. -/
def remainingLock (states : Dict κ FailureState) (key : κ) (now : ℚ) : ℚ :=
  (states.get key).elim 0 fun state => state.lockedUntil - now

/-- A duration that its whole seconds, or the one second there is at least, do not cut short. -/
def NotCutShort (remaining : ℚ) : Prop := remaining ≤ 1 ∨ (⌊remaining⌋ : ℚ) = remaining

theorem not_cut_short_iff {remaining : ℚ} : remaining ≤ (max 1 ⌊remaining⌋ : ℤ) ↔ NotCutShort remaining := by
  unfold NotCutShort
  rw [Int.cast_max, le_max_iff, Int.cast_one]
  have below : (⌊remaining⌋ : ℚ) ≤ remaining := Int.floor_le remaining
  constructor
  · rintro (short | whole)
    · exact .inl short
    · exact .inr (le_antisymm below whole)
  · rintro (short | whole)
    · exact .inl short
    · exact .inr (le_of_eq whole.symm)

theorem check_allowed_iff : (check limiter now key states).1.allowed = true ↔
    ∀ state, states.get key = some state → state.lockedUntil ≤ now := by
  rw [← Bool.not_eq_false, check_denied]
  constructor
  · intro free state found
    by_contra locked
    exact free ⟨state, found, not_le.mp locked⟩
  · rintro free ⟨state, found, locked⟩
    exact absurd (free state found) (not_le.mpr locked)

/-- An operation that is no failure of a bucket leaves it as it was, or drops it. -/
theorem get_unfailed (other : operation.isFailureOf key = false) :
    (commit (operate limiter) states operation).get key = states.get key ∨
      (commit (operate limiter) states operation).get key = none := by
  cases operation with
  | check now checked =>
    show (check limiter now checked states).2.get key = _ ∨ (check limiter now checked states).2.get key = none
    rw [get_check]
    split
    · exact .inr rfl
    · exact .inl rfl
  | recordFailure now failed =>
    have different : key ≠ failed := by
      intro same
      rw [same] at other
      simp [Operation.isFailureOf] at other
    have others := @get_recordFailure_other _ _ limiter states now _ _ different
    rcases others with same | ⟨_, _, gone⟩
    · exact .inl same
    · exact .inr gone
  | recordSuccess succeeded =>
    show (states.pop succeeded).get key = _ ∨ (states.pop succeeded).get key = none
    rw [Dict.get_pop]
    split
    · exact .inr rfl
    · exact .inl rfl

theorem get_run_unfailed (others : ∀ operation ∈ operations, operation.isFailureOf key = false) :
    (run (operate limiter) states operations).get key = states.get key ∨
      (run (operate limiter) states operations).get key = none := by
  induction operations generalizing states with
  | nil => exact .inl rfl
  | cons operation operations ih =>
    obtain ⟨first, rest⟩ := List.forall_mem_cons.mp others
    have later := @ih (commit (operate limiter) states operation) rest
    rw [run_cons]
    rcases later with same | gone
    · rw [same]
      exact get_unfailed first
    · exact .inr gone

/-- The advised delay suffices exactly when it reaches the end of the lock. -/
theorem sufficient_iff {state : FailureState} (found : states.get key = some state) :
    SufficientDelay limiter states key now seconds ↔ 0 < seconds ∧ state.lockedUntil - now ≤ seconds := by
  unfold SufficientDelay
  refine and_congr_right fun _ => ?_
  constructor
  · intro allowed
    have idleWait := allowed [] (now + seconds) (fun _ member => absurd member List.not_mem_nil) le_rfl
    have past := check_allowed_iff.mp idleWait state found
    linarith
  · intro reaches between time others later
    apply check_allowed_iff.mpr
    intro bucket kept
    rcases @get_run_unfailed _ _ limiter states _ _ others with same | gone
    · rw [same, found, Option.some.injEq] at kept
      rw [← kept]
      linarith
    · rw [gone] at kept
      cases kept

theorem check_delay (denied : (check limiter now key states).1 = ⟨false, seconds⟩) :
    ∃ state, states.get key = some state ∧ seconds = max 1 ⌊state.lockedUntil - now⌋ := by
  have refused : (check limiter now key states).1.allowed = false := by rw [denied]
  obtain ⟨state, found, locked⟩ := check_denied.mp refused
  refine ⟨state, found, ?_⟩
  have advised : decision now (some state) = ⟨false, max 1 ⌊state.lockedUntil - now⌋⟩ := if_pos locked
  rw [check_decision, found, advised, RateLimitDecision.mk.injEq] at denied
  exact denied.2.symm

end Retry

/-- Five failures at once under the standard settings. -/
def lockedOut : List (Operation String) := List.replicate 5 (.recordFailure 0 "bucket")

end SmartAo.Security
