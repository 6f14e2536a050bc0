import SmartAo.Security.LockoutRuns

namespace SmartAo.Security

open SmartAo.Foundation

section Simulation

variable {κ : Type} [DecidableEq κ] {limiter : LoginRateLimiter} {first second : Dict κ FailureState}
  {states : Dict κ FailureState} {key : κ} {now : ℚ} {later : List ℚ}

/-- No bucket is given up for the capacity of the table. -/
def Roomy (limiter : LoginRateLimiter) (states : Dict κ FailureState) : Operation κ → Prop
  | .recordFailure now key => Opens limiter now key states →
      (evictExpired limiter now states).size < limiter.maxBuckets
  | _ => True

/-- A failure on another key that opens a bucket does not find this one idle and locked. -/
def SparesBucket (limiter : LoginRateLimiter) (key : κ) (states : Dict κ FailureState) : Operation κ → Prop
  | .recordFailure now other => other ≠ key → Opens limiter now other states →
      ∀ state ∈ states.get key, idle limiter now state = true → state.lockedUntil ≤ now
  | _ => True

instance : ∀ operation : Operation κ, Decidable (Roomy limiter states operation)
  | .recordFailure _ _ => inferInstanceAs (Decidable (_ → _))
  | .check _ _ | .recordSuccess _ => inferInstanceAs (Decidable True)

instance : ∀ operation : Operation κ, Decidable (SparesBucket limiter key states operation)
  | .recordFailure now other => inferInstanceAs (Decidable (other ≠ key → Opens limiter now other states →
      ∀ state ∈ states.get key, idle limiter now state = true → state.lockedUntil ≤ now))
  | .check _ _ | .recordSuccess _ => inferInstanceAs (Decidable True)

/-- From now on a bucket is idle and not locked. -/
def Spent (limiter : LoginRateLimiter) (later : List ℚ) (state : FailureState) : Prop :=
  ∀ time ∈ later, idle limiter time state = true ∧ state.lockedUntil ≤ time

/-- Two tables hold the same bucket, or only a spent one. -/
def Agree (limiter : LoginRateLimiter) (later : List ℚ) (first second : Option FailureState) : Prop :=
  first = second ∨ (∀ state ∈ first, Spent limiter later state) ∧ ∀ state ∈ second, Spent limiter later state

theorem idle_later {state : FailureState} {earlier : ℚ} (old : idle limiter earlier state = true)
    (ordered : earlier ≤ now) : idle limiter now state = true := by
  simp only [idle, decide_eq_true_eq] at old ⊢
  linarith

theorem Spent.mono {state : FailureState} {fewer : List ℚ} (spent : Spent limiter later state)
    (subset : fewer ⊆ later) : Spent limiter fewer state := fun time member => spent time (subset member)

theorem Agree.mono {one other : Option FailureState} {fewer : List ℚ} (agree : Agree limiter later one other)
    (subset : fewer ⊆ later) : Agree limiter fewer one other :=
  agree.imp_right fun spent => ⟨fun state member => (spent.1 state member).mono subset,
    fun state member => (spent.2 state member).mono subset⟩

/-- What an operation on another key leaves of a bucket: the bucket, or nothing of a spent one. -/
def Left (limiter : LoginRateLimiter) (later : List ℚ) (before after : Option FailureState) : Prop :=
  after = before ∨ after = none ∧ ∀ state ∈ before, Spent limiter later state

theorem Agree.left {one other oneAfter otherAfter : Option FailureState} (agree : Agree limiter later one other)
    (first : Left limiter later one oneAfter) (second : Left limiter later other otherAfter) :
    Agree limiter later oneAfter otherAfter := by
  have spent : ∀ {before after : Option FailureState}, Left limiter later before after →
      (∀ state ∈ before, Spent limiter later state) → ∀ state ∈ after, Spent limiter later state := by
    rintro before after (rfl | ⟨rfl, _⟩) all state member
    · exact all state member
    · cases member
  rcases agree with rfl | ⟨allFirst, allSecond⟩
  · rcases first with rfl | ⟨rfl, all⟩
    · rcases second with rfl | ⟨rfl, all⟩
      · exact .inl rfl
      · exact .inr ⟨all, spent (.inr ⟨rfl, all⟩) all⟩
    · exact .inr ⟨spent (.inr ⟨rfl, all⟩) all, spent second all⟩
  · exact .inr ⟨spent first allFirst, spent second allSecond⟩

theorem left_of_other {operation : Operation κ} (different : operation.key ≠ key)
    (ordered : ∀ time ∈ operation.time, ∀ next ∈ later, time ≤ next)
    (roomy : Roomy limiter states operation) (spares : SparesBucket limiter key states operation) :
    Left limiter later (states.get key) ((commit (operate limiter) states operation).get key) := by
  cases operation with
  | check now other =>
    left
    show (check limiter now other states).2.get key = states.get key
    rw [get_check, if_neg]
    rintro ⟨same, _⟩
    exact different same.symm
  | recordFailure now other =>
    have away : key ≠ other := fun same => different same.symm
    have others := @get_recordFailure_other _ _ limiter states now _ _ away
    rcases others with same | ⟨opens, dropped, gone⟩
    · exact .inl same
    · refine .inr ⟨gone, fun state member time later => ?_⟩
      have before : now ≤ time := ordered now rfl time later
      have old : idle limiter now state = true := by
        rcases dropped with old | ⟨_, full, _⟩
        · rw [Option.mem_def.mp member] at old
          exact old
        · have room := roomy opens
          omega
      exact ⟨idle_later old before, le_trans (spares different opens state member old) before⟩
  | recordSuccess other =>
    left
    show (states.pop other).get key = states.get key
    rw [Dict.get_pop, if_neg fun same => different same.symm]

/-- The answer of a check, from the bucket alone. -/
def decision (now : ℚ) : Option FailureState → RateLimitDecision
  | none => ⟨true, 0⟩
  | some state => if now < state.lockedUntil then ⟨false, max 1 ⌊state.lockedUntil - now⌋⟩ else ⟨true, 0⟩

theorem check_decision : (check limiter now key states).1 = decision now (states.get key) := by
  unfold check decision
  cases states.get key with
  | none => rfl
  | some state =>
    dsimp only
    split
    · rfl
    · split <;> rfl

theorem decision_of_spent {bucket : Option FailureState} (spent : ∀ state ∈ bucket, Spent limiter [now] state) :
    decision now bucket = ⟨true, 0⟩ := by
  cases bucket with
  | none => rfl
  | some state =>
    have past := (spent state rfl now (List.mem_singleton_self _)).2
    exact if_neg (not_lt.mpr past)

theorem current_of_spent (spent : ∀ state ∈ states.get key, Spent limiter (now :: later) state) :
    current limiter now key states = none := by
  refine opens_iff.mpr fun state found => ?_
  exact (spent state found now List.mem_cons_self).1

/-- An operation on the bucket itself makes two tables that agree hold the same, or nothing but a spent bucket. -/
theorem Agree.own {operation : Operation κ} (same : operation.key = key)
    (agree : Agree limiter (operation.time.toList ++ later) (first.get key) (second.get key)) :
    Agree limiter later ((commit (operate limiter) first operation).get key)
      ((commit (operate limiter) second operation).get key) := by
  cases operation with
  | check now other =>
    obtain rfl : other = key := same
    have after : ∀ states : Dict κ FailureState, (commit (operate limiter) states (.check now other)).get other =
        (states.get other).filter fun state => decide (now < state.lockedUntil) || !idle limiter now state := by
      intro states
      show (check limiter now other states).2.get other = _
      rw [get_check]
      cases found : states.get other with
      | none => simp
      | some state =>
        by_cases locked : now < state.lockedUntil
        · simp [locked, Option.filter]
        · by_cases old : idle limiter now state = true
          · have past : state.lockedUntil ≤ now := not_lt.mp locked
            simp [old, past, locked, Option.filter]
          · simp [old, Option.filter]
    show Agree limiter later ((commit (operate limiter) first (.check now other)).get other)
      ((commit (operate limiter) second (.check now other)).get other)
    rw [after, after]
    rcases agree with equal | ⟨one, other⟩
    · left
      rw [show first.get other = second.get other from equal]
    · refine .inr ⟨fun state member => ?_, fun state member => ?_⟩
      · exact (one state (Option.filter_eq_some_iff.mp member).1).mono (List.subset_cons_self _ _)
      · exact (other state (Option.filter_eq_some_iff.mp member).1).mono (List.subset_cons_self _ _)
  | recordFailure now other =>
    obtain rfl : other = key := same
    left
    show (recordFailure limiter now other first).get other = (recordFailure limiter now other second).get other
    rw [get_recordFailure_self, get_recordFailure_self]
    rcases agree with equal | ⟨one, other⟩
    · rw [current, current, show first.get other = second.get other from equal]
    · rw [current_of_spent one, current_of_spent other]
  | recordSuccess other =>
    obtain rfl : other = key := same
    left
    show (first.pop other).get other = (second.pop other).get other
    rw [Dict.get_pop, Dict.get_pop, if_pos rfl, if_pos rfl]

/-- Operations on other keys, left out of one of two runs, do not change what becomes of a bucket. -/
theorem agree_run {operations : List (Operation κ × Bool)}
    (clocked : (times (operations.map Prod.fst) ++ [now]).Pairwise (· ≤ ·))
    (others : ∀ entry ∈ operations, entry.2 = true → entry.1.key ≠ key)
    (roomyFirst : Along (operate limiter) (Roomy limiter) first (operations.map Prod.fst))
    (roomySecond : Along (operate limiter) (Roomy limiter) second
      ((operations.filter fun entry => !entry.2).map Prod.fst))
    (sparesFirst : Along (operate limiter) (SparesBucket limiter key) first (operations.map Prod.fst))
    (sparesSecond : Along (operate limiter) (SparesBucket limiter key) second
      ((operations.filter fun entry => !entry.2).map Prod.fst))
    (agree : Agree limiter (times (operations.map Prod.fst) ++ [now]) (first.get key) (second.get key)) :
    Agree limiter [now] ((run (operate limiter) first (operations.map Prod.fst)).get key)
      ((run (operate limiter) second ((operations.filter fun entry => !entry.2).map Prod.fst)).get key) := by
  induction operations generalizing first second with
  | nil => exact agree
  | cons entry operations ih =>
    obtain ⟨operation, removed⟩ := entry
    obtain ⟨own, rest⟩ := List.forall_mem_cons.mp others
    have split : times ((operation :: operations.map Prod.fst)) ++ [now] =
        operation.time.toList ++ (times (operations.map Prod.fst) ++ [now]) := by
      cases operation <;> rfl
    rw [List.map_cons, split] at clocked agree
    obtain ⟨_, clock, ordered⟩ := List.pairwise_append.mp clocked
    have ahead : ∀ time ∈ operation.time, ∀ next ∈ times (operations.map Prod.fst) ++ [now], time ≤ next :=
      fun time member next later => ordered time (by simpa using member) next later
    have rested := agree.mono (List.subset_append_right operation.time.toList _)
    cases removed with
    | true =>
      have left := left_of_other (own rfl) ahead roomyFirst.1 sparesFirst.1
      exact ih clock rest roomyFirst.2 roomySecond sparesFirst.2 sparesSecond (rested.left left (.inl rfl))
    | false =>
      refine ih clock rest roomyFirst.2 roomySecond.2 sparesFirst.2 sparesSecond.2 ?_
      by_cases same : operation.key = key
      · exact agree.own same
      · exact rested.left (left_of_other same ahead roomyFirst.1 sparesFirst.1)
          (left_of_other same ahead roomySecond.1 sparesSecond.1)

end Simulation

/-- The parties of an attempt; an absent identity or address is no literal one. -/
def Attempt.triple (casefold : List Char → List Char) (attempt : Attempt) :
    List Char × Option (List Char) × Option (List Char) :=
  (attempt.nameSpace,
    if attempt.identity.getD [] = [] then none else some (normalizedIdentity casefold attempt.identity),
    if stripChars attempt.sourceIp = [] then none else some (normalizedIp attempt.sourceIp))

/-- What the colons of the joined text of an attempt separate. -/
def Attempt.parts (casefold : List Char → List Char) (attempt : Attempt) : List (List Char) :=
  attempt.nameSpace.splitOn ':' ++ ((normalizedIdentity casefold attempt.identity).splitOn ':' ++
    (normalizedIp attempt.sourceIp).splitOn ':')

section Isolation

variable {casefold : List Char → List Char} {one other : Attempt}

theorem splitOn_canonical : (canonical casefold one).splitOn ':' = one.parts casefold := by
  rw [canonical, List.splitOn_append_cons_self, List.splitOn_append_cons_self]
  rfl

/-- The texts of two attempts are joined to the same one exactly when they have the same parts. -/
theorem canonical_eq_iff : canonical casefold one = canonical casefold other ↔
    one.parts casefold = other.parts casefold := by
  rw [← splitOn_canonical, ← splitOn_canonical]
  constructor
  · exact congrArg _
  · intro same
    have joined : [':'].intercalate ((canonical casefold one).splitOn ':') = canonical casefold one :=
      List.intercalate_splitOn ':'
    rw [← joined, same, List.intercalate_splitOn]

theorem canonical_of_triple (same : one.triple casefold = other.triple casefold) :
    canonical casefold one = canonical casefold other := by
  obtain ⟨spaces, rest⟩ := Prod.mk.inj same
  obtain ⟨identities, addresses⟩ := Prod.mk.inj rest
  have identity : normalizedIdentity casefold one.identity = normalizedIdentity casefold other.identity := by
    by_cases first : one.identity.getD [] = []
    · by_cases second : other.identity.getD [] = []
      · rw [normalizedIdentity, normalizedIdentity, if_pos first, if_pos second]
      · rw [if_pos first, if_neg second] at identities
        cases identities
    · by_cases second : other.identity.getD [] = []
      · rw [if_neg first, if_pos second] at identities
        cases identities
      · rw [if_neg first, if_neg second] at identities
        exact Option.some.inj identities
  have address : normalizedIp one.sourceIp = normalizedIp other.sourceIp := by
    by_cases first : stripChars one.sourceIp = []
    · by_cases second : stripChars other.sourceIp = []
      · rw [normalizedIp, normalizedIp, if_pos first, if_pos second]
      · rw [if_pos first, if_neg second] at addresses
        cases addresses
    · by_cases second : stripChars other.sourceIp = []
      · rw [if_neg first, if_pos second] at addresses
        cases addresses
      · rw [if_neg first, if_neg second] at addresses
        exact Option.some.inj addresses
  rw [canonical, canonical, show one.nameSpace = other.nameSpace from spaces, identity, address]

/-- Without colons in their values, attempts with the same parts have the same values. -/
theorem parts_eq_iff_of_colonless (first : ':' ∉ one.nameSpace ∧ ':' ∉ normalizedIdentity casefold one.identity ∧
      ':' ∉ normalizedIp one.sourceIp)
    (second : ':' ∉ other.nameSpace ∧ ':' ∉ normalizedIdentity casefold other.identity ∧
      ':' ∉ normalizedIp other.sourceIp) :
    one.parts casefold = other.parts casefold ↔ one.nameSpace = other.nameSpace ∧
      normalizedIdentity casefold one.identity = normalizedIdentity casefold other.identity ∧
      normalizedIp one.sourceIp = normalizedIp other.sourceIp := by
  unfold Attempt.parts
  rw [List.splitOn_eq_singleton first.1, List.splitOn_eq_singleton first.2.1, List.splitOn_eq_singleton first.2.2,
    List.splitOn_eq_singleton second.1, List.splitOn_eq_singleton second.2.1, List.splitOn_eq_singleton second.2.2]
  simp

def Operation.map {κ ι : Type} (change : κ → ι) : Operation κ → Operation ι
  | .check now key => .check now (change key)
  | .recordFailure now key => .recordFailure now (change key)
  | .recordSuccess key => .recordSuccess (change key)

def Operation.failureOf (casefold : List Char → List Char) (attempt : Attempt) : Operation Attempt → Bool
  | .recordFailure _ other => other.triple casefold = attempt.triple casefold
  | _ => false

/-- A run of the limiter on attempts, by the keys of their buckets. -/
def keyed (casefold : List Char → List Char) (operations : List (Operation Attempt)) : List (Operation String) :=
  operations.map (Operation.map (bucketKey casefold))

def without (casefold : List Char → List Char) (attempt : Attempt) (operations : List (Operation Attempt)) :
    List (Operation Attempt) :=
  operations.filter fun operation => !operation.failureOf casefold attempt

def answer (limiter : LoginRateLimiter) (casefold : List Char → List Char) (now : ℚ) (attempt : Attempt)
    (operations : List (Operation Attempt)) : RateLimitDecision :=
  (check limiter now (bucketKey casefold attempt) (run (operate limiter) .empty (keyed casefold operations))).1

/-- The run opens buckets with room to spare, and drops none of an attempt that is locked. -/
def Undisturbed (limiter : LoginRateLimiter) (casefold : List Char → List Char) (attempt : Attempt)
    (operations : List (Operation Attempt)) : Prop :=
  Along (operate limiter) (Roomy limiter) .empty (keyed casefold operations) ∧
    Along (operate limiter) (SparesBucket limiter (bucketKey casefold attempt)) .empty (keyed casefold operations)

instance {limiter : LoginRateLimiter} {operations : List (Operation Attempt)} :
    Decidable (Undisturbed limiter casefold one operations) := inferInstanceAs (Decidable (_ ∧ _))

theorem times_keyed (operations : List (Operation Attempt)) :
    times (keyed casefold operations) = times operations := by
  rw [times, keyed, List.filterMap_map]
  refine List.filterMap_congr fun operation _ => ?_
  cases operation <;> rfl

theorem key_of_failureOf {operation : Operation Attempt} (failure : operation.failureOf casefold one = true) :
    (operation.map (bucketKey casefold)).key = bucketKey casefold one := by
  cases operation with
  | recordFailure now attempt =>
    have same : attempt.triple casefold = one.triple casefold := by simpa [Operation.failureOf] using failure
    exact congrArg hexdigest (canonical_of_triple same)
  | check now attempt => cases failure
  | recordSuccess attempt => cases failure

/-- The failures of an attempt leave the answers for another bucket as they are. -/
theorem answer_without {limiter : LoginRateLimiter} {operations : List (Operation Attempt)} {now : ℚ}
    (different : bucketKey casefold one ≠ bucketKey casefold other)
    (clocked : (times operations ++ [now]).Pairwise (· ≤ ·))
    (undisturbed : Undisturbed limiter casefold other operations)
    (spared : Undisturbed limiter casefold other (without casefold one operations)) :
    answer limiter casefold now other operations =
      answer limiter casefold now other (without casefold one operations) := by
  let entries := operations.map fun operation =>
    (operation.map (bucketKey casefold), operation.failureOf casefold one)
  have all : entries.map Prod.fst = keyed casefold operations := by
    rw [List.map_map]
    rfl
  have left : (entries.filter fun entry => !entry.2).map Prod.fst =
      keyed casefold (without casefold one operations) := by
    rw [List.filter_map, List.map_map]
    rfl
  have others : ∀ entry ∈ entries, entry.2 = true → entry.1.key ≠ bucketKey casefold other := by
    intro entry member failure
    obtain ⟨operation, _, rfl⟩ := List.mem_map.mp member
    rw [key_of_failureOf failure]
    exact different
  have agree := @agree_run _ _ limiter .empty .empty (bucketKey casefold other) now entries (by rw [all, times_keyed]; exact clocked) others
    (by rw [all]; exact undisturbed.1) (by rw [left]; exact spared.1) (by rw [all]; exact undisturbed.2)
    (by rw [left]; exact spared.2) (.inl rfl)
  rw [all, left] at agree
  unfold answer
  rw [check_decision, check_decision]
  rcases agree with same | ⟨first, second⟩
  · rw [same]
  · rw [decision_of_spent first, decision_of_spent second]

end Isolation

def caseless : List Char → List Char := List.map Char.toLower

def knownUser : Attempt := ⟨"login".toList, some "ab@c.fr".toList, "2001:db8::1".toList⟩

def otherUser : Attempt := ⟨"login".toList, some "de@c.fr".toList, "2001:db8::1".toList⟩

/-- An identity that ends like the address of another attempt starts. -/
def shiftedUser : Attempt := ⟨"login".toList, some "ab@c.fr:2001".toList, "db8::1".toList⟩

end SmartAo.Security
