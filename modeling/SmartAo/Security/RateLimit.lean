import SmartAo.Foundation.Dict
import SmartAo.Foundation.Digest
import SmartAo.Foundation.Text
import SmartAo.Foundation.Transition
import Mathlib.Algebra.Order.Field.Basic
import Mathlib.Data.List.MinMax
import Mathlib.Data.Rat.Floor

namespace SmartAo.Security

open SmartAo.Foundation

structure RateLimitDecision where
  allowed : Bool
  retryAfterSeconds : Int
deriving DecidableEq

/-- The failures of one bucket; times are readings of a monotonic clock, in seconds. -/
structure FailureState where
  firstFailureAt : ℚ
  lastFailureAt : ℚ
  failures : Nat
  lockedUntil : ℚ
deriving DecidableEq

/-- The settings the constructor accepts. -/
structure LoginRateLimiter where
  maxFailures : Nat
  failureWindowSeconds : Nat
  baseLockoutSeconds : Nat
  maxLockoutSeconds : Nat
  maxBuckets : Nat
  positive : 0 < maxFailures ∧ 0 < failureWindowSeconds ∧ 0 < baseLockoutSeconds ∧ 0 < maxLockoutSeconds ∧
    0 < maxBuckets
  ordered : baseLockoutSeconds ≤ maxLockoutSeconds

def LoginRateLimiter.standard : LoginRateLimiter := ⟨5, 900, 30, 900, 100000, by decide, by decide⟩

section Buckets

variable {κ : Type} [DecidableEq κ] (limiter : LoginRateLimiter)

/-- The last failure lies more than the window back. -/
def idle (now : ℚ) (state : FailureState) : Bool :=
  limiter.failureWindowSeconds < now - state.lastFailureAt

def check (now : ℚ) (key : κ) (states : Dict κ FailureState) : RateLimitDecision × Dict κ FailureState :=
  match states.get key with
  | none => (⟨true, 0⟩, states)
  | some state =>
    if now < state.lockedUntil then (⟨false, max 1 ⌊state.lockedUntil - now⌋⟩, states)
    else if idle limiter now state then (⟨true, 0⟩, states.pop key)
    else (⟨true, 0⟩, states)

def evictExpired (now : ℚ) (states : Dict κ FailureState) : Dict κ FailureState :=
  states.keep fun entry => !idle limiter now entry.2

def oldestKey (states : Dict κ FailureState) : Option κ :=
  (states.entries.argmin fun entry => entry.2.lastFailureAt).map Prod.fst

/-- A table at its capacity gives up its oldest bucket for a new one. -/
def makeRoom (key : κ) (states : Dict κ FailureState) : Dict κ FailureState :=
  if states.get key = none ∧ limiter.maxBuckets ≤ states.size then
    match oldestKey states with
    | some oldest => states.pop oldest
    | none => states
  else states

def FailureState.fresh (now : ℚ) : FailureState := ⟨now, now, 0, 0⟩

def lockout (failures : Nat) : ℚ :=
  min limiter.maxLockoutSeconds (limiter.baseLockoutSeconds * 2 ^ (failures - limiter.maxFailures))

def counted (now : ℚ) (state : FailureState) : FailureState :=
  { state with
    failures := state.failures + 1
    lastFailureAt := now
    lockedUntil := if limiter.maxFailures ≤ state.failures + 1 then now + lockout limiter (state.failures + 1)
      else state.lockedUntil }

/-- The bucket a failure is counted in, when it does not open a new one. -/
def current (now : ℚ) (key : κ) (states : Dict κ FailureState) : Option FailureState :=
  (states.get key).filter fun state => !idle limiter now state

def recordFailure (now : ℚ) (key : κ) (states : Dict κ FailureState) : Dict κ FailureState :=
  match current limiter now key states with
  | some state => states.assign key (counted limiter now state)
  | none => (makeRoom limiter key (evictExpired limiter now states)).assign key
      (counted limiter now (.fresh now))

def recordSuccess (key : κ) (states : Dict κ FailureState) : Dict κ FailureState := states.pop key

inductive Operation (κ : Type) where
  | check (now : ℚ) (key : κ)
  | recordFailure (now : ℚ) (key : κ)
  | recordSuccess (key : κ)

def Operation.time : Operation κ → Option ℚ
  | .check now _ | .recordFailure now _ => some now
  | .recordSuccess _ => none

def Operation.successOf (key : κ) : Operation κ → Bool
  | .recordSuccess other => other = key
  | _ => false

def Operation.key : Operation κ → κ
  | .check _ key | .recordFailure _ key | .recordSuccess key => key

def operate (states : Dict κ FailureState) : Operation κ → Except Empty (Dict κ FailureState)
  | .check now key => .ok (check limiter now key states).2
  | .recordFailure now key => .ok (recordFailure limiter now key states)
  | .recordSuccess key => .ok (recordSuccess key states)

end Buckets

/-- The identity and the address of an attempt, absent or as they are normalised. -/
structure Attempt where
  nameSpace : List Char
  identity : Option (List Char)
  sourceIp : List Char

section Keys

variable (casefold : List Char → List Char)

def normalizedIdentity (identity : Option (List Char)) : List Char :=
  casefold (stripChars (if identity.getD [] = [] then "anonymous".toList else identity.getD []))

def normalizedIp (sourceIp : List Char) : List Char :=
  if stripChars sourceIp = [] then "unknown".toList else stripChars sourceIp

def canonical (attempt : Attempt) : List Char :=
  attempt.nameSpace ++ ':' :: (normalizedIdentity casefold attempt.identity ++ ':' :: normalizedIp attempt.sourceIp)

def bucketKey (attempt : Attempt) : String := hexdigest (canonical casefold attempt)

end Keys

end SmartAo.Security
