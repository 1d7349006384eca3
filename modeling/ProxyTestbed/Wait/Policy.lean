import ProxyTestbed.Fault

/-!
# Policies of waits

A policy says how long a wait lasts and how long it sleeps between attempts. The interval between
attempts may grow by a factor, up to a greatest one. A deadline is the end of one wait.

* `nth_zero`, `nth_succ`: the first interval is the one given, and each later one the one
  before times the factor, cut off at the greatest.
-/

namespace ProxyTestbed

/-- How long a wait lasts, and how it goes on. -/
structure RetryPolicy (τ : Type) [Seconds τ] where
  timeout : τ
  interval : τ
  /-- The factor by which the interval grows. -/
  backoff : τ
  maxInterval : Option τ
  not_negative : ¬ timeout < 0.0
  not_still : ¬ interval ≤ 0.0
  not_shrinking : ¬ backoff < 1.0

namespace RetryPolicy

variable {τ : Type} [Seconds τ]

/-- A policy from its numbers, which are checked in order. -/
def make (timeout interval backoff : τ) (maxInterval : Option τ) :
    Except PolicyProblem (RetryPolicy τ) :=
  if ht : timeout < 0.0 then .error .negativeTimeout
  else if hi : interval ≤ 0.0 then .error .noInterval
  else if hb : backoff < 1.0 then .error .shrinking
  else .ok ⟨timeout, interval, backoff, maxInterval, ht, hi, hb⟩

/-- The interval of a policy that gives none. -/
def usualInterval : τ := 0.5

/-- The factor of a policy that gives none. -/
def usualBackoff : τ := 1.0

/-- A policy whose interval stays the same. -/
def fixed (timeout interval : τ) : Except PolicyProblem (RetryPolicy τ) :=
  make timeout interval usualBackoff none

/-- The first interval of a growing policy that gives none. -/
def growingInterval : τ := 0.1

/-- The factor of a growing policy that gives none. -/
def growingBackoff : τ := 2.0

/-- The greatest interval of a growing policy that gives none. -/
def growingMaxInterval : τ := 2.0

/-- A policy whose interval grows. -/
def growing (timeout interval backoff : τ) (maxInterval : Option τ) :
    Except PolicyProblem (RetryPolicy τ) :=
  make timeout interval backoff maxInterval

/-- The interval after one. -/
def after (p : RetryPolicy τ) (current : τ) : τ :=
  match p.maxInterval with
  | none => current * p.backoff
  | some greatest => Seconds.least (current * p.backoff) greatest

/-- The interval with a number; the first one has number zero. -/
def nth (p : RetryPolicy τ) : Nat → τ
  | 0 => p.interval
  | n + 1 => p.after (p.nth n)

def leastInterval (p : RetryPolicy τ) : τ :=
  match p.maxInterval with
  | none => p.interval
  | some greatest => Seconds.least p.interval greatest

/-- The first intervals. -/
def intervals (p : RetryPolicy τ) (count : Nat) : List τ :=
  (List.range count).map p.nth

theorem nth_zero (p : RetryPolicy τ) : p.nth 0 = p.interval := rfl

theorem nth_succ (p : RetryPolicy τ) (n : Nat) : p.nth (n + 1) = p.after (p.nth n) := rfl

end RetryPolicy

/-- The end of one wait. -/
structure Deadline (τ : Type) where
  expires : τ
  deriving Repr

namespace Deadline

variable {τ : Type} [Seconds τ]

/-- The end of a wait that starts at a time. -/
def start (time timeout : τ) : Deadline τ :=
  ⟨time + timeout⟩

/-- How much time is left; never less than none. -/
def remaining (d : Deadline τ) (time : τ) : τ :=
  Seconds.greatest 0.0 (d.expires - time)

def isOver (d : Deadline τ) (time : τ) : Bool :=
  d.expires ≤ time

end Deadline

end ProxyTestbed
