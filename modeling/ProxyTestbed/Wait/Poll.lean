import ProxyTestbed.Outside.World
import ProxyTestbed.Wait.Policy

/-!
# Polling

The one loop behind all waits: an attempt is made, and if it decides nothing and the deadline has not
passed, the loop sleeps and makes another one. A sleep is never longer than the time that is left, so
the last attempt comes at the deadline.

* `poll_decided`, `poll_fault`, `poll_over`, `poll_again`: what follows from one attempt.
-/

namespace ProxyTestbed

variable {σ τ ω α β : Type} [Seconds τ] [Host σ τ]

/-- Makes attempts until one decides, at most `fuel` of them. An attempt is given its number, counted
from zero, and answers a result, or what it saw instead; if the deadline passes, that of the last attempt
is answered. -/
def poll (policy : RetryPolicy τ) (deadline : Deadline τ)
    (try_ : Nat → On σ τ ω (Except β α)) : Nat → Nat → τ → On σ τ ω (Except β α)
  | 0, _, _ => throw .stalled
  | fuel + 1, number, interval => do
    match ← try_ number with
    | .ok a => return .ok a
    | .error seen =>
      if deadline.isOver (← world now) then return .error seen
      else
        let left := deadline.remaining (← world now)
        world (sleep (Seconds.least interval left))
        poll policy deadline try_ fuel (number + 1) (policy.after interval)

/-- Makes attempts for some time from now on. An attempt is also given the deadline. -/
def pollFor (policy : RetryPolicy τ) (timeout : τ)
    (try_ : Deadline τ → Nat → On σ τ ω (Except β α)) : On σ τ ω (Except β α) := do
  let deadline := Deadline.start (← world now) timeout
  poll policy deadline (try_ deadline) (Seconds.attempts timeout policy.leastInterval) 0
    policy.interval

section

variable {policy : RetryPolicy τ} {deadline : Deadline τ} {try_ : Nat → On σ τ ω (Except β α)}
  {fuel number : Nat} {interval : τ} {s s' : World σ τ × ω}

theorem poll_decided {a : α} (h : try_ number s = .ok (.ok a) s') :
    poll policy deadline try_ (fuel + 1) number interval s = .ok (.ok a) s' := by
  simp only [poll, bind, EStateM.bind, h]
  rfl

theorem poll_fault {e : Fault τ} (h : try_ number s = .error e s') :
    poll policy deadline try_ (fuel + 1) number interval s = .error e s' := by
  simp only [poll, bind, EStateM.bind, h]

theorem poll_over {seen : β} (h : try_ number s = .ok (.error seen) s')
    (hd : deadline.isOver (Host.now s'.1.host) = true) :
    poll policy deadline try_ (fuel + 1) number interval s = .ok (.error seen) s' := by
  simp only [poll, bind, EStateM.bind, h, world, now, hd, if_true]
  rfl

theorem poll_again {seen : β} (h : try_ number s = .ok (.error seen) s')
    (hd : deadline.isOver (Host.now s'.1.host) = false) :
    poll policy deadline try_ (fuel + 1) number interval s =
      (world (sleep (Seconds.least interval (deadline.remaining (Host.now s'.1.host)))) >>= fun _ =>
        poll policy deadline try_ fuel (number + 1) (policy.after interval)) s' := by
  simp only [poll, bind, EStateM.bind, h, world, now, hd, Bool.false_eq_true, if_false]

end

end ProxyTestbed
