import ProxyTestbed.Proofs.Wait.Rounds

/-!
# Worlds that do not change

The simplest outside world answers every request as it always does, and its clock is moved by sleeps alone.
-/

namespace ProxyTestbed

/-- An outside world with constant answers. -/
structure Constant (answers : (r : Request Rat) → Except (Fault Rat) r.Answer) where
  clock : Rat

namespace Constant

variable {answers : (r : Request Rat) → Except (Fault Rat) r.Answer}

instance : Host (Constant answers) Rat where
  answer r h := (answers r, h)
  now h := h.clock
  sleep seconds h := ⟨h.clock + seconds⟩
  wallClock _ := ⟨⟨2024, 2, 28⟩, 12, 0, 0, 0, some 0⟩
  freshId h := ("00000001", h)
  env _ := []
  temporaryDirectory _ := ⟨.here, []⟩
  freshEnding h := ("0001", h)

theorem exact : Host.Exact (Constant answers) where
  sleep _ _ _ := rfl
  answer _ h := le_refl h.clock
  rests _ _ _ := rfl

/-- It begins with an empty file tree and no past. -/
def begin : World (Constant answers) Rat :=
  ⟨⟨0⟩, ⟨[], []⟩, []⟩

/-- Every operation on a file is granted, and no other request is. -/
def granting : (r : Request Rat) → Except (Fault Rat) r.Answer
  | .file _ _ => .ok ()
  | _ => .error (.foreign (.plain (.system .general) "not available"))

end Constant

/-- For two seconds, attempts with half a second between the first two, and twice as much between the next. -/
def RetryPolicy.brief : RetryPolicy Rat where
  timeout := 2
  interval := 1 / 2
  backoff := 2
  maxInterval := none
  not_negative := by decide +kernel
  not_still := by decide +kernel
  not_shrinking := by decide +kernel

theorem RetryPolicy.brief_sleeps : RetryPolicy.brief.Sleeps := by
  intro greatest hgreatest
  cases hgreatest

end ProxyTestbed
