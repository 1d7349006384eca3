import Mathlib.Algebra.BigOperators.Group.List.Basic
import Mathlib.Algebra.Order.Floor.Semiring
import Mathlib.Data.Rat.Floor
import ProxyTestbed.Proofs.Wait.Rounds

/-!
# The timetable of a wait

On an exact clock, rounds are tied to their times: each one begins when the sleep of the one before has
ended, and each sleep is cut off at the deadline. `Timetable` says so without a world, and all that follows
for the times of a wait and for the number of its attempts is arithmetic on it.

* `Rounds.timetable`: the rounds of a loop keep to a timetable.
* `RoundsFor.onTime`: no attempt begins after the deadline, and so a wait outlives it by at most one attempt.
* `RoundsFor.counted`: there is at most one attempt for each least interval that fits into the timeout, and
  one more.
-/

namespace ProxyTestbed

/-- Rounds that begin at a time, the first of them with a number, and end at another time. -/
inductive Timetable (policy : RetryPolicy Rat) (expires : Rat) : Nat → Rat → List Round → Rat → Prop
  | last {number : Nat} {begun ended : Rat} {decided : Bool} (hended : begun ≤ ended)
      (hover : decided = false → expires ≤ ended) :
      Timetable policy expires number begun [⟨begun, ended, decided, none⟩] ended
  | again {number : Nat} {begun ended seconds finish : Rat} {rounds : List Round} (hended : begun ≤ ended)
      (hleft : ended < expires) (hseconds : seconds = min (policy.nth number) (expires - ended))
      (hrest : Timetable policy expires (number + 1) (ended + seconds) rounds finish) :
      Timetable policy expires number begun (⟨begun, ended, false, some seconds⟩ :: rounds) finish

section

variable {σ ω α β : Type} [Host σ Rat] {policy : RetryPolicy Rat} {deadline : Deadline Rat}
  {try_ : Nat → On σ Rat ω (Except β α)} {number : Nat} {s s' : World σ Rat × ω} {rounds : List Round}
  {outcome : Except (Fault Rat) (Except β α)}

theorem Rounds.timetable (hexact : Host.Exact σ) (h : policy.Sleeps)
    (htry : ∀ number, Keeps (Beside Onward) (try_ number))
    (hrounds : Rounds policy deadline try_ number s rounds outcome s') :
    Timetable policy deadline.expires number s.1.time rounds s'.1.time := by
  induction hrounds with
  | @last decided number s s' outcome hrun hdecided hover =>
    refine .last ((htry number s).attempted hrun) fun hundecided => ?_
    exact Deadline.isOver_iff.mp (hover (hdecided.mp hundecided))
  | @again number s s₁ s₂ s' seen seconds rounds outcome hrun hover hseconds hsleep hrest ih =>
    have hleft : s₁.1.time < deadline.expires := Deadline.not_isOver_iff.mp hover
    rw [Seconds.least_rat, Deadline.remaining_of_not_isOver hover] at hseconds
    have hnonneg : 0 ≤ seconds := by
      rw [hseconds]
      exact le_min (RetryPolicy.zero_lt_nth h number).le (by linarith)
    rw [time_sleep hexact hnonneg (of_world_ok hsleep).1] at ih
    exact .again ((htry number).of_ok hrun) hleft hseconds ih

end

namespace Timetable

variable {policy : RetryPolicy Rat} {expires begun finish : Rat} {number : Nat} {rounds : List Round}

/-! ## Times -/

theorem next_le {interval ended seconds : Rat} (h : seconds = min interval (expires - ended)) :
    ended + seconds ≤ expires := by
  have hle := min_le_right interval (expires - ended)
  rw [← h] at hle
  linarith

theorem head? (h : Timetable policy expires number begun rounds finish) :
    rounds.head?.map (·.begun) = some begun := by
  cases h with
  | last => rfl
  | again => rfl

theorem begun_le (h : Timetable policy expires number begun rounds finish) (hbegun : begun ≤ expires) :
    ∀ x ∈ rounds, x.begun ≤ expires := by
  induction h with
  | last => simpa using hbegun
  | again _ _ hseconds _ ih => exact List.forall_mem_cons.mpr ⟨hbegun, ih (next_le hseconds)⟩

theorem isChain (h : Timetable policy expires number begun rounds finish) :
    rounds.IsChain fun x y => ∃ seconds, x.slept = some seconds ∧ y.begun = x.ended + seconds := by
  induction h with
  | last => exact .singleton _
  | again _ _ _ hrest ih =>
    cases hrest with
    | last => exact .cons_cons ⟨_, rfl, rfl⟩ ih
    | again => exact .cons_cons ⟨_, rfl, rfl⟩ ih

/-- A sleep takes some time, but not more than its interval, and ends by the deadline. -/
theorem slept (hsleeps : policy.Sleeps) (h : Timetable policy expires number begun rounds finish) (k : Nat)
    {x : Round} {seconds : Rat} (hx : rounds[k]? = some x) (hslept : x.slept = some seconds) :
    0 < seconds ∧ seconds ≤ policy.nth (number + k) ∧ x.ended + seconds ≤ expires := by
  induction h generalizing k with
  | last =>
    cases k with
    | zero =>
      cases hx
      cases hslept
    | succ k => simp at hx
  | @again number begun ended seconds' finish rounds _ hleft hseconds _ ih =>
    cases k with
    | zero =>
      cases hx
      cases hslept
      have hpos := RetryPolicy.zero_lt_nth hsleeps number
      refine ⟨?_, hseconds.trans_le (min_le_left _ _), next_le hseconds⟩
      rw [hseconds]
      exact lt_min hpos (by linarith)
    | succ k =>
      have hnumber : number + 1 + k = number + (k + 1) := by
        omega
      rw [← hnumber]
      exact ih k hx

theorem sum_slept_le (h : Timetable policy expires number begun rounds finish) (hbegun : begun ≤ expires) :
    (rounds.filterMap (·.slept)).sum ≤ expires - begun := by
  induction h with
  | last => simpa using hbegun
  | @again number begun ended seconds finish rounds hended _ hseconds _ ih =>
    have hrest := ih (next_le hseconds)
    simp only [List.filterMap_cons, List.sum_cons]
    linarith

/-- A round that ends later than the deadline is the last one. -/
theorem finish_le (h : Timetable policy expires number begun rounds finish) (hbegun : begun ≤ expires)
    {longest : Rat} (hlongest : ∀ x ∈ rounds, x.ended - x.begun ≤ longest) : finish ≤ expires + longest := by
  induction h with
  | last =>
    have hlast := hlongest _ (List.mem_singleton.mpr rfl)
    dsimp only at hlast
    linarith
  | again _ _ hseconds _ ih =>
    exact ih (next_le hseconds) fun x hx => hlongest x (List.mem_cons_of_mem _ hx)

theorem expires_le (h : Timetable policy expires number begun rounds finish)
    (hundecided : ∀ x ∈ rounds, x.decided = false) : expires ≤ finish := by
  induction h with
  | last _ hover => exact hover (hundecided _ (List.mem_singleton.mpr rfl))
  | again _ _ _ _ ih => exact ih fun x hx => hundecided x (List.mem_cons_of_mem _ hx)

/-! ## Attempts -/

/-- A sleep of at least the least interval leaves at least one attempt less. -/
theorem ceil_after_le {left interval least : Rat} (hleast : 0 < least) (hinterval : least ≤ interval)
    (hleft : 0 < left) : ⌈(left - min interval left) / least⌉₊ + 1 ≤ ⌈left / least⌉₊ := by
  rcases le_total left interval with hshort | hlong
  · rw [min_eq_right hshort, sub_self, zero_div, Nat.ceil_zero]
    exact Nat.ceil_pos.mpr (div_pos hleft hleast)
  · rw [min_eq_left hlong, ← Nat.ceil_add_one (div_nonneg (by linarith) hleast.le)]
    refine Nat.ceil_mono ?_
    rw [← le_sub_iff_add_le, div_sub_one hleast.ne']
    exact div_le_div_of_nonneg_right (by linarith) hleast.le

/-- A sleep of at most an interval leaves at most one attempt less. -/
theorem le_ceil_after {left interval : Rat} (hinterval : 0 < interval) :
    ⌈left / interval⌉₊ ≤ ⌈(left - min interval left) / interval⌉₊ + 1 := by
  have hnonneg : 0 ≤ (left - min interval left) / interval :=
    div_nonneg (sub_nonneg.mpr (min_le_right _ _)) hinterval.le
  rw [← Nat.ceil_add_one hnonneg]
  refine Nat.ceil_mono ?_
  rw [← sub_le_iff_le_add, div_sub_one hinterval.ne']
  exact div_le_div_of_nonneg_right (sub_le_sub_left (min_le_left _ _) _) hinterval.le

theorem length_le (hsleeps : policy.Sleeps) (h : Timetable policy expires number begun rounds finish) :
    rounds.length ≤ ⌈(expires - begun) / policy.leastInterval⌉₊ + 1 := by
  have hpos := RetryPolicy.zero_lt_leastInterval hsleeps
  induction h with
  | last => simp
  | @again number begun ended seconds finish rounds hended hleft hseconds _ ih =>
    -- the attempt may take time, and the sleep takes at least the least interval or all that is left
    have hafter : ⌈(expires - (ended + seconds)) / policy.leastInterval⌉₊ + 1 ≤
        ⌈(expires - ended) / policy.leastInterval⌉₊ := by
      rw [← sub_sub, hseconds]
      exact ceil_after_le hpos (RetryPolicy.leastInterval_le_nth hsleeps number) (by linarith)
    have hmono : ⌈(expires - ended) / policy.leastInterval⌉₊ ≤
        ⌈(expires - begun) / policy.leastInterval⌉₊ :=
      Nat.ceil_mono (div_le_div_of_nonneg_right (by linarith) hpos.le)
    rw [List.length_cons]
    omega

/-- With one interval, and attempts that decide nothing and take no time, the last attempt comes at the
deadline, and none is left out before it. -/
theorem exhausted {interval : Rat} (hinterval : 0 < interval)
    (hfixed : ∀ number, policy.nth number = interval)
    (h : Timetable policy expires number begun rounds finish) (hbegun : begun ≤ expires)
    (hidle : ∀ x ∈ rounds, x.decided = false ∧ x.ended = x.begun) :
    rounds.length = ⌈(expires - begun) / interval⌉₊ + 1 ∧ finish = expires := by
  induction h with
  | last _ hover =>
    obtain ⟨hundecided, hended⟩ := hidle _ (List.mem_singleton.mpr rfl)
    dsimp only at hundecided hended
    have hend := le_antisymm hbegun (hended ▸ hover hundecided)
    rw [hended, hend]
    simp
  | @again number begun ended seconds finish rounds _ hleft hseconds _ ih =>
    obtain ⟨_, hended⟩ := hidle _ List.mem_cons_self
    dsimp only at hended
    subst hended
    obtain ⟨hlength, hfinish⟩ := ih (next_le hseconds) fun x hx => hidle x (List.mem_cons_of_mem _ hx)
    rw [hfixed number] at hseconds
    refine ⟨?_, hfinish⟩
    -- the same interval bounds the sleep from both sides
    have hafter : ⌈(expires - (ended + seconds)) / interval⌉₊ + 1 = ⌈(expires - ended) / interval⌉₊ := by
      rw [← sub_sub, hseconds]
      exact le_antisymm (ceil_after_le hinterval (le_refl _) (by linarith)) (le_ceil_after hinterval)
    rw [List.length_cons, hlength, hafter]

end Timetable

/-! ## What the rounds of a wait come to -/

/-- The times of a wait that begins at a time and gets a timeout. -/
structure OnTime {β α : Type} (policy : RetryPolicy Rat) (start timeout : Rat) (rounds : List Round)
    (outcome : Except (Fault Rat) (Except β α)) (finish : Rat) : Prop where
  /-- The first attempt comes before any sleep. -/
  first : rounds.head?.map (·.begun) = some start
  /-- Between two attempts there is a sleep and nothing else. -/
  next : rounds.IsChain fun x y => ∃ seconds, x.slept = some seconds ∧ y.begun = x.ended + seconds
  begun : ∀ x ∈ rounds, x.begun ≤ start + timeout
  slept : ∀ k x seconds, rounds[k]? = some x → x.slept = some seconds →
    0 < seconds ∧ seconds ≤ policy.nth k ∧ x.ended + seconds ≤ start + timeout
  total : (rounds.filterMap (·.slept)).sum ≤ timeout
  gaveUp : GaveUp outcome → start + timeout ≤ finish
  /-- The wait outlives its deadline by one attempt at most. -/
  overrun : ∀ longest, (∀ x ∈ rounds, x.ended - x.begun ≤ longest) → finish ≤ start + timeout + longest

/-- The number of attempts of a wait that begins at a time and gets a timeout. -/
structure Counted {β α : Type} (policy : RetryPolicy Rat) (start timeout : Rat) (rounds : List Round)
    (outcome : Except (Fault Rat) (Except β α)) (finish : Rat) : Prop where
  atMost : rounds.length ≤ ⌈timeout / policy.leastInterval⌉₊ + 1
  idle : policy.IsFixed → (∀ x ∈ rounds, x.decided = false ∧ x.ended = x.begun) →
    GaveUp outcome ∧ rounds.length = ⌈timeout / policy.interval⌉₊ + 1 ∧ finish = start + timeout

section

variable {σ ω α β : Type} [Host σ Rat] {policy : RetryPolicy Rat} {timeout : Rat}
  {try_ : Deadline Rat → Nat → On σ Rat ω (Except β α)} {s s' : World σ Rat × ω} {rounds : List Round}
  {outcome : Except (Fault Rat) (Except β α)} (hexact : Host.Exact σ) (hsleeps : policy.Sleeps)
  (htimeout : 0 ≤ timeout) (htry : ∀ deadline number, Keeps (Beside Onward) (try_ deadline number))
  (h : RoundsFor policy timeout try_ s rounds outcome s')

include hexact hsleeps htimeout htry h

theorem RoundsFor.onTime : OnTime policy s.1.time timeout rounds outcome s'.1.time := by
  have htable : Timetable policy (s.1.time + timeout) 0 s.1.time rounds s'.1.time :=
    h.timetable hexact hsleeps (htry _)
  have hbegun : s.1.time ≤ s.1.time + timeout := by
    linarith
  refine ⟨htable.head?, htable.isChain, htable.begun_le hbegun, fun k x seconds hx hslept => ?_, ?_,
    fun hgaveUp => htable.expires_le (h.gaveUp_iff.mp hgaveUp), fun _ => htable.finish_le hbegun⟩
  · have hslept := htable.slept hsleeps k hx hslept
    rwa [Nat.zero_add] at hslept
  · have htotal := htable.sum_slept_le hbegun
    rwa [add_sub_cancel_left] at htotal

theorem RoundsFor.counted : Counted policy s.1.time timeout rounds outcome s'.1.time := by
  have htable : Timetable policy (s.1.time + timeout) 0 s.1.time rounds s'.1.time :=
    h.timetable hexact hsleeps (htry _)
  have hbegun : s.1.time ≤ s.1.time + timeout := by
    linarith
  refine ⟨?_, fun hfixed hidle => ⟨h.gaveUp_iff.mpr fun x hx => (hidle x hx).1, ?_⟩⟩
  · have hlength := htable.length_le hsleeps
    rwa [add_sub_cancel_left] at hlength
  · have hexhausted := htable.exhausted policy.zero_lt_interval hfixed hbegun hidle
    rwa [add_sub_cancel_left] at hexhausted

end

end ProxyTestbed
