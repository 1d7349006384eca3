import ProxyTestbed.Proofs.Environment.Faults
import ProxyTestbed.Proofs.Fleet.Provision
import ProxyTestbed.Proofs.Wait.Constant

/-!
# What provisioning reports

Provisioning promises to fail with a problem of provisioning, or with a wait that was given up. Whatever errors
the daemon and the system answer, it keeps this promise but for four other causes: numbers in the settings that
make no policy for its waits, a sleep that is refused, attributes of the proxy that cannot be read, and the
character zero in a path.

* `provision_promised_iff`: the faults that leave provisioning, and when.
-/

namespace ProxyTestbed

variable {σ τ : Type} [Seconds τ]

/-- The numbers that make no policy of a constant interval. -/
theorem RetryPolicy.fixed_eq_error_iff {timeout interval : Rat} {p : PolicyProblem} :
    fixed timeout interval = .error p ↔
      timeout < 0 ∧ p = .negativeTimeout ∨ ¬ timeout < 0 ∧ interval ≤ 0 ∧ p = .noInterval := by
  have hbackoff : ¬ (usualBackoff : Rat) < 1 := by decide +kernel
  simp only [fixed, make, Seconds.zero_rat, Seconds.one_rat, hbackoff]
  split
  · simp_all [eq_comm]
  · split <;> simp_all [eq_comm]

namespace Environment

theorem waitsEnd_true [Host σ τ] (settings : Settings τ) : WaitsEnd σ True settings where
  log _ _ _ _ := fun _ => after_trivial.mono fun _ _ _ _ _ _ => trivial
  port _ _ _ _ := fun _ => after_trivial.mono fun _ _ _ _ _ _ => trivial

/-- On a clock that ticks, no wait of an environment goes on for too long. -/
theorem waitsEnd_ticking [Host σ Rat] (hordinary : Host.Ordinary σ) (hticking : Host.Ticking σ)
    (settings : Settings Rat) : WaitsEnd σ False settings := by
  have hsleeps {policy : RetryPolicy Rat}
      (h : RetryPolicy.fixed settings.startupTimeout settings.pollInterval = .ok policy) : policy.Sleeps := by
    obtain ⟨_, _, _, hmax⟩ := RetryPolicy.of_fixed h
    simp [RetryPolicy.Sleeps, hmax]
  constructor
  · exact fun policy h c line => Wait.untilLogged_ends hordinary hticking (hsleeps h) c c.name line
  · exact fun policy h host port => Wait.untilReachable_ends hordinary hticking (hsleeps h) host port _ _ _

end Environment

def Telling.isStarted : Telling → Bool
  | .started _ => true
  | _ => false

theorem Telling.exists_started {ts : List Telling} (h : ts.any (·.isStarted) = true) : ∃ c, .started c ∈ ts := by
  obtain ⟨t, ht, hstarted⟩ := List.any_eq_true.mp h
  cases t with
  | started c => exact ⟨c, ht⟩
  | _ => cases hstarted

namespace Fleet

open Environment

/-- What provisioning ends in, if it fails: what setting up ends in, as it is reported. -/
theorem after_provision_faults [Host σ τ] (hordinary : Host.Ordinary σ) {N : Prop} {r : Request τ}
    (hclient : r.connects = false) (hwaits : WaitsEnd σ N r.settings) (w : World σ τ) (f : Fleet τ) :
    After (provision r) (w, f) fun res s' =>
      ∀ fault, res = .error fault → Reports N r.config r.settings w fault s'.1 := by
  unfold provision prepare
  rw [hclient]
  have hid : After (freshEnvironmentId : Act σ τ String) w fun r w' => (∃ id, r = .ok id) ∧
      Asks Request.Mute w w' :=
    ⟨⟨_, rfl⟩, keeps_freshId w⟩
  refine after_bind (P := fun x s' => ∃ outcome e, x = .ok (outcome, e) ∧
    ∀ fault, outcome = .error fault → Reports N r.config r.settings w fault s'.1)
    (after_world ?prepared) ?concluded (by simp)
  case prepared =>
    refine after_bind hid ?_ (by simp)
    rintro id w₁ ⟨_, hmute⟩
    have hsetUp := after_setUpOrAbort_faults hordinary (givenOr r.image r.settings.image) r.config id r.settings
      (some r.registry) hwaits w₁
    exact after_start (hsetUp.mono fun outcome s₂ hreports =>
      ⟨outcome, s₂.2, rfl, fun fault hr => (hreports fault hr).after_mute hmute⟩)
  case concluded =>
    rintro _ s₁ ⟨outcome, e, ⟨⟩, hreports⟩
    refine after_conclude_bind ?_ ?_
    · rintro _ rfl
      refine after_bind (after_add e s₁) ?_ (by simp)
      intro n s₂ _
      exact after_change_bind (after_record_bind fun s' _ => after_pure (by simp))
    · rintro fault rfl _ ⟨⟩
      exact hreports fault rfl

/-- **Provisioning reports what it promises**, a problem of provisioning or a wait that was given up, if and only
if none of four things happened. The numbers of the settings make no policy, which comes out when the proxy was
started; a sleep is refused while the proxy is waited for, or when its port is reached; the attributes that the
daemon told when the proxy was ready cannot be read; or a path has the character zero in it, that of the directory
or of a further file. Each of these leaves provisioning as it is. All other errors of the daemon and the system, at
any call, are reported as promised, and on a clock that ticks provisioning always comes to an end. -/
theorem provision_promised_iff [Host σ τ] (hordinary : Host.Ordinary σ) (r : Request τ)
    (hclient : r.connects = false) (w : World σ τ) (f : Fleet τ) :
    (After (provision r) (w, f) fun res s' => ∀ fault, res = .error fault → fault ≠ .stalled →
      ∃ ts, Tells w ts s'.1 ∧ Explained r.config r.settings w s'.1 ts fault) ∧
    ∀ {κ : Type} [Host κ Rat] (r : Request Rat) (w : World κ Rat) (f : Fleet Rat), Host.Ordinary κ →
      Host.Ticking κ → r.connects = false → After (provision r) (w, f) fun res _ => res ≠ .error .stalled := by
  constructor
  · refine (after_provision_faults hordinary hclient (waitsEnd_true r.settings) w f).mono ?_
    exact fun res s' hreports fault hr hstalled => (hreports fault hr).explained hstalled
  · intro κ _ r w f hordinary hticking hclient
    have hwaits := waitsEnd_ticking hordinary hticking r.settings
    refine (after_provision_faults hordinary hclient hwaits w f).mono ?_
    exact fun res s' hreports hstalled => (hreports .stalled hstalled).ne_stalled rfl

/-- A daemon that makes and starts everything, and does nothing more. -/
def starting : (r : ProxyTestbed.Request Rat) → Except (Fault Rat) r.Answer
  | .docker (.createNetwork name _) => .ok ⟨0, name⟩
  | .docker (.create plan) => .ok ⟨0, plan.name⟩
  | .docker (.findImage _) | .docker (.start _) | .file _ _ => .ok ()
  | _ => .error (.foreign (.plain (.docker .api) "server error"))

theorem ordinary_starting : Host.Ordinary (Constant starting) := by
  intro r h e he
  change starting r = .error e at he
  unfold starting at he
  split at he <;> cases he
  rfl

-- irreducible, since it is costly to compute what it brings about
/-- An order for an environment that waits without an interval. -/
@[irreducible] def hastyRequest : Request Rat :=
  ⟨none, .usual, { Settings.standard with pollInterval := 0 }, false, .shared⟩

/-- The problem with the interval comes out when the proxy was started, and it is not reported as promised. -/
theorem provision_promised_iff_hasty :
    After (provision hastyRequest) ((Constant.begin, .empty) : World (Constant starting) Rat × Fleet Rat)
      fun res _ => ∃ fault, res = .error fault ∧ fault = .policy .noInterval ∧ ¬ fault.IsPromised := by
  have hfails : After (provision hastyRequest)
      ((Constant.begin, .empty) : World (Constant starting) Rat × Fleet Rat) fun res s' =>
        res.toOption = none ∧ (s'.1.past.filterMap Event.telling?).any (·.isStarted) = true := by
    decide +kernel
  have hclient : hastyRequest.connects = false := by decide +kernel
  have hpolicy : RetryPolicy.fixed hastyRequest.settings.startupTimeout hastyRequest.settings.pollInterval =
      .error .noInterval :=
    RetryPolicy.fixed_eq_error_iff.mpr (.inr (by decide +kernel))
  have hreports := provision_promised_iff ordinary_starting hastyRequest hclient Constant.begin .empty
  have hends := hreports.2 hastyRequest Constant.begin .empty ordinary_starting Constant.exact.steady.toTicking hclient
  refine ((hfails.and hreports.1).and hends).mono ?_
  rintro (fault | _) s' ⟨⟨⟨hno, hstarted⟩, hexplained⟩, hends⟩
  · obtain ⟨ts, ⟨es, hpast, rfl⟩, hexplained⟩ := hexplained fault rfl fun hstalled => hends (hstalled ▸ rfl)
    rw [hpast.trans (List.append_nil es)] at hstarted
    have hlacks : LacksPolicy hastyRequest.settings .noInterval (es.filterMap Event.telling?) :=
      ⟨hpolicy, Telling.exists_started hstarted⟩
    exact ⟨fault, rfl, (hexplained.policy _).mpr hlacks, fun hpromised =>
      (hexplained.promised_iff.mp hpromised).1 _ hlacks⟩
  · cases hno

end Fleet

end ProxyTestbed
