import ProxyTestbed.Environment.SetUp
import ProxyTestbed.Proofs.Wait.Faults

/-!
# What setting up can end in

How setting up can fail depends on how far it came, and that is what the daemon told of the proxy: that it was
made and started, its log while it was waited for, and its attributes; and whether a sleep was refused. `EndsIn`
says with which faults setting up ends after what was told, and `Explained` what is reported of them.

* `EndsIn.policy_iff`, `EndsIn.inspection_iff`, `EndsIn.sleepless`: what was told decides about the faults that are
  no errors of the daemon or the system.
* `Reports.explained`: what is reported is as promised, but for four causes.
-/

namespace ProxyTestbed

variable {σ τ : Type}

/-- The address in a network and the published ports, as far as the attributes tell them. -/
def ContainerReport.addresses (network : String) (report : ContainerReport) :
    Except InspectionProblem (Datum × Dictionary Int) := do
  let settings ← Inspection.networkSettings report.attributes
  let ip ← Inspection.address settings network
  let ports ← Inspection.publishedPorts settings
  return (ip, ports)

theorem Fault.not_isPlain {N : Prop} {e : Fault τ} (hordinary : ¬ e.IsOrdinary) (hpromised : ¬ e.IsPromised)
    (hstalled : e ≠ .stalled) : ¬ e.IsPlain N := by
  rintro (h | h | ⟨h, _⟩)
  · exact hordinary h
  · exact hpromised h
  · exact hstalled h

/-- Causes that are not reported as promised are not plain. -/
theorem Fault.IsPlain.ne {N : Prop} {e : Fault τ} (h : e.IsPlain N) :
    (∀ p, e ≠ .policy p) ∧ (∀ p, e ≠ .inspection p) ∧ e ≠ .zeroByte := by
  refine ⟨?_, ?_, ?_⟩
  · rintro p rfl
    exact absurd h (not_isPlain (by rintro ⟨⟩) not_false (by rintro ⟨⟩))
  · rintro p rfl
    exact absurd h (not_isPlain (by rintro ⟨⟩) not_false (by rintro ⟨⟩))
  · rintro rfl
    exact absurd h (not_isPlain (by rintro ⟨⟩) not_false (by rintro ⟨⟩))

theorem Fault.isPlain_foreign_iff {N : Prop} {f : Foreign} :
    (foreign f : Fault τ).IsPlain N ↔ (f.isDocker || f.isSystem) = true := by
  refine ⟨?_, .inl⟩
  rintro (h | h | ⟨⟨⟩, _⟩)
  · exact h
  · cases h

namespace BreaksOff

variable {N : Prop} {late : List Telling} {e : Fault τ}

theorem ne (h : BreaksOff N late e) : (∀ p, e ≠ .policy p) ∧ ∀ p, e ≠ .inspection p := by
  cases h with
  | plain h => exact ⟨h.ne.1, h.ne.2.1⟩
  | sleepless f => simp

/-- What breaks a wait off is told only if it is a sleep that is refused. -/
theorem eq_of_mem {t : Telling} (h : BreaksOff N late e) (ht : t ∈ late) : ∃ f, t = .sleepless f ∧ e = .foreign f := by
  cases h with
  | plain _ => cases ht
  | sleepless f => exact ⟨f, List.mem_singleton.mp ht, rfl⟩

theorem cases_fault (h : BreaksOff N late e) : e.IsPlain N ∨ ∃ f, e = .foreign f ∧ .sleepless f ∈ late := by
  cases h with
  | plain h => exact .inl h
  | sleepless f => exact .inr ⟨f, rfl, List.mem_singleton_self _⟩

end BreaksOff

namespace Environment

/-! ## Endings -/

/-- With which faults setting up ends after what was told, the latest first. The waits for the proxy have the
policy, if there is one, and it is waited for with the line. -/
inductive EndsIn (N : Prop) [Seconds τ] (policy : Except PolicyProblem (RetryPolicy τ)) (line : String) :
    List Telling → Fault τ → Prop
  | unmade {e : Fault τ} (h : e.IsPlain N ∨ e = .zeroByte) : EndsIn N policy line [] e
  | unstarted {plan : ContainerPlan} {c : Container} {e : Fault τ} (h : e.IsPlain N) :
      EndsIn N policy line [.created plan c] e
  /-- The numbers that the policy is to be made from are looked at when the proxy runs. -/
  | noPolicy {plan : ContainerPlan} {c : Container} {p : PolicyProblem} (hpolicy : policy = .error p) :
      EndsIn N policy line [.started c, .created plan c] (.policy p)
  | waiting {plan : ContainerPlan} {c : Container} {late looks : List Telling} {e : Fault τ}
      (hpolicy : ∃ p, policy = .ok p) (hlooks : ∀ t ∈ looks, t.IsLook line) (h : BreaksOff N late e) :
      EndsIn N policy line (late ++ (looks ++ [.started c, .created plan c])) e
  | logged {plan : ContainerPlan} {c : Container} {content : Bytes} {looks : List Telling} {e : Fault τ}
      (hpolicy : ∃ p, policy = .ok p) (hlooks : ∀ t ∈ looks, t.IsLook line) (hline : HoldsLine line content)
      (h : e.IsPlain N) :
      EndsIn N policy line (.logged c content :: (looks ++ [.started c, .created plan c])) e
  | unreadable {plan : ContainerPlan} {c : Container} {content : Bytes} {looks : List Telling}
      {report : ContainerReport} {p : InspectionProblem} (hpolicy : ∃ p, policy = .ok p)
      (hlooks : ∀ t ∈ looks, t.IsLook line) (hline : HoldsLine line content)
      (hread : report.addresses plan.network = .error p) :
      EndsIn N policy line
        (.inspected c report :: .logged c content :: (looks ++ [.started c, .created plan c])) (.inspection p)
  /-- No port is published, or the wait for it is broken off. -/
  | inspected {plan : ContainerPlan} {c : Container} {content : Bytes} {late looks : List Telling}
      {report : ContainerReport} {a : Datum × Dictionary Int} {e : Fault τ} (hpolicy : ∃ p, policy = .ok p)
      (hlooks : ∀ t ∈ looks, t.IsLook line) (hline : HoldsLine line content)
      (hread : report.addresses plan.network = .ok a) (h : BreaksOff N late e) :
      EndsIn N policy line
        (late ++ (.inspected c report :: .logged c content :: (looks ++ [.started c, .created plan c]))) e

/-- A path that holds the character zero was asked for, or is that of a further file. -/
def NamesZero (extras : List (String × String)) (w w' : World σ τ) : Prop :=
  ∃ path : Path, path.hasZero = true ∧
    (Seen (Grants path) w w' ∨ ∃ file ∈ extras, path = .ofString file.1)

theorem NamesZero.between {P : (r : Request τ) → Except (Fault τ) r.Answer → Prop}
    {extras : List (String × String)} {w w₁ w₂ w₃ : World σ τ} (h : NamesZero extras w₁ w₂) (hasks : Asks P w w₁)
    (hasks' : Asks P w₂ w₃) : NamesZero extras w w₃ := by
  obtain ⟨path, hzero, hnamed⟩ := h
  exact ⟨path, hzero, hnamed.imp_left fun hseen => (hasks.seen hseen).asks hasks'⟩

section

variable {N : Prop} [Seconds τ] {policy : Except PolicyProblem (RetryPolicy τ)} {line : String}
  {ts : List Telling} {e : Fault τ}

/-- Right after a log with the line, the daemon told attributes of the container that cannot be read. -/
def TellsUnreadable (line : String) (p : InspectionProblem) (ts : List Telling) : Prop :=
  ∃ plan c content report rest, ts = .inspected c report :: .logged c content :: rest ∧
    HoldsLine line content ∧ .created plan c ∈ rest ∧ report.addresses plan.network = .error p

theorem EndsIn.cases_fault (h : EndsIn N policy line ts e) :
    e.IsPlain N ∨ e = .zeroByte ∨ (∃ p, e = .policy p) ∨ (∃ p, e = .inspection p) ∨
      ∃ f, e = .foreign f ∧ .sleepless f ∈ ts := by
  have hbroken {late rest : List Telling} (h : BreaksOff N late e) :
      e.IsPlain N ∨ ∃ f, e = .foreign f ∧ .sleepless f ∈ late ++ rest :=
    h.cases_fault.imp_right fun ⟨f, he, hf⟩ => ⟨f, he, List.mem_append_left _ hf⟩
  cases h with
  | unmade h => exact h.imp_right .inl
  | noPolicy _ => exact .inr (.inr (.inl ⟨_, rfl⟩))
  | unreadable _ _ _ _ => exact .inr (.inr (.inr (.inl ⟨_, rfl⟩)))
  | unstarted h | logged _ _ _ h => exact .inl h
  | waiting _ _ h | inspected _ _ _ _ h => exact (hbroken h).imp_right fun h => .inr (.inr (.inr h))

omit [Seconds τ] in
theorem sleepless_not_mem {looks : List Telling} (hlooks : ∀ t ∈ looks, t.IsLook line) (f : Foreign)
    (plan : ContainerPlan) (c : Container) : .sleepless f ∉ looks ++ [.started c, .created plan c] := by
  simp only [List.mem_append, List.mem_cons, List.not_mem_nil, reduceCtorEq, or_false]
  exact hlooks _

/-- A sleep that is refused is what setting up ends in. -/
theorem EndsIn.sleepless (h : EndsIn N policy line ts e) {f : Foreign} (hf : .sleepless f ∈ ts) :
    e = .foreign f := by
  have hbroken {late rest : List Telling} (h : BreaksOff N late e) (hrest : .sleepless f ∉ rest)
      (hf : .sleepless f ∈ late ++ rest) : e = .foreign f := by
    obtain ⟨g, ⟨⟩, he⟩ := h.eq_of_mem ((List.mem_append.mp hf).resolve_right hrest)
    exact he
  cases h with
  | unmade _ => cases hf
  | unstarted _ | noPolicy _ => simp at hf
  | waiting _ hlooks h => exact hbroken h (sleepless_not_mem hlooks f _ _) hf
  | logged _ hlooks _ _ | unreadable _ hlooks _ _ =>
    simp only [List.mem_cons, reduceCtorEq, false_or] at hf
    exact absurd hf (sleepless_not_mem hlooks f _ _)
  | inspected _ hlooks _ _ h =>
    refine hbroken h ?_ hf
    simp only [List.mem_cons, reduceCtorEq, false_or]
    exact sleepless_not_mem hlooks f _ _

theorem EndsIn.eq_nil_of_zeroByte (h : EndsIn N policy line ts e) (he : e = .zeroByte) :
    ts = [] ∨ ∃ f, .sleepless f ∈ ts := by
  have hbroken {late rest : List Telling} (h : BreaksOff N late e) : ∃ f, .sleepless f ∈ late ++ rest := by
    obtain ⟨f, -, hf⟩ := h.cases_fault.resolve_left fun hplain => absurd he hplain.ne.2.2
    exact ⟨f, List.mem_append_left _ hf⟩
  cases h with
  | unmade _ => exact .inl rfl
  | noPolicy _ | unreadable _ _ _ _ => cases he
  | unstarted h | logged _ _ _ h => exact absurd he h.ne.2.2
  | waiting _ _ h | inspected _ _ _ _ h => exact .inr (hbroken h)

/-- Numbers that make no policy are what setting up ends in if and only if the proxy was started. -/
theorem EndsIn.policy_iff (h : EndsIn N policy line ts e) (p : PolicyProblem) :
    e = .policy p ↔ policy = .error p ∧ ∃ c, .started c ∈ ts := by
  have hvalid (hpolicy : ∃ q, policy = .ok q) : policy ≠ .error p := by
    obtain ⟨q, rfl⟩ := hpolicy
    simp
  cases h with
  | unmade h =>
    refine iff_of_false ?_ (by simp)
    rcases h with h | rfl
    · exact h.ne.1 p
    · rintro ⟨⟩
  | unstarted h => exact iff_of_false (h.ne.1 p) (by simp)
  | noPolicy hpolicy => simp [hpolicy]
  | waiting hpolicy _ h | inspected hpolicy _ _ _ h =>
    exact iff_of_false (h.ne.1 p) fun hno => hvalid hpolicy hno.1
  | logged hpolicy _ _ h => exact iff_of_false (h.ne.1 p) fun hno => hvalid hpolicy hno.1
  | unreadable hpolicy _ _ _ => exact iff_of_false (by rintro ⟨⟩) fun hno => hvalid hpolicy hno.1

omit [Seconds τ] in
/-- The one plan that a container was made from. -/
theorem plan_of_mem {looks : List Telling} (hlooks : ∀ t ∈ looks, t.IsLook line) {plan plan' : ContainerPlan}
    {c c' : Container} (h : .created plan' c' ∈ looks ++ [.started c, .created plan c]) : plan' = plan := by
  rcases List.mem_append.mp h with h | h
  · exact False.elim (hlooks _ h)
  · simp only [List.mem_cons, reduceCtorEq, Telling.created.injEq, List.not_mem_nil, or_false, false_or] at h
    exact h.1

/-- Attributes that cannot be read are what setting up ends in if and only if they are told right after a log
with the line. -/
theorem EndsIn.inspection_iff (h : EndsIn N policy line ts e) (p : InspectionProblem) :
    e = .inspection p ↔ TellsUnreadable line p ts := by
  cases h with
  | unmade h =>
    refine iff_of_false ?_ (by simp [TellsUnreadable])
    rcases h with h | rfl
    · exact h.ne.2.1 p
    · rintro ⟨⟩
  | unstarted h => exact iff_of_false (h.ne.2.1 p) (by simp [TellsUnreadable])
  | noPolicy _ => exact iff_of_false (by rintro ⟨⟩) (by simp [TellsUnreadable])
  | @waiting plan c late looks e _ hlooks h =>
    refine iff_of_false (h.ne.2 p) ?_
    rintro ⟨plan', c', content, report, rest, hts, hline, _, _⟩
    have hmem : .logged c' content ∈ late ++ (looks ++ [.started c, .created plan c]) := by simp [hts]
    rcases List.mem_append.mp hmem with hmem | hmem
    · obtain ⟨f, ⟨⟩, _⟩ := h.eq_of_mem hmem
    rcases List.mem_append.mp hmem with hmem | hmem
    · exact hlooks _ hmem hline
    · simp at hmem
  | logged _ _ _ h =>
    refine iff_of_false (h.ne.2.1 p) ?_
    rintro ⟨_, _, _, _, _, hts, _⟩
    cases hts
  | @unreadable plan c content looks report p' _ hlooks hline hread =>
    constructor
    · rintro ⟨⟩
      exact ⟨plan, c, content, report, _, rfl, hline, by simp, hread⟩
    · rintro ⟨plan', _, _, _, _, ⟨⟩, _, hmem, hread'⟩
      rw [plan_of_mem hlooks hmem, hread] at hread'
      cases hread'
      rfl
  | @inspected plan c content late looks report a e _ hlooks hline hread h =>
    refine iff_of_false (h.ne.2 p) ?_
    rintro ⟨plan', _, _, _, _, hts, _, hmem, hread'⟩
    cases h with
    | plain _ =>
      cases hts
      rw [plan_of_mem hlooks hmem, hread] at hread'
      cases hread'
    | sleepless f => cases hts

end

/-! ## Reports -/

variable [Seconds τ]

/-- A fault that is reported for a cause that setting up ends in after what was told. -/
def Reports (N : Prop) (config : ProxyConfig) (settings : Settings τ) (w : World σ τ) (fault : Fault τ)
    (w' : World σ τ) : Prop :=
  ∃ id cause ts, fault = setUpFault id cause ∧ Tells w ts w' ∧
    EndsIn N (RetryPolicy.fixed settings.startupTimeout settings.pollInterval)
      (givenOr config.readyLog settings.readyLog) ts cause ∧
    (cause = .zeroByte → NamesZero config.extraFiles w w' ∨ ∃ f, .sleepless f ∈ ts)

theorem Reports.after_mute {N : Prop} {config : ProxyConfig} {settings : Settings τ} {w w₁ w' : World σ τ}
    {fault : Fault τ} (h : Reports N config settings w₁ fault w') (hmute : Asks Request.Mute w w₁) :
    Reports N config settings w fault w' := by
  obtain ⟨id, cause, ts, hfault, htells, hends, hzero⟩ := h
  exact ⟨id, cause, ts, hfault, htells.after_mute hmute, hends,
    fun he => (hzero he).imp_left fun hnamed => hnamed.between hmute (refl_of (Asks _) w')⟩

/-- The numbers of the settings make no policy, and this comes out when the proxy was started. -/
def LacksPolicy (settings : Settings τ) (p : PolicyProblem) (ts : List Telling) : Prop :=
  RetryPolicy.fixed settings.startupTimeout settings.pollInterval = .error p ∧ ∃ c, .started c ∈ ts

/-- A sleep was refused, for a reason that does not come from the daemon or the system. -/
def Sleepless (f : Foreign) (ts : List Telling) : Prop :=
  .sleepless f ∈ ts ∧ (f.isDocker || f.isSystem) = false

/-- How a fault of setting up goes with what was told, the latest first: it is as promised, but for numbers that
make no policy, attributes that cannot be read, sleeps that are refused and the character zero in a path. -/
structure Explained (config : ProxyConfig) (settings : Settings τ) (w w' : World σ τ) (ts : List Telling)
    (fault : Fault τ) : Prop where
  promised_iff : fault.IsPromised ↔ (∀ p, ¬ LacksPolicy settings p ts) ∧
    (∀ p, ¬ TellsUnreadable (givenOr config.readyLog settings.readyLog) p ts) ∧
    (∀ f, ¬ Sleepless f ts) ∧ fault ≠ .zeroByte
  policy : ∀ p, fault = .policy p ↔ LacksPolicy settings p ts
  inspection : ∀ p, fault = .inspection p ↔ TellsUnreadable (givenOr config.readyLog settings.readyLog) p ts
  sleepless : ∀ f, Sleepless f ts → fault = .foreign f
  zeroByte : fault = .zeroByte → NamesZero config.extraFiles w w' ∨ ∃ f, Sleepless f ts

omit [Seconds τ] in
/-- A fault that comes from the daemon or the system is reported as promised. -/
theorem setUpFault_cases {N : Prop} {e : Fault τ} (h : e.IsPlain N) (id : String) :
    (setUpFault id e).IsPromised ∨ setUpFault id e = .stalled ∧ N := by
  rcases h with h | h | ⟨rfl, hN⟩
  · obtain ⟨f, rfl, hf⟩ := Fault.exists_foreign h
    have htestbed : f.isTestbed = false := by
      unfold Foreign.isTestbed
      cases hkind : f.kind with
      | testbed _ => simp [Foreign.isDocker, Foreign.isSystem, hkind] at hf
      | _ => rfl
    simp [setUpFault, htestbed, hf, Fault.IsPromised]
  · cases e with
    | provisioning p => exact .inl trivial
    | notReady target timeout detail => exact .inl trivial
    | _ => cases h
  · exact .inr ⟨rfl, hN⟩

omit [Seconds τ] in
theorem setUpFault_foreign {f : Foreign} (hf : (f.isDocker || f.isSystem) = false) (id : String) :
    (setUpFault id (.foreign f) : Fault τ) = .foreign f := by
  simp [setUpFault, hf]

/-- Where every wait comes to an end, so does setting up. -/
theorem Reports.ne_stalled {config : ProxyConfig} {settings : Settings τ} {w w' : World σ τ} {fault : Fault τ}
    (h : Reports False config settings w fault w') : fault ≠ .stalled := by
  rintro rfl
  obtain ⟨id, cause, ts, hfault, _, hends, _⟩ := h
  rcases hends.cases_fault with hplain | rfl | ⟨p, rfl⟩ | ⟨p, rfl⟩ | ⟨f, rfl, _⟩
  · rcases setUpFault_cases hplain id with hpromised | ⟨_, hno⟩
    · rw [← hfault] at hpromised
      exact hpromised
    · exact hno
  · cases hfault
  · cases hfault
  · cases hfault
  · simp only [setUpFault] at hfault
    split at hfault
    · cases hfault
    · cases hfault

theorem Reports.explained {N : Prop} {config : ProxyConfig} {settings : Settings τ} {w w' : World σ τ}
    {fault : Fault τ} (h : Reports N config settings w fault w') (hstalled : fault ≠ .stalled) :
    ∃ ts, Tells w ts w' ∧ Explained config settings w w' ts fault := by
  obtain ⟨id, cause, ts, rfl, htells, hends, hzero⟩ := h
  refine ⟨ts, htells, ?_⟩
  have hpolicy (p : PolicyProblem) : cause = .policy p ↔ LacksPolicy settings p ts := hends.policy_iff p
  have hinspection (p : InspectionProblem) := hends.inspection_iff p
  have hsleepless (f : Foreign) (hf : Sleepless f ts) : setUpFault id cause = .foreign f := by
    rw [hends.sleepless hf.1, setUpFault_foreign hf.2]
  by_cases hplain : cause.IsPlain N
  · have hpromised := (setUpFault_cases hplain id).resolve_right fun hno => hstalled hno.1
    have hlacks (p : PolicyProblem) : ¬ LacksPolicy settings p ts := (hpolicy p).not.mp (hplain.ne.1 p)
    have hreads (p : InspectionProblem) := (hinspection p).not.mp (hplain.ne.2.1 p)
    have hrests (f : Foreign) : ¬ Sleepless f ts := by
      intro hf
      rw [hends.sleepless hf.1, Fault.isPlain_foreign_iff, hf.2] at hplain
      cases hplain
    have hne := (Fault.IsPromised.plain (N := N) hpromised).ne
    exact {
      promised_iff := iff_of_true hpromised ⟨hlacks, hreads, hrests, hne.2.2⟩
      policy := fun p => iff_of_false (hne.1 p) (hlacks p)
      inspection := fun p => iff_of_false (hne.2.1 p) (hreads p)
      sleepless := hsleepless
      zeroByte := fun he => absurd he hne.2.2 }
  -- the other causes are reported as they are, so what holds of the cause holds of the fault
  have hexplained (hcause : setUpFault id cause = cause) (hno : ¬ cause.IsPromised)
      (hwhy : ¬ ((∀ p, ¬ LacksPolicy settings p ts) ∧
        (∀ p, ¬ TellsUnreadable (givenOr config.readyLog settings.readyLog) p ts) ∧
        (∀ f, ¬ Sleepless f ts) ∧ cause ≠ .zeroByte)) :
      Explained config settings w w' ts (setUpFault id cause) := by
    rw [hcause] at hsleepless ⊢
    refine ⟨iff_of_false hno hwhy, hpolicy, hinspection, hsleepless, fun he => (hzero he).imp_right ?_⟩
    rintro ⟨f, hf⟩
    refine ⟨f, hf, Bool.eq_false_iff.mpr fun hordinary => hplain ?_⟩
    rw [hends.sleepless hf]
    exact Fault.isPlain_foreign_iff.mpr hordinary
  rcases hends.cases_fault with hplain' | rfl | ⟨p, rfl⟩ | ⟨p, rfl⟩ | ⟨f, rfl, hf⟩
  · exact absurd hplain' hplain
  · exact hexplained rfl not_false fun h => h.2.2.2 rfl
  · exact hexplained rfl not_false fun h => h.1 p ((hpolicy p).mp rfl)
  · exact hexplained rfl not_false fun h => h.2.1 p ((hinspection p).mp rfl)
  · have hother : (f.isDocker || f.isSystem) = false :=
      Bool.eq_false_iff.mpr fun hordinary => hplain (Fault.isPlain_foreign_iff.mpr hordinary)
    exact hexplained (setUpFault_foreign hother id) not_false fun h => h.2.2.1 f ⟨hf, hother⟩

end Environment

end ProxyTestbed
