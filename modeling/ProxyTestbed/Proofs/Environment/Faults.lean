import ProxyTestbed.Proofs.Cleanup.Requests
import ProxyTestbed.Proofs.Environment.Endings
import ProxyTestbed.Proofs.Environment.SetUp

/-!
# How setting up fails

Each part of setting up is followed with what is told meanwhile and with the faults that it may end in;
together they are the endings of setting up.

* `after_setUp_faults`: what setting up ends in, if it fails.
* `after_abort_quiet`: what was acquired is released without a fault, and nothing more is told.
* `after_setUpOrAbort_faults`: what is reported when setting up fails.
-/

namespace ProxyTestbed

variable {σ τ : Type}

namespace Environment

/-! ## Parts of setting up -/

variable [Host σ τ]

theorem keeps_checkImage_mute (image : String) : Keeps (Asks Request.Mute) (checkImage image : Act σ τ Unit) :=
  have hmute : ∀ a, (Request.docker (.findImage image) : Request τ).Mute a := fun _ => rfl
  (keeps_docker hmute).reporting

variable {F : Fault τ → Prop}

theorem raises_checkImage (hordinary : Host.Ordinary σ) {N : Prop} (image : String) :
    Raises (Fault.IsPlain N) (checkImage image : Act σ τ Unit) := by
  refine (hordinary.raises_ask (.docker (.findImage image))).reporting (fun e he => ?_) fun _ => Fault.IsOrdinary.plain
  split
  · exact .inr (.inl trivial)
  · exact .inl he

theorem makes_makeTree (scratch : Path) : MakesFiles F (makeTree scratch : Act σ τ Unit) :=
  have hdirectories (path : Path) : MakesFiles F (Files.makeDirectories false path : Act σ τ Unit) :=
    Files.makes_makeDirectories false path
  (hdirectories _).bind fun _ => (hdirectories _).bind fun _ =>
    (hdirectories _).bind fun _ => hdirectories _

theorem makes_writeExtras (hpromised : ∀ e : Fault τ, e.IsPromised → F e) {config : Path}
    (hconfig : config.hasZero = true → F .zeroByte) {extras : List (String × String)}
    (hextras : ∀ file ∈ extras, (Path.ofString file.1).hasZero = true → F .zeroByte) :
    MakesFiles F (writeExtras config extras : Act σ τ Unit) := by
  induction extras with
  | nil => exact .pure ()
  | cons file extras ih =>
    obtain ⟨relative, content⟩ := file
    obtain ⟨hfile, hextras⟩ := List.forall_mem_cons.mp hextras
    have htarget (h : (config.child relative).hasZero = true) : F .zeroByte := by
      rcases Path.hasZero_child h with h | h
      · exact hconfig h
      · exact hfile h
    refine (Files.makes_resolve htarget).bind fun target => (Files.makes_resolve hconfig).bind fun whole => ?_
    have hrest : MakesFiles F (do
        Files.makeDirectories true target.parent
        Files.write target (Text.utf8 content)
        writeExtras config extras : Act σ τ Unit) :=
      (Files.makes_makeDirectories _ _).bind fun _ =>
        (Files.makes_write _ _).bind fun _ => ih hextras
    split
    · exact .of_raises (.throw_bind _ _) (raises_throw_bind (hpromised (.provisioning _) trivial) _)
    · exact hrest

theorem makes_makeScratch (id : String) (root : Option String) :
    MakesFiles F (makeScratch id root : Act σ τ Path) := by
  have hquiet {α : Type} {act : Act σ τ α} (hkeeps : Keeps Makes act) (hok : ∀ w e w', act w ≠ .error e w') :
      MakesFiles F act :=
    .of_raises hkeeps fun w => .of_run (by simp) fun e w' hrun => absurd hrun (hok w e w')
  refine (hquiet keeps_temporaryDirectory (by rintro w e w' ⟨⟩)).bind fun usual => ?_
  refine (hquiet keeps_freshEnding (by rintro w e w' ⟨⟩)).bind fun ending => ?_
  exact (Files.makes_makeDirectoryCalled _ _).bind fun _ => .pure _

/-- The directory that is made was asked for. -/
theorem after_makeScratch_grants (id : String) (root : Option String) (w : World σ τ) :
    After (makeScratch id root) w fun r w' => ∀ path, r = .ok path → Seen (Grants path) w w' := by
  have hcalled (text : String) (path : Path) (w : World σ τ) :
      After (Files.makeDirectoryCalled text path) w fun r w' => r = .ok () → Seen (Grants path) w w' := by
    refine after_bind (after_ask _ w) ?_ (by simp)
    rintro _ w₁ ⟨_, _, _, hpast⟩
    have hseen : Seen (Grants path) w w₁ := .of_last (refl_of Makes w) hpast ⟨_, rfl⟩
    exact (keeps_change_files (P := fun _ _ => True) _ _ w₁).mono fun _ _ hasks _ => hseen.asks hasks
  have husual : Keeps Makes (temporaryDirectory : Act σ τ Path) := keeps_temporaryDirectory
  have hending : Keeps Makes (freshEnding : Act σ τ String) := keeps_freshEnding
  refine after_bind (husual w) (fun usual w₁ h₁ => ?_) (by simp)
  refine after_bind (hending w₁) (fun ending w₂ h₂ => ?_) (by simp)
  have hmakes : Makes w w₂ := trans_of Makes h₁ h₂
  refine after_bind (hcalled _ _ w₂) (fun _ w₃ h₃ => ?_) (by simp)
  rintro _ ⟨⟩
  exact hmakes.seen (h₃ rfl)

/-! ## Parts that acquire something -/

variable [Seconds τ] {w₀ : World σ τ} {e₀ : Environment τ} {scratch : Option Path} {network : Option Network}
  {proxy : Option Container} {s : World σ τ × Environment τ}

theorem Stage.cleanup_eq (h : Stage w₀ e₀ scratch network proxy s) :
    s.2.cleanup = .holding s.2.id (resourcesOf scratch network proxy) := by
  obtain ⟨_, _, he⟩ := h.environment
  rw [he]

section

variable (hordinary : Host.Ordinary σ) {N : Prop}

include hordinary

omit [Seconds τ] in
/-- A call of the daemon, with what it tells. -/
theorem after_docker_told (call : DockerCall) (w : World σ τ) :
    After (docker call) w fun r w' => Tells w (Event.asked (.docker call) r).telling?.toList w' ∧
      ∀ e, r = .error e → e.IsOrdinary ∧ Tells w [] w' := by
  refine ((after_docker call w).and (hordinary.raises_ask _ w)).mono ?_
  rintro r w' ⟨⟨_, _, _, hpast⟩, hfault⟩
  refine ⟨tells_asked hpast, ?_⟩
  rintro e rfl
  exact ⟨hfault e rfl, tells_of_mute (mute_of_refusal hpast)⟩

omit hordinary [Seconds τ] [Host σ τ] in
theorem world_bind {ω α β : Type} (act : Act σ τ α) (f : α → Act σ τ β) :
    (world (act >>= f) : On σ τ ω β) = world act >>= fun a => world (f a) := by
  funext s
  simp only [world, bind, EStateM.bind]
  cases act s.1 <;> rfl

theorem after_setUpScratch_faults (config : ProxyConfig) (h : Stage w₀ e₀ none none none s) :
    After (setUpScratch config) s fun r s' => Tells s.1 [] s'.1 ∧ ∀ e, r = .error e →
      (e.IsPlain N ∨ e = .zeroByte) ∧ (e = .zeroByte → NamesZero config.extraFiles s.1 s'.1) := by
  have hrefused {w w' : World σ τ} {e : Fault τ} (he : Refused w e w') :
      (e.IsPlain N ∨ e = .zeroByte) ∧ (e = .zeroByte → NamesZero config.extraFiles w w') := by
    rcases he.denied hordinary with he | ⟨rfl, path, hzero, hseen⟩
    · exact ⟨.inl he.plain, fun hno => absurd hno (he.plain (N := N)).ne.2.2⟩
    · exact ⟨.inr rfl, fun _ => ⟨path, hzero, .inl hseen⟩⟩
  have htells {w w' : World σ τ} (hmakes : Makes w w') : Tells w [] w' :=
    tells_of_mute (hmakes.mono fun r a hr => Request.mute_of_isMaking hr a)
  unfold setUpScratch
  refine after_object_bind ?_
  have hmake : MakesFiles (fun _ => False) (makeScratch s.2.id s.2.settings.scratchRoot : Act σ τ Path) :=
    makes_makeScratch _ _
  refine after_bind ((hmake s.1).and (after_makeScratch_grants _ _ s.1)).world ?_ ?_
  · rintro path s₁ ⟨⟨⟨hmakes, _⟩, hgrants⟩, he⟩
    refine after_change_bind (after_push_bind _ (resourcesOf none none none) ?_ ?_)
    · rw [he]
      exact h.cleanup_eq
    -- what is below the new directory fails for a character zero in its path or in that of a further file
    let F (e : Fault τ) : Prop := e.IsPromised ∨ e = .zeroByte ∧
      (path.hasZero = true ∨ ∃ file ∈ config.extraFiles, (Path.ofString file.1).hasZero = true)
    have hconfig (hzero : (configIn path).hasZero = true) : path.hasZero = true :=
      (Path.hasZero_child hzero).resolve_right (by decide)
    have hrest : MakesFiles F (do
        makeTree path
        Files.write ((configIn path).child "nginx.conf") (Text.utf8 config.baseConfig)
        writeExtras (configIn path) config.extraFiles
        record .debug .environment s!"{s.2.id}: scratch tree at {path}" : Act σ τ Unit) := by
      refine (makes_makeTree path).bind fun _ => (Files.makes_write _ _).bind fun _ => ?_
      refine (makes_writeExtras (fun _ => .inl) (fun hzero => ?_) fun file hfile hzero => ?_).bind
        fun _ => .of_raises (keeps_record _ _ _) (raises_record _ _ _)
      · exact .inr ⟨rfl, .inl (hconfig hzero)⟩
      · exact .inr ⟨rfl, .inr ⟨file, hfile, hzero⟩⟩
    -- the parts are joined to the one act that `hrest` speaks about
    simp only [← world_bind]
    refine (hrest _).world.mono ?_
    rintro r s₂ ⟨⟨hmakes₂, hfault⟩, _⟩
    refine ⟨(htells hmakes).trans (htells hmakes₂), fun e he => ?_⟩
    rcases hfault e he with hfault | hfault | ⟨rfl, hzero⟩
    · exact hrefused (hfault.after hmakes)
    · exact ⟨.inl hfault.plain, fun hno => absurd hno (hfault.plain (N := N)).ne.2.2⟩
    · refine ⟨.inr rfl, fun _ => ?_⟩
      rcases hzero with hzero | ⟨file, hfile, hzero⟩
      · exact ⟨path, hzero, .inl ((hgrants path rfl).asks hmakes₂)⟩
      · exact ⟨_, hzero, .inr ⟨file, hfile, rfl⟩⟩
  · rintro e s₁ ⟨⟨⟨hmakes, hfault⟩, _⟩, _⟩
    refine ⟨htells hmakes, ?_⟩
    rintro _ ⟨⟩
    exact hrefused ((hfault e rfl).resolve_right False.elim)

theorem after_setUpNetwork_faults (h : Stage w₀ e₀ scratch none none s) :
    After setUpNetwork s fun r s' => Tells s.1 [] s'.1 ∧ ∀ e, r = .error e → e.IsOrdinary := by
  unfold setUpNetwork
  refine after_object_bind (after_bind (after_docker_told hordinary _ s.1).world ?_ ?_)
  · rintro network s₁ ⟨⟨htells, _⟩, he⟩
    refine after_change_bind (after_push_bind _ (resourcesOf scratch none none) ?_ ?_)
    · rw [he]
      exact h.cleanup_eq
    · have hlog (w : World σ τ) : After (record .debug .environment s!"{s.2.id}: network created") w
          fun r w' => r = .ok () ∧ Logs w w' :=
        ⟨rfl, keeps_record_logs _ _ _ w⟩
      refine (hlog _).world.mono ?_
      rintro _ s₂ ⟨⟨rfl, hlogs⟩, _⟩
      exact ⟨htells.mute hlogs.asks, by simp⟩
  · rintro e s₁ ⟨⟨_, hfault⟩, _⟩
    refine ⟨(hfault e rfl).2, ?_⟩
    rintro _ ⟨⟩
    exact (hfault e rfl).1

theorem after_setUpProxy_faults (image : String) (config : ProxyConfig) (mounted : Path)
    (h : Stage w₀ e₀ scratch network none s) :
    After (setUpProxy image config mounted) s fun r s' =>
      (∀ c, r = .ok c → ∃ plan, plan.network = s.2.networkName ∧ Tells s.1 [.started c, .created plan c] s'.1) ∧
      ∀ e, r = .error e → e.IsOrdinary ∧ (Tells s.1 [] s'.1 ∨ ∃ plan c, Tells s.1 [.created plan c] s'.1) := by
  unfold setUpProxy
  refine after_object_bind (after_record_bind fun s₁ hlogs => ?_)
  have hmute : Asks Request.Mute s.1 s₁.1 := hlogs.1.asks
  refine after_bind (after_docker_told hordinary _ s₁.1).world ?_ ?_
  · rintro proxy s₂ ⟨⟨hcreated, _⟩, he⟩
    have hcreated : Tells s.1 [.created (s.2.proxyPlan image config mounted) proxy] s₂.1 :=
      hcreated.after_mute hmute
    refine after_change_bind (after_push_bind _ (resourcesOf scratch network none) ?_ ?_)
    · rw [he, hlogs.2]
      exact h.cleanup_eq
    refine after_bind (after_docker_told hordinary (.start proxy) _).world ?_ ?_
    · rintro _ s₃ ⟨⟨hstarted, _⟩, _⟩
      refine after_pure ⟨?_, by simp⟩
      rintro _ ⟨⟩
      exact ⟨_, rfl, hcreated.trans hstarted⟩
    · rintro e s₃ ⟨⟨_, hfault⟩, _⟩
      refine ⟨by simp, ?_⟩
      rintro _ ⟨⟩
      exact ⟨(hfault e rfl).1, .inr ⟨_, proxy, hcreated.trans (hfault e rfl).2⟩⟩
  · rintro e s₂ ⟨⟨_, hfault⟩, _⟩
    refine ⟨by simp, ?_⟩
    rintro _ ⟨⟩
    exact ⟨(hfault e rfl).1, .inl ((hfault e rfl).2.after_mute hmute)⟩

/-- A look-up in attributes fails as reading them does; if they can be read, only a port may be missing. -/
def LooksUp (network : String) (report : ContainerReport) (r : Except (Fault τ) Int) : Prop :=
  (∃ p, report.addresses network = .error p ∧ r = .error (.inspection p)) ∨
    (∃ a, report.addresses network = .ok a) ∧ ∀ e, r = .error e → e.IsPromised

/-- The attributes are told, unless the daemon fails. -/
theorem after_setUpAddresses_faults (proxy : Container) (s : World σ τ × Environment τ) :
    After (setUpAddresses proxy) s fun r s' =>
      (∃ e, r = .error e ∧ e.IsOrdinary ∧ Tells s.1 [] s'.1) ∨
      ∃ report, Tells s.1 [.inspected proxy report] s'.1 ∧ LooksUp s.2.networkName report r := by
  unfold setUpAddresses
  refine after_bind (after_docker_told hordinary _ s.1).world ?_ ?_
  · rintro report s₁ ⟨⟨htells, _⟩, he⟩
    have htells : Tells s.1 [.inspected proxy report] s₁.1 := htells
    have hunread {p : InspectionProblem} (hread : report.addresses s.2.networkName = .error p) :
        LooksUp s.2.networkName report (.error (.inspection p) : Except (Fault τ) Int) :=
      .inl ⟨p, hread, rfl⟩
    refine after_inspected_bind (fun settings hsettings => ?_) fun p hp => .inr ⟨report, htells, hunread ?_⟩
    · refine after_object_bind ?_
      rw [he]
      refine after_inspected_bind (fun ip hip => ?_) fun p hp => .inr ⟨report, htells, hunread ?_⟩
      · refine after_change_bind (after_inspected_bind (fun ports hports => ?_) fun p hp =>
          .inr ⟨report, htells, hunread ?_⟩)
        · have hread : report.addresses s.2.networkName = .ok (ip, ports) := by
            simp [ContainerReport.addresses, hsettings, hip, hports, bind, Except.bind, pure, Except.pure]
          refine after_change_bind (after_object_bind ?_)
          split
          · exact after_pure (.inr ⟨report, htells, .inr ⟨⟨_, hread⟩, by simp⟩⟩)
          · refine after_throw (.inr ⟨report, htells, .inr ⟨⟨_, hread⟩, ?_⟩⟩)
            rintro _ ⟨⟩
            trivial
        · simp [ContainerReport.addresses, hsettings, hip, hp, bind, Except.bind]
      · simp [ContainerReport.addresses, hsettings, hp, bind, Except.bind]
    · simp [ContainerReport.addresses, hp, bind, Except.bind]
  · rintro e s₁ ⟨⟨_, hfault⟩, _⟩
    exact .inl ⟨e, rfl, (hfault e rfl).1, (hfault e rfl).2⟩

end

/-! ## All of it -/

theorem Stage.networkName_eq {n : Network} (h : Stage w₀ e₀ scratch (some n) proxy s) :
    s.2.networkName = n.name := by
  obtain ⟨_, _, he⟩ := h.environment
  rw [he]
  rfl

/-- Only if `N` holds, the waits of an environment go on for too long. -/
structure WaitsEnd (σ : Type) [Host σ τ] (N : Prop) (settings : Settings τ) : Prop where
  log : ∀ policy, RetryPolicy.fixed settings.startupTimeout settings.pollInterval = .ok policy →
    ∀ (c : Container) (line : String),
      Raises (fun e => e = .stalled → N) (Wait.untilLogged c c.name line policy : Act σ τ Unit)
  port : ∀ policy, RetryPolicy.fixed settings.startupTimeout settings.pollInterval = .ok policy →
    ∀ (host : String) (port : Int), Raises (fun e => e = .stalled → N)
      (Wait.untilReachable host port settings.startupTimeout (some policy) settings.settleInterval
        settings.connectTimeout : Act σ τ Unit)

section

variable (hordinary : Host.Ordinary σ) {N : Prop}

include hordinary

/-- What comes after the proxy was started. -/
theorem after_waits_faults {e : Environment τ} (hwaits : WaitsEnd σ N e.settings) (c : Container)
    (plan : ContainerPlan) (line : String) (s : World σ τ × Environment τ) (hnetwork : plan.network = s.2.networkName) :
    After (do
      world (do Wait.untilLogged c c.name line (← e.startupPolicy))
      let port ← setUpAddresses c
      world do
        let policy ← e.startupPolicy
        Wait.untilReachable e.address port e.settings.startupTimeout (some policy) e.settings.settleInterval
          e.settings.connectTimeout) s fun r s' =>
      ∀ fault, r = .error fault → ∃ ts, Tells s.1 ts s'.1 ∧
        EndsIn N (RetryPolicy.fixed e.settings.startupTimeout e.settings.pollInterval) line
          (ts ++ [.started c, .created plan c]) fault := by
  unfold startupPolicy
  cases hpolicy : RetryPolicy.fixed e.settings.startupTimeout e.settings.pollInterval with
  | error p =>
    have hthrow : After (world (do Wait.untilLogged c c.name line (← Wait.policyOr (.error p))) :
        On σ τ (Environment τ) Unit) s fun r s' => r = .error (.policy p) ∧ s' = s := ⟨rfl, rfl⟩
    refine after_bind hthrow (by simp) ?_
    rintro _ _ ⟨⟨⟩, rfl⟩ _ ⟨⟩
    exact ⟨[], tells_of_mute (refl_of (Asks _) _), .noPolicy rfl⟩
  | ok policy =>
    have hvalid : ∃ q, (Except.ok policy : Except PolicyProblem (RetryPolicy τ)) = .ok q := ⟨policy, rfl⟩
    have hlogged := (Wait.after_untilLogged_told hordinary c c.name line policy s.1).and
      (hwaits.log policy hpolicy c line s.1)
    refine after_bind (P := fun r s' => _) (After.world hlogged) ?_ ?_
    · rintro _ s₁ ⟨⟨⟨hshows, _⟩, _⟩, he⟩
      obtain ⟨content, looks, hline, hlooks, htells⟩ := hshows rfl
      rw [← he] at hnetwork
      refine after_bind (after_setUpAddresses_faults hordinary c s₁) ?_ ?_
      · rintro port s₂ (⟨_, ⟨⟩, _⟩ | ⟨report, htells₂, ⟨_, _, ⟨⟩⟩ | ⟨⟨a, hread⟩, _⟩⟩)
        rw [← hnetwork] at hread
        have hreachable := (Wait.after_untilReachable_told hordinary e.address port e.settings.startupTimeout
          e.settings.settleInterval e.settings.connectTimeout policy s₂.1).and
          (hwaits.port policy hpolicy e.address port s₂.1)
        refine (After.world hreachable).mono ?_
        rintro r s₃ ⟨⟨⟨_, hbroken⟩, hstalled⟩, _⟩ fault hr
        obtain ⟨late, looks₃, hlate, hnone, htells₃⟩ := hbroken fault hr
        rw [List.eq_nil_iff_forall_not_mem.mpr hnone, List.append_nil] at htells₃
        refine ⟨_, (htells.trans htells₂).trans htells₃, ?_⟩
        rw [List.append_assoc]
        exact .inspected hvalid hlooks hline hread (hlate.of_stalls (hstalled fault hr))
      · rintro fault s₂ (⟨_, ⟨⟩, hordinary, htells₂⟩ | ⟨report, htells₂, ⟨p, hread, ⟨⟩⟩ | ⟨⟨a, hread⟩, hpromised⟩⟩)
        · rintro _ ⟨⟩
          exact ⟨_, htells.trans htells₂, .logged hvalid hlooks hline hordinary.plain⟩
        · rintro _ ⟨⟩
          rw [← hnetwork] at hread
          exact ⟨_, htells.trans htells₂, .unreadable hvalid hlooks hline hread⟩
        · rintro _ ⟨⟩
          rw [← hnetwork] at hread
          have hplain : fault.IsPlain N := (hpromised fault rfl).plain
          exact ⟨_, htells.trans htells₂, .inspected hvalid hlooks hline hread (.plain hplain)⟩
    · rintro fault s₁ ⟨⟨⟨_, hbroken⟩, hstalled⟩, _⟩ _ ⟨⟩
      obtain ⟨late, looks, hlate, hlooks, htells⟩ := hbroken fault rfl
      refine ⟨_, htells, ?_⟩
      rw [List.append_assoc]
      exact .waiting hvalid hlooks (hlate.of_stalls (hstalled fault rfl))

/-- What setting up ends in, if it fails. -/
theorem after_setUp_faults (image : String) (config : ProxyConfig) (hwaits : WaitsEnd σ N e₀.settings)
    (h : Stage w₀ e₀ none none none s) :
    After (setUp image config) s fun r s' => ∀ fault, r = .error fault → ∃ ts, Tells s.1 ts s'.1 ∧
      EndsIn N (RetryPolicy.fixed e₀.settings.startupTimeout e₀.settings.pollInterval)
        (givenOr config.readyLog e₀.settings.readyLog) ts fault ∧
      (fault = .zeroByte → NamesZero config.extraFiles s.1 s'.1 ∨ ∃ f, .sleepless f ∈ ts) := by
  have hno {fault : Fault τ} {P : Prop} (hfault : fault.IsPlain N) : fault = .zeroByte → P :=
    fun hzero => absurd hzero hfault.ne.2.2
  unfold setUp
  have himage := (keeps_checkImage_mute image s.1).and (raises_checkImage hordinary image (N := N) s.1)
  refine after_bind (himage.world.and ((keeps_checkImage image).world s)) ?afterImage ?noImage
  case noImage =>
    rintro fault s₁ ⟨⟨⟨hmute, hfault⟩, _⟩, _⟩ _ ⟨⟩
    have hplain : fault.IsPlain N := hfault fault rfl
    exact ⟨[], tells_of_mute hmute, .unmade (.inl hplain), hno hplain⟩
  rintro _ s₁ ⟨⟨⟨hmute, _⟩, _⟩, huntouched⟩
  have h₁ := h.untouched huntouched
  have htells₁ : Tells s.1 [] s₁.1 := tells_of_mute hmute
  have hscratch := (after_setUpScratch_faults hordinary config h₁ (N := N)).and (after_setUpScratch config h₁)
  refine after_bind hscratch ?afterScratch ?noScratch
  case noScratch =>
    rintro fault s₂ ⟨⟨htells₂, hfault⟩, _⟩ _ ⟨⟩
    obtain ⟨hends, hzero⟩ := hfault fault rfl
    exact ⟨[], htells₁.trans htells₂, .unmade hends, fun he => .inl ((hzero he).between hmute (refl_of (Asks _) s₂.1))⟩
  rintro _ s₂ ⟨⟨htells₂, _⟩, _, hstage₂⟩
  obtain ⟨path, h₂⟩ := hstage₂ rfl
  refine after_bind ((after_setUpNetwork_faults hordinary h₂).and (after_setUpNetwork h₂)) ?afterNetwork ?noNetwork
  case noNetwork =>
    rintro fault s₃ ⟨⟨htells₃, hfault⟩, _⟩ _ ⟨⟩
    have hplain : fault.IsPlain N := (hfault fault rfl).plain
    exact ⟨[], (htells₁.trans htells₂).trans htells₃, .unmade (.inl hplain), hno hplain⟩
  rintro _ s₃ ⟨⟨htells₃, _⟩, _, hstage₃⟩
  obtain ⟨n, h₃⟩ := hstage₃ rfl
  have hnone : Tells s.1 [] s₃.1 := (htells₁.trans htells₂).trans htells₃
  have hproxy := (after_setUpProxy_faults hordinary image config (s₃.2.scratch.getD ⟨.here, []⟩) h₃).and
    (after_setUpProxy image config _ h₃)
  refine after_object_bind (after_bind hproxy ?afterProxy ?noProxy)
  case noProxy =>
    rintro fault s₄ ⟨⟨_, hfault⟩, _⟩ _ ⟨⟩
    obtain ⟨hfault, htells₄ | ⟨plan, c, htells₄⟩⟩ := hfault fault rfl
    · exact ⟨_, hnone.trans htells₄, .unmade (.inl hfault.plain), hno hfault.plain⟩
    · exact ⟨_, hnone.trans htells₄, .unstarted hfault.plain, hno hfault.plain⟩
  rintro c s₄ ⟨⟨hstarted, _⟩, _, hstage₄⟩
  obtain ⟨plan, hplan, htells₄⟩ := hstarted c rfl
  have hnetwork : plan.network = s₄.2.networkName := by
    rw [hplan, h₃.networkName_eq, (hstage₄ c rfl).networkName_eq]
  rw [← h₃.settings_eq] at hwaits ⊢
  refine (after_waits_faults hordinary hwaits c plan _ s₄ hnetwork).mono ?_
  rintro r s₅ hfault fault hr
  obtain ⟨ts, htells₅, hends⟩ := hfault fault hr
  -- by now the proxy was told of, so no file can be in the way
  exact ⟨_, (hnone.trans htells₄).trans htells₅, hends,
    fun hzero => .inr ((hends.eq_nil_of_zeroByte hzero).resolve_left (by simp))⟩

/-- What was acquired is released without a fault, and nothing more is told. -/
theorem after_abort_quiet (h : Staged w₀ e₀ s) :
    After abort s fun r s' => r = .ok () ∧ Asks Request.Mute s.1 s'.1 := by
  obtain ⟨scratch, network, proxy, hstage⟩ := h
  unfold abort
  have hrelease : After (onCleanup Cleanup.release) s fun r s' =>
      (∃ failures, r = .ok failures) ∧ Asks Request.Mute s.1 s'.1 := by
    refine after_part ?_
    rw [hstage.cleanup_eq]
    exact Cleanup.after_release_quiet hordinary s.1 s.2.id _
  refine after_bind hrelease ?_ (by simp)
  rintro failures s₁ ⟨_, hmute⟩
  refine after_change_bind (after_ite (fun _ => after_object_bind ?_) fun _ => after_pure ⟨rfl, hmute⟩)
  have hlog (message : String) : Asks Request.Mute s₁.1 (stateAfter (record .warning .environment message) s₁.1) :=
    (keeps_record (P := Request.Mute) .warning .environment message s₁.1).stateAfter
  exact ⟨rfl, trans_of (Asks _) hmute (hlog _)⟩

/-- What setting up an environment, or giving it up, ends in if it fails. -/
theorem after_setUpOrAbort_faults (image : String) (config : ProxyConfig) (id : String) (settings : Settings τ)
    (registry : Option RegistryName) (hwaits : WaitsEnd σ N settings) (w : World σ τ) :
    After (setUpOrAbort image config) (w, create id settings registry) fun r s' =>
      ∀ fault, r = .error fault → Reports N config settings w fault s'.1 := by
  unfold setUpOrAbort
  refine after_change_bind (after_object_bind (after_record_bind fun s₁ hlog => ?_))
  let e₀ : Environment τ := { create id settings registry with state := .provisioning }
  have h₁ : Stage w e₀ none none none s₁ := ⟨.nothing hlog.1.untouched, .null, [], hlog.2⟩
  have hsetUp := (after_setUp_faults hordinary image config hwaits h₁).and (after_setUp image config h₁)
  refine after_attempt_bind hsetUp ?_
  rintro (cause | _) s₂ ⟨hfault, hstaged, _⟩
  · obtain ⟨ts, htells, hends, hzero⟩ := hfault cause rfl
    refine after_bind (after_abort_quiet hordinary hstaged) ?_ (by simp)
    rintro _ s₃ ⟨_, hmute⟩
    refine after_throw ?_
    rintro _ ⟨⟩
    have hreports : Reports N config settings s₁.1 (setUpFault id cause) s₃.1 :=
      ⟨id, cause, ts, rfl, htells.mute hmute, hends,
        fun he => (hzero he).imp_left fun hnamed => hnamed.between (refl_of (Asks _) s₁.1) hmute⟩
    exact hreports.after_mute hlog.1.asks
  · exact after_change (by simp)

end

end Environment

end ProxyTestbed
