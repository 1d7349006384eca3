import ProxyTestbed.Proofs.Environment.Acquired
import ProxyTestbed.Proofs.Wait.Seen

/-!
# Stages of setting up

While an environment is set up, its coordinator holds the steps that release what it has acquired so far, and
none of them has run. Every part of setting up keeps that, also when it fails.

* `after_setUp`: an environment that is set up has acquired everything, and its proxy was seen to be ready.
-/

namespace ProxyTestbed.Environment

variable {σ τ : Type}

section

variable [Host σ τ]

/-! ## The directory -/

theorem after_makeDirectoryCalled (text : String) (path : Path) (w : World σ τ) :
    After (Files.makeDirectoryCalled text path) w fun r w' => ∀ e, r = .error e → Untouched w w' := by
  have hidle : ∀ a, (Request.file .makeDirectory path : Request τ).Idle a := fun a => ⟨rfl, rfl⟩
  refine after_bind (after_ask _ w) ?_ ?_
  · intro _ w₁ hpost
    obtain ⟨_, hfiles, _, hpast⟩ := hpost
    refine (after_change_files _ _ w₁).mono ?_
    rintro r w₂ (⟨_, _, rfl, _⟩ | ⟨_, _, _, rfl⟩) e he
    · cases he
    · exact ⟨(refl_of (Asks Request.Idle) w).ask hpast (hidle _), hfiles⟩
  · rintro e w₁ ⟨_, hfiles, _, hpast⟩ _ _
    exact ⟨(refl_of (Asks Request.Idle) w).ask hpast (hidle _), hfiles⟩

/-- A directory that cannot be made leaves the files as they are. -/
theorem after_makeScratch (id : String) (root : Option String) (w : World σ τ) :
    After (makeScratch id root) w fun r w' => ∀ e, r = .error e → Untouched w w' := by
  have hending (w : World σ τ) : After freshEnding w fun r w' => (∃ a, r = .ok a) ∧ Untouched w w' :=
    ⟨⟨_, rfl⟩, ⟨[], rfl, by simp⟩, rfl⟩
  unfold makeScratch
  refine after_bind (P := fun r w' => r = .ok _ ∧ w' = w) ⟨rfl, rfl⟩ ?_ (by simp)
  intro usual _ hpost
  obtain ⟨_, rfl⟩ := hpost
  refine after_bind (hending _) ?_ (by simp)
  intro ending w₁ hpost
  obtain ⟨_, h₁⟩ := hpost
  refine after_bind (after_makeDirectoryCalled _ _ w₁) (fun _ _ _ => after_pure (by simp)) ?_
  exact fun e w₂ h₂ _ _ => trans_of Untouched h₁ (h₂ e rfl)

theorem keeps_makeTree_of {R : World σ τ → World σ τ → Prop} [IsPreorder (World σ τ) R]
    (h : ∀ path, Keeps R (Files.makeDirectories false path : Act σ τ Unit)) (path : Path) :
    Keeps R (makeTree path : Act σ τ Unit) :=
  (h _).bind fun _ => (h _).bind fun _ => (h _).bind fun _ => h _

theorem keeps_makeTree (path : Path) : Keeps (Asks Request.Idle) (makeTree path : Act σ τ Unit) :=
  keeps_makeTree_of (Files.keeps_makeDirectories Request.idle_of_isMaking false) path

theorem keeps_writeExtras (config : Path) (files : List (String × String)) :
    Keeps (Asks Request.Idle) (writeExtras config files : Act σ τ Unit) := by
  induction files with
  | nil => exact .pure ()
  | cons file files ih =>
    obtain ⟨relative, content⟩ := file
    unfold writeExtras
    refine (Files.keeps_resolve _).bind fun target => (Files.keeps_resolve _).bind fun whole => ?_
    refine .ite (.throw_bind _ _) ?_
    exact (Files.keeps_makeDirectories Request.idle_of_isMaking _ _).bind fun _ =>
      (Files.keeps_write Request.idle_of_isMaking _ _).bind fun _ => ih

end

/-! ## Stages -/

variable [Seconds τ] [Host σ τ]

/-- An environment, at first `e₀`, which since the world was `w₀` has acquired the resources and nothing
else, and holds them for their release. -/
structure Stage (w₀ : World σ τ) (e₀ : Environment τ) (scratch : Option Path) (network : Option Network)
    (proxy : Option Container) (s : World σ τ × Environment τ) : Prop where
  acquired : Acquired e₀.id e₀.settings.scratchRoot w₀ (resourcesOf scratch network proxy) s.1
  environment : ∃ proxyIp ports, s.2 =
    { e₀ with scratch, network, proxy, proxyIp, ports,
              cleanup := .holding e₀.id (resourcesOf scratch network proxy) }

/-- Some stage. -/
def Staged (w₀ : World σ τ) (e₀ : Environment τ) (s : World σ τ × Environment τ) : Prop :=
  ∃ scratch network proxy, Stage w₀ e₀ scratch network proxy s

section

variable {w₀ : World σ τ} {e₀ : Environment τ} {scratch : Option Path} {network : Option Network}
  {proxy : Option Container} {s s' : World σ τ × Environment τ}

theorem Stage.staged (h : Stage w₀ e₀ scratch network proxy s) : Staged w₀ e₀ s :=
  ⟨scratch, network, proxy, h⟩

theorem Stage.untouched (h : Stage w₀ e₀ scratch network proxy s) (h' : Besides Untouched s s') :
    Stage w₀ e₀ scratch network proxy s' :=
  ⟨h.acquired.untouched h'.1, by rw [h'.2]; exact h.environment⟩

theorem Stage.idle {path : Path} (h : Stage w₀ e₀ (some path) network proxy s)
    (h' : Besides (Asks Request.Idle) s s') : Stage w₀ e₀ (some path) network proxy s' :=
  ⟨h.acquired.idle (by simp [resourcesOf]) h'.1, by rw [h'.2]; exact h.environment⟩

theorem Stage.id_eq (h : Stage w₀ e₀ scratch network proxy s) : s.2.id = e₀.id := by
  obtain ⟨_, _, h⟩ := h.environment
  rw [h]

theorem Stage.settings_eq (h : Stage w₀ e₀ scratch network proxy s) : s.2.settings = e₀.settings := by
  obtain ⟨_, _, h⟩ := h.environment
  rw [h]

omit [Host σ τ] in
/-- What is acquired next is registered for its release. -/
theorem onCleanup_push (step : CleanupStep) {steps : List CleanupStep}
    (h : s.2.cleanup = .holding s.2.id steps) :
    onCleanup (Cleanup.push step) s =
      .ok () (s.1, { s.2 with cleanup := .holding s.2.id (steps ++ [step]) }) := by
  simp only [onCleanup, On.part, h, Cleanup.push_holding]

omit [Host σ τ] in
theorem after_push_bind {α : Type} (step : CleanupStep) (steps : List CleanupStep)
    {f : Unit → On σ τ (Environment τ) α} {P : Except (Fault τ) α → World σ τ × Environment τ → Prop}
    (h : s.2.cleanup = .holding s.2.id steps)
    (hf : After (f ()) (s.1, { s.2 with cleanup := .holding s.2.id (steps ++ [step]) }) P) :
    After (onCleanup (Cleanup.push step) >>= f) s P :=
  after_bind (P := fun r s' => r = .ok () ∧
    s' = (s.1, { s.2 with cleanup := .holding s.2.id (steps ++ [step]) }))
    (by rw [After, onCleanup_push step h]; exact ⟨rfl, rfl⟩) (by rintro _ _ ⟨_, rfl⟩; exact hf) (by simp)

/-! ## Parts that acquire something -/

theorem after_setUpScratch (config : ProxyConfig) (h : Stage w₀ e₀ none none none s) :
    After (setUpScratch config) s fun r s' => Staged w₀ e₀ s' ∧
      (r = .ok () → ∃ path, Stage w₀ e₀ (some path) none none s') := by
  unfold setUpScratch
  refine after_object_bind ?_
  rw [h.id_eq, h.settings_eq]
  refine after_bind ((after_run _ _).and (after_makeScratch _ _ s.1)).world ?_ ?_
  · intro path s₁ hpost
    obtain ⟨⟨hmade, _⟩, hs₁⟩ := hpost
    obtain ⟨proxyIp, ports, he⟩ := h.environment
    refine after_change_bind (after_push_bind _ (resourcesOf none none none) (by simp [hs₁, he]) ?_)
    have hstage : Stage w₀ e₀ (some path) none none (s₁.1, { s₁.2 with
        scratch := some path
        cleanup := .holding s₁.2.id ([] ++ [.directory path]) }) := by
      refine ⟨.directory h.acquired (of_attempt_ok hmade) (refl_of _ _), proxyIp, ports, ?_⟩
      rw [hs₁, he]
      rfl
    have hrest : Keeps (Besides (Asks Request.Idle)) (do
        world (makeTree path)
        world (Files.write ((configIn path).child "nginx.conf") (Text.utf8 config.baseConfig))
        world (writeExtras (configIn path) config.extraFiles)
        world (record .debug .environment s!"{e₀.id}: scratch tree at {path}") :
        On σ τ (Environment τ) Unit) :=
      (keeps_makeTree path).world.bind fun _ =>
        (Files.keeps_write Request.idle_of_isMaking _ _).world.bind fun _ =>
          (keeps_writeExtras _ _).world.bind fun _ => (keeps_record _ _ _).world
    refine (hrest _).mono fun r s₂ h₂ => ?_
    exact ⟨(hstage.idle h₂).staged, fun _ => ⟨path, hstage.idle h₂⟩⟩
  · intro e s₁ hpost
    obtain ⟨⟨_, hfail⟩, hs₁⟩ := hpost
    exact ⟨(h.untouched ⟨hfail e rfl, hs₁⟩).staged, by simp⟩

theorem after_setUpNetwork {path : Path} (h : Stage w₀ e₀ (some path) none none s) :
    After setUpNetwork s fun r s' => Staged w₀ e₀ s' ∧
      (r = .ok () → ∃ network, Stage w₀ e₀ (some path) (some network) none s') := by
  unfold setUpNetwork
  refine after_object_bind ?_
  rw [h.id_eq, h.settings_eq]
  refine after_bind ((after_run _ _).and (after_docker _ s.1)).world ?_ ?_
  · intro network s₁ hpost
    obtain ⟨⟨hmade, _⟩, hs₁⟩ := hpost
    obtain ⟨proxyIp, ports, he⟩ := h.environment
    refine after_change_bind
      (after_push_bind _ (resourcesOf (some path) none none) (by simp [hs₁, he]) ?_)
    have hstage : Stage w₀ e₀ (some path) (some network) none (s₁.1, { s₁.2 with
        network := some network
        cleanup := .holding s₁.2.id ([.directory path] ++ [.network network]) }) := by
      refine ⟨.network h.acquired (of_attempt_ok hmade) (refl_of _ _), proxyIp, ports, ?_⟩
      rw [hs₁, he]
      rfl
    refine (keeps_record (P := Request.Idle) _ _ _).world _ |>.mono fun r s₂ h₂ => ?_
    exact ⟨(hstage.idle h₂).staged, fun _ => ⟨network, hstage.idle h₂⟩⟩
  · intro e s₁ hpost
    obtain ⟨⟨_, _, hfiles, _, hpast⟩, hs₁⟩ := hpost
    have hidle : Request.Idle (.docker (.createNetwork e₀.id
        (e₀.settings.labelsFor e₀.id "network"))) (.error e) := ⟨rfl, rfl⟩
    exact ⟨(h.idle ⟨(refl_of (Asks Request.Idle) s.1).ask hpast hidle, hs₁⟩).staged, by simp⟩

theorem after_setUpProxy (image : String) (config : ProxyConfig) (mounted : Path) {path : Path}
    {network : Network} (h : Stage w₀ e₀ (some path) (some network) none s) :
    After (setUpProxy image config mounted) s fun r s' => Staged w₀ e₀ s' ∧
      ∀ proxy, r = .ok proxy → Stage w₀ e₀ (some path) (some network) (some proxy) s' := by
  unfold setUpProxy
  refine after_object_bind (after_record_bind fun s₀ hlog => ?_)
  have h : Stage w₀ e₀ (some path) (some network) none s₀ := h.idle ⟨hlog.1.asks, hlog.2⟩
  refine after_bind ((after_run _ _).and (after_docker _ s₀.1)).world ?_ ?_
  · intro proxy s₁ hpost
    obtain ⟨⟨hmade, _⟩, hs₁⟩ := hpost
    obtain ⟨proxyIp, ports, he⟩ := h.environment
    refine after_change_bind
      (after_push_bind _ (resourcesOf (some path) (some network) none) (by simp [hs₁, he]) ?_)
    have hstage : Stage w₀ e₀ (some path) (some network) (some proxy) (s₁.1, { s₁.2 with
        proxy := some proxy
        cleanup := .holding s₁.2.id ([.directory path, .network network] ++
          [.container proxy CleanupStep.usualStopTimeout]) }) := by
      refine ⟨.proxy h.acquired (of_attempt_ok hmade) (refl_of _ _), proxyIp, ports, ?_⟩
      rw [hs₁, he]
      rfl
    have hstart : ∀ a, (Request.docker (.start proxy) : Request τ).Idle a := fun _ => ⟨rfl, rfl⟩
    refine after_bind ((keeps_docker hstart).world _) ?_ ?_
    · intro _ s₂ h₂
      exact after_pure ⟨(hstage.idle h₂).staged, by rintro _ ⟨⟩; exact hstage.idle h₂⟩
    · exact fun e s₂ h₂ => ⟨(hstage.idle h₂).staged, by simp⟩
  · intro e s₁ hpost
    obtain ⟨⟨_, _, hfiles, _, hpast⟩, hs₁⟩ := hpost
    have hidle : Request.Idle (.docker (.create (s.2.proxyPlan image config mounted))) (.error e) :=
      ⟨rfl, rfl⟩
    exact ⟨(h.idle ⟨(refl_of (Asks Request.Idle) s₀.1).ask hpast hidle, hs₁⟩).staged, by simp⟩

/-! ## Parts that wait for the proxy -/

omit [Seconds τ] in
theorem keeps_checkImage (image : String) : Keeps Untouched (checkImage image : Act σ τ Unit) :=
  (keeps_docker_untouched fun _ => ⟨rfl, rfl⟩).reporting

/-- The log of the proxy held the line, and after that its port accepted a connection. -/
def SeenReady (w : World σ τ) (proxy : Container) (line host : String) (port : Int)
    (w' : World σ τ) : Prop :=
  ∃ w₁, Seen (ShowsLine proxy line) w w₁ ∧ Seen (Connects host port) w₁ w'

theorem after_awaitLog (e : Environment τ) (proxy : Container) (line : String) (w : World σ τ) :
    After (do Wait.untilLogged proxy proxy.name line (← e.startupPolicy)) w fun r w' =>
      Asks Request.Idle w w' ∧ (r = .ok () → Seen (ShowsLine proxy line) w w') := by
  have hlogs : ∀ a, (Request.docker (.logs proxy .all) : Request τ).Idle a := fun _ => ⟨rfl, rfl⟩
  have hinspect : ∀ a, (Request.docker (.inspect proxy) : Request τ).Idle a := fun _ => ⟨rfl, rfl⟩
  refine after_bind (keeps_policyOr (R := Asks Request.Idle) _ w) ?_ fun e w' h => ⟨h, by simp⟩
  intro policy w₁ hw₁
  refine (after_untilLogged hlogs hinspect (fun _ _ => ⟨rfl, rfl⟩) _ _ policy w₁).mono ?_
  intro r w₂ hpost
  obtain ⟨hw₂, hseen⟩ := hpost
  exact ⟨trans_of _ hw₁ hw₂, fun hr => hw₁.seen (hseen hr)⟩

theorem after_awaitPort (e : Environment τ) (port : Int) (w : World σ τ) :
    After (do
      let policy ← e.startupPolicy
      Wait.untilReachable e.address port e.settings.startupTimeout (some policy)
        e.settings.settleInterval e.settings.connectTimeout) w fun r w' =>
      Asks Request.Idle w w' ∧ (r = .ok () → Seen (Connects e.settings.host port) w w') := by
  refine after_bind (keeps_policyOr (R := Asks Request.Idle) _ w) ?_ fun e w' h => ⟨h, by simp⟩
  intro policy w₁ hw₁
  refine (after_untilReachable Request.idle_of_isSocket (fun _ _ => ⟨rfl, rfl⟩) _ _ _ policy _ _ w₁).mono ?_
  intro r w₂ hpost
  obtain ⟨hw₂, hseen⟩ := hpost
  exact ⟨trans_of _ hw₁ hw₂, fun hr => hw₁.seen (hseen hr)⟩

theorem after_setUpAddresses (proxy : Container) {path : Path}
    (h : Stage w₀ e₀ (some path) network (some proxy) s) :
    After (setUpAddresses proxy) s fun r s' => Stage w₀ e₀ (some path) network (some proxy) s' ∧
      Asks Request.Idle s.1 s'.1 ∧ ∀ port, r = .ok port → s'.2.httpPort = some port := by
  have hinspect : ∀ a, (Request.docker (.inspect proxy) : Request τ).Idle a := fun _ => ⟨rfl, rfl⟩
  unfold setUpAddresses
  refine after_bind ((keeps_docker hinspect).world s) ?_ fun e s₁ h₁ => ⟨h.idle h₁, h₁.1, by simp⟩
  intro report s₁ h₁
  have hs₁ : Stage w₀ e₀ (some path) network (some proxy) s₁ := h.idle h₁
  refine after_inspected_bind (fun settings _ => ?_) fun p _ => ⟨hs₁, h₁.1, by simp⟩
  refine after_object_bind (after_inspected_bind (fun ip _ => ?_) fun p _ => ⟨hs₁, h₁.1, by simp⟩)
  obtain ⟨_, _, he⟩ := hs₁.environment
  have hs₂ (proxyIp : Datum) (ports : Dictionary Int) :
      Stage w₀ e₀ (some path) network (some proxy) (s₁.1, { s₁.2 with proxyIp, ports }) :=
    ⟨hs₁.acquired, proxyIp, ports, by rw [he]⟩
  refine after_change_bind (after_inspected_bind (fun ports _ => ?_) fun p _ => ?_)
  · refine after_change_bind (after_object_bind ?_)
    split
    · rename_i port hport
      exact after_pure ⟨hs₂ ip ports, h₁.1, by rintro _ ⟨⟩; exact hport⟩
    · exact after_throw ⟨hs₂ ip ports, h₁.1, by simp⟩
  · exact ⟨hs₂ ip s₁.2.ports, h₁.1, by simp⟩

/-- An environment that is set up has acquired everything, and its proxy was seen to be ready. -/
theorem after_setUp (image : String) (config : ProxyConfig) (h : Stage w₀ e₀ none none none s) :
    After (setUp image config) s fun r s' => Staged w₀ e₀ s' ∧
      (r = .ok () → ∃ path network proxy port,
        Stage w₀ e₀ (some path) (some network) (some proxy) s' ∧ s'.2.httpPort = some port ∧
        SeenReady w₀ proxy (givenOr config.readyLog e₀.settings.readyLog) e₀.settings.host port
          s'.1) := by
  unfold setUp
  refine after_bind ((keeps_checkImage image).world s) ?_ fun e s₁ h₁ =>
    ⟨(h.untouched h₁).staged, by simp⟩
  intro _ s₁ h₁
  refine after_bind (after_setUpScratch config (h.untouched h₁)) ?_ fun e s₂ h₂ => ⟨h₂.1, by simp⟩
  intro _ s₂ hpost
  obtain ⟨_, h₂⟩ := hpost
  obtain ⟨path, h₂⟩ := h₂ rfl
  refine after_bind (after_setUpNetwork h₂) ?_ fun e s₃ h₃ => ⟨h₃.1, by simp⟩
  intro _ s₃ hpost
  obtain ⟨_, h₃⟩ := hpost
  obtain ⟨network, h₃⟩ := h₃ rfl
  refine after_object_bind ?_
  refine after_bind (after_setUpProxy image config _ h₃) ?_ fun e s₄ h₄ => ⟨h₄.1, by simp⟩
  intro proxy s₄ hpost
  obtain ⟨_, h₄⟩ := hpost
  have h₄ := h₄ proxy rfl
  refine after_bind (after_awaitLog s₃.2 proxy _ s₄.1).world ?_ ?_
  · intro _ s₅ hpost
    obtain ⟨⟨hasks, hline⟩, he⟩ := hpost
    have h₅ := h₄.idle ⟨hasks, he⟩
    refine after_bind (after_setUpAddresses proxy h₅) ?_ fun e s₆ h₆ => ⟨h₆.1.staged, by simp⟩
    intro port s₆ hpost
    obtain ⟨h₆, hasks₆, hport⟩ := hpost
    refine (after_awaitPort s₃.2 port s₆.1).world.mono ?_
    intro r s₇ hpost
    obtain ⟨⟨hasks₇, hconnects⟩, he⟩ := hpost
    have h₇ := h₆.idle ⟨hasks₇, he⟩
    refine ⟨h₇.staged, fun hr => ⟨path, network, proxy, port, h₇, ?_, s₆.1, ?_, ?_⟩⟩
    · rw [he]
      exact hport port rfl
    · have hsince : Asks (fun _ _ => True) w₀ s₄.1 := h₄.acquired.asks fun _ _ _ => trivial
      rw [h₃.settings_eq] at hline
      exact (hsince.seen (hline rfl)).asks hasks₆
    · rw [h₃.settings_eq] at hconnects
      exact hconnects hr
  · intro e s₅ hpost
    obtain ⟨⟨hasks, _⟩, he⟩ := hpost
    exact ⟨(h₄.idle ⟨hasks, he⟩).staged, by simp⟩

end

/-! ## All or nothing -/

/-- An environment that was set up from `w` to `w'`. It has acquired everything, and none of its release
steps has run; its proxy was seen to be ready. -/
def SetUp (config : ProxyConfig) (w : World σ τ) (e : Environment τ) (w' : World σ τ) : Prop :=
  ∃ path network proxy port, e.state = .ready ∧ e.httpPort = some port ∧
    e.resources =
      [.directory path, .network network, .container proxy CleanupStep.usualStopTimeout] ∧
    e.cleanup = .holding e.id e.resources ∧
    Acquired e.id e.settings.scratchRoot w e.resources w' ∧
    SeenReady w proxy (givenOr config.readyLog e.settings.readyLog) e.settings.host port w'

/-- An environment that could not be set up. From `w` to `w'` it acquired some resources, and then their
release steps ran. -/
def GivenUp (w : World σ τ) (e : Environment τ) (w' : World σ τ) : Prop :=
  ∃ w₁ runs, Acquired e.id e.settings.scratchRoot w e.resources w₁ ∧
    Released e.id e.resources w₁ runs w'

section

variable {config : ProxyConfig} {w₀ w w' w'' : World σ τ} {e : Environment τ}

theorem SetUp.of_untouched (h : Untouched w₀ w) (h' : SetUp config w e w') : SetUp config w₀ e w' := by
  obtain ⟨path, network, proxy, port, hstate, hport, hresources, hc, hacquired, w₁, hline, hconnects⟩ := h'
  exact ⟨path, network, proxy, port, hstate, hport, hresources, hc, hacquired.of_untouched h, w₁,
    h.1.seen hline, hconnects⟩

theorem SetUp.logs (h : SetUp config w e w') (h' : Logs w' w'') : SetUp config w e w'' := by
  obtain ⟨path, network, proxy, port, hstate, hport, hresources, hc, hacquired, w₁, hline, hconnects⟩ := h
  exact ⟨path, network, proxy, port, hstate, hport, hresources, hc, hacquired.untouched h'.untouched,
    w₁, hline, hconnects.asks (P := Request.Idle) h'.asks⟩

theorem GivenUp.of_untouched (h : Untouched w₀ w) (h' : GivenUp w e w') : GivenUp w₀ e w' := by
  obtain ⟨w₁, runs, hacquired, hrel⟩ := h'
  exact ⟨w₁, runs, hacquired.of_untouched h, hrel⟩

end

theorem after_abort {w₀ : World σ τ} {e₀ : Environment τ} {s : World σ τ × Environment τ}
    (h : Staged w₀ e₀ s) : After abort s fun _ s' => s'.2.id = e₀.id ∧ s'.2.settings = e₀.settings ∧
      s'.2.registry = e₀.registry ∧ GivenUp w₀ s'.2 s'.1 := by
  obtain ⟨scratch, network, proxy, hacquired, proxyIp, ports, he⟩ := h
  have hdone {w₁ : World σ τ} {e : Environment τ} {runs : List (StepRun CleanupStep τ)}
      (hrel : Released e₀.id (resourcesOf scratch network proxy) s.1 runs w₁)
      (hcore : e.id = e₀.id ∧ e.settings = e₀.settings ∧ e.registry = e₀.registry ∧
        e.resources = resourcesOf scratch network proxy) :
      e.id = e₀.id ∧ e.settings = e₀.settings ∧ e.registry = e₀.registry ∧ GivenUp w₀ e w₁ := by
    obtain ⟨hid, hsettings, hregistry, hresources⟩ := hcore
    refine ⟨hid, hsettings, hregistry, s.1, runs, ?_, ?_⟩
    · rw [hid, hsettings, hresources]
      exact hacquired
    · rw [hid, hresources]
      exact hrel
  have hcore (cleanup : Cleanup τ) (state : EnvironmentState) :
      let e : Environment τ := { s.2 with cleanup, state }
      e.id = e₀.id ∧ e.settings = e₀.settings ∧ e.registry = e₀.registry ∧
        e.resources = resourcesOf scratch network proxy := by
    rw [he]
    exact ⟨rfl, rfl, rfl, rfl⟩
  unfold abort
  have hrelease := Cleanup.after_release_holding s.1 e₀.id (resourcesOf scratch network proxy)
  refine after_bind (P := fun _ s' => ∃ runs cleanup, s'.2 = { s.2 with cleanup } ∧
    Released e₀.id (resourcesOf scratch network proxy) s.1 runs s'.1) (after_part ?_) ?_ ?_
  · have hc : s.2.cleanup = .holding e₀.id (resourcesOf scratch network proxy) := by rw [he]
    rw [hc]
    exact hrelease.mono fun r s' ⟨runs, hrel, _⟩ => ⟨runs, s'.2, rfl, hrel⟩
  · intro failures s₁ hpost
    obtain ⟨runs, cleanup, hs₁, hrel⟩ := hpost
    refine after_change_bind ?_
    rw [hs₁]
    split
    · refine after_object_bind (((keeps_record_logs _ _ _).world _).mono ?_)
      intro _ s₂ hpost
      obtain ⟨hlog, hs₂⟩ := hpost
      rw [hs₂]
      exact hdone (hrel.logs hlog) (hcore cleanup .destroyed)
    · exact after_pure (hdone hrel (hcore cleanup .destroyed))
  · intro e s₁ hpost
    obtain ⟨runs, cleanup, hs₁, hrel⟩ := hpost
    rw [hs₁]
    exact hdone hrel (hcore cleanup s.2.state)

/-- An environment is set up, or given up. -/
theorem after_setUpOrAbort (image : String) (config : ProxyConfig) (id : String)
    (settings : Settings τ) (registry : Option RegistryName) (w : World σ τ) :
    After (setUpOrAbort image config) (w, create id settings registry) fun r s' =>
      s'.2.id = id ∧ s'.2.settings = settings ∧ s'.2.registry = registry ∧
        match r with
        | .ok () => SetUp config w s'.2 s'.1
        | .error _ => GivenUp w s'.2 s'.1 := by
  unfold setUpOrAbort
  refine after_change_bind (after_object_bind (after_record_bind fun s₁ hlog => ?_))
  let e₀ : Environment τ := { create id settings registry with state := .provisioning }
  have h₁ : Stage w e₀ none none none s₁ :=
    ⟨.nothing hlog.1.untouched, .null, [], hlog.2⟩
  refine after_attempt_bind (after_setUp image config h₁) ?_
  intro r s₂ hpost
  obtain ⟨hstaged, hready⟩ := hpost
  cases r with
  | ok _ =>
    obtain ⟨path, network, proxy, port, h₂, hport, hseen⟩ := hready rfl
    obtain ⟨hacquired, proxyIp, ports, he⟩ := h₂
    obtain ⟨w₂, e₂⟩ := s₂
    subst he
    exact ⟨rfl, rfl, rfl, path, network, proxy, port, rfl, hport, rfl, rfl, hacquired, hseen⟩
  | error e =>
    refine after_bind (after_abort hstaged) ?_ ?_
    · exact fun _ s' h => after_throw h
    · exact fun _ s' h => h

end ProxyTestbed.Environment
