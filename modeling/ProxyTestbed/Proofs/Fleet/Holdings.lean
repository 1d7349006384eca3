import Mathlib.Data.List.Perm.Subperm
import ProxyTestbed.Proofs.Backend.States
import ProxyTestbed.Proofs.Cleanup.Requests
import ProxyTestbed.Proofs.Environment.SetUp
import ProxyTestbed.Proofs.Fleet.Releases

/-!
# What was made for an environment

The daemon answers with a new container or network when it is asked for one. Environments and backends hold such
things and no others: what an act adds to an object was made while it went on. So where the daemon makes no thing twice,
no two environments or backends hold the same one.

* `Accounts`: what is held more was made in between.
* `keeps_accounts_setUpOrAbort`, `keeps_accounts_startBackend`: setting up and starting a backend account for what they
  add.
-/

namespace ProxyTestbed

variable {σ τ ω α β : Type}

/-! ## Things that were made -/

/-- A thing of the daemon. -/
abbrev Thing := Container ⊕ Network

/-- What the daemon made, if the event is that it made something. -/
def Event.made? : Event τ → Option Thing
  | .asked (.docker (.create _)) (.ok c) => some (.inl c)
  | .asked (.docker (.createNetwork _ _)) (.ok n) => some (.inr n)
  | _ => none

/-- All things that the daemon made so far, the latest first. -/
def made (w : World σ τ) : List Thing :=
  w.past.filterMap Event.made?

/-- The past of `w` is the beginning of that of `w'`. -/
abbrev Since : World σ τ → World σ τ → Prop :=
  Asks fun _ _ => True

/-- What is held more after than before was made in between. -/
def Accounts (get : ω → List Thing) (s s' : World σ τ × ω) : Prop :=
  ∃ found, Finds Event.made? s.1 found s'.1 ∧ (get s'.2).Subperm (found ++ get s.2)

section

variable {get : ω → List Thing} {w w₁ w' : World σ τ} {s s₁ s' : World σ τ × ω}

theorem Since.exists_finds (h : Since w w') : ∃ found, Finds Event.made? w found w' := by
  obtain ⟨es, hpast, _⟩ := h
  exact ⟨_, es, hpast, rfl⟩

theorem Finds.since {found : List Thing} (h : Finds Event.made? w found w') : Since w w' := by
  obtain ⟨es, hpast, _⟩ := h
  exact ⟨es, hpast, fun _ _ _ => trivial⟩

theorem Finds.made_eq {found : List Thing} (h : Finds Event.made? w found w') : made w' = found ++ made w := by
  obtain ⟨es, hpast, rfl⟩ := h
  rw [made, hpast, List.filterMap_append]
  rfl

theorem exists_finds_of_seen {thing : Thing} (h : Seen (fun e => e.made? = some thing) w w') :
    ∃ found, Finds Event.made? w found w' ∧ thing ∈ found := by
  obtain ⟨late, e, early, hpast, he⟩ := h
  refine ⟨_, ⟨late ++ e :: early, by rw [hpast]; simp, rfl⟩, ?_⟩
  exact List.mem_filterMap.mpr ⟨e, by simp, he⟩

instance : IsPreorder (World σ τ × ω) (Accounts get) where
  refl s := ⟨[], ⟨[], rfl, rfl⟩, List.Subperm.refl _⟩
  trans := by
    rintro s₁ s₂ s₃ ⟨found, hfinds, hheld⟩ ⟨found', hfinds', hheld'⟩
    refine ⟨found' ++ found, hfinds.trans hfinds', hheld'.trans ?_⟩
    rw [List.append_assoc]
    exact (List.subperm_append_left found').mpr hheld

theorem accounts_of_since (h : Since s.1 s'.1) (hheld : get s'.2 = get s.2) : Accounts get s s' := by
  obtain ⟨found, hfinds⟩ := h.exists_finds
  refine ⟨found, hfinds, ?_⟩
  rw [hheld]
  exact (List.sublist_append_right found _).subperm

theorem keeps_accounts_world {act : Act σ τ α} (h : Keeps Since act) :
    Keeps (Accounts get) (world act : On σ τ ω α) :=
  h.world.mono fun _ _ hkept => accounts_of_since hkept.1 (by rw [hkept.2])

theorem keeps_accounts_object : Keeps (Accounts get) (On.object : On σ τ ω ω) :=
  fun s => refl_of (Accounts get) s

theorem keeps_accounts_change {f : ω → ω} (h : ∀ o, get (f o) = get o) :
    Keeps (Accounts get) (On.change f : On σ τ ω Unit) :=
  fun s => accounts_of_since (refl_of Since s.1) (h s.2)

/-- The rule for a thing that is made and then held. -/
theorem keeps_accounts_made_bind [Host σ τ] {call : DockerCall} (thing : call.Answer → Thing)
    {put : call.Answer → ω → ω} {f : call.Answer → On σ τ ω α}
    (hmade : ∀ a, (Event.asked (.docker call) (.ok a) : Event τ).made? = some (thing a))
    (hput : ∀ a o, (get (put a o)).Subperm (thing a :: get o)) (hf : ∀ a, Keeps (Accounts get) (f a)) :
    Keeps (Accounts get) (do
      let a ← world (docker call)
      On.change (put a)
      f a : On σ τ ω α) := by
  intro s
  refine after_bind (after_docker call s.1).world ?_ ?_
  · rintro a s₁ ⟨⟨_, _, _, hpast⟩, hs₁⟩
    refine after_change_bind ((hf a _).mono fun r s' hrest => ?_)
    refine trans_of (Accounts get) (b := (s₁.1, put a s₁.2)) ⟨[thing a], ?_, ?_⟩ hrest
    · have hfinds : Finds Event.made? s.1 _ s₁.1 := finds_asked hpast
      rwa [hmade a] at hfinds
    · rw [hs₁]
      exact hput a s.2
  · rintro e s₁ ⟨⟨_, _, _, hpast⟩, hs₁⟩
    exact accounts_of_since ((refl_of Since s.1).ask hpast trivial) (by rw [hs₁])

end

/-! ## Backends -/

namespace Backend

variable [Seconds τ] [Host σ τ]

theorem keeps_container_checkListening :
    Keeps (Same container) (checkListening : On σ τ (Backend τ) (Except Unit Unit)) := by
  unfold checkListening
  refine (keeps_same_refresh (fun _ _ => rfl) fun _ _ => rfl).bind fun status => keeps_same_object.bind fun b => ?_
  refine .ite (keeps_same_lastLogs.bind fun _ => .throw_bind _ _) ?_
  split
  · exact .pure _
  · exact .pure _
  · refine (keeps_same_world _).bind fun up => .ite ?_ (.pure _)
    exact Keeps.bind (fun _ => rfl) fun _ => (keeps_same_world _).bind fun _ => .pure _

theorem keeps_container_waitUsual : Keeps (Same container) (waitUsual : On σ τ (Backend τ) Unit) := by
  refine keeps_same_object.bind fun b => Keeps.bind (fun _ => rfl) fun _ => ?_
  refine (keeps_pollFor (fun seconds => keeps_same_world _) _ _
    fun _ _ => keeps_container_checkListening).bind fun r => ?_
  cases r with
  | ok _ => exact .pure _
  | error _ => exact keeps_same_object.bind fun _ => keeps_same_lastLogs.bind fun _ => .throw _

theorem keeps_container_remove : Keeps (Same container) (remove : On σ τ (Backend τ) Unit) := by
  have henter : Keeps (Same container) (enter .removed : On σ τ (Backend τ) Unit) := fun _ => rfl
  refine keeps_same_object.bind fun b => .ite (.pure ()) ((keeps_same_world _).bind fun _ => ?_)
  refine (keeps_same_world _).attempt.bind fun r => ?_
  cases r with
  | ok _ => exact henter
  | error e => exact .ite henter (.throw_bind _ _)

theorem keeps_container_waitOrRemove : Keeps (Same container) (waitOrRemove : On σ τ (Backend τ) Unit) := by
  refine keeps_container_waitUsual.attempt.bind fun r => ?_
  cases r with
  | ok _ => exact .pure ()
  | error e =>
    refine .ite (keeps_same_object.bind fun _ => (keeps_same_world _).bind fun _ => ?_) (.throw e)
    exact keeps_container_remove.bind fun _ => .throw e

omit [Seconds τ] in
theorem after_createContainer_made (plan : ContainerPlan) (w : World σ τ) :
    After (createContainer plan) w fun r w' =>
      Since w w' ∧ ∀ c, r = .ok c → Seen (fun e => e.made? = some (.inl c)) w w' := by
  have hcreate {w₁ : World σ τ} (h : Since w w₁) : After (docker (.create plan)) w₁ fun r w' =>
      Since w w' ∧ ∀ c, r = .ok c → Seen (fun e => e.made? = some (.inl c)) w w' := by
    refine (after_docker (.create plan) w₁).mono ?_
    rintro r w' ⟨_, _, _, hpast⟩
    refine ⟨h.ask hpast trivial, ?_⟩
    rintro c rfl
    exact .of_last h hpast rfl
  unfold createContainer
  refine after_attempt_bind (hcreate (refl_of Since w)) ?_
  rintro (e | c) w₁ ⟨hsince, hmade⟩
  · refine after_ite (fun _ => ?_) fun _ => after_throw ⟨hsince, by simp⟩
    refine after_record_act_bind fun w₂ hlogs => ?_
    have hsince₂ : Since w w₂ := trans_of Since hsince hlogs.asks
    refine after_bind (after_docker (.pullImage plan.image) w₂) ?_ ?_
    · rintro _ w₃ ⟨_, _, _, hpast⟩
      exact hcreate (hsince₂.ask hpast trivial)
    · rintro e w₃ ⟨_, _, _, hpast⟩
      exact ⟨hsince₂.ask hpast trivial, by simp⟩
  · exact after_pure ⟨hsince, hmade⟩

/-- The container of a backend that was launched was made by the launch. -/
theorem after_launch_made (site : Site τ) (order : Order τ) (w : World σ τ) :
    After (launch site order) w fun r w' =>
      Since w w' ∧ ∀ b, r = .ok b → Seen (fun e => e.made? = some (.inl b.container)) w w' := by
  have hlaunch : Keeps Since (launch site order : Act σ τ (Backend τ)) :=
    keeps_launch (fun r _ => keeps_ask fun _ => trivial) (fun _ _ => Logs.asks) (fun _ => keeps_sleep fun _ => trivial)
      keeps_freshId site order
  refine (hlaunch w).and ?_
  have hpolicy : Keeps Since (order.policyAt site.settings : Act σ τ (RetryPolicy τ)) := by
    unfold Order.policyAt
    split
    · exact .pure _
    · exact keeps_policyOr _
  have hname : Keeps Since (freshName site.environmentId : Act σ τ String) :=
    keeps_freshId.bind fun _ => .pure _
  unfold launch
  refine after_bind (hpolicy w) (fun policy w₁ h₁ => ?_) (by simp)
  refine after_bind (hname w₁) (fun name w₂ h₂ => after_record_act_bind fun w₃ hlogs => ?_) (by simp)
  have hbefore : Since w w₃ := trans_of Since (trans_of Since h₁ h₂) hlogs.asks
  have hmade (plan : ContainerPlan) (report : Foreign → Option (Fault τ)) :
      After (reporting report (createContainer plan)) w₃ fun r w' =>
        ∀ c, r = .ok c → Seen (fun e => e.made? = some (.inl c)) w₃ w' := by
    refine after_reporting (after_createContainer_made plan w₃) ?_ (by simp) (by simp)
    exact fun c w₄ hpost => hpost.2
  refine after_bind (hmade _ _) (fun c w₄ hseen => ?_) (by simp)
  have hseen : Seen (fun e => e.made? = some (.inl c)) w w₄ := hbefore.seen (hseen c rfl)
  have hstart (b : Backend τ) : Keeps Since (b.startOrRemove : Act σ τ Unit) :=
    keeps_startOrRemove (fun r _ => keeps_ask fun _ => trivial) (fun _ _ => Logs.asks) b
  refine after_bind (hstart _ w₄) (fun _ w₅ h₅ => ?_) (by simp)
  have hwait : Keeps (Beside Since) (waitOrRemove : On σ τ (Backend τ) Unit) :=
    keeps_waitOrRemove (fun r _ => keeps_ask fun _ => trivial) (fun _ _ => Logs.asks)
      fun _ => keeps_sleep fun _ => trivial
  refine after_start_conclude ((hwait (w₅, _)).and (keeps_container_waitOrRemove (w₅, _))) ?_ (by simp)
  rintro _ s₆ ⟨h₆, hcontainer⟩
  refine after_pure ?_
  rintro _ ⟨⟩
  have hsame : s₆.2.container = c := hcontainer
  rw [hsame]
  exact (hseen.asks h₅).asks h₆

end Backend

/-! ## Environments -/

/-- A release, whatever is held, only adds to the past. -/
theorem Cleanup.keeps_since_release [Seconds τ] [Host σ τ] :
    Keeps (Beside Since) (Cleanup.release : On σ τ (Cleanup τ) _) := by
  intro s
  refine (after_release_any s.1 s.2).mono fun r s' hpost => ?_
  obtain ⟨runs, ht, _⟩ := hpost
  exact ht.keeps (fun _ _ hstill => hstill.mono fun _ _ _ => trivial)
    fun step => CleanupStep.keeps_run (fun _ _ _ => trivial) step.1 step.2

namespace Environment

variable [Seconds τ]

/-- What an environment and its backends hold of the daemon. -/
def holdings (e : Environment τ) : List Thing :=
  (e.network.toList.map .inr ++ e.proxy.toList.map .inl) ++ e.backends.map fun b => .inl b.container

theorem keeps_accounts_enter (state : EnvironmentState) :
    Keeps (Accounts holdings) (enter state : On σ τ (Environment τ) Unit) :=
  keeps_accounts_change fun _ => rfl

theorem keeps_accounts_onCleanup {act : On σ τ (Cleanup τ) α} (h : Keeps (Beside Since) act) :
    Keeps (Accounts holdings) (onCleanup act : On σ τ (Environment τ) α) :=
  fun s => after_part ((h (s.1, s.2.cleanup)).mono fun _ _ hsince => accounts_of_since hsince rfl)

theorem keeps_accounts_push (step : CleanupStep) :
    Keeps (Accounts holdings) (onCleanup (Cleanup.push step) : On σ τ (Environment τ) Unit) := by
  refine keeps_accounts_onCleanup ?_
  unfold Cleanup.push Coordinator.push
  refine keeps_object.beside.bind fun c => ?_
  exact .ite (.throw_bind _ _) (keeps_change _)

theorem keeps_accounts_use : Keeps (Accounts holdings) (use : On σ τ (Environment τ) Unit) := by
  refine keeps_accounts_object.bind fun e => ?_
  split
  · exact keeps_accounts_enter .inUse
  · exact .pure ()
  · exact .throw _

variable [Host σ τ]

theorem keeps_accounts_tearDown : Keeps (Accounts holdings) (tearDown : On σ τ (Environment τ) Unit) := by
  refine (keeps_accounts_enter _).bind fun _ => keeps_accounts_object.bind fun e => ?_
  refine (keeps_accounts_world (keeps_record _ _ _)).bind fun _ => ?_
  have hrelease : Keeps (Accounts holdings) (do
      let _ ← onCleanup Cleanup.release : On σ τ (Environment τ) Unit) :=
    (keeps_accounts_onCleanup Cleanup.keeps_since_release).bind fun _ => .pure ()
  exact hrelease.always (keeps_accounts_enter _)

theorem keeps_accounts_issueCertificate (hostname : String) (options : Certificate.Options) :
    Keeps (Accounts holdings) (issueCertificate hostname options : On σ τ (Environment τ) Certificate) := by
  refine keeps_accounts_use.bind fun _ => keeps_accounts_object.bind fun e => ?_
  have hissue : Keeps Since (Certificate.issue e.tlsDirectory hostname options : Act σ τ Certificate) :=
    (Certificate.keeps_issue _ _ _).mono fun _ _ hstill => hstill.mono fun _ _ _ => trivial
  cases e.certificates.get? hostname with
  | some known => exact .throw_bind _ _
  | none =>
    refine (keeps_accounts_world hissue).bind fun certificate => ?_
    exact Keeps.bind (keeps_accounts_change fun _ => rfl) fun _ => .pure _

/-- The backend that is added is the one that was launched. -/
theorem keeps_accounts_startBackend (order : BackendOrder τ) :
    Keeps (Accounts holdings) (startBackend order : On σ τ (Environment τ) Nat) := by
  refine keeps_accounts_use.bind fun _ => keeps_accounts_object.bind fun e s => ?_
  refine after_bind (Backend.after_launch_made _ _ s.1).world ?_ ?_
  · rintro backend s₁ ⟨⟨_, hseen⟩, hs₁⟩
    obtain ⟨found, hfinds, hfound⟩ := exists_finds_of_seen (hseen backend rfl)
    refine after_change_bind (after_pure ⟨found, hfinds, ?_⟩)
    have hholdings : holdings { s₁.2 with backends := s₁.2.backends ++ [backend] } =
        holdings s.2 ++ [.inl backend.container] := by
      simp [holdings, hs₁]
    rw [hholdings]
    refine List.perm_append_comm.subperm.trans ?_
    exact (List.singleton_subperm_iff.mpr hfound).append (List.Subperm.refl _)
  · rintro e s₁ ⟨⟨hsince, _⟩, hs₁⟩
    exact accounts_of_since hsince (by rw [hs₁])

/-! ### Setting up -/

theorem keeps_accounts_setUpScratch (config : ProxyConfig) :
    Keeps (Accounts holdings) (setUpScratch config : On σ τ (Environment τ) Unit) := by
  have hidle {β : Type} {act : Act σ τ β} (h : Keeps (Asks Request.Idle) act) :
      Keeps (Accounts holdings) (world act : On σ τ (Environment τ) β) :=
    keeps_accounts_world (h.mono fun _ _ hidle => hidle.mono fun _ _ _ => trivial)
  refine keeps_accounts_object.bind fun e => ?_
  refine (keeps_accounts_world (keeps_makeScratch (fun _ _ _ => trivial) _ _)).bind fun scratch => ?_
  refine Keeps.bind (keeps_accounts_change fun _ => rfl) fun _ => (keeps_accounts_push _).bind fun _ => ?_
  refine (hidle (keeps_makeTree _)).bind fun _ => ?_
  refine (hidle (Files.keeps_write Request.idle_of_isMaking _ _)).bind fun _ => ?_
  exact (hidle (keeps_writeExtras _ _)).bind fun _ => keeps_accounts_world (keeps_record _ _ _)

theorem keeps_accounts_setUpNetwork : Keeps (Accounts holdings) (setUpNetwork : On σ τ (Environment τ) Unit) := by
  refine keeps_accounts_object.bind fun e => ?_
  refine keeps_accounts_made_bind .inr (fun n => rfl) (fun n e => ?_) fun n => ?_
  · have hothers : (e.proxy.toList.map .inl ++ e.backends.map fun b => .inl b.container : List Thing).Sublist
        (e.network.toList.map .inr ++ (e.proxy.toList.map .inl ++ e.backends.map fun b => .inl b.container)) :=
      List.sublist_append_right _ _
    simpa [holdings] using (hothers.cons_cons (.inr n)).subperm
  · exact (keeps_accounts_push _).bind fun _ => keeps_accounts_world (keeps_record _ _ _)

theorem keeps_accounts_setUpProxy (image : String) (config : ProxyConfig) (scratch : Path) :
    Keeps (Accounts holdings) (setUpProxy image config scratch : On σ τ (Environment τ) Container) := by
  refine keeps_accounts_object.bind fun e => (keeps_accounts_world (keeps_record _ _ _)).bind fun _ => ?_
  refine keeps_accounts_made_bind .inl (fun c => rfl) (fun c e => ?_) fun c => ?_
  · have hothers : (e.network.toList.map .inr ++ e.backends.map fun b => .inl b.container : List Thing).Sublist
        (e.network.toList.map .inr ++ (e.proxy.toList.map .inl ++ e.backends.map fun b => .inl b.container)) :=
      (List.sublist_append_right _ _).append_left _
    have hmiddle : (e.network.toList.map .inr ++ .inl c :: e.backends.map fun b => .inl b.container :
        List Thing).Perm (.inl c :: (e.network.toList.map .inr ++ e.backends.map fun b => .inl b.container)) :=
      List.perm_middle
    simpa [holdings] using hmiddle.subperm.trans (hothers.cons_cons (.inl c)).subperm
  · exact (keeps_accounts_push _).bind fun _ =>
      (keeps_accounts_world (keeps_docker fun _ => trivial)).bind fun _ => .pure _

theorem keeps_accounts_setUpAddresses (proxy : Container) :
    Keeps (Accounts holdings) (setUpAddresses proxy : On σ τ (Environment τ) Int) := by
  have hread {β : Type} (found : Except InspectionProblem β) :
      Keeps (Accounts holdings) (Backend.inspected found : On σ τ (Environment τ) β) := by
    cases found with
    | ok a => exact .pure a
    | error p => exact .throw _
  unfold setUpAddresses
  refine (keeps_accounts_world (keeps_docker fun _ => trivial)).bind fun report => (hread _).bind fun settings => ?_
  refine keeps_accounts_object.bind fun e => (hread _).bind fun ip => ?_
  refine Keeps.bind (keeps_accounts_change fun _ => rfl) fun _ => (hread _).bind fun ports => ?_
  refine Keeps.bind (keeps_accounts_change fun _ => rfl) fun _ => keeps_accounts_object.bind fun e => ?_
  split
  · exact .pure _
  · exact .throw _

theorem keeps_accounts_setUp (image : String) (config : ProxyConfig) :
    Keeps (Accounts holdings) (setUp image config : On σ τ (Environment τ) Unit) := by
  have hidle {w w' : World σ τ} (h : Asks Request.Idle w w') : Since w w' :=
    h.mono fun _ _ _ => trivial
  have hcheck : Keeps Since (checkImage image : Act σ τ Unit) :=
    (keeps_checkImage image).mono fun _ _ huntouched => hidle huntouched.1
  refine (keeps_accounts_world hcheck).bind fun _ => (keeps_accounts_setUpScratch config).bind fun _ => ?_
  refine keeps_accounts_setUpNetwork.bind fun _ => keeps_accounts_object.bind fun e => ?_
  refine (keeps_accounts_setUpProxy image config _).bind fun proxy => ?_
  refine (keeps_accounts_world fun w => ?_).bind fun _ => ?_
  · exact (after_awaitLog e proxy _ w).mono fun _ _ hpost => hidle hpost.1
  · refine (keeps_accounts_setUpAddresses proxy).bind fun port => keeps_accounts_world fun w => ?_
    exact (after_awaitPort e port w).mono fun _ _ hpost => hidle hpost.1

theorem keeps_accounts_setUpOrAbort (image : String) (config : ProxyConfig) :
    Keeps (Accounts holdings) (setUpOrAbort image config : On σ τ (Environment τ) Unit) := by
  have habort : Keeps (Accounts holdings) (abort : On σ τ (Environment τ) Unit) := by
    refine (keeps_accounts_onCleanup Cleanup.keeps_since_release).bind fun failures => ?_
    refine (keeps_accounts_enter _).bind fun _ => .ite ?_ (.pure ())
    exact keeps_accounts_object.bind fun e => keeps_accounts_world (keeps_record _ _ _)
  refine (keeps_accounts_enter _).bind fun _ => keeps_accounts_object.bind fun e => ?_
  refine (keeps_accounts_world (keeps_record _ _ _)).bind fun _ => ?_
  refine (keeps_accounts_setUp image config).attempt.bind fun r => ?_
  cases r with
  | ok _ => exact keeps_accounts_enter _
  | error fault => exact habort.bind fun _ => .throw _

end Environment

end ProxyTestbed
