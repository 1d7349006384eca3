import ProxyTestbed.Environment.Use
import ProxyTestbed.Proofs.File.Listed

/-!
# The evidence of an environment

What is left to see of an environment are the fragments of the configuration that its proxy wrote, and the logs of
the proxy. They are read if all requests for them are granted, or refused in a way that is taken for an answer: a
directory that is not listed shows no fragments, and logs that the daemon does not give show why.

* `settles_generatedConfig`, `settles_proxyLogs`: exactly when the evidence is read.
* `after_generatedConfig`: the fragments that are read, or that there are none because they are not listed.
* `bears_of_allows`: on a host that grants operations on files, fragments fail only by not being files.
-/

namespace ProxyTestbed

variable {σ τ α β : Type}

/-! ## Acts that requests decide about -/

/-- Begun over the files `t`, the act leaves them as they are, and ends in a result if and only if all requests, with
their answers, satisfy `P`. -/
def Settles (P : (r : Request τ) → Except (Fault τ) r.Answer → Prop) (t : FileTree) (act : Act σ τ α) : Prop :=
  ∀ w, w.files = t → After act w fun r w' =>
    w'.files = t ∧ w.past <:+ w'.past ∧ ((∃ a, r = .ok a) ↔ Asks P w w')

namespace Settles

variable {P : (r : Request τ) → Except (Fault τ) r.Answer → Prop} {t : FileTree} {act : Act σ τ α}

theorem pure (a : α) : Settles P t (Pure.pure a : Act σ τ α) :=
  fun w hw => ⟨hw, List.suffix_rfl, fun _ => refl_of (Asks P) w, fun _ => ⟨a, rfl⟩⟩

theorem bind {f : α → Act σ τ β} (h : Settles P t act) (hf : ∀ a, Settles P t (f a)) : Settles P t (act >>= f) := by
  intro w hw
  refine after_bind (h w hw) ?_ ?_
  · rintro a w₁ ⟨hfiles, hpast, hasks⟩
    refine (hf a w₁ hfiles).mono ?_
    rintro r w₂ ⟨hfiles', hpast', hasks'⟩
    refine ⟨hfiles', hpast.trans hpast', ?_⟩
    rw [Asks.split hpast hpast', hasks', ← hasks]
    simp
  · rintro fault w₁ ⟨hfiles, hpast, hasks⟩
    refine ⟨hfiles, hpast, ?_⟩
    rw [← hasks]
    simp

/-- One request, and what comes of its answer. -/
theorem of_asked (h : ∀ w, w.files = t → After act w fun r w' => w'.files = t ∧
      ∃ q a, w'.past = .asked q a :: w.past ∧ ((∃ x, r = .ok x) ↔ P q a)) : Settles P t act := by
  refine fun w hw => (h w hw).mono ?_
  rintro r w' ⟨hfiles, q, a, hpast, hasked⟩
  exact ⟨hfiles, ⟨[.asked q a], hpast.symm⟩, hasked.trans (asks_asked_iff hpast).symm⟩

end Settles

/-- A request for evidence is granted and can be done, or its refusal is taken for an answer. -/
def Bears (t : FileTree) : (r : Request τ) → Except (Fault τ) r.Answer → Prop
  | .file .read path, a => a = .ok () ∧ ∃ content, t.read path = .ok content
  | .file .list _, a => ∀ fault, a = .error fault → fault.comesFrom Foreign.isSystem = true
  | .docker (.logs _ _), a => ∀ fault, a = .error fault → fault.comesFrom Foreign.isApi = true
  | _, a => ∃ answer, a = .ok answer

/-- An operation on a file is granted, and logs are given, or the daemon refuses them. -/
def Allows : (r : Request τ) → Except (Fault τ) r.Answer → Prop
  | .file _ _, a => a = .ok ()
  | .docker (.logs _ _), a => ∀ fault, a = .error fault → fault.comesFrom Foreign.isApi = true
  | _, _ => True

namespace Environment

variable {t : FileTree} {directory : Path}

/-! ## Names of fragments -/

/-- Something with a name that ends as fragments do stands in a directory. -/
def StandsIn (t : FileTree) (directory : Path) (name : String) : Prop :=
  ∃ l entry, t.look directory = .ok (l, .directory) ∧ t.entryAt? (l ++ [name]) = some entry ∧ isFragment name = true

/-- The names that are told of a directory, by the answer to the request for them. -/
inductive Named (t : FileTree) (directory : Path) : Except (Fault τ) Unit → Except (Fault τ) (List String) → Prop
  | told {names : List String} (hascending : names.Pairwise (· < ·))
      (hnames : ∀ name, name ∈ names ↔ StandsIn t directory name) : Named t directory (.ok ()) (.ok names)
  | untold {fault : Fault τ} (hsystem : fault.comesFrom Foreign.isSystem = true) :
      Named t directory (.error fault) (.ok [])
  | broken {fault : Fault τ} (hother : ¬ fault.comesFrom Foreign.isSystem = true) :
      Named t directory (.error fault) (.error fault)

section

variable [Host σ τ]

theorem after_fragmentNames (ht : t.Distinct) (hdirectory : t.hasDirectory directory = true) {w : World σ τ}
    (hw : w.files = t) : After (fragmentNames directory) w fun r w' => w'.files = t ∧
      ∃ a, w'.past = .asked (.file .list directory) a :: w.past ∧ Named t directory a r := by
  unfold fragmentNames Files.list
  refine after_attempt_bind (after_ask_look .list directory _ (fun t => t.list directory) w) ?_
  rintro r w₁ ⟨hfiles, a, hpast, hok, herror⟩
  rw [hw] at hfiles hok
  obtain ⟨l, names, hlook, hlist, hascending, hnames⟩ := FileTree.exists_list ht hdirectory
  cases a with
  | ok u =>
    rw [(hok names).mpr ⟨rfl, hlist⟩]
    refine ⟨hfiles, _, hpast, .told (hascending.filter _) fun name => ?_⟩
    rw [List.mem_filter, hnames]
    constructor
    · rintro ⟨⟨entry, hentry⟩, hname⟩
      exact ⟨l, entry, hlook, hentry, hname⟩
    · rintro ⟨l', entry, hlook', hentry, hname⟩
      rw [hlook] at hlook'
      cases hlook'
      exact ⟨⟨entry, hentry⟩, hname⟩
  | error fault =>
    rw [herror fault rfl]
    exact after_ite (fun hsystem => ⟨hfiles, _, hpast, .untold hsystem⟩) fun hother =>
      ⟨hfiles, _, hpast, .broken hother⟩

theorem settles_fragmentNames (ht : t.Distinct) (hdirectory : t.hasDirectory directory = true) :
    Settles (Bears t) t (fragmentNames directory : Act σ τ (List String)) := by
  refine .of_asked fun w hw => (after_fragmentNames ht hdirectory hw).mono ?_
  rintro r w₁ ⟨hfiles, a, hpast, hnamed⟩
  refine ⟨hfiles, _, a, hpast, ?_⟩
  cases hnamed with
  | told _ _ => simp [Bears]
  | untold hsystem => simp [Bears, hsystem]
  | broken hother => simp [Bears, hother]

theorem settles_readAll (directory : Path) (names : List String) :
    Settles (Bears t) t (readAll directory names : Act σ τ (Dictionary String)) := by
  induction names with
  | nil => exact .pure []
  | cons name names ih =>
    have hread : Settles (Bears t) t (Files.read (directory.child name) : Act σ τ Bytes) := by
      refine .of_asked fun w hw => (after_ask_look .read (directory.child name) _ _ w).mono ?_
      rintro r w₁ ⟨hfiles, a, hpast, hok, _⟩
      refine ⟨hfiles.trans hw, _, a, hpast, ?_⟩
      simp only [hok, hw, exists_and_left, Bears]
    exact hread.bind fun content => ih.bind fun rest => .pure _

end

/-! ## Fragments -/

section

variable [Seconds τ]

/-- The directory of the fragments, if the environment has a directory. -/
def fragmentsDirectory (e : Environment τ) : Option Path :=
  e.scratch.map fun scratch => fragmentsIn (configIn scratch)

/-- A fragment of that name stands among those of the environment. -/
def HasFragment (e : Environment τ) (t : FileTree) (name : String) : Prop :=
  ∃ directory, e.fragmentsDirectory = some directory ∧ StandsIn t directory name

/-- The text of a file, with line feeds at the ends of its lines. -/
def textOf (content : Bytes) : String :=
  String.ofList (Text.unifyNewlines (Text.ofBytes content).toList)

/-- All fragments of the environment, in the order of their names, with their texts. -/
structure Fragments (e : Environment τ) (t : FileTree) (found : Dictionary String) : Prop where
  ascending : found.Pairwise fun a b => a.1 < b.1
  mem_iff : ∀ name, name ∈ found.map (·.1) ↔ e.HasFragment t name
  text : ∀ f ∈ found, ∃ directory content, e.fragmentsDirectory = some directory ∧
    t.read (directory.child f.1) = .ok content ∧ f.2 = textOf content

/-- The text of a fragment can be read. -/
def HasText (e : Environment τ) (t : FileTree) (name : String) : Prop :=
  ∃ directory content, e.fragmentsDirectory = some directory ∧ t.read (directory.child name) = .ok content

theorem Fragments.hasText {e : Environment τ} {found : Dictionary String} {name : String} (h : e.Fragments t found)
    (hname : e.HasFragment t name) : e.HasText t name := by
  obtain ⟨f, hf, rfl⟩ := List.mem_map.mp ((h.mem_iff name).mpr hname)
  obtain ⟨directory, content, hdirectory, hcontent, _⟩ := h.text f hf
  exact ⟨directory, content, hdirectory, hcontent⟩

/-- The request is one for evidence of the environment. -/
def Seeks (e : Environment τ) (t : FileTree) : Request τ → Prop
  | .file .list path => e.fragmentsDirectory = some path
  | .file .read path => ∃ directory name, e.fragmentsDirectory = some directory ∧ StandsIn t directory name ∧
      path = directory.child name
  | .docker (.logs container _) => e.proxy = some container
  | _ => False

/-- The directory of the fragments is listed, unless none stands there. -/
def Lists (e : Environment τ) (t : FileTree) : (r : Request τ) → Except (Fault τ) r.Answer → Prop
  | .file .list _, a => (∃ fault, a = .error fault) → ∀ name, ¬ e.HasFragment t name
  | _, _ => True

theorem lists_of_none {e : Environment τ} (h : ∀ name, ¬ e.HasFragment t name) (r : Request τ)
    (a : Except (Fault τ) r.Answer) : Lists e t r a := by
  cases r with
  | file operation path =>
    cases operation with
    | list => exact fun _ => h
    | _ => trivial
  | _ => trivial

theorem lists_of_allows {e : Environment τ} {r : Request τ} {a : Except (Fault τ) r.Answer} (h : Allows r a) :
    Lists e t r a := by
  cases r with
  | file operation path =>
    cases operation with
    | list =>
      intro hfault
      obtain ⟨fault, rfl⟩ := hfault
      cases h
    | _ => trivial
  | _ => trivial

/-- All that a fragment needs is that it is a file. -/
theorem bears_of_allows {e : Environment τ} {r : Request τ} {a : Except (Fault τ) r.Answer}
    (htexts : ∀ name, e.HasFragment t name → e.HasText t name) (hseeks : e.Seeks t r) (h : Allows r a) :
    Bears t r a := by
  cases r with
  | file operation path =>
    cases h
    cases operation with
    | list => simp [Bears]
    | read =>
      obtain ⟨directory, name, hdirectory, hstands, rfl⟩ := hseeks
      obtain ⟨directory', content, hdirectory', hcontent⟩ := htexts name ⟨directory, hdirectory, hstands⟩
      cases hdirectory.symm.trans hdirectory'
      exact ⟨rfl, content, hcontent⟩
    | _ => cases hseeks
  | docker call =>
    cases call with
    | logs container tail => exact h
    | _ => cases hseeks
  | _ => cases hseeks

end

section

variable [Host σ τ]

/-- What is read are the files of the names, with their texts. -/
theorem after_readAll (directory : Path) (names : List String) {w : World σ τ} (hw : w.files = t) :
    After (readAll directory names) w fun r _ => ∀ found, r = .ok found → found.map (·.1) = names ∧
      ∀ f ∈ found, ∃ content, t.read (directory.child f.1) = .ok content ∧ f.2 = textOf content := by
  induction names generalizing w with
  | nil =>
    rintro _ ⟨⟩
    exact ⟨rfl, by simp⟩
  | cons name names ih =>
    refine after_bind (after_ask_look .read (directory.child name) _ _ w) ?_ (by simp)
    rintro content w₁ ⟨hfiles, a, _, hok, _⟩
    have hcontent := ((hok content).mp rfl).2
    rw [hw] at hfiles hcontent
    refine after_bind (ih hfiles) ?_ (by simp)
    intro rest w₂ hrest
    obtain ⟨hnames, htexts⟩ := hrest rest rfl
    rintro _ ⟨⟩
    exact ⟨congrArg (name :: ·) hnames, List.forall_mem_cons.mpr ⟨⟨content, hcontent, rfl⟩, htexts⟩⟩

theorem keeps_readAll {P : (r : Request τ) → Except (Fault τ) r.Answer → Prop} {directory : Path}
    {names : List String} (hP : ∀ name ∈ names, ∀ a, P (.file .read (directory.child name)) a) :
    Keeps (Asks P) (readAll directory names : Act σ τ (Dictionary String)) := by
  induction names with
  | nil => exact .pure []
  | cons name names ih =>
    obtain ⟨hname, hnames⟩ := List.forall_mem_cons.mp hP
    have hread : Keeps (Asks P) (Files.read (directory.child name) : Act σ τ Bytes) :=
      (keeps_ask hname).bind fun _ => keeps_look_files _ _
    exact hread.bind fun content => (ih hnames).bind fun rest => .pure _

end

variable [Seconds τ] [Host σ τ] {e : Environment τ}

/-- There are no fragments, or their directory is there. -/
theorem generatedConfig_cases (e : Environment τ) (w : World σ τ) :
    (e.generatedConfig w = (Pure.pure [] : Act σ τ (Dictionary String)) w ∧ ∀ name, ¬ e.HasFragment w.files name) ∨
      ∃ directory, e.fragmentsDirectory = some directory ∧ w.files.hasDirectory directory = true ∧
        e.generatedConfig w = (fragmentNames directory >>= readAll directory) w := by
  unfold generatedConfig HasFragment fragmentsDirectory
  cases e.scratch with
  | none => exact .inl ⟨rfl, by simp⟩
  | some scratch =>
    have hrun (f : Bool → Act σ τ (Dictionary String)) :
        (Files.isDirectory (fragmentsIn (configIn scratch)) >>= f) w =
          f (w.files.hasDirectory (fragmentsIn (configIn scratch))) w := rfl
    simp only [hrun, Option.map_some, Option.some.injEq, exists_eq_left']
    cases hdirectory : w.files.hasDirectory (fragmentsIn (configIn scratch)) with
    | false =>
      refine .inl ⟨rfl, ?_⟩
      rintro name ⟨l, entry, hlook, _⟩
      simp [FileTree.hasDirectory, hlook] at hdirectory
    | true => exact .inr ⟨rfl, rfl⟩

theorem settles_generatedConfig (ht : t.Distinct) (e : Environment τ) :
    Settles (Bears t) t (e.generatedConfig : Act σ τ (Dictionary String)) := by
  intro w hw
  rcases e.generatedConfig_cases w with ⟨hrun, _⟩ | ⟨directory, _, hdirectory, hrun⟩
  · exact .congr hrun (Settles.pure [] w hw)
  · have hsettles : Settles (Bears t) t (fragmentNames directory >>= readAll directory : Act σ τ (Dictionary String)) :=
      (settles_fragmentNames ht (hw ▸ hdirectory)).bind fun names => settles_readAll directory names
    exact .congr hrun (hsettles w hw)

theorem fragments_nil_iff : e.Fragments t [] ↔ ∀ name, ¬ e.HasFragment t name := by
  constructor
  · intro h name hname
    exact absurd ((h.mem_iff name).mpr hname) List.not_mem_nil
  · intro h
    exact ⟨.nil, fun name => iff_of_false List.not_mem_nil (h name), fun _ hf => absurd hf List.not_mem_nil⟩

/-- What is read are all fragments, unless there are some that are not listed: then nothing is read. -/
theorem after_generatedConfig (ht : t.Distinct) (e : Environment τ) {w : World σ τ} (hw : w.files = t) :
    After e.generatedConfig w fun r w' => ∀ found, r = .ok found →
      (e.Fragments t found ↔ Asks (Lists e t) w w') ∧ (e.Fragments t found ∨ found = []) := by
  rcases e.generatedConfig_cases w with ⟨hrun, hnone⟩ | ⟨directory, hfragments, hdirectory, hrun⟩
  · have hnil : e.Fragments t [] := fragments_nil_iff.mpr (hw ▸ hnone)
    refine .congr hrun (after_pure ?_)
    rintro _ ⟨⟩
    exact ⟨iff_of_true hnil (refl_of (Asks (Lists e t)) w), .inl hnil⟩
  · have hstands (name : String) : e.HasFragment t name ↔ StandsIn t directory name := by
      simp [HasFragment, hfragments]
    refine .congr hrun (after_bind (after_fragmentNames ht (hw ▸ hdirectory) hw) ?_ (by simp))
    rintro names w₁ ⟨hfiles, a, hpast, hnamed⟩
    have hlisted : Asks (Lists e t) w w₁ ↔ Lists e t (.file .list directory) a := asks_asked_iff hpast
    cases hnamed with
    | told hascending hnames =>
      have hreads : Keeps (Asks (Lists e t)) (readAll directory names : Act σ τ (Dictionary String)) :=
        keeps_readAll fun _ _ _ => trivial
      refine ((after_readAll directory names hfiles).and (hreads w₁)).mono ?_
      rintro r w₂ ⟨hread, hasks⟩ found hr
      obtain ⟨hfound, htexts⟩ := hread found hr
      have hall : e.Fragments t found := by
        refine ⟨?_, ?_, ?_⟩
        · rw [← hfound] at hascending
          exact List.pairwise_map.mp hascending
        · intro name
          rw [hfound, hnames, hstands]
        · intro f hf
          obtain ⟨content, hcontent, htext⟩ := htexts f hf
          exact ⟨directory, content, hfragments, hcontent, htext⟩
      have hasks' : Asks (Lists e t) w w₂ := trans_of (Asks (Lists e t)) (hlisted.mpr (by simp [Lists])) hasks
      exact ⟨iff_of_true hall hasks', .inl hall⟩
    -- an error of the system is taken for an empty directory, whatever stands there
    | untold hsystem =>
      rintro _ ⟨⟩
      rw [hlisted, fragments_nil_iff]
      exact ⟨⟨fun hnone _ => hnone, fun h => h ⟨_, rfl⟩⟩, .inr rfl⟩

/-- The fragments are listed, and those that stand there are read. -/
theorem after_generatedConfig_seeks (ht : t.Distinct) (e : Environment τ) {w : World σ τ} (hw : w.files = t) :
    After e.generatedConfig w fun _ w' => Asks (fun r _ => e.Seeks t r) w w' := by
  rcases e.generatedConfig_cases w with ⟨hrun, _⟩ | ⟨directory, hfragments, hdirectory, hrun⟩
  · exact .congr hrun (after_pure (refl_of (Asks _) w))
  · refine .congr hrun (after_bind (after_fragmentNames ht (hw ▸ hdirectory) hw) ?_ ?_)
    · intro names w₁ hpost
      obtain ⟨_, a, hpast, hnamed⟩ := hpost
      have hreads : Keeps (Asks fun r _ => e.Seeks t r) (readAll directory names : Act σ τ (Dictionary String)) := by
        refine keeps_readAll fun name hname _ => ⟨directory, name, hfragments, ?_, rfl⟩
        cases hnamed with
        | told _ hnames => exact (hnames name).mp hname
        | untold _ => cases hname
      refine (hreads w₁).mono fun _ w₂ hasks => ?_
      exact trans_of (Asks _) ((asks_asked_iff hpast).mpr hfragments) hasks
    · intro fault w₁ hpost
      obtain ⟨_, a, hpast, _⟩ := hpost
      exact (asks_asked_iff hpast).mpr hfragments

/-! ## Logs -/

theorem settles_proxyLogs (e : Environment τ) (tail : LogTail) :
    Settles (Bears t) t (e.proxyLogs tail : Act σ τ String) := by
  unfold proxyLogs
  cases e.proxy with
  | none => exact .pure ""
  | some proxy =>
    refine .of_asked fun w hw => after_attempt_bind (after_docker (.logs proxy tail) w) ?_
    rintro a w₁ ⟨_, hfiles, _, hpast⟩
    rw [hw] at hfiles
    cases a with
    | ok content => exact ⟨hfiles, _, _, hpast, by simp [Bears]⟩
    | error fault =>
      refine after_ite (fun hapi => ⟨hfiles, _, _, hpast, ?_⟩) fun hother => ⟨hfiles, _, _, hpast, ?_⟩
      · simp [Bears, hapi]
      · simp [Bears, hother]

theorem keeps_proxyLogs {P : (r : Request τ) → Except (Fault τ) r.Answer → Prop} {e : Environment τ} {tail : LogTail}
    (hP : ∀ proxy a, e.proxy = some proxy → P (.docker (.logs proxy tail)) a) :
    Keeps (Asks P) (e.proxyLogs tail : Act σ τ String) := by
  unfold proxyLogs
  cases hproxy : e.proxy with
  | none => exact .pure ""
  | some proxy =>
    refine (keeps_docker fun a => hP proxy a hproxy).attempt.bind fun a => ?_
    cases a with
    | ok content => exact .pure _
    | error fault => exact .ite (.pure _) (.throw fault)

end Environment

end ProxyTestbed
