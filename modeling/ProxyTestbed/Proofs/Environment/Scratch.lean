import ProxyTestbed.Proofs.Environment.Extras
import ProxyTestbed.Proofs.Wait.Constant

/-!
# The directory of an environment

An environment makes a directory of its own, with directories and a configuration in it, and then writes further
files. Whatever their paths are, and whatever the system refuses, nothing comes to any place outside.

* `after_fill`: what is made in the directory.
* `setUpScratch_contained`: nothing is made or written outside of the new directory, and a file that would leave
  the directory of the configuration ends it all.
-/

namespace ProxyTestbed

variable {σ τ : Type}

namespace Environment

section

variable [Host σ τ] {t₀ : FileTree} {root : Location}

/-! ## The whole directory -/

/-- A text that is a single name of a path. -/
def IsName (text : String) : Prop :=
  '/' ∉ text.toList ∧ text ≠ "" ∧ text ≠ "."

instance (text : String) : Decidable (IsName text) :=
  inferInstanceAs (Decidable (_ ∧ _))

omit [Host σ τ] in
theorem IsName.child {text : String} (h : IsName text) (p : Path) :
    p.child text = { p with names := p.names ++ [text] } :=
  Path.child_of_not_mem h.1 h.2.1 h.2.2 p

theorem IsName.child_child {first second : String} (h : IsName first) (h' : IsName second) (p : Path) :
    (p.child first).child second = { p with names := p.names ++ [first, second] } := by
  rw [h'.child, h.child]
  simp

/-- The places that an environment needs in its directory. -/
def ownPlaces (root : Location) : List Location :=
  [root ++ ["ssl", "certs"], root ++ ["ssl", "private"], root ++ ["nginx", "conf.d"], root ++ ["acme"],
    root ++ ["nginx", "nginx.conf"]]

/-- In the tree a path leads to a directory that is not above the home, and everything above it is one. -/
structure ScratchAt (t : FileTree) (scratch : Path) (root : Location) : Prop where
  place : t.place scratch = .ok root
  named : ".." ∉ t.home
  beside : ¬ root <+: t.home
  standing : ∀ l, l <+: root → t.entryAt? l = some .directory

namespace ScratchAt

variable {scratch : Path} {more names : List String}

theorem destination (h : ScratchAt t₀ scratch root) (hmore : ".." ∉ more) :
    t₀.destination { scratch with names := scratch.names ++ more } = root ++ more := by
  show FileTree.lead (t₀.origin scratch) (scratch.names ++ more) = root ++ more
  rw [FileTree.lead_append, ← FileTree.place_eq_ok h.place, FileTree.lead_of_not_mem hmore]

theorem destination_config (h : ScratchAt t₀ scratch root) : t₀.destination (configIn scratch) = root ++ ["nginx"] := by
  have hname : IsName "nginx" := by decide
  rw [configIn, hname.child]
  exact h.destination (by decide)

theorem configIn (h : ScratchAt t₀ scratch root) : ConfigIn t₀ root (configIn scratch) where
  noZero := by
    have hname : IsName "nginx" := by decide
    have hzero : scratch.hasZero = false := FileTree.not_hasZero_of_place h.place
    rw [Environment.configIn, hname.child]
    unfold Path.hasZero at hzero ⊢
    rw [List.any_append, hzero]
    decide
  below := by
    rw [h.destination_config]
    exact List.prefix_append _ _
  named := h.named
  beside := h.beside
  standing := h.standing

/-- The names of a path below the directory lead to directories, or to places on the way. -/
theorem way (h : ScratchAt t₀ scratch root) (hmore : ".." ∉ more) (hnames : names <+: scratch.names ++ more) :
    OnTheWay root [root ++ more] (t₀.destination { scratch with names := names }) ∨
      t₀.entryAt? (t₀.destination { scratch with names := names }) = some .directory := by
  rcases List.prefix_or_prefix_of_prefix hnames (List.prefix_append _ _) with ⟨rest, hrest⟩ | ⟨more', rfl⟩
  · cases rest with
    | nil =>
      rw [List.append_nil] at hrest
      rw [hrest, FileTree.destination_of_place h.place]
      exact .inr (h.standing root List.prefix_rfl)
    | cons name rest =>
      have hfollow := FileTree.follow_of_place h.place
      rw [← hrest] at hfollow
      exact .inr (FileTree.directory_of_follow hfollow)
  · have hmore' : more' <+: more := (List.prefix_append_right_inj _).mp hnames
    rw [h.destination fun hmem => hmore (hmore'.subset hmem)]
    exact .inl ⟨List.prefix_append _ _, _, by simp, (List.prefix_append_right_inj _).mpr hmore'⟩

theorem keeps_makeDirectories (h : ScratchAt t₀ scratch root) (hmore : ".." ∉ more)
    (hown : root ++ more ∈ ownPlaces root) {path : Path}
    (hpath : path = { scratch with names := scratch.names ++ more }) :
    Keeps (GrowsTo t₀ root (ownPlaces root) []) (Files.makeDirectories false path : Act σ τ Unit) := by
  subst hpath
  refine Files.keeps_makeDirectories_grows false fun names hnames => ?_
  exact (h.way hmore hnames).imp_left fun hway => hway.mono (by simpa using hown)

theorem keeps_makeTree (h : ScratchAt t₀ scratch root) :
    Keeps (GrowsTo t₀ root (ownPlaces root) []) (makeTree scratch : Act σ τ Unit) := by
  have hssl : IsName "ssl" := by decide
  have hnginx : IsName "nginx" := by decide
  have hcerts : IsName Certificate.certDirectory := by decide
  have hprivate : IsName Certificate.keyDirectory := by decide
  have hfragments : IsName "conf.d" := by decide
  have hacme : IsName "acme" := by decide
  refine (h.keeps_makeDirectories ?_ ?_ (hssl.child_child hcerts _)).bind fun _ => ?_
  · decide
  · simp [ownPlaces, Certificate.certDirectory]
  refine (h.keeps_makeDirectories ?_ ?_ (hssl.child_child hprivate _)).bind fun _ => ?_
  · decide
  · simp [ownPlaces, Certificate.keyDirectory]
  refine (h.keeps_makeDirectories ?_ ?_ (hnginx.child_child hfragments _)).bind fun _ => ?_
  · decide
  · simp [ownPlaces]
  refine h.keeps_makeDirectories ?_ ?_ (hacme.child _)
  · decide
  · simp [ownPlaces]

end ScratchAt

/-- The configuration and the further files were written in this order, and they are there. -/
def Filled (config : ProxyConfig) (scratch : Path) (root : Location) (begun : List (String × String))
    (w w' : World σ τ) : Prop :=
  Finds Event.written? w ((configIn scratch).child "nginx.conf" ::
      begun.map fun file => w.files.resolve ((configIn scratch).child file.1)).reverse w' ∧
    Holds w'.files (root ++ ["nginx"]) (("nginx.conf", config.baseConfig) :: begun)

/-- From `w` to `w'` an environment fills its directory at `root`, and those further files are begun. -/
structure Fills (config : ProxyConfig) (scratch : Path) (root : Location) (begun : List (String × String))
    (w w' : World σ τ) (r : Except (Fault τ) Unit) : Prop where
  inside : ∀ file ∈ begun, IsInside (root ++ ["nginx"]) (extraPlace (root ++ ["nginx"]) file.1)
  makes : Makes w w'
  changes : ∀ l, w'.files.entryAt? l = w.files.entryAt? l ∨
    OnTheWay root (ownPlaces root ++ begun.map fun file => extraPlace (root ++ ["nginx"]) file.1) l
  ends : ExtrasEnd (root ++ ["nginx"]) config.extraFiles begun (Filled config scratch root begun w w') w w' r

namespace Fills

variable {config : ProxyConfig} {scratch : Path} {begun : List (String × String)} {w w₁ w₂ : World σ τ}
  {r : Except (Fault τ) Unit}

theorem logs (h : Fills config scratch root begun w w₁ (.ok ())) (hlogs : Logs w₁ w₂) :
    Fills config scratch root begun w w₂ (.ok ()) := by
  have hfiles : w₂.files = w₁.files := by
    obtain ⟨es, rfl, _⟩ := hlogs
    rfl
  refine ⟨h.inside, trans_of Makes h.makes hlogs.asks, ?_, ?_⟩
  · rw [hfiles]
    exact h.changes
  · obtain ⟨⟨hfinds, hholds⟩, hwhole⟩ | _ | _ := h.ends
    refine .whole ⟨?_, ?_⟩ hwhole
    · simpa using hfinds.trans (hlogs.finds Event.written?_of_not_asked)
    · rwa [hfiles]

/-- Nothing further was begun if the system refused something before. -/
theorem of_refused {fault : Fault τ} (hmakes : Makes w w₁)
    (hgrows : GrowsTo w.files root (ownPlaces root) [root ++ ["nginx", "nginx.conf"]] w w₁)
    (hrefused : Refused w fault w₁) : Fills config scratch root [] w w₁ (.error fault) where
  inside := by simp
  makes := hmakes
  changes l := by simpa using hgrows.changes (.refl _) (by simp [ownPlaces]) l
  ends := .refused rfl (.inl hrefused)

/-- The further files are written after the configuration. -/
theorem of_extras (h : ScratchAt w.files scratch root) (hmakes : Makes w w₁)
    (hgrows : GrowsTo w.files root (ownPlaces root) [root ++ ["nginx", "nginx.conf"]] w w₁)
    (hfinds : Finds Event.written? w [(configIn scratch).child "nginx.conf"] w₁) {mode : Nat}
    (hentry : w₁.files.entryAt? (extraPlace (root ++ ["nginx"]) "nginx.conf") =
      some (.file (Text.utf8 config.baseConfig) mode))
    (hextras : WritesExtras w.files root (configIn scratch) config.extraFiles begun w₁ w₂ r) :
    Fills config scratch root begun w w₂ r := by
  have hkept := hextras.kept (hgrows (.refl _)).1
  obtain ⟨hinside, hmakes', hgrows', hend⟩ := hextras
  rw [h.destination_config] at hinside hend hkept
  have hplaces : extraPlaces w.files (configIn scratch) begun =
      begun.map fun file => extraPlace (root ++ ["nginx"]) file.1 := by
    rw [extraPlaces, h.destination_config]
  rw [hplaces] at hgrows'
  have hboth : GrowsTo w.files root (ownPlaces root ++ begun.map fun file => extraPlace (root ++ ["nginx"]) file.1)
      ([root ++ ["nginx", "nginx.conf"]] ++ begun.map fun file => extraPlace (root ++ ["nginx"]) file.1) w w₂ := by
    refine trans_of (GrowsTo _ _ _ _) (hgrows.mono ?_ ?_) (hgrows'.mono ?_ ?_)
    · exact List.subset_append_left _ _
    · exact List.subset_append_left _ _
    · exact List.subset_append_right _ _
    · exact List.subset_append_right _ _
  refine ⟨hinside, trans_of Makes hmakes hmakes', hboth.changes (.refl _) fun l hl => ?_, hend.after hmakes ?_⟩
  · rcases List.mem_append.mp hl with hl | hl
    · rw [List.mem_singleton.mp hl]
      exact ⟨List.prefix_append _ _, by simp [ownPlaces]⟩
    · refine ⟨?_, List.mem_append_right _ hl⟩
      obtain ⟨file, hfile, rfl⟩ := List.mem_map.mp hl
      exact (List.prefix_append _ _).trans (hinside file hfile).1
  · rintro ⟨hfinds', hholds⟩
    rw [h.destination_config] at hholds
    exact ⟨by simpa using hfinds.trans hfinds', hholds.cons hentry hkept⟩

end Fills

/-- The directories that are needed and the configuration come first. -/
theorem after_makeOwn {scratch : Path} {w : World σ τ} (h : ScratchAt w.files scratch root) (content : Bytes) :
    After (do
      makeTree scratch
      Files.write ((configIn scratch).child "nginx.conf") content) w fun r w₁ =>
      Makes w w₁ ∧ GrowsTo w.files root (ownPlaces root) [root ++ ["nginx", "nginx.conf"]] w w₁ ∧
        (∀ e, r = .error e → Refused w e w₁) ∧
        (r = .ok () → Finds Event.written? w [(configIn scratch).child "nginx.conf"] w₁ ∧
          ∃ mode, w₁.files.entryAt? (extraPlace (root ++ ["nginx"]) "nginx.conf") = some (.file content mode)) := by
  have hplace : w.files.destination ((configIn scratch).child "nginx.conf") = root ++ ["nginx", "nginx.conf"] := by
    have hnginx : IsName "nginx" := by decide
    have hname : IsName "nginx.conf" := by decide
    rw [configIn, hnginx.child_child hname]
    exact h.destination (by decide)
  have hextra : extraPlace (root ++ ["nginx"]) "nginx.conf" = root ++ ["nginx", "nginx.conf"] := by
    rw [← h.destination_config, ← destination_child, hplace]
  rw [hextra]
  generalize (configIn scratch).child "nginx.conf" = conf at *
  have htree : Keeps (GrowsTo w.files root (ownPlaces root) [root ++ ["nginx", "nginx.conf"]])
      (makeTree scratch : Act σ τ Unit) :=
    h.keeps_makeTree.mono fun _ _ hgrows => hgrows.mono (List.Subset.refl _) (List.nil_subset _)
  refine (after_made_write (makes_makeTree scratch) (keeps_makeTree_of (keeps_makeDirectories_unwritten false) scratch)
    htree hplace (by simp) content w).mono ?_
  rintro r w₁ ⟨hmakes, hgrows, hrefused, hwritten⟩
  exact ⟨hmakes, hgrows, hrefused, fun hr => (hwritten hr).imp_right fun hentry => hentry (.refl _)⟩

/-- The directory is filled, as long as the system does not refuse anything and the further files are for places
inside. -/
theorem after_fill {scratch : Path} {w : World σ τ} (h : ScratchAt w.files scratch root) (config : ProxyConfig)
    (message : String) :
    After (do
      makeTree scratch
      Files.write ((configIn scratch).child "nginx.conf") (Text.utf8 config.baseConfig)
      writeExtras (configIn scratch) config.extraFiles
      record .debug .environment message) w fun r w' => ∃ begun,
      Fills config scratch root begun w w' r := by
  rw [← bind_assoc]
  refine after_bind (after_makeOwn h (Text.utf8 config.baseConfig)) (fun _ w₁ hpost => ?_) fun e w₁ hpost => ?_
  · obtain ⟨hmakes, hgrows, _, hwrote⟩ := hpost
    obtain ⟨hfinds, mode, hentry⟩ := hwrote rfl
    have hextras := after_writeExtras h.configIn config.extraFiles w₁ (hgrows (.refl _)).1
    have hfilled {r : Except (Fault τ) Unit} {w₂ : World σ τ}
        (hpost : ∃ begun, WritesExtras w.files root (Environment.configIn scratch) config.extraFiles begun w₁ w₂ r) :
        ∃ begun, Fills config scratch root begun w w₂ r := by
      obtain ⟨begun, hextras⟩ := hpost
      exact ⟨begun, .of_extras h hmakes hgrows hfinds hentry hextras⟩
    refine after_bind hextras (fun _ w₂ hpost => ?_) fun e w₂ hpost => hfilled hpost
    obtain ⟨begun, hfills⟩ := hfilled hpost
    exact ⟨begun, hfills.logs (keeps_record_logs _ _ _ w₂)⟩
  · obtain ⟨hmakes, hgrows, hrefused, _⟩ := hpost
    exact ⟨[], .of_refused hmakes hgrows (hrefused e rfl)⟩

/-! ## From the beginning -/

/-- A directory is made where nothing was, or the system refuses it. -/
theorem after_makeScratch_new (id : String) (parent : Option String) (w : World σ τ) :
    After (makeScratch id parent) w fun r w' => Makes w w' ∧ Finds Event.written? w [] w' ∧
      (∀ fault, r = .error fault → w'.files = w.files ∧ Refused w fault w') ∧
      ∀ scratch, r = .ok scratch → ∃ root, w.files.place scratch = .ok root ∧ w.files.entryAt? root = none ∧
        root ≠ [] ∧ w'.files = w.files.set root .directory := by
  have hmakes : MakesFiles (fun _ => False) (makeScratch id parent : Act σ τ Path) := makes_makeScratch _ _
  have hunwritten : Keeps (Asks fun r a => (Event.asked r a).written? = none)
      (makeScratch id parent : Act σ τ Path) :=
    keeps_temporaryDirectory.bind fun _ => keeps_freshEnding.bind fun _ =>
      ((keeps_ask fun _ => rfl).bind fun _ => keeps_change_files _ _).bind fun _ => .pure _
  have hmade : After (makeScratch id parent) w fun r w' => ∀ scratch, r = .ok scratch → ∃ root,
      w.files.place scratch = .ok root ∧ w.files.entryAt? root = none ∧ root ≠ [] ∧
        w'.files = w.files.set root .directory := by
    have husual : After temporaryDirectory w fun _ w' => w'.files = w.files := rfl
    have hending (w : World σ τ) : After freshEnding w fun _ w' => w'.files = w.files := rfl
    refine after_bind husual (fun usual w₁ h₁ => ?_) (by simp)
    refine after_bind (hending w₁) (fun ending w₂ h₂ => ?_) (by simp)
    rw [h₁] at h₂
    generalize pathText _ _ = text
    have hcalled : After (Files.makeDirectoryCalled text (.ofString text)) w₂ fun r w₃ => r = .ok () →
        ∃ root, w.files.place (.ofString text) = .ok root ∧ w.files.entryAt? root = none ∧ root ≠ [] ∧
          w₃.files = w.files.set root .directory := by
      refine (after_ask_change .makeDirectory _ _ (·.makeDirectory _) w₂).mono fun r w₃ hmake hr => ?_
      obtain ⟨root, hplace, hne, hnew, hfiles⟩ := FileTree.makeDirectory_eq_ok (hmake hr).1
      rw [h₂] at hplace hnew hfiles
      exact ⟨root, hplace, hnew, hne, hfiles⟩
    refine after_bind hcalled (fun _ w₃ hpost => after_pure ?_) (by simp)
    rintro _ ⟨⟩
    exact hpost rfl
  refine ((((hmakes w).and (after_makeScratch _ _ w)).and (hunwritten w)).and hmade).mono ?_
  rintro r w' ⟨⟨⟨⟨hmakes, hfault⟩, huntouched⟩, hunwritten⟩, hmade⟩
  refine ⟨hmakes, finds_of_unwritten hunwritten, fun fault hr => ⟨?_, ?_⟩, hmade⟩
  · exact (huntouched fault hr).2
  · exact (hfault fault hr).resolve_right False.elim

theorem scratchAt_set {t : FileTree} (h : t.WellFormed) {scratch : Path} (hplace : t.place scratch = .ok root)
    (hnew : t.entryAt? root = none) (hne : root ≠ []) : ScratchAt (t.set root .directory) scratch root where
  place := by
    have hover : t.Over (t.set root .directory) := (FileTree.Over.refl t).set hne (by simp)
    exact hover.place hplace
  named := h.named
  beside := by
    intro hhome
    have hdirectory : t.entryAt? root = some .directory := by
      by_cases heq : root = t.home
      · rw [heq]
        exact h.home
      · exact h.above h.home hhome heq
    rw [hnew] at hdirectory
    cases hdirectory
  standing := by
    intro l hl
    rw [FileTree.entryAt?_set _ hne]
    by_cases heq : l = root
    · rw [if_pos heq]
    · rw [if_neg heq]
      exact h.standing hplace hnew hl heq

/-- The directory that was made is a part of what is filled. -/
theorem Fills.after {config : ProxyConfig} {scratch : Path} {begun : List (String × String)} {w w₁ w₂ : World σ τ}
    {r : Except (Fault τ) Unit} (h : Fills config scratch root begun w₁ w₂ r) (hmakes : Makes w w₁)
    (hfinds : Finds Event.written? w [] w₁) (hne : root ≠ []) (hfiles : w₁.files = w.files.set root .directory) :
    Fills config scratch root begun w w₂ r := by
  refine ⟨h.inside, trans_of Makes hmakes h.makes, fun l => ?_, h.ends.after hmakes ?_⟩
  · rcases h.changes l with hsame | hway
    · rw [hsame, hfiles, FileTree.entryAt?_set _ hne]
      by_cases heq : l = root
      · rw [heq]
        exact .inr ⟨List.prefix_rfl, root ++ ["acme"], by simp [ownPlaces], List.prefix_append _ _⟩
      · rw [if_neg heq]
        exact .inl rfl
    · exact .inr hway
  · rintro ⟨hfound, hholds⟩
    refine ⟨?_, hholds⟩
    have hhome : w₁.files.home = w.files.home := by rw [hfiles]; rfl
    simpa [resolve_eq_of_home hhome] using hfinds.trans hfound

end

section

variable [Seconds τ] [Host σ τ]

omit [Host σ τ] in
theorem after_push_open (step : CleanupStep) {s : World σ τ × Environment τ} (h : s.2.cleanup.released = false) :
    After (onCleanup (Cleanup.push step)) s fun r s' => r = .ok () ∧ s'.1 = s.1 ∧ s'.2.scratch = s.2.scratch := by
  refine after_part ?_
  unfold Cleanup.push Coordinator.push
  refine after_object_bind ?_
  rw [if_neg (by simp [h])]
  exact ⟨rfl, rfl, rfl⟩

omit [Seconds τ] in
/-- Unless the system refuses something, a file that is for a place outside is reported, and nothing else is. -/
theorem Fills.reports_iff {config : ProxyConfig} {scratch : Path} {root : Location} {begun : List (String × String)}
    {w w' : World σ τ} {r : Except (Fault τ) Unit} (h : Fills config scratch root begun w w' r)
    (hrefused : ∀ fault, r = .error fault → ¬ Refused w fault w')
    (hzero : ∀ file ∈ config.extraFiles, (Path.ofString file.1).hasZero = false) :
    (∃ problem, r = .error (.provisioning problem)) ↔
      ∃ file ∈ config.extraFiles, ¬ IsInside (root ++ ["nginx"]) (extraPlace (root ++ ["nginx"]) file.1) := by
  have hinside := h.inside
  cases h.ends with
  | whole _ hfiles =>
    rw [hfiles]
    simpa using fun a b hmem => hinside (a, b) hmem
  | @escaped file later _ hfiles hout =>
    exact ⟨fun _ => ⟨file, by simp [hfiles], hout⟩, fun _ => ⟨_, rfl⟩⟩
  | @refused later fault hfiles hfault =>
    rcases hfault with hfault | ⟨_, file, hfile, hname⟩
    · exact absurd hfault (hrefused _ rfl)
    · have hmem : file ∈ config.extraFiles := by
        rw [hfiles]
        exact List.mem_append_right _ (List.mem_of_mem_head? hfile)
      rw [hzero file hmem] at hname
      cases hname

/-- **Further files stay in the directory of the configuration.** Either the system refuses the directory of the
environment, and no file changes. Or it is made at `root`, where nothing was, and then every place that changes is on
the way from `root` to one of its own places or to that of a further file that was begun, and all of these are
strictly inside of the directory of the configuration. They are written in their order, and each has its content
in the end, if no later one is for the same place; it all ends well if it comes to the end of them, with a problem
at the first file that is for a place outside, or with what the system refuses. -/
theorem setUpScratch_contained (config : ProxyConfig) {w : World σ τ} {e : Environment τ} (hw : w.files.WellFormed)
    (he : e.cleanup.released = false) :
    After (setUpScratch config) (w, e) fun r s =>
      (s.1.files = w.files ∧ ∃ fault, r = .error fault ∧ Refused w fault s.1) ∨
      ∃ scratch root begun, s.2.scratch = some scratch ∧ w.files.place scratch = .ok root ∧
        w.files.entryAt? root = none ∧ Fills config scratch root begun w s.1 r ∧
        ((∀ fault, r = .error fault → ¬ Refused w fault s.1) →
          (∀ file ∈ config.extraFiles, (Path.ofString file.1).hasZero = false) →
          ((∃ problem, r = .error (.provisioning problem)) ↔
            ∃ file ∈ config.extraFiles, ¬ IsInside (root ++ ["nginx"]) (extraPlace (root ++ ["nginx"]) file.1))) := by
  unfold setUpScratch
  refine after_object_bind (after_bind (after_makeScratch_new _ _ w).world ?_ ?_)
  · rintro scratch ⟨w₁, _⟩ ⟨⟨hmakes, hfinds, _, hmade⟩, rfl⟩
    obtain ⟨root, hplace, hnew, hne, hfiles⟩ := hmade scratch rfl
    have hscratch : ScratchAt w₁.files scratch root := by
      rw [hfiles]
      exact scratchAt_set hw hplace hnew hne
    refine after_change_bind (after_bind (after_push_open _ he) ?_ (by simp))
    rintro _ ⟨w₂, e₂⟩ ⟨_, rfl, hscratch₂⟩
    -- the parts are joined to the one act that fills the directory
    simp only [← world_bind]
    refine (after_fill hscratch config _).world.mono ?_
    rintro r ⟨w₃, _⟩ ⟨⟨begun, hfills⟩, rfl⟩
    have hwhole : Fills config scratch root begun w w₃ r := hfills.after hmakes hfinds hne hfiles
    exact .inr ⟨scratch, root, begun, hscratch₂, hplace, hnew, hwhole, hwhole.reports_iff⟩
  · rintro fault ⟨w₁, _⟩ ⟨⟨_, _, hrefused, _⟩, rfl⟩
    obtain ⟨hfiles, hrefused⟩ := hrefused fault rfl
    exact .inl ⟨hfiles, fault, rfl, hrefused⟩

end

/-- Of three further files, the second one is for a place outside: `..` leads out of the directory and to another
one in its place. -/
def leavingConfig : ProxyConfig :=
  { ProxyConfig.usual with
    extraFiles := [("conf.d/../a.conf", "a"), ("../nginx2/b.conf", "b"), ("c.conf", "c")] }

-- irreducible, since it is costly to compute what becomes of it
/-- An environment that has acquired nothing. -/
@[irreducible] def unmade : Environment Rat :=
  .create "e" .standard none

/-- The fault is one of setting up. -/
def isSetUpFault : Fault Rat → Bool
  | .provisioning _ => true
  | _ => false

theorem isSetUpFault_iff {fault : Fault Rat} :
    isSetUpFault fault = true ↔ ∃ problem, fault = .provisioning problem := by
  cases fault <;> simp [isSetUpFault]

/-- The first file is written, and the second one is reported. -/
theorem setUpScratch_contained_leaving :
    After (setUpScratch leavingConfig)
      ((Constant.begin, unmade) : World (Constant Constant.granting) Rat × Environment Rat)
      fun r s => (∃ problem, r = .error (.provisioning problem)) ∧
        (∃ mode, s.1.files.entryAt? ["e-0001", "nginx", "a.conf"] = some (.file (Text.utf8 "a") mode)) ∧
        ∃ scratch root begun, s.2.scratch = some scratch ∧
          Fills leavingConfig scratch root begun Constant.begin s.1 r := by
  have hrun : After (setUpScratch leavingConfig)
      ((Constant.begin, unmade) : World (Constant Constant.granting) Rat × Environment Rat)
      fun r s => failsAs isSetUpFault r = true ∧
        s.1.files.entryAt? ["e-0001", "nginx", "a.conf"] = some (.file (Text.utf8 "a") FileTree.newFileMode) := by
    decide +kernel
  have hopen : unmade.cleanup.released = false := by decide +kernel
  refine (hrun.and (setUpScratch_contained leavingConfig FileTree.wellFormed_empty hopen)).mono ?_
  rintro r s ⟨⟨hproblem, hfile⟩, hcontained⟩
  rcases hcontained with ⟨hfiles, _⟩ | ⟨scratch, root, begun, hscratch, _, _, hfills, _⟩
  · rw [hfiles] at hfile
    cases hfile
  · obtain ⟨fault, rfl, hfault⟩ := failsAs_iff.mp hproblem
    obtain ⟨problem, rfl⟩ := isSetUpFault_iff.mp hfault
    exact ⟨⟨problem, rfl⟩, ⟨_, hfile⟩, scratch, root, begun, hscratch, hfills⟩

end Environment

end ProxyTestbed
