import ProxyTestbed.Proofs.Environment.Faults
import ProxyTestbed.Proofs.File.Grown

/-!
# Further files of a configuration

Each further file is for the place that its path leads to from the directory of the configuration. `..` may lead
out of that directory and back into it, and an absolute path leads from the root. The files are written one after
another, and the first one that is for a place outside ends it.

* `isBelow_iff`: the test that a file has to pass says that its place is inside.
* `after_writeExtras`: which files are written, where, and what is made on the way.
-/

namespace ProxyTestbed

variable {σ τ : Type}

/-- The path of a file, if writing it was granted. -/
def Event.written? : Event τ → Option Path
  | .asked (.file .write path) (.ok _) => some path
  | _ => none

theorem Event.written?_of_not_asked (e : Event τ) (h : ∀ r a, e ≠ .asked r a) : e.written? = none := by
  cases e with
  | asked r a => exact absurd rfl (h r a)
  | _ => rfl

namespace Environment

/-! ## Places of further files -/

/-- The place of a further file, if the configuration is at a place. -/
def extraPlace (config : Location) (text : String) : Location :=
  FileTree.lead (if (Path.ofString text).isAbsolute then [] else config) (Path.ofString text).names

/-- A place below another one. -/
def IsInside (config l : Location) : Prop :=
  config <+: l ∧ l ≠ config

theorem destination_child (t : FileTree) (config : Path) (text : String) :
    t.destination (config.child text) = extraPlace (t.destination config) text := by
  unfold Path.child Path.join extraPlace
  by_cases habsolute : (Path.ofString text).isAbsolute = true
  · have horigin : t.origin (Path.ofString text) = [] := by
      unfold Path.isAbsolute Path.ofString at habsolute
      unfold FileTree.origin Path.ofString
      split at habsolute <;> simp_all
    rw [if_pos habsolute, if_pos habsolute, FileTree.destination, horigin]
  · rw [if_neg habsolute, if_neg habsolute]
    exact FileTree.lead_append _ _ _

/-- Of the files for one place, the last one is there. -/
def Holds (t : FileTree) (config : Location) (files : List (String × String)) : Prop :=
  ∀ before file after, files = before ++ file :: after →
    (∀ later ∈ after, extraPlace config later.1 ≠ extraPlace config file.1) →
    ∃ mode, t.entryAt? (extraPlace config file.1) = some (.file (Text.utf8 file.2) mode)

/-- The file is there before those that come after it, which leave other places than theirs as they are. -/
theorem Holds.cons {t t' : FileTree} {config : Location} {file : String × String} {files : List (String × String)}
    {mode : Nat} (h : Holds t' config files)
    (hfile : t.entryAt? (extraPlace config file.1) = some (.file (Text.utf8 file.2) mode))
    (hkept : ∀ l, t'.entryAt? l = t.entryAt? l ∨ t.entryAt? l = none ∨
      ∃ later ∈ files, l = extraPlace config later.1) : Holds t' config (file :: files) := by
  intro before file' after hfiles hlater
  cases before with
  | nil =>
    cases hfiles
    rcases hkept (extraPlace config file.1) with hsame | hnone | ⟨later, hmem, heq⟩
    · exact ⟨mode, hsame.trans hfile⟩
    · rw [hfile] at hnone
      cases hnone
    · exact absurd heq.symm (hlater later hmem)
  | cons first before =>
    cases hfiles
    exact h before file' after rfl hlater

/-! ## Writing them -/

/-- What has become of the further files, of which those of `begun` were begun. -/
inductive ExtrasEnd [Host σ τ] (config : Location) (files begun : List (String × String)) (wrote : Prop)
    (w w' : World σ τ) : Except (Fault τ) Unit → Prop
  /-- All of them are written. -/
  | whole (hwrote : wrote) (hfiles : files = begun) : ExtrasEnd config files begun wrote w w' (.ok ())
  /-- The next one is not for a place inside. -/
  | escaped {file : String × String} {later : List (String × String)} (hwrote : wrote)
      (hfiles : files = begun ++ file :: later) (hout : ¬ IsInside config (extraPlace config file.1)) :
      ExtrasEnd config files begun wrote w w' (.error (.provisioning (.escapes file.1)))
  /-- The system refused an operation, or the path of the next one holds the character zero. -/
  | refused {later : List (String × String)} {fault : Fault τ} (hfiles : files = begun ++ later)
      (hfault : Refused w fault w' ∨
        fault = .zeroByte ∧ ∃ file ∈ later.head?, (Path.ofString file.1).hasZero = true) :
      ExtrasEnd config files begun wrote w w' (.error fault)

section

variable [Host σ τ] {config : Location} {files begun : List (String × String)} {wrote wrote' : Prop}
  {w w₁ w' : World σ τ} {r : Except (Fault τ) Unit}

theorem ExtrasEnd.after (h : ExtrasEnd config files begun wrote w₁ w' r) (hmakes : Makes w w₁)
    (hwrote : wrote → wrote') : ExtrasEnd config files begun wrote' w w' r := by
  cases h with
  | whole h hfiles => exact .whole (hwrote h) hfiles
  | escaped h hfiles hout => exact .escaped (hwrote h) hfiles hout
  | refused hfiles hfault => exact .refused hfiles (hfault.imp_left fun h => h.after hmakes)

theorem ExtrasEnd.cons (h : ExtrasEnd config files begun wrote w w' r) (file : String × String) :
    ExtrasEnd config (file :: files) (file :: begun) wrote w w' r := by
  cases h with
  | whole h hfiles => exact .whole h (congrArg _ hfiles)
  | escaped h hfiles hout => exact .escaped h (congrArg _ hfiles) hout
  | refused hfiles hfault => exact .refused (congrArg _ hfiles) hfault

end

/-- In the tree the configuration belongs below a directory, which is not above the home. -/
structure ConfigIn (t : FileTree) (root : Location) (config : Path) : Prop where
  noZero : config.hasZero = false
  below : root <+: t.destination config
  named : ".." ∉ t.home
  beside : ¬ root <+: t.home
  standing : ∀ l, l <+: root → t.entryAt? l = some .directory

/-- A place below `root` that is on the way to one of the places. -/
def OnTheWay (root : Location) (targets : List Location) (l : Location) : Prop :=
  root <+: l ∧ ∃ target ∈ targets, l <+: target

theorem OnTheWay.mono {root l : Location} {targets targets' : List Location} (h : OnTheWay root targets l)
    (hsub : targets ⊆ targets') : OnTheWay root targets' l := by
  obtain ⟨hroot, target, hmem, hprefix⟩ := h
  exact ⟨hroot, target, hsub hmem, hprefix⟩

/-- Between the worlds, files came to places on the way to the targets, and were written to those of `files`. -/
abbrev GrowsTo (t₀ : FileTree) (root : Location) (targets written : List Location) :
    World σ τ → World σ τ → Prop :=
  GrowsFiles t₀ (OnTheWay root targets) fun l => l ∈ written

theorem GrowsTo.mono {t₀ : FileTree} {root : Location} {targets written targets' written' : List Location}
    {w w' : World σ τ} (h : GrowsTo t₀ root targets written w w') (htargets : targets ⊆ targets')
    (hwritten : written ⊆ written') : GrowsTo t₀ root targets' written' w w' :=
  FileTree.Grows.mono h (fun _ hl => hl.mono htargets) fun _ hl => hwritten hl

section

variable [Host σ τ]

/-- Nothing is written where directories are made. -/
theorem keeps_makeDirectories_unwritten (existing : Bool) (path : Path) :
    Keeps (Asks fun r a => (Event.asked r a).written? = none)
      (Files.makeDirectories existing path : Act σ τ Unit) :=
  Files.keeps_makeDirectories_of (fun _ _ => (keeps_ask fun _ => rfl).bind fun _ => keeps_change_files _ _) existing

omit [Host σ τ] in
theorem finds_of_unwritten {w w' : World σ τ} (h : Asks (fun r a => (Event.asked r a).written? = none) w w') :
    Finds Event.written? w [] w' :=
  finds_of_asks Event.written?_of_not_asked h

/-- A file that is written is there. -/
theorem after_write_ok (path : Path) (content : Bytes) (w : World σ τ) :
    After (Files.write path content) w fun r w' => r = .ok () → Finds Event.written? w [path] w' ∧
      ∃ mode, w'.files.entryAt? (w.files.destination path) = some (.file content mode) := by
  refine (after_ask_change .write path _ (·.write path content) w).mono fun r w' hwrite hr => ?_
  obtain ⟨hfiles, hpast⟩ := hwrite hr
  obtain ⟨l, mode, hplace, hne, _, hset⟩ := FileTree.write_eq_ok hfiles
  refine ⟨⟨[_], hpast, rfl⟩, mode, ?_⟩
  rw [FileTree.destination_of_place hplace, hset, FileTree.entryAt?_set _ hne, if_pos rfl]

omit [Host σ τ] in
/-- A path that holds the character zero is not resolved. -/
theorem after_resolve_bind {α : Type} {path : Path} {f : Path → Act σ τ α} {w : World σ τ}
    {Q : Except (Fault τ) α → World σ τ → Prop} (hzero : path.hasZero = true → Q (.error .zeroByte) w)
    (hok : path.hasZero = false → After (f (w.files.resolve path)) w Q) : After (Files.resolve path >>= f) w Q := by
  cases hpath : path.hasZero with
  | true =>
    have hrun : Files.resolve path w = .error .zeroByte w := by
      simp only [Files.resolve, Files.look, hpath, if_true]
      rw [FileProblem.toForeign_zero]
    unfold After
    simp only [bind, EStateM.bind, hrun]
    exact hzero hpath
  | false =>
    have hrun : Files.resolve path w = .ok (w.files.resolve path) w := by
      simp only [Files.resolve, Files.look, hpath, Bool.false_eq_true, if_false]
    unfold After
    simp only [bind, EStateM.bind, hrun]
    exact hok hpath

variable {t₀ : FileTree} {root : Location} {config : Path}

theorem resolve_eq_of_home {t : FileTree} (h : t.home = t₀.home) (path : Path) : t.resolve path = t₀.resolve path := by
  unfold FileTree.resolve FileTree.origin
  rw [h]

/-- The test for the further files: their places are inside. -/
theorem isBelow_iff (hconfig : ConfigIn t₀ root config) (text : String) :
    (t₀.resolve (config.child text)).isBelow (t₀.resolve config) = true ↔
      IsInside (t₀.destination config) (extraPlace (t₀.destination config) text) := by
  rw [FileTree.isBelow_resolve_iff, destination_child]
  · rfl
  · exact fun hhome => absurd (hconfig.below.trans hhome) hconfig.beside

/-- A file is written when what it needs was made. -/
theorem after_made_write {act : Act σ τ Unit} {path : Path} {place : Location} {targets written : List Location}
    (hmakes : MakesFiles (fun _ => False) act)
    (hunwritten : Keeps (Asks fun r a => (Event.asked r a).written? = none) act)
    (hgrows : Keeps (GrowsTo t₀ root targets written) act) (hplace : t₀.destination path = place)
    (hmem : place ∈ written) (content : Bytes) (w : World σ τ) :
    After (do act; Files.write path content) w fun r w' =>
      Makes w w' ∧ GrowsTo t₀ root targets written w w' ∧ (∀ e, r = .error e → Refused w e w') ∧
        (r = .ok () → Finds Event.written? w [path] w' ∧
          (t₀.Over w.files → ∃ mode, w'.files.entryAt? place = some (.file content mode))) := by
  have hall : MakesFiles (fun _ => False) (do act; Files.write path content : Act σ τ Unit) :=
    hmakes.bind fun _ => Files.makes_write _ _
  have hgrowsAll : Keeps (GrowsTo t₀ root targets written) (do act; Files.write path content : Act σ τ Unit) :=
    hgrows.bind fun _ => Files.keeps_write_grows (by rwa [hplace]) _
  have hwritten : After (do act; Files.write path content : Act σ τ Unit) w fun r w' => r = .ok () →
      Finds Event.written? w [path] w' ∧
        (t₀.Over w.files → ∃ mode, w'.files.entryAt? place = some (.file content mode)) := by
    refine after_bind ((hunwritten w).and (hgrows w)) (fun _ w₁ hpost => ?_) (by simp)
    refine (after_write_ok path content w₁).mono fun r w₂ hwrite hr => ?_
    obtain ⟨hfinds, mode, hentry⟩ := hwrite hr
    refine ⟨by simpa using (finds_of_unwritten hpost.1).trans hfinds, fun hover => ⟨mode, ?_⟩⟩
    rwa [FileTree.destination_eq_of_home (hpost.2 hover).1.home, hplace] at hentry
  refine (((hall w).and (hgrowsAll w)).and hwritten).mono ?_
  rintro r w' ⟨⟨⟨hmakes, hfault⟩, hgrows⟩, hwritten⟩
  exact ⟨hmakes, hgrows, fun e he => (hfault e he).resolve_right False.elim, hwritten⟩

/-- One more file is written to its place inside, and what is missing on the way to it is made. -/
theorem after_writeOne (hconfig : ConfigIn t₀ root config) (file : String × String)
    (hinside : IsInside (t₀.destination config) (extraPlace (t₀.destination config) file.1)) (w : World σ τ) :
    After (do
      Files.makeDirectories true (t₀.resolve (config.child file.1)).parent
      Files.write (t₀.resolve (config.child file.1)) (Text.utf8 file.2)) w fun r w' =>
      let place := extraPlace (t₀.destination config) file.1
      Makes w w' ∧ GrowsTo t₀ root [place] [place] w w' ∧ (∀ e, r = .error e → Refused w e w') ∧
        (r = .ok () → Finds Event.written? w [t₀.resolve (config.child file.1)] w' ∧
          (t₀.Over w.files → ∃ mode, w'.files.entryAt? place = some (.file (Text.utf8 file.2) mode))) := by
  have hdestination : t₀.destination (t₀.resolve (config.child file.1)) =
      extraPlace (t₀.destination config) file.1 := by
    rw [FileTree.destination_resolve hconfig.named, destination_child]
  have hdots := FileTree.not_mem_resolve hconfig.named (config.child file.1)
  generalize t₀.resolve (config.child file.1) = target at *
  generalize extraPlace (t₀.destination config) file.1 = place at *
  -- the way to the place goes through `root`, above which everything is there
  have hway (names : List String) (hnames : names <+: target.parent.names) :
      OnTheWay root [place] (t₀.destination { target with names := names }) ∨
        t₀.entryAt? (t₀.destination { target with names := names }) = some .directory := by
    have hprefix := FileTree.destination_prefix (t := t₀) hdots (hnames.trans (List.dropLast_prefix _))
    rw [hdestination] at hprefix
    rcases List.prefix_or_prefix_of_prefix hprefix (hconfig.below.trans hinside.1) with habove | hbelow
    · exact .inr (hconfig.standing _ habove)
    · exact .inl ⟨hbelow, place, by simp, hprefix⟩
  exact after_made_write (Files.makes_makeDirectories _ _) (keeps_makeDirectories_unwritten true _)
    (Files.keeps_makeDirectories_grows true hway) hdestination (by simp) _ w

omit [Host σ τ] in
/-- What has grown is on the way to the targets. -/
theorem GrowsTo.changes {targets written : List Location} {w w' : World σ τ}
    (h : GrowsTo t₀ root targets written w w') (hover : t₀.Over w.files)
    (hwritten : ∀ l ∈ written, root <+: l ∧ l ∈ targets) (l : Location) :
    w'.files.entryAt? l = w.files.entryAt? l ∨ OnTheWay root targets l := by
  refine ((h hover).2 l).imp_right fun hl => ?_
  rcases hl with ⟨hway, _⟩ | hl
  · exact hway
  · obtain ⟨hroot, htarget⟩ := hwritten l hl
    exact ⟨hroot, l, htarget, List.prefix_rfl⟩

/-- The files were written in this order, each as its text is resolved, and they are there. -/
def Written (t₀ : FileTree) (config : Path) (begun : List (String × String)) (w w' : World σ τ) : Prop :=
  Finds Event.written? w (begun.map fun file => t₀.resolve (config.child file.1)).reverse w' ∧
    Holds w'.files (t₀.destination config) begun

/-- The places of further files. -/
def extraPlaces (t₀ : FileTree) (config : Path) (files : List (String × String)) : List Location :=
  files.map fun file => extraPlace (t₀.destination config) file.1

/-- From `w` to `w'` those further files that were begun were written to places inside, until it came to an end. -/
structure WritesExtras (t₀ : FileTree) (root : Location) (config : Path) (files begun : List (String × String))
    (w w' : World σ τ) (r : Except (Fault τ) Unit) : Prop where
  inside : ∀ file ∈ begun, IsInside (t₀.destination config) (extraPlace (t₀.destination config) file.1)
  makes : Makes w w'
  grows : GrowsTo t₀ root (extraPlaces t₀ config begun) (extraPlaces t₀ config begun) w w'
  ends : ExtrasEnd (t₀.destination config) files begun (Written t₀ config begun w w') w w' r

namespace WritesExtras

variable {files begun : List (String × String)} {file : String × String} {w w₁ w₂ : World σ τ}
  {r : Except (Fault τ) Unit}

theorem nothing (hend : ExtrasEnd (t₀.destination config) files [] True w w r) :
    WritesExtras t₀ root config files [] w w r where
  inside := by simp
  makes := refl_of Makes w
  grows := refl_of (GrowsTo t₀ root [] []) w
  ends := hend.after (refl_of Makes w) fun _ => ⟨⟨[], rfl, rfl⟩, by simp [Holds]⟩

/-- Entries that are there stay, unless they are at the place of a file that was begun. -/
theorem kept (h : WritesExtras t₀ root config files begun w w₁ r) (hover : t₀.Over w.files) (l : Location) :
    w₁.files.entryAt? l = w.files.entryAt? l ∨ w.files.entryAt? l = none ∨
      ∃ later ∈ begun, l = extraPlace (t₀.destination config) later.1 := by
  refine ((h.grows hover).2 l).imp_right (Or.imp And.right fun hl => ?_)
  obtain ⟨later, hmem, heq⟩ := List.mem_map.mp hl
  exact ⟨later, hmem, heq.symm⟩

theorem cons {mode : Nat} (h : WritesExtras t₀ root config files begun w₁ w₂ r) (hover : t₀.Over w.files)
    (hinside : IsInside (t₀.destination config) (extraPlace (t₀.destination config) file.1))
    (hmakes : Makes w w₁) (hgrows : GrowsTo t₀ root (extraPlaces t₀ config [file]) (extraPlaces t₀ config [file]) w w₁)
    (hfinds : Finds Event.written? w [t₀.resolve (config.child file.1)] w₁)
    (hentry : w₁.files.entryAt? (extraPlace (t₀.destination config) file.1) =
      some (.file (Text.utf8 file.2) mode)) :
    WritesExtras t₀ root config (file :: files) (file :: begun) w w₂ r where
  inside := List.forall_mem_cons.mpr ⟨hinside, h.inside⟩
  makes := trans_of Makes hmakes h.makes
  grows := by
    refine trans_of (GrowsTo t₀ root _ _) (hgrows.mono ?_ ?_) (h.grows.mono ?_ ?_) <;> simp [extraPlaces]
  ends := by
    refine (h.ends.after hmakes ?_).cons file
    rintro ⟨hfinds', hholds⟩
    exact ⟨by simpa using hfinds.trans hfinds', hholds.cons hentry (h.kept (hgrows hover).1)⟩

end WritesExtras

/-- The further files are written one after another, as long as they are for places inside. -/
theorem after_writeExtras (hconfig : ConfigIn t₀ root config) (files : List (String × String)) (w : World σ τ)
    (hover : t₀.Over w.files) :
    After (writeExtras config files) w fun r w' => ∃ begun,
      WritesExtras t₀ root config files begun w w' r := by
  induction files generalizing w with
  | nil => exact after_pure ⟨[], .nothing (.whole trivial rfl)⟩
  | cons file files ih =>
    unfold writeExtras
    refine after_resolve_bind (fun hzero => ?_) fun _ => after_resolve_bind (fun hzero => ?_) fun _ => ?_
    · have hname : (Path.ofString file.1).hasZero = true :=
        (Path.hasZero_child hzero).resolve_left (by simp [hconfig.noZero])
      exact ⟨[], .nothing (.refused rfl (.inr ⟨rfl, file, rfl, hname⟩))⟩
    · rw [hconfig.noZero] at hzero
      cases hzero
    · rw [resolve_eq_of_home hover.home, resolve_eq_of_home hover.home]
      have htest := isBelow_iff hconfig file.1
      by_cases hinside : IsInside (t₀.destination config) (extraPlace (t₀.destination config) file.1)
      · rw [htest.mpr hinside]
        refine after_ite (by simp) fun _ => ?_
        show After (Files.makeDirectories true _ >>= fun _ => Files.write _ _ >>= fun _ => writeExtras config files) w _
        rw [← bind_assoc]
        refine after_bind (after_writeOne hconfig file hinside w) ?_ ?_
        · rintro _ w₁ ⟨hmakes, hgrows, _, hwrote⟩
          obtain ⟨hfinds, hthere⟩ := hwrote rfl
          obtain ⟨mode, hentry⟩ := hthere hover
          refine (ih w₁ (hgrows hover).1).mono ?_
          rintro r w₂ ⟨begun, hextras⟩
          exact ⟨file :: begun, hextras.cons hover hinside hmakes hgrows hfinds hentry⟩
        · rintro e w₁ ⟨hmakes, hgrows, hfault, _⟩
          exact ⟨[file], by simpa using hinside, hmakes, hgrows, .refused rfl (.inl (hfault e rfl))⟩
      · rw [Bool.eq_false_iff.mpr (mt htest.mp hinside)]
        refine after_ite (fun _ => ?_) (by simp)
        have hthrow : After (throw (.provisioning (.escapes file.1)) : Act σ τ Unit) w fun r w' =>
            r = .error (.provisioning (.escapes file.1)) ∧ w' = w :=
          ⟨rfl, rfl⟩
        refine after_bind hthrow ?_ ?_
        · rintro _ _ ⟨h, _⟩
          cases h
        · rintro _ w' ⟨⟨⟩, rfl⟩
          exact ⟨[], .nothing (.escaped trivial rfl hinside)⟩

end

end Environment

end ProxyTestbed
