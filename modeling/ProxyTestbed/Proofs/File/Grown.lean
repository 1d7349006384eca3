import Mathlib.Data.List.Induction
import ProxyTestbed.Proofs.File.Spared

/-!
# File trees that grow

What stands in a tree stands in a directory, and so does everything above it. Operations that make files put new
entries at some places and keep the directories, so a path that led somewhere still leads there.

* `WellFormed.above`: everything above an entry is a directory.
* `isBelow_resolve_iff`: a resolved path is below another one if and only if its place is below that one's.
* `grows_makeDirectory`, `grows_write`, `Files.keeps_makeDirectories_grows`: where new entries come.
-/

namespace ProxyTestbed

namespace FileTree

variable {t t' t₀ : FileTree} {l here : Location} {p q : Path} {name : String} {names : List String}

/-! ## Places of paths -/

/-- The place that a path stands for, whatever is there. -/
def destination (t : FileTree) (p : Path) : Location :=
  lead (t.origin p) p.names

theorem destination_of_place (h : t.place p = .ok l) : t.destination p = l :=
  (place_eq_ok h).symm

theorem destination_eq_of_home (h : t.home = t₀.home) (p : Path) : t.destination p = t₀.destination p := by
  unfold destination origin
  rw [h]

theorem lead_of_not_mem (h : ".." ∉ names) (here : Location) : lead here names = here ++ names := by
  induction names generalizing here with
  | nil => exact (List.append_nil here).symm
  | cons name names ih =>
    rw [List.mem_cons, not_or] at h
    rw [lead, if_neg (Ne.symm h.1), ih h.2, List.append_assoc, List.singleton_append]

theorem not_mem_lead (h : ".." ∉ here) : ".." ∉ lead here names := by
  induction names generalizing here with
  | nil => exact h
  | cons name names ih =>
    apply ih
    by_cases hname : name = ".."
    · rw [if_pos hname]
      exact fun hmem => h (List.dropLast_subset here hmem)
    · rw [if_neg hname]
      simp [h, Ne.symm hname]

theorem not_mem_destination (h : ".." ∉ t.home) (p : Path) : ".." ∉ t.destination p := by
  apply not_mem_lead
  unfold origin
  split
  · exact h
  · exact h
  · exact List.not_mem_nil
  · exact List.not_mem_nil

theorem directory_of_step (h : t.step here name = .ok l) : t.entryAt? here = some .directory := by
  unfold step at h
  split at h
  · cases h
  · cases h
  · assumption

theorem step_of_directory (h : t.entryAt? here = some .directory) (hname : name ≠ "..") :
    t.step here name = if maxNameBytes < name.utf8ByteSize then .error .nameTooLong else .ok (here ++ [name]) := by
  simp only [step, h, if_neg hname]

/-- Names are followed through directories. -/
theorem directory_of_follow {before after : List String}
    (h : t.follow here (before ++ name :: after) = .ok l) :
    t.entryAt? (lead here before) = some .directory := by
  induction before generalizing here with
  | nil =>
    obtain ⟨next, hstep, _⟩ := bind_eq_ok_iff.mp h
    exact directory_of_step hstep
  | cons first before ih =>
    obtain ⟨next, hstep, hrest⟩ := bind_eq_ok_iff.mp h
    rw [lead, ← step_eq_ok hstep]
    exact ih hrest

theorem place_of_not_hasZero (h : p.hasZero = false) : t.place p = t.follow (t.origin p) p.names := by
  simp only [place, h, Bool.false_eq_true, if_false]

theorem follow_append (names more : List String) :
    t.follow here (names ++ more) = t.follow here names >>= fun l => t.follow l more := by
  induction names generalizing here with
  | nil => rfl
  | cons name names ih =>
    rw [List.cons_append, follow, follow]
    cases t.step here name with
    | error problem => rfl
    | ok next => exact ih

/-- Names that lead through directories are followed, unless one of them is too long. -/
theorem follow_of_directories (h : ∀ before name after, names = before ++ name :: after →
      t.entryAt? (lead here before) = some .directory) :
    t.follow here names = .ok (lead here names) ∨ t.follow here names = .error .nameTooLong := by
  induction names generalizing here with
  | nil => exact .inl rfl
  | cons name names ih =>
    have hhere : t.entryAt? here = some .directory := h [] name names rfl
    have hrest (next : Location) (hnext : next = if name = ".." then here.dropLast else here ++ [name]) :
        t.follow next names = .ok (lead here (name :: names)) ∨ t.follow next names = .error .nameTooLong := by
      rw [lead, ← hnext]
      refine ih fun before name' after hnames => ?_
      rw [hnext]
      exact h (name :: before) name' after (by rw [hnames, List.cons_append])
    rw [follow]
    by_cases hname : name = ".."
    · have hstep : t.step here name = .ok here.dropLast := by
        simp only [step, hhere, if_pos hname]
      rw [hstep]
      exact hrest _ (by rw [if_pos hname])
    · rw [step_of_directory hhere hname]
      by_cases hlong : maxNameBytes < name.utf8ByteSize
      · rw [if_pos hlong]
        exact .inr rfl
      · rw [if_neg hlong]
        exact hrest _ (by rw [if_neg hname])

theorem not_hasZero_of_place (h : t.place p = .ok l) : p.hasZero = false := by
  unfold place at h
  split at h
  · cases h
  · rename_i hzero
    exact Bool.eq_false_iff.mpr hzero

theorem follow_of_place (h : t.place p = .ok l) : t.follow (t.origin p) p.names = .ok l := by
  rwa [place_of_not_hasZero (not_hasZero_of_place h)] at h

theorem look_of_entry {e : Entry} (hplace : t.place p = .ok l) (hentry : t.entryAt? l = some e) :
    t.look p = .ok (l, e) := by
  simp only [look, hplace, bind, Except.bind, hentry]
  rfl

theorem hasDirectory_iff :
    t.hasDirectory p = true ↔ ∃ l, t.place p = .ok l ∧ t.entryAt? l = some .directory := by
  constructor
  · intro h
    unfold hasDirectory at h
    split at h
    · rename_i l hlook
      exact ⟨l, look_eq_ok hlook⟩
    · cases h
  · rintro ⟨l, hplace, hentry⟩
    simp only [hasDirectory, look_of_entry hplace hentry]

/-! ### Resolved paths -/

theorem destination_resolve (h : ".." ∉ t.home) (p : Path) :
    t.destination (t.resolve p) = t.destination p := by
  have hdots : ".." ∉ t.destination p := not_mem_destination h p
  show lead (t.origin (t.resolve p)) (t.resolve p).names = t.destination p
  by_cases hhome : t.home.isPrefixOf (t.destination p) = true
  · have hresolve : t.resolve p = ⟨.home, (t.destination p).drop t.home.length⟩ := if_pos hhome
    rw [hresolve, lead_of_not_mem fun hmem => hdots (List.mem_of_mem_drop hmem)]
    exact List.prefix_iff_eq_append.mp (List.isPrefixOf_iff_prefix.mp hhome)
  · have hresolve : t.resolve p = ⟨.root, t.destination p⟩ := if_neg hhome
    rw [hresolve, lead_of_not_mem hdots]
    rfl

theorem not_mem_resolve (h : ".." ∉ t.home) (p : Path) : ".." ∉ (t.resolve p).names := by
  have hdots : ".." ∉ t.destination p := not_mem_destination h p
  by_cases hhome : t.home.isPrefixOf (t.destination p) = true
  · have hresolve : t.resolve p = ⟨.home, (t.destination p).drop t.home.length⟩ := if_pos hhome
    rw [hresolve]
    exact fun hmem => hdots (List.mem_of_mem_drop hmem)
  · have hresolve : t.resolve p = ⟨.root, t.destination p⟩ := if_neg hhome
    rwa [hresolve]

/-- The first names of a path without `..` lead to a place above. -/
theorem destination_prefix (h : ".." ∉ p.names) (hnames : names <+: p.names) :
    t.destination { p with names := names } <+: t.destination p := by
  have hfirst : ".." ∉ names := fun hmem => h (hnames.subset hmem)
  show lead (t.origin p) names <+: lead (t.origin p) p.names
  rw [lead_of_not_mem hfirst, lead_of_not_mem h]
  exact (List.prefix_append_right_inj _).mpr hnames

/-- If the home is not below the place of `q`, a resolved path is below the resolved `q` if and only if its place
is below that of `q`. -/
theorem isBelow_resolve_iff (h : t.destination q <+: t.home → t.destination q = t.home) :
    (t.resolve p).isBelow (t.resolve q) = true ↔
      t.destination q <+: t.destination p ∧ t.destination p ≠ t.destination q := by
  have hresolve (p : Path) : t.resolve p = if t.home.isPrefixOf (t.destination p) then
      ⟨.home, (t.destination p).drop t.home.length⟩ else ⟨.root, t.destination p⟩ := rfl
  rw [hresolve p, hresolve q]
  generalize t.destination p = a at *
  generalize t.destination q = b at *
  by_cases hb : t.home.isPrefixOf b = true
  · obtain ⟨b', rfl⟩ := List.isPrefixOf_iff_prefix.mp hb
    rw [if_pos hb]
    by_cases ha : t.home.isPrefixOf a = true
    · obtain ⟨a', rfl⟩ := List.isPrefixOf_iff_prefix.mp ha
      rw [if_pos ha]
      simp [Path.isBelow, List.prefix_append_right_inj]
    · rw [if_neg ha]
      have hnot : ¬ t.home ++ b' <+: a := fun hstarts =>
        ha (List.isPrefixOf_iff_prefix.mpr ((List.prefix_append _ _).trans hstarts))
      simp [Path.isBelow, hnot]
  · rw [if_neg hb]
    by_cases ha : t.home.isPrefixOf a = true
    · rw [if_pos ha]
      have hnot : ¬ b <+: a := by
        intro hstarts
        have hhome := List.isPrefixOf_iff_prefix.mp ha
        -- two places above the same one: either of them is above the other
        rcases List.prefix_or_prefix_of_prefix hstarts hhome with hle | hle
        · rw [h hle] at hb
          exact hb (List.isPrefixOf_iff_prefix.mpr List.prefix_rfl)
        · exact hb (List.isPrefixOf_iff_prefix.mpr hle)
      simp [Path.isBelow, hnot]
    · rw [if_neg ha]
      simp [Path.isBelow]

/-! ## Trees without loose entries -/

/-- The home is a directory, `..` is none of its names, and everything else stands in a directory. -/
structure WellFormed (t : FileTree) : Prop where
  home : t.entryAt? t.home = some .directory
  named : ".." ∉ t.home
  closed : ∀ l e, l ≠ [] → t.entryAt? l = some e → t.entryAt? l.dropLast = some .directory

theorem wellFormed_empty : (⟨[], []⟩ : FileTree).WellFormed where
  home := rfl
  named := List.not_mem_nil
  closed := by
    intro l e hne hentry
    unfold entryAt? at hentry
    rw [if_neg hne] at hentry
    cases hentry

/-- Everything above an entry is a directory. -/
theorem WellFormed.above (h : t.WellFormed) {e : Entry} {l' : Location} (hentry : t.entryAt? l = some e)
    (hstarts : l' <+: l) (hne : l' ≠ l) : t.entryAt? l' = some .directory := by
  induction l using List.reverseRecOn generalizing e with
  | nil => exact absurd (List.prefix_nil.mp hstarts) hne
  | append_singleton l x ih =>
    have hparent := h.closed _ e (by simp) hentry
    rw [List.dropLast_concat] at hparent
    rcases List.prefix_concat_iff.mp hstarts with heq | hstarts
    · exact absurd heq hne
    · by_cases heq : l' = l
      · rw [heq]
        exact hparent
      · exact ih hparent hstarts heq

theorem WellFormed.origin (h : t.WellFormed) (p : Path) : t.entryAt? (t.origin p) = some .directory := by
  unfold FileTree.origin
  split
  · exact h.home
  · exact h.home
  · exact t.entryAt?_nil
  · exact t.entryAt?_nil

/-- A place where nothing is, but where a path leads, is one in a directory. -/
theorem WellFormed.directory_of_place (h : t.WellFormed) (hplace : t.place p = .ok l)
    (hnew : t.entryAt? l = none) : t.entryAt? l.dropLast = some .directory := by
  have hnot : t.entryAt? l ≠ some .directory := by simp [hnew]
  have hfollow := follow_of_place hplace
  rcases List.eq_nil_or_concat p.names with hnil | ⟨before, last, hnames⟩
  · rw [hnil] at hfollow
    cases hfollow
    exact absurd (h.origin p) hnot
  · rw [hnames, List.concat_eq_append] at hfollow
    have hdirectory := directory_of_follow hfollow
    have hl := follow_eq_ok hfollow
    rw [lead_append] at hl
    by_cases hlast : last = ".."
    · -- what is above a directory is one itself
      simp only [lead, hlast, if_true] at hl
      by_cases hroot : lead (t.origin p) before = []
      · rw [hl, hroot] at hnot
        exact absurd t.entryAt?_nil hnot
      · rw [hl] at hnot
        exact absurd (h.closed _ _ hroot hdirectory) hnot
    · simp only [lead, hlast, if_false] at hl
      rw [hl, List.dropLast_concat]
      exact hdirectory

/-- Everything above such a place is a directory. -/
theorem WellFormed.standing (h : t.WellFormed) (hplace : t.place p = .ok l) (hnew : t.entryAt? l = none)
    {l' : Location} (hstarts : l' <+: l) (hne : l' ≠ l) : t.entryAt? l' = some .directory := by
  have hparent := h.directory_of_place hplace hnew
  have hl : l ≠ [] := by
    rintro rfl
    exact hne (List.prefix_nil.mp hstarts)
  have habove : l' <+: l.dropLast := by
    rw [← List.dropLast_append_getLast hl] at hstarts hne
    exact (List.prefix_concat_iff.mp hstarts).resolve_left hne
  by_cases heq : l' = l.dropLast
  · rw [heq]
    exact hparent
  · exact h.above hparent habove heq

/-! ## Growth -/

/-- A tree with the home of `t₀`, in which the directories of `t₀` still stand. -/
structure Over (t₀ t : FileTree) : Prop where
  home : t.home = t₀.home
  standing : ∀ l, t₀.entryAt? l = some .directory → t.entryAt? l = some .directory

namespace Over

theorem refl (t : FileTree) : t.Over t :=
  ⟨rfl, fun _ h => h⟩

theorem follow (h : t₀.Over t) (hfollow : t₀.follow here names = .ok l) : t.follow here names = .ok l := by
  induction names generalizing here with
  | nil => exact hfollow
  | cons name names ih =>
    obtain ⟨next, hstep, hrest⟩ := bind_eq_ok_iff.mp hfollow
    have hdirectory := directory_of_step hstep
    refine bind_eq_ok_iff.mpr ⟨next, ?_, ih hrest⟩
    rw [← hstep]
    simp only [step, hdirectory, h.standing here hdirectory]

theorem place (h : t₀.Over t) (hplace : t₀.place p = .ok l) : t.place p = .ok l := by
  unfold FileTree.place at hplace ⊢
  split at hplace
  · cases hplace
  · rename_i hzero
    have horigin : t.origin p = t₀.origin p := by
      unfold origin
      rw [h.home]
    rw [if_neg hzero, horigin]
    exact h.follow hplace

theorem hasDirectory (h : t₀.Over t) (hdirectory : t₀.hasDirectory p = true) : t.hasDirectory p = true := by
  obtain ⟨l, hplace, hentry⟩ := hasDirectory_iff.mp hdirectory
  exact hasDirectory_iff.mpr ⟨l, h.place hplace, h.standing l hentry⟩

theorem set (h : t₀.Over t) (hne : l ≠ []) {e : Entry} (hold : t.entryAt? l = some .directory → e = .directory) :
    t₀.Over (t.set l e) := by
  refine ⟨h.home, fun l' hl' => ?_⟩
  have hstanding := h.standing l' hl'
  rw [entryAt?_set e hne]
  by_cases heq : l' = l
  · rw [heq] at hstanding
    rw [if_pos heq, hold hstanding]
  · rwa [if_neg heq]

end Over

/-- From a tree over `t₀` on, new entries come at places of `P`, and entries are changed at places of `T` alone. -/
def Grows (t₀ : FileTree) (P T : Location → Prop) (t t' : FileTree) : Prop :=
  t₀.Over t → t₀.Over t' ∧ ∀ l, t'.entryAt? l = t.entryAt? l ∨ (P l ∧ t.entryAt? l = none) ∨ T l

variable {P T P' T' : Location → Prop}

instance : IsPreorder FileTree (Grows t₀ P T) where
  refl _ h := ⟨h, fun _ => .inl rfl⟩
  trans t₁ t₂ t₃ h h' hover := by
    obtain ⟨hover₂, h₂⟩ := h hover
    obtain ⟨hover₃, h₃⟩ := h' hover₂
    refine ⟨hover₃, fun l => ?_⟩
    rcases h₂ l with hsame | hchanged
    · rw [← hsame]
      exact h₃ l
    · exact .inr hchanged

theorem Grows.mono (h : Grows t₀ P T t t') (hP : ∀ l, P l → P' l) (hT : ∀ l, T l → T' l) :
    Grows t₀ P' T' t t' := by
  intro hover
  obtain ⟨hover', hchanges⟩ := h hover
  refine ⟨hover', fun l => ?_⟩
  exact (hchanges l).imp_right (Or.imp (And.imp_left (hP l)) (hT l))

theorem makeDirectory_eq_ok (h : t.makeDirectory p = .ok t') :
    ∃ l, t.place p = .ok l ∧ l ≠ [] ∧ t.entryAt? l = none ∧ t' = t.set l .directory := by
  obtain ⟨l, hplace, h⟩ := bind_eq_ok_iff.mp h
  split at h
  · cases h
  · rename_i hentry
    cases h
    exact ⟨l, hplace, ne_nil_of_entryAt? (t := t) (by simp [hentry]), hentry, rfl⟩

theorem write_eq_ok {content : Bytes} (h : t.write p content = .ok t') :
    ∃ l mode, t.place p = .ok l ∧ l ≠ [] ∧ t.entryAt? l ≠ some .directory ∧
      t' = t.set l (.file content mode) := by
  obtain ⟨l, hplace, h⟩ := bind_eq_ok_iff.mp h
  split at h
  · cases h
  · rename_i mode hentry
    cases h
    exact ⟨l, mode, hplace, ne_nil_of_entryAt? (t := t) (by simp [hentry]), by simp [hentry], rfl⟩
  · rename_i hentry
    cases h
    exact ⟨l, _, hplace, ne_nil_of_entryAt? (t := t) (by simp [hentry]), by simp [hentry], rfl⟩

theorem grows_set (hne : l ≠ []) {e : Entry} (hold : t.entryAt? l = some .directory → e = .directory)
    (hl : t₀.Over t → (P l ∧ t.entryAt? l = none) ∨ T l) : Grows t₀ P T t (t.set l e) := by
  intro hover
  refine ⟨hover.set hne hold, fun l' => ?_⟩
  rw [entryAt?_set e hne]
  by_cases heq : l' = l
  · rw [heq]
    exact .inr (hl hover)
  · rw [if_neg heq]
    exact .inl rfl

/-- A directory is made at a place of `P`, if no directory of `t₀` is there. -/
theorem grows_makeDirectory
    (hp : P (t₀.destination p) ∨ t₀.entryAt? (t₀.destination p) = some .directory)
    (h : t.makeDirectory p = .ok t') : Grows t₀ P T t t' := by
  obtain ⟨l, hplace, hne, hentry, rfl⟩ := makeDirectory_eq_ok h
  refine grows_set hne (by simp) fun hover => .inl ⟨?_, hentry⟩
  have hdestination : t₀.destination p = l := by
    rw [← destination_eq_of_home hover.home, destination_of_place hplace]
  rw [hdestination] at hp
  rcases hp with hp | hstanding
  · exact hp
  · have hthere := hover.standing l hstanding
    rw [hentry] at hthere
    cases hthere

theorem grows_write {content : Bytes} (hp : T (t₀.destination p)) (h : t.write p content = .ok t') :
    Grows t₀ P T t t' := by
  obtain ⟨l, mode, hplace, hne, hentry, rfl⟩ := write_eq_ok h
  refine grows_set hne (fun hold => absurd hold hentry) fun hover => .inr ?_
  rwa [← destination_of_place hplace, destination_eq_of_home hover.home]

end FileTree

/-! ## Acts that make files -/

/-- The files of the worlds grow. -/
def GrowsFiles {σ τ : Type} (t₀ : FileTree) (P T : Location → Prop) (w w' : World σ τ) : Prop :=
  FileTree.Grows t₀ P T w.files w'.files

namespace Files

variable {σ τ : Type} {t₀ : FileTree} {P T : Location → Prop}

instance : IsPreorder (World σ τ) (GrowsFiles t₀ P T) where
  refl w := refl_of (FileTree.Grows t₀ P T) w.files
  trans _ _ _ h h' := trans_of (FileTree.Grows t₀ P T) h h'

theorem growsFiles_of_files_eq {w w' : World σ τ} (h : w'.files = w.files) : GrowsFiles t₀ P T w w' := by
  unfold GrowsFiles
  rw [h]
  exact refl_of (FileTree.Grows t₀ P T) w.files

theorem keeps_change_grows {shown : String} {f : FileTree → Except FileProblem FileTree}
    (hf : ∀ t t', f t = .ok t' → FileTree.Grows t₀ P T t t') :
    Keeps (GrowsFiles t₀ P T) (change shown f : Act σ τ Unit) := by
  refine fun w => (after_change_files shown f w).mono ?_
  rintro r w' (⟨t, h, _, rfl⟩ | ⟨_, _, _, rfl⟩)
  · exact hf _ _ h
  · exact refl_of (GrowsFiles t₀ P T) w'

variable [Host σ τ]

theorem keeps_ask_grows (r : Request τ) : Keeps (GrowsFiles t₀ P T) (ask r : Act σ τ r.Answer) :=
  fun w => (after_ask r w).mono fun _ _ h => growsFiles_of_files_eq h.2.1

/-- Directories are made at places of `P`, if all the names of the path lead there or to directories of `t₀`. -/
theorem keeps_makeDirectories_grows (existing : Bool) {path : Path}
    (hpath : ∀ names, names <+: path.names → P (t₀.destination { path with names := names }) ∨
      t₀.entryAt? (t₀.destination { path with names := names }) = some .directory) :
    Keeps (GrowsFiles t₀ P T) (makeDirectories existing path : Act σ τ Unit) := by
  refine keeps_makeDirectories_of (fun names hnames => ?_) existing
  exact (keeps_ask_grows _).bind fun _ => keeps_change_grows fun _ _ =>
    FileTree.grows_makeDirectory (hpath names hnames)

/-- A directory that is made, with those above it, is there. -/
theorem after_makeDirectories_there (existing : Bool) (path : Path) (w : World σ τ) :
    After (makeDirectories existing path) w fun r w' => r = .ok () → w'.files.hasDirectory path = true := by
  have hmake (w : World σ τ) : After (makeDirectory path) w fun r w' =>
      r = .ok () → w'.files.hasDirectory path = true := by
    refine (after_ask_change .makeDirectory path _ (·.makeDirectory path) w).mono fun r w₁ hmade hr => ?_
    obtain ⟨l, hplace, hne, hnew, hfiles⟩ := FileTree.makeDirectory_eq_ok (hmade hr).1
    have hover : w.files.Over (w.files.set l .directory) := (FileTree.Over.refl _).set hne (by simp)
    rw [hfiles]
    refine FileTree.hasDirectory_iff.mpr ⟨l, hover.place hplace, ?_⟩
    rw [FileTree.entryAt?_set _ hne, if_pos rfl]
  have hor (existing : Bool) (w : World σ τ) : After (makeDirectoryOr existing path) w fun r w' =>
      r = .ok () → w'.files.hasDirectory path = true := by
    refine after_attempt_bind (hmake w) fun r w₁ hmade => ?_
    cases r with
    | ok u => exact after_pure fun _ => hmade rfl
    | error e =>
      -- it is no fault if a directory is there already
      refine after_bind (P := fun r w' => r = .ok (w₁.files.hasDirectory path) ∧ w' = w₁) ⟨rfl, rfl⟩ ?_ (by simp)
      rintro there _ ⟨⟨⟩, rfl⟩
      refine after_ite (fun hthere => after_pure fun _ => ?_) fun _ => after_throw (by simp)
      simp only [Bool.and_eq_true] at hthere
      exact hthere.2
  have hfrom (depth : Nat) (existing : Bool) (w : World σ τ) : After (makeDirectoriesFrom depth existing path) w
      fun r w' => r = .ok () → w'.files.hasDirectory path = true := by
    cases depth with
    | zero => exact hor existing w
    | succ depth =>
      refine after_attempt_bind (hor existing w) fun r w₁ hmade => ?_
      cases r with
      | ok u => exact after_pure fun _ => hmade rfl
      | error e =>
        refine after_ite (fun _ => ?_) fun _ => after_throw (by simp)
        exact after_bind after_trivial (fun _ w₂ _ => hor existing w₂) (by simp)
  exact hfrom _ existing w

theorem keeps_write_grows {path : Path} (hpath : T (t₀.destination path)) (content : Bytes) :
    Keeps (GrowsFiles t₀ P T) (write path content : Act σ τ Unit) :=
  (keeps_ask_grows _).bind fun _ => keeps_change_grows fun _ _ => FileTree.grows_write hpath

end Files

end ProxyTestbed
