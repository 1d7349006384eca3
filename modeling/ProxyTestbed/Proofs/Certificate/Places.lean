import ProxyTestbed.Proofs.Certificate.Issue

/-!
# The places of the two files of a certificate

When the directories of a certificate are there, nothing but the length of the host name decides whether a file of
it can be written, taken away or given another mode. Each of these operations changes its own place alone.

* `Vacant.place`: where the path of a file leads.
* `after_write_own`, `after_discard_own`, `after_setMode_own`: what the operations do on a host that grants them.
-/

namespace ProxyTestbed

/-- An error of the outside world. -/
def Fault.IsForeign {τ : Type} (fault : Fault τ) : Prop :=
  ∃ e, fault = .foreign e

/-- The host grants every operation on a file, and a run ends with an error of the outside world, if it cannot be
followed to its end. -/
structure Host.Granting (σ : Type) {τ : Type} [Host σ τ] : Prop where
  file : ∀ (operation : FileOperation) (path : Path) (h : σ), (answer (.file operation path) h).1 = .ok ()
  run : ∀ (run : CertificateRun) (h : σ) (fault : Fault τ), (answer (.run run) h).1 = .error fault →
    fault.IsForeign
  broken : ∀ (run : CertificateRun) (h : σ) (report : RunReport τ) (fault : Fault τ),
    (answer (.run run) h).1 = .ok report → report.ending = .broken fault → fault.IsForeign

/-- An operation on a file that the host does not grant, and a run that cannot be followed to its end, fail with an
error of the outside world. -/
structure Host.Outward (σ : Type) {τ : Type} [Host σ τ] : Prop where
  file : ∀ (operation : FileOperation) (path : Path) (h : σ) (fault : Fault τ),
    (answer (.file operation path) h).1 = .error fault → fault.IsForeign
  run : ∀ (run : CertificateRun) (h : σ) (fault : Fault τ), (answer (.run run) h).1 = .error fault →
    fault.IsForeign
  broken : ∀ (run : CertificateRun) (h : σ) (report : RunReport τ) (fault : Fault τ),
    (answer (.run run) h).1 = .ok report → report.ending = .broken fault → fault.IsForeign

theorem Host.Granting.outward {σ τ : Type} [Host σ τ] (h : Host.Granting σ) : Host.Outward σ where
  file operation path host fault hanswer := by
    rw [h.file] at hanswer
    cases hanswer
  run := h.run
  broken := h.broken

namespace Certificate

variable {σ τ : Type}

/-- The names of the two files are names for the system. -/
def Fits (hostname : String) : Prop :=
  hostname.utf8ByteSize + 4 ≤ FileTree.maxNameBytes

instance (hostname : String) : Decidable (Fits hostname) :=
  inferInstanceAs (Decidable (_ ≤ _))

/-- The directory of a path is there, and nothing at its place or below. -/
structure Vacant (t : FileTree) (p : Path) : Prop where
  directory : t.hasDirectory p.parent = true
  vacant : ∀ l, t.destination p <+: l → t.entryAt? l = none

/-- At a place there is a file or nothing. -/
structure Stands (t : FileTree) (l : Location) (there : Bool) : Prop where
  noDirectory : t.entryAt? l ≠ some .directory
  isSome : (t.entryAt? l).isSome = there

/-- From `w` to `w'` a file was put at a place or taken away, and no other places changed but those below. -/
structure Puts (t₀ : FileTree) (l : Location) (there : Bool) (w w' : World σ τ) : Prop where
  kept : t₀.Over w'.files
  stands : Stands w'.files l there
  frame : ∀ l', ¬ l <+: l' → w'.files.entryAt? l' = w.files.entryAt? l'

/-- There is something at a path. -/
def IsThere (t : FileTree) (p : Path) : Prop :=
  t.hasEntry p = .ok true

theorem isThere_iff {t : FileTree} {p : Path} : IsThere t p ↔ ∃ l, t.place p = .ok l ∧ (t.entryAt? l).isSome := by
  unfold IsThere FileTree.hasEntry
  constructor
  · intro h
    split at h
    · rename_i l hlook
      obtain ⟨hplace, hentry⟩ := FileTree.look_eq_ok hlook
      exact ⟨l.1, hplace, by rw [hentry]; rfl⟩
    · cases h
    · cases h
  · rintro ⟨l, hplace, hentry⟩
    obtain ⟨e, he⟩ := Option.isSome_iff_exists.mp hentry
    rw [FileTree.look_of_entry hplace he]

section

variable {directory p : Path} {hostname : String} {t t₀ : FileTree}

theorem ne_nil_destination (hown : IsOwn directory hostname p) (t : FileTree) : t.destination p ≠ [] := by
  obtain ⟨sub, ending, _, _, hplace⟩ := hown.destination_eq
  rw [hplace]
  simp

/-- Something that is no directory is a file. -/
theorem Stands.cases {l : Location} {there : Bool} (h : Stands t l there) :
    (there = false ∧ t.entryAt? l = none) ∨
      there = true ∧ ∃ content mode, t.entryAt? l = some (.file content mode) := by
  have hthere := h.isSome
  cases hentry : t.entryAt? l with
  | none =>
    rw [hentry] at hthere
    exact .inl ⟨hthere.symm, rfl⟩
  | some e =>
    rw [hentry] at hthere
    cases e with
    | directory => exact absurd hentry h.noDirectory
    | file content mode => exact .inr ⟨hthere.symm, content, mode, rfl⟩

theorem Vacant.stands (h : Vacant t p) : Stands t (t.destination p) false := by
  have hnone := h.vacant _ List.prefix_rfl
  exact ⟨by simp [hnone], by simp [hnone]⟩

theorem parent_file (directory : Path) (sub file : String) :
    Path.parent { directory with names := directory.names ++ [sub, file] } =
      { directory with names := directory.names ++ [sub] } := by
  simp [Path.parent]

theorem hasZero_of_parent (hown : IsOwn directory hostname p) (h : p.parent.hasZero = false) : p.hasZero = false := by
  obtain ⟨sub, ending, hkind, rfl⟩ := hown.exists_kind
  have hfile : '\x00' ∉ (hostname ++ ending).toList := by
    have hhost := Hostname.zero_not_mem_of_isAccepted hown.1
    rcases hkind with ⟨-, rfl⟩ | ⟨-, rfl⟩ <;> simp [hhost]
  rw [parent_file] at h
  unfold Path.hasZero at h ⊢
  rw [List.append_cons, List.any_append, h]
  simpa using hfile

/-- The path of a file leads to its place, if the name of the file fits. -/
theorem Vacant.place (h : Vacant t₀ p) (hover : t₀.Over t) (hown : IsOwn directory hostname p) :
    t.place p = if Fits hostname then .ok (t₀.destination p) else .error .nameTooLong := by
  obtain ⟨sub, ending, hkind, rfl, hdestination⟩ := hown.destination_eq
  obtain ⟨l, hplace, hentry⟩ := FileTree.hasDirectory_iff.mp (hover.hasDirectory h.directory)
  rw [parent_file] at hplace
  have hl : l = t₀.destination directory ++ [sub] := by
    rw [← FileTree.destination_of_place hplace, FileTree.destination_eq_of_home hover.home]
    exact hkind.lead _ _
  have hsize : (hostname ++ ending).utf8ByteSize = hostname.utf8ByteSize + 4 := by
    rw [String.utf8ByteSize_append]
    rcases hkind with ⟨-, rfl⟩ | ⟨-, rfl⟩ <;> rfl
  have hzero : Path.hasZero { directory with names := directory.names ++ [sub, hostname ++ ending] } = false := by
    apply hasZero_of_parent hown
    rw [parent_file]
    exact FileTree.not_hasZero_of_place hplace
  rw [FileTree.place_of_not_hasZero hzero, hdestination]
  show t.follow (t.origin directory) (directory.names ++ [sub, hostname ++ ending]) = _
  have hfollow : t.follow (t.origin directory) (directory.names ++ [sub]) = .ok l := FileTree.follow_of_place hplace
  rw [List.append_cons, FileTree.follow_append, hfollow]
  show t.follow l [hostname ++ ending] = _
  have hstep := FileTree.step_of_directory hentry (hkind.file_ne_dots hostname)
  rw [hsize] at hstep
  by_cases hfits : Fits hostname
  · rw [if_neg (Nat.not_lt.mpr hfits)] at hstep
    rw [if_pos hfits, FileTree.follow, hstep, hl]
    simp [FileTree.follow, bind, Except.bind]
  · rw [if_pos (Nat.not_le.mp hfits)] at hstep
    rw [if_neg hfits, FileTree.follow, hstep]
    rfl

theorem Vacant.isThere_iff (h : Vacant t₀ p) (hover : t₀.Over t) (hown : IsOwn directory hostname p) {there : Bool}
    (hstands : Stands t (t₀.destination p) there) : IsThere t p ↔ Fits hostname ∧ there = true := by
  rw [Certificate.isThere_iff, h.place hover hown]
  by_cases hfits : Fits hostname
  · simp [hfits, hstands.isSome]
  · simp [hfits]

/-! ## Operations on the files -/

theorem Puts.of_set (hover : t₀.Over t) {l : Location} (hne : l ≠ []) (hentry : t.entryAt? l ≠ some .directory)
    {w w' : World σ τ} (hfiles : w.files = t) {content : Bytes} {mode : Nat}
    (hfiles' : w'.files = t.set l (.file content mode)) : Puts t₀ l true w w' := by
  refine ⟨?_, ?_, fun l' hl' => ?_⟩
  · rw [hfiles']
    exact hover.set hne fun h => absurd h hentry
  · rw [hfiles']
    constructor <;> simp [FileTree.entryAt?_set _ hne]
  · rw [hfiles', hfiles, FileTree.entryAt?_set _ hne, if_neg]
    rintro rfl
    exact hl' List.prefix_rfl

theorem Puts.of_delete (hvacant : Vacant t₀ p) (hover : t₀.Over t) (hne : t₀.destination p ≠ [])
    {w w' : World σ τ} (hfiles : w.files = t) (hfiles' : w'.files = t.deleteBelow (t₀.destination p)) :
    Puts t₀ (t₀.destination p) false w w' := by
  have hkept (l : Location) (hl : ¬ t₀.destination p <+: l) :
      (t.deleteBelow (t₀.destination p)).entryAt? l = t.entryAt? l := by
    by_cases hnil : l = []
    · rw [hnil]
      rfl
    · rw [FileTree.entryAt?_deleteBelow hnil, if_neg (by rwa [List.isPrefixOf_iff_prefix])]
  refine ⟨⟨?_, fun l hl => ?_⟩, ?_, ?_⟩ <;> rw [hfiles']
  · exact hover.home
  · rw [hkept l, hover.standing l hl]
    intro hbelow
    rw [hvacant.vacant l hbelow] at hl
    cases hl
  · constructor <;> simp [FileTree.entryAt?_deleteBelow hne]
  · rw [hfiles]
    exact hkept

/-- What stands elsewhere stays. -/
theorem Stands.beside {l l' : Location} {there other : Bool} {w w' : World σ τ} (h : Stands w.files l there)
    (hputs : Puts t₀ l' other w w') (hbeside : ¬ l' <+: l) : Stands w'.files l there := by
  constructor <;> rw [hputs.frame l hbeside]
  · exact h.noDirectory
  · exact h.isSome

variable [Host σ τ]

/-- On a host that grants it, an operation fails only if it cannot be done. -/
theorem after_granted_change (hgranting : Host.Granting σ) (operation : FileOperation) (path : Path) (shown : String)
    (f : FileTree → Except FileProblem FileTree) (w : World σ τ) :
    After (do ask (.file operation path); Files.change shown f) w fun r w' =>
      match f w.files with
      | .ok files => r = .ok () ∧ w'.files = files
      | .error problem => r = .error (.foreign (problem.toForeign shown)) ∧ w'.files = w.files := by
  refine after_bind (after_ask _ w) ?_ ?_
  · rintro _ w₁ ⟨_, hfiles, _⟩
    rw [← hfiles]
    refine (after_change_files shown f w₁).mono ?_
    rintro r w₂ (⟨t, hf, rfl, rfl⟩ | ⟨problem, hf, rfl, rfl⟩) <;> rw [hf]
    · exact ⟨rfl, rfl⟩
    · exact ⟨rfl, rfl⟩
  · rintro e w₁ ⟨hanswer, _⟩
    rw [hgranting.file] at hanswer
    cases hanswer

variable (hgranting : Host.Granting σ) (hvacant : Vacant t₀ p) (hown : IsOwn directory hostname p) {w : World σ τ}
  (hover : t₀.Over w.files)

include hgranting hvacant hown hover

theorem after_write_own {there : Bool} (hstands : Stands w.files (t₀.destination p) there) (content : Bytes) :
    After (Files.write p content) w fun r w' =>
      (Fits hostname ∧ r = .ok () ∧ Puts t₀ (t₀.destination p) true w w') ∨
      (¬ Fits hostname ∧ (∃ e, r = .error (.foreign e) ∧ e.isMissing = false) ∧ w'.files = w.files) := by
  refine (after_granted_change hgranting .write p _ (fun t => t.write p content) w).mono fun r w' hpost => ?_
  have hplace := hvacant.place hover hown
  by_cases hfits : Fits hostname
  · rw [if_pos hfits] at hplace
    have hwrite : ∃ mode, w.files.write p content = .ok (w.files.set (t₀.destination p) (.file content mode)) := by
      simp only [FileTree.write, hplace, bind, Except.bind]
      rcases hstands.cases with ⟨_, hentry⟩ | ⟨_, old, mode, hentry⟩ <;> rw [hentry]
      · exact ⟨_, rfl⟩
      · exact ⟨mode, rfl⟩
    obtain ⟨mode, hwrite⟩ := hwrite
    simp only [hwrite] at hpost
    obtain ⟨hr, hfiles⟩ := hpost
    exact .inl ⟨hfits, hr, .of_set hover (ne_nil_destination hown _) hstands.noDirectory rfl hfiles⟩
  · rw [if_neg hfits] at hplace
    have hwrite : w.files.write p content = .error .nameTooLong := by
      simp only [FileTree.write, hplace, bind, Except.bind]
    simp only [hwrite] at hpost
    exact .inr ⟨hfits, ⟨_, hpost.1, rfl⟩, hpost.2⟩

theorem after_discard_own {there : Bool} (hstands : Stands w.files (t₀.destination p) there) :
    After (Files.discard p) w fun r w' =>
      (Fits hostname ∧ r = .ok () ∧ Puts t₀ (t₀.destination p) false w w') ∨
      (¬ Fits hostname ∧ (∃ e, r = .error (.foreign e)) ∧ w'.files = w.files) := by
  have hplace := hvacant.place hover hown
  refine after_attempt_bind (after_granted_change hgranting .delete p _ (fun t => t.delete p) w) fun r w' hpost => ?_
  by_cases hfits : Fits hostname
  · rw [if_pos hfits] at hplace
    rcases hstands.cases with ⟨_, hentry⟩ | ⟨_, content, mode, hentry⟩
    · have hdelete : w.files.delete p = .error .missing := by
        simp only [FileTree.delete, FileTree.look, hplace, bind, Except.bind, hentry]
        rfl
      simp only [hdelete] at hpost
      obtain ⟨rfl, hfiles⟩ := hpost
      refine .inl ⟨hfits, rfl, ?_, ?_, ?_⟩ <;> rw [hfiles]
      · exact hover
      · exact ⟨by simp [hentry], by simp [hentry]⟩
      · exact fun _ _ => rfl
    · have hdelete : w.files.delete p = .ok (w.files.deleteBelow (t₀.destination p)) := by
        simp only [FileTree.delete, FileTree.look_of_entry hplace hentry, bind, Except.bind]
        rfl
      simp only [hdelete] at hpost
      obtain ⟨rfl, hfiles⟩ := hpost
      exact .inl ⟨hfits, rfl, .of_delete hvacant hover (ne_nil_destination hown _) rfl hfiles⟩
  · rw [if_neg hfits] at hplace
    have hdelete : w.files.delete p = .error .nameTooLong := by
      simp only [FileTree.delete, FileTree.look, hplace, bind, Except.bind]
    simp only [hdelete] at hpost
    obtain ⟨rfl, hfiles⟩ := hpost
    exact .inr ⟨hfits, ⟨_, rfl⟩, hfiles⟩

theorem after_setMode_own {there : Bool} (hstands : Stands w.files (t₀.destination p) there) (mode : Nat) :
    After (Files.setMode p mode) w fun r w' =>
      (Fits hostname ∧ there = true ∧ r = .ok () ∧ Puts t₀ (t₀.destination p) true w w') ∨
      (¬ (Fits hostname ∧ there = true) ∧ ∃ e, r = .error (.foreign e)) := by
  have hplace := hvacant.place hover hown
  refine (after_granted_change hgranting .setMode p _ (fun t => t.setMode p mode) w).mono fun r w' hpost => ?_
  by_cases hfits : Fits hostname
  · rw [if_pos hfits] at hplace
    rcases hstands.cases with ⟨hthere, hentry⟩ | ⟨hthere, content, old, hentry⟩
    · have hset : w.files.setMode p mode = .error .missing := by
        simp only [FileTree.setMode, FileTree.look, hplace, bind, Except.bind, hentry]
        rfl
      simp only [hset] at hpost
      exact .inr ⟨by simp [hthere], _, hpost.1⟩
    · have hset : w.files.setMode p mode = .ok (w.files.set (t₀.destination p) (.file content mode)) := by
        simp only [FileTree.setMode, FileTree.look_of_entry hplace hentry, bind, Except.bind]
        rfl
      simp only [hset] at hpost
      obtain ⟨hr, hfiles⟩ := hpost
      exact .inl ⟨hfits, hthere, hr, .of_set hover (ne_nil_destination hown _) hstands.noDirectory rfl hfiles⟩
  · rw [if_neg hfits] at hplace
    have hset : w.files.setMode p mode = .error .nameTooLong := by
      simp only [FileTree.setMode, FileTree.look, hplace, bind, Except.bind]
    simp only [hset] at hpost
    exact .inr ⟨by simp [hfits], _, hpost.1⟩

end

end Certificate

end ProxyTestbed
