import ProxyTestbed.Certificate.Issue
import ProxyTestbed.Proofs.Certificate.Hostname
import ProxyTestbed.Proofs.File.Grown

/-!
# Issuing a certificate

A certificate is issued to two paths that tell the directory and the host name. Whatever a run of the program
writes and however it ends, no other file is changed or deleted.

* `keeps_issue_of`: issuing keeps what its operations keep, which only touch the two files of the host name.
* `IsOwn.ne`, `certPathFor_ne_keyPathFor`: two certificates of one directory share no file, and neither do a
  certificate and its key.
* `keeps_issue_spares`: the files of another host name are spared.
-/

namespace ProxyTestbed.Certificate

variable {σ τ : Type}

/-- One of the two files of an accepted host name. -/
def IsOwn (directory : Path) (hostname : String) (path : Path) : Prop :=
  Hostname.isAccepted hostname = true ∧
    (path = certPathFor directory hostname ∨ path = keyPathFor directory hostname)

theorem isOwn_certPathFor {hostname : String} (hname : Hostname.isAccepted hostname = true) (directory : Path) :
    IsOwn directory hostname (certPathFor directory hostname) :=
  ⟨hname, .inl rfl⟩

theorem isOwn_keyPathFor {hostname : String} (hname : Hostname.isAccepted hostname = true) (directory : Path) :
    IsOwn directory hostname (keyPathFor directory hostname) :=
  ⟨hname, .inr rfl⟩

/-! ## What issuing keeps -/

section

variable [Host σ τ] {R : World σ τ → World σ τ → Prop}

/-- The operations that issuing is made of keep `R`, those on files at the paths for the host name. -/
structure OperationsKeep (R : World σ τ → World σ τ → Prop) (directory : Path) (hostname : String) : Prop where
  logs : ∀ w w', Logs w w' → R w w'
  run : ∀ run, Keeps R (ask (.run run) : Act σ τ (RunReport τ))
  directories : ∀ path, Keeps R (Files.makeDirectories true path : Act σ τ Unit)
  write : ∀ path, IsOwn directory hostname path → ∀ content, Keeps R (Files.write path content : Act σ τ Unit)
  setMode : ∀ path, IsOwn directory hostname path → ∀ mode, Keeps R (Files.setMode path mode : Act σ τ Unit)
  discard : ∀ path, IsOwn directory hostname path → Keeps R (Files.discard path : Act σ τ Unit)

variable [IsPreorder (World σ τ) R] {directory : Path} {hostname : String}
  (h : OperationsKeep R directory hostname)

include h

theorem keeps_perform {run : CertificateRun} (hkey : IsOwn directory hostname run.keyPath)
    (hcert : IsOwn directory hostname run.certPath) : Keeps R (perform run : Act σ τ (RunEnd τ)) := by
  unfold perform
  refine (h.run run).bind fun report => ?_
  obtain ⟨key, certificate, ending⟩ := report
  -- what is written is told by the report, and so is the end
  rcases key with _ | key <;> rcases certificate with _ | certificate
  on_goal 2 => refine (h.write _ hcert certificate).bind fun _ => ?_
  on_goal 3 => refine (h.write _ hkey key).bind fun _ => ?_
  on_goal 4 => refine (h.write _ hkey key).bind fun _ => (h.write _ hcert certificate).bind fun _ => ?_
  all_goals
    cases ending with
    | broken fault => exact .throw fault
    | _ => exact .pure _

theorem keeps_generate {run : CertificateRun} (hkey : IsOwn directory hostname run.keyPath)
    (hcert : IsOwn directory hostname run.certPath) : Keeps R (generate run : Act σ τ Unit) := by
  have hdiscard : Keeps R (discardFiles run : Act σ τ Unit) :=
    (h.discard _ hcert).bind fun _ => h.discard _ hkey
  unfold generate
  refine (keeps_perform h hkey hcert).reporting.bind fun ending => ?_
  cases ending with
  | failed stderr => exact hdiscard.bind fun _ => .throw _
  | expired => exact hdiscard.bind fun _ => .throw _
  | done => exact .pure ()
  | broken fault => exact .pure ()

theorem keeps_issue_of (options : Options) :
    Keeps R (issue directory hostname options : Act σ τ Certificate) := by
  have hfree (path : Path) : Keeps R (checkFree hostname path : Act σ τ Unit) := by
    have hlook : Keeps R (Files.isThere path : Act σ τ Bool) := by
      refine fun w => (after_look_files _ (·.hasEntry path) w).mono ?_
      rintro r w' ⟨rfl, _⟩
      exact refl_of R w'
    exact hlook.bind fun _ => .ite (.throw _) (.pure ())
  have hclock : Keeps R (wallClock : Act σ τ Moment) := fun w => refl_of R w
  have hwritten (run : CertificateRun) : Keeps R (checkWritten run : Act σ τ Unit) := by
    unfold checkWritten
    split
    · exact .pure ()
    · exact .throw _
  unfold issue
  split
  · exact .throw_bind _ _
  · rename_i haccepted
    have haccepted : Hostname.isAccepted hostname = true := by simpa using haccepted
    have hcert := isOwn_certPathFor haccepted directory
    have hkey := isOwn_keyPathFor haccepted directory
    refine (hfree _).bind fun _ => (hfree _).bind fun _ => ?_
    refine (h.directories _).bind fun _ => (h.directories _).bind fun _ => hclock.bind fun notBefore => ?_
    refine (hwritten _).bind fun _ => (keeps_generate h hkey hcert).bind fun _ => (h.setMode _ hkey _).bind fun _ => ?_
    refine (keeps_record_of h.logs _ _ _).bind fun _ => ?_
    split
    · exact .pure _
    · exact .throw _

end

/-! ## The files of a certificate -/

/-- The directories of the two kinds of files, each with the ending of their names. -/
def IsKind (directory ending : String) : Prop :=
  (directory = certDirectory ∧ ending = ".crt") ∨ (directory = keyDirectory ∧ ending = ".key")

theorem IsKind.length_ending {sub ending : String} (h : IsKind sub ending) : ending.length = 4 := by
  rcases h with ⟨-, rfl⟩ | ⟨-, rfl⟩ <;> rfl

theorem IsKind.ending_eq {sub ending ending' : String} (h : IsKind sub ending) (h' : IsKind sub ending') :
    ending = ending' := by
  rcases h with ⟨rfl, rfl⟩ | ⟨rfl, rfl⟩ <;> rcases h' with ⟨hsub, rfl⟩ | ⟨hsub, rfl⟩
  · rfl
  · exact absurd hsub (by decide)
  · exact absurd hsub (by decide)
  · rfl

theorem IsKind.ne_dots {sub ending : String} (h : IsKind sub ending) : sub ≠ ".." := by
  rcases h with ⟨rfl, -⟩ | ⟨rfl, -⟩ <;> decide

theorem IsKind.file_ne_dots {sub ending : String} (h : IsKind sub ending) (hostname : String) :
    hostname ++ ending ≠ ".." := by
  intro he
  have hlength : hostname.length + 4 = 2 := by
    rw [← h.length_ending, ← String.length_append, he]
    rfl
  omega

theorem IsKind.lead {sub ending : String} (h : IsKind sub ending) (l : Location) (names : List String) :
    FileTree.lead l (names ++ [sub]) = FileTree.lead l names ++ [sub] := by
  rw [FileTree.lead_append, FileTree.lead_of_not_mem (by simp [Ne.symm h.ne_dots])]

theorem child_hostname {hostname : String} (h : Hostname.isAccepted hostname = true) {sub ending : String}
    (hkind : IsKind sub ending) (directory : Path) : (directory.child sub).child (hostname ++ ending) =
      { directory with names := directory.names ++ [sub, hostname ++ ending] } := by
  have hslash : '/' ∉ (hostname ++ ending).toList := by
    have hname := Hostname.slash_not_mem_of_isAccepted h
    rcases hkind with ⟨-, rfl⟩ | ⟨-, rfl⟩ <;> simp [hname]
  have hlong : 4 ≤ (hostname ++ ending).length := by
    rw [String.length_append, hkind.length_ending]
    omega
  have hempty : hostname ++ ending ≠ "" := fun he => absurd (he ▸ hlong) (by decide)
  have hdot : hostname ++ ending ≠ "." := fun he => absurd (he ▸ hlong) (by decide)
  have hsub : directory.child sub = { directory with names := directory.names ++ [sub] } := by
    rcases hkind with ⟨rfl, -⟩ | ⟨rfl, -⟩
    · exact Path.child_of_not_mem (by decide) (by decide) (by decide) directory
    · exact Path.child_of_not_mem (by decide) (by decide) (by decide) directory
  rw [Path.child_of_not_mem hslash hempty hdot, hsub]
  simp

namespace IsOwn

variable {directory p q : Path} {hostname other : String}

theorem exists_kind (h : IsOwn directory hostname p) : ∃ sub ending, IsKind sub ending ∧
    p = { directory with names := directory.names ++ [sub, hostname ++ ending] } := by
  obtain ⟨haccepted, rfl | rfl⟩ := h
  · have hkind : IsKind certDirectory ".crt" := .inl ⟨rfl, rfl⟩
    exact ⟨_, _, hkind, child_hostname haccepted hkind directory⟩
  · have hkind : IsKind keyDirectory ".key" := .inr ⟨rfl, rfl⟩
    exact ⟨_, _, hkind, child_hostname haccepted hkind directory⟩

theorem hostname_eq {sub ending sub' ending' : String} (hkind : IsKind sub ending) (hkind' : IsKind sub' ending')
    (h : [sub, hostname ++ ending] = [sub', other ++ ending']) : hostname = other := by
  simp only [List.cons.injEq, and_true] at h
  obtain ⟨rfl, hfile⟩ := h
  obtain rfl := hkind.ending_eq hkind'
  have hchars := congrArg String.toList hfile
  rw [String.toList_append, String.toList_append] at hchars
  exact String.toList_inj.mp (List.append_cancel_right hchars)

/-- Two host names share no file. -/
theorem ne (h : IsOwn directory hostname p) (h' : IsOwn directory other q) (hne : hostname ≠ other) : p ≠ q := by
  obtain ⟨sub, ending, hkind, rfl⟩ := h.exists_kind
  obtain ⟨sub', ending', hkind', rfl⟩ := h'.exists_kind
  intro heq
  have hnames := List.append_cancel_left (congrArg Path.names heq)
  exact hne (hostname_eq hkind hkind' hnames)

theorem destination_eq (h : IsOwn directory hostname p) : ∃ sub ending, IsKind sub ending ∧
    p = { directory with names := directory.names ++ [sub, hostname ++ ending] } ∧
    ∀ t : FileTree, t.destination p = t.destination directory ++ [sub, hostname ++ ending] := by
  obtain ⟨sub, ending, hkind, rfl⟩ := h.exists_kind
  refine ⟨sub, ending, hkind, rfl, fun t => ?_⟩
  have hdots : ".." ∉ [sub, hostname ++ ending] := by
    simp [Ne.symm hkind.ne_dots, Ne.symm (hkind.file_ne_dots hostname)]
  show FileTree.lead (t.origin directory) (directory.names ++ [sub, hostname ++ ending]) = _
  rw [FileTree.lead_append, FileTree.lead_of_not_mem hdots]
  rfl

/-- The files of a host name stand neither at the places of those of another one nor above. -/
theorem avoids (h : IsOwn directory hostname p) (h' : IsOwn directory other q) (hne : hostname ≠ other)
    {t : FileTree} {l : Location} (hplace : t.place q = .ok l) : FileTree.Avoids t.home l p := by
  obtain ⟨sub, ending, hkind, -, hp⟩ := h.destination_eq
  obtain ⟨sub', ending', hkind', -, hq⟩ := h'.destination_eq
  intro t' hhome l' hplace' hprefix
  rw [← FileTree.destination_of_place hplace', ← FileTree.destination_of_place hplace, hp, hq,
    FileTree.destination_eq_of_home hhome] at hprefix
  -- both are two names below the same place
  have hnames := hprefix.eq_of_length (by simp)
  exact hne (hostname_eq hkind hkind' (List.append_cancel_left hnames))

end IsOwn

theorem certPathFor_ne_keyPathFor {hostname : String} (h : Hostname.isAccepted hostname = true)
    (directory : Path) : certPathFor directory hostname ≠ keyPathFor directory hostname := by
  have hcert : IsKind certDirectory ".crt" := .inl ⟨rfl, rfl⟩
  have hkey : IsKind keyDirectory ".key" := .inr ⟨rfl, rfl⟩
  have hcertPath : certPathFor directory hostname = _ := child_hostname h hcert directory
  have hkeyPath : keyPathFor directory hostname = _ := child_hostname h hkey directory
  rw [hcertPath, hkeyPath]
  intro heq
  have hnames := List.append_cancel_left (congrArg Path.names heq)
  simp only [List.cons.injEq] at hnames
  exact absurd hnames.1 (by decide)

/-! ## What issuing spares and what it answers -/

variable [Host σ τ]

/-- A file of another accepted host name is spared. -/
theorem keeps_issue_spares {directory q : Path} {hostname other : String} (hq : IsOwn directory other q)
    (hne : hostname ≠ other) {t : FileTree} {l : Location} (hplace : t.place q = .ok l) (options : Options) :
    Keeps (SparesFile t.home l) (issue directory hostname options : Act σ τ Certificate) := by
  have havoids (path : Path) (h : IsOwn directory hostname path) : FileTree.Avoids t.home l path :=
    h.avoids hq hne hplace
  refine keeps_issue_of ?_ options
  exact {
    logs := fun w w' ⟨es, hw', _⟩ => Files.sparesFile_of_files_eq (by rw [hw'])
    run := fun _ => Files.keeps_ask_spares _
    directories := fun path => Files.keeps_makeDirectories_spares true path
    write := fun path h content => Files.keeps_write_spares (havoids path h) content
    setMode := fun path h mode => Files.keeps_setMode_spares (havoids path h) mode
    discard := fun path h => Files.keeps_discard_spares (havoids path h) }

/-- A certificate that is issued is for the host name, which was accepted, and names its files. -/
theorem after_issue (directory : Path) (hostname : String) (options : Options) (w : World σ τ) :
    After (issue directory hostname options) w fun r _ => ∀ c, r = .ok c →
      Hostname.isAccepted hostname = true ∧ c.hostname = hostname ∧
        c.certPath = certPathFor directory hostname ∧ c.keyPath = keyPathFor directory hostname := by
  unfold issue
  split
  · exact after_throw (by simp)
  · rename_i haccepted
    have haccepted : Hostname.isAccepted hostname = true := by simpa using haccepted
    -- only the last step answers a certificate, whatever comes before it
    have hlater {α β : Type} {act : Act σ τ α} {f : α → Act σ τ β} {P : β → Prop}
        (hf : ∀ a w, After (f a) w fun r _ => ∀ b, r = .ok b → P b) (w : World σ τ) :
        After (act >>= f) w fun r _ => ∀ b, r = .ok b → P b :=
      after_bind after_trivial (fun a w _ => hf a w) (by simp)
    refine hlater (fun _ => hlater fun _ => hlater fun _ => hlater fun _ => hlater fun _ => ?_) w
    refine hlater fun _ => hlater fun _ => hlater fun _ => hlater fun _ w => ?_
    split
    · refine after_pure ?_
      rintro c ⟨⟩
      exact ⟨haccepted, rfl, rfl, rfl⟩
    · exact after_throw (by simp)

end ProxyTestbed.Certificate
