import ProxyTestbed.Proofs.Certificate.Places
import ProxyTestbed.Proofs.File.Denied
import ProxyTestbed.Proofs.Number.Digits
import ProxyTestbed.Proofs.Wait.Constant

/-!
# What issuing a certificate promises

Issuing promises a certificate with its two files, or else a problem of its own and none of the two files, unless
they were there before. The run of the program is the only thing that it takes care of: what goes wrong with the
directories, with the names of the files and after the run is reported as it is, and leaves what it leaves.

* `vacant_of_makeDirectories`: the directories are there when the program runs, and nothing in the way of its files.
* `after_finish`: what becomes of a run.
* `after_issue_conflict`: when issuing is refused, since there is a file already.
* `issue_promised_iff`: when the promise is kept.
-/

namespace ProxyTestbed

variable {σ τ : Type}

/-- `..` leads back only from directories that are there. -/
def FileTree.LeadsBack (t : FileTree) (p : Path) : Prop :=
  ∀ before after, p.names = before ++ ".." :: after → t.hasDirectory { p with names := before } = true

/-- The first names of a path lead to directories that are there, or to places above that of the path. -/
theorem FileTree.LeadsBack.way {t : FileTree} {p : Path} (h : t.LeadsBack p) {names : List String}
    (hnames : names <+: p.names) : t.entryAt? (t.destination { p with names := names }) = some .directory ∨
      t.destination { p with names := names } <+: t.destination p := by
  obtain ⟨rest, hrest⟩ := hnames
  by_cases hdots : ".." ∈ rest
  · obtain ⟨middle, after, rfl⟩ := List.append_of_mem hdots
    have hback := h (names ++ middle) after (by rw [← hrest, List.append_assoc])
    obtain ⟨l, hplace, hentry⟩ := hasDirectory_iff.mp hback
    left
    cases middle with
    | nil =>
      rw [List.append_nil] at hplace
      rwa [destination_of_place hplace]
    | cons name middle => exact directory_of_follow (follow_of_place hplace)
  · right
    show lead (t.origin p) names <+: lead (t.origin p) p.names
    rw [← hrest, lead_append, lead_of_not_mem hdots]
    exact List.prefix_append _ _

theorem FileTree.WellFormed.nothing_below {t : FileTree} (h : t.WellFormed) {l l' : Location}
    (hnone : t.entryAt? l = none) (hstarts : l <+: l') : t.entryAt? l' = none := by
  by_contra hsome
  obtain ⟨e, hentry⟩ := Option.ne_none_iff_exists'.mp hsome
  by_cases heq : l = l'
  · rw [heq, hentry] at hnone
    cases hnone
  · have hdirectory := h.above hentry hstarts heq
    rw [hnone] at hdirectory
    cases hdirectory

theorem Refused.isForeign [Host σ τ] (houtward : Host.Outward σ) {w w' : World σ τ} {fault : Fault τ}
    (h : Refused w fault w') : fault.IsForeign := by
  cases h with
  | answered hanswer => exact houtward.file _ _ _ _ hanswer
  | failed hfault => exact ⟨_, hfault⟩

namespace Certificate

variable {directory p : Path} {hostname : String}

/-! ## The directories -/

/-- Where nothing is found, nothing is. -/
theorem entry_of_free {t : FileTree} (hw : t.WellFormed) (hback : t.LeadsBack directory)
    (hown : IsOwn directory hostname p) (hzero : p.hasZero = false) (hfree : t.hasEntry p = .ok false) :
    t.entryAt? (t.destination p) = none := by
  by_contra hsome
  obtain ⟨e, hentry⟩ := Option.ne_none_iff_exists'.mp hsome
  obtain ⟨sub, ending, hkind, rfl, hdestination⟩ := hown.destination_eq
  generalize hfile : hostname ++ ending = file at *
  -- whatever the names lead through is there, since something is at their end
  have hthrough : ∀ before name after, directory.names ++ [sub, file] = before ++ name :: after →
      t.entryAt? (FileTree.lead (t.origin directory) before) = some .directory := by
    intro before name after hnames
    have hstarts : before <+: directory.names ++ [sub] := by
      have hall : before <+: (directory.names ++ [sub]) ++ [file] := by
        rw [List.append_assoc]
        exact ⟨name :: after, hnames.symm⟩
      refine (List.prefix_concat_iff.mp hall).resolve_left fun heq => ?_
      have hlength := congrArg List.length hnames
      rw [heq] at hlength
      simp at hlength
    have habove {l : Location} (hl : l <+: t.destination directory ++ [sub]) : t.entryAt? l = some .directory := by
      refine hw.above hentry ?_ fun heq => ?_
      · rw [hdestination]
        exact hl.trans ⟨[file], by simp⟩
      · rw [heq, hdestination] at hl
        have hlength := hl.length_le
        simp at hlength
    rcases List.prefix_concat_iff.mp hstarts with rfl | hstarts
    · apply habove
      rw [hkind.lead]
      exact List.prefix_rfl
    · rcases hback.way hstarts with hdirectory | hstarts
      · exact hdirectory
      · exact habove (hstarts.trans (List.prefix_append _ _))
  have hplace := FileTree.place_of_not_hasZero (t := t) hzero
  unfold FileTree.hasEntry at hfree
  rcases FileTree.follow_of_directories hthrough with hfollow | hfollow
  · rw [FileTree.look_of_entry (hplace.trans hfollow) hentry] at hfree
    cases hfree
  · have hlook : t.look { directory with names := directory.names ++ [sub, file] } = .error .nameTooLong := by
      simp only [FileTree.look, hplace.trans hfollow, bind, Except.bind]
    rw [hlook] at hfree
    cases hfree

variable [Host σ τ]

/-- Makes the directories of a certificate and of its key. -/
def makeDirectoriesFor (directory : Path) (hostname : String) : Act σ τ Unit := do
  Files.makeDirectories true (certPathFor directory hostname).parent
  Files.makeDirectories true (keyPathFor directory hostname).parent

/-- What is made for a file is on the way to it. -/
theorem keeps_makeParent_grows {t₀ : FileTree} (hback : t₀.LeadsBack directory) (hown : IsOwn directory hostname p) :
    Keeps (GrowsFiles t₀ (fun l => ∃ sub, l <+: t₀.destination directory ++ [sub]) fun _ => False)
      (Files.makeDirectories true p.parent : Act σ τ Unit) := by
  obtain ⟨sub, ending, hkind, rfl⟩ := hown.exists_kind
  rw [parent_file]
  refine Files.keeps_makeDirectories_grows true fun names hnames => ?_
  rcases List.prefix_concat_iff.mp hnames with rfl | hstarts
  · refine .inl ⟨sub, ?_⟩
    show FileTree.lead (t₀.origin directory) (directory.names ++ [sub]) <+: _
    rw [hkind.lead]
    exact List.prefix_rfl
  · rcases hback.way hstarts with hdirectory | hstarts
    · exact .inr hdirectory
    · exact .inl ⟨sub, hstarts.trans (List.prefix_append _ _)⟩

theorem vacant_of_grows {t t' : FileTree} (hw : t.WellFormed) (hback : t.LeadsBack directory)
    (hown : IsOwn directory hostname p) (hfree : t.hasEntry p = .ok false)
    (hgrows : FileTree.Grows t (fun l => ∃ sub, l <+: t.destination directory ++ [sub]) (fun _ => False) t t')
    (hthere : t'.hasDirectory p.parent = true) : Vacant t' p := by
  obtain ⟨hover, hchanges⟩ := hgrows (.refl t)
  obtain ⟨l, hplace, _⟩ := FileTree.hasDirectory_iff.mp hthere
  have hzero : p.hasZero = false := hasZero_of_parent hown (FileTree.not_hasZero_of_place hplace)
  have hnone := entry_of_free hw hback hown hzero hfree
  refine ⟨hthere, fun l hl => ?_⟩
  rw [FileTree.destination_eq_of_home hover.home] at hl
  rcases hchanges l with hsame | ⟨⟨sub, hway⟩, _⟩ | hno
  · rw [hsame]
    exact hw.nothing_below hnone hl
  · -- what is on the way is shorter than the place
    obtain ⟨_, _, _, _, hdestination⟩ := hown.destination_eq
    rw [hdestination] at hl
    have hlength := (hl.trans hway).length_le
    simp at hlength
  · exact hno.elim

/-- The directories of the two files are there when they were made, and nothing in the way of the files. -/
theorem vacant_of_makeDirectories {w w₁ : World σ τ} (hw : w.files.WellFormed)
    (hback : w.files.LeadsBack directory) (hname : Hostname.isAccepted hostname = true)
    (hcert : w.files.hasEntry (certPathFor directory hostname) = .ok false)
    (hkey : w.files.hasEntry (keyPathFor directory hostname) = .ok false)
    (hrun : makeDirectoriesFor directory hostname w = .ok () w₁) :
    Vacant w₁.files (certPathFor directory hostname) ∧ Vacant w₁.files (keyPathFor directory hostname) := by
  have hownCert := isOwn_certPathFor hname directory
  have hownKey := isOwn_keyPathFor hname directory
  generalize hcertPath : certPathFor directory hostname = cert at *
  generalize hkeyPath : keyPathFor directory hostname = key at *
  let R := GrowsFiles (σ := σ) (τ := τ) w.files (fun l => ∃ sub, l <+: w.files.destination directory ++ [sub])
    fun _ => False
  have hboth : After (makeDirectoriesFor directory hostname) w fun r w₁ => r = .ok () →
      R w w₁ ∧ w₁.files.hasDirectory cert.parent = true ∧ w₁.files.hasDirectory key.parent = true := by
    unfold makeDirectoriesFor
    rw [hcertPath, hkeyPath]
    have hfirst := (keeps_makeParent_grows (σ := σ) (τ := τ) hback hownCert w).and
      (Files.after_makeDirectories_there true cert.parent w)
    refine after_bind hfirst (fun _ w₁ hpost => ?_) (by simp)
    obtain ⟨hgrows₁, hthere₁⟩ := hpost
    have hsecond := (keeps_makeParent_grows (σ := σ) (τ := τ) hback hownKey w₁).and
      (Files.after_makeDirectories_there true key.parent w₁)
    have hkept : After (Files.makeDirectories true key.parent) w₁ fun _ w₂ => w₁.files.Over w₂.files := by
      have hgrows : Keeps (GrowsFiles w₁.files (fun _ => True) fun _ => False)
          (Files.makeDirectories true key.parent : Act σ τ Unit) :=
        Files.keeps_makeDirectories_grows true fun _ _ => .inl trivial
      exact (hgrows w₁).mono fun _ _ hgrows => (hgrows (.refl _)).1
    refine (hsecond.and hkept).mono ?_
    rintro r w₂ ⟨⟨hgrows₂, hthere₂⟩, hover⟩ hr
    exact ⟨trans_of R hgrows₁ hgrows₂, hover.hasDirectory (hthere₁ rfl), hthere₂ hr⟩
  obtain ⟨hgrows, hcertThere, hkeyThere⟩ := hboth.ok hrun rfl
  exact ⟨vacant_of_grows hw hback hownCert hcert hgrows hcertThere,
    vacant_of_grows hw hback hownKey hkey hgrows hkeyThere⟩

/-! ## The promise -/

omit [Host σ τ] in
/-- A certificate comes with its two files. A problem of issuing leaves none of them, unless it is that they were
there before, and there is no other fault. -/
def Promised (directory : Path) (hostname : String) (r : Except (Fault τ) Certificate) (t : FileTree) : Prop :=
  match r with
  | .ok _ => IsThere t (certPathFor directory hostname) ∧ IsThere t (keyPathFor directory hostname)
  | .error (.certificate (.conflict _ _)) => True
  | .error (.certificate _) =>
    ¬ IsThere t (certPathFor directory hostname) ∧ ¬ IsThere t (keyPathFor directory hostname)
  | .error _ => False

/-- The run of the program for a certificate. -/
def runFor (directory : Path) (hostname : String) (options : Options) : CertificateRun :=
  ⟨options.program, hostname, keyPathFor directory hostname, certPathFor directory hostname, options.keyBits,
    options.days⟩

/-- The numbers are short enough to be written among the arguments of the program. -/
def Options.Written (options : Options) : Prop :=
  options.keyBits.natAbs < 10 ^ Number.maxDigits ∧ options.days.natAbs < 10 ^ Number.maxDigits

/-- A run that keeps the promise: it cannot be started, since the program is missing, or it fails or takes too long,
and the names of the files fit, or it wrote both of them and there is a last day. -/
def RunSuffices (hostname : String) (days : Int) (now : Moment) : Except (Fault τ) (RunReport τ) → Prop
  | .error fault => fault.comesFrom Foreign.isMissing = true
  | .ok report =>
    match report.ending with
    | .broken fault =>
      fault.comesFrom Foreign.isMissing = true ∧ report.key.isSome = false ∧ report.certificate.isSome = false
    | .failed _ | .expired => Fits hostname
    | .done =>
      Fits hostname ∧ report.key.isSome = true ∧ report.certificate.isSome = true ∧
        ∃ later, now.addDays days = .ok later

/-- An accepted host name conflicts with one of its files, the certificate being looked for first. -/
def Conflicts (directory : Path) (hostname : String) (t : FileTree) : Prop :=
  Hostname.isAccepted hostname = true ∧ (IsThere t (certPathFor directory hostname) ∨
    t.hasEntry (certPathFor directory hostname) = .ok false ∧ IsThere t (keyPathFor directory hostname))

/-- When the promise is kept: a host name that is not accepted has no files, or there is a conflict, or the
directories can be made, the numbers can be written and the run suffices. -/
inductive Suffices (directory : Path) (hostname : String) (options : Options) (w : World σ τ) : Prop
  | refused (hname : Hostname.isAccepted hostname = false)
      (hcert : ¬ IsThere w.files (certPathFor directory hostname))
      (hkey : ¬ IsThere w.files (keyPathFor directory hostname))
  | conflict (hconflicts : Conflicts directory hostname w.files)
  | run {w₁ : World σ τ} (hname : Hostname.isAccepted hostname = true)
      (hcert : w.files.hasEntry (certPathFor directory hostname) = .ok false)
      (hkey : w.files.hasEntry (keyPathFor directory hostname) = .ok false)
      (hdirectories : makeDirectoriesFor directory hostname w = .ok () w₁) (hwritten : options.Written)
      (hrun : RunSuffices hostname options.days (Host.wallClock w₁.host)
        (Host.answer (.run (runFor directory hostname options)) w₁.host).1)

/-- What issuing does when the directories were made. -/
def finish (directory : Path) (hostname : String) (options : Options) (notBefore : Moment) :
    Act σ τ Certificate := do
  checkWritten (runFor directory hostname options)
  generate (runFor directory hostname options)
  Files.setMode (keyPathFor directory hostname) keyMode
  record .info .certs s!"Generated self-signed certificate for {hostname}: {certPathFor directory hostname}"
  match notBefore.addDays options.days with
  | .ok notAfter =>
    return ⟨hostname, certPathFor directory hostname, keyPathFor directory hostname, notBefore, notAfter⟩
  | .error problem => throw (.calendar problem)

/-! ## The run -/

omit [Host σ τ] in
/-- How a run is concluded: one that was broken off with its fault. -/
def outcome : RunEnd τ → Except (Fault τ) (RunEnd τ)
  | .broken fault => .error fault
  | ending => .ok ending

omit [Host σ τ] in
theorem outcome_eq_error {ending : RunEnd τ} {fault : Fault τ} (h : outcome ending = .error fault) :
    ending = .broken fault := by
  cases ending with
  | broken fault => exact congrArg RunEnd.broken (Except.error.inj h)
  | _ => cases h

omit [Host σ τ] in
theorem outcome_eq_ok {ending ending' : RunEnd τ} (h : outcome ending = .ok ending') :
    ending = ending' ∧ ∀ fault, ending ≠ .broken fault := by
  cases ending with
  | broken fault => cases h
  | _ => exact ⟨Except.ok.inj h, by simp⟩

omit [Host σ τ] in
/-- The numbers are looked at before the run. -/
theorem after_checkWritten (directory : Path) (hostname : String) (options : Options) (w : World σ τ) :
    After (checkWritten (runFor directory hostname options)) w fun r w' => w' = w ∧
      (options.Written ∧ r = .ok () ∨ ¬ options.Written ∧ ∃ e, r = .error (.foreign e)) := by
  have hnumber (n : Int) : (n.natAbs < 10 ^ Number.maxDigits ∧ ∃ text, Number.writeInteger n = .ok text) ∨
      (¬ n.natAbs < 10 ^ Number.maxDigits ∧ ∃ problem, Number.writeInteger n = .error problem) := by
    have hiff := Number.isOk_writeInteger_iff (n := n)
    cases hn : Number.writeInteger n with
    | ok text => exact .inl ⟨hiff.mp (by rw [hn]; rfl), text, rfl⟩
    | error problem => exact .inr ⟨fun h => by simpa [hn, Except.isOk, Except.toBool] using hiff.mpr h, problem, rfl⟩
  unfold checkWritten CertificateRun.arguments runFor Options.Written
  rcases hnumber options.keyBits with ⟨hbits, text, htext⟩ | ⟨hbits, problem, hproblem⟩
  · rcases hnumber options.days with ⟨hdays, text', htext'⟩ | ⟨hdays, problem, hproblem⟩
    · rw [htext, htext']
      exact after_pure ⟨rfl, .inl ⟨⟨hbits, hdays⟩, rfl⟩⟩
    · rw [htext, hproblem]
      exact after_throw ⟨rfl, .inr ⟨fun h => hdays h.2, _, rfl⟩⟩
  · rw [hproblem]
    exact after_throw ⟨rfl, .inr ⟨fun h => hbits h.1, _, rfl⟩⟩

/-- Writes a file, if there is one. -/
def writeSome (path : Path) : Option Bytes → Act σ τ Unit
  | some content => Files.write path content
  | none => pure ()

theorem perform_eq (run : CertificateRun) :
    (perform run : Act σ τ (RunEnd τ)) = (do
      let report ← ask (.run run)
      writeSome run.keyPath report.key
      writeSome run.certPath report.certificate
      conclude (outcome report.ending)) := by
  unfold perform
  congr 1
  funext report
  obtain ⟨key, certificate, ending⟩ := report
  cases key <;> cases certificate <;> cases ending <;> rfl

/-- A file and its place in a tree where it can be written. -/
structure Slot (t₀ : FileTree) (directory : Path) (hostname : String) (p : Path) : Prop where
  own : IsOwn directory hostname p
  vacant : Vacant t₀ p

omit [Host σ τ] in
theorem Puts.of_same {t₀ : FileTree} {l : Location} {w : World σ τ} {there : Bool} (hover : t₀.Over w.files)
    (hstands : Stands w.files l there) : Puts t₀ l there w w :=
  ⟨hover, hstands, fun _ _ => rfl⟩

theorem after_writeSome_own (hgranting : Host.Granting σ) {t₀ : FileTree} (hslot : Slot t₀ directory hostname p)
    {w : World σ τ} (hover : t₀.Over w.files) (hstands : Stands w.files (t₀.destination p) false)
    (content : Option Bytes) :
    After (writeSome p content) w fun r w' =>
      (r = .ok () ∧ (Fits hostname ∨ content.isSome = false) ∧ Puts t₀ (t₀.destination p) content.isSome w w') ∨
      (¬ Fits hostname ∧ content.isSome = true ∧ (∃ e, r = .error (.foreign e) ∧ e.isMissing = false) ∧
        w'.files = w.files) := by
  cases content with
  | none => exact after_pure (.inl ⟨rfl, .inr rfl, .of_same hover hstands⟩)
  | some content =>
    refine (after_write_own hgranting hslot.vacant hslot.own hover hstands content).mono ?_
    rintro r w' (⟨hfits, hr, hputs⟩ | ⟨hfits, hfault, hfiles⟩)
    · exact .inl ⟨hr, .inl hfits, hputs⟩
    · exact .inr ⟨hfits, rfl, hfault, hfiles⟩

/-- What stands at the places of key and certificate. -/
structure Stand (t₀ : FileTree) (directory : Path) (hostname : String) (key cert : Bool) (t : FileTree) : Prop where
  kept : t₀.Over t
  key : Stands t (t₀.destination (keyPathFor directory hostname)) key
  cert : Stands t (t₀.destination (certPathFor directory hostname)) cert

omit [Host σ τ] in
theorem IsOwn.beside {q : Path} (h : IsOwn directory hostname p) (h' : IsOwn directory hostname q) (hne : p ≠ q)
    (t : FileTree) : ¬ t.destination p <+: t.destination q := by
  obtain ⟨sub, ending, _, rfl, hp⟩ := h.destination_eq
  obtain ⟨sub', ending', _, rfl, hq⟩ := h'.destination_eq
  rw [hp, hq]
  intro hstarts
  have hnames := List.append_cancel_left (hstarts.eq_of_length (by simp))
  exact hne (by rw [hnames])

section

variable (hgranting : Host.Granting σ) {t₀ : FileTree} (hname : Hostname.isAccepted hostname = true)
  (hcert : Vacant t₀ (certPathFor directory hostname)) (hkey : Vacant t₀ (keyPathFor directory hostname))
  {w w' : World σ τ} {key cert : Bool}

omit [Host σ τ] in
include hname in
/-- The file of the key is put or taken away beside the certificate. -/
theorem Stand.putKey {there : Bool} (h : Stand t₀ directory hostname key cert w.files)
    (hputs : Puts t₀ (t₀.destination (keyPathFor directory hostname)) there w w') :
    Stand t₀ directory hostname there cert w'.files := by
  have hbeside := (isOwn_keyPathFor hname directory).beside (isOwn_certPathFor hname directory)
    (certPathFor_ne_keyPathFor hname directory).symm t₀
  exact ⟨hputs.kept, hputs.stands, h.cert.beside hputs hbeside⟩

omit [Host σ τ] in
include hname in
/-- The file of the certificate is put or taken away beside the key. -/
theorem Stand.putCert {there : Bool} (h : Stand t₀ directory hostname key cert w.files)
    (hputs : Puts t₀ (t₀.destination (certPathFor directory hostname)) there w w') :
    Stand t₀ directory hostname key there w'.files := by
  have hbeside := (isOwn_certPathFor hname directory).beside (isOwn_keyPathFor hname directory)
    (certPathFor_ne_keyPathFor hname directory) t₀
  exact ⟨hputs.kept, h.key.beside hputs hbeside, hputs.stands⟩

omit [Host σ τ] in
include hname hcert hkey in
theorem Stand.isThere_iff (h : Stand t₀ directory hostname key cert w.files) :
    (IsThere w.files (certPathFor directory hostname) ↔ Fits hostname ∧ cert = true) ∧
      (IsThere w.files (keyPathFor directory hostname) ↔ Fits hostname ∧ key = true) :=
  ⟨hcert.isThere_iff h.kept (isOwn_certPathFor hname directory) h.cert,
    hkey.isThere_iff h.kept (isOwn_keyPathFor hname directory) h.key⟩

/-- What became of a run: it had no end, or its files were written and it is concluded as it ended, or a file could
not be written, since its name is too long. -/
inductive Performed (t₀ : FileTree) (directory : Path) (hostname : String) (t : FileTree) :
    Except (Fault τ) (RunReport τ) → Except (Fault τ) (RunEnd τ) → Prop
  | unanswered {fault : Fault τ} (hstand : Stand t₀ directory hostname false false t) :
      Performed t₀ directory hostname t (.error fault) (.error fault)
  | answered {report : RunReport τ}
      (hwritten : Fits hostname ∨ report.key.isSome = false ∧ report.certificate.isSome = false)
      (hstand : Stand t₀ directory hostname report.key.isSome report.certificate.isSome t) :
      Performed t₀ directory hostname t (.ok report) (outcome report.ending)
  | unwritten {report : RunReport τ} {e : Foreign} (hfits : ¬ Fits hostname)
      (hwritten : report.key.isSome = true ∨ report.certificate.isSome = true) (he : e.isMissing = false) :
      Performed t₀ directory hostname t (.ok report) (.error (.foreign e))

section

variable {answer : Except (Fault τ) (RunReport τ)} {r : Except (Fault τ) (RunEnd τ)} {e : Foreign} {days : Int}
  {now : Moment}

omit [Host σ τ] in
include hname hcert hkey in
/-- A program that is missing suffices if it has written nothing. -/
theorem Performed.missing_iff (h : Performed t₀ directory hostname w.files answer r) (hr : r = .error (.foreign e))
    (he : e.isMissing = true) : (¬ IsThere w.files (certPathFor directory hostname) ∧
      ¬ IsThere w.files (keyPathFor directory hostname)) ↔ RunSuffices hostname days now answer := by
  have hfamily : (Fault.foreign e : Fault τ).comesFrom Foreign.isMissing = true := he
  cases h with
  | unanswered hstand =>
    cases hr
    obtain ⟨hcertThere, hkeyThere⟩ := hstand.isThere_iff hname hcert hkey
    simp [hcertThere, hkeyThere, RunSuffices, hfamily]
  | @answered report hwritten hstand =>
    obtain ⟨hcertThere, hkeyThere⟩ := hstand.isThere_iff hname hcert hkey
    rw [hcertThere, hkeyThere, RunSuffices, outcome_eq_error hr]
    rcases hwritten with hfits | ⟨hnoKey, hnoCert⟩
    · simp [hfits, hfamily, and_comm]
    · simp [hnoKey, hnoCert, hfamily]
  | unwritten _ _ hmissing =>
    cases hr
    rw [he] at hmissing
    cases hmissing

omit [Host σ τ] in
theorem Performed.not_suffices (h : Performed t₀ directory hostname w.files answer r) (hr : r = .error (.foreign e))
    (he : e.isMissing = false) : ¬ RunSuffices hostname days now answer := by
  have hfamily : (Fault.foreign e : Fault τ).comesFrom Foreign.isMissing = false := he
  cases h with
  | unanswered =>
    cases hr
    simp [RunSuffices, hfamily]
  | answered =>
    rw [RunSuffices, outcome_eq_error hr]
    simp [hfamily]
  | @unwritten report _ hfits hwritten =>
    -- whatever its end is, something was to be written
    rw [RunSuffices]
    intro hsuffices
    split at hsuffices
    · obtain ⟨_, hnoKey, hnoCert⟩ := hsuffices
      simp [hnoKey, hnoCert] at hwritten
    · exact hfits hsuffices
    · exact hfits hsuffices
    · exact hfits hsuffices.1

end

include hgranting hname hcert hkey

theorem after_perform (hfiles : w.files = t₀) (options : Options) :
    After (perform (runFor directory hostname options)) w fun r w' => Performed t₀ directory hostname w'.files
      (Host.answer (.run (runFor directory hostname options)) w.host).1 r := by
  have hslotKey : Slot t₀ directory hostname (keyPathFor directory hostname) :=
    ⟨isOwn_keyPathFor hname directory, hkey⟩
  have hslotCert : Slot t₀ directory hostname (certPathFor directory hostname) :=
    ⟨isOwn_certPathFor hname directory, hcert⟩
  have hstand {w₁ : World σ τ} (hfiles₁ : w₁.files = w.files) :
      Stand t₀ directory hostname false false w₁.files := by
    rw [hfiles₁, hfiles]
    exact ⟨.refl t₀, hkey.stands, hcert.stands⟩
  rw [perform_eq]
  refine after_bind (after_ask _ w) ?_ ?_
  · rintro report w₁ ⟨hanswer, hfiles₁, _⟩
    rw [← hanswer]
    have hstand₁ := hstand hfiles₁
    have hwriteKey := after_writeSome_own hgranting hslotKey hstand₁.kept hstand₁.key report.key
    refine after_bind hwriteKey (fun _ w₂ hpost => ?_) fun fault w₂ hpost => ?_
    · rcases hpost with ⟨_, hfits, hputs⟩ | ⟨_, _, ⟨_, hr, _⟩, _⟩
      · have hstand₂ := hstand₁.putKey hname hputs
        have hwriteCert := after_writeSome_own hgranting hslotCert hstand₂.kept hstand₂.cert report.certificate
        refine after_bind hwriteCert (fun _ w₃ hpost => after_conclude ?_) fun fault w₃ hpost => ?_
        · rcases hpost with ⟨_, hfits', hputs'⟩ | ⟨_, _, ⟨_, hr, _⟩, _⟩
          · refine .answered ?_ (hstand₂.putCert hname hputs')
            rcases hfits with hfits | hnone
            · exact .inl hfits
            · exact hfits'.imp_right fun hnone' => ⟨hnone, hnone'⟩
          · cases hr
        · rcases hpost with ⟨hr, _⟩ | ⟨hfits, hsome, ⟨e, hr, he⟩, _⟩
          · cases hr
          · cases hr
            exact .unwritten hfits (.inr hsome) he
      · cases hr
    · rcases hpost with ⟨hr, _⟩ | ⟨hfits, hsome, ⟨e, hr, he⟩, _⟩
      · cases hr
      · cases hr
        exact .unwritten hfits (.inl hsome) he
  · rintro fault w₁ ⟨hanswer, hfiles₁, _⟩
    rw [← hanswer]
    exact .unanswered (hstand hfiles₁)

/-- A fault of a run is reported, and what was written stays. -/
theorem after_reported (hfiles : w.files = t₀) (options : Options) (now : Moment) {report : Foreign → Option (Fault τ)}
    (hreport : ∀ e, report e = if e.isMissing then
      some (.certificate (.noProgram (runFor directory hostname options).program hostname e)) else none) :
    After (reporting report (perform (runFor directory hostname options))) w fun r w' =>
      let answer := (Host.answer (.run (runFor directory hostname options)) w.host).1
      match r with
      | .ok ending => Performed t₀ directory hostname w'.files answer (.ok ending)
      | .error fault =>
        Promised directory hostname (.error fault) w'.files ↔ RunSuffices hostname options.days now answer := by
  refine after_reporting (after_perform hgranting hname hcert hkey hfiles options) ?_ ?_ ?_
  · exact fun ending w₁ hperformed => hperformed
  · intro e w₁ hperformed
    dsimp only
    rw [hreport]
    by_cases he : e.isMissing = true
    · rw [if_pos he, Option.getD_some]
      exact hperformed.missing_iff hname hcert hkey rfl he
    · rw [if_neg he, Option.getD_none]
      exact iff_of_false (fun hno => hno) (hperformed.not_suffices rfl (Bool.eq_false_iff.mpr he))
  · -- on a host that grants files, there are no other faults
    intro fault w₁ hperformed hother
    exfalso
    generalize hr : (Except.error fault : Except (Fault τ) (RunEnd τ)) = r at hperformed
    generalize hanswer : (Host.answer (.run (runFor directory hostname options)) w.host).1 = answer at hperformed
    cases hperformed with
    | unanswered =>
      obtain ⟨e, he⟩ := hgranting.run _ _ _ hanswer
      cases hr
      exact hother e he
    | answered =>
      obtain ⟨e, he⟩ := hgranting.broken _ _ _ _ hanswer (outcome_eq_error hr.symm)
      exact hother e he
    | @unwritten _ e =>
      cases hr
      exact hother e rfl

theorem after_discardFiles (hstand : Stand t₀ directory hostname key cert w.files) (options : Options) :
    After (discardFiles (runFor directory hostname options)) w fun r w' =>
      (Fits hostname ∧ r = .ok () ∧ Stand t₀ directory hostname false false w'.files) ∨
      (¬ Fits hostname ∧ ∃ e, r = .error (.foreign e)) := by
  have hfirst := after_discard_own hgranting hcert (isOwn_certPathFor hname directory) hstand.kept hstand.cert
  refine after_bind hfirst (fun _ w₁ hpost => ?_) fun fault w₁ hpost => ?_
  · rcases hpost with ⟨_, _, hputs⟩ | ⟨_, ⟨_, hr⟩, _⟩
    · have hstand₁ := hstand.putCert hname hputs
      have hsecond := after_discard_own hgranting hkey (isOwn_keyPathFor hname directory) hstand₁.kept hstand₁.key
      refine hsecond.mono ?_
      rintro r w₂ (⟨hfits, hr, hputs'⟩ | ⟨hfits, hfault, _⟩)
      · exact .inl ⟨hfits, hr, hstand₁.putKey hname hputs'⟩
      · exact .inr ⟨hfits, hfault⟩
    · cases hr
  · rcases hpost with ⟨_, hr, _⟩ | ⟨hfits, hfault, _⟩
    · cases hr
    · exact .inr ⟨hfits, hfault⟩

/-- A run that failed or took too long leaves no files, if the system can take them away. -/
theorem after_discarded (hstand : Stand t₀ directory hostname key cert w.files) (options : Options)
    {problem : CertificateProblem} (hproblem : ∀ a b, problem ≠ .conflict a b) :
    After (do discardFiles (runFor directory hostname options); throw (.certificate problem) : Act σ τ Unit) w
      fun r w' => ∃ fault, r = .error fault ∧
        (Promised directory hostname (.error fault) w'.files ↔ Fits hostname) := by
  refine after_bind (after_discardFiles hgranting hname hcert hkey hstand options) (fun _ w₁ hpost => ?_)
    fun fault w₁ hpost => ?_
  · rcases hpost with ⟨hfits, _, hstand₁⟩ | ⟨_, _, hr⟩
    · refine after_throw ⟨_, rfl, iff_of_true ?_ hfits⟩
      have hnone : ¬ IsThere w₁.files (certPathFor directory hostname) ∧
          ¬ IsThere w₁.files (keyPathFor directory hostname) := by
        obtain ⟨hcertThere, hkeyThere⟩ := hstand₁.isThere_iff hname hcert hkey
        simp [hcertThere, hkeyThere]
      unfold Promised
      cases problem with
      | conflict a b => exact absurd rfl (hproblem a b)
      | _ => exact hnone
    · cases hr
  · rcases hpost with ⟨_, hr, _⟩ | ⟨hfits, e, hr⟩
    · cases hr
    · cases hr
      exact ⟨_, rfl, iff_of_false (fun hno => hno) hfits⟩

/-- A run that is not done is reported, and the files that it wrote are taken away. -/
theorem after_generate (hfiles : w.files = t₀) (options : Options) (now : Moment) :
    After (generate (runFor directory hostname options)) w fun r w' =>
      let answer := (Host.answer (.run (runFor directory hostname options)) w.host).1
      match r with
      | .ok () => ∃ report, answer = .ok report ∧ report.ending = .done ∧
        (Fits hostname ∨ report.key.isSome = false ∧ report.certificate.isSome = false) ∧
        Stand t₀ directory hostname report.key.isSome report.certificate.isSome w'.files
      | .error fault =>
        Promised directory hostname (.error fault) w'.files ↔ RunSuffices hostname options.days now answer := by
  unfold generate
  refine after_bind (after_reported hgranting hname hcert hkey hfiles options now fun e => rfl) ?_ ?_
  · intro ending w₁ hperformed
    dsimp only at hperformed
    generalize (Host.answer (.run (runFor directory hostname options)) w.host).1 = answer at hperformed ⊢
    generalize hr : (Except.ok ending : Except (Fault τ) (RunEnd τ)) = r at hperformed
    cases hperformed with
    | unanswered => cases hr
    | unwritten => cases hr
    | @answered report hwritten hstand =>
      obtain ⟨hending, hbroken⟩ := outcome_eq_ok hr.symm
      rw [← hending]
      cases hend : report.ending with
      | broken fault => exact absurd hend (hbroken fault)
      | done => exact after_pure ⟨report, rfl, hend, hwritten, hstand⟩
      | failed _ | expired =>
        have hsuffices : RunSuffices hostname options.days now (.ok report : Except (Fault τ) _) ↔ Fits hostname := by
          rw [RunSuffices, hend]
        refine (after_discarded hgranting hname hcert hkey hstand options (by simp)).mono ?_
        rintro r w₂ ⟨fault, rfl, hpromised⟩
        exact hpromised.trans hsuffices.symm
  · exact fun fault w₁ hreported => hreported

/-- What issuing does when the directories are there. -/
theorem after_finish (hfiles : w.files = t₀) (options : Options) (notBefore : Moment) :
    After (finish directory hostname options notBefore) w fun r w' =>
      Promised directory hostname r w'.files ↔ options.Written ∧ RunSuffices hostname options.days notBefore
        (Host.answer (.run (runFor directory hostname options)) w.host).1 := by
  refine after_bind (after_checkWritten directory hostname options w) (fun _ w₁ hpost => ?_) fun fault w₁ hpost => ?_
  · obtain ⟨rfl, ⟨hwritten, -⟩ | ⟨-, e, hr⟩⟩ := hpost
    swap
    · cases hr
    rw [and_iff_right hwritten]
    have hgenerate := after_generate hgranting hname hcert hkey hfiles options notBefore
    refine after_bind hgenerate ?_ fun fault w₁ hreported => hreported
    rintro _ w₁ ⟨report, hanswer, hdone, _, hstand⟩
    rw [hanswer, RunSuffices, hdone]
    have hmode := after_setMode_own hgranting hkey (isOwn_keyPathFor hname directory) hstand.kept hstand.key keyMode
    refine after_bind hmode (fun _ w₂ hpost => ?_) fun fault w₂ hpost => ?_
    · rcases hpost with ⟨hfits, hkeyWritten, _, hputs⟩ | ⟨_, _, hr⟩
      · have hlogged : After (record .info .certs
            s!"Generated self-signed certificate for {hostname}: {certPathFor directory hostname}" : Act σ τ Unit) w₂
            fun r w₃ => r = .ok () ∧ w₃.files = w₂.files := ⟨rfl, rfl⟩
        refine after_bind hlogged (fun _ w₃ hpost => ?_) (by simp)
        obtain ⟨hcertThere, hkeyThere⟩ := (hstand.putKey hname hputs).isThere_iff hname hcert hkey
        rw [← hpost.2] at hcertThere hkeyThere
        cases hdays : notBefore.addDays options.days with
        | ok later => exact after_pure (by simp [Promised, hcertThere, hkeyThere, hfits, hkeyWritten])
        | error problem => exact after_throw (by simp [Promised])
      · cases hr
    · rcases hpost with ⟨_, _, hr, _⟩ | ⟨hnot, e, hr⟩
      · cases hr
      · cases hr
        exact iff_of_false (fun hno => hno) fun hsuffices => hnot ⟨hsuffices.1, hsuffices.2.1⟩
  · obtain ⟨-, ⟨-, hr⟩ | ⟨hnot, e, hr⟩⟩ := hpost
    · cases hr
    · cases hr
      exact iff_of_false (fun hno => hno) fun hsuffices => hnot hsuffices.1

end

/-! ## Issuing -/

theorem issue_eq (haccepted : Hostname.isAccepted hostname = true) (options : Options) :
    (issue directory hostname options : Act σ τ Certificate) = (do
      checkFree hostname (certPathFor directory hostname)
      checkFree hostname (keyPathFor directory hostname)
      makeDirectoriesFor directory hostname
      let notBefore ← wallClock
      finish directory hostname options notBefore) := by
  simp only [issue, makeDirectoriesFor, finish, runFor, haccepted, bind_assoc]
  rfl

theorem issue_of_not_accepted (hname : ¬ Hostname.isAccepted hostname = true) (options : Options) :
    (issue directory hostname options : Act σ τ Certificate) =
      throw (.certificate (.invalidHostname hostname)) := by
  simp only [issue, hname]
  rfl

omit [Host σ τ] in
/-- Whether there is a file is looked for first, and the name of the file may be too long for that. -/
theorem after_checkFree_bind {α : Type} {act : Act σ τ α} {path : Path} {w : World σ τ}
    {Q : Except (Fault τ) α → World σ τ → Prop} (hfree : w.files.hasEntry path = .ok false → After act w Q)
    (hthere : IsThere w.files path → Q (.error (.certificate (.conflict hostname path.toString))) w)
    (herror : ∀ problem e, w.files.hasEntry path = .error problem → Q (.error (.foreign e)) w) :
    After (do checkFree hostname path; act) w Q := by
  unfold After checkFree Files.isThere Files.look
  simp only [bind, EStateM.bind]
  cases hentry : w.files.hasEntry path with
  | ok there =>
    cases there with
    | false => exact hfree hentry
    | true => exact hthere hentry
  | error problem => exact herror problem _ hentry

/-! ### Faults -/

section

variable (houtward : Host.Outward σ)

include houtward

theorem raises_makeDirectoriesFor (directory : Path) (hostname : String) :
    Raises Fault.IsForeign (makeDirectoriesFor directory hostname : Act σ τ Unit) := by
  have hmakes (path : Path) : MakesFiles (fun _ => False) (Files.makeDirectories true path : Act σ τ Unit) :=
    Files.makes_makeDirectories true path
  refine fun w => (((hmakes _).bind fun _ => hmakes _) w).mono fun r w' hpost fault hr => ?_
  exact (hpost.2 fault hr).elim (fun hrefused => hrefused.isForeign houtward) False.elim

theorem raises_ask_change (operation : FileOperation) (path : Path) (shown : String)
    (f : FileTree → Except FileProblem FileTree) :
    Raises Fault.IsForeign (do ask (.file operation path); Files.change shown f : Act σ τ Unit) := by
  have hask : Raises Fault.IsForeign (ask (.file operation path) : Act σ τ Unit) := fun w =>
    (after_ask _ w).mono fun a w' hpost fault hr => houtward.file _ _ _ _ (hpost.1.symm.trans hr)
  refine hask.bind fun _ w => (after_change_files shown f w).mono ?_
  rintro r w' (⟨t, _, rfl, _⟩ | ⟨problem, _, rfl, _⟩) fault hr
  · cases hr
  · cases hr
    exact ⟨_, rfl⟩

theorem raises_perform (run : CertificateRun) : Raises Fault.IsForeign (perform run : Act σ τ (RunEnd τ)) := by
  have hwrite (path : Path) (content : Option Bytes) :
      Raises Fault.IsForeign (writeSome path content : Act σ τ Unit) := by
    cases content with
    | none => exact raises_pure ()
    | some content => exact raises_ask_change houtward _ _ _ _
  intro w
  rw [perform_eq]
  refine after_bind (after_ask _ w) ?_ ?_
  · rintro report w₁ ⟨hanswer, _⟩
    have hend : Raises Fault.IsForeign (conclude (outcome report.ending) : Act σ τ (RunEnd τ)) := fun w₂ =>
      after_conclude fun fault hr => houtward.broken _ _ _ _ hanswer.symm (outcome_eq_error hr)
    exact ((hwrite _ _).bind fun _ => (hwrite _ _).bind fun _ => hend) w₁
  · rintro _ w₁ ⟨hanswer, _⟩ fault ⟨⟩
    exact houtward.run _ _ _ hanswer.symm

theorem raises_discardFiles (run : CertificateRun) :
    Raises Fault.IsForeign (discardFiles run : Act σ τ Unit) := by
  have hdiscard (path : Path) : Raises Fault.IsForeign (Files.discard path : Act σ τ Unit) := by
    refine (raises_ask_change houtward _ _ _ _).attempt_bind (fun _ => raises_pure ()) fun fault hfault => ?_
    exact .ite (raises_pure ()) (raises_throw hfault)
  exact (hdiscard _).bind fun _ => hdiscard _

omit [Host σ τ] houtward in
/-- What can go wrong once the files are known to be free: an error of the outside world, a report of the run, or a
date out of range. -/
inductive OfRun : Fault τ → Prop
  | foreign (e : Foreign) : OfRun (.foreign e)
  | noProgram (program hostname : String) (e : Foreign) : OfRun (.certificate (.noProgram program hostname e))
  | failed (hostname stderr : String) (e : Foreign) : OfRun (.certificate (.failed hostname stderr e))
  | expired (hostname : String) (e : Foreign) : OfRun (.certificate (.expired hostname e))
  | calendar (problem : CalendarProblem) : OfRun (.calendar problem)

theorem raises_finish (options : Options) (notBefore : Moment) :
    Raises OfRun (finish directory hostname options notBefore : Act σ τ Certificate) := by
  have hforeign {α : Type} {act : Act σ τ α} (h : Raises Fault.IsForeign act) : Raises OfRun act := by
    refine h.mono ?_
    rintro _ ⟨e, rfl⟩
    exact .foreign e
  have hgenerate (run : CertificateRun) : Raises OfRun (generate run : Act σ τ Unit) := by
    unfold generate
    have hdiscard : Raises OfRun (discardFiles run : Act σ τ Unit) := hforeign (raises_discardFiles houtward run)
    have hperform := hforeign (raises_perform houtward run)
    refine (hperform.reporting (fun e _ => ?_) fun _ h => h).bind fun ending => ?_
    · split
      · exact .noProgram _ _ e
      · exact .foreign e
    · cases ending with
      | failed stderr => exact hdiscard.bind fun _ => raises_throw (.failed _ _ _)
      | expired => exact hdiscard.bind fun _ => raises_throw (.expired _ _)
      | done => exact raises_pure ()
      | broken fault => exact raises_pure ()
  have hwritten (run : CertificateRun) : Raises OfRun (checkWritten run : Act σ τ Unit) := by
    unfold checkWritten
    split
    · exact raises_pure ()
    · exact raises_throw (.foreign _)
  refine (hwritten _).bind fun _ => (hgenerate _).bind fun _ => (hforeign (raises_ask_change houtward _ _ _ _)).bind fun _ => ?_
  refine (raises_record _ _ _).bind fun _ => ?_
  split
  · exact raises_pure _
  · exact raises_throw (.calendar _)

/-- The directories are made, and the program runs. -/
theorem raises_makeFiles (directory : Path) (hostname : String) (options : Options) :
    Raises OfRun (do
      makeDirectoriesFor directory hostname
      let notBefore ← wallClock
      finish directory hostname options notBefore : Act σ τ Certificate) := by
  refine ((raises_makeDirectoriesFor houtward directory hostname).mono ?_).bind fun _ => ?_
  · rintro _ ⟨e, rfl⟩
    exact .foreign e
  · refine Raises.bind (fun w => ?_) fun notBefore => raises_finish houtward options notBefore
    rintro _ ⟨⟩

/-- Issuing is refused as a conflict exactly if one of the files is there. -/
theorem after_issue_conflict (options : Options) (w : World σ τ) :
    After (issue directory hostname options) w fun r _ =>
      (∃ name path, r = .error (.certificate (.conflict name path))) ↔ Conflicts directory hostname w.files := by
  by_cases hname : Hostname.isAccepted hostname = true
  · rw [issue_eq hname]
    refine after_checkFree_bind (fun hcert => after_checkFree_bind (fun hkey => ?_) ?_ ?_) ?_ ?_
    · refine (raises_makeFiles houtward directory hostname options w).mono fun r w' hr => ?_
      refine iff_of_false ?_ (by simp [Conflicts, IsThere, hcert, hkey])
      rintro ⟨name, path, rfl⟩
      cases hr _ rfl
    · exact fun hkey => iff_of_true ⟨_, _, rfl⟩ ⟨hname, .inr ⟨hcert, hkey⟩⟩
    · exact fun problem e hkey => by simp [Conflicts, IsThere, hcert, hkey]
    · exact fun hcert => iff_of_true ⟨_, _, rfl⟩ ⟨hname, .inl hcert⟩
    · exact fun problem e hcert => by simp [Conflicts, IsThere, hcert]
  · rw [issue_of_not_accepted hname]
    exact after_throw (by simp [Conflicts, hname])

end

theorem Suffices.of_accepted {options : Options} {w : World σ τ}
    (h : Suffices directory hostname options w) (hname : Hostname.isAccepted hostname = true)
    (hnot : ¬ Conflicts directory hostname w.files) :
    w.files.hasEntry (certPathFor directory hostname) = .ok false ∧
      w.files.hasEntry (keyPathFor directory hostname) = .ok false ∧
      ∃ w₁, makeDirectoriesFor directory hostname w = .ok () w₁ ∧ options.Written ∧
        RunSuffices hostname options.days (Host.wallClock w₁.host)
          (Host.answer (.run (runFor directory hostname options)) w₁.host).1 := by
  cases h with
  | refused hrefused =>
    rw [hname] at hrefused
    cases hrefused
  | conflict hconflicts => exact absurd hconflicts hnot
  | run _ hcert hkey hdirectories hwritten hrun => exact ⟨hcert, hkey, _, hdirectories, hwritten, hrun⟩

/-- Issuing promises a certificate with its two files, or a problem of its own and none of them, and does not keep
the promise wherever the run does not suffice. -/
theorem after_issue_promised (hgranting : Host.Granting σ) {w : World σ τ} (hw : w.files.WellFormed)
    (hback : w.files.LeadsBack directory) (options : Options) :
    After (issue directory hostname options) w fun r w' =>
      Promised directory hostname r w'.files ↔ Suffices directory hostname options w := by
  by_cases hname : Hostname.isAccepted hostname = true
  · rw [issue_eq hname]
    refine after_checkFree_bind (fun hcert => after_checkFree_bind (fun hkey => ?_) ?_ ?_) ?_ ?_
    · have hnot : ¬ Conflicts directory hostname w.files := by simp [Conflicts, IsThere, hcert, hkey]
      refine after_bind (after_run _ w) (fun _ w₁ hrun => ?_) fun fault w₁ hrun => ?_
      · have hdirectories := of_attempt_ok hrun
        obtain ⟨hvacantCert, hvacantKey⟩ := vacant_of_makeDirectories hw hback hname hcert hkey hdirectories
        have hclock : After wallClock w₁ fun r w₂ => r = .ok (Host.wallClock w₁.host) ∧ w₂ = w₁ := ⟨rfl, rfl⟩
        refine after_bind hclock (fun notBefore w₂ hpost => ?_) (by simp)
        obtain ⟨⟨⟩, rfl⟩ := hpost
        refine (after_finish hgranting hname hvacantCert hvacantKey rfl options _).mono fun r w' hpost => ?_
        refine hpost.trans ⟨fun ⟨hwritten, hsuffices⟩ => .run hname hcert hkey hdirectories hwritten hsuffices,
          fun hsuffices => ?_⟩
        obtain ⟨_, _, w₂, hdirectories', hsuffices⟩ := hsuffices.of_accepted hname hnot
        rw [hdirectories] at hdirectories'
        cases hdirectories'
        exact hsuffices
      · have hfails := of_attempt_error hrun
        obtain ⟨e, rfl⟩ := (raises_makeDirectoriesFor hgranting.outward directory hostname w).error hfails _ rfl
        refine iff_of_false (fun hno => hno) fun hsuffices => ?_
        obtain ⟨_, _, _, hdirectories, _⟩ := hsuffices.of_accepted hname hnot
        rw [hfails] at hdirectories
        cases hdirectories
    · exact fun hthere => iff_of_true trivial (.conflict ⟨hname, .inr ⟨hcert, hthere⟩⟩)
    · intro problem e hkey
      refine iff_of_false (fun hno => hno) fun hsuffices => ?_
      obtain ⟨_, hkey', _⟩ := hsuffices.of_accepted hname (by simp [Conflicts, IsThere, hcert, hkey])
      rw [hkey] at hkey'
      cases hkey'
    · exact fun hthere => iff_of_true trivial (.conflict ⟨hname, .inl hthere⟩)
    · intro problem e hcert
      refine iff_of_false (fun hno => hno) fun hsuffices => ?_
      obtain ⟨hcert', _⟩ := hsuffices.of_accepted hname (by simp [Conflicts, IsThere, hcert])
      rw [hcert] at hcert'
      cases hcert'
  · rw [issue_of_not_accepted hname]
    refine after_throw ⟨fun ⟨hcert, hkey⟩ => .refused (Bool.eq_false_iff.mpr hname) hcert hkey, fun hsuffices => ?_⟩
    cases hsuffices with
    | refused _ hcert hkey => exact ⟨hcert, hkey⟩
    | conflict hconflicts => exact absurd hconflicts.1 hname
    | run haccepted => exact absurd haccepted hname

/-- When issuing keeps its promise, and when it is refused later. -/
theorem issue_promised_iff (hgranting : Host.Granting σ) {w : World σ τ} (hw : w.files.WellFormed)
    (hback : w.files.LeadsBack directory) (options : Options) :
    After (issue directory hostname options) w fun r w' =>
      (Promised directory hostname r w'.files ↔ Suffices directory hostname options w) ∧
      ∀ (later : World σ τ) (options' : Options), later.files = w'.files →
        After (issue directory hostname options') later fun r' _ =>
          (∃ name path, r' = .error (.certificate (.conflict name path))) ↔
            Conflicts directory hostname w'.files := by
  refine (after_issue_promised hgranting hw hback options).mono fun r w' hpromised => ⟨hpromised, ?_⟩
  intro later options' hfiles
  rw [← hfiles]
  exact after_issue_conflict hgranting.outward options' later

/-- A program that makes both files on a host that grants them. -/
def making : (r : Request Rat) → Except (Fault Rat) r.Answer
  | .file _ _ => .ok ()
  | .run _ => .ok ⟨some (Text.utf8 "k"), some (Text.utf8 "c"), .done⟩
  | _ => .error (.foreign (.plain (.system .general) "not available"))

theorem granting_making : Host.Granting (Constant making) where
  file _ _ _ := rfl
  run _ _ _ h := by cases h
  broken _ _ report fault h hbroken := by
    cases h
    cases hbroken

/-- So many days that there is no last day. -/
def tooLong : Options := { Options.usual with days := 3000000 }

/-- The fault is that a date is out of range. -/
def isDateFault : Fault Rat → Bool
  | .calendar _ => true
  | _ => false

theorem isDateFault_iff {fault : Fault Rat} : isDateFault fault = true ↔ ∃ problem, fault = .calendar problem := by
  cases fault <;> simp [isDateFault]

/-- Both files stay, and the next attempt is refused, though no certificate was issued. -/
theorem issue_promised_iff_tooLong :
    After (issue ⟨.root, ["tls"]⟩ "a.example" tooLong) (Constant.begin : World (Constant making) Rat) fun r w' =>
      (∃ problem, r = .error (.calendar problem)) ∧ ¬ Suffices ⟨.root, ["tls"]⟩ "a.example" tooLong
          (Constant.begin : World (Constant making) Rat) ∧
        After (issue ⟨.root, ["tls"]⟩ "a.example" Options.usual) w' fun r' _ =>
          ∃ name path, r' = .error (.certificate (.conflict name path)) := by
  have hrun : After (issue ⟨.root, ["tls"]⟩ "a.example" tooLong)
      (Constant.begin : World (Constant making) Rat) fun r w' => failsAs isDateFault r = true ∧
        w'.files.hasEntry (certPathFor ⟨.root, ["tls"]⟩ "a.example") = .ok true := by
    decide +kernel
  have hback : FileTree.LeadsBack (Constant.begin : World (Constant making) Rat).files ⟨.root, ["tls"]⟩ := by
    intro before after hnames
    have hdots : ".." ∈ before ++ ".." :: after := List.mem_append_right before List.mem_cons_self
    rw [← hnames] at hdots
    simp at hdots
  refine (hrun.and (issue_promised_iff granting_making FileTree.wellFormed_empty hback tooLong)).mono ?_
  rintro r w' ⟨⟨hcalendar, hthere⟩, hpromised, hlater⟩
  have hname : Hostname.isAccepted "a.example" = true := by decide +kernel
  obtain ⟨problem, rfl⟩ : ∃ problem, r = .error (.calendar problem) := by
    obtain ⟨fault, rfl, hfault⟩ := failsAs_iff.mp hcalendar
    obtain ⟨problem, rfl⟩ := isDateFault_iff.mp hfault
    exact ⟨problem, rfl⟩
  exact ⟨⟨problem, rfl⟩, fun hsuffices => hpromised.mpr hsuffices,
    (hlater w' Options.usual rfl).mono fun r' _ hconflict => hconflict.mpr ⟨hname, .inl hthere⟩⟩

end Certificate

end ProxyTestbed
