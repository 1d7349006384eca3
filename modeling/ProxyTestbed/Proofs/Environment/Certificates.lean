import Mathlib.Data.List.Nodup
import ProxyTestbed.Proofs.Certificate.Issue
import ProxyTestbed.Environment.Use
import ProxyTestbed.Proofs.Wait.Constant
import ProxyTestbed.Proofs.World.Asks

/-!
# The certificates of an environment

An environment keeps a certificate for each host name that one was issued for. Between the calls the outside
world may do what it likes, and a run of the program may write what it likes to the two files that are its own
and end as it likes.

* `Ledger.call`: what one call makes of the certificates.
* `certificates_of_calls`: the certificates after any calls, and what the next call does.
-/

namespace ProxyTestbed.Environment

variable {σ τ : Type} [Seconds τ]

/-! ## One call -/

/-- An environment that is ready or in use is taken into use; any other one is refused. -/
theorem use_cases (w : World σ τ) (e : Environment τ) :
    use (w, e) = .ok () (w, { e with state := .inUse }) ∨
      use (w, e) = .error (.unusable e.id e.state) (w, e) ∧ e.state ≠ .inUse := by
  obtain ⟨id, settings, registry, state, rest⟩ := e
  cases state with
  | ready => exact .inl rfl
  | inUse => exact .inl rfl
  | _ => exact .inr ⟨rfl, by simp⟩

/-- What a call makes of an environment. -/
structure CallMakes (e : Environment τ) (hostname : String) (r : Except (Fault τ) Certificate)
    (e' : Environment τ) : Prop where
  scratch : e'.scratch = e.scratch
  state : e'.state = .inUse ∨ e' = e ∧ e.state ≠ .inUse
  certificates : ∀ c, r = .ok c → e'.state = .inUse ∧ e.certificates.get? hostname = none ∧
    e'.certificates = e.certificates ++ [(hostname, c)]
  paths : ∀ c, r = .ok c → Hostname.isAccepted hostname = true ∧
    c.certPath = Certificate.certPathFor e.tlsDirectory hostname ∧
    c.keyPath = Certificate.keyPathFor e.tlsDirectory hostname
  failed : ∀ fault, r = .error fault → e'.certificates = e.certificates

variable [Host σ τ]

theorem after_issueCertificate (hostname : String) (options : Certificate.Options) (w : World σ τ)
    (e : Environment τ) : After (issueCertificate hostname options) (w, e) fun r s =>
      CallMakes e hostname r s.2 := by
  have hafter {P : Except (Fault τ) Unit → World σ τ × Environment τ → Prop}
      (h : P (.ok ()) (w, { e with state := .inUse })) (h' : e.state ≠ .inUse →
        P (.error (.unusable e.id e.state)) (w, e)) : After use (w, e) P := by
    unfold After
    rcases use_cases w e with hrun | ⟨hrun, hstate⟩
    · rw [hrun]
      exact h
    · rw [hrun]
      exact h' hstate
  refine after_bind (P := fun r s => (r = .ok () → s = (w, { e with state := .inUse })) ∧
    ∀ fault, r = .error fault → s.2 = e ∧ e.state ≠ .inUse) (hafter (by simp) (by simp)) ?_ ?_
  · rintro _ s ⟨hs, -⟩
    obtain rfl := hs rfl
    refine after_object_bind ?_
    have hrefused (fault : Fault τ) : CallMakes e hostname (.error fault) { e with state := .inUse } :=
      ⟨rfl, .inl rfl, by simp, by simp, by simp⟩
    cases hknown : e.certificates.get? hostname with
    | some known =>
      simp only
      exact after_throw (hrefused _)
    | none =>
      simp only
      refine after_bind (Certificate.after_issue _ _ _ _).world ?_ ?_
      · rintro c ⟨w', e'⟩ ⟨hc, rfl⟩
        obtain ⟨haccepted, -, hcert, hkey⟩ := hc c rfl
        refine after_change_bind (after_pure ⟨rfl, .inl rfl, ?_, ?_, by simp⟩)
        · rintro _ ⟨⟩
          exact ⟨rfl, hknown, Dictionary.put_of_not_mem (Dictionary.get?_eq_none_iff.mp hknown) c⟩
        · rintro _ ⟨⟩
          exact ⟨haccepted, hcert, hkey⟩
      · rintro fault ⟨w', e'⟩ ⟨-, rfl⟩
        exact hrefused fault
  · rintro fault ⟨w', e'⟩ ⟨-, h⟩
    obtain ⟨rfl, hstate⟩ := h fault rfl
    exact ⟨rfl, .inr ⟨rfl, hstate⟩, by simp, by simp, by simp⟩

/-- A host name with a certificate is refused, and nothing else happens. -/
theorem issueCertificate_of_known {hostname : String} (options : Certificate.Options) (w : World σ τ)
    {e : Environment τ} (hstate : e.state = .inUse) {known : Certificate}
    (hknown : e.certificates.get? hostname = some known) : issueCertificate hostname options (w, e) =
      .error (.certificate (.conflict hostname known.certPath.toString)) (w, e) := by
  have huse : (use : On σ τ (Environment τ) Unit) (w, e) = .ok () (w, e) := by
    obtain ⟨id, settings, registry, state, rest⟩ := e
    obtain rfl : state = .inUse := hstate
    rfl
  simp only [issueCertificate, On.object, bind, EStateM.bind, huse, hknown]
  rfl

/-- A file of a host name that is not the one of the call is spared. -/
theorem keeps_issueCertificate_spares {hostname other : String} (hne : hostname ≠ other) {t : FileTree}
    {l : Location} {path : Path} {s : World σ τ × Environment τ}
    (hpath : Certificate.IsOwn s.2.tlsDirectory other path) (hplace : t.place path = .ok l)
    (options : Certificate.Options) : After (issueCertificate hostname options) s fun _ s' =>
      SparesFile t.home l s.1 s'.1 := by
  obtain ⟨w, e⟩ := s
  have hissue : Keeps (SparesFile t.home l)
      (Certificate.issue e.tlsDirectory hostname options : Act σ τ Certificate) :=
    Certificate.keeps_issue_spares hpath hne hplace options
  refine after_bind (P := fun _ s => s.1 = w ∧ s.2.tlsDirectory = e.tlsDirectory) ?_ ?_ ?_
  · unfold After
    rcases use_cases w e with hrun | ⟨hrun, -⟩ <;> rw [hrun] <;> exact ⟨rfl, rfl⟩
  · rintro _ ⟨w₁, e₁⟩ ⟨rfl, htls⟩
    refine after_object_bind ?_
    split
    · exact after_throw (refl_of (SparesFile t.home l) w₁)
    · simp only [htls]
      refine after_bind (hissue w₁).world ?_ ?_
      · rintro c s₂ ⟨hs₂, -⟩
        exact after_change_bind (after_pure hs₂)
      · rintro fault s₂ ⟨hs₂, -⟩
        exact hs₂
  · rintro fault s₁ ⟨rfl, -⟩
    exact refl_of (SparesFile t.home l) s₁.1

/-! ## Any calls -/

/-- A call for a certificate, and how it ended. -/
structure Call (τ : Type) where
  hostname : String
  outcome : Except (Fault τ) Certificate

/-- The certificate of a call that succeeded, with its host name. -/
def Call.issued? (call : Call τ) : Option (String × Certificate) :=
  match call.outcome with
  | .ok certificate => some (call.hostname, certificate)
  | .error _ => none

variable (σ) in
/-- Calls on an environment, which make it another one. Each call finds a world of its own. -/
inductive Calls (e₀ : Environment τ) : List (Call τ) → Environment τ → Prop
  | none : Calls e₀ [] e₀
  | more {calls : List (Call τ)} {e e' : Environment τ} (w w' : World σ τ) {hostname : String}
      {options : Certificate.Options} {outcome : Except (Fault τ) Certificate} (h : Calls e₀ calls e)
      (hrun : attempt (issueCertificate hostname options) (w, e) = .ok outcome (w', e')) :
      Calls e₀ (calls ++ [⟨hostname, outcome⟩]) e'

/-- The certificates of an environment are those of the calls that succeeded. -/
structure Ledger (e₀ : Environment τ) (calls : List (Call τ)) (e : Environment τ) : Prop where
  scratch : e.scratch = e₀.scratch
  inUse : e.certificates ≠ [] → e.state = .inUse
  issued : e.certificates = calls.filterMap Call.issued?
  nodup : (e.certificates.map (·.1)).Nodup
  paths : ∀ x ∈ e.certificates, Hostname.isAccepted x.1 = true ∧
    x.2.certPath = Certificate.certPathFor e.tlsDirectory x.1 ∧
    x.2.keyPath = Certificate.keyPathFor e.tlsDirectory x.1

omit [Host σ τ] in
theorem Ledger.call {e₀ e e' : Environment τ} {calls : List (Call τ)} (h : Ledger e₀ calls e) {hostname : String}
    {outcome : Except (Fault τ) Certificate} (hcall : CallMakes e hostname outcome e') :
    Ledger e₀ (calls ++ [⟨hostname, outcome⟩]) e' := by
  have htls : e'.tlsDirectory = e.tlsDirectory := by simp only [tlsDirectory, hcall.scratch]
  have hscratch : e'.scratch = e₀.scratch := hcall.scratch.trans h.scratch
  cases outcome with
  | error fault =>
    have hsame : e'.certificates = e.certificates := hcall.failed fault rfl
    refine ⟨hscratch, fun hsome => ?_, ?_, hsame ▸ h.nodup, ?_⟩
    · rcases hcall.state with hstate | ⟨rfl, -⟩
      · exact hstate
      · exact h.inUse hsome
    · simp [hsame, h.issued, Call.issued?]
    · rw [hsame, htls]
      exact h.paths
  | ok c =>
    obtain ⟨hstate, hnew, hadded⟩ := hcall.certificates c rfl
    have hfresh : hostname ∉ e.certificates.map (·.1) := Dictionary.get?_eq_none_iff.mp hnew
    refine ⟨hscratch, fun _ => hstate, ?_, ?_, fun x hx => ?_⟩
    · simp [hadded, h.issued, Call.issued?]
    · rw [hadded, List.map_append, List.nodup_append]
      refine ⟨h.nodup, by simp, ?_⟩
      simp only [List.map_cons, List.map_nil, List.mem_singleton]
      rintro a ha b rfl rfl
      exact hfresh ha
    · rw [htls]
      rw [hadded] at hx
      rcases List.mem_append.mp hx with hx | hx
      · exact h.paths x hx
      · obtain rfl := List.mem_singleton.mp hx
        exact hcall.paths c rfl

theorem ledger_of_calls {e₀ e : Environment τ} (hnew : e₀.certificates = []) {calls : List (Call τ)}
    (h : Calls σ e₀ calls e) : Ledger e₀ calls e := by
  induction h with
  | none => exact ⟨rfl, fun hsome => absurd hnew hsome, hnew, by simp [hnew], by simp [hnew]⟩
  | more w w' h hrun ih => exact ih.call ((after_issueCertificate _ _ w _).attempted hrun)

namespace Ledger

variable {e₀ e : Environment τ} {calls : List (Call τ)} (h : Ledger e₀ calls e)

include h

omit [Host σ τ] in
theorem isOwn {x : String × Certificate} (hx : x ∈ e.certificates) {path : Path}
    (hpath : path ∈ [x.2.certPath, x.2.keyPath]) : Certificate.IsOwn e.tlsDirectory x.1 path := by
  obtain ⟨haccepted, hcert, hkey⟩ := h.paths x hx
  simp only [List.mem_cons, List.not_mem_nil, or_false] at hpath
  rcases hpath with rfl | rfl
  · exact ⟨haccepted, .inl hcert⟩
  · exact ⟨haccepted, .inr hkey⟩

omit [Host σ τ] in
/-- No two files of the certificates have one path. -/
theorem nodup_paths : (e.certificates.flatMap fun x => [x.2.certPath, x.2.keyPath]).Nodup := by
  have hpairs : e.certificates.Pairwise fun x y => x.1 ≠ y.1 := List.pairwise_map.mp h.nodup
  refine List.nodup_flatMap.mpr ⟨fun x hx => ?_, ?_⟩
  · obtain ⟨haccepted, hcert, hkey⟩ := h.paths x hx
    have hne := Certificate.certPathFor_ne_keyPathFor haccepted e.tlsDirectory
    simp only [List.nodup_cons, List.mem_singleton, hcert, hkey]
    exact ⟨hne, by simp⟩
  · refine hpairs.imp_of_mem fun hx hy hne p hp hp' => ?_
    exact (h.isOwn hx hp).ne (h.isOwn hy hp') hne rfl

/-- What stands at the path of a certificate is there after another call, which may be for its own host name. -/
theorem entryAt?_of_call {x : String × Certificate} (hx : x ∈ e.certificates) {path : Path}
    (hpath : path ∈ [x.2.certPath, x.2.keyPath]) (w : World σ τ) {l : Location} {entry : Entry}
    (hlook : w.files.look path = .ok (l, entry)) (hostname : String) (options : Certificate.Options) :
    After (issueCertificate hostname options) (w, e) fun _ s => s.1.files.entryAt? l = some entry := by
  obtain ⟨hplace, hentry⟩ := FileTree.look_eq_ok hlook
  by_cases hown : hostname = x.1
  · have hsome : e.certificates ≠ [] := List.ne_nil_of_mem hx
    obtain ⟨known, hknown⟩ : ∃ known, e.certificates.get? hostname = some known := by
      refine Option.ne_none_iff_exists'.mp fun hnone => ?_
      have hfresh := Dictionary.get?_eq_none_iff.mp hnone
      exact hfresh (hown ▸ List.mem_map_of_mem hx)
    unfold After
    rw [issueCertificate_of_known options w (h.inUse hsome) hknown]
    exact hentry
  · have hspared := keeps_issueCertificate_spares hown (s := (w, e)) (h.isOwn hx hpath) hplace options
    exact hspared.mono fun _ s hs => (hs rfl).2 entry hentry

end Ledger

/-- **The certificates of an environment.** After any calls on an environment without certificates, it has
the certificates of those calls that succeeded, at most one for each host name, at the paths for the host name
in its directory, and no two files have one path. A further call for a host name with a certificate is refused
as a conflict before anything is asked or written. No call changes or deletes a file of a certificate that is
there. -/
theorem certificates_of_calls {e₀ e : Environment τ} (hnew : e₀.certificates = []) {calls : List (Call τ)}
    (h : Calls σ e₀ calls e) :
    ((calls.filterMap Call.issued?).map (·.1)).Nodup ∧
    e.certificates = calls.filterMap Call.issued? ∧
    (∀ x ∈ e.certificates, x.2.certPath = Certificate.certPathFor e₀.tlsDirectory x.1 ∧
      x.2.keyPath = Certificate.keyPathFor e₀.tlsDirectory x.1) ∧
    (e.certificates.flatMap fun x => [x.2.certPath, x.2.keyPath]).Nodup ∧
    ∀ (w : World σ τ) (hostname : String) (options : Certificate.Options),
      (∀ known, e.certificates.get? hostname = some known → issueCertificate hostname options (w, e) =
        .error (.certificate (.conflict hostname known.certPath.toString)) (w, e)) ∧
      ∀ x ∈ e.certificates, ∀ path ∈ [x.2.certPath, x.2.keyPath], ∀ l entry,
        w.files.look path = .ok (l, entry) →
          After (issueCertificate hostname options) (w, e) fun _ s => s.1.files.entryAt? l = some entry := by
  have hledger : Ledger e₀ calls e := ledger_of_calls hnew h
  have htls : e.tlsDirectory = e₀.tlsDirectory := by simp only [tlsDirectory, hledger.scratch]
  have hnodup : ((calls.filterMap Call.issued?).map (·.1)).Nodup := hledger.issued ▸ hledger.nodup
  refine ⟨hnodup, hledger.issued, fun x hx => ?_, hledger.nodup_paths, fun w hostname options => ⟨?_, ?_⟩⟩
  · exact htls ▸ (hledger.paths x hx).2
  · intro known hknown
    have hsome : e.certificates ≠ [] := by
      intro hnone
      rw [hnone] at hknown
      cases hknown
    exact issueCertificate_of_known options w (hledger.inUse hsome) hknown
  · intro x hx path hpath l entry hlook
    exact hledger.entryAt?_of_call hx hpath w hlook hostname options

/-- A program that writes a key and a certificate. -/
def issuing : (r : Request Rat) → Except (Fault Rat) r.Answer
  | .run _ => .ok ⟨some [1], some [2], .done⟩
  | .file _ _ => .ok ()
  | _ => .error (.foreign (.plain (.docker .notFound) "No such container"))

def vacant : Environment Rat :=
  { create "e1" .standard none with state := .ready, scratch := some ⟨.here, ["e1"]⟩ }

/-- A certificate is issued, and its host name is refused the next time. -/
theorem certificates_of_calls_once : vacant.certificates = [] ∧
    ∃ (c : Certificate) (w : World (Constant issuing) Rat) (e : Environment Rat),
      Calls (Constant issuing) vacant [⟨"app.test", .ok c⟩] e ∧ e.certificates = [("app.test", c)] ∧
      w.files.look c.keyPath = .ok (["e1", "ssl", "private", "app.test.key"], .file [1] 0o600) ∧
      issueCertificate "app.test" .usual (w, e) =
        .error (.certificate (.conflict "app.test" "e1/ssl/certs/app.test.crt")) (w, e) := by
  have hnew : vacant.certificates = [] := rfl
  have hissued : After (issueCertificate "app.test" .usual) (Constant.begin, vacant)
      fun r (s : World (Constant issuing) Rat × Environment Rat) => ∃ c ∈ r.toOption,
        c.certPath.toString = "e1/ssl/certs/app.test.crt" ∧ s.2.certificates.get? "app.test" = some c ∧
          s.1.files.look c.keyPath = .ok (["e1", "ssl", "private", "app.test.key"], .file [1] 0o600) := by
    decide +kernel
  obtain ⟨r, s, hrun, c, hc, hpath, hknown, hlook⟩ := hissued.exists_attempt
  obtain rfl : r = .ok c := by
    cases r with
    | ok c' => exact congrArg Except.ok (Option.some.inj hc)
    | error fault => cases hc
  have hcalls : Calls (Constant issuing) vacant ([] ++ [⟨"app.test", .ok c⟩]) s.2 := .more _ s.1 .none hrun
  obtain ⟨-, hissued, -, -, hnext⟩ := certificates_of_calls hnew hcalls
  refine ⟨hnew, c, s.1, s.2, hcalls, hissued, hlook, ?_⟩
  rw [(hnext s.1 "app.test" .usual).1 c hknown, hpath]

end ProxyTestbed.Environment
