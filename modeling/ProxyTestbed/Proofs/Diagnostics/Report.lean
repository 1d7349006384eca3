import ProxyTestbed.Diagnostics
import ProxyTestbed.Proofs.Act.Outcome
import ProxyTestbed.Proofs.Environment.Evidence
import ProxyTestbed.Proofs.Text.Pieces
import ProxyTestbed.Proofs.Wait.Constant

/-!
# What a report shows

A report has a heading, one entry for each backend, one section for each fragment of the configuration, and the logs
of the proxy. An entry shows the host names that the backend declares, so there is a report only if all declarations
of all backends can be read: the first one that cannot takes everything with it, before any evidence is asked for.

* `linesOf_intercalate`: the lines of texts with line feeds between them.
* `Shows.isPlain_iff`: when the entry of a backend is one line.
* `promised_rendered_iff`: when what is put together shows all that a report promises.
* `settles_collect`, `after_collect`: how a report comes about, and what is put together in it.
* `collect_promised_iff`: exactly when there is a report, when it shows all that it promises, and what comes
  instead of it.
-/

namespace ProxyTestbed

variable {σ τ : Type}

/-! ## Lines of texts -/

/-- The lines of a text, between its line feeds. -/
def linesOf (s : String) : List (List Char) :=
  Text.splitOn '\n' s.toList

theorem linesOf_intercalate {parts : List String} (h : parts ≠ []) :
    linesOf ("\n".intercalate parts) = parts.flatMap linesOf := by
  induction parts with
  | nil => exact absurd rfl h
  | cons part parts ih =>
    by_cases hparts : parts = []
    · simp [hparts]
    · have hfeed (r : String) : (part ++ "\n" ++ r).toList = part.toList ++ '\n' :: r.toList := by simp
      rw [String.intercalate_cons_of_ne_nil hparts, linesOf, hfeed, Text.splitOn_append_cons, List.flatMap_cons,
        ← ih hparts]
      rfl

/-- Each text is one line if and only if none holds a line feed. -/
theorem flatMap_linesOf_eq_iff {parts : List String} :
    parts.flatMap linesOf = parts.map String.toList ↔ ∀ part ∈ parts, '\n' ∉ part.toList := by
  constructor
  · intro h part hpart
    have hline : part.toList ∈ parts.flatMap linesOf := by
      rw [h]
      exact List.mem_map_of_mem hpart
    obtain ⟨part', _, hmem⟩ := List.mem_flatMap.mp hline
    exact Text.not_mem_of_mem_splitOn hmem
  · intro h
    induction parts with
    | nil => rfl
    | cons part parts ih =>
      obtain ⟨hpart, hparts⟩ := List.forall_mem_cons.mp h
      rw [List.flatMap_cons, List.map_cons, ih hparts, linesOf, Text.splitOn_of_not_mem hpart]
      rfl

theorem not_mem_intercalate_iff {c : Char} {sep : String} (hsep : c ∉ sep.toList) {parts : List String} :
    c ∉ (sep.intercalate parts).toList ↔ ∀ part ∈ parts, c ∉ part.toList := by
  induction parts with
  | nil => simp
  | cons part parts ih =>
    by_cases hparts : parts = []
    · simp [hparts]
    · rw [String.intercalate_cons_of_ne_nil hparts, String.toList_append, String.toList_append, List.mem_append,
        List.mem_append, not_or, not_or, ih, List.forall_mem_cons]
      simp [hsep]

/-! ## Backends -/

section

variable [Seconds τ] {b : Backend τ}

/-- All virtual hosts that the backend declares can be read. -/
def Backend.IsLegible (b : Backend τ) : Prop :=
  ∀ value ∈ Variables.declared Variables.virtualHostWord b.env, ∃ rule, VirtualHost.read value = .ok rule

/-- Nothing that is shown of the backend holds a line feed. -/
structure Backend.IsPlain (b : Backend τ) : Prop where
  name : '\n' ∉ b.name.toList
  ip : '\n' ∉ b.ip.shown.toList
  hostnames : ∀ names, b.hostnames = .ok names → ∀ name ∈ names, '\n' ∉ name.toList

theorem Backend.isLegible_iff : b.IsLegible ↔ ∃ names, b.hostnames = .ok names := by
  unfold Backend.IsLegible Backend.hostnames Backend.rules Variables.virtualHosts
  rw [← exists_mapM_eq_ok_iff]
  constructor
  · intro h
    obtain ⟨rules, hrules⟩ := h
    exact ⟨_, map_eq_ok_iff.mpr ⟨rules, hrules, rfl⟩⟩
  · intro h
    obtain ⟨names, hnames⟩ := h
    obtain ⟨rules, hrules, _⟩ := map_eq_ok_iff.mp hnames
    exact ⟨rules, hrules⟩

end

namespace Diagnostics

variable [Seconds τ]

/-! ## Entries -/

/-- The host names of a backend in a report. -/
def shownNames (names : List String) : String :=
  if names.isEmpty then "-" else ", ".intercalate names

/-- The entry of a backend in a report. -/
def entryOf (b : Backend τ) (names : List String) : String :=
  s!"  {b.name} [{b.state.word}] ip={b.ip.shown} hosts={shownNames names}"

/-- The entry shows the backend, with the host names that it declares. -/
def Shows (b : Backend τ) (entry : String) : Prop :=
  ∃ names, b.hostnames = .ok names ∧ entry = entryOf b names

theorem backendLine_eq_ok_iff {b : Backend τ} {entry : String} : backendLine b = .ok entry ↔ Shows b entry := by
  unfold backendLine
  rw [map_eq_ok_iff]
  exact exists_congr fun names => and_congr_right fun _ => eq_comm

theorem exists_backendLine_iff {b : Backend τ} : (∃ entry, backendLine b = .ok entry) ↔ b.IsLegible := by
  simp only [backendLine_eq_ok_iff, Shows, Backend.isLegible_iff]
  exact ⟨fun ⟨_, names, h, _⟩ => ⟨names, h⟩, fun ⟨names, h⟩ => ⟨_, names, h, rfl⟩⟩

theorem backendLine_eq_error_iff {b : Backend τ} {fault : DeclarationFault} :
    backendLine b = .error fault ↔ b.hostnames = .error fault :=
  map_eq_error_iff

theorem not_mem_word (state : BackendState) : '\n' ∉ state.word.toList := by
  cases state <;> decide

theorem not_mem_shownNames_iff {names : List String} :
    '\n' ∉ (shownNames names).toList ↔ ∀ name ∈ names, '\n' ∉ name.toList := by
  unfold shownNames
  by_cases hnames : names = []
  · simp [hnames]
  · rw [if_neg (by simpa using hnames), not_mem_intercalate_iff (by decide)]

/-- The entry of a backend is one line if and only if nothing that it shows holds a line feed. -/
theorem Shows.isPlain_iff {b : Backend τ} {entry : String} (hshows : Shows b entry) :
    '\n' ∉ entry.toList ↔ b.IsPlain := by
  obtain ⟨names, h, rfl⟩ := hshows
  have hnames : b.IsPlain ↔
      '\n' ∉ b.name.toList ∧ '\n' ∉ b.ip.shown.toList ∧ ∀ name ∈ names, '\n' ∉ name.toList := by
    constructor
    · intro hplain
      exact ⟨hplain.name, hplain.ip, hplain.hostnames names h⟩
    · intro hshown
      obtain ⟨hname, hip, hhosts⟩ := hshown
      refine ⟨hname, hip, fun names' h' => ?_⟩
      rw [h] at h'
      cases h'
      exact hhosts
  rw [hnames, ← not_mem_shownNames_iff]
  have hword := not_mem_word b.state
  simp [entryOf, hword, ToString.toString]

theorem mapM_backendLine_eq_ok_iff {backends : List (Backend τ)} {entries : List String} :
    backends.mapM backendLine = .ok entries ↔ List.Forall₂ Shows backends entries := by
  simp only [mapM_eq_ok_iff, backendLine_eq_ok_iff]

theorem isPlain_of_entries_iff {backends : List (Backend τ)} {entries : List String}
    (h : List.Forall₂ Shows backends entries) :
    (∀ entry ∈ entries, '\n' ∉ entry.toList) ↔ ∀ b ∈ backends, b.IsPlain := by
  induction h with
  | nil => simp
  | cons hshows _ ih => rw [List.forall_mem_cons, List.forall_mem_cons, hshows.isPlain_iff, ih]

/-! ## The parts of a report -/

/-- The backends that a report is about: all of the environment if none are given. -/
def about (e : Environment τ) (backends : List (Backend τ)) : List (Backend τ) :=
  if backends.isEmpty then e.backends else backends

/-- What stands above the entries, if there are any. -/
def title (entries : List String) : List String :=
  if entries.isEmpty then [] else ["backends:"]

/-- What stands before the entries. -/
def heading (e : Environment τ) (entries : List String) : List String :=
  environmentLines e ++ title entries

def logSection (logs : String) : String :=
  s!"--- proxy log (last {logLines} lines) ---\n{withoutFinalBlanks logs}"

/-- What stands behind the entries. -/
def evidence (fragments : Dictionary String) (logs : String) : List String :=
  fragmentSections fragments ++ [logSection logs]

/-- A report of these entries, fragments and logs. -/
def rendered (e : Environment τ) (entries : List String) (fragments : Dictionary String) (logs : String) : String :=
  "\n".intercalate (heading e entries ++ entries ++ evidence fragments logs)

theorem backendLines_eq (backends : List (Backend τ)) :
    backendLines backends = (backends.mapM backendLine).map fun entries => title entries ++ entries := by
  unfold backendLines
  by_cases hbackends : backends = []
  · rw [if_pos (by simp [hbackends]), hbackends]
    rfl
  · rw [if_neg (by simpa using hbackends)]
    cases hentries : backends.mapM backendLine with
    | error fault => rfl
    | ok entries =>
      have hlength := (mapM_eq_ok_iff.mp hentries).length_eq
      cases entries with
      | nil => exact absurd (List.eq_nil_of_length_eq_zero hlength) hbackends
      | cons entry entries => rfl

/-- Evidence without fragments does not begin as evidence with fragments does. -/
theorem evidence_nil_ne (f : String × String) (fragments : Dictionary String) (logs logs' : String) :
    "\n".intercalate (evidence [] logs) ≠ "\n".intercalate (evidence (f :: fragments) logs') := by
  intro h
  have hempty : ∃ r, "\n".intercalate (evidence [] logs) = "--- conf.d " ++ r := by
    have hhead : evidence [] logs = ("--- conf.d " ++ "is empty ---") :: [logSection logs] := rfl
    rw [hhead]
    exact ⟨_, String.intercalate_cons_append⟩
  have hfull : ∃ r, "\n".intercalate (evidence (f :: fragments) logs') = "--- conf.d/" ++ r := by
    have hhead : fragmentSection f.1 f.2 = "--- conf.d/" ++ (f.1 ++ " ---\n" ++ withoutFinalBlanks f.2) := by
      simp [fragmentSection, String.append_assoc, ToString.toString]
    -- the name of a fragment comes behind a slash, where the other text goes on with a blank
    have hfirst : evidence (f :: fragments) logs' =
        fragmentSection f.1 f.2 :: (fragments.map (fun g => fragmentSection g.1 g.2) ++ [logSection logs']) := rfl
    rw [hfirst, hhead]
    exact ⟨_, String.intercalate_cons_append⟩
  obtain ⟨r, hr⟩ := hempty
  obtain ⟨r', hr'⟩ := hfull
  rw [hr, hr'] at h
  have hlists := congrArg String.toList h
  rw [String.toList_append, String.toList_append] at hlists
  exact absurd (List.append_inj_left hlists (by decide)) (by decide)

theorem rendered_nil_ne (e : Environment τ) (entries : List String) {fragments : Dictionary String}
    (h : fragments ≠ []) (logs logs' : String) :
    rendered e entries [] logs ≠ rendered e entries fragments logs' := by
  obtain ⟨f, fragments, rfl⟩ := List.exists_cons_of_ne_nil h
  have hfront : heading e entries ++ entries ≠ [] := by simp [heading, environmentLines]
  have hback (fragments : Dictionary String) (logs : String) : evidence fragments logs ≠ [] := by simp [evidence]
  intro hsame
  unfold rendered at hsame
  rw [String.intercalate_append_of_ne_nil hfront (hback _ _), String.intercalate_append_of_ne_nil hfront (hback _ _)]
    at hsame
  exact evidence_nil_ne f fragments logs logs' ((String.append_right_inj _).mp hsame)

/-! ## What is promised -/

/-- In the report, every backend has one line, in their order, between the lines of the heading and those of the
evidence, and every fragment has a section, in the order of their names; it says so if there is none. -/
def Promised (e : Environment τ) (backends : List (Backend τ)) (t : FileTree) (report : String) : Prop :=
  ∃ entries fragments logs, List.Forall₂ Shows backends entries ∧ e.Fragments t fragments ∧
    report = rendered e entries fragments logs ∧
      linesOf report =
        (heading e entries).flatMap linesOf ++ entries.map String.toList ++ (evidence fragments logs).flatMap linesOf

theorem linesOf_rendered (e : Environment τ) (entries : List String) (fragments : Dictionary String) (logs : String) :
    linesOf (rendered e entries fragments logs) =
      (heading e entries).flatMap linesOf ++ entries.flatMap linesOf ++ (evidence fragments logs).flatMap linesOf := by
  rw [rendered, linesOf_intercalate (by simp [evidence]), List.flatMap_append, List.flatMap_append]

/-- A report without fragments is not taken for one with fragments. -/
theorem promised_rendered_iff {e : Environment τ} {backends : List (Backend τ)} {t : FileTree}
    {entries : List String} {fragments : Dictionary String} (hentries : List.Forall₂ Shows backends entries)
    (hfragments : e.Fragments t fragments ∨ fragments = []) (logs : String) :
    Promised e backends t (rendered e entries fragments logs) ↔
      (∀ b ∈ backends, b.IsPlain) ∧ e.Fragments t fragments := by
  rw [← isPlain_of_entries_iff hentries, ← flatMap_linesOf_eq_iff]
  constructor
  · intro h
    obtain ⟨entries', fragments', logs', hentries', hall, hsame, hlines⟩ := h
    -- the backends tell their entries
    have hagree : Except.ok (ε := DeclarationFault) entries = .ok entries' :=
      (mapM_backendLine_eq_ok_iff.mpr hentries).symm.trans (mapM_backendLine_eq_ok_iff.mpr hentries')
    cases hagree
    rw [hsame, linesOf_rendered] at hlines
    refine ⟨List.append_cancel_left (List.append_cancel_right hlines), ?_⟩
    rcases hfragments with hfragments | rfl
    · exact hfragments
    -- the report says that there are none, so other fragments would show
    · by_cases hnone : fragments' = []
      · exact hnone ▸ hall
      · exact absurd hsame (rendered_nil_ne e entries hnone logs logs')
  · intro h
    obtain ⟨hplain, hall⟩ := h
    exact ⟨entries, fragments, logs, hentries, hall, rfl, by rw [linesOf_rendered, hplain]⟩

/-! ## How a report comes about -/

variable [Host σ τ]

/-- The entries come first; only then the evidence is looked for. -/
theorem collect_eq (e : Environment τ) (backends : List (Backend τ)) :
    (collect e backends : Act σ τ String) =
      match (about e backends).mapM backendLine with
      | .error fault => throw (.declaration fault)
      | .ok entries => do
        let fragments ← e.generatedConfig
        let logs ← e.proxyLogs (.lines logLines)
        return rendered e entries fragments logs := by
  have hlines : backendLines (if backends.isEmpty then e.backends else backends) = _ :=
    backendLines_eq (about e backends)
  unfold collect
  simp only [hlines]
  cases (about e backends).mapM backendLine with
  | error fault => rfl
  | ok entries =>
    simp only [rendered, heading, evidence, ← List.append_assoc]
    simp only [Except.map]
    rfl

theorem settles_collect {e : Environment τ} {backends : List (Backend τ)} {entries : List String} {t : FileTree}
    (ht : t.Distinct) (hentries : (about e backends).mapM backendLine = .ok entries) :
    Settles (Bears t) t (collect e backends : Act σ τ String) := by
  rw [collect_eq, hentries]
  exact (e.settles_generatedConfig ht).bind fun fragments => (e.settles_proxyLogs _).bind fun logs => .pure _

/-- A report is put together from the entries, the logs, and all fragments unless there are some that are not
listed. Nothing is asked for but this evidence. -/
theorem after_collect {e : Environment τ} {backends : List (Backend τ)} {entries : List String} {w : World σ τ}
    {t : FileTree} (ht : t.Distinct) (hw : w.files = t)
    (hentries : (about e backends).mapM backendLine = .ok entries) :
    After (collect e backends) w fun r w' => Asks (fun r _ => e.Seeks t r) w w' ∧
      ∀ report, r = .ok report → ∃ fragments logs, report = rendered e entries fragments logs ∧
        (e.Fragments t fragments ↔ Asks (e.Lists t) w w') ∧ (e.Fragments t fragments ∨ fragments = []) := by
  rw [collect_eq, hentries]
  have hgenerated := ((e.settles_generatedConfig ht w hw).and (e.after_generatedConfig ht hw)).and
    (e.after_generatedConfig_seeks ht hw)
  refine after_bind hgenerated ?_ fun fault w₁ hpost => ⟨hpost.2, by simp⟩
  intro fragments w₁ hpost
  obtain ⟨⟨⟨hfiles, hpast, _⟩, hfound⟩, hseeks⟩ := hpost
  obtain ⟨hall, hor⟩ := hfound fragments rfl
  -- the logs ask for no names, so which fragments are told of is settled by now
  have hlists : Keeps (Asks (e.Lists t)) (e.proxyLogs (.lines logLines) : Act σ τ String) :=
    Environment.keeps_proxyLogs fun _ _ _ => trivial
  have hseeks' : Keeps (Asks fun r _ => e.Seeks t r) (e.proxyLogs (.lines logLines) : Act σ τ String) :=
    Environment.keeps_proxyLogs fun _ _ hproxy => hproxy
  have hlogs := ((e.settles_proxyLogs (.lines logLines) w₁ hfiles).and (hlists w₁)).and (hseeks' w₁)
  refine after_bind hlogs ?_ fun fault w₂ hpost => ⟨trans_of (Asks _) hseeks hpost.2, by simp⟩
  intro logs w₂ hpost
  obtain ⟨⟨⟨_, hpast', _⟩, hasks⟩, hasks'⟩ := hpost
  refine ⟨trans_of (Asks _) hseeks hasks', fun report hreport => ?_⟩
  cases hreport
  refine ⟨fragments, logs, rfl, ?_, hor⟩
  rw [hall, Asks.split hpast hpast']
  exact (and_iff_left hasks).symm

theorem forall_isLegible_iff {backends : List (Backend τ)} :
    (∀ b ∈ backends, b.IsLegible) ↔ ∃ entries, backends.mapM backendLine = .ok entries := by
  simp only [exists_mapM_eq_ok_iff, exists_backendLine_iff]

/-- When there is a report, and when it shows what it promises. -/
theorem after_collect_iff (e : Environment τ) (backends : List (Backend τ)) {w : World σ τ} (hw : w.files.Distinct) :
    After (collect e backends) w fun r w' =>
      Asks (fun r _ => e.Seeks w.files r) w w' ∧
      ((∃ report, r = .ok report) ↔ (∀ b ∈ about e backends, b.IsLegible) ∧ Asks (Bears w.files) w w') ∧
      ∀ report, r = .ok report → (Promised e (about e backends) w.files report ↔
        (∀ b ∈ about e backends, b.IsPlain) ∧ Asks (e.Lists w.files) w w') := by
  cases hentries : (about e backends).mapM backendLine with
  | error fault =>
    have hnot : ¬ ∀ b ∈ about e backends, b.IsLegible := by
      rw [forall_isLegible_iff, hentries]
      simp
    rw [collect_eq, hentries]
    exact after_throw ⟨refl_of (Asks _) w, by simp [hnot], by simp⟩
  | ok entries =>
    refine ((settles_collect hw hentries w rfl).and (after_collect hw rfl hentries)).mono ?_
    intro r w' hpost
    obtain ⟨⟨_, _, hreport⟩, hseeks, hrendered⟩ := hpost
    refine ⟨hseeks, hreport.trans (and_iff_right (forall_isLegible_iff.mpr ⟨entries, hentries⟩)).symm, ?_⟩
    intro report hr
    obtain ⟨fragments, logs, rfl, hall, hor⟩ := hrendered report hr
    rw [promised_rendered_iff (mapM_backendLine_eq_ok_iff.mp hentries) hor, hall]

/-- The first backend with a declaration that cannot be read ends a report before anything is asked for. -/
theorem after_collect_fault (e : Environment τ) (backends : List (Backend τ)) (w : World σ τ) :
    After (collect e backends) w fun r w' => ∀ before b after fault, about e backends = before ++ b :: after →
      (∀ x ∈ before, x.IsLegible) → b.hostnames = .error fault → r = .error (.declaration fault) ∧ w' = w := by
  have hfirst {before b after fault} (hbackends : about e backends = before ++ b :: after)
      (hbefore : ∀ x ∈ before, x.IsLegible) (hfault : b.hostnames = .error fault) :
      (about e backends).mapM backendLine = .error fault := by
    refine mapM_eq_error_iff.mpr ⟨before, b, after, hbackends, fun x hx => ?_, backendLine_eq_error_iff.mpr hfault⟩
    exact exists_backendLine_iff.mpr (hbefore x hx)
  cases hentries : (about e backends).mapM backendLine with
  | error fault =>
    rw [hentries] at hfirst
    rw [collect_eq, hentries]
    refine after_throw ?_
    intro before b after fault' hbackends hbefore hfault
    cases hfirst hbackends hbefore hfault
    exact ⟨rfl, rfl⟩
  | ok entries =>
    refine after_trivial.mono fun r w' _ => ?_
    intro before b after fault hbackends hbefore hfault
    rw [hfirst hbackends hbefore hfault] at hentries
    cases hentries

/-- There is a report if and only if all declarations of all backends can be read and all requests for evidence are
borne, and it shows what it promises if and only if nothing that it shows of a backend holds a line feed and no
fragment stays unlisted. On a host that grants operations on files, with a daemon that may refuse the logs, both
depend on the backends and the fragments alone. A declaration that cannot be read ends the report before anything is
asked for. -/
theorem collect_promised_iff (e : Environment τ) (backends : List (Backend τ)) {w : World σ τ}
    (hw : w.files.Distinct) :
    After (collect e backends) w fun r w' =>
      ((∃ report, r = .ok report) ↔ (∀ b ∈ about e backends, b.IsLegible) ∧ Asks (Bears w.files) w w') ∧
      (∀ report, r = .ok report → (Promised e (about e backends) w.files report ↔
        (∀ b ∈ about e backends, b.IsPlain) ∧ Asks (e.Lists w.files) w w')) ∧
      (Asks Allows w w' → ((∃ report, r = .ok report ∧ Promised e (about e backends) w.files report) ↔
        (∀ b ∈ about e backends, b.IsLegible ∧ b.IsPlain) ∧
          ∀ name, e.HasFragment w.files name → e.HasText w.files name)) ∧
      ∀ before b after fault, about e backends = before ++ b :: after → (∀ x ∈ before, x.IsLegible) →
        b.hostnames = .error fault → r = .error (.declaration fault) ∧ w' = w := by
  refine ((after_collect_iff e backends hw).and (after_collect_fault e backends w)).mono ?_
  intro r w' hpost
  obtain ⟨⟨hseeks, hreport, hpromised⟩, hfault⟩ := hpost
  refine ⟨hreport, hpromised, fun hallows => ⟨fun h => ?_, fun h => ?_⟩, hfault⟩
  · obtain ⟨report, hr, hkept⟩ := h
    have hlegible := (hreport.mp ⟨report, hr⟩).1
    have hplain := ((hpromised report hr).mp hkept).1
    obtain ⟨_, _, _, _, hall, _⟩ := hkept
    exact ⟨fun b hb => ⟨hlegible b hb, hplain b hb⟩, fun name hname => hall.hasText hname⟩
  · obtain ⟨hbackends, htexts⟩ := h
    have hbears : Asks (Bears w.files) w w' :=
      (hseeks.and hallows).mono fun r a h => Environment.bears_of_allows htexts h.1 h.2
    have hlists : Asks (e.Lists w.files) w w' := hallows.mono fun r a h => Environment.lists_of_allows h
    obtain ⟨report, hr⟩ := hreport.mpr ⟨fun b hb => (hbackends b hb).1, hbears⟩
    exact ⟨report, hr, (hpromised report hr).mpr ⟨fun b hb => (hbackends b hb).2, hlists⟩⟩

/-- A daemon that knows no container, on a host that grants every operation on a file. -/
def forgetful : (r : Request Rat) → Except (Fault Rat) r.Answer
  | .file _ _ => .ok ()
  | _ => .error (.foreign (.plain (.docker .notFound) "No such container"))

/-- A backend that is removed, with one virtual host. -/
def declaring (host : String) : Backend Rat where
  container := ⟨1, "e1-backend-00000001"⟩
  name := "e1-backend-00000001"
  environmentId := "e1"
  network := "e1-net"
  image := "nginx:alpine"
  env := [(Variables.virtualHostWord, host)]
  exposedPort := "80/tcp"
  address := "localhost"
  policy := .brief
  connectTimeout := 1
  state := .removed
  ip := .null
  hostPort := none

/-- An environment after its release: its directory is gone, and its proxy too. -/
def gone : Environment Rat :=
  { Environment.create "e1" .standard none with
    state := .destroyed
    proxy := some ⟨0, "e1-proxy"⟩
    scratch := some ⟨.here, ["e1"]⟩
    backends := [declaring "app.test"] }

/-- After the release of an environment there still is a report on it, until a backend declares a port that is
none. -/
theorem collect_promised_iff_badPort :
    After (collect gone []) (Constant.begin : World (Constant forgetful) Rat) (fun r _ => ∃ report, r = .ok report ∧
      Promised gone [declaring "app.test"] (Constant.begin : World (Constant forgetful) Rat).files report) ∧
    After (collect gone [declaring "app.test", declaring "app.test:http"])
      (Constant.begin : World (Constant forgetful) Rat) fun r w' =>
        r = .error (.declaration (.rejected (.badPort "app.test:http"))) ∧
          w' = (Constant.begin : World (Constant forgetful) Rat) := by
  have hdistinct : (Constant.begin : World (Constant forgetful) Rat).files.Distinct := by decide
  have hhosts : (declaring "app.test").hostnames = .ok ["app.test"] := by decide +kernel
  have hnone : ∀ name, ¬ gone.HasFragment (Constant.begin : World (Constant forgetful) Rat).files name := by
    intro name h
    obtain ⟨directory, hdirectory, l, entry, hlook, _⟩ := h
    cases hdirectory
    cases hlook
  constructor
  · have hreport : After (collect gone []) (Constant.begin : World (Constant forgetful) Rat) fun r w' =>
        r.isOk = true := by
      decide +kernel
    refine (hreport.and (collect_promised_iff gone [] hdistinct)).mono ?_
    intro r w' hpost
    obtain ⟨hok, hiff, hpromised, _⟩ := hpost
    obtain ⟨report, rfl⟩ : ∃ report, r = .ok report := by
      cases r with
      | ok report => exact ⟨report, rfl⟩
      | error fault => cases hok
    refine ⟨report, rfl, (hpromised report rfl).mpr ⟨?_, (hiff.mp ⟨report, rfl⟩).2.mono fun r a _ => ?_⟩⟩
    · intro b hb
      cases List.mem_singleton.mp hb
      refine ⟨by decide, by decide, fun names hnames => ?_⟩
      cases hhosts.symm.trans hnames
      decide
    · exact Environment.lists_of_none hnone r a
  · refine (collect_promised_iff gone [declaring "app.test", declaring "app.test:http"] hdistinct).mono ?_
    intro r w' hpost
    refine hpost.2.2.2 [declaring "app.test"] (declaring "app.test:http") [] _ rfl ?_ (by decide +kernel)
    intro b hb
    cases List.mem_singleton.mp hb
    exact Backend.isLegible_iff.mpr ⟨_, hhosts⟩

end Diagnostics

end ProxyTestbed
