import Mathlib
import ProxyTestbed.Proofs.Settings.Document

/-!
# Which value of a setting counts

A setting has the value of its variable; without one, the value in the file; without that, its standard value.
The problems of loading come in an order of their own: unknown names, then the values of the file, then the
variables. A bad value in the file is a problem even if a variable would count more.

* `brings_of_mapM`: the settings after the values of one place.
* `load_precedence`: what loading ends in, and that nothing else counts.
-/

namespace ProxyTestbed

namespace Setting

theorem mem_all (field : Setting) : field ∈ all := by
  cases field <;> decide

theorem nodup_all : all.Nodup := by
  decide

theorem ofName?_eq_some_iff {name : String} {field : Setting} : ofName? name = some field ↔ field.name = name := by
  constructor
  · intro h
    have hname := List.find?_some h
    exact beq_iff_eq.mp hname
  · rintro rfl
    cases field <;> decide

end Setting

theorem Dictionary.mem_of_get? {α : Type} {d : Dictionary α} {key : String} {value : α}
    (h : d.get? key = some value) : (key, value) ∈ d := by
  obtain ⟨e, hfound, rfl⟩ := Option.map_eq_some_iff.mp h
  have hkey := List.find?_some hfound
  obtain rfl : e.1 = key := beq_iff_eq.mp hkey
  exact List.mem_of_find?_eq_some hfound

namespace Settings

/-! ## Values of one place -/

/-- A value can be coerced for a setting that a report calls by `name`. -/
def Coerces (name : String) (field : Setting) (raw : Datum) (parts : Parts) : Prop :=
  ∃ value, coerce name field.kind raw parts = .ok value

theorem changeTo_eq_ok_iff {field : Setting} {name : String} {raw : Datum} {parts : Parts} {c : Change Float} :
    changeTo field name raw parts = .ok c ↔
      ∃ value, coerce name field.kind raw parts = .ok value ∧ c = ⟨field, value⟩ := by
  rw [changeTo, map_eq_ok_iff]
  simp only [eq_comm]

theorem apply_append (s : Settings Float) (cs cs' : List (Change Float)) :
    s.apply (cs ++ cs') = (s.apply cs).apply cs' :=
  List.foldl_append

/-- Each of the values becomes the value of its setting, and all other settings keep theirs. -/
def Brings (nameOf : Setting → String) (parts : Parts) (values : List (Setting × Datum))
    (changes : List (Change Float)) : Prop :=
  ∀ (s : Settings Float) (field : Setting),
    (∀ raw, (field, raw) ∈ values →
      coerce (nameOf field) field.kind raw parts = .ok ((s.apply changes).get field)) ∧
    (field ∉ values.map (·.1) → (s.apply changes).get field = s.get field)

theorem brings_of_mapM {nameOf : Setting → String} {parts : Parts} {values : List (Setting × Datum)}
    {changes : List (Change Float)}
    (hchanges : values.mapM (fun e => changeTo e.1 (nameOf e.1) e.2 parts) = .ok changes)
    (hnodup : (values.map (·.1)).Nodup) : Brings nameOf parts values changes := by
  have hall := mapM_eq_ok_iff.mp hchanges
  clear hchanges
  induction hall with
  | nil => exact fun s field => ⟨by simp, fun _ => rfl⟩
  | @cons e c values changes hc _ ih =>
    intro s field
    obtain ⟨hfresh, hrest⟩ := List.nodup_cons.mp hnodup
    obtain ⟨value, hvalue, rfl⟩ := changeTo_eq_ok_iff.mp hc
    obtain ⟨hmem, hother⟩ := ih hrest (s.set e.1 value) field
    refine ⟨fun raw hraw => ?_, fun hfield => ?_⟩
    · rcases List.mem_cons.mp hraw with rfl | hraw
      · -- no later value is for the same setting
        have hget := hother hfresh
        rw [get_set, dif_pos rfl] at hget
        calc coerce (nameOf field) field.kind raw parts = .ok value := hvalue
          _ = _ := congrArg Except.ok hget.symm
      · exact hmem raw hraw
    · obtain ⟨hne, hfield⟩ := not_or.mp (fun h => hfield (List.mem_cons.mpr h))
      have hget := hother hfield
      rw [get_set, dif_neg (Ne.symm hne)] at hget
      exact hget

/-- The first bad value of a place is the one that is reported. -/
theorem exists_bad_of_mapM {α : Type} {nameOf : Setting → String} {parts : Parts} {l : List α}
    {valueOf : α → Option (Setting × Datum)} {problem : LoadProblem}
    (h : (l.filterMap valueOf).mapM (fun e => changeTo e.1 (nameOf e.1) e.2 parts) = .error problem) :
    ∃ before a after field raw, l = before ++ a :: after ∧
      (∀ x ∈ before, ∀ field raw, valueOf x = some (field, raw) → Coerces (nameOf field) field raw parts) ∧
      valueOf a = some (field, raw) ∧ coerce (nameOf field) field.kind raw parts = .error problem := by
  obtain ⟨goods, ⟨field, raw⟩, rest, hsplit, hgoods, hbad⟩ := mapM_eq_error_iff.mp h
  obtain ⟨l₁, l₂, rfl, hl₁, hl₂⟩ := List.filterMap_eq_append_iff.mp hsplit
  obtain ⟨between, a, after, rfl, hbetween, ha, -⟩ := List.filterMap_eq_cons_iff.mp hl₂
  have hbefore : ∀ x ∈ l₁ ++ between, ∀ field raw, valueOf x = some (field, raw) →
      Coerces (nameOf field) field raw parts := by
    intro x hx field raw hvalue
    rcases List.mem_append.mp hx with hx | hx
    · have hgood : (field, raw) ∈ goods := hl₁ ▸ List.mem_filterMap.mpr ⟨x, hx, hvalue⟩
      obtain ⟨c, hc⟩ := hgoods _ hgood
      obtain ⟨value, hvalue, -⟩ := changeTo_eq_ok_iff.mp hc
      exact ⟨value, hvalue⟩
    · rw [hbetween x hx] at hvalue
      cases hvalue
  have hproblem : coerce (nameOf field) field.kind raw parts = .error problem :=
    map_eq_error_iff.mp hbad
  exact ⟨l₁ ++ between, a, after, field, raw, by simp, hbefore, ha, hproblem⟩

/-! ## The file and the variables -/

/-- The setting that a key of the file names, with its value there. -/
def fileValue (e : String × Datum) : Option (Setting × Datum) :=
  (Setting.ofName? e.1).map fun field => (field, e.2)

/-- The value of the variable for a setting; labels have none. -/
def override? (environ : Variables) (field : Setting) : Option Datum :=
  if field = .labels then none else (environ.get? (variableName field)).map .text

/-- A setting with the value of its variable. -/
def variableValue (environ : Variables) (field : Setting) : Option (Setting × Datum) :=
  (override? environ field).map fun raw => (field, raw)

theorem fileValue_eq_some_iff {e : String × Datum} {field : Setting} {raw : Datum} :
    fileValue e = some (field, raw) ↔ e = (field.name, raw) := by
  obtain ⟨key, value⟩ := e
  simp only [fileValue, Option.map_eq_some_iff, Setting.ofName?_eq_some_iff, Prod.mk.injEq]
  constructor
  · rintro ⟨_, rfl, rfl, rfl⟩
    exact ⟨rfl, rfl⟩
  · rintro ⟨rfl, rfl⟩
    exact ⟨field, rfl, rfl, rfl⟩

theorem variableValue_eq_some_iff {environ : Variables} {field field' : Setting} {raw : Datum} :
    variableValue environ field' = some (field, raw) ↔ field' = field ∧ override? environ field = some raw := by
  simp only [variableValue, Option.map_eq_some_iff, Prod.mk.injEq]
  constructor
  · rintro ⟨_, hraw, rfl, rfl⟩
    exact ⟨rfl, hraw⟩
  · rintro ⟨rfl, hraw⟩
    exact ⟨raw, hraw, rfl, rfl⟩

theorem ofVariables_eq (environ : Variables) : ofVariables environ =
    (Setting.all.filterMap (variableValue environ)).mapM fun e => changeTo e.1 (variableName e.1) e.2 [] := by
  have hvalues : Setting.all.filterMap (variableValue environ) =
      ((Setting.all.filter (· != .labels)).filterMap fun field =>
        (environ.get? (variableName field)).map fun value => (field, value)).map fun e => (e.1, Datum.text e.2) := by
    rw [List.filterMap_filter, List.map_filterMap]
    refine List.filterMap_congr fun field _ => ?_
    by_cases hlabels : field = .labels
    · simp [variableValue, override?, hlabels]
    · simp [variableValue, override?, hlabels, Function.comp_def]
  rw [hvalues, List.mapM_map]
  rfl

theorem nodup_fileValues {entries : Dictionary Datum} (h : (entries.map (·.1)).Nodup) :
    ((entries.filterMap fileValue).map (·.1)).Nodup := by
  refine List.pairwise_map.mpr (List.Pairwise.filterMap _ ?_ (List.pairwise_map.mp h))
  rintro e e' hne ⟨field, raw⟩ he ⟨field', raw'⟩ he' rfl
  rw [fileValue_eq_some_iff.mp he, fileValue_eq_some_iff.mp he'] at hne
  exact hne rfl

theorem nodup_variableValues (environ : Variables) :
    ((Setting.all.filterMap (variableValue environ)).map (·.1)).Nodup := by
  refine List.pairwise_map.mpr (List.Pairwise.filterMap _ ?_ Setting.nodup_all)
  rintro f f' hne ⟨field, raw⟩ hf ⟨field', raw'⟩ hf' rfl
  obtain ⟨rfl, -⟩ := variableValue_eq_some_iff.mp hf
  obtain ⟨rfl, -⟩ := variableValue_eq_some_iff.mp hf'
  exact hne rfl

/-! ## Loading -/

/-- The value that counts for a setting, of the value of its variable, that in the file, and the standard. -/
def Counts (entries : Dictionary Datum) (parts : Parts) (environ : Variables) (field : Setting)
    (value : field.kind.Value Float) : Prop :=
  match override? environ field, entries.get? field.name with
  | some raw, _ => coerce (variableName field) field.kind raw [] = .ok value
  | none, some raw => coerce field.name field.kind raw parts = .ok value
  | none, none => value = standard.get field

/-- What loading ends in, if the file that is called `file` has these entries. -/
inductive Loads (file : String) (entries : Dictionary Datum) (parts : Parts) (environ : Variables) :
    Except LoadProblem (Settings Float) → Prop
  /-- Some names are unknown, and all of them are reported in order. -/
  | unknown {names : List String} (h : unknown entries ≠ []) (hperm : names.Perm (unknown entries))
      (hsorted : names.Pairwise fun a b => ¬ b < a) :
      Loads file entries parts environ (.error (.refused (.unknown file names)))
  /-- The first bad value of the file. -/
  | badEntry {before after : Dictionary Datum} {field : Setting} {raw : Datum} {problem : LoadProblem}
      (hknown : unknown entries = []) (hentries : entries = before ++ (field.name, raw) :: after)
      (hbefore : ∀ field' raw', (field'.name, raw') ∈ before → Coerces field'.name field' raw' parts)
      (hbad : coerce field.name field.kind raw parts = .error problem) : Loads file entries parts environ (.error problem)
  /-- The first bad variable, in the order of the settings. -/
  | badVariable {before after : List Setting} {field : Setting} {raw : Datum} {problem : LoadProblem}
      (hknown : unknown entries = [])
      (hentries : ∀ field' raw', (field'.name, raw') ∈ entries → Coerces field'.name field' raw' parts)
      (hfields : Setting.all = before ++ field :: after)
      (hbefore : ∀ field' ∈ before, ∀ raw', override? environ field' = some raw' →
        Coerces (variableName field') field' raw' [])
      (hraw : override? environ field = some raw)
      (hbad : coerce (variableName field) field.kind raw [] = .error problem) :
      Loads file entries parts environ (.error problem)
  | loaded {s : Settings Float} (hknown : unknown entries = [])
      (hentries : ∀ field raw, (field.name, raw) ∈ entries → Coerces field.name field raw parts)
      (hvalues : ∀ field, Counts entries parts environ field (s.get field)) : Loads file entries parts environ (.ok s)

section

variable {parse : Parser} {read : Path → Except Foreign Bytes} {given : Option Path} {environ : Variables}
  {file : String} {entries : Dictionary Datum} {parts : Parts}

/-- Loading reads the document first, and then the variables. -/
theorem load_eq (h : Document parse read given environ file entries parts) : load parse read given environ =
    ((if unknown entries = [] then (entries.filterMap fileValue).mapM fun e => changeTo e.1 e.1.name e.2 parts
      else .error (.refused (.unknown file ((unknown entries).mergeSort fun a b => !decide (b < a))))) >>=
        fun fromFile => ofVariables environ >>= fun fromVariables =>
          .ok (standard.apply (fromFile ++ fromVariables))) := by
  cases h with
  | noFile hfile name =>
    rw [load, fileFor_iff.mp hfile]
    rfl
  | file hfile hread hparse hentries =>
    rw [load, fileFor_iff.mp hfile]
    simp only [hread, ofFile, hparse, ofData_of_holds hentries]
    rfl

omit parse read given file in
/-- The variables count after the file, and both after the standard. -/
theorem counts_apply {fromFile fromVariables : List (Change Float)}
    (hfile : Brings Setting.name parts (entries.filterMap fileValue) fromFile)
    (hvariables : Brings variableName [] (Setting.all.filterMap (variableValue environ)) fromVariables)
    (field : Setting) :
    Counts entries parts environ field ((standard.apply (fromFile ++ fromVariables)).get field) := by
  obtain ⟨hfileMem, hfileOther⟩ := hfile standard field
  obtain ⟨hvariableMem, hvariableOther⟩ := hvariables (standard.apply fromFile) field
  rw [apply_append]
  unfold Counts
  cases hoverride : override? environ field with
  | some raw =>
    have hvalue : (field, raw) ∈ Setting.all.filterMap (variableValue environ) :=
      List.mem_filterMap.mpr ⟨field, Setting.mem_all field, variableValue_eq_some_iff.mpr ⟨rfl, hoverride⟩⟩
    exact hvariableMem raw hvalue
  | none =>
    have hnone : field ∉ (Setting.all.filterMap (variableValue environ)).map (·.1) := by
      intro hmem
      obtain ⟨⟨field', raw⟩, hvalue, rfl⟩ := List.mem_map.mp hmem
      obtain ⟨f, -, hf⟩ := List.mem_filterMap.mp hvalue
      rw [(variableValue_eq_some_iff.mp hf).2] at hoverride
      cases hoverride
    rw [hvariableOther hnone]
    cases hentry : entries.get? field.name with
    | some raw =>
      have hvalue : (field, raw) ∈ entries.filterMap fileValue :=
        List.mem_filterMap.mpr ⟨_, Dictionary.mem_of_get? hentry, fileValue_eq_some_iff.mpr rfl⟩
      exact hfileMem raw hvalue
    | none =>
      have habsent : field ∉ (entries.filterMap fileValue).map (·.1) := by
        intro hmem
        obtain ⟨⟨field', raw⟩, hvalue, rfl⟩ := List.mem_map.mp hmem
        obtain ⟨e, he, hvalue⟩ := List.mem_filterMap.mp hvalue
        obtain rfl := fileValue_eq_some_iff.mp hvalue
        exact Dictionary.get?_eq_none_iff.mp hentry (List.mem_map_of_mem he)
      exact hfileOther habsent

theorem load_loads (h : Document parse read given environ file entries parts) :
    Loads file entries parts environ (load parse read given environ) := by
  rw [load_eq h]
  by_cases hknown : unknown entries = []
  · rw [if_pos hknown]
    cases hfile : (entries.filterMap fileValue).mapM fun e => changeTo e.1 e.1.name e.2 parts with
    | error problem =>
      obtain ⟨before, e, after, field, raw, hentries, hbefore, he, hbad⟩ := exists_bad_of_mapM hfile
      obtain rfl := fileValue_eq_some_iff.mp he
      exact .badEntry hknown hentries
        (fun field' raw' hmem => hbefore _ hmem field' raw' (fileValue_eq_some_iff.mpr rfl)) hbad
    | ok fromFile =>
      have hfromFile : Brings Setting.name parts (entries.filterMap fileValue) fromFile :=
        brings_of_mapM hfile (nodup_fileValues h.nodup_keys)
      have hentries : ∀ field raw, (field.name, raw) ∈ entries → Coerces field.name field raw parts := by
        intro field raw hmem
        have hvalue : (field, raw) ∈ entries.filterMap fileValue :=
          List.mem_filterMap.mpr ⟨_, hmem, fileValue_eq_some_iff.mpr rfl⟩
        exact ⟨_, (hfromFile standard field).1 raw hvalue⟩
      cases hvariables : ofVariables environ with
      | error problem =>
        rw [ofVariables_eq] at hvariables
        obtain ⟨before, field', after, field, raw, hfields, hbefore, hfield, hbad⟩ := exists_bad_of_mapM hvariables
        obtain ⟨rfl, hraw⟩ := variableValue_eq_some_iff.mp hfield
        exact .badVariable hknown hentries hfields (fun f hf raw' hraw' =>
          hbefore f hf f raw' (variableValue_eq_some_iff.mpr ⟨rfl, hraw'⟩)) hraw hbad
      | ok fromVariables =>
        rw [ofVariables_eq] at hvariables
        have hfromVariables := brings_of_mapM hvariables (nodup_variableValues environ)
        exact .loaded hknown hentries (counts_apply hfromFile hfromVariables)
  · rw [if_neg hknown]
    have hsorted := @List.pairwise_mergeSort String (fun a b => !decide (b < a)) (by grind) (by grind)
      (unknown entries)
    refine .unknown hknown (List.mergeSort_perm _ _) (hsorted.imp fun hle => ?_)
    simpa only [Bool.not_eq_true', decide_eq_false_iff_not] using hle

end

/-- **Which value of a setting counts.** However files are parsed, settings are loaded from the given file, else from
the one that a variable names with a text that is not empty, else from none. Unknown names in the file are reported,
all of them; else the first bad value of the file, in its order; else the first bad variable, in the order of the
settings. If there is none of these, each setting has the value of its variable, or else that of the file, or else its
standard value; labels have no variable. No other file and no other variable makes a difference. -/
theorem load_precedence {parse : Parser} {read : Path → Except Foreign Bytes} {given : Option Path}
    {environ : Variables} {file : String} {entries : Dictionary Datum} {parts : Parts}
    (h : Document parse read given environ file entries parts) :
    Loads file entries parts environ (load parse read given environ) ∧
    ∀ (read' : Path → Except Foreign Bytes) (environ' : Variables),
      (∀ path, FileFor environ given (some path) → read' path = read path) →
      environ'.get? fileVariable = environ.get? fileVariable →
      (∀ field, field ≠ .labels → environ'.get? (variableName field) = environ.get? (variableName field)) →
      load parse read' given environ' = load parse read given environ := by
  refine ⟨load_loads h, fun read' environ' hread hfile hvariables => ?_⟩
  have hsame : fileToRead given environ' = fileToRead given environ := by
    simp only [fileToRead, hfile]
  have hvalues : variableValue environ' = variableValue environ := by
    funext field
    by_cases hlabels : field = .labels
    · simp [variableValue, override?, hlabels]
    · simp [variableValue, override?, hlabels, hvariables field hlabels]
  rw [load, load, ofVariables_eq, ofVariables_eq, hvalues, hsame]
  cases hpath : fileToRead given environ with
  | none => rfl
  | some path => simp only [hread path (fileFor_iff.mpr hpath)]

def shortFile : Bytes := Text.utf8 "host: file.test\nimage: proxy\n"

def shortEntries : Dictionary Datum := [("host", .text "file.test"), ("image", .text "proxy")]

/-- Parses the short file, and calls all others malformed. -/
def shortParser : Parser := fun content =>
  if content = shortFile then .ok ⟨.map (shortEntries.map fun e => (.text e.1, e.2)), []⟩
  else .error (.malformed .grammar)

def shortEnviron : Variables := [("PROXY_E2E_HOST", "variable.test"), ("PROXY_E2E_LABELS", "none")]

/-- A file that names a host, and a variable that names another one, which counts. -/
theorem load_precedence_host :
    Document shortParser (fun _ => .ok shortFile) (some ⟨.here, ["harness.yaml"]⟩) shortEnviron "harness.yaml"
      shortEntries [] ∧
    ∃ s, load shortParser (fun _ => .ok shortFile) (some ⟨.here, ["harness.yaml"]⟩) shortEnviron = .ok s ∧
      s.host = "variable.test" ∧ s.image = "proxy" ∧ s.labels = [("proxy-e2e", "true")] := by
  let read : Path → Except Foreign Bytes := fun _ => .ok shortFile
  have hparse : shortParser shortFile = .ok ⟨.map (shortEntries.map fun e => (.text e.1, e.2)), []⟩ := if_pos rfl
  have hdocument : Document shortParser read (some ⟨.here, ["harness.yaml"]⟩) shortEnviron "harness.yaml"
      shortEntries [] :=
    .file (.given _) rfl hparse (.mapping rfl (by decide))
  have hknown : unknown shortEntries = [] := rfl
  have hhost : override? shortEnviron .host = some (.text "variable.test") := rfl
  have hothers (field : Setting) (hfield : field ≠ .host) : override? shortEnviron field = none := by
    cases field <;> first | exact absurd rfl hfield | rfl
  refine ⟨hdocument, ?_⟩
  obtain ⟨hloads, -⟩ := load_precedence hdocument
  cases hloads' : load shortParser read (some ⟨.here, ["harness.yaml"]⟩) shortEnviron with
  | error problem =>
    rw [hloads'] at hloads
    cases hloads with
    | unknown h => exact absurd hknown h
    | @badEntry before after field raw _ _ hentries _ hbad =>
      have hmem : (field.name, raw) ∈ shortEntries := hentries ▸ List.mem_append_right before List.mem_cons_self
      have hcoerces : Coerces field.name field raw [] := by
        rcases List.mem_cons.mp hmem with hfirst | hmem
        · obtain ⟨hname, rfl⟩ := Prod.mk.inj hfirst
          obtain rfl : .host = field := Option.some.inj (Setting.ofName?_eq_some_iff.mpr hname)
          exact ⟨_, rfl⟩
        · obtain ⟨hname, rfl⟩ := Prod.mk.inj (List.mem_singleton.mp hmem)
          obtain rfl : .image = field := Option.some.inj (Setting.ofName?_eq_some_iff.mpr hname)
          exact ⟨_, rfl⟩
      obtain ⟨value, hvalue⟩ := hcoerces
      cases hvalue.symm.trans hbad
    | @badVariable _ _ field _ _ _ _ _ _ hraw hbad =>
      by_cases hfield : field = .host
      · subst hfield
        obtain rfl := Option.some.inj (hhost.symm.trans hraw)
        cases hbad
      · rw [hothers field hfield] at hraw
        cases hraw
  | ok s =>
    rw [hloads'] at hloads
    cases hloads with
    | loaded _ _ hvalues =>
      have hhost' := hvalues .host
      have himage := hvalues .image
      have hlabels := hvalues .labels
      simp only [Counts, hhost, hothers .image (by decide), hothers .labels (by decide)] at hhost' himage hlabels
      exact ⟨s, rfl, (Except.ok.inj hhost').symm, (Except.ok.inj himage).symm, hlabels⟩

end Settings

end ProxyTestbed
