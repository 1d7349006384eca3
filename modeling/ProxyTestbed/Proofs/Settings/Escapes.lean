import Mathlib
import ProxyTestbed.Proofs.File.Denied
import ProxyTestbed.Proofs.Settings.Coerced
import ProxyTestbed.Proofs.Settings.Precedence

/-!
# What loading does not report

Loading settings succeeds, or is refused with a report on the settings, or fails with an error of the place where it
came up: reading a path that is no path, parsing a file, naming unknown keys that are no texts, or coercing a value that
overflows.

* `escapes_ofData_iff`: the data of a file that are not reported on.
* `breaks_readOrError_iff`: what breaks loading from a file tree.
* `load_escapes_iff`: exactly when loading fails without a report.
-/

namespace ProxyTestbed

/-! ## Paths that are no paths -/

namespace FileTree

variable {t : FileTree} {p : Path}

theorem read_of_hasZero (h : p.hasZero = true) : t.read p = .error .zero := by
  simp only [read, look, place, h, if_true]
  rfl

theorem hasZero_of_read (h : t.read p = .error .zero) : p.hasZero = true := by
  rcases bind_eq_error_iff.mp h with hlook | ⟨⟨l, e⟩, -, hrest⟩
  · rcases bind_eq_error_iff.mp hlook with hplace | ⟨l, -, hrest⟩
    · exact hasZero_of_place hplace
    · split at hrest <;> cases hrest
  · split at hrest <;> cases hrest

theorem readOrError_of_hasZero (h : p.hasZero = true) : ∃ cause, t.readOrError p = .error cause := by
  rw [readOrError, read_of_hasZero h]
  exact ⟨_, rfl⟩

theorem isSystem_of_readOrError {cause : Foreign} (h : t.readOrError p = .error cause) :
    cause.isSystem = !p.hasZero := by
  cases hread : t.read p with
  | ok content =>
    rw [readOrError, hread] at h
    cases h
  | error problem =>
    rw [readOrError, hread] at h
    cases h
    cases problem with
    | zero =>
      rw [hasZero_of_read hread]
      rfl
    | _ =>
      have hzero : p.hasZero = false := by
        by_contra hzero
        rw [read_of_hasZero (Bool.not_eq_false _ ▸ hzero)] at hread
        cases hread
      rw [hzero]
      rfl

end FileTree

namespace Settings

/-! ## Unknown names -/

/-- Unknown names are reported, in order, if all of them are texts. -/
theorem unknownNames_cases (path : String) (names : List Datum) :
    (∃ texts : List String, names = texts.map .text ∧
      unknownNames path names = .refused (.unknown path (texts.mergeSort fun a b => !decide (b < a)))) ∨
    ((∃ name ∈ names, ∀ s, name ≠ .text s) ∧ ∀ p, unknownNames path names ≠ .refused p) := by
  by_cases hall : ∀ name ∈ names, ∃ s, name = .text s
  · have htexts : names ∈ Set.range (List.map Datum.text) := by
      rw [Set.range_list_map]
      exact fun name hname => (hall name hname).imp fun _ h => h.symm
    obtain ⟨texts, rfl⟩ := htexts
    exact .inl ⟨texts, rfl, unknownNames_texts path texts⟩
  · push Not at hall
    refine .inr ⟨hall, fun p => ?_⟩
    obtain ⟨name, hname, hkind⟩ := hall
    unfold unknownNames
    split
    · exact LoadProblem.noConfusion
    · extract_lets texts
      have hfewer : texts.length ≠ names.length := by
        intro hlength
        have hsome := List.filterMap_length_eq_length.mp hlength name hname
        split at hsome
        · exact hkind _ rfl
        · cases hsome
      rw [if_neg hfewer]
      exact LoadProblem.noConfusion

theorem settingOfKey?_eq_some_iff {key : Datum} {field : Setting} :
    settingOfKey? key = some field ↔ key = .text field.name := by
  cases key with
  | text s => rw [settingOfKey?, Setting.ofName?_eq_some_iff, Datum.text.injEq, eq_comm]
  | _ => simp [settingOfKey?]

/-- A key of the file names a setting. -/
def IsKnown (key : Datum) : Prop :=
  ∃ field : Setting, key = .text field.name

theorem isNone_settingOfKey?_iff {key : Datum} : (settingOfKey? key).isNone = true ↔ ¬ IsKnown key := by
  rw [← not_iff_not, not_not, Option.isNone_iff_eq_none, ← ne_eq, Option.ne_none_iff_exists']
  exact exists_congr fun field => settingOfKey?_eq_some_iff

theorem mem_unknownKeys_iff {entries : List (Datum × Datum)} {key : Datum} :
    key ∈ unknownKeys entries ↔ (∃ e ∈ entries, e.1 = key) ∧ ¬ IsKnown key := by
  simp only [unknownKeys, List.mem_filter, List.mem_map, isNone_settingOfKey?_iff]

/-! ## Values -/

theorem entryValue_eq_some_iff {e : Datum × Datum} {field : Setting} {raw : Datum} :
    entryValue e = some (field, raw) ↔ e = (.text field.name, raw) := by
  obtain ⟨key, value⟩ := e
  simp only [entryValue, Option.map_eq_some_iff, settingOfKey?_eq_some_iff, Prod.mk.injEq]
  constructor
  · rintro ⟨_, rfl, rfl, rfl⟩
    exact ⟨rfl, rfl⟩
  · rintro ⟨rfl, rfl⟩
    exact ⟨field, rfl, rfl, rfl⟩

theorem escapes_changeTo_iff {field : Setting} {name : String} {raw : Datum} {parts : Parts} :
    Escapes (changeTo field name raw parts) ↔ Overflows field.kind raw parts := by
  rw [changeTo, escapes_map_iff, escapes_coerce_iff]

/-- The values of one place fail without a report at the first bad one, if that one overflows. -/
theorem escapes_values_iff {α : Type} {nameOf : Setting → String} {parts : Parts} {l : List α}
    {valueOf : α → Option (Setting × Datum)} :
    Escapes ((l.filterMap valueOf).mapM fun e => changeTo e.1 (nameOf e.1) e.2 parts) ↔
      ∃ before a after field raw, l = before ++ a :: after ∧
        (∀ x ∈ before, ∀ field raw, valueOf x = some (field, raw) → Coerces (nameOf field) field raw parts) ∧
        valueOf a = some (field, raw) ∧ Overflows field.kind raw parts := by
  constructor
  · rintro ⟨problem, hproblem, hescapes⟩
    obtain ⟨before, a, after, field, raw, hl, hbefore, ha, hbad⟩ := exists_bad_of_mapM hproblem
    exact ⟨before, a, after, field, raw, hl, hbefore, ha, escapes_coerce_iff.mp ⟨problem, hbad, hescapes⟩⟩
  · rintro ⟨before, a, after, field, raw, rfl, hbefore, ha, hover⟩
    rw [List.filterMap_append, List.filterMap_cons_some ha]
    refine escapes_mapM_iff.mpr ⟨_, _, _, rfl, fun e he => ?_, escapes_changeTo_iff.mpr hover⟩
    obtain ⟨x, hx, hvalue⟩ := List.mem_filterMap.mp he
    obtain ⟨value, hvalue⟩ := hbefore x hx e.1 e.2 hvalue
    exact ⟨_, changeTo_eq_ok_iff.mpr ⟨value, hvalue, rfl⟩⟩

/-- Variables hold texts, and a text never overflows. -/
theorem not_escapes_ofVariables (environ : Variables) : ¬ Escapes (ofVariables environ) := by
  rw [ofVariables_eq, escapes_values_iff]
  rintro ⟨before, a, after, field, raw, -, -, ha, hover⟩
  obtain ⟨-, hraw⟩ := variableValue_eq_some_iff.mp ha
  unfold override? at hraw
  split at hraw
  · cases hraw
  · obtain ⟨s, -, rfl⟩ := Option.map_eq_some_iff.mp hraw
    exact not_overflows_text hover

/-! ## Data -/

/-- The data of a file that are not reported on: a key is no text, or the first bad value overflows. -/
inductive Defeats (data : DataGraph) : Prop
  | key {entries : List (Datum × Datum)} {e : Datum × Datum} (hroot : data.root.here data.parts = .map entries)
      (he : e ∈ entries) (hkey : ∀ s, e.1 ≠ .text s) : Defeats data
  | value {entries before after : List (Datum × Datum)} {field : Setting} {raw : Datum}
      (hroot : data.root.here data.parts = .map entries) (hknown : ∀ e ∈ entries, IsKnown e.1)
      (hentries : entries = before ++ (.text field.name, raw) :: after)
      (hbefore : ∀ field' raw', (.text field'.name, raw') ∈ before → Coerces field'.name field' raw' data.parts)
      (hover : Overflows field.kind raw data.parts) : Defeats data

theorem unknownKeys_eq_nil_iff {entries : List (Datum × Datum)} :
    unknownKeys entries = [] ↔ ∀ e ∈ entries, IsKnown e.1 := by
  rw [List.eq_nil_iff_forall_not_mem]
  simp only [mem_unknownKeys_iff]
  grind

section

variable {data : DataGraph} {path : String} {entries : List (Datum × Datum)}

theorem ofData_known (hroot : data.root.here data.parts = .map entries) (hknown : ∀ e ∈ entries, IsKnown e.1) :
    ofData path data = (entries.filterMap entryValue).mapM fun e => changeTo e.1 e.1.name e.2 data.parts := by
  by_cases hempty : entries = []
  · subst hempty
    rw [ofData_of_isEmpty (by rw [hroot]; rfl)]
    rfl
  · rw [ofData_map hroot hempty, if_pos (unknownKeys_eq_nil_iff.mpr hknown)]

/-- With an unknown name in the file, there is a report if all keys are texts, and none otherwise. -/
theorem ofData_unknown (path : String) (hroot : data.root.here data.parts = .map entries)
    (hunknown : ∃ e ∈ entries, ¬ IsKnown e.1) :
    ((∀ e ∈ entries, ∃ s, e.1 = .text s) ∧
      ∃ names, ofData path data = .error (.refused (.unknown path names))) ∨
    ((∃ e ∈ entries, ∀ s, e.1 ≠ .text s) ∧ Escapes (ofData path data)) := by
  obtain ⟨e, he, hkey⟩ := hunknown
  have hsome : unknownKeys entries ≠ [] := fun hnil => hkey (unknownKeys_eq_nil_iff.mp hnil e he)
  rw [ofData_map hroot (List.ne_nil_of_mem he), if_neg hsome]
  rcases unknownNames_cases path (unknownKeys entries) with
    ⟨texts, htexts, hnames⟩ | ⟨⟨name, hname, hkind⟩, hnames⟩
  · refine .inl ⟨fun x hx => ?_, _, congrArg Except.error hnames⟩
    by_cases hknown : IsKnown x.1
    · obtain ⟨field, hfield⟩ := hknown
      exact ⟨_, hfield⟩
    · have hmem : x.1 ∈ texts.map .text := htexts ▸ mem_unknownKeys_iff.mpr ⟨⟨x, hx, rfl⟩, hknown⟩
      obtain ⟨s, -, hs⟩ := List.mem_map.mp hmem
      exact ⟨s, hs.symm⟩
  · obtain ⟨⟨x, hx, rfl⟩, -⟩ := mem_unknownKeys_iff.mp hname
    exact .inr ⟨⟨x, hx, hkind⟩, _, rfl, hnames⟩

theorem escapes_ofData_map_iff (hroot : data.root.here data.parts = .map entries) :
    Escapes (ofData path data) ↔ Defeats data := by
  have hsame {entries' : List (Datum × Datum)} (h : data.root.here data.parts = .map entries') :
      entries' = entries := Datum.map.inj (h.symm.trans hroot)
  by_cases hunknown : ∃ e ∈ entries, ¬ IsKnown e.1
  · rcases ofData_unknown path hroot hunknown with ⟨htexts, names, hrefused⟩ | ⟨⟨e, he, hkey⟩, hescapes⟩
    · rw [hrefused]
      refine iff_of_false (not_escapes_refused _) ?_
      rintro (⟨hroot', he, hkey⟩ | ⟨hroot', hknown, -, -, -⟩)
      · obtain ⟨s, hs⟩ := htexts _ (hsame hroot' ▸ he)
        exact hkey s hs
      · obtain ⟨e, he, hkey⟩ := hunknown
        exact hkey (hknown e (hsame hroot' ▸ he))
    · exact iff_of_true hescapes (.key hroot he hkey)
  · push Not at hunknown
    rw [ofData_known hroot hunknown, escapes_values_iff]
    constructor
    · rintro ⟨before, e, after, field, raw, hentries, hbefore, he, hover⟩
      obtain rfl := entryValue_eq_some_iff.mp he
      exact .value hroot hunknown hentries
        (fun field' raw' hmem => hbefore _ hmem field' raw' (entryValue_eq_some_iff.mpr rfl)) hover
    · rintro (⟨hroot', he, hkey⟩ | ⟨hroot', -, hentries, hbefore, hover⟩)
      · obtain ⟨field, hfield⟩ := hunknown _ (hsame hroot' ▸ he)
        exact absurd hfield (hkey _)
      · obtain rfl := hsame hroot'
        refine ⟨_, _, _, _, _, hentries, fun x hx field' raw' hvalue => ?_, entryValue_eq_some_iff.mpr rfl, hover⟩
        obtain rfl := entryValue_eq_some_iff.mp hvalue
        exact hbefore field' raw' hx

theorem escapes_ofData_iff : Escapes (ofData path data) ↔ Defeats data := by
  cases hroot : data.root.here data.parts with
  | map entries => exact escapes_ofData_map_iff hroot
  | _ =>
    refine iff_of_false ?_ ?_
    · unfold ofData
      rw [hroot]
      dsimp only
      split
      · exact not_escapes_ok _
      · exact not_escapes_refused _
    · rintro (⟨hmap, -, -⟩ | ⟨hmap, -, -, -, -⟩) <;>
        cases hroot.symm.trans hmap

end

/-! ## Loading -/

/-- Every content has data or is reported to be malformed. -/
def Parser.Reports (parse : Parser) : Prop :=
  ∀ content failure, parse content = .error failure → ∃ part, failure = .malformed part

/-- The content of a file has data that are not reported on. -/
def Spoils (parse : Parser) (content : Bytes) : Prop :=
  ∃ data, parse content = .ok data ∧ Defeats data

/-- Parsing fails, and not with a report. -/
def Misparses (parse : Parser) (content : Bytes) : Prop :=
  ∃ failure, parse content = .error failure ∧ ∀ part, failure ≠ .malformed part

theorem escapes_ofFile_iff {parse : Parser} {path : String} {content : Bytes} :
    Escapes (ofFile parse path content) ↔ Spoils parse content ∨ Misparses parse content := by
  unfold ofFile Spoils Misparses
  cases parse content with
  | ok data =>
    rw [escapes_ofData_iff]
    simp
  | error failure =>
    cases failure with
    | malformed part => exact iff_of_false (not_escapes_refused _) (by simp)
    | scalar problem => exact iff_of_true ⟨_, rfl, fun _ => LoadProblem.noConfusion⟩ (by simp)
    | encoding problem => exact iff_of_true ⟨_, rfl, fun _ => LoadProblem.noConfusion⟩ (by simp)

/-- What breaks loading: a file that cannot be read, for another reason than the system gives, or one that spoils it. -/
inductive Breaks (parse : Parser) (read : Path → Except Foreign Bytes) (given : Option Path) (environ : Variables) : Prop
  | path {path : Path} {cause : Foreign} (hfile : FileFor environ given (some path))
      (hread : read path = .error cause) (hcause : cause.isSystem = false)
  | content {path : Path} {content : Bytes} (hfile : FileFor environ given (some path))
      (hread : read path = .ok content) (h : Spoils parse content)

section

variable {parse : Parser} {read : Path → Except Foreign Bytes} {given : Option Path} {environ : Variables} {path : Path}

/-- The variables come after the file. -/
def withVariables (environ : Variables) (fromFile : List (Change Float)) : Except LoadProblem (Settings Float) :=
  ofVariables environ >>= fun fromVariables => .ok (standard.apply (fromFile ++ fromVariables))

theorem not_escapes_withVariables (environ : Variables) (fromFile : List (Change Float)) :
    ¬ Escapes (withVariables environ fromFile) :=
  (escapes_bind_iff fun _ => not_escapes_ok _).not.mpr (not_escapes_ofVariables environ)

theorem load_of_noFile (hfile : FileFor environ given none) : load parse read given environ = withVariables environ [] := by
  rw [load, fileFor_iff.mp hfile]
  rfl

theorem load_of_unreadable {cause : Foreign} (hfile : FileFor environ given (some path))
    (hread : read path = .error cause) : load parse read given environ =
      .error (if cause.isSystem then .refused (.unreadable path.toString cause) else .noPath cause) := by
  rw [load, fileFor_iff.mp hfile]
  simp only [hread]
  rfl

theorem load_of_read {content : Bytes} (hfile : FileFor environ given (some path)) (hread : read path = .ok content) :
    load parse read given environ = ofFile parse path.toString content >>= withVariables environ := by
  rw [load, fileFor_iff.mp hfile]
  simp only [hread]
  rfl

theorem escapes_load_of_unreadable {cause : Foreign} (hfile : FileFor environ given (some path))
    (hread : read path = .error cause) : Escapes (load parse read given environ) ↔ cause.isSystem = false := by
  rw [load_of_unreadable hfile hread]
  cases cause.isSystem with
  | true => exact iff_of_false (not_escapes_refused _) Bool.noConfusion
  | false => exact iff_of_true ⟨_, rfl, fun _ => LoadProblem.noConfusion⟩ rfl

theorem escapes_load_of_read {content : Bytes} (hfile : FileFor environ given (some path))
    (hread : read path = .ok content) :
    Escapes (load parse read given environ) ↔ Spoils parse content ∨ Misparses parse content := by
  rw [load_of_read hfile hread, escapes_bind_iff (not_escapes_withVariables environ), escapes_ofFile_iff]

/-- Whatever parses the files: if that fails without a report, so does loading. -/
theorem escapes_load_cases : Escapes (load parse read given environ) ↔ Breaks parse read given environ ∨
    ∃ path content, FileFor environ given (some path) ∧ read path = .ok content ∧ Misparses parse content := by
  constructor
  · intro hescapes
    cases hfile : fileToRead given environ with
    | none =>
      rw [load_of_noFile (fileFor_iff.mpr hfile)] at hescapes
      exact absurd hescapes (not_escapes_withVariables environ [])
    | some path =>
      have hfile := fileFor_iff.mpr hfile
      cases hread : read path with
      | error cause => exact .inl (.path hfile hread ((escapes_load_of_unreadable hfile hread).mp hescapes))
      | ok content =>
        rcases (escapes_load_of_read hfile hread).mp hescapes with hspoils | hfails
        · exact .inl (.content hfile hread hspoils)
        · exact .inr ⟨path, content, hfile, hread, hfails⟩
  · rintro ((⟨hfile, hread, hcause⟩ | ⟨hfile, hread, hspoils⟩) | ⟨path, content, hfile, hread, hfails⟩)
    · exact (escapes_load_of_unreadable hfile hread).mpr hcause
    · exact (escapes_load_of_read hfile hread).mpr (.inl hspoils)
    · exact (escapes_load_of_read hfile hread).mpr (.inr hfails)

theorem escapes_load_iff (hparse : parse.Reports) :
    Escapes (load parse read given environ) ↔ Breaks parse read given environ := by
  refine escapes_load_cases.trans (or_iff_left ?_)
  rintro ⟨path, content, -, -, failure, hfailure, hmalformed⟩
  obtain ⟨part, hpart⟩ := hparse content failure hfailure
  exact hmalformed part hpart

/-- In a file tree, only a path with the character zero cannot be read for another reason than the system gives. -/
theorem breaks_readOrError_iff {t : FileTree} : Breaks parse t.readOrError given environ ↔
    ∃ path, FileFor environ given (some path) ∧
      (path.hasZero = true ∨ ∃ content, t.readOrError path = .ok content ∧ Spoils parse content) := by
  constructor
  · rintro (⟨hfile, hread, hcause⟩ | ⟨hfile, hread, hspoils⟩)
    · rw [FileTree.isSystem_of_readOrError hread, Bool.not_eq_false'] at hcause
      exact ⟨_, hfile, .inl hcause⟩
    · exact ⟨_, hfile, .inr ⟨_, hread, hspoils⟩⟩
  · rintro ⟨path, hfile, hzero | ⟨content, hread, hspoils⟩⟩
    · obtain ⟨cause, hread⟩ := FileTree.readOrError_of_hasZero hzero
      refine .path hfile hread ?_
      rw [FileTree.isSystem_of_readOrError hread, hzero, Bool.not_true]
    · exact .content hfile hread hspoils

end

/-- **What loading does not report.** If parsing a file gives data or reports that it is malformed, then loading returns
settings or is refused with a report on them, except when the file cannot be read for another reason than the system
gives, when a key in it is no text, or when its first bad value overflows: an integer inside has more digits than are
written, or the value is an integer beyond the reals for a number of seconds. In a file tree, only a path with the
character zero cannot be read for such a reason. So a mapping with an unknown key is reported on if and only if all its
keys are texts; and a value is coerced, or refused with a report, if and only if it does not overflow. -/
theorem load_escapes_iff {parse : Parser} (hparse : parse.Reports) (read : Path → Except Foreign Bytes)
    (given : Option Path) (environ : Variables) :
    (Escapes (load parse read given environ) ↔ Breaks parse read given environ) ∧
    (∀ t : FileTree, Escapes (load parse t.readOrError given environ) ↔
      ∃ path, FileFor environ given (some path) ∧
        (path.hasZero = true ∨ ∃ content, t.readOrError path = .ok content ∧ Spoils parse content)) ∧
    (∀ (path : Path) (content : Bytes) (data : DataGraph) (entries : List (Datum × Datum)),
      FileFor environ given (some path) → read path = .ok content → parse content = .ok data →
      data.root.here data.parts = .map entries → (∃ e ∈ entries, ¬ IsKnown e.1) →
      ((∃ names, load parse read given environ = .error (.refused (.unknown path.toString names))) ↔
        ∀ e ∈ entries, ∃ s, e.1 = .text s)) ∧
    ∀ (name : String) (field : Setting) (raw : Datum) (parts : Parts),
      Escapes (coerce name field.kind raw parts) ↔ Overflows field.kind raw parts := by
  refine ⟨escapes_load_iff hparse, fun t => (escapes_load_iff hparse).trans breaks_readOrError_iff,
    fun path content data entries hfile hread hdata hroot hunknown => ?_, fun _ _ _ _ => escapes_coerce_iff⟩
  have hofFile : ofFile parse path.toString content = ofData path.toString data := by
    simp only [ofFile, hdata]
  rw [load_of_read hfile hread, hofFile]
  rcases ofData_unknown _ hroot hunknown with ⟨htexts, names, hnames⟩ | ⟨⟨e, he, hkey⟩, problem, hproblem, hescapes⟩
  · rw [hnames]
    exact iff_of_true ⟨names, rfl⟩ htexts
  · rw [hproblem]
    refine iff_of_false ?_ fun htexts => ?_
    · rintro ⟨names, h⟩
      cases h
      exact hescapes _ rfl
    · obtain ⟨s, hs⟩ := htexts e he
      exact hkey s hs

/-- A file whose only key is a number. -/
def numberedFile : Bytes := Text.utf8 "1: a\n"

/-- Parses the numbered file, and calls all others malformed. -/
def numberedParser : Parser := fun content =>
  if content = numberedFile then .ok ⟨.map [(.int 1, .text "a")], []⟩ else .error (.malformed .grammar)

/-- A number is no name of a setting, and the report on the unknown name is not made. -/
theorem load_escapes_iff_number :
    numberedParser.Reports ∧
    Escapes (load numberedParser (fun _ => .ok numberedFile) (some ⟨.here, ["harness.yaml"]⟩) []) ∧
    ¬ ∃ names, load numberedParser (fun _ => .ok numberedFile) (some ⟨.here, ["harness.yaml"]⟩) [] =
      .error (.refused (.unknown "harness.yaml" names)) := by
  let path : Path := ⟨.here, ["harness.yaml"]⟩
  have hparse : numberedParser numberedFile = .ok ⟨.map [(.int 1, .text "a")], []⟩ := if_pos rfl
  have hreports : numberedParser.Reports := by
    intro content failure hfailure
    unfold numberedParser at hfailure
    split at hfailure
    · cases hfailure
    · cases hfailure
      exact ⟨_, rfl⟩
  have hkey (s : String) : Datum.int 1 ≠ .text s := Datum.noConfusion
  have hdefeats : Defeats ⟨.map [(.int 1, .text "a")], []⟩ := .key rfl List.mem_cons_self hkey
  obtain ⟨hescapes, -, hunknown, -⟩ := load_escapes_iff hreports (fun _ => .ok numberedFile) (some path) []
  refine ⟨hreports, hescapes.mpr (.content (.given path) rfl ⟨_, hparse, hdefeats⟩), fun hreport => ?_⟩
  have hforeign : ∃ e ∈ [(Datum.int 1, Datum.text "a")], ¬ IsKnown e.1 := by
    refine ⟨_, List.mem_cons_self, ?_⟩
    rintro ⟨field, hfield⟩
    exact hkey _ hfield
  obtain ⟨s, hs⟩ := (hunknown path _ _ _ (.given path) rfl hparse rfl hforeign).mp hreport _ List.mem_cons_self
  exact hkey s hs

end Settings

end ProxyTestbed
