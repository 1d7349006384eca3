import ProxyTestbed.Proofs.Act.Outcome
import ProxyTestbed.Settings.Load

/-!
# The document of a settings file

The file that settings are loaded from is told by what is given and by one variable. How its content is parsed is
given; what matters is whether the data are a mapping with texts as keys, which a mapping has once each.

* `Document`: the names with their values in the file that settings are loaded from.
* `ofData_map`: the settings in the entries of a mapping, or the problem with its unknown keys.
-/

namespace ProxyTestbed

namespace Settings

/-! ## The file -/

/-- The file that settings are loaded from: the given one, or the one that a variable names. -/
inductive FileFor (environ : Variables) : Option Path → Option Path → Prop
  | given (path : Path) : FileFor environ (some path) (some path)
  | named {name : String} (h : environ.get? fileVariable = some name) (hne : name ≠ "") :
      FileFor environ none (some (.ofString name))
  | none (h : ∀ name, environ.get? fileVariable = some name → name = "") : FileFor environ none none

theorem fileFor_iff {environ : Variables} {given file : Option Path} :
    FileFor environ given file ↔ fileToRead given environ = file := by
  have hnamed (name : String) (h : environ.get? fileVariable = some name) (hne : name ≠ "") :
      fileToRead none environ = some (.ofString name) := by
    simp [fileToRead, h, hne]
  have hnone (h : ∀ name, environ.get? fileVariable = some name → name = "") :
      fileToRead none environ = none := by
    cases hname : environ.get? fileVariable with
    | none => simp [fileToRead, hname]
    | some name => simp [fileToRead, hname, h name hname]
  constructor
  · rintro (path | ⟨h, hne⟩ | h)
    · rfl
    · exact hnamed _ h hne
    · exact hnone h
  · rintro rfl
    cases given with
    | some path => exact .given path
    | none =>
      cases hname : environ.get? fileVariable with
      | none =>
        rw [hnone (by simp [hname])]
        exact .none (by simp [hname])
      | some name =>
        by_cases hempty : name = ""
        · have hall : ∀ name', environ.get? fileVariable = some name' → name' = "" := by simp [hname, hempty]
          rw [hnone hall]
          exact .none hall
        · rw [hnamed name hname hempty]
          exact .named hname hempty

/-- The data name settings with values: a mapping with distinct texts as keys, or what counts as no. -/
inductive Holds (data : DataGraph) : Dictionary Datum → Prop
  | nothing (h : (data.root.here data.parts).isEmpty = true) : Holds data []
  | mapping {entries : Dictionary Datum}
      (h : data.root.here data.parts = .map (entries.map fun e => (.text e.1, e.2)))
      (hkeys : (entries.map (·.1)).Nodup) : Holds data entries

/-- What the file says that settings are loaded from, how a report calls the file, and the parts of its data that stand
inside themselves. -/
inductive Document (parse : Parser) (read : Path → Except Foreign Bytes) (given : Option Path) (environ : Variables) :
    String → Dictionary Datum → Parts → Prop
  | noFile (h : FileFor environ given none) (name : String) : Document parse read given environ name [] []
  | file {path : Path} {content : Bytes} {data : DataGraph} {entries : Dictionary Datum}
      (hfile : FileFor environ given (some path)) (hread : read path = .ok content)
      (hparse : parse content = .ok data) (hentries : Holds data entries) :
      Document parse read given environ path.toString entries data.parts

theorem Document.nodup_keys {parse : Parser} {read : Path → Except Foreign Bytes} {given : Option Path}
    {environ : Variables} {name : String} {entries : Dictionary Datum} {parts : Parts}
    (h : Document parse read given environ name entries parts) : (entries.map (·.1)).Nodup := by
  cases h with
  | noFile => exact .nil
  | file hfile hread hparse hentries =>
    cases hentries with
    | nothing => exact .nil
    | mapping h hkeys => exact hkeys

/-! ## Unknown names -/

/-- The names that are not those of settings. -/
def unknown (entries : Dictionary Datum) : List String :=
  (entries.map (·.1)).filter fun name => (Setting.ofName? name).isNone

theorem unorderedPair?_texts (names : List String) : unorderedPair? (names.map .text) = none := by
  induction names with
  | nil => rfl
  | cons name names ih =>
    cases names with
    | nil => rfl
    | cons other names => exact ih

theorem unknownNames_texts (path : String) (names : List String) :
    unknownNames path (names.map .text) =
      .refused (.unknown path (names.mergeSort fun a b => !decide (b < a))) := by
  simp [unknownNames, unorderedPair?_texts, List.filterMap_map]

/-! ## The entries of the file -/

/-- The keys of the file that name no settings. -/
def unknownKeys (entries : List (Datum × Datum)) : List Datum :=
  (entries.map (·.1)).filter fun key => (settingOfKey? key).isNone

/-- The setting that an entry of the file names, with its value there. -/
def entryValue (e : Datum × Datum) : Option (Setting × Datum) :=
  (settingOfKey? e.1).map fun field => (field, e.2)

/-- The unknown keys come first among the problems of the entries. -/
theorem ofData_map {path : String} {data : DataGraph} {entries : List (Datum × Datum)}
    (hroot : data.root.here data.parts = .map entries) (h : entries ≠ []) :
    ofData path data =
      if unknownKeys entries = [] then
        (entries.filterMap entryValue).mapM fun e => changeTo e.1 e.1.name e.2 data.parts
      else .error (unknownNames path (unknownKeys entries)) := by
  have hnonempty : (Datum.map entries).isEmpty = false := by
    rw [Datum.isEmpty, List.isEmpty_eq_false_iff]
    exact h
  simp only [ofData, hroot, hnonempty, Bool.false_eq_true, if_false, ← List.isEmpty_iff, unknownKeys]
  rfl

theorem ofData_of_isEmpty {data : DataGraph} (h : (data.root.here data.parts).isEmpty = true) (path : String) :
    ofData path data = .ok [] := by
  unfold ofData
  exact if_pos h

/-- The settings in data that name settings: the unknown names come first among the problems. -/
theorem ofData_of_holds {data : DataGraph} {entries : Dictionary Datum} (h : Holds data entries) (path : String) :
    ofData path data =
      if unknown entries = [] then
        (entries.filterMap fun e => (Setting.ofName? e.1).map fun f => (f, e.2)).mapM fun e =>
          changeTo e.1 e.1.name e.2 data.parts
      else .error (.refused (.unknown path ((unknown entries).mergeSort fun a b => !decide (b < a)))) := by
  cases h with
  | nothing h => exact ofData_of_isEmpty h path
  | mapping h _ =>
    cases entries with
    | nil => exact ofData_of_isEmpty (by rw [h]; rfl) path
    | cons e entries =>
      have hkeys : ((e :: entries).map fun e => (Datum.text e.1, e.2)).map (·.1) =
          ((e :: entries).map (·.1)).map .text := by
        simp
      have hunknown : unknownKeys ((e :: entries).map fun e => (Datum.text e.1, e.2)) =
          (unknown (e :: entries)).map .text := by
        rw [unknownKeys, hkeys, List.filter_map]
        rfl
      have hknown : ((e :: entries).map fun e => (Datum.text e.1, e.2)).filterMap entryValue =
          (e :: entries).filterMap fun e => (Setting.ofName? e.1).map fun f => (f, e.2) := by
        rw [List.filterMap_map]
        rfl
      rw [ofData_map h (by simp), hunknown, hknown]
      simp only [unknownNames_texts, List.map_eq_nil_iff]

end Settings

end ProxyTestbed
