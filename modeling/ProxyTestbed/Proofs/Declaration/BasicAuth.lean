import ProxyTestbed.Declaration.BasicAuth
import ProxyTestbed.Proofs.Declaration.Path

/-!
# Protected hosts that are read back

A declaration of a protected host is built of anything but a user name with a colon. It is read only if
its credentials have one colon, so a password with a colon is written and then rejected.

* `read_write_iff`: a declaration is read back unchanged if and only if its password has no colon.
* `exists_read_iff`: what can be read is known by its parts.
* `write_of_read`: whatever is read can be built again, and is read as the same.
-/

namespace ProxyTestbed.BasicAuth

open Text VirtualHost

/-- Parts that hold no separator but the colons of the password. -/
structure Unmarked (a : BasicAuth) : Prop where
  host_slash : '/' ∉ a.host.toList
  host_arrow : ¬ HasArrow a.host.toList
  path_arrow : ∀ p, a.path = some p → ¬ HasArrow p.toList
  username_colon : ':' ∉ a.username.toList
  username_arrow : ¬ HasArrow a.username.toList
  password_arrow : ¬ HasArrow a.password.toList
  target_trimmed : Trimmed (a.host ++ rooted a.path).toList
  credentials_trimmed : Trimmed (a.username ++ ":" ++ a.password).toList

/-- Only a colon of the user name keeps a declaration from being built. -/
theorem write_eq_ok_iff {a : BasicAuth} {text : String} :
    write a = .ok text ↔ ':' ∉ a.username.toList ∧
      text = a.host ++ rooted a.path ++ " -> " ++ a.username ++ ":" ++ a.password := by
  unfold write
  split <;> simp_all [eq_comm]

/-- The host and the path are read back. -/
theorem cutAt_target {a : BasicAuth} (h : Unmarked a) :
    cutAt '/' (a.host ++ rooted a.path).toList = (a.host.toList, afterSlash? a.path) := by
  rw [String.toList_append, toList_rooted, cutAt_behind h.host_slash]

theorem not_hasArrow_target {a : BasicAuth} (h : Unmarked a) :
    ¬ HasArrow (a.host ++ rooted a.path).toList := by
  rw [String.toList_append, toList_rooted]
  cases hpath : afterSlash? a.path with
  | none => simpa [behind] using h.host_arrow
  | some r =>
    obtain ⟨p, hp, hends⟩ := afterSlash?_ends hpath
    rw [behind, hasArrow_append_cons (by decide) (by decide), not_or]
    exact ⟨h.host_arrow, not_hasArrow_of_within (h.path_arrow p hp) hends.isInfix⟩

theorem not_hasArrow_credentials {a : BasicAuth} (h : Unmarked a) :
    ¬ HasArrow (a.username ++ ":" ++ a.password).toList := by
  rw [String.toList_append, String.toList_append, List.append_assoc]
  exact (hasArrow_append_cons (by decide) (by decide)).not.mpr
    (not_or.mpr ⟨h.username_arrow, h.password_arrow⟩)

theorem splitArrows_write {a : BasicAuth} (h : Unmarked a) :
    splitArrows (a.host ++ rooted a.path ++ " -> " ++ a.username ++ ":" ++ a.password).toList =
      [(a.host ++ rooted a.path).toList ++ [' '], ' ' :: (a.username ++ ":" ++ a.password).toList] := by
  rw [splitArrows_eq_pair_iff]
  refine ⟨by simp, ?_, ?_⟩
  · rw [hasArrow_append_cons (by decide) (by decide), not_or]
    exact ⟨not_hasArrow_target h, not_hasArrow_nil⟩
  · rw [hasArrow_cons_of_ne (by decide)]
    exact not_hasArrow_credentials h

theorem trim_target {a : BasicAuth} (h : Unmarked a) :
    trim ((a.host ++ rooted a.path).toList ++ [' ']) = (a.host ++ rooted a.path).toList := by
  rw [trim_concat_blank (by decide), trim_eq_self h.target_trimmed]

theorem trim_credentials {a : BasicAuth} (h : Unmarked a) :
    trim (' ' :: (a.username ++ ":" ++ a.password).toList) = (a.username ++ ":" ++ a.password).toList := by
  rw [trim_cons_blank (by decide), trim_eq_self h.credentials_trimmed]

theorem read_built_of_no_colon {a : BasicAuth} (h : Unmarked a) (hcolon : ':' ∉ a.password.toList) :
    read (a.host ++ rooted a.path ++ " -> " ++ a.username ++ ":" ++ a.password) =
      .ok { a with path := namedPath a.path } := by
  have hsplit : splitOn ':' (a.username ++ ":" ++ a.password).toList =
      [a.username.toList, a.password.toList] := by
    rw [splitOn_eq_pair_iff]
    exact ⟨by simp, h.username_colon, hcolon⟩
  unfold read
  rw [splitArrows_write h]
  simp only [trim_target h, trim_credentials h, hsplit, cutAt_target h, String.ofList_toList, namedPath_eq]

theorem read_built_of_colon {a : BasicAuth} (h : Unmarked a) (hcolon : ':' ∈ a.password.toList) :
    read (a.host ++ rooted a.path ++ " -> " ++ a.username ++ ":" ++ a.password) =
      .error (.badCredentials (a.username ++ ":" ++ a.password)) := by
  unfold read
  rw [splitArrows_write h]
  simp only [trim_credentials h, String.ofList_toList]
  split
  · next username password hsplit =>
    -- of two pieces the first ends at the first colon, and the second holds none
    obtain ⟨hjoin, husername, hpassword⟩ := splitOn_eq_pair_iff.mp hsplit
    have hcut : cutAt ':' (a.username ++ ":" ++ a.password).toList =
        (a.username.toList, some a.password.toList) := by
      rw [cutAt_eq_iff]
      exact ⟨by simp [behind], h.username_colon⟩
    have hcut' : cutAt ':' (a.username ++ ":" ++ a.password).toList = (username, some password) :=
      cutAt_eq_iff.mpr ⟨hjoin.symm, husername⟩
    rw [hcut] at hcut'
    cases hcut'
    exact absurd hcolon hpassword
  · rfl

/-- **A password with a colon is not read back.** Only a user name with a colon is refused when a
declaration is built. Of parts that hold no other separators the declaration is read back, with a slash at
the front of its path, if and only if the password has no colon; with one it is rejected for its
credentials. -/
theorem read_write_iff (a : BasicAuth) :
    ((∃ text, write a = .ok text) ↔ ':' ∉ a.username.toList) ∧
    (Unmarked a → ∃ text, write a = .ok text ∧
      (read text = .ok { a with path := namedPath a.path } ↔ ':' ∉ a.password.toList) ∧
      (':' ∈ a.password.toList →
        read text = .error (.badCredentials (a.username ++ ":" ++ a.password)))) := by
  refine ⟨?_, fun h => ?_⟩
  · simp only [write_eq_ok_iff, exists_and_left, exists_eq, and_true]
  · refine ⟨_, write_eq_ok_iff.mpr ⟨h.username_colon, rfl⟩, ⟨fun hread hcolon => ?_, ?_⟩,
      read_built_of_colon h⟩
    · rw [read_built_of_colon h hcolon] at hread
      cases hread
    · exact read_built_of_no_colon h

/-- A declaration that is built, and rejected when it is read. -/
theorem read_write_colon :
    Unmarked ⟨"auth.example.com", none, "admin", "se:cret"⟩ ∧
      write ⟨"auth.example.com", none, "admin", "se:cret"⟩ = .ok "auth.example.com -> admin:se:cret" ∧
      read "auth.example.com -> admin:se:cret" = .error (.badCredentials "admin:se:cret") := by
  have h : Unmarked ⟨"auth.example.com", none, "admin", "se:cret"⟩ :=
    ⟨by decide, by decide, by simp, by decide, by decide, by decide, by decide, by decide⟩
  obtain ⟨text, hwrite, _, hread⟩ := (read_write_iff _).2 h
  have hbuilt : write ⟨"auth.example.com", none, "admin", "se:cret"⟩ =
      .ok "auth.example.com -> admin:se:cret" := by decide
  rw [hbuilt] at hwrite
  cases hwrite
  exact ⟨h, hbuilt, hread (by decide)⟩

/-! ## Reading, then building -/

/-- What reading goes through: one arrow, the first slash of the trimmed text before it, and the one colon of the
trimmed text behind it. -/
theorem read_eq_ok_iff {value : String} {a : BasicAuth} : read value = .ok a ↔
    ∃ targetText credentialText host rest username password,
      splitArrows value.toList = [targetText, credentialText] ∧
        cutAt '/' (trim targetText) = (host, rest) ∧
        splitOn ':' (trim credentialText) = [username, password] ∧
        a = ⟨String.ofList host, rest.map fun r => String.ofList ('/' :: r), String.ofList username,
          String.ofList password⟩ := by
  unfold read
  constructor
  · intro h
    split at h
    · next targetText credentialText hsplit =>
      dsimp only at h
      split at h
      · next username password hcolon =>
        cases h
        exact ⟨targetText, credentialText, _, _, username, password, hsplit, rfl, hcolon, rfl⟩
      · cases h
    · cases h
  · rintro ⟨_, _, _, _, _, _, hsplit, hslash, hcolon, rfl⟩
    simp only [hsplit, hslash, hcolon]

/-- What holds of the parts of whatever is read. -/
structure Legible (a : BasicAuth) : Prop extends Unmarked a where
  password_colon : ':' ∉ a.password.toList
  path_named : namedPath a.path = a.path

theorem legible_of_read {value : String} {a : BasicAuth} (h : read value = .ok a) : Legible a := by
  obtain ⟨targetText, credentialText, host, rest, username, password, hsplit, hslash, hcolon, rfl⟩ :=
    read_eq_ok_iff.mp h
  obtain ⟨-, htargetArrow, hcredentialArrow⟩ := splitArrows_eq_pair_iff.mp hsplit
  obtain ⟨htarget, hhost⟩ := cutAt_eq_iff.mp hslash
  obtain ⟨hcredentials, husername, hpassword⟩ := splitOn_eq_pair_iff.mp hcolon
  have hwrittenTarget : (String.ofList host ++ rooted (rest.map fun r => String.ofList ('/' :: r))).toList =
      trim targetText := by
    rw [String.toList_append, toList_rooted, afterSlash?_map, String.toList_ofList, htarget]
  have hwrittenCredentials : (String.ofList username ++ ":" ++ String.ofList password).toList =
      trim credentialText := by
    simpa using hcredentials
  -- each part stands on its side of the arrow
  have hbefore {part : List Char} (hin : part <:+: host ++ behind '/' rest) : ¬ HasArrow part :=
    not_hasArrow_of_within htargetArrow ((htarget ▸ hin).trans (trim_within _))
  have hbehind {part : List Char} (hin : part <:+: username ++ ':' :: password) : ¬ HasArrow part :=
    not_hasArrow_of_within hcredentialArrow ((hcredentials ▸ hin).trans (trim_within _))
  exact {
    host_slash := by rwa [String.toList_ofList]
    host_arrow := by
      rw [String.toList_ofList]
      exact hbefore (List.prefix_append ..).isInfix
    path_arrow := by
      intro p hp
      obtain ⟨r, rfl, rfl⟩ := Option.map_eq_some_iff.mp hp
      rw [String.toList_ofList]
      exact hbefore (List.suffix_append ..).isInfix
    username_colon := by rwa [String.toList_ofList]
    username_arrow := by
      rw [String.toList_ofList]
      exact hbehind (List.prefix_append ..).isInfix
    password_arrow := by
      rw [String.toList_ofList]
      exact hbehind ((List.suffix_cons ':' password).trans (List.suffix_append ..)).isInfix
    target_trimmed := by
      rw [hwrittenTarget]
      exact trimmed_trim targetText
    credentials_trimmed := by
      rw [hwrittenCredentials]
      exact trimmed_trim credentialText
    password_colon := by rwa [String.toList_ofList]
    path_named := by rw [namedPath_eq, afterSlash?_map] }

theorem read_write_of_legible {a : BasicAuth} (h : Legible a) :
    ∃ text, write a = .ok text ∧ read text = .ok a := by
  refine ⟨_, write_eq_ok_iff.mpr ⟨h.username_colon, rfl⟩, ?_⟩
  rw [read_built_of_no_colon h.toUnmarked h.password_colon, h.path_named]

/-- What can be read is known by its parts. -/
theorem exists_read_iff {a : BasicAuth} : (∃ value, read value = .ok a) ↔ Legible a := by
  constructor
  · rintro ⟨value, h⟩
    exact legible_of_read h
  · intro h
    obtain ⟨text, -, hread⟩ := read_write_of_legible h
    exact ⟨text, hread⟩

/-- **Whatever is read can be built again.** The parts of a declaration that is read, empty ones and such with
blanks and parts of an arrow at their ends included, are built, and what is built is read as the same parts. -/
theorem write_of_read {value : String} {a : BasicAuth} (h : read value = .ok a) :
    ∃ text, write a = .ok text ∧ read text = .ok a :=
  read_write_of_legible (legible_of_read h)

/-- A text with an empty host and an empty password, a path that ends in a dash, and a user name that begins with
an angle bracket and ends in a blank that is no space. -/
theorem write_of_read_edges :
    read "/-->>ü\u00a0:" = .ok ⟨"", some "/-", ">ü\u00a0", ""⟩ ∧
      ∃ text, write ⟨"", some "/-", ">ü\u00a0", ""⟩ = .ok text ∧
        read text = .ok ⟨"", some "/-", ">ü\u00a0", ""⟩ := by
  have hread : read "/-->>ü\u00a0:" = .ok ⟨"", some "/-", ">ü\u00a0", ""⟩ := by decide +kernel
  exact ⟨hread, write_of_read hread⟩

end ProxyTestbed.BasicAuth
