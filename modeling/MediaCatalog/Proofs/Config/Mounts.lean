import Mathlib.Data.List.Basic
import MediaCatalog.Proofs.Config.Set
import MediaCatalog.Proofs.Namespace.Registration
import MediaCatalog.Proofs.Namespace.ReleaseLevels

/-!
# The mounts of a configuration

When a configuration is loaded, the names and schema texts of its mounts are checked; when the catalog is browsed, the
mounts are registered in their order, and their names are checked again. The second check knows two names more that no
mount can have: those of the dots.

* `Config.check_eq_ok_iff`, `Config.check_of_load`: what is known of the mounts of a configuration that was loaded.
* `Config.registered`: the namespace of the mounts. It is that of a run of registrations without failures
  (`Namespace.foldlM_withMount_eq_ok_iff`).
* **Main result** (`Config.registered_iff_not_dots`): if all schemas can be read, the mounts of a configuration that was
  loaded can be registered unless one of them is named like one of the dots; then the root lists their names, and
  the last mount of a name counts.
-/

namespace MediaCatalog

/-! ## Checked mounts -/

namespace Config

variable {c : Config} {m : MountSettings}

/-- A mount passes the check if its name is one segment and its schema is not blank. -/
theorem checkMount_eq_ok_iff :
    checkMount m = .ok () ↔ (m.name ≠ "" ∧ '/' ∉ m.name.toList) ∧ (Text.trim m.schema).isEmpty = false := by
  rw [checkMount]
  split
  · next hname =>
    refine iff_of_false (by simp) ?_
    rintro ⟨⟨hne, hslash⟩, -⟩
    simp [hne, hslash] at hname
  · next hname =>
    have hproper : m.name ≠ "" ∧ '/' ∉ m.name.toList := by simpa using hname
    split
    · next hblank => exact iff_of_false (by simp) fun h => by simp [hblank] at h
    · next hfilled => exact iff_of_true rfl ⟨hproper, by simpa using hfilled⟩

/-- All mounts pass the check of a configuration that does. -/
theorem check_eq_ok_iff : c.check = .ok () ↔ ∀ m ∈ c.mounts, checkMount m = .ok () := by
  refine ⟨fun h => ?_, check_of_forall⟩
  rw [check] at h
  generalize c.mounts = mounts at h
  induction mounts with
  | nil => exact fun m hm => absurd hm List.not_mem_nil
  | cons first mounts ih =>
    obtain ⟨_, hfirst, hrest⟩ := bind_eq_ok h
    intro m hm
    rcases List.mem_cons.mp hm with rfl | hm
    · exact hfirst
    · exact ih hrest m hm

/-- What layers describe together passes the check. -/
theorem check_of_ofLayers {standard : Config} {layers : List Entries} (h : ofLayers standard layers = .ok c) :
    c.check = .ok () := by
  rw [ofLayers] at h
  split at h
  · cases h
  · obtain ⟨_, hcheck, hc⟩ := bind_eq_ok h
    cases hc
    exact hcheck

/-- **A configuration that was loaded** passes the check. -/
theorem check_of_load {files : FileTree} {env : Environment} {path : Option String} (h : load files env path = .ok c) :
    c.check = .ok () := by
  obtain ⟨found, -, h⟩ := bind_eq_ok h
  split at h
  · cases h
  · exact check_of_ofLayers h

end Config

/-! ## Registering without failures -/

namespace Namespace

variable {n after : Namespace} {m : MountSettings} {mounts : List MountSettings}

/-- A namespace has one more mount if that can be registered. -/
theorem withMount_eq_ok_iff : n.withMount m.name m.schema = .ok after ↔ n.register m.name m.schema = (.ok (), after) := by
  unfold withMount
  rcases n.register m.name m.schema with ⟨outcome, n'⟩
  cases outcome <;> simp [Except.map]

/-- A mount that cannot be registered is not added. -/
theorem withMount_eq_error_iff {cause : NamespaceError} :
    n.withMount m.name m.schema = .error cause ↔ (n.register m.name m.schema).1 = .error cause := by
  unfold withMount
  rcases n.register m.name m.schema with ⟨outcome, n'⟩
  cases outcome <;> simp [Except.map]

/-- **Mounts are added in order** if no registration of the run fails. -/
theorem foldlM_withMount_eq_ok_iff :
    mounts.foldlM (fun n m => n.withMount m.name m.schema) n = .ok after ↔
      (∀ a ∈ n.attempts mounts, a.result = .ok ()) ∧ after = n.mounted mounts := by
  induction mounts generalizing n with
  | nil => simp [attempts, mounted, pure, Except.pure, eq_comm]
  | cons m rest ih =>
    rw [List.foldlM_cons, attempts, List.forall_mem_cons, mounted, List.foldl_cons, ← mounted]
    cases hmount : n.withMount m.name m.schema with
    | error cause =>
      have hfails := withMount_eq_error_iff.mp hmount
      refine iff_of_false (fun h => by cases h) ?_
      rintro ⟨⟨hok, -⟩, -⟩
      exact absurd (hok.symm.trans hfails) (by simp)
    | ok next =>
      rw [withMount_eq_ok_iff.mp hmount]
      simpa [bind, Except.bind] using ih

/-- The first mount that cannot be registered ends the run. -/
theorem exists_of_foldlM_withMount_eq_error {cause : NamespaceError}
    (h : mounts.foldlM (fun n m => n.withMount m.name m.schema) n = .error cause) :
    ∃ m ∈ mounts, ∃ reason, cause = .schema reason ∧ m.Faulty reason := by
  induction mounts generalizing n with
  | nil => cases h
  | cons m rest ih =>
    rw [List.foldlM_cons] at h
    cases hmount : n.withMount m.name m.schema with
    | error cause' =>
      rw [hmount] at h
      cases h
      exact ⟨m, List.mem_cons_self, register_eq_error_iff.mp (withMount_eq_error_iff.mp hmount)⟩
    | ok next =>
      rw [hmount] at h
      obtain ⟨m', hm', hfault⟩ := ih h
      exact ⟨m', List.mem_cons_of_mem m hm', hfault⟩

/-- The history of a run without failures. -/
theorem attempts_of_forall (h : ∀ a ∈ n.attempts mounts, a.result = .ok ()) :
    n.attempts mounts = mounts.map fun m => ⟨m, .ok ()⟩ := by
  induction mounts generalizing n with
  | nil => rfl
  | cons m rest ih =>
    rw [attempts, List.forall_mem_cons] at h
    have hfirst : (n.register m.name m.schema).1 = .ok () := h.1
    rw [attempts, List.map_cons, ih h.2, hfirst]

end Namespace

/-- Without failures the last registration of a name is a success. -/
theorem lastSuccess_map_iff {mounts : List MountSettings} {m : MountSettings} :
    LastSuccess (mounts.map fun m => ⟨m, .ok ()⟩) m ↔
      ∃ before after, mounts = before ++ m :: after ∧ ∀ m' ∈ after, m'.name ≠ m.name := by
  constructor
  · rintro ⟨before, after, hsplit, hafter⟩
    obtain ⟨before, rest, rfl, rfl, hrest⟩ := List.map_eq_append_iff.mp hsplit
    obtain ⟨m', after, rfl, hm', rfl⟩ := List.map_eq_cons_iff.mp hrest
    cases hm'
    exact ⟨before, after, rfl, fun m' hm' hname => hafter ⟨m', .ok ()⟩ (List.mem_map.mpr ⟨m', hm', rfl⟩) hname rfl⟩
  · rintro ⟨before, after, rfl, hafter⟩
    refine ⟨before.map fun m => ⟨m, .ok ()⟩, after.map fun m => ⟨m, .ok ()⟩, by simp, fun a ha hname => ?_⟩
    obtain ⟨m', hm', rfl⟩ := List.mem_map.mp ha
    exact absurd hname (hafter m' hm')

/-! ## Browsing a configuration -/

namespace Config

variable {c : Config}

/-- The namespace of the mounts of a configuration, registered in their order. -/
def registered (c : Config) : Except NamespaceError Namespace :=
  c.mounts.foldlM (fun n m => n.withMount m.name m.schema) (Namespace.new c.strictQueries)

/-- A mount that passes the check is named like one of the dots if something is wrong with it, unless it is its
schema. -/
theorem faulty_of_check {m : MountSettings} {reason : SchemaError} (hcheck : checkMount m = .ok ())
    (hschema : ∃ schema, Schema.ofText m.schema = .ok schema) (h : m.Faulty reason) :
    (m.name = "." ∨ m.name = "..") ∧ reason = .badName m.name := by
  obtain ⟨hne, hslash⟩ := (checkMount_eq_ok_iff.mp hcheck).1
  rcases h with hname | ⟨-, hfault⟩
  · refine ⟨?_, rfl⟩
    by_contra hother
    obtain ⟨hdot, hdots⟩ := not_or.mp hother
    exact absurd (Mounts.isName_iff.mpr ⟨hne, hslash, hdot, hdots⟩) (by simp [hname])
  · obtain ⟨schema, hok⟩ := hschema
    rw [Schema.ofText_eq_error_iff.mpr hfault] at hok
    cases hok

/-- **A configuration that was loaded can be browsed** unless a mount is named like one of the dots. If all its
schemas can be read:

* Its mounts can be registered in their order exactly if no name is `.` or `..`; else the error names such a mount.
* Once they are registered, the root lists the dots and then, each once and in ascending order, the names of the
  mounts; under each name stands the schema of the last mount of that name. -/
theorem registered_iff_not_dots {files : FileTree} {env : Environment} {path : Option String}
    (hload : load files env path = .ok c) (hschemas : ∀ m ∈ c.mounts, ∃ schema, Schema.ofText m.schema = .ok schema) :
    ((∃ n, c.registered = .ok n) ↔ ∀ m ∈ c.mounts, m.name ≠ "." ∧ m.name ≠ "..") ∧
      (∀ cause, c.registered = .error cause →
        ∃ m ∈ c.mounts, (m.name = "." ∨ m.name = "..") ∧ cause = .schema (.badName m.name)) ∧
      ∀ n, c.registered = .ok n →
        (∃ names : List String, names.Pairwise (· < ·) ∧ (∀ name, name ∈ names ↔ ∃ m ∈ c.mounts, m.name = name) ∧
          ∀ store path, Text.segments path = [] →
            n.browser.list store path = .ok (Browser.dots ++ names.map fun name => (name, .directory))) ∧
        ∀ before m after, c.mounts = before ++ m :: after → (∀ m' ∈ after, m'.name ≠ m.name) →
          ∃ schema, Schema.ofText m.schema = .ok schema ∧ n.browser.mounts.get? m.name = some schema := by
  have hchecked := check_eq_ok_iff.mp (check_of_load hload)
  have hfails : ∀ cause, c.registered = .error cause →
      ∃ m ∈ c.mounts, (m.name = "." ∨ m.name = "..") ∧ cause = .schema (.badName m.name) := by
    intro cause hcause
    obtain ⟨m, hm, reason, rfl, hfault⟩ := Namespace.exists_of_foldlM_withMount_eq_error hcause
    obtain ⟨hname, rfl⟩ := faulty_of_check (hchecked m hm) (hschemas m hm) hfault
    exact ⟨m, hm, hname, rfl⟩
  refine ⟨⟨?_, ?_⟩, hfails, ?_⟩
  · rintro ⟨n, hn⟩ m hm
    obtain ⟨hok, -⟩ := Namespace.foldlM_withMount_eq_ok_iff.mp hn
    have ha : ⟨m, .ok ()⟩ ∈ (Namespace.new c.strictQueries).attempts c.mounts := by
      rw [Namespace.attempts_of_forall hok]
      exact List.mem_map.mpr ⟨m, hm, rfl⟩
    obtain ⟨hname, -⟩ := Namespace.registered_of_mem_attempts ha rfl
    exact (Mounts.isName_iff.mp hname).2.2
  · intro hdots
    cases hregistered : c.registered with
    | ok n => exact ⟨n, rfl⟩
    | error cause =>
      obtain ⟨m, hm, hname, -⟩ := hfails cause hregistered
      obtain ⟨hdot, hdots⟩ := hdots m hm
      exact (hname.elim hdot hdots).elim
  · intro n hn
    obtain ⟨hok, rfl⟩ := Namespace.foldlM_withMount_eq_ok_iff.mp hn
    have hhistory := Namespace.attempts_of_forall hok
    refine ⟨⟨_, Dict.keys_pairwise _, fun name => ?_, fun store path hpath => Browser.list_root hpath⟩, ?_⟩
    · rw [Namespace.mem_keys_mounted_iff, hhistory]
      simp
    · intro before m after hsplit hafter
      have hlast : LastSuccess ((Namespace.new c.strictQueries).attempts c.mounts) m := by
        rw [hhistory]
        exact lastSuccess_map_iff.mpr ⟨before, after, hsplit, hafter⟩
      obtain ⟨hname, schema, hschema⟩ := Namespace.registered_of_mem_attempts hlast.mem rfl
      exact ⟨schema, hschema, (Namespace.get?_mounted_iff _ _).mpr ⟨m, rfl, hlast, hname, hschema⟩⟩

/-! ### Configurations with mounts -/

/-- The configuration in which a list of mounts is all that is said. -/
def withMounts (mounts : List MountSettings) : Config := ⟨"metadata.db", false, mounts, Dict.empty⟩

/-- What is loaded without an environment from a file that says nothing but mounts. -/
theorem load_withMounts {text : String} {entries : Entries} {mounts : List MountSettings} (hread : Toml.read? text = some entries)
    (hentries : ofEntries? (initial "metadata.db") (layered [(initial "metadata.db").entries, entries]) = some (withMounts mounts))
    (hcheck : ∀ m ∈ mounts, checkMount m = .ok ()) :
    load (holding text) ⟨[]⟩ (some "hashfs.toml") = .ok (withMounts mounts) := by
  have hext : extension? "hashfs.toml" = some "toml" := by decide +kernel
  rw [load_written hext (node?_holding text) hread]
  exact ofLayers_eq_ok hentries (check_of_forall hcheck)

/-- Two mounts, of which the first is defined again. -/
def redefined : List MountSettings :=
  [⟨"tv", "q=\"\" d=\"$a\""⟩, ⟨"new", "q=\"\" d=\"$a\""⟩, ⟨"tv", "q=\"\" d=\"$b\""⟩]

/-- A configuration file with these mounts. -/
def redefinedText : String :=
  "[[mounts]]\nname = 'tv'\nschema = 'q=\"\" d=\"$a\"'\n[[mounts]]\nname = 'new'\nschema = 'q=\"\" d=\"$a\"'\n" ++
    "[[mounts]]\nname = 'tv'\nschema = 'q=\"\" d=\"$b\"'\n"

/-- A level that shows all entries by a field. -/
def levelOf (label : String) : Level := ⟨⟨""⟩, ⟨label⟩, none, none, none⟩

/-- The schemas of the mounts. -/
theorem ofText_redefined : Schema.ofText "q=\"\" d=\"$a\"" = .ok ⟨"q=\"\" d=\"$a\"", [levelOf "$a"]⟩ ∧
    Schema.ofText "q=\"\" d=\"$b\"" = .ok ⟨"q=\"\" d=\"$b\"", [levelOf "$b"]⟩ :=
  ⟨Schema.ofText_of_toList String.toList_ofList (by decide) (by decide +kernel),
    Schema.ofText_of_toList String.toList_ofList (by decide) (by decide +kernel)⟩

/-- A mount that is defined again has the schema of its last definition. -/
theorem registered_of_redefined :
    load (holding redefinedText) ⟨[]⟩ (some "hashfs.toml") =
      .ok (withMounts redefined) ∧
      (∀ m ∈ redefined, ∃ schema, Schema.ofText m.schema = .ok schema) ∧
      ∃ n, (withMounts redefined).registered = .ok n ∧
        n.browser.mounts.get? "tv" = some ⟨"q=\"\" d=\"$b\"", [levelOf "$b"]⟩ := by
  have hschemas : ∀ m ∈ redefined, ∃ schema, Schema.ofText m.schema = .ok schema := by
    intro m hm
    obtain ⟨ha, hb⟩ := ofText_redefined
    rcases List.mem_cons.mp hm with rfl | hm
    · exact ⟨_, ha⟩
    · rcases List.mem_cons.mp hm with rfl | hm
      · exact ⟨_, ha⟩
      · cases List.mem_singleton.mp hm
        exact ⟨_, hb⟩
  have hread : Toml.read? redefinedText = some [("mounts", .list (redefined.map mountValue))] := by cbv
  have hload : load (holding redefinedText) ⟨[]⟩ (some "hashfs.toml") = .ok (withMounts redefined) :=
    load_withMounts hread rfl (by decide +kernel)
  obtain ⟨hiff, -, hregistered⟩ := registered_iff_not_dots hload hschemas
  obtain ⟨n, hn⟩ := hiff.mpr (by decide)
  obtain ⟨schema, hschema, hget⟩ := (hregistered n hn).2 (redefined.take 2) ⟨"tv", "q=\"\" d=\"$b\""⟩ [] rfl (by simp)
  cases ofText_redefined.2.symm.trans hschema
  exact ⟨hload, hschemas, n, hn, hget⟩

/-- A configuration that was loaded, with schemas that can be read, may have a mount that cannot be registered. -/
theorem not_registered_of_dots :
    ¬∀ (files : FileTree) (env : Environment) (path : Option String) (c : Config), load files env path = .ok c →
      (∀ m ∈ c.mounts, ∃ schema, Schema.ofText m.schema = .ok schema) → ∃ n, c.registered = .ok n := by
  intro hclaim
  have hread : Toml.read? "[[mounts]]\nname = '..'\nschema = 'q=\"\" d=\"$a\"'\n" =
      some [("mounts", .list [mountValue ⟨"..", "q=\"\" d=\"$a\""⟩])] := by cbv
  have hload : load (holding _) ⟨[]⟩ (some "hashfs.toml") = .ok (withMounts [⟨"..", "q=\"\" d=\"$a\""⟩]) :=
    load_withMounts hread rfl (by decide +kernel)
  obtain ⟨n, hn⟩ := hclaim _ _ _ _ hload fun m hm => by
    cases List.mem_singleton.mp hm
    exact ⟨_, ofText_redefined.1⟩
  cases hn

end Config

end MediaCatalog
