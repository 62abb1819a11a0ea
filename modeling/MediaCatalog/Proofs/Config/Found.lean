import MediaCatalog.Proofs.Config.Reading

/-!
# What was set is found

* `isSetting`: the keys at which a configuration holds something; `shown`: how it shows what was set there.
* `find?_of_holds`: what is found in a configuration that holds what entries say.
* **Main result** (`found_as_set`): what was set at a key is found there if the configuration has the key, and nothing is
  found if it has not.
-/

namespace MediaCatalog.Config

variable {c : Config} {entries settings : Entries} {v w : Value} {name : String} {names : List String}
variable {files : FileTree} {env : Environment} {path key text after : String}

/-! ## How settings are shown -/

/-- The keys of a configuration: its settings, the backends in it, and their settings. -/
def isSetting : List String → Bool
  | [name] => name == "database" || name == "strict_queries" || name == "mounts" || name == "backends"
  | [name, _] => name == "backends"
  | [name, _, setting] => name == "backends" && (setting == "enabled" || setting == "globs")
  | _ => false

/-- A part of a value: by its name among the fields, or by its position in a list. -/
def part? (name : String) (position : Nat) : Value → Option Value
  | .list items => items[position]?
  | v => v.fields?.bind fun fields => Pairs.get? name fields

/-- A part of a table is found by its name. -/
theorem part?_table (name : String) (position : Nat) (fields : Entries) :
    part? name position (.table fields) = Pairs.get? name fields := rfl

/-- A mount as it is shown: a table of its two fields. No mount that was read lacks one of them. -/
def shownMount (v : Value) : Value :=
  .table [("name", (part? "name" 0 v).getD (.text "")), ("schema", (part? "schema" 1 v).getD (.text ""))]

/-- A backend as it is shown: a table of its settings, with what is missing as it initially is. -/
def shownBackend (v : Value) : Value :=
  .table [("enabled", (part? "enabled" 0 v).getD (.bool true)), ("globs", (part? "globs" 1 v).getD (.list []))]

/-- How a configuration shows what was set at one of its keys: single settings as they are, mounts and backends as tables
of their fields. -/
def shown : List String → Value → Value
  | ["mounts"], .list items => .list (items.map shownMount)
  | ["backends"], .table settings => .table (settings.map fun e => (e.1, shownBackend e.2))
  | ["backends", _], v => shownBackend v
  | _, v => v

/-- What a configuration shows of a value that was set at a key: nothing, unless the key is one of its own. -/
def shown? (names : List String) (v : Value) : Option Value := if isSetting names = true then some (shown names v) else none

/-! ## Settings that were read -/

/-- Only a text is read as one. -/
theorem textOf?_eq_some {s : String} (h : textOf? v = some s) : v = .text s := by
  cases v with
  | text s => cases h; rfl
  | _ => cases h

/-- Only a flag is read as one. -/
theorem flagOf?_eq_some {b : Bool} (h : flagOf? v = some b) : v = .bool b := by
  cases v with
  | bool b => cases h; rfl
  | _ => cases h

/-- Each item of a list has been read. -/
theorem map_of_mapM {α β γ : Type} {f : γ → Option α} {g : α → β} {k : γ → β} {vs : List γ} {as : List α}
    (hread : ∀ v a, f v = some a → k v = g a) (h : vs.mapM f = some as) : vs.map k = as.map g := by
  induction vs generalizing as with
  | nil => cases h; rfl
  | cons v vs ih =>
    simp only [List.mapM_cons, Option.bind_eq_bind, Option.bind_eq_some_iff] at h
    obtain ⟨a, ha, as, has, h⟩ := h
    cases h
    rw [List.map_cons, List.map_cons, hread v a ha, ih has]

/-- A list of texts is as it was read. -/
theorem texts_eq_some {texts : List String} (h : listOf? textOf? v = some texts) : v = .list (texts.map .text) := by
  cases v with
  | list items => rw [← map_of_mapM (k := id) (fun v s hs => textOf?_eq_some hs) h, List.map_id]
  | _ => cases h

/-- A mount is shown with the fields that were read. -/
theorem shownMount_eq {m : MountSettings} (h : mountOf? v = some m) : shownMount v = mountValue m := by
  cases v with
  | list items =>
    match items, h with
    | name :: schema :: rest, h =>
      simp only [mountOf?, Option.bind_eq_bind, Option.bind_eq_some_iff] at h
      obtain ⟨s, hname, t, hschema, h⟩ := h
      cases h
      rw [textOf?_eq_some hname, textOf?_eq_some hschema]
      rfl
  | table fields =>
    simp only [mountOf?, Value.fields?, Option.bind_eq_bind, Option.bind_some, Option.bind_eq_some_iff] at h
    obtain ⟨s, ⟨name, hname, hs⟩, t, ⟨schema, hschema, ht⟩, h⟩ := h
    cases h
    rw [textOf?_eq_some hs] at hname
    rw [textOf?_eq_some ht] at hschema
    rw [shownMount, part?_table, part?_table, hname, hschema]
    rfl
  | _ => cases h

/-- A part that may be missing is as it was read, or as what stands for it. -/
theorem getD_of_readOr? {α : Type} {read : Value → Option α} (written : α → Value) {missing a : α} {v? : Option Value}
    (hread : ∀ v a, read v = some a → v = written a) (h : readOr? read missing v? = some a) :
    v?.getD (written missing) = written a := by
  cases v? with
  | none =>
    cases h
    rfl
  | some v => exact hread v a h

/-- A backend is shown with the settings that were read, or that it has initially. -/
theorem shownBackend_eq {s : BackendSettings} (h : backendOf? v = some s) : shownBackend v = backendValue s := by
  have hparts : readOr? flagOf? true (part? "enabled" 0 v) = some s.enabled ∧
      readOr? (listOf? textOf?) [] (part? "globs" 1 v) = some s.globs := by
    unfold backendOf? at h
    cases v with
    | list items =>
      simp only [Option.bind_eq_bind, Option.bind_some, Option.bind_eq_some_iff] at h
      obtain ⟨enabled, henabled, globs, hglobs, h⟩ := h
      cases h
      exact ⟨henabled, hglobs⟩
    | table fields =>
      simp only [Value.fields?, Option.map_some, Option.bind_eq_bind, Option.bind_some, Option.bind_eq_some_iff] at h
      obtain ⟨enabled, henabled, globs, hglobs, h⟩ := h
      cases h
      exact ⟨henabled, hglobs⟩
    | moment m =>
      cases h
      exact ⟨rfl, rfl⟩
    | _ => cases h
  have henabled := getD_of_readOr? Value.bool (fun _ _ => flagOf?_eq_some) hparts.1
  have hglobs := getD_of_readOr? (fun globs => .list (globs.map .text)) (fun _ _ => texts_eq_some) hparts.2
  rw [shownBackend, henabled, backendValue, ← hglobs]
  rfl

/-- The backends that were read, each by its name. -/
theorem backendsOf?_table {backends : Dict BackendSettings} (hascending : Ascending settings)
    (h : backendsOf? (.table settings) = some backends) :
    (backends.toList.map fun e => (e.1, backendValue e.2)) = settings.map fun e => (e.1, shownBackend e.2) := by
  simp only [backendsOf?, Value.fields?, Option.bind_eq_bind, Option.bind_some, Option.bind_eq_some_iff] at h
  obtain ⟨pairs, hpairs, h⟩ := h
  cases h
  have hnames : settings.map Prod.fst = pairs.map Prod.fst := map_of_mapM (fun e pair hpair => by
    obtain ⟨s, -, rfl⟩ := Option.map_eq_some_iff.mp hpair
    rfl) hpairs
  have hordered : Ascending pairs := by
    rw [Ascending, ← List.pairwise_map (f := Prod.fst), ← hnames]
    exact List.pairwise_map.mpr hascending
  have hlist : (Dict.ofList pairs).toList = pairs := by
    refine Pairs.ext_of_ascending (Dict.ascending _) hordered fun name => ?_
    have hget := Dict.get?_insertMany Dict.empty hordered name
    rw [Dict.get?_empty, Option.or_none] at hget
    exact hget
  rw [hlist]
  refine (map_of_mapM (fun e pair hpair => ?_) hpairs).symm
  obtain ⟨s, hs, rfl⟩ := Option.map_eq_some_iff.mp hpair
  rw [shownBackend_eq hs]

/-- Backends are a table. -/
theorem exists_table_of_backendsOf? {backends : Dict BackendSettings} (h : backendsOf? v = some backends) :
    ∃ settings, v = .table settings := by
  cases v with
  | table settings => exact ⟨settings, rfl⟩
  | _ => cases h

/-! ## What is found -/

/-- A value that is no table has nothing below it. -/
theorem find?_cons_eq_none (h : ∀ fields, v ≠ .table fields) (name : String) (path : List String) :
    v.find? (name :: path) = none := by
  cases v with
  | table fields => exact absurd rfl (h fields)
  | _ => rfl

/-- What is found in a backend as it is shown: its settings as they are, and nothing below them. -/
theorem find?_shownBackend {s : BackendSettings} {field : String} (hs : shownBackend w = backendValue s)
    (hfind : w.find? (field :: names) = some v) (backend : String) :
    (shownBackend w).find? (field :: names) =
      if isSetting ("backends" :: backend :: field :: names) = true then some v else none := by
  cases names with
  | nil =>
    obtain ⟨fields, rfl⟩ : ∃ fields, w = .table fields := by
      cases w with
      | table fields => exact ⟨fields, rfl⟩
      | _ => cases hfind
    rw [Value.find?_table_cons, Option.bind_eq_some_iff] at hfind
    obtain ⟨x, hget, hx⟩ := hfind
    cases hx
    rw [shownBackend, Value.find?_table_cons, part?_table, part?_table, Pairs.get?, Pairs.get?]
    split_ifs with henabled hsetting hglobs hsetting hsetting
    · subst henabled
      rw [hget]
      rfl
    · simp [isSetting, henabled] at hsetting
    · subst hglobs
      rw [hget]
      rfl
    · simp [isSetting, hglobs] at hsetting
    · simp [isSetting, Ne.symm henabled, Ne.symm hglobs] at hsetting
    · rfl
  | cons next names =>
    have hnone : isSetting ("backends" :: backend :: field :: next :: names) = false := rfl
    rw [hs, hnone, if_neg Bool.false_ne_true, backendValue, Value.find?_table_cons, Pairs.get?, Pairs.get?]
    split_ifs <;> rfl

/-- Only backends have something below them. -/
theorem isSetting_cons (h : "backends" ≠ name) (names : List String) :
    isSetting (name :: names) = (names.isEmpty && (name == "database" || name == "strict_queries" || name == "mounts")) := by
  match names with
  | [] => simp [isSetting, Ne.symm h]
  | [_] => simp [isSetting, Ne.symm h]
  | [_, _] => simp [isSetting, Ne.symm h]
  | _ :: _ :: _ :: _ => rfl

/-- What is found at a setting that is no table. -/
theorem find?_scalar {u : Value} (hu : ∀ fields, u ≠ .table fields) (hbackends : "backends" ≠ name)
    (hsetting : isSetting [name] = true) (hshown : u = shown [name] w) (hfind : w.find? names = some v) :
    u.find? names = shown? (name :: names) v := by
  cases names with
  | nil =>
    cases hfind
    rw [shown?, if_pos hsetting, hshown]
    rfl
  | cons next names =>
    have hnone : isSetting (name :: next :: names) = false := isSetting_cons hbackends (next :: names)
    rw [shown?, hnone]
    exact find?_cons_eq_none hu next names

/-- Mounts are shown as they were read. -/
theorem mounts_eq_shown {mounts : List MountSettings} (h : listOf? mountOf? v = some mounts) :
    .list (mounts.map mountValue) = shown ["mounts"] v := by
  cases v with
  | list items => rw [shown, map_of_mapM (fun _ _ => shownMount_eq) h]
  | _ => cases h

/-- What is found at the backends and below. -/
theorem find?_backends {backends : Dict BackendSettings} (hw : w.WellFormed) (h : backendsOf? w = some backends)
    (hfind : w.find? names = some v) :
    (Value.table (backends.toList.map fun e => (e.1, backendValue e.2))).find? names =
      shown? ("backends" :: names) v := by
  obtain ⟨settings, rfl⟩ := exists_table_of_backendsOf? h
  have hshown := backendsOf?_table hw.ascending h
  cases names with
  | nil =>
    cases hfind
    rw [hshown]
    rfl
  | cons backend names =>
    rw [Value.find?_table_cons, Option.bind_eq_some_iff] at hfind
    obtain ⟨w, hget, hfind⟩ := hfind
    have hfound := congrArg (Pairs.get? backend) hshown
    rw [Pairs.get?_map, Pairs.get?_map, hget, Option.map_some, Option.map_eq_some_iff] at hfound
    obtain ⟨s, -, hs⟩ := hfound
    rw [hshown, Value.find?_table_cons, Pairs.get?_map, hget, Option.map_some, Option.bind_some]
    cases names with
    | nil =>
      cases hfind
      rfl
    | cons field names =>
      rw [find?_shownBackend hs.symm hfind backend]
      rfl

/-- **What is found** in a configuration that holds what entries say. -/
theorem find?_of_holds (h : c.Holds entries) (hentries : (Value.table entries).WellFormed)
    (hfind : (Value.table entries).find? names = some v) (hnames : names ≠ []) :
    (Value.table c.entries).find? names = shown? names v := by
  obtain ⟨name, names, rfl⟩ := List.exists_cons_of_ne_nil hnames
  rw [Value.find?_table_cons, Option.bind_eq_some_iff] at hfind
  obtain ⟨w, hget, hfind⟩ := hfind
  have hw : w.WellFormed := hentries.of_get? hget
  rw [Value.find?_table_cons, get?_entries]
  split_ifs with hbackends hmounts hstrict hdatabase
  · subst hbackends
    exact find?_backends hw (h.backends hget) hfind
  · subst hmounts
    exact find?_scalar (fun _ => nofun) hbackends rfl (mounts_eq_shown (h.mounts hget)) hfind
  · subst hstrict
    exact find?_scalar (fun _ => nofun) hbackends rfl (flagOf?_eq_some (h.strictQueries hget)).symm hfind
  · subst hdatabase
    exact find?_scalar (fun _ => nofun) hbackends rfl (textOf?_eq_some (h.database hget)).symm hfind
  · rw [shown?, isSetting_cons hbackends]
    simp [Ne.symm hmounts, Ne.symm hstrict, Ne.symm hdatabase]

/-! ## Changes -/

/-- What a text denotes is well formed. -/
theorem wellFormed_valueOf (text : String) : (valueOf text).WellFormed := by
  unfold valueOf
  split
  · next v hread => exact (Toml.wellFormed_of_read? hread).of_mem_table _ List.mem_cons_self
  · exact .text text

/-- The entries of a file are well formed, and so are those of one that is missing. -/
theorem wellFormed_of_entriesOf {before : Option String} (h : entriesOf before = .ok entries) :
    (Value.table entries).WellFormed := by
  cases before with
  | none =>
    cases h
    exact Value.wellFormed_empty
  | some text => exact Toml.wellFormed_of_read? (read?_of_entriesOf h)

/-- A value that is put at a key is found there, and the key has no empty names. -/
theorem insert_eq_ok {changed : Entries} (hentries : (Value.table entries).WellFormed) (hv : v.WellFormed)
    (h : insert entries key v = .ok changed) :
    "" ∉ keyNames key ∧ (Value.table changed).WellFormed ∧ (Value.table changed).find? (keyNames key) = some v := by
  unfold insert at h
  rcases put_cases entries key v with ⟨-, hput⟩ | ⟨hfree, hdone, hput⟩
  · rw [hput] at h
    cases h
  · rw [hput] at h
    cases h
    exact ⟨fun hempty => hfree (.inl hempty), Value.wellFormed_put hentries hv _, Value.find?_put_self hdone⟩

/-- **The text to be written** is that of ordered entries in which the value has been put at the key. -/
theorem planned_eq_render (h : planned files env path key text = .ok after) :
    ∃ changed, after = Toml.render changed ∧ (Value.table changed).WellFormed ∧ "" ∉ keyNames key ∧
      (Value.table changed).find? (keyNames key) = some (valueOf text) := by
  unfold planned at h
  split_ifs at h with hext
  · cases h
  · obtain ⟨before, -, hedited⟩ := bind_eq_ok h
    obtain ⟨old, hold, hedited⟩ := bind_eq_ok hedited
    obtain ⟨changed, hchanged, hedited⟩ := bind_eq_ok hedited
    obtain ⟨_, -, hafter⟩ := bind_eq_ok hedited
    cases hafter
    obtain ⟨hnames, hwell, hfind⟩ := insert_eq_ok (wellFormed_of_entriesOf hold) (wellFormed_valueOf text) hchanged
    exact ⟨changed, rfl, hwell, hnames, hfind⟩

/-- A key without empty names is followed to its end. -/
theorem find?_of_not_empty (h : "" ∉ keyNames key) (c : Config) : c.find? key = (Value.table c.entries).find? (keyNames key) := by
  have hall : ∀ name ∈ keyNames key, (!name.isEmpty) = true := fun name hname => by
    rw [Bool.not_eq_true', ← Bool.not_eq_true, String.isEmpty_iff]
    rintro rfl
    exact h hname
  rw [Config.find?, List.takeWhile_eq_self_iff.mpr hall]

/-- A change that succeeds has written its text, and its outcome is what is loaded then. -/
theorem set_eq_ok {now : Int} (h : (set files env now path key text).1 = .ok c) :
    ∃ after written, planned files env path key text = .ok after ∧ files.save path after.toUTF8 now = (true, written) ∧
      set files env now path key text = (load written env (some path), written) := by
  cases hplanned : planned files env path key text with
  | error e =>
    rw [set, hplanned] at h
    cases h
  | ok after =>
    cases hsave : files.save path after.toUTF8 now with
    | mk saved written =>
      have hset : set files env now path key text =
          if saved = true then (load written env (some path), written) else (.error .save, written) := by
        rw [set, hplanned]
        dsimp only
        rw [hsave]
        cases saved <;> rfl
      cases saved with
      | false =>
        rw [hset] at h
        cases h
      | true => exact ⟨after, written, rfl, hsave, hset⟩

/-- **What was set is found.** Without variables for the program, a change that succeeds gives the configuration that is
loaded from the file afterwards. If the configuration has the key, then what was set is found there: a single setting as
the value that the text denotes, and mounts and backends as tables of their fields, in which missing settings of backends
are as they initially are. If the configuration has no such key, nothing is found. -/
theorem found_as_set {now : Int} (henv : env.entries = []) (hset : (set files env now path key text).1 = .ok c) :
    load (set files env now path key text).2 env (some path) = .ok c ∧
      (isSetting (keyNames key) = true → c.find? key = some (shown (keyNames key) (valueOf text))) ∧
      (isSetting (keyNames key) = false → c.find? key = none) := by
  obtain ⟨after, written, hplanned, hsave, hloads⟩ := set_eq_ok hset
  obtain ⟨-, found, hread, -⟩ := planned_eq_ok hplanned
  obtain ⟨changed, rfl, hwell, hnames, hfind⟩ := planned_eq_render hplanned
  obtain rfl := Toml.read?_render hwell hread
  obtain ⟨hlayers, -⟩ := set_of_save hplanned hsave hread
  have hload : load written env (some path) = .ok c := by
    rwa [hloads] at hset
  have hlayered : ofLayers (initialIn env) [Toml.entriesBack changed, []] = .ok c := by
    rw [← hload, ← henv]
    exact congrArg Prod.fst (hlayers.symm.trans hloads)
  have hstandard : (initialIn env).backends.toList = [] := rfl
  have hfound : c.find? key = shown? (keyNames key) (valueOf text) := by
    rw [find?_of_not_empty hnames]
    exact find?_of_holds (holds_of_ofLayers hstandard hwell hlayered) hwell hfind (keyNames_eq_iff.mp rfl).1
  refine ⟨?_, fun hsetting => ?_, fun hsetting => ?_⟩
  · rw [hloads]
    exact hload
  · rw [hfound, shown?, if_pos hsetting]
  · rw [hfound, shown?, hsetting, if_neg Bool.false_ne_true]

/-! ### Changes of a small file -/

/-- What a change of the file gives without an environment. -/
theorem set_holding {before after : String} {changed found : Entries} (hbefore : Toml.read? before = some entries)
    (hchanged : insert entries key (valueOf text) = .ok changed) (hrender : Toml.render changed = after)
    (hread : Toml.read? after = some found) (hfound : ofLayers (initial "metadata.db") [found] = .ok c) :
    (set (holding before) ⟨[]⟩ 0 "hashfs.toml" key text).1 = .ok c := by
  have hext : extension? "hashfs.toml" = some "toml" := by decide +kernel
  have hentries : entriesOf (some before) = .ok entries := by rw [entriesOf, hbefore]
  have hstandard : initialIn ⟨[]⟩ = initial "metadata.db" := rfl
  have hplanned : planned (holding before) ⟨[]⟩ "hashfs.toml" key text = .ok after := by
    rw [planned_of_textBefore hext (textBefore_of_node? (node?_holding before)), ← hrender]
    refine edited_eq_ok hentries hchanged ?_
    rw [hrender, hstandard]
    exact checkText_eq_ok hread hfound
  have hlayers : ofLayers (initial "metadata.db") [found, []] = ofLayers (initial "metadata.db") [found] := by
    rw [ofLayers, ofLayers]
    rfl
  rw [(set_of_save hplanned (save_holding before _) hread).1, hstandard]
  exact hlayers.trans hfound

/-- The configuration of the file with a backend in it. -/
def withRelease (settings : BackendSettings) : Config :=
  { initial "metadata.db" with backends := Dict.ofList [("release", settings)] }

/-- A backend is turned off in the file. -/
theorem set_release : (set (holding "strict_queries = false\n") ⟨[]⟩ 0 "hashfs.toml" "backends.release.enabled" "false").1 =
    .ok (withRelease ⟨false, []⟩) := by
  have hbefore : Toml.read? "strict_queries = false\n" = some [("strict_queries", .bool false)] := by cbv
  have hvalue : valueOf "false" = .bool false := by cbv
  have hnames : keyNames "backends.release.enabled" = ["backends", "release", "enabled"] := by decide +kernel
  have hchanged : insert [("strict_queries", .bool false)] "backends.release.enabled" (valueOf "false") =
      .ok [("backends", .table [("release", .table [("enabled", .bool false)])]), ("strict_queries", .bool false)] := by
    rw [hvalue, insert, put, hnames]
    rfl
  have hrender : Toml.render [("backends", .table [("release", .table [("enabled", .bool false)])]),
      ("strict_queries", .bool false)] = "strict_queries = false\n\n[backends.release]\nenabled = false\n" := by decide +kernel
  have hread : Toml.read? "strict_queries = false\n\n[backends.release]\nenabled = false\n" =
      some [("backends", .table [("release", .table [("enabled", .bool false)])]), ("strict_queries", .bool false)] := by cbv
  refine set_holding hbefore hchanged hrender hread (ofLayers_eq_ok (c := withRelease ⟨false, []⟩) rfl ?_)
  exact check_initial "metadata.db"

/-- The backend is found turned off. -/
theorem found_release :
    (set (holding "strict_queries = false\n") ⟨[]⟩ 0 "hashfs.toml" "backends.release.enabled" "false").1 =
        .ok (withRelease ⟨false, []⟩) ∧
      load (set (holding "strict_queries = false\n") ⟨[]⟩ 0 "hashfs.toml" "backends.release.enabled" "false").2 ⟨[]⟩
        (some "hashfs.toml") = .ok (withRelease ⟨false, []⟩) ∧
      (withRelease ⟨false, []⟩).find? "backends.release.enabled" = some (.bool false) := by
  have henv : Environment.entries ⟨[]⟩ = [] := rfl
  obtain ⟨hload, hfind, -⟩ := found_as_set henv set_release
  have hnames : keyNames "backends.release.enabled" = ["backends", "release", "enabled"] := by decide +kernel
  have hvalue : valueOf "false" = .bool false := by cbv
  rw [hnames, hvalue] at hfind
  exact ⟨set_release, hload, hfind rfl⟩

/-- A value that was set at a key of which the configuration knows nothing is not found. -/
theorem not_found_of_unknown :
    ¬∀ (files : FileTree) (env : Environment) (now : Int) (path key text : String) (c : Config), env.entries = [] →
      (set files env now path key text).1 = .ok c → c.find? key = some (valueOf text) := by
  intro hclaim
  have hbefore : Toml.read? "strict_queries = false\n" = some [("strict_queries", .bool false)] := by cbv
  have hvalue : valueOf "42" = .integer 42 := by cbv
  have hnames : keyNames "answer" = ["answer"] := by decide +kernel
  have hchanged : insert [("strict_queries", .bool false)] "answer" (valueOf "42") =
      .ok [("answer", .integer 42), ("strict_queries", .bool false)] := by
    rw [hvalue, insert, put, hnames]
    rfl
  have hrender : Toml.render [("answer", .integer 42), ("strict_queries", .bool false)] =
      "answer = 42\nstrict_queries = false\n" := by decide +kernel
  have hread : Toml.read? "answer = 42\nstrict_queries = false\n" =
      some [("answer", .integer 42), ("strict_queries", .bool false)] := by cbv
  have hset : (set (holding "strict_queries = false\n") ⟨[]⟩ 0 "hashfs.toml" "answer" "42").1 = .ok (initial "metadata.db") :=
    set_holding hbefore hchanged hrender hread (ofLayers_eq_ok rfl (check_initial "metadata.db"))
  have hnone : (initial "metadata.db").find? "answer" = none := by decide +kernel
  have hsome := hclaim _ ⟨[]⟩ 0 "hashfs.toml" "answer" "42" _ rfl hset
  rw [hnone] at hsome
  cases hsome

end MediaCatalog.Config
