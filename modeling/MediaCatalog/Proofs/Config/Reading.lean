import MediaCatalog.Proofs.Config.Set
import MediaCatalog.Proofs.Toml.Document

/-!
# What a configuration takes from a file

* `get?_layered`: what a file says counts; what it leaves out is as it initially is.
* `Config.Steady`: a reading of values finds the same in what a value becomes when it is written and read. The readings
  of all settings are such.
* **Main result** (`holds_of_ofLayers`): the configuration of a file that was written from entries holds what they say.
-/

namespace MediaCatalog

/-! ## Layers -/

namespace Pairs

variable {α : Type}

/-- A key before all others comes first. -/
theorem insert_of_lt {key : String} {entries : List (String × α)} (h : ∀ e ∈ entries, key < e.1) (v : α) :
    insert key v entries = (key, v) :: entries := by
  cases entries with
  | nil => rfl
  | cons head rest =>
    obtain ⟨k, w⟩ := head
    rw [insert, if_pos (h _ List.mem_cons_self)]

end Pairs

namespace Value

variable {v w : Value} {name : String} {entries : Entries}

/-- Ordered entries laid over none are as they were. -/
theorem overlayEntries_nil (h : Ascending entries) : overlayEntries [] entries = entries := by
  induction entries with
  | nil => rfl
  | cons head rest ih =>
    obtain ⟨name, v⟩ := head
    obtain ⟨hhead, hrest⟩ := List.pairwise_cons.mp h
    rw [overlayEntries, ih hrest]
    exact Pairs.insert_of_lt hhead v

/-- Each entry is laid over the one of its name, if there is one. -/
theorem get?_overlayEntries (below entries : Entries) (name : String) :
    Pairs.get? name (overlayEntries below entries) =
      match Pairs.get? name entries with
      | none => Pairs.get? name below
      | some v => some (((Pairs.get? name below).map fun w => overlay w v).getD v) := by
  induction entries with
  | nil => rfl
  | cons head rest ih =>
    obtain ⟨k, v⟩ := head
    rw [overlayEntries, Pairs.get?_insert, Pairs.get?, ih]
    by_cases hk : k = name
    · subst hk
      rw [if_pos rfl, if_pos rfl]
      cases Pairs.get? k below <;> rfl
    · rw [if_neg hk, if_neg hk]

/-- Over a value without fields, or with none, a well-formed value counts alone. -/
theorem overlay_eq_right (hw : w.fields?.getD [] = []) (hv : v.WellFormed) : overlay w v = v := by
  cases v with
  | table entries => rw [overlay, hw, overlayEntries_nil hv.ascending]
  | _ => rfl

end Value

namespace Config

variable {c standard : Config} {entries : Entries} {v w : Value} {name : String} {names : List String}

/-- The values of a configuration. -/
theorem get?_entries (c : Config) (name : String) :
    Pairs.get? name c.entries =
      if "backends" = name then some (.table (c.backends.toList.map fun e => (e.1, backendValue e.2)))
      else if "mounts" = name then some (.list (c.mounts.map mountValue))
      else if "strict_queries" = name then some (.bool c.strictQueries)
      else if "database" = name then some (.text c.database)
      else none := by
  simp only [Config.entries, outline, List.foldl, Pairs.get?_insert, Pairs.get?]

/-- Without backends nothing in a configuration has fields of its own. -/
theorem fields?_of_get?_entries (h : c.backends.toList = []) (hget : Pairs.get? name c.entries = some w) :
    w.fields?.getD [] = [] := by
  rw [get?_entries, h] at hget
  split_ifs at hget <;> cases hget <;> rfl

/-- What a file says counts, and what it leaves out is as it is without backends. -/
theorem get?_layered (hstandard : standard.backends.toList = []) (h : (Value.table entries).WellFormed) (name : String) :
    Pairs.get? name (layered [standard.entries, entries, []]) =
      (Pairs.get? name entries).or (Pairs.get? name standard.entries) := by
  have hordered : Ascending standard.entries := Pairs.ascending_foldl_insert List.Pairwise.nil _
  have hlayered : layered [standard.entries, entries, []] = Value.overlayEntries standard.entries entries := by
    simp only [layered, List.foldl, Value.overlayEntries_nil hordered, Value.overlayEntries]
  rw [hlayered, Value.get?_overlayEntries]
  cases hget : Pairs.get? name entries with
  | none => rfl
  | some v =>
    refine congrArg some ?_
    cases hbelow : Pairs.get? name standard.entries with
    | none => rfl
    | some w => exact Value.overlay_eq_right (fields?_of_get?_entries hstandard hbelow) (h.of_get? hget)

/-! ## Readings -/

/-- A reading finds the same in a value and in what it becomes when it is written and read. -/
def Steady {α : Type} (read : Value → Option α) : Prop := ∀ v, v.WellFormed → read (Toml.valueBack v) = read v

/-- What is read from each of many is the same if it is the same for each. -/
theorem mapM_map_of_forall {α β γ : Type} {f : α → β} {g : β → Option γ} {k : α → Option γ} {as : List α}
    (h : ∀ a ∈ as, g (f a) = k a) : (as.map f).mapM g = as.mapM k := by
  induction as with
  | nil => rfl
  | cons a as ih =>
    obtain ⟨ha, has⟩ := List.forall_mem_cons.mp h
    rw [List.map_cons, List.mapM_cons, List.mapM_cons, ha, ih has]

/-- A reading of no numbers finds nothing in a float, nor in what it becomes. -/
theorem read_float {α : Type} {read : Value → Option α} (hinteger : ∀ n, read (.integer n) = none)
    (hfloat : ∀ x, read (.float x) = none) (x : Number.Binary64) : read (Toml.valueBack (.float x)) = read (.float x) := by
  rw [hfloat]
  rcases Toml.valueBack_float x with ⟨n, hback⟩ | ⟨y, hback⟩
  · rw [hback, hinteger]
  · rw [hback, hfloat]

/-- Texts are read as they were. -/
theorem steady_textOf? : Steady textOf? := fun v hv => by
  cases hv with
  | float x => exact read_float (fun _ => rfl) (fun _ => rfl) x
  | _ => rfl

/-- Flags are read as they were. -/
theorem steady_flagOf? : Steady flagOf? := fun v hv => by
  cases hv with
  | float x => exact read_float (fun _ => rfl) (fun _ => rfl) x
  | _ => rfl

/-- Lists are read as they were if their items are. -/
theorem Steady.listOf? {α : Type} {item : Value → Option α} (hitem : Steady item) : Steady (listOf? item) := fun v hv => by
  cases hv with
  | float x => exact read_float (fun _ => rfl) (fun _ => rfl) x
  | @list items hitems =>
    rw [Toml.valueBack, Toml.itemsBack_eq_map]
    exact mapM_map_of_forall fun v hv => hitem v (hitems v hv)
  | _ => rfl

/-- What is missing stays missing, and what is there is read as it was. -/
theorem Steady.readOr? {α : Type} {read : Value → Option α} (hread : Steady read) {v? : Option Value}
    (hv : ∀ v ∈ v?, v.WellFormed) (missing : α) : readOr? read missing (v?.map Toml.valueBack) = readOr? read missing v? := by
  cases v? with
  | none => rfl
  | some v => exact hread v (hv v rfl)

/-- What is read from a field that has to be there. -/
theorem Steady.bind_get? {α : Type} {read : Value → Option α} (hread : Steady read) (h : (Value.table entries).WellFormed)
    (name : String) : (Pairs.get? name (Toml.entriesBack entries)).bind read = (Pairs.get? name entries).bind read := by
  rw [Toml.get?_entriesBack]
  cases hget : Pairs.get? name entries with
  | none => rfl
  | some v => exact hread v (h.of_get? hget)

/-- Mounts are read as they were. -/
theorem steady_mountOf? : Steady mountOf? := fun v hv => by
  cases hv with
  | float x => exact read_float (fun _ => rfl) (fun _ => rfl) x
  | @list items hitems =>
    match items, hitems with
    | [], _ => rfl
    | [_], _ => rfl
    | name :: schema :: _, hitems =>
      rw [Toml.valueBack, Toml.itemsBack, Toml.itemsBack, mountOf?, mountOf?, steady_textOf? name (hitems _ List.mem_cons_self),
        steady_textOf? schema (hitems _ (List.mem_cons_of_mem _ List.mem_cons_self))]
  | @table entries hascending hentries =>
    have htable : (Value.table entries).WellFormed := .table hascending hentries
    have hname := steady_textOf?.bind_get? htable "name"
    have hschema := steady_textOf?.bind_get? htable "schema"
    simp only [Toml.valueBack, mountOf?, Value.fields?, Option.bind_eq_bind, Option.bind_some, hname, hschema]
  | _ => rfl

/-- The settings of a backend are read as they were. -/
theorem steady_backendOf? : Steady backendOf? := fun v hv => by
  cases hv with
  | float x => exact read_float (fun _ => rfl) (fun _ => rfl) x
  | @list items hitems =>
    have hat (n : Nat) : ∀ v ∈ items[n]?, v.WellFormed := fun v hv => hitems v (List.mem_of_getElem? hv)
    simp only [Toml.valueBack, Toml.itemsBack_eq_map, backendOf?, Option.bind_eq_bind, Option.bind_some, List.getElem?_map,
      steady_flagOf?.readOr? (hat 0), steady_textOf?.listOf?.readOr? (hat 1)]
  | @table entries hascending hentries =>
    have hat (name : String) : ∀ v ∈ Pairs.get? name entries, v.WellFormed := fun v hv => hentries _ (Pairs.mem_of_get? hv)
    simp only [Toml.valueBack, backendOf?, Value.fields?, Option.map_some, Option.bind_eq_bind, Option.bind_some,
      Toml.get?_entriesBack, steady_flagOf?.readOr? (hat "enabled"), steady_textOf?.listOf?.readOr? (hat "globs")]
  | _ => rfl

/-- **Backends are read as they were**, each under its name. -/
theorem steady_backendsOf? : Steady backendsOf? := fun v hv => by
  cases hv with
  | float x => exact read_float (fun _ => rfl) (fun _ => rfl) x
  | @table entries hascending hentries =>
    have hpairs : (Toml.entriesBack entries).mapM (fun e => (backendOf? e.2).map fun settings => (e.1, settings)) =
        entries.mapM fun e => (backendOf? e.2).map fun settings => (e.1, settings) := by
      rw [Toml.entriesBack_eq_map]
      refine mapM_map_of_forall fun e he => ?_
      dsimp only
      rw [steady_backendOf? e.2 (hentries e he)]
    simp only [Toml.valueBack, backendsOf?, Value.fields?, Option.bind_eq_bind, Option.bind_some]
    exact congrArg (fun pairs? => pairs?.bind fun pairs => some (Dict.ofList pairs)) hpairs
  | _ => rfl

/-! ## What a configuration holds -/

/-- A configuration holds what entries say. -/
structure Holds (c : Config) (entries : Entries) : Prop where
  database {v : Value} (h : Pairs.get? "database" entries = some v) : textOf? v = some c.database
  strictQueries {v : Value} (h : Pairs.get? "strict_queries" entries = some v) : flagOf? v = some c.strictQueries
  mounts {v : Value} (h : Pairs.get? "mounts" entries = some v) : listOf? mountOf? v = some c.mounts
  backends {v : Value} (h : Pairs.get? "backends" entries = some v) : backendsOf? v = some c.backends

/-- A setting that entries give is read from what it becomes. -/
theorem Steady.of_readOr? {α : Type} {read : Value → Option α} (hread : Steady read) {layer : Entries} {missing a : α}
    (h : (Value.table entries).WellFormed)
    (hlayer : ∀ v, Pairs.get? name entries = some v → Pairs.get? name layer = some (Toml.valueBack v))
    (hfound : Config.readOr? read missing (Pairs.get? name layer) = some a) (hget : Pairs.get? name entries = some v) :
    read v = some a := by
  rw [hlayer v hget] at hfound
  rw [← hread v (h.of_get? hget)]
  exact hfound

/-- **The configuration of a file** that was written from entries holds what they say. -/
theorem holds_of_ofLayers (hstandard : standard.backends.toList = []) (h : (Value.table entries).WellFormed)
    (hlayers : ofLayers standard [Toml.entriesBack entries, []] = .ok c) : c.Holds entries := by
  have hlayer (name : String) (v : Value) (hget : Pairs.get? name entries = some v) :
      Pairs.get? name (layered [standard.entries, Toml.entriesBack entries, []]) = some (Toml.valueBack v) := by
    have hback : (Value.table (Toml.entriesBack entries)).WellFormed := Toml.wellFormed_valueBack h
    rw [get?_layered hstandard hback, Toml.get?_entriesBack, hget]
    rfl
  unfold ofLayers at hlayers
  split at hlayers
  · cases hlayers
  · next c' hentries =>
    obtain ⟨_, -, hc⟩ := bind_eq_ok hlayers
    cases hc
    simp only [ofEntries?, Option.bind_eq_bind, Option.bind_eq_some_iff] at hentries
    obtain ⟨database, hdatabase, strict, hstrict, mounts, hmounts, backends, hbackends, hc⟩ := hentries
    cases hc
    exact {
      database := steady_textOf?.of_readOr? h (hlayer _) hdatabase
      strictQueries := steady_flagOf?.of_readOr? h (hlayer _) hstrict
      mounts := steady_mountOf?.listOf?.of_readOr? h (hlayer _) hmounts
      backends := steady_backendsOf?.of_readOr? h (hlayer _) hbackends }

end Config

end MediaCatalog
