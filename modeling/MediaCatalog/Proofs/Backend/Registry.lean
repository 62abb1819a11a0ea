import MediaCatalog.Backend.Registry

/-!
# Registries keep backends under their names

However a registry is built, every backend stands in it under its own name, so a backend is determined
by its name.

* `Registry.Keyed`: every backend stands under its name.
* `Registry.Keyed.register`, `Registry.Keyed.select`, `Registry.keyed_ofSettings`: every registry that
  can be built is such a registry.
* **Main result** (`Registry.Keyed.eq_of_name`): a name stands for one backend.
-/

namespace MediaCatalog

/-- What is registered of a backend is the backend. -/
theorem Registered.backend_ofBackend {backend : Backend} {patterns : List String} {r : Registered}
    (h : ofBackend backend patterns = .ok r) : r.backend = backend := by
  unfold ofBackend at h
  cases hglobs : compile (if patterns.isEmpty then backend.defaultGlobs else patterns) with
  | error failure =>
    rw [hglobs] at h
    cases h
  | ok globs =>
    rw [hglobs] at h
    cases h
    rfl

namespace Registry

/-- Every backend stands under its own name. -/
def Keyed (registry : Registry) : Prop := ∀ name r, registry.get? name = some r → r.backend.name = name

variable {registry registry' : Registry}

/-- No backend is registered yet. -/
theorem keyed_empty : Keyed Dict.empty := nofun

/-- One more backend stands under its name. -/
theorem Keyed.insert (h : registry.Keyed) {name : String} {r : Registered} (hname : r.backend.name = name) :
    Keyed (Dict.insert registry name r) := by
  intro name' r' hget
  rw [Dict.get?_insert] at hget
  split at hget
  case isTrue hsame =>
    cases hget
    exact hname.trans hsame
  case isFalse => exact h name' r' hget

/-- A backend is registered under its name. -/
theorem Keyed.register (h : registry.Keyed) {backend : Backend} {patterns : List String}
    (hregister : registry.register backend patterns = .ok registry') : registry'.Keyed := by
  unfold Registry.register at hregister
  cases hof : Registered.ofBackend backend patterns with
  | error failure =>
    rw [hof] at hregister
    cases hregister
  | ok registered =>
    rw [hof] at hregister
    cases hregister
    exact h.insert (congrArg Backend.name (Registered.backend_ofBackend hof))

/-- Fewer backends are left when some are selected. -/
theorem Keyed.select (h : registry.Keyed) {names : List String} (hselect : registry.select names = .ok registry') :
    registry'.Keyed := by
  unfold Registry.select at hselect
  split at hselect
  case isTrue =>
    cases hselect
    exact h
  case isFalse =>
    cases hfound : names.forM fun name => discard (registry.find name) with
    | error failure =>
      rw [hfound] at hselect
      cases hselect
    | ok found =>
      rw [hfound] at hselect
      cases hselect
      intro name r hget
      have hmem := (List.mem_filter.mp (Dict.mem_toList_iff.mpr hget)).1
      exact h name r (Dict.mem_toList_iff.mp hmem)

/-- The built-in backends stand under their names, however they are configured. -/
theorem keyed_ofSettings {settings : Dict BackendSettings} (h : ofSettings settings = .ok registry) :
    registry.Keyed := by
  have hloop : ∀ (backends : List Backend) (before : Registry), before.Keyed →
      backends.foldlM (registerEnabled settings) before = .ok registry → registry.Keyed := by
    intro backends
    induction backends with
    | nil =>
      rintro before hbefore hdone
      cases hdone
      exact hbefore
    | cons backend rest ih =>
      intro before hbefore hdone
      rw [List.foldlM_cons] at hdone
      cases hone : registerEnabled settings before backend with
      | error failure =>
        rw [hone] at hdone
        cases hdone
      | ok next =>
        rw [hone] at hdone
        refine ih next ?_ hdone
        unfold registerEnabled at hone
        simp only at hone
        split at hone
        · exact hbefore.register hone
        · cases hone
          exact hbefore
  unfold ofSettings at h
  split at h
  · cases h
  · exact hloop builtIn .empty keyed_empty h

/-- **A name stands for one backend.** -/
theorem Keyed.eq_of_name (h : registry.Keyed) {r r' : Registered} (hr : r ∈ registry.values)
    (hr' : r' ∈ registry.values) (hname : r.backend.name = r'.backend.name) : r = r' := by
  have hstored : ∀ q ∈ registry.values, registry.get? q.backend.name = some q := by
    intro q hq
    obtain ⟨⟨name, _⟩, hmem, rfl⟩ := List.mem_map.mp hq
    have hget := Dict.mem_toList_iff.mp hmem
    rw [h name _ hget]
    exact hget
  have hsame := hstored r hr
  rw [hname, hstored r' hr'] at hsame
  exact (Option.some.inj hsame).symm

/-- The names of the backends are the keys of the registry. -/
theorem Keyed.names_eq_keys (h : registry.Keyed) : (registry.values.map fun r => r.backend.name) = registry.keys := by
  unfold Dict.values Dict.keys
  rw [List.map_map]
  apply List.map_congr_left
  rintro ⟨name, r⟩ hmem
  exact h name r (Dict.mem_toList_iff.mp hmem)

end Registry

end MediaCatalog
