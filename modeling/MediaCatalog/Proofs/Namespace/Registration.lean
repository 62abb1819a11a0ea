import Mathlib.Data.List.Induction
import MediaCatalog.Config.Basic
import MediaCatalog.Namespace.Handles
import MediaCatalog.Proofs.Namespace.Ancestors

/-!
# Mounts over runs of registrations

A mount is registered under a name with a schema text. The name may be one that no path can hold, and the text may be
no schema; then the registration fails. This file follows the mounts of a namespace through runs of registrations, of
which any may fail.

* `Schema.ofText_eq_error_iff`: a text is no schema if it is blank or one of its levels is faulty.
* `MountSettings.Faulty`, `Namespace.register_cases`: when a registration fails, and what one does that does not.
* `Namespace.mounted`, `Namespace.attempts`: runs and their histories.
* `LastSuccess`: the last registration of a name that succeeded. Its schema is what stands under the name
  (`Namespace.get?_mounted_iff`).
* `Browser.resolve_congr_mount`, `Browser.list_congr_mount`: below a mount nothing depends on the other mounts.
* **Main result** (`Namespace.last_registration_counts`): failed registrations change nothing, the root lists the names
  with a registration that succeeded, and below each of them the last one counts.
-/

namespace MediaCatalog

/-! ## Faulty mounts -/

namespace Schema

/-- Where in numbered texts the first fault is: at the first text, or behind it if nothing is wrong with that one. -/
theorem first_fault_cons_iff (Fine Fault : Nat → List Char → Prop) {number : Nat} {first : List Char}
    {texts : List (List Char)} :
    (∃ before text after, first :: texts = before ++ text :: after ∧
        (∀ i (h : i < before.length), Fine (number + i) before[i]) ∧ Fault (number + before.length) text) ↔
      Fault number first ∨ Fine number first ∧ ∃ before text after, texts = before ++ text :: after ∧
        (∀ i (h : i < before.length), Fine (number + 1 + i) before[i]) ∧ Fault (number + 1 + before.length) text := by
  constructor
  · rintro ⟨before, text, after, htexts, hbefore, htext⟩
    cases before with
    | nil =>
      cases htexts
      exact .inl htext
    | cons head before =>
      cases htexts
      refine .inr ⟨hbefore 0 (Nat.zero_lt_succ _), before, text, after, rfl, fun i hi => ?_, ?_⟩
      · simpa [Nat.add_assoc, Nat.add_comm 1 i] using hbefore (i + 1) (Nat.succ_lt_succ hi)
      · simpa [Nat.add_assoc, Nat.add_comm 1 before.length] using htext
  · rintro (hfirst | ⟨hfirst, before, text, after, rfl, hbefore, htext⟩)
    · exact ⟨[], first, texts, rfl, fun i hi => absurd hi (Nat.not_lt_zero i), hfirst⟩
    · refine ⟨first :: before, text, after, rfl, fun i hi => ?_, ?_⟩
      · cases i with
        | zero => exact hfirst
        | succ i => simpa [Nat.add_assoc, Nat.add_comm 1 i] using hbefore i (Nat.lt_of_succ_lt_succ hi)
      · simpa [Nat.add_assoc, Nat.add_comm 1 before.length] using htext

/-- Levels cannot be read if one of them is faulty; of several the first counts. -/
theorem levelsFrom_eq_error_iff {number : Nat} {texts : List (List Char)} {reason : SchemaError} :
    levelsFrom number texts = .error reason ↔
      ∃ before text after, texts = before ++ text :: after ∧
        (∀ i (h : i < before.length), ∃ level, Level.ofText (number + i) before[i] = .ok level) ∧
        Level.ofText (number + before.length) text = .error reason := by
  induction texts generalizing number with
  | nil => simp [levelsFrom]
  | cons first texts ih =>
    rw [levelsFrom, first_fault_cons_iff (fun n text => ∃ level, Level.ofText n text = .ok level)
      (fun n text => Level.ofText n text = .error reason), ← ih]
    cases Level.ofText number first with
    | error fault => simp [bind, Except.bind]
    | ok level => cases levelsFrom (number + 1) texts <;> simp [bind, Except.bind, pure, Except.pure]

/-- What is wrong with a schema text: it is blank, or one of its levels is faulty while those before it are not. -/
inductive Faulty (text : String) : SchemaError → Prop where
  | blank (h : Text.trimChars text.toList = []) : Faulty text .noLevels
  | level {before : List (List Char)} {level : List Char} {after : List (List Char)} {reason : SchemaError}
      (hfilled : Text.trimChars text.toList ≠ []) (hlevels : levelTexts text.toList = before ++ level :: after)
      (hbefore : ∀ i (h : i < before.length), ∃ l, Level.ofText (1 + i) before[i] = .ok l)
      (hlevel : Level.ofText (1 + before.length) level = .error reason) : Faulty text reason

/-- **A text is no schema** exactly if something is wrong with it. -/
theorem ofText_eq_error_iff {text : String} {reason : SchemaError} :
    ofText text = .error reason ↔ Faulty text reason := by
  by_cases hblank : Text.trimChars text.toList = []
  · have htext : ofText text = .error .noLevels := by simp [ofText, hblank, throw, throwThe, MonadExceptOf.throw, bind, Except.bind]
    rw [htext]
    constructor
    · intro h
      cases h
      exact .blank hblank
    · rintro (_ | ⟨hfilled, -, -, -⟩)
      · rfl
      · exact absurd hblank hfilled
  · have htext : ofText text = .error reason ↔ levelsFrom 1 (levelTexts text.toList) = .error reason := by
      cases hlevels : levelsFrom 1 (levelTexts text.toList) <;>
        simp [ofText, hblank, hlevels, bind, Except.bind, pure, Except.pure]
    rw [htext, levelsFrom_eq_error_iff]
    constructor
    · rintro ⟨before, level, after, hlevels, hbefore, hlevel⟩
      exact .level hblank hlevels hbefore hlevel
    · rintro (h | ⟨-, hlevels, hbefore, hlevel⟩)
      · exact absurd h hblank
      · exact ⟨_, _, _, hlevels, hbefore, hlevel⟩

end Schema

/-- The names that mounts can have. -/
theorem Mounts.isName_iff {name : String} :
    isName name = true ↔ name ≠ "" ∧ '/' ∉ name.toList ∧ name ≠ "." ∧ name ≠ ".." := by
  simp [isName, and_assoc]

/-- What is wrong with a mount: its name, or else its schema. -/
inductive MountSettings.Faulty (m : MountSettings) : SchemaError → Prop where
  | name (h : Mounts.isName m.name = false) : Faulty m (.badName m.name)
  | schema {reason : SchemaError} (hname : Mounts.isName m.name = true) (h : Schema.Faulty m.schema reason) : Faulty m reason

/-- One thing is wrong with a mount, if anything. -/
theorem MountSettings.Faulty.unique {m : MountSettings} {reason reason' : SchemaError} (h : m.Faulty reason)
    (h' : m.Faulty reason') : reason = reason' := by
  rcases h with hname | ⟨hname, hschema⟩ <;> rcases h' with hname' | ⟨hname', hschema'⟩
  · rfl
  · exact absurd (hname.symm.trans hname') Bool.false_ne_true
  · exact absurd (hname'.symm.trans hname) Bool.false_ne_true
  · exact Except.error.inj ((Schema.ofText_eq_error_iff.mpr hschema).symm.trans (Schema.ofText_eq_error_iff.mpr hschema'))

/-! ## Runs -/

/-- A registration with what came of it. -/
structure Attempt where
  mount : MountSettings
  result : Except NamespaceError Unit

namespace Namespace

variable {n : Namespace} {m : MountSettings}

/-- The namespace after registrations. -/
def mounted (n : Namespace) (mounts : List MountSettings) : Namespace :=
  mounts.foldl (fun n m => (n.register m.name m.schema).2) n

/-- What came of registrations. -/
def attempts (n : Namespace) : List MountSettings → List Attempt
  | [] => []
  | m :: rest => ⟨m, (n.register m.name m.schema).1⟩ :: (n.register m.name m.schema).2.attempts rest

/-- One more registration meets the namespace after those before. -/
theorem mounted_concat (n : Namespace) (mounts : List MountSettings) (m : MountSettings) :
    n.mounted (mounts ++ [m]) = ((n.mounted mounts).register m.name m.schema).2 := by
  rw [mounted, List.foldl_append]
  rfl

/-- One more registration comes last in the history. -/
theorem attempts_concat (n : Namespace) (mounts : List MountSettings) (m : MountSettings) :
    n.attempts (mounts ++ [m]) = n.attempts mounts ++ [⟨m, ((n.mounted mounts).register m.name m.schema).1⟩] := by
  induction mounts generalizing n with
  | nil => rfl
  | cons first rest ih =>
    rw [List.cons_append, attempts, attempts, ih]
    rfl

/-! ## What a registration does -/

/-- **What comes of a registration**: it fails for what is wrong with the mount, or it puts the schema under the
name. -/
theorem register_cases (n : Namespace) (m : MountSettings) :
    (∃ reason, m.Faulty reason ∧ n.register m.name m.schema = (.error (.schema reason), n)) ∨
      ∃ schema, Mounts.isName m.name = true ∧ Schema.ofText m.schema = .ok schema ∧
        n.register m.name m.schema = (.ok (), { n with browser.mounts := n.browser.mounts.insert m.name schema }) := by
  unfold register Mounts.register
  cases hname : Mounts.isName m.name with
  | false => exact .inl ⟨.badName m.name, .name hname, rfl⟩
  | true =>
    cases hschema : Schema.ofText m.schema with
    | error reason => exact .inl ⟨reason, .schema hname (Schema.ofText_eq_error_iff.mp hschema), rfl⟩
    | ok schema => exact .inr ⟨schema, rfl, rfl, rfl⟩

/-- Nothing is wrong with a mount that could be registered. -/
theorem not_faulty {schema : Schema} {reason : SchemaError} (hname : Mounts.isName m.name = true)
    (hschema : Schema.ofText m.schema = .ok schema) : ¬m.Faulty reason := by
  rintro (h | ⟨-, h⟩)
  · rw [hname] at h
    cases h
  · rw [Schema.ofText_eq_error_iff.mpr h] at hschema
    cases hschema

/-- **A registration fails** for what is wrong with the mount, and then it changes nothing. -/
theorem register_eq_error_iff {cause : NamespaceError} :
    (n.register m.name m.schema).1 = .error cause ↔ ∃ reason, cause = .schema reason ∧ m.Faulty reason := by
  rcases n.register_cases m with ⟨reason, hfaulty, hregister⟩ | ⟨schema, hname, hschema, hregister⟩
  · rw [hregister]
    constructor
    · intro h
      cases h
      exact ⟨reason, rfl, hfaulty⟩
    · rintro ⟨reason', rfl, hfaulty'⟩
      rw [hfaulty.unique hfaulty']
  · rw [hregister]
    refine iff_of_false (by simp) ?_
    rintro ⟨reason, -, hfaulty⟩
    exact not_faulty hname hschema hfaulty

/-- A registration that fails leaves the namespace as it was. -/
theorem register_of_ne_ok (h : (n.register m.name m.schema).1 ≠ .ok ()) : (n.register m.name m.schema).2 = n := by
  rcases n.register_cases m with ⟨reason, -, hregister⟩ | ⟨schema, -, -, hregister⟩
  · rw [hregister]
  · rw [hregister] at h
    exact absurd rfl h

/-- A registration that succeeds has a proper name and puts the schema under it. -/
theorem register_of_ok (h : (n.register m.name m.schema).1 = .ok ()) :
    ∃ schema, Mounts.isName m.name = true ∧ Schema.ofText m.schema = .ok schema ∧
      (n.register m.name m.schema).2 = { n with browser.mounts := n.browser.mounts.insert m.name schema } := by
  rcases n.register_cases m with ⟨reason, -, hregister⟩ | ⟨schema, hname, hschema, hregister⟩
  · rw [hregister] at h
    cases h
  · exact ⟨schema, hname, hschema, congrArg Prod.snd hregister⟩

/-- Registrations do not change how queries are compiled. -/
theorem strict_mounted (n : Namespace) (mounts : List MountSettings) : (n.mounted mounts).browser.strict = n.browser.strict := by
  induction mounts using List.reverseRecOn with
  | nil => rfl
  | append_singleton mounts m ih =>
    rw [mounted_concat]
    rcases (n.mounted mounts).register_cases m with ⟨_, -, hregister⟩ | ⟨_, -, -, hregister⟩ <;> rw [hregister] <;> exact ih

end Namespace

/-! ## What counts after a run -/

/-- A registration in a history succeeded, and none of the same name did after it. -/
def LastSuccess (history : List Attempt) (m : MountSettings) : Prop :=
  ∃ before after, history = before ++ ⟨m, .ok ()⟩ :: after ∧ ∀ a ∈ after, a.mount.name = m.name → a.result ≠ .ok ()

/-- The last success in a history that goes on: the new registration if it succeeded, and an older one if its name is
not the new one's or the new one failed. -/
theorem lastSuccess_concat_iff {history : List Attempt} {a : Attempt} {m : MountSettings} :
    LastSuccess (history ++ [a]) m ↔
      (a = ⟨m, .ok ()⟩) ∨ LastSuccess history m ∧ (a.mount.name = m.name → a.result ≠ .ok ()) := by
  constructor
  · rintro ⟨before, after, hsplit, hafter⟩
    rcases List.eq_nil_or_concat after with rfl | ⟨after, last, rfl⟩
    · exact .inl (List.append_inj_right' hsplit rfl |> List.singleton_inj.mp)
    · rw [List.concat_eq_append, ← List.cons_append, ← List.append_assoc] at hsplit
      obtain ⟨hhistory, hlast⟩ := List.append_inj' hsplit rfl
      cases hlast
      refine .inr ⟨⟨before, after, hhistory, fun b hb => hafter b ?_⟩, hafter a ?_⟩ <;> simp_all
  · rintro (rfl | ⟨⟨before, after, rfl, hafter⟩, ha⟩)
    · exact ⟨history, [], rfl, fun b hb => absurd hb List.not_mem_nil⟩
    · refine ⟨before, after ++ [a], by simp, fun b hb => ?_⟩
      rcases List.mem_append.mp hb with hb | hb
      · exact hafter b hb
      · cases List.mem_singleton.mp hb
        exact ha

/-- A name with a success has a last one. -/
theorem exists_lastSuccess {history : List Attempt} {name : String}
    (h : ∃ a ∈ history, a.mount.name = name ∧ a.result = .ok ()) : ∃ m, m.name = name ∧ LastSuccess history m := by
  induction history using List.reverseRecOn with
  | nil =>
    obtain ⟨a, ha, -⟩ := h
    exact absurd ha List.not_mem_nil
  | append_singleton history last ih =>
    by_cases hlast : last.mount.name = name ∧ last.result = .ok ()
    · obtain ⟨hname, hok⟩ := hlast
      refine ⟨last.mount, hname, lastSuccess_concat_iff.mpr (.inl ?_)⟩
      rw [← hok]
    · obtain ⟨a, ha, hname, hok⟩ := h
      rcases List.mem_append.mp ha with ha | ha
      · obtain ⟨m, hm, hsuccess⟩ := ih ⟨a, ha, hname, hok⟩
        exact ⟨m, hm, lastSuccess_concat_iff.mpr (.inr ⟨hsuccess, fun hsame h => hlast ⟨hsame.trans hm, h⟩⟩)⟩
      · cases List.mem_singleton.mp ha
        exact absurd ⟨hname, hok⟩ hlast

/-- The last success is a success. -/
theorem LastSuccess.mem {history : List Attempt} {m : MountSettings} (h : LastSuccess history m) : ⟨m, .ok ()⟩ ∈ history := by
  obtain ⟨before, after, rfl, -⟩ := h
  simp

/-- The keys of a map are those with a value. -/
theorem Dict.mem_keys_iff {α : Type} {d : Dict α} {key : String} : key ∈ d.keys ↔ ∃ v, d.get? key = some v := by
  simp [Dict.keys, Dict.mem_toList_iff]

namespace Namespace

/-- What succeeded in a run has a proper name and a schema. -/
theorem registered_of_mem_attempts {n : Namespace} {mounts : List MountSettings} {a : Attempt} (ha : a ∈ n.attempts mounts)
    (hok : a.result = .ok ()) : Mounts.isName a.mount.name = true ∧ ∃ schema, Schema.ofText a.mount.schema = .ok schema := by
  induction mounts generalizing n with
  | nil => exact absurd ha List.not_mem_nil
  | cons first rest ih =>
    rcases List.mem_cons.mp ha with rfl | ha
    · obtain ⟨schema, hname, hschema, -⟩ := register_of_ok hok
      exact ⟨hname, schema, hschema⟩
    · exact ih ha

/-- **What stands under a name** after a run: the schema of its last registration that succeeded. -/
theorem get?_mounted_iff (strict : Bool) (mounts : List MountSettings) {name : String} {schema : Schema} :
    ((new strict).mounted mounts).browser.mounts.get? name = some schema ↔
      ∃ m, m.name = name ∧ LastSuccess ((new strict).attempts mounts) m ∧ Mounts.isName name = true ∧
        Schema.ofText m.schema = .ok schema := by
  induction mounts using List.reverseRecOn generalizing schema with
  | nil =>
    refine iff_of_false (by simp [mounted, new]) ?_
    rintro ⟨m, -, h, -⟩
    exact absurd h.mem List.not_mem_nil
  | append_singleton mounts last ih =>
    rw [mounted_concat, attempts_concat]
    rcases ((new strict).mounted mounts).register_cases last with
      ⟨reason, -, hregister⟩ | ⟨new', hname, hschema, hregister⟩
    · -- a failed registration is never the last success
      rw [hregister, ih]
      refine exists_congr fun m => and_congr_right fun _ => and_congr_left fun _ => ?_
      simp [lastSuccess_concat_iff]
    · rw [hregister]
      dsimp only
      rw [Dict.get?_insert]
      by_cases hsame : last.name = name
      · subst hsame
        rw [if_pos rfl]
        constructor
        · intro h
          cases h
          exact ⟨last, rfl, lastSuccess_concat_iff.mpr (.inl rfl), hname, hschema⟩
        · rintro ⟨m, hm, hsuccess, -, hm'⟩
          rcases lastSuccess_concat_iff.mp hsuccess with heq | ⟨-, hother⟩
          · cases heq
            rw [hschema] at hm'
            cases hm'
            rfl
          · exact absurd rfl (hother hm.symm)
      · rw [if_neg hsame, ih]
        refine exists_congr fun m => and_congr_right fun hm => and_congr_left fun _ => ?_
        rw [lastSuccess_concat_iff]
        constructor
        · exact fun h => .inr ⟨h, fun heq => absurd (heq.trans hm) hsame⟩
        · rintro (heq | ⟨h, -⟩)
          · cases heq
            exact absurd hm hsame
          · exact h

/-- **The names with a mount** after a run are those with a registration that succeeded. -/
theorem mem_keys_mounted_iff (strict : Bool) (mounts : List MountSettings) {name : String} :
    name ∈ ((new strict).mounted mounts).browser.mounts.keys ↔
      ∃ a ∈ (new strict).attempts mounts, a.mount.name = name ∧ a.result = .ok () := by
  rw [Dict.mem_keys_iff]
  constructor
  · rintro ⟨schema, hschema⟩
    obtain ⟨m, rfl, hsuccess, -⟩ := (get?_mounted_iff strict mounts).mp hschema
    exact ⟨_, hsuccess.mem, rfl, rfl⟩
  · intro hsome
    obtain ⟨m, rfl, hsuccess⟩ := exists_lastSuccess hsome
    obtain ⟨hname, schema, hschema⟩ := registered_of_mem_attempts hsuccess.mem rfl
    exact ⟨schema, (get?_mounted_iff strict mounts).mpr ⟨m, rfl, hsuccess, hname, hschema⟩⟩

end Namespace

/-! ## One mount and the others -/

namespace Browser

variable {b b' : Browser} {store : Store} {path name : String} {below : List String}

/-- A path below a mount leads to the mount, or to entries below it. -/
theorem mount_of_resolve {node : Node} (hpath : Text.segments path = name :: below) (h : b.resolve store path = .ok node) :
    node = .mount name ∨ ∃ chain kind, node = .entry name chain kind := by
  unfold resolve at h
  rw [hpath] at h
  dsimp only at h
  cases hmount : b.mounts.get? name with
  | none =>
    rw [hmount] at h
    cases h
  | some schema =>
    rw [hmount] at h
    dsimp only at h
    split at h
    · cases h
      exact .inl rfl
    · cases hchain : schema.chain? store b.strict below with
      | error cause =>
        rw [hchain] at h
        cases h
      | ok chain =>
        rw [hchain] at h
        cases chain with
        | none => cases h
        | some chain =>
          cases h
          exact .inr ⟨chain, _, rfl⟩

/-- **Where a path leads** below a mount depends on no other mount. -/
theorem resolve_congr_mount (hpath : Text.segments path = name :: below) (hmount : b.mounts.get? name = b'.mounts.get? name)
    (hstrict : b.strict = b'.strict) : b.resolve store path = b'.resolve store path := by
  unfold resolve
  rw [hpath]
  dsimp only
  rw [hmount, hstrict]

/-- **What stands below a mount** depends on no other mount. -/
theorem list_congr_mount (hpath : Text.segments path = name :: below) (hmount : b.mounts.get? name = b'.mounts.get? name)
    (hstrict : b.strict = b'.strict) : b.list store path = b'.list store path := by
  have hbelow : ∀ chain, b.below store name chain = b'.below store name chain := by
    intro chain
    unfold Browser.below
    rw [hmount, hstrict]
  unfold list
  rw [← resolve_congr_mount hpath hmount hstrict]
  cases hnode : b.resolve store path with
  | error cause => rfl
  | ok node =>
    rcases mount_of_resolve hpath hnode with rfl | ⟨chain, kind, rfl⟩
    · exact hbelow []
    · cases kind with
      | directory => exact hbelow chain
      | file => rfl

/-- The mount of a name is all there is. -/
def only (name : String) (schema : Schema) (strict : Bool) : Browser := ⟨Dict.empty.insert name schema, strict⟩

/-- The root lists the mounts. -/
theorem list_root (hpath : Text.segments path = []) :
    b.list store path = .ok (dots ++ b.mounts.keys.map fun name => (name, .directory)) := by
  have hresolve : b.resolve store path = .ok .root := by
    unfold resolve
    rw [hpath]
  unfold list
  rw [hresolve]
  rfl

/-- A path below no mount leads nowhere. -/
theorem resolve_of_absent (hpath : Text.segments path = name :: below) (hmount : b.mounts.get? name = none) :
    b.resolve store path = .error .notFound := by
  unfold resolve
  rw [hpath]
  dsimp only
  rw [hmount]

end Browser

/-! ## Runs of registrations -/

/-- **The last registration of a name counts.** Whatever is registered in a new namespace, and whichever of the
registrations fail:

* A registration fails exactly if the name is not a segment that a path can hold, or else the schema text is blank or
  one of its levels cannot be read; then the namespace stays as it was.
* The root lists the dots and then, each once and in ascending order, the names with a registration that succeeded.
  None of them is empty, one of the dots, or holds a slash, so the path of each leads to its mount.
* A path below such a name leads to, and lists, what it would if the mount of the last registration of the name that
  succeeded were the only one. A path below any other name leads nowhere. -/
theorem Namespace.last_registration_counts (strict : Bool) (mounts : List MountSettings) :
    let n := (new strict).mounted mounts
    let history := (new strict).attempts mounts
    (∀ (before : Namespace) (m : MountSettings),
      (∀ cause, (before.register m.name m.schema).1 = .error cause ↔ ∃ reason, cause = .schema reason ∧ m.Faulty reason) ∧
        ((before.register m.name m.schema).1 ≠ .ok () → (before.register m.name m.schema).2 = before)) ∧
      (∃ names : List String, names.Pairwise (· < ·) ∧
        (∀ name, name ∈ names ↔ ∃ a ∈ history, a.mount.name = name ∧ a.result = .ok ()) ∧
        (∀ store path, Text.segments path = [] →
          n.browser.list store path = .ok (Browser.dots ++ names.map fun name => (name, .directory))) ∧
        (∀ name ∈ names, (name ≠ "" ∧ '/' ∉ name.toList ∧ name ≠ "." ∧ name ≠ "..") ∧
          ∀ store, n.browser.resolve store ("/" ++ name) = .ok (.mount name)) ∧
        ∀ store path name below, Text.segments path = name :: below → name ∉ names →
          n.browser.resolve store path = .error .notFound) ∧
      (∀ a ∈ history, a.result = .ok () → ∃ m, m.name = a.mount.name ∧ LastSuccess history m) ∧
      ∀ m, LastSuccess history m → ∃ schema, Schema.ofText m.schema = .ok schema ∧
        ∀ store path below, Text.segments path = m.name :: below →
          n.browser.resolve store path = (Browser.only m.name schema strict).resolve store path ∧
          n.browser.list store path = (Browser.only m.name schema strict).list store path := by
  intro n history
  have hget : ∀ {name schema}, n.browser.mounts.get? name = some schema ↔ _ := get?_mounted_iff strict mounts
  refine ⟨fun before m => ⟨fun cause => register_eq_error_iff, register_of_ne_ok⟩, ⟨n.browser.mounts.keys, ?_, ?_, ?_, ?_, ?_⟩,
    ?_, ?_⟩
  · exact n.browser.mounts.keys_pairwise
  · exact fun name => mem_keys_mounted_iff strict mounts
  · exact fun store path hpath => Browser.list_root hpath
  · intro name hmem
    obtain ⟨schema, hschema⟩ := Dict.mem_keys_iff.mp hmem
    obtain ⟨m, -, -, hname, -⟩ := hget.mp hschema
    have hpath : Text.segments ("/" ++ name) = [name] :=
      segments_of_isAddressable (List.forall_mem_singleton.mpr (Mounts.isAddressable_of_isName hname))
    exact ⟨Mounts.isName_iff.mp hname, fun store => Browser.resolve_mount hpath hschema⟩
  · intro store path name below hpath hnot
    exact Browser.resolve_of_absent hpath (Option.eq_none_iff_forall_ne_some.mpr fun schema hschema =>
      hnot (Dict.mem_keys_iff.mpr ⟨schema, hschema⟩))
  · exact fun a ha hok => exists_lastSuccess ⟨a, ha, rfl, hok⟩
  · intro m hsuccess
    obtain ⟨hname, schema, hschema⟩ := registered_of_mem_attempts hsuccess.mem rfl
    have hsame : n.browser.mounts.get? m.name = (Browser.only m.name schema strict).mounts.get? m.name := by
      rw [hget.mpr ⟨m, rfl, hsuccess, hname, hschema⟩, Browser.only, Dict.get?_insert_self]
    have hstrict : n.browser.strict = (Browser.only m.name schema strict).strict := strict_mounted _ mounts
    exact ⟨schema, hschema, fun store path below hpath =>
      ⟨Browser.resolve_congr_mount hpath hsame hstrict, Browser.list_congr_mount hpath hsame hstrict⟩⟩

end MediaCatalog
