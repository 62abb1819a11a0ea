import Mathlib
import MediaCatalog.Config.Load
import MediaCatalog.Proofs.Files.Write
import MediaCatalog.Proofs.Text.Utf8

/-!
# Rejected changes of the configuration

Before a configuration file is changed, its new text has to be usable without the environment; after it was
written, the file is loaded with the environment. This file shows what a change that is rejected leaves
behind.

* `planned_eq_ok`: what is known of the new text when it is written.
* `load_written`: what is loaded after it was written.
* **Main result** (`set_rejected`): a rejected change leaves the tree of files as it was, unless the
  environment makes the new text unusable; then the new text stands in the file.
-/

namespace MediaCatalog.Config

variable {files : FileTree} {env : Environment} {path key text after : String} {entries : Entries}

/-! ## The new text -/

/-- What comes first in a computation without errors is without errors, and so is what comes then. -/
theorem bind_eq_ok {ε α β : Type} {x : Except ε α} {f : α → Except ε β} {b : β} (h : x >>= f = .ok b) :
    ∃ a, x = .ok a ∧ f a = .ok b := by
  cases x with
  | error e => cases h
  | ok a => exact ⟨a, rfl, h⟩

/-- A text with entries is one that can be read. -/
theorem read?_of_entriesOf (h : entriesOf (some text) = .ok entries) : Toml.read? text = some entries := by
  rw [entriesOf] at h
  cases hread : Toml.read? text with
  | none =>
    rw [hread] at h
    cases h
  | some read =>
    rw [hread] at h
    cases h
    rfl

/-- The new text of a file with the right extension is what becomes of its text. -/
theorem planned_of_textBefore {before : Option String} (hext : extension? path = some "toml")
    (hbefore : textBefore files path = .ok before) :
    planned files env path key text = edited (initialIn env) before key text := by
  rw [planned, if_neg (not_not_intro hext), hbefore]
  rfl

/-- What layers describe together is their configuration, if its mounts are usable. -/
theorem ofLayers_eq_ok {standard c : Config} {layers : List Entries}
    (hentries : ofEntries? standard (layered (standard.entries :: layers)) = some c) (hcheck : c.check = .ok ()) :
    ofLayers standard layers = .ok c := by
  rw [ofLayers, hentries]
  simp only [bind, Except.bind, hcheck]
  rfl

/-- A text with usable entries is usable. -/
theorem checkText_eq_ok {standard c : Config} (hread : Toml.read? text = some entries)
    (hlayers : ofLayers standard [entries] = .ok c) : checkText standard text = .ok () := by
  rw [checkText, entriesOf, hread]
  simp only [bind, Except.bind, hlayers]
  rfl

/-- The new text is that of the changed entries, if it is usable. -/
theorem edited_eq_ok {standard : Config} {before : Option String} {changed : Entries}
    (hentries : entriesOf before = .ok entries) (hchanged : insert entries key (valueOf text) = .ok changed)
    (hcheck : checkText standard (Toml.render changed) = .ok ()) :
    edited standard before key text = .ok (Toml.render changed) := by
  rw [edited, hentries]
  simp only [bind, Except.bind, hchanged, hcheck]
  rfl

/-- **The text to be written** describes a usable configuration without the environment, and is written to
a file with the right extension. -/
theorem planned_eq_ok (h : planned files env path key text = .ok after) :
    extension? path = some "toml" ∧ ∃ entries, Toml.read? after = some entries ∧
      ∃ c, ofLayers (initialIn env) [entries] = .ok c := by
  unfold planned at h
  by_cases hext : extension? path = some "toml"
  · rw [if_neg (not_not_intro hext)] at h
    obtain ⟨before, -, hedited⟩ := bind_eq_ok h
    obtain ⟨old, -, hedited⟩ := bind_eq_ok hedited
    obtain ⟨changed, -, hedited⟩ := bind_eq_ok hedited
    obtain ⟨_, hcheck, hafter⟩ := bind_eq_ok hedited
    cases hafter
    obtain ⟨entries, hentries, hlayers⟩ := bind_eq_ok hcheck
    obtain ⟨c, hlayers⟩ : ∃ c, ofLayers (initialIn env) [entries] = .ok c := by
      cases hlayers' : ofLayers (initialIn env) [entries] with
      | ok c => exact ⟨c, rfl⟩
      | error e =>
        rw [hlayers'] at hlayers
        cases hlayers
    exact ⟨hext, entries, read?_of_entriesOf hentries, c, hlayers⟩
  · rw [if_pos hext] at h
    cases h

/-! ## The file afterwards -/

/-- **What is loaded from a file that was written**: its text with the environment laid over it. -/
theorem load_written {serial : Nat} {modified : Int} (hext : extension? path = some "toml")
    (hnode : files.node? path = some (.file ⟨serial, after.toUTF8, true, modified⟩))
    (hread : Toml.read? after = some entries) :
    load files env (some path) = ofLayers (initialIn env) [entries, env.entries] := by
  have hformat : formatOf? path = some .toml := by
    rw [formatOf?, hext]
    rfl
  have htext : fileEntries? ⟨serial, after.toUTF8, true, modified⟩ .toml = some entries := by
    have hbytes : Text.Utf8.strict? after.toUTF8.toList = some after := Text.Utf8.strict?_bytes after
    rw [fileEntries?, fileText?, if_pos rfl, hbytes]
    exact hread
  have hsources : sources files env (some path) = .ok [(⟨serial, after.toUTF8, true, modified⟩, .toml)] := by
    rw [sources, openFile, hnode, hformat]
  rw [load, hsources]
  simp only [bind, Except.bind, List.mapM_cons, List.mapM_nil, htext, Option.bind, pure]
  rfl

/-- The text that stands in a file whose content is a text. -/
theorem textBefore_of_node? {serial : Nat} {modified : Int}
    (hnode : files.node? path = some (.file ⟨serial, text.toUTF8, true, modified⟩)) :
    textBefore files path = .ok (some text) := by
  have hbytes : Text.Utf8.strict? text.toUTF8.toList = some text := Text.Utf8.strict?_bytes text
  rw [textBefore, openFile, hnode]
  dsimp only
  rw [fileText?, if_pos rfl, hbytes]

/-- **A change whose text was written** has the outcome of laying the environment over it, and the text
stands in the file. -/
theorem set_of_save {now : Int} {written : FileTree} (hplanned : planned files env path key text = .ok after)
    (hsave : files.save path after.toUTF8 now = (true, written)) (hread : Toml.read? after = some entries) :
    set files env now path key text = (ofLayers (initialIn env) [entries, env.entries], written) ∧
      textBefore written path = .ok (some after) := by
  obtain ⟨hext, -⟩ := planned_eq_ok hplanned
  obtain ⟨serial, hnode⟩ := FileTree.node?_save hsave
  refine ⟨?_, textBefore_of_node? hnode⟩
  rw [set, hplanned]
  dsimp only
  rw [hsave]
  dsimp only
  rw [load_written hext hnode hread]

/-! ## Rejected changes -/

/-- **A rejected change** that did not fail on writing leaves the files as they were; or else its text is
usable without the environment but not with it, and stands in the file now. Without variables for the program
nothing is ever left behind. -/
theorem set_rejected {now : Int} {e : ConfigError} (hreject : (set files env now path key text).1 = .error e)
    (hsave : e ≠ .save) :
    ((planned files env path key text = .error e ∧ (set files env now path key text).2 = files) ∨
      ∃ after entries, planned files env path key text = .ok after ∧ Toml.read? after = some entries ∧
        (∃ c, ofLayers (initialIn env) [entries] = .ok c) ∧
        ofLayers (initialIn env) [entries, env.entries] = .error e ∧
        textBefore (set files env now path key text).2 path = .ok (some after)) ∧
      (env.entries = [] → (set files env now path key text).2 = files) := by
  cases hplanned : planned files env path key text with
  | error e' =>
    have hset : set files env now path key text = (.error e', files) := by
      rw [set, hplanned]
    rw [hset] at hreject ⊢
    cases hreject
    exact ⟨.inl ⟨rfl, rfl⟩, fun _ => rfl⟩
  | ok after =>
    obtain ⟨-, entries, hread, c, hlayers⟩ := planned_eq_ok hplanned
    cases hwritten : files.save path after.toUTF8 now with
    | mk saved written =>
      cases saved with
      | false =>
        -- the file could not be written
        have hset : set files env now path key text = (.error .save, written) := by
          rw [set, hplanned]
          dsimp only
          rw [hwritten]
        rw [hset] at hreject
        cases hreject
        exact absurd rfl hsave
      | true =>
        obtain ⟨hset, htext⟩ := set_of_save hplanned hwritten hread
        rw [hset] at hreject ⊢
        refine ⟨.inr ⟨after, entries, rfl, hread, ⟨c, hlayers⟩, hreject, htext⟩, ?_⟩
        intro hempty
        have hsame : layered [(initialIn env).entries, entries, []] = layered [(initialIn env).entries, entries] := rfl
        rw [hempty, ofLayers, hsame, ← ofLayers, hlayers] at hreject
        cases hreject

/-! ### A change that leaves its text behind -/

/-- A mount with a proper name and something in its schema is usable. -/
theorem checkMount_of_mem {name schema : String} {c : Char} (hname : (name.isEmpty || name.toList.contains '/') = false)
    (hmem : c ∈ schema.toList) (hc : Text.isBlank c = false) : checkMount ⟨name, schema⟩ = .ok () := by
  have hschema : (Text.trim schema).isEmpty = false := by
    have hne := Text.trimChars_ne_nil hmem hc
    rw [Text.trim]
    simpa using hne
  rw [checkMount, hname, hschema]
  rfl

/-- A configuration whose mounts are all usable is. -/
theorem check_of_forall {c : Config} (h : ∀ m ∈ c.mounts, checkMount m = .ok ()) : c.check = .ok () := by
  rw [check]
  generalize c.mounts = mounts at h
  induction mounts with
  | nil => rfl
  | cons m mounts ih =>
    rw [List.forM, h m List.mem_cons_self]
    exact ih fun m' hm' => h m' (List.mem_cons_of_mem _ hm')

/-- The initial mounts are usable. -/
theorem check_initial (database : String) : (initial database).check = .ok () := by
  apply check_of_forall
  intro m hm
  rcases List.mem_cons.mp hm with rfl | hm
  · refine checkMount_of_mem (c := 'q') (by decide +kernel) ?_ (by decide)
    unfold titleSchema
    simp only [String.toList_append, List.mem_append]
    left
    decide +kernel
  · cases List.mem_singleton.mp hm
    refine checkMount_of_mem (c := 'q') (by decide +kernel) ?_ (by decide)
    unfold groupSchema
    simp only [String.toList_append, List.mem_append]
    left
    left
    left
    decide +kernel

/-- An environment in which a switch has a value that is none. -/
def undecided : Environment := ⟨[("HASHFS_STRICT_QUERIES", "maybe")]⟩

/-- A directory with a configuration file of a given text. -/
def holding (text : String) : FileTree := .onlyFile (.ofText "hashfs.toml") ⟨1, text.toUTF8, true, 0⟩

/-- The file is found, for reading and for writing. -/
theorem lookUp_holding (text : String) (create : Bool) :
    (holding text).lookUp create "hashfs.toml" = .ok [.ofText "hashfs.toml"] :=
  (FileTree.lookUp_onlyFile (by decide +kernel) (by decide +kernel) _ _ create).trans (if_pos (.inr rfl))

/-- What the file is. -/
theorem node?_holding (text : String) : (holding text).node? "hashfs.toml" = some (.file ⟨1, text.toUTF8, true, 0⟩) :=
  (FileTree.node?_onlyFile (by decide +kernel) (by decide +kernel) _ _).trans (if_pos rfl)

/-- The place of the file is the end of one step. -/
theorem parts_hashfs : (FilePath.ofText "hashfs.toml").parts = [.ofText "hashfs.toml"] := by decide +kernel

/-- A text saved at the path of the file takes the place of the one that was there. -/
theorem save_holding (before after : String) :
    (holding before).save "hashfs.toml" after.toUTF8 0 =
      (true, (holding before).putFile [.ofText "hashfs.toml"] ⟨1, after.toUTF8, true, 0⟩) := by
  have hat : (holding before).root.at? [.ofText "hashfs.toml"] = some (.file ⟨1, before.toUTF8, true, 0⟩) := by
    simp [holding, FileTree.onlyFile, FileNode.at?, FileNode.children, Pairs.get?]
  rw [FileTree.save, FileTree.makeParents, parts_hashfs]
  simp only [List.dropLast, FileTree.makeDirectories, FileTree.overwrite, lookUp_holding, hat]

/-- A directory with a configuration file. -/
def configured : FileTree := holding "strict_queries = false\n"

/-- The switch is turned off in the file. -/
theorem textBefore_configured : textBefore configured "hashfs.toml" = .ok (some "strict_queries = false\n") :=
  textBefore_of_node? (node?_holding "strict_queries = false\n")

/-- The text in which the switch is turned on. -/
theorem read?_turnedOn : Toml.read? "strict_queries = true\n" = some [("strict_queries", .bool true)] := by cbv

/-- It is usable without the environment. -/
theorem checkText_turnedOn : checkText (initialIn undecided) "strict_queries = true\n" = .ok () := by
  have hentries : ofEntries? (initialIn undecided)
      (layered [(initialIn undecided).entries, [("strict_queries", .bool true)]]) =
        some ⟨(initialIn undecided).database, true, (initialIn undecided).mounts, Dict.empty⟩ := rfl
  have husable : check ⟨(initialIn undecided).database, true, (initialIn undecided).mounts, Dict.empty⟩ = .ok () := by
    have hmounts : (initialIn undecided).check = .ok () := check_initial (usualDatabase undecided)
    rw [check] at hmounts ⊢
    exact hmounts
  exact checkText_eq_ok read?_turnedOn (ofLayers_eq_ok hentries husable)

/-- The text comes of turning the switch on. -/
theorem edited_configured :
    edited (initialIn undecided) (some "strict_queries = false\n") "strict_queries" "true" =
      .ok "strict_queries = true\n" := by
  have hbefore : entriesOf (some "strict_queries = false\n") = .ok [("strict_queries", .bool false)] := by
    have hread : Toml.read? "strict_queries = false\n" = some [("strict_queries", .bool false)] := by cbv
    rw [entriesOf, hread]
  have hvalue : valueOf "true" = .bool true := by cbv
  have hchanged : insert [("strict_queries", .bool false)] "strict_queries" (valueOf "true") =
      .ok [("strict_queries", .bool true)] := by
    have hnames : keyNames "strict_queries" = ["strict_queries"] := by decide +kernel
    rw [hvalue, insert, put, hnames]
    rfl
  have hrender : Toml.render [("strict_queries", .bool true)] = "strict_queries = true\n" := by decide +kernel
  rw [← hrender]
  refine edited_eq_ok hbefore hchanged ?_
  rw [hrender]
  exact checkText_turnedOn

/-- The text is to be written. -/
theorem planned_configured :
    planned configured undecided "hashfs.toml" "strict_queries" "true" = .ok "strict_queries = true\n" := by
  have hext : extension? "hashfs.toml" = some "toml" := by decide +kernel
  rw [planned_of_textBefore hext textBefore_configured]
  exact edited_configured

/-- The change is rejected for the value in the environment, and the file holds the new text. -/
theorem set_undecided :
    (set configured undecided 0 "hashfs.toml" "strict_queries" "true").1 = .error .load ∧
      textBefore (set configured undecided 0 "hashfs.toml" "strict_queries" "true").2 "hashfs.toml" =
        .ok (some "strict_queries = true\n") := by
  have henv : undecided.entries = [("strict_queries", .text "maybe")] := by cbv
  have hlayers : ofEntries? (initialIn undecided)
      (layered [(initialIn undecided).entries, [("strict_queries", .bool true)], [("strict_queries", .text "maybe")]]) =
        none := rfl
  obtain ⟨hset, htext⟩ := set_of_save planned_configured (save_holding _ _) read?_turnedOn
  rw [hset, ofLayers, henv, hlayers]
  exact ⟨rfl, htext⟩

/-- A change that is rejected for the environment has changed the file. -/
theorem set_rejected_of_undecided :
    (set configured undecided 0 "hashfs.toml" "strict_queries" "true").1 = .error .load ∧
      ((planned configured undecided "hashfs.toml" "strict_queries" "true" = .error .load ∧
          (set configured undecided 0 "hashfs.toml" "strict_queries" "true").2 = configured) ∨
        ∃ after entries, planned configured undecided "hashfs.toml" "strict_queries" "true" = .ok after ∧
          Toml.read? after = some entries ∧
          (∃ c, ofLayers (initialIn undecided) [entries] = .ok c) ∧
          ofLayers (initialIn undecided) [entries, undecided.entries] = .error .load ∧
          textBefore (set configured undecided 0 "hashfs.toml" "strict_queries" "true").2 "hashfs.toml" =
            .ok (some after)) :=
  ⟨set_undecided.1, (set_rejected set_undecided.1 (by decide)).1⟩

/-- A rejected change need not leave the text in the file as it was. -/
theorem not_unchanged_of_rejected :
    ¬∀ (files : FileTree) (env : Environment) (now : Int) (path key text : String) (e : ConfigError),
      (set files env now path key text).1 = .error e → e ≠ .save →
        textBefore (set files env now path key text).2 path = textBefore files path := by
  intro hclaim
  have hsame := hclaim configured undecided 0 "hashfs.toml" "strict_queries" "true" .load set_undecided.1 (by decide)
  rw [set_undecided.2, textBefore_configured] at hsame
  have htexts := Option.some.inj (Except.ok.inj hsame)
  exact absurd htexts (by decide +kernel)

end MediaCatalog.Config
