import MediaCatalog.Proofs.Scan.Cache
import MediaCatalog.Proofs.Scan.Independence
import MediaCatalog.Proofs.Text.Lossy

/-!
# Which files and sets share an entry

Entries are known by their keys, and keys do not say everything. The key of a file is made of the text of its
path, in which malformed bytes are replaced; the key of a set joins the names of its backend and its kind at a
colon. Where nothing is lost, different files and sets have entries of their own, and a scan takes no notice of
those that are not concerned.

* `JoinsSet`: the sets to which a scan of a file joins it, by source, kind and name.
* **Sets** (`sets_share_key_iff`): two sets share an entry exactly if they have one name, and source and kind are
  the same or are read from each other at another colon.
* **Files** (`files_share_key_iff`): two files share an entry exactly if their paths have the same text, and
  different paths may have it exactly if it holds a replacement character. What is stored of a file stays over a run
  of scans of other ones (`fieldsOf_after_others`).
-/

namespace MediaCatalog

/-! ## Sets -/

/-- A scan of a file with some backends joins it to a set: a backend with the name of the source associates the
file, identified by its content, with a set of that kind and name. -/
def JoinsSet (d : Digests) (files : FileTree) (backends : List Backend) (file : FileInfo) (source kind name : String) :
    Prop :=
  ∃ contentId, files.contentId d file.path = .ok contentId ∧ ∃ b ∈ backends, b.name = source ∧
    ∃ contribution, b.process file contentId = .ok contribution ∧ ∃ a ∈ contribution.sets, a.kind = kind ∧ a.name = name

/-- The keys of the sets that a scan joins are those of the sets to which it joins the file. -/
theorem exists_of_mem_joinedKeys {d : Digests} {files : FileTree} {backends : List Backend} {file : FileInfo} {key : Key}
    (h : key ∈ joinedKeys d files backends file) :
    ∃ source kind name, JoinsSet d files backends file source kind name ∧ Key.set d.key source kind name = key := by
  unfold joinedKeys at h
  cases hcontent : files.contentId d file.path with
  | error cause =>
    rw [hcontent] at h
    cases h
  | ok contentId =>
    rw [hcontent] at h
    obtain ⟨b, hb, hkey⟩ := List.mem_flatMap.mp h
    unfold Backend.setKeys at hkey
    cases hprocess : b.process file contentId with
    | error cause =>
      rw [hprocess] at hkey
      cases hkey
    | ok contribution =>
      rw [hprocess] at hkey
      obtain ⟨a, ha, rfl⟩ := List.mem_map.mp hkey
      exact ⟨b.name, a.kind, a.name, ⟨contentId, hcontent, b, hb, rfl, contribution, hprocess, a, ha, rfl, rfl⟩, rfl⟩

/-- **Which sets share an entry.** As far as digests tell names of sets apart, two sets have one key exactly if they
have one name and their sources and kinds are the same, or are read from each other at another colon. A scan takes no
notice of the entry of a set unless it joins the file to such a set; if names of backends hold no colons, unless it
joins the file to that very set. -/
theorem sets_share_key_iff {d : Digests} {texts : Set String} (hdigest : d.key.Separates texts) :
    (∀ source kind source' kind', ∀ name ∈ texts, ∀ name' ∈ texts,
      Key.set d.key source kind name = Key.set d.key source' kind' name' ↔
        name = name' ∧ Key.Confusable source kind source' kind') ∧
      ∀ files backends file force, (∀ source kind name, JoinsSet d files backends file source kind name → name ∈ texts) →
        ∀ source kind, ∀ name ∈ texts,
          ((∀ source' kind', JoinsSet d files backends file source' kind' name →
              ¬Key.Confusable source kind source' kind') →
            UnawareOf (Key.set d.key source kind name) fun store => scanFile d files backends store force file) ∧
          (':' ∉ source.toList → (∀ b ∈ backends, ':' ∉ b.name.toList) →
            ¬JoinsSet d files backends file source kind name →
              UnawareOf (Key.set d.key source kind name) fun store => scanFile d files backends store force file) := by
  have hkeys : ∀ source kind source' kind', ∀ name ∈ texts, ∀ name' ∈ texts,
      Key.set d.key source kind name = Key.set d.key source' kind' name' ↔
        name = name' ∧ Key.Confusable source kind source' kind' := by
    intro source kind source' kind' name hname name' hname'
    exact Key.set_eq_set_iff hdigest hname hname'
  refine ⟨hkeys, ?_⟩
  intro files backends file force hnames source kind name hname
  have hunaware : (∀ source' kind', JoinsSet d files backends file source' kind' name →
      ¬Key.Confusable source kind source' kind') →
        UnawareOf (Key.set d.key source kind name) fun store => scanFile d files backends store force file := by
    intro hapart
    refine unawareOf_scanFile (Key.file_ne_set d.key _ source kind name) ?_ force
    intro hmem
    obtain ⟨source', kind', name', hjoins, hkey⟩ := exists_of_mem_joinedKeys hmem
    obtain ⟨rfl, hconfusable⟩ :=
      (hkeys source kind source' kind' name hname name' (hnames source' kind' name' hjoins)).mp hkey.symm
    exact hapart source' kind' hjoins hconfusable
  refine ⟨hunaware, ?_⟩
  intro hsource hbackends hnot
  apply hunaware
  intro source' kind' hjoins hconfusable
  have hsource' : ':' ∉ source'.toList := by
    obtain ⟨-, -, b, hb, rfl, -⟩ := hjoins
    exact hbackends b hb
  obtain ⟨rfl, rfl⟩ := (Key.confusable_iff_of_colon_not_mem hsource hsource').mp hconfusable
  exact hnot hjoins

/-- A backend that knows the show joins a file to nothing else. -/
theorem eq_of_joinsSet_showBackend {d : Digests} {files : FileTree} {file : FileInfo} {source kind name : String}
    (h : JoinsSet d files [showBackend] file source kind name) : source = "shows" ∧ kind = "show" ∧ name = "Fringe" := by
  obtain ⟨contentId, -, b, hb, rfl, contribution, hprocess, a, ha, rfl, rfl⟩ := h
  obtain rfl := List.mem_singleton.mp hb
  cases hprocess
  obtain rfl := List.mem_singleton.mp ha
  exact ⟨rfl, rfl, rfl⟩

/-- With the digests that programs use, the show of one backend and that of another one have different keys, and a
scan that joins the file to one of them takes no notice of the other. -/
theorem sets_share_key_iff_of_two_shows :
    Digests.standard.key.Separates {"Fringe"} ∧
      Key.set Digests.standard.key "movies" "show" "Fringe" ≠ Key.set Digests.standard.key "shows" "show" "Fringe" ∧
        UnawareOf (Key.set Digests.standard.key "movies" "show" "Fringe") fun store =>
          scanFile Digests.standard pilotFiles [showBackend] store true pilot := by
  have hdigest : Digests.standard.key.Separates {"Fringe"} := Blake3.separates_of_injOn (Set.injOn_singleton _ _)
  obtain ⟨hkeys, hscan⟩ := sets_share_key_iff hdigest
  have hname : "Fringe" ∈ ({"Fringe"} : Set String) := rfl
  refine ⟨hdigest, ?_, ?_⟩
  · intro hsame
    obtain ⟨-, hconfusable⟩ := (hkeys "movies" "show" "shows" "show" "Fringe" hname "Fringe" hname).mp hsame
    have hsource := (Key.confusable_iff_of_colon_not_mem (by decide) (by decide)).mp hconfusable
    exact absurd hsource.1 (by decide)
  · have hnames : ∀ source kind name, JoinsSet Digests.standard pilotFiles [showBackend] pilot source kind name →
        name ∈ ({"Fringe"} : Set String) := fun _ _ _ hjoins => (eq_of_joinsSet_showBackend hjoins).2.2
    refine (hscan pilotFiles [showBackend] pilot true hnames "movies" "show" "Fringe" hname).2 (by decide) ?_ ?_
    · intro b hb
      obtain rfl := List.mem_singleton.mp hb
      decide
    · intro hjoins
      exact absurd (eq_of_joinsSet_showBackend hjoins).1 (by decide)

/-- A backend that knows one set. -/
def setBackend (source kind name : String) : Backend :=
  .constant source ⟨Dict.empty, [⟨name, kind, Dict.empty.insert "from" source⟩]⟩ Dict.empty

/-- **Where sets share an entry**: a colon in the kind of one set and in the source of another one. A scan that joins
a file to both of them stores one entry beside that of the file, with what the first of the backends said. -/
theorem not_sets_apart :
    (¬∀ digest : Digest, Function.Injective digest → ∀ source kind name source' kind' name',
        Key.set digest source kind name = Key.set digest source' kind' name' →
          source = source' ∧ kind = kind' ∧ name = name') ∧
      let backends := [setBackend "a" "b:c" "N", setBackend "a:b" "c" "N"]
      let scanned := scanFile plainDigests pilotFiles backends (.ofTable .empty) false pilot
      JoinsSet plainDigests pilotFiles backends pilot "a" "b:c" "N" ∧
        JoinsSet plainDigests pilotFiles backends pilot "a:b" "c" "N" ∧
          scanned.effort? = some .processed ∧ scanned.store.table.count = 2 ∧
            (scanned.store.table.fieldsOf (Key.set id "a:b" "c" "N")).get? "from" = some "a" := by
  refine ⟨?_, ?_, ?_, ?_⟩
  · intro h
    have hsame : Key.set id "a" "b:c" "N" = Key.set id "a:b" "c" "N" := by decide +kernel
    exact absurd (h id Function.injective_id _ _ _ _ _ _ hsame).1 (by decide)
  · exact ⟨_, contentId_pilot, _, List.mem_cons_self, rfl, _, rfl, _, List.mem_cons_self, rfl, rfl⟩
  · exact ⟨_, contentId_pilot, _, List.mem_cons_of_mem _ List.mem_cons_self, rfl, _, rfl, _, List.mem_cons_self, rfl, rfl⟩
  · simp only [scanFile, processFile, contentId_pilot]
    decide +kernel

/-! ## Files -/

/-- A scan takes no notice of the entry of a file with another key. -/
theorem unawareOf_file {d : Digests} {files : FileTree} {backends : List Backend} {file : FileInfo} {path : String}
    (h : Key.file d.key file.pathText ≠ Key.file d.key path) (force : Bool) :
    UnawareOf (Key.file d.key path) fun store => scanFile d files backends store force file := by
  refine unawareOf_scanFile h ?_ force
  intro hmem
  have hset := isSet_of_mem_joinedKeys hmem
  rw [Key.isSet_file] at hset
  cases hset

/-- **What is stored of a file** stays over a run of scans of files with other keys. -/
theorem fieldsOf_after_others {d : Digests} {path : String} (run later : List ScanRequest)
    (hother : ∀ q ∈ later, q.key d ≠ Key.file d.key path) :
    (tableAfter d (run ++ later)).fieldsOf (Key.file d.key path) = (tableAfter d run).fieldsOf (Key.file d.key path) := by
  induction later using List.reverseRecOn with
  | nil => rw [List.append_nil]
  | append_singleton later q ih =>
    have hunaware : UnawareOf (Key.file d.key path) fun store => scanFile d q.files q.backends store q.force q.file :=
      unawareOf_file (hother q (List.mem_append_right _ List.mem_cons_self)) q.force
    have hkept : (q.scan d (tableAfter d (run ++ later))).store.table.fieldsOf (Key.file d.key path) =
        (tableAfter d (run ++ later)).fieldsOf (Key.file d.key path) := hunaware.kept (q.storeOn _)
    rw [← List.append_assoc, tableAfter_concat, hkept]
    exact ih fun q hq => hother q (List.mem_append_left _ hq)

/-- Different paths with the same text: there is a replacement character in it, and one of them is no UTF-8. -/
theorem FilePath.malformed_of_text_eq {p q : FilePath} (hne : p ≠ q) (htext : p.text = q.text) :
    Text.Utf8.replacement ∈ p.text.toList ∧ (Text.Utf8.strict? p.bytes = none ∨ Text.Utf8.strict? q.bytes = none) := by
  have hbytes : q.bytes ≠ p.bytes := fun heq => hne (congrArg FilePath.mk heq.symm)
  refine ⟨Text.Utf8.exists_lossy_eq_iff.mp ⟨q.bytes, hbytes, htext.symm⟩, ?_⟩
  cases hp : Text.Utf8.strict? p.bytes with
  | none => exact .inl rfl
  | some t =>
    cases hq : Text.Utf8.strict? q.bytes with
    | none => exact .inr rfl
    | some u =>
      have hpt := Text.Utf8.strict?_eq_some_iff.mp hp
      have hqu := Text.Utf8.strict?_eq_some_iff.mp hq
      unfold FilePath.text at htext
      rw [hpt, hqu, Text.Utf8.lossy_bytes, Text.Utf8.lossy_bytes] at htext
      rw [hpt, hqu, htext] at hbytes
      exact absurd rfl hbytes

/-- **Which files share an entry.** As far as digests tell the texts of paths apart, two files have one key exactly
if their paths have the same text. Different paths have it only if one of them is no UTF-8, and there are such paths
exactly if a replacement character is in the text. A scan of a file takes no notice of the entry of a file whose path
has another text, and what is stored of a file stays over every run of scans of files with other keys. -/
theorem files_share_key_iff {d : Digests} {f g : FileInfo} (hdigest : Set.InjOn d.key {f.pathText, g.pathText}) :
    (Key.file d.key f.pathText = Key.file d.key g.pathText ↔ f.pathText = g.pathText) ∧
      (f.path ≠ g.path → f.pathText = g.pathText →
        Text.Utf8.strict? f.path.bytes = none ∨ Text.Utf8.strict? g.path.bytes = none) ∧
      ((∃ other : FilePath, other ≠ f.path ∧ other.text = f.pathText) ↔
        Text.Utf8.replacement ∈ f.pathText.toList) ∧
      (f.pathText ≠ g.pathText → ∀ files backends force,
        UnawareOf (Key.file d.key g.pathText) fun store => scanFile d files backends store force f) ∧
      ∀ run later, (∀ q ∈ later, q.key d ≠ Key.file d.key g.pathText) →
        (tableAfter d (run ++ later)).fieldsOf (Key.file d.key g.pathText) =
          (tableAfter d run).fieldsOf (Key.file d.key g.pathText) := by
  have hkeys : Key.file d.key f.pathText = Key.file d.key g.pathText ↔ f.pathText = g.pathText :=
    (Key.injOn_file hdigest).eq_iff (.inl rfl) (.inr rfl)
  refine ⟨hkeys, ?_, ?_, ?_, fieldsOf_after_others⟩
  · intro hne htext
    exact (FilePath.malformed_of_text_eq hne htext).2
  · constructor
    · rintro ⟨other, hne, htext⟩
      exact (FilePath.malformed_of_text_eq hne.symm htext.symm).1
    · intro hmem
      obtain ⟨other, hne, htext⟩ := Text.Utf8.exists_lossy_eq_iff.mpr hmem
      exact ⟨⟨other⟩, fun heq => hne (congrArg FilePath.bytes heq), htext⟩
  · intro hne files backends force
    exact unawareOf_file (mt hkeys.mp hne) force

/-- A file at a path without replacement characters has an entry of its own, beside a file whose name is such a
character; and of two paths with the text of that one, one is no UTF-8. -/
theorem files_share_key_iff_of_pilot :
    Set.InjOn plainDigests.key {pilot.pathText, replacementRequest.file.pathText} ∧
      pilot.pathText ≠ replacementRequest.file.pathText ∧
        (¬∃ other : FilePath, other ≠ pilot.path ∧ other.text = pilot.pathText) ∧
        (UnawareOf (Key.file plainDigests.key replacementRequest.file.pathText) fun store =>
          scanFile plainDigests pilotFiles [showBackend] store true pilot) ∧
        (tableAfter plainDigests [replacementRequest, pilotRequest]).fieldsOf (replacementRequest.key plainDigests) =
          (tableAfter plainDigests [replacementRequest]).fieldsOf (replacementRequest.key plainDigests) ∧
          malformedPath ≠ replacementPath ∧ malformedPath.text = replacementPath.text ∧
            Text.Utf8.strict? malformedPath.bytes = none := by
  have htexts : pilot.pathText ≠ replacementRequest.file.pathText := by decide +kernel
  have hpaths : malformedPath ≠ replacementPath := by decide +kernel
  have hsame : malformedPath.text = replacementPath.text := by decide +kernel
  have hpilot := @files_share_key_iff plainDigests pilot replacementRequest.file Function.injective_id.injOn
  have hmalformed :=
    @files_share_key_iff plainDigests malformedRequest.file replacementRequest.file Function.injective_id.injOn
  refine ⟨Function.injective_id.injOn, htexts, ?_, hpilot.2.2.2.1 htexts pilotFiles [showBackend] true, ?_, hpaths, hsame, ?_⟩
  · rw [hpilot.2.2.1]
    decide +kernel
  · apply hpilot.2.2.2.2 [replacementRequest] [pilotRequest]
    intro q hq
    obtain rfl := List.mem_singleton.mp hq
    decide +kernel
  · have hreplacement : Text.Utf8.strict? replacementPath.bytes = some "/\uFFFD" := Text.Utf8.strict?_bytes _
    refine (hmalformed.2.1 hpaths hsame).resolve_right ?_
    rw [replacementRequest, hreplacement]
    exact Option.some_ne_none _

/-- **Where files share an entry**: a path that is no UTF-8, and the path with a replacement character instead. A scan
of the file at the first one fails by itself; once the other file is on record, it finds its file unchanged. -/
theorem not_file_entries_apart :
    (¬∀ digest : Digest, Function.Injective digest → ∀ f g : FileInfo, f.path ≠ g.path →
        Key.file digest f.pathText ≠ Key.file digest g.pathText) ∧
      malformedRequest.file.path ≠ replacementRequest.file.path ∧
        (malformedRequest.scan plainDigests .empty).effort? = none ∧
          (malformedRequest.scan plainDigests (tableAfter plainDigests [replacementRequest])).effort? = some .cached := by
  have hpaths : malformedRequest.file.path ≠ replacementRequest.file.path := by decide +kernel
  have hnode : malformedRequest.files.node? malformedPath = none :=
    (@FileTree.node?_onlyFile [255] malformedPath (by decide +kernel) (by decide) _ _).trans (if_neg (by decide +kernel))
  have hcontent : malformedRequest.files.contentId plainDigests malformedPath = .error (.of .io) := by
    rw [FileTree.contentId, hnode]
  have halone : (malformedRequest.scan plainDigests .empty).effort? = none := by
    simp only [malformedRequest, replacementRequest] at hcontent
    simp only [ScanRequest.scan, malformedRequest, replacementRequest, scanFile, processFile, hcontent]
    decide +kernel
  refine ⟨?_, hpaths, halone, cached_malformedRequest⟩
  intro h
  have hkeys : Key.file id malformedRequest.file.pathText = Key.file id replacementRequest.file.pathText := by
    decide +kernel
  exact h id Function.injective_id _ _ hpaths hkeys

end MediaCatalog
