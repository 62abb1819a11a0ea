import MediaCatalog.Command.Run
import MediaCatalog.Proofs.Namespace.Ancestors
import MediaCatalog.Proofs.Namespace.Handles
import MediaCatalog.Proofs.Scan.Atomicity

/-!
# Reading through a handle

What is read through a handle is the content of the real file, however short the reads of the file are and however
often they are interrupted. Reading range after range until one is empty, as `Command.print` does, gives the whole
content.

* `Positioned.fill_eq`: a range is read whole.
* `Command.readAll_eq`: ranges one after the other make up the rest of the content.
* `Namespace.openFile?_after`: a handle keeps its file until it is released.
* **Main result** (`Namespace.reads_file_of_open`): what is read through a handle, in one range and in ranges one after
  the other, and the size that is reported for its path.
* `Command.print_of_file`: what is printed.
-/

namespace MediaCatalog

/-! ## Ranges -/

/-- What lies behind the end is not extracted. -/
theorem extract_min_size (content : ByteArray) (i j : Nat) : content.extract i (min j content.size) = content.extract i j := by
  have hwhole := @ByteArray.extract_extract content 0 content.size i j
  rw [ByteArray.extract_zero_size, Nat.zero_add, Nat.zero_add] at hwhole
  exact hwhole.symm

/-- As many bytes as are extracted could have been asked for. -/
theorem extract_add_size {content : ByteArray} {i j : Nat} (h : i ≤ j) :
    content.extract i (i + (content.extract i j).size) = content.extract i j := by
  rw [ByteArray.size_extract, ← extract_min_size, ← extract_min_size content i j]
  congr 1
  omega

/-- **A range is read whole**, whatever the reads do: interruptions and short reads do not show. -/
theorem Positioned.fill_eq (content : ByteArray) (offset length : Nat) (delivery : Delivery) :
    fill content offset length delivery = content.extract offset (offset + length) := by
  induction delivery generalizing offset length with
  | nil => rfl
  | cons read later ih =>
    cases read with
    | none => exact ih offset length
    | some n =>
      rw [fill]
      have hsize : (content.extract offset (offset + min (n + 1) length)).size =
          min (offset + min (n + 1) length) content.size - offset := ByteArray.size_extract
      have hread := @extract_add_size content offset (offset + min (n + 1) length) (Nat.le_add_right _ _)
      generalize content.extract offset (offset + min (n + 1) length) = piece at hsize hread ⊢
      split
      · next hlast =>
        rcases hlast with hnone | hall
        · -- nothing was left to read
          rw [ByteArray.size_eq_zero_iff.mp hnone]
          refine (ByteArray.extract_eq_empty_iff.mpr ?_).symm
          omega
        · rw [hall] at hread
          exact hread.symm
      · calc piece ++ fill content (offset + piece.size) (length - piece.size) later
            = content.extract offset (offset + piece.size) ++
                content.extract (offset + piece.size) (offset + length) := by
              rw [ih, hread, show offset + piece.size + (length - piece.size) = offset + length by omega]
          _ = content.extract offset (offset + length) :=
              (ByteArray.extract_eq_extract_append_extract _ (by omega) (by omega)).symm

/-- **Ranges one after the other** make up the rest of a content, if none is asked for with no bytes. -/
theorem Command.readAll_eq {content : ByteArray} {read : Nat → Except NamespaceError ByteArray} {lengths : Nat → Nat}
    (hlengths : ∀ offset ≤ content.size, 0 < lengths offset)
    (hread : ∀ offset ≤ content.size, read offset = .ok (content.extract offset (offset + lengths offset)))
    {offset count : Nat} (hoffset : offset ≤ content.size) (hcount : content.size < offset + count) (before : ByteArray) :
    readAll read offset before count = (before ++ content.extract offset content.size, none) := by
  induction count generalizing offset before with
  | zero => omega
  | succ count ih =>
    have hchunk := @extract_add_size content offset (offset + lengths offset) (Nat.le_add_right _ _)
    have hsize : (content.extract offset (offset + lengths offset)).size =
        min (offset + lengths offset) content.size - offset := ByteArray.size_extract
    have hpos := hlengths offset hoffset
    simp only [readAll, hread offset hoffset]
    generalize content.extract offset (offset + lengths offset) = chunk at hchunk hsize ⊢
    split
    · next hempty =>
      -- an empty range is the end, since bytes were asked for
      have hend : chunk.size = 0 := by simpa [ByteArray.isEmpty] using hempty
      have hrest : content.extract offset content.size = ByteArray.empty :=
        ByteArray.extract_eq_empty_iff.mpr (by omega)
      rw [hrest, ByteArray.append_empty]
    · next hmore =>
      have hgot : chunk.size ≠ 0 := by simpa [ByteArray.isEmpty] using hmore
      have hrest : chunk ++ content.extract (offset + chunk.size) content.size = content.extract offset content.size := by
        calc chunk ++ content.extract (offset + chunk.size) content.size
            = content.extract offset (offset + chunk.size) ++ content.extract (offset + chunk.size) content.size := by
              rw [hchunk]
          _ = content.extract offset content.size :=
              (ByteArray.extract_eq_extract_append_extract _ (by omega) (by omega)).symm
      rw [ih (by omega) (by omega), ByteArray.append_assoc, hrest]

/-! ## Open files -/

namespace Namespace

variable {n opened after : Namespace} {handle : Nat} {store : Store} {files : FileTree} {path : String} {data : FileData}

/-- A range of an open file is read, unless it would reach further than any file. -/
theorem OpenFile.read_file (data : FileData) (delivery : Positioned.Delivery) (offset length : Nat) :
    OpenFile.read (.file data) delivery offset length =
      if length = 0 ∨ offset + length ≤ maxOffset then .ok (data.content.extract offset (offset + length))
      else .error .io := by
  unfold OpenFile.read
  by_cases hnone : length = 0
  · subst hnone
    have hempty : data.content.extract offset (offset + 0) = ByteArray.empty :=
      ByteArray.extract_eq_empty_iff.mpr (Nat.min_le_left _ _)
    rw [if_pos rfl, if_pos (.inl rfl), hempty]
  · rw [if_neg hnone]
    by_cases hreach : offset + length ≤ maxOffset
    · rw [if_neg (Nat.not_lt.mpr hreach), if_pos (.inr hreach)]
      exact congrArg Except.ok (Positioned.fill_eq data.content offset length delivery)
    · rw [if_pos (Nat.not_le.mp hreach), if_neg (not_or.mpr ⟨hnone, hreach⟩)]

/-- What is read through the handle of a regular file. -/
theorem read_of_openFile? (h : n.openFile? handle = some (.file data)) (delivery : Positioned.Delivery) (offset length : Nat) :
    n.read delivery handle offset length =
      if length = 0 ∨ offset + length ≤ maxOffset then .ok (data.content.extract offset (offset + length))
      else .error .io := by
  unfold read
  simp only [h]
  exact OpenFile.read_file data delivery offset length

/-- **The ranges of an open file** make up its content. -/
theorem readAll_of_openFile? (h : n.openFile? handle = some (.file data)) (deliveries : Nat → Positioned.Delivery)
    (lengths : Nat → Nat) (hlengths : ∀ offset ≤ data.content.size, 0 < lengths offset ∧ offset + lengths offset ≤ maxOffset) :
    Command.readAll (fun offset => n.read (deliveries offset) handle offset (lengths offset)) 0 ByteArray.empty
      (Command.readCount n handle) = (data.content, none) := by
  have hcount : Command.readCount n handle = data.content.size + 1 := by simp only [Command.readCount, h]
  have hranges : ∀ offset ≤ data.content.size, n.read (deliveries offset) handle offset (lengths offset) =
      .ok (data.content.extract offset (offset + lengths offset)) := by
    intro offset hoffset
    rw [read_of_openFile? h, if_pos (.inr (hlengths offset hoffset).2)]
  rw [hcount, Command.readAll_eq (fun offset hoffset => (hlengths offset hoffset).1) hranges (Nat.zero_le _) (by omega),
    ByteArray.empty_append, ByteArray.extract_zero_size]

/-- The file of a path is opened if it has a real one that can be. -/
theorem open_of_file {node : Node} {real : String} {file : OpenFile} (hnode : n.browser.resolve store path = .ok node)
    (hkind : node.kind = .file) (hreal : realPath? node = some real) (hopened : openReal files real = .ok file) :
    n.open store files path false =
      (.ok n.next, { n with handles := n.handles ++ [(n.next, file)], next := n.next + 1 }) := by
  have hat : n.openAt store files path false = .ok file := by
    unfold openAt
    rw [hnode]
    simp only [bind, Except.bind, hkind, hreal, hopened]
    rfl
  unfold Namespace.open
  rw [hat]

/-- What was opened as a regular file is one. -/
theorem node?_of_openReal {real : String} (h : openReal files real = .ok (.file data)) :
    files.node? real = some (.file data) := by
  unfold openReal at h
  split at h
  · next found hnode =>
    split at h
    · cases h
      exact hnode
    · cases h
  · cases h
  · cases h

/-- The attributes of a path that was opened are those of the real file. -/
theorem attributes_of_open {n' : Namespace} {past : List HandleEvent} (htracks : n.Tracks past)
    (hopen : n.open store files path false = (.ok handle, opened)) (hfile : opened.openFile? handle = some (.file data))
    (hbrowser : n'.browser = n.browser) :
    n'.attributes store files path = .ok ⟨.file, fileMode, data.content.size, some data.modified⟩ := by
  obtain ⟨-, rfl, node, real, file, hnode, hkind, hreal, hopened, rfl⟩ := opened_of_open hopen
  rw [htracks.openFile?_next] at hfile
  cases hfile
  unfold attributes
  rw [hbrowser, hnode]
  simp only [bind, Except.bind, hkind, hreal, node?_of_openReal hopened]
  rfl

/-- **Reading through a handle gives the file.** Let a path be opened after some calls, and let it be a regular file; let
other calls follow, none of which releases the handle, while the store and the files stay as they are. Then what is read
is the range that was asked for, as far as the content goes, whatever the reads of the file do; only a range that would
reach further than any file is refused. Ranges one after the other, from the start until one is empty, make up the
content, whatever their lengths, which may depend on where they start, as long as none is refused. And the size reported
for the path is that of the content. -/
theorem reads_file_of_open {browser : Browser} {before later : List HandleCall}
    (hopen : ((ofBrowser browser).after before).open store files path false = (.ok handle, opened))
    (hfile : opened.openFile? handle = some (.file data)) (hkept : ∀ call ∈ later, call ≠ .release handle) :
    let n := opened.after later
    (∀ delivery offset length, n.read delivery handle offset length =
        if length = 0 ∨ offset + length ≤ maxOffset then
          .ok (data.content.extract offset (min (offset + length) data.content.size))
        else .error .io) ∧
      (∀ (deliveries : Nat → Positioned.Delivery) (lengths : Nat → Nat),
        (∀ offset ≤ data.content.size, 0 < lengths offset ∧ offset + lengths offset ≤ maxOffset) →
        Command.readAll (fun offset => n.read (deliveries offset) handle offset (lengths offset)) 0 ByteArray.empty
          (Command.readCount n handle) = (data.content, none)) ∧
      n.attributes store files path = .ok ⟨.file, fileMode, data.content.size, some data.modified⟩ := by
  intro n
  have htracks := tracks_after browser before
  have hn : n.openFile? handle = some (.file data) := by
    rw [← hfile]
    exact openFile?_after (by rw [hfile]; rfl) hkept
  refine ⟨fun delivery offset length => ?_, readAll_of_openFile? hn, ?_⟩
  · rw [read_of_openFile? hn, extract_min_size]
  · apply attributes_of_open htracks hopen hfile
    rw [browser_after]
    obtain ⟨-, -, -, -, -, -, -, -, -, rfl⟩ := opened_of_open hopen
    rfl

/-- A level for the episodes, each with its title. -/
def episodesSchema : Schema := ⟨"", [⟨⟨"kind.Equals(episode)"⟩, ⟨"$title"⟩, none, none, none⟩]⟩

/-- A mount of the episodes. -/
def episodesBrowser : Browser := ⟨Dict.empty.insert "tv" episodesSchema, true⟩

/-- The entry of the file `/pilot.mkv`. -/
def pilotEpisode : Entry :=
  (((Entry.blank ⟨"file:1"⟩).insert "kind" "episode").insert "title" "Pilot").insert "path" "/pilot.mkv"

/-- The store with that entry. -/
def pilotEpisodeStore : Store := .ofTable (Table.empty.write pilotEpisode)

/-- The file `/pilot.mkv`, with three bytes. -/
def pilotData : FileData := ⟨1, ⟨#[1, 2, 3]⟩, true, 0⟩

/-- The episode is opened with the first handle. -/
theorem open_pilot : (ofBrowser episodesBrowser).open pilotEpisodeStore pilotFiles "/tv/Pilot" false =
    (.ok 1, ⟨episodesBrowser, [(1, .file pilotData)], 2⟩) := by
  have hchain : episodesSchema.chain? pilotEpisodeStore true ["Pilot"] = .ok (some [pilotEpisode]) :=
    eq_ok_of_toOption (by decide +kernel)
  have hsegments : Text.segments "/tv/Pilot" = ["tv", "Pilot"] := by decide
  have hkind : NodeKind.classify episodesSchema 0 pilotEpisode = .file := by decide
  have hresolve : episodesBrowser.resolve pilotEpisodeStore "/tv/Pilot" = .ok (.entry "tv" [pilotEpisode] .file) := by
    rw [Browser.resolve_of_chain? hsegments (List.cons_ne_nil _ _) rfl hchain]
    exact congrArg (fun kind => Except.ok (Node.entry "tv" [pilotEpisode] kind)) hkind
  have hnode : pilotFiles.node? "/pilot.mkv" = some (.file pilotData) :=
    (FileTree.node?_onlyFile (by decide +kernel) (by decide +kernel) _ _).trans (if_pos rfl)
  have hopened : openReal pilotFiles "/pilot.mkv" = .ok (.file pilotData) := by
    rw [openReal, hnode]
    rfl
  exact open_of_file hresolve rfl (by decide : realPath? _ = some "/pilot.mkv") hopened

/-- The episode is read after it has been opened twice more, one of the other handles released, and something else
tried. -/
theorem reads_file_of_open_pilot :
    let again : HandleCall := .openPath pilotEpisodeStore pilotFiles "/tv/Pilot" false
    let later : List HandleCall := [again, .read [none, some 0] 1 1 2, again, .release 2, .release 7]
    let opened : Namespace := ⟨episodesBrowser, [(1, .file pilotData)], 2⟩
    ((ofBrowser episodesBrowser).after []).open pilotEpisodeStore pilotFiles "/tv/Pilot" false = (.ok 1, opened) ∧
      opened.openFile? 1 = some (.file pilotData) ∧ (∀ call ∈ later, call ≠ .release 1) ∧
      (opened.after later).read [some 0, none, some 0] 1 1 10 = .ok (pilotData.content.extract 1 3) ∧
      (opened.after later).read [] 1 5 10 = .ok (pilotData.content.extract 5 3) ∧
      Command.readAll (fun offset => (opened.after later).read [some 0] 1 offset (offset + 1)) 0 ByteArray.empty
        (Command.readCount (opened.after later) 1) = (pilotData.content, none) ∧
      (opened.after later).attributes pilotEpisodeStore pilotFiles "/tv/Pilot" = .ok ⟨.file, 0o444, 3, some 0⟩ := by
  intro again later opened
  have hkept : ∀ call ∈ later, call ≠ .release 1 := by simp [later, again]
  have hopen : ((ofBrowser episodesBrowser).after []).open pilotEpisodeStore pilotFiles "/tv/Pilot" false =
      (.ok 1, opened) := open_pilot
  obtain ⟨hread, hreadAll, hattributes⟩ := reads_file_of_open hopen rfl hkept
  refine ⟨hopen, rfl, hkept, hread _ 1 10, hread _ 5 10, hreadAll (fun _ => [some 0]) (· + 1) ?_, hattributes⟩
  intro offset hoffset
  have hsize : pilotData.content.size = 3 := rfl
  rw [hsize] at hoffset
  unfold maxOffset
  omega

/-- **A range that would reach further than any file** is refused and not empty, although its offset is one that a file
can have: one byte is asked for at the largest one. Nor is there a buffer for as many bytes from the start. -/
theorem read_refused_at_maxOffset :
    let opened : Namespace := ⟨episodesBrowser, [(1, .file pilotData)], 2⟩
    (ofBrowser episodesBrowser).open pilotEpisodeStore pilotFiles "/tv/Pilot" false = (.ok 1, opened) ∧
      opened.read [] 1 maxOffset 1 = .error .io ∧ opened.read [] 1 0 (maxOffset + 1) = .error .io ∧
      ¬∀ offset ≤ maxOffset, ∀ length, opened.read [] 1 offset length =
        .ok (pilotData.content.extract offset (min (offset + length) pilotData.content.size)) := by
  intro opened
  have hrefused : opened.read [] 1 maxOffset 1 = .error .io := rfl
  refine ⟨open_pilot, hrefused, rfl, fun hall => ?_⟩
  have hread := hall maxOffset (Nat.le_refl _) 1
  rw [hrefused] at hread
  cases hread

end Namespace

/-! ## Printing -/

namespace Command

open Namespace

variable {m : Machine} {c : Config} {store : Store} {n : Namespace}

/-- When files are browsed, nothing has been opened yet. -/
theorem ofBrowser_of_browse (h : browse m c = .ok (store, n)) : n = ofBrowser n.browser := by
  have hmounts : ∀ (mounts : List MountSettings) (browser : Browser) (n : Namespace),
      mounts.foldlM (fun n mount => n.withMount mount.name mount.schema) (ofBrowser browser) = .ok n →
        n = ofBrowser n.browser := by
    intro mounts
    induction mounts with
    | nil =>
      intro browser n hn
      cases hn
      rfl
    | cons mount rest ih =>
      intro browser n hn
      rw [List.foldlM_cons, withMount, register_ofBrowser] at hn
      generalize browser.mounts.register mount.name mount.schema = registered at hn
      obtain ⟨outcome, after⟩ := registered
      cases outcome with
      | error cause => cases hn
      | ok => exact ih _ n hn
  rw [browse, new_eq] at h
  split at h
  · cases h
  · split at h
    · cases h
    · next hn =>
      cases h
      exact hmounts c.mounts _ n hn

/-- **A file is printed whole**: if its path resolves to a file with a readable real one that is not too long to be read
in chunks, then just its content is printed. -/
theorem print_of_file {path real : String} {node : Node} {data : FileData} (hbrowse : browse m c = .ok (store, n))
    (hnode : n.browser.resolve store path = .ok node) (hkind : node.kind = .file) (hreal : realPath? node = some real)
    (hopened : openReal m.files real = .ok (.file data)) (hsize : data.content.size + chunkLength ≤ maxOffset) :
    print m c path = ⟨data.content, none, m.files⟩ := by
  have htracks : n.Tracks [] := by
    rw [ofBrowser_of_browse hbrowse]
    exact Tracks.ofBrowser _
  have hread := readAll_of_openFile? (htracks.openFile?_next (.file data)) (fun _ => []) (fun _ => chunkLength)
    fun offset hoffset => ⟨by decide, by omega⟩
  unfold print
  simp only [hbrowse, open_of_file hnode hkind hreal hopened, hread]
  rfl

end Command

end MediaCatalog
