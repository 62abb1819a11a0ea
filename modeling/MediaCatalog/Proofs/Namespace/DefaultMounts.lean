import MediaCatalog.Namespace.Handles
import MediaCatalog.Proofs.Namespace.ReleaseLevels

/-!
# The two default mounts

By default the catalog is mounted by title, and by group and title. Both mounts show the files with a
release name under the same labels, so what one shows of a title and a group is what the other shows.

* **One mount** (`Browser.leadsTo_title_iff`, `Browser.leadsTo_group_iff`): a path leads to the first of the
  files of a title, or of a group and a title, that have the label.
* `Table.HoldsReleases.released?_group`: files of one title under one label are of one group, so these are
  the same file.
* `register_initial`: the default mounts can be registered.
* **Main result** (`default_mounts_agree`): the mounts agree after every run of scans with the release
  backend.
-/

namespace MediaCatalog

open Release (Part)

/-! ## What the mounts show -/

/-- On the last level a file with a release name appears as a file. -/
theorem classify_of_isReleased {schema : Schema} {depth : Nat} {e : Entry} {parts : List (Part × String)}
    (hdepth : schema.levels.length = depth + 1) (h : e.isReleased parts = true) :
    NodeKind.classify schema depth e = .file := by
  unfold NodeKind.classify
  rw [if_neg]
  simp [hdepth, Entry.isSet_of_isReleased h]

section mounts

variable {d : Digests} {known : Set Release} {store : Store} {b : Browser} {e : Entry} {kind : NodeKind}
  (hopen : store.isOpen = true) (hheld : store.table.HoldsReleases d known)
  (hdigest : d.key.Separates (Release.setNames known)) (hbalanced : ∀ text, Query.Balanced (d.key text).toList)
include hopen hheld hdigest hbalanced

/-- **By title** a path leads to the first file of the title with the label. -/
theorem Browser.leadsTo_title_iff {source title name : String}
    (hmount : b.mounts.get? "by-name" = some ⟨source, [setsLevel .title, titleFilesLevel]⟩)
    (htitle : isAddressable title = true) (hname : isAddressable name = true) :
    b.LeadsTo store ("/by-name/" ++ title ++ "/" ++ name) e kind ↔
      store.table.released? [(.title, title)] name = some e ∧ kind = .file := by
  have hnames : ∀ x ∈ ["by-name", title, name], isAddressable x = true :=
    List.forall_mem_cons.mpr ⟨by decide, List.forall_mem_cons.mpr ⟨htitle, List.forall_mem_singleton.mpr hname⟩⟩
  have hpath : "/by-name/" ++ title ++ "/" ++ name = Text.descend "" ["by-name", title, name] := rfl
  have hsegments : Text.segments ("/by-name/" ++ title ++ "/" ++ name) = ["by-name", title, name] :=
    hpath ▸ segments_of_isAddressable hnames
  rw [leadsTo_iff hsegments hmount (by simp)]
  constructor
  · rintro ⟨chain, -, hchain, hlast, rfl⟩
    obtain ⟨x, hx, hchain⟩ := Level.extend?_cons_eq_some_iff.mp hchain
    obtain ⟨e', hfile, hchain⟩ := Level.extend?_cons_eq_some_iff.mp hchain
    cases hchain
    cases hlast
    rw [next?_setsLevel hopen, Except.ok.injEq] at hx
    obtain ⟨r, hr, hkey, rfl⟩ := hheld.of_setNamed? hx
    have hfind := (next?_titleFilesLevel hopen hheld hdigest hbalanced hr hkey name).symm.trans hfile
    rw [Except.ok.injEq] at hfind
    exact ⟨hfind, classify_of_isReleased rfl (Table.of_released? hfind).2.1⟩
  · rintro ⟨hfind, rfl⟩
    obtain ⟨he, hreleased, -⟩ := Table.of_released? hfind
    obtain ⟨x, hx⟩ := hheld.exists_setNamed he hreleased List.mem_cons_self
    obtain ⟨r, hr, hkey, rfl⟩ := hheld.of_setNamed? hx
    refine ⟨[x, e], by simp, ?_, rfl, (classify_of_isReleased rfl hreleased).symm⟩
    refine Level.extend?_cons_eq_some_iff.mpr ⟨x, ?_, Level.extend?_cons_eq_some_iff.mpr ⟨e, ?_, rfl⟩⟩
    · rw [next?_setsLevel hopen, hx]
    · exact (next?_titleFilesLevel hopen hheld hdigest hbalanced hr hkey name).trans (congrArg Except.ok hfind)

/-- **By group** a path leads to the first file of the group and the title with the label. -/
theorem Browser.leadsTo_group_iff {source group title name : String}
    (hmount : b.mounts.get? "by-group" = some ⟨source, [setsLevel .group, groupTitlesLevel, groupFilesLevel]⟩)
    (hgroup : isAddressable group = true) (htitle : isAddressable title = true) (hname : isAddressable name = true) :
    b.LeadsTo store ("/by-group/" ++ group ++ "/" ++ title ++ "/" ++ name) e kind ↔
      store.table.released? [(.group, group), (.title, title)] name = some e ∧ kind = .file := by
  have hnames : ∀ x ∈ ["by-group", group, title, name], isAddressable x = true := by
    refine List.forall_mem_cons.mpr ⟨by decide, List.forall_mem_cons.mpr ⟨hgroup, ?_⟩⟩
    exact List.forall_mem_cons.mpr ⟨htitle, List.forall_mem_singleton.mpr hname⟩
  have hpath : "/by-group/" ++ group ++ "/" ++ title ++ "/" ++ name =
      Text.descend "" ["by-group", group, title, name] := rfl
  have hsegments : Text.segments ("/by-group/" ++ group ++ "/" ++ title ++ "/" ++ name) =
      ["by-group", group, title, name] := hpath ▸ segments_of_isAddressable hnames
  rw [leadsTo_iff hsegments hmount (by simp)]
  constructor
  · rintro ⟨chain, -, hchain, hlast, rfl⟩
    obtain ⟨x, hx, hchain⟩ := Level.extend?_cons_eq_some_iff.mp hchain
    obtain ⟨y, hy, hchain⟩ := Level.extend?_cons_eq_some_iff.mp hchain
    obtain ⟨e', hfile, hchain⟩ := Level.extend?_cons_eq_some_iff.mp hchain
    cases hchain
    cases hlast
    rw [next?_setsLevel hopen, Except.ok.injEq] at hx
    obtain ⟨r, hr, hkey, rfl⟩ := hheld.of_setNamed? hx
    have hother := (next?_groupTitlesLevel hopen hheld hdigest hbalanced hr hkey title).symm.trans hy
    rw [Except.ok.injEq] at hother
    obtain ⟨-, r', hr', hrecorded, hparts, -⟩ :=
      (hheld.isReleased_iff (List.mem_of_find?_eq_some hother) (by simp)).mp (List.find?_some hother)
    obtain rfl : r'.title = title := hparts (.title, title) (by simp)
    have hfind := (next?_groupFilesLevel hopen hheld hdigest hbalanced hr hkey hr' (hrecorded.link .title) name).symm.trans
      hfile
    rw [Except.ok.injEq] at hfind
    exact ⟨hfind, classify_of_isReleased rfl (Table.of_released? hfind).2.1⟩
  · rintro ⟨hfind, rfl⟩
    obtain ⟨he, hreleased, -⟩ := Table.of_released? hfind
    obtain ⟨x, hx⟩ := hheld.exists_setNamed he hreleased List.mem_cons_self
    obtain ⟨r, hr, hkey, rfl⟩ := hheld.of_setNamed? hx
    obtain ⟨y, hy⟩ := Option.isSome_iff_exists.mp (List.find?_isSome.mpr ⟨e, he, hreleased⟩)
    obtain ⟨-, r', hr', hrecorded, hparts, -⟩ :=
      (hheld.isReleased_iff (List.mem_of_find?_eq_some hy) (by simp)).mp (List.find?_some hy)
    obtain rfl : r'.title = title := hparts (.title, title) (by simp)
    refine ⟨[x, y, e], by simp, ?_, rfl, (classify_of_isReleased rfl hreleased).symm⟩
    refine Level.extend?_cons_eq_some_iff.mpr ⟨x, ?_, Level.extend?_cons_eq_some_iff.mpr ⟨y, ?_,
      Level.extend?_cons_eq_some_iff.mpr ⟨e, ?_, rfl⟩⟩⟩
    · rw [next?_setsLevel hopen, hx]
    · exact (next?_groupTitlesLevel hopen hheld hdigest hbalanced hr hkey r'.title).trans (congrArg Except.ok hy)
    · exact (next?_groupFilesLevel hopen hheld hdigest hbalanced hr hkey hr' (hrecorded.link .title) name).trans
        (congrArg Except.ok hfind)

omit hopen hdigest hbalanced in
/-- **Files of one title under one label** are of one group, so it makes no difference whether the group is
given as well. -/
theorem Table.HoldsReleases.released?_group {title name group : String} (hformed : ∀ r ∈ known, r.WellFormed) :
    (store.table.released? [(.title, title)] name = some e ∧ e.get? Part.group.field = some group) ↔
      store.table.released? [(.group, group), (.title, title)] name = some e := by
  -- the groups of two files that are looked for
  have hgroups : ∀ a ∈ store.table.entries, ∀ b ∈ store.table.entries, a.isReleased [(.title, title)] = true →
      b.isReleased [(.title, title)] = true → a.label Release.fileLabel = b.label Release.fileLabel →
        a.get? Part.group.field = b.get? Part.group.field := by
    intro a ha b hb hra hrb hlabel
    obtain ⟨-, ra, hka, hreca, htitlea, -⟩ := (hheld.isReleased_iff ha (by simp)).mp hra
    obtain ⟨-, rb, hkb, hrecb, htitleb, -⟩ := (hheld.isReleased_iff hb (by simp)).mp hrb
    have htitle : ra.title = rb.title := (htitlea (.title, title) (by simp)).trans (htitleb (.title, title) (by simp)).symm
    have hgroup := Release.group_eq_of_label_eq hreca.toDescribedIn hrecb.toDescribedIn (hformed ra hka) (hformed rb hkb)
      htitle hlabel
    rw [hreca.toDescribedIn.part .group, hrecb.toDescribedIn.part .group]
    exact congrArg some hgroup
  have hsame : ∀ a ∈ store.table.entries, a.isReleased [(.title, title)] = true → a.label Release.fileLabel = name →
      a.get? Part.group.field = some group →
      store.table.released? [(.group, group), (.title, title)] name = store.table.released? [(.title, title)] name := by
    intro a ha hra hlabel hgroup
    unfold Table.released?
    apply List.find?_congr
    intro x hx
    rw [Bool.eq_iff_iff, Bool.and_eq_true_iff, Bool.and_eq_true_iff, decide_eq_true_eq, hheld.isReleased_group_iff hx,
      and_assoc]
    refine and_congr_right fun hrx => and_iff_right_of_imp ?_
    rintro rfl
    exact (hgroups x hx a ha hrx hra hlabel.symm).trans hgroup
  constructor
  · rintro ⟨hfind, hgroup⟩
    obtain ⟨he, hreleased, hlabel⟩ := Table.of_released? hfind
    exact (hsame e he hreleased hlabel hgroup).trans hfind
  · intro hfind
    obtain ⟨he, hboth, hlabel⟩ := Table.of_released? hfind
    obtain ⟨hreleased, hgroup⟩ := (hheld.isReleased_group_iff he).mp hboth
    exact ⟨(hsame e he hreleased hlabel hgroup).symm.trans hfind, hgroup⟩

end mounts

/-- A schema that can be read is mounted under a name that a path can hold. -/
theorem Namespace.exists_withMount (n : Namespace) (name : String) {text : String} {schema : Schema}
    (hname : Mounts.isName name = true) (htext : Schema.ofText text = .ok schema) :
    ∃ n', n.withMount name text = .ok n' ∧ n'.browser.mounts = n.browser.mounts.insert name schema := by
  refine ⟨⟨⟨n.browser.mounts.insert name schema, n.browser.strict⟩, n.handles, n.next⟩, ?_, rfl⟩
  simp [withMount, register, Mounts.register, hname, htext, Except.map]

/-- Two mounts are added one after the other. -/
theorem Namespace.foldlM_withMount_pair {n n' n'' : Namespace} (m m' : MountSettings) (h : n.withMount m.name m.schema = .ok n')
    (h' : n'.withMount m'.name m'.schema = .ok n'') :
    [m, m'].foldlM (fun n (m : MountSettings) => Namespace.withMount n m.name m.schema) n = .ok n'' := by
  simp only [List.foldlM_cons, List.foldlM_nil, h, h', bind, Except.bind, pure, Except.pure]

/-- **The default mounts** can be registered, with the levels above. -/
theorem register_initial (database : String) (strict : Bool) :
    ∃ n, (Config.initial database).mounts.foldlM (fun n (m : MountSettings) => Namespace.withMount n m.name m.schema)
        (Namespace.new strict) = .ok n ∧
      n.browser.mounts.get? "by-name" = some ⟨Config.titleSchema, [setsLevel .title, titleFilesLevel]⟩ ∧
      n.browser.mounts.get? "by-group" =
        some ⟨Config.groupSchema, [setsLevel .group, groupTitlesLevel, groupFilesLevel]⟩ := by
  obtain ⟨n, hn, hmounts⟩ := (Namespace.new strict).exists_withMount "by-name" (by decide) ofText_titleSchema
  obtain ⟨n', hn', hmounts'⟩ := n.exists_withMount "by-group" (by decide) ofText_groupSchema
  refine ⟨n', ?_, ?_, ?_⟩
  · exact Namespace.foldlM_withMount_pair ⟨"by-name", _⟩ ⟨"by-group", _⟩ hn hn'
  · rw [hmounts', Dict.get?_insert, if_neg (by decide), hmounts, Dict.get?_insert_self]
  · rw [hmounts', Dict.get?_insert_self]

/-- The releases that the names of scanned files say. -/
def releasesOf (run : List ScanRequest) : Set Release := {r | ∃ q ∈ run, Release.ofFile? q.file = some r}

/-- **The two default mounts agree.** After every run of scans with the release backend, from an empty
store on, the default mounts can be registered. For a title, a group and a label that a path can hold, the
path by group leads to an entry exactly if the path by title leads to a file of that group, and then both
lead to the same entry and it appears as a file; provided that the digests of the titles and groups that
were scanned are different. -/
theorem default_mounts_agree {run : List ScanRequest} (hrelease : ∀ q ∈ run, ∀ b ∈ q.backends, b = Release.backend)
    (hdigest : Set.InjOn Blake3.hashText (Release.setNames (releasesOf run))) {store : Store}
    (hstore : store.table = tableAfter .standard run) (database : String) (strict : Bool) {title group name : String}
    (htitle : isAddressable title = true) (hgroup : isAddressable group = true) (hname : isAddressable name = true) :
    ∃ n, (Config.initial database).mounts.foldlM (fun n (m : MountSettings) => Namespace.withMount n m.name m.schema)
        (Namespace.new strict) = .ok n ∧
      ∀ e kind, n.browser.LeadsTo store ("/by-group/" ++ group ++ "/" ++ title ++ "/" ++ name) e kind ↔
        kind = .file ∧ n.browser.LeadsTo store ("/by-name/" ++ title ++ "/" ++ name) e .file ∧
          e.get? "group_name" = some group := by
  have hseparates : Digests.standard.key.Separates (Release.setNames (releasesOf run)) := Blake3.separates_of_injOn hdigest
  have hheld : store.table.HoldsReleases .standard (releasesOf run) := by
    rw [hstore]
    exact holdsReleases_after_run hseparates hrelease fun q hq r hr => ⟨q, hq, hr⟩
  have hformed : ∀ r ∈ releasesOf run, r.WellFormed := by
    rintro r ⟨q, -, hr⟩
    exact Release.wellFormed_of_ofStem? hr
  obtain ⟨n, hn, htitles, hgroups⟩ := register_initial database strict
  refine ⟨n, hn, ?_⟩
  intro e kind
  constructor
  · intro h
    have hopen := Browser.isOpen_of_leadsTo h
    rw [Browser.leadsTo_group_iff hopen hheld hseparates Blake3.balanced_hashText hgroups hgroup htitle hname,
      ← hheld.released?_group hformed] at h
    obtain ⟨⟨hfind, hfield⟩, hkind⟩ := h
    refine ⟨hkind, ?_, hfield⟩
    rw [Browser.leadsTo_title_iff hopen hheld hseparates Blake3.balanced_hashText htitles htitle hname]
    exact ⟨hfind, rfl⟩
  · rintro ⟨hkind, h, hfield⟩
    have hopen := Browser.isOpen_of_leadsTo h
    rw [Browser.leadsTo_title_iff hopen hheld hseparates Blake3.balanced_hashText htitles htitle hname] at h
    rw [Browser.leadsTo_group_iff hopen hheld hseparates Blake3.balanced_hashText hgroups hgroup htitle hname,
      ← hheld.released?_group hformed]
    exact ⟨⟨h.1, hfield⟩, hkind⟩

/-- A scan of the only file of a tree, which has a release name. -/
def fansRequest : ScanRequest :=
  ⟨.onlyFile (.ofText "[Fans] Pilot - 1.mkv") ⟨1, ⟨#[1]⟩, true, 0⟩, [Release.backend], .readWrite, true, true,
    ⟨.ofText "/[Fans] Pilot - 1.mkv", 1, 0⟩⟩

/-- The release of the file. -/
def fansRelease : Release := ⟨"Fans", "Pilot", "1", none, none, none⟩

/-- The name of the file says of which release it is. -/
theorem ofFile?_fansRequest : Release.ofFile? fansRequest.file = some fansRelease := by
  have hstem : fansRequest.file.stem?.getD "" = String.ofList ('[' :: (['F', 'a', 'n', 's'] ++ ']' :: ' ' ::
      (['P', 'i', 'l', 'o', 't'] ++ ' ' :: '-' :: ' ' :: ['1']))) := by decide +kernel
  unfold Release.ofFile?
  rw [hstem, Release.ofStem?_of_plain (by simp) (by simp) (by simp)]
  · rfl
  · simp [Text.isBlank]
  · simp [Text.isBlank]
  · simp [Release.isDigit_one, Text.isBlank]

/-- After the scan, the file is found under its label. -/
theorem exists_released_fansRequest : ∃ e, (tableAfter .standard [fansRequest]).released?
    [(.group, "Fans"), (.title, "Pilot")] "Pilot - 1 [Fans].mkv" = some e := by
  have hrelease : ∀ b ∈ fansRequest.backends, b = Release.backend := by simp [fansRequest]
  have hcontent := @FileTree.contentId_onlyFile .standard (.ofText "[Fans] Pilot - 1.mkv") fansRequest.file.path
    (by decide +kernel) (by decide +kernel) ⟨1, ⟨#[1]⟩, true, 0⟩ rfl
  have hprocessed := Release.effort?_scan (q := fansRequest) hrelease rfl rfl hcontent .empty
  rw [if_neg (by simp [fansRequest])] at hprocessed
  obtain ⟨hrecorded, hsaid⟩ := Release.recordedIn_scan hrelease (List.cons_ne_nil _ _) ofFile?_fansRequest hprocessed
  have hext := hsaid "ext" "mkv" (by decide) (by decide +kernel)
  have hlabel : (((fansRequest.scan .standard .empty).store.table).entryFor (fansRequest.key .standard)).label
      Release.fileLabel = "Pilot - 1 [Fans].mkv" := by
    rw [← String.toList_inj, Release.toList_fileLabel hrecorded.toDescribedIn, hext]
    decide
  rw [← hlabel]
  exact Table.exists_released hrecorded [.group, .title]

/-- **A file under both mounts.** After the scan, the file is found below its title and below its group. -/
theorem default_mounts_agree_on_fans :
    (∀ q ∈ [fansRequest], ∀ b ∈ q.backends, b = Release.backend) ∧
      Set.InjOn Blake3.hashText (Release.setNames (releasesOf [fansRequest])) ∧
      ∃ n e, (Config.initial "").mounts.foldlM (fun n (m : MountSettings) => Namespace.withMount n m.name m.schema)
          (Namespace.new false) = .ok n ∧
        n.browser.LeadsTo (.ofTable (tableAfter .standard [fansRequest])) "/by-group/Fans/Pilot/Pilot - 1 [Fans].mkv" e
          .file ∧
        n.browser.LeadsTo (.ofTable (tableAfter .standard [fansRequest])) "/by-name/Pilot/Pilot - 1 [Fans].mkv" e .file := by
  have hrelease : ∀ q ∈ [fansRequest], ∀ b ∈ q.backends, b = Release.backend := by simp [fansRequest]
  have hnames : Release.setNames (releasesOf [fansRequest]) ⊆ {name | name ∈ ["Pilot", "Fans"]} := by
    rintro name ⟨r, ⟨q, hq, hr⟩, part, rfl⟩
    obtain rfl := List.mem_singleton.mp hq
    obtain rfl := Option.some.inj (ofFile?_fansRequest.symm.trans hr)
    cases part <;> decide
  have hdigest : Set.InjOn Blake3.hashText (Release.setNames (releasesOf [fansRequest])) := by
    apply Set.InjOn.mono hnames
    apply List.inj_on_of_nodup_map
    simp only [List.map]
    rw [Blake3.hashText_of_block (by decide), Blake3.hashText_of_block (by decide)]
    decide +kernel
  refine ⟨hrelease, hdigest, ?_⟩
  obtain ⟨n, hn, hagree⟩ := @default_mounts_agree [fansRequest] hrelease hdigest (.ofTable _) rfl "" false "Pilot" "Fans"
    "Pilot - 1 [Fans].mkv" (by decide) (by decide) (by decide)
  obtain ⟨n', hn', -, hgroups⟩ := register_initial "" false
  obtain rfl := Except.ok.inj (hn'.symm.trans hn)
  obtain ⟨e, he⟩ := exists_released_fansRequest
  have hseparates : Digests.standard.key.Separates (Release.setNames (releasesOf [fansRequest])) :=
    Blake3.separates_of_injOn hdigest
  have hheld : (tableAfter .standard [fansRequest]).HoldsReleases .standard (releasesOf [fansRequest]) :=
    holdsReleases_after_run hseparates hrelease fun q hq r hr => ⟨q, hq, hr⟩
  have hopen : (Store.ofTable (tableAfter .standard [fansRequest])).isOpen = true := rfl
  have hpath : n'.browser.LeadsTo (.ofTable (tableAfter .standard [fansRequest]))
      ("/by-group/" ++ "Fans" ++ "/" ++ "Pilot" ++ "/" ++ "Pilot - 1 [Fans].mkv") e .file :=
    (Browser.leadsTo_group_iff hopen hheld hseparates Blake3.balanced_hashText hgroups (by decide) (by decide)
      (by decide)).mpr ⟨he, rfl⟩
  exact ⟨n', e, hn, hpath, ((hagree e .file).mp hpath).2.1⟩

end MediaCatalog
