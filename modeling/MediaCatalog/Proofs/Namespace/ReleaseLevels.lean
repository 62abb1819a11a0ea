import MediaCatalog.Config.Basic
import MediaCatalog.Proofs.Namespace.Listing
import MediaCatalog.Proofs.Namespace.Pattern
import MediaCatalog.Proofs.Scan.Releases

/-!
# The levels of the default mounts

By default the catalog is mounted by title, and by group and title. The levels of both mounts list sets by
their names, or look for files by the links that a scan with the release backend leaves in them. This file
says what each level finds in a table in which files and sets fit together.

* `setsLevel`, `titleFilesLevel`, `groupTitlesLevel`, `groupFilesLevel`: the levels that the default schemas
  are read as (`ofText_titleSchema`, `ofText_groupSchema`).
* `setsPattern`, `filesPattern`: what the levels look for, once their references are filled in.
* `Entry.isReleased`: the files in whose release names some parts are as given. They are the files with links
  to the sets of these parts (`Table.HoldsReleases.fits_links`).
* `Table.setNamed?`, `Table.released?`: the first set under a name, and the first of the files under a label;
  a file that is recorded with a release can be found (`Table.exists_released`).
* **Main results** (`next?_setsLevel`, `next?_titleFilesLevel`, `next?_groupTitlesLevel`,
  `next?_groupFilesLevel`): what continues a chain at each level.
-/

namespace MediaCatalog

open Release (Part)

/-! ## Levels -/

/-- How the keys of files begin. -/
def Key.fileStart : String := "file:"

/-- How the keys of the sets begin that a part of release names makes. -/
def Release.Part.start : Part → String
  | .title => "set:release:anime:"
  | .group => "set:release:group:"

/-- The sets that a part of release names makes, by their names. -/
def setsLevel (part : Part) : Level := ⟨⟨"pkey.BeginsWith(" ++ part.start ++ ")"⟩, ⟨"$name"⟩, none, none, none⟩

/-- The files with a release name, by their labels. -/
def filesLevel (source : String) : Level := ⟨⟨source⟩, Release.fileLabel, none, none, none⟩

/-- The files of a title. -/
def titleFilesLevel : Level := filesLevel "pkey.BeginsWith(file:), anime.Equals($prev[1].pkey)"

/-- The titles of which a group has files, each by its first file. -/
def groupTitlesLevel : Level :=
  ⟨⟨"pkey.BeginsWith(file:), group.Equals($prev[1].pkey)"⟩, ⟨"$title"⟩, some "anime", none, none⟩

/-- The files of a group and a title. -/
def groupFilesLevel : Level :=
  filesLevel "pkey.BeginsWith(file:), group.Equals($prev[2].pkey), anime.Equals($prev[1].anime)"

/-- Reading the levels of a text reads the schema. -/
theorem Schema.ofText_of_toList {text : String} {chars : List Char} {levels : List Level} (htext : text.toList = chars)
    (hblank : (Text.trimChars chars).isEmpty = false) (hlevels : (levelsFrom 1 (levelTexts chars)).toOption = some levels) :
    ofText text = .ok ⟨text, levels⟩ := by
  unfold ofText
  rw [htext, hblank, eq_ok_of_toOption hlevels]
  rfl

/-- The schema of titles. -/
theorem ofText_titleSchema :
    Schema.ofText Config.titleSchema = .ok ⟨Config.titleSchema, [setsLevel .title, titleFilesLevel]⟩ := by
  have htext : Config.titleSchema.toList = _ :=
    String.toList_append.trans (congrArg₂ (· ++ ·) String.toList_ofList String.toList_ofList)
  exact Schema.ofText_of_toList htext (by decide) (by decide +kernel)

/-- The schema of groups. -/
theorem ofText_groupSchema :
    Schema.ofText Config.groupSchema =
      .ok ⟨Config.groupSchema, [setsLevel .group, groupTitlesLevel, groupFilesLevel]⟩ := by
  have htext : Config.groupSchema.toList = _ :=
    String.toList_append.trans (congrArg₂ (· ++ ·) (String.toList_append.trans
      (congrArg₂ (· ++ ·) (String.toList_append.trans (congrArg₂ (· ++ ·) String.toList_ofList String.toList_ofList))
        String.toList_ofList)) String.toList_ofList)
  exact Schema.ofText_of_toList htext (by decide) (by decide +kernel)

/-! ## What the levels look for -/

/-- The pattern of the sets that a part of release names makes. -/
def setsPattern (part : Part) : EntryPattern := ⟨part.start, []⟩

/-- The pattern of files with values. -/
def filesPattern (values : List (String × String)) : EntryPattern := ⟨Key.fileStart, values⟩

/-- A reference to a field of an entry, `n` levels above. -/
def Backref.above (n : Char) (field : String) : Backref := ⟨chainName, [n], field.toList⟩

/-- What a reference to a field above refers to. -/
theorem Backref.value?_above {n : Char} {newer : List Entry} (hn : Number.digitsValue? [n] = some (newer.length + 1))
    (older : List Entry) (e : Entry) (field : String) : (above n field).value? (older ++ e :: newer) = e.keyOrField? field := by
  have hindex : (above n field).index = newer.length + 1 := by
    unfold index above
    rw [hn]
    rfl
  rw [value?_append rfl hindex, above, String.ofList_toList]

/-- A pattern of files can be read if the values leave no parenthesis open. -/
theorem readable_filesPattern {values : List (String × String)}
    (hfields : ∀ value ∈ values, ∃ part : Part, value.1 = part.kind)
    (hvalues : ∀ value ∈ values, Query.Balanced value.2.toList) : (filesPattern values).Readable where
  start := (by decide : Query.Balanced Key.fileStart.toList)
  nulFree := (by decide : '\x00' ∉ Key.fileStart.toList)
  fields value hvalue := by
    obtain ⟨part, hpart⟩ := hfields value hvalue
    rw [hpart]
    cases part <;> decide
  values := hvalues

/-- The pattern of sets can be read. -/
theorem readable_setsPattern (part : Part) : (setsPattern part).Readable where
  start := by cases part <;> decide
  nulFree := by cases part <;> decide
  fields := nofun
  values := nofun

/-- The level of sets looks for sets. -/
theorem substitute_setsLevel (part : Part) (chain : List Entry) :
    ((setsLevel part).query.substitute chain).toList = (setsPattern part).text := by
  apply @Level.substitute_of_text (setsLevel part) ⟨part.start, []⟩
  · exact .of_read? (by cases part <;> decide) nofun
  · cases part <;> decide

/-- The files of a title have a link to its set. -/
theorem substitute_titleFilesLevel (x : Entry) :
    (titleFilesLevel.query.substitute [x]).toList = (filesPattern [(Part.title.kind, x.key.text)]).text := by
  have hvalue : (Backref.above '1' "pkey").value? [x] = some x.key.text :=
    Backref.value?_above (by decide) [] x "pkey"
  have hsubstitute := @Level.substitute_of_text titleFilesLevel ⟨Key.fileStart, [(Part.title.kind, .above '1' "pkey")]⟩
    (.of_read? (by decide) (by decide)) (by decide) [x]
  simpa [filesPattern, PatternTemplate.pattern, hvalue] using hsubstitute

/-- The titles of a group are those of the files that have a link to its set. -/
theorem substitute_groupTitlesLevel (x : Entry) :
    (groupTitlesLevel.query.substitute [x]).toList = (filesPattern [(Part.group.kind, x.key.text)]).text := by
  have hvalue : (Backref.above '1' "pkey").value? [x] = some x.key.text :=
    Backref.value?_above (by decide) [] x "pkey"
  have hsubstitute := @Level.substitute_of_text groupTitlesLevel ⟨Key.fileStart, [(Part.group.kind, .above '1' "pkey")]⟩
    (.of_read? (by decide) (by decide)) (by decide) [x]
  simpa [filesPattern, PatternTemplate.pattern, hvalue] using hsubstitute

/-- The files of a group and a title have links to the set of the group, and to that of the title of
another file. -/
theorem substitute_groupFilesLevel {x y : Entry} {link : String} (hlink : y.get? Part.title.kind = some link) :
    (groupFilesLevel.query.substitute [x, y]).toList =
      (filesPattern [(Part.group.kind, x.key.text), (Part.title.kind, link)]).text := by
  have hset : (Backref.above '2' "pkey").value? [x, y] = some x.key.text :=
    @Backref.value?_above '2' [y] rfl [] x "pkey"
  have htitle : (Backref.above '1' "anime").value? [x, y] = some link :=
    (Backref.value?_above (by decide) [x] y "anime").trans hlink
  have hsubstitute := @Level.substitute_of_text groupFilesLevel
    ⟨Key.fileStart, [(Part.group.kind, .above '2' "pkey"), (Part.title.kind, .above '1' "anime")]⟩
    (.of_read? (by decide) (by decide)) (by decide) [x, y]
  simpa [filesPattern, PatternTemplate.pattern, hset, htitle] using hsubstitute

/-! ## Sets and files -/

/-- The key of a set, from its start. -/
theorem Release.Part.text_key (d : Digests) (r : Release) (part : Part) :
    (part.key d r).text = part.start ++ d.key (part.name r) := by
  unfold key start
  rw [Key.set_text]
  cases part <;> rfl

/-- The first part of a key decides whether it is that of a set. -/
theorem Key.isSet_of_start {key : Key} (first : String) (hfirst : ':' ∉ first.toList)
    (h : (first.toList ++ [':']).isPrefixOf key.text.toList = true) : key.isSet = (first == setHead) := by
  obtain ⟨rest, hrest⟩ := List.isPrefixOf_iff_prefix.mp h
  rw [List.append_assoc] at hrest
  unfold isSet
  rw [head_of_text hfirst hrest.symm]

/-- The entry of a file in whose release name some parts are as given. -/
def Entry.isReleased (parts : List (Part × String)) (e : Entry) : Bool :=
  Key.fileStart.toList.isPrefixOf e.key.text.toList &&
    parts.all fun x => (e.get? x.1.kind).isSome && e.get? x.1.field == some x.2

/-- The entry of a file is no set. -/
theorem Entry.isSet_of_isReleased {e : Entry} {parts : List (Part × String)} (h : e.isReleased parts = true) :
    e.isSet = false := by
  have hfile := (Bool.and_eq_true_iff.mp h).1
  exact Key.isSet_of_start Key.fileHead (by decide) hfile

/-- The links to the sets of releases. -/
def Release.links (d : Digests) (parts : List (Part × Release)) : List (String × String) :=
  parts.map fun x => (x.1.kind, (x.1.key d x.2).text)

section entries

variable {d : Digests} {known : Set Release} {t : Table} {e : Entry} (hheld : t.HoldsReleases d known) (he : e ∈ t.entries)
include hheld he

/-- Whatever is stored under the key of a file is linked as files are. -/
theorem Table.HoldsReleases.linksFile (hfile : Key.fileStart.toList.isPrefixOf e.key.text.toList = true) :
    t.LinksFile d known e := by
  obtain ⟨hstored, hblank⟩ := mem_entries_iff.mp he
  have hnoSet : e.key.isSet = false := Key.isSet_of_start Key.fileHead (by decide) hfile
  rw [hstored] at hblank
  rcases hheld.stored e.key hblank with hset | ⟨path, hpath⟩
  · rw [hnoSet] at hset
    cases hset
  · rw [hstored, hpath]
    exact hheld.files path

/-- **Files with a release name** are recorded with a release whose sets are stored. -/
theorem Table.HoldsReleases.isReleased_iff {parts : List (Part × String)} (hne : parts ≠ []) :
    e.isReleased parts = true ↔ Key.fileStart.toList.isPrefixOf e.key.text.toList = true ∧
      ∃ r ∈ known, r.RecordedIn d e ∧ (∀ x ∈ parts, x.1.name r = x.2) ∧
        ∀ part : Part, (t.fieldsOf (part.key d r)).get? nameField = some (part.name r) := by
  unfold Entry.isReleased
  rw [Bool.and_eq_true_iff, List.all_eq_true]
  refine and_congr_right fun hfile => ?_
  constructor
  · intro h
    rcases hheld.linksFile he hfile with hnone | ⟨r, hr, hrecorded, hnames⟩
    · obtain ⟨x, hx⟩ := List.exists_mem_of_ne_nil parts hne
      have hlink := (Bool.and_eq_true_iff.mp (h x hx)).1
      rw [hnone x.1] at hlink
      cases hlink
    · refine ⟨r, hr, hrecorded, ?_, hnames⟩
      intro x hx
      have hname := (Bool.and_eq_true_iff.mp (h x hx)).2
      rwa [hrecorded.toDescribedIn.part x.1, beq_iff_eq, Option.some.injEq] at hname
  · rintro ⟨r, -, hrecorded, hparts, -⟩ x hx
    rw [hrecorded.link x.1, hrecorded.toDescribedIn.part x.1, hparts x hx]
    simp

/-- A file with a title has a group as well. -/
theorem Table.HoldsReleases.isReleased_group_iff {title group : String} :
    e.isReleased [(.group, group), (.title, title)] = true ↔
      e.isReleased [(.title, title)] = true ∧ e.get? Part.group.field = some group := by
  constructor
  · intro h
    obtain ⟨hfile, r, hr, hrecorded, hparts, hnames⟩ := (hheld.isReleased_iff he (by simp)).mp h
    refine ⟨(hheld.isReleased_iff he (by simp)).mpr ⟨hfile, r, hr, hrecorded, ?_, hnames⟩, ?_⟩
    · exact fun x hx => hparts x (List.mem_cons_of_mem _ hx)
    · rw [hrecorded.toDescribedIn.part .group]
      exact congrArg some (hparts (.group, group) (by simp))
  · rintro ⟨h, hgroup⟩
    obtain ⟨hfile, r, hr, hrecorded, hparts, hnames⟩ := (hheld.isReleased_iff he (by simp)).mp h
    refine (hheld.isReleased_iff he (by simp)).mpr ⟨hfile, r, hr, hrecorded, ?_, hnames⟩
    have hsame : Part.group.name r = group :=
      Option.some.inj ((hrecorded.toDescribedIn.part .group).symm.trans hgroup)
    exact List.forall_mem_cons.mpr ⟨hsame, hparts⟩

variable (hdigest : d.key.Separates (Release.setNames known))
include hdigest

/-- **Files with links** to sets are those that have the same parts as the sets. -/
theorem Table.HoldsReleases.fits_links {parts : List (Part × Release)} (hparts : ∀ x ∈ parts, x.2 ∈ known) :
    (filesPattern (Release.links d parts)).fits e = e.isReleased (parts.map fun x => (x.1, x.1.name x.2)) := by
  unfold EntryPattern.fits filesPattern Entry.isReleased Release.links
  rw [List.all_map, List.all_map, Bool.eq_iff_iff, Bool.and_eq_true_iff, Bool.and_eq_true_iff, List.all_eq_true,
    List.all_eq_true]
  refine and_congr_right fun hfile => forall₂_congr fun x hx => ?_
  simp only [Function.comp_apply]
  rcases hheld.linksFile he hfile with hnone | ⟨r, hr, hrecorded, -⟩
  · rw [hnone x.1]
    simp
  · rw [hrecorded.link x.1, hrecorded.toDescribedIn.part x.1]
    simp only [beq_iff_eq, Option.some.injEq, Option.isSome_some, Bool.true_and]
    constructor
    · intro hkey
      exact (Part.eq_of_key_eq hdigest hr (hparts x hx) (Key.eq_of_text hkey)).2
    · intro hname
      rw [Part.key, Part.key, hname]

end entries

/-! ## Sets -/

/-- A label that is one field is the value of the field. -/
theorem Entry.label_of_parts (template : LabelTemplate) {field : String} (h : template.parts = [.field field.toList])
    (e : Entry) : e.label template = (e.get? field).getD "" := by
  unfold label LabelTemplate.render
  rw [h]
  simp [LabelPart.render]

/-- The label of a set is its name. -/
theorem label_setsLevel (part : Part) (e : Entry) : e.label (setsLevel part).label = (e.get? nameField).getD "" :=
  Entry.label_of_parts ⟨"$name"⟩ (by decide +kernel) e

/-- A key that begins like those of the sets of one part is of no other part. -/
theorem Release.Part.eq_of_start {part part' : Part} {rest : List Char} (h : part.start.toList <+: part'.start.toList ++ rest) :
    part = part' := by
  have hlength : part.start.toList.length ≤ part'.start.toList.length := by
    cases part <;> cases part' <;> decide
  have hprefix : part.start.toList <+: part'.start.toList :=
    List.prefix_of_prefix_length_le h (List.prefix_append _ _) hlength
  revert hprefix
  cases part <;> cases part' <;> decide

/-- The first set that a part of release names makes under a name. -/
def Table.setNamed? (t : Table) (part : Part) (name : String) : Option Entry :=
  t.entries.find? fun x => (setsPattern part).fits x && decide (x.label (setsLevel part).label = name)

section sets

variable {d : Digests} {known : Set Release} {t : Table} {part : Part} {name : String} (hheld : t.HoldsReleases d known)
include hheld

/-- **A set under a name** is that of a release with the name. -/
theorem Table.HoldsReleases.of_setNamed? {x : Entry} (h : t.setNamed? part name = some x) :
    ∃ r ∈ known, x.key = part.key d r ∧ part.name r = name := by
  unfold Table.setNamed? at h
  have hset := List.find?_some h
  obtain ⟨hfits, hlabel⟩ := Bool.and_eq_true_iff.mp hset
  obtain ⟨hstored, hblank⟩ := mem_entries_iff.mp (List.mem_of_find?_eq_some h)
  have hstart : part.start.toList <+: x.key.text.toList :=
    List.isPrefixOf_iff_prefix.mp (Bool.and_eq_true_iff.mp hfits).1
  have hset : x.key.isSet = true := by
    have hhead : Key.setHead.toList ++ [':'] <+: part.start.toList := by cases part <;> decide
    rw [Key.isSet_of_start Key.setHead (by decide) (List.isPrefixOf_iff_prefix.mpr (hhead.trans hstart))]
    exact beq_self_eq_true _
  rw [hstored] at hblank
  obtain ⟨stored, hname, r, hr, part', hkey, hpart⟩ := hheld.sets x.key hset hblank
  rw [hkey, Part.text_key, String.toList_append] at hstart
  obtain rfl := Part.eq_of_start hstart
  refine ⟨r, hr, hkey, ?_⟩
  rw [decide_eq_true_eq, label_setsLevel, hstored] at hlabel
  rw [← hlabel, ← hpart]
  exact (congrArg (Option.getD · "") hname).symm

/-- **The set of a file** with a release name is found under its name. -/
theorem Table.HoldsReleases.exists_setNamed {e : Entry} (he : e ∈ t.entries) {parts : List (Part × String)}
    (h : e.isReleased parts = true) (hpart : (part, name) ∈ parts) : ∃ x, t.setNamed? part name = some x := by
  obtain ⟨-, r, -, -, hparts, hnames⟩ := (hheld.isReleased_iff he (List.ne_nil_of_mem hpart)).mp h
  obtain rfl : part.name r = name := hparts _ hpart
  have hname := hnames part
  apply Option.isSome_iff_exists.mp
  apply List.find?_isSome.mpr
  refine ⟨t.entryFor (part.key d r), ?_, ?_⟩
  · exact mem_entries_iff.mpr ⟨rfl, fieldsOf_isEmpty_eq_false.mpr ⟨_, get?_fieldsOf.mp hname, rfl⟩⟩
  · apply Bool.and_eq_true_iff.mpr
    constructor
    · apply Bool.and_eq_true_iff.mpr
      refine ⟨?_, rfl⟩
      apply List.isPrefixOf_iff_prefix.mpr
      have htext : (t.entryFor (part.key d r)).key.text = part.start ++ d.key (part.name r) := Part.text_key d r part
      rw [htext, String.toList_append]
      exact List.prefix_append _ _
    · rw [decide_eq_true_eq, label_setsLevel]
      exact congrArg (Option.getD · "") hname

end sets

/-! ## What the levels find -/

/-- The label of a group's title is the title. -/
theorem label_groupTitlesLevel (e : Entry) : e.label groupTitlesLevel.label = (e.get? Part.title.field).getD "" :=
  Entry.label_of_parts _ (by decide +kernel) e

/-- The key of a set leaves no parenthesis open if digests do not. -/
theorem Release.Part.balanced_key {d : Digests} (hbalanced : ∀ text, Query.Balanced (d.key text).toList) (r : Release)
    (part : Part) : Query.Balanced (part.key d r).text.toList := by
  have hstart : Query.balance 0 part.start.toList = some 0 := by cases part <;> decide
  rw [text_key, String.toList_append]
  exact (Query.balance_append hstart _).trans (hbalanced _)

/-- Digests that are used by programs leave no parenthesis open. -/
theorem Blake3.balanced_hashText (text : String) : Query.Balanced (hashText text).toList := by
  apply Query.balance_of_forall
  intro c hc
  obtain ⟨n, hn, rfl⟩ := Text.exists_of_mem_hexOfBytes hc
  exact (Text.hexDigit_ne hn).2

/-- The first file in whose release name some parts are as given, among those with a label. -/
def Table.released? (t : Table) (parts : List (Part × String)) (label : String) : Option Entry :=
  t.entries.find? fun e => e.isReleased parts && decide (e.label Release.fileLabel = label)

/-- The file that is found is one of those that are looked for. -/
theorem Table.of_released? {t : Table} {parts : List (Part × String)} {label : String} {e : Entry}
    (h : t.released? parts label = some e) :
    e ∈ t.entries ∧ e.isReleased parts = true ∧ e.label Release.fileLabel = label := by
  unfold released? at h
  have hfound := List.find?_some h
  obtain ⟨hreleased, hlabel⟩ := Bool.and_eq_true_iff.mp hfound
  exact ⟨List.mem_of_find?_eq_some h, hreleased, of_decide_eq_true hlabel⟩

/-- **A file that is recorded with a release** can be found by parts of it under its label, unless another one
is found before. -/
theorem Table.exists_released {d : Digests} {t : Table} {path : String} {r : Release}
    (h : r.RecordedIn d (t.entryFor (Key.file d.key path))) (parts : List Part) :
    ∃ e, t.released? (parts.map fun part => (part, part.name r))
      ((t.entryFor (Key.file d.key path)).label Release.fileLabel) = some e := by
  apply Option.isSome_iff_exists.mp
  apply List.find?_isSome.mpr
  refine ⟨t.entryFor (Key.file d.key path), ?_, ?_⟩
  · exact mem_entries_iff.mpr ⟨rfl, fieldsOf_isEmpty_eq_false.mpr ⟨_, get?_fieldsOf.mp h.title, rfl⟩⟩
  · have hfile : Key.fileStart.toList.isPrefixOf (t.entryFor (Key.file d.key path)).key.text.toList = true := by
      have htext : (t.entryFor (Key.file d.key path)).key.text = Key.fileStart ++ d.key path := Key.file_text d.key path
      rw [htext, String.toList_append, List.isPrefixOf_iff_prefix]
      exact List.prefix_append _ _
    have hparts : (t.entryFor (Key.file d.key path)).isReleased (parts.map fun part => (part, part.name r)) = true := by
      unfold Entry.isReleased
      rw [hfile, Bool.true_and, List.all_map, List.all_eq_true]
      intro part _
      rw [Function.comp_apply, h.link part, h.toDescribedIn.part part]
      simp
    rw [hparts, decide_eq_true rfl, Bool.true_and]

section levels

variable {d : Digests} {known : Set Release} {store : Store} {strict : Bool} {x y : Entry} {r r' : Release}

/-- At a level of sets, the first one under the name continues the chain. -/
theorem next?_setsLevel (hopen : store.isOpen = true) (part : Part) (name : String) :
    (setsLevel part).next? store strict [] name = .ok (store.table.setNamed? part name) :=
  Level.next?_of_pattern hopen (readable_setsPattern part) (substitute_setsLevel part []) rfl rfl rfl name

/-- A pattern of links can be read. -/
theorem readable_links (hbalanced : ∀ text, Query.Balanced (d.key text).toList) (parts : List (Part × Release)) :
    (filesPattern (Release.links d parts)).Readable := by
  apply readable_filesPattern
  · intro value hvalue
    obtain ⟨x, -, rfl⟩ := List.mem_map.mp hvalue
    exact ⟨x.1, rfl⟩
  · intro value hvalue
    obtain ⟨x, -, rfl⟩ := List.mem_map.mp hvalue
    exact x.1.balanced_key hbalanced x.2

variable (hopen : store.isOpen = true) (hheld : store.table.HoldsReleases d known)
  (hdigest : d.key.Separates (Release.setNames known)) (hbalanced : ∀ text, Query.Balanced (d.key text).toList)
include hopen hheld hdigest hbalanced

/-- **At a level of files** that looks for links, the first file with the same parts and the label continues
the chain. -/
theorem Level.next?_of_links {level : Level} {chain : List Entry} {parts : List (Part × Release)}
    (htext : (level.query.substitute chain).toList = (filesPattern (Release.links d parts)).text)
    (hparts : ∀ x ∈ parts, x.2 ∈ known) (hgroup : level.group = none) (horder : level.order = none)
    (hpage : level.page = none) (segment : String) :
    level.next? store strict chain segment = .ok (store.table.entries.find? fun e =>
      e.isReleased (parts.map fun x => (x.1, x.1.name x.2)) && decide (e.label level.label = segment)) := by
  rw [next?_of_pattern hopen (readable_links hbalanced parts) htext horder hpage hgroup]
  congr 1
  apply List.find?_congr
  intro e he
  rw [hheld.fits_links he hdigest hparts]

variable (hr : r ∈ known)
include hr

/-- Below a title, the first of its files with the label continues the chain. -/
theorem next?_titleFilesLevel (hx : x.key = Part.title.key d r) (segment : String) :
    titleFilesLevel.next? store strict [x] segment = .ok (store.table.released? [(.title, r.title)] segment) := by
  have htext : (titleFilesLevel.query.substitute [x]).toList = (filesPattern (Release.links d [(.title, r)])).text := by
    rw [substitute_titleFilesLevel, hx]
    rfl
  exact Level.next?_of_links hopen hheld hdigest hbalanced htext (by simpa using hr) rfl rfl rfl segment

/-- Below a group, the first of its files with the title continues the chain. -/
theorem next?_groupTitlesLevel (hx : x.key = Part.group.key d r) (segment : String) :
    groupTitlesLevel.next? store strict [x] segment =
      .ok (store.table.entries.find? (Entry.isReleased [(.group, r.group), (.title, segment)])) := by
  have hparts : ∀ x ∈ [(Part.group, r)], x.2 ∈ known := by simpa using hr
  have htext : (groupTitlesLevel.query.substitute [x]).toList = (filesPattern (Release.links d [(.group, r)])).text := by
    rw [substitute_groupTitlesLevel, hx]
    rfl
  have hlabel : ∀ e ∈ store.table.entries, (filesPattern (Release.links d [(.group, r)])).fits e = true →
      ∃ r' ∈ known, r'.RecordedIn d e ∧ e.label groupTitlesLevel.label = r'.title := by
    intro e he hfits
    rw [hheld.fits_links he hdigest hparts] at hfits
    obtain ⟨-, r', hr', hrecorded, -⟩ := (hheld.isReleased_iff he (by simp)).mp hfits
    refine ⟨r', hr', hrecorded, ?_⟩
    rw [label_groupTitlesLevel, hrecorded.toDescribedIn.part .title]
    rfl
  rw [Level.next?_of_grouped hopen (readable_links hbalanced _) htext rfl rfl rfl (by decide)]
  · congr 1
    apply List.find?_congr
    intro e he
    have hlinks : (filesPattern (Release.links d [(.group, r)])).fits e = e.isReleased [(.group, r.group)] :=
      hheld.fits_links he hdigest hparts
    have hboth : e.isReleased [(.group, r.group), (.title, segment)] = (e.isReleased [(.group, r.group)] &&
        ((e.get? Part.title.kind).isSome && e.get? Part.title.field == some segment)) := by
      simp [Entry.isReleased, Bool.and_assoc]
    rw [hboth, hlinks]
    cases hreleased : e.isReleased [(.group, r.group)] with
    | false => rfl
    | true =>
      obtain ⟨r', -, hrecorded, hlabel⟩ := hlabel e he (hlinks.trans hreleased)
      have htitle : e.get? Part.title.field = some r'.title := hrecorded.toDescribedIn.part .title
      rw [hlabel, htitle]
      rfl
  · -- files with a link to one set of a title have one title
    intro a ha b hb hfa hfb link hla hlb
    obtain ⟨ra, hra, hreca, hlabela⟩ := hlabel a ha hfa
    obtain ⟨rb, hrb, hrecb, hlabelb⟩ := hlabel b hb hfb
    have hkeys : (Part.title.key d ra).text = (Part.title.key d rb).text := by
      have hlinka := (hreca.link .title).symm.trans hla
      have hlinkb := (hrecb.link .title).symm.trans hlb
      exact Option.some.inj (hlinka.trans hlinkb.symm)
    rw [hlabela, hlabelb]
    exact (Part.eq_of_key_eq hdigest hra hrb (Key.eq_of_text hkeys)).2

/-- Below a group and a title, the first of their files with the label continues the chain. -/
theorem next?_groupFilesLevel (hx : x.key = Part.group.key d r) (hr' : r' ∈ known)
    (hy : y.get? Part.title.kind = some (Part.title.key d r').text) (segment : String) :
    groupFilesLevel.next? store strict [x, y] segment =
      .ok (store.table.released? [(.group, r.group), (.title, r'.title)] segment) := by
  have htext : (groupFilesLevel.query.substitute [x, y]).toList =
      (filesPattern (Release.links d [(.group, r), (.title, r')])).text := by
    rw [substitute_groupFilesLevel hy, hx]
    rfl
  exact Level.next?_of_links hopen hheld hdigest hbalanced htext (by simp [hr, hr']) rfl rfl rfl segment

end levels

end MediaCatalog
