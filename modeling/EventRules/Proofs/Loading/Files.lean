/-
# EventRules.Proofs.Loading.Files -- the files of a tree, in the order of their paths

A file that loading reports stands in the folder it begins with or below it, and no folder on the
way is hidden (`FileTree.Shows`).  What becomes of it depends on its name and on its text alone: a
file to be read (`PlacedFile.ToRead`) is loaded if its text can be had and reads as a document, and
fails otherwise (`PlacedFile.outcome`).

Where loading meets no closed folder (`FileTree.Blocked`) each entry of a folder is reported on
(`FileTree.WellNamed.reports`), and the reports of its entries follow one another by name
(`FileTree.gathered_reports`).  A path is compared name by name, so everything below one entry
comes before everything below a later one; the induction on the tree has to keep no more than
that.  So loading a tree without closed folders reports the files that it shows, each once, in
the order of their paths, and gives the documents of the loaded ones in this order
(`FileTree.load_lists`).
-/
import EventRules.Loading.Loader
import EventRules.Proofs.Keyed
namespace EventRules

set_option autoImplicit false

/-- A file at its place in a tree: the folders on the way to it, its name, and its text if it can
be read. -/
structure PlacedFile where
  folders : List String
  name : String
  text : Option String

namespace PlacedFile

/-- The names on the way to the file, and its own. -/
def path (f : PlacedFile) : List String := f.folders ++ [f.name]

/-- A file to be read: it is no dotfile, and its extension is that of a YAML file. -/
def ToRead (f : PlacedFile) : Prop :=
  f.name.startsWith "." = false ∧
    (".yml".toList <:+ f.name.toList ∨ ".yaml".toList <:+ f.name.toList)

instance (f : PlacedFile) : Decidable f.ToRead := inferInstanceAs (Decidable (_ ∧ (_ ∨ _)))

/-- What becomes of a file. -/
def outcome (f : PlacedFile) : FileOutcome :=
  if f.ToRead then
    match f.text with
    | none => .failed .unreadable
    | some text =>
        match Document.read text with
        | .ok doc => .loaded doc.id
        | .error e => .failed (.document e)
  else if f.name.startsWith "." then .skipped .hidden
  else .skipped .notYaml

/-- The document that a file gives. -/
def document? (f : PlacedFile) : Option Document :=
  if f.ToRead then f.text.bind fun text => (Document.read text).toOption else none

/-- The file as it stands in a folder around its tree. -/
def inside (folder : String) (f : PlacedFile) : PlacedFile :=
  { f with folders := folder :: f.folders }

theorem path_inside (folder : String) (f : PlacedFile) :
    (f.inside folder).path = folder :: f.path := rfl

/-- These are the files that loading does not skip by name. -/
theorem toRead_iff {f : PlacedFile} :
    f.ToRead ↔ FileTree.isHidden f.name = false ∧ FileTree.isYaml f.name = true := by
  simp only [ToRead, FileTree.isHidden, FileTree.isYaml, Bool.or_eq_true,
    List.isSuffixOf_iff_suffix]

/-- How a file fares: its name passes it over, there is no text to be had, the text reads as no
document, or it reads as one. -/
inductive Fares (f : PlacedFile) : Prop
  | passed (reason : FileSkip) (named : ¬ f.ToRead) (became : f.outcome = .skipped reason)
      (given : f.document? = none)
  | lost (named : f.ToRead) (text : f.text = none) (became : f.outcome = .failed .unreadable)
      (given : f.document? = none)
  | broken (text : String) (wrong : DocumentError) (named : f.ToRead) (has : f.text = some text)
      (read : Document.read text = .error wrong) (became : f.outcome = .failed (.document wrong))
      (given : f.document? = none)
  | parsed (text : String) (doc : Document) (named : f.ToRead) (has : f.text = some text)
      (read : Document.read text = .ok doc) (became : f.outcome = .loaded doc.id)
      (given : f.document? = some doc)

theorem fares (f : PlacedFile) : f.Fares := by
  by_cases named : f.ToRead
  · cases has : f.text with
    | none => exact .lost named has (by simp [outcome, named, has]) (by simp [document?, has])
    | some text =>
        cases read : Document.read text with
        | error wrong =>
            exact .broken text wrong named has read (by simp [outcome, named, has, read])
              (by simp [document?, has, read, Except.toOption])
        | ok doc =>
            exact .parsed text doc named has read (by simp [outcome, named, has, read])
              (by simp [document?, named, has, read, Except.toOption])
  · have given : f.document? = none := if_neg named
    by_cases hidden : f.name.startsWith "." = true
    · exact .passed .hidden named (by simp [outcome, named, hidden]) given
    · exact .passed .notYaml named (by simp [outcome, named, hidden]) given

/-- A file is skipped if it is a dotfile or has another extension. -/
theorem outcome_eq_skipped_iff {f : PlacedFile} :
    (∃ reason, f.outcome = .skipped reason) ↔ ¬ f.ToRead := by
  cases f.fares with
  | passed _ named became => simp [named, became]
  | lost named _ became => simp [named, became]
  | broken _ _ named _ _ became => simp [named, became]
  | parsed _ _ named _ _ became => simp [named, became]

/-- A file is loaded if its text reads as a document, and the id is that of the document. -/
theorem outcome_eq_loaded_iff {f : PlacedFile} {id : String} :
    f.outcome = .loaded id ↔
      f.ToRead ∧ ∃ text doc, f.text = some text ∧ Document.read text = .ok doc ∧ doc.id = id := by
  cases f.fares with
  | passed _ named became => simp [named, became]
  | lost _ text became => simp [text, became]
  | broken _ _ _ has read became => simp [has, read, became]
  | parsed _ _ named has read became => simp [named, has, read, became]

/-- A file fails if there is no text to be had, or if the text reads as no document. -/
theorem outcome_eq_failed_iff {f : PlacedFile} {e : FileError} :
    f.outcome = .failed e ↔
      f.ToRead ∧ (f.text = none ∧ e = .unreadable ∨
        ∃ text wrong, f.text = some text ∧ Document.read text = .error wrong ∧
          e = .document wrong) := by
  cases f.fares with
  | passed _ named became => simp [named, became]
  | lost named text became => simp [named, text, became, eq_comm]
  | broken _ _ named has read became => simp [named, has, read, became, eq_comm]
  | parsed _ _ _ has read became => simp [has, read, became]

/-- A file gives the document that its text reads as. -/
theorem document?_eq_some_iff {f : PlacedFile} {doc : Document} :
    f.document? = some doc ↔
      f.ToRead ∧ ∃ text, f.text = some text ∧ Document.read text = .ok doc := by
  cases f.fares with
  | passed _ named _ given => simp [named, given]
  | lost _ text _ given => simp [text, given]
  | broken _ _ _ has read _ given => simp [has, read, given]
  | parsed _ _ named has read _ given => simp [named, has, read, given]

end PlacedFile

/-- The id of a loaded file. -/
def FileOutcome.loadedId? : FileOutcome → Option String
  | .loaded id => some id
  | _ => none

theorem PlacedFile.loadedId?_outcome (f : PlacedFile) :
    f.outcome.loadedId? = f.document?.map Document.id := by
  cases f.fares with
  | passed _ _ became given => rw [became, given]; rfl
  | lost _ _ became given => rw [became, given]; rfl
  | broken _ _ _ _ _ became given => rw [became, given]; rfl
  | parsed _ _ _ _ _ became given => rw [became, given]; rfl

namespace FileTree

/-! ## The files of a tree -/

/-- A tree shows a file: it stands in the folder or, where a folder in it is not hidden, in what
that folder shows. -/
inductive Shows : FileTree → PlacedFile → Prop where
  | here {entries : List (String × FileTree)} {name : String} {text : Option String}
      (member : (name, file text) ∈ entries) : Shows (folder entries) ⟨[], name, text⟩
  | deeper {entries deep : List (String × FileTree)} {name : String} {f : PlacedFile}
      (member : (name, folder deep) ∈ entries) (visible : isHidden name = false)
      (shown : Shows (folder deep) f) : Shows (folder entries) (f.inside name)

/-- A tree as a disk can hold it: no two entries of a directory have one name. -/
inductive WellNamed : FileTree → Prop where
  | file (text : Option String) : WellNamed (file text)
  | closedFolder : WellNamed closedFolder
  | folder {entries : List (String × FileTree)} (distinct : (Keyed.keys entries).Nodup)
      (each : ∀ entry ∈ entries, WellNamed entry.2) : WellNamed (folder entries)

/-- A directory that cannot be listed stands where loading looks: neither it nor a folder on the
way to it is hidden. -/
inductive Blocked : List (String × FileTree) → Prop where
  | here {entries : List (String × FileTree)} {name : String}
      (member : (name, closedFolder) ∈ entries) (visible : isHidden name = false) :
      Blocked entries
  | deeper {entries deep : List (String × FileTree)} {name : String}
      (member : (name, folder deep) ∈ entries) (visible : isHidden name = false)
      (blocked : Blocked deep) : Blocked entries

/-- A tree as a disk can hold it, all of whose directories can be listed. -/
inductive Listable : FileTree → Prop where
  | file (text : Option String) : Listable (file text)
  | folder {entries : List (String × FileTree)} (distinct : (Keyed.keys entries).Nodup)
      (each : ∀ entry ∈ entries, Listable entry.2) : Listable (folder entries)

/-- The files are those that the tree shows, in the order of their paths, each once. -/
structure Lists (tree : FileTree) (files : List PlacedFile) : Prop where
  ordered : (files.map PlacedFile.path).Pairwise (· < ·)
  exact : ∀ f, f ∈ files ↔ tree.Shows f

section Entries

variable {entries rest : List (String × FileTree)} {entry : String × FileTree} {f : PlacedFile}

theorem Shows.mono (shown : (folder entries).Shows f) (within : ∀ e ∈ entries, e ∈ rest) :
    (folder rest).Shows f := by
  cases shown with
  | here member => exact .here (within _ member)
  | deeper member visible shown => exact .deeper (within _ member) visible shown

theorem Blocked.mono (blocked : Blocked entries) (within : ∀ e ∈ entries, e ∈ rest) :
    Blocked rest := by
  cases blocked with
  | here member visible => exact .here (within _ member) visible
  | deeper member visible blocked => exact .deeper (within _ member) visible blocked

/-- One entry is enough to block a folder. -/
theorem Blocked.exists_entry (blocked : Blocked entries) : ∃ entry ∈ entries, Blocked [entry] := by
  cases blocked with
  | here member visible => exact ⟨_, member, .here List.mem_cons_self visible⟩
  | deeper member visible blocked => exact ⟨_, member, .deeper List.mem_cons_self visible blocked⟩

theorem shows_cons :
    (folder (entry :: rest)).Shows f ↔ (folder [entry]).Shows f ∨ (folder rest).Shows f := by
  constructor
  · intro shown
    cases shown with
    | here member =>
        rcases List.mem_cons.1 member with rfl | member
        · exact .inl (.here List.mem_cons_self)
        · exact .inr (.here member)
    | deeper member visible shown =>
        rcases List.mem_cons.1 member with rfl | member
        · exact .inl (.deeper List.mem_cons_self visible shown)
        · exact .inr (.deeper member visible shown)
  · rintro (shown | shown)
    · exact shown.mono (by simp)
    · exact shown.mono fun _ => List.mem_cons_of_mem _

/-- The path of a file begins with the name of an entry. -/
theorem Shows.path_eq_cons (shown : (folder entries).Shows f) :
    ∃ name ∈ Keyed.keys entries, ∃ tail, f.path = name :: tail := by
  cases shown with
  | here member => exact ⟨_, List.mem_map_of_mem member, _, rfl⟩
  | deeper member visible shown => exact ⟨_, List.mem_map_of_mem member, _, rfl⟩

theorem lists_nil : (folder []).Lists [] where
  ordered := List.Pairwise.nil
  exact := by
    intro f
    constructor
    · intro member
      cases member
    · intro shown
      cases shown <;> contradiction

/-- The files below an entry come before those below entries with later names. -/
theorem Lists.cons {files more : List PlacedFile} (order : Keyed.Ascending (entry :: rest))
    (first : (folder [entry]).Lists files) (others : (folder rest).Lists more) :
    (folder (entry :: rest)).Lists (files ++ more) where
  ordered := by
    rw [List.map_append, List.pairwise_append]
    refine ⟨first.ordered, others.ordered, ?_⟩
    intro p memberP q memberQ
    obtain ⟨f, memberF, rfl⟩ := List.mem_map.1 memberP
    obtain ⟨g, memberG, rfl⟩ := List.mem_map.1 memberQ
    obtain ⟨name, here, tail, pathF⟩ := ((first.exact f).1 memberF).path_eq_cons
    obtain ⟨name', later, tail', pathG⟩ := ((others.exact g).1 memberG).path_eq_cons
    obtain rfl : name = entry.1 := List.mem_singleton.1 here
    have below : entry.1 < name' := (List.pairwise_cons.1 order).1 name' later
    rw [pathF, pathG]
    exact List.cons_lt_cons_iff.2 (.inl below)
  exact := by
    intro f
    rw [List.mem_append, first.exact, others.exact]
    exact shows_cons.symm

/-- The order in which entries are given does not matter. -/
theorem Lists.of_perm {files : List PlacedFile} (lists : (folder entries).Lists files)
    (same : entries.Perm rest) : (folder rest).Lists files where
  ordered := lists.ordered
  exact := by
    intro f
    rw [lists.exact]
    constructor
    · exact fun shown => shown.mono fun _ member => same.subset member
    · exact fun shown => shown.mono fun _ member => same.symm.subset member

theorem lists_file (name : String) (text : Option String) :
    (folder [(name, file text)]).Lists [⟨[], name, text⟩] where
  ordered := List.pairwise_singleton _ _
  exact := by
    intro f
    rw [List.mem_singleton]
    constructor
    · rintro rfl
      exact .here List.mem_cons_self
    · intro shown
      cases shown with
      | here member =>
          cases List.mem_singleton.1 member
          rfl
      | deeper member => cases List.mem_singleton.1 member

theorem lists_hidden {name : String} {tree : FileTree} (hidden : isHidden name = true)
    (directory : tree.isFolder = true) : (folder [(name, tree)]).Lists [] where
  ordered := List.Pairwise.nil
  exact := by
    intro f
    constructor
    · intro member
      cases member
    · intro shown
      cases shown with
      | here member =>
          cases List.mem_singleton.1 member
          cases directory
      | deeper member visible =>
          cases List.mem_singleton.1 member
          rw [hidden] at visible
          cases visible

/-- A folder shows what its tree shows, with its name before each path. -/
theorem Lists.inside {files : List PlacedFile} {name : String} (visible : isHidden name = false)
    (lists : (folder entries).Lists files) :
    (folder [(name, folder entries)]).Lists (files.map (PlacedFile.inside name)) where
  ordered := by
    rw [List.map_map, List.pairwise_map]
    refine (List.pairwise_map.1 lists.ordered).imp ?_
    intro f g before
    exact List.cons_lt_cons_iff.2 (.inr ⟨rfl, before⟩)
  exact := by
    intro f
    constructor
    · intro member
      obtain ⟨g, memberG, rfl⟩ := List.mem_map.1 member
      exact .deeper List.mem_cons_self visible ((lists.exact g).1 memberG)
    · intro shown
      cases shown with
      | here member => cases List.mem_singleton.1 member
      | deeper member visible shown =>
          cases List.mem_singleton.1 member
          exact List.mem_map_of_mem ((lists.exact _).2 shown)

end Entries

/-! ## What is reported -/

/-- The report on some files of a tree that stands at a place. -/
def reportOn (above : List String) (files : List PlacedFile) : LoadReport :=
  ⟨files.map fun f => ⟨above ++ f.path, f.outcome⟩, files.filterMap PlacedFile.document?⟩

theorem reportOn_append (above : List String) (files more : List PlacedFile) :
    reportOn above (files ++ more) = (reportOn above files).append (reportOn above more) := by
  simp [reportOn, LoadReport.append]

/-- What is reported of a folder's tree at its place is what is reported of the folder. -/
theorem reportOn_inside (above : List String) (name : String) (files : List PlacedFile) :
    reportOn above (files.map (PlacedFile.inside name)) = reportOn (above ++ [name]) files := by
  have path : ∀ f : PlacedFile, above ++ (f.inside name).path = above ++ [name] ++ f.path := by
    intro f
    rw [f.path_inside, List.append_assoc, List.singleton_append]
  have outcome : ∀ f : PlacedFile, (f.inside name).outcome = f.outcome := fun _ => rfl
  have given : ∀ f : PlacedFile, (f.inside name).document? = f.document? := fun _ => rfl
  simp only [reportOn, List.map_map, Function.comp_def, path, outcome, List.filterMap_map, given]

theorem reportOn_singleton (above : List String) (f : PlacedFile) :
    reportOn above [f] = ⟨[⟨above ++ f.path, f.outcome⟩], f.document?.toList⟩ := by
  cases given : f.document? <;> simp [reportOn, given]

/-- A file is reported on alone. -/
theorem reportEntry_file (above : List String) (name : String) (text : Option String) :
    reportEntry above name (file text) = .ok (reportOn above [⟨[], name, text⟩]) := by
  rw [reportEntry, reportOn_singleton, PlacedFile.outcome, PlacedFile.document?, reportFile]
  simp only [PlacedFile.toRead_iff]
  by_cases hidden : isHidden name = true
  · have dot : name.startsWith "." = true := hidden
    simp only [hidden, dot, if_true]
    rfl
  · have noDot : ¬ name.startsWith "." = true := hidden
    by_cases yaml : isYaml name = true
    · simp only [hidden, yaml, if_true]
      cases text with
      | none => rfl
      | some text =>
          cases read : Document.read text <;>
            simp [read, document, PlacedFile.path, Except.toOption]
    · simp only [hidden, noDot, yaml]
      rfl

theorem reportEntries_eq_map (above : List String) (entries : List (String × FileTree)) :
    reportEntries above entries =
      entries.map fun entry => (entry.1, reportEntry above entry.1 entry.2) := by
  induction entries with
  | nil => rfl
  | cons entry rest ih =>
      obtain ⟨name, tree⟩ := entry
      rw [reportEntries, ih, List.map_cons]

/-- Loading an entry, or a whole tree, reports on the files that it shows. -/
def Reports (above : List String) (tree : FileTree) (result : Except DirectoryError LoadReport) :
    Prop :=
  ∃ files, tree.Lists files ∧ result = .ok (reportOn above files)

section Runs

variable {above : List String} {entries : List (String × FileTree)}

/-- The reports on entries in the order of their names make the report on the folder. -/
theorem gathered_ascending (order : Keyed.Ascending entries)
    (each : ∀ entry ∈ entries,
      Reports above (folder [entry]) (reportEntry above entry.1 entry.2)) :
    Reports above (folder entries) (gathered (reportEntries above entries)) := by
  induction entries with
  | nil => exact ⟨[], lists_nil, rfl⟩
  | cons entry rest ih =>
      obtain ⟨name, tree⟩ := entry
      obtain ⟨first, others⟩ := List.forall_mem_cons.1 each
      obtain ⟨files, listed, reported⟩ := first
      obtain ⟨more, listed', reported'⟩ := ih (List.pairwise_cons.1 order).2 others
      refine ⟨files ++ more, listed.cons order listed', ?_⟩
      rw [reportEntries, reported, gathered, reported', reportOn_append]
      rfl

/-- A folder is reported on by its entries, sorted by name. -/
theorem gathered_reports (distinct : (Keyed.keys entries).Nodup)
    (each : ∀ entry ∈ entries,
      Reports above (folder [entry]) (reportEntry above entry.1 entry.2)) :
    Reports above (folder entries) (gathered (Keyed.ofList (reportEntries above entries))) := by
  have perm := Keyed.ofList_perm distinct
  obtain ⟨files, listed, reported⟩ := gathered_ascending (Keyed.ascending_ofList entries)
    fun entry member => each entry (perm.subset member)
  refine ⟨files, listed.of_perm perm, ?_⟩
  rw [reportEntries_eq_map, Keyed.ofList_map, ← reportEntries_eq_map, reported]

/-- Every entry that loading finds nothing closed in is reported on, wherever it stands. -/
theorem WellNamed.reports {tree : FileTree} (named : tree.WellNamed) (above : List String)
    (name : String) (free : ¬ Blocked [(name, tree)]) :
    Reports above (FileTree.folder [(name, tree)]) (reportEntry above name tree) := by
  -- the entries of a folder stand one name further down
  induction named generalizing above name with
  | file text => exact ⟨_, lists_file name text, reportEntry_file above name text⟩
  | closedFolder =>
      by_cases hidden : isHidden name = true
      · exact ⟨[], lists_hidden hidden rfl, by rw [reportEntry, if_pos hidden]; rfl⟩
      · exact absurd (.here List.mem_cons_self (by simpa using hidden)) free
  | folder distinct each ih =>
      rw [reportEntry]
      by_cases hidden : isHidden name = true
      · rw [if_pos hidden]
        exact ⟨[], lists_hidden hidden rfl, rfl⟩
      · have visible : isHidden name = false := by simpa using hidden
        rw [if_neg hidden]
        obtain ⟨files, listed, reported⟩ := gathered_reports distinct fun entry member =>
          ih entry member (above ++ [name]) entry.1 fun blocked =>
            free (.deeper List.mem_cons_self visible (blocked.mono (by simpa using member)))
        refine ⟨files.map (PlacedFile.inside name), listed.inside visible, ?_⟩
        rw [reported, reportOn_inside]

theorem Listable.wellNamed {tree : FileTree} (listable : tree.Listable) : tree.WellNamed := by
  induction listable with
  | file text => exact .file text
  | folder distinct _ ih => exact .folder distinct ih

/-- A tree all of whose directories can be listed blocks nothing. -/
theorem Listable.free {tree : FileTree} (listable : tree.Listable) (name : String) :
    ¬ Blocked [(name, tree)] := by
  induction listable generalizing name with
  | file text =>
      intro blocked
      cases blocked with
      | here member => cases List.mem_singleton.1 member
      | deeper member => cases List.mem_singleton.1 member
  | folder _ _ ih =>
      intro blocked
      cases blocked with
      | here member => cases List.mem_singleton.1 member
      | deeper member visible blocked =>
          cases List.mem_singleton.1 member
          obtain ⟨entry, member, blocked⟩ := blocked.exists_entry
          exact ih entry member entry.1 blocked

/-- Every entry of a listable tree is reported on, wherever it stands. -/
theorem Listable.reports {tree : FileTree} (listable : tree.Listable) (above : List String)
    (name : String) :
    Reports above (FileTree.folder [(name, tree)]) (reportEntry above name tree) :=
  listable.wellNamed.reports above name (listable.free name)

/-- **Loading is complete and ordered.**  Loading a folder of which every directory can be listed
succeeds.  It reports the files that the folder shows and no others, in the strictly ascending
order of their paths, compared name by name.  A dotfile and a file without the extension of a YAML
file are skipped; any other file is loaded if its text can be had and reads as a document, and
fails if not, whatever the other files are.  The documents are those of the loaded files, in the
same order and with the ids that are reported. -/
theorem load_lists (root : String) (listable : (folder entries).Listable) :
    ∃ (files : List PlacedFile) (report : LoadReport),
      load root (some (folder entries)) = .ok report ∧
        (files.map PlacedFile.path).Pairwise (· < ·) ∧
        (∀ f, f ∈ files ↔ (folder entries).Shows f) ∧
        report.results = files.map (fun f => ⟨f.path, f.outcome⟩) ∧
        report.documents = files.filterMap PlacedFile.document? ∧
        (∀ f : PlacedFile, (∃ reason, f.outcome = .skipped reason) ↔ ¬ f.ToRead) ∧
        (∀ (f : PlacedFile) (id : String),
          f.outcome = .loaded id ↔
            f.ToRead ∧
              ∃ text doc, f.text = some text ∧ Document.read text = .ok doc ∧ doc.id = id) ∧
        (∀ (f : PlacedFile) (e : FileError),
          f.outcome = .failed e ↔
            f.ToRead ∧ (f.text = none ∧ e = .unreadable ∨
              ∃ text wrong, f.text = some text ∧ Document.read text = .error wrong ∧
                e = .document wrong)) ∧
        (∀ (f : PlacedFile) (doc : Document),
          f.document? = some doc ↔
            f.ToRead ∧ ∃ text, f.text = some text ∧ Document.read text = .ok doc) ∧
        report.documents.map Document.id =
          report.results.filterMap fun r => r.status.loadedId? := by
  cases listable with
  | folder distinct each =>
      obtain ⟨files, listed, reported⟩ := gathered_reports distinct fun entry member =>
        (each entry member).reports [] entry.1
      refine ⟨files, reportOn [] files, reported, listed.ordered, listed.exact, rfl, rfl,
        fun _ => PlacedFile.outcome_eq_skipped_iff, fun _ _ => PlacedFile.outcome_eq_loaded_iff,
        fun _ _ => PlacedFile.outcome_eq_failed_iff,
        fun _ _ => PlacedFile.document?_eq_some_iff, ?_⟩
      simp only [reportOn, List.map_filterMap, List.filterMap_map, Function.comp_def,
        PlacedFile.loadedId?_outcome]

end Runs
end FileTree

namespace Example

/-- A document with no event types. -/
def typesText : String :=
  "apiVersion: v1\nkind: EventTypeCatalog\nmetadata:\n  id: types\n  name: Types\nspec:\n  event_types: []\n"

/-- A directory with a hidden file, a hidden folder, a document in a folder, a broken file whose
name begins as the folder's and goes on, one that cannot be read, and one of another kind. -/
def rulesTree : List (String × FileTree) :=
  [("a.txt", .file (some typesText)), ("b.yml", .file none), ("a.yml", .file (some "kind: [")),
    ("a", .folder [("z.yaml", .file (some typesText))]),
    (".old", .folder [("b.yml", .file (some typesText))]), (".env", .file (some ""))]

theorem rulesTree_listable : (FileTree.folder rulesTree).Listable := by
  refine .folder (by decide) ?_
  simp only [rulesTree, List.forall_mem_cons]
  refine ⟨.file _, .file _, .file _, .folder (by decide) ?_, .folder (by decide) ?_, .file _, nofun⟩
  · simp only [List.forall_mem_cons]
    exact ⟨.file _, nofun⟩
  · simp only [List.forall_mem_cons]
    exact ⟨.file _, nofun⟩

/-- What stands in a folder comes before the broken file, which its plain path would not.  The
document is loaded, and neither the broken file nor the one that cannot be read is in its way. -/
theorem rulesTree_listed :
    (FileTree.folder rulesTree).Listable ∧
      ∃ (files : List PlacedFile) (report : LoadReport),
        FileTree.load "rules" (some (.folder rulesTree)) = .ok report ∧
        (∀ f, f ∈ files ↔ (FileTree.folder rulesTree).Shows f) ∧
        report.results = files.map (fun f => ⟨f.path, f.outcome⟩) ∧
        report.documents = files.filterMap PlacedFile.document? ∧
        report.results =
          [⟨[".env"], .skipped .hidden⟩, ⟨["a", "z.yaml"], .loaded "types"⟩,
            ⟨["a.txt"], .skipped .notYaml⟩,
            ⟨["a.yml"], .failed (.document (.unreadable .invalidType))⟩,
            ⟨["b.yml"], .failed .unreadable⟩] ∧
        report.documents.map Document.id = ["types"] := by
  obtain ⟨files, report, read, -, shown, results, documents, -⟩ :=
    FileTree.load_lists "rules" rulesTree_listable
  have computed : (FileTree.load "rules" (some (.folder rulesTree))).toOption.map
      (fun r => (r.results, r.documents.map Document.id)) =
        some ([⟨[".env"], .skipped .hidden⟩, ⟨["a", "z.yaml"], .loaded "types"⟩,
          ⟨["a.txt"], .skipped .notYaml⟩,
          ⟨["a.yml"], .failed (.document (.unreadable .invalidType))⟩,
          ⟨["b.yml"], .failed .unreadable⟩], ["types"]) := by
    decide +kernel
  rw [read] at computed
  obtain ⟨found, given⟩ := Prod.ext_iff.1 (Option.some.inj computed)
  exact ⟨rulesTree_listable, files, report, read, shown, results, documents, found, given⟩

end Example
end EventRules
