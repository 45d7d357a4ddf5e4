/-
# EventRules.Proofs.Loading.Failures -- what can fail without stopping the loading

Whatever is wrong with a file is a result of that file alone.  Only a directory that cannot be
listed stops the loading, and only where loading looks (`FileTree.load_eq_ok_iff`): what is hidden
may be closed.

So beside its root, loading fails for a closed directory on the way, and for nothing else.
Otherwise it gives the document of every file to be read whose text can be had and reads as a
document, whatever else fails in the tree (`FileTree.load_survives`).  A closed directory takes
everything with it, what was read before it too (`Example.documents_missed`).
-/
import EventRules.Proofs.Loading.Files
namespace EventRules

set_option autoImplicit false

namespace FileTree

section Failing

variable {above : List String} {entries : List (String × FileTree)}

/-- One directory that cannot be reported on is enough. -/
theorem gathered_eq_error {reports : List (String × Except DirectoryError LoadReport)}
    {name : String} {e : DirectoryError} (member : (name, .error e) ∈ reports) :
    ∃ e', gathered reports = .error e' := by
  induction reports with
  | nil => cases member
  | cons first rest ih =>
      obtain ⟨firstName, result⟩ := first
      cases result with
      | error e' => exact ⟨e', rfl⟩
      | ok set =>
          rcases List.mem_cons.1 member with same | later
          · cases same
          · obtain ⟨e', failed⟩ := ih later
            exact ⟨e', by rw [gathered, failed]; rfl⟩

/-- A directory is not reported on when one of its entries is not. -/
theorem gathered_of_entry (distinct : (Keyed.keys entries).Nodup) {name : String}
    {tree : FileTree} {e : DirectoryError} (member : (name, tree) ∈ entries)
    (failed : reportEntry above name tree = .error e) :
    ∃ e', gathered (Keyed.ofList (reportEntries above entries)) = .error e' := by
  have kept : (name, tree) ∈ Keyed.ofList entries :=
    (Keyed.ofList_perm distinct).symm.subset member
  rw [reportEntries_eq_map, Keyed.ofList_map]
  exact gathered_eq_error (List.mem_map.2 ⟨_, kept, Prod.ext rfl failed⟩)

/-- What is closed where loading looks stops the loading, however deep it stands. -/
theorem Blocked.stops (blocked : Blocked entries) (named : (folder entries).WellNamed)
    (above : List String) :
    ∃ e, gathered (Keyed.ofList (reportEntries above entries)) = .error e := by
  induction blocked generalizing above with
  | here member visible =>
      cases named with
      | folder distinct each =>
          exact gathered_of_entry distinct member (by rw [reportEntry, if_neg (by simp [visible])])
  | deeper member visible _ ih =>
      cases named with
      | folder distinct each =>
          obtain ⟨e, failed⟩ := ih (each _ member) (above ++ [_])
          exact gathered_of_entry distinct member
            (by rw [reportEntry, if_neg (by simp [visible]), failed])

/-- Where nothing is closed, the files that a folder shows are reported on. -/
theorem reports_of_free (named : (folder entries).WellNamed) (free : ¬ Blocked entries)
    (above : List String) :
    Reports above (folder entries) (gathered (Keyed.ofList (reportEntries above entries))) := by
  cases named with
  | folder distinct each =>
      refine gathered_reports distinct fun entry member => ?_
      refine (each entry member).reports above entry.1 fun blocked => free (blocked.mono ?_)
      simpa using member

/-- **Loading a folder succeeds exactly when** nothing is closed where it looks. -/
theorem load_eq_ok_iff (root : String) (named : (folder entries).WellNamed) :
    (∃ report, load root (some (folder entries)) = .ok report) ↔ ¬ Blocked entries := by
  constructor
  · rintro ⟨report, loaded⟩ blocked
    obtain ⟨e, failed⟩ := blocked.stops named []
    cases failed.symm.trans loaded
  · intro free
    obtain ⟨files, -, reported⟩ := reports_of_free named free []
    exact ⟨_, reported⟩

end Failing

/-- **What makes loading fail.**  Loading fails exactly when its root is missing, a file, or a
directory that cannot be listed, or when a directory that it looks into below the root cannot be
listed.  Otherwise it gives, in the order of their paths, the documents of the files that the root
shows: those of the files to be read whose text can be had and reads as a document, whatever else
is in the tree. -/
theorem load_survives (root : String) (tree : Option FileTree)
    (named : ∀ t ∈ tree, t.WellNamed) :
    ((∃ e, load root tree = .error e) ↔
        tree = none ∨ (∃ text, tree = some (file text)) ∨ tree = some closedFolder ∨
          ∃ entries, tree = some (folder entries) ∧ Blocked entries) ∧
      ∀ entries, tree = some (folder entries) → ¬ Blocked entries →
        ∃ files report, load root tree = .ok report ∧ (folder entries).Lists files ∧
          report.documents = files.filterMap PlacedFile.document? ∧
          ∀ (f : PlacedFile) doc, f.document? = some doc ↔
            f.ToRead ∧ ∃ text, f.text = some text ∧ Document.read text = .ok doc := by
  cases tree with
  | none => exact ⟨by simp [load], nofun⟩
  | some tree =>
      cases tree with
      | file text => exact ⟨by simp [load], nofun⟩
      | closedFolder => exact ⟨by simp [load], nofun⟩
      | folder entries =>
          refine ⟨?_, ?_⟩
          · simp only [Option.some.injEq, folder.injEq, reduceCtorEq, exists_false, false_or,
              exists_eq_left']
            constructor
            · rintro ⟨e, failed⟩
              refine Classical.byContradiction fun free => ?_
              obtain ⟨report, loaded⟩ := (load_eq_ok_iff root (named _ rfl)).2 free
              cases failed.symm.trans loaded
            · exact fun blocked => blocked.stops (named _ rfl) []
          · rintro _ ⟨⟩ free
            obtain ⟨files, listed, reported⟩ := reports_of_free (named _ rfl) free []
            exact ⟨files, _, reported, listed, rfl, fun _ _ => PlacedFile.document?_eq_some_iff⟩

end FileTree

namespace Example

/-- A directory with a file that is no document, one that cannot be read, a hidden folder that is
closed, and a document in a folder. -/
def damaged : List (String × FileTree) :=
  [("broken.yml", .file (some "kind: [")), ("lost.yml", .file none), (".cache", .closedFolder),
    ("sub", .folder [("types.yml", .file (some typesText))])]

theorem damaged_wellNamed : (FileTree.folder damaged).WellNamed := by
  refine .folder (by decide) ?_
  simp only [damaged, List.forall_mem_cons]
  refine ⟨.file _, .file _, .closedFolder, .folder (by decide) ?_, nofun⟩
  simp only [List.forall_mem_cons]
  exact ⟨.file _, nofun⟩

theorem damaged_free : ¬ FileTree.Blocked damaged := by
  intro blocked
  cases blocked with
  | here member visible =>
      simp only [damaged, List.mem_cons, Prod.mk.injEq, reduceCtorEq, and_false, and_true,
        false_or, or_false, List.not_mem_nil] at member
      rw [member] at visible
      exact absurd visible (by decide +kernel)
  | deeper member visible blocked =>
      simp only [damaged, List.mem_cons, Prod.mk.injEq, reduceCtorEq, and_false, false_or,
        or_false, List.not_mem_nil, FileTree.folder.injEq] at member
      rw [member.2] at blocked
      cases blocked with
      | here member => simp at member
      | deeper member => simp at member

/-- The document is loaded, whatever is wrong beside it. -/
theorem damaged_survived :
    (FileTree.folder damaged).WellNamed ∧ ¬ FileTree.Blocked damaged ∧
      ∃ files report, FileTree.load "rules" (some (.folder damaged)) = .ok report ∧
        (FileTree.folder damaged).Lists files ∧
        report.documents = files.filterMap PlacedFile.document? ∧
        report.documents.map Document.id = ["types"] := by
  obtain ⟨-, loads⟩ := FileTree.load_survives "rules" (some (.folder damaged))
    (by rintro _ ⟨⟩; exact damaged_wellNamed)
  obtain ⟨files, report, loaded, listed, documents, -⟩ := loads damaged rfl damaged_free
  have computed : (FileTree.load "rules" (some (.folder damaged))).toOption.map
      (fun r => r.documents.map Document.id) = some ["types"] := by
    decide +kernel
  rw [loaded] at computed
  exact ⟨damaged_wellNamed, damaged_free, files, report, loaded, listed, documents,
    Option.some.inj computed⟩

/-- A directory with a document, and beside it a folder that is closed. -/
def attic : List (String × FileTree) :=
  [("attic", .closedFolder), ("a.yml", .file (some typesText)),
    ("types.yml", .file (some typesText))]

/-- Documents that can be read are lost, before a closed folder and after it. -/
theorem documents_missed :
    (FileTree.folder attic).WellNamed ∧
      (FileTree.folder attic).Shows ⟨[], "a.yml", some typesText⟩ ∧
      (FileTree.folder attic).Shows ⟨[], "types.yml", some typesText⟩ ∧
      (Document.read typesText).toOption.map Document.id = some "types" ∧
      ∃ e, FileTree.load "rules" (some (.folder attic)) = .error e := by
  have named : (FileTree.folder attic).WellNamed := by
    refine .folder (by decide) ?_
    simp only [attic, List.forall_mem_cons]
    exact ⟨.closedFolder, .file _, .file _, nofun⟩
  have blocked : FileTree.Blocked attic := .here List.mem_cons_self (by decide +kernel)
  exact ⟨named, .here (by simp [attic]), .here (by simp [attic]), by decide +kernel,
    blocked.stops named []⟩

end Example
end EventRules
