import SubtitleExchange.Command.Tree
import SubtitleExchange.Proofs.Command.Host

/-!
# Creating the output in a tree

A new file stands where nothing or another file stood, never in place of a directory. So all paths
lead where they led before, and what is found elsewhere is the same.
-/

namespace SubtitleExchange
namespace Command
namespace Tree

theorem isDirectory_of_sinkAt {tree : Tree} {location : Location}
    (h : tree.sinkAt location = some .file) : tree.isDirectory location = false := by
  rw [sinkAt] at h
  rw [isDirectory]
  split at h <;> simp_all

theorem isDirectory_withEmptyFile {tree : Tree} {location : Location}
    (h : tree.isDirectory location = false) (other : Location) :
    (tree.withEmptyFile location).isDirectory other = tree.isDirectory other := by
  by_cases hother : other = location
  · rw [hother, h]
    simp [isDirectory, item?, withEmptyFile]
  · have hne : (other == location) = false := beq_eq_false_iff_ne.mpr hother
    simp [isDirectory, item?, withEmptyFile, List.lookup_cons, hne]

theorem walk_withEmptyFile {tree : Tree} {location : Location}
    (h : tree.isDirectory location = false) (names : List String) (start : Location) :
    (tree.withEmptyFile location).walk start names = tree.walk start names := by
  induction names generalizing start with
  | nil =>
      rfl
  | cons name rest ih =>
      rw [walk, walk, isDirectory_withEmptyFile h]
      simp only [ih]

theorem location?_withEmptyFile {tree : Tree} {location : Location}
    (h : tree.isDirectory location = false) (path : String) :
    (tree.withEmptyFile location).location? path = tree.location? path := by
  rw [location?, location?]
  simp only [walk_withEmptyFile h]
  rfl

theorem entry_withEmptyFile {tree : Tree} {location : Location}
    (h : tree.isDirectory location = false) {path : String}
    (hpath : tree.location? path ≠ some location) :
    (tree.withEmptyFile location).entry path = tree.entry path := by
  rw [entry, entry, location?_withEmptyFile h]
  cases hother : tree.location? path with
  | none =>
      rfl
  | some other =>
      have hne : other ≠ location := by
        rintro rfl
        exact hpath hother
      exact entryAt_withEmptyFile_of_ne hne

/-- The bytes that are read for an input: those of standard input, or of the file at a path. -/
def Supplies (tree : Tree) (input : String) (file : List UInt8) : Prop :=
  if input = "-" then tree.stdin = file else tree.entry input = .file file

/-- A file can be created at the path of the output, and it is not the one that is read. -/
def Receives (tree : Tree) (input output : String) : Prop :=
  ∃ location, tree.location? output = some location ∧ tree.sinkAt location = some .file ∧
    (input = "-" ∨ tree.location? input ≠ some location)

theorem supplies_host {tree : Tree} {input : String} {file : List UInt8}
    (h : tree.Supplies input file) : tree.host.Supplies input file := by
  rw [Supplies] at h
  rw [Host.Supplies, Host.openInput?]
  split at h
  · rename_i hinput
    rw [if_pos hinput, ← h]
    rfl
  · rename_i hinput
    rw [if_neg hinput, show tree.host.entry input = _ from h]
    rfl

theorem supplies_withEmptyFile {tree : Tree} {location : Location} {input : String}
    {file : List UInt8} (hdirectory : tree.isDirectory location = false)
    (hother : input = "-" ∨ tree.location? input ≠ some location) (h : tree.Supplies input file) :
    (tree.withEmptyFile location).Supplies input file := by
  rw [Supplies] at h ⊢
  split
  · rename_i hdash
    rwa [if_pos hdash] at h
  · rename_i hdash
    rw [if_neg hdash] at h
    rw [entry_withEmptyFile hdirectory (hother.resolve_left hdash), h]

theorem serves_host {tree : Tree} {input output : String} {file : List UInt8}
    (hinput : tree.Supplies input file) (houtput : output = "-" ∨ tree.Receives input output) :
    tree.host.Serves input output file := by
  rw [Host.Serves]
  split
  · exact supplies_host hinput
  · rename_i hdash
    obtain ⟨location, hlocation, hsink, hother⟩ := houtput.resolve_left hdash
    have hsupplies :=
      supplies_withEmptyFile (isDirectory_of_sinkAt hsink) hother hinput
    have hcreate : tree.create? output = some ⟨.file, (tree.withEmptyFile location).entry⟩ := by
      simp [create?, hlocation, hsink]
    refine ⟨{ tree.host with entry := (tree.withEmptyFile location).entry }, ?_,
      supplies_host hsupplies⟩
    rw [Host.afterCreation?, show tree.host.create? output = _ from hcreate]
    rfl

end Tree
end Command
end SubtitleExchange
