import DiagramDoc.Files.Tree
import Mathlib.Data.List.Basic

/-! # Writing a file

A file that is put into a tree is there with its bytes, and every other file is as it was. Around it
nothing that was a directory ceases to be one, so that a path which leads to the place before the
file is written leads there afterwards too, and the text that is written is the text that is read.
-/

namespace DiagramDoc.FileTree

open Text

variable {tree : FileTree} {location other : Location} {content : List UInt8}

def file? (tree : FileTree) (location : Location) : Option (List UInt8) :=
  match tree.node? location with
  | some (.file content) => some content
  | _ => none

/-! ### One location -/

theorem node?_root (tree : FileTree) : tree.node? [] = some .directory := rfl

theorem find?_entries_put (h : other ≠ location) :
    (tree.put location content).entries.find? (·.1 = other) =
      tree.entries.find? (·.1 = other) := by
  have hfirst : decide (location = other) = false := by simpa using h.symm
  rw [put, List.find?_cons_of_neg (by simp [hfirst]), List.find?_filter]
  congr 1
  funext entry
  by_cases hentry : entry.1 = other <;> simp [hentry, h]

/-- What lies in a place that is written to still lies in it, also when the entry that said so was
that of the file before. -/
theorem any_entries_put (h : tree.entries.any fun entry => other.isSuffixOf entry.1) :
    (tree.put location content).entries.any fun entry => other.isSuffixOf entry.1 := by
  obtain ⟨entry, hmem, hsuffix⟩ := List.any_eq_true.1 h
  refine List.any_eq_true.2 ?_
  by_cases hentry : entry.1 = location
  · exact ⟨_, List.mem_cons_self, hentry ▸ hsuffix⟩
  · exact ⟨entry, List.mem_cons_of_mem _ (List.mem_filter.2 ⟨hmem, by simpa using hentry⟩), hsuffix⟩

/-- At any other location everything is as before, except that a directory may be where nothing
was: one that the new file lies in. -/
theorem node?_put_of_ne (tree : FileTree) (content : List UInt8) (h : other ≠ location) :
    (tree.put location content).node? other = tree.node? other ∨
      tree.node? other = none ∧ (tree.put location content).node? other = some .directory := by
  by_cases hroot : other = []
  · subst hroot
    exact .inl rfl
  simp only [node?, if_neg hroot, find?_entries_put h]
  cases tree.entries.find? (·.1 = other) with
  | some entry => exact .inl rfl
  | none =>
    by_cases hbefore : tree.entries.any fun entry => other.isSuffixOf entry.1
    · exact .inl (by rw [if_pos hbefore, if_pos (any_entries_put hbefore)])
    · rw [if_neg hbefore]
      by_cases hafter : (tree.put location content).entries.any fun entry => other.isSuffixOf entry.1
      · exact .inr ⟨rfl, by rw [if_pos hafter]⟩
      · exact .inl (by rw [if_neg hafter])

theorem file?_put (h : location ≠ []) :
    (tree.put location content).file? location = some content := by
  rw [file?, node?_put tree content h]

theorem file?_put_of_ne (h : other ≠ location) :
    (tree.put location content).file? other = tree.file? other := by
  rcases node?_put_of_ne tree content h with hsame | ⟨hnone, hdirectory⟩
  · rw [file?, file?, hsame]
  · rw [file?, file?, hnone, hdirectory]

theorem node?_put_directory (h : tree.node? other = some .directory) (hne : other ≠ location) :
    (tree.put location content).node? other = some .directory := by
  rcases node?_put_of_ne tree content hne with hsame | ⟨hnone, _⟩
  · exact hsame.trans h
  · rw [hnone] at h
    cases h

/-! ### A path -/

/-- A path still leads where it led: of the places that it passes, all are directories, and the one
that is written to is none. -/
theorem walk_put (hlocation : tree.node? location ≠ some .directory) {parts : List String}
    {start found : Location} (h : tree.walk start parts = .ok found) :
    (tree.put location content).walk start parts = .ok found := by
  induction parts generalizing start with
  | nil => exact h
  | cons part parts ih =>
    rw [walk] at h ⊢
    cases hnode : tree.node? start with
    | none => simp [hnode] at h
    | some node =>
      cases node with
      | file content => simp [hnode] at h
      | directory =>
        -- the walk enters a directory here, so this is not where the file is put
        have hne : start ≠ location := fun heq => hlocation (heq ▸ hnode)
        rw [node?_put_directory hnode hne]
        rw [hnode] at h
        exact ih h

variable {directory : Location} {path : String}

theorem withoutEndSlashes_eq_self (h : meansDirectory path = false) :
    withoutEndSlashes path = path := by
  have hlast : path.toList.getLast? ≠ some '/' := by simpa [meansDirectory] using h
  have hdrop : dropEndWhile (· == '/') path.toList = path.toList := by
    rw [dropEndWhile]
    cases hreverse : path.toList.reverse with
    | nil => simpa using hreverse.symm
    | cons c cs =>
      have hc : (c == '/') = false := by
        rw [← List.head?_reverse, hreverse] at hlast
        simpa using hlast
      rw [List.dropWhile_cons_of_neg (by simp [hc]), ← hreverse, List.reverse_reverse]
  rw [withoutEndSlashes, hdrop, String.ofList_toList]

/-- Without a name the walk ends in the directory that it starts in. -/
theorem walk_empty_path (h : tree.walk (pathStart directory "") (pathParts "") = .ok location) :
    tree.node? location = some .directory := by
  have hstart : pathStart directory "" = directory := rfl
  have hparts : pathParts "" = [""] := rfl
  rw [hstart, hparts, walk] at h
  cases hnode : tree.node? directory with
  | none => simp [hnode] at h
  | some node =>
    cases node with
    | file content => simp [hnode] at h
    | directory =>
      rw [hnode] at h
      cases h
      exact hnode

/-- The place that a path is written to: no directory, and the place that the path leads to. -/
theorem locateFile_eq_ok_iff : tree.locateFile directory path = .ok location ↔
    meansDirectory path = false ∧ tree.node? location ≠ some .directory ∧
      tree.locate directory path = .ok location := by
  rw [locateFile, locate]
  cases hslash : meansDirectory path with
  | true => cases tree.walk (pathStart directory path) (pathParts (withoutEndSlashes path)) <;> simp
  | false =>
    rw [withoutEndSlashes_eq_self hslash]
    by_cases hempty : path = ""
    · subst hempty
      cases hwalk : tree.walk (pathStart directory "") (pathParts "") with
      | error e => simp
      | ok found => simp [walk_empty_path hwalk]
    · rw [if_neg hempty]
      cases hwalk : tree.walk (pathStart directory path) (pathParts path) with
      | error e => simp
      | ok found =>
        by_cases hdirectory : tree.node? found = some .directory
        · simp only [hdirectory, or_true, if_true]
          grind
        · simp only [Bool.false_eq_true, hdirectory, or_false, if_false]
          grind

/-- **What is written to a path is read from it.** -/
theorem read_put {text : String} (h : tree.locateFile directory path = .ok location) :
    (tree.put location (bytes text)).read directory path = .ok text := by
  obtain ⟨_, hlocation, hlocate⟩ := locateFile_eq_ok_iff.1 h
  have hroot : location ≠ [] := fun heq => hlocation (heq ▸ node?_root tree)
  have hafter : (tree.put location (bytes text)).locate directory path = .ok location := by
    rw [locate] at hlocate ⊢
    split at hlocate
    · cases hlocate
    · next hempty =>
      rw [if_neg hempty]
      exact walk_put hlocation hlocate
  rw [read, hafter]
  exact readAt_put tree text hroot

end DiagramDoc.FileTree
