import Mathlib.Data.List.Basic
import PipelineProfile.FileTree

/-!
# Paths into a directory

Where a path leads depends on the directories of a tree, among them the working directory, and not
on its files (`locate?_congr`), so a file can change without any path leading elsewhere.  A file
name, told apart from a path by `Path.IsFileName`, is looked up in a directory as the last piece of
a path, whether or not the path of the directory is absolute, and whether or not it ends in a slash
(`exists_locate?_join`).  So different names in one directory lead to different places
(`eq_of_locate?_join`).
-/

namespace PipelineProfile

namespace Path

/-- The text names a file in a directory, and is not a path that leads elsewhere. -/
structure IsFileName (name : String) : Prop where
  ne_empty : name ≠ ""
  ne_dot : name ≠ "."
  ne_dots : name ≠ ".."
  not_mem : '/' ∉ name.toList

variable {dir name : String}

lemma IsFileName.isAbsolute_eq_false (h : IsFileName name) : isAbsolute name = false := by
  rw [isAbsolute, decide_eq_false_iff_not]
  exact fun hhead => h.not_mem (List.mem_of_mem_head? hhead)

/-- Before a file name there is the path of the directory, and exactly one slash more than that
path has without a slash at its end. -/
lemma exists_toList_join (hdir : dir ≠ "") :
    ∃ base, dir.toList <+: base ++ ['/'] ∧
      ∀ name, IsFileName name → (join dir name).toList = base ++ '/' :: name.toList := by
  have hempty : dir.isEmpty = false := by
    rw [← Bool.not_eq_true, String.isEmpty_iff]
    exact hdir
  by_cases hlast : dir.toList.getLast? = some '/'
  · obtain ⟨base, hbase⟩ := List.getLast?_eq_some_iff.mp hlast
    refine ⟨base, hbase ▸ List.prefix_refl _, fun name hname => ?_⟩
    rw [join, hname.isAbsolute_eq_false, hempty, hlast]
    simp [hbase]
  · refine ⟨dir.toList, List.prefix_append .., fun name hname => ?_⟩
    rw [join, hname.isAbsolute_eq_false, hempty]
    simp [hlast]

end Path

namespace FileTree

open PipelineProfile.Path

variable {t u : FileTree} {dir name : String}

/-! ## Names in a directory -/

lemma step_fileName (h : IsFileName name) (here : List String) :
    t.step here name = if t.node? here = some .directory then some (here ++ [name]) else none := by
  unfold step
  split
  · next hnode => simp [hnode, h.ne_empty, h.ne_dot, h.ne_dots]
  · next hnode => rw [if_neg hnode]

lemma locate?_of_toList {path : String} {base : List Char}
    (hpath : path.toList = base ++ '/' :: name.toList) (h : IsFileName name) :
    t.locate? path =
      (((base.splitOn '/').map String.ofList).foldlM t.step (t.start path)).bind fun here =>
        t.step here name := by
  have hempty : path ≠ "" := by
    rintro rfl
    simp at hpath
  have hpieces : (pieces path).map String.ofList =
      (base.splitOn '/').map String.ofList ++ [name] := by
    rw [pieces, hpath, List.splitOn_append_cons_self, List.splitOn_eq_singleton h.not_mem,
      List.map_append, List.map_singleton, String.ofList_toList]
  rw [locate?, if_neg hempty, hpieces, List.foldlM_append]
  simp

/-- A file name is looked up in the place where the path of its directory leads. -/
lemma exists_locate?_join (t : FileTree) (dir : String) :
    ∃ here? : Option (List String), ∀ name, IsFileName name →
      t.locate? (join dir name) = here?.bind fun here => t.step here name := by
  by_cases hdir : dir = ""
  · refine ⟨some t.workDir, fun name hname => ?_⟩
    have hjoin : join dir name = name := by
      rw [join, hname.isAbsolute_eq_false, hdir]
      simp
    have hstart : t.start name = t.workDir := by
      rw [start, hname.isAbsolute_eq_false, if_neg Bool.false_ne_true]
    have hpieces : (pieces name).map String.ofList = [name] := by
      rw [pieces, List.splitOn_eq_singleton hname.not_mem, List.map_singleton,
        String.ofList_toList]
    rw [hjoin, locate?, if_neg hname.ne_empty, hstart, hpieces]
    simp
  · obtain ⟨base, hprefix, hjoin⟩ := exists_toList_join hdir
    -- Whether the whole path is absolute is decided by its first character.
    have hstart : ∀ name, IsFileName name → t.start (join dir name) = t.start dir := by
      intro name hname
      obtain ⟨rest, hrest⟩ : dir.toList <+: (join dir name).toList := by
        rw [hjoin name hname, List.append_cons]
        exact hprefix.trans (List.prefix_append ..)
      have hne : dir.toList ≠ [] := by simpa using hdir
      rw [start, start, isAbsolute, isAbsolute, ← hrest, List.head?_append_of_ne_nil _ hne]
    refine ⟨((base.splitOn '/').map String.ofList).foldlM t.step (t.start dir),
      fun name hname => ?_⟩
    rw [locate?_of_toList (hjoin name hname) hname, hstart name hname]

/-- Different names in a directory lead to different places. -/
lemma eq_of_locate?_join {other : String} (h : IsFileName name) (hother : IsFileName other)
    {address : List String} (hname : t.locate? (join dir name) = some address)
    (haddress : t.locate? (join dir other) = some address) : name = other := by
  obtain ⟨here?, hlocate⟩ := t.exists_locate?_join dir
  have hlast : ∀ n, IsFileName n → t.locate? (join dir n) = some address →
      address.getLast? = some n := by
    intro n hn hfound
    rw [hlocate n hn, Option.bind_eq_some_iff] at hfound
    obtain ⟨here, -, hstep⟩ := hfound
    rw [step_fileName hn] at hstep
    split at hstep
    · rw [← Option.some.inj hstep, List.getLast?_concat]
    · cases hstep
  exact Option.some.inj ((hlast name h hname).symm.trans (hlast other hother haddress))

/-! ## Changing files -/

/-- The tree with the file at an address changed, added, or removed. -/
def setFile (t : FileTree) (address : List String) (bytes? : Option (List UInt8)) : FileTree :=
  { t with node? a := if a = address then bytes?.map FileNode.file else t.node? a }

/-- Trees with the same directories and the same working directory lead paths to the same places. -/
lemma locate?_congr (hwork : u.workDir = t.workDir)
    (h : ∀ a, u.node? a = some .directory ↔ t.node? a = some .directory) (path : String) :
    u.locate? path = t.locate? path := by
  have hstep : u.step = t.step := by
    funext here piece
    by_cases hhere : t.node? here = some .directory
    · simp only [step, hhere, (h here).mpr hhere]
    · have hnot : u.node? here ≠ some .directory := fun hu => hhere ((h here).mp hu)
      unfold step
      split
      · next hu => exact absurd hu hnot
      · rfl
  rw [locate?, locate?, start, start, hwork, hstep]

lemma read?_congr (hwork : u.workDir = t.workDir)
    (h : ∀ a, u.node? a = some .directory ↔ t.node? a = some .directory)
    {path : String} (hnode : ∀ a, t.locate? path = some a → u.node? a = t.node? a) :
    u.read? path = t.read? path := by
  rw [read?, read?, locate?_congr hwork h]
  cases hpath : t.locate? path with
  | none => rfl
  | some a => rw [Option.bind_some, Option.bind_some, hnode a hpath]

end FileTree

end PipelineProfile
