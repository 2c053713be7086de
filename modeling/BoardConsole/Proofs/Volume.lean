import BoardConsole.Lines.File
import Mathlib

/-!
# Volume — Files that were put

Putting bytes into a file leaves every path that leads to a place leading there (`locate_put`), and
the file has those bytes (`contents?_put`).  So a file that was put where a name leads is what is
opened under the name (`openInput?_put`).
-/

namespace BoardConsole.Volume

/-- Two volumes with the same directories and links. -/
structure SameTree (v w : Volume) : Prop where
  base        : w.base = v.base
  directories : w.directories = v.directories
  links       : w.links = v.links

section SameTree
variable {v w : Volume}

theorem SameTree.parent_eq (h : SameTree v w) (path : Path) : w.parent path = v.parent path := by
  simp only [parent, absolute, normal, h.base]

theorem SameTree.normal_eq (h : SameTree v w) (path : Path) : w.normal path = v.normal path := by
  simp only [normal, h.base]

theorem SameTree.isDirectory_eq (h : SameTree v w) (path : Path) :
    w.isDirectory path = v.isDirectory path := by
  simp only [isDirectory, h.base, h.directories]

theorem SameTree.linkTarget?_eq (h : SameTree v w) (path : Path) :
    w.linkTarget? path = v.linkTarget? path := by
  simp only [linkTarget?, h.links]

/-- A walk that ends does not look at files. -/
theorem SameTree.walk_eq (h : SameTree v w) {follows : Bool} {links : Nat} {here : Path}
    {cs : List String} {path : Path} (hwalk : v.walk follows links here cs = .ok path) :
    w.walk follows links here cs = .ok path := by
  fun_induction walk v follows links here cs generalizing path
  case case1 =>
      rw [walk]
      exact hwalk
  case case2 ih =>
      rw [walk, if_pos rfl, h.parent_eq]
      exact ih hwalk
  case case3 => cases hwalk
  case case4 hdots hlen there target hlink hlast =>
      rw [walk, if_neg hdots, if_neg hlen]
      simp only [h.normal_eq, h.linkTarget?_eq, there] at hlink ⊢
      simp only [hlink, if_pos hlast]
      exact hwalk
  case case5 => cases hwalk
  case case6 hdots hlen there target hlink hlast links start ih =>
      rw [walk, if_neg hdots, if_neg hlen]
      simp only [h.normal_eq, h.linkTarget?_eq, there] at hlink ⊢
      simp only [hlink, if_neg hlast]
      exact ih hwalk
  case case7 hdots hlen there hlink hlast =>
      rw [walk, if_neg hdots, if_neg hlen]
      simp only [h.normal_eq, h.linkTarget?_eq, there] at hlink ⊢
      simp only [hlink, if_pos hlast]
      exact hwalk
  case case8 hdots hlen there hlink hlast hdir ih =>
      rw [walk, if_neg hdots, if_neg hlen]
      simp only [h.normal_eq, h.linkTarget?_eq, h.isDirectory_eq, there] at hlink hdir ⊢
      simp only [hlink, if_neg hlast, if_pos hdir]
      exact ih hwalk
  case case9 => cases hwalk
  case case10 => cases hwalk

theorem SameTree.resolve_eq (h : SameTree v w) {follows : Bool} {here : Path} {name : String}
    {path : Path} (hresolve : v.resolve follows here name = .ok path) :
    w.resolve follows here name = .ok path := by
  unfold resolve at hresolve ⊢
  by_cases hnul : name.contains '\x00' = true
  · rw [if_pos hnul] at hresolve
    cases hresolve
  by_cases hempty : name = ""
  · rw [if_neg hnul, if_pos hempty] at hresolve
    cases hresolve
  by_cases hlong : longestPath < Text.Utf8.size name
  · rw [if_neg hnul, if_neg hempty, if_pos hlong] at hresolve
    cases hresolve
  rw [if_neg hnul, if_neg hempty, if_neg hlong] at hresolve ⊢
  dsimp only at hresolve ⊢
  cases hwalk : v.walk (follows || endsInDirectory name) longestChain
      (if name.startsWith "/" = true then ["/"] else here) (components name) with
  | error fault =>
      rw [hwalk] at hresolve
      cases hresolve
  | ok found =>
      rw [hwalk] at hresolve
      rw [h.walk_eq hwalk]
      dsimp only at hresolve ⊢
      rw [h.isDirectory_eq]
      split_ifs at hresolve ⊢
      exact hresolve

theorem SameTree.locate_eq (h : SameTree v w) {name : String} {place : Place}
    (hlocate : v.locate name = .ok place) : w.locate name = .ok place := by
  unfold locate at hlocate ⊢
  split at hlocate
  · cases hlocate
  · rename_i path hresolve
    rw [h.resolve_eq hresolve]
    simp only [h.isDirectory_eq]
    exact hlocate

end SameTree

/-! ### Putting -/

theorem sameTree_put (v : Volume) (path : Path) (bytes : List UInt8) :
    SameTree v (v.put path bytes) := by
  have henroll : (v.enroll path).base = v.base ∧ (v.enroll path).directories = v.directories ∧
      (v.enroll path).links = v.links := by
    unfold enroll
    split <;> exact ⟨rfl, rfl, rfl⟩
  exact ⟨henroll.1, henroll.2.1, henroll.2.2⟩

theorem locate_put {v : Volume} {name : String} {place : Place} (h : v.locate name = .ok place)
    (path : Path) (bytes : List UInt8) : (v.put path bytes).locate name = .ok place :=
  (sameTree_put v path bytes).locate_eq h

theorem mem_namesOf (v : Volume) (path : Path) : path ∈ v.namesOf path := by
  unfold namesOf
  split
  · rename_i n hn
    obtain ⟨front, back, heq, -⟩ := List.lookup_eq_some_iff.mp hn
    rw [heq]
    simp
  · exact List.mem_singleton_self path

theorem lookup_map_pair {names : List Path} {path : Path} (h : path ∈ names) (bytes : List UInt8) :
    (names.map fun name => (name, bytes)).lookup path = some bytes := by
  induction names with
  | nil => cases h
  | cons name names ih =>
      rw [List.map_cons, List.lookup_cons]
      by_cases heq : path = name
      · simp [heq]
      · rw [beq_false_of_ne heq]
        exact ih (List.mem_of_ne_of_mem heq h)

/-- **A file has the bytes that were put into it.** -/
theorem contents?_put (v : Volume) (path : Path) (bytes : List UInt8) :
    (v.put path bytes).contents? path = some bytes := by
  have hmem := mem_namesOf (v.enroll path) path
  have hothers : ((v.enroll path).files.filter
      fun f => !((v.enroll path).namesOf path).contains f.1).lookup path = none := by
    rw [List.lookup_eq_none_iff]
    intro f hf
    rw [List.mem_filter] at hf
    rw [bne_iff_ne]
    rintro rfl
    simp [hmem] at hf
  rw [contents?, put, List.lookup_append, hothers, Option.none_or, lookup_map_pair hmem]

/-- **A file that was put where a name leads is opened under the name.** -/
theorem openInput?_put {v : Volume} {name : String} {path : Path}
    (h : v.locate name = .ok (.file path)) (bytes : List UInt8) :
    (v.put path bytes).openInput? name = some (.ofBytes bytes) := by
  rw [openInput?, read, locate_put h]
  simp only [contents?_put]

end BoardConsole.Volume
