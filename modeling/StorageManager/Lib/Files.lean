import StorageManager.Lib.CString
import Mathlib.Data.List.Infix

/-!
# Paths and trees of files

A path is the list of names that lead to it from the root.  `resolve` is what a path string means
to a process in the directory `cwd`, on a file system without symbolic links: empty names and `.`
lead nowhere, `..` leads back.

* `resolve_name` — a name joined to a directory with a slash is one step below the directory.
* `under_name` — a directory is at or above `d/n` only if it is that directory or at or above `d`.
* `copyTree`, `removeTree` — what copying and deleting a tree does to the files;
  `tree_copyTree`, the copy as it is seen from the destination, and `tree_removeTree`, the trees
  that a deletion leaves.
-/

namespace Files

open CString

/-- The names from the root down. -/
abbrev Path := List CStr

/-- One name of a path string. -/
def enter (p : Path) (name : CStr) : Path :=
  if name = [] ∨ name = ['.'] then p
  else if name = ['.', '.'] then p.dropLast
  else p ++ [name]

/-- The path a string stands for in the directory `cwd`. -/
def resolve (cwd : Path) (s : CStr) : Path :=
  (s.splitOn '/').foldl enter (if s.head? = some '/' then [] else cwd)

/-- A name that is one step down. -/
structure PlainName (n : CStr) : Prop where
  ne_nil : n ≠ []
  ne_dot : n ≠ ['.']
  ne_dots : n ≠ ['.', '.']
  no_slash : '/' ∉ n

lemma head?_append_slash (s t : CStr) :
    ((s ++ '/' :: t).head? = some '/') ↔ s = [] ∨ s.head? = some '/' := by
  cases s <;> simp

/-- A slash at the end makes no difference, except that alone it is the root. -/
lemma resolve_slash (cwd : Path) {s : CStr} (h : s ≠ []) :
    resolve cwd (s ++ ['/']) = resolve cwd s := by
  have hstart : ((s ++ ['/']).head? = some '/') ↔ s.head? = some '/' := by
    rw [head?_append_slash]
    simp [h]
  rw [resolve, resolve, List.splitOn_append_cons_self, List.foldl_append, List.splitOn_nil]
  simp only [hstart, List.foldl_cons, List.foldl_nil]
  simp [enter]

/-- A plain name after a slash is one step down from what stands before the slash. -/
lemma resolve_name (cwd : Path) (s : CStr) {n : CStr} (hn : PlainName n) :
    resolve cwd (s ++ '/' :: n) = resolve cwd (s ++ ['/']) ++ [n] := by
  have hstart : ((s ++ '/' :: n).head? = some '/') ↔ ((s ++ ['/']).head? = some '/') := by
    rw [head?_append_slash, head?_append_slash]
  rw [resolve, resolve, List.splitOn_append_cons_self, List.splitOn_append_cons_self,
    List.splitOn_eq_singleton hn.no_slash, List.splitOn_nil]
  simp only [hstart, List.foldl_append, List.foldl_cons, List.foldl_nil]
  simp [enter, hn.ne_nil, hn.ne_dot, hn.ne_dots]

lemma resolve_plain (cwd : Path) {n : CStr} (hn : PlainName n) : resolve cwd n = cwd ++ [n] := by
  have hstart : n.head? ≠ some '/' := fun h => hn.no_slash (List.mem_of_mem_head? h)
  rw [resolve, List.splitOn_eq_singleton hn.no_slash, if_neg hstart, List.foldl_cons,
    List.foldl_nil, enter, if_neg (not_or.mpr ⟨hn.ne_nil, hn.ne_dot⟩), if_neg hn.ne_dots]

/-- What is at or above `q/b` and ends in another name is at or above `q`. -/
lemma under_name {p q : Path} {a b : CStr} (hab : a ≠ b) (h : p ++ [a] <+: q ++ [b]) :
    p ++ [a] <+: q := by
  rcases List.prefix_concat_iff.mp h with heq | hpre
  · have hlast := List.append_inj_right' heq rfl
    exact absurd (List.singleton_injective hlast) hab
  · exact hpre

/-! ## Trees -/

section Trees

variable {κ : Type*}

/-- The files under the directory `d`, by their path below it. -/
def tree (fs : Path → Option κ) (d : Path) : Path → Option κ := fun rel => fs (d ++ rel)

/-- The files of `src` appear at the same places under `dst`, those of them that are `copied`. -/
def copyTree (fs : Path → Option κ) (src dst : Path) (copied : Path → Bool) : Path → Option κ :=
  fun p =>
    if dst.isPrefixOf p then
      let rel := p.drop dst.length
      if copied rel then (tree fs src rel).or (fs p) else fs p
    else fs p

/-- The files under `d` are gone. -/
def removeTree (fs : Path → Option κ) (d : Path) : Path → Option κ :=
  fun p => if d.isPrefixOf p then none else fs p

/-- A complete copy, seen from its destination. -/
lemma tree_copyTree (fs : Path → Option κ) (src dst : Path) :
    tree (copyTree fs src dst fun _ => true) dst
      = fun rel => (tree fs src rel).or (tree fs dst rel) := by
  funext rel
  simp [tree, copyTree]

/-- The copy is the source exactly when nothing else was there. -/
lemma tree_copyTree_eq_iff {fs : Path → Option κ} {src dst : Path} :
    tree (copyTree fs src dst fun _ => true) dst = tree fs src ↔
      ∀ rel, tree fs src rel = none → tree fs dst rel = none := by
  rw [tree_copyTree, funext_iff]
  refine forall_congr' fun rel => ?_
  cases tree fs src rel <;> simp

lemma tree_copyTree_of_empty {fs : Path → Option κ} {src dst : Path}
    (hempty : ∀ rel, tree fs dst rel = none) :
    tree (copyTree fs src dst fun _ => true) dst = tree fs src :=
  tree_copyTree_eq_iff.mpr fun rel _ => hempty rel

/-- Removing one tree leaves those that are neither inside nor around it. -/
lemma tree_removeTree {fs : Path → Option κ} {d p : Path} (hin : ¬ d <+: p) (haround : ¬ p <+: d) :
    tree (removeTree fs d) p = tree fs p := by
  funext rel
  have hnot : ¬ d <+: p ++ rel := fun hpre =>
    (List.prefix_or_prefix_of_prefix hpre (List.prefix_append p rel)).elim hin haround
  simp only [tree, removeTree, List.isPrefixOf_iff_prefix, hnot, if_false]

end Trees

end Files
