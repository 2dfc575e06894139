import KubevirtMetrics.Data.Path
import KubevirtMetrics.Data.Text

namespace KubevirtMetrics.Cgroup

open Data

/-! The cgroup of a process, as `memory.go` finds it from inside a cgroup namespace. -/

/-- Of the content of `/proc/<pid>/cgroup`. -/
def readCgroupV2Path (data : List Char) : Option (List Char) :=
  ((Text.trimSpace data).splitOn '\n').findSome? fun line =>
    if ['0', ':', ':'].isPrefixOf line then some (line.drop 3) else none

def resolveCgroupPath (nsRelative nsRoot : List Char) : List Char :=
  if nsRoot = [] then nsRelative else Path.clean (Path.join [nsRoot, nsRelative])

/-- A cgroup, by the names from the root of the hierarchy down to it. -/
structure CgroupPath where
  names : List (List Char)
  valid : ∀ name ∈ names, Path.Name name

namespace CgroupPath

def text (path : CgroupPath) : List Char := Path.absolute path.names

/-- The result of `findSelfCgroup`: `filepath.Rel` of the root to itself is a dot. -/
def selfText (path : CgroupPath) : List Char :=
  Path.absolute (if path.names = [] then [['.']] else path.names)

end CgroupPath

/-- What is left of two paths below their deepest common ancestor. -/
def diverge : List (List Char) → List (List Char) → List (List Char) × List (List Char)
  | name :: root, other :: target =>
      if name = other then diverge root target else (name :: root, other :: target)
  | root, target => (root, target)

/-- What the kernel prints for the cgroup `target` to a reader in a namespace with the
root `root`. -/
def namespacePath (target root : CgroupPath) : List Char :=
  let rest := diverge root.names target.names
  Path.absolute (List.replicate rest.1.length ['.', '.'] ++ rest.2)

theorem exists_diverge (root target : List (List Char)) :
    ∃ ancestor, root = ancestor ++ (diverge root target).1 ∧
      target = ancestor ++ (diverge root target).2 := by
  fun_induction diverge root target with
  | case1 root name target induction =>
      obtain ⟨ancestor, upper, lower⟩ := induction
      exact ⟨name :: ancestor, congrArg (name :: ·) upper, congrArg (name :: ·) lower⟩
  | case2 => exact ⟨[], rfl, rfl⟩
  | case3 => exact ⟨[], rfl, rfl⟩

/-- Up from the root to an ancestor, and down again. -/
theorem foldl_enter_relative {ancestor upper lower : List (List Char)}
    (names : ∀ name ∈ ancestor ++ upper, Path.Name name)
    (lowerNames : ∀ name ∈ lower, Path.Name name) :
    ((ancestor ++ upper) ++ (List.replicate upper.length ['.', '.'] ++ lower)).foldl
        (Path.enter true) [] = (ancestor ++ lower).reverse := by
  have reversed : ∀ name ∈ (ancestor ++ upper).reverse, Path.Name name :=
    fun name member => names name (List.mem_reverse.mp member)
  have climbed : (ancestor ++ upper).reverse.drop upper.length = ancestor.reverse := by
    rw [List.reverse_append, List.drop_left' List.length_reverse]
  rw [List.foldl_append, Path.foldl_enter_names names, List.append_nil, List.foldl_append,
    Path.foldl_enter_dotdots reversed, climbed, Path.foldl_enter_names lowerNames,
    List.reverse_append]

theorem resolveCgroupPath_absolute {target root : CgroupPath} {words : List (List Char)}
    (solid : ∀ word ∈ words, '/' ∉ word)
    (reads : words.foldl (Path.enter true) [] = root.names.foldl (Path.enter true) []) :
    resolveCgroupPath (namespacePath target root) (Path.absolute words) =
      target.text := by
  obtain ⟨ancestor, upper, lower⟩ := exists_diverge root.names target.names
  unfold namespacePath CgroupPath.text
  generalize diverge root.names target.names = rest at upper lower ⊢
  obtain ⟨above, below⟩ := rest
  dsimp only at upper lower ⊢
  have names := root.valid
  have targetNames := target.valid
  have belowNames : ∀ name ∈ below, Path.Name name := fun name member =>
    targetNames name (lower ▸ List.mem_append_right ancestor member)
  have printed :
      ∀ word ∈ List.replicate above.length ['.', '.'] ++ below, '/' ∉ word := by
    intro word member
    rcases List.mem_append.mp member with up | down
    · rw [List.eq_of_mem_replicate up]
      decide
    · exact (belowNames word down).solid
  rw [resolveCgroupPath, if_neg (Path.absolute_ne_nil words),
    Path.join_absolute solid printed, List.foldl_append, reads, ← List.foldl_append,
    upper, foldl_enter_relative (upper ▸ names) belowNames, List.reverse_reverse, ← lower,
    Path.clean_absolute_names targetNames]

theorem CgroupPath.solid (path : CgroupPath) : ∀ name ∈ path.names, '/' ∉ name :=
  fun name member => (path.valid name member).solid

theorem resolveCgroupPath_selfText (target root : CgroupPath) :
    resolveCgroupPath (namespacePath target root) root.selfText = target.text := by
  unfold CgroupPath.selfText
  split
  next top =>
    apply resolveCgroupPath_absolute
    · intro word member
      rw [List.mem_singleton.mp member]
      decide
    · rw [top]
      exact Path.enter_dot true []
  next => exact resolveCgroupPath_absolute root.solid rfl

/-- The path that the kernel prints leads back to the cgroup, from the root as it is
written and as `findSelfCgroup` writes it; without a root it is left alone. -/
theorem resolveCgroupPath_namespacePath (target root : CgroupPath) :
    resolveCgroupPath (namespacePath target root) root.text = target.text ∧
      resolveCgroupPath (namespacePath target root) root.selfText = target.text ∧
      ∀ path, resolveCgroupPath path [] = path :=
  ⟨resolveCgroupPath_absolute root.solid rfl, resolveCgroupPath_selfText target root,
    fun _ => if_pos rfl⟩

/-! ### From the file -/

/-- The file of a process that is in no hierarchy of the first version. -/
def procCgroup (target root : CgroupPath) : List Char :=
  ['0', ':', ':'] ++ namespacePath target root ++ ['\n']

end KubevirtMetrics.Cgroup
