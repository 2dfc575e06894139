import KubevirtMetrics.Data.Path

namespace KubevirtMetrics.Data

/-! Directories and files, read by path and visited one after the other. -/

namespace Path

/-- The names of the directories that an absolute path leads through. -/
def names (path : List Char) : List (List Char) :=
  ((path.splitOn '/').foldl (enter true) []).reverse

/-- `filepath.Dir`. -/
def dir (path : List Char) : List Char := clean (path.reverse.dropWhile (· ≠ '/')).reverse

theorem Name.splitOn {word : List Char} (name : Name word) : word.splitOn '/' = [word] :=
  List.splitOn_eq_singleton name.solid

end Path

/-- The entries of a directory stand in the order in which it is read; a file without
content is one that cannot be read. -/
inductive FileTree
  | file (content : Option (List Char))
  | dir (entries : List (List Char × FileTree))

namespace FileTree

def child? (name : List Char) : FileTree → Option FileTree
  | .file _ => none
  | .dir entries => (entries.find? (·.1 = name)).map Prod.snd

def find? : List (List Char) → FileTree → Option FileTree
  | [], tree => some tree
  | name :: names, tree => (tree.child? name).bind (find? names)

def content? : FileTree → Option (List Char)
  | .file content => content
  | .dir _ => none

/-- What can be read at a place in the tree. -/
def contentAt (tree : FileTree) (names : List (List Char)) : Option (List Char) :=
  (tree.find? names).bind content?

/-- `os.ReadFile` of an absolute path. -/
def readFile (tree : FileTree) (path : List Char) : Option (List Char) :=
  tree.contentAt (Path.names path)

theorem find?_append (front back : List (List Char)) (tree : FileTree) :
    tree.find? (front ++ back) = (tree.find? front).bind (find? back) := by
  induction front generalizing tree with
  | nil => rfl
  | cons name front induction =>
      rw [List.cons_append, find?, find?, Option.bind_assoc]
      exact Option.bind_congr fun child _ => induction child

mutual

/-- What `filepath.WalkDir` visits below the root, by names. -/
def visits : FileTree → List (List (List Char) × FileTree)
  | .file content => [([], .file content)]
  | .dir entries => ([], .dir entries) :: entryVisits entries

def entryVisits : List (List Char × FileTree) → List (List (List Char) × FileTree)
  | [] => []
  | (name, tree) :: entries =>
      (visits tree).map (fun visit => (name :: visit.1, visit.2)) ++ entryVisits entries

end

mutual

/-- No directory has two entries of one name. -/
def Distinct : FileTree → Prop
  | .file _ => True
  | .dir entries => (entries.map Prod.fst).Nodup ∧ EntriesDistinct entries

def EntriesDistinct : List (List Char × FileTree) → Prop
  | [] => True
  | (_, tree) :: entries => Distinct tree ∧ EntriesDistinct entries

end

/-- Every entry has a name that leads to it. -/
def Named (tree : FileTree) : Prop :=
  ∀ names node, tree.find? names = some node → ∀ name ∈ names, Path.Name name

end FileTree

end KubevirtMetrics.Data
