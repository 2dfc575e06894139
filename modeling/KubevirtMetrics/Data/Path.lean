import KubevirtMetrics.Data.Lists
import Mathlib.Tactic

namespace KubevirtMetrics.Data

namespace Path

/-! Lexical paths of Unix: `filepath.Clean` and `filepath.Join`. -/

/-- The names so far, the last one on top, after one more segment. -/
def enter (rooted : Bool) (stack : List (List Char)) (word : List Char) :
    List (List Char) :=
  if word = [] ∨ word = ['.'] then stack
  else if word = ['.', '.'] then
    match stack with
    | [] => if rooted then [] else [word]
    | top :: below => if top = ['.', '.'] then word :: stack else below
  else word :: stack

def clean (path : List Char) : List Char :=
  let rooted := path.head? == some '/'
  let names := ((path.splitOn '/').foldl (enter rooted) []).reverse
  if rooted then '/' :: ['/'].intercalate names
  else if names = [] then ['.']
  else ['/'].intercalate names

def join (elements : List (List Char)) : List Char :=
  match elements.dropWhile List.isEmpty with
  | [] => []
  | first :: others => clean (['/'].intercalate (first :: others))

/-- A segment that leads one directory down. -/
structure Name (word : List Char) : Prop where
  nonempty : word ≠ []
  solid : '/' ∉ word
  ne_dot : word ≠ ['.']
  ne_dotdot : word ≠ ['.', '.']

def absolute (words : List (List Char)) : List Char := '/' :: ['/'].intercalate words

theorem absolute_ne_nil (words : List (List Char)) : absolute words ≠ [] :=
  List.cons_ne_nil _ _

theorem splitOn_append_slash (front back : List Char) :
    (front ++ '/' :: back).splitOn '/' = front.splitOn '/' ++ back.splitOn '/' :=
  List.splitOnP_append_cons front back (by decide)

section Enter

variable {rooted : Bool} {stack : List (List Char)} {word : List Char}

theorem enter_nil (rooted : Bool) (stack : List (List Char)) :
    enter rooted stack [] = stack := if_pos (.inl rfl)

theorem enter_dot (rooted : Bool) (stack : List (List Char)) :
    enter rooted stack ['.'] = stack := if_pos (.inr rfl)

theorem enter_name (name : Name word) : enter rooted stack word = word :: stack := by
  unfold enter
  rw [if_neg (not_or_intro name.nonempty name.ne_dot), if_neg name.ne_dotdot]

theorem enter_dotdot (names : ∀ name ∈ stack, Name name) :
    enter true stack ['.', '.'] = stack.tail := by
  cases stack with
  | nil => rfl
  | cons top below => exact if_neg (names top List.mem_cons_self).ne_dotdot

theorem foldl_enter_names {words : List (List Char)} (names : ∀ word ∈ words, Name word) :
    words.foldl (enter rooted) stack = words.reverse ++ stack := by
  induction words generalizing stack with
  | nil => rfl
  | cons word words induction =>
      rw [List.foldl_cons, enter_name (names word List.mem_cons_self),
        induction fun other member => names other (List.mem_cons_of_mem word member),
        List.reverse_cons, List.append_assoc]
      rfl

theorem foldl_enter_dotdots (names : ∀ name ∈ stack, Name name) (count : Nat) :
    (List.replicate count ['.', '.']).foldl (enter true) stack = stack.drop count := by
  induction count generalizing stack with
  | zero => rfl
  | succ count induction =>
      rw [List.replicate_succ, List.foldl_cons, enter_dotdot names,
        induction fun name member => names name (List.mem_of_mem_tail member),
        List.drop_tail]

theorem foldl_enter_absolute {words : List (List Char)}
    (solid : ∀ word ∈ words, '/' ∉ word) :
    ((absolute words).splitOn '/').foldl (enter rooted) stack =
      words.foldl (enter rooted) stack := by
  have split : (absolute words).splitOn '/' = [] ::
      (['/'].intercalate words).splitOn '/' :=
    splitOn_append_slash [] _
  rw [split, List.foldl_cons, enter_nil]
  by_cases empty : words = []
  · subst empty
    exact enter_nil rooted stack
  · rw [List.splitOn_intercalate '/' solid empty]

end Enter

variable {words more : List (List Char)}

theorem clean_absolute (solid : ∀ word ∈ words, '/' ∉ word) :
    clean (absolute words) = absolute (words.foldl (enter true) []).reverse := by
  have entered := @foldl_enter_absolute true [] words solid
  exact congrArg (fun stack => absolute stack.reverse) entered

theorem clean_absolute_names (names : ∀ word ∈ words, Name word) :
    clean (absolute words) = absolute words := by
  rw [clean_absolute fun word member =>
    (names word member).solid, foldl_enter_names names,
    List.append_nil, List.reverse_reverse]

theorem join_absolute (solid : ∀ word ∈ words, '/' ∉ word)
    (moreSolid : ∀ word ∈ more, '/' ∉ word) :
    join [absolute words, absolute more] =
      absolute ((words ++ more).foldl (enter true) []).reverse := by
  have joined : join [absolute words, absolute more] =
      clean (absolute words ++ '/' :: absolute more) := by
    change clean (['/'].intercalate [absolute words, absolute more]) = _
    rw [List.intercalate_cons_cons, List.intercalate_singleton, List.append_assoc]
    rfl
  have entered :
      ((absolute words ++ '/' :: absolute more).splitOn '/').foldl (enter true) [] =
        (words ++ more).foldl (enter true) [] := by
    rw [splitOn_append_slash, List.foldl_append, foldl_enter_absolute solid,
      foldl_enter_absolute moreSolid, List.foldl_append]
  rw [joined]
  exact congrArg (fun stack => absolute stack.reverse) entered

end Path

end KubevirtMetrics.Data
