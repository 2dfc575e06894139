import KubevirtMetrics.Data.ParseFloat

namespace KubevirtMetrics.Data

namespace Exposition

/-! The text format of OpenMetrics: families of three types whose samples all have a
timestamp. -/

inductive MetricType
  | gauge
  | counter
  | histogram
  deriving DecidableEq

namespace MetricType

def text : MetricType → List Char
  | gauge => "gauge".toList
  | counter => "counter".toList
  | histogram => "histogram".toList

def read? (word : List Char) : Option MetricType :=
  [gauge, counter, histogram].find? fun type => type.text = word

/-- What the names of the samples add to the name of their family. -/
def suffixes : MetricType → List (List Char)
  | gauge => [[]]
  | counter => ["_total".toList]
  | histogram => ["_bucket".toList, "_sum".toList, "_count".toList]

def Admits (type : MetricType) (family name : List Char) : Prop :=
  ∃ suffix ∈ type.suffixes, name = family ++ suffix

instance (type : MetricType) (family name : List Char) :
    Decidable (type.Admits family name) :=
  List.decidableBEx _ _

theorem read?_text (type : MetricType) : read? type.text = some type := by
  cases type <;> rfl

end MetricType

structure Point where
  name : List Char
  labels : List (List Char × List Char)
  value : List Char
  millis : Int
  deriving DecidableEq

structure Family where
  name : List Char
  type : MetricType
  points : List Point

def nameChar (c : Char) : Bool := c.isAlphanum || c == '_' || c == ':'

/-! ### Label values -/

/-- A backslash before any other character stands for itself. -/
def unescape (c : Char) : List Char :=
  if c = 'n' then ['\n'] else if c = '"' ∨ c = '\\' then [c] else ['\\', c]

/-- The text up to the closing quote, and what follows it. -/
def readString : List Char → Option (List Char × List Char)
  | [] => none
  | c :: rest =>
      if c = '"' then some ([], rest)
      else if c = '\\' then
        match rest with
        | [] => none
        | e :: rest => (readString rest).map (Prod.map (unescape e ++ ·) id)
      else (readString rest).map (Prod.map (c :: ·) id)

/-- Inside quotes, `written` stands for `text`. -/
def Spells (written text : List Char) : Prop :=
  ∀ tail, readString (written ++ tail) = (readString tail).map (Prod.map (text ++ ·) id)

theorem readString_quote (rest : List Char) :
    readString ('"' :: rest) = some ([], rest) := by
  rw [readString.eq_def]
  exact if_pos rfl

theorem spells_nil : Spells [] [] := by
  intro tail
  rw [List.nil_append]
  cases readString tail with
  | none => rfl
  | some parts => rfl

theorem Spells.append {front back first second : List Char} (left : Spells front first)
    (right : Spells back second) : Spells (front ++ back) (first ++ second) := by
  intro tail
  rw [List.append_assoc, left, right, Option.map_map]
  congr 1
  funext parts
  exact Prod.ext (List.append_assoc first second parts.1).symm rfl

theorem spells_normal {c : Char} (quote : c ≠ '"') (backslash : c ≠ '\\') :
    Spells [c] [c] := by
  intro tail
  rw [List.singleton_append, readString.eq_def]
  dsimp only
  rw [if_neg quote, if_neg backslash]
  rfl

theorem spells_escape (e : Char) : Spells ['\\', e] (unescape e) := fun _ => rfl

theorem spells_normals {word : List Char} (normal : ∀ c ∈ word, c ≠ '"' ∧ c ≠ '\\') :
    Spells word word := by
  induction word with
  | nil => exact spells_nil
  | cons c word induction =>
      have first := normal c List.mem_cons_self
      exact (spells_normal first.1 first.2).append
        (induction fun d member => normal d (List.mem_cons_of_mem c member))

theorem spells_flatMap {α : Type*} {written text : α → List Char} {xs : List α}
    (each : ∀ x ∈ xs, Spells (written x) (text x)) :
    Spells (xs.flatMap written) (xs.flatMap text) := by
  induction xs with
  | nil => exact spells_nil
  | cons x xs induction =>
      rw [List.flatMap_cons, List.flatMap_cons]
      exact (each x List.mem_cons_self).append
        (induction fun y member => each y (List.mem_cons_of_mem x member))

theorem Spells.readString {written text : List Char} (spells : Spells written text)
    (rest : List Char) : readString (written ++ '"' :: rest) = some (text, rest) := by
  rw [spells, readString_quote]
  exact congrArg (fun front => some (front, rest)) (List.append_nil text)

/-! ### Samples -/

/-- A label, and what follows it. -/
def readLabel (text : List Char) : Option ((List Char × List Char) × List Char) :=
  let (key, rest) := text.span nameChar
  if rest.take 2 = ['=', '"'] then
    (readString (rest.drop 2)).map fun (value, rest) => ((key, value), rest)
  else none

/-- The labels up to the closing brace, and what follows it. -/
def readLabels : Nat → List Char → Option (List (List Char × List Char) × List Char)
  | 0, _ => none
  | fuel + 1, text =>
      match readLabel text with
      | some (label, c :: rest) =>
          if c = '}' then some ([label], rest)
          else if c = ',' then (readLabels fuel rest).map (Prod.map (label :: ·) id)
          else none
      | _ => none

def readLabelSet (text : List Char) : Option (List (List Char × List Char) × List Char) :=
  match text with
  | '{' :: rest => readLabels rest.length rest
  | rest => some ([], rest)

/-- Timestamps are in seconds. -/
def readSample (line : List Char) : Option Point :=
  let (name, rest) := line.span nameChar
  if name = [] then none
  else
    match readLabelSet rest with
    | some (labels, ' ' :: rest) =>
        match Text.cut? ' ' rest with
        | some (value, time) =>
            (Text.readFloat? time).map fun seconds =>
              ⟨name, labels, value, ⌊seconds * 1000⌋⟩
        | none => none
    | _ => none

theorem span_nameChar {word rest : List Char} (named : word.all nameChar = true)
    (stops : ∀ c ∈ rest.head?, nameChar c = false) :
    (word ++ rest).span nameChar = (word, rest) := by
  rw [List.all_eq_true] at named
  rw [List.span_eq_takeWhile_dropWhile, List.takeWhile_append_of_pos named,
    List.dropWhile_append_of_pos named]
  cases rest with
  | nil => rw [List.takeWhile_nil, List.dropWhile_nil, List.append_nil]
  | cons c rest =>
      have stop : ¬nameChar c = true := Bool.eq_false_iff.mp (stops c rfl)
      rw [List.takeWhile_cons_of_neg stop, List.dropWhile_cons_of_neg stop,
        List.append_nil]

section Labels

variable {α : Type*} {key written text : α → List Char}

def writtenLabel (key written : α → List Char) (label : α) : List Char :=
  key label ++ '=' :: '"' :: (written label ++ ['"'])

theorem readLabel_written {label : α} (named : (key label).all nameChar = true)
    (spells : Spells (written label) (text label)) (rest : List Char) :
    readLabel (writtenLabel key written label ++ rest) =
      some ((key label, text label), rest) := by
  have shape : writtenLabel key written label ++ rest =
      key label ++ '=' :: '"' :: (written label ++ '"' :: rest) := by
    simp [writtenLabel]
  have split :=
    @span_nameChar (key label) ('=' :: '"' :: (written label ++ '"' :: rest)) named
    (fun c first => Option.some.inj first ▸ rfl)
  rw [shape, readLabel, split]
  change (readString (written label ++ '"' :: rest)).map _ = _
  rw [spells.readString]
  rfl

theorem readLabels_written {labels : List α} (nonempty : labels ≠ [])
    (keys : ∀ label ∈ labels, (key label).all nameChar = true)
    (spells : ∀ label ∈ labels, Spells (written label) (text label))
    {fuel : Nat} (enough : labels.length ≤ fuel) (rest : List Char) :
    readLabels fuel
        ([','].intercalate (labels.map (writtenLabel key written)) ++ '}' :: rest) =
      some (labels.map fun label => (key label, text label), rest) := by
  induction labels generalizing fuel with
  | nil => exact absurd rfl nonempty
  | cons label labels induction =>
      obtain ⟨fuel, rfl⟩ : ∃ less, fuel = less + 1 :=
        Nat.exists_eq_add_one_of_ne_zero (by simp at enough; omega)
      have first := readLabel_written (keys label List.mem_cons_self)
        (spells label List.mem_cons_self)
      cases labels with
      | nil =>
          rw [List.map_singleton, List.intercalate_singleton, readLabels, first]
          rfl
      | cons next labels =>
          have later := induction (List.cons_ne_nil next labels)
            (fun label member => keys label (List.mem_cons_of_mem _ member))
            (fun label member => spells label (List.mem_cons_of_mem _ member))
            (Nat.le_of_succ_le_succ enough)
          rw [List.map_cons, List.map_cons, List.intercalate_cons_cons, ← List.map_cons,
            List.append_assoc, List.append_assoc, List.singleton_append, readLabels,
            first]
          change (readLabels fuel _).map _ = _
          rw [later]
          rfl

/-- No braces around no labels. -/
def writtenLabels (key written : α → List Char) (labels : List α) : List Char :=
  let text := [','].intercalate (labels.map (writtenLabel key written))
  if text = [] then [] else '{' :: (text ++ ['}'])

theorem length_le_intercalate (labels : List α) :
    labels.length ≤ ([','].intercalate
      (labels.map (writtenLabel key written))).length := by
  induction labels with
  | nil => exact Nat.le_refl 0
  | cons label labels induction =>
      have marked : 1 ≤ (writtenLabel key written label).length := by
        simp [writtenLabel]
        omega
      cases labels with
      | nil =>
          rw [List.map_singleton, List.intercalate_singleton]
          exact marked
      | cons next labels =>
          rw [List.map_cons, List.map_cons, List.intercalate_cons_cons, ← List.map_cons,
            List.length_append, List.length_append]
          simp only [List.length_cons] at induction ⊢
          omega

theorem readLabelSet_written {labels : List α}
    (keys : ∀ label ∈ labels, (key label).all nameChar = true)
    (spells : ∀ label ∈ labels, Spells (written label) (text label)) (rest : List Char) :
    readLabelSet (writtenLabels key written labels ++ ' ' :: rest) =
      some (labels.map fun label => (key label, text label), ' ' :: rest) := by
  by_cases empty : labels = []
  · subst empty
    rfl
  · have count := @length_le_intercalate _ key written labels
    have nonempty : [','].intercalate (labels.map (writtenLabel key written)) ≠ [] := by
      have some_label := List.length_pos_iff.mpr empty
      exact List.length_pos_iff.mp (by omega)
    rw [writtenLabels, if_neg nonempty, List.cons_append, List.append_assoc]
    exact readLabels_written empty keys spells (by simp; omega) (' ' :: rest)

theorem readSample_written {name value time : List Char} {labels : List α} {seconds : ℚ}
    (nonempty : name ≠ []) (named : name.all nameChar = true)
    (keys : ∀ label ∈ labels, (key label).all nameChar = true)
    (spells : ∀ label ∈ labels, Spells (written label) (text label))
    (token : ∀ c ∈ value, c ≠ ' ') (timed : Text.readFloat? time = some seconds) :
    readSample (name ++ (writtenLabels key written labels ++ ' ' ::
      (value ++ ' ' :: time))) =
      some ⟨name, labels.map fun label => (key label, text label), value,
        ⌊seconds * 1000⌋⟩ := by
  have stops : ∀ c ∈ (writtenLabels key written labels ++ ' ' ::
      (value ++ ' ' :: time)).head?, nameChar c = false := by
    unfold writtenLabels
    dsimp only
    split
    next => exact fun c first => Option.some.inj first ▸ rfl
    next => exact fun c first => Option.some.inj first ▸ rfl
  rw [readSample, span_nameChar named stops]
  dsimp only
  rw [if_neg nonempty, readLabelSet_written keys spells]
  change (match Text.cut? ' ' (value ++ ' ' :: time) with
    | some (value, time) => (Text.readFloat? time).map fun seconds => _
    | none => none) = _
  rw [Text.cut?_append time token]
  dsimp only
  rw [timed]
  rfl

end Labels

/-! ### Documents -/

def eof : List Char := "# EOF".toList

def typeMark : List Char := "# TYPE ".toList

def readType (line : List Char) : Option Family :=
  match Text.cut? ' ' (line.drop typeMark.length) with
  | some (family, word) =>
      if family = [] ∨ family.all nameChar = false then none
      else (MetricType.read? word).map fun type => ⟨family, type, []⟩
  | none => none

/-- One line; the family that is being read is the first one. -/
def readLine (families : List Family) (line : List Char) : Option (List Family) :=
  if typeMark.isPrefixOf line then
    match readType line with
    | some family =>
        if family.name ∈ families.map Family.name then none else some (family :: families)
    | none => none
  else
    match families, readSample line with
    | ⟨family, type, points⟩ :: others, some point =>
        if type.Admits family point.name then
          some (⟨family, type, points ++ [point]⟩ :: others)
        else none
    | _, _ => none

/-- A document ends with the mark of its end. -/
def readLines : List Family → List (List Char) → Option (List Family)
  | _, [] => none
  | families, line :: rest =>
      if line = eof then if rest = [[]] then some families else none
      else
        match readLine families line with
        | some families => readLines families rest
        | none => none

def readDocument (text : List Char) : Option (List Family) :=
  readLines [] (text.splitOn '\n')

def typeLine (family : List Char) (type : MetricType) : List Char :=
  typeMark ++ (family ++ ' ' :: type.text)

theorem readType_typeLine {family : List Char} (named : family.all nameChar = true)
    (type : MetricType) :
    readType (typeLine family type) =
      if family = [] then none else some ⟨family, type, []⟩ := by
  have apart : ∀ c ∈ family, c ≠ ' ' := by
    rintro c member rfl
    exact absurd (List.all_eq_true.mp named ' ' member) (by decide)
  rw [readType, typeLine, List.drop_left, Text.cut?_append type.text apart]
  dsimp only
  by_cases empty : family = []
  · rw [if_pos (.inl empty), if_pos empty]
  · rw [if_neg (by simp [empty, named]), if_neg empty, MetricType.read?_text]
    rfl

theorem readLine_typeLine {family : List Char} (named : family.all nameChar = true)
    (type : MetricType) {families : List Family}
    (fresh : family ∉ families.map Family.name) :
    readLine families (typeLine family type) =
      if family = [] then none else some (⟨family, type, []⟩ :: families) := by
  have marked : typeMark.isPrefixOf (typeLine family type) = true :=
    List.isPrefixOf_iff_prefix.mpr (List.prefix_append typeMark _)
  unfold readLine
  rw [if_pos marked, readType_typeLine named]
  by_cases empty : family = []
  · rw [if_pos empty, if_pos empty]
  · rw [if_neg empty, if_neg empty]
    exact if_neg fresh

section Blocks

variable {β : Type*} {line : β → List Char} {point : β → Point}

/-- The line is that of a sample. -/
structure Writes (line : β → List Char) (point : β → Point) (x : β) : Prop where
  reads : readSample (line x) = some (point x)
  unmarked : ∀ c ∈ (line x).head?, c ≠ '#'

theorem Writes.readLine {x : β} (writes : Writes line point x) (family : List Char)
    (type : MetricType) (points : List Point) (others : List Family) :
    readLine (⟨family, type, points⟩ :: others) (line x) =
      if type.Admits family (point x).name then
        some (⟨family, type, points ++ [point x]⟩ :: others)
      else none := by
  have plain : ¬typeMark.isPrefixOf (line x) = true := by
    intro mark
    obtain ⟨rest, same⟩ := List.isPrefixOf_iff_prefix.mp mark
    exact writes.unmarked '#' (same ▸ rfl) rfl
  unfold Exposition.readLine
  rw [if_neg plain, writes.reads]

theorem Writes.ne_eof {x : β} (writes : Writes line point x) : line x ≠ eof := fun same =>
  writes.unmarked '#' (same ▸ rfl) rfl

theorem readLines_samples {xs : List β} (writes : ∀ x ∈ xs, Writes line point x)
    (family : List Char) (type : MetricType) (points : List Point)
    (others result : List Family) (rest : List (List Char)) :
    readLines (⟨family, type, points⟩ :: others) (xs.map line ++ rest) = some result ↔
      (∀ x ∈ xs, type.Admits family (point x).name) ∧
        readLines (⟨family, type, points ++ xs.map point⟩ :: others) rest =
          some result := by
  induction xs generalizing points with
  | nil => simp
  | cons x xs induction =>
      have first := writes x List.mem_cons_self
      rw [List.map_cons, List.cons_append, readLines, if_neg first.ne_eof, first.readLine]
      by_cases admitted : type.Admits family (point x).name
      · rw [if_pos admitted]
        dsimp only
        rw [induction (fun y member => writes y (List.mem_cons_of_mem x member)),
          List.append_assoc, List.forall_mem_cons, and_iff_right admitted]
        rfl
      · rw [if_neg admitted, List.forall_mem_cons]
        simp [admitted]

/-- The lines of a family. -/
structure Block (β : Type*) where
  name : List Char
  type : MetricType
  samples : List β

namespace Block

def lines (line : β → List Char) (block : Block β) : List (List Char) :=
  typeLine block.name block.type :: block.samples.map line

def family (point : β → Point) (block : Block β) : Family :=
  ⟨block.name, block.type, block.samples.map point⟩

def Readable (point : β → Point) (block : Block β) : Prop :=
  block.name ≠ [] ∧ ∀ x ∈ block.samples, block.type.Admits block.name (point x).name

end Block

theorem typeLine_ne_eof (family : List Char) (type : MetricType) :
    typeLine family type ≠ eof :=
  nofun

theorem readLines_block {block : Block β} (named : block.name.all nameChar = true)
    (writes : ∀ x ∈ block.samples, Writes line point x) {families result : List Family}
    (fresh : block.name ∉ families.map Family.name) (rest : List (List Char)) :
    readLines families (block.lines line ++ rest) = some result ↔
      block.Readable point ∧
        readLines (block.family point :: families) rest = some result := by
  rw [Block.lines, List.cons_append, readLines, if_neg (typeLine_ne_eof _ _),
    readLine_typeLine named block.type fresh, Block.Readable]
  by_cases empty : block.name = []
  · rw [if_pos empty]
    simp [empty]
  · rw [if_neg empty]
    dsimp only
    rw [readLines_samples writes, List.nil_append, and_assoc, and_iff_right empty]
    rfl

theorem readLines_blocks {blocks : List (Block β)}
    (named : ∀ block ∈ blocks, block.name.all nameChar = true)
    (writes : ∀ block ∈ blocks, ∀ x ∈ block.samples, Writes line point x)
    {families result : List Family}
    (distinct : (blocks.map Block.name).Nodup)
    (fresh : ∀ block ∈ blocks, block.name ∉ families.map Family.name) :
    readLines families (blocks.flatMap (Block.lines line) ++ [eof, []]) = some result ↔
      (∀ block ∈ blocks, block.Readable point) ∧
        result = (blocks.map (Block.family point)).reverse ++ families := by
  induction blocks generalizing families with
  | nil =>
      change some families = some result ↔ _
      simp [eq_comm]
  | cons block blocks induction =>
      rw [List.map_cons, List.nodup_cons] at distinct
      have later : ∀ other ∈ blocks,
          other.name ∉ (block.family point :: families).map Family.name := by
        intro other member
        rw [List.map_cons, List.mem_cons, not_or]
        refine ⟨?_, fresh other (List.mem_cons_of_mem block member)⟩
        intro same
        exact distinct.1 (List.mem_map.mpr ⟨other, member, same⟩)
      rw [List.flatMap_cons, List.append_assoc,
        readLines_block (named block List.mem_cons_self) (writes block List.mem_cons_self)
          (fresh block List.mem_cons_self),
        induction (fun other member => named other (List.mem_cons_of_mem block member))
          (fun other member => writes other (List.mem_cons_of_mem block member))
          distinct.2 later,
        List.forall_mem_cons, and_assoc, List.map_cons, List.reverse_cons,
        List.append_assoc]
      rfl

end Blocks

/-- Lines and the mark of the end, as they are joined by line feeds. -/
def document (lines : List (List Char)) : List Char :=
  ['\n'].intercalate lines ++ '\n' :: (eof ++ ['\n'])

theorem readDocument_nil : readDocument (document []) = none := rfl

theorem readDocument_document {lines : List (List Char)} (nonempty : lines ≠ [])
    (single : ∀ line ∈ lines, '\n' ∉ line) :
    readDocument (document lines) = readLines [] (lines ++ [eof, []]) := by
  have front : (['\n'].intercalate lines).splitOn '\n' = lines :=
    List.splitOn_intercalate '\n' single nonempty
  have back : (eof ++ ['\n']).splitOn '\n' = [eof, []] := by decide
  have split : (document lines).splitOn '\n' = lines ++ [eof, []] := by
    rw [document, ← back]
    nth_rewrite 2 [← front]
    exact List.splitOnP_append_cons _ _ (by decide)
  rw [readDocument, split]

end Exposition

end KubevirtMetrics.Data
