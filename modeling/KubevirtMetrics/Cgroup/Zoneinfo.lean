import Mathlib.Data.String.Basic
import KubevirtMetrics.Cgroup.ProcFile
import KubevirtMetrics.Data.Lists
import KubevirtMetrics.Data.Regexp
import KubevirtMetrics.Data.Table

namespace KubevirtMetrics.Cgroup

open Data

/-! `zoneinfo.go`. -/

def zonePageSize : Nat := 4096

/-- The regular expression `^Node\s+(\d+),\s+zone\s+(\S+)`. -/
def nodeZoneRE : Regexp :=
  .concat [.literal "Node".toList, .plus true Regexp.space,
    .group (.plus true Char.isDigit), .literal ",".toList,
    .plus true Regexp.space, .literal "zone".toList, .plus true Regexp.space,
    .group (.plus true fun c => !Regexp.space c)]

structure NumaZoneMemory where
  numa : String
  zone : String
  presentBytes : UInt64
  freeBytes : UInt64
  deriving DecidableEq

structure NumaSlabReclaimable where
  numa : String
  reclaimableBytes : UInt64
  deriving DecidableEq

structure ZoneinfoSnapshot where
  zones : List NumaZoneMemory
  slabReclaimable : List NumaSlabReclaimable
  deriving DecidableEq

inductive ZoneinfoError
  | open_
  | present (numa zone : String)
  | pagesFree (numa zone : String)
  | nrFreePages (numa zone : String)
  | nrSlabReclaimable (numa : String)
  | scan
  | noEntries
  deriving DecidableEq

def zoneBytesFromPages (pages : Nat) : UInt64 :=
  UInt64.ofNat pages * UInt64.ofNat zonePageSize

/-- The variables of the loop over the lines. -/
structure ZoneinfoScan where
  results : List NumaZoneMemory
  current : Option NumaZoneMemory
  inNodeStats : Bool
  slabByNUMA : Table String UInt64

namespace ZoneinfoScan

/-- The results with the current section, if its zone has pages. -/
def flush (s : ZoneinfoScan) : List NumaZoneMemory :=
  match s.current with
  | none => s.results
  | some current =>
      if current.presentBytes > 0 then s.results ++ [current] else s.results

/-- The cases of the `switch` on the words of a line. -/
def statistic (s : ZoneinfoScan) (current : NumaZoneMemory)
    (parts : List (List Char)) : Except ZoneinfoError ZoneinfoScan :=
  match parts with
  | key :: value :: more =>
      if key = "present".toList then
        match Text.parseUint? 64 value with
        | none => .error (.present current.numa current.zone)
        | some pages => .ok { s with
            current := some { current with
              presentBytes := zoneBytesFromPages pages } }
      else if key = "pages".toList ∧ more ≠ [] ∧ value = "free".toList then
        match Text.parseUint? 64 (more.headD []) with
        | none => .error (.pagesFree current.numa current.zone)
        | some pages => .ok { s with
            inNodeStats := false
            current := some { current with
              freeBytes := zoneBytesFromPages pages } }
      else if key = "nr_free_pages".toList then
        match Text.parseUint? 64 value with
        | none => .error (.nrFreePages current.numa current.zone)
        | some pages => .ok { s with
            current := some { current with
              freeBytes := zoneBytesFromPages pages } }
      else if s.inNodeStats ∧ key = "nr_slab_reclaimable".toList then
        match Text.parseUint? 64 value with
        | none => .error (.nrSlabReclaimable current.numa)
        | some pages => .ok { s with
            slabByNUMA :=
              s.slabByNUMA.insert current.numa (zoneBytesFromPages pages) }
      else .ok s
  | _ => .ok s

/-- The body of the loop over the lines. -/
def line (s : ZoneinfoScan) (line : List Char) :
    Except ZoneinfoError ZoneinfoScan :=
  match nodeZoneRE.matchAtStart line with
  | some [numa, zone] => .ok { s with
      results := s.flush
      inNodeStats := false
      current := some ⟨String.ofList numa, String.ofList zone, 0, 0⟩ }
  | _ =>
      match s.current with
      | none => .ok s
      | some current =>
          let trimmed := Text.trimSpace line
          if trimmed = [] then .ok s
          else if "per-node stats".toList.isPrefixOf trimmed then
            .ok { s with inNodeStats := true }
          else s.statistic current (Text.fields trimmed)

end ZoneinfoScan

/-- The order of the zones in a snapshot. -/
def NumaZoneMemory.less (a b : NumaZoneMemory) : Bool :=
  if a.numa ≠ b.numa then a.numa < b.numa else a.zone < b.zone

/-- What is returned after the loop; `order` is the order in which `slabByNUMA` is
iterated. -/
def ZoneinfoScan.snapshot (s : ZoneinfoScan) (order : List String) :
    ZoneinfoSnapshot where
  zones := s.flush.mergeSort fun a b => !b.less a
  slabReclaimable := (order.filterMap fun numa =>
    (s.slabByNUMA.lookup numa).map fun bytes => ⟨numa, bytes⟩).mergeSort
      fun a b => !(b.numa < a.numa)

def readZoneinfo (content : Option (List Char)) (order : List String) :
    Except ZoneinfoError ZoneinfoSnapshot :=
  match content with
  | none => .error .open_
  | some text => do
      let (lines, complete) := scanned text
      let s ← lines.foldlM ZoneinfoScan.line ⟨[], none, false, ∅⟩
      if !complete then throw .scan
      if s.flush.isEmpty then throw .noEntries
      return s.snapshot order

/-! ### The layout of the file -/

structure ZoneSection where
  numa : Nat
  zone : List Char
  present : Nat
  free : Nat
  /-- The reclaimable slab pages of the per-node block, where the section has one. -/
  slab : Option Nat
  named : zone ≠ [] := by decide
  solid : zone.all (!Regexp.space ·) = true := by decide
  presentSmall : present < 2 ^ 52 := by decide
  freeSmall : free < 2 ^ 52 := by decide
  slabSmall : ∀ pages ∈ slab, pages < 2 ^ 52 := by decide

namespace ZoneSection

def node (sec : ZoneSection) : String := String.ofList (Text.numeral sec.numa)

def zoneName (sec : ZoneSection) : String := String.ofList sec.zone

structure Blank (text : List Char) : Prop where
  nonempty : text ≠ []
  spaces : text.all Regexp.space = true

/-- `Node 0, zone   Normal`, with any white space between the words. -/
def HeadedBy (sec : ZoneSection) (line : ProcLine) : Prop :=
  ∃ first second third : List Char, Blank first ∧ Blank second ∧ Blank third ∧
    line.text = "Node".toList ++ (first ++ (Text.numeral sec.numa ++
      (",".toList ++ (second ++ ("zone".toList ++ (third ++ sec.zone))))))

end ZoneSection

/-- A line that is none of those that the reader looks for. -/
structure ProcLine.OtherStatistic (line : ProcLine) : Prop where
  notHeader : nodeZoneRE.matchAtStart line.text = none
  notHeading : ¬ "per-node stats".toList <+: Text.trimSpace line.text
  notPresent : (Text.fields line.text).head? ≠ some "present".toList
  notFree : ¬ ["pages".toList, "free".toList] <+: Text.fields line.text
  notFreePages : (Text.fields line.text).head? ≠ some "nr_free_pages".toList
  notSlab : (Text.fields line.text).head? ≠ some "nr_slab_reclaimable".toList

/-- How far a section is read: after its header, in the per-node block before and
after its reclaimable slab, after the free pages, and after the present pages. -/
inductive ZoneStage
  | opened
  | block
  | counted
  | freed
  | listed
  deriving DecidableEq

def ZoneStage.inBlock : ZoneStage → Bool
  | .block | .counted => true
  | .opened | .freed | .listed => false

/-- A line of a section, and the stage after it. -/
inductive ZoneLine (sec : ZoneSection) : ZoneStage → ProcLine → ZoneStage → Prop
  | statistic {stage : ZoneStage} {line : ProcLine} (other : line.OtherStatistic) :
      ZoneLine sec stage line stage
  | outerSlab {stage : ZoneStage} {line : ProcLine}
      (outside : stage.inBlock = false)
      (slab : (Text.fields line.text).head? = some "nr_slab_reclaimable".toList) :
      ZoneLine sec stage line stage
  | perNode {line : ProcLine} (present : sec.slab ≠ none)
      (heading : "per-node stats".toList <+: Text.trimSpace line.text) :
      ZoneLine sec .opened line .block
  | slab {pages : Nat} {line : ProcLine} (present : sec.slab = some pages)
      (printed : Text.fields line.text =
        ["nr_slab_reclaimable".toList, Text.numeral pages]) :
      ZoneLine sec .block line .counted
  | pagesFree {stage : ZoneStage} {line : ProcLine}
      (before : stage = .counted ∨ stage = .opened ∧ sec.slab = none)
      (printed : Text.fields line.text =
        ["pages".toList, "free".toList, Text.numeral sec.free]) :
      ZoneLine sec stage line .freed
  | present {line : ProcLine}
      (printed : Text.fields line.text =
        ["present".toList, Text.numeral sec.present]) :
      ZoneLine sec .freed line .listed
  | nrFreePages {stage : ZoneStage} {line : ProcLine}
      (after : stage = .freed ∨ stage = .listed)
      (printed : Text.fields line.text =
        ["nr_free_pages".toList, Text.numeral sec.free]) :
      ZoneLine sec stage line stage

/-- The ways to print what follows the header of a section. -/
inductive ZoneBody (sec : ZoneSection) : ZoneStage → List ProcLine → Prop
  | done : ZoneBody sec .listed []
  | line {stage next : ZoneStage} {line : ProcLine} {lines : List ProcLine}
      (first : ZoneLine sec stage line next) (rest : ZoneBody sec next lines) :
      ZoneBody sec stage (line :: lines)

/-- The ways to print sections as a file. -/
inductive ZoneFile : List ZoneSection → List ProcLine → Prop
  | nil : ZoneFile [] []
  | cons {sec : ZoneSection} {sections : List ZoneSection} {header : ProcLine}
      {body lines : List ProcLine} (headed : sec.HeadedBy header)
      (printed : ZoneBody sec .opened body) (rest : ZoneFile sections lines) :
      ZoneFile (sec :: sections) (header :: body ++ lines)

/-! ### Headers -/

theorem isSpace_of_space {c : Char} (space : Regexp.space c = true) :
    Text.isSpace c = true := by
  simp only [Regexp.space, List.contains_eq_mem, decide_eq_true_eq, List.mem_cons,
    List.not_mem_nil, or_false] at space
  rcases space with rfl | rfl | rfl | rfl | rfl <;> rfl

theorem head?_of_header {text : List Char} {groups : List (List Char)}
    (header : nodeZoneRE.matchAtStart text = some groups) :
    (Text.fields text).head? = some "Node".toList := by
  obtain ⟨run, member, -⟩ := Regexp.exists_of_matchAtStart header
  obtain ⟨front, inLiteral, back, inRest, rfl⟩ := Regexp.exists_of_mem_seq member
  obtain ⟨spaces, inSpaces, -⟩ := Regexp.exists_of_mem_seq inRest
  obtain ⟨one, inOne, -⟩ := Regexp.exists_of_mem_seq inSpaces
  obtain ⟨c, space, rest⟩ := Regexp.text_of_mem_one inOne
  have text := Regexp.text_of_mem_literal (by decide) inLiteral
  rw [text, rest, Text.fields_word (by decide) (by decide)
    (isSpace_of_space space)]
  rfl

theorem not_header {line : ProcLine} {word : List Char}
    (first : (Text.fields line.text).head? = some word)
    (other : word ≠ "Node".toList) : nodeZoneRE.matchAtStart line.text = none := by
  cases header : nodeZoneRE.matchAtStart line.text with
  | none => rfl
  | some groups =>
      rw [head?_of_header header] at first
      exact absurd (Option.some.inj first).symm other

namespace ZoneSection

theorem space_of_isDigit {c : Char} (digit : c.isDigit = true) :
    Regexp.space c = false := by
  cases space : Regexp.space c with
  | false => rfl
  | true =>
      simp only [Regexp.space, List.contains_eq_mem, decide_eq_true_eq,
        List.mem_cons, List.not_mem_nil, or_false] at space
      rcases space with rfl | rfl | rfl | rfl | rfl <;> cases digit

theorem prefers_blank {blank rest : List Char} (isBlank : Blank blank)
    (stops : ∀ c ∈ rest.head?, Regexp.space c = false) :
    (Regexp.plus true Regexp.space).Prefers (blank ++ rest) ⟨[], rest⟩ :=
  Regexp.prefers_plus isBlank.nonempty (List.all_eq_true.mp isBlank.spaces) stops

/-- A word that is not empty stops white space before it. -/
theorem stops_of_word {word : List Char} (nonempty : word ≠ [])
    (solid : word.all (!Regexp.space ·) = true) (rest : List Char) :
    ∀ c ∈ (word ++ rest).head?, Regexp.space c = false := by
  intro c first
  cases word with
  | nil => exact absurd rfl nonempty
  | cons d word =>
      obtain rfl : d = c := Option.some.inj first
      simpa using List.all_eq_true.mp solid d List.mem_cons_self

theorem matchAtStart_of_headedBy {sec : ZoneSection} {line : ProcLine}
    (headed : sec.HeadedBy line) :
    nodeZoneRE.matchAtStart line.text =
      some [Text.numeral sec.numa, sec.zone] := by
  obtain ⟨first, second, third, blank, blank', blank'', text⟩ := headed
  have solid : (Text.numeral sec.numa).all (!Regexp.space ·) = true := by
    rw [List.all_eq_true]
    intro c member
    rw [space_of_isDigit (Text.isDigit_of_mem_numeral member)]
    rfl
  have numa : (Regexp.plus true Char.isDigit).Prefers (Text.numeral sec.numa ++
      (",".toList ++ (second ++ ("zone".toList ++ (third ++ sec.zone)))))
      ⟨[], ",".toList ++ (second ++ ("zone".toList ++ (third ++ sec.zone)))⟩ :=
    Regexp.prefers_plus (Text.numeral_ne_nil _)
      (fun c => Text.isDigit_of_mem_numeral) (by simp)
  have zone : (Regexp.plus true fun c => !Regexp.space c).Prefers
      (sec.zone ++ []) ⟨[], []⟩ :=
    Regexp.prefers_plus sec.named (List.all_eq_true.mp sec.solid) (by simp)
  have stop := stops_of_word sec.named sec.solid []
  have word := Regexp.prefers_group zone
  rw [List.append_nil] at stop word
  have found : nodeZoneRE.Prefers line.text
      ⟨[Text.numeral sec.numa, sec.zone], []⟩ := by
    rw [text]
    refine Regexp.prefers_seq (Regexp.prefers_literal _ _) ?_
    refine Regexp.prefers_seq (prefers_blank blank
      (stops_of_word (Text.numeral_ne_nil _) solid _)) ?_
    refine Regexp.prefers_seq (Regexp.prefers_group numa) ?_
    refine Regexp.prefers_seq (Regexp.prefers_literal _ _) ?_
    refine Regexp.prefers_seq (prefers_blank blank'
      (stops_of_word (by decide) (by decide) _)) ?_
    refine Regexp.prefers_seq (Regexp.prefers_literal _ _) ?_
    exact Regexp.prefers_seq (prefers_blank blank'' stop) word
  exact Regexp.matchAtStart_eq found

end ZoneSection

/-! ### One line -/

namespace ZoneinfoScan

theorem line_of_header (s : ZoneinfoScan) {sec : ZoneSection} {line : ProcLine}
    (headed : sec.HeadedBy line) :
    s.line line.text = .ok { s with
      results := s.flush
      inNodeStats := false
      current := some ⟨sec.node, sec.zoneName, 0, 0⟩ } := by
  rw [ZoneinfoScan.line, ZoneSection.matchAtStart_of_headedBy headed]
  rfl

theorem line_of_statistic {s : ZoneinfoScan} {current : NumaZoneMemory}
    (here : s.current = some current) {line : ProcLine}
    (notHeader : nodeZoneRE.matchAtStart line.text = none)
    (notHeading : ¬ "per-node stats".toList <+: Text.trimSpace line.text) :
    s.line line.text = s.statistic current (Text.fields line.text) := by
  rw [← List.isPrefixOf_iff_prefix] at notHeading
  rw [ZoneinfoScan.line, notHeader, here, ← Text.fields_trimSpace]
  dsimp only
  by_cases empty : Text.trimSpace line.text = []
  · rw [if_pos empty, empty]
    rfl
  · rw [if_neg empty, if_neg notHeading]

theorem head?_of_heading {text : List Char}
    (heading : "per-node stats".toList <+: Text.trimSpace text) :
    (Text.fields text).head? = some "per-node".toList := by
  rw [← Text.fields_trimSpace]
  exact Text.head?_fields "per-node".toList "stats".toList (by decide)
    (by decide) heading

theorem line_of_heading {s : ZoneinfoScan} {current : NumaZoneMemory}
    (here : s.current = some current) {line : ProcLine}
    (heading : "per-node stats".toList <+: Text.trimSpace line.text) :
    s.line line.text = .ok { s with inNodeStats := true } := by
  have nonempty : Text.trimSpace line.text ≠ [] := by
    intro empty
    rw [empty] at heading
    exact absurd (List.prefix_nil.mp heading) (by decide)
  rw [ZoneinfoScan.line, not_header (head?_of_heading heading) (by decide), here]
  dsimp only
  rw [if_neg nonempty, if_pos (List.isPrefixOf_iff_prefix.mpr heading)]

theorem line_of_word {s : ZoneinfoScan} {current : NumaZoneMemory}
    (here : s.current = some current) {line : ProcLine} {word : List Char}
    {others : List (List Char)} (words : Text.fields line.text = word :: others)
    (notNode : word ≠ "Node".toList) (notHeading : word ≠ "per-node".toList) :
    s.line line.text = s.statistic current (word :: others) := by
  have first : (Text.fields line.text).head? = some word := by
    rw [words]
    rfl
  rw [line_of_statistic here (not_header first notNode), words]
  intro heading
  rw [head?_of_heading heading] at first
  exact notHeading (Option.some.inj first).symm

theorem statistic_of_other (s : ZoneinfoScan) (current : NumaZoneMemory)
    {line : ProcLine} (other : line.OtherStatistic) :
    s.statistic current (Text.fields line.text) = .ok s := by
  obtain ⟨-, -, notPresent, notFree, notFreePages, notSlab⟩ := other
  unfold statistic
  split
  next key value more words =>
    rw [words] at notPresent notFree notFreePages notSlab
    rw [if_neg (by simpa using notPresent), if_neg, if_neg (by simpa using notFreePages),
      if_neg]
    · rintro ⟨-, rfl⟩
      exact notSlab rfl
    · rintro ⟨rfl, -, rfl⟩
      exact notFree ⟨more, rfl⟩
  next => rfl

theorem statistic_of_outerSlab {s : ZoneinfoScan} (outside : s.inNodeStats = false)
    (current : NumaZoneMemory) (others : List (List Char)) :
    s.statistic current ("nr_slab_reclaimable".toList :: others) = .ok s := by
  cases others with
  | nil => rfl
  | cons value more => simp [statistic, outside]

end ZoneinfoScan

/-! ### One section -/

namespace ZoneSection

def memory (sec : ZoneSection) : NumaZoneMemory where
  numa := sec.node
  zone := sec.zoneName
  presentBytes := zoneBytesFromPages sec.present
  freeBytes := zoneBytesFromPages sec.free

def addSlab (slabByNUMA : Table String UInt64) (sec : ZoneSection) :
    Table String UInt64 :=
  match sec.slab with
  | none => slabByNUMA
  | some pages => slabByNUMA.insert sec.node (zoneBytesFromPages pages)

/-- What is known of the section at a stage. -/
def current (sec : ZoneSection) : ZoneStage → NumaZoneMemory
  | .opened | .block | .counted => ⟨sec.node, sec.zoneName, 0, 0⟩
  | .freed => ⟨sec.node, sec.zoneName, 0, zoneBytesFromPages sec.free⟩
  | .listed => sec.memory

/-- The variables at a stage of the section. -/
def reading (sec : ZoneSection) (results : List NumaZoneMemory)
    (slabByNUMA : Table String UInt64) (stage : ZoneStage) : ZoneinfoScan where
  results := results
  current := some (sec.current stage)
  inNodeStats := stage.inBlock
  slabByNUMA :=
    match stage with
    | .opened | .block => slabByNUMA
    | .counted | .freed | .listed => sec.addSlab slabByNUMA

/-- The stage fixes all variables of the loop. -/
theorem line_of_zoneLine {sec : ZoneSection} {stage next : ZoneStage}
    {line : ProcLine} (printed : ZoneLine sec stage line next)
    (results : List NumaZoneMemory) (slabByNUMA : Table String UInt64) :
    (sec.reading results slabByNUMA stage).line line.text =
      .ok (sec.reading results slabByNUMA next) := by
  have smallFree : sec.free < 2 ^ 64 := sec.freeSmall.trans (by decide)
  cases printed with
  | statistic other =>
      rw [ZoneinfoScan.line_of_statistic rfl other.notHeader other.notHeading]
      exact ZoneinfoScan.statistic_of_other _ _ other
  | outerSlab outside slab =>
      obtain ⟨others, words⟩ := List.head?_eq_some_iff.mp slab
      rw [ZoneinfoScan.line_of_word rfl words (by decide) (by decide)]
      exact ZoneinfoScan.statistic_of_outerSlab outside _ _
  | perNode present heading => exact ZoneinfoScan.line_of_heading rfl heading
  | slab present words =>
      have small := (sec.slabSmall _ present).trans (by decide : 2 ^ 52 < 2 ^ 64)
      rw [ZoneinfoScan.line_of_word rfl words (by decide) (by decide)]
      simp [ZoneinfoScan.statistic, Text.parseUint?_numeral small, reading,
        ZoneStage.inBlock, current, addSlab, present]
  | pagesFree before words =>
      rw [ZoneinfoScan.line_of_word rfl words (by decide) (by decide)]
      rcases before with rfl | ⟨rfl, without⟩
      · simp [ZoneinfoScan.statistic, Text.parseUint?_numeral smallFree, reading,
          ZoneStage.inBlock, current]
      · simp [ZoneinfoScan.statistic, Text.parseUint?_numeral smallFree, reading,
          ZoneStage.inBlock, current, addSlab, without]
  | present words =>
      have small := sec.presentSmall.trans (by decide : 2 ^ 52 < 2 ^ 64)
      rw [ZoneinfoScan.line_of_word rfl words (by decide) (by decide)]
      simp [ZoneinfoScan.statistic, Text.parseUint?_numeral small, reading,
        ZoneStage.inBlock, current, memory]
  | nrFreePages after words =>
      rw [ZoneinfoScan.line_of_word rfl words (by decide) (by decide)]
      rcases after with rfl | rfl
      · simp [ZoneinfoScan.statistic, Text.parseUint?_numeral smallFree, reading,
          ZoneStage.inBlock, current]
      · simp [ZoneinfoScan.statistic, Text.parseUint?_numeral smallFree, reading,
          ZoneStage.inBlock, current, memory]

theorem foldlM_line_of_body {sec : ZoneSection} {stage : ZoneStage}
    {lines : List ProcLine} (body : ZoneBody sec stage lines)
    (results : List NumaZoneMemory) (slabByNUMA : Table String UInt64) :
    (lines.map ProcLine.text).foldlM ZoneinfoScan.line
        (sec.reading results slabByNUMA stage) =
      .ok (sec.reading results slabByNUMA .listed) := by
  induction body with
  | done => rfl
  | line first rest induction =>
      rw [List.map_cons,
        foldlM_cons_ok (line_of_zoneLine first results slabByNUMA)]
      exact induction

/-- The variables after the section, from those before it. -/
def read (s : ZoneinfoScan) (sec : ZoneSection) : ZoneinfoScan :=
  sec.reading s.flush s.slabByNUMA .listed

end ZoneSection

theorem foldlM_line_of_file {sections : List ZoneSection} {lines : List ProcLine}
    (file : ZoneFile sections lines) (s : ZoneinfoScan) :
    (lines.map ProcLine.text).foldlM ZoneinfoScan.line s =
      .ok (sections.foldl ZoneSection.read s) := by
  induction file generalizing s with
  | nil => rfl
  | @cons sec sections header body lines headed printed rest induction =>
      have opened : s.line header.text =
          .ok (sec.reading s.flush s.slabByNUMA .opened) :=
        s.line_of_header headed
      have section_ := ZoneSection.foldlM_line_of_body printed s.flush s.slabByNUMA
      rw [List.cons_append, List.map_cons, foldlM_cons_ok opened, List.map_append,
        List.foldlM_append, section_]
      exact induction _

/-! ### The snapshot -/

theorem toNat_zoneBytesFromPages {pages : Nat} (small : pages < 2 ^ 52) :
    (zoneBytesFromPages pages).toNat = pages * zonePageSize := by
  have size : (UInt64.ofNat zonePageSize).toNat = zonePageSize := rfl
  rw [zoneBytesFromPages, UInt64.toNat_mul, size,
    UInt64.toNat_ofNat_of_lt' (small.trans (by decide)), Nat.mod_eq_of_lt]
  rw [zonePageSize]
  omega

theorem zoneBytesFromPages_pos_iff {pages : Nat} (small : pages < 2 ^ 52) :
    zoneBytesFromPages pages > 0 ↔ 0 < pages := by
  rw [gt_iff_lt, UInt64.lt_iff_toNat_lt, toNat_zoneBytesFromPages small,
    UInt64.toNat_zero, zonePageSize]
  omega

/-- The run flushes exactly the zones that have pages. -/
theorem flush_foldl_read (sections : List ZoneSection) :
    (sections.foldl ZoneSection.read ⟨[], none, false, ∅⟩).flush =
      (sections.filter fun sec => 0 < sec.present).map ZoneSection.memory := by
  induction sections using List.reverseRecOn with
  | nil => rfl
  | append_singleton sections sec induction =>
      rw [List.foldl_append, List.foldl_cons, List.foldl_nil, List.filter_append,
        List.map_append, ← induction]
      -- a section is flushed by the header after it or by the end of the file
      generalize sections.foldl ZoneSection.read ⟨[], none, false, ∅⟩ = s
      change (if zoneBytesFromPages sec.present > 0 then s.flush ++ [sec.memory]
        else s.flush) = _
      simp only [zoneBytesFromPages_pos_iff sec.presentSmall]
      by_cases present : 0 < sec.present
      · simp [present]
      · simp [present]

theorem slabByNUMA_foldl_read (sections : List ZoneSection) (s : ZoneinfoScan) :
    (sections.foldl ZoneSection.read s).slabByNUMA =
      sections.foldl ZoneSection.addSlab s.slabByNUMA := by
  induction sections generalizing s with
  | nil => rfl
  | cons sec sections induction => exact induction _

/-- The sections that have a per-node block, with its pages. -/
def slabs (sections : List ZoneSection) : List (String × Nat) :=
  sections.filterMap fun sec => sec.slab.map fun pages => (sec.node, pages)

theorem foldl_addSlab (sections : List ZoneSection) (table : Table String UInt64) :
    sections.foldl ZoneSection.addSlab table =
      table.insertAll ((slabs sections).map fun entry =>
        (entry.1, zoneBytesFromPages entry.2)) := by
  induction sections generalizing table with
  | nil => rfl
  | cons sec sections induction =>
      rw [List.foldl_cons, induction, ZoneSection.addSlab, slabs, slabs,
        List.filterMap_cons]
      cases sec.slab with
      | none => rfl
      | some pages => rfl

theorem map_fst_slabs (sections : List ZoneSection) :
    (slabs sections).map Prod.fst =
      (sections.filter fun sec => sec.slab.isSome).map ZoneSection.node := by
  induction sections with
  | nil => rfl
  | cons sec sections induction =>
      rw [slabs, List.filterMap_cons, List.filter_cons]
      cases sec.slab with
      | none => exact induction
      | some pages => exact congrArg (sec.node :: ·) induction

theorem small_of_mem_slabs {sections : List ZoneSection} {entry : String × Nat}
    (member : entry ∈ slabs sections) : entry.2 < 2 ^ 52 := by
  obtain ⟨sec, -, made⟩ := List.mem_filterMap.mp member
  obtain ⟨pages, present, rfl⟩ := Option.map_eq_some_iff.mp made
  exact sec.slabSmall pages present

/-- The loop over `slabByNUMA` visits each node with a per-node block once. -/
structure VisitsSlabs (order : List String) (sections : List ZoneSection) :
    Prop where
  nodup : order.Nodup
  mem_iff : ∀ node, node ∈ order ↔
    ∃ sec ∈ sections, sec.slab.isSome ∧ sec.node = node

/-- The zones with pages and the per-node blocks of the sections, in order, and
nothing else. -/
structure ZoneinfoSnapshot.Reports (snapshot : ZoneinfoSnapshot)
    (sections : List ZoneSection) : Prop where
  zones : (snapshot.zones.map fun entry =>
      (entry.numa, entry.zone, entry.presentBytes.toNat,
        entry.freeBytes.toNat)).Perm
    ((sections.filter fun sec => 0 < sec.present).map fun sec =>
      (sec.node, sec.zoneName, sec.present * 4096, sec.free * 4096))
  sorted : snapshot.zones.Pairwise fun a b =>
    a.numa < b.numa ∨ a.numa = b.numa ∧ a.zone < b.zone
  slabs : (snapshot.slabReclaimable.map fun entry =>
      (entry.numa, entry.reclaimableBytes.toNat)).Perm
    (sections.filterMap fun sec =>
      sec.slab.map fun pages => (sec.node, pages * 4096))
  slabsSorted : snapshot.slabReclaimable.Pairwise fun a b => a.numa < b.numa

theorem NumaZoneMemory.not_less_iff (a b : NumaZoneMemory) :
    (!b.less a) = true ↔ toLex (a.numa, a.zone) ≤ toLex (b.numa, b.zone) := by
  rw [Prod.Lex.toLex_le_toLex, NumaZoneMemory.less, Bool.not_eq_true']
  by_cases same : b.numa = a.numa
  · rw [if_neg (not_not_intro same), decide_eq_false_iff_not, not_lt, same]
    simp only [lt_irrefl, false_or, true_and]
  · rw [if_pos same, decide_eq_false_iff_not, not_lt]
    constructor
    · exact fun le => .inl (lt_of_le_of_ne le (Ne.symm same))
    · rintro (less | ⟨equal, -⟩)
      · exact less.le
      · exact equal.le

section Printed

variable {sections : List ZoneSection}

theorem sorted_zones
    (distinct : (sections.map fun sec => (sec.numa, sec.zone)).Nodup) :
    (((sections.filter fun sec => 0 < sec.present).map
        ZoneSection.memory).mergeSort fun a b => !b.less a).Pairwise fun a b =>
      a.numa < b.numa ∨ a.numa = b.numa ∧ a.zone < b.zone := by
  have keys : (((sections.filter fun sec => 0 < sec.present).map
      ZoneSection.memory).map fun entry => toLex (entry.numa, entry.zone)).Nodup := by
    have inside : ((sections.filter fun sec => 0 < sec.present).map
        fun sec => (sec.numa, sec.zone)).Nodup :=
      distinct.sublist (List.filter_sublist.map _)
    have renamed := inside.map_on (f := fun key : Nat × List Char =>
      toLex (String.ofList (Text.numeral key.1), String.ofList key.2)) (by
        intro key _ other _ same
        obtain ⟨numa, zone⟩ := Prod.mk.inj (toLex.injective same)
        exact Prod.ext (Text.toList_toString_inj (String.ofList_injective numa))
          (String.ofList_injective zone))
    rw [List.map_map] at renamed ⊢
    exact renamed
  refine (pairwise_lt_mergeSort _ _ NumaZoneMemory.not_less_iff keys).imp
    fun less => ?_
  exact Prod.Lex.toLex_lt_toLex.mp less

variable {order : List String} (visits : VisitsSlabs order sections)
    (blocks : ((sections.filter fun sec => sec.slab.isSome).map
      ZoneSection.numa).Nodup)

include blocks in
theorem nodup_slabs : ((slabs sections).map Prod.fst).Nodup := by
  rw [map_fst_slabs]
  have renamed := blocks.map_on (f := fun numa => String.ofList (Text.numeral numa))
    (fun _ _ _ _ same => Text.toList_toString_inj (String.ofList_injective same))
  rw [List.map_map] at renamed
  exact renamed

include visits blocks

/-- The loop over `slabByNUMA` gives the entries of the per-node blocks. -/
theorem perm_slabs :
    (order.filterMap fun numa =>
      ((sections.foldl ZoneSection.addSlab ∅).lookup numa).map
        fun bytes => (⟨numa, bytes⟩ : NumaSlabReclaimable)).Perm
      ((slabs sections).map fun entry =>
        ⟨entry.1, zoneBytesFromPages entry.2⟩) := by
  have nodup := nodup_slabs blocks
  have same : order.Perm ((slabs sections).map Prod.fst) := by
    rw [List.perm_ext_iff_of_nodup visits.nodup nodup, map_fst_slabs]
    intro node
    rw [visits.mem_iff]
    simp only [List.mem_map, List.mem_filter, and_assoc]
  refine (same.filterMap _).trans (List.Perm.of_eq ?_)
  rw [List.filterMap_map, ← List.filterMap_eq_map]
  apply List.filterMap_congr
  intro entry member
  have keys : (((slabs sections).map fun entry =>
      (entry.1, zoneBytesFromPages entry.2)).map Prod.fst).Nodup := by
    rw [List.map_map]
    exact nodup
  have found := Table.lookup_insertAll_of_nodup keys (List.mem_map_of_mem member)
  rw [← foldl_addSlab] at found
  simp only [Function.comp_apply, found, Option.map_some]

theorem sorted_slabs :
    ((order.filterMap fun numa =>
      ((sections.foldl ZoneSection.addSlab ∅).lookup numa).map
        fun bytes => (⟨numa, bytes⟩ : NumaSlabReclaimable)).mergeSort
          fun a b => !(b.numa < a.numa)).Pairwise fun a b => a.numa < b.numa := by
  apply pairwise_lt_mergeSort NumaSlabReclaimable.numa
  · intro a b
    rw [Bool.not_eq_true', decide_eq_false_iff_not, not_lt]
  · rw [((perm_slabs visits blocks).map NumaSlabReclaimable.numa).nodup_iff,
      List.map_map]
    exact nodup_slabs blocks

end Printed

theorem readZoneinfo_eq {sections : List ZoneSection} {lines : List ProcLine}
    (file : ZoneFile sections lines) (order : List String)
    (populated : ∃ sec ∈ sections, 0 < sec.present) :
    readZoneinfo (some (procText lines)) order =
      .ok {
        zones := ((sections.filter fun sec => 0 < sec.present).map
          ZoneSection.memory).mergeSort fun a b => !b.less a
        slabReclaimable := (order.filterMap fun numa =>
          ((sections.foldl ZoneSection.addSlab ∅).lookup numa).map
            fun bytes => ⟨numa, bytes⟩).mergeSort
              fun a b => !(b.numa < a.numa) } := by
  have read := foldlM_line_of_file file ⟨[], none, false, ∅⟩
  have present : ¬ ((sections.filter fun sec => 0 < sec.present).map
      ZoneSection.memory).isEmpty = true := by
    obtain ⟨sec, member, pages⟩ := populated
    rw [List.isEmpty_iff, List.map_eq_nil_iff]
    exact List.ne_nil_of_mem (List.mem_filter.mpr ⟨member, decide_eq_true pages⟩)
  simp only [readZoneinfo, scanned_procText, read]
  change (if (List.isEmpty (ZoneinfoScan.flush _)) = true then _ else _) = _
  rw [flush_foldl_read, if_neg present, ZoneinfoScan.snapshot, flush_foldl_read,
    slabByNUMA_foldl_read]
  rfl

/-- Every printing of the sections is read back as their zones with pages and their
per-node blocks. -/
theorem readZoneinfo_printed (sections : List ZoneSection) (lines : List ProcLine)
    (order : List String) (file : ZoneFile sections lines)
    (distinct : (sections.map fun sec => (sec.numa, sec.zone)).Nodup)
    (blocks : ((sections.filter fun sec => sec.slab.isSome).map
      ZoneSection.numa).Nodup)
    (visits : VisitsSlabs order sections)
    (populated : ∃ sec ∈ sections, 0 < sec.present) :
    ∃ snapshot, readZoneinfo (some (procText lines)) order = .ok snapshot ∧
      snapshot.Reports sections := by
  refine ⟨_, readZoneinfo_eq file order populated, ?_, sorted_zones distinct, ?_,
    sorted_slabs visits blocks⟩
  · refine ((List.mergeSort_perm _ _).map _).trans (List.Perm.of_eq ?_)
    rw [List.map_map]
    apply List.map_congr_left
    intro sec _
    simp only [Function.comp_apply, ZoneSection.memory,
      toNat_zoneBytesFromPages sec.presentSmall,
      toNat_zoneBytesFromPages sec.freeSmall]
    rfl
  · refine (((List.mergeSort_perm _ _).trans (perm_slabs visits blocks)).map
      _).trans (List.Perm.of_eq ?_)
    have pages : (sections.filterMap fun sec =>
        sec.slab.map fun pages => (sec.node, pages * 4096)) =
        (slabs sections).map fun entry => (entry.1, entry.2 * 4096) := by
      rw [slabs, List.map_filterMap]
      simp only [Option.map_map]
      rfl
    rw [pages, List.map_map]
    apply List.map_congr_left
    intro entry member
    simp only [Function.comp_apply,
      toNat_zoneBytesFromPages (small_of_mem_slabs member)]
    rfl

/-! Node 0 has a zone with a per-node block and an empty zone with a reclaimable slab
of its own. -/

def dmaSection : ZoneSection where
  numa := 0
  zone := "DMA".toList
  present := 3999
  free := 2816
  slab := some 117275

def movableSection : ZoneSection where
  numa := 0
  zone := "Movable".toList
  present := 0
  free := 0
  slab := none

def dmaHeader : ProcLine :=
  .ofText "Node 0, zone      DMA".toList

def perNodeLine : ProcLine :=
  .ofText "  per-node stats".toList

def slabLine : ProcLine :=
  .ofText "      nr_slab_reclaimable 117275".toList

def dmaFreeLine : ProcLine :=
  .ofText "  pages free     2816".toList

def minLine : ProcLine :=
  .ofText "        min      58".toList

def dmaPresentLine : ProcLine :=
  .ofText "        present  3999".toList

def movableHeader : ProcLine :=
  .ofText "Node 0, zone  Movable".toList

def noFreeLine : ProcLine :=
  .ofText "  pages free     0".toList

def noPresentLine : ProcLine :=
  .ofText "        present  0".toList

theorem zoneinfo_of_two_sections :
    ∃ snapshot, readZoneinfo (some (procText
        [dmaHeader, perNodeLine, slabLine, dmaFreeLine, minLine, dmaPresentLine,
          movableHeader, noFreeLine, noPresentLine, slabLine])) ["0"] =
        .ok snapshot ∧ snapshot.Reports [dmaSection, movableSection] := by
  have minOther : minLine.OtherStatistic := by
    constructor <;> decide +kernel
  have dmaHeaded : dmaSection.HeadedBy dmaHeader :=
    ⟨" ".toList, " ".toList, "      ".toList, ⟨by decide, by decide⟩,
      ⟨by decide, by decide⟩, ⟨by decide, by decide⟩, by decide +kernel⟩
  have movableHeaded : movableSection.HeadedBy movableHeader :=
    ⟨" ".toList, " ".toList, "  ".toList, ⟨by decide, by decide⟩,
      ⟨by decide, by decide⟩, ⟨by decide, by decide⟩, by decide +kernel⟩
  have dmaBody : ZoneBody dmaSection .opened
      [perNodeLine, slabLine, dmaFreeLine, minLine, dmaPresentLine] :=
    .line (.perNode (by decide) (by decide +kernel)) (.line (.slab rfl
      (by decide +kernel)) (.line (.pagesFree (.inl rfl) (by decide +kernel))
        (.line (.statistic minOther) (.line (.present (by decide +kernel))
          .done))))
  have movableBody : ZoneBody movableSection .opened
      [noFreeLine, noPresentLine, slabLine] :=
    .line (.pagesFree (.inr ⟨rfl, rfl⟩) (by decide +kernel)) (.line (.present
      (by decide +kernel)) (.line (.outerSlab rfl (by decide +kernel)) .done))
  have visits : VisitsSlabs ["0"] [dmaSection, movableSection] := by
    refine ⟨by decide, fun node => ?_⟩
    rw [List.mem_singleton]
    constructor
    · rintro rfl
      exact ⟨dmaSection, List.mem_cons_self, rfl, by decide⟩
    · rintro ⟨sec, member, counted, rfl⟩
      simp only [List.mem_cons, List.not_mem_nil, or_false] at member
      rcases member with rfl | rfl
      · decide
      · cases counted
  exact readZoneinfo_printed [dmaSection, movableSection] _ ["0"]
    (.cons dmaHeaded dmaBody (.cons movableHeaded movableBody .nil)) (by decide)
    (by decide) visits ⟨dmaSection, by simp, by decide⟩

end KubevirtMetrics.Cgroup
