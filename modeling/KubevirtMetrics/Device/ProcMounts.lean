import KubevirtMetrics.Data.Text

namespace KubevirtMetrics.Device

open Data

/-! `procmounts.go`. -/

structure MountEntry where
  mountID : Int
  parentID : Int
  major : UInt32
  minor : UInt32
  root : String
  mountPoint : String
  fsType : String
  source : String
  deriving DecidableEq

inductive MountError
  | open_
  | tooFewFields
  | syntax_ (field : List Char)
  | invalidDevice (field : List Char)
  | missingSeparator
  | lineTooLong
  deriving DecidableEq

def parseField (parse : List Char → Option α) (field : List Char) :
    Except MountError α :=
  match parse field with
  | some value => .ok value
  | none => .error (.syntax_ field)

def separatorIndex? (fields : List (List Char)) (start : Nat) : Option Nat :=
  ((fields.drop start).findIdx? (· == ['-'])).map (· + start)

def parseMountInfoLine (line : List Char) : Except MountError MountEntry := do
  let fields := Text.fields line
  let field (i : Nat) := fields.getD i []
  if fields.length < 7 then
    throw .tooFewFields
  let mountID ← parseField Text.atoi? (field 0)
  let parentID ← parseField Text.atoi? (field 1)
  match Text.cut? ':' (field 2) with
  | none => throw (.invalidDevice (field 2))
  | some (majorText, minorText) =>
      let major ← parseField (Text.parseUint? 32) majorText
      let minor ← parseField (Text.parseUint? 32) minorText
      match separatorIndex? fields 6 with
      | none => throw .missingSeparator
      | some sepIdx =>
          if sepIdx + 2 ≥ fields.length then
            throw .missingSeparator
          return {
            mountID := mountID
            parentID := parentID
            major := UInt32.ofNat major
            minor := UInt32.ofNat minor
            root := String.ofList (field 3)
            mountPoint := String.ofList (field 4)
            fsType := String.ofList (field (sepIdx + 1))
            source := String.ofList (field (sepIdx + 2)) }

/-- The lines a `bufio.Scanner` returns: without their line ends, and without an
empty last one. -/
def scanLines (content : List Char) : List (List Char) :=
  let lines := content.splitOn '\n'
  let lines := if lines.getLast? = some [] then lines.dropLast else lines
  lines.map fun line =>
    if line.getLast? = some '\r' then line.dropLast else line

theorem splitOn_lines {lines : List (List Char)}
    (single : ∀ line ∈ lines, ∀ c ∈ line, c ≠ '\n') :
    (lines.flatMap (· ++ ['\n'])).splitOn '\n' = lines ++ [[]] := by
  induction lines with
  | nil => rfl
  | cons line lines induction =>
      rw [List.flatMap_cons, List.append_assoc, List.singleton_append, List.splitOn,
        List.splitOnP_append_cons_of_forall_mem
          (by simpa using single line List.mem_cons_self) _ (by decide)]
      exact congrArg (line :: ·)
        (induction fun other member => single other (List.mem_cons_of_mem line member))

theorem scanLines_lines {lines : List (List Char)}
    (single : ∀ line ∈ lines, ∀ c ∈ line, c ≠ '\n') :
    scanLines (lines.flatMap (· ++ ['\n'])) =
      lines.map fun line =>
        if line.getLast? = some '\r' then line.dropLast else line := by
  simp only [scanLines, splitOn_lines single, List.getLast?_concat,
    List.dropLast_concat, if_true]

def maxScanLine : Nat := 65535

/-- Malformed lines are skipped.  The content is absent when the file cannot be
opened; the scanner stops with an error at a line that is too long. -/
def parseMountInfo (content : Option (List Char)) :
    Except MountError (List MountEntry) :=
  match content with
  | none => .error .open_
  | some text =>
      if (text.splitOn '\n').any fun line =>
          (line.map fun c => c.utf8Size).sum > maxScanLine then
        .error .lineTooLong
      else
        .ok ((scanLines text).filterMap fun line =>
          (parseMountInfoLine line).toOption)

example :
    (parseMountInfoLine "36 35 98:0 /mnt1 /mnt2 rw - ext3 /dev/root rw".toList).toOption =
      some ⟨36, 35, 98, 0, "/mnt1", "/mnt2", "ext3", "/dev/root"⟩ := by
  decide +kernel

end KubevirtMetrics.Device
