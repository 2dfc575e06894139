import KubevirtMetrics.Device.ProcMounts

namespace KubevirtMetrics.Cgroup

open Data
open Device (scanLines maxScanLine splitOn_lines scanLines_lines)

/-! The files of `/proc` that the cgroup collector reads with a `bufio.Scanner`. -/

def lineFits (line : List Char) : Bool :=
  (line.map fun c => c.utf8Size).sum ≤ maxScanLine

/-- The lines that the scanner returns, and whether it gets to the end: it stops at
a line that is too long. -/
def scanned (content : List Char) : List (List Char) × Bool :=
  let raw := content.splitOn '\n'
  if raw.all lineFits then (scanLines content, true)
  else (scanLines ((raw.takeWhile lineFits).flatMap (· ++ ['\n'])), false)

/-- A line as the kernel prints it, of at most 65535 bytes: at a longer one the scanner
stops. -/
structure ProcLine where
  text : List Char
  single : ∀ c ∈ text, c ≠ '\n'
  unreturned : text.getLast? ≠ some '\r'
  fits : lineFits text = true

/-- A line of a given text. -/
def ProcLine.ofText (text : List Char)
    (printed : text.all (· ≠ '\n') ∧ text.getLast? ≠ some '\r' ∧
      lineFits text = true := by decide +kernel) : ProcLine where
  text := text
  single := by simpa using printed.1
  unreturned := printed.2.1
  fits := printed.2.2

def procText (lines : List ProcLine) : List Char :=
  lines.flatMap fun line => line.text ++ ['\n']

theorem procText_eq (lines : List ProcLine) :
    procText lines = (lines.map ProcLine.text).flatMap (· ++ ['\n']) := by
  rw [procText, List.flatMap_map]

theorem single_of_mem_text {lines : List ProcLine} :
    ∀ line ∈ lines.map ProcLine.text, ∀ c ∈ line, c ≠ '\n' := by
  intro text member
  obtain ⟨line, -, rfl⟩ := List.mem_map.mp member
  exact line.single

theorem scanLines_procText (lines : List ProcLine) :
    scanLines (procText lines) = lines.map ProcLine.text := by
  rw [procText_eq, scanLines_lines single_of_mem_text, List.map_map]
  apply List.map_congr_left
  intro line _
  exact if_neg line.unreturned

theorem scanned_procText (lines : List ProcLine) :
    scanned (procText lines) = (lines.map ProcLine.text, true) := by
  have short : ((procText lines).splitOn '\n').all lineFits = true := by
    rw [procText_eq, splitOn_lines single_of_mem_text, List.all_append,
      Bool.and_eq_true, List.all_eq_true]
    constructor
    · intro text member
      obtain ⟨line, -, rfl⟩ := List.mem_map.mp member
      exact line.fits
    · decide
  simp only [scanned]
  rw [if_pos short, scanLines_procText]

end KubevirtMetrics.Cgroup
