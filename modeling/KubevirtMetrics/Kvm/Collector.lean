import KubevirtMetrics.Virt.Domain

namespace KubevirtMetrics.Kvm

open Data Cluster Virt

/-! The KVM collector, in `pkg/kvm/collector.go`. -/

/-- An entry of the debugfs directory with the files in it. -/
structure DebugFSEntry where
  name : List Char
  isDir : Bool
  file : String → Option (List Char)

def parsePIDFromDir (name : List Char) : Option Int :=
  match Text.cutLast? '-' name with
  | none => none
  | some (front, _) => if front = [] then none else Text.atoi? front

def readUint64File (data : Option (List Char)) : UInt64 :=
  match data with
  | none => 0
  | some data =>
      match Text.parseUint? 64 (Text.trimSpace data) with
      | none => 0
      | some v => UInt64.ofNat v

inductive Counter
  | exits
  | hypercalls
  | tlbFlush
  | haltExits
  deriving DecidableEq

def Counter.file : Counter → String
  | .exits => "exits"
  | .hypercalls => "hypercalls"
  | .tlbFlush => "tlb_flush"
  | .haltExits => "halt_exits"

structure PerPIDStats where
  exits : UInt64
  hypercalls : UInt64
  tlbFlush : UInt64
  haltExits : UInt64
  deriving DecidableEq

namespace PerPIDStats

def zero : PerPIDStats := ⟨0, 0, 0, 0⟩

def get (s : PerPIDStats) : Counter → UInt64
  | .exits => s.exits
  | .hypercalls => s.hypercalls
  | .tlbFlush => s.tlbFlush
  | .haltExits => s.haltExits

def addDir (s : PerPIDStats) (dir : DebugFSEntry) : PerPIDStats where
  exits := s.exits + readUint64File (dir.file "exits")
  hypercalls := s.hypercalls + readUint64File (dir.file "hypercalls")
  tlbFlush := s.tlbFlush + readUint64File (dir.file "tlb_flush")
  haltExits := s.haltExits + readUint64File (dir.file "halt_exits")

theorem get_addDir (s : PerPIDStats) (dir : DebugFSEntry) (counter : Counter) :
    (s.addDir dir).get counter =
      s.get counter + readUint64File (dir.file counter.file) := by
  cases counter <;> rfl

end PerPIDStats

def scanEntry (pidMap : Table Int PerPIDStats) (entry : DebugFSEntry) :
    Table Int PerPIDStats :=
  if !entry.isDir then pidMap
  else
    match parsePIDFromDir entry.name with
    | none => pidMap
    | some pid =>
        pidMap.insert pid ((pidMap.getD pid .zero).addDir entry)

def scanDebugFS (entries : List DebugFSEntry) : Table Int PerPIDStats :=
  entries.foldl scanEntry ∅

structure VmiStats where
  namespace_ : String
  name : String
  pod : String
  stats : PerPIDStats

structure Collector where
  results : List VmiStats
  scrapeErrors : Nat

/-- What a poll finds.  `listing` is absent where debugfs cannot be read;
`pods` and `pids` are in the order in which the pod store and the map of PIDs
are iterated. -/
structure PollInput where
  listing : Option (List DebugFSEntry)
  cmdline : Int → Option (List Char)
  pods : List Pod
  pids : List Int

/-- What becomes of one PID in the loop of a poll. -/
inductive Visit
  | skipped
  | unmatched
  | result (stats : VmiStats)

def visit (cmdline : Int → Option (List Char))
    (domainToPod : Table (List Char) String) (pid : Int)
    (stats : PerPIDStats) : Visit :=
  match readDomainName (cmdline pid) with
  | none => .skipped
  | some domain =>
      match parseDomainName domain with
      | none => .skipped
      | some (ns, vmiName) =>
          let podName := domainToPod.getD (domainKey ns vmiName) ""
          if podName = "" then .unmatched
          else .result ⟨String.ofList ns, String.ofList vmiName, podName, stats⟩

def Visit.result? : Visit → Option VmiStats
  | .result stats => some stats
  | _ => none

def Visit.isUnmatched : Visit → Bool
  | .unmatched => true
  | _ => false

def Collector.poll (c : Collector) (input : PollInput) : Collector :=
  match input.listing with
  | none => { c with scrapeErrors := c.scrapeErrors + 1 }
  | some entries =>
      let pidMap := scanDebugFS entries
      let domainToPod := buildDomainToPodMap input.pods
      let visits := input.pids.map fun pid =>
        visit input.cmdline domainToPod pid (pidMap.getD pid .zero)
      { results := visits.filterMap Visit.result?
        scrapeErrors := c.scrapeErrors + visits.countP Visit.isUnmatched }

/-- The label values of a result. -/
def VmiStats.labels (node : String) (s : VmiStats) : List String :=
  [s.namespace_, s.name, node, s.pod]

/-! ### The sums -/

/-- The directories of a process. -/
def dirsOf (entries : List DebugFSEntry) (pid : Int) : List DebugFSEntry :=
  entries.filter fun entry =>
    entry.isDir && parsePIDFromDir entry.name == some pid

/-- The sum of a counter over the directories of a process. -/
def total (entries : List DebugFSEntry) (pid : Int) (counter : Counter) : Nat :=
  ((dirsOf entries pid).map fun dir =>
    (readUint64File (dir.file counter.file)).toNat).sum

theorem lookup_scanDebugFS (entries : List DebugFSEntry) (pid : Int) :
    (scanDebugFS entries).lookup pid =
      if dirsOf entries pid = [] then none
      else some ((dirsOf entries pid).foldl PerPIDStats.addDir .zero) := by
  induction entries using List.reverseRecOn with
  | nil => rfl
  | append_singleton entries entry induction =>
      have filtered : dirsOf (entries ++ [entry]) pid =
          dirsOf entries pid ++ dirsOf [entry] pid := List.filter_append ..
      rw [scanDebugFS, List.foldl_append, filtered]
      change (scanEntry (scanDebugFS entries) entry).lookup pid = _
      by_cases own : entry.isDir = true ∧ parsePIDFromDir entry.name = some pid
      · have here : dirsOf [entry] pid = [entry] := by
          simp [dirsOf, own.1, own.2]
        have stats : (scanDebugFS entries).getD pid .zero =
            (dirsOf entries pid).foldl PerPIDStats.addDir .zero := by
          rw [Table.getD, induction]
          split
          next none => rw [none]; rfl
          next => rfl
        simp [scanEntry, own.1, own.2, here, stats]
      · have here : dirsOf [entry] pid = [] := by
          simpa [dirsOf] using own
        rw [here, List.append_nil, ← induction]
        unfold scanEntry
        split
        next => rfl
        next isDir =>
          split
          next => rfl
          next other parsed =>
            have apart : pid ≠ other := by
              rintro rfl
              exact own ⟨by simpa using isDir, parsed⟩
            exact Finmap.lookup_insert_of_ne _ apart

theorem mem_scanDebugFS (entries : List DebugFSEntry) (pid : Int) :
    pid ∈ scanDebugFS entries ↔ dirsOf entries pid ≠ [] := by
  rw [← Finmap.lookup_isSome, lookup_scanDebugFS]
  split
  next none => simp [none]
  next some => simp [some]

theorem foldl_addDir_toNat (dirs : List DebugFSEntry) (counter : Counter) :
    ((dirs.foldl PerPIDStats.addDir .zero).get counter).toNat =
      (dirs.map fun dir =>
        (readUint64File (dir.file counter.file)).toNat).sum % 2 ^ 64 := by
  induction dirs using List.reverseRecOn with
  | nil => cases counter <;> rfl
  | append_singleton dirs dir induction =>
      rw [List.foldl_append, List.foldl_cons, List.foldl_nil,
        PerPIDStats.get_addDir, UInt64.toNat_add, induction]
      simp [Nat.add_mod]

theorem getD_scanDebugFS_toNat (entries : List DebugFSEntry) (pid : Int)
    (counter : Counter) :
    (((scanDebugFS entries).getD pid .zero).get counter).toNat =
      total entries pid counter % 2 ^ 64 := by
  rw [total, ← foldl_addDir_toNat, Table.getD, lookup_scanDebugFS]
  split
  next none => rw [none]; rfl
  next => rfl

end KubevirtMetrics.Kvm
