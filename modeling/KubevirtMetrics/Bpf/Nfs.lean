import KubevirtMetrics.Bpf.Block

namespace KubevirtMetrics.Bpf

open Data

/-! `nfs_latency.c`. -/

structure Inode where
  ino : Nat
  dev : UInt32
  deriving DecidableEq

/-- The parts of `struct nfs_pgio_header` that the handlers reach, with the
address of the header. -/
structure NfsPgioHeader where
  address : Nat
  inode : Inode
  offset : UInt64
  count : UInt32
  deriving DecidableEq

structure NfsReqKey where
  dev : UInt32
  count : UInt32
  offset : UInt64
  op : UInt8
  deriving DecidableEq

def nfsFillKey (hdr : NfsPgioHeader) (op : UInt8) : NfsReqKey where
  dev := hdr.inode.dev
  offset := hdr.offset
  count := hdr.count
  op := op

/-- Both initiation handlers, which differ in the operation code. -/
def nfsInitiate (op : UInt8) (hdr : NfsPgioHeader) (now : UInt64)
    (tracer : Tracer NfsReqKey) : Tracer NfsReqKey :=
  { tracer with starts := tracer.starts.insert (nfsFillKey hdr op) now }

def rawTpNfsInitiateRead := nfsInitiate 0

def rawTpNfsInitiateWrite := nfsInitiate 1

/-- Both completion handlers, which differ in the operation code. -/
def nfsDone (op : UInt8) (hdr : NfsPgioHeader) (now : UInt64)
    (tracer : Tracer NfsReqKey) : Tracer NfsReqKey :=
  let nk := nfsFillKey hdr op
  recordLatency tracer nk (some ⟨nk.dev, op⟩) now

def rawTpNfsReadpageDone := nfsDone 0

def rawTpNfsWritebackDone := nfsDone 1

inductive NfsOp
  | read
  | write
  deriving DecidableEq

def NfsOp.code : NfsOp → UInt8
  | .read => 0
  | .write => 1

structure NfsRequest where
  op : NfsOp
  hdr : NfsPgioHeader
  deriving DecidableEq

def nfsHandlers : Handlers NfsRequest NfsReqKey where
  key request := nfsFillKey request.hdr request.op.code
  histKey request := some ⟨request.hdr.inode.dev, request.op.code⟩
  issue request :=
    match request.op with
    | .read => rawTpNfsInitiateRead request.hdr
    | .write => rawTpNfsInitiateWrite request.hdr
  complete request :=
    match request.op with
    | .read => rawTpNfsReadpageDone request.hdr
    | .write => rawTpNfsWritebackDone request.hdr
  issue_eq request now tracer := by
    obtain ⟨op, hdr⟩ := request
    cases op <;> rfl
  complete_eq request now tracer := by
    obtain ⟨op, hdr⟩ := request
    cases op <;> rfl

/-- A trace in which no request completes or is issued on the key of another
classified request in flight attributes every latency to its own request, for
block requests and for NFS requests alike. -/
theorem latencies_are_own_latencies
    (blockTrace : List (TracerEvent BlockRequest ReqKey))
    (nfsTrace : List (TracerEvent NfsRequest NfsReqKey)) :
    (WellFormed blockTrace → blockHandlers.KeysApart blockTrace →
      blockHandlers.SamplesOwnLatency blockTrace) ∧
    (WellFormed nfsTrace → nfsHandlers.KeysApart nfsTrace →
      nfsHandlers.SamplesOwnLatency nfsTrace) :=
  ⟨fun wellFormed apart =>
      blockHandlers.samplesOwnLatency_of_keysApart wellFormed apart,
    fun wellFormed apart =>
      nfsHandlers.samplesOwnLatency_of_keysApart wellFormed apart⟩

/-- Two requests in flight at once. -/
def overlap {R K : Type} (first second : R) : List (TracerEvent R K) :=
  [.issue first 1000, .issue second 2000, .complete first 900000,
    .complete second 950000]

theorem overlap_wellFormed {R K : Type} [DecidableEq R] {first second : R}
    (nested : Probe.WellNested (spans (overlap (K := K) first second))) :
    WellFormed (overlap (K := K) first second) where
  nested := nested
  kept := by simp [overlap]
  monotone := by
    simp [overlap, throughout_iff_get, Fin.forall_fin_succ, TracerEvent.time?,
      forall_and]

theorem overlap_early {R K : Type} (first second : R) :
    ∀ now ∈ (overlap (K := K) first second).filterMap TracerEvent.time?,
      now.toNat < 2 ^ 63 := by
  have times : (overlap (K := K) first second).filterMap TracerEvent.time? =
      [1000, 2000, 900000, 950000] := rfl
  rw [times]
  simp only [List.forall_mem_cons, List.not_mem_nil, false_implies, implies_true,
    and_true]
  decide

/-- Reads of two sectors; and a read and a write of one place in a file. -/
theorem latencies_are_own_latencies_of_two_reads :
    blockHandlers.SamplesOwnLatency
      (overlap ⟨1, 0x800000, 2048, ['R']⟩ ⟨2, 0x800000, 2056, ['R']⟩) ∧
    nfsHandlers.SamplesOwnLatency
      (overlap ⟨.read, 1, ⟨100, 0x2f⟩, 0, 4096⟩ ⟨.write, 2, ⟨100, 0x2f⟩, 0, 4096⟩) := by
  obtain ⟨block, nfs⟩ := latencies_are_own_latencies
    (overlap ⟨1, 0x800000, 2048, ['R']⟩ ⟨2, 0x800000, 2056, ['R']⟩)
    (overlap ⟨.read, 1, ⟨100, 0x2f⟩, 0, 4096⟩ ⟨.write, 2, ⟨100, 0x2f⟩, 0, 4096⟩)
  constructor
  · apply block (overlap_wellFormed (by unfold Probe.WellNested; decide))
    exact ⟨by unfold Probe.Exclusive; decide,
      blockHandlers.prompt_of_early (overlap_early _ _)⟩
  · apply nfs (overlap_wellFormed (by unfold Probe.WellNested; decide))
    exact ⟨by unfold Probe.Exclusive; decide,
      nfsHandlers.prompt_of_early (overlap_early _ _)⟩

/-- Two reads of one sector in flight at once: the first completion is filed
under the second read's start.  Two reads of different files at one offset of
an NFS mount: likewise. -/
theorem overlapping_requests_share_a_start :
    (¬ ∀ trace : List (TracerEvent BlockRequest ReqKey), WellFormed trace →
      blockHandlers.SamplesOwnLatency trace) ∧
    (¬ ∀ trace : List (TracerEvent NfsRequest NfsReqKey), WellFormed trace →
      nfsHandlers.SamplesOwnLatency trace) := by
  constructor
  · intro claimed
    let first : BlockRequest := ⟨1, 0x800000, 2048, ['R']⟩
    let second : BlockRequest := ⟨2, 0x800000, 2048, ['R']⟩
    have sampled := claimed
      [.issue first 1000000, .issue second 2000000000,
        .complete first 3000000000]
      { nested := by unfold Probe.WellNested; decide
        kept := by simp
        monotone := by
          simp [throughout_iff_get, Fin.forall_fin_succ, TracerEvent.time?,
            forall_and] }
      [.issue first 1000000, .issue second 2000000000] _ [] rfl
      first 3000000000 ⟨0x800000, 0⟩ 1000000 rfl (by decide) (by decide)
      ⟨0x800000, 0⟩ ⟨21, by decide⟩
    revert sampled
    decide +kernel
  · intro claimed
    let first : NfsRequest := ⟨.read, 1, ⟨100, 0x2f⟩, 0, 4096⟩
    let second : NfsRequest := ⟨.read, 2, ⟨200, 0x2f⟩, 0, 4096⟩
    have sampled := claimed
      [.issue first 1000000, .issue second 2000000000,
        .complete first 3000000000]
      { nested := by unfold Probe.WellNested; decide
        kept := by simp
        monotone := by
          simp [throughout_iff_get, Fin.forall_fin_succ, TracerEvent.time?,
            forall_and] }
      [.issue first 1000000, .issue second 2000000000] _ [] rfl
      first 3000000000 ⟨0x2f, 0⟩ 1000000 rfl (by decide) (by decide)
      ⟨0x2f, 0⟩ ⟨21, by decide⟩
    revert sampled
    decide +kernel

end KubevirtMetrics.Bpf
