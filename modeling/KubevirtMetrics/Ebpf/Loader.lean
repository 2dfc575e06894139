import KubevirtMetrics.Bpf.Kprobe

namespace KubevirtMetrics.Ebpf.Loader

open Data Bpf

/-! `loader.go`: loading the programs of the three subsystems into the kernel and
attaching them, where every step may fail. -/

inductive Subsystem
  | block
  | nfs
  | nfsKprobe
  deriving DecidableEq

inductive Kind
  | objects
  | link
  deriving DecidableEq

/-- Something open in the kernel: the maps and programs of a subsystem, or a link
of one of its programs. -/
structure Resource where
  owner : Subsystem
  kind : Kind
  deriving DecidableEq

/-- `Programs`.  Resources are numbered in the order in which they are created; a
map has the number of the objects it belongs to. -/
structure Programs where
  blockObjs : Option Nat
  nfsObjs : Option Nat
  nfsKprobeObjs : Option Nat
  links : List Nat
  blockHists : Option Nat
  nfsHists : Option Nat
  nfsKprobeHists : Option Nat
  blockActive : Bool
  nfsActive : Bool
  nfsKprobeActive : Bool
  retryNFS : Bool
  retryNFSKprobe : Bool

namespace Programs

def init : Programs :=
  ⟨none, none, none, [], none, none, none, false, false, false, false, false⟩

def hists (p : Programs) : Subsystem → Option Nat
  | .block => p.blockHists
  | .nfs => p.nfsHists
  | .nfsKprobe => p.nfsKprobeHists

def active (p : Programs) : Subsystem → Bool
  | .block => p.blockActive
  | .nfs => p.nfsActive
  | .nfsKprobe => p.nfsKprobeActive

end Programs

structure State where
  created : List Resource
  closed : List Nat
  programs : Programs

namespace State

def init : State := ⟨[], [], .init⟩

/-- The number of the new resource is the length of `created`. -/
def create (s : State) (owner : Subsystem) (kind : Kind) : State :=
  { s with created := s.created ++ [⟨owner, kind⟩] }

def close (s : State) (resources : List Nat) : State :=
  { s with closed := s.closed ++ resources }

/-- `Programs.Close`. -/
def closePrograms (s : State) : State :=
  let p := s.programs
  s.close (p.links ++ p.blockObjs.toList ++ p.nfsObjs.toList ++
    p.nfsKprobeObjs.toList)

end State

/-! ### The loaders

The outcomes of their steps are given; `true` is success.  A failed
`LoadAndAssign` leaves nothing open. -/

structure BlockOutcomes where
  spec : Bool
  assign : Bool
  issue : Bool
  complete : Bool

def loadBlock (s : State) (outcomes : BlockOutcomes) : State × Bool :=
  if !outcomes.spec then (s, false)
  else if !outcomes.assign then (s, false)
  else
    let objs := s.created.length
    let s := s.create .block .objects
    let s := { s with programs := { s.programs with
      blockObjs := some objs, blockHists := some objs } }
    if !outcomes.issue then (s.close [objs], false)
    else
      let l := s.created.length
      let s := s.create .block .link
      let s := { s with programs := { s.programs with
        links := s.programs.links ++ [l] } }
      if !outcomes.complete then (s.closePrograms, false)
      else
        let l := s.created.length
        let s := s.create .block .link
        ({ s with programs := { s.programs with
          links := s.programs.links ++ [l] } }, true)

/-- The loops of the NFS loaders, which keep the links of what they have attached
so far.  They stop at a failure, unless the program is an optional one. -/
def attachAll {A : Type} (owner : Subsystem) (attaches optional : A → Bool) :
    List A → State → List (A × Nat) → State × List (A × Nat) × Bool
  | [], s, links => (s, links, true)
  | x :: rest, s, links =>
      if attaches x then
        attachAll owner attaches optional rest (s.create owner .link)
          (links ++ [(x, s.created.length)])
      else if optional x then
        attachAll owner attaches optional rest s links
      else (s, links, false)

inductive NfsTracepoint
  | nfsInitiateRead
  | nfsInitiateWrite
  | nfsReadpageDone
  | nfsWritebackDone

structure NfsOutcomes where
  spec : Bool
  assign : Bool
  attach : NfsTracepoint → Bool

def loadNFS (s : State) (outcomes : NfsOutcomes) : State × Bool :=
  if !outcomes.spec then (s, false)
  else if !outcomes.assign then (s, false)
  else
    let objs := s.created.length
    let s := s.create .nfs .objects
    match attachAll .nfs outcomes.attach (fun _ => false)
        [.nfsInitiateRead, .nfsInitiateWrite, .nfsReadpageDone,
          .nfsWritebackDone] s [] with
    | (s, nfsLinks, false) =>
        (s.close (nfsLinks.map Prod.snd ++ [objs]), false)
    | (s, nfsLinks, true) =>
        ({ s with programs := { s.programs with
          nfsObjs := some objs
          nfsHists := some objs
          links := s.programs.links ++ nfsLinks.map Prod.snd } }, true)

structure KprobeOutcomes where
  spec : Bool
  assign : Bool
  kprobe : NfsFunction → Bool
  kretprobe : NfsFunction → Bool

def loadNFSKprobe (s : State) (outcomes : KprobeOutcomes) : State × Bool :=
  if !outcomes.spec then (s, false)
  else if !outcomes.assign then (s, false)
  else
    let objs := s.created.length
    let s := s.create .nfsKprobe .objects
    match attachAll .nfsKprobe outcomes.kprobe (· = .nfs4FileOpen)
        [.nfsFileRead, .nfsFileWrite, .nfsFileOpen, .nfs4FileOpen,
          .nfsGetattr] s [] with
    | (s, kprobeLinks, false) =>
        (s.close (kprobeLinks.map Prod.snd ++ [objs]), false)
    | (s, kprobeLinks, true) =>
        let attachedFns := kprobeLinks.map Prod.fst
        match attachAll .nfsKprobe outcomes.kretprobe (fun _ => false)
            attachedFns s kprobeLinks with
        | (s, kprobeLinks, false) =>
            (s.close (kprobeLinks.map Prod.snd ++ [objs]), false)
        | (s, kprobeLinks, true) =>
            ({ s with programs := { s.programs with
              nfsKprobeObjs := some objs
              nfsKprobeHists := some objs
              links := s.programs.links ++ kprobeLinks.map Prod.snd } }, true)

structure Enabled where
  block : Bool
  nfs : Bool
  nfsKprobe : Bool

structure Outcomes where
  block : BlockOutcomes
  nfs : NfsOutcomes
  nfsKprobe : KprobeOutcomes

def startBlock (s : State) (outcomes : BlockOutcomes) : State :=
  match loadBlock s outcomes with
  | (s, false) => s
  | (s, true) => { s with programs := { s.programs with blockActive := true } }

def startNFS (s : State) (outcomes : NfsOutcomes) : State :=
  match loadNFS s outcomes with
  | (s, false) => { s with programs := { s.programs with retryNFS := true } }
  | (s, true) => { s with programs := { s.programs with nfsActive := true } }

def startNFSKprobe (s : State) (outcomes : KprobeOutcomes) : State :=
  match loadNFSKprobe s outcomes with
  | (s, false) =>
      { s with programs := { s.programs with retryNFSKprobe := true } }
  | (s, true) =>
      { s with programs := { s.programs with nfsKprobeActive := true } }

/-- Absent where `LoadAndAttach` returns an error. -/
def loadAndAttach (enable : Enabled) (outcomes : Outcomes) : Option State :=
  let s := State.init
  let s := if enable.block then startBlock s outcomes.block else s
  let s := if enable.nfs then startNFS s outcomes.nfs else s
  let s := if enable.nfsKprobe then startNFSKprobe s outcomes.nfsKprobe else s
  let p := s.programs
  let requested := enable.block || enable.nfs || enable.nfsKprobe
  let active := p.blockActive || p.nfsActive || p.nfsKprobeActive
  if requested && !active && !p.retryNFS && !p.retryNFSKprobe then none
  else some s

def retryNFS (s : State) (outcomes : NfsOutcomes) : State :=
  if s.programs.retryNFS then
    match loadNFS s outcomes with
    | (s, false) => s
    | (s, true) => { s with programs := { s.programs with
        nfsActive := true, retryNFS := false } }
  else s

def retryNFSKprobe (s : State) (outcomes : KprobeOutcomes) : State :=
  if s.programs.retryNFSKprobe then
    match loadNFSKprobe s outcomes with
    | (s, false) => s
    | (s, true) => { s with programs := { s.programs with
        nfsKprobeActive := true, retryNFSKprobe := false } }
  else s

/-- A tick of `RetryFailed`, with the outcomes of what it tries again. -/
def retryTick (s : State) (outcomes : NfsOutcomes × KprobeOutcomes) : State :=
  retryNFSKprobe (retryNFS s outcomes.1) outcomes.2

def retryFailed (s : State) (ticks : List (NfsOutcomes × KprobeOutcomes)) :
    State :=
  stateAfter retryTick s ticks

/-! ### What the loaders leave open -/

def State.Open (s : State) (id : Nat) (resource : Resource) : Prop :=
  s.created[id]? = some resource ∧ id ∉ s.closed

structure State.Consistent (s : State) : Prop where
  hists : ∀ subsystem, (s.programs.hists subsystem).isSome =
    s.programs.active subsystem
  owners : ∀ id resource, s.Open id resource →
    s.programs.active resource.owner = true
  links : ∀ id ∈ s.programs.links, ∃ resource, s.Open id resource ∧
    resource.kind = .link ∧ s.programs.active resource.owner = true

/-- `s` has what `base` has, the objects of `owner` as the next resource and the
links. -/
structure Attached (owner : Subsystem) (base s : State) (links : List Nat) :
    Prop where
  programs : s.programs = base.programs
  closed : s.closed = base.closed
  kept : ∀ id < base.created.length, s.created[id]? = base.created[id]?
  objects : base.created.length < s.created.length
  new : ∀ id resource, base.created.length ≤ id →
    s.created[id]? = some resource →
      resource.owner = owner ∧ (id = base.created.length ∨ id ∈ links)
  links : ∀ id ∈ links, base.created.length ≤ id ∧
    s.created[id]? = some ⟨owner, .link⟩

namespace Attached

variable {owner : Subsystem} {base s : State} {links : List Nat}

theorem begin (owner : Subsystem) (base : State) :
    Attached owner base (base.create owner .objects) [] where
  programs := rfl
  closed := rfl
  kept id inside := List.getElem?_append_left inside
  objects := by simp [State.create]
  new id resource outside found := by
    rw [State.create, List.getElem?_append_right outside,
      List.getElem?_singleton] at found
    split at found
    next zero =>
      obtain rfl := Option.some.inj found
      exact ⟨rfl, .inl (by omega)⟩
    next => cases found
  links id member := by cases member

theorem attach (attached : Attached owner base s links) :
    Attached owner base (s.create owner .link) (links ++ [s.created.length]) where
  programs := attached.programs
  closed := attached.closed
  kept id inside := by
    rw [State.create, List.getElem?_append_left (inside.trans attached.objects)]
    exact attached.kept id inside
  objects := by
    have objects := attached.objects
    simp only [State.create, List.length_append, List.length_singleton]
    omega
  new id resource outside found := by
    rcases Nat.lt_or_ge id s.created.length with earlier | last
    · rw [State.create, List.getElem?_append_left earlier] at found
      obtain ⟨owned, objects | link⟩ := attached.new id resource outside found
      · exact ⟨owned, .inl objects⟩
      · exact ⟨owned, .inr (List.mem_append_left _ link)⟩
    · rw [State.create, List.getElem?_append_right last,
        List.getElem?_singleton] at found
      split at found
      next zero =>
        obtain rfl := Option.some.inj found
        refine ⟨rfl, .inr (List.mem_append_right _ ?_)⟩
        rw [List.mem_singleton]
        omega
      next => cases found
  links id member := by
    rcases List.mem_append.mp member with earlier | last
    · obtain ⟨outside, found⟩ := attached.links id earlier
      have inside := (List.getElem?_eq_some_iff.mp found).1
      refine ⟨outside, ?_⟩
      rw [State.create, List.getElem?_append_left inside]
      exact found
    · obtain rfl := List.mem_singleton.mp last
      exact ⟨attached.objects.le, by simp [State.create]⟩

theorem attachAll {A : Type} {attaches optional : A → Bool} {targets : List A}
    {pairs : List (A × Nat)} {result : State × List (A × Nat) × Bool}
    (attached : Attached owner base s (pairs.map Prod.snd))
    (attempted : Loader.attachAll owner attaches optional targets s pairs =
      result) :
    Attached owner base result.1 (result.2.1.map Prod.snd) := by
  induction targets generalizing s pairs with
  | nil =>
      obtain rfl := attempted
      exact attached
  | cons x rest induction =>
      rw [Loader.attachAll] at attempted
      split at attempted
      next =>
        refine induction ?_ attempted
        rw [List.map_append]
        exact attached.attach
      next =>
        split at attempted
        next => exact induction attached attempted
        next =>
          obtain rfl := attempted
          exact attached

end Attached

/-- How a loader of the NFS programs ends: before it has created anything, with
what it has created closed again, or with `install` done. -/
inductive Loads (owner : Subsystem)
    (install : Nat → List Nat → Programs → Programs) (s : State) :
    State × Bool → Prop
  | unchanged : Loads owner install s (s, false)
  | failed {t : State} {links : List Nat} (attached : Attached owner s t links) :
      Loads owner install s (t.close (links ++ [s.created.length]), false)
  | succeeded {t : State} {links : List Nat}
      (attached : Attached owner s t links) :
      Loads owner install s ({ t with
        programs := install s.created.length links t.programs }, true)

def installNFS (objs : Nat) (nfsLinks : List Nat) (p : Programs) : Programs :=
  { p with
    nfsObjs := some objs
    nfsHists := some objs
    links := p.links ++ nfsLinks }

def installNFSKprobe (objs : Nat) (kprobeLinks : List Nat) (p : Programs) :
    Programs :=
  { p with
    nfsKprobeObjs := some objs
    nfsKprobeHists := some objs
    links := p.links ++ kprobeLinks }

theorem loadNFS_loads (s : State) (outcomes : NfsOutcomes) :
    Loads .nfs installNFS s (loadNFS s outcomes) := by
  unfold loadNFS
  split
  next => exact .unchanged
  next =>
    split
    next => exact .unchanged
    next =>
      have started : Attached .nfs s (s.create .nfs .objects)
          (([] : List (NfsTracepoint × Nat)).map Prod.snd) :=
        Attached.begin .nfs s
      dsimp only
      split
      next attempted => exact .failed (started.attachAll attempted)
      next attempted => exact .succeeded (started.attachAll attempted)

theorem loadNFSKprobe_loads (s : State) (outcomes : KprobeOutcomes) :
    Loads .nfsKprobe installNFSKprobe s (loadNFSKprobe s outcomes) := by
  unfold loadNFSKprobe
  split
  next => exact .unchanged
  next =>
    split
    next => exact .unchanged
    next =>
      have started : Attached .nfsKprobe s (s.create .nfsKprobe .objects)
          (([] : List (NfsFunction × Nat)).map Prod.snd) :=
        Attached.begin .nfsKprobe s
      dsimp only
      split
      next attempted => exact .failed (started.attachAll attempted)
      next attempted =>
        have entered := started.attachAll attempted
        split
        next attempted' => exact .failed (entered.attachAll attempted')
        next attempted' => exact .succeeded (entered.attachAll attempted')

/-! ### Every reachable state -/

structure State.Sound (s : State) : Prop where
  consistent : s.Consistent
  closed : ∀ id ∈ s.closed, id < s.created.length

namespace State.Sound

variable {owner : Subsystem} {base s : State} {links : List Nat}

theorem init_sound : State.init.Sound where
  consistent :=
    { hists := fun subsystem => by cases subsystem <;> rfl
      owners := fun id resource found => by
        have absent := found.1
        simp [State.init] at absent
      links := fun id member => by cases member }
  closed id member := by cases member

/-- Only the map pointers, the flags of the subsystems and the links matter. -/
theorem withPrograms (sound : s.Sound) {p : Programs}
    (hists : p.hists = s.programs.hists) (active : p.active = s.programs.active)
    (links : p.links = s.programs.links) : State.Sound { s with programs := p } where
  consistent :=
    { hists := by
        rw [hists, active]
        exact sound.consistent.hists
      owners := by
        rw [active]
        exact sound.consistent.owners
      links := by
        rw [links, active]
        exact sound.consistent.links }
  closed := sound.closed

theorem open_kept (attached : Attached owner base s links)
    {id : Nat} {resource : Resource} (inside : id < base.created.length)
    (found : s.created[id]? = some resource) :
    base.created[id]? = some resource := by
  rw [← attached.kept id inside]
  exact found

/-- A loader that fails closes what it has created. -/
theorem failed (sound : base.Sound) (attached : Attached owner base s links) :
    (s.close (links ++ [base.created.length])).Sound where
  consistent :=
    { hists := by
        rw [close, attached.programs]
        exact sound.consistent.hists
      owners := by
        rintro id resource ⟨found, opened⟩
        simp only [close, attached.closed, List.mem_append, not_or] at opened found ⊢
        rw [attached.programs]
        rcases Nat.lt_or_ge id base.created.length with earlier | later
        · exact sound.consistent.owners id resource
            ⟨open_kept attached earlier found, opened.1⟩
        · rcases (attached.new id resource later found).2 with objects | link
          · exact absurd (List.mem_singleton.mpr objects) opened.2.2
          · exact absurd link opened.2.1
      links := by
        intro id member
        simp only [close, attached.programs] at member ⊢
        obtain ⟨resource, ⟨found, opened⟩, isLink, active⟩ :=
          sound.consistent.links id member
        have earlier := (List.getElem?_eq_some_iff.mp found).1
        refine ⟨resource, ⟨?_, ?_⟩, isLink, active⟩
        · dsimp only
          rw [attached.kept id earlier]
          exact found
        · simp only [attached.closed, List.mem_append, List.mem_singleton, not_or]
          refine ⟨opened, fun link => ?_, earlier.ne⟩
          have later := (attached.links id link).1
          omega }
  closed id member := by
    simp only [close, attached.closed, List.mem_append, List.mem_singleton]
      at member ⊢
    rcases member with earlier | link | rfl
    · exact (sound.closed id earlier).trans attached.objects
    · exact (List.getElem?_eq_some_iff.mp (attached.links id link).2).1
    · exact attached.objects

/-- A loader that succeeds makes its subsystem active. -/
theorem succeeded (sound : base.Sound) (attached : Attached owner base s links)
    {p : Programs} (ownHists : (p.hists owner).isSome = true)
    (ownActive : p.active owner = true)
    (others : ∀ other, other ≠ owner →
      p.hists other = base.programs.hists other ∧
        p.active other = base.programs.active other)
    (allLinks : p.links = base.programs.links ++ links) :
    State.Sound { s with programs := p } := by
  have stays : ∀ {subsystem}, base.programs.active subsystem = true →
      p.active subsystem = true := by
    intro subsystem before
    by_cases same : subsystem = owner
    · rw [same]
      exact ownActive
    · rw [(others subsystem same).2]
      exact before
  refine ⟨⟨?_, ?_, ?_⟩, ?_⟩
  · intro subsystem
    by_cases same : subsystem = owner
    · rw [same, ownHists, ownActive]
    · rw [(others subsystem same).1, (others subsystem same).2]
      exact sound.consistent.hists subsystem
  · rintro id resource ⟨found, opened⟩
    dsimp only at found opened ⊢
    rw [attached.closed] at opened
    rcases Nat.lt_or_ge id base.created.length with earlier | later
    · exact stays (sound.consistent.owners id resource
        ⟨open_kept attached earlier found, opened⟩)
    · rw [(attached.new id resource later found).1]
      exact ownActive
  · intro id member
    dsimp only at member ⊢
    rw [allLinks] at member
    rcases List.mem_append.mp member with earlier | link
    · obtain ⟨resource, ⟨found, opened⟩, isLink, before⟩ :=
        sound.consistent.links id earlier
      have inside := (List.getElem?_eq_some_iff.mp found).1
      refine ⟨resource, ⟨?_, ?_⟩, isLink, stays before⟩
      · dsimp only
        rw [attached.kept id inside]
        exact found
      · dsimp only
        rw [attached.closed]
        exact opened
    · obtain ⟨later, found⟩ := attached.links id link
      refine ⟨⟨owner, .link⟩, ⟨found, ?_⟩, rfl, ownActive⟩
      dsimp only
      rw [attached.closed]
      intro shut
      have inside := sound.closed id shut
      omega
  · intro id shut
    dsimp only at shut ⊢
    rw [attached.closed] at shut
    exact (sound.closed id shut).trans attached.objects

end State.Sound

/-- The loader stops after it has handed out the map and before both programs are
attached. -/
def BlockOutcomes.Halfway (outcomes : BlockOutcomes) : Prop :=
  outcomes.spec = true ∧ outcomes.assign = true ∧
    ¬ (outcomes.issue = true ∧ outcomes.complete = true)

theorem startBlock_sound {outcomes : BlockOutcomes}
    (whole : ¬ outcomes.Halfway) : (startBlock .init outcomes).Sound := by
  obtain ⟨spec, assign, issue, complete⟩ := outcomes
  cases spec with
  | false => exact State.Sound.init_sound
  | true =>
      cases assign with
      | false => exact State.Sound.init_sound
      | true =>
          have both : issue = true ∧ complete = true := by
            by_contra broken
            exact whole ⟨rfl, rfl, broken⟩
          obtain ⟨rfl, rfl⟩ := both
          refine State.Sound.init_sound.succeeded
            (Attached.begin .block .init).attach.attach rfl rfl ?_ rfl
          intro other apart
          cases other with
          | block => exact absurd rfl apart
          | nfs => exact ⟨rfl, rfl⟩
          | nfsKprobe => exact ⟨rfl, rfl⟩

/-- What the loader of another subsystem does to the block subsystem: nothing. -/
structure SameBlock (s t : State) : Prop where
  hists : t.programs.blockHists = s.programs.blockHists
  active : t.programs.blockActive = s.programs.blockActive

theorem SameBlock.trans {s t u : State} (first : SameBlock s t)
    (second : SameBlock t u) : SameBlock s u :=
  ⟨second.hists.trans first.hists, second.active.trans first.active⟩

theorem Attached.sameBlock {owner : Subsystem} {base s : State}
    {links : List Nat} (attached : Attached owner base s links) :
    SameBlock base s := by
  constructor <;> rw [attached.programs]

/-- The same for the NFS subsystem. -/
structure SameNFS (s t : State) : Prop where
  active : t.programs.nfsActive = s.programs.nfsActive
  retry : t.programs.retryNFS = s.programs.retryNFS

theorem Attached.sameNFS {owner : Subsystem} {base s : State}
    {links : List Nat} (attached : Attached owner base s links) :
    SameNFS base s := by
  constructor <;> rw [attached.programs]

theorem Loads.of_failed {owner : Subsystem}
    {install : Nat → List Nat → Programs → Programs} {s t : State}
    (loads : Loads owner install s (t, false)) :
    SameBlock s t ∧ SameNFS s t ∧ (s.Sound → t.Sound) := by
  cases loads with
  | unchanged => exact ⟨⟨rfl, rfl⟩, ⟨rfl, rfl⟩, id⟩
  | failed attached =>
      obtain ⟨hists, active⟩ := attached.sameBlock
      obtain ⟨nfsActive, retry⟩ := attached.sameNFS
      exact ⟨⟨hists, active⟩, ⟨nfsActive, retry⟩,
        fun sound => sound.failed attached⟩

theorem loadNFS_succeeded {s t : State} {outcomes : NfsOutcomes}
    (loaded : loadNFS s outcomes = (t, true)) :
    SameBlock s t ∧ (s.Sound → State.Sound
      { t with programs := { t.programs with nfsActive := true } }) := by
  have loads := loadNFS_loads s outcomes
  rw [loaded] at loads
  cases loads with
  | succeeded attached =>
      obtain ⟨hists, active⟩ := attached.sameBlock
      refine ⟨⟨hists, active⟩, fun sound => ?_⟩
      refine sound.succeeded attached rfl rfl ?_
        (by rw [installNFS, attached.programs])
      intro other apart
      rw [attached.programs]
      cases other with
      | nfs => exact absurd rfl apart
      | block => exact ⟨rfl, rfl⟩
      | nfsKprobe => exact ⟨rfl, rfl⟩

theorem loadNFSKprobe_succeeded {s t : State} {outcomes : KprobeOutcomes}
    (loaded : loadNFSKprobe s outcomes = (t, true)) :
    SameBlock s t ∧ SameNFS s t ∧ (s.Sound → State.Sound
      { t with programs := { t.programs with nfsKprobeActive := true } }) := by
  have loads := loadNFSKprobe_loads s outcomes
  rw [loaded] at loads
  cases loads with
  | succeeded attached =>
      obtain ⟨hists, active⟩ := attached.sameBlock
      obtain ⟨nfsActive, retry⟩ := attached.sameNFS
      refine ⟨⟨hists, active⟩, ⟨nfsActive, retry⟩, fun sound => ?_⟩
      refine sound.succeeded attached rfl rfl ?_
        (by rw [installNFSKprobe, attached.programs])
      intro other apart
      rw [attached.programs]
      cases other with
      | nfsKprobe => exact absurd rfl apart
      | block => exact ⟨rfl, rfl⟩
      | nfs => exact ⟨rfl, rfl⟩

/-- After its start the NFS subsystem is active or will be tried again. -/
theorem startNFS_spec (s : State) (outcomes : NfsOutcomes) :
    SameBlock s (startNFS s outcomes) ∧
      (s.Sound → (startNFS s outcomes).Sound) ∧
        ((startNFS s outcomes).programs.nfsActive = true ∨
          (startNFS s outcomes).programs.retryNFS = true) := by
  unfold startNFS
  rcases loaded : loadNFS s outcomes with ⟨t, _ | _⟩
  · obtain ⟨⟨hists, active⟩, -, kept⟩ :=
      (loaded ▸ loadNFS_loads s outcomes).of_failed
    exact ⟨⟨hists, active⟩, fun sound => (kept sound).withPrograms rfl rfl rfl,
      .inr rfl⟩
  · obtain ⟨⟨hists, active⟩, activated⟩ := loadNFS_succeeded loaded
    exact ⟨⟨hists, active⟩, activated, .inl rfl⟩

theorem startNFSKprobe_spec (s : State) (outcomes : KprobeOutcomes) :
    SameBlock s (startNFSKprobe s outcomes) ∧
      SameNFS s (startNFSKprobe s outcomes) ∧
        (s.Sound → (startNFSKprobe s outcomes).Sound) ∧
          ((startNFSKprobe s outcomes).programs.nfsKprobeActive = true ∨
            (startNFSKprobe s outcomes).programs.retryNFSKprobe = true) := by
  unfold startNFSKprobe
  rcases loaded : loadNFSKprobe s outcomes with ⟨t, _ | _⟩
  · obtain ⟨⟨hists, active⟩, ⟨nfsActive, retry⟩, kept⟩ :=
      (loaded ▸ loadNFSKprobe_loads s outcomes).of_failed
    exact ⟨⟨hists, active⟩, ⟨nfsActive, retry⟩,
      fun sound => (kept sound).withPrograms rfl rfl rfl, .inr rfl⟩
  · obtain ⟨⟨hists, active⟩, ⟨nfsActive, retry⟩, activated⟩ :=
      loadNFSKprobe_succeeded loaded
    exact ⟨⟨hists, active⟩, ⟨nfsActive, retry⟩, activated, .inl rfl⟩

theorem retryNFS_spec (s : State) (outcomes : NfsOutcomes) :
    SameBlock s (retryNFS s outcomes) ∧
      (s.Sound → (retryNFS s outcomes).Sound) := by
  unfold retryNFS
  split
  next =>
    rcases loaded : loadNFS s outcomes with ⟨t, _ | _⟩
    · obtain ⟨same, -, kept⟩ := (loaded ▸ loadNFS_loads s outcomes).of_failed
      exact ⟨same, kept⟩
    · obtain ⟨⟨hists, active⟩, activated⟩ := loadNFS_succeeded loaded
      exact ⟨⟨hists, active⟩,
        fun sound => (activated sound).withPrograms rfl rfl rfl⟩
  next => exact ⟨⟨rfl, rfl⟩, id⟩

theorem retryNFSKprobe_spec (s : State) (outcomes : KprobeOutcomes) :
    SameBlock s (retryNFSKprobe s outcomes) ∧
      (s.Sound → (retryNFSKprobe s outcomes).Sound) := by
  unfold retryNFSKprobe
  split
  next =>
    rcases loaded : loadNFSKprobe s outcomes with ⟨t, _ | _⟩
    · obtain ⟨same, -, kept⟩ :=
        (loaded ▸ loadNFSKprobe_loads s outcomes).of_failed
      exact ⟨same, kept⟩
    · obtain ⟨⟨hists, active⟩, -, activated⟩ := loadNFSKprobe_succeeded loaded
      exact ⟨⟨hists, active⟩,
        fun sound => (activated sound).withPrograms rfl rfl rfl⟩
  next => exact ⟨⟨rfl, rfl⟩, id⟩

theorem retryFailed_spec (s : State)
    (ticks : List (NfsOutcomes × KprobeOutcomes)) :
    SameBlock s (retryFailed s ticks) ∧
      (s.Sound → (retryFailed s ticks).Sound) := by
  induction ticks using List.reverseRecOn with
  | nil => exact ⟨⟨rfl, rfl⟩, id⟩
  | append_singleton ticks outcomes induction =>
      obtain ⟨block, kept⟩ := induction
      rw [retryFailed, stateAfter_append_singleton]
      obtain ⟨nfsBlock, nfsKept⟩ :=
        retryNFS_spec (retryFailed s ticks) outcomes.1
      obtain ⟨kprobeBlock, kprobeKept⟩ :=
        retryNFSKprobe_spec (retryNFS (retryFailed s ticks) outcomes.1)
          outcomes.2
      exact ⟨(block.trans nfsBlock).trans kprobeBlock,
        fun sound => kprobeKept (nfsKept (kept sound))⟩

theorem startBlock_halfway {outcomes : BlockOutcomes}
    (halfway : outcomes.Halfway) :
    (startBlock .init outcomes).programs.blockHists.isSome = true ∧
      (startBlock .init outcomes).programs.blockActive = false := by
  obtain ⟨spec, assign, issue, complete⟩ := outcomes
  obtain ⟨rfl, rfl, broken⟩ := halfway
  cases issue with
  | false => exact ⟨rfl, rfl⟩
  | true =>
      cases complete with
      | false => exact ⟨rfl, rfl⟩
      | true => exact absurd ⟨rfl, rfl⟩ broken

/-! ### `LoadAndAttach` before its last check -/

def startedBlock (enable : Enabled) (outcomes : Outcomes) : State :=
  if enable.block then startBlock .init outcomes.block else .init

def startedNFS (enable : Enabled) (outcomes : Outcomes) : State :=
  if enable.nfs then startNFS (startedBlock enable outcomes) outcomes.nfs
  else startedBlock enable outcomes

def started (enable : Enabled) (outcomes : Outcomes) : State :=
  if enable.nfsKprobe then
    startNFSKprobe (startedNFS enable outcomes) outcomes.nfsKprobe
  else startedNFS enable outcomes

theorem startedNFS_spec (enable : Enabled) (outcomes : Outcomes) :
    SameBlock (startedBlock enable outcomes) (startedNFS enable outcomes) ∧
      ((startedBlock enable outcomes).Sound →
        (startedNFS enable outcomes).Sound) ∧
      (enable.nfs = true →
        (startedNFS enable outcomes).programs.nfsActive = true ∨
          (startedNFS enable outcomes).programs.retryNFS = true) := by
  unfold startedNFS
  split
  next =>
    obtain ⟨same, kept, tried⟩ :=
      startNFS_spec (startedBlock enable outcomes) outcomes.nfs
    exact ⟨same, kept, fun _ => tried⟩
  next disabled => exact ⟨⟨rfl, rfl⟩, id, fun enabled => absurd enabled disabled⟩

theorem loadAndAttach_eq {enable : Enabled} {outcomes : Outcomes} {s : State}
    (loaded : loadAndAttach enable outcomes = some s) :
    s = started enable outcomes := by
  unfold loadAndAttach at loaded
  simp only [Option.ite_none_left_eq_some, Option.some.injEq] at loaded
  exact loaded.2.symm

theorem started_spec (enable : Enabled) (outcomes : Outcomes) :
    SameBlock (startedBlock enable outcomes) (started enable outcomes) ∧
      ((startedBlock enable outcomes).Sound →
        (started enable outcomes).Sound) ∧
      (enable.nfs = true ∨ enable.nfsKprobe = true →
        loadAndAttach enable outcomes = some (started enable outcomes)) := by
  obtain ⟨nfsSame, nfsKept, nfsTried⟩ := startedNFS_spec enable outcomes
  have returned : loadAndAttach enable outcomes =
      if (enable.block || enable.nfs || enable.nfsKprobe) &&
          !((started enable outcomes).programs.blockActive ||
            (started enable outcomes).programs.nfsActive ||
            (started enable outcomes).programs.nfsKprobeActive) &&
          !(started enable outcomes).programs.retryNFS &&
          !(started enable outcomes).programs.retryNFSKprobe
      then none else some (started enable outcomes) := rfl
  rw [returned]
  unfold started
  split
  next enabled =>
    obtain ⟨same, ⟨nfsActive, retry⟩, kept, tried⟩ :=
      startNFSKprobe_spec (startedNFS enable outcomes) outcomes.nfsKprobe
    refine ⟨nfsSame.trans same, fun sound => kept (nfsKept sound), fun _ => ?_⟩
    apply if_neg
    rcases tried with active | retried
    · simp [active]
    · simp [retried]
  next disabled =>
    refine ⟨nfsSame, nfsKept, ?_⟩
    rintro (enabled | enabled)
    · apply if_neg
      rcases nfsTried enabled with active | retried
      · simp [active]
      · simp [retried]
    · exact absurd enabled disabled

theorem startedBlock_sound {enable : Enabled} {outcomes : Outcomes}
    (whole : ¬ (enable.block = true ∧ outcomes.block.Halfway)) :
    (startedBlock enable outcomes).Sound := by
  unfold startedBlock
  split
  next enabled => exact startBlock_sound fun halfway => whole ⟨enabled, halfway⟩
  next => exact State.Sound.init_sound

/-- With nothing to try again, a block subsystem that stopped halfway is
reported. -/
theorem loadAndAttach_block_failed {enable : Enabled} {outcomes : Outcomes}
    (enabled : enable.block = true) (halfway : outcomes.block.Halfway)
    (nfs : enable.nfs = false) (nfsKprobe : enable.nfsKprobe = false) :
    loadAndAttach enable outcomes = none := by
  obtain ⟨block, _, _⟩ := enable
  obtain ⟨⟨spec, assign, issue, complete⟩, _, _⟩ := outcomes
  obtain ⟨rfl, rfl, broken⟩ := halfway
  obtain rfl := enabled
  obtain rfl := nfs
  obtain rfl := nfsKprobe
  cases issue with
  | false => rfl
  | true =>
      cases complete with
      | false => rfl
      | true => exact absurd ⟨rfl, rfl⟩ broken

/-- `loadBlock` stores its objects before it attaches anything and does not take
them back: of all the steps that may fail, only those two attachments leave
`Programs` inconsistent, where a subsystem to try again keeps it in use. -/
theorem programs_consistent_iff (enable : Enabled) (outcomes : Outcomes)
    (ticks : List (NfsOutcomes × KprobeOutcomes)) :
    (∀ s, loadAndAttach enable outcomes = some s →
      (retryFailed s ticks).Consistent) ↔
      (enable.block = true → outcomes.block.Halfway →
        enable.nfs = false ∧ enable.nfsKprobe = false) := by
  obtain ⟨same, kept, returned⟩ := started_spec enable outcomes
  obtain ⟨retrySame, retryKept⟩ := retryFailed_spec (started enable outcomes) ticks
  constructor
  · intro consistent enabled halfway
    by_contra other
    have tried : enable.nfs = true ∨ enable.nfsKprobe = true := by
      rw [not_and_or, Bool.not_eq_false, Bool.not_eq_false] at other
      exact other
    have hists := (consistent _ (returned tried)).hists .block
    obtain ⟨present, inactive⟩ := startBlock_halfway halfway
    have start : startedBlock enable outcomes = startBlock .init outcomes.block :=
      if_pos enabled
    obtain ⟨keptHists, keptActive⟩ := same.trans retrySame
    rw [start] at keptHists keptActive
    simp only [Programs.hists, Programs.active] at hists
    rw [keptHists, keptActive, present, inactive] at hists
    cases hists
  · intro condition s loaded
    by_cases halfway : enable.block = true ∧ outcomes.block.Halfway
    · obtain ⟨nfs, nfsKprobe⟩ := condition halfway.1 halfway.2
      rw [loadAndAttach_block_failed halfway.1 halfway.2 nfs nfsKprobe] at loaded
      cases loaded
    · obtain rfl := loadAndAttach_eq loaded
      exact (retryKept (kept (startedBlock_sound halfway))).consistent

/-- A kernel without the `block_rq_complete` tracepoint. -/
def withoutCompletion : Outcomes where
  block := ⟨true, true, true, false⟩
  nfs := ⟨true, true, fun _ => true⟩
  nfsKprobe := ⟨true, true, fun _ => true, fun _ => true⟩

/-- The block histograms and the closed link of `block_rq_issue` stay in
`Programs`, beside an NFS subsystem that works. -/
theorem closed_block_link_is_kept :
    ∃ s, loadAndAttach ⟨true, true, false⟩ withoutCompletion = some s ∧
      s.programs.blockHists = some 0 ∧ s.programs.blockActive = false ∧
        s.closed = [1, 0] ∧ s.programs.links = [1, 3, 4, 5, 6] ∧
          ¬ s.Consistent := by
  refine ⟨_, rfl, rfl, rfl, rfl, rfl, ?_⟩
  intro consistent
  have hists := consistent.hists .block
  cases hists

end KubevirtMetrics.Ebpf.Loader
