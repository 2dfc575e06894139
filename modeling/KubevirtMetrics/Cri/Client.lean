import KubevirtMetrics.Data.Marshal
import KubevirtMetrics.Data.Run
import KubevirtMetrics.Virt.Connect

namespace KubevirtMetrics.Cri

open Data Virt
open Data.Json (Into Members field unmarshal ShowsInt)

/-! The compute container of a pod and its process, as `cri.go` asks the container runtime
for them. -/

inductive ContainerState
  | created
  | running
  | exited
  | unknown
  deriving DecidableEq

/-- A container of the runtime, with what a verbose answer says about it. -/
structure Container where
  id : String
  state : ContainerState
  labels : Table String String
  info : Table String (List Char)

structure ContainerFilter where
  state : ContainerState
  labelSelector : List (String × String)

def ContainerFilter.accepts (filter : ContainerFilter) (container : Container) : Bool :=
  container.state == filter.state &&
    filter.labelSelector.all fun label => container.labels.lookup label.1 == some label.2

/-- The calls that the client makes; each may fail. -/
structure RuntimeService where
  listContainers : ContainerFilter → Option (List Container)
  containerStatus : String → Option (Table String (List Char))

inductive CRIError
  | listing
  | noContainer
  | status (id : String)
  | noInfo
  | parsingInfo
  | noPID
  deriving DecidableEq

/-- The value of a key of a map: a later member replaces an earlier one. -/
def lastMember? (members : Members) (key : String) : Option Json :=
  (members.reverse.find? fun member => member.1 == key.toList).map Prod.snd

/-- A `map[string]json.RawMessage`. -/
def rawMap : Into Members := .object fun _ members => some members

def parsePID (info : Table String (List Char)) : Except CRIError Int :=
  match info.lookup "info" with
  | none => .error .noInfo
  | some infoJSON =>
      match unmarshal 0 (.object fun old members => field "pid" .int old members)
        infoJSON with
      | none => .error .parsingInfo
      | some pid =>
          if pid > 0 then .ok pid
          else
            let nested := unmarshal [] rawMap infoJSON
            match (nested.bind (lastMember? · "init_pid")).bind (Into.int 0) with
            | some pid => if pid > 0 then .ok pid else .error .noPID
            | none => .error .noPID

def extractPID (service : RuntimeService) (containerID : String) : Except CRIError Int :=
  match service.containerStatus containerID with
  | none => .error (.status containerID)
  | some info => parsePID info

def computeFilter (podName namespace_ : String) : ContainerFilter where
  state := .running
  labelSelector := [("io.kubernetes.container.name", "compute"),
    ("io.kubernetes.pod.name", podName), ("io.kubernetes.pod.namespace", namespace_)]

def findComputePID (service : RuntimeService) (podName namespace_ : String) :
    Except CRIError ContainerInfo :=
  match service.listContainers (computeFilter podName namespace_) with
  | none => .error .listing
  | some [] => .error .noContainer
  | some (container :: _) =>
      match extractPID service container.id with
      | .error error => .error error
      | .ok pid => .ok ⟨container.id, pid⟩

/-! ### What is found -/

theorem computeFilter_accepts {podName namespace_ : String} {container : Container} :
    (computeFilter podName namespace_).accepts container = true ↔
      container.state = .running ∧
      container.labels.lookup "io.kubernetes.container.name" = some "compute" ∧
      container.labels.lookup "io.kubernetes.pod.name" = some podName ∧
      container.labels.lookup "io.kubernetes.pod.namespace" = some namespace_ := by
  simp only [ContainerFilter.accepts, computeFilter, List.all_cons, List.all_nil,
    Bool.and_true, Bool.and_eq_true, beq_iff_eq]

theorem findComputePID_ok {service : RuntimeService} {podName namespace_ : String}
    {info : ContainerInfo}
    (found : findComputePID service podName namespace_ = .ok info) :
    ∃ container others status,
      service.listContainers (computeFilter podName namespace_) =
        some (container :: others) ∧
      info.containerID = container.id ∧
        service.containerStatus container.id = some status ∧
      parsePID status = .ok info.pid := by
  unfold findComputePID at found
  split at found
  next => cases found
  next => cases found
  next container others listed =>
    unfold extractPID at found
    cases asked : service.containerStatus container.id with
    | none =>
        rw [asked] at found
        cases found
    | some status =>
        rw [asked] at found
        dsimp only at found
        cases parsed : parsePID status with
        | error error =>
            rw [parsed] at found
            cases found
        | ok pid =>
            rw [parsed] at found
            cases found
            exact ⟨container, others, status, listed, rfl, asked, parsed⟩

/-! ### The texts of two runtimes -/

/-- The process of a container in the text about it: under its own name, or under the name
that is tried second. -/
inductive ShowsPID (pid : Int) (members : Members) : Prop
  | own (shown : ShowsInt members "pid" pid)
  | init {other : Int} (shown : ShowsInt members "pid" other) (idle : other ≤ 0)
      (last : lastMember? members "init_pid" = some (.int pid)) (small : pid < 2 ^ 63)

/-- Any text of the object will do. -/
structure DescribesPID (pid : Int) (info : Table String (List Char)) : Prop where
  positive : 0 < pid
  described : ∃ members text, info.lookup "info" = some text ∧
    (Json.object members).Writes text ∧
      (Json.object members).depth ≤ Json.maxNestingDepth ∧
    ShowsPID pid members

theorem parsePID_of_describes {pid : Int} {info : Table String (List Char)}
    (describes : DescribesPID pid info) : parsePID info = .ok pid := by
  obtain ⟨positive, members, text, present, writes, shallow, shows⟩ := describes
  have read := Json.read_of_writes writes shallow
  unfold parsePID
  rw [present]
  simp only [unmarshal, read, Option.bind_some, Json.Into.object, rawMap]
  cases shows with
  | own shown =>
      rw [Json.field_int shown]
      exact if_pos positive
  | init shown idle last small =>
      rw [Json.field_int shown]
      dsimp only
      rw [if_neg (Int.not_lt.mpr idle), last, Option.bind_some,
        Json.Into.int_int 0 (by omega) small]
      exact if_pos positive

/-! ### A runtime over time -/

inductive RuntimeEvent
  | create (id : String) (labels : Table String String)
  | report (id : String) (state : ContainerState) (info : Table String (List Char))
  | remove (id : String)

def happen (containers : List Container) : RuntimeEvent → List Container
  | .create id labels => containers ++ [⟨id, .created, labels, ∅⟩]
  | .report id state info =>
      containers.map fun container =>
        if container.id = id then { container with state := state, info := info }
          else container
  | .remove id => containers.filter (·.id ≠ id)

def containersAfter (history : List RuntimeEvent) : List Container :=
  stateAfter happen [] history

def created? : RuntimeEvent → Option (String × Table String String)
  | .create id labels => some (id, labels)
  | _ => none

def creations (history : List RuntimeEvent) : List (String × Table String String) :=
  history.filterMap created?

/-- The runtime never gives a container the name of an earlier one. -/
def FreshIDs (history : List RuntimeEvent) : Prop :=
  ((creations history).map Prod.fst).Nodup

/-- A container keeps the labels that it was created with. -/
theorem labels_of_mem_containersAfter {history : List RuntimeEvent}
    {container : Container} (present : container ∈ containersAfter history) :
    (container.id, container.labels) ∈ creations history := by
  induction history using List.reverseRecOn generalizing container with
  | nil => cases present
  | append_singleton history event induction =>
      rw [containersAfter, stateAfter_append_singleton] at present
      unfold creations
      rw [List.filterMap_append, List.mem_append]
      cases event with
      | create id labels =>
          rcases List.mem_append.mp present with earlier | last
          · exact .inl (induction earlier)
          · rw [List.mem_singleton.mp last]
            exact .inr List.mem_cons_self
      | report id state info =>
          obtain ⟨old, earlier, rfl⟩ := List.mem_map.mp present
          have kept : (old.id, old.labels) ∈ creations history := induction earlier
          left
          split
          next => exact kept
          next => exact kept
      | remove id => exact .inl (induction (List.mem_of_mem_filter present))

/-- The pod that the labels of a container name. -/
def podOf (labels : Table String String) : String × String :=
  (labels.getD "io.kubernetes.pod.namespace" "", labels.getD "io.kubernetes.pod.name" "")

def owner (history : List RuntimeEvent) (id : String) : String × String :=
  match (creations history).find? fun creation => creation.1 = id with
  | some creation => podOf creation.2
  | none => ("", "")

theorem owner_of_mem {history : List RuntimeEvent} (fresh : FreshIDs history)
    {id : String} {labels : Table String String}
    (created : (id, labels) ∈ creations history) :
    owner history id = podOf labels := by
  have found := find?_of_nodup fresh created
  unfold owner
  rw [found]

/-- A service that answers from what the runtime knows at the time of each call, in any
order, or fails. -/
structure Serves (history : List RuntimeEvent) (service : RuntimeService) : Prop where
  listContainers : ∀ {filter answer}, service.listContainers filter = some answer →
    ∃ past, past <+: history ∧ answer.Perm ((containersAfter past).filter filter.accepts)
  containerStatus : ∀ {id info}, service.containerStatus id = some info →
    ∃ past, past <+: history ∧ ∃ container ∈ containersAfter past,
      container.id = id ∧ container.info = info

/-- The service of a runtime at one time, while no call fails. -/
def serviceAt (past : List RuntimeEvent) : RuntimeService where
  listContainers filter := some ((containersAfter past).filter filter.accepts)
  containerStatus id := ((containersAfter past).find? (·.id = id)).map Container.info

theorem serves_serviceAt {past history : List RuntimeEvent} (earlier : past <+: history) :
    Serves history (serviceAt past) where
  listContainers := by
    intro filter answer listed
    exact ⟨past, earlier, .of_eq (Option.some.inj listed).symm⟩
  containerStatus := by
    intro id info asked
    obtain ⟨container, found, same⟩ := Option.map_eq_some_iff.mp asked
    have named : container.id = id := by simpa using List.find?_some found
    exact ⟨past, earlier, container, List.mem_of_find?_eq_some found, named, same⟩

/-- At whatever times the runtime is asked, the container is one of the pod. -/
theorem owner_of_findComputePID {history : List RuntimeEvent} (fresh : FreshIDs history)
    {service : RuntimeService} (serves : Serves history service)
    {podName namespace_ : String} {info : ContainerInfo}
    (found : findComputePID service podName namespace_ = .ok info) :
    owner history info.containerID = (namespace_, podName) := by
  obtain ⟨container, others, status, listed, same, -⟩ := findComputePID_ok found
  obtain ⟨past, earlier, answer⟩ := serves.listContainers listed
  obtain ⟨present, accepted⟩ := List.mem_filter.mp (answer.mem_iff.mp List.mem_cons_self)
  obtain ⟨-, -, name, ns⟩ := computeFilter_accepts.mp accepted
  have created : (container.id, container.labels) ∈ creations history :=
    (earlier.sublist.filterMap created?).mem (labels_of_mem_containersAfter present)
  rw [same, owner_of_mem fresh created, podOf, Table.getD, Table.getD, ns, name]
  rfl

/-- The answers of a poll to `find` come from the runtime. -/
def AnsweredBy (history : List RuntimeEvent) (pods : List PodInfo)
    (find : Nat → Option ContainerInfo) : Prop :=
  ∀ i pod info, pods[i]? = some pod → find i = some info →
    ∃ service, Serves history service ∧
      findComputePID service pod.podName pod.namespace_ = .ok info

theorem AnsweredBy.namedBy {history : List RuntimeEvent} (fresh : FreshIDs history)
    {pods : List PodInfo} {find : Nat → Option ContainerInfo}
    (answered : AnsweredBy history pods find) :
    NamedBy (owner history) (targets pods find) := by
  intro target listed
  obtain ⟨i, pod, found⟩ := mem_targets.mp listed
  obtain ⟨service, serves, ok⟩ := answered i target.pod target.container pod found
  exact owner_of_findComputePID fresh serves ok

/-! ### A container that runs -/

/-- The one container with the name `compute` that runs in a pod. -/
structure RunsCompute (containers : List Container) (podName namespace_ : String)
    (container : Container) : Prop where
  present : container ∈ containers
  running : container.state = .running
  compute : container.labels.lookup "io.kubernetes.container.name" = some "compute"
  name : container.labels.lookup "io.kubernetes.pod.name" = some podName
  namespaced : container.labels.lookup "io.kubernetes.pod.namespace" = some namespace_
  only : ∀ other ∈ containers, (computeFilter podName namespace_).accepts other →
    other = container

theorem RunsCompute.accepted {containers : List Container} {podName namespace_ : String}
    {container : Container} (runs : RunsCompute containers podName namespace_ container) :
    (computeFilter podName namespace_).accepts container = true :=
  computeFilter_accepts.mpr ⟨runs.running, runs.compute, runs.name, runs.namespaced⟩

/-- The process of the container is found, whichever of the two names and whatever text
the runtime uses for it. -/
theorem findComputePID_running {containers : List Container} {podName namespace_ : String}
    {container : Container} (runs : RunsCompute containers podName namespace_ container)
    {pid : Int} (describes : DescribesPID pid container.info) {service : RuntimeService}
    {answer : List Container}
    (listed : service.listContainers (computeFilter podName namespace_) = some answer)
    (complete : answer.Perm (containers.filter
      (computeFilter podName namespace_).accepts))
    (asked : service.containerStatus container.id = some container.info) :
    findComputePID service podName namespace_ = .ok ⟨container.id, pid⟩ := by
  have inside : container ∈ answer :=
    complete.mem_iff.mpr (List.mem_filter.mpr ⟨runs.present, runs.accepted⟩)
  cases answer with
  | nil => cases inside
  | cons first others =>
      obtain ⟨present, accepted⟩ :=
        List.mem_filter.mp (complete.mem_iff.mp
          (List.mem_cons_self (a := first) (l := others)))
      obtain rfl : first = container := runs.only first present accepted
      rw [findComputePID, listed]
      dsimp only
      rw [extractPID, asked]
      dsimp only
      rw [parsePID_of_describes describes]

def computeLabels : Table String String :=
  ((∅ : Table String String).insert "io.kubernetes.container.name" "compute").insert
    "io.kubernetes.pod.name" "virt-launcher-vm" |>.insert
    "io.kubernetes.pod.namespace" "tenant-a"

def infoOf (members : Members) : Table String (List Char) :=
  (∅ : Table String (List Char)).insert "info" (Json.object members).marshal

/-- A text with the process under the second name. -/
def initMembers : Members :=
  [("sandboxID".toList, .string "9f".toList), ("pid".toList, .int 0),
    ("init_pid".toList, .int 42)]

def computeContainer : Container :=
  ⟨"cri-o://1", .running, computeLabels, infoOf initMembers⟩

end KubevirtMetrics.Cri
