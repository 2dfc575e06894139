import KubevirtMetrics.Qmp.Poll

namespace KubevirtMetrics.Qmp

open Data Virt

/-! Which disks a scrape arms. -/

def diskID (dev : BlockDevice) : Option String :=
  (extractDiskInfo dev.effectiveQDev).map Prod.snd

/-- A disk without the configured histogram. -/
def NeedsHistogram (cfg : PollerConfig) (dev : BlockDevice) : Prop :=
  ∀ hist, dev.stats.rdLatencyHistogram = some hist →
    hist.boundaries ≠ cfg.boundariesNs.map fun b : Int => (b : ℚ)

namespace Scrape

def Commands (cfg : PollerConfig) (s : Scrape) (id : String) : Prop :=
  ⟨id, cfg.boundariesNs⟩ ∈ s.commands

def Armed (s : Scrape) (id : String) : Prop :=
  s.armed.getD id false = true

theorem armDevice_state (cfg : PollerConfig) (answers : Answers) (s : Scrape)
    (entry : BlockDevice × Nat) :
    (diskID entry.1 = none ∧ (s.armDevice cfg answers entry).state = s) ∨
    ∃ id, diskID entry.1 = some id ∧
      ((s.Armed id ∧ (s.armDevice cfg answers entry).state = s) ∨
      (¬ s.Armed id ∧ hasHistograms entry.1 = true ∧
        (s.armDevice cfg answers entry).state =
          { s with armed := s.armed.insert id true }) ∨
      (¬ s.Armed id ∧ hasHistograms entry.1 = false ∧ ∃ closed armed,
        (armed = s.armed ∨ armed = s.armed.insert id true) ∧
        (s.armDevice cfg answers entry).state =
          { s with
            closed := closed
            armed := armed
            commands := s.commands ++ [⟨id, cfg.boundariesNs⟩] })) := by
  unfold armDevice diskID Armed
  cases extractDiskInfo entry.1.effectiveQDev with
  | none => exact .inl ⟨rfl, rfl⟩
  | some info =>
      obtain ⟨disk, id⟩ := info
      refine .inr ⟨id, rfl, ?_⟩
      by_cases armed : s.armed.getD id false = true
      · exact .inl ⟨armed, by simp only [if_pos armed, Flow.state_ok]⟩
      · cases histogram : hasHistograms entry.1 with
        | true => exact .inr (.inl ⟨armed, rfl, by simp [if_neg armed]⟩)
        | false =>
            refine .inr (.inr ⟨armed, rfl, ?_⟩)
            simp only [if_neg armed, Bool.not_false, if_true]
            rcases attempt_cases _ _ _ with ⟨_, -, done⟩ | ⟨closed, stopped⟩
            · exact ⟨s.closed, s.armed.insert id true, .inr rfl,
                by rw [done]; rfl⟩
            · exact ⟨closed, s.armed, .inl rfl, by rw [stopped]⟩

theorem armDevice_other (cfg : PollerConfig) (answers : Answers) (s : Scrape)
    {entry : BlockDevice × Nat} {id : String}
    (other : diskID entry.1 ≠ some id) :
    ((s.armDevice cfg answers entry).state.Commands cfg id ↔ s.Commands cfg id) ∧
      ((s.armDevice cfg answers entry).state.Armed id ↔ s.Armed id) := by
  rcases armDevice_state cfg answers s entry with ⟨-, same⟩ |
    ⟨id', disk, ⟨-, same⟩ | ⟨-, -, armed⟩ | ⟨-, -, closed, table, kept, sent⟩⟩
  · rw [same]
    exact ⟨Iff.rfl, Iff.rfl⟩
  · rw [same]
    exact ⟨Iff.rfl, Iff.rfl⟩
  · have distinct : id ≠ id' := by
      intro same
      exact other (same ▸ disk)
    rw [armed]
    refine ⟨Iff.rfl, ?_⟩
    simp [Armed, Table.getD_insert_of_ne _ distinct]
  · have distinct : id ≠ id' := by
      intro same
      exact other (same ▸ disk)
    rw [sent]
    refine ⟨?_, ?_⟩
    · simp [Commands, distinct]
    · rcases kept with rfl | rfl
      · exact Iff.rfl
      · simp [Armed, Table.getD_insert_of_ne _ distinct]

theorem armDevice_armed (cfg : PollerConfig) (answers : Answers)
    (entry : BlockDevice × Nat) {id : String} {s : Scrape}
    (armed : s.Armed id) :
    ((s.armDevice cfg answers entry).state.Commands cfg id ↔ s.Commands cfg id) ∧
      (s.armDevice cfg answers entry).state.Armed id := by
  by_cases disk : diskID entry.1 = some id
  · rcases armDevice_state cfg answers s entry with ⟨missing, -⟩ |
      ⟨id', disk', ⟨-, same⟩ | ⟨unarmed, -⟩ | ⟨unarmed, -⟩⟩
    · rw [disk] at missing
      cases missing
    · rw [same]
      exact ⟨Iff.rfl, armed⟩
    · obtain rfl := Option.some.inj (disk.symm.trans disk')
      exact absurd armed unarmed
    · obtain rfl := Option.some.inj (disk.symm.trans disk')
      exact absurd armed unarmed
  · obtain ⟨commands, same⟩ := armDevice_other cfg answers s disk
    exact ⟨commands, same.mpr armed⟩

theorem armDevice_commands {cfg : PollerConfig} {answers : Answers}
    {entry : BlockDevice × Nat} {id : String} {s : Scrape}
    (sent : s.Commands cfg id) :
    (s.armDevice cfg answers entry).state.Commands cfg id := by
  rcases armDevice_state cfg answers s entry with ⟨-, same⟩ |
    ⟨id', -, ⟨-, same⟩ | ⟨-, -, armed⟩ | ⟨-, -, closed, table, -, more⟩⟩
  · rw [same]
    exact sent
  · rw [same]
    exact sent
  · rw [armed]
    exact sent
  · rw [more]
    exact List.mem_append_left _ sent

theorem armDevices_commands {cfg : PollerConfig} {answers : Answers}
    {rounds : List (BlockDevice × Nat)} {id : String} {s : Scrape}
    (sent : s.Commands cfg id) :
    (Flow.loop (armDevice cfg answers) s rounds).state.Commands cfg id :=
  Flow.loop_state (fun t : Scrape => t.Commands cfg id)
    (fun _ _ _ sent => armDevice_commands sent) sent

theorem armDevices_armed {cfg : PollerConfig} {answers : Answers}
    {rounds : List (BlockDevice × Nat)} {id : String} {s : Scrape}
    (armed : s.Armed id) (unsent : ¬ s.Commands cfg id) :
    ¬ (Flow.loop (armDevice cfg answers) s rounds).state.Commands cfg id := by
  have kept : (Flow.loop (armDevice cfg answers) s rounds).state.Armed id ∧
      ¬ (Flow.loop (armDevice cfg answers) s rounds).state.Commands cfg id := by
    apply Flow.loop_state (fun t : Scrape => t.Armed id ∧ ¬ t.Commands cfg id)
    · intro t entry _ ⟨armed, unsent⟩
      obtain ⟨commands, still⟩ := armDevice_armed cfg answers entry armed
      exact ⟨still, fun sent => unsent (commands.mp sent)⟩
    · exact ⟨armed, unsent⟩
  exact kept.2

/-- The arming loop sends a command for the entry when it gets there: the disk is
not marked, by the entries before it either, and has no histogram. -/
def Sends (answers : Answers) (armed : Table String Bool)
    (front : List (BlockDevice × Nat)) (entry : BlockDevice × Nat) : Prop :=
  ∃ id, diskID entry.1 = some id ∧ armed.getD id false = false ∧
    hasHistograms entry.1 = false ∧
    ∀ other ∈ front, diskID other.1 = some id →
      hasHistograms other.1 = false ∧ answers.enableHistogram other.2 ≠ .ok ()

/-- The loop gets past the entries: no command it sends for them expires. -/
def Passes (answers : Answers) (armed : Table String Bool)
    (front : List (BlockDevice × Nat)) : Prop :=
  Throughout (fun earlier entry => Sends answers armed earlier entry →
    answers.enableHistogram entry.2 ≠ .expired) front

theorem armed_insert {s t : Scrape} {id id' : String}
    (marked : t.armed = s.armed.insert id' true) :
    t.Armed id ↔ s.Armed id ∨ id' = id := by
  unfold Armed
  rw [marked]
  by_cases same : id' = id
  · simp [same]
  · simp [same, Table.getD_insert_of_ne _ (Ne.symm same)]

theorem armDevice_stops_iff (cfg : PollerConfig) (answers : Answers)
    {s : Scrape} (opened : s.closed = false) (entry : BlockDevice × Nat) :
    (∃ t, s.armDevice cfg answers entry = .ok t) ↔
      ∀ id, diskID entry.1 = some id → ¬ s.Armed id →
        hasHistograms entry.1 = false →
          answers.enableHistogram entry.2 ≠ .expired := by
  unfold armDevice diskID Armed
  cases extractDiskInfo entry.1.effectiveQDev with
  | none => simp
  | some info =>
      by_cases armed : s.armed.getD info.2 false = true
      · simp [armed]
      · cases hasHistograms entry.1 with
        | true => simp [armed]
        | false =>
            cases answers.enableHistogram entry.2 with
            | ok value => simp [armed, attempt, callClient, opened]
            | failed => simp [armed, attempt, callClient, opened]
            | expired => simp [armed, attempt, callClient, opened]

theorem armDevice_armed_iff {cfg : PollerConfig} {answers : Answers}
    {s t : Scrape} {entry : BlockDevice × Nat}
    (round : s.armDevice cfg answers entry = .ok t) (id : String) :
    t.Armed id ↔ s.Armed id ∨ (diskID entry.1 = some id ∧
      (hasHistograms entry.1 = true ∨
        answers.enableHistogram entry.2 = .ok ())) := by
  unfold armDevice at round
  unfold diskID
  cases info : extractDiskInfo entry.1.effectiveQDev with
  | none =>
      rw [info] at round
      obtain rfl := Except.ok.inj round
      simp
  | some found =>
      obtain ⟨disk, id'⟩ := found
      rw [info] at round
      simp only [Option.map_some, Option.some.injEq]
      by_cases armed : s.armed.getD id' false = true
      · simp only [if_pos armed] at round
        obtain rfl := Except.ok.inj round
        refine (or_iff_left_of_imp ?_).symm
        rintro ⟨rfl, -⟩
        exact armed
      · simp only [if_neg armed] at round
        cases histogram : hasHistograms entry.1 with
        | true =>
            simp only [histogram] at round
            obtain rfl := Except.ok.inj round
            simpa using armed_insert (s := s) rfl
        | false =>
            simp only [histogram, Bool.not_false, if_true] at round
            obtain ⟨-, ⟨value, ok, done⟩ | ⟨failed, rfl⟩⟩ :=
              attempt_eq_ok.mp round
            · obtain rfl := Except.ok.inj done
              simpa [ok] using armed_insert (s := s) rfl
            · simp [failed, Armed]

structure Completed (answers : Answers) (s : Scrape)
    (front : List (BlockDevice × Nat)) (t : Scrape) : Prop where
  opened : t.closed = false
  armed : ∀ id, t.Armed id ↔ s.Armed id ∨ ∃ other ∈ front,
    diskID other.1 = some id ∧ (hasHistograms other.1 = true ∨
      answers.enableHistogram other.2 = .ok ())

theorem Completed.sends_iff {answers : Answers} {s t : Scrape}
    {front : List (BlockDevice × Nat)} (completed : Completed answers s front t)
    (entry : BlockDevice × Nat) :
    Sends answers s.armed front entry ↔ ∃ id, diskID entry.1 = some id ∧
      ¬ t.Armed id ∧ hasHistograms entry.1 = false := by
  refine exists_congr fun id => and_congr_right fun _ => ?_
  rw [completed.armed id, not_or, Armed, Bool.not_eq_true]
  constructor
  · intro ⟨unarmed, histogram, earlier⟩
    refine ⟨⟨unarmed, ?_⟩, histogram⟩
    intro ⟨other, member, disk, marks⟩
    obtain ⟨no, notOk⟩ := earlier other member disk
    cases marks with
    | inl yes => rw [no] at yes; cases yes
    | inr ok => exact notOk ok
  · intro ⟨⟨unarmed, earlier⟩, histogram⟩
    refine ⟨unarmed, histogram, fun other member disk => ⟨?_, fun ok => ?_⟩⟩
    · rw [← Bool.not_eq_true]
      intro yes
      exact earlier ⟨other, member, disk, .inl yes⟩
    · exact earlier ⟨other, member, disk, .inr ok⟩

theorem Completed.step {cfg : PollerConfig} {answers : Answers} {s t u : Scrape}
    {front : List (BlockDevice × Nat)} (completed : Completed answers s front t)
    {entry : BlockDevice × Nat} (round : t.armDevice cfg answers entry = .ok u) :
    Completed answers s (front ++ [entry]) u where
  opened := armDevice_closed completed.opened round
  armed id := by
    rw [armDevice_armed_iff round id, completed.armed id,
      or_assoc]
    simp only [List.mem_append, List.mem_singleton, or_and_right, exists_or,
      exists_eq_left]

theorem armDevices_passes_iff {cfg : PollerConfig} {answers : Answers}
    {s : Scrape} (opened : s.closed = false)
    (front : List (BlockDevice × Nat)) :
    ((∃ t, Flow.loop (armDevice cfg answers) s front = .ok t) ↔
      Passes answers s.armed front) ∧
    ∀ t, Flow.loop (armDevice cfg answers) s front = .ok t →
      Completed answers s front t := by
  induction front using List.reverseRecOn with
  | nil =>
      refine ⟨⟨fun _ => throughout_nil _, fun _ => ⟨s, rfl⟩⟩, ?_⟩
      intro t ended
      obtain rfl := Except.ok.inj ended
      exact ⟨opened, by simp⟩
  | append_singleton front entry induction =>
      obtain ⟨passes, completed⟩ := induction
      simp only [Flow.loop_append_singleton_eq_ok]
      refine ⟨?_, fun u ⟨t, ended, round⟩ => (completed t ended).step round⟩
      unfold Passes
      rw [throughout_append_singleton]
      constructor
      · intro ⟨u, t, ended, round⟩
        refine ⟨passes.mp ⟨t, ended⟩, fun sends => ?_⟩
        have done := completed t ended
        obtain ⟨id, disk, unarmed, histogram⟩ := (done.sends_iff entry).mp sends
        exact (armDevice_stops_iff cfg answers done.opened entry).mp ⟨u, round⟩
          id disk unarmed histogram
      · intro ⟨earlier, last⟩
        obtain ⟨t, ended⟩ := passes.mpr earlier
        have done := completed t ended
        obtain ⟨u, round⟩ := (armDevice_stops_iff cfg answers done.opened
          entry).mpr fun id disk unarmed histogram =>
            last ((done.sends_iff entry).mpr ⟨id, disk, unarmed, histogram⟩)
        exact ⟨u, t, ended, round⟩

/-- The first entry of the disk has no histogram, and the loop gets past the
entries before it. -/
def Reaches (answers : Answers) (armed : Table String Bool)
    (rounds : List (BlockDevice × Nat)) (id : String) : Prop :=
  ∃ front entry back, rounds = front ++ entry :: back ∧
    diskID entry.1 = some id ∧
    (∀ other ∈ front, diskID other.1 ≠ some id) ∧
    hasHistograms entry.1 = false ∧ Passes answers armed front

def ComesTo (cfg : PollerConfig) (answers : Answers) (s : Scrape)
    (rounds : List (BlockDevice × Nat)) (id : String) : Prop :=
  ∃ front entry back, rounds = front ++ entry :: back ∧
    diskID entry.1 = some id ∧
    (∀ other ∈ front, diskID other.1 ≠ some id) ∧
    hasHistograms entry.1 = false ∧
    ∃ t, Flow.loop (armDevice cfg answers) s front = .ok t

theorem comesTo_iff {cfg : PollerConfig} {answers : Answers} {s : Scrape}
    (opened : s.closed = false) {rounds : List (BlockDevice × Nat)}
    {id : String} :
    ComesTo cfg answers s rounds id ↔ Reaches answers s.armed rounds id := by
  unfold ComesTo Reaches
  simp only [(armDevices_passes_iff opened _).1]

theorem comesTo_cons_same {cfg : PollerConfig} {answers : Answers} {s : Scrape}
    {entry : BlockDevice × Nat} {rounds : List (BlockDevice × Nat)}
    {id : String} (disk : diskID entry.1 = some id) :
    ComesTo cfg answers s (entry :: rounds) id ↔
      hasHistograms entry.1 = false := by
  constructor
  · intro ⟨front, first, back, split, _, earlier, histogram, _⟩
    cases front with
    | nil =>
        obtain ⟨rfl, -⟩ := List.cons.inj split
        exact histogram
    | cons x front =>
        obtain ⟨rfl, -⟩ := List.cons.inj split
        exact absurd disk (earlier entry List.mem_cons_self)
  · intro histogram
    exact ⟨[], entry, rounds, rfl, disk, by simp, histogram, s, rfl⟩

theorem comesTo_cons_other {cfg : PollerConfig} {answers : Answers}
    {s : Scrape} {entry : BlockDevice × Nat}
    {rounds : List (BlockDevice × Nat)} {id : String}
    (other : diskID entry.1 ≠ some id) :
    ComesTo cfg answers s (entry :: rounds) id ↔
      ∃ t, s.armDevice cfg answers entry = .ok t ∧
        ComesTo cfg answers t rounds id := by
  constructor
  · intro ⟨front, first, back, split, disk, earlier, histogram, u, ended⟩
    cases front with
    | nil =>
        obtain ⟨rfl, -⟩ := List.cons.inj split
        exact absurd disk other
    | cons x front =>
        obtain ⟨rfl, rest⟩ := List.cons.inj split
        obtain ⟨t, round, later⟩ := Flow.bind_eq_ok.mp ended
        exact ⟨t, round, front, first, back, rest, disk,
          fun y member => earlier y (List.mem_cons_of_mem entry member),
          histogram, u, later⟩
  · intro ⟨t, round, front, first, back, split, disk, earlier, histogram, u,
      ended⟩
    refine ⟨entry :: front, first, back, by rw [split]; rfl, disk, ?_,
      histogram, u, ?_⟩
    · intro y member
      cases member with
      | head => exact other
      | tail _ member => exact earlier y member
    · exact Flow.bind_eq_ok.mpr ⟨t, round, ended⟩

theorem armDevices_first {cfg : PollerConfig} {answers : Answers} {s : Scrape}
    {entry : BlockDevice × Nat} {rounds : List (BlockDevice × Nat)}
    {id : String} (disk : diskID entry.1 = some id) (unarmed : ¬ s.Armed id)
    (unsent : ¬ s.Commands cfg id) :
    (Flow.loop (armDevice cfg answers) s (entry :: rounds)).state.Commands cfg id ↔
      hasHistograms entry.1 = false := by
  have loop := Flow.state_loop_cons (armDevice cfg answers) s entry rounds
  rcases armDevice_state cfg answers s entry with ⟨missing, -⟩ |
    ⟨id', disk', ⟨armed, -⟩ | ⟨-, histogram, round⟩ |
      ⟨-, histogram, closed, table, -, round⟩⟩
  · rw [disk] at missing
    cases missing
  · obtain rfl := Option.some.inj (disk.symm.trans disk')
    exact absurd armed unarmed
  · obtain rfl := Option.some.inj (disk.symm.trans disk')
    rw [round] at loop
    refine iff_of_false ?_ (by rw [histogram]; exact Bool.noConfusion)
    rcases loop with loop | loop
    · rw [loop]
      exact unsent
    · rw [loop]
      exact armDevices_armed (by simp [Armed]) unsent
  · obtain rfl := Option.some.inj (disk.symm.trans disk')
    rw [round] at loop
    refine iff_of_true ?_ histogram
    have sent : ({ s with
        closed := closed
        armed := table
        commands := s.commands ++ [⟨id, cfg.boundariesNs⟩] } :
          Scrape).Commands cfg id :=
      List.mem_append_right _ (List.mem_singleton_self _)
    rcases loop with loop | loop
    · rw [loop]
      exact sent
    · rw [loop]
      exact armDevices_commands sent

theorem armDevices_commands_iff {cfg : PollerConfig} {answers : Answers}
    {s : Scrape} {rounds : List (BlockDevice × Nat)} {id : String}
    (unsent : ¬ s.Commands cfg id) :
    (Flow.loop (armDevice cfg answers) s rounds).state.Commands cfg id ↔
      ¬ s.Armed id ∧ ComesTo cfg answers s rounds id := by
  induction rounds generalizing s with
  | nil =>
      refine iff_of_false unsent ?_
      intro ⟨_, front, entry, back, split, _⟩
      simp at split
  | cons entry rounds induction =>
      by_cases disk : diskID entry.1 = some id
      · rw [comesTo_cons_same disk]
        by_cases armed : s.Armed id
        · exact iff_of_false (armDevices_armed armed unsent)
            fun ⟨unarmed, _⟩ => unarmed armed
        · rw [and_iff_right armed]
          exact armDevices_first disk armed unsent
      · rw [comesTo_cons_other disk, Flow.loop_cons]
        obtain ⟨commands, sameArmed⟩ :=
          armDevice_other cfg answers s disk
        cases round : s.armDevice cfg answers entry with
        | error t =>
            rw [round] at commands
            refine iff_of_false (fun sent => unsent (commands.mp sent)) ?_
            intro ⟨_, u, ended, _⟩
            cases ended
        | ok t =>
            rw [round] at commands sameArmed
            have later := induction fun sent => unsent (commands.mp sent)
            rw [← sameArmed]
            refine later.trans (and_congr_right fun _ => ?_)
            constructor
            · intro comes
              exact ⟨t, rfl, comes⟩
            · intro ⟨u, same, comes⟩
              exact Except.ok.inj same ▸ comes

theorem addDevice_commands_armed (answers : Answers) (s : Scrape)
    (dev : BlockDevice) :
    (s.addDevice answers dev).commands = s.commands ∧
      (s.addDevice answers dev).armed = s.armed := by
  unfold addDevice
  split
  next => exact ⟨rfl, rfl⟩
  next =>
    split
    next => exact ⟨rfl, rfl⟩
    next => exact ⟨rfl, rfl⟩

theorem run_commands_armed (cfg : PollerConfig) (answers : Answers)
    (entries : List BlockDevice) (s : Scrape) :
    (s.run cfg answers entries).state.commands =
        (Flow.loop (armDevice cfg answers) s entries.zipIdx).state.commands ∧
      (s.run cfg answers entries).state.armed =
        (Flow.loop (armDevice cfg answers) s entries.zipIdx).state.armed := by
  have stable : Stable s.numQueues answers fun t =>
      t.commands = (Flow.loop (armDevice cfg answers) s
        entries.zipIdx).state.commands ∧
      t.armed = (Flow.loop (armDevice cfg answers) s
        entries.zipIdx).state.armed :=
    ⟨fun _ => id, fun _ => id, fun _ _ _ => id, fun _ _ _ => id⟩
  refine stable.run ?_ ⟨rfl, rfl⟩
  intro t dev _ ⟨commands, armed⟩
  obtain ⟨sameCommands, sameArmed⟩ := addDevice_commands_armed answers t dev
  exact ⟨sameCommands.trans commands, sameArmed.trans armed⟩

theorem armDevices_keep_armed {cfg : PollerConfig} {answers : Answers}
    {rounds : List (BlockDevice × Nat)} {id : String} {s : Scrape}
    (armed : s.Armed id) :
    (Flow.loop (armDevice cfg answers) s rounds).state.Armed id :=
  Flow.loop_state (fun t : Scrape => t.Armed id)
    (fun _ entry _ armed => (armDevice_armed cfg answers entry armed).2) armed

end Scrape

namespace Session

theorem scrape_arms_iff {cfg : PollerConfig} {session : Session}
    {answers : Answers} {entries : List BlockDevice} {id : String}
    (opened : session.conn.closed = false)
    (clientOpen : session.clientClosed = false)
    (answered : answers.blockStats = .ok entries) :
    ⟨id, cfg.boundariesNs⟩ ∈ (session.scrape cfg answers).commands ↔
      session.conn.armed.getD id false = false ∧
      Scrape.Reaches answers session.conn.armed entries.zipIdx id := by
  rw [scrape_commands opened clientOpen answered,
    (Scrape.run_commands_armed cfg answers entries _).1]
  refine (Scrape.armDevices_commands_iff (s := session.conn.start false)
    (by simp [Scrape.Commands, VMConnection.start])).trans ?_
  rw [Scrape.Armed, Bool.not_eq_true, Scrape.comesTo_iff rfl]
  rfl

theorem next_armed {cfg : PollerConfig} {session : Session} {answers : Answers}
    {id : String} (armed : session.conn.armed.getD id false = true) :
    (session.next cfg answers).conn.armed.getD id false = true := by
  rcases session.conn.scrapeVM_cases cfg session.clientClosed answers with
    ⟨same, -⟩ | ⟨entries, s, -, rfl, finished, -⟩
  · simp only [next, scrape, same]
    exact armed
  · simp only [next, scrape, finished, VMConnection.finish]
    rw [(Scrape.run_commands_armed cfg answers entries _).2]
    exact Scrape.armDevices_keep_armed (s := session.conn.start false) armed

theorem after_armed (cfg : PollerConfig) {session : Session} {id : String}
    (armed : session.conn.armed.getD id false = true)
    (later : List Answers) :
    (stateAfter (next cfg) session later).conn.armed.getD id false = true := by
  induction later using List.reverseRecOn with
  | nil => exact armed
  | append_singleton later answers induction =>
      rw [stateAfter_append_singleton]
      exact next_armed induction

/-- Once a scrape has marked a disk, no later one on the connection arms it. -/
theorem marked_disk_is_never_armed {cfg : PollerConfig} {session : Session}
    {id : String} (armed : session.conn.armed.getD id false = true)
    (later : List Answers) (answers : Answers) :
    ⟨id, cfg.boundariesNs⟩ ∉
      ((stateAfter (next cfg) session later).scrape cfg answers).commands := by
  have marked := after_armed cfg armed later
  generalize stateAfter (next cfg) session later = final at marked
  rcases final.conn.scrapeVM_cases cfg final.clientClosed answers with
    ⟨-, none, -⟩ | ⟨entries, s, -, rfl, -, sent, -⟩
  · simp [scrape, none]
  · rw [scrape, sent, (Scrape.run_commands_armed cfg answers entries _).1]
    exact Scrape.armDevices_armed (s := final.conn.start false) marked
      (by simp [Scrape.Commands, VMConnection.start])

def ArmsAll (cfg : PollerConfig) (session : Session) (answers : Answers)
    (entries : List BlockDevice) : Prop :=
  ∀ dev ∈ entries, ∀ id, diskID dev = some id → NeedsHistogram cfg dev →
    ⟨id, cfg.boundariesNs⟩ ∈ (session.scrape cfg answers).commands

theorem arms_all_iff_unmarked_and_reached (cfg : PollerConfig) (pod : PodInfo)
    (fetch : FetchReply) (client : Nat) (history : List Answers)
    (answers : Answers) (entries : List BlockDevice)
    (clientOpen : (stateAfter (next cfg) (dial pod fetch client)
      history).clientClosed = false)
    (answered : answers.blockStats = .ok entries) :
    ArmsAll cfg (stateAfter (next cfg) (dial pod fetch client) history) answers
        entries ↔
      ∀ dev ∈ entries, ∀ id, diskID dev = some id → NeedsHistogram cfg dev →
        (stateAfter (next cfg) (dial pod fetch client)
          history).conn.armed.getD id false = false ∧
        Scrape.Reaches answers
          (stateAfter (next cfg) (dial pod fetch client) history).conn.armed
          entries.zipIdx id := by
  have opened := after_closed cfg pod fetch client history
  refine forall₂_congr fun dev _ => forall₂_congr fun id _ => ?_
  exact imp_congr_right fun _ => scrape_arms_iff opened clientOpen answered

open Collector (plainConfig noStats armAnswers)

def vmInfo : PodInfo := ⟨"tenant-a", "virt-launcher-vm", "vm"⟩

def histogramAnswers (boundaries : List ℚ) : Answers :=
  { armAnswers (.ok ()) with
    blockStats := .ok [.mk "ua-rootdisk"
      { noStats with rdLatencyHistogram := some ⟨boundaries, [0, 0, 0]⟩ }
      none] }

theorem diskID_rootdisk (stats : BlockStats) :
    diskID (.mk "ua-rootdisk" stats none) = some "ua-rootdisk" := by
  change (extractDiskInfo "ua-rootdisk").map Prod.snd = some "ua-rootdisk"
  decide +kernel

theorem failed_arming_is_repeated :
    ArmsAll plainConfig
      (stateAfter (next plainConfig) (dial vmInfo .failed 1)
        [armAnswers .failed]) (armAnswers (.ok ()))
      [.mk "ua-rootdisk" noStats none] := by
  apply (arms_all_iff_unmarked_and_reached plainConfig vmInfo .failed 1
    [armAnswers .failed] (armAnswers (.ok ())) _ (by decide +kernel) rfl).mpr
  intro dev member id disk _
  obtain rfl := List.mem_singleton.mp member
  obtain rfl := Option.some.inj ((diskID_rootdisk _).symm.trans disk)
  exact ⟨by decide +kernel, [], _, [], rfl, disk, by simp, rfl,
    throughout_nil _⟩

/-- A disk that is plugged in again without its histogram is not armed, nor is
one that has a histogram with other boundaries. -/
theorem disk_is_left_without_histogram :
    (stateAfter (next plainConfig) (dial vmInfo .failed 1)
      [histogramAnswers [1000000, 10000000]]).clientClosed = false ∧
    ¬ ArmsAll plainConfig
      (stateAfter (next plainConfig) (dial vmInfo .failed 1)
        [histogramAnswers [1000000, 10000000]]) (armAnswers (.ok ()))
      [.mk "ua-rootdisk" noStats none] ∧
    ¬ ArmsAll plainConfig (dial vmInfo .failed 1)
      (histogramAnswers [5000, 50000])
      [.mk "ua-rootdisk" { noStats with
        rdLatencyHistogram := some ⟨[5000, 50000], [0, 0, 0]⟩ } none] := by
  refine ⟨by decide +kernel, ?_, ?_⟩
  · intro arms
    have sent := arms _ (List.mem_singleton_self _) _ (diskID_rootdisk _) (by
      intro hist found
      simp [BlockDevice.stats, noStats] at found)
    revert sent
    decide +kernel
  · intro arms
    have sent := arms _ (List.mem_singleton_self _) _ (diskID_rootdisk _) (by
      intro hist found
      obtain rfl := Option.some.inj found
      decide +kernel)
    revert sent
    decide +kernel

end Session

end KubevirtMetrics.Qmp
