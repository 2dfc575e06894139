import KubevirtMetrics.Qga.Poll

namespace KubevirtMetrics.Qga

open Data Virt

/-! Passive virtual machines: those whose scrapes failed too often, or whose guest
refuses the command, are scraped on a slow cycle only. -/

/-- What holds of every virtual machine between polls. -/
structure VMState.Consistent (cfg : CollectorConfig)
    (lastPassiveAt : Option Int) (vs : VMState) : Prop where
  opened : vs.closed = false
  timed : vs.passive = true → lastPassiveAt ≠ none
  forgotten : vs.passive = true → vs.prevSnapshot = none ∧ vs.diskMap = none
  retries : vs.passive = false →
    vs.retryCount = 0 ∨ vs.retryCount < cfg.maxRetries

namespace VMState.Consistent

variable {cfg : CollectorConfig} {lastPassiveAt : Option Int} {vs : VMState}

theorem mono (consistent : vs.Consistent cfg lastPassiveAt)
    {later : Option Int} (kept : lastPassiveAt ≠ none → later ≠ none) :
    vs.Consistent cfg later where
  opened := consistent.opened
  timed passive := kept (consistent.timed passive)
  forgotten := consistent.forgotten
  retries := consistent.retries

theorem newVM (cfg : CollectorConfig) (lastPassiveAt : Option Int)
    (pod : PodInfo) (fetch : FetchReply) (client : Nat) :
    (newVM pod fetch client).Consistent cfg lastPassiveAt where
  opened := rfl
  timed passive := by cases passive
  forgotten passive := by cases passive
  retries _ := .inl rfl

theorem succeed (consistent : vs.Consistent cfg lastPassiveAt)
    (answers : Answers) (rows : List DiskCounters) :
    (vs.succeed answers rows).Consistent cfg lastPassiveAt where
  opened := consistent.opened
  timed passive := by cases passive
  forgotten passive := by cases passive
  retries _ := .inl rfl

theorem retry (consistent : vs.Consistent cfg lastPassiveAt)
    (few : vs.retry.retryCount < cfg.maxRetries) :
    vs.retry.Consistent cfg lastPassiveAt where
  opened := consistent.opened
  timed := consistent.timed
  forgotten := consistent.forgotten
  retries _ := .inr few

theorem fallBack (opened : vs.closed = false) (timed : lastPassiveAt ≠ none) :
    vs.fallBack.Consistent cfg lastPassiveAt where
  opened := opened
  timed _ := timed
  forgotten _ := ⟨rfl, rfl⟩
  retries active := by cases active

end VMState.Consistent

def Consistent (cfg : CollectorConfig) (lastPassiveAt : Option Int)
    (entries : Table String VMState) : Prop :=
  ∀ id vs, entries.lookup id = some vs → vs.Consistent cfg lastPassiveAt

namespace Consistent

variable {cfg : CollectorConfig} {lastPassiveAt : Option Int}
  {entries : Table String VMState}

theorem erase (consistent : Consistent cfg lastPassiveAt entries)
    (id : String) : Consistent cfg lastPassiveAt (entries.erase id) := by
  intro other vs found
  exact consistent other vs (Table.of_lookup_erase found).2

theorem insert (consistent : Consistent cfg lastPassiveAt entries)
    (id : String) {later : Option Int}
    (kept : lastPassiveAt ≠ none → later ≠ none) {vs : VMState}
    (new : vs.Consistent cfg later) :
    Consistent cfg later (entries.insert id vs) := by
  intro other vs' found
  rcases Table.of_lookup_insert found with ⟨-, rfl⟩ | earlier
  · exact new
  · exact (consistent other vs' earlier).mono kept

end Consistent

/-! ### The loop over the snapshot -/

theorem dropVM_entries (pool : Pool String VMState) (id : String)
    (vs : VMState) : (dropVM pool id vs).entries = pool.entries.erase id := by
  change (closeConn pool vs).entries.erase id = _
  rw [closeConn_entries]

theorem dropVM_closed_of_dead {pool : Pool String VMState} {id : String}
    {vs : VMState} (dead : vs.closed = true ∨ vs.client ∈ pool.closed) :
    (dropVM pool id vs).closed = pool.closed := by
  change (closeConn pool vs).closed = _
  unfold closeConn
  split
  next => rfl
  next opened =>
    rcases dead with closed | closed
    · exact absurd closed opened
    · exact Finset.insert_eq_of_mem closed

def Scraped (passiveDue : Bool) (snapshot : Pool String VMState)
    (id : String) : Prop :=
  ∃ vs, snapshot.entries.lookup id = some vs ∧ vs.closed = false ∧
    vs.client ∉ snapshot.closed ∧ (vs.passive = true → passiveDue = true)

/-- The virtual machines of `done` have been visited. -/
structure Visited (passiveDue : Bool) (snapshot : Pool String VMState)
    (done : List String) (v : Visiting) : Prop where
  closed : v.pool.closed = snapshot.closed
  untouched : ∀ id, id ∉ done →
    v.pool.entries.lookup id = snapshot.entries.lookup id
  kept : ∀ id vs, v.pool.entries.lookup id = some vs →
    snapshot.entries.lookup id = some vs
  started : ∀ id, id ∈ v.started ↔ id ∈ done ∧ Scraped passiveDue snapshot id
  probed : v.probedPassive = true ↔ ∃ id ∈ v.started, ∃ vs,
    snapshot.entries.lookup id = some vs ∧ vs.passive = true

namespace Visited

variable {passiveDue : Bool} {snapshot : Pool String VMState}
  {done : List String} {v : Visiting} {id : String}

theorem skip (visited : Visited passiveDue snapshot done v)
    (skipped : ¬ Scraped passiveDue snapshot id) :
    Visited passiveDue snapshot (done ++ [id]) v where
  closed := visited.closed
  untouched other fresh :=
    visited.untouched other fun member =>
      fresh (List.mem_append_left _ member)
  kept := visited.kept
  started other := by
    rw [visited.started, List.mem_append, List.mem_singleton]
    refine and_congr_left fun scraped => (or_iff_left ?_).symm
    intro same
    exact skipped (same ▸ scraped)
  probed := visited.probed

theorem drop (visited : Visited passiveDue snapshot done v) {vs : VMState}
    (dead : vs.closed = true ∨ vs.client ∈ v.pool.closed)
    (skipped : ¬ Scraped passiveDue snapshot id) :
    Visited passiveDue snapshot (done ++ [id])
      { v with
        pool := dropVM v.pool id vs
        scrapeErrors := v.scrapeErrors + 1 } where
  closed := (dropVM_closed_of_dead dead).trans visited.closed
  untouched other fresh := by
    rw [List.mem_append, List.mem_singleton, not_or] at fresh
    rw [dropVM_entries, Table.lookup_erase_eq_ite, if_neg fresh.2]
    exact visited.untouched other fresh.1
  kept other vs' found := by
    rw [dropVM_entries] at found
    exact visited.kept other vs' (Table.of_lookup_erase found).2
  started := (visited.skip skipped).started
  probed := visited.probed

theorem start (visited : Visited passiveDue snapshot done v) {vs : VMState}
    (found : snapshot.entries.lookup id = some vs)
    (scraped : Scraped passiveDue snapshot id) :
    Visited passiveDue snapshot (done ++ [id])
      { v with
        started := v.started ++ [id]
        probedPassive := v.probedPassive || vs.passive } where
  closed := visited.closed
  untouched other fresh :=
    visited.untouched other fun member =>
      fresh (List.mem_append_left _ member)
  kept := visited.kept
  started other := by
    rw [List.mem_append, List.mem_append, visited.started, List.mem_singleton]
    constructor
    · intro member
      rcases member with ⟨earlier, before⟩ | last
      · exact ⟨.inl earlier, before⟩
      · exact ⟨.inr last, last ▸ scraped⟩
    · intro ⟨member, here⟩
      exact member.imp (fun earlier => ⟨earlier, here⟩) fun last => last
  probed := by
    rw [Bool.or_eq_true, visited.probed]
    constructor
    · intro probed
      rcases probed with ⟨other, earlier, rest⟩ | passive
      · exact ⟨other, List.mem_append_left _ earlier, rest⟩
      · exact ⟨id, by simp, vs, found, passive⟩
    · intro ⟨other, member, vs', found', passive⟩
      rcases List.mem_append.mp member with earlier | last
      · exact .inl ⟨other, earlier, vs', found', passive⟩
      · rw [List.mem_singleton.mp last, found] at found'
        exact .inr (Option.some.inj found' ▸ passive)

theorem step (visited : Visited passiveDue snapshot done v)
    (fresh : id ∉ done) :
    Visited passiveDue snapshot (done ++ [id]) (visit passiveDue v id) := by
  have same := visited.untouched id fresh
  unfold visit
  cases found : v.pool.entries.lookup id with
  | none =>
      apply visited.skip
      intro ⟨vs, present, _⟩
      rw [← same, found] at present
      cases present
  | some vs =>
      have present := same.symm.trans found
      -- what the snapshot holds decides whether the scrape starts
      have only : Scraped passiveDue snapshot id ↔ vs.closed = false ∧
          vs.client ∉ snapshot.closed ∧
            (vs.passive = true → passiveDue = true) := by
        constructor
        · intro ⟨vs', present', rest⟩
          rw [present] at present'
          exact Option.some.inj present' ▸ rest
        · intro rest
          exact ⟨vs, present, rest⟩
      simp only []
      split
      next dead =>
        rw [Bool.or_eq_true, decide_eq_true_eq] at dead
        apply visited.drop dead
        rw [only, ← visited.closed]
        rcases dead with closed | closed
        · simp [closed]
        · simp [closed]
      next live =>
        rw [Bool.or_eq_true, decide_eq_true_eq, not_or] at live
        have opened : vs.closed = false := by simpa using live.1
        have clientOpen : vs.client ∉ snapshot.closed :=
          visited.closed ▸ live.2
        cases passive : vs.passive with
        | true =>
            cases passiveDue with
            | true =>
                have started := visited.start present
                  (only.mpr ⟨opened, clientOpen, fun _ => rfl⟩)
                rw [passive, Bool.or_true] at started
                exact started
            | false =>
                apply visited.skip
                simp [only, passive]
        | false =>
            have started := visited.start present
              (only.mpr ⟨opened, clientOpen, by simp [passive]⟩)
            rw [passive, Bool.or_false] at started
            exact started

end Visited

theorem visited_foldl (passiveDue : Bool) (snapshot : Pool String VMState)
    (order : List String) (nodup : order.Nodup) :
    Visited passiveDue snapshot order
      (order.foldl (visit passiveDue) ⟨snapshot, 0, [], false⟩) := by
  induction order using List.reverseRecOn with
  | nil =>
      exact ⟨rfl, fun _ _ => rfl, fun _ _ => id, by simp, by simp⟩
  | append_singleton order id induction =>
      obtain ⟨earlier, -, fresh⟩ := List.nodup_append.mp nodup
      rw [List.foldl_append]
      apply (induction earlier).step
      intro member
      exact fresh id member id (List.mem_singleton_self id) rfl

/-! ### The ends of the scrapes -/

section Finish

variable {cfg : CollectorConfig} {input : PollInput} {s : Scraping}
  {id : String} {vs : VMState}

theorem finishScrape_cases (cfg : CollectorConfig) (input : PollInput)
    (found : s.pool.entries.lookup id = some vs) :
    ((finishScrape cfg input s id).lastPassiveAt = s.lastPassiveAt ∧
      ((finishScrape cfg input s id).pool.entries = s.pool.entries.erase id ∨
      (∃ rows, (finishScrape cfg input s id).pool.entries =
        s.pool.entries.insert id (vs.succeed (input.answers id) rows)) ∨
      (vs.retry.retryCount < cfg.maxRetries ∧
        (finishScrape cfg input s id).pool.entries =
          s.pool.entries.insert id vs.retry))) ∨
    ∃ vm, (vm = vs ∨ vm = vs.retry) ∧
      (finishScrape cfg input s id).pool.entries =
        s.pool.entries.insert id vm.fallBack ∧
      (finishScrape cfg input s id).lastPassiveAt =
        if vs.passive then s.lastPassiveAt
        else some (s.lastPassiveAt.getD (input.markAt id)) := by
  have closing : ∀ (pool : Pool String VMState) (closed : Bool),
      (if closed then pool.close vs.client else pool).entries =
        pool.entries := by
    intro pool closed
    cases closed with
    | true => rfl
    | false => rfl
  simp only [finishScrape, found]
  rcases vs.scrapeVM_cases cfg (vs.client ∈ s.pool.closed) (input.answers id)
    with ⟨error, closed, failed⟩ | ⟨rows, -, done⟩
  · simp only [failed]
    rcases handleScrapeError_cases cfg vs error closed with
      dropped | ⟨few, again⟩ | ⟨vm, same, passive⟩
    · simp only [dropped]
      refine .inl ⟨trivial, .inl ?_⟩
      rw [dropVM_entries, closing]
      exact Table.erase_insert_self _ _ _
    · simp only [again]
      refine .inl ⟨trivial, .inr (.inr ⟨few, ?_⟩)⟩
      change Finmap.insert id vs.retry (ite _ _ _ : Pool _ _).entries = _
      rw [closing]
      exact Finmap.insert_insert _
    · simp only [passive]
      refine .inr ⟨vm, same, ?_, ?_⟩
      · change Finmap.insert id vm.fallBack (ite _ _ _ : Pool _ _).entries = _
        rw [closing]
        exact Finmap.insert_insert _
      · rcases same with rfl | rfl
        · rfl
        · rfl
  · simp only [done]
    refine .inl ⟨trivial, .inr (.inl ⟨rows, ?_⟩)⟩
    rw [closing]
    rfl

theorem finishScrape_lastPassiveAt (cfg : CollectorConfig) (input : PollInput)
    (s : Scraping) (id : String) :
    (finishScrape cfg input s id).lastPassiveAt = s.lastPassiveAt ∨
      (s.lastPassiveAt = none ∧ (finishScrape cfg input s id).lastPassiveAt =
        some (input.markAt id)) := by
  cases found : s.pool.entries.lookup id with
  | none =>
      simp only [finishScrape, found]
      exact .inl trivial
  | some vs =>
      rcases finishScrape_cases cfg input found with
        ⟨same, -⟩ | ⟨vm, -, -, marked⟩
      · exact .inl same
      · rw [marked]
        split
        next => exact .inl rfl
        next =>
          cases s.lastPassiveAt with
          | none => exact .inr ⟨rfl, rfl⟩
          | some time => exact .inl rfl

theorem finishScrape_consistent
    (consistent : Consistent cfg s.lastPassiveAt s.pool.entries) :
    Consistent cfg (finishScrape cfg input s id).lastPassiveAt
      (finishScrape cfg input s id).pool.entries := by
  cases found : s.pool.entries.lookup id with
  | none =>
      simp only [finishScrape, found]
      exact consistent
  | some vs =>
      have before := consistent id vs found
      rcases finishScrape_cases cfg input found with
        ⟨same, gone | ⟨rows, scraped⟩ | ⟨few, again⟩⟩ | ⟨vm, same, marked, time⟩
      · rw [same, gone]
        exact consistent.erase id
      · rw [same, scraped]
        exact consistent.insert id (fun kept => kept) (before.succeed _ rows)
      · rw [same, again]
        exact consistent.insert id (fun kept => kept) (before.retry few)
      · have opened : vm.closed = false := by
          rcases same with rfl | rfl
          · exact before.opened
          · exact before.opened
        have timed : (if vs.passive then s.lastPassiveAt
            else some (s.lastPassiveAt.getD (input.markAt id))) ≠ none := by
          split
          next passive => exact before.timed passive
          next => exact Option.some_ne_none _
        rw [marked, time]
        exact consistent.insert id (fun _ => timed) (.fallBack opened timed)

end Finish

namespace Collector

variable {cfg : CollectorConfig} {c : Collector} {input : PollInput}

theorem connectAll_consistent
    (consistent : Consistent cfg c.lastPassiveAt c.pool.entries) :
    Consistent cfg c.lastPassiveAt (c.connectAll cfg input).entries := by
  intro id vs found
  rcases lookup_connectTargets found with swept | ⟨entry, -, -, client, made⟩
  · exact consistent id vs (lookup_sweep swept).1
  · rw [made]
    exact .newVM cfg _ entry.1.pod (input.fetch entry.2) client

theorem visitAll_visited (admissible : Admissible cfg c input) :
    Visited (c.passiveDue cfg input) (c.connectAll cfg input)
      input.snapshotOrder (c.visitAll cfg input) :=
  visited_foldl _ _ _ admissible.snapshotOrder.nodup

theorem scrapeAll_consistent
    (consistent : Consistent cfg c.lastPassiveAt c.pool.entries)
    (admissible : Admissible cfg c input) :
    Consistent cfg (c.scrapeAll cfg input).lastPassiveAt
      (c.scrapeAll cfg input).pool.entries := by
  apply List.foldlRecOn input.completionOrder (finishScrape cfg input)
    (motive := fun s => Consistent cfg s.lastPassiveAt s.pool.entries)
  · intro id vs found
    exact connectAll_consistent consistent id vs
      ((visitAll_visited admissible).kept id vs found)
  · intro s holds id _
    exact finishScrape_consistent holds

theorem scrapeAll_lastPassiveAt (cfg : CollectorConfig) (c : Collector)
    (input : PollInput) :
    (c.scrapeAll cfg input).lastPassiveAt = c.lastPassiveAt ∨
      (c.lastPassiveAt = none ∧ ∃ id ∈ input.completionOrder,
        (c.scrapeAll cfg input).lastPassiveAt = some (input.markAt id)) := by
  apply List.foldlRecOn input.completionOrder (finishScrape cfg input)
    (motive := fun s => s.lastPassiveAt = c.lastPassiveAt ∨
      (c.lastPassiveAt = none ∧ ∃ id ∈ input.completionOrder,
        s.lastPassiveAt = some (input.markAt id)))
  · exact .inl rfl
  · intro s earlier id member
    rcases finishScrape_lastPassiveAt cfg input s id with same | ⟨unset, set⟩
    · rw [same]
      exact earlier
    · rcases earlier with same | ⟨-, other, -, set'⟩
      · exact .inr ⟨same.symm.trans unset, id, member, set⟩
      · rw [set'] at unset
        cases unset

theorem poll_consistent
    (consistent : Consistent cfg c.lastPassiveAt c.pool.entries)
    (admissible : Admissible cfg c input) :
    Consistent cfg (c.poll cfg input).lastPassiveAt
      (c.poll cfg input).pool.entries := by
  have scraped := scrapeAll_consistent consistent admissible
  intro id vs found
  apply (scraped id vs found).mono
  intro set
  change (if _ then _ else _) ≠ none
  split
  next => exact Option.some_ne_none _
  next => exact set

theorem run_consistent {history : List PollInput} (runs : Runs cfg history) :
    Consistent cfg (run cfg history).lastPassiveAt
      (run cfg history).pool.entries := by
  induction history using List.reverseRecOn with
  | nil =>
      intro id vs found
      simp [run, init, Pool.empty] at found
  | append_singleton history input induction =>
      obtain ⟨earlier, admissible, -⟩ :=
        (throughout_append_singleton _ _ _).mp runs
      rw [run_append_singleton]
      exact poll_consistent (induction earlier) admissible

/-! ### The slow cycle -/

/-- The poll scrapes a passive virtual machine. -/
def Probes (cfg : CollectorConfig) (c : Collector) (input : PollInput) : Prop :=
  ∃ id ∈ input.completionOrder, ∃ vs,
    (c.connectAll cfg input).entries.lookup id = some vs ∧ vs.passive = true

theorem probes_iff (admissible : Admissible cfg c input) :
    Probes cfg c input ↔ (c.visitAll cfg input).probedPassive = true := by
  rw [(visitAll_visited admissible).probed]
  simp only [Probes, admissible.completionOrder.mem_iff]

theorem passiveDue_iff :
    c.passiveDue cfg input = true ↔ ∃ time, c.lastPassiveAt = some time ∧
      cfg.passiveInterval ≤ since input.checkAt time := by
  unfold passiveDue
  cases c.lastPassiveAt with
  | none => simp
  | some time => simp

theorem passiveDue_of_scraped (admissible : Admissible cfg c input)
    {id : String} (ended : id ∈ input.completionOrder) {vs : VMState}
    (found : (c.connectAll cfg input).entries.lookup id = some vs)
    (passive : vs.passive = true) : c.passiveDue cfg input = true := by
  have started := admissible.completionOrder.mem_iff.mp ended
  obtain ⟨-, vs', found', -, -, due⟩ :=
    ((visitAll_visited admissible).started id).mp started
  rw [found] at found'
  exact due (Option.some.inj found' ▸ passive)

theorem le_sub_of_le_since {interval now time : Int} (past : time ≤ now)
    (due : interval ≤ since now time) : interval ≤ now - time := by
  simp only [since, maxDuration] at due
  omega

theorem poll_lastPassiveAt (admissible : Admissible cfg c input) :
    (Probes cfg c input ∧
      (c.poll cfg input).lastPassiveAt = some input.endAt) ∨
    (c.poll cfg input).lastPassiveAt = c.lastPassiveAt ∨
    (c.lastPassiveAt = none ∧ ∃ time ≤ input.endAt,
      (c.poll cfg input).lastPassiveAt = some time) := by
  simp only [poll]
  split
  next probed => exact .inl ⟨(probes_iff admissible).mpr probed, rfl⟩
  next =>
    rcases scrapeAll_lastPassiveAt cfg c input with
      same | ⟨unset, id, member, set⟩
    · exact .inr (.inl same)
    · exact .inr (.inr ⟨unset, _, (admissible.marked id member).2, set⟩)

theorem lastPassiveAt_le {history : List PollInput} (runs : Runs cfg history)
    {time : Int} (set : (run cfg history).lastPassiveAt = some time) :
    ∃ earlier ∈ history, time ≤ earlier.endAt := by
  induction history using List.reverseRecOn with
  | nil => cases set
  | append_singleton history input induction =>
      obtain ⟨earlier, admissible, -⟩ :=
        (throughout_append_singleton _ _ _).mp runs
      rw [run_append_singleton] at set
      rcases poll_lastPassiveAt admissible with
        ⟨-, ended⟩ | same | ⟨-, time', small, marked⟩
      · refine ⟨input, by simp, le_of_eq ?_⟩
        exact Option.some.inj (set.symm.trans ended)
      · obtain ⟨other, member, small⟩ := induction earlier (same ▸ set)
        exact ⟨other, List.mem_append_left _ member, small⟩
      · refine ⟨input, by simp, ?_⟩
        exact Option.some.inj (set.symm.trans marked) ▸ small

theorem due_of_probed {before : List PollInput} (runs : Runs cfg before)
    (admissible : Admissible cfg (run cfg before) input)
    (clock : ∀ earlier ∈ before, earlier.endAt ≤ input.checkAt)
    {id : String} (ended : id ∈ input.completionOrder) {vs : VMState}
    (found : ((run cfg before).connectAll cfg input).entries.lookup id =
      some vs) (passive : vs.passive = true) :
    ∃ time, (run cfg before).lastPassiveAt = some time ∧
      cfg.passiveInterval ≤ input.checkAt - time := by
  obtain ⟨time, set, due⟩ :=
    passiveDue_iff.mp (passiveDue_of_scraped admissible ended found passive)
  obtain ⟨earlier, member, small⟩ := lastPassiveAt_le runs set
  exact ⟨time, set, le_sub_of_le_since (small.trans (clock earlier member)) due⟩

theorem lastPassiveAt_after_probe {before between : List PollInput}
    {first : PollInput} (runs : Runs cfg (before ++ first :: between))
    (probes : Probes cfg (run cfg before) first) :
    ∃ time, (run cfg (before ++ first :: between)).lastPassiveAt = some time ∧
      first.checkAt ≤ time := by
  induction between using List.reverseRecOn with
  | nil =>
      obtain ⟨-, admissible, -⟩ := (throughout_append_singleton _ _ _).mp runs
      rw [run_append_singleton]
      refine ⟨first.endAt, ?_, admissible.ended⟩
      simp only [poll]
      rw [if_pos ((probes_iff admissible).mp probes)]
  | append_singleton between input induction =>
      rw [← List.cons_append, ← List.append_assoc] at runs ⊢
      obtain ⟨earlier, admissible, clock⟩ :=
        (throughout_append_singleton _ _ _).mp runs
      obtain ⟨time, set, small⟩ := induction earlier
      have later := clock first (by simp)
      have firstEnded := (earlier before first between rfl).1.ended
      rw [run_append_singleton]
      rcases poll_lastPassiveAt admissible with
        ⟨-, ended⟩ | same | ⟨unset, -⟩
      · exact ⟨input.endAt, ended,
          firstEnded.trans (later.trans admissible.ended)⟩
      · exact ⟨time, same.trans set, small⟩
      · rw [set] at unset
        cases unset

theorem scrapeVM_without_snapshot {vs : VMState} (first : vs.prevSnapshot = none)
    (clientClosed : Bool) (answers : Answers) (result : VMIResult) :
    (vs.scrapeVM cfg clientClosed answers).result ≠ .ok (some result) := by
  rcases vs.scrapeVM_cases cfg clientClosed answers with
    ⟨error, closed, failed⟩ | ⟨rows, -, done⟩
  · rw [failed]
    intro same
    cases same
  · rw [done]
    simp [VMState.disksOf, first, VMState.resultOf]

structure PassiveCycle (cfg : CollectorConfig) (history : List PollInput) :
    Prop where
  timed : ∀ id vs, (run cfg history).pool.entries.lookup id = some vs →
    vs.passive = true → (run cfg history).lastPassiveAt ≠ none
  due : Throughout (fun before input => ∀ id ∈ input.completionOrder, ∀ vs,
    ((run cfg before).connectAll cfg input).entries.lookup id = some vs →
      vs.passive = true → ∃ time, (run cfg before).lastPassiveAt = some time ∧
        cfg.passiveInterval ≤ input.checkAt - time) history
  apart : ∀ before first between second after,
    history = before ++ first :: (between ++ second :: after) →
      Probes cfg (run cfg before) first →
      Probes cfg (run cfg (before ++ first :: between)) second →
        cfg.passiveInterval ≤ second.checkAt - first.checkAt
  complete : Throughout (fun before input =>
    (run cfg before).passiveDue cfg input = true → ∀ id vs,
      ((run cfg before).connectAll cfg input).entries.lookup id = some vs →
        vs.passive = true →
        vs.client ∉ ((run cfg before).connectAll cfg input).closed →
          id ∈ input.completionOrder) history
  forgotten : ∀ id vs, (run cfg history).pool.entries.lookup id = some vs →
    vs.passive = true → vs.closed = false →
      vs.prevSnapshot = none ∧ vs.diskMap = none ∧
        ∀ clientClosed answers result,
          (vs.scrapeVM cfg clientClosed answers).result ≠ .ok (some result)
  retries : ∀ id vs, (run cfg history).pool.entries.lookup id = some vs →
    vs.passive = false →
      vs.retryCount = 0 ∨ vs.retryCount < cfg.maxRetries

theorem complete_of_due {before : List PollInput} (runs : Runs cfg before)
    (admissible : Admissible cfg (run cfg before) input)
    (due : (run cfg before).passiveDue cfg input = true) {id : String}
    {vs : VMState}
    (found : ((run cfg before).connectAll cfg input).entries.lookup id =
      some vs)
    (clientOpen : vs.client ∉ ((run cfg before).connectAll cfg input).closed) :
    id ∈ input.completionOrder := by
  have opened :=
    (connectAll_consistent (run_consistent runs) id vs found).opened
  apply admissible.completionOrder.mem_iff.mpr
  apply ((visitAll_visited admissible).started id).mpr
  refine ⟨?_, vs, found, opened, clientOpen, fun _ => due⟩
  exact (admissible.snapshotOrder.mem_iff id).mpr
    (Finmap.mem_of_lookup_eq_some found)

theorem probes_apart {before between : List PollInput} {first second : PollInput}
    (runs : Runs cfg (before ++ first :: between ++ [second]))
    (probes : Probes cfg (run cfg before) first)
    (again : Probes cfg (run cfg (before ++ first :: between)) second) :
    cfg.passiveInterval ≤ second.checkAt - first.checkAt := by
  obtain ⟨earlier, admissible, clock⟩ :=
    (throughout_append_singleton _ _ _).mp runs
  obtain ⟨time, set, small⟩ := lastPassiveAt_after_probe earlier probes
  obtain ⟨id, ended, vs, found, passive⟩ := again
  obtain ⟨time', set', due⟩ :=
    due_of_probed earlier admissible clock ended found passive
  obtain rfl := Option.some.inj (set.symm.trans set')
  omega

theorem passive_cycle_of_runs (cfg : CollectorConfig)
    (history : List PollInput) (runs : Runs cfg history) :
    PassiveCycle cfg history := by
  have consistent := run_consistent runs
  constructor
  · intro id vs found
    exact (consistent id vs found).timed
  · intro before input after split id ended vs found passive
    obtain ⟨admissible, clock⟩ := runs before input after split
    rw [split] at runs
    exact due_of_probed runs.of_append admissible clock ended found passive
  · intro before first between second after split probes again
    apply probes_apart _ probes again
    rw [split] at runs
    have regroup : before ++ first :: (between ++ second :: after) =
        before ++ first :: between ++ [second] ++ after := by simp
    rw [regroup] at runs
    exact runs.of_append
  · intro before input after split due id vs found _ clientOpen
    obtain ⟨admissible, -⟩ := runs before input after split
    rw [split] at runs
    exact complete_of_due runs.of_append admissible due found clientOpen
  · intro id vs found passive _
    obtain ⟨snapshot, diskMap⟩ := (consistent id vs found).forgotten passive
    exact ⟨snapshot, diskMap, scrapeVM_without_snapshot snapshot⟩
  · intro id vs found
    exact (consistent id vs found).retries

/-! One machine: the first poll marks it passive, the second leaves it alone, and
the third, more than an hour later, probes it. -/

def oneRetry : CollectorConfig := ⟨"node-1", 60 * 10 ^ 9, 1, [], ""⟩

def launcher : Cluster.Pod where
  name := "virt-launcher-vm"
  namespace_ := "tenant-a"
  uid := "0a000000-0000-0000-0000-00000000000a"
  phase := .running
  labels := Table.insertAll ∅
    [("kubevirt.io", "virt-launcher"), ("vm.kubevirt.io/name", "vm")]

def pollAt (checkAt : Int) (counters : CountersReply)
    (sweepOrder completionOrder : List String) : PollInput where
  pods := [launcher]
  find _ := some ⟨"cri-o://1", 42⟩
  reply _ := .connected
  fetch _ := .failed
  answers _ := ⟨counters, .failed, .failed, []⟩
  sweepOrder := sweepOrder
  snapshotOrder := ["cri-o://1"]
  completionOrder := completionOrder
  checkAt := checkAt
  markAt _ := checkAt + 1
  endAt := checkAt + 2
  now := 0

def markingPoll : PollInput := pollAt 0 (.failed .soft false) [] ["cri-o://1"]

def idlePoll : PollInput :=
  pollAt (60 * 10 ^ 9) (.failed .soft false) ["cri-o://1"] []

def probingPoll : PollInput :=
  pollAt (3601 * 10 ^ 9) (.counters [⟨"0 C:", 0, 0, 0, 0, 1⟩]) ["cri-o://1"]
    ["cri-o://1"]

theorem three_polls_keep_the_cycle :
    Probes oneRetry (run oneRetry [markingPoll, idlePoll]) probingPoll ∧
      PassiveCycle oneRetry [markingPoll, idlePoll, probingPoll] := by
  constructor
  · refine ⟨"cri-o://1", by decide, ?_⟩
    exact Option.map_eq_some_iff.mp (by decide +kernel)
  · apply passive_cycle_of_runs
    unfold Runs
    decide +kernel

end Collector

end KubevirtMetrics.Qga
