import KubevirtMetrics.Virt.Connect

namespace KubevirtMetrics.Virt

open Data

/-! What becomes of the clients of a collector, to the end of `Run`. -/

variable {V : Type} [Connection V]

def closeEntry (pool : Pool String V) (id : String) : Pool String V :=
  match pool.entries.lookup id with
  | none => pool
  | some conn => (closeConn pool conn).erase id

/-- `order` is the order in which the connections are iterated. -/
def closeAll (order : List String) (pool : Pool String V) : Pool String V :=
  order.foldl closeEntry pool

/-- Every client is closed or belongs to one connection, and connections that are closed
are not kept. -/
structure Owned (pool : Pool String V) : Prop where
  held : pool.Held Connection.client
  opened : ∀ id conn, pool.entries.lookup id = some conn → Connection.closed conn = false

/-- No connection is left and every client that was ever dialled is closed. -/
def Shut (pool : Pool String V) : Prop :=
  pool.entries = ∅ ∧ ∀ n < pool.opened, n ∈ pool.closed

namespace Owned

variable {pool : Pool String V}

theorem empty : Owned (.empty : Pool String V) where
  held := Pool.sound_empty.held
  opened id conn found := by cases found

theorem drop (owned : Owned pool) {id : String} {conn : V}
    (found : pool.entries.lookup id = some conn) :
    Owned ((closeConn pool conn).erase id) := by
  unfold closeConn
  rw [owned.opened id conn found, if_neg Bool.false_ne_true]
  constructor
  · exact (owned.held.close _).erase found (Finset.mem_insert_self _ _)
  · intro other conn' found'
    exact owned.opened other conn' (Table.of_lookup_erase found').2

theorem waste (owned : Owned pool) : Owned pool.waste := ⟨owned.held.waste, owned.opened⟩

theorem close (owned : Owned pool) (n : Nat) : Owned (pool.close n) :=
  ⟨owned.held.close n, owned.opened⟩

theorem replace (owned : Owned pool) {id : String} {conn conn' : V}
    (found : pool.entries.lookup id = some conn)
    (client : Connection.client conn' = Connection.client conn)
    (closed : Connection.closed conn' = Connection.closed conn) :
    Owned (pool.replace id conn') where
  held := owned.held.replace found client
  opened other conn'' found' := by
    rcases Table.of_lookup_insert found' with ⟨-, rfl⟩ | earlier
    · rw [closed]
      exact owned.opened id conn found
    · exact owned.opened other conn'' earlier

theorem sweepEntry (owned : Owned pool) (active : List String) (id : String) :
    Owned (sweepEntry active pool id) := by
  unfold Virt.sweepEntry
  split
  next => exact owned
  next conn found =>
    split
    next => exact owned
    next => exact owned.drop found

theorem connectTarget (owned : Owned pool) (reply : Nat → ConnectReply)
    {make : Target × Nat → Nat → V}
    (client : ∀ entry n, Connection.client (make entry n) = n)
    (fresh : ∀ entry n, Connection.closed (make entry n) = false)
    (existing : Table String V) (entry : Target × Nat) :
    Owned (connectTarget reply make existing pool entry) := by
  unfold Virt.connectTarget
  dsimp only
  split
  next => exact owned
  next =>
    split
    next => exact owned
    next => exact owned.waste
    next =>
      split
      next => exact owned.waste
      next absent =>
        constructor
        · exact owned.held.enter (Finmap.lookup_eq_none.mpr absent) (client entry _)
        · intro other conn found
          rcases Table.of_lookup_insert found with ⟨-, rfl⟩ | earlier
          · exact fresh entry _
          · exact owned.opened other conn earlier

theorem closeEntry (owned : Owned pool) (id : String) : Owned (closeEntry pool id) := by
  unfold Virt.closeEntry
  split
  next => exact owned
  next conn found => exact owned.drop found

theorem closeAll (owned : Owned pool) (order : List String) :
    Owned (closeAll order pool) := by
  induction order generalizing pool with
  | nil => exact owned
  | cons id order induction => exact induction (owned.closeEntry id)

end Owned

theorem lookup_closeEntry {pool : Pool String V} {id other : String} {conn : V}
    (found : (closeEntry pool id).entries.lookup other = some conn) :
    other ≠ id ∧ pool.entries.lookup other = some conn := by
  unfold closeEntry at found
  split at found
  next absent =>
    refine ⟨?_, found⟩
    intro same
    rw [same, absent] at found
    cases found
  next conn' _ =>
    have erased : ((closeConn pool conn').entries.erase id).lookup other = some conn :=
      found
    rw [closeConn_entries] at erased
    exact Table.of_lookup_erase erased

theorem lookup_closeAll {order : List String} {pool : Pool String V} {id : String}
    {conn : V} (found : (closeAll order pool).entries.lookup id = some conn) :
    id ∉ order ∧ pool.entries.lookup id = some conn := by
  induction order generalizing pool with
  | nil => exact ⟨List.not_mem_nil, found⟩
  | cons first order induction =>
      obtain ⟨later, before⟩ := induction found
      obtain ⟨apart, start⟩ := lookup_closeEntry before
      exact ⟨List.not_mem_cons_of_ne_of_not_mem apart later, start⟩

theorem Owned.shut {pool : Pool String V} (owned : Owned pool) {order : List String}
    (all : Table.Enumerates order pool.entries) : Shut (Virt.closeAll order pool) := by
  have none : ∀ id conn, (Virt.closeAll order pool).entries.lookup id ≠ some conn := by
    intro id conn found
    obtain ⟨missed, start⟩ := lookup_closeAll found
    exact missed ((all.mem_iff id).mpr (Finmap.mem_of_lookup_eq_some start))
  constructor
  · apply Finmap.ext_lookup
    intro id
    rw [Finmap.lookup_empty]
    exact Option.eq_none_iff_forall_ne_some.mpr (none id)
  · intro n dialled
    rcases (owned.closeAll order).held.kept n dialled with closed | ⟨id, conn, found, -⟩
    · exact closed
    · exact absurd found (none id conn)

end KubevirtMetrics.Virt
