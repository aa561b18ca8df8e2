import Purroute.Bookkeeping
import Purroute.Database

set_option autoImplicit false

namespace Purroute

open Atomics

-- The columns that are read from `public.user_stats`.
structure UserRow where
  id : Int
  totalBytesIn : Option Count
  totalBytesOut : Option Count
  totalConnections : Option Count

structure UserStats where
  bytesIn : Count
  bytesOut : Count
  connections : Count

abbrev UserMap := Nat → Option UserStats

-- A NULL is no `i64`, and a negative id is no `u64`. Both panic.
def storeTotals (stats : GlobalStats) (row : GlobalRow) : Option GlobalStats := do
  let totalConnections ← row.totalConnections
  let succeededConnections ← row.succeededConnections
  let failedConnections ← row.failedConnections
  let totalBytesIn ← row.totalBytesIn
  let totalBytesOut ← row.totalBytesOut
  pure fun
    | .totalConnections => totalConnections
    | .succeededConnections => succeededConnections
    | .failedConnections => failedConnections
    | .totalBytesIn => totalBytesIn
    | .totalBytesOut => totalBytesOut
    | counter => stats counter

def storeUser (users : UserMap) (row : UserRow) : Option UserMap := do
  let bytesIn ← row.totalBytesIn
  let bytesOut ← row.totalBytesOut
  let connections ← row.totalConnections
  if row.id < 0 then none else pure (Function.update users row.id.toNat (some ⟨bytesIn, bytesOut, connections⟩))

def loadUsers (users : Except DbFailure (List UserRow)) (stats : GlobalStats) :
    Option (GlobalStats × UserMap × Except DbFailure Unit) :=
  match users with
  | .error failure => some (stats, fun _ => none, .error failure)
  | .ok users => (users.foldlM storeUser fun _ => none).map fun loaded => (stats, loaded, .ok ())

-- What comes back of the two queries is an argument; nothing is a panic.
def loadFromDb (rows : Except DbFailure (List GlobalRow)) (users : Except DbFailure (List UserRow)) (stats : GlobalStats) :
    Option (GlobalStats × UserMap × Except DbFailure Unit) :=
  match rows.bind queryOpt with
  | .error failure => some (stats, fun _ => none, .error failure)
  | .ok none => loadUsers users stats
  | .ok (some row) => (storeTotals stats row).bind (loadUsers users)

-- One process: whether its first query was answered, where it has got to when it
-- dies, and the table that it leaves.
structure Life where
  loaded : Bool
  stop : Station
  left : List GlobalRow

def Life.Leaves (life : Life) : Prop :=
  life.left = life.stop.table ∨ ∃ stats, life.stop.display.stage = .recording stats ∧
    life.left = life.stop.table.map fun _ => rowOf stats

section Lives

variable (config : LogConfig) {capacity : Nat} (broadcast : Broadcast capacity)

-- `main` goes on when `load_from_db` fails, with what it has stored by then.
inductive Lifetimes : List GlobalRow → List Life → List GlobalRow → Prop
  | nil (table : List GlobalRow) : Lifetimes table [] table
  | cons (table last : List GlobalRow) (life : Life) (lives : List Life) (rows : Except DbFailure (List GlobalRow))
      (users : Except DbFailure (List UserRow)) (stats : GlobalStats) (loaded : UserMap) (result : Except DbFailure Unit)
      (queried : if life.loaded then rows = .ok table else ∃ failure, rows = .error failure)
      (started : loadFromDb rows users newStats = some (stats, loaded, result))
      (reached : Relation.ReflTransGen (Station.Step config broadcast true) (newStation stats table) life.stop)
        (leaves : life.Leaves)
      (rest : Lifetimes life.left lives last) : Lifetimes table (life :: lives) last

def Life.Recorded (life : Life) : Prop :=
  (∃ recording ∈ recordings life.stop.log, recording.applied = true) ∨ life.left ≠ life.stop.table

def Life.Settled (life : Life) : Prop :=
  life.stop.display.stage = .waiting ∧ .ticked ∈ life.stop.log ∧
    ∀ recording, (recordings life.stop.log).getLast? = some recording → recording.ok = true

-- What of a process reaches the table is what it had counted at some moment, and
-- at the end of an iteration all but what has come since the counter was read.
structure Counts (counter : Counter) (life : Life) (part : List (Access Counter Count × Count)) : Prop where
  earlier : part <+: accesses life.stop.log
  settled : life.Settled → ∃ reading, lastReading counter (accesses life.stop.log) = some reading ∧
    added counter (accesses life.stop.log) = added counter part + reading.since

-- What a column has come to after some processes. One that could not load it
-- overwrites it with its own counts alone.
inductive Carries (counter : Counter) : Count → List Life → Count → Prop
  | nil (value : Count) : Carries counter value [] value
  | kept (value last : Count) (life : Life) (lives : List Life) (part : List (Access Counter Count × Count))
      (whole : life.loaded = true ∨ ¬ life.Recorded) (counts : Counts counter life part)
      (rest : Carries counter (value + added counter part) lives last) : Carries counter value (life :: lives) last
  | erased (value last : Count) (life : Life) (lives : List Life) (part : List (Access Counter Count × Count))
      (unloaded : life.loaded = false) (recorded : life.Recorded) (counts : Counts counter life part)
      (rest : Carries counter (added counter part) lives last) : Carries counter value (life :: lives) last

end Lives

theorem load_users_stats (users : Except DbFailure (List UserRow)) (before stats : GlobalStats)
    (loaded : UserMap) (result : Except DbFailure Unit)
    (started : loadUsers users before = some (stats, loaded, result)) : stats = before := by
  cases users with
  | error failure =>
      cases started
      rfl
  | ok users =>
      obtain ⟨_, _, same⟩ := Option.map_eq_some_iff.mp started
      cases same
      rfl

theorem load_single (row : GlobalStatsSnapshot) (users : Except DbFailure (List UserRow)) (stats : GlobalStats) (loaded : UserMap)
    (result : Except DbFailure Unit) (started : loadFromDb (.ok [rowOf row]) users newStats = some (stats, loaded, result)) :
    SameTotals stats row := by
  have loading : loadFromDb (.ok [rowOf row]) users newStats = (storeTotals newStats (rowOf row)).bind (loadUsers users) := rfl
  rw [loading, Option.bind_eq_some_iff] at started
  obtain ⟨totals, stored, rest⟩ := started
  rw [load_users_stats users totals stats loaded result rest, ← Option.some.inj stored]
  intro counter member
  simp only [recordedCounters, List.mem_cons, List.not_mem_nil, or_false] at member
  rcases member with rfl | rfl | rfl | rfl | rfl <;> rfl

theorem load_failed (failure : DbFailure) (users : Except DbFailure (List UserRow)) (stats : GlobalStats) (loaded : UserMap)
    (result : Except DbFailure Unit) (started : loadFromDb (.error failure) users newStats =
      some (stats, loaded, result)) : stats = newStats := by
  cases started
  rfl

theorem recorded_total (counter : Counter) (member : counter ∈ recordedCounters) : ¬ IsCurrent counter := by
  simp only [recordedCounters, List.mem_cons, List.not_mem_nil, or_false] at member
  rcases member with rfl | rfl | rfl | rfl | rfl <;> exact nofun

theorem applied_table (entries : List Recording) (row : GlobalStatsSnapshot) :
    ∃ after, entries.foldl applyRecording [rowOf row] = [rowOf after] ∧
    ((after = row ∧ ∀ entry ∈ entries, entry.applied = false) ∨ ∃ entry ∈ entries, entry.applied = true ∧
      after = entry.stats) := by
  induction entries generalizing row with
  | nil => exact ⟨row, rfl, .inl ⟨rfl, nofun⟩⟩
  | cons entry entries ih =>
      rw [List.foldl_cons, applyRecording]
      by_cases applied : entry.applied = true
      · rw [if_pos applied]
        obtain ⟨after, table, still | ⟨later, member, done, same⟩⟩ := ih entry.stats
        · exact ⟨after, table, .inr ⟨entry, List.mem_cons_self, applied, still.1⟩⟩
        · exact ⟨after, table, .inr ⟨later, List.mem_cons_of_mem _ member, done, same⟩⟩
      · rw [if_neg applied]
        obtain ⟨after, table, still | ⟨later, member, done, same⟩⟩ := ih row
        · exact ⟨after, table, .inl ⟨still.1, List.forall_mem_cons.mpr ⟨Bool.eq_false_iff.mpr applied, still.2⟩⟩⟩
        · exact ⟨after, table, .inr ⟨later, List.mem_cons_of_mem _ member, done, same⟩⟩

section Processes

variable (config : LogConfig) {capacity : Nat} (broadcast : Broadcast capacity) (row : GlobalStatsSnapshot)
    (stats : GlobalStats) (life : Life)
  (reached : Relation.ReflTransGen (Station.Step config broadcast true) (newStation stats [rowOf row]) life.stop)
    (leaves : life.Leaves)

include reached

theorem settled_counts (settled : life.Settled) :
    ∃ after, life.stop.table = [rowOf after] ∧ (∃ entry ∈ recordings life.stop.log, entry.applied = true) ∧
    ∀ counter ∈ recordedCounters, ∃ part, Counts counter life part ∧ after counter = stats counter + added counter part := by
  obtain ⟨waiting, ticked, allOk⟩ := settled
  have kept := run_station config broadcast true stats [rowOf row] life.stop reached
  obtain ⟨shown, follows⟩ := display_follows config broadcast true stats [rowOf row] life.stop reached waiting ticked
  obtain ⟨recording, final, same, answered, applied⟩ := follows.recorded
  have member := List.mem_of_getLast? final
  have executed := answered (allOk recording final)
  refine ⟨shown, applied executed, ⟨recording, member, executed⟩, fun counter total => ?_⟩
  obtain ⟨part, earlier, value⟩ := kept.table.past recording member counter (recorded_total counter total)
  obtain ⟨reading, last, found, holds, loaded⟩ := follows.latest counter
  have now := past_now config stats life.stop kept.cells counter (recorded_total counter total)
  have snapshot : shown counter = stats counter + added counter part := (same counter total).symm.trans value
  refine ⟨part, ⟨earlier, fun _ => ⟨reading, last, ?_⟩⟩, snapshot⟩
  rw [loaded (recorded_total counter total), found, snapshot, now, add_assoc] at holds
  exact add_left_cancel holds

include leaves

theorem life_counts : ∃ after, life.left = [rowOf after] ∧ ((after = row ∧ ¬ life.Recorded ∧ ¬ life.Settled) ∨ (life.Recorded ∧
    ∀ counter ∈ recordedCounters, ∃ part, Counts counter life part ∧ after counter = stats counter + added counter part)) := by
  have kept := run_station config broadcast true stats [rowOf row] life.stop reached
  by_cases settled : life.Settled
  · obtain ⟨after, table, applied, counts⟩ := settled_counts config broadcast row stats life reached settled
    have same : life.left = life.stop.table := by
      rcases leaves with same | ⟨pending, recording, _⟩
      · exact same
      · rw [settled.1] at recording
        cases recording
    exact ⟨after, same.trans table, .inr ⟨.inl applied, counts⟩⟩
  · have past : ∀ snapshot, PastStats stats life.stop.log snapshot →
      ∀ counter ∈ recordedCounters, ∃ part, Counts counter life part ∧
        snapshot counter = stats counter + added counter part := by
      intro snapshot past counter total
      obtain ⟨part, earlier, value⟩ := past counter (recorded_total counter total)
      exact ⟨part, ⟨earlier, fun done => absurd done settled⟩, value⟩
    obtain ⟨after, table, still⟩ := applied_table (recordings life.stop.log) row
    rw [← kept.table.table] at table
    by_cases same : life.left = life.stop.table
    · refine ⟨after, same.trans table, ?_⟩
      rcases still with ⟨unchanged, none⟩ | ⟨entry, member, applied, rfl⟩
      · refine .inl ⟨unchanged, ?_, settled⟩
        intro recorded
        rcases recorded with ⟨entry, member, applied⟩ | other
        · rw [none entry member] at applied
          cases applied
        · exact other same
      · exact .inr ⟨.inl ⟨entry, member, applied⟩, past entry.stats (kept.table.past entry member)⟩
    · obtain ⟨pending, recording, left⟩ := leaves.resolve_left same
      have stage := kept.table.stage
      rw [recording] at stage
      rw [table] at left
      exact ⟨pending, left, .inr ⟨.inr same, past pending stage⟩⟩

end Processes

theorem totals_survive (config : LogConfig) {capacity : Nat} (broadcast : Broadcast capacity)
    (first : GlobalStatsSnapshot) (lives : List Life) (final : List GlobalRow)
    (lifetimes : Lifetimes config broadcast [rowOf first] lives final) :
    ∃ last, final = [rowOf last] ∧ ∀ counter ∈ recordedCounters, Carries counter (first counter) lives (last counter) ∧
      ((∀ life ∈ lives, life.loaded = true) → ∃ parts, List.Forall₂ (Counts counter) lives parts ∧
        last counter = first counter + (parts.map (added counter)).sum) := by
  induction lives generalizing first with
  | nil =>
      cases lifetimes
      exact ⟨first, rfl, fun counter _ => ⟨.nil _, fun _ => ⟨[], .nil, (add_zero _).symm⟩⟩⟩
  | cons life lives ih =>
      cases lifetimes with
      | cons _ _ _ _ rows users stats loaded result queried started reached leaves rest =>
          obtain ⟨after, left, outcome⟩ := life_counts config broadcast first stats life reached leaves
          rw [left] at rest
          obtain ⟨last, table, carries⟩ := ih after rest
          refine ⟨last, table, fun counter total => ?_⟩
          obtain ⟨carried, sums⟩ := carries counter total
          rcases outcome with ⟨rfl, unrecorded, unsettled⟩ | ⟨recorded, counts⟩
          · have none : Counts counter life [] := ⟨List.nil_prefix, fun settled => absurd settled unsettled⟩
            refine ⟨.kept _ _ life lives [] (.inr unrecorded) none (by rwa [added_nil, add_zero]), fun all => ?_⟩
            obtain ⟨parts, each, sum⟩ := sums (List.forall_mem_cons.mp all).2
            refine ⟨[] :: parts, .cons none each, ?_⟩
            rw [List.map_cons, List.sum_cons, added_nil, zero_add]
            exact sum
          · obtain ⟨part, own, value⟩ := counts counter total
            by_cases known : life.loaded = true
            · rw [if_pos known] at queried
              subst queried
              rw [load_single first users stats loaded result started counter total] at value
              refine ⟨.kept _ _ life lives part (.inl known) own (value ▸ carried), fun all => ?_⟩
              obtain ⟨parts, each, sum⟩ := sums (List.forall_mem_cons.mp all).2
              refine ⟨part :: parts, .cons own each, ?_⟩
              rw [List.map_cons, List.sum_cons, ← add_assoc, ← value]
              exact sum
            · rw [if_neg known] at queried
              obtain ⟨failure, rfl⟩ := queried
              rw [load_failed failure users stats loaded result started, newStats, zero_add] at value
              refine ⟨.erased _ _ life lives part (Bool.eq_false_iff.mpr known) recorded own (value ▸ carried), fun all => ?_⟩
              exact absurd (all life List.mem_cons_self) known

theorem load_known (row : GlobalStatsSnapshot) :
    ∃ stats, loadFromDb (.ok [rowOf row]) (.ok []) newStats = some (stats, fun _ => none, .ok ()) :=
  ⟨_, rfl⟩

theorem worked_same (one other : GlobalStats) (same : SameTotals one other) : SameTotals (worked one) (worked other) := by
  intro counter member
  have equal := same counter member
  cases counter with
  | totalBytesIn => exact congrArg (· + 5) equal
  | failedConnections => exact congrArg (· + 1) equal
  | _ => exact equal

theorem two_lives_survived : ∃ (one two : Life) (last : GlobalStatsSnapshot), one.loaded = true ∧ two.loaded = true ∧
    one.left = [⟨some 0, some 0, some 1, some 5, some 0⟩] ∧ two.left = [⟨some 0, some 0, some 2, some 10, some 0⟩] ∧
    two.left = [rowOf last] ∧ ∀ counter ∈ recordedCounters, Carries counter (newStats counter) [one, two] (last counter) ∧
      ((∀ life ∈ [one, two], life.loaded = true) → ∃ parts, List.Forall₂ (Counts counter) [one, two] parts ∧
        last counter = newStats counter + (parts.map (added counter)).sum) := by
  obtain ⟨zeros, started⟩ := load_known newStats
  have fresh := load_single newStats (.ok []) zeros (fun _ => none) (.ok ()) started
  obtain ⟨first, reached, _, _, _, left⟩ := one_tick_reached zeros (rowOf newStats)
  obtain ⟨loaded, again⟩ := load_known (worked zeros)
  have carried := load_single (worked zeros) (.ok []) loaded (fun _ => none) (.ok ()) again
  obtain ⟨second, reached', _, _, _, left'⟩ := one_tick_reached loaded (rowOf (worked zeros))
  have lifetimes : Lifetimes errorsOnly (latest 128) [rowOf newStats]
    [⟨true, first, [rowOf (worked zeros)]⟩, ⟨true, second, [rowOf (worked loaded)]⟩]
      [rowOf (worked loaded)] :=
    .cons _ _ _ _ _ (.ok []) zeros (fun _ => none) (.ok ()) rfl started reached (.inl left.symm)
      (.cons _ _ _ _ _ (.ok []) loaded (fun _ => none) (.ok ()) rfl again reached' (.inl left'.symm) (.nil _))
  obtain ⟨last, final, carries⟩ := totals_survive errorsOnly (latest 128) newStats _ _ lifetimes
  have once := worked_same zeros newStats fresh
  have twice := worked_same loaded (worked newStats) fun counter member => (carried counter member).trans (once counter member)
  refine ⟨_, _, last, rfl, rfl, ?_, ?_, final, carries⟩
  · exact congrArg (fun row => [row]) (same_row _ _ once)
  · exact congrArg (fun row => [row]) (same_row _ _ twice)

end Purroute
