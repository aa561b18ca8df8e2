import Mathlib.Logic.Relation
import Mathlib.Tactic.Linarith
import Purroute.Outward
import Purroute.Settlement

set_option autoImplicit false

namespace Purroute

open Interaction Interaction.Program

def isDecrement (event : Event) : Bool := event.1 = .decrement

-- `proxy_data` came back with an `Err`; a panic inside it is not one.
def isRelayError (event : Event) : Bool :=
  match event with
  | ⟨.relay _ _, .error (.error _)⟩ => true
  | _ => false

def decrements (past : History) : Nat := past.countP isDecrement
def relayErrors (past : History) : Nat := past.countP isRelayError

def Unreleased (past : History) : Prop := decrements past = 0 ∧ relayErrors past = 0

def MayRelease (past : History) : Op → Prop
  | .decrement => decrements past ≤ relayErrors past
  | _ => True

def Releases (program : Router Unit) : Prop :=
  ∀ past, Unreleased past → Meets MayRelease (fun past _ => decrements past = 1 ∧ relayErrors past = 0)
    (fun past _ => decrements past = relayErrors past) past program

def Quiet : Op → Prop
  | .relay _ _ => False
  | .decrement => False
  | _ => True

theorem decrements_append (past : History) (event : Event) :
    decrements (past ++ [event]) = decrements past + if isDecrement event then 1 else 0 := by
  rw [decrements, List.countP_append, List.countP_singleton]
  rfl

theorem relay_errors_append (past : History) (event : Event) :
    relayErrors (past ++ [event]) = relayErrors past + if isRelayError event then 1 else 0 := by
  rw [relayErrors, List.countP_append, List.countP_singleton]
  rfl

theorem quiet_event (op : Op) (reply : op.Reply) (quiet : Quiet op) :
    isDecrement ⟨op, reply⟩ = false ∧ isRelayError ⟨op, reply⟩ = false := by
  cases op with
  | relay id costPerByte => exact quiet.elim
  | decrement => exact quiet.elim
  | _ => exact ⟨rfl, rfl⟩

theorem may_release_iff (past : History) (op : Op) : MayRelease past op ↔ MaySettle isDecrement isRelayError past op := by
  cases op with
  | decrement => exact ⟨fun owed _ _ => owed, fun may => may () rfl⟩
  | _ => exact ⟨fun _ _ settling => by simp [isDecrement] at settling, fun _ => trivial⟩

theorem releases_iff (program : Router Unit) : Releases program ↔ Settles isDecrement isRelayError program := by
  constructor
  · intro releases past clear
    apply meets_mono _ _ _ _ program ?_ (fun _ _ ends => ends) (fun _ _ fails => fails) (releases past clear)
    exact fun past op => (may_release_iff past op).mp
  · intro settles past unreleased
    apply meets_mono _ _ _ _ program ?_ (fun _ _ ends => ends) (fun _ _ fails => fails) (settles past unreleased)
    exact fun past op => (may_release_iff past op).mpr

theorem releases_bind {A : Type} (first : Router A) (next : A → Router Unit) (quiet : Uses Quiet first)
    (tail : ∀ value, Releases (next value)) : Releases (first.bind next) := by
  have neutral := uses_mono (Neutral isDecrement isRelayError) first (fun op quiet reply => quiet_event op reply quiet) quiet
  rw [releases_iff]
  apply settles_bind isDecrement isRelayError first next neutral
  exact fun value => (releases_iff (next value)).mp (tail value)

theorem preparing_quiet (op : Op) (preparing : Preparing op) : Quiet op := by
  cases op with
  | relay id costPerByte => exact preparing
  | decrement => exact preparing
  | _ => trivial

theorem releases_closed : PreparingClosed Releases where
  fail := fun failure => (releases_iff _).mpr (settles_fail isDecrement isRelayError failure)
  bind := fun first next preparing tail => releases_bind first next (uses_mono _ _ preparing_quiet preparing) tail

theorem decrements_other (past : History) (event : Event) (other : isDecrement event = false) :
    decrements (past ++ [event]) = decrements past := count_other isDecrement past event other

theorem relay_errors_other (past : History) (event : Event) (other : isRelayError event = false) :
    relayErrors (past ++ [event]) = relayErrors past := count_other isRelayError past event other

def released : Event := ⟨.decrement, ()⟩

theorem decrements_released (past : History) : decrements (past ++ [released]) = decrements past + 1 :=
  decrements_append past released

theorem relay_errors_released (past : History) : relayErrors (past ++ [released]) = relayErrors past :=
  relay_errors_append past released

theorem released_balance (past : History) (owed : decrements past = relayErrors past) :
    decrements (past ++ [released]) = 1 + relayErrors (past ++ [released]) := by
  rw [decrements_released, relay_errors_released, owed, Nat.add_comm]

theorem proxy_data_releases (id : Option Int) (costPerByte : Rat) : Releases (proxyData id costPerByte) := by
  intro past unreleased
  obtain ⟨kept, noError⟩ := unreleased
  refine ⟨trivial, fun result => ?_⟩
  have held : decrements (past ++ [⟨.relay id costPerByte, result⟩]) = 0 := (decrements_other past _ rfl).trans kept
  cases result with
  | ok value =>
      have errors : relayErrors (past ++ [⟨.relay id costPerByte, .ok value⟩]) = 0 :=
        (relay_errors_other past _ rfl).trans noError
      refine ⟨held.trans_le (Nat.zero_le _), fun _ => ?_⟩
      exact ⟨(decrements_released _).trans (by rw [held]), (relay_errors_released _).trans errors⟩
  | error failure =>
      cases failure with
      | panic => exact held.trans ((relay_errors_other past ⟨.relay id costPerByte, .error .panic⟩ rfl).trans noError).symm
      | error reason =>
          have errors : relayErrors (past ++ [⟨.relay id costPerByte, .error (.error reason)⟩]) = 1 := by
            rw [relay_errors_append, noError]
            rfl
          refine ⟨held.trans_le (Nat.zero_le _), fun _ => ?_⟩
          exact (decrements_released _).trans ((congrArg (· + 1) held).trans ((relay_errors_released _).trans errors).symm)

theorem relayed_releases (id : Option Int) (costPerByte : Rat) : Releases (relayed id costPerByte) :=
  releases_bind _ _ ⟨trivial, fun _ => trivial⟩ fun _ => proxy_data_releases id costPerByte

section Connections

variable (platform : Platform) (server : ProxyServer) (peer : IpAddr)

theorem handle_connection_releases : Releases (handleConnection platform server peer) :=
  handle_connection_relays Releases releases_closed platform server peer relayed_releases

theorem connection_task_releases :
    Meets MayRelease (fun past _ => decrements past = 1 + relayErrors past) (fun _ _ => False)
    [] (connectionTask platform server peer) := by
  have handled := handle_connection_releases platform server peer [] ⟨rfl, rfl⟩
  refine meets_bind _ _ _ _ (meets_attempt _ (fun _ _ => False) _ handled) ?_
  intro past outcome ended
  cases outcome with
  | ok value =>
      obtain ⟨once, noError⟩ := ended
      exact once.trans (by rw [noError])
  | error failure =>
      have owed : decrements past = relayErrors past := ended
      refine ⟨trivial, fun _ => ?_⟩
      have kept := decrements_other past ⟨.record false, ()⟩ rfl
      have errors := relay_errors_other past ⟨.record false, ()⟩ rfl
      have balanced := kept.trans (owed.trans errors.symm)
      exact ⟨balanced.le, fun _ => released_balance _ balanced⟩

end Connections

structure Connection where
  past : History
  rest : Router Unit

structure Pool where
  connections : List Connection
  gauge : Int

def isFinished (connection : Connection) : Bool :=
  match connection.rest with
  | .ask _ _ => false
  | _ => true

def openConnections (pool : Pool) : Nat := pool.connections.countP fun connection => !isFinished connection

def emptyPool : Pool := ⟨[], 0⟩

section Runs

variable (platform : Platform) (server : ProxyServer)

-- The accept loop counts a connection; the tasks go on in any order.
inductive Pool.Step : Pool → Pool → Prop
  | accept (pool : Pool) (peer : IpAddr) :
      Step pool ⟨pool.connections ++ [⟨[], connectionTask platform server peer⟩], pool.gauge + 1⟩
  | progress (before after : List Connection) (past : History) (op : Op) (next : op.Reply → Router Unit)
      (reply : op.Reply) (gauge : Int) :
      Step ⟨before ++ ⟨past, .ask op next⟩ :: after, gauge⟩
        ⟨before ++ ⟨past ++ [⟨op, reply⟩], next reply⟩ :: after, gauge - if isDecrement ⟨op, reply⟩ then 1 else 0⟩

def outstanding (connection : Connection) : Int := 1 - decrements connection.past

structure Sound (connection : Connection) : Prop where
  task : Meets MayRelease (fun past _ => decrements past = 1 + relayErrors past) (fun _ _ => False)
    connection.past connection.rest
  released : decrements connection.past ≤ 1 + relayErrors connection.past

structure Balanced (pool : Pool) : Prop where
  gauge : pool.gauge = (pool.connections.map outstanding).sum
  sound : ∀ connection ∈ pool.connections, Sound connection

theorem progress_sound (past : History) (op : Op) (next : op.Reply → Router Unit) (reply : op.Reply)
    (sound : Sound ⟨past, .ask op next⟩) :
    Sound ⟨past ++ [⟨op, reply⟩], next reply⟩ := by
  obtain ⟨may, tail⟩ := sound.task
  refine ⟨tail reply, ?_⟩
  exact solvent_event isDecrement isRelayError past op reply ((may_release_iff past op).mp may) sound.released

theorem step_balanced (pool next : Pool) (step : Pool.Step platform server pool next)
    (balanced : Balanced pool) : Balanced next := by
  cases step with
  | accept _ peer =>
      refine ⟨?_, ?_⟩
      · simp [balanced.gauge, outstanding, decrements]
      · intro connection member
        rw [List.mem_append, List.mem_singleton] at member
        cases member with
        | inl before => exact balanced.sound connection before
        | inr fresh =>
            rw [fresh]
            exact ⟨connection_task_releases platform server peer, Nat.zero_le _⟩
  | progress before after past op rest reply gauge =>
      obtain ⟨total, sound⟩ := balanced
      refine ⟨?_, ?_⟩
      · simp only [List.map_append, List.map_cons, List.sum_append, List.sum_cons, outstanding, decrements_append] at total ⊢
        rw [total]
        split <;> omega
      · intro connection member
        rw [List.mem_append, List.mem_cons] at member
        rcases member with first | same | last
        · exact sound connection (List.mem_append_left _ first)
        · rw [same]
          exact progress_sound past op rest reply (sound _ (List.mem_append_right _ List.mem_cons_self))
        · exact sound connection (List.mem_append_right _ (List.mem_cons_of_mem _ last))

theorem run_balanced (pool : Pool)
    (reached : Relation.ReflTransGen (Pool.Step platform server) emptyPool pool) : Balanced pool := by
  induction reached with
  | refl => exact ⟨rfl, fun _ member => by cases member⟩
  | tail _ step ih => exact step_balanced platform server _ _ step ih

def noRelayError (pool : Pool) : Prop := ∀ connection ∈ pool.connections, relayErrors connection.past = 0

theorem finished_released (connection : Connection) (sound : Sound connection) (finished : isFinished connection = true) :
    decrements connection.past = 1 + relayErrors connection.past := by
  obtain ⟨past, rest⟩ := connection
  cases rest with
  | done value => exact sound.task
  | fail failure => exact sound.task.elim
  | ask op next => cases finished

theorem outstanding_between (connections : List Connection) (sound : ∀ connection ∈ connections, Sound connection)
    (noError : ∀ connection ∈ connections, relayErrors connection.past = 0) :
    0 ≤ (connections.map outstanding).sum ∧
      (connections.map outstanding).sum ≤ (connections.countP fun connection => !isFinished connection : Nat) := by
  induction connections with
  | nil => exact ⟨le_refl 0, le_refl 0⟩
  | cons connection rest ih =>
      obtain ⟨low, high⟩ := ih (fun other member => sound other (List.mem_cons_of_mem _ member))
        fun other member => noError other (List.mem_cons_of_mem _ member)
      have here := sound connection List.mem_cons_self
      have none := noError connection List.mem_cons_self
      have bound := here.released
      rw [List.map_cons, List.sum_cons, List.countP_cons, outstanding]
      cases finished : isFinished connection with
      | true =>
          have once := finished_released connection here finished
          simp only [Bool.not_true, Bool.false_eq_true, if_false]
          omega
      | false =>
          simp only [Bool.not_false, if_true]
          omega

theorem outstanding_finished (connections : List Connection) (sound : ∀ connection ∈ connections, Sound connection)
    (finished : ∀ connection ∈ connections, isFinished connection = true) :
    (connections.map outstanding).sum = -((connections.map fun connection => relayErrors connection.past).sum : Nat) := by
  induction connections with
  | nil => rfl
  | cons connection rest ih =>
      have tail := ih (fun other member => sound other (List.mem_cons_of_mem _ member))
        fun other member => finished other (List.mem_cons_of_mem _ member)
      have here := finished_released connection (sound connection List.mem_cons_self) (finished connection List.mem_cons_self)
      rw [List.map_cons, List.sum_cons, List.map_cons, List.sum_cons, tail, outstanding]
      omega

theorem gauge_counts_connections (pool : Pool) (reached : Relation.ReflTransGen (Pool.Step platform server) emptyPool pool) :
    (noRelayError pool → (0 ≤ pool.gauge ∧ pool.gauge ≤ openConnections pool) ∧
      ∀ connection ∈ pool.connections, decrements connection.past ≤ 1 ∧
        (isFinished connection = true → decrements connection.past = 1)) ∧
    ((∀ connection ∈ pool.connections, isFinished connection = true) → (pool.gauge = 0 ↔ noRelayError pool)) := by
  obtain ⟨gauge, sound⟩ := run_balanced platform server pool reached
  refine ⟨fun noError => ⟨?_, ?_⟩, fun finished => ?_⟩
  · rw [gauge]
    exact outstanding_between pool.connections sound noError
  · intro connection member
    have none := noError connection member
    have bound := (sound connection member).released
    refine ⟨by omega, fun finished => ?_⟩
    have once := finished_released connection (sound connection member) finished
    omega
  · rw [gauge, outstanding_finished pool.connections sound finished, Int.neg_eq_zero, Int.natCast_eq_zero,
      List.sum_eq_zero_iff_forall_eq_nat]
    exact List.forall_mem_map

theorem task_runs_in_pool (start rest : Router Unit) (trace : History) (run : Reaches start trace rest) (past : History)
    (before after : List Connection) (gauge : Int) :
    Relation.ReflTransGen (Pool.Step platform server) ⟨before ++ ⟨past, start⟩ :: after, gauge⟩
      ⟨before ++ ⟨past ++ trace, rest⟩ :: after, gauge - decrements trace⟩ := by
  induction run generalizing past gauge with
  | here program =>
      simp only [List.append_nil, decrements, List.countP_nil, Int.natCast_zero, Int.sub_zero]
      exact .refl
  | step op next reply trace rest later ih =>
      refine .head (.progress before after past op next reply gauge) ?_
      have tail := ih (past ++ [⟨op, reply⟩]) (gauge - if isDecrement ⟨op, reply⟩ then 1 else 0)
      have count : (decrements (⟨op, reply⟩ :: trace) : Int) = decrements trace + if isDecrement ⟨op, reply⟩ then 1 else 0 := by
        rw [decrements, List.countP_cons, decrements]
        split <;> rfl
      have left : gauge - decrements (⟨op, reply⟩ :: trace) =
        (gauge - if isDecrement ⟨op, reply⟩ then 1 else 0) - decrements trace := by
        omega
      rw [List.append_assoc, List.singleton_append] at tail
      rw [left]
      exact tail

end Runs

section Examples

def plainServer : ProxyServer := ⟨none, ⟨none, none⟩⟩
def socks4Hop : ProxyConfig := ⟨none, .socks4, "10.0.0.1", some 1080, none, none, ⟨none, none, none, none, none⟩, 1, none⟩
def caller : IpAddr := .v4 0
def connectFour : Bytes := [0x04, 0x01, 0, 80, 93, 184, 216, 34, 0]
def grantedFour : Bytes := [0, 0x5A, 0, 0, 0, 0, 0, 0]

def relayedRun (result : Except Failure Unit) : History :=
  [⟨.read 8192, .ok ⟨connectFour, by decide⟩⟩, ⟨.authenticateByIp caller, .ok none⟩,
    ⟨.load, ([socks4Hop], ⟨0, id, fun _ _ => 0⟩)⟩,
    ⟨.dial "10.0.0.1:1080", .ok ()⟩, sent (.raw connectFour), receivedExact 8 ⟨grantedFour, rfl⟩, ⟨.reply grantedFour, .ok ()⟩,
    ⟨.record true, ()⟩, ⟨.relay none 1, result⟩]

def closedPool : Pool := ⟨[⟨relayedRun (.ok ()) ++ [released], .done ()⟩], 0⟩
def failedPool : Pool := ⟨[⟨relayedRun (.error (.error .io)) ++ [released, ⟨.record false, ()⟩, released], .done ()⟩], -1⟩

theorem closed_run : Reaches (connectionTask standard plainServer caller) (relayedRun (.ok ()) ++ [released]) (.done ()) :=
  .step _ _ _ _ _ (.step _ _ _ _ _ (.step _ _ _ _ _ (.step _ _ _ _ _ (.step _ _ _ _ _ (.step _ _ _ _ _ (.step _ _ _ _ _
    (.step _ _ _ _ _ (.step _ _ _ _ _ (.step _ _ _ _ _ (.here _))))))))))

theorem closed_pool_reached : Relation.ReflTransGen (Pool.Step standard plainServer) emptyPool closedPool :=
  .head (.accept emptyPool caller) (task_runs_in_pool standard plainServer _ _ _ closed_run [] [] [] 1)

theorem failed_pool_reached : Relation.ReflTransGen (Pool.Step standard plainServer) emptyPool failedPool := by
  have run : Reaches (connectionTask standard plainServer caller)
      (relayedRun (.error (.error .io)) ++ [released, ⟨.record false, ()⟩, released]) (.done ()) :=
    .step _ _ _ _ _ (.step _ _ _ _ _ (.step _ _ _ _ _ (.step _ _ _ _ _ (.step _ _ _ _ _ (.step _ _ _ _ _ (.step _ _ _ _ _
      (.step _ _ _ _ _ (.step _ _ _ _ _ (.step _ _ _ _ _ (.step _ _ _ _ _ (.step _ _ _ _ _ (.here _))))))))))))
  exact .head (.accept emptyPool caller) (task_runs_in_pool standard plainServer _ _ _ run [] [] [] 1)

-- The relay and the task around it both take the connection off the gauge.
theorem failed_relay_released_twice : ¬ ∀ pool, Relation.ReflTransGen (Pool.Step standard plainServer) emptyPool pool →
    (0 ≤ pool.gauge ∧ pool.gauge ≤ openConnections pool) ∧
      ((∀ connection ∈ pool.connections, isFinished connection = true) → pool.gauge = 0) := by
  intro exact
  have low : (0 : Int) ≤ -1 := (exact failedPool failed_pool_reached).1.1
  exact absurd low (by decide)

theorem closed_pool_counted :
    (noRelayError closedPool → (0 ≤ closedPool.gauge ∧ closedPool.gauge ≤ openConnections closedPool) ∧
      ∀ connection ∈ closedPool.connections, decrements connection.past ≤ 1 ∧
        (isFinished connection = true → decrements connection.past = 1)) ∧
    ((∀ connection ∈ closedPool.connections, isFinished connection = true) → (closedPool.gauge = 0 ↔ noRelayError closedPool)) :=
  gauge_counts_connections standard plainServer closedPool closed_pool_reached

end Examples

end Purroute
