import Mathlib.Data.BitVec
import Purroute.Cells
import Purroute.Utf8

set_option autoImplicit false

namespace Purroute

open Atomics

-- The atomics of `GlobalStats`.
inductive Counter where
  | currentBytesIn
  | currentBytesOut
  | totalBytesIn
  | totalBytesOut
  | activeConnections
  | totalConnections
  | failedConnections
  | succeededConnections
deriving DecidableEq, Repr

abbrev Count := BitVec 64

-- `GlobalStats`, and what `get_stats` makes of it.
abbrev GlobalStats := Counter → Count
abbrev GlobalStatsSnapshot := Counter → Count

def newStats : GlobalStats := fun _ => 0

inductive LogLevel where
  | info
  | error
  | success
deriving DecidableEq, Repr

abbrev LogMessage := Str × LogLevel

-- The fields of `RouterConfig` that logging goes by.
structure LogConfig where
  log : Option Bool
  verbose : Option Bool
  debug : Option Bool

-- What a call makes of the shared state, one atomic step after the other.
inductive Atom where
  | add (counter : Counter) (amount : Count)
  | send (message : LogMessage)
deriving DecidableEq, Repr

namespace GlobalStats

def logMessage (config : LogConfig) (message : Str) (level : LogLevel) : List Atom :=
  match config.log with
  | some true =>
      match level with
      | .info => if config.verbose.getD false || config.debug.getD false then [.send (message, level)] else []
      | .error => [.send (message, level)]
      | .success => if config.verbose.getD false then [.send (message, level)] else []
  | _ => []

def logInfo (config : LogConfig) (message : Str) : List Atom := logMessage config message .info

def incrementActiveConnections : List Atom := [.add .activeConnections 1, .add .totalConnections 1]
def decrementActiveConnections : List Atom := [.add .activeConnections (-1)]

def recordConnectionResult (config : LogConfig) (success : Bool) (message : Str) : List Atom :=
  if success then .add .succeededConnections 1 :: logMessage config message .success
  else .add .failedConnections 1 :: logMessage config message .error

-- A number of bytes that is no `i64` panics in front of the first addition.
def addBytes (current total : Counter) (bytes : Nat) : List Atom :=
  if bytes < 2 ^ 63 then [.add current (BitVec.ofNat 64 bytes), .add total (BitVec.ofNat 64 bytes)] else []

def addBytesIn (bytes : Nat) : List Atom := addBytes .currentBytesIn .totalBytesIn bytes
def addBytesOut (bytes : Nat) : List Atom := addBytes .currentBytesOut .totalBytesOut bytes

end GlobalStats

inductive StatsCall where
  | incrementActiveConnections
  | decrementActiveConnections
  | recordConnectionResult (success : Bool) (message : Str)
  | logInfo (message : Str)
  | addBytesIn (bytes : Nat)
  | addBytesOut (bytes : Nat)

def StatsCall.atoms (config : LogConfig) : StatsCall → List Atom
  | .incrementActiveConnections => GlobalStats.incrementActiveConnections
  | .decrementActiveConnections => GlobalStats.decrementActiveConnections
  | .recordConnectionResult success message => GlobalStats.recordConnectionResult config success message
  | .logInfo message => GlobalStats.logInfo config message
  | .addBytesIn bytes => GlobalStats.addBytesIn bytes
  | .addBytesOut bytes => GlobalStats.addBytesOut bytes

def amountOf (counter : Counter) : Atom → Count
  | .add other amount => if other = counter then amount else 0
  | .send _ => 0

def amounts (counter : Counter) (atoms : List Atom) : Count := (atoms.map (amountOf counter)).sum

theorem amounts_cons (counter : Counter) (atom : Atom) (atoms : List Atom) :
    amounts counter (atom :: atoms) = amountOf counter atom + amounts counter atoms := by
  rw [amounts, List.map_cons, List.sum_cons, amounts]

theorem amounts_append (counter : Counter) (one other : List Atom) :
    amounts counter (one ++ other) = amounts counter one + amounts counter other := by
  rw [amounts, List.map_append, List.sum_append, amounts, amounts]

-- `tokio::sync::broadcast`, as its one reading receiver sees it: what was sent
-- since it subscribed and how far it is.
structure Channel where
  sent : List LogMessage
  next : Nat

def Channel.send (channel : Channel) (message : LogMessage) : Channel := { channel with sent := channel.sent ++ [message] }

inductive TryRecv where
  | received (message : LogMessage)
  | empty
  | lagged
deriving DecidableEq, Repr

-- What is documented of `try_recv`: the messages come in order, and none is
-- skipped unless more than `capacity` of them are waiting.
structure Broadcast (capacity : Nat) where
  tryRecv : Channel → TryRecv × Channel
  inOrder : ∀ channel next message, tryRecv channel = (.received message, next) →
    channel.sent[channel.next]? = some message ∧ next = { channel with next := channel.next + 1 }
  exhausted : ∀ channel next, tryRecv channel = (.empty, next) → channel.sent[channel.next]? = none ∧ next = channel
  overrun : ∀ channel next, tryRecv channel = (.lagged, next) → capacity < channel.sent.length - channel.next ∧
    next.sent = channel.sent ∧ channel.next ≤ next.next ∧ next.next ≤ channel.sent.length

-- The receiver that goes on with the last `capacity` messages.
def Channel.tryRecv (capacity : Nat) (channel : Channel) : TryRecv × Channel :=
  if capacity < channel.sent.length - channel.next then
    (.lagged, { channel with next := channel.sent.length - capacity })
  else
    match channel.sent[channel.next]? with
    | some message => (.received message, { channel with next := channel.next + 1 })
    | none => (.empty, channel)

theorem try_recv_cases (capacity : Nat) (channel next : Channel) (answer : TryRecv)
    (got : channel.tryRecv capacity = (answer, next)) :
    (answer = .lagged ∧ capacity < channel.sent.length - channel.next ∧
      next = { channel with next := channel.sent.length - capacity }) ∨
    (∃ message, answer = .received message ∧ channel.sent[channel.next]? = some message ∧
      next = { channel with next := channel.next + 1 }) ∨
    (answer = .empty ∧ channel.sent[channel.next]? = none ∧ next = channel) := by
  rw [Channel.tryRecv] at got
  split at got
  · rename_i behind
    cases got
    exact .inl ⟨rfl, behind, rfl⟩
  · cases front : channel.sent[channel.next]? with
    | none =>
        rw [front] at got
        cases got
        exact .inr (.inr ⟨rfl, rfl, rfl⟩)
    | some message =>
        rw [front] at got
        cases got
        exact .inr (.inl ⟨message, rfl, rfl, rfl⟩)

def latest (capacity : Nat) : Broadcast capacity where
  tryRecv := Channel.tryRecv capacity
  inOrder := by
    intro channel next message got
    rcases try_recv_cases capacity channel next _ got with ⟨other, _⟩ | ⟨_, same, found, moved⟩ | ⟨other, _⟩
    · cases other
    · cases same
      exact ⟨found, moved⟩
    · cases other
  exhausted := by
    intro channel next got
    rcases try_recv_cases capacity channel next _ got with ⟨other, _⟩ | ⟨_, other, _⟩ | ⟨_, none, same⟩
    · cases other
    · cases other
    · exact ⟨none, same⟩
  overrun := by
    intro channel next got
    rcases try_recv_cases capacity channel next _ got with ⟨_, behind, rfl⟩ | ⟨_, other, _⟩ | ⟨other, _⟩
    · exact ⟨behind, rfl, by dsimp only; omega, Nat.sub_le _ _⟩
    · cases other
    · cases other

end Purroute
