import Mathlib.Logic.Relation
import Purroute.Statistics

set_option autoImplicit false

namespace Purroute

open Atomics

def maxLogLines : Nat := 10
def dbUpdateIntervalTicks : Nat := 5

structure LogEntry where
  timestamp : Int
  message : Str
  level : LogLevel
deriving DecidableEq, Repr

-- The order in which `get_stats` reads the atomics.
def counters : List Counter :=
  [.currentBytesIn, .currentBytesOut, .totalBytesIn, .totalBytesOut, .activeConnections,
    .totalConnections, .failedConnections, .succeededConnections]

-- The columns of `public.global`.
def recordedCounters : List Counter :=
  [.totalConnections, .failedConnections, .succeededConnections, .totalBytesIn, .totalBytesOut]

structure GlobalRow where
  totalConnections : Option Count
  succeededConnections : Option Count
  failedConnections : Option Count
  totalBytesIn : Option Count
  totalBytesOut : Option Count
deriving DecidableEq, Repr

def rowOf (stats : GlobalStatsSnapshot) : GlobalRow :=
  ⟨some (stats .totalConnections), some (stats .succeededConnections), some (stats .failedConnections),
    some (stats .totalBytesIn),
    some (stats .totalBytesOut)⟩

-- Where the loop is: at `interval.tick()`, at `try_recv()`, in `get_stats` and
-- at the two writes. An error of the terminal ends it.
inductive DisplayStage where
  | waiting
  | receiving
  | measuring
  | reading (idle : Bool) (stats : GlobalStatsSnapshot) (left : List Counter)
  | refreshing (stats : GlobalStatsSnapshot)
  | recording (stats : GlobalStatsSnapshot)
  | stopped

structure StatsDisplay where
  stage : DisplayStage
  logs : List LogEntry
  lastStats : Option GlobalStatsSnapshot
  lastDbStats : Option GlobalStatsSnapshot
  hasNewLogs : Bool
  ticksSinceDbUpdate : Nat

def newDisplay : StatsDisplay := ⟨.waiting, [], none, none, false, 0⟩

def differs (fields : List Counter) (last : Option GlobalStatsSnapshot) (stats : GlobalStatsSnapshot) : Bool :=
  match last with
  | none => true
  | some last => fields.any fun counter => last counter != stats counter

def statsChanged (display : StatsDisplay) (stats : GlobalStatsSnapshot) : Bool := differs counters display.lastStats stats
def dbStatsChanged (display : StatsDisplay) (stats : GlobalStatsSnapshot) : Bool :=
  differs recordedCounters display.lastDbStats stats

def pushLog (logs : List LogEntry) (entry : LogEntry) : List LogEntry :=
  (if logs.length ≥ maxLogLines then logs.drop 1 else logs) ++ [entry]

-- `print_log_entry` goes by the configuration once more.
def printLogEntry (config : LogConfig) (entry : LogEntry) : Option LogEntry :=
  match config.log with
  | some true =>
      match entry.level with
      | .info => if config.verbose.getD false || config.debug.getD false then some entry else none
      | .error => some entry
      | .success => if config.verbose.getD false then some entry else none
  | _ => none

structure Screen where
  stats : GlobalStatsSnapshot
  lines : List LogEntry

def refreshDisplay (config : LogConfig) (display : StatsDisplay) (stats : GlobalStatsSnapshot) : Screen :=
  ⟨stats, display.logs.filterMap (printLogEntry config)⟩

-- The second half of an iteration: whether to record, and in front of that whether to print.
def StatsDisplay.compareDb (display : StatsDisplay) (stats : GlobalStatsSnapshot) : StatsDisplay :=
  if display.ticksSinceDbUpdate ≥ dbUpdateIntervalTicks ∨ dbStatsChanged display stats = true
    then { display with stage := .recording stats }
  else { display with stage := .waiting }

def StatsDisplay.compare (display : StatsDisplay) (stats : GlobalStatsSnapshot) : StatsDisplay :=
  if display.hasNewLogs = true ∨ statsChanged display stats = true
    then { display with stage := .refreshing stats } else display.compareDb stats

-- Whatever was current is taken away once nothing has come for a second.
def readAccess (idle : Bool) (counter : Counter) : Access Counter Count :=
  if idle ∧ (counter = .currentBytesIn ∨ counter = .currentBytesOut) then .swap counter 0 else .load counter

structure Recording where
  stats : GlobalStatsSnapshot
  applied : Bool
  ok : Bool

inductive StatsEvent where
  | called (call : StatsCall)
  | accessed (access : Access Counter Count) (found : Count)
  | ticked
  | received (message : LogMessage)
  | lagged
  | recorded (recording : Recording)

-- The process: the atomics, the calls under way, the channel, the loop with what
-- it has printed, the table, and everything that has happened.
structure Station where
  cells : GlobalStats
  tasks : List (List Atom)
  channel : Channel
  display : StatsDisplay
  screen : Option Screen
  table : List GlobalRow
  log : List StatsEvent

def newStation (cells : GlobalStats) (table : List GlobalRow) : Station := ⟨cells, [], ⟨[], 0⟩, newDisplay, none, table, []⟩

section Steps

variable (config : LogConfig) {capacity : Nat} (broadcast : Broadcast capacity) (client : Bool)

-- Any task calls anything, and the steps of the calls and of the loop come in
-- any order. How long nothing has come is left to the clock.
inductive Station.Step : Station → Station → Prop
  | call (s : Station) (call : StatsCall) :
      Step s { s with tasks := s.tasks ++ [call.atoms config], log := s.log ++ [.called call] }
  | add (s : Station) (before after : List (List Atom)) (rest : List Atom) (counter : Counter) (amount : Count)
      (here : s.tasks = before ++ (.add counter amount :: rest) :: after) :
      Step s { s with
        cells := perform s.cells (.fetchAdd counter amount)
        tasks := before ++ rest :: after
        log := s.log ++ [.accessed (.fetchAdd counter amount) (s.cells counter)] }
  | send (s : Station) (before after : List (List Atom)) (rest : List Atom) (message : LogMessage)
      (here : s.tasks = before ++ (.send message :: rest) :: after) :
      Step s { s with tasks := before ++ rest :: after, channel := s.channel.send message }
  | tick (s : Station) (waiting : s.display.stage = .waiting) :
      Step s { s with
        display := { s.display with stage := .receiving, ticksSinceDbUpdate := s.display.ticksSinceDbUpdate + 1 }
        log := s.log ++ [.ticked] }
  | receive (s : Station) (message : LogMessage) (timestamp : Int) (channel : Channel) (receiving : s.display.stage = .receiving)
      (got : broadcast.tryRecv s.channel = (.received message, channel)) :
      Step s { s with
        channel := channel
        display := { s.display with hasNewLogs := true, logs := pushLog s.display.logs ⟨timestamp, message.1, message.2⟩ }
        log := s.log ++ [.received message] }
  | drained (s : Station) (channel : Channel) (receiving : s.display.stage = .receiving)
      (got : broadcast.tryRecv s.channel = (.empty, channel)) :
      Step s { s with channel := channel, display := { s.display with stage := .measuring } }
  | lag (s : Station) (channel : Channel) (receiving : s.display.stage = .receiving)
      (got : broadcast.tryRecv s.channel = (.lagged, channel)) :
      Step s { s with channel := channel, display := { s.display with stage := .measuring }, log := s.log ++ [.lagged] }
  | measure (s : Station) (idle : Bool) (measuring : s.display.stage = .measuring) :
      Step s { s with display := { s.display with stage := .reading idle newStats counters } }
  | read (s : Station) (idle : Bool) (stats : GlobalStatsSnapshot) (counter : Counter) (left : List Counter)
      (reading : s.display.stage = .reading idle stats (counter :: left)) :
      Step s { s with
        cells := perform s.cells (readAccess idle counter)
        display := { s.display with stage := .reading idle (Function.update stats counter (s.cells counter)) left }
        log := s.log ++ [.accessed (readAccess idle counter) (s.cells counter)] }
  | compare (s : Station) (idle : Bool) (stats : GlobalStatsSnapshot) (reading : s.display.stage = .reading idle stats []) :
      Step s { s with display := s.display.compare stats }
  | print (s : Station) (stats : GlobalStatsSnapshot) (refreshing : s.display.stage = .refreshing stats) :
      Step s { s with
        screen := some (refreshDisplay config s.display stats)
        display := StatsDisplay.compareDb { s.display with lastStats := some stats, hasNewLogs := false } stats }
  | tear (s : Station) (stats : GlobalStatsSnapshot) (screen : Option Screen) (refreshing : s.display.stage = .refreshing stats) :
      Step s { s with screen := screen, display := { s.display with stage := .stopped } }
  | record (s : Station) (stats : GlobalStatsSnapshot) (applied ok : Bool) (recording : s.display.stage = .recording stats)
      (answered : ok = true → applied = client) (offline : client = false → applied = false ∧ ok = true) :
      Step s { s with
        table := if applied then s.table.map fun _ => rowOf stats else s.table
        display := { s.display with stage := .waiting, lastDbStats := some stats, ticksSinceDbUpdate := 0 }
        log := s.log ++ [.recorded ⟨stats, applied, ok⟩] }

end Steps

def accessOf : StatsEvent → Option (Access Counter Count × Count)
  | .accessed access found => some (access, found)
  | _ => none

def callOf : StatsEvent → Option StatsCall
  | .called call => some call
  | _ => none

def receivedOf : StatsEvent → Option LogMessage
  | .received message => some message
  | _ => none

def recordingOf : StatsEvent → Option Recording
  | .recorded recording => some recording
  | _ => none

def accesses (log : List StatsEvent) : List (Access Counter Count × Count) := log.filterMap accessOf
def calls (log : List StatsEvent) : List StatsCall := log.filterMap callOf
def receivedIn (log : List StatsEvent) : List LogMessage := log.filterMap receivedOf
def recordings (log : List StatsEvent) : List Recording := log.filterMap recordingOf

end Purroute
