import Mathlib.Algebra.Order.BigOperators.Group.List
import Purroute.Gauge
import Purroute.Service

set_option autoImplicit false

namespace Purroute

open Interaction Interaction.Program

def isRecord (event : Event) : Bool :=
  match event with
  | ⟨.record _, _⟩ => true
  | _ => false

-- `proxy_data` did not come back with `Ok`.
def isRelayFailure (event : Event) : Bool :=
  match event with
  | ⟨.relay _ _, .error _⟩ => true
  | _ => false

def isIoError : Happening → Bool
  | .copied _ _ .readFails => true
  | .copied _ _ .writeFails => true
  | .copied _ _ .flushFails => true
  | _ => false

-- The awaits that end a copy loop with an error.
def breaks : Action → Bool
  | .readFails => true
  | .writeFails => true
  | .flushFails => true
  | .report (.error _) => true
  | .report (.ok (some remaining)) => decide (remaining ≤ 0)
  | _ => false

def isBroken : Happening → Bool
  | .copied _ _ action => breaks action
  | .answered ⟨.relay _ _, .error .panic⟩ => true
  | _ => false

def recorded (log : List Happening) : Nat := log.countP fun happening => (connectionResult happening).isSome

def isClosed (session : Session) : Bool :=
  match session.rest with
  | .ask _ _ => false
  | _ => true

def Unbroken (session : Session) : Prop := ∀ happening ∈ session.log, isBroken happening = false

theorem other_may_settle (past : History) (op : Op) (other : ∀ reply, isRecord ⟨op, reply⟩ = false) :
    MaySettle isRecord isRelayFailure past op := by
  intro reply recording
  rw [other reply] at recording
  cases recording

theorem proxy_data_records (id : Option Int) (costPerByte : Rat) (past : History) (once : past.countP isRecord = 1)
    (unfailed : past.countP isRelayFailure = 0) : Meets (MaySettle isRecord isRelayFailure)
      (fun past _ => past.countP isRecord = 1 ∧ past.countP isRelayFailure = 0)
      (fun past _ => past.countP isRecord = past.countP isRelayFailure) past (proxyData id costPerByte) := by
  refine ⟨other_may_settle past _ fun _ => rfl, fun result => ?_⟩
  have relayed := (count_other isRecord past ⟨.relay id costPerByte, result⟩ rfl).trans once
  have decrement := other_may_settle (past ++ [⟨.relay id costPerByte, result⟩]) .decrement fun _ => rfl
  have closed := (count_other isRecord _ released rfl).trans relayed
  cases result with
  | ok value =>
      have well := (count_other isRelayFailure past ⟨.relay id costPerByte, .ok value⟩ rfl).trans unfailed
      exact ⟨decrement, fun _ => ⟨closed, (count_other isRelayFailure _ released rfl).trans well⟩⟩
  | error failure =>
      have failed : List.countP isRelayFailure (past ++ [⟨.relay id costPerByte, .error failure⟩]) = 1 :=
        (count_one isRelayFailure past _ rfl).trans (by rw [unfailed])
      cases failure with
      | panic => exact relayed.trans failed.symm
      | error reason => exact ⟨decrement, fun _ => closed.trans ((count_other isRelayFailure _ released rfl).trans failed).symm⟩

theorem relayed_records (id : Option Int) (costPerByte : Rat) : Settles isRecord isRelayFailure (relayed id costPerByte) := by
  intro past clear
  obtain ⟨unrecorded, unfailed⟩ := clear
  refine ⟨fun _ _ => unrecorded.le.trans (Nat.zero_le _), fun done => ?_⟩
  have once := count_one isRecord past ⟨.record true, done⟩ rfl
  rw [unrecorded] at once
  exact proxy_data_records id costPerByte _ once ((count_other isRelayFailure past _ rfl).trans unfailed)

theorem preparing_unrecorded (op : Op) (preparing : Preparing op) : Neutral isRecord isRelayFailure op := by
  cases op with
  | relay id costPerByte => exact preparing.elim
  | record success => exact preparing.elim
  | decrement => exact preparing.elim
  | _ => exact fun _ => ⟨rfl, rfl⟩

theorem records_closed : PreparingClosed (Settles isRecord isRelayFailure) where
  fail := fun failure => settles_fail isRecord isRelayFailure failure
  bind := fun first next preparing tail =>
    settles_bind isRecord isRelayFailure first next (uses_mono _ _ preparing_unrecorded preparing) tail

section Connections

variable (platform : Platform) (server : ProxyServer) (peer : IpAddr)

theorem connection_task_records : Meets (MaySettle isRecord isRelayFailure)
    (fun past _ => past.countP isRecord = 1 + past.countP isRelayFailure) (fun _ _ => False) []
    (connectionTask platform server peer) := by
  have handled := handle_connection_relays _ records_closed platform server peer relayed_records [] ⟨rfl, rfl⟩
  refine meets_bind _ _ _ _ (meets_attempt _ (fun _ _ => False) _ handled) ?_
  intro past outcome balance
  cases outcome with
  | ok value =>
      obtain ⟨once, unfailed⟩ := balance
      exact once.trans (by rw [unfailed])
  | error failure =>
      have owed : past.countP isRecord = past.countP isRelayFailure := balance
      refine ⟨fun _ _ => owed.le, fun done => ⟨other_may_settle _ _ fun _ => rfl, fun _ => ?_⟩⟩
      have one := count_one isRecord past ⟨.record false, done⟩ rfl
      have none := count_other isRelayFailure past ⟨.record false, done⟩ rfl
      have recordKept := count_other isRecord (past ++ [⟨.record false, done⟩]) released rfl
      have failureKept := count_other isRelayFailure (past ++ [⟨.record false, done⟩]) released rfl
      have balanced : past.countP isRecord + 1 =
        1 + List.countP isRelayFailure (past ++ [⟨.record false, done⟩] ++ [released]) := by
        rw [failureKept, none, owed, Nat.add_comm]
      exact recordKept.trans (one.trans balanced)

theorem recorded_split (log : List Happening) : recorded log = (events log).countP isRecord + log.countP isIoError := by
  induction log with
  | nil => rfl
  | cons happening log ih =>
      rw [recorded] at ih ⊢
      rw [List.countP_cons, List.countP_cons, ih]
      cases happening with
      | answered event =>
          have head : events (.answered event :: log) = event :: events log := rfl
          have same : (connectionResult (.answered event)).isSome = isRecord event := by
            obtain ⟨op, reply⟩ := event
            cases op <;> rfl
          rw [head, List.countP_cons, same]
          simp only [isIoError, Bool.false_eq_true, if_false]
          omega
      | entered => rfl
      | copied direction phase action =>
          have head : events (.copied direction phase action :: log) = events log := rfl
          rw [head, Nat.add_assoc]
          cases action <;> rfl

theorem io_error_broken (happening : Happening) (failing : isIoError happening = true) : isBroken happening = true := by
  cases happening with
  | copied direction phase action => cases action <;> first | rfl | cases failing
  | _ => cases failing

def untold (relay : Option Relay) : Nat :=
  match relay.bind result with
  | some (.error _) => 1
  | _ => 0

structure Told (session : Session) : Prop where
  failures : session.log.countP isBroken = (events session.log).countP isRelayFailure + untold session.relay
  closed : isClosed session = true → session.relay = none

theorem step_breaks (metered : Bool) (phase next : Phase) (action : Action) (step : phase.step metered action = some next) :
    breaks action = true ↔ ∃ reason, next = .ended (.error reason) := by
  cases phase_step_cases metered phase next action step with
  | read chunk filled fits => cases metered <;> simp [breaks]
  | report chunk reply =>
      rcases reply with failure | _ | remaining
      · simp [breaks, afterReport]
      · simp [breaks, afterReport]
      · by_cases spent : remaining ≤ 0 <;> simp [breaks, afterReport, spent]
  | write chunk count some fits => split <;> simp [breaks]
  | _ => simp [breaks]

theorem untold_open (relay : Relay) (running : isOpen relay) : untold (some relay) = 0 := by
  have unended : (some relay).bind result = none := result_open relay running
  rw [untold, unended]

theorem untold_moved (metered : Bool) (relay : Relay) (running : isOpen relay) (direction : Direction)
    (action : Action) (phase : Phase) (step : (relay.phase direction).step metered action = some phase) :
    untold (some (moved relay direction action phase)) = if breaks action then 1 else 0 := by
  have after := result_moved relay running direction action phase
  have kind := step_breaks metered (relay.phase direction) phase action step
  have told : untold (some (moved relay direction action phase)) = match result (moved relay direction action phase) with
      | some (.error _) => 1
      | _ => 0 := rfl
  rw [told, after]
  by_cases breaking : breaks action = true
  · obtain ⟨reason, rfl⟩ := kind.mp breaking
    rw [if_pos breaking]
  · rw [if_neg breaking]
    cases phase with
    | ended outcome =>
        cases outcome with
        | ok value => rfl
        | error reason => exact absurd (kind.mpr ⟨reason, rfl⟩) breaking
    | _ => rfl

theorem answer_unbroken (op : Op) (reply : op.Reply) (other : ¬ IsRelay op) :
    isBroken (.answered ⟨op, reply⟩) = false ∧ isRelayFailure ⟨op, reply⟩ = false := by
  cases op with
  | relay id costPerByte => exact absurd trivial other
  | _ => exact ⟨rfl, rfl⟩

theorem leave_failure (id : Option Int) (costPerByte : Rat) (relay : Relay) (outcome : Except ProxyError Unit)
    (finished : result relay = some outcome) :
    isBroken (.answered ⟨.relay id costPerByte, outcome.mapError .error⟩) = false ∧
      (if isRelayFailure ⟨.relay id costPerByte, outcome.mapError .error⟩ then 1 else 0) = untold (some relay) := by
  have told : untold (some relay) = match some outcome with
      | some (.error _) => 1
      | _ => 0 := by
    rw [← finished]
    rfl
  rw [told]
  cases outcome with
  | ok value => exact ⟨rfl, rfl⟩
  | error reason => exact ⟨rfl, rfl⟩

theorem step_told (session next : Session) (happening : Happening) (step : Session.Step session happening next)
    (told : Told session) :
    Told next := by
  obtain ⟨failures, _⟩ := told
  cases step with
  | answer log op body reply other =>
      obtain ⟨unbroken, unfailed⟩ := answer_unbroken op reply other
      refine ⟨?_, fun _ => rfl⟩
      rw [List.countP_append, List.countP_singleton, unbroken, events_answered, List.countP_append,
        List.countP_singleton, unfailed]
      exact failures
  | enter log id costPerByte body streams =>
      refine ⟨?_, fun closed => by cases closed⟩
      rw [List.countP_append, List.countP_singleton, events_entered]
      exact failures
  | copy log id costPerByte body relay direction action phase running enabled step =>
      refine ⟨?_, fun closed => by cases closed⟩
      have count : log.countP isBroken = (events log).countP isRelayFailure + untold (some relay) := failures
      rw [List.countP_append, List.countP_singleton, events_copied,
        untold_moved id.isSome relay running direction action phase step,
        count, untold_open relay running]
      rfl
  | leave log id costPerByte body relay outcome finished =>
      obtain ⟨unbroken, told⟩ := leave_failure id costPerByte relay outcome finished
      refine ⟨?_, fun _ => rfl⟩
      rw [List.countP_append, List.countP_singleton, unbroken, events_answered, List.countP_append, List.countP_singleton, told]
      exact failures
  | panic log id costPerByte body relay running =>
      refine ⟨?_, fun _ => rfl⟩
      have count : log.countP isBroken = (events log).countP isRelayFailure + untold (some relay) := failures
      have failed : isRelayFailure ⟨.relay id costPerByte, .error .panic⟩ = true := rfl
      rw [List.countP_append, List.countP_singleton, events_answered, List.countP_append, List.countP_singleton, failed, count,
        untold_open relay running]
      rfl

theorem session_told (session : Session)
    (reached : Relation.ReflTransGen Session.Moves (accepted (connectionTask platform server peer)) session) : Told session :=
  session_invariant Told _ session ⟨rfl, fun _ => rfl⟩ (fun _ happening _ step => step_told _ _ happening step) reached

theorem unbroken_count (session : Session) : Unbroken session ↔ session.log.countP isBroken = 0 := by
  rw [Unbroken, List.countP_eq_zero]
  simp only [Bool.not_eq_true]

theorem io_errors_broken (log : List Happening) : log.countP isIoError ≤ log.countP isBroken :=
  List.countP_mono_left fun happening _ failing => io_error_broken happening failing

theorem session_records (session : Session)
    (reached : Relation.ReflTransGen Session.Moves (accepted (connectionTask platform server peer)) session) :
    (Unbroken session → recorded session.log ≤ 1) ∧
      (isClosed session = true → 1 ≤ recorded session.log ∧ (recorded session.log = 1 ↔ Unbroken session)) := by
  have told := session_told platform server peer session reached
  have run := session_reaches _ session reached
  have meets := meets_reaches _ _ _ _ (connection_task_records platform server peer) run
  have solvent : Solvent isRecord isRelayFailure ([] ++ events session.log) :=
    solvent_reaches _ _ _ _ _ _ [] _ (connection_task_records platform server peer) run (Nat.zero_le _)
  rw [List.nil_append] at meets solvent
  have split := recorded_split session.log
  have errors := io_errors_broken session.log
  have failures := told.failures
  unfold Solvent at solvent
  rw [unbroken_count]
  refine ⟨fun unbroken => by omega, fun closed => ?_⟩
  rw [told.closed closed] at failures
  have settled : untold none = 0 := rfl
  have balance : (events session.log).countP isRecord = 1 + (events session.log).countP isRelayFailure := by
    obtain ⟨log, rest, relay⟩ := session
    cases rest with
    | done value => exact meets
    | fail failure => exact meets.elim
    | ask op next => cases closed
  omega

end Connections

section Runs

variable (platform : Platform) (server : ProxyServer)

structure Tallied (service : Service) : Prop where
  total : service.totalConnections = service.sessions.length
  results : service.succeededConnections + service.failedConnections =
    (service.sessions.map fun session => recorded session.log).sum

theorem recorded_append (log : List Happening) (happening : Happening) :
    recorded (log ++ [happening]) = recorded log + ((if connectionResult happening = some true then 1 else 0) +
      if connectionResult happening = some false then 1 else 0) := by
  rw [recorded, List.countP_append, List.countP_singleton]
  rcases connectionResult happening with _ | _ | _ <;> rfl

theorem step_tallied (service next : Service) (step : Service.Step platform server service next) (tallied : Tallied service) :
    Tallied next := by
  obtain ⟨total, results⟩ := tallied
  cases step with
  | accept _ peer =>
      refine ⟨?_, ?_⟩
      · simp only [List.length_append, List.length_singleton, total]
      · simp only [List.map_append, List.map_singleton, List.sum_append, List.sum_singleton, results]
        rfl
  | progress before after session next happening count succeeded failed step =>
      have grown := congrArg recorded (step_log session next happening step)
      rw [recorded_append] at grown
      refine ⟨?_, ?_⟩
      · simpa only [List.length_append, List.length_cons] using total
      · simp only [List.map_append, List.map_cons, List.sum_append, List.sum_cons] at results ⊢
        omega

theorem service_tallied (service : Service)
    (reached : Relation.ReflTransGen (Service.Step platform server) emptyService service) :
    Tallied service := by
  induction reached with
  | refl => exact ⟨rfl, rfl⟩
  | tail _ step ih => exact step_tallied platform server _ _ step ih

theorem outcomes_recorded_once (service : Service)
    (reached : Relation.ReflTransGen (Service.Step platform server) emptyService service) :
    ((∀ session ∈ service.sessions, Unbroken session) →
      (∀ session ∈ service.sessions, recorded session.log ≤ 1 ∧ (isClosed session = true → recorded session.log = 1)) ∧
        service.succeededConnections + service.failedConnections ≤ service.totalConnections) ∧
    ∀ session ∈ service.sessions, isClosed session = true → (recorded session.log = 1 ↔ Unbroken session) := by
  have runs := service_sessions platform server service reached
  have records : ∀ session ∈ service.sessions, (Unbroken session → recorded session.log ≤ 1) ∧
      (isClosed session = true → 1 ≤ recorded session.log ∧ (recorded session.log = 1 ↔ Unbroken session)) := by
    intro session member
    obtain ⟨peer, run⟩ := runs session member
    exact session_records platform server peer session run
  refine ⟨fun unbroken => ⟨fun session member => ?_, ?_⟩, fun session member closed => ((records session member).2 closed).2⟩
  · have whole := unbroken session member
    obtain ⟨atMost, finished⟩ := records session member
    exact ⟨atMost whole, fun closed => (finished closed).2.mpr whole⟩
  · obtain ⟨total, results⟩ := service_tallied platform server service reached
    rw [total, results]
    have bound : ∀ result ∈ service.sessions.map fun session => recorded session.log, result ≤ 1 := by
      intro result member
      obtain ⟨session, inside, rfl⟩ := List.mem_map.mp member
      exact (records session inside).1 (unbroken session inside)
    have sum := List.sum_le_card_nsmul _ 1 bound
    rw [List.length_map] at sum
    exact sum.trans (Nat.mul_one _).le

end Runs

section Examples

def servedRun : History := (relayedRun (.ok ())).take 8

def atRelay : List Happening := servedRun.map .answered

theorem relay_entered (next : Except Failure Unit → Router Unit) (streams : Direction → Bytes)
    (served : Reaches (connectionTask standard plainServer caller) servedRun (.ask (.relay none 1) next)) :
    Relation.ReflTransGen Session.Moves (accepted (connectionTask standard plainServer caller))
      ⟨atRelay ++ [.entered], .ask (.relay none 1) next, some (startRelay streams)⟩ := by
  have other : ∀ event ∈ servedRun, ¬ IsRelay event.1 := by
    intro event member
    simp only [servedRun, relayedRun, List.take, List.mem_cons, List.not_mem_nil, or_false] at member
    rcases member with rfl | rfl | rfl | rfl | rfl | rfl | rfl | rfl <;> exact id
  exact (answers_run _ _ servedRun [] served other).tail ⟨_, .enter atRelay none 1 next streams⟩

theorem relay_reached : ∃ next, Reaches (connectionTask standard plainServer caller) servedRun (.ask (.relay none 1) next) ∧
    Reaches (next (.ok ())) [released] (.done ()) := by
  have whole : Reaches (connectionTask standard plainServer caller)
    (servedRun ++ ⟨.relay none 1, .ok ()⟩ :: [released]) (.done ()) :=
    closed_run
  obtain ⟨next, served⟩ := reaches_event _ _ _ _ _ _ whole
  have rest := reaches_split _ _ _ _ _ served whole
  cases rest with
  | step _ _ _ _ _ later => exact ⟨next, served, later⟩

def quietStreams : Direction → Bytes := fun _ => []

theorem loops_open : isOpen (startRelay quietStreams) := fun _ => rfl

-- The client's socket fails in the relay: two outcomes so far, and one more is
-- to come from the task.
theorem broken_relay_recorded_twice :
    ¬ ∀ service, Relation.ReflTransGen (Service.Step standard plainServer) emptyService service →
    (∀ session ∈ service.sessions, recorded session.log ≤ 1 ∧ (isClosed session = true → recorded session.log = 1)) ∧
      service.succeededConnections + service.failedConnections ≤ service.totalConnections := by
  intro once
  obtain ⟨next, served, _⟩ := relay_reached
  have failing : Session.Moves ⟨atRelay ++ [.entered], .ask (.relay none 1) next, some (startRelay quietStreams)⟩ _ :=
    ⟨_, .copy _ none 1 next _ .toUpstream .readFails (.ended (.error .io)) loops_open trivial rfl⟩
  have run := (relay_entered next quietStreams served).tail failing
  obtain ⟨passed, grown, service⟩ := session_runs_in_service standard plainServer _ _ run [] [] 1 0 0
  have totals := (once _ (.head (.accept emptyService caller) service)).2
  rw [← show _ = passed from grown] at totals
  have two : 2 ≤ 1 := totals
  exact absurd two (by decide)

def closing : List Happening :=
  [.entered, .copied .toUpstream .reading .eof, .answered ⟨.relay none 1, .ok ()⟩, .answered released]

def closedLog : List Happening := atRelay ++ closing

def closedService : Service := ⟨[⟨closedLog, .done (), none⟩], 1, 1, 0⟩

theorem closed_service_reached : Relation.ReflTransGen (Service.Step standard plainServer) emptyService closedService := by
  obtain ⟨next, served, later⟩ := relay_reached
  have ending : Session.Moves ⟨atRelay ++ [.entered], .ask (.relay none 1) next, some (startRelay quietStreams)⟩ _ :=
    ⟨_, .copy _ none 1 next _ .toUpstream .eof (.ended (.ok ())) loops_open rfl rfl⟩
  have run := ((relay_entered next quietStreams served).tail ending).tail ⟨_, .leave _ none 1 next _ (.ok ()) rfl⟩
  have closed := run.trans (answers_run _ _ [released] _ later fun event member => by
    rw [List.mem_singleton] at member
    rw [member]
    exact id)
  obtain ⟨passed, grown, service⟩ := session_runs_in_service standard plainServer _ _ closed [] [] 1 0 0
  rw [← show _ = passed from grown] at service
  exact .head (.accept emptyService caller) service

theorem closed_service_recorded :
    ((∀ session ∈ closedService.sessions, Unbroken session) →
      (∀ session ∈ closedService.sessions, recorded session.log ≤ 1 ∧ (isClosed session = true → recorded session.log = 1)) ∧
        closedService.succeededConnections + closedService.failedConnections ≤ closedService.totalConnections) ∧
    ∀ session ∈ closedService.sessions, isClosed session = true → (recorded session.log = 1 ↔ Unbroken session) :=
  outcomes_recorded_once standard plainServer closedService closed_service_reached

end Examples

end Purroute
