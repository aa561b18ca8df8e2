import Mathlib.Logic.Relation
import Purroute.Gauge
import Purroute.Relay

set_option autoImplicit false

namespace Purroute

open Interaction Interaction.Program

-- One connection seen from outside: an answered request, the start of its
-- relay, or an await of one of the two copy loops.
inductive Happening where
  | answered (event : Event)
  | entered
  | copied (direction : Direction) (phase : Phase) (action : Action)

-- The task that serves it and, inside `proxy_data`, the relay.
structure Session where
  log : List Happening
  rest : Router Unit
  relay : Option Relay

def IsRelay : Op → Prop
  | .relay _ _ => True
  | _ => False

def accepted (task : Router Unit) : Session := ⟨[], task, none⟩

-- The relay request is answered by a relay: it ends with one of its loops, or
-- panics while both are running.
inductive Session.Step : Session → Happening → Session → Prop
  | answer (log : List Happening) (op : Op) (next : op.Reply → Router Unit) (reply : op.Reply) (other : ¬ IsRelay op) :
      Step ⟨log, .ask op next, none⟩ (.answered ⟨op, reply⟩) ⟨log ++ [.answered ⟨op, reply⟩], next reply, none⟩
  | enter (log : List Happening) (id : Option Int) (costPerByte : Rat) (next : Except Failure Unit → Router Unit)
      (streams : Direction → Bytes) :
      Step ⟨log, .ask (.relay id costPerByte) next, none⟩ .entered
        ⟨log ++ [.entered], .ask (.relay id costPerByte) next, some (startRelay streams)⟩
  | copy (log : List Happening) (id : Option Int) (costPerByte : Rat) (next : Except Failure Unit → Router Unit) (relay : Relay)
      (direction : Direction) (action : Action) (phase : Phase) (running : isOpen relay)
      (enabled : available (relay.unread direction) action)
      (step : (relay.phase direction).step id.isSome action = some phase) :
      Step ⟨log, .ask (.relay id costPerByte) next, some relay⟩ (.copied direction (relay.phase direction) action)
        ⟨log ++ [.copied direction (relay.phase direction) action], .ask (.relay id costPerByte) next,
          some (moved relay direction action phase)⟩
  | leave (log : List Happening) (id : Option Int) (costPerByte : Rat) (next : Except Failure Unit → Router Unit) (relay : Relay)
      (outcome : Except ProxyError Unit) (finished : result relay = some outcome) :
      Step ⟨log, .ask (.relay id costPerByte) next, some relay⟩
        (.answered ⟨.relay id costPerByte, outcome.mapError .error⟩)
        ⟨log ++ [.answered ⟨.relay id costPerByte, outcome.mapError .error⟩], next (outcome.mapError .error), none⟩
  | panic (log : List Happening) (id : Option Int) (costPerByte : Rat) (next : Except Failure Unit → Router Unit) (relay : Relay)
      (running : isOpen relay) :
      Step ⟨log, .ask (.relay id costPerByte) next, some relay⟩ (.answered ⟨.relay id costPerByte, .error .panic⟩)
        ⟨log ++ [.answered ⟨.relay id costPerByte, .error .panic⟩], next (.error .panic), none⟩

def Session.Moves (session next : Session) : Prop := ∃ happening, Session.Step session happening next

def events (log : List Happening) : History :=
  log.filterMap fun happening =>
    match happening with
    | .answered event => some event
    | _ => none

@[simp] theorem events_nil : events [] = [] := rfl

@[simp] theorem events_answered (log : List Happening) (event : Event) :
    events (log ++ [.answered event]) = events log ++ [event] := by
  simp [events]

@[simp] theorem events_entered (log : List Happening) : events (log ++ [.entered]) = events log := by
  simp [events]

@[simp] theorem events_copied (log : List Happening) (direction : Direction) (phase : Phase) (action : Action) :
    events (log ++ [.copied direction phase action]) = events log := by
  simp [events]

theorem step_log (session next : Session) (happening : Happening) (step : Session.Step session happening next) :
    next.log = session.log ++ [happening] := by
  cases step <;> rfl

theorem step_reaches (start : Router Unit) (session next : Session) (happening : Happening)
    (step : Session.Step session happening next)
    (reached : Reaches start (events session.log) session.rest) : Reaches start (events next.log) next.rest := by
  have answers : ∀ (log : List Happening) (op : Op) (body : op.Reply → Router Unit) (reply : op.Reply),
      Reaches start (events log) (.ask op body) → Reaches start (events (log ++ [.answered ⟨op, reply⟩])) (body reply) := by
    intro log op body reply before
    rw [events_answered]
    have last : Reaches (.ask op body : Router Unit) [⟨op, reply⟩] (body reply) := .step op body reply [] (body reply) (.here _)
    exact reaches_append _ _ _ _ _ before last
  cases step with
  | answer log op body reply other => exact answers log op body reply reached
  | enter log id costPerByte body streams => simpa only [events_entered] using reached
  | copy log id costPerByte body relay direction action phase running enabled step => simpa only [events_copied] using reached
  | leave log id costPerByte body relay outcome finished => exact answers log (.relay id costPerByte) body _ reached
  | panic log id costPerByte body relay running => exact answers log (.relay id costPerByte) body _ reached

theorem session_reaches (start : Router Unit) (session : Session)
    (reached : Relation.ReflTransGen Session.Moves (accepted start) session) :
    Reaches start (events session.log) session.rest := by
  induction reached with
  | refl => exact .here _
  | tail _ moves ih =>
      obtain ⟨happening, step⟩ := moves
      exact step_reaches start _ _ happening step ih

theorem session_invariant (holds : Session → Prop) (start : Router Unit) (session : Session) (opened : holds (accepted start))
    (keeps : ∀ before happening after, Session.Step before happening after → holds before → holds after)
    (reached : Relation.ReflTransGen Session.Moves (accepted start) session) : holds session := by
  induction reached with
  | refl => exact opened
  | tail _ moves ih =>
      obtain ⟨happening, step⟩ := moves
      exact keeps _ happening _ step ih

theorem log_prefix_reached (start : Router Unit) (session : Session)
    (reached : Relation.ReflTransGen Session.Moves (accepted start) session) (past : List Happening)
    (part : past <+: session.log) :
    ∃ earlier, Relation.ReflTransGen Session.Moves (accepted start) earlier ∧ earlier.log = past := by
  induction reached with
  | refl =>
      have none : past = [] := List.prefix_nil.mp part
      exact ⟨accepted start, .refl, none.symm⟩
  | tail run moves ih =>
      obtain ⟨happening, step⟩ := moves
      rw [step_log _ _ happening step, List.prefix_concat_iff] at part
      cases part with
      | inl whole => exact ⟨_, run.tail ⟨happening, step⟩, (step_log _ _ happening step).trans whole.symm⟩
      | inr before => exact ih before

structure Relaying (session : Session) : Prop where
  run : ∀ relay, session.relay = some relay → ∃ id costPerByte next streams, session.rest = .ask (.relay id costPerByte) next ∧
    Relation.ReflTransGen (Relay.Step id.isSome fun _ => True) (startRelay streams) relay

theorem step_relaying (session next : Session) (happening : Happening) (step : Session.Step session happening next)
    (relaying : Relaying session) : Relaying next := by
  cases step with
  | answer log op body reply other => exact ⟨fun _ absent => by cases absent⟩
  | enter log id costPerByte body streams =>
      refine ⟨fun relay same => ?_⟩
      cases same
      exact ⟨id, costPerByte, body, streams, rfl, .refl⟩
  | copy log id costPerByte body relay direction action phase running enabled step =>
      obtain ⟨other, otherCost, otherBody, streams, rest, run⟩ := relaying.run relay rfl
      cases rest
      refine ⟨fun later same => ?_⟩
      cases same
      exact ⟨id, costPerByte, body, streams, rfl, run.tail (.copy relay direction action phase running trivial enabled step)⟩
  | leave log id costPerByte body relay outcome finished => exact ⟨fun _ absent => by cases absent⟩
  | panic log id costPerByte body relay running => exact ⟨fun _ absent => by cases absent⟩

theorem session_relay_faithful (start : Router Unit) (session : Session)
    (reached : Relation.ReflTransGen Session.Moves (accepted start) session) (relay : Relay)
    (inside : session.relay = some relay) :
    ∃ streams : Direction → Bytes, ∀ direction,
      Faithful (streams direction) (relay.unread direction) (relay.written direction) (relay.phase direction) := by
  have relaying : Relaying session :=
    session_invariant Relaying start session ⟨fun _ absent => by cases absent⟩
      (fun _ happening _ step => step_relaying _ _ happening step) reached
  obtain ⟨id, _, _, streams, _, run⟩ := relaying.run relay inside
  exact ⟨streams, relay_faithful id.isSome _ streams relay run⟩

theorem answers_run (start rest : Router Unit) (trace : History) (log : List Happening) (run : Reaches start trace rest)
    (other : ∀ event ∈ trace, ¬ IsRelay event.1) :
    Relation.ReflTransGen Session.Moves ⟨log, start, none⟩ ⟨log ++ trace.map .answered, rest, none⟩ := by
  induction run generalizing log with
  | here program =>
      rw [List.map_nil, List.append_nil]
  | step op next reply trace rest later ih =>
      have first : Session.Moves ⟨log, .ask op next, none⟩ ⟨log ++ [.answered ⟨op, reply⟩], next reply, none⟩ :=
        ⟨_, .answer log op next reply (other ⟨op, reply⟩ List.mem_cons_self)⟩
      have tail := ih (log ++ [.answered ⟨op, reply⟩]) fun event member => other event (List.mem_cons_of_mem _ member)
      rw [List.append_assoc, List.singleton_append] at tail
      exact .head first tail

theorem result_open (relay : Relay) (running : isOpen relay) : result relay = none := by
  have upstream := running .toUpstream
  have client := running .toClient
  rw [result]
  cases first : relay.phase .toUpstream <;> cases second : relay.phase .toClient <;> simp_all [isEnded]

theorem result_moved (relay : Relay) (running : isOpen relay) (direction : Direction) (action : Action) (phase : Phase) :
    result (moved relay direction action phase) = match phase with | .ended outcome => some outcome | _ => none := by
  cases direction with
  | toUpstream =>
      have client := running .toClient
      rw [result, moved_phase, moved_other relay .toUpstream .toClient action phase (by decide)]
      cases phase <;> cases second : relay.phase .toClient <;> simp_all [isEnded]
  | toClient =>
      have upstream := running .toUpstream
      rw [result, moved_phase, moved_other relay .toClient .toUpstream action phase (by decide)]
      cases phase <;> cases first : relay.phase .toUpstream <;> simp_all [isEnded]

-- `GlobalStats`, the three connection totals.
structure Service where
  sessions : List Session
  totalConnections : Nat
  succeededConnections : Nat
  failedConnections : Nat

-- `record_connection_result`, with its first argument: the one request, and the
-- three places in each copy loop.
def connectionResult : Happening → Option Bool
  | .answered ⟨.record success, _⟩ => some success
  | .copied _ _ .readFails => some false
  | .copied _ _ .writeFails => some false
  | .copied _ _ .flushFails => some false
  | _ => none

def emptyService : Service := ⟨[], 0, 0, 0⟩

section Runs

variable (platform : Platform) (server : ProxyServer)

-- `run`: accepted connections are served in any interleaving.
inductive Service.Step : Service → Service → Prop
  | accept (service : Service) (peer : IpAddr) :
      Step service ⟨service.sessions ++ [accepted (connectionTask platform server peer)], service.totalConnections + 1,
        service.succeededConnections, service.failedConnections⟩
  | progress (before after : List Session) (session next : Session) (happening : Happening) (total succeeded failed : Nat)
      (step : Session.Step session happening next) :
      Step ⟨before ++ session :: after, total, succeeded, failed⟩
        ⟨before ++ next :: after, total, succeeded + if connectionResult happening = some true then 1 else 0,
          failed + if connectionResult happening = some false then 1 else 0⟩

theorem service_sessions (service : Service)
    (reached : Relation.ReflTransGen (Service.Step platform server) emptyService service) :
    ∀ session ∈ service.sessions, ∃ peer,
      Relation.ReflTransGen Session.Moves (accepted (connectionTask platform server peer)) session := by
  induction reached with
  | refl =>
      intro session member
      cases member
  | tail _ step ih =>
      intro session member
      cases step with
      | accept service peer =>
          rw [List.mem_append, List.mem_singleton] at member
          cases member with
          | inl before => exact ih session before
          | inr fresh =>
              rw [fresh]
              exact ⟨peer, .refl⟩
      | progress before after moving next happening total succeeded failed step =>
          rw [List.mem_append, List.mem_cons] at member
          rcases member with first | same | last
          · exact ih session (List.mem_append_left _ first)
          · obtain ⟨peer, run⟩ := ih moving (List.mem_append_right _ List.mem_cons_self)
            rw [same]
            exact ⟨peer, run.tail ⟨happening, step⟩⟩
          · exact ih session (List.mem_append_right _ (List.mem_cons_of_mem _ last))

theorem session_runs_in_service (session next : Session) (run : Relation.ReflTransGen Session.Moves session next)
    (before after : List Session) (total succeeded failed : Nat) : ∃ passed, next.log = session.log ++ passed ∧
      Relation.ReflTransGen (Service.Step platform server) ⟨before ++ session :: after, total, succeeded, failed⟩
        ⟨before ++ next :: after, total, succeeded + passed.countP (connectionResult · = some true),
          failed + passed.countP (connectionResult · = some false)⟩ := by
  induction run with
  | refl => exact ⟨[], (List.append_nil _).symm, .refl⟩
  | tail _ moves ih =>
      obtain ⟨passed, grown, earlier⟩ := ih
      obtain ⟨happening, step⟩ := moves
      refine ⟨passed ++ [happening], ?_, ?_⟩
      · rw [step_log _ _ happening step, grown, List.append_assoc]
      · have counted : ∀ wanted, (passed ++ [happening]).countP (connectionResult · = some wanted) =
            passed.countP (connectionResult · = some wanted) + if connectionResult happening = some wanted then 1 else 0 := by
          intro wanted
          rw [List.countP_append, List.countP_singleton]
          simp only [decide_eq_true_eq]
        rw [counted, counted, ← Nat.add_assoc, ← Nat.add_assoc]
        exact earlier.tail (.progress before after _ _ happening _ _ _ step)

def connectionOf (session : Session) : Connection := ⟨events session.log, session.rest⟩

theorem step_refines (session next : Session) (happening : Happening) (step : Session.Step session happening next)
    (before after : List Connection) (gauge : Int) : ∃ later, Relation.ReflTransGen (Pool.Step platform server)
      ⟨before ++ connectionOf session :: after, gauge⟩ ⟨before ++ connectionOf next :: after, later⟩ := by
  have answers : ∀ (log : List Happening) (op : Op) (body : op.Reply → Router Unit) (reply : op.Reply), ∃ later,
      Relation.ReflTransGen (Pool.Step platform server) ⟨before ++ ⟨events log, .ask op body⟩ :: after, gauge⟩
        ⟨before ++ ⟨events (log ++ [.answered ⟨op, reply⟩]), body reply⟩ :: after, later⟩ := by
    intro log op body reply
    rw [events_answered]
    exact ⟨_, .single (.progress before after (events log) op body reply gauge)⟩
  cases step with
  | answer log op body reply other => exact answers log op body reply
  | enter log id costPerByte body streams =>
      refine ⟨gauge, ?_⟩
      rw [connectionOf, connectionOf, events_entered]
  | copy log id costPerByte body relay direction action phase running enabled step =>
      refine ⟨gauge, ?_⟩
      rw [connectionOf, connectionOf, events_copied]
  | leave log id costPerByte body relay outcome finished => exact answers log (.relay id costPerByte) body _
  | panic log id costPerByte body relay running => exact answers log (.relay id costPerByte) body _

theorem service_refines_pool (service : Service)
    (reached : Relation.ReflTransGen (Service.Step platform server) emptyService service) :
    ∃ gauge, Relation.ReflTransGen (Pool.Step platform server) emptyPool ⟨service.sessions.map connectionOf, gauge⟩ := by
  induction reached with
  | refl => exact ⟨0, .refl⟩
  | tail _ step ih =>
      obtain ⟨gauge, run⟩ := ih
      cases step with
      | accept service peer =>
          rw [List.map_append]
          exact ⟨gauge + 1, run.tail (.accept _ peer)⟩
      | progress before after session next happening total succeeded failed step =>
          rw [List.map_append, List.map_cons] at run ⊢
          obtain ⟨later, moves⟩ := step_refines platform server session next happening step (before.map connectionOf)
            (after.map connectionOf) gauge
          exact ⟨later, run.trans moves⟩

end Runs

end Purroute
