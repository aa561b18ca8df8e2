import Mathlib.Logic.Hydra
import Purroute.Effort
import Purroute.Outcomes

set_option autoImplicit false

namespace Purroute

open Interaction Interaction.Program

section Loops

def turnsLeft : Phase → Nat
  | .reading => 1
  | .reporting chunk => 3 + chunk.length
  | .writing chunk => 2 + chunk.length
  | .flushing => 2
  | .ended _ => 0

theorem advance_paid (metered : Bool) (phase next : Phase) (action : Action) (advance : Phase.Advance metered phase action next) :
    1 + turnsLeft next ≤ turnsLeft phase + 4 * taken action := by
  cases advance with
  | read chunk filled fits =>
      have some : 0 < chunk.length := List.length_pos_of_ne_nil filled
      cases metered <;> simp [turnsLeft, taken] <;> omega
  | eof => exact le_rfl
  | readFails => exact le_rfl
  | report chunk reply =>
      have left : turnsLeft (afterReport chunk reply) ≤ 2 + chunk.length := by
        rcases reply with failure | _ | remaining
        · exact Nat.zero_le _
        · exact le_rfl
        · simp only [afterReport]
          split
          · exact Nat.zero_le _
          · exact le_rfl
      have whole : turnsLeft (.reporting chunk) = 3 + chunk.length := rfl
      have none : taken (.report reply) = 0 := rfl
      rw [whole, none]
      omega
  | write chunk count some fits =>
      have rest : (chunk.drop count).length = chunk.length - count := List.length_drop
      split <;> simp only [turnsLeft, taken, rest] <;> omega
  | writeFails chunk =>
      simp only [turnsLeft, taken]
      omega
  | flush => exact le_rfl
  | flushFails =>
      simp only [turnsLeft, taken]
      omega

def relayTurns (relay : Relay) : Nat := turnsLeft (relay.phase .toUpstream) + turnsLeft (relay.phase .toClient)

theorem moved_paid (relay : Relay) (direction : Direction) (action : Action) (next : Phase)
    (paid : 1 + turnsLeft next ≤ turnsLeft (relay.phase direction) + 4 * taken action) :
    1 + relayTurns (moved relay direction action next) ≤ relayTurns relay + 4 * taken action := by
  cases direction with
  | toUpstream =>
      rw [relayTurns, moved_phase, moved_other relay .toUpstream .toClient action next (by decide), relayTurns]
      omega
  | toClient =>
      rw [relayTurns, moved_phase, moved_other relay .toClient .toUpstream action next (by decide), relayTurns]
      omega

def unreadBytes (relay : Relay) : Nat := (relay.unread .toUpstream).length + (relay.unread .toClient).length

theorem taken_le (unread : Bytes) (action : Action) (enabled : available unread action) : taken action ≤ unread.length := by
  cases action with
  | read chunk => exact enabled.length_le
  | _ => exact Nat.zero_le _

theorem moved_unread (relay : Relay) (direction : Direction) (action : Action) (next : Phase)
    (enabled : available (relay.unread direction) action) :
    unreadBytes (moved relay direction action next) + taken action = unreadBytes relay := by
  have fits := taken_le (relay.unread direction) action enabled
  cases direction with
  | toUpstream =>
      simp only [unreadBytes, moved, Function.update_self, Function.update_of_ne (by decide : Direction.toClient ≠ .toUpstream),
        List.length_drop]
      omega
  | toClient =>
      simp only [unreadBytes, moved, Function.update_self, Function.update_of_ne (by decide : Direction.toUpstream ≠ .toClient),
        List.length_drop]
      omega

def holdsChunk : Phase → Prop
  | .reporting chunk => chunk ≠ []
  | .writing chunk => chunk ≠ []
  | _ => True

theorem advance_holds (metered : Bool) (phase next : Phase) (action : Action) (advance : Phase.Advance metered phase action next)
    (holds : holdsChunk phase) : holdsChunk next := by
  cases advance with
  | read chunk filled fits => cases metered <;> exact filled
  | report chunk reply =>
      rcases reply with failure | _ | remaining
      · exact trivial
      · exact holds
      · simp only [afterReport]
        split
        · exact trivial
        · exact holds
  | write chunk count some fits =>
      split
      · exact trivial
      · assumption
  | _ => exact trivial

theorem loop_goes_on (metered : Bool) (unread : Bytes) (phase : Phase) (holds : holdsChunk phase)
    (running : isEnded phase = false) :
    ∃ action next, undisturbed action ∧ available unread action ∧ phase.step metered action = some next := by
  cases phase with
  | reading =>
      cases unread with
      | nil => exact ⟨.eof, _, trivial, rfl, rfl⟩
      | cons byte rest =>
          have first : [byte] <+: byte :: rest := ⟨rest, rfl⟩
          have fits : ¬ ([byte] = [] ∨ buffer < [byte].length) :=
            not_or.mpr ⟨List.cons_ne_nil byte [], (by decide : ¬ buffer < 1)⟩
          refine ⟨.read [byte], if metered then .reporting [byte] else .writing [byte], trivial, first, ?_⟩
          rw [Phase.step, if_neg fits]
  | reporting chunk => exact ⟨.report (.ok none), _, rfl, trivial, rfl⟩
  | writing chunk =>
      have some : chunk.length ≠ 0 := fun none => holds (List.length_eq_zero_iff.mp none)
      have fits : ¬ (chunk.length = 0 ∨ chunk.length < chunk.length) := not_or.mpr ⟨some, lt_irrefl _⟩
      have emptied : chunk.drop chunk.length = [] := List.drop_length
      refine ⟨.write chunk.length, .flushing, trivial, trivial, ?_⟩
      rw [Phase.step, if_neg fits, if_pos emptied]
  | flushing => exact ⟨.flush, _, trivial, trivial, rfl⟩
  | ended outcome => cases running

end Loops

section Sessions

def isCopy : Happening → Bool
  | .copied _ _ _ => true
  | _ => false

def isEntry : Happening → Bool
  | .entered => true
  | _ => false

def copies (log : List Happening) : Nat := log.countP isCopy
def entrances (log : List Happening) : Nat := log.countP isEntry

def bytesRead : Happening → Nat
  | .copied _ _ action => taken action
  | _ => 0

def relayedBytes (log : List Happening) : Nat := (log.map bytesRead).sum

def sessionTurns (session : Session) : Nat := (session.relay.map relayTurns).getD 0

structure Budgeted (session : Session) : Prop where
  holds : ∀ relay, session.relay = some relay → ∀ direction, holdsChunk (relay.phase direction)
  turns : copies session.log + sessionTurns session ≤ 2 * entrances session.log + 4 * relayedBytes session.log
  length : session.log.length = (events session.log).length + entrances session.log + copies session.log
  entered : entrances session.log = (events session.log).countP (fun event => entersRelay event.1) +
    if session.relay.isSome then 1 else 0

@[simp] theorem copies_append (log : List Happening) (happening : Happening) :
    copies (log ++ [happening]) = copies log + if isCopy happening then 1 else 0 := by
  rw [copies, List.countP_append, List.countP_singleton, copies]

@[simp] theorem entrances_append (log : List Happening) (happening : Happening) :
    entrances (log ++ [happening]) = entrances log + if isEntry happening then 1 else 0 := by
  rw [entrances, List.countP_append, List.countP_singleton, entrances]

@[simp] theorem relayed_bytes_append (log : List Happening) (happening : Happening) :
    relayedBytes (log ++ [happening]) = relayedBytes log + bytesRead happening := by
  simp [relayedBytes]

theorem accepted_budgeted (task : Router Unit) : Budgeted (accepted task) :=
  ⟨fun _ absent => (by cases absent), le_rfl, rfl, rfl⟩

theorem enters_relay_iff (op : Op) : entersRelay op = true ↔ IsRelay op := by
  cases op <;> simp [entersRelay, IsRelay]

theorem left_budgeted (log : List Happening) (op : Op) (reply : op.Reply) (before rest : Router Unit) (relay : Option Relay)
    (same : entersRelay op = relay.isSome) (budgeted : Budgeted ⟨log, before, relay⟩) :
    Budgeted ⟨log ++ [.answered ⟨op, reply⟩], rest, none⟩ := by
  obtain ⟨_, turns, length, entered⟩ := budgeted
  have counted : (if entersRelay op then 1 else 0) = if relay.isSome then 1 else 0 := by rw [same]
  refine ⟨fun _ absent => (by cases absent), ?_, ?_, ?_⟩
  · simp [isCopy, isEntry, bytesRead, sessionTurns] at turns ⊢
    omega
  · simp [isCopy, isEntry] at length ⊢
    omega
  · simp [isEntry, List.countP_append, List.countP_singleton] at entered counted ⊢
    omega

theorem step_budgeted (session next : Session) (happening : Happening) (step : Session.Step session happening next)
    (budgeted : Budgeted session) : Budgeted next := by
  cases step with
  | answer log op body reply other =>
      have plain : entersRelay op = false := by
        rw [← Bool.not_eq_true, enters_relay_iff]
        exact other
      exact left_budgeted log op reply _ _ none plain budgeted
  | enter log id costPerByte body streams =>
      obtain ⟨_, turns, length, entered⟩ := budgeted
      refine ⟨fun relay same direction => ?_, ?_, ?_, ?_⟩
      · cases same
        exact trivial
      · simp [isCopy, isEntry, bytesRead, sessionTurns, relayTurns, startRelay, turnsLeft] at turns ⊢
        omega
      · simp [isCopy, isEntry] at length ⊢
        omega
      · simpa [isEntry] using entered
  | copy log id costPerByte body relay direction action phase running enabled step =>
      obtain ⟨holds, turns, length, entered⟩ := budgeted
      have advance := phase_step_cases id.isSome (relay.phase direction) phase action step
      have paid := moved_paid relay direction action phase (advance_paid id.isSome _ _ _ advance)
      refine ⟨fun later same other => ?_, ?_, ?_, ?_⟩
      · cases same
        by_cases here : other = direction
        · rw [here, moved_phase]
          exact advance_holds id.isSome _ _ _ advance (holds relay rfl direction)
        · rw [moved_other relay direction other action phase here]
          exact holds relay rfl other
      · simp [isCopy, isEntry, bytesRead, sessionTurns] at turns ⊢
        omega
      · simp [isCopy, isEntry] at length ⊢
        omega
      · simpa [isEntry] using entered
  | leave log id costPerByte body relay outcome finished => exact left_budgeted log _ _ _ _ (some relay) rfl budgeted
  | panic log id costPerByte body relay running => exact left_budgeted log _ _ _ _ (some relay) rfl budgeted

theorem session_budgeted (task : Router Unit) (session : Session)
    (reached : Relation.ReflTransGen Session.Moves (accepted task) session) : Budgeted session :=
  session_invariant Budgeted task session (accepted_budgeted task) (fun _ happening _ step =>
    step_budgeted _ _ happening step) reached

theorem session_relaying (task : Router Unit) (session : Session)
    (reached : Relation.ReflTransGen Session.Moves (accepted task) session) : Relaying session :=
  session_invariant Relaying task session ⟨fun _ absent => by cases absent⟩ (fun _ happening _ step =>
    step_relaying _ _ happening step)
    reached

section Bounds

variable (platform : Platform) (server : ProxyServer) (peer : IpAddr) (session : Session)
  (reached : Relation.ReflTransGen Session.Moves (accepted (connectionTask platform server peer)) session)

include reached

theorem one_entrance : entrances session.log ≤ 1 := by
  have entered := (session_budgeted _ session reached).entered
  have events := session_reaches _ session reached
  rw [entered]
  cases inside : session.relay with
  | none => exact (handshake_bounded platform server peer _ _ events).relays
  | some relay =>
      obtain ⟨id, costPerByte, next, _, rest, _⟩ := (session_relaying _ session reached).run relay inside
      rw [rest] at events
      have left : Reaches (.ask (.relay id costPerByte) next : Router Unit)
        [⟨.relay id costPerByte, .error .panic⟩] (next (.error .panic)) :=
        .step _ next _ [] _ (.here _)
      have once := (handshake_bounded platform server peer _ _ (reaches_append _ _ _ _ _ events left)).relays
      rw [List.countP_append] at once
      exact once

theorem session_work : session.log.length ≤ 22 + 8 * longestPath server + 4 * relayedBytes session.log := by
  have budgeted := session_budgeted _ session reached
  have once := one_entrance platform server peer session reached
  have answered := (handshake_bounded platform server peer _ _ (session_reaches _ session reached)).requests
  have turns := budgeted.turns
  have length := budgeted.length
  omega

end Bounds

-- No socket and no call of the backend fails, no relay panics, and no account
-- has a limit.
def calm : Happening → Prop
  | .answered ⟨.read _, .error _⟩ => False
  | .answered ⟨.readExact _, .error _⟩ => False
  | .answered ⟨.reply _, .error _⟩ => False
  | .answered ⟨.dial _, .error _⟩ => False
  | .answered ⟨.send _, .error _⟩ => False
  | .answered ⟨.receive _, .error _⟩ => False
  | .answered ⟨.receiveExact _, .error _⟩ => False
  | .answered ⟨.authenticate _ _, .error _⟩ => False
  | .answered ⟨.authenticateByIp _, .error _⟩ => False
  | .answered ⟨.relay _ _, reply⟩ => reply ≠ .error .panic
  | .copied _ _ action => undisturbed action
  | _ => True

theorem calm_answer (op : Op) (other : ¬ IsRelay op) : ∃ reply : op.Reply, calm (.answered ⟨op, reply⟩) := by
  cases op with
  | read limit => exact ⟨.ok ⟨[], Nat.zero_le limit⟩, trivial⟩
  | readExact count => exact ⟨.ok ⟨List.replicate count 0, List.length_replicate⟩, trivial⟩
  | reply bytes => exact ⟨.ok (), trivial⟩
  | dial address => exact ⟨.ok (), trivial⟩
  | send message => exact ⟨.ok (), trivial⟩
  | receive limit => exact ⟨.ok ⟨[], Nat.zero_le limit⟩, trivial⟩
  | receiveExact count => exact ⟨.ok ⟨List.replicate count 0, List.length_replicate⟩, trivial⟩
  | authenticate username secret => exact ⟨.ok none, trivial⟩
  | authenticateByIp peer => exact ⟨.ok none, trivial⟩
  | load => exact ⟨([], ⟨0, fun _ => 0, fun _ _ => 0⟩), trivial⟩
  | relay id costPerByte => exact absurd trivial other
  | record success => exact ⟨(), trivial⟩
  | decrement => exact ⟨(), trivial⟩

theorem closed_result (relay : Relay) (closed : ¬ isOpen relay) : ∃ outcome, result relay = some outcome := by
  rw [result]
  cases first : relay.phase .toUpstream with
  | ended outcome => exact ⟨outcome, rfl⟩
  | _ =>
      cases second : relay.phase .toClient with
      | ended outcome => exact ⟨outcome, rfl⟩
      | _ => exact absurd (both_open relay (by rw [first]; rfl) (by rw [second]; rfl)) closed

theorem session_live (session : Session) (relaying : Relaying session) (budgeted : Budgeted session)
    (unfinished : isFinished (connectionOf session) = false) : ∃ happening next, calm happening ∧
      Session.Step session happening next := by
  obtain ⟨log, rest, inside⟩ := session
  cases inside with
  | none =>
      cases rest with
      | done value => cases unfinished
      | fail failure => cases unfinished
      | ask op next =>
          by_cases relay : IsRelay op
          · cases op with
            | relay id costPerByte => exact ⟨.entered, _, trivial, .enter log id costPerByte next fun _ => []⟩
            | _ => exact relay.elim
          · obtain ⟨reply, answered⟩ := calm_answer op relay
            exact ⟨_, _, answered, .answer log op next reply relay⟩
  | some relay =>
      obtain ⟨id, costPerByte, next, _, same, _⟩ := relaying.run relay rfl
      cases same
      by_cases running : isOpen relay
      · obtain ⟨action, phase, kind, enabled, step⟩ := loop_goes_on id.isSome (relay.unread .toUpstream) (relay.phase .toUpstream)
          (budgeted.holds relay rfl .toUpstream) (running .toUpstream)
        exact ⟨.copied .toUpstream (relay.phase .toUpstream) action, _, kind,
          .copy log id costPerByte next relay .toUpstream action phase running enabled step⟩
      · obtain ⟨outcome, finished⟩ := closed_result relay running
        have kept : outcome.mapError Failure.error ≠ .error .panic := by
          cases outcome <;> simp [Except.mapError]
        exact ⟨.answered ⟨.relay id costPerByte, outcome.mapError .error⟩, _, kept,
          .leave log id costPerByte next relay outcome finished⟩

theorem moves_accessible (rest : Router Unit) :
    ∀ log relay, Acc (fun next session => Session.Moves session next) ⟨log, rest, relay⟩ := by
  induction rest with
  | done value => exact fun log relay => .intro _ fun next ⟨_, step⟩ => by cases step
  | fail failure => exact fun log relay => .intro _ fun next ⟨_, step⟩ => by cases step
  | ask op body ih =>
      have inside : ∀ left relay log, 4 * unreadBytes relay + relayTurns relay = left →
          Acc (fun next session => Session.Moves session next) ⟨log, .ask op body, some relay⟩ := by
        intro left
        induction left using Nat.strong_induction_on with
        | _ left shorter =>
            intro relay log measured
            refine .intro _ fun next ⟨_, step⟩ => ?_
            cases step with
            | copy _ id costPerByte _ _ direction action phase running enabled step =>
                have advance := phase_step_cases id.isSome (relay.phase direction) phase action step
                have paid := moved_paid relay direction action phase (advance_paid id.isSome _ _ _ advance)
                have unread := moved_unread relay direction action phase enabled
                exact shorter _ (by omega) _ _ rfl
            | leave _ id costPerByte _ _ outcome finished => exact ih _ _ none
            | panic _ id costPerByte _ _ running => exact ih _ _ none
      intro log relay
      cases relay with
      | some relay => exact inside _ relay log rfl
      | none =>
          refine .intro _ fun next ⟨_, step⟩ => ?_
          cases step with
          | answer _ _ _ reply other => exact ih reply _ none
          | enter _ id costPerByte _ streams => exact inside _ (startRelay streams) _ rfl

theorem moves_well_founded : WellFounded fun next session => Session.Moves session next :=
  ⟨fun session => moves_accessible session.rest session.log session.relay⟩

end Sessions

section Runs

variable (platform : Platform) (server : ProxyServer)

def happenings (service : Service) : Nat := (service.sessions.map fun session => session.log.length).sum
def relayedInAll (service : Service) : Nat := (service.sessions.map fun session => relayedBytes session.log).sum

-- What the service does is paid for by connections and by bytes, it never has a
-- connection that waits in vain, and it goes on for ever only by accepting.
structure Working (service : Service) : Prop where
  work : happenings service ≤ service.sessions.length * (22 + 8 * longestPath server) + 4 * relayedInAll service
  live : ∀ session ∈ service.sessions, isFinished (connectionOf session) = false →
    ∃ happening next, calm happening ∧ Session.Step session happening next
  ends : ∀ run : Nat → Service, run 0 = service → (∀ turn, Service.Step platform server (run turn) (run (turn + 1))) →
    ∀ turn, ∃ later, turn ≤ later ∧ (run (later + 1)).totalConnections = (run later).totalConnections + 1

theorem work_among (sessions : List Session) (bound : Nat)
    (each : ∀ session ∈ sessions, session.log.length ≤ bound + 4 * relayedBytes session.log) :
    (sessions.map fun session => session.log.length).sum ≤
      sessions.length * bound + 4 * (sessions.map fun session => relayedBytes session.log).sum := by
  induction sessions with
  | nil => exact Nat.zero_le _
  | cons session sessions ih =>
      have here := each session List.mem_cons_self
      have rest := ih fun other member => each other (List.mem_cons_of_mem _ member)
      rw [List.map_cons, List.sum_cons, List.map_cons, List.sum_cons, List.length_cons, Nat.add_one_mul]
      omega

theorem service_step_cases (service next : Service) (step : Service.Step platform server service next) :
    next.totalConnections = service.totalConnections + 1 ∨
      Relation.CutExpand (fun next session => Session.Moves session next)
        (next.sessions : Multiset Session) service.sessions := by
  cases step with
  | accept service peer => exact .inl rfl
  | progress before after session next happening total succeeded failed step =>
      refine .inr ⟨{next}, session, fun other member => ?_, ?_⟩
      · rw [Multiset.mem_singleton.mp member]
        exact ⟨happening, step⟩
      · have split : ∀ moving : Session, ((before ++ moving :: after : List Session) : Multiset Session) =
          moving ::ₘ ↑(before ++ after) :=
          fun moving => Multiset.coe_eq_coe.mpr List.perm_middle
        simp only [split]
        rw [add_comm, Multiset.singleton_add, add_comm, Multiset.singleton_add, Multiset.cons_swap]

theorem accepts_again (run : Nat → Service)
    (steps : ∀ turn, Service.Step platform server (run turn) (run (turn + 1))) (turn : Nat) :
    ∃ later, turn ≤ later ∧ (run (later + 1)).totalConnections = (run later).totalConnections + 1 := by
  have falling : IsWellFounded (Multiset Session) (Relation.CutExpand fun next session => Session.Moves session next) :=
    ⟨moves_well_founded.cutExpand⟩
  have stops : ∃ ahead, ¬ Relation.CutExpand (fun next session => Session.Moves session next)
      ((run (turn + (ahead + 1))).sessions : Multiset Session) (run (turn + ahead)).sessions :=
    WellFounded.not_rel_apply_succ fun ahead => ((run (turn + ahead)).sessions : Multiset Session)
  obtain ⟨ahead, stopped⟩ := stops
  rcases service_step_cases platform server _ _ (steps (turn + ahead)) with accepted | moved
  · exact ⟨turn + ahead, Nat.le_add_right turn ahead, accepted⟩
  · exact absurd moved stopped

theorem service_works (service : Service) (reached : Relation.ReflTransGen (Service.Step platform server) emptyService service) :
    Working platform server service := by
  have served := service_sessions platform server service reached
  refine ⟨?_, ?_, ?_⟩
  · refine work_among service.sessions _ fun session member => ?_
    obtain ⟨peer, run⟩ := served session member
    exact session_work platform server peer session run
  · intro session member unfinished
    obtain ⟨peer, run⟩ := served session member
    exact session_live session (session_relaying _ session run) (session_budgeted _ session run) unfinished
  · intro run _ steps turn
    exact accepts_again platform server run steps turn

end Runs

section Examples

theorem closed_service_works : Working standard plainServer closedService :=
  service_works standard plainServer closedService closed_service_reached

end Examples

end Purroute
