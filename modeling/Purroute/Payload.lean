import Purroute.Gate
import Purroute.Gauge
import Purroute.Login
import Purroute.Service

set_option autoImplicit false

namespace Purroute

open Interaction Interaction.Program

-- Where a SOCKS4 request ends: behind the user id or, for SOCKS4a, the domain.
def socks4Length (request : Bytes) : Nat :=
  let is4a := byteAt request 4 = 0 ∧ byteAt request 5 = 0 ∧ byteAt request 6 = 0 ∧ byteAt request 7 ≠ 0
  let userEnd := scanEnd request 8
  if is4a then scanEnd request (userEnd + 1) + 1 else userEnd + 1

-- The raw bytes handed to an upstream are a SOCKS4 request passed on, which is
-- a handshake, or a plain HTTP request, which is not.
def handshakeLength (request : Bytes) : Nat := if byteAt request 0 = 0x04 then socks4Length request else 0

def behindHead : Bytes → Bytes
  | [] => []
  | 13 :: 10 :: 13 :: 10 :: rest => rest
  | _ :: rest => behindHead rest

-- The eight bytes are a SOCKS4 reply. A longer one may be the upstream's CONNECT
-- reply, with whatever came in the same read.
def behindReply (reply : Bytes) : Bytes := if reply.length ≤ 8 then [] else behindHead reply

section Amounts

variable (platform : Platform)

def Message.payload : Message → Bytes
  | .rebuilt firstLine _ headers => (Message.rebuilt firstLine none headers).bytes platform
  | .raw request => request.drop (handshakeLength request)
  | _ => []

-- A write that fails may have passed on any part of its bytes: all of them count.
def payloadOf : Happening → Nat
  | .answered ⟨.send message, _⟩ => (message.payload platform).length
  | .answered ⟨.reply bytes, _⟩ => (behindReply bytes).length
  | .copied _ phase action => (given phase action).length
  | _ => 0

def payload (log : List Happening) : Nat := (log.map (payloadOf platform)).sum

end Amounts

-- What `report_usage` has been given.
def reportedOf : Happening → Nat
  | .copied _ (.reporting chunk) (.report _) => chunk.length
  | _ => 0

def reported (log : List Happening) : Nat := (log.map reportedOf).sum

def LeftToRelay : Happening → Prop
  | .answered ⟨.send (.rebuilt _ _ _), _⟩ => False
  | .answered ⟨.send (.raw request), _⟩ => request.length ≤ handshakeLength request
  | .answered ⟨.reply bytes, _⟩ => behindReply bytes = []
  | _ => True

def HasAccount : Op → Prop
  | .relay id _ => id.isSome = true
  | _ => True

section Accounts

variable (platform : Platform) (server : ProxyServer) (peer : IpAddr) (auth : server.config.auth = some true)

theorem preparing_has_account (op : Op) (preparing : Preparing op) : HasAccount op := by
  cases op with
  | relay id costPerByte => exact preparing.elim
  | _ => trivial

include auth

theorem authenticate_user_account (request : Bytes) (next : Option Int → Router Unit)
    (tail : ∀ id : Option Int, id.isSome = true → Uses HasAccount (next id)) :
    Uses HasAccount ((authenticateUser platform server.config request peer).bind next) := by
  have login := authenticate_user_uses HasAccount platform server.config request peer (fun _ _ => trivial) trivial
  refine uses_bind_runs _ _ login fun id trace run => ?_
  obtain ⟨account, _, _, known⟩ := authenticate_user_runs peer trace platform server.config request id auth run
  exact tail id (by rw [known, Option.isSome_some])

theorem socks5_authenticate_account (methods : Bytes) (next : Selection × Option Int → Router Unit)
    (tail : ∀ login : Selection × Option Int, login.2.isSome = true → Uses HasAccount (next login)) :
    Uses HasAccount ((socks5Authenticate server.config methods).bind next) := by
  have login := socks5_authenticate_uses HasAccount server.config methods (fun _ => trivial) trivial fun _ _ => trivial
  refine uses_bind_runs _ _ login fun pair trace run => ?_
  obtain ⟨_, _, _, _, account, _, _, _, known, _⟩ := socks5_authenticate_runs trace server.config methods pair.1 pair.2 auth run
  exact tail pair (by rw [known, Option.isSome_some])

theorem handle_connection_account : Uses HasAccount (handleConnection platform server peer) := by
  apply handle_connection_keeps (Uses HasAccount) (uses_preparing_closed HasAccount preparing_has_account) fun id =>
    id.isSome = true
  · exact authenticate_user_account platform server peer auth
  · exact socks5_authenticate_account server auth
  · exact fun id costPerByte known => relayed_uses HasAccount id costPerByte trivial known trivial

theorem connection_task_account : Uses HasAccount (connectionTask platform server peer) := by
  refine uses_bind _ _ (uses_attempt _ (handle_connection_account platform server peer auth)) fun outcome => ?_
  cases outcome with
  | ok value => trivial
  | error failure => exact ⟨trivial, fun _ => ⟨trivial, fun _ => trivial⟩⟩

end Accounts

def unwritten : Phase → Nat
  | .writing chunk => chunk.length
  | _ => 0

def pending : Option Relay → Nat
  | some relay => unwritten (relay.phase .toUpstream) + unwritten (relay.phase .toClient)
  | none => 0

theorem phase_step_metered (phase next : Phase) (action : Action) (direction : Direction)
    (step : phase.step true action = some next) :
    (given phase action).length + unwritten next ≤ reportedOf (.copied direction phase action) + unwritten phase := by
  cases phase_step_cases true phase next action step with
  | report chunk reply =>
      have held : unwritten (afterReport chunk reply) ≤ chunk.length := by
        rcases reply with failure | _ | remaining
        · exact Nat.zero_le _
        · exact Nat.le_refl _
        · rw [afterReport]
          split
          · exact Nat.zero_le _
          · exact Nat.le_refl _
      exact (Nat.zero_add _).le.trans held
  | write chunk count some fits =>
      have held : unwritten (if chunk.drop count = [] then .flushing else .writing (chunk.drop count)) ≤
        chunk.length - count := by
        split
        · exact Nat.zero_le _
        · exact (List.length_drop ..).le
      simp only [given, reportedOf, unwritten, List.length_take] at held ⊢
      omega
  | _ => exact Nat.zero_le _

theorem pending_moved (relay : Relay) (direction : Direction) (action : Action) (phase : Phase) :
    pending (some (moved relay direction action phase)) + unwritten (relay.phase direction) =
      pending (some relay) + unwritten phase := by
  cases direction with
  | toUpstream =>
      rw [pending, pending, moved_phase, moved_other relay .toUpstream .toClient action phase (by decide)]
      omega
  | toClient =>
      rw [pending, pending, moved_phase, moved_other relay .toClient .toUpstream action phase (by decide)]
      omega

section Sessions

variable (platform : Platform)

theorem payload_append (log : List Happening) (happening : Happening) :
    payload platform (log ++ [happening]) = payload platform log + payloadOf platform happening := by
  simp [payload]

theorem reported_append (log : List Happening) (happening : Happening) :
    reported (log ++ [happening]) = reported log + reportedOf happening := by
  simp [reported]

theorem answered_reports_nothing (event : Event) : reportedOf (.answered event) = 0 := rfl

theorem left_to_relay_iff (event : Event) : LeftToRelay (.answered event) ↔ payloadOf platform (.answered event) = 0 := by
  obtain ⟨op, reply⟩ := event
  cases op with
  | send message =>
      cases message with
      | rebuilt firstLine credentials headers =>
          refine ⟨False.elim, fun none => ?_⟩
          simp [payloadOf, Message.payload, Message.bytes, crlf] at none
      | raw request =>
          have length : payloadOf platform (.answered ⟨.send (.raw request), reply⟩) = request.length - handshakeLength request :=
            List.length_drop ..
          rw [length]
          exact Nat.sub_eq_zero_iff_le.symm
      | _ => exact ⟨fun _ => rfl, fun _ => trivial⟩
  | reply bytes => exact List.length_eq_zero_iff.symm
  | _ => exact ⟨fun _ => rfl, fun _ => trivial⟩

structure Metered (session : Session) : Prop where
  account : Uses HasAccount session.rest
  paid : (∀ happening ∈ session.log, LeftToRelay happening) →
    payload platform session.log + pending session.relay ≤ reported session.log

theorem step_metered (session next : Session) (happening : Happening) (step : Session.Step session happening next)
    (metered : Metered platform session) : Metered platform next := by
  obtain ⟨account, paid⟩ := metered
  have answers : ∀ (log : List Happening) (event : Event) (held : Nat),
      ((∀ happening ∈ log, LeftToRelay happening) → payload platform log + held ≤ reported log) →
      (∀ happening ∈ log ++ [.answered event], LeftToRelay happening) →
        payload platform (log ++ [.answered event]) + 0 ≤ reported (log ++ [.answered event]) := by
    intro log event held paid left
    have earlier := paid fun happening member => left happening (List.mem_append_left _ member)
    have nothing := (left_to_relay_iff platform event).mp (left _ (List.mem_append_right _ List.mem_cons_self))
    rw [payload_append, reported_append, nothing, answered_reports_nothing]
    omega
  cases step with
  | answer log op body reply other => exact ⟨account.2 reply, answers log ⟨op, reply⟩ 0 paid⟩
  | enter log id costPerByte body streams =>
      refine ⟨account, fun left => ?_⟩
      rw [payload_append, reported_append]
      exact paid fun happening member => left happening (List.mem_append_left _ member)
  | copy log id costPerByte body relay direction action phase running enabled step =>
      refine ⟨account, fun left => ?_⟩
      have known : id.isSome = true := account.1
      rw [known] at step
      have earlier : payload platform log + pending (some relay) ≤ reported log :=
        paid fun happening member => left happening (List.mem_append_left _ member)
      have loop := phase_step_metered (relay.phase direction) phase action direction step
      have held := pending_moved relay direction action phase
      have written : payloadOf platform (.copied direction (relay.phase direction) action) =
        (given (relay.phase direction) action).length := rfl
      rw [payload_append, reported_append, written]
      dsimp only
      omega
  | leave log id costPerByte body relay outcome finished => exact ⟨account.2 _, answers log _ _ paid⟩
  | panic log id costPerByte body relay running => exact ⟨account.2 _, answers log _ _ paid⟩

def Writes : Op → Prop
  | .send _ => True
  | .reply _ => True
  | _ => False

def MayWrite (past : History) (op : Op) : Prop := Writes op → ∀ event ∈ past, ¬ IsRelay event.1

def WritesFirst (program : Router Unit) : Prop :=
  ∀ past, (∀ event ∈ past, ¬ IsRelay event.1) → Meets MayWrite (fun _ _ => True) (fun _ _ => True) past program

theorem writes_first_closed : PreparingClosed WritesFirst where
  fail := fun _ _ _ => trivial
  bind := by
    intro A first next preparing tail past before
    have frame : ∀ (past : History) (op : Op) (reply : op.Reply), (∀ event ∈ past, ¬ IsRelay event.1) → Preparing op →
        ∀ event ∈ past ++ [⟨op, reply⟩], ¬ IsRelay event.1 := by
      intro past op reply before preparing event member
      rw [List.mem_append, List.mem_singleton] at member
      cases member with
      | inl earlier => exact before event earlier
      | inr last =>
          rw [last]
          cases op with
          | relay id costPerByte => exact preparing.elim
          | _ => exact id
    have head := meets_of_uses (fun past => ∀ event ∈ past, ¬ IsRelay event.1) MayWrite past first preparing before
      (fun _ _ before _ _ => before) frame
    refine meets_bind (fun past _ => ∀ event ∈ past, ¬ IsRelay event.1) _ first next ?_ fun reached value before =>
      tail value reached before
    exact meets_mono _ _ _ _ first (fun _ _ may => may) (fun _ _ before => before) (fun _ _ _ => trivial) head

theorem relayed_writes_first (id : Option Int) (costPerByte : Rat) : WritesFirst (relayed id costPerByte) := by
  intro past _
  refine ⟨fun writes => writes.elim, fun _ => ⟨fun writes => writes.elim, fun result => ?_⟩⟩
  rcases result with ⟨reason | _⟩ | _
  · exact ⟨fun writes => writes.elim, fun _ => trivial⟩
  · trivial
  · exact ⟨fun writes => writes.elim, fun _ => trivial⟩

theorem connection_task_writes_first (server : ProxyServer) (peer : IpAddr) :
    Meets MayWrite (fun _ _ => True) (fun _ _ => True) [] (connectionTask platform server peer) := by
  have handled := handle_connection_relays WritesFirst writes_first_closed platform server peer relayed_writes_first []
    fun _ member => absurd member List.not_mem_nil
  refine meets_bind (fun _ _ => True) _ _ _ ?_ ?_
  · refine meets_mono _ _ _ _ _ (fun _ _ may => may) (fun _ _ _ => trivial) (fun _ _ _ => trivial)
      (meets_attempt _ (fun _ _ => True) _ handled)
  · intro past outcome _
    cases outcome with
    | ok value => trivial
    | error failure => exact ⟨fun writes => writes.elim, fun _ => ⟨fun writes => writes.elim, fun _ => trivial⟩⟩

def ReportsInRelay (session : Session) : Prop :=
  reported session.log ≠ 0 → session.relay ≠ none ∨ ∃ event ∈ events session.log, IsRelay event.1

theorem step_reports_in_relay (session next : Session) (happening : Happening) (step : Session.Step session happening next)
    (inRelay : ReportsInRelay session) : ReportsInRelay next := by
  cases step with
  | answer log op body reply other =>
      intro some
      rw [reported_append, answered_reports_nothing, Nat.add_zero] at some
      rcases inRelay some with running | ⟨event, member, relay⟩
      · exact absurd rfl running
      · refine Or.inr ⟨event, ?_, relay⟩
        rw [events_answered]
        exact List.mem_append_left _ member
  | enter log id costPerByte body streams => exact fun _ => Or.inl (Option.some_ne_none _)
  | copy log id costPerByte body relay direction action phase running enabled step =>
      exact fun _ => Or.inl (Option.some_ne_none _)
  | leave log id costPerByte body relay outcome finished =>
      refine fun _ => Or.inr ⟨⟨.relay id costPerByte, outcome.mapError .error⟩, ?_, trivial⟩
      rw [events_answered]
      exact List.mem_append_right _ List.mem_cons_self
  | panic log id costPerByte body relay running =>
      refine fun _ => Or.inr ⟨⟨.relay id costPerByte, .error .panic⟩, ?_, trivial⟩
      rw [events_answered]
      exact List.mem_append_right _ List.mem_cons_self

theorem left_or_writes (op : Op) (reply : op.Reply) (ahead : ¬ LeftToRelay (.answered ⟨op, reply⟩)) : Writes op := by
  cases op with
  | send message => trivial
  | reply bytes => trivial
  | _ => exact absurd trivial ahead

theorem ahead_unreported (server : ProxyServer) (peer : IpAddr) (session : Session)
    (reached : Relation.ReflTransGen Session.Moves (accepted (connectionTask platform server peer)) session)
    (happening : Happening)
    (next : Session) (step : Session.Step session happening next) (ahead : ¬ LeftToRelay happening) :
    reported session.log = 0 := by
  have inRelay : ReportsInRelay session :=
    session_invariant ReportsInRelay _ session (fun some => absurd rfl some) (fun _ happening _ step =>
      step_reports_in_relay _ _ happening step) reached
  have meets := meets_reaches _ _ _ _ (connection_task_writes_first platform server peer) (session_reaches _ session reached)
  by_contra some
  cases step with
  | answer log op body reply other =>
      have quiet := meets.1 (left_or_writes op reply ahead)
      rcases inRelay some with running | ⟨event, member, relay⟩
      · exact absurd rfl running
      · exact quiet event member relay
  | enter log id costPerByte body streams => exact absurd trivial ahead
  | copy log id costPerByte body relay direction action phase running enabled step => exact absurd trivial ahead
  | leave log id costPerByte body relay outcome finished => exact absurd trivial ahead
  | panic log id costPerByte body relay running => exact absurd trivial ahead

theorem ahead_reports_nothing (happening : Happening) (ahead : ¬ LeftToRelay happening) : reportedOf happening = 0 := by
  cases happening with
  | answered event => rfl
  | entered => rfl
  | copied direction phase action => exact absurd trivial ahead

theorem ahead_payload (happening : Happening) (ahead : ¬ LeftToRelay happening) : payloadOf platform happening ≠ 0 := by
  cases happening with
  | answered event => exact fun none => ahead ((left_to_relay_iff platform event).mpr none)
  | entered => exact absurd trivial ahead
  | copied direction phase action => exact absurd trivial ahead

-- With logins on, all that a connection has passed on is reported, at each of
-- its points, if and only if it passes nothing on outside the relay.
theorem payload_metered_iff (server : ProxyServer) (peer : IpAddr) (auth : server.config.auth = some true) (session : Session)
    (reached : Relation.ReflTransGen Session.Moves (accepted (connectionTask platform server peer)) session) :
    (∀ past, past <+: session.log → payload platform past ≤ reported past) ↔
      ∀ happening ∈ session.log, LeftToRelay happening := by
  constructor
  · intro metered happening member
    by_contra ahead
    obtain ⟨before, after, whole⟩ := List.append_of_mem member
    have part : before ++ [happening] <+: session.log := ⟨after, by rw [whole, List.append_assoc, List.singleton_append]⟩
    obtain ⟨state, run, log⟩ := log_prefix_reached _ session reached _ part
    cases run with
    | refl => cases before <;> cases log
    | tail earlier moves =>
        obtain ⟨last, step⟩ := moves
        rw [step_log _ _ last step] at log
        obtain ⟨same, one⟩ := List.append_inj' log rfl
        cases one
        have unreported := ahead_unreported platform server peer _ earlier happening _ step ahead
        rw [same] at unreported
        have bound := metered (before ++ [happening]) part
        rw [payload_append, reported_append, unreported, ahead_reports_nothing happening ahead] at bound
        have passed := ahead_payload platform happening ahead
        omega
  · intro left past part
    obtain ⟨earlier, run, rfl⟩ := log_prefix_reached _ session reached past part
    have opened : Metered platform (accepted (connectionTask platform server peer)) :=
      ⟨connection_task_account platform server peer auth, fun _ => Nat.le_refl 0⟩
    have metered := session_invariant (Metered platform) _ earlier opened
      (fun _ happening _ step => step_metered platform _ _ happening step) run
    exact (Nat.le_add_right _ _).trans (metered.paid fun happening member => left happening (part.subset member))

end Sessions

section Examples

def webHop : ProxyConfig := ⟨none, .http, "10.0.0.1", some 8080, none, none, ⟨none, none, none, none, none⟩, 1, none⟩
def plainGet : Bytes := utf8 "GET / HTTP/1.1\r\n\r\n"
def forwardedGet : Message := .rebuilt "GET / HTTP/1.1" none [""]

theorem connect_four_short : connectFour.length ≤ 8192 := by decide
theorem granted_four_exact : grantedFour.length = 8 := rfl

def forwardedRun : History :=
  [⟨.read 8192, .ok ⟨plainGet, by decide⟩⟩, askedByIp visitor (.ok (some guest)), ⟨.load, ([webHop], ⟨0, id, fun _ _ => 0⟩)⟩,
    askedByIp visitor (.ok (some guest)), ⟨.dial "10.0.0.1:8080", .ok ()⟩, sent forwardedGet]

theorem forwarded_request_unmetered : ¬ ∀ session,
    Relation.ReflTransGen Session.Moves (accepted (connectionTask standard openServer visitor)) session →
      payload standard session.log ≤ reported session.log := by
  intro metered
  obtain ⟨rest, run⟩ : ∃ rest, Reaches (connectionTask standard openServer visitor) forwardedRun rest :=
    ⟨_, .step _ _ _ _ _ (.step _ _ _ _ _ (.step _ _ _ _ _ (.step _ _ _ _ _ (.step _ _ _ _ _ (.step _ _ _ _ _ (.here _))))))⟩
  have other : ∀ event ∈ forwardedRun, ¬ IsRelay event.1 := by
    intro event member
    simp only [forwardedRun, List.mem_cons, List.not_mem_nil, or_false] at member
    rcases member with rfl | rfl | rfl | rfl | rfl | rfl <;> exact id
  have bound : payload standard (forwardedRun.map .answered) ≤ reported (forwardedRun.map .answered) :=
    metered _ (answers_run _ rest forwardedRun [] run other)
  have split : forwardedRun.map Happening.answered = (forwardedRun.take 5).map .answered ++ [.answered (sent forwardedGet)] := rfl
  have nothing : reported (forwardedRun.map .answered) = 0 := rfl
  have passed := ahead_payload standard (.answered (sent forwardedGet)) id
  rw [nothing, split, payload_append] at bound
  omega

def meteredRun : History :=
  [⟨.read 8192, .ok ⟨connectFour, connect_four_short⟩⟩, askedByIp visitor (.ok (some guest)),
    ⟨.load, ([socks4Hop], ⟨0, id, fun _ _ => 0⟩)⟩,
    askedByIp visitor (.ok (some guest)), ⟨.dial "10.0.0.1:1080", .ok ()⟩, sent (.raw connectFour),
    receivedExact 8 ⟨grantedFour, granted_four_exact⟩,
    ⟨.reply grantedFour, .ok ()⟩, ⟨.record true, ()⟩]

def oneByte : List Happening :=
  [.entered, .copied .toUpstream .reading (.read [1]), .copied .toUpstream (.reporting [1]) (.report (.ok none)),
    .copied .toUpstream (.writing [1]) (.write 1)]

def meteredLog : List Happening := meteredRun.map .answered ++ oneByte

theorem metered_log_paid : (∀ past, past <+: meteredLog → payload standard past ≤ reported past) ↔
    ∀ happening ∈ meteredLog, LeftToRelay happening := by
  obtain ⟨next, run⟩ : ∃ next, Reaches (connectionTask standard openServer visitor) meteredRun (.ask (.relay (some 7) 1) next) :=
    ⟨_, .step _ _ _ _ _ (.step _ _ _ _ _ (.step _ _ _ _ _ (.step _ _ _ _ _ (.step _ _ _ _ _ (.step _ _ _ _ _ (.step _ _ _ _ _
      (.step _ _ _ _ _ (.step _ _ _ _ _ (.here _)))))))))⟩
  have other : ∀ event ∈ meteredRun, ¬ IsRelay event.1 := by
    intro event member
    simp only [meteredRun, List.mem_cons, List.not_mem_nil, or_false] at member
    rcases member with rfl | rfl | rfl | rfl | rfl | rfl | rfl | rfl | rfl <;> exact id
  have entered := (answers_run _ _ meteredRun [] run other).tail ⟨_, .enter _ (some 7) 1 next fun _ => [1]⟩
  have read := entered.tail ⟨_, .copy _ (some 7) 1 next _ .toUpstream (.read [1]) _ (both_open _ rfl rfl) List.prefix_rfl rfl⟩
  have told := read.tail ⟨_, .copy _ (some 7) 1 next _ .toUpstream (.report (.ok none)) _ (both_open _ rfl rfl) trivial rfl⟩
  have written := told.tail ⟨_, .copy _ (some 7) 1 next _ .toUpstream (.write 1) _ (both_open _ rfl rfl) trivial rfl⟩
  exact payload_metered_iff standard openServer visitor rfl _ written

end Examples

end Purroute
