import Purroute.Admission
import Purroute.Login
import Purroute.Passage
import Purroute.Segmentation

set_option autoImplicit false

namespace Purroute

open Interaction Interaction.Program

def UsernamePresented (platform : Platform) (past : History) (username : Str) : Prop :=
  ∃ request rest protocol, reads past = request :: rest ∧ detectProtocol request = .ok protocol ∧
    match protocol with
    | .socks5 => ∃ message later password, rest = message :: later ∧ socks5Credentials message = .ok (username, password)
    | .socks4 => socks4Userid request = some username
    | _ => httpProxyUsername platform request = .ok (some username)

def MalformedTokens (username : Str) : Prop := ∃ key, parseUsername username = .error (.unknownKey key)

structure Unrouted (trace : History) (rest : Router Unit) : Prop where
  dialled : ∀ event ∈ trace, Undialled event.1
  dialling : ∀ address next, rest ≠ .ask (.dial address) next
  served : rest ≠ .done ()

def LetsIn (event : Event) : Prop :=
  ∃ account, HasAllowance account ∧ ((∃ peer, event = askedByIp peer (.ok (some account))) ∨
    ∃ base secret, event = asked base secret (.ok (some account)))

def LoginParses (config : RouterConfig) (past : History) : Prop :=
  ∀ request rest, reads past = request :: rest → ∀ protocol, detectProtocol request = .ok protocol →
    match protocol with
    | .socks5 => True
    | .socks4 => config.auth = some true ∧
        ∀ early live draws late, past = early ++ loaded live draws :: late → ∀ event ∈ late, ¬ LetsIn event
    | _ => config.auth = some true

theorem unrouted_fail (failure : Failure) (trace : History) (rest : Router Unit) (reached : Reaches (.fail failure) trace rest) :
    Unrouted trace rest := by
  obtain ⟨rfl, rfl⟩ := reaches_fail _ _ _ reached
  exact ⟨nofun, fun _ _ => nofun, nofun⟩

theorem unrouted_append (before after : History) (rest : Router Unit) (early : ∀ event ∈ before, Undialled event.1)
    (later : Unrouted after rest) : Unrouted (before ++ after) rest where
  dialled := by
    intro event member
    rcases List.mem_append.mp member with first | last
    · exact early event first
    · exact later.dialled event last
  dialling := later.dialling
  served := later.served

theorem unrouted_bind {A : Type} (first : Router A) (next : A → Router Unit) (trace : History) (rest : Router Unit)
    (uses : Uses Undialled first) (reached : Reaches (first.bind next) trace rest)
    (tail : ∀ value before after, trace = before ++ after → Runs first before (.ok value) → Reaches (next value) after rest →
      Unrouted after rest) : Unrouted trace rest := by
  rcases reaches_bind first next trace rest reached with ⟨middle, part, rfl⟩ | ⟨value, before, after, rfl, part, behind⟩
  · obtain ⟨events, remaining⟩ := uses_event first middle trace uses part
    cases middle with
    | done value =>
        have ends := unrouted_append trace [] (next value) events
          (tail value trace [] (List.append_nil trace).symm part (.here _))
        rwa [List.append_nil] at ends
    | fail error => exact ⟨events, fun _ _ => nofun, nofun⟩
    | ask op body =>
        refine ⟨events, ?_, nofun⟩
        intro address other same
        cases same
        exact remaining.1 address rfl
  · exact unrouted_append before after rest (uses_event first _ before uses part).1 (tail value before after rfl part behind)

section Histories

theorem reads_append (before after : History) : reads (before ++ after) = reads before ++ reads after := List.filterMap_append

theorem reads_none {A : Type} (program rest : Router A) (trace : History) (uses : Uses NotRead program)
    (reached : Reaches program trace rest) : reads trace = [] := by
  have events := (uses_event program rest trace uses reached).1
  apply List.filterMap_eq_nil_iff.mpr
  intro event member
  have other := events event member
  obtain ⟨op, reply⟩ := event
  cases op with
  | read limit => exact other.elim
  | _ => rfl

end Histories

section Connections

variable (platform : Platform) (server : ProxyServer) (peer : IpAddr)

theorem auth_stage_undialled (config : RouterConfig) (protocol : Protocol) (request : Bytes) :
    Uses Undialled (authStage platform config protocol request peer) := by
  have login : Uses Undialled (authenticateUser platform config request peer) :=
    authenticate_user_uses Undialled platform config request peer (fun _ _ _ => nofun) fun _ => nofun
  cases protocol with
  | socks5 => exact uses_bind _ _ (uses_ofExcept _) (socks5_authenticate_undialled config)
  | _ => exact uses_bind _ _ login fun _ => trivial

theorem serve_unrouted (request : Bytes) (trace : History) (rest : Router Unit)
    (reached : Reaches (serve platform server peer request) trace rest)
    (refused : ∀ protocol route live draws login after admitted, detectProtocol request = .ok protocol → reads route = [] →
      trace = route ++ loaded live draws :: (login ++ after) →
      Runs (authStage platform server.config protocol request peer) login (.ok admitted) → False) : Unrouted trace rest := by
  rw [serve] at reached
  cases detected : detectProtocol request with
  | error failure =>
      rw [detected] at reached
      exact unrouted_fail failure trace rest reached
  | ok protocol =>
      rw [detected] at reached
      have routes := selection_for_uses Undialled platform protocol request peer fun _ same => by cases same
      apply unrouted_bind _ _ trace rest routes reached
      intro selection route afterRoute split routed behindRoute
      apply unrouted_bind _ _ afterRoute rest (resolve_uses Undialled server selection fun _ same => by cases same) behindRoute
      intro chain load afterLoad splitLoad resolved behindLoad
      obtain ⟨live, draws, rfl, _⟩ := resolve_runs server selection load chain resolved
      by_cases empty : chain = []
      · rw [empty] at behindLoad
        exact unrouted_fail .panic afterLoad rest behindLoad
      · obtain ⟨next, staged⟩ := dispatch_auth_stage platform server protocol request peer chain empty
        rw [staged] at behindLoad
        apply unrouted_bind _ _ afterLoad rest (auth_stage_undialled platform peer server.config protocol request) behindLoad
        intro admitted login after splitLogin passed _
        have quiet := reads_none _ _ route (selection_for_uses NotRead platform protocol request peer trivial) routed
        refine (refused protocol route live draws login after admitted detected quiet ?_ passed).elim
        rw [split, splitLoad, splitLogin, List.singleton_append]

theorem malformed_basic_refused (config : RouterConfig) (request : Bytes) (username : Str) (trace : History) (id : Option Int)
    (login : config.auth = some true) (presented : httpProxyUsername platform request = .ok (some username))
    (malformed : MalformedTokens username) : ¬ Runs (authenticateUser platform config request peer) trace (.ok id) := by
  intro run
  obtain ⟨key, failed⟩ := malformed
  obtain ⟨account, recognised, _, _⟩ := authenticate_user_runs peer trace platform config request id login run
  rw [httpProxyUsername] at presented
  cases recognised with
  | address account bare =>
      rw [bare] at presented
      cases presented
  | password account line text rawUsername password base selection header decoded fields parsed =>
      obtain ⟨full, rfl, absent, _⟩ := split_credentials_some text rawUsername password fields
      rw [header] at presented
      dsimp only at presented
      rw [decoded] at presented
      have same : ((rawUsername ++ ':' :: full).splitOn ':').head? = some username := Except.ok.inj presented
      rw [first_field_carried rawUsername full absent, Option.some.injEq] at same
      rw [same, failed] at parsed
      cases parsed

theorem login_lets_in (config : RouterConfig) (request : Bytes) (trace : History) (id : Option Int)
    (login : config.auth = some true)
    (run : Runs (authenticateUser platform config request peer) trace (.ok id)) : ∃ event ∈ trace, LetsIn event := by
  obtain ⟨account, recognised, allowance, _⟩ := authenticate_user_runs peer trace platform config request id login run
  cases recognised with
  | address account bare => exact ⟨_, List.mem_singleton_self _, account, allowance, .inl ⟨peer, rfl⟩⟩
  | password account line text rawUsername password base selection header decoded fields parsed =>
      exact ⟨_, List.mem_singleton_self _, account, allowance, .inr ⟨base, password, rfl⟩⟩

theorem socks5_login_parses (config : RouterConfig) (request message : Bytes) (more : List Bytes) (login later : History)
    (username password : Str) (admitted : Selection × Option Int) (auth : config.auth = some true)
    (passed : Runs (authStage platform config .socks5 request peer) login (.ok admitted))
    (read : reads (login ++ later) = message :: more) (presented : socks5Credentials message = .ok (username, password)) :
    ∃ base, parseUsername username = .ok (base, admitted.1) := by
  obtain ⟨methods, _, authenticated⟩ := except_runs _ _ _ _ passed
  obtain ⟨bytes, rawUsername, secret, base, account, credentials, parsed, _, _, rfl⟩ :=
    socks5_authenticate_runs login config methods admitted.1 admitted.2 auth authenticated
  rw [reads_append] at read
  have same : bytes.val = message := (List.cons.inj read).1
  rw [same, presented] at credentials
  cases credentials
  exact ⟨base, parsed⟩

theorem first_read_presented (bytes : { bytes : Bytes // bytes.length ≤ 8192 }) (later : History) :
    reads (readOnce 8192 bytes :: later) = bytes.val :: reads later := rfl

end Connections

theorem malformed_name_rejected (platform : Platform) (server : ProxyServer) (peer : IpAddr)
    (trace : History) (rest : Router Unit)
    (username : Str) (reached : Reaches (handleConnection platform server peer) trace rest)
    (presented : UsernamePresented platform trace username) (malformed : MalformedTokens username)
    (parses : LoginParses server.config trace) : Unrouted trace rest := by
  obtain ⟨request, more, protocol, read, detected, field⟩ := presented
  obtain ⟨key, failed⟩ := malformed
  rcases connection_reaches platform server peer trace rest reached with ⟨rfl, _⟩ | ⟨_, _, rfl, _⟩ | ⟨bytes, later, rfl, behind⟩
  · cases read
  · cases read
  have parsing := parses request more read protocol detected
  obtain ⟨rfl, rfl⟩ := List.cons.inj ((first_read_presented bytes later).symm.trans read)
  apply unrouted_append [readOnce 8192 bytes] later rest
  · intro event member
    rw [List.mem_singleton] at member
    subst member
    exact fun _ => nofun
  apply serve_unrouted platform server peer bytes.val later rest behind
  intro other route live draws login after admitted known quiet split passed
  cases detected.symm.trans known
  have noBasic : server.config.auth = some true → httpProxyUsername platform bytes.val = .ok (some username) →
      ¬ Runs ((authenticateUser platform server.config bytes.val peer).bind fun id =>
        .done (emptySelection, id)) login (.ok admitted) := by
    intro auth basic run
    rcases runs_bind _ _ _ _ run with ⟨_, _, mismatch⟩ | ⟨id, before, _, _, logs, _⟩
    · cases mismatch
    · exact malformed_basic_refused platform peer server.config bytes.val username before id auth basic ⟨key, failed⟩ logs
  cases protocol with
  | http => exact noBasic parsing field passed
  | https => exact noBasic parsing field passed
  | socks4 =>
      obtain ⟨auth, none⟩ := parsing
      rcases runs_bind _ _ _ _ passed with ⟨_, _, mismatch⟩ | ⟨id, before, _, rfl, logs, _⟩
      · cases mismatch
      · obtain ⟨event, member, lets⟩ := login_lets_in platform peer server.config bytes.val before id auth logs
        apply none (readOnce 8192 bytes :: route) live draws _ (congrArg _ split) event _ lets
        exact List.mem_append_left _ (List.mem_append_left _ member)
  | socks5 =>
      obtain ⟨message, others, password, second, credentials⟩ := field
      by_cases auth : server.config.auth = some true
      · have read : reads (login ++ after) = message :: others := by
          rw [← second, split, reads_append route, quiet]
          rfl
        obtain ⟨base, parsed⟩ := socks5_login_parses platform peer server.config bytes.val message others login
          after username password admitted auth passed read credentials
        cases failed.symm.trans parsed
      · have silent := reads_none _ _ later (serve_not_read platform server peer bytes.val fun on => absurd on auth) behind
        cases silent.symm.trans second

section Examples

def misnamed : Str := "u-country-us-region-eu"

def routedRun : History :=
  [readOnce 8192 ⟨basicRequest misnamed "pw", by decide⟩, askedByIp visitor (.ok none), loaded [upstream] ⟨0, id, fun _ _ => 0⟩]

theorem misnamed_presented : UsernamePresented standard routedRun misnamed :=
  ⟨_, [], .https, rfl, by decide, show httpProxyUsername standard (basicRequest misnamed "pw") = .ok (some misnamed) by decide⟩

theorem misnamed_malformed : MalformedTokens misnamed := ⟨"region", by decide⟩

theorem malformed_name_turned_away : Unrouted routedRun (.fail authFailed) := by
  have reached : Reaches (handleConnection standard openServer visitor) routedRun (.fail authFailed) :=
    .step _ _ _ _ _ (.step _ _ _ _ _ (.step _ _ _ _ _ (.here _)))
  apply malformed_name_rejected standard openServer visitor routedRun _ misnamed reached misnamed_presented misnamed_malformed
  intro request rest read protocol detected
  cases read
  cases detected
  rfl

-- Without a login nobody parses the name, and the global chain is dialled.
theorem malformed_name_routed :
    ¬ ∀ (server : ProxyServer) (peer : IpAddr) (trace : History) (rest : Router Unit) (username : Str),
      Reaches (handleConnection standard server peer) trace rest → UsernamePresented standard trace username →
        MalformedTokens username → Unrouted trace rest := by
  intro rejected
  have unrouted := rejected unlockedServer visitor routedRun _ misnamed
    (.step _ _ _ _ _ (.step _ _ _ _ _ (.step _ _ _ _ _ (.here _)))) misnamed_presented misnamed_malformed
  exact unrouted.dialling "10.0.0.1:1080" _ rfl

end Examples

end Purroute
