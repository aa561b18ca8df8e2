import Purroute.Login
import Purroute.Passage

set_option autoImplicit false

namespace Purroute

open Interaction Interaction.Program

-- What a SOCKS5 connection is told on its way, in this order. The live set may
-- be another one at the second resolution.
structure Visit where
  request : { bytes : Bytes // bytes.length ≤ 8192 }
  stored : Except Fault (Option Account)
  early : List ProxyConfig
  earlyDraws : Draws
  login : History
  target : History
  live : List ProxyConfig
  draws : Draws

def Visit.preliminary (visit : Visit) (peer : IpAddr) : History :=
  [readOnce 8192 visit.request, askedByIp peer visit.stored, loaded visit.early visit.earlyDraws]

def Visit.trace (visit : Visit) (peer : IpAddr) : History :=
  visit.preliminary peer ++ (visit.login ++ (visit.target ++ [loaded visit.live visit.draws]))

def PreliminaryResolves (server : ProxyServer) (visit : Visit) : Prop :=
  ∃ selection chain, storedDefault emptySelection visit.stored = .ok selection ∧
    resolveProxyChain server visit.early visit.earlyDraws selection = .ok chain ∧ chain ≠ []

section Stages

variable (platform : Platform) (server : ProxyServer) (peer : IpAddr)

theorem serve_socks5 (request : Bytes) (detected : detectProtocol request = .ok .socks5) :
    serve platform server peer request = .ask (.authenticateByIp peer) fun reply =>
      (ofExcept (storedDefault emptySelection reply)).bind fun selection =>
        (resolve server selection).bind fun chain => dispatch platform server peer .socks5 request chain := by
  have first : selectionFor platform .socks5 request peer = storedSelection peer emptySelection := rfl
  rw [serve, detected, ofExcept_ok, bind_eq, done_bind, first, stored_selection_eq]
  rfl

variable (visit : Visit)

theorem preliminary_reaches (selection : Selection) (detected : detectProtocol visit.request.val = .ok .socks5)
    (default : storedDefault emptySelection visit.stored = .ok selection) :
    Reaches (handleConnection platform server peer) (visit.preliminary peer)
      ((ofExcept (resolveProxyChain server visit.early visit.earlyDraws selection)).bind fun chain =>
        dispatch platform server peer .socks5 visit.request.val chain) := by
  apply Reaches.step
  change Reaches (serve platform server peer visit.request.val) _ _
  rw [serve_socks5 platform server peer visit.request.val detected]
  apply Reaches.step
  rw [default]
  apply Reaches.step
  exact .here _

theorem preliminary_needed (rest : Router Unit) (detected : detectProtocol visit.request.val = .ok .socks5)
    (reached : Reaches (handleConnection platform server peer) (visit.trace peer) rest) : PreliminaryResolves server visit := by
  have goesOn : visit.login ++ (visit.target ++ [loaded visit.live visit.draws]) ≠ [] := by simp
  cases default : storedDefault emptySelection visit.stored with
  | error failure =>
      have stopped : Reaches (handleConnection platform server peer) [readOnce 8192 visit.request, askedByIp peer visit.stored]
          (.fail failure) := by
        apply Reaches.step
        change Reaches (serve platform server peer visit.request.val) _ _
        rw [serve_socks5 platform server peer visit.request.val detected]
        apply Reaches.step
        rw [default]
        exact .here _
      have ended := (reaches_fail _ _ _ (reaches_split _ _ _ _ (loaded visit.early visit.earlyDraws :: _) stopped reached)).1
      cases ended
  | ok selection =>
      have first := preliminary_reaches platform server peer visit selection detected default
      have behind := reaches_split _ _ _ _ _ first reached
      cases resolved : resolveProxyChain server visit.early visit.earlyDraws selection with
      | error failure =>
          rw [resolved] at behind
          exact absurd (reaches_fail _ _ _ behind).1 goesOn
      | ok chain =>
          rw [resolved, ofExcept_ok, done_bind] at behind
          refine ⟨selection, chain, default, resolved, ?_⟩
          intro empty
          rw [empty] at behind
          exact goesOn (reaches_fail _ _ _ behind).1

theorem handle_socks5_reaches (methods : Bytes) (selection : Selection) (id : Option Int) (host : Str) (port : UInt16)
    (greeted : greetingMethods visit.request.val = .ok methods)
    (loggedIn : Runs (socks5Authenticate server.config methods) visit.login (.ok (selection, id)))
    (constrained : isEmpty selection = false) (named : Runs socks5Target visit.target (.ok (host, port))) :
    Reaches (handleSocks5 server visit.request.val peer) (visit.login ++ (visit.target ++ [loaded visit.live visit.draws]))
      ((ofExcept (resolveProxyChain server visit.live visit.draws selection)).bind fun chain =>
        (connectChain chain host port).bind fun _ =>
          (clientWrite socks5Granted).bind fun _ => relayed id (firstCost chain)) := by
  have kept : defaulted peer selection = .done selection := by
    rw [defaulted, constrained]
    rfl
  rw [handleSocks5, greeted, ofExcept_ok, bind_eq, done_bind]
  apply runs_bind_ok _ _ visit.login _ _ _ loggedIn
  apply runs_bind_ok _ _ visit.target _ _ _ named
  dsimp only
  rw [kept]
  apply Reaches.step
  exact .here _

structure ConnectClient (greeting : Bytes) (login : History) (username : Str) : Prop where
  detected : detectProtocol greeting = .ok .https
  presented : httpProxyUsername platform greeting = .ok (some username)
  loggedIn : ∃ id, Runs (authenticateUser platform server.config greeting peer) login (.ok id)
  named : ∃ host port, parseConnectTarget greeting = .ok (host, port)

structure Socks5Client (username : Str) (selection : Selection) (host : Str) (port : UInt16) : Prop where
  detected : detectProtocol visit.request.val = .ok .socks5
  loggedIn : ∃ methods id, greetingMethods visit.request.val = .ok methods ∧
    Runs (socks5Authenticate server.config methods) visit.login (.ok (selection, id))
  presented : ∃ message password, reads visit.login = [message] ∧ socks5Credentials message = .ok (username, password)
  constrained : isEmpty selection = false
  named : Runs socks5Target visit.target (.ok (host, port))

def Dials (trace : History) (address : Str) : Prop :=
  ∃ next, Reaches (handleConnection platform server peer) trace (.ask (.dial address) next)

theorem opens_behind {A : Type} (first : Router A) (behind : A → Router Unit) (trace : History) (value : A) (address : Str)
    (run : Runs first trace (.ok value)) (opens : ∃ next, behind value = .ask (.dial address) next) :
    ∃ next, Reaches (first.bind behind) trace (.ask (.dial address) next) := by
  obtain ⟨next, same⟩ := opens
  have whole := runs_bind_ok first behind trace [] value _ run (.here _)
  rw [List.append_nil, same] at whole
  exact ⟨next, whole⟩

theorem https_handle_opens (greeting : Bytes) (host : Str) (port : UInt16)
    (named : parseConnectTarget greeting = .ok (host, port))
    (address : Str) (proxy : ProxyConfig) (relay : Router Unit) :
    ∃ next, httpsHandle address greeting proxy relay = .ask (.dial address) next := by
  rw [parseConnectTarget] at named
  rw [httpsHandle]
  cases starts : (lines (fromUtf8Lossy greeting)).head? with
  | none =>
      rw [starts] at named
      cases named
  | some firstLine => exact ⟨_, rfl⟩

theorem dispatch_connect (greeting : Bytes) (login : History) (username : Str)
    (client : ConnectClient platform server peer greeting login username) (first : ProxyConfig) (rest : List ProxyConfig) :
    ∃ next, Reaches (dispatch platform server peer .https greeting (first :: rest)) login
    (.ask (.dial (getUpstreamAddr first)) next) := by
  obtain ⟨id, loggedIn⟩ := client.loggedIn
  obtain ⟨host, port, named⟩ := client.named
  cases rest with
  | nil => exact opens_behind _ _ login id _ loggedIn (https_handle_opens greeting host port named _ first _)
  | cons second rest =>
      apply opens_behind _ _ login id _ loggedIn
      rw [named]
      exact ⟨_, rfl⟩

theorem serve_connect (greeting : Bytes) (login : History) (username base : Str) (selection : Selection)
    (client : ConnectClient platform server peer greeting login username)
    (parsed : parseUsername username = .ok (base, selection))
    (constrained : isEmpty selection = false) : serve platform server peer greeting =
      (resolve server selection).bind fun chain => dispatch platform server peer .https greeting chain := by
  have chosen : tokens (some username) = selection := by rw [tokens, Option.map_some, parsed]
  have presented : requestUsername platform .https greeting = .ok (some username) := client.presented
  have first : selectionFor platform .https greeting peer = .done selection := by
    rw [selectionFor, presented, ofExcept_ok, bind_eq, done_bind, chosen, if_pos constrained]
    rfl
  rw [serve, client.detected, ofExcept_ok, bind_eq, done_bind, first]
  rfl

theorem connect_dials_iff (request : { bytes : Bytes // bytes.length ≤ 8192 }) (live : List ProxyConfig) (draws : Draws)
    (login : History) (username base : Str) (selection : Selection) (address : Str)
    (client : ConnectClient platform server peer request.val login username)
    (parsed : parseUsername username = .ok (base, selection)) (constrained : isEmpty selection = false) :
    Dials platform server peer ([readOnce 8192 request, loaded live draws] ++ login) address ↔
      ∃ first rest, resolveProxyChain server live draws selection = .ok (first :: rest) ∧ address = getUpstreamAddr first := by
  have routed : Reaches (handleConnection platform server peer) [readOnce 8192 request, loaded live draws]
      ((ofExcept (resolveProxyChain server live draws selection)).bind fun chain =>
        dispatch platform server peer .https request.val chain) := by
    apply Reaches.step
    change Reaches (serve platform server peer request.val) _ _
    rw [serve_connect platform server peer request.val login username base selection client parsed constrained]
    apply Reaches.step
    exact .here _
  constructor
  · intro dials
    obtain ⟨next, reached⟩ := dials
    have behind := reaches_split _ _ _ _ _ routed reached
    cases resolved : resolveProxyChain server live draws selection with
    | error failure =>
        rw [resolved] at behind
        cases (reaches_fail _ _ _ behind).2
    | ok chain =>
        rw [resolved, ofExcept_ok, done_bind] at behind
        cases chain with
        | nil => cases (reaches_fail _ _ _ behind).2
        | cons first rest =>
            obtain ⟨other, opened⟩ := dispatch_connect platform server peer request.val login username client first rest
            cases reaches_unique _ _ _ _ behind opened
            exact ⟨first, rest, rfl, rfl⟩
  · intro path
    obtain ⟨first, rest, resolved, rfl⟩ := path
    obtain ⟨next, opened⟩ := dispatch_connect platform server peer request.val login username client first rest
    rw [resolved, ofExcept_ok, done_bind] at routed
    exact ⟨next, reaches_append _ _ _ _ _ routed opened⟩

theorem open_socks5_selects_nothing (config : RouterConfig) (methods : Bytes) (login : History) (selection : Selection)
    (id : Option Int) (open' : config.auth ≠ some true)
    (run : Runs (socks5Authenticate config methods) login (.ok (selection, id))) : selection = emptySelection := by
  rw [socks5Authenticate, if_neg open'] at run
  by_cases offered : 0x00 ∈ methods
  · rw [if_pos offered] at run
    obtain ⟨later, _, ends⟩ := client_write_runs login _ _ _ run
    cases (reaches_done _ _ _ ends).2
    rfl
  · rw [if_neg offered] at run
    obtain ⟨later, _, refused⟩ := client_write_runs login _ _ _ run
    cases refused

variable (username : Str) (selection : Selection) (host : Str) (port : UInt16)

structure RoutedByName : Prop where
  own : ∀ chain, resolveProxyChain server visit.live visit.draws selection = .ok chain → chain ≠ [] ∧
    ∃ next, Reaches (handleConnection platform server peer) (visit.trace peer) ((connectChain chain host port).bind next)
  alike : ∀ (connect : { bytes : Bytes // bytes.length ≤ 8192 }) (login : History),
    ConnectClient platform server peer connect.val login username → ∀ address,
      (Dials platform server peer (visit.trace peer) address ↔
        Dials platform server peer ([readOnce 8192 connect, loaded visit.live visit.draws] ++ login) address)

variable (client : Socks5Client server visit username selection host port)

include client

theorem socks5_client_parsed : ∃ base, parseUsername username = .ok (base, selection) := by
  obtain ⟨methods, id, _, run⟩ := client.loggedIn
  obtain ⟨message, password, read, credentials⟩ := client.presented
  by_cases auth : server.config.auth = some true
  · obtain ⟨bytes, rawUsername, secret, base, account, known, parsed, _, _, events⟩ :=
      socks5_authenticate_runs visit.login server.config methods selection id auth run
    rw [events] at read
    have same : bytes.val = message := (List.cons.inj read).1
    rw [same, credentials] at known
    cases known
    exact ⟨base, parsed⟩
  · have nothing := open_socks5_selects_nothing server.config methods visit.login selection id auth run
    have constrained := client.constrained
    rw [nothing] at constrained
    cases constrained

theorem socks5_route_reaches (resolves : PreliminaryResolves server visit) :
    ∃ next : List ProxyConfig → Unit → Router Unit, Reaches (handleConnection platform server peer) (visit.trace peer)
      ((ofExcept (resolveProxyChain server visit.live visit.draws selection)).bind fun chain =>
        (connectChain chain host port).bind (next chain)) := by
  obtain ⟨first, chain, default, resolved, path⟩ := resolves
  obtain ⟨methods, id, greeted, loggedIn⟩ := client.loggedIn
  have begun := preliminary_reaches platform server peer visit first client.detected default
  rw [resolved, ofExcept_ok, done_bind] at begun
  rcases dispatch_socks5 platform server peer visit.request.val chain with ⟨empty, _⟩ | handled
  · exact absurd empty path
  · rw [handled] at begun
    have handles := handle_socks5_reaches server peer visit methods selection id host port greeted loggedIn
      client.constrained client.named
    exact ⟨_, reaches_append _ _ _ _ _ begun handles⟩

theorem socks5_dials_iff (address : Str) : Dials platform server peer (visit.trace peer) address ↔
    PreliminaryResolves server visit ∧
      ∃ first rest, resolveProxyChain server visit.live visit.draws selection = .ok (first :: rest) ∧
        address = getUpstreamAddr first := by
  constructor
  · intro dials
    obtain ⟨next, reached⟩ := dials
    have resolves := preliminary_needed platform server peer visit _ client.detected reached
    obtain ⟨behind, routed⟩ := socks5_route_reaches platform server peer visit username selection host port client resolves
    have same := reaches_unique _ _ _ _ routed reached
    cases resolved : resolveProxyChain server visit.live visit.draws selection with
    | error failure =>
        rw [resolved] at same
        cases same
    | ok chain =>
        rw [resolved, ofExcept_ok, done_bind] at same
        cases chain with
        | nil => cases same
        | cons first rest =>
            cases same
            exact ⟨resolves, first, rest, rfl, rfl⟩
  · intro path
    obtain ⟨resolves, first, rest, resolved, rfl⟩ := path
    obtain ⟨behind, routed⟩ := socks5_route_reaches platform server peer visit username selection host port client resolves
    rw [resolved, ofExcept_ok, done_bind] at routed
    exact ⟨_, routed⟩

end Stages

theorem socks5_routed_by_name_iff (platform : Platform) (server : ProxyServer) (peer : IpAddr) (visit : Visit) (username : Str)
    (selection : Selection) (host : Str) (port : UInt16) (client : Socks5Client server visit username selection host port) :
    RoutedByName platform server peer visit username selection host port ↔
      ∀ chain, resolveProxyChain server visit.live visit.draws selection = .ok chain →
        chain ≠ [] ∧ PreliminaryResolves server visit := by
  constructor
  · intro routed chain resolved
    obtain ⟨path, next, reached⟩ := routed.own chain resolved
    exact ⟨path, preliminary_needed platform server peer visit _ client.detected reached⟩
  · intro resolves
    constructor
    · intro chain resolved
      obtain ⟨path, first⟩ := resolves chain resolved
      obtain ⟨next, reached⟩ := socks5_route_reaches platform server peer visit username selection host port client first
      rw [resolved, ofExcept_ok, done_bind] at reached
      exact ⟨path, next chain, reached⟩
    · intro connect login other address
      obtain ⟨base, parsed⟩ := socks5_client_parsed server visit username selection host port client
      rw [connect_dials_iff platform server peer connect visit.live visit.draws login username base selection address other parsed
        client.constrained, socks5_dials_iff platform server peer visit username selection host port client address]
      constructor
      · intro path
        exact path.2
      · intro path
        obtain ⟨first, rest, resolved, same⟩ := path
        exact ⟨(resolves _ resolved).2, first, rest, resolved, same⟩

section Examples

def inGermany : Selection := { emptySelection with country := ["de".toList] }
def tagged : ProxyConfig := { upstream with tags := { upstream.tags with country := some "de" } }
def evenDraws : Draws := ⟨0, fun _ => 0, fun _ _ => 0⟩

def germanVisit : Visit where
  request := ⟨[0x05, 0x01, 0x02], by decide⟩
  stored := .ok none
  early := [tagged]
  earlyDraws := evenDraws
  login := [wrote [0x05, 0x02], readOnce 513 ⟨subNegotiation "me-country-de" "pw", by decide⟩, asked "me" "pw" (.ok (some guest)),
    wrote [0x01, 0x00]]
  target := [⟨.readExact 4, (.ok ⟨[0x05, 0x01, 0x00, 0x01], rfl⟩ : Except Fault { bytes : Bytes // bytes.length = 4 })⟩,
    ⟨.readExact 6, (.ok ⟨[93, 184, 216, 34, 0, 80], rfl⟩ : Except Fault { bytes : Bytes // bytes.length = 6 })⟩]
  live := [tagged]
  draws := evenDraws

theorem german_client (server : ProxyServer) (auth : server.config.auth = some true) :
    Socks5Client server germanVisit "me-country-de" inGermany "93.184.216.34" 80 where
  detected := by decide
  loggedIn := by
    refine ⟨[0x02], some 7, by decide, ?_⟩
    rw [socks5Authenticate, if_pos auth]
    exact .step _ _ _ _ _ (.step _ _ _ _ _ (.step _ _ _ _ _ (.step _ _ _ _ _ (.here _))))
  presented := ⟨_, "pw", rfl, by decide⟩
  constrained := by decide
  named := .step _ _ _ _ _ (.step _ _ _ _ _ (.here _))

theorem german_visit_resolves (server : ProxyServer) :
    resolveProxyChain server germanVisit.live germanVisit.draws inGermany = .ok [tagged] := rfl

theorem german_visit_routed :
    RoutedByName standard openServer visitor germanVisit "me-country-de" inGermany "93.184.216.34" 80 := by
  apply (socks5_routed_by_name_iff standard openServer visitor germanVisit _ inGermany _ 80 (german_client openServer rfl)).mpr
  intro chain resolved
  cases (german_visit_resolves openServer).symm.trans resolved
  exact ⟨List.cons_ne_nil _ _, emptySelection, [tagged], rfl, rfl, List.cons_ne_nil _ _⟩

-- A global chain that names nothing turns the same client away.
theorem absent_chain_turns_away :
    ¬ ∀ (server : ProxyServer) (peer : IpAddr) (visit : Visit) (username : Str) (selection : Selection)
    (host : Str) (port : UInt16),
      Socks5Client server visit username selection host port →
        RoutedByName standard server peer visit username selection host port := by
  intro always
  have client := german_client ⟨none, ⟨some "absent".toList, some true⟩⟩ rfl
  have routed := always _ visitor germanVisit _ inGermany _ 80 client
  obtain ⟨_, next, reached⟩ := routed.own _ (german_visit_resolves _)
  obtain ⟨selection, chain, default, resolved, _⟩ := preliminary_needed standard _ visitor germanVisit _ client.detected reached
  cases default
  cases resolved

end Examples

end Purroute
