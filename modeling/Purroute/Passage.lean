import Purroute.Outward

set_option autoImplicit false

namespace Purroute

open Interaction Interaction.Program

def Undialled (op : Op) : Prop := ∀ address, op ≠ .dial address

def loaded (live : List ProxyConfig) (draws : Draws) : Event := ⟨.load, (live, draws)⟩

-- What a connection has been through when it dials: the selection its username
-- asks for, the one it is routed by, the account it is metered on, the path.
inductive Passed (platform : Platform) (server : ProxyServer) (peer : IpAddr) (request : Bytes) :
    History → Selection → Selection → Option Int → List ProxyConfig → Prop
  | request (protocol : Protocol) (username : Option Str) (route login : History) (live : List ProxyConfig) (draws : Draws)
      (selection : Selection) (id : Option Int) (chain : List ProxyConfig)
      (detected : detectProtocol request = .ok protocol) (other : protocol ≠ .socks5)
      (presented : requestUsername platform protocol request = .ok username)
      (routed : Runs (selectionFor platform protocol request peer) route (.ok selection))
      (resolved : resolveProxyChain server live draws selection = .ok chain)
      (loggedIn : Runs (authenticateUser platform server.config request peer) login (.ok id)) :
      Passed platform server peer request (route ++ loaded live draws :: login) (tokens username) selection id chain
  | socks5 (preliminary login target default : History) (methods : Bytes) (live : List ProxyConfig) (draws : Draws)
      (chosen selection : Selection) (id : Option Int) (host : Str) (port : UInt16) (chain : List ProxyConfig)
      (detected : detectProtocol request = .ok .socks5) (greeted : greetingMethods request = .ok methods)
      (asked : ∀ event ∈ preliminary, event.1 = .authenticateByIp peer ∨ event.1 = .load)
      (loggedIn : Runs (socks5Authenticate server.config methods) login (.ok (chosen, id)))
      (named : Runs socks5Target target (.ok (host, port)))
      (routed : Runs (defaulted peer chosen) default (.ok selection))
      (resolved : resolveProxyChain server live draws selection = .ok chain) :
      Passed platform server peer request
        (preliminary ++ (login ++ (target ++ (default ++ [loaded live draws])))) chosen selection id chain

section Stages

variable (server : ProxyServer) (peer : IpAddr)

theorem resolve_runs (selection : Selection) (trace : History) (chain : List ProxyConfig)
    (run : Runs (resolve server selection) trace (.ok chain)) :
    ∃ live draws, trace = [loaded live draws] ∧ resolveProxyChain server live draws selection = .ok chain := by
  cases run with
  | step _ _ reply later _ tail =>
      obtain ⟨live, draws⟩ : List ProxyConfig × Draws := reply
      dsimp only at tail
      cases resolved : resolveProxyChain server live draws selection with
      | error failure =>
          rw [resolved] at tail
          cases tail
      | ok path =>
          rw [resolved] at tail
          cases tail
          exact ⟨live, draws, rfl, resolved⟩

theorem connect_once {A : Type} (address other : Str) (next : Unit → Router A) (trace : History)
    (rest : (Op.dial other).Reply → Router A)
    (tail : Uses Undialled (next ())) (reached : Reaches ((connect address).bind next) trace (.ask (.dial other) rest)) :
    trace = [] ∧ other = address := by
  rcases reaches_ask _ _ _ _ reached with ⟨same, here⟩ | ⟨reply, later, same, behind⟩
  · injection here with asked
    injection asked with address
    exact ⟨same, address⟩
  · have uses : Uses Undialled ((io reply).bind next) := uses_bind _ _ (io_uses _ reply) fun _ => tail
    exact absurd rfl ((uses_event _ _ _ uses behind).2.1 other)

theorem exchange_undialled (op : Op) (exchange : Exchange op) : Undialled op := by
  rintro address rfl
  exact exchange

theorem relayed_undialled (id : Option Int) (costPerByte : Rat) : Uses Undialled (relayed id costPerByte) :=
  relayed_uses Undialled id costPerByte (fun _ => nofun) (fun _ => nofun) fun _ => nofun

theorem exchanged_undialled {A B : Type} (first : Router A) (next : A → Router B) (exchange : Uses Exchange first)
    (tail : ∀ value, Uses Undialled (next value)) : Uses Undialled (first.bind next) :=
  uses_bind _ _ (uses_mono _ _ exchange_undialled exchange) tail

theorem socks5_authenticate_undialled (config : RouterConfig) (methods : Bytes) :
    Uses Undialled (socks5Authenticate config methods) := by
  apply socks5_authenticate_uses
  · exact fun bytes address same => by cases same
  · exact fun address same => by cases same
  · exact fun username secret address same => by cases same

end Stages

section Handlers

variable (platform : Platform) (request : Bytes) (proxy : ProxyConfig) (address other : Str) (relay : Router Unit)
  (relays : Uses Undialled relay) (trace : History) (rest : (Op.dial other).Reply → Router Unit)

include relays

theorem http_handle_dials (reached : Reaches (httpHandle platform address request proxy relay) trace (.ask (.dial other) rest)) :
    trace = [] ∧ other = address := by
  rw [httpHandle] at reached
  split at reached
  · cases reached
  · refine connect_once address other _ trace rest ?_ reached
    exact exchanged_undialled _ _ (http_upstream_exchange _ _ _ _) fun _ => relays

theorem https_handle_dials (reached : Reaches (httpsHandle address request proxy relay) trace (.ask (.dial other) rest)) :
    trace = [] ∧ other = address := by
  rw [httpsHandle] at reached
  split at reached
  · cases reached
  · refine connect_once address other _ trace rest ?_ reached
    split
    · trivial
    · exact exchanged_undialled _ _ (https_upstream_exchange _ _) fun _ => relays

theorem socks4_handle_dials (reached : Reaches (socks4Handle address request proxy relay) trace (.ask (.dial other) rest)) :
    trace = [] ∧ other = address := by
  rw [socks4Handle] at reached
  cases target : socks4Request request with
  | error failure =>
      rw [target] at reached
      cases reached
  | ok pair =>
      rw [target] at reached
      refine connect_once address other _ trace rest ?_ reached
      exact exchanged_undialled _ _ (socks4_upstream_exchange _ _ _ _) fun _ => relays

omit relays

theorem chain_dials (chain : List ProxyConfig) (host : Str) (port : UInt16) (next : Unit → Router Unit)
    (tail : Uses Undialled (next ()))
    (reached : Reaches ((connectChain chain host port).bind next) trace (.ask (.dial other) rest)) :
    trace = [] ∧ ∃ first more, chain = first :: more ∧ other = getUpstreamAddr first := by
  cases chain with
  | nil => cases reached
  | cons first more =>
      rw [connectChain, bind_eq, bind_assoc] at reached
      obtain ⟨none, same⟩ := connect_once (getUpstreamAddr first) other _ trace rest
        (exchanged_undialled _ _ (connect_hops_exchange _ host port) fun _ => tail) reached
      exact ⟨none, first, more, rfl, same⟩

end Handlers

section Runs

variable (platform : Platform) (server : ProxyServer) (peer : IpAddr) (request : Bytes)

theorem login_dials (protocol : Protocol) (other : protocol ≠ .socks5) (chain : List ProxyConfig)
    (trace : History) (address : Str) (rest : (Op.dial address).Reply → Router Unit)
    (reached : Reaches (dispatch platform server peer protocol request chain) trace (.ask (.dial address) rest)) :
    ∃ id first more, Runs (authenticateUser platform server.config request peer) trace (.ok id) ∧ chain = first :: more ∧
      address = getUpstreamAddr first := by
  have login : ∀ next : Option Int → Router Unit,
      Reaches ((authenticateUser platform server.config request peer).bind next) trace (.ask (.dial address) rest) →
      ∃ id before after, trace = before ++ after ∧ Runs (authenticateUser platform server.config request peer) before (.ok id) ∧
        Reaches (next id) after (.ask (.dial address) rest) := fun next =>
    reaches_through _ next trace _ rest (authenticate_user_uses Undialled platform server.config request peer
      (fun _ _ _ => nofun) fun _ => nofun) fun never => never address rfl
  have byChain : ∀ (target : Except Failure (Str × UInt16)) (answer : Router Unit), Uses Exchange answer →
      Reaches ((authenticateUser platform server.config request peer).bind fun id => (ofExcept target).bind fun pair =>
        (connectChain chain pair.1 pair.2).bind fun _ => answer.bind fun _ => relayed id (firstCost chain)) trace
          (.ask (.dial address) rest) →
      ∃ id first more, Runs (authenticateUser platform server.config request peer) trace (.ok id) ∧ chain = first :: more ∧
        address = getUpstreamAddr first := by
    intro target answer answers reached
    obtain ⟨id, before, after, rfl, loggedIn, behind⟩ := login _ reached
    cases target with
    | error failure => cases behind
    | ok pair =>
        obtain ⟨rfl, first, more, path, same⟩ := chain_dials address after rest chain pair.1 pair.2 _
          (exchanged_undialled _ _ answers fun _ => relayed_undialled id _) behind
        exact ⟨id, first, more, by rwa [List.append_nil], path, same⟩
  rcases chain with _ | ⟨first, _ | ⟨second, more⟩⟩
  · cases reached
  · rw [dispatch, if_neg other] at reached
    obtain ⟨id, before, after, rfl, loggedIn, behind⟩ := login _ reached
    have relays := relayed_undialled id first.costPerByte
    have opened : after = [] ∧ address = getUpstreamAddr first := by
      cases protocol with
      | http => exact http_handle_dials platform request first _ address _ relays after rest behind
      | https => exact https_handle_dials request first _ address _ relays after rest behind
      | socks4 => exact socks4_handle_dials request first _ address _ relays after rest behind
      | socks5 => exact absurd rfl other
    obtain ⟨rfl, same⟩ := opened
    exact ⟨id, first, [], by rwa [List.append_nil], rfl, same⟩
  · cases protocol with
    | socks5 => exact absurd rfl other
    | socks4 => exact byChain (parseSocks4Target request) (clientWrite socks4Granted) (client_write_exchange _) reached
    | https => exact byChain (parseConnectTarget request) (clientWrite tunnelGranted) (client_write_exchange _) reached
    | http => exact byChain (parseHttpTarget request) (send (.raw (toOriginForm request))) (send_uses _ _ trivial) reached

theorem socks5_dials (trace : History) (address : Str) (rest : (Op.dial address).Reply → Router Unit)
    (reached : Reaches (handleSocks5 server request peer) trace (.ask (.dial address) rest)) :
    ∃ methods login chosen id target host port default selection live draws first more,
      trace = login ++ (target ++ (default ++ [loaded live draws])) ∧ greetingMethods request = .ok methods ∧
      Runs (socks5Authenticate server.config methods) login (.ok (chosen, id)) ∧ Runs socks5Target target (.ok (host, port)) ∧
      Runs (defaulted peer chosen) default (.ok selection) ∧ resolveProxyChain server live draws selection = .ok (first :: more) ∧
      address = getUpstreamAddr first := by
  have never : ¬ Undialled (.dial address) := fun never => never address rfl
  rw [handleSocks5] at reached
  cases greeted : greetingMethods request with
  | error failure =>
      rw [greeted] at reached
      cases reached
  | ok methods =>
      rw [greeted, ofExcept_ok, bind_eq, done_bind] at reached
      obtain ⟨⟨chosen, id⟩, login, later, rfl, loggedIn, behindLogin⟩ := reaches_through _ _ _ _ rest
        (socks5_authenticate_undialled server.config methods) never reached
      obtain ⟨⟨host, port⟩, target, later, rfl, named, behindTarget⟩ := reaches_through _ _ _ _ rest
        (socks5_target_uses Undialled fun _ _ => nofun) never behindLogin
      obtain ⟨selection, default, later, rfl, routed, behindDefault⟩ := reaches_through _ _ _ _ rest
        (defaulted_uses Undialled peer chosen fun _ => nofun) never behindTarget
      obtain ⟨chain, load, later, rfl, resolved, behindLoad⟩ := reaches_through _ _ _ _ rest
        (resolve_uses Undialled server selection fun _ => nofun) never behindDefault
      obtain ⟨live, draws, rfl, path⟩ := resolve_runs server selection load chain resolved
      obtain ⟨rfl, first, more, rfl, same⟩ := chain_dials address later rest chain host port _
        (exchanged_undialled _ _ (client_write_exchange _) fun _ => relayed_undialled id _) behindLoad
      exact ⟨methods, login, chosen, id, target, host, port, default, selection, live, draws,
        first, more, by rw [List.append_nil],
        rfl, loggedIn, named, routed, path, same⟩

theorem selection_for_presented (protocol : Protocol) (trace : History) (selection : Selection)
    (run : Runs (selectionFor platform protocol request peer) trace (.ok selection)) :
    ∃ username, requestUsername platform protocol request = .ok username := by
  cases presented : requestUsername platform protocol request with
  | ok username => exact ⟨username, rfl⟩
  | error failure =>
      rw [selectionFor, presented] at run
      cases run

theorem dial_passed (trace : History) (address : Str) (rest : (Op.dial address).Reply → Router Unit)
    (reached : Reaches (serve platform server peer request) trace (.ask (.dial address) rest)) :
    ∃ chosen selection id first more, Passed platform server peer request trace chosen selection id (first :: more) ∧
      address = getUpstreamAddr first := by
  have never : ¬ Undialled (.dial address) := fun never => never address rfl
  rw [serve] at reached
  cases detected : detectProtocol request with
  | error failure =>
      rw [detected] at reached
      cases reached
  | ok protocol =>
      rw [detected, ofExcept_ok, bind_eq, done_bind] at reached
      obtain ⟨selection, route, later, rfl, routed, behindRoute⟩ := reaches_through _ _ _ _ rest
        (selection_for_uses Undialled platform protocol request peer fun _ => nofun) never reached
      obtain ⟨chain, load, later, rfl, resolved, behindLoad⟩ := reaches_through _ _ _ _ rest
        (resolve_uses Undialled server selection fun _ => nofun) never behindRoute
      obtain ⟨live, draws, rfl, path⟩ := resolve_runs server selection load chain resolved
      by_cases socks5 : protocol = .socks5
      · subst socks5
        rcases dispatch_socks5 platform server peer request chain with ⟨_, empty⟩ | handled
        · rw [empty] at behindLoad
          cases behindLoad
        · rw [handled] at behindLoad
          obtain ⟨methods, login, chosen, id, target, host, port, default, own, live', draws',
            first, more, rfl, greeted, loggedIn, named,
            defaults, ends, same⟩ := socks5_dials server peer request later address rest behindLoad
          have asked := (uses_event _ _ _
            (selection_for_uses (fun op => op = .authenticateByIp peer ∨ op = .load) platform .socks5
            request peer (.inl rfl)) routed).1
          refine ⟨chosen, own, id, first, more, ?_, same⟩
          rw [← List.append_assoc]
          refine .socks5 (route ++ [loaded live draws]) login target default methods live' draws' chosen own id host port
            (first :: more)
            detected greeted ?_ loggedIn named defaults ends
          intro event member
          rcases List.mem_append.mp member with early | last
          · exact asked event early
          · rw [List.mem_singleton.mp last]
            exact .inr rfl
      · obtain ⟨id, first, more, loggedIn, rfl, same⟩ :=
          login_dials platform server peer request protocol socks5 chain later address rest behindLoad
        obtain ⟨username, presented⟩ := selection_for_presented platform peer request protocol route selection routed
        exact ⟨tokens username, selection, id, first, more,
          .request protocol username route later live draws selection id
            (first :: more) detected socks5 presented routed path loggedIn, same⟩

end Runs

end Purroute
