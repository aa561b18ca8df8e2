import Mathlib.Algebra.Order.Group.Nat
import Purroute.ChainModes
import Purroute.Costs
import Purroute.Gauge
import Purroute.Passage

set_option autoImplicit false

namespace Purroute

open Interaction Interaction.Program

-- Requests made, bytes taken from the client and from the upstream outside the
-- relay, connections dialled, relays entered.
abbrev Effort := Nat × Nat × Nat × Nat × Nat

-- A read counts for as much as it may return.
def effortOf : signature.Op → Effort
  | .read limit => (1, limit, 0, 0, 0)
  | .readExact count => (1, count, 0, 0, 0)
  | .receive limit => (1, 0, limit, 0, 0)
  | .receiveExact count => (1, 0, count, 0, 0)
  | .dial _ => (1, 0, 0, 1, 0)
  | .relay _ _ => (1, 0, 0, 0, 1)
  | _ => (1, 0, 0, 0, 0)

abbrev Spends {A : Type} (bound : Effort) (program : Router A) : Prop := Costs effortOf bound program

section Sockets

theorem io_spends {A : Type} (bound : Effort) (result : Except Fault A) : Spends bound (io result) := by
  rcases result with ⟨_ | _ | _⟩ | value
  · exact costs_fail effortOf bound _
  · exact costs_fail effortOf bound _
  · exact costs_fail effortOf bound _
  · exact costs_done effortOf bound value

theorem io_within_spends {A : Type} (bound : Effort) (expired : ProxyError) (result : Except Fault A) :
    Spends bound (ioWithin expired result) := by
  rcases result with ⟨_ | _ | _⟩ | value
  · exact costs_fail effortOf bound _
  · exact costs_fail effortOf bound _
  · exact costs_fail effortOf bound _
  · exact costs_done effortOf bound value

theorem once_spends {A : Type} (op : Op) (next : op.Reply → Router A) (tail : ∀ reply, Spends 0 (next reply)) :
    Spends (effortOf op) (.ask op next) :=
  costs_ask effortOf (effortOf op) 0 op next (le_of_eq (add_zero _)) tail

theorem bytes_spend {R : Type} (bytesOf : R → Bytes) (result : Except Fault R) :
    Spends 0 ((io result).bind fun value => .done (bytesOf value)) :=
  costs_bind effortOf 0 0 0 le_rfl _ _ (io_spends 0 result) fun _ => costs_done effortOf 0 _

theorem client_write_spends (bytes : Bytes) : Spends (1, 0, 0, 0, 0) (clientWrite bytes) := once_spends _ _ (io_spends 0)
theorem connect_spends (address : Str) : Spends (1, 0, 0, 1, 0) (connect address) := once_spends _ _ (io_spends 0)
theorem send_spends (message : Message) : Spends (1, 0, 0, 0, 0) (send message) := once_spends _ _ (io_spends 0)
theorem client_read_spends (limit : Nat) : Spends (1, limit, 0, 0, 0) (clientRead limit) := once_spends _ _ (bytes_spend _)
theorem client_read_exact_spends (count : Nat) : Spends (1, count, 0, 0, 0) (clientReadExact count) :=
  once_spends _ _ (bytes_spend _)
theorem receive_spends (limit : Nat) : Spends (1, 0, limit, 0, 0) (receive limit) := once_spends _ _ (bytes_spend _)
theorem receive_exact_spends (count : Nat) : Spends (1, 0, count, 0, 0) (receiveExact count) := once_spends _ _ (bytes_spend _)

theorem receive_exact_within_spends (count : Nat) (expired : ProxyError) :
    Spends (1, 0, count, 0, 0) (receiveExactWithin count expired) :=
  once_spends _ _ fun reply => costs_bind effortOf 0 0 0 le_rfl _ _ (io_within_spends 0 expired reply) fun _ =>
    costs_done effortOf 0 _

theorem decrement_spends : Spends (1, 0, 0, 0, 0) decrementActiveConnections := once_spends _ _ fun _ => costs_done effortOf 0 _
theorem record_spends (success : Bool) : Spends (1, 0, 0, 0, 0) (recordConnectionResult success) :=
  once_spends _ _ fun _ => costs_done effortOf 0 _

end Sockets

section Hops

variable (proxy : ProxyConfig) (host : Str) (port : UInt16)

theorem socks5_auth_spends (texts : Socks5Texts) (choice : UInt8) : Spends (2, 0, 2, 0, 0) (socks5Auth texts proxy choice) := by
  rw [socks5Auth]
  split
  · split
    · refine costs_bind effortOf (1, 0, 0, 0, 0) (1, 0, 2, 0, 0) _ (by decide) _ _ (send_spends _) fun _ => ?_
      refine costs_bind effortOf (1, 0, 2, 0, 0) 0 _ (by decide) _ _ (receive_exact_spends 2) fun verdict => ?_
      rw [checkVerdict]
      split
      · exact costs_done effortOf 0 _
      · exact costs_fail effortOf 0 _
    · exact costs_fail effortOf _ _
  · split
    · exact costs_done effortOf _ _
    · exact costs_fail effortOf _ _

theorem skip_address_spends (atyp : UInt8) : Spends (2, 0, 258, 0, 0) (skipAddress atyp) := by
  rw [skipAddress]
  split
  · exact costs_bind effortOf (1, 0, 6, 0, 0) 0 _ (by decide) _ _ (receive_exact_spends 6) fun _ => costs_done effortOf 0 _
  · split
    · refine costs_bind effortOf (1, 0, 1, 0, 0) (1, 0, 257, 0, 0) _ (by decide) _ _ (receive_exact_spends 1) fun length => ?_
      have short := (byteAt length 0).toNat_lt
      refine costs_bind effortOf (1, 0, (byteAt length 0).toNat + 2, 0, 0) 0 _ ?_ _ _ (receive_exact_spends _) fun _ =>
        costs_done effortOf 0 _
      rw [add_zero]
      simp only [Prod.mk_le_mk]
      omega
    · split
      · exact costs_bind effortOf (1, 0, 18, 0, 0) 0 _ (by decide) _ _ (receive_exact_spends 18) fun _ => costs_done effortOf 0 _
      · exact costs_fail effortOf _ _

theorem socks5_handshake_spends (texts : Socks5Texts) : Spends (8, 0, 266, 0, 0) (socks5Handshake texts proxy host port) := by
  refine costs_bind effortOf (1, 0, 0, 0, 0) (7, 0, 266, 0, 0) _ (by decide) _ _ (send_spends _) fun _ => ?_
  refine costs_bind effortOf (1, 0, 2, 0, 0) (6, 0, 264, 0, 0) _ (by decide) _ _ (receive_exact_spends 2) fun choice => ?_
  refine costs_bind effortOf (2, 0, 2, 0, 0) (4, 0, 262, 0, 0) _ (by decide) _ _ (socks5_auth_spends proxy texts _) fun _ => ?_
  refine costs_bind effortOf (1, 0, 0, 0, 0) (3, 0, 262, 0, 0) _ (by decide) _ _ (send_spends _) fun _ => ?_
  refine costs_bind effortOf (1, 0, 4, 0, 0) (2, 0, 258, 0, 0) _ (by decide) _ _
    (receive_exact_within_spends 4 texts.expired) fun response => ?_
  rw [socks5Reply]
  split
  · exact skip_address_spends _
  · exact costs_fail effortOf _ _

theorem socks4_handshake_spends (refused : String) : Spends (2, 0, 8, 0, 0) (socks4Handshake refused host port) := by
  refine costs_bind effortOf (1, 0, 0, 0, 0) (1, 0, 8, 0, 0) _ (by decide) _ _ (send_spends _) fun _ => ?_
  refine costs_bind effortOf (1, 0, 8, 0, 0) 0 _ (by decide) _ _ (receive_exact_spends 8) fun response => ?_
  split
  · exact costs_done effortOf 0 _
  · exact costs_fail effortOf 0 _

theorem http_handshake_spends (refused : String) (request : Message) :
    Spends (2, 0, 1024, 0, 0) (httpHandshake refused request) := by
  refine costs_bind effortOf (1, 0, 0, 0, 0) (1, 0, 1024, 0, 0) _ (by decide) _ _ (send_spends _) fun _ => ?_
  refine costs_bind effortOf (1, 0, 1024, 0, 0) 0 _ (by decide) _ _ (receive_spends 1024) fun response => ?_
  split
  · exact costs_done effortOf 0 _
  · exact costs_fail effortOf 0 _

theorem http_connect_spends : Spends (8, 0, 1024, 0, 0) (httpConnect proxy host port) :=
  costs_bind effortOf (2, 0, 1024, 0, 0) 0 _ (by decide) _ _ (http_handshake_spends _ _) fun _ => costs_done effortOf 0 _

theorem connect_through_proxy_spends : Spends (8, 0, 1024, 0, 0) (connectThroughProxy proxy host port) := by
  rw [connectThroughProxy]
  cases proxy.proxyType with
  | socks5 => exact costs_mono effortOf _ _ (by decide) _ (socks5_handshake_spends proxy host port chainTexts)
  | socks4 => exact costs_mono effortOf _ _ (by decide) _ (socks4_handshake_spends host port _)
  | http => exact http_connect_spends proxy host port
  | https => exact http_connect_spends proxy host port

theorem connect_hops_spends (chain : List ProxyConfig) :
    Spends (8 * chain.length, 0, 1024 * chain.length, 0, 0) (connectHops chain host port) := by
  induction chain with
  | nil => exact costs_done effortOf _ _
  | cons proxy rest ih =>
      cases rest with
      | nil => exact connect_through_proxy_spends proxy host port
      | cons next rest =>
          rw [connectHops]
          refine costs_bind effortOf 0 _ _ (le_of_eq (zero_add _)) _ _ (costs_ofExcept effortOf 0 _) fun target => ?_
          refine costs_bind effortOf (8, 0, 1024, 0, 0) _ _ ?_ _ _
            (connect_through_proxy_spends proxy target.1 target.2) fun _ => ih
          simp only [List.length_cons, Prod.mk_add_mk, Prod.mk_le_mk]
          omega

theorem connect_chain_spends (chain : List ProxyConfig) :
    Spends (1 + 8 * chain.length, 0, 1024 * chain.length, 1, 0) (connectChain chain host port) := by
  cases chain with
  | nil => exact costs_fail effortOf _ _
  | cons first rest =>
      rw [connectChain]
      refine costs_bind effortOf (1, 0, 0, 1, 0) _ _ ?_ _ _ (connect_spends _) fun _ =>
        connect_hops_spends host port (first :: rest)
      simp only [Prod.mk_add_mk, Prod.mk_le_mk]
      omega

end Hops

section Paths

variable (server : ProxyServer) (live : List ProxyConfig) (draws : Draws)

def longestPath : Nat := (server.chains.getD []).foldr (fun chain longest => max chain.proxies.length longest) 1

theorem longest_path_positive : 1 ≤ longestPath server := by
  rw [longestPath]
  generalize server.chains.getD [] = chains
  induction chains with
  | nil => exact le_rfl
  | cons chain chains ih => exact ih.trans (le_max_right _ _)

theorem chain_length_le (chain : ChainConfig) (configured : chain ∈ server.chains.getD []) :
    chain.proxies.length ≤ longestPath server := by
  rw [longestPath]
  generalize server.chains.getD [] = chains at configured
  induction chains with
  | nil => cases configured
  | cons first chains ih =>
      rcases List.mem_cons.mp configured with rfl | later
      · exact le_max_left _ _
      · exact (ih later).trans (le_max_right _ _)

theorem mode_length_le (chain : ChainConfig) (members path : List ProxyConfig)
    (applied : applyMode draws chain members = .ok path) :
    path.length ≤ members.length := by
  have same := shuffle_length draws.order members
  cases mode : chain.mode with
  | strict =>
      rw [applyMode, mode] at applied
      cases applied
      exact le_rfl
  | random =>
      rw [applyMode, mode] at applied
      cases limit : chain.count with
      | some count =>
          rw [limit] at applied
          cases applied
          rw [List.length_take]
          exact (min_le_left _ _).trans (min_le_right _ _)
      | none =>
          rw [limit] at applied
          cases order : shuffle draws.order members with
          | nil =>
              rw [order] at applied
              cases applied
          | cons first rest =>
              rw [order] at applied same
              cases applied
              rw [← same]
              exact Nat.succ_le_succ (Nat.zero_le _)

theorem resolve_ref_length_le (name : Str) (path : List ProxyConfig) (resolved : resolveRef server live draws name = .ok path) :
    path.length ≤ longestPath server := by
  rcases resolve_ref_cases server live draws name path resolved with ⟨proxy, _, rfl⟩ |
    ⟨_, chain, members, listed, collected, applied⟩
  · exact longest_path_positive server
  · have shorter := mode_length_le draws chain members path applied
    rw [← (collect_members_ok live name chain.proxies members collected).length_eq] at shorter
    exact shorter.trans (chain_length_le server chain (List.mem_of_find?_eq_some listed))

theorem unnamed_length (selection : Selection) (unnamed : route server selection = none) (path : List ProxyConfig)
    (resolved : resolveChainInner server live draws selection = .ok path) : path.length = 1 := by
  rw [route] at unnamed
  rw [resolveChainInner] at resolved
  cases explicit : selection.chain with
  | some name =>
      rw [explicit] at unnamed
      cases unnamed
  | none =>
      rw [explicit] at unnamed resolved
      dsimp only at unnamed resolved
      split at resolved
      · cases picked : pickIndex (candidates live selection).length selection.session draws.candidate with
        | none =>
            rw [picked] at resolved
            cases resolved
        | some i =>
            rw [picked] at resolved
            dsimp only at resolved
            cases found : (candidates live selection)[i]? with
            | none =>
                rw [found] at resolved
                cases resolved
            | some proxy =>
                rw [found] at resolved
                cases resolved
                rfl
      · have only : onlySession selection = true := by simpa using ‹¬ onlySession selection = false›
        rw [only, if_pos rfl] at unnamed
        unfold resolveGlobalChain at resolved
        rw [unnamed] at resolved
        cases live with
        | nil => cases resolved
        | cons proxy rest =>
            cases resolved
            rfl

theorem resolve_length_le (selection : Selection) (path : List ProxyConfig)
    (resolved : resolveProxyChain server live draws selection = .ok path) :
    path.length ≤ longestPath server := by
  rw [resolveProxyChain] at resolved
  cases inner : resolveChainInner server live draws selection with
  | error failure =>
      rw [inner] at resolved
      cases resolved
  | ok plain =>
      rw [inner] at resolved
      cases resolved
      rw [List.length_mapIdx]
      cases named : route server selection with
      | some name =>
          rw [named_route server live selection name named draws] at inner
          exact resolve_ref_length_le server live draws name plain inner
      | none =>
          rw [unnamed_length server live draws selection named plain inner]
          exact longest_path_positive server

end Paths

section Handlers

variable (platform : Platform) (server : ProxyServer) (peer : IpAddr) (request : Bytes) (proxy : ProxyConfig)

theorem relayed_spends (id : Option Int) (costPerByte : Rat) : Spends (3, 0, 0, 0, 1) (relayed id costPerByte) := by
  refine costs_bind effortOf (1, 0, 0, 0, 0) (2, 0, 0, 0, 1) _ (by decide) _ _ (record_spends true) fun _ => ?_
  refine costs_ask effortOf _ (1, 0, 0, 0, 0) _ _ (show ((1, 0, 0, 0, 1) : Effort) + (1, 0, 0, 0, 0) ≤
    (2, 0, 0, 0, 1) by decide) fun result => ?_
  rcases result with (reason | _) | _
  · exact costs_bind effortOf (1, 0, 0, 0, 0) 0 _ (by decide) _ _ decrement_spends fun _ => costs_fail effortOf 0 _
  · exact costs_fail effortOf _ _
  · exact decrement_spends

theorem socks4_upstream_spends (host : Str) (port : UInt16) :
    Spends (9, 0, 1024, 0, 0) (socks4Upstream request proxy host port) := by
  have http : Spends (9, 0, 1024, 0, 0)
    ((httpHandshake "HTTP tunnel failed" (.connectHttp host port (credentials proxy))).bind fun _ =>
      clientWrite socks4Granted) :=
    costs_bind effortOf (2, 0, 1024, 0, 0) (1, 0, 0, 0, 0) _ (by decide) _ _ (http_handshake_spends _ _) fun _ =>
      client_write_spends _
  rw [socks4Upstream]
  cases proxy.proxyType with
  | http => exact http
  | https => exact http
  | socks4 =>
      refine costs_bind effortOf (1, 0, 0, 0, 0) (2, 0, 8, 0, 0) _ (by decide) _ _ (send_spends _) fun _ => ?_
      refine costs_bind effortOf (1, 0, 8, 0, 0) (1, 0, 0, 0, 0) _ (by decide) _ _ (receive_exact_spends 8) fun response => ?_
      refine costs_bind effortOf (1, 0, 0, 0, 0) 0 _ (by decide) _ _ (client_write_spends _) fun _ => ?_
      split
      · exact costs_done effortOf 0 _
      · exact costs_fail effortOf 0 _
  | socks5 =>
      exact costs_bind effortOf (8, 0, 266, 0, 0) (1, 0, 0, 0, 0) _ (by decide) _ _
        (socks5_handshake_spends _ _ _ _) fun _ => client_write_spends _

theorem forward_http_spends (firstLine : Str) : Spends (1, 0, 0, 0, 0) (forwardHttp firstLine request) := by
  rw [forwardHttp]
  split
  · exact client_write_spends _
  · exact send_spends _

theorem http_upstream_spends (firstLine : Str) : Spends (9, 0, 1024, 0, 0) (httpUpstream platform firstLine request proxy) := by
  have rebuilt : ∀ message, Spends (9, 0, 1024, 0, 0) (send message) :=
    fun message => costs_mono effortOf _ _ (by decide) _ (send_spends message)
  rw [httpUpstream]
  cases proxy.proxyType with
  | http => exact rebuilt _
  | https => exact rebuilt _
  | socks4 =>
      refine costs_bind effortOf 0 (9, 0, 1024, 0, 0) _ (by decide) _ _ (costs_ofExcept effortOf 0 _) fun target => ?_
      exact costs_bind effortOf (2, 0, 8, 0, 0) (1, 0, 0, 0, 0) _ (by decide) _ _ (socks4_handshake_spends _ _ _) fun _ =>
        forward_http_spends request firstLine
  | socks5 =>
      refine costs_bind effortOf 0 (9, 0, 1024, 0, 0) _ (by decide) _ _ (costs_ofExcept effortOf 0 _) fun target => ?_
      exact costs_bind effortOf (8, 0, 266, 0, 0) (1, 0, 0, 0, 0) _ (by decide) _ _ (socks5_handshake_spends _ _ _ _) fun _ =>
        forward_http_spends request firstLine

theorem https_upstream_spends (target : Str) : Spends (9, 0, 1024, 0, 0) (httpsUpstream target proxy) := by
  have http : Spends (9, 0, 1024, 0, 0)
    ((httpHandshake "HTTPS tunnel failed" (.connectTarget target (credentials proxy))).bind clientWrite) :=
    costs_bind effortOf (2, 0, 1024, 0, 0) (1, 0, 0, 0, 0) _ (by decide) _ _ (http_handshake_spends _ _) fun _ =>
      client_write_spends _
  rw [httpsUpstream]
  cases proxy.proxyType with
  | http => exact http
  | https => exact http
  | socks4 =>
      exact costs_bind effortOf (2, 0, 8, 0, 0) (1, 0, 0, 0, 0) _ (by decide) _ _ (socks4_handshake_spends _ _ _) fun _ =>
        client_write_spends _
  | socks5 =>
      exact costs_bind effortOf (8, 0, 266, 0, 0) (1, 0, 0, 0, 0) _ (by decide) _ _
        (socks5_handshake_spends _ _ _ _) fun _ => client_write_spends _

section Single

variable (address : Str) (relay : Router Unit) (relays : Spends (3, 0, 0, 0, 1) relay)

include relays

theorem opened_spends (upstream : Unit → Router Unit) (speaks : Spends (9, 0, 1024, 0, 0) (upstream ())) :
    Spends (13, 0, 1024, 1, 1) ((connect address).bind fun value => (upstream value).bind fun _ => relay) := by
  refine costs_bind effortOf (1, 0, 0, 1, 0) (12, 0, 1024, 0, 1) _ (by decide) _ _ (connect_spends address) fun _ => ?_
  exact costs_bind effortOf (9, 0, 1024, 0, 0) (3, 0, 0, 0, 1) _ (by decide) _ _ speaks fun _ => relays

theorem http_handle_spends : Spends (13, 0, 1024, 1, 1) (httpHandle platform address request proxy relay) := by
  rw [httpHandle]
  split
  · exact costs_fail effortOf _ _
  · exact opened_spends address relay relays (fun _ => httpUpstream platform _ request proxy)
      (http_upstream_spends platform request proxy _)

theorem https_handle_spends : Spends (13, 0, 1024, 1, 1) (httpsHandle address request proxy relay) := by
  rw [httpsHandle]
  split
  · exact costs_fail effortOf _ _
  · refine costs_bind effortOf (1, 0, 0, 1, 0) (12, 0, 1024, 0, 1) _ (by decide) _ _ (connect_spends address) fun _ => ?_
    split
    · exact costs_fail effortOf _ _
    · exact costs_bind effortOf (9, 0, 1024, 0, 0) (3, 0, 0, 0, 1) _ (by decide) _ _
        (https_upstream_spends proxy _) fun _ => relays

theorem socks4_handle_spends : Spends (13, 0, 1024, 1, 1) (socks4Handle address request proxy relay) := by
  rw [socks4Handle]
  refine costs_bind effortOf 0 (13, 0, 1024, 1, 1) _ (by decide) _ _ (costs_ofExcept effortOf 0 _) fun target => ?_
  exact opened_spends address relay relays (fun _ => socks4Upstream request proxy target.1 target.2)
    (socks4_upstream_spends request proxy target.1 target.2)

end Single

theorem admitted_spends (reply : Except Fault (Option Account)) : Spends 0 (admitted reply) := by
  rcases reply with ⟨_ | _ | _⟩ | ⟨_ | account⟩
  · exact costs_fail effortOf 0 _
  · exact costs_fail effortOf 0 _
  · exact costs_fail effortOf 0 _
  · exact costs_fail effortOf 0 _
  · exact costs_done effortOf 0 _

theorem lookup_spends {A : Type} (reply : Except Fault (Option Account)) (result : Account → A) :
    Spends 0 ((admitted reply).bind fun account => (ofExcept (checkBandwidth account.bandwidthLimit)).bind fun _ =>
      .done (result account)) := by
  refine costs_bind effortOf 0 0 0 le_rfl _ _ (admitted_spends reply) fun account => ?_
  exact costs_bind effortOf 0 0 0 le_rfl _ _ (costs_ofExcept effortOf 0 _) fun _ => costs_done effortOf 0 _

theorem authenticate_spends (rawUsername password : Str) : Spends (1, 0, 0, 0, 0) (authenticate rawUsername password) := by
  rw [authenticate]
  split
  · exact costs_fail effortOf _ _
  · exact once_spends _ _ fun reply => lookup_spends reply _

theorem authenticate_by_ip_spends : Spends (1, 0, 0, 0, 0) (authenticateByIp peer) :=
  once_spends _ _ fun reply => lookup_spends reply _

theorem authenticate_user_spends (config : RouterConfig) :
    Spends (1, 0, 0, 0, 0) (authenticateUser platform config request peer) := by
  rw [authenticateUser]
  split
  · split
    · exact costs_bind effortOf (1, 0, 0, 0, 0) 0 _ (by decide) _ _ (authenticate_by_ip_spends peer) fun _ =>
        costs_done effortOf 0 _
    · refine costs_bind effortOf 0 (1, 0, 0, 0, 0) _ (by decide) _ _ (costs_ofExcept effortOf 0 _) fun credentials => ?_
      split
      · exact costs_fail effortOf _ _
      · exact costs_bind effortOf (1, 0, 0, 0, 0) 0 _ (by decide) _ _ (authenticate_spends _ _) fun _ => costs_done effortOf 0 _
  · exact costs_done effortOf _ _

theorem stored_selection_spends (otherwise : Selection) : Spends (1, 0, 0, 0, 0) (storedSelection peer otherwise) := by
  rw [stored_selection_eq]
  exact once_spends _ _ fun reply => costs_ofExcept effortOf 0 _

theorem selection_for_spends (protocol : Protocol) : Spends (1, 0, 0, 0, 0) (selectionFor platform protocol request peer) := by
  refine costs_bind effortOf 0 (1, 0, 0, 0, 0) _ (by decide) _ _ (costs_ofExcept effortOf 0 _) fun username => ?_
  split
  · exact costs_done effortOf _ _
  · exact stored_selection_spends peer _

theorem resolve_spends (selection : Selection) : Spends (1, 0, 0, 0, 0) (resolve server selection) :=
  once_spends _ _ fun _ => costs_ofExcept effortOf 0 _

theorem refuse_methods_spends {A : Type} (reason : Failure) : Spends (1, 0, 0, 0, 0) (refuseMethods reason : Router A) :=
  costs_bind effortOf (1, 0, 0, 0, 0) 0 _ (by decide) _ _ (client_write_spends _) fun _ => costs_fail effortOf 0 _

theorem socks5_authenticate_spends (config : RouterConfig) (methods : Bytes) :
    Spends (4, 513, 0, 0, 0) (socks5Authenticate config methods) := by
  have refused : ∀ reason, Spends (4, 513, 0, 0, 0) (refuseMethods reason : Router (Selection × Option Int)) :=
    fun reason => costs_mono effortOf _ _ (by decide) _ (refuse_methods_spends reason)
  rw [socks5Authenticate]
  split
  · split
    · refine costs_bind effortOf (1, 0, 0, 0, 0) (3, 513, 0, 0, 0) _ (by decide) _ _ (client_write_spends _) fun _ => ?_
      refine costs_bind effortOf (1, 513, 0, 0, 0) (2, 0, 0, 0, 0) _ (by decide) _ _ (client_read_spends 513) fun message => ?_
      have login : Spends (1, 0, 0, 0, 0) (socks5Login message) :=
        costs_bind effortOf 0 (1, 0, 0, 0, 0) _ (by decide) _ _ (costs_ofExcept effortOf 0 _) fun pair =>
          authenticate_spends pair.1 pair.2
      refine costs_bind effortOf (1, 0, 0, 0, 0) (1, 0, 0, 0, 0) _ (by decide) _ _ login fun admitted => ?_
      exact costs_bind effortOf (1, 0, 0, 0, 0) 0 _ (by decide) _ _ (client_write_spends _) fun _ => costs_done effortOf 0 _
    · exact refused _
  · split
    · exact costs_bind effortOf (1, 0, 0, 0, 0) 0 _ (by decide) _ _ (client_write_spends _) fun _ => costs_done effortOf 0 _
    · exact refused _

theorem socks5_target_spends : Spends (3, 262, 0, 0, 0) socks5Target := by
  refine costs_bind effortOf (1, 4, 0, 0, 0) (2, 258, 0, 0, 0) _ (by decide) _ _ (client_read_exact_spends 4) fun header => ?_
  split
  · exact costs_fail effortOf _ _
  · rw [socks5Address]
    split
    · exact costs_bind effortOf (1, 6, 0, 0, 0) 0 _ (by decide) _ _ (client_read_exact_spends 6) fun _ => costs_done effortOf 0 _
    · split
      · refine costs_bind effortOf (1, 1, 0, 0, 0) (1, 257, 0, 0, 0) _ (by decide) _ _
          (client_read_exact_spends 1) fun length => ?_
        have short := (byteAt length 0).toNat_lt
        refine costs_bind effortOf (1, (byteAt length 0).toNat + 2, 0, 0, 0) 0 _ ?_ _ _
          (client_read_exact_spends _) fun _ => costs_done effortOf 0 _
        rw [add_zero]
        simp only [Prod.mk_le_mk]
        omega
      · split
        · exact costs_bind effortOf (1, 18, 0, 0, 0) 0 _ (by decide) _ _ (client_read_exact_spends 18) fun _ =>
            costs_done effortOf 0 _
        · exact costs_fail effortOf _ _

theorem defaulted_spends (chosen : Selection) : Spends (1, 0, 0, 0, 0) (defaulted peer chosen) := by
  rw [defaulted]
  split
  · exact stored_selection_spends peer chosen
  · exact costs_done effortOf _ _

theorem chain_tail_spends (chain : List ProxyConfig) (short : chain.length ≤ longestPath server)
    (id : Option Int) (host : Str) (port : UInt16) (answer : Router Unit) (answers : Spends (1, 0, 0, 0, 0) answer) :
    Spends (5 + 8 * longestPath server, 0, 1024 * longestPath server, 1, 1)
      ((connectChain chain host port).bind fun _ => answer.bind fun _ => relayed id (firstCost chain)) := by
  refine costs_bind effortOf (1 + 8 * chain.length, 0, 1024 * chain.length, 1, 0) (4, 0, 0, 0, 1) _ ?_ _ _
    (connect_chain_spends host port chain)
    fun _ => costs_bind effortOf (1, 0, 0, 0, 0) (3, 0, 0, 0, 1) _ (by decide) _ _ answers fun _ => relayed_spends id _
  simp only [Prod.mk_add_mk, Prod.mk_le_mk]
  omega

theorem handle_socks5_spends :
    Spends (14 + 8 * longestPath server, 775, 1024 * longestPath server, 1, 1) (handleSocks5 server request peer) := by
  rw [handleSocks5]
  refine costs_bind effortOf 0 _ _ (le_of_eq (zero_add _)) _ _ (costs_ofExcept effortOf 0 _) fun methods => ?_
  refine costs_bind effortOf (4, 513, 0, 0, 0) (10 + 8 * longestPath server, 262, 1024 * longestPath server, 1, 1) _ ?_ _ _
    (socks5_authenticate_spends _ methods) fun login => ?_
  · simp only [Prod.mk_add_mk, Prod.mk_le_mk]
    omega
  refine costs_bind effortOf (3, 262, 0, 0, 0) (7 + 8 * longestPath server, 0, 1024 * longestPath server, 1, 1) _ ?_ _ _
    socks5_target_spends fun target => ?_
  · simp only [Prod.mk_add_mk, Prod.mk_le_mk]
    omega
  refine costs_bind effortOf (1, 0, 0, 0, 0) (6 + 8 * longestPath server, 0, 1024 * longestPath server, 1, 1) _ ?_ _ _
    (defaulted_spends peer login.1) fun selection => ?_
  · simp only [Prod.mk_add_mk, Prod.mk_le_mk]
    omega
  refine costs_bind_runs effortOf (1, 0, 0, 0, 0) (5 + 8 * longestPath server, 0, 1024 * longestPath server, 1, 1) _ ?_ _ _
    (resolve_spends server selection) fun chain trace run => ?_
  · simp only [Prod.mk_add_mk, Prod.mk_le_mk]
    omega
  obtain ⟨live, draws, _, resolved⟩ := resolve_runs server selection trace chain run
  exact chain_tail_spends server chain (resolve_length_le server live draws selection chain resolved) login.2 target.1 target.2 _
    (client_write_spends _)

theorem dispatch_spends (protocol : Protocol) (chain : List ProxyConfig) (short : chain.length ≤ longestPath server) :
    Spends (14 + 8 * longestPath server, 775, 1024 * longestPath server, 1, 1)
    (dispatch platform server peer protocol request chain) := by
  have long := longest_path_positive server
  have byChain : ∀ (target : Except Failure (Str × UInt16)) (answer : Router Unit), Spends (1, 0, 0, 0, 0) answer →
      Spends (14 + 8 * longestPath server, 775, 1024 * longestPath server, 1, 1)
        ((authenticateUser platform server.config request peer).bind fun id => (ofExcept target).bind fun pair =>
          (connectChain chain pair.1 pair.2).bind fun _ => answer.bind fun _ => relayed id (firstCost chain)) := by
    intro target answer answers
    refine costs_bind effortOf (1, 0, 0, 0, 0) (5 + 8 * longestPath server, 0, 1024 * longestPath server, 1, 1) _ ?_ _ _
      (authenticate_user_spends platform peer request server.config) fun id => ?_
    · simp only [Prod.mk_add_mk, Prod.mk_le_mk]
      omega
    refine costs_bind effortOf 0 _ _ (le_of_eq (zero_add _)) _ _ (costs_ofExcept effortOf 0 _) fun pair => ?_
    exact chain_tail_spends server chain short id pair.1 pair.2 answer answers
  have single : ∀ proxy, Spends (14 + 8 * longestPath server, 775, 1024 * longestPath server, 1, 1)
      (handleSingle platform server peer protocol request proxy) := by
    intro proxy
    refine costs_bind effortOf (1, 0, 0, 0, 0) (13, 0, 1024, 1, 1) _ ?_ _ _
      (authenticate_user_spends platform peer request server.config)
      fun id => ?_
    · simp only [Prod.mk_add_mk, Prod.mk_le_mk]
      omega
    have relays := relayed_spends id proxy.costPerByte
    cases protocol with
    | http => exact http_handle_spends platform request proxy _ _ relays
    | https => exact https_handle_spends request proxy _ _ relays
    | socks4 => exact socks4_handle_spends request proxy _ _ relays
    | socks5 => exact socks4_handle_spends request proxy _ _ relays
  rcases chain with _ | ⟨first, _ | ⟨second, rest⟩⟩
  · exact costs_fail effortOf _ _
  · rw [dispatch]
    split
    · exact handle_socks5_spends server peer request
    · exact single first
  · cases protocol with
    | socks5 => exact handle_socks5_spends server peer request
    | socks4 => exact byChain (parseSocks4Target request) (clientWrite socks4Granted) (client_write_spends _)
    | https => exact byChain (parseConnectTarget request) (clientWrite tunnelGranted) (client_write_spends _)
    | http => exact byChain (parseHttpTarget request) (send (.raw (toOriginForm request))) (send_spends _)

theorem serve_spends : Spends (16 + 8 * longestPath server, 775, 1024 * longestPath server, 1, 1)
    (serve platform server peer request) := by
  refine costs_bind effortOf 0 _ _ (le_of_eq (zero_add _)) _ _ (costs_ofExcept effortOf 0 _) fun protocol => ?_
  refine costs_bind effortOf (1, 0, 0, 0, 0) (15 + 8 * longestPath server, 775, 1024 * longestPath server, 1, 1) _ ?_ _ _
    (selection_for_spends platform peer request protocol) fun selection => ?_
  · simp only [Prod.mk_add_mk, Prod.mk_le_mk]
    omega
  refine costs_bind_runs effortOf (1, 0, 0, 0, 0) (14 + 8 * longestPath server, 775, 1024 * longestPath server, 1, 1) _ ?_ _ _
    (resolve_spends server selection) fun chain trace run => ?_
  · simp only [Prod.mk_add_mk, Prod.mk_le_mk]
    omega
  obtain ⟨live, draws, _, resolved⟩ := resolve_runs server selection trace chain run
  exact dispatch_spends platform server peer request protocol chain (resolve_length_le server live draws selection chain resolved)

omit request

theorem task_spends : Spends (19 + 8 * longestPath server, 8967, 1024 * longestPath server, 1, 1)
    (connectionTask platform server peer) := by
  have handled : Spends (17 + 8 * longestPath server, 8967, 1024 * longestPath server, 1, 1)
    (handleConnection platform server peer) := by
    refine costs_ask effortOf _ (16 + 8 * longestPath server, 775, 1024 * longestPath server, 1, 1) _ _ ?_ fun reply => ?_
    · change ((1, 8192, 0, 0, 0) : Effort) + _ ≤ _
      simp only [Prod.mk_add_mk, Prod.mk_le_mk]
      omega
    · exact costs_bind effortOf 0 _ _ (le_of_eq (zero_add _)) _ _ (io_within_spends 0 .timeout reply) fun bytes =>
        serve_spends platform server peer bytes.val
  refine costs_bind effortOf (17 + 8 * longestPath server, 8967, 1024 * longestPath server, 1, 1) (2, 0, 0, 0, 0) _ ?_ _ _
    (costs_attempt effortOf _ _ handled) fun outcome => ?_
  · simp only [Prod.mk_add_mk, Prod.mk_le_mk]
    omega
  · cases outcome with
    | ok value => exact costs_done effortOf _ _
    | error failure =>
        exact costs_bind effortOf (1, 0, 0, 0, 0) (1, 0, 0, 0, 0) _ (by decide) _ _ (record_spends false) fun _ =>
          decrement_spends

end Handlers

section Bounds

def bytesIn : Event → Nat
  | ⟨.read _, .ok bytes⟩ => bytes.val.length
  | ⟨.readExact _, .ok bytes⟩ => bytes.val.length
  | _ => 0

def bytesBack : Event → Nat
  | ⟨.receive _, .ok bytes⟩ => bytes.val.length
  | ⟨.receiveExact _, .ok bytes⟩ => bytes.val.length
  | _ => 0

def isDial : Op → Bool
  | .dial _ => true
  | _ => false

def entersRelay : Op → Bool
  | .relay _ _ => true
  | _ => false

structure Measured (event : Event) (effort : Effort) : Prop where
  requests : 1 ≤ effort.1
  fromClient : bytesIn event ≤ effort.2.1
  fromUpstream : bytesBack event ≤ effort.2.2.1
  dials : (if isDial event.1 then 1 else 0) ≤ effort.2.2.2.1
  relays : (if entersRelay event.1 then 1 else 0) ≤ effort.2.2.2.2

theorem event_measured (event : Event) : Measured event (effortOf event.1) := by
  obtain ⟨op, reply⟩ := event
  cases op with
  | read limit =>
      cases reply with
      | error fault => exact ⟨le_rfl, Nat.zero_le _, le_rfl, le_rfl, le_rfl⟩
      | ok bytes => exact ⟨le_rfl, bytes.property, le_rfl, le_rfl, le_rfl⟩
  | readExact count =>
      cases reply with
      | error fault => exact ⟨le_rfl, Nat.zero_le _, le_rfl, le_rfl, le_rfl⟩
      | ok bytes => exact ⟨le_rfl, le_of_eq bytes.property, le_rfl, le_rfl, le_rfl⟩
  | receive limit =>
      cases reply with
      | error fault => exact ⟨le_rfl, le_rfl, Nat.zero_le _, le_rfl, le_rfl⟩
      | ok bytes => exact ⟨le_rfl, le_rfl, bytes.property, le_rfl, le_rfl⟩
  | receiveExact count =>
      cases reply with
      | error fault => exact ⟨le_rfl, le_rfl, Nat.zero_le _, le_rfl, le_rfl⟩
      | ok bytes => exact ⟨le_rfl, le_rfl, le_of_eq bytes.property, le_rfl, le_rfl⟩
  | _ => exact ⟨le_rfl, le_rfl, le_rfl, le_rfl, le_rfl⟩

-- A connection costs the router this much at most before and behind its relay.
structure Modest (server : ProxyServer) (trace : History) : Prop where
  requests : trace.length ≤ 19 + 8 * longestPath server
  fromClient : (trace.map bytesIn).sum ≤ 8967
  fromUpstream : (trace.map bytesBack).sum ≤ 1024 * longestPath server
  dials : trace.countP (fun event => isDial event.1) ≤ 1
  relays : trace.countP (fun event => entersRelay event.1) ≤ 1

theorem trace_measured (trace : History) : trace.length ≤ (costOf effortOf trace).1 ∧
    (trace.map bytesIn).sum ≤ (costOf effortOf trace).2.1 ∧ (trace.map bytesBack).sum ≤ (costOf effortOf trace).2.2.1 ∧
    trace.countP (fun event => isDial event.1) ≤ (costOf effortOf trace).2.2.2.1 ∧
    trace.countP (fun event => entersRelay event.1) ≤ (costOf effortOf trace).2.2.2.2 := by
  induction trace with
  | nil => exact ⟨le_rfl, le_rfl, le_rfl, le_rfl, le_rfl⟩
  | cons event trace ih =>
      obtain ⟨requests, fromClient, fromUpstream, dials, relays⟩ := ih
      have here := event_measured event
      have whole : costOf effortOf (event :: trace) = effortOf event.1 + costOf effortOf trace := rfl
      rw [whole, List.length_cons, List.map_cons, List.sum_cons, List.map_cons, List.sum_cons, List.countP_cons, List.countP_cons]
      refine ⟨?_, add_le_add here.fromClient fromClient, add_le_add here.fromUpstream fromUpstream, ?_, ?_⟩
      · rw [Nat.add_comm]
        exact add_le_add here.requests requests
      · rw [Nat.add_comm]
        exact add_le_add here.dials dials
      · rw [Nat.add_comm]
        exact add_le_add here.relays relays

theorem handshake_bounded (platform : Platform) (server : ProxyServer) (peer : IpAddr) (trace : History) (rest : Router Unit)
    (reached : Reaches (connectionTask platform server peer) trace rest) : Modest server trace := by
  obtain ⟨requests, fromClient, fromUpstream, dials, relays⟩ := task_spends platform server peer trace rest reached
  have measured := trace_measured trace
  exact ⟨measured.1.trans requests, measured.2.1.trans fromClient, measured.2.2.1.trans fromUpstream,
    measured.2.2.2.1.trans dials,
    measured.2.2.2.2.trans relays⟩

end Bounds

section Examples

theorem closed_run_bounded : Modest plainServer (relayedRun (.ok ()) ++ [released]) :=
  handshake_bounded standard plainServer caller _ _ closed_run

end Examples

end Purroute
