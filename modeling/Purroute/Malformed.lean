import Purroute.Bounds
import Purroute.Passage
import Purroute.Segmentation
import Purroute.Sparing

set_option autoImplicit false

namespace Purroute

open Interaction Interaction.Program

-- Nothing outside the connection's own code panics.
def Calm : Event → Prop
  | ⟨.read limit, reply⟩ => reply ≠ (.error .panicked : Except Fault { bytes : Bytes // bytes.length ≤ limit })
  | ⟨.readExact count, reply⟩ => reply ≠ (.error .panicked : Except Fault { bytes : Bytes // bytes.length = count })
  | ⟨.reply _, reply⟩ => reply ≠ (.error .panicked : Except Fault Unit)
  | ⟨.dial _, reply⟩ => reply ≠ (.error .panicked : Except Fault Unit)
  | ⟨.send _, reply⟩ => reply ≠ (.error .panicked : Except Fault Unit)
  | ⟨.receive limit, reply⟩ => reply ≠ (.error .panicked : Except Fault { bytes : Bytes // bytes.length ≤ limit })
  | ⟨.receiveExact count, reply⟩ => reply ≠ (.error .panicked : Except Fault { bytes : Bytes // bytes.length = count })
  | ⟨.authenticate _ _, reply⟩ => reply ≠ (.error .panicked : Except Fault (Option Account))
  | ⟨.authenticateByIp _, reply⟩ => reply ≠ (.error .panicked : Except Fault (Option Account))
  | ⟨.relay _ _, reply⟩ => reply ≠ (.error .panic : Except Failure Unit)
  | _ => True

abbrev Sturdy {A : Type} (program : Router A) : Prop := Spares Calm (fun failure => failure ≠ .panic) program

section Sturdiness

variable {A : Type}

theorem reported_not_panic (reason : ProxyError) (failure : Failure)
    (failed : (.error (.error reason) : Except Failure A) = .error failure) :
    failure ≠ .panic := by
  cases failed
  exact fun same => by cases same

theorem fail_sturdy (reason : ProxyError) : Sturdy (.fail (.error reason) : Router A) := fun same => by cases same

theorem throw_sturdy (message : String) : Sturdy (throw message : Router A) := fail_sturdy _

theorem io_sturdy (reply : Except Fault A) (calm : reply ≠ .error .panicked) : Sturdy (io reply) := by
  rcases reply with ⟨_ | _ | _⟩ | value
  · exact fail_sturdy _
  · exact fail_sturdy _
  · exact absurd rfl calm
  · trivial

theorem within_sturdy (expired : ProxyError) (reply : Except Fault A) (calm : reply ≠ .error .panicked) :
    Sturdy (ioWithin expired reply) := by
  rcases reply with ⟨_ | _ | _⟩ | value
  · exact fail_sturdy _
  · exact fail_sturdy _
  · exact absurd rfl calm
  · trivial

theorem client_read_sturdy (limit : Nat) : Sturdy (clientRead limit) :=
  fun reply calm => spares_bind _ _ (io_sturdy reply calm) fun _ => trivial

theorem client_read_exact_sturdy (count : Nat) : Sturdy (clientReadExact count) :=
  fun reply calm => spares_bind _ _ (io_sturdy reply calm) fun _ => trivial

theorem client_write_sturdy (bytes : Bytes) : Sturdy (clientWrite bytes) := fun reply calm => io_sturdy reply calm
theorem connect_sturdy (address : Str) : Sturdy (connect address) := fun reply calm => io_sturdy reply calm
theorem send_sturdy (message : Message) : Sturdy (send message) := fun reply calm => io_sturdy reply calm

theorem receive_sturdy (limit : Nat) : Sturdy (receive limit) :=
  fun reply calm => spares_bind _ _ (io_sturdy reply calm) fun _ => trivial

theorem receive_exact_sturdy (count : Nat) : Sturdy (receiveExact count) :=
  fun reply calm => spares_bind _ _ (io_sturdy reply calm) fun _ => trivial

theorem receive_within_sturdy (count : Nat) (expired : ProxyError) : Sturdy (receiveExactWithin count expired) :=
  fun reply calm => spares_bind _ _ (within_sturdy expired reply calm) fun _ => trivial

theorem relayed_sturdy (id : Option Int) (costPerByte : Rat) : Sturdy (relayed id costPerByte) := by
  intro _ _ result calm
  rcases result with ⟨reason | _⟩ | _
  · exact fun _ _ => fail_sturdy reason
  · exact absurd rfl calm
  · exact fun _ _ => trivial

end Sturdiness

section Upstreams

variable (proxy : ProxyConfig) (host : Str) (port : UInt16)

theorem socks5_auth_sturdy (texts : Socks5Texts) (choice : UInt8) : Sturdy (socks5Auth texts proxy choice) := by
  rw [socks5Auth]
  split
  · split
    · apply spares_bind
      · exact send_sturdy _
      · intro _
        apply spares_bind
        · exact receive_exact_sturdy 2
        · intro verdict
          rw [checkVerdict]
          split
          · trivial
          · exact throw_sturdy _
    · exact throw_sturdy _
  · split
    · trivial
    · exact throw_sturdy _

theorem skip_address_sturdy (atyp : UInt8) : Sturdy (skipAddress atyp) := by
  rw [skipAddress]
  split
  · exact spares_bind _ _ (receive_exact_sturdy 6) fun _ => trivial
  split
  · exact spares_bind _ _ (receive_exact_sturdy 1) fun length => spares_bind _ _ (receive_exact_sturdy _) fun _ => trivial
  split
  · exact spares_bind _ _ (receive_exact_sturdy 18) fun _ => trivial
  · exact throw_sturdy _

theorem socks5_handshake_sturdy (texts : Socks5Texts) : Sturdy (socks5Handshake texts proxy host port) := by
  apply spares_bind _ _ (send_sturdy _)
  intro _
  apply spares_bind _ _ (receive_exact_sturdy 2)
  intro choice
  apply spares_bind _ _ (socks5_auth_sturdy proxy texts _)
  intro _
  apply spares_bind _ _ (send_sturdy _)
  intro _
  apply spares_bind _ _ (receive_within_sturdy 4 _)
  intro response
  rw [socks5Reply]
  split
  · exact skip_address_sturdy _
  · exact fail_sturdy _

theorem socks4_handshake_sturdy (refused : String) : Sturdy (socks4Handshake refused host port) := by
  apply spares_bind _ _ (send_sturdy _)
  intro _
  apply spares_bind _ _ (receive_exact_sturdy 8)
  intro response
  split
  · trivial
  · exact throw_sturdy _

theorem http_handshake_sturdy (refused : String) (request : Message) : Sturdy (httpHandshake refused request) := by
  apply spares_bind _ _ (send_sturdy _)
  intro _
  apply spares_bind _ _ (receive_sturdy 1024)
  intro response
  split
  · trivial
  · exact throw_sturdy _

theorem connect_through_sturdy : Sturdy (connectThroughProxy proxy host port) := by
  have http : Sturdy (httpConnect proxy host port) := spares_bind _ _ (http_handshake_sturdy _ _) fun _ => trivial
  rw [connectThroughProxy]
  cases proxy.proxyType with
  | socks5 => exact socks5_handshake_sturdy proxy host port _
  | socks4 => exact socks4_handshake_sturdy host port _
  | http => exact http
  | https => exact http

theorem parse_address_fails (address : Str) (failure : Failure)
    (failed : parseAddress address = .error failure) : failure ≠ .panic := by
  rw [parseAddress] at failed
  split at failed
  · exact reported_not_panic _ failure failed
  · split at failed
    · exact reported_not_panic _ failure failed
    · cases failed

theorem connect_hops_sturdy (chain : List ProxyConfig) : Sturdy (connectHops chain host port) := by
  induction chain with
  | nil => trivial
  | cons proxy rest ih =>
      cases rest with
      | nil => exact connect_through_sturdy proxy host port
      | cons next rest =>
          apply spares_bind _ _ (spares_ofExcept _ (parse_address_fails _))
          intro target
          apply spares_bind _ _ (connect_through_sturdy proxy _ _)
          exact fun _ => ih

theorem connect_chain_sturdy (chain : List ProxyConfig) : Sturdy (connectChain chain host port) := by
  cases chain with
  | nil => exact throw_sturdy _
  | cons first rest => exact spares_bind _ _ (connect_sturdy _) fun _ => connect_hops_sturdy host port (first :: rest)

end Upstreams

section Logins

variable (platform : Platform) (folding : CaseFolding platform) (config : RouterConfig) (request : Bytes) (peer : IpAddr)

theorem check_bandwidth_fails (limit : Option Int) (failure : Failure) (failed : checkBandwidth limit = .error failure) :
    failure ≠ .panic := by
  cases limit with
  | none => cases failed
  | some left =>
      rw [checkBandwidth] at failed
      split at failed
      · exact reported_not_panic _ failure failed
      · cases failed

theorem lookup_sturdy {A : Type} (reply : Except Fault (Option Account)) (result : Account → A)
    (calm : reply ≠ .error .panicked) :
    Sturdy ((admitted reply).bind fun account => (ofExcept (checkBandwidth account.bandwidthLimit)).bind fun _ =>
      .done (result account)) := by
  have bounded : ∀ account : Account,
      Sturdy ((ofExcept (checkBandwidth account.bandwidthLimit)).bind fun _ => .done (result account)) :=
    fun account => spares_bind _ _ (spares_ofExcept _ (check_bandwidth_fails _)) fun _ => trivial
  rcases reply with ⟨_ | _ | _⟩ | ⟨_ | account⟩
  · exact fail_sturdy _
  · exact fail_sturdy _
  · exact absurd rfl calm
  · exact fail_sturdy _
  · exact bounded account

theorem authenticate_sturdy (rawUsername password : Str) : Sturdy (authenticate rawUsername password) := by
  rw [authenticate]
  split
  · exact fail_sturdy _
  · exact fun reply calm => lookup_sturdy reply _ calm

theorem authenticate_by_ip_sturdy : Sturdy (authenticateByIp peer) := fun reply calm => lookup_sturdy reply _ calm

theorem stored_selection_sturdy (otherwise : Selection) : Sturdy (storedSelection peer otherwise) := by
  intro reply calm
  rcases reply with ⟨_ | _ | _⟩ | ⟨_ | account⟩
  · trivial
  · trivial
  · exact absurd rfl calm
  · trivial
  · dsimp only
    split <;> trivial

include folding

theorem authenticate_user_sturdy : Sturdy (authenticateUser platform config request peer) := by
  rw [authenticateUser]
  split
  · cases header : authHeader platform request with
    | none => exact spares_bind _ _ (authenticate_by_ip_sturdy peer) fun _ => trivial
    | some line =>
        obtain ⟨credentials, decoded⟩ := decode_header_safe platform folding request line header
        dsimp only
        rw [decoded, bind_eq, ofExcept_ok, done_bind]
        split
        · exact fail_sturdy _
        · exact spares_bind _ _ (authenticate_sturdy _ _) fun _ => trivial
  · trivial

theorem selection_for_sturdy (protocol : Protocol) : Sturdy (selectionFor platform protocol request peer) := by
  obtain ⟨username, known⟩ : ∃ username, requestUsername platform protocol request = .ok username := by
    cases protocol with
    | http => exact username_safe platform folding request
    | https => exact username_safe platform folding request
    | socks4 => exact ⟨_, rfl⟩
    | socks5 => exact ⟨_, rfl⟩
  rw [selectionFor, known, bind_eq, ofExcept_ok, done_bind]
  split
  · trivial
  · exact stored_selection_sturdy peer _

omit folding

theorem credentials_fail (read : Bytes) (failure : Failure)
    (failed : socks5Credentials read = .error failure) : failure ≠ .panic := by
  rw [socks5Credentials] at failed
  split at failed
  · exact reported_not_panic _ failure failed
  split at failed
  · exact reported_not_panic _ failure failed
  split at failed
  · exact reported_not_panic _ failure failed
  · cases failed

theorem socks5_authenticate_sturdy (methods : Bytes) : Sturdy (socks5Authenticate config methods) := by
  have refuse : ∀ reason, reason ≠ .panic → Sturdy (refuseMethods reason : Router (Selection × Option Int)) :=
    fun reason fine => spares_bind _ _ (client_write_sturdy _) fun _ => fine
  rw [socks5Authenticate]
  split
  · split
    · apply spares_bind _ _ (client_write_sturdy _)
      intro _
      apply spares_bind _ _ (client_read_sturdy 513)
      intro message
      apply spares_bind
      · exact spares_bind _ _ (spares_ofExcept _ (credentials_fail message)) fun _ => authenticate_sturdy _ _
      · exact fun _ => spares_bind _ _ (client_write_sturdy _) fun _ => trivial
    · exact refuse _ fun same => by cases same
  · split
    · exact spares_bind _ _ (client_write_sturdy _) fun _ => trivial
    · exact refuse _ fun same => by cases same

theorem socks5_target_sturdy : Sturdy socks5Target := by
  apply spares_bind _ _ (client_read_exact_sturdy 4)
  intro header
  split
  · exact throw_sturdy _
  · rw [socks5Address]
    split
    · exact spares_bind _ _ (client_read_exact_sturdy 6) fun _ => trivial
    split
    · exact spares_bind _ _ (client_read_exact_sturdy 1) fun length =>
        spares_bind _ _ (client_read_exact_sturdy _) fun _ => trivial
    split
    · exact spares_bind _ _ (client_read_exact_sturdy 18) fun _ => trivial
    · exact throw_sturdy _

theorem defaulted_sturdy (chosen : Selection) : Sturdy (defaulted peer chosen) := by
  rw [defaulted]
  split
  · exact stored_selection_sturdy peer chosen
  · trivial

end Logins

section Targets

variable (request : Bytes)

theorem split_host_port_fails (authority : Str) (defaultPort : UInt16) (failure : Failure)
    (failed : splitHostPort authority defaultPort = .error failure) : failure ≠ .panic := by
  rw [splitHostPort] at failed
  split at failed
  · cases failed
  · split at failed
    · exact reported_not_panic _ failure failed
    · cases failed

theorem connect_target_fails (failure : Failure) (failed : parseConnectTarget request = .error failure) : failure ≠ .panic := by
  rw [parseConnectTarget] at failed
  split at failed
  · exact reported_not_panic _ failure failed
  · split at failed
    · exact reported_not_panic _ failure failed
    · exact split_host_port_fails _ _ failure failed

theorem http_target_fails (failure : Failure) (failed : parseHttpTarget request = .error failure) : failure ≠ .panic := by
  rw [parseHttpTarget] at failed
  split at failed
  · exact reported_not_panic _ failure failed
  · split at failed
    · exact split_host_port_fails _ _ failure failed
    · split at failed
      · exact split_host_port_fails _ _ failure failed
      · exact reported_not_panic _ failure failed

theorem socks4_target_fails (failure : Failure) (failed : parseSocks4Target request = .error failure) : failure ≠ .panic := by
  rw [parseSocks4Target] at failed
  split at failed
  · exact reported_not_panic _ failure failed
  · dsimp only at failed
    split at failed
    · exact reported_not_panic _ failure failed
    · split at failed <;> cases failed

theorem greeting_fails (failure : Failure) (failed : greetingMethods request = .error failure) : failure ≠ .panic := by
  rw [greetingMethods] at failed
  split at failed
  · exact reported_not_panic _ failure failed
  split at failed
  · exact reported_not_panic _ failure failed
  split at failed
  · exact reported_not_panic _ failure failed
  · cases failed

theorem detect_fails (failure : Failure) (failed : detectProtocol request = .error failure) : failure ≠ .panic := by
  rw [detectProtocol] at failed
  split at failed
  · exact reported_not_panic _ failure failed
  split at failed
  · cases failed
  split at failed
  · cases failed
  split at failed
  · exact reported_not_panic _ failure failed
  split at failed
  · cases failed
  split at failed
  · cases failed
  · exact reported_not_panic _ failure failed

theorem index_panics {A : Type} (i : Nat) (rest : UInt8 → Except Failure A) (later : ∀ byte, rest byte = .error .panic) :
    (index request i >>= rest) = .error .panic := by
  rw [index]
  cases request[i]? with
  | none => rfl
  | some byte => exact later byte

theorem socks4_request_panics_iff (filled : request ≠ []) (version : byteAt request 0 = 0x04) :
    socks4Request request = .error .panic ↔ ¬ (8 ≤ request.length ∨ (2 ≤ request.length ∧ byteAt request 1 ≠ 0x01)) := by
  have first := index_within request 0 (filled_length request filled)
  rw [version] at first
  rw [socks4Request, first]
  by_cases two : 2 ≤ request.length
  · have second := index_within request 1 (by omega)
    rw [second]
    change (if byteAt request 1 ≠ 0x01 then _ else _) = _ ↔ _
    by_cases connects : byteAt request 1 = 0x01
    · rw [if_neg (not_not.mpr connects)]
      by_cases full : 8 ≤ request.length
      · simp (disch := omega) only [index_within, Bind.bind, Except.bind]
        constructor
        · intro panics
          split at panics
          · split at panics <;> cases panics
          · cases panics
        · exact fun short => absurd (Or.inl full) short
      · have missing := index_outside request 7 (by omega)
        constructor
        · exact fun _ long => long.elim full fun other => other.2 connects
        · intro _
          apply index_panics request 2
          intro high
          apply index_panics request 3
          intro low
          apply index_panics request 4
          intro a
          apply index_panics request 5
          intro b
          apply index_panics request 6
          intro c
          rw [missing]
          rfl
    · rw [if_pos connects]
      constructor
      · exact fun refused => by cases refused
      · exact fun short => absurd (Or.inr ⟨two, connects⟩) short
  · have missing := index_outside request 1 (by omega)
    rw [missing]
    constructor
    · exact fun _ long => long.elim (fun full => two (by omega)) fun other => two other.1
    · exact fun _ => rfl

end Targets

section Handlers

variable (platform : Platform) (folding : CaseFolding platform) (address : Str) (request : Bytes) (proxy : ProxyConfig)
  (relay : Router Unit) (sturdy : Sturdy relay)

theorem socks4_upstream_sturdy (host : Str) (port : UInt16) : Sturdy (socks4Upstream request proxy host port) := by
  have http : Sturdy ((httpHandshake "HTTP tunnel failed" (.connectHttp host port (credentials proxy))).bind fun _ =>
      clientWrite socks4Granted) := spares_bind _ _ (http_handshake_sturdy _ _) fun _ => client_write_sturdy _
  rw [socks4Upstream]
  cases proxy.proxyType with
  | http => exact http
  | https => exact http
  | socks4 =>
      apply spares_bind _ _ (send_sturdy _)
      intro _
      apply spares_bind _ _ (receive_exact_sturdy 8)
      intro response
      apply spares_bind _ _ (client_write_sturdy _)
      intro _
      split
      · trivial
      · exact throw_sturdy _
  | socks5 => exact spares_bind _ _ (socks5_handshake_sturdy proxy host port _) fun _ => client_write_sturdy _

theorem https_upstream_sturdy (target : Str) : Sturdy (httpsUpstream target proxy) := by
  have http : Sturdy ((httpHandshake "HTTPS tunnel failed" (.connectTarget target (credentials proxy))).bind fun response =>
      clientWrite response) := spares_bind _ _ (http_handshake_sturdy _ _) fun _ => client_write_sturdy _
  rw [httpsUpstream]
  cases proxy.proxyType with
  | http => exact http
  | https => exact http
  | socks4 => exact spares_bind _ _ (socks4_handshake_sturdy _ _ _) fun _ => client_write_sturdy _
  | socks5 => exact spares_bind _ _ (socks5_handshake_sturdy proxy _ _ _) fun _ => client_write_sturdy _

include sturdy

theorem socks4_handle_sturdy (read : socks4Request request ≠ .error .panic) :
    Sturdy (socks4Handle address request proxy relay) := by
  apply spares_bind
  · exact spares_ofExcept _ fun failure failed same => read (same ▸ failed)
  · intro target
    apply spares_bind _ _ (connect_sturdy _)
    intro _
    exact spares_bind _ _ (socks4_upstream_sturdy request proxy target.1 target.2) fun _ => sturdy

theorem https_handle_sturdy : Sturdy (httpsHandle address request proxy relay) := by
  rw [httpsHandle]
  split
  · exact throw_sturdy _
  · apply spares_bind _ _ (connect_sturdy _)
    intro _
    split
    · exact throw_sturdy _
    · exact spares_bind _ _ (https_upstream_sturdy proxy _) fun _ => sturdy

omit sturdy

include folding

theorem http_upstream_sturdy (firstLine : Str) : Sturdy (httpUpstream platform firstLine request proxy) := by
  have forwards : Sturdy (forwardHttp firstLine request) := by
    rw [forwardHttp]
    split
    · exact client_write_sturdy _
    · exact send_sturdy _
  have host : Sturdy (ofExcept (hostHeader platform request)) :=
    spares_ofExcept _ fun failure failed same => host_header_safe platform folding request (same ▸ failed)
  rw [httpUpstream]
  cases proxy.proxyType with
  | http => exact send_sturdy _
  | https => exact send_sturdy _
  | socks4 =>
      apply spares_bind _ _ host
      intro target
      exact spares_bind _ _ (socks4_handshake_sturdy _ _ _) fun _ => forwards
  | socks5 =>
      apply spares_bind _ _ host
      intro target
      exact spares_bind _ _ (socks5_handshake_sturdy proxy _ _ _) fun _ => forwards

include sturdy

theorem http_handle_sturdy : Sturdy (httpHandle platform address request proxy relay) := by
  rw [httpHandle]
  split
  · exact throw_sturdy _
  · apply spares_bind _ _ (connect_sturdy _)
    intro _
    exact spares_bind _ _ (http_upstream_sturdy platform folding request proxy _) fun _ => sturdy

end Handlers

section Resolution

variable (server : ProxyServer)

def Unresolved (start : Router Unit) (trace : History) : Prop :=
  ∃ before selection live draws next, trace = before ++ [loaded live draws] ∧
    Reaches start before ((resolve server selection).bind next) ∧ resolveProxyChain server live draws selection = .error .panic

def OnlyUnresolved (program : Router Unit) : Prop :=
  ∀ trace, (∀ event ∈ trace, Calm event) → Reaches program trace (.fail .panic) → Unresolved server program trace

theorem sturdy_never (program : Router Unit) (sturdy : Sturdy program) (trace : History) (calm : ∀ event ∈ trace, Calm event) :
    ¬ Reaches program trace (.fail .panic) :=
  fun reached => spares_reaches program (.fail .panic) trace sturdy calm reached rfl

theorem sturdy_only (program : Router Unit) (sturdy : Sturdy program) : OnlyUnresolved server program :=
  fun trace calm reached => absurd reached (sturdy_never program sturdy trace calm)

theorem bind_only {A : Type} (first : Router A) (next : A → Router Unit) (sturdy : Sturdy first)
    (tail : ∀ value, OnlyUnresolved server (next value)) : OnlyUnresolved server (first.bind next) := by
  intro trace calm reached
  obtain ⟨value, front, back, rfl, ran, behind⟩ :=
    spares_passes first next trace .panic sturdy calm (fun other => other rfl) reached
  have quiet : ∀ event ∈ back, Calm event := fun event member => calm event (List.mem_append_right _ member)
  obtain ⟨before, selection, live, draws, later, rfl, part, panics⟩ := tail value back quiet behind
  refine ⟨front ++ before, selection, live, draws, later, (List.append_assoc _ _ _).symm, ?_, panics⟩
  exact runs_bind_ok first next front before value _ ran part

theorem resolve_only (selection : Selection) (next : List ProxyConfig → Router Unit) (tail : ∀ chain, Sturdy (next chain)) :
    OnlyUnresolved server ((resolve server selection).bind next) := by
  intro trace calm reached
  cases reached with
  | step _ _ reply later _ behind =>
      obtain ⟨live, draws⟩ := reply
      rw [List.forall_mem_cons] at calm
      cases resolved : resolveProxyChain server live draws selection with
      | ok chain =>
          dsimp only at behind
          rw [resolved] at behind
          exact absurd behind (sturdy_never (next chain) (tail chain) later calm.2)
      | error failure =>
          dsimp only at behind
          rw [resolved] at behind
          obtain ⟨rfl, same⟩ := reaches_fail failure later _ behind
          cases same
          exact ⟨[], selection, live, draws, next, rfl, .here _, resolved⟩

variable (platform : Platform) (folding : CaseFolding platform) (request : Bytes) (peer : IpAddr)

theorem handle_socks5_only : OnlyUnresolved server (handleSocks5 server request peer) := by
  apply bind_only server _ _ (spares_ofExcept _ (greeting_fails request))
  intro methods
  apply bind_only server _ _ (socks5_authenticate_sturdy server.config methods)
  intro login
  apply bind_only server _ _ socks5_target_sturdy
  intro target
  apply bind_only server _ _ (defaulted_sturdy peer login.1)
  intro selection
  apply resolve_only
  intro chain
  apply spares_bind _ _ (connect_chain_sturdy target.1 target.2 chain)
  intro _
  exact spares_bind _ _ (client_write_sturdy _) fun _ => relayed_sturdy _ _

include folding

theorem chain_handler_sturdy (target : Except Failure (Str × UInt16))
    (fails : ∀ failure, target = .error failure → failure ≠ .panic)
    (chain : List ProxyConfig) (answer : Router Unit) (sturdy : Sturdy answer) :
    Sturdy ((authenticateUser platform server.config request peer).bind fun id => (ofExcept target).bind fun target =>
      (connectChain chain target.1 target.2).bind fun _ => answer.bind fun _ => relayed id (firstCost chain)) := by
  apply spares_bind _ _ (authenticate_user_sturdy platform folding server.config request peer)
  intro id
  apply spares_bind _ _ (spares_ofExcept _ fails)
  intro target
  apply spares_bind _ _ (connect_chain_sturdy target.1 target.2 chain)
  intro _
  exact spares_bind _ _ sturdy fun _ => relayed_sturdy _ _

theorem dispatch_only (protocol : Protocol) (chain : List ProxyConfig) (path : chain ≠ [])
    (read : protocol = .socks4 → chain.length = 1 → socks4Request request ≠ .error .panic) :
    OnlyUnresolved server (dispatch platform server peer protocol request chain) := by
  have login := authenticate_user_sturdy platform folding server.config request peer
  rcases chain with _ | ⟨proxy, _ | ⟨second, rest⟩⟩
  · exact absurd rfl path
  · cases protocol with
    | socks5 => exact handle_socks5_only server request peer
    | socks4 =>
        apply sturdy_only
        apply spares_bind _ _ login
        exact fun id => socks4_handle_sturdy _ request proxy _ (relayed_sturdy id _) (read rfl rfl)
    | https =>
        apply sturdy_only
        apply spares_bind _ _ login
        exact fun id => https_handle_sturdy _ request proxy _ (relayed_sturdy id _)
    | http =>
        apply sturdy_only
        apply spares_bind _ _ login
        exact fun id => http_handle_sturdy platform folding _ request proxy _ (relayed_sturdy id _)
  · have chained := fun target fails answer sturdy =>
      chain_handler_sturdy server platform folding request peer target fails (proxy :: second :: rest) answer sturdy
    cases protocol with
    | socks5 => exact handle_socks5_only server request peer
    | socks4 => exact sturdy_only _ _ (chained _ (socks4_target_fails request) _ (client_write_sturdy _))
    | https => exact sturdy_only _ _ (chained _ (connect_target_fails request) _ (client_write_sturdy _))
    | http => exact sturdy_only _ _ (chained _ (http_target_fails request) _ (send_sturdy _))

end Resolution

-- No index or slice of what the client has sent is out of bounds: not in a parser by
-- itself, and not in a run of the selection or of the handler that the path chooses.
structure ClientBytesSafe (platform : Platform) (server : ProxyServer) (peer : IpAddr)
    (request : Bytes) (chain : List ProxyConfig) :
    Prop where
  detect : detectProtocolWithin request ≠ .error .panic
  greeting : greetingMethodsWithin request ≠ .error .panic
  login : ∀ read : Bytes, read.length ≤ 513 → socks5CredentialsWithin read ≠ .error .panic
  ipv4 : ∀ address : Bytes, address.length = 6 → ipv4Within address ≠ .error .panic
  domain : ∀ (n : Nat) (name : Bytes), name.length = n + 2 → domainWithin n name ≠ .error .panic
  ipv6 : ∀ address : Bytes, address.length = 18 → ipv6Within address ≠ .error .panic
  userid : socks4UseridWithin request ≠ .error .panic
  target : parseSocks4TargetWithin request ≠ .error .panic
  single : detectProtocol request = .ok .socks4 → chain.length = 1 → socks4RequestWithin request ≠ .error .panic
  selects : ∀ protocol, detectProtocol request = .ok protocol → ∀ trace, (∀ event ∈ trace, Calm event) →
    ¬ Reaches (selectionFor platform protocol request peer) trace (.fail .panic)
  serves : ∀ protocol, detectProtocol request = .ok protocol →
    OnlyUnresolved server (dispatch platform server peer protocol request chain)

section Safety

variable (platform : Platform) (server : ProxyServer) (peer : IpAddr) (request : Bytes)

theorem detect_socks4 (filled : request ≠ []) : detectProtocol request = .ok .socks4 ↔ byteAt request 0 = 0x04 := by
  rw [detectProtocol, if_neg filled]
  constructor
  · intro detected
    split at detected
    · cases detected
    split at detected
    · assumption
    split at detected
    · cases detected
    split at detected
    · cases detected
    split at detected <;> cases detected
  · intro version
    rw [version]
    rfl

-- Only the handler of a single SOCKS4 hop trusts the length of what it is given.
theorem client_bytes_safe_iff (folding : CaseFolding platform) (filled : request ≠ [])
    (chain : List ProxyConfig) (path : chain ≠ []) :
    ClientBytesSafe platform server peer request chain ↔
      (byteAt request 0 = 0x04 → chain.length = 1 → 8 ≤ request.length ∨ (2 ≤ request.length ∧ byteAt request 1 ≠ 0x01)) := by
  constructor
  · intro safe version one
    have read := safe.single ((detect_socks4 request filled).mpr version) one
    rw [socks4_request_within] at read
    by_contra short
    exact read ((socks4_request_panics_iff request filled version).mpr short)
  · intro enough
    have read : detectProtocol request = .ok .socks4 → chain.length = 1 → socks4Request request ≠ .error .panic := by
      intro detected one panics
      have version := (detect_socks4 request filled).mp detected
      exact (socks4_request_panics_iff request filled version).mp panics (enough version one)
    constructor
    case detect =>
      rw [detect_protocol_within]
      exact fun same => detect_fails request _ same rfl
    case greeting =>
      rw [greeting_methods_within]
      exact fun same => greeting_fails request _ same rfl
    case login =>
      intro read _
      rw [socks5_credentials_within]
      exact fun same => credentials_fail read _ same rfl
    case ipv4 =>
      intro address size
      rw [ipv4_within address size]
      exact fun same => by cases same
    case domain =>
      intro n name size
      rw [domain_within n name size]
      exact fun same => by cases same
    case ipv6 =>
      intro address size
      rw [ipv6_within address size]
      exact fun same => by cases same
    case userid =>
      rw [socks4_userid_within]
      exact fun same => by cases same
    case target =>
      rw [parse_socks4_target_within]
      exact fun same => socks4_target_fails request _ same rfl
    case single =>
      rw [socks4_request_within]
      exact read
    case selects =>
      intro protocol _ trace calm reached
      have sturdy := selection_for_sturdy platform folding request peer protocol
      exact spares_reaches _ (.fail .panic) trace sturdy calm reached rfl
    case serves =>
      intro protocol detected
      apply dispatch_only server platform folding request peer protocol chain path
      intro four one
      exact read (four ▸ detected) one

end Safety

-- Case folding as `standard` has it, with the exception as Unicode has it.
def unicode : Platform where
  lower := fun c => if c.toNat = 0x212A then ['k'] else standard.lower c
  lowerAscii := by
    intro c ascii
    rw [if_neg (by omega)]
    exact standard.lowerAscii c ascii
  lowerOther := by
    intro c high other
    rw [if_neg other]
    exact standard.lowerOther c high other
  encode := standard.encode
  decode := standard.decode
  decodeEncode := standard.decodeEncode
  encodeAlphabet := standard.encodeAlphabet

theorem unicode_folds : CaseFolding unicode where
  kelvin := by decide
  space := by
    intro c member
    change ' ' ∈ (if c.toNat = 0x212A then ['k'] else if c.toNat < 0x80 then [c.toLower] else [c]) at member
    split at member
    · cases List.mem_singleton.mp member
    split at member
    · exact lower_space c (List.mem_singleton.mp member).symm
    · exact (List.mem_singleton.mp member).symm

theorem other_command_safe : ClientBytesSafe unicode unlockedServer (.v4 0) [0x04, 0x02] [anonymousHop] :=
  (client_bytes_safe_iff unicode unlockedServer (.v4 0) [0x04, 0x02] unicode_folds (List.cons_ne_nil _ _) [anonymousHop]
    (List.cons_ne_nil _ _)).mpr fun _ _ => .inr ⟨by decide, by decide⟩

theorem lone_version_panics :
    ¬ ∀ (platform : Platform) (server : ProxyServer) (peer : IpAddr) (request : Bytes) (chain : List ProxyConfig),
    1 ≤ request.length → request.length ≤ 8192 → chain ≠ [] → ClientBytesSafe platform server peer request chain := by
  intro safe
  have detected : detectProtocol [0x04] = .ok .socks4 := rfl
  have only := (safe standard unlockedServer (.v4 0) [0x04] [anonymousHop] (by decide) (by decide)
    (by decide)).serves .socks4 detected
  obtain ⟨before, _, _, _, _, spelled, _⟩ := only [] (List.forall_mem_nil _) (.here _)
  exact List.append_ne_nil_of_right_ne_nil before (List.cons_ne_nil _ []) spelled.symm

end Purroute
