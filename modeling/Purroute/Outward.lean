import Purroute.Handlers

set_option autoImplicit false

namespace Purroute

open Interaction Interaction.Program

def Outward : Op → Prop
  | .read _ => False
  | .authenticate _ _ => False
  | .relay _ _ => False
  | .record _ => False
  | .decrement => False
  | _ => True

def Exchange : Op → Prop
  | .reply _ => True
  | .send _ => True
  | .receive _ => True
  | .receiveExact _ => True
  | _ => False

theorem exchange_outward (op : Op) (exchange : Exchange op) : Outward op := by
  cases op <;> trivial

theorem connect_through_exchange (proxy : ProxyConfig) (host : Str) (port : UInt16) :
    Uses Exchange (connectThroughProxy proxy host port) := by
  apply uses_mono _ _ _ (connect_through_proxy_uses proxy host port)
  intro op own
  cases op <;> trivial

theorem connect_hops_exchange (chain : List ProxyConfig) (host : Str) (port : UInt16) :
    Uses Exchange (connectHops chain host port) := by
  induction chain with
  | nil => trivial
  | cons proxy rest ih =>
      cases rest with
      | nil => exact connect_through_exchange proxy host port
      | cons next rest =>
          refine uses_bind _ _ (uses_ofExcept _) fun target => ?_
          exact uses_bind _ _ (connect_through_exchange proxy _ _) fun _ => ih

theorem connect_chain_outward (chain : List ProxyConfig) (host : Str) (port : UInt16) :
    Uses Outward (connectChain chain host port) := by
  cases chain with
  | nil => trivial
  | cons first rest =>
      refine uses_bind _ _ ⟨trivial, io_uses _⟩ fun _ => ?_
      exact uses_mono _ _ exchange_outward (connect_hops_exchange _ host port)

theorem client_write_exchange (bytes : Bytes) : Uses Exchange (clientWrite bytes) := ⟨trivial, io_uses _⟩

theorem client_write_outward (bytes : Bytes) : Uses Outward (clientWrite bytes) := ⟨trivial, io_uses _⟩

theorem client_read_exact_uses (allowed : Op → Prop) (count : Nat) (reads : allowed (.readExact count)) :
    Uses allowed (clientReadExact count) :=
  ⟨reads, fun reply => uses_bind _ _ (io_uses _ reply) fun _ => trivial⟩

theorem socks5_target_uses (allowed : Op → Prop) (reads : ∀ count, allowed (.readExact count)) : Uses allowed socks5Target := by
  have exact : ∀ count, Uses allowed (clientReadExact count) := fun count => client_read_exact_uses allowed count (reads count)
  refine uses_bind _ _ (exact 4) fun header => ?_
  split
  · trivial
  rw [socks5Address]
  split
  · exact uses_bind _ _ (exact 6) fun _ => trivial
  split
  · exact uses_bind _ _ (exact 1) fun _ => uses_bind _ _ (exact _) fun _ => trivial
  split
  · exact uses_bind _ _ (exact 18) fun _ => trivial
  · trivial

theorem defaulted_uses (allowed : Op → Prop) (peer : IpAddr) (chosen : Selection) (asks : allowed (.authenticateByIp peer)) :
    Uses allowed (defaulted peer chosen) := by
  rw [defaulted]
  split
  · exact stored_selection_uses _ peer chosen asks
  · trivial

theorem resolve_uses (allowed : Op → Prop) (server : ProxyServer) (selection : Selection) (loads : allowed .load) :
    Uses allowed (resolve server selection) :=
  ⟨loads, fun _ => uses_ofExcept _⟩

theorem authenticate_user_uses (allowed : Op → Prop) (platform : Platform) (config : RouterConfig)
    (request : Bytes) (peer : IpAddr)
    (asks : ∀ username secret, allowed (.authenticate username secret)) (byIp : allowed (.authenticateByIp peer)) :
    Uses allowed (authenticateUser platform config request peer) := by
  rw [authenticateUser]
  split
  · split
    · refine uses_bind _ _ ⟨byIp, fun reply => ?_⟩ fun _ => trivial
      refine uses_bind _ _ (admitted_uses allowed reply) fun account => ?_
      exact uses_bind _ _ (uses_ofExcept _) fun _ => trivial
    · refine uses_bind _ _ (uses_ofExcept _) fun credentials => ?_
      split
      · trivial
      · exact uses_bind _ _ (authenticate_uses allowed _ _ fun _ _ _ => asks _ _) fun _ => trivial
  · trivial

theorem handshake_exchange (texts : Socks5Texts) (proxy : ProxyConfig) (host : Str) (port : UInt16) :
    Uses Exchange (socks5Handshake texts proxy host port) :=
  socks5_handshake_uses proxy host port _ texts trivial trivial (fun _ _ _ => trivial) fun _ => trivial

theorem socks4_upstream_exchange (request : Bytes) (proxy : ProxyConfig) (host : Str) (port : UInt16) :
    Uses Exchange (socks4Upstream request proxy host port) := by
  have http : Uses Exchange (do
      let _ ← httpHandshake "HTTP tunnel failed" (.connectHttp host port (credentials proxy))
      clientWrite socks4Granted) :=
    uses_bind _ _ (http_handshake_uses _ _ _ trivial trivial) fun _ => client_write_exchange _
  rw [socks4Upstream]
  cases proxy.proxyType with
  | http => exact http
  | https => exact http
  | socks4 =>
      refine uses_bind _ _ (send_uses _ _ trivial) fun _ => ?_
      refine uses_bind _ _ (receive_exact_uses _ _ trivial) fun response => ?_
      refine uses_bind _ _ (client_write_exchange _) fun _ => ?_
      split <;> trivial
  | socks5 => exact uses_bind _ _ (handshake_exchange _ _ _ _) fun _ => client_write_exchange _

theorem http_upstream_exchange (platform : Platform) (firstLine : Str) (request : Bytes) (proxy : ProxyConfig) :
    Uses Exchange (httpUpstream platform firstLine request proxy) := by
  have forward : Uses Exchange (forwardHttp firstLine request) := by
    rw [forwardHttp]
    split
    · exact client_write_exchange _
    · exact send_uses _ _ trivial
  rw [httpUpstream]
  cases proxy.proxyType with
  | http => exact send_uses _ _ trivial
  | https => exact send_uses _ _ trivial
  | socks4 =>
      refine uses_bind _ _ (uses_ofExcept _) fun target => ?_
      exact uses_bind _ _ (socks4_handshake_uses _ _ _ _ trivial fun _ => trivial) fun _ => forward
  | socks5 =>
      refine uses_bind _ _ (uses_ofExcept _) fun target => ?_
      exact uses_bind _ _ (handshake_exchange _ _ _ _) fun _ => forward

theorem https_upstream_exchange (target : Str) (proxy : ProxyConfig) : Uses Exchange (httpsUpstream target proxy) := by
  rw [httpsUpstream]
  cases proxy.proxyType with
  | http => exact uses_bind _ _ (http_handshake_uses _ _ _ trivial trivial) fun _ => client_write_exchange _
  | https => exact uses_bind _ _ (http_handshake_uses _ _ _ trivial trivial) fun _ => client_write_exchange _
  | socks4 => exact uses_bind _ _ (socks4_handshake_uses _ _ _ _ trivial fun _ => trivial) fun _ => client_write_exchange _
  | socks5 => exact uses_bind _ _ (handshake_exchange _ _ _ _) fun _ => client_write_exchange _

theorem relayed_uses (allowed : Op → Prop) (id : Option Int) (costPerByte : Rat) (records : allowed (.record true))
    (relays : allowed (.relay id costPerByte)) (releases : allowed .decrement) : Uses allowed (relayed id costPerByte) := by
  refine ⟨records, fun _ => ⟨relays, fun result => ?_⟩⟩
  rcases result with ⟨reason | _⟩ | _
  · exact ⟨releases, fun _ => trivial⟩
  · trivial
  · exact ⟨releases, fun _ => trivial⟩

structure OutwardClosed (keeps : Router Unit → Prop) : Prop where
  fail : ∀ failure, keeps (.fail failure)
  bind : ∀ {A : Type} (first : Router A) (next : A → Router Unit), Uses Outward first → (∀ value, keeps (next value)) →
    keeps (first.bind next)

theorem uses_outward_closed (allowed : Op → Prop) (wider : ∀ op, Outward op → allowed op) : OutwardClosed (Uses allowed) where
  fail := fun _ => trivial
  bind := fun first next outward tail => uses_bind first next (uses_mono _ _ wider outward) tail

section Handlers

variable (keeps : Router Unit → Prop) (closed : OutwardClosed keeps) (platform : Platform) (request : Bytes) (proxy : ProxyConfig)
  (address : Str) (next : Router Unit) (more : keeps next)

include closed more

theorem socks4_handle_keeps : keeps (socks4Handle address request proxy next) := by
  refine closed.bind _ _ (uses_ofExcept _) fun target => ?_
  refine closed.bind _ _ ⟨trivial, io_uses _⟩ fun _ => ?_
  exact closed.bind _ _ (uses_mono _ _ exchange_outward (socks4_upstream_exchange _ _ _ _)) fun _ => more

theorem http_handle_keeps : keeps (httpHandle platform address request proxy next) := by
  rw [httpHandle]
  split
  · exact closed.fail _
  refine closed.bind _ _ ⟨trivial, io_uses _⟩ fun _ => ?_
  exact closed.bind _ _ (uses_mono _ _ exchange_outward (http_upstream_exchange _ _ _ _)) fun _ => more

theorem https_handle_keeps : keeps (httpsHandle address request proxy next) := by
  rw [httpsHandle]
  split
  · exact closed.fail _
  refine closed.bind _ _ ⟨trivial, io_uses _⟩ fun _ => ?_
  split
  · exact closed.fail _
  exact closed.bind _ _ (uses_mono _ _ exchange_outward (https_upstream_exchange _ _)) fun _ => more

theorem single_keeps (protocol : Protocol) : keeps (match protocol with
    | .http => httpHandle platform address request proxy next
    | .https => httpsHandle address request proxy next
    | _ => socks4Handle address request proxy next) := by
  cases protocol with
  | http => exact http_handle_keeps keeps closed platform request proxy address next more
  | https => exact https_handle_keeps keeps closed request proxy address next more
  | socks4 => exact socks4_handle_keeps keeps closed request proxy address next more
  | socks5 => exact socks4_handle_keeps keeps closed request proxy address next more

omit more

theorem chain_tail_keeps (target : Except Failure (Str × UInt16)) (chain : List ProxyConfig) (answer : Router Unit)
    (answers : Uses Outward answer) (relay : Router Unit) (relays : keeps relay) : keeps ((ofExcept target).bind fun pair =>
      (connectChain chain pair.1 pair.2).bind fun _ => answer.bind fun _ => relay) := by
  refine closed.bind _ _ (uses_ofExcept _) fun pair => ?_
  refine closed.bind _ _ (connect_chain_outward chain _ _) fun _ => ?_
  exact closed.bind _ _ answers fun _ => relays

theorem dispatch_keeps (account : Option Int → Prop) (server : ProxyServer) (peer : IpAddr) (protocol : Protocol)
    (chain : List ProxyConfig) (login : ∀ next : Option Int → Router Unit, (∀ id, account id → keeps (next id)) →
      keeps ((authenticateUser platform server.config request peer).bind next))
    (relays : ∀ id costPerByte, account id → keeps (relayed id costPerByte))
    (socks5 : protocol = .socks5 → keeps (handleSocks5 server request peer)) :
    keeps (dispatch platform server peer protocol request chain) := by
  have byChain : ∀ (target : Except Failure (Str × UInt16)) (answer : Router Unit), Uses Outward answer →
      keeps ((authenticateUser platform server.config request peer).bind fun id => (ofExcept target).bind fun pair =>
        (connectChain chain pair.1 pair.2).bind fun _ => answer.bind fun _ => relayed id (firstCost chain)) := by
    intro target answer answers
    apply login
    intro id known
    exact chain_tail_keeps keeps closed target chain answer answers _ (relays id _ known)
  cases chain with
  | nil => exact closed.fail _
  | cons first rest =>
      cases rest with
      | nil =>
          rw [dispatch]
          by_cases own : protocol = .socks5
          · rw [if_pos own]
            exact socks5 own
          · rw [if_neg own]
            apply login
            intro id known
            exact single_keeps keeps closed platform request first _ _ (relays id _ known) protocol
      | cons second rest =>
          cases protocol with
          | socks5 => exact socks5 rfl
          | socks4 => exact byChain (parseSocks4Target request) (clientWrite socks4Granted) (client_write_outward _)
          | https => exact byChain (parseConnectTarget request) (clientWrite tunnelGranted) (client_write_outward _)
          | http => exact byChain (parseHttpTarget request) (send (.raw (toOriginForm request))) (send_uses _ _ trivial)

theorem socks5_tail_keeps (server : ProxyServer) (peer : IpAddr) (chosen : Selection) (relay : List ProxyConfig → Router Unit)
    (relays : ∀ chain, keeps (relay chain)) : keeps (socks5Target.bind fun target => (defaulted peer chosen).bind fun selection =>
      (resolve server selection).bind fun chain => (connectChain chain target.1 target.2).bind fun _ =>
        (clientWrite socks5Granted).bind fun _ => relay chain) := by
  refine closed.bind _ _ (socks5_target_uses Outward fun _ => trivial) fun target => ?_
  refine closed.bind _ _ (defaulted_uses Outward peer chosen trivial) fun selection => ?_
  refine closed.bind _ _ (resolve_uses _ server selection trivial) fun chain => ?_
  refine closed.bind _ _ (connect_chain_outward chain _ _) fun _ => ?_
  exact closed.bind _ _ (client_write_outward _) fun _ => relays chain

end Handlers

theorem dispatch_socks5 (platform : Platform) (server : ProxyServer) (peer : IpAddr) (request : Bytes)
    (chain : List ProxyConfig) :
    (chain = [] ∧ dispatch platform server peer .socks5 request chain = .fail .panic) ∨
      dispatch platform server peer .socks5 request chain = handleSocks5 server request peer := by
  cases chain with
  | nil => exact Or.inl ⟨rfl, rfl⟩
  | cons first rest =>
      cases rest with
      | nil =>
          right
          rw [dispatch, if_pos rfl]
      | cons second rest => exact Or.inr rfl

def Preparing : Op → Prop
  | .relay _ _ => False
  | .record _ => False
  | .decrement => False
  | _ => True

theorem outward_preparing (op : Op) (outward : Outward op) : Preparing op := by
  cases op with
  | relay id costPerByte => exact outward
  | record success => exact outward
  | decrement => exact outward
  | _ => trivial

structure PreparingClosed (keeps : Router Unit → Prop) : Prop where
  fail : ∀ failure, keeps (.fail failure)
  bind : ∀ {A : Type} (first : Router A) (next : A → Router Unit), Uses Preparing first → (∀ value, keeps (next value)) →
    keeps (first.bind next)

theorem uses_preparing_closed (allowed : Op → Prop) (wider : ∀ op, Preparing op → allowed op) :
    PreparingClosed (Uses allowed) where
  fail := fun _ => trivial
  bind := fun first next preparing tail => uses_bind first next (uses_mono _ _ wider preparing) tail

theorem preparing_outward_closed (keeps : Router Unit → Prop) (closed : PreparingClosed keeps) : OutwardClosed keeps where
  fail := closed.fail
  bind := fun first next outward tail => closed.bind first next (uses_mono _ _ outward_preparing outward) tail

theorem socks5_authenticate_uses (allowed : Op → Prop) (config : RouterConfig) (methods : Bytes)
    (writes : ∀ bytes, allowed (.reply bytes))
    (reads : allowed (.read 513)) (asks : ∀ username secret, allowed (.authenticate username secret)) :
    Uses allowed (socks5Authenticate config methods) := by
  have write : ∀ bytes, Uses allowed (clientWrite bytes) := fun bytes => ⟨writes bytes, io_uses _⟩
  have refuse : ∀ reason, Uses allowed (refuseMethods reason : Router (Selection × Option Int)) := fun reason =>
    uses_bind _ _ (write _) fun _ => trivial
  rw [socks5Authenticate]
  by_cases auth : config.auth = some true
  · rw [if_pos auth]
    by_cases offered : 0x02 ∈ methods
    · rw [if_pos offered]
      refine uses_bind _ _ (write _) fun _ => ?_
      refine uses_bind _ _ ⟨reads, fun reply => uses_bind _ _ (io_uses _ reply) fun _ => trivial⟩ fun message => ?_
      refine uses_bind _ _ ?_ fun _ => uses_bind _ _ (write _) fun _ => trivial
      refine uses_bind _ _ (uses_ofExcept _) fun _ => ?_
      exact authenticate_uses allowed _ _ fun _ _ _ => asks _ _
    · rw [if_neg offered]
      exact refuse _
  · rw [if_neg auth]
    by_cases offered : 0x00 ∈ methods
    · rw [if_pos offered]
      exact uses_bind _ _ (write _) fun _ => trivial
    · rw [if_neg offered]
      exact refuse _

theorem handle_connection_keeps (keeps : Router Unit → Prop) (closed : PreparingClosed keeps) (account : Option Int → Prop)
    (platform : Platform) (server : ProxyServer) (peer : IpAddr)
    (login : ∀ (request : Bytes) (next : Option Int → Router Unit), (∀ id, account id → keeps (next id)) →
      keeps ((authenticateUser platform server.config request peer).bind next))
    (socks5Login : ∀ (methods : Bytes) (next : Selection × Option Int → Router Unit),
      (∀ login, account login.2 → keeps (next login)) →
      keeps ((socks5Authenticate server.config methods).bind next))
    (relays : ∀ id costPerByte, account id → keeps (relayed id costPerByte)) : keeps (handleConnection platform server peer) := by
  have outward := preparing_outward_closed keeps closed
  have socks5 : ∀ request, keeps (handleSocks5 server request peer) := by
    intro request
    refine closed.bind _ _ (uses_ofExcept _) fun methods => ?_
    apply socks5Login
    intro login known
    exact socks5_tail_keeps keeps outward server peer login.1 (fun chain => relayed login.2 (firstCost chain)) fun _ =>
      relays _ _ known
  have served : ∀ request, keeps (serve platform server peer request) := by
    intro request
    refine closed.bind _ _ (uses_ofExcept _) fun protocol => ?_
    refine closed.bind _ _ (selection_for_uses Preparing platform protocol request peer trivial) fun selection => ?_
    refine closed.bind _ _ (resolve_uses Preparing server selection trivial) fun chain => ?_
    exact dispatch_keeps keeps outward platform request account server peer protocol chain
      (login request) relays fun _ => socks5 request
  have read : Uses Preparing (.ask (.read 8192) fun reply => (ioWithin .timeout reply).bind .done : Router _) :=
    ⟨trivial, fun reply => uses_bind _ _ (within_uses _ _ reply) fun _ => trivial⟩
  have whole : handleConnection platform server peer =
      (.ask (.read 8192) fun reply => (ioWithin .timeout reply).bind .done : Router _).bind fun bytes =>
        serve platform server peer bytes.val := by
    simp only [handleConnection, ask_bind, bind_done]
  rw [whole]
  exact closed.bind _ _ read fun bytes => served bytes.val

theorem handle_connection_relays (keeps : Router Unit → Prop) (closed : PreparingClosed keeps) (platform : Platform)
    (server : ProxyServer) (peer : IpAddr) (relays : ∀ id costPerByte, keeps (relayed id costPerByte)) :
    keeps (handleConnection platform server peer) := by
  apply handle_connection_keeps keeps closed fun _ => True
  · intro request next tail
    apply closed.bind
    · exact authenticate_user_uses Preparing platform server.config request peer (fun _ _ => trivial) trivial
    · exact fun id => tail id trivial
  · intro methods next tail
    apply closed.bind
    · exact socks5_authenticate_uses Preparing server.config methods (fun _ => trivial) trivial fun _ _ => trivial
    · exact fun login => tail login trivial
  · exact fun id costPerByte _ => relays id costPerByte

theorem connection_reaches (platform : Platform) (server : ProxyServer) (peer : IpAddr) (trace : History) (rest : Router Unit)
    (reached : Reaches (handleConnection platform server peer) trace rest) :
    (trace = [] ∧ rest = handleConnection platform server peer) ∨
      (∃ fault failure, trace = [⟨.read 8192, .error fault⟩] ∧ rest = .fail failure) ∨
      ∃ bytes later, trace = ⟨.read 8192, .ok bytes⟩ :: later ∧ Reaches (serve platform server peer bytes.val) later rest := by
  rcases reaches_ask _ _ _ _ reached with ⟨rfl, same⟩ | ⟨reply, later, rfl, behind⟩
  · exact Or.inl ⟨rfl, same⟩
  · cases reply with
    | ok bytes => exact Or.inr (Or.inr ⟨bytes, later, rfl, behind⟩)
    | error fault =>
        obtain ⟨failure, failed⟩ : ∃ failure, Reaches (.fail failure) later rest := by
          cases fault with
          | failed => exact ⟨_, behind⟩
          | elapsed => exact ⟨_, behind⟩
          | panicked => exact ⟨_, behind⟩
        obtain ⟨rfl, same⟩ := reaches_fail failure later rest failed
        exact Or.inr (Or.inl ⟨fault, failure, rfl, same⟩)

end Purroute
