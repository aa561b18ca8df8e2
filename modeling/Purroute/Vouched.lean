import Purroute.Gate

set_option autoImplicit false

namespace Purroute

open Interaction Interaction.Program

def NamedAccount (peer : IpAddr) (past : History) (account : Account) : Prop :=
  HasAllowance account ∧ ((∃ base secret, asked base secret (.ok (some account)) ∈ past) ∨
    askedByIp peer (.ok (some account)) ∈ past)

def NamedAs (peer : IpAddr) (past : History) (id : Option Int) : Prop :=
  ∃ account, id = some account.id ∧ NamedAccount peer past account

def Vouched (peer : IpAddr) (past : History) : Op → Prop
  | .relay id _ => NamedAs peer past id
  | _ => True

def Unrelayed : Op → Prop
  | .relay _ _ => False
  | _ => True

abbrev Vouches (peer : IpAddr) (A : Type) (ends : History → A → Prop) (past : History) (program : Router A) : Prop :=
  Meets (Vouched peer) ends (fun _ _ => True) past program

section Stages

variable (peer : IpAddr) (past : History)

theorem named_later (event : Event) (id : Option Int) (named : NamedAs peer past id) : NamedAs peer (past ++ [event]) id := by
  obtain ⟨account, same, allowance, source⟩ := named
  refine ⟨account, same, allowance, ?_⟩
  cases source with
  | inl login =>
      obtain ⟨base, secret, member⟩ := login
      exact .inl ⟨base, secret, List.mem_append_left _ member⟩
  | inr address => exact .inr (List.mem_append_left _ address)

theorem not_relay_vouched (op : Op) (other : Unrelayed op) : Vouched peer past op := by
  cases op with
  | relay id costPerByte => exact other.elim
  | _ => trivial

theorem before_login_vouched {A : Type} (program : Router A) (uses : Uses Unrelayed program) :
    Vouches peer A (fun _ _ => True) past program :=
  meets_mono _ _ _ _ program (fun _ _ may => may) (fun _ _ ends => ends) (fun _ _ ends => ends)
    (meets_of_uses (fun _ => True) (Vouched peer) past program uses trivial (fun past op _ other =>
      not_relay_vouched peer past op other)
      fun _ _ _ _ _ => trivial)

theorem after_login_vouched {A : Type} (id : Option Int) (program : Router A) (named : NamedAs peer past id)
    (uses : Uses (AfterLogin id) program) : Vouches peer A (fun later _ => NamedAs peer later id) past program := by
  have kept := meets_of_uses (fun later => NamedAs peer later id) (Vouched peer) past program uses named
    (by
      intro later op named may
      cases op with
      | relay other costPerByte =>
          have same : other = id := may
          exact same ▸ named
      | _ => trivial)
    (fun later op reply named _ => named_later peer later ⟨op, reply⟩ id named)
  exact meets_mono _ _ _ _ program (fun _ _ may => may) (fun _ _ ends => ends) (fun _ _ _ => trivial) kept

theorem authenticate_vouched (rawUsername password : Str) :
    Vouches peer (Selection × Int) (fun later result => NamedAs peer later (some result.2)) past
    (authenticate rawUsername password) := by
  rw [authenticate]
  cases parsed : parseUsername rawUsername with
  | error reason => trivial
  | ok pair =>
      refine ⟨trivial, fun reply => ?_⟩
      rcases lookup_cases reply fun account => (pair.2, account.id) with ⟨account, rfl, allowance, ends⟩ | ⟨_, failure, refused⟩
      · simp only [bind_eq, pure_eq, ends, meets_done]
        exact ⟨account, rfl, allowance, .inl ⟨pair.1, password, by simp [asked]⟩⟩
      · simp only [bind_eq, pure_eq, refused, meets_fail]

theorem authenticate_by_ip_vouched :
    Vouches peer Int (fun later id => NamedAs peer later (some id)) past (authenticateByIp peer) := by
  refine ⟨trivial, fun reply => ?_⟩
  rcases lookup_cases reply fun account => account.id with ⟨account, rfl, allowance, ends⟩ | ⟨_, failure, refused⟩
  · simp only [bind_eq, pure_eq, ends, meets_done]
    exact ⟨account, rfl, allowance, .inr (by simp [askedByIp])⟩
  · simp only [bind_eq, pure_eq, refused, meets_fail]

theorem socks5_login_vouched (message : Bytes) :
    Vouches peer (Selection × Int) (fun later result => NamedAs peer later (some result.2)) past (socks5Login message) := by
  rw [socks5Login]
  cases parsed : socks5Credentials message with
  | error failure => trivial
  | ok pair => exact authenticate_vouched peer past pair.1 pair.2

variable (platform : Platform) (config : RouterConfig) (auth : config.auth = some true)

include auth

theorem authenticate_user_vouched (request : Bytes) :
    Vouches peer (Option Int) (NamedAs peer) past (authenticateUser platform config request peer) := by
  rw [authenticateUser, if_pos auth]
  cases header : authHeader platform request with
  | none => exact meets_bind _ _ _ _ (authenticate_by_ip_vouched peer past) fun later id named => named
  | some line =>
      cases decoded : decodeHeader platform line with
      | error failure => simp [decoded]
      | ok credentials =>
          simp only [decoded, ofExcept_ok, bind_eq, done_bind]
          cases split : credentials.bind splitCredentials with
          | none => trivial
          | some pair => exact meets_bind _ _ _ _ (authenticate_vouched peer past pair.1 pair.2) fun later result named => named

theorem socks5_authenticate_vouched (methods : Bytes) :
    Vouches peer (Selection × Option Int) (fun later result => NamedAs peer later result.2) past
    (socks5Authenticate config methods) := by
  rw [socks5Authenticate, if_pos auth]
  by_cases offered : 0x02 ∈ methods
  · rw [if_pos offered]
    refine meets_bind _ _ _ _ (before_login_vouched peer past _ ⟨trivial, io_uses _⟩) ?_
    intro written _ _
    refine meets_bind _ _ _ _
      (before_login_vouched peer written _ ⟨trivial, fun reply => uses_bind _ _ (io_uses _ reply) fun _ => trivial⟩) ?_
    intro read message _
    refine meets_bind _ _ _ _ (socks5_login_vouched peer read message) ?_
    intro later result named
    have wrote := uses_mono _ _ (outward_after_login (some result.2)) (client_write_outward [0x01, 0x00])
    exact meets_bind _ _ _ _ (after_login_vouched peer later (some result.2) _ named wrote) fun final _ named => named
  · rw [if_neg offered]
    exact meets_bind _ _ _ _ (before_login_vouched peer past _ ⟨trivial, io_uses _⟩) fun _ _ _ => trivial

end Stages

section Handlers

variable (platform : Platform) (server : ProxyServer) (peer : IpAddr) (past : History) (request : Bytes)
  (auth : server.config.auth = some true)

include auth

theorem login_vouched (next : Option Int → Router Unit) (tail : ∀ id, Uses (AfterLogin id) (next id)) :
    Vouches peer Unit (fun _ _ => True) past ((authenticateUser platform server.config request peer).bind next) := by
  refine meets_bind _ _ _ _ (authenticate_user_vouched peer past platform server.config auth request) ?_
  intro later id named
  exact meets_mono _ _ _ _ _ (fun _ _ may => may) (fun _ _ _ => trivial) (fun _ _ _ => trivial)
    (after_login_vouched peer later id _ named (tail id))

theorem handle_socks5_vouched : Vouches peer Unit (fun _ _ => True) past (handleSocks5 server request peer) := by
  rw [handleSocks5]
  cases greeting : greetingMethods request with
  | error failure => trivial
  | ok methods =>
      rw [ofExcept_ok, bind_eq, done_bind]
      refine meets_bind _ _ _ _ (socks5_authenticate_vouched peer past server.config auth methods) ?_
      intro later result named
      have tail := socks5_tail_keeps _ (after_login_closed result.2) server peer result.1
        (fun chain => relayed result.2 (firstCost chain)) fun chain => relayed_after_login result.2 (firstCost chain)
      exact meets_mono _ _ _ _ _ (fun _ _ may => may) (fun _ _ _ => trivial) (fun _ _ _ => trivial)
        (after_login_vouched peer later result.2 _ named tail)

theorem dispatch_vouched (protocol : Protocol) (chain : List ProxyConfig) :
    Vouches peer Unit (fun _ _ => True) past (dispatch platform server peer protocol request chain) := by
  have byChain : ∀ (target : Except Failure (Str × UInt16)) (answer : Router Unit), Uses Outward answer →
      Vouches peer Unit (fun _ _ => True) past ((authenticateUser platform server.config request peer).bind fun id =>
        (ofExcept target).bind fun pair =>
          (connectChain chain pair.1 pair.2).bind fun _ => answer.bind fun _ => relayed id (firstCost chain)) :=
    fun target answer answers => login_vouched platform server peer past request auth _ fun id =>
      chain_tail_keeps _ (after_login_closed id) target chain answer answers _ (relayed_after_login id _)
  rcases chain with _ | ⟨first, _ | ⟨second, rest⟩⟩
  · trivial
  · by_cases socks5 : protocol = .socks5
    · rw [dispatch, if_pos socks5]
      exact handle_socks5_vouched server peer past request auth
    · rw [dispatch, if_neg socks5]
      exact login_vouched platform server peer past request auth _ fun id =>
        single_keeps _ (after_login_closed id) platform request first _ _ (relayed_after_login id first.costPerByte) protocol
  · cases protocol with
    | socks5 => exact handle_socks5_vouched server peer past request auth
    | socks4 => exact byChain (parseSocks4Target request) (clientWrite socks4Granted) (client_write_outward _)
    | https => exact byChain (parseConnectTarget request) (clientWrite tunnelGranted) (client_write_outward _)
    | http => exact byChain (parseHttpTarget request) (send (.raw (toOriginForm request))) (send_uses _ _ trivial)

theorem serve_vouched : Vouches peer Unit (fun _ _ => True) past (serve platform server peer request) := by
  rw [serve]
  cases detected : detectProtocol request with
  | error failure => trivial
  | ok protocol =>
      rw [ofExcept_ok, bind_eq, done_bind]
      refine meets_bind _ _ _ _
        (before_login_vouched peer past _ (selection_for_uses _ platform protocol request peer trivial)) ?_
      intro routed selection _
      refine meets_bind _ _ _ _ (before_login_vouched peer routed _ (resolve_uses _ server selection trivial)) ?_
      intro later chain _
      exact dispatch_vouched platform server peer later request auth protocol chain

omit request

theorem handle_connection_vouched : Vouches peer Unit (fun _ _ => True) past (handleConnection platform server peer) := by
  refine ⟨trivial, fun reply => ?_⟩
  refine meets_bind _ _ _ _ (before_login_vouched peer _ _ (within_uses _ _ reply)) ?_
  intro read bytes _
  exact serve_vouched platform server peer read bytes.val auth

theorem task_vouched (trace : History) (op : Op) (next : op.Reply → Router Unit)
    (reached : Reaches (connectionTask platform server peer) trace (.ask op next)) : Vouched peer trace op := by
  have handled := handle_connection_vouched platform server peer [] auth
  have task : Vouches peer Unit (fun _ _ => True) [] (connectionTask platform server peer) := by
    refine meets_bind _ _ _ _ (meets_attempt _ (fun _ _ => True) _ handled) ?_
    intro later outcome _
    cases outcome with
    | ok value => trivial
    | error failure => exact ⟨trivial, fun _ => ⟨trivial, fun _ => trivial⟩⟩
  exact (meets_reaches _ _ _ trace task reached).1

end Handlers

end Purroute
