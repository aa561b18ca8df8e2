import Purroute.Carriers
import Purroute.Outward

set_option autoImplicit false

namespace Purroute

open Interaction Interaction.Program

def reads (past : History) : List Bytes :=
  past.filterMap fun event =>
    match event with
    | ⟨.read _, .ok bytes⟩ => some bytes.val
    | _ => none

structure SubNegotiation (message : Bytes) (username password : Str) : Prop where
  fields : ∃ name secret rest, message = 0x01 :: lengthByte name :: name ++ lengthByte secret :: secret ++ rest ∧
    name.length ≤ 255 ∧ secret.length ≤ 255 ∧ username = fromUtf8Lossy name ∧ password = fromUtf8Lossy secret

-- The user name ends at the first colon, the password is all that follows it.
structure BasicCredential (platform : Platform) (request : Bytes) (username password : Str) : Prop where
  fields : ∃ line, authHeader platform request = some line ∧
    decodeHeader platform line = .ok (some (username ++ ':' :: password)) ∧ ':' ∉ username

def Presented (platform : Platform) (past : History) (base secret : Str) : Prop :=
  ∃ request rest username selection, reads past = request :: rest ∧ parseUsername username = .ok (base, selection) ∧
    ((byteAt request 0 = 0x05 ∧ ∃ message later, rest = message :: later ∧ SubNegotiation message username secret) ∨
      (byteAt request 0 ≠ 0x05 ∧ BasicCredential platform request username secret))

def AdmittedByIp (platform : Platform) (past : History) : Prop :=
  ∃ request rest, reads past = request :: rest ∧ byteAt request 0 ≠ 0x05 ∧ authHeader platform request = none

def asked (base secret : Str) (reply : Except Fault (Option Account)) : Event := ⟨.authenticate base secret, reply⟩
def askedByIp (peer : IpAddr) (reply : Except Fault (Option Account)) : Event := ⟨.authenticateByIp peer, reply⟩

structure Admitted (platform : Platform) (peer : IpAddr) (past : History) (account : Account) : Prop where
  accepted : (∃ base secret, asked base secret (.ok (some account)) ∈ past ∧ Presented platform past base secret) ∨
    (askedByIp peer (.ok (some account)) ∈ past ∧ AdmittedByIp platform past)
  allowance : ∀ left, account.bandwidthLimit = some left → 0 < left
  unrefused : ∀ base secret reply, asked base secret reply ∈ past → ∃ other, reply = .ok (some other)

def Guarded (platform : Platform) (peer : IpAddr) (past : History) : Op → Prop
  | .dial _ => ∃ account, Admitted platform peer past account
  | .relay id _ => ∃ account, id = some account.id ∧ Admitted platform peer past account
  | _ => True

-- A Basic line whose user name parses has no colon in its password.
def ColonFree (platform : Platform) (request : Bytes) : Prop :=
  ∀ username password base selection, parseUsername username = .ok (base, selection) →
    BasicCredential platform request username password → ':' ∉ password

def PasswordsWhole (platform : Platform) (past : History) : Prop :=
  ∀ request rest, reads past = request :: rest → byteAt request 0 ≠ 0x05 → ColonFree platform request

def Opens : Op → Prop
  | .dial _ => True
  | .relay _ _ => True
  | _ => False

def BeforeLogin : Op → Prop
  | .read _ => False
  | .authenticate _ _ => False
  | .dial _ => False
  | .relay _ _ => False
  | _ => True

def AfterLogin (id : Option Int) : Op → Prop
  | .read _ => False
  | .authenticate _ _ => False
  | .relay other _ => other = id
  | _ => True

section Frames

variable (id : Option Int)

theorem outward_after_login (op : Op) (outward : Outward op) : AfterLogin id op := by
  cases op with
  | read limit => exact outward
  | authenticate username secret => exact outward
  | relay other costPerByte => exact outward.elim
  | _ => trivial

theorem after_login_closed : OutwardClosed (Uses (AfterLogin id)) := uses_outward_closed _ (outward_after_login id)

theorem relayed_after_login (costPerByte : Rat) : Uses (AfterLogin id) (relayed id costPerByte) :=
  relayed_uses (AfterLogin id) id costPerByte trivial rfl trivial

end Frames

theorem split_credentials_some (credentials username password : Str)
    (split : splitCredentials credentials = some (username, password)) :
    ∃ full, credentials = username ++ ':' :: full ∧ ':' ∉ username ∧ password = full.takeWhile (· ≠ ':') := by
  by_cases present : ':' ∈ credentials
  · obtain ⟨before, after, rfl, absent⟩ := List.eq_append_cons_of_mem present
    rw [split_credentials_carried before after absent] at split
    cases split
    exact ⟨after, rfl, absent, rfl⟩
  · simp [splitCredentials, List.splitOn_eq_singleton present] at split

theorem list_at_byte (bytes : Bytes) (i : Nat) (inside : i < bytes.length) :
    bytes.drop i = byteAt bytes i :: bytes.drop (i + 1) := by
  rw [List.drop_eq_getElem_cons inside]
  simp [byteAt, inside]

theorem slice_drop (bytes : Bytes) (start count : Nat) :
    bytes.drop start = slice bytes start (start + count) ++ bytes.drop (start + count) := by
  have rest : bytes.drop (start + count) = (bytes.drop start).drop count := by rw [List.drop_drop]
  rw [slice, List.drop_take, Nat.add_sub_cancel_left, rest, List.take_append_drop]

theorem length_byte_of_nat (byte : UInt8) (bytes : Bytes) (same : bytes.length = byte.toNat) : lengthByte bytes = byte := by
  rw [lengthByte, same, UInt8.ofNat_toNat]

-- The version, the length of the user name, the user name, the length of the
-- password, the password. More bytes may follow.
structure LoginMessage (message : Bytes) (username password : Str) : Prop where
  version : byteAt message 0 = 0x01
  whole : 3 + (byteAt message 1).toNat + (byteAt message (2 + (byteAt message 1).toNat)).toNat ≤ message.length
  username : username = fromUtf8Lossy (slice message 2 (2 + (byteAt message 1).toNat))
  password : password = fromUtf8Lossy (slice message (3 + (byteAt message 1).toNat)
    (3 + (byteAt message 1).toNat + (byteAt message (2 + (byteAt message 1).toNat)).toNat))

theorem socks5_credentials_iff (message : Bytes) (username password : Str) :
    socks5Credentials message = .ok (username, password) ↔ LoginMessage message username password := by
  have next : 2 + (byteAt message 1).toNat + 1 = 3 + (byteAt message 1).toNat := by omega
  rw [socks5Credentials]
  rw [next]
  constructor
  · intro parsed
    split at parsed
    · cases parsed
    split at parsed
    · cases parsed
    split at parsed
    · cases parsed
    · rename_i start _ whole
      rw [not_or, not_not] at start
      cases parsed
      exact ⟨start.2, by omega, rfl, rfl⟩
  · intro login
    have whole := login.whole
    have start : ¬ (message.length < 3 ∨ byteAt message 0 ≠ 0x01) := not_or.mpr ⟨by omega, not_not.mpr login.version⟩
    rw [if_neg start, if_neg (by omega), if_neg (by omega), login.username, login.password]

theorem socks5_credentials_presented (message : Bytes) (username password : Str)
    (parsed : socks5Credentials message = .ok (username, password)) : SubNegotiation message username password := by
  obtain ⟨version, whole, rfl, rfl⟩ := (socks5_credentials_iff message username password).mp parsed
  have firstByte := list_at_byte message 0 (by omega)
  have secondByte := list_at_byte message 1 (by omega)
  have lengthNext := list_at_byte message (2 + (byteAt message 1).toNat) (by omega)
  have nameBound := (byteAt message 1).toNat_lt
  have passwordBound := (byteAt message (2 + (byteAt message 1).toNat)).toNat_lt
  have nameLength : (slice message 2 (2 + (byteAt message 1).toNat)).length = (byteAt message 1).toNat := by
    simp [slice]
    omega
  have secretLength : (slice message (3 + (byteAt message 1).toNat) (3 + (byteAt message 1).toNat +
      (byteAt message (2 + (byteAt message 1).toNat)).toNat)).length = (byteAt message (2 + (byteAt message 1).toNat)).toNat := by
    simp [slice]
    omega
  refine ⟨_, _, message.drop (3 + (byteAt message 1).toNat + (byteAt message (2 + (byteAt message 1).toNat)).toNat), ?_,
    by omega, by omega, rfl, rfl⟩
  rw [length_byte_of_nat _ _ nameLength, length_byte_of_nat _ _ secretLength]
  have start : message = 0x01 :: byteAt message 1 :: message.drop 2 := by
    rw [← version, ← secondByte, ← firstByte, List.drop_zero]
  have nameSplit := slice_drop message 2 (byteAt message 1).toNat
  have secretSplit := slice_drop message (3 + (byteAt message 1).toNat) (byteAt message (2 + (byteAt message 1).toNat)).toNat
  have next : 2 + (byteAt message 1).toNat + 1 = 3 + (byteAt message 1).toNat := by omega
  rw [next] at lengthNext
  simp only [List.cons_append, List.append_assoc]
  rw [← secretSplit, ← lengthNext, ← nameSplit]
  exact start

section Histories

variable (platform : Platform) (peer : IpAddr) (past : History)

def IsRead : Op → Prop
  | .read _ => True
  | _ => False

def IsLogin : Op → Prop
  | .authenticate _ _ => True
  | _ => False

theorem after_login_op (id : Option Int) (op : Op) (may : AfterLogin id op) : ¬ IsRead op ∧ ¬ IsLogin op := by
  cases op <;> simp_all [AfterLogin, IsRead, IsLogin]

theorem before_login_op (op : Op) (may : BeforeLogin op) : ¬ IsRead op ∧ ¬ IsLogin op := by
  cases op <;> simp_all [BeforeLogin, IsRead, IsLogin]

theorem reads_read (limit : Nat) (bytes : { bytes : Bytes // bytes.length ≤ limit }) :
    reads (past ++ [⟨.read limit, (.ok bytes : Except Fault { bytes : Bytes // bytes.length ≤ limit })⟩]) =
      reads past ++ [bytes.val] := by
  simp [reads]

theorem reads_other (op : Op) (reply : op.Reply) (other : ¬ IsRead op) : reads (past ++ [⟨op, reply⟩]) = reads past := by
  cases op with
  | read limit => exact absurd trivial other
  | _ => simp [reads]

theorem asked_other (op : Op) (reply : op.Reply) (other : ¬ IsLogin op) (base secret : Str)
    (answer : Except Fault (Option Account)) (member : asked base secret answer ∈ past ++ [⟨op, reply⟩]) :
    asked base secret answer ∈ past := by
  rcases List.mem_append.mp member with before | last
  · exact before
  · rw [List.mem_singleton] at last
    have same : op = .authenticate base secret := (congrArg Sigma.fst last).symm
    rw [same] at other
    exact absurd trivial other

theorem admitted_frame (account : Account) (op : Op) (reply : op.Reply) (notRead : ¬ IsRead op) (notLogin : ¬ IsLogin op)
    (admitted : Admitted platform peer past account) : Admitted platform peer (past ++ [⟨op, reply⟩]) account where
  accepted := by
    have same := reads_other past op reply notRead
    rcases admitted.accepted with ⟨base, secret, member, presented⟩ | ⟨member, byIp⟩
    · exact .inl ⟨base, secret, List.mem_append_left _ member, by unfold Presented at presented ⊢; rwa [same]⟩
    · exact .inr ⟨List.mem_append_left _ member, by unfold AdmittedByIp at byIp ⊢; rwa [same]⟩
  allowance := admitted.allowance
  unrefused := fun base secret answer member =>
    admitted.unrefused base secret answer (asked_other past op reply notLogin base secret answer member)

structure Unasked (past : History) (bytes : List Bytes) : Prop where
  read : reads past = bytes
  none : ∀ base secret reply, asked base secret reply ∉ past

theorem unasked_frame (bytes : List Bytes) (op : Op) (reply : op.Reply) (unasked : Unasked past bytes)
    (notRead : ¬ IsRead op) (notLogin : ¬ IsLogin op) : Unasked (past ++ [⟨op, reply⟩]) bytes where
  read := by rw [reads_other past op reply notRead, unasked.read]
  none := fun base secret answer member =>
    unasked.none base secret answer (asked_other past op reply notLogin base secret answer member)

def LoggedInAs (platform : Platform) (peer : IpAddr) (past : History) (id : Int) : Prop :=
  ∃ account, id = account.id ∧ Admitted platform peer past account

abbrev Gated (A : Type) (ends : History → A → Prop) (past : History) (program : Router A) : Prop :=
  Meets (Guarded platform peer) ends (fun _ _ => True) past program

theorem authenticate_gated (bytes : List Bytes) (rawUsername password : Str) (unasked : Unasked past bytes)
    (presented : ∀ base selection later, parseUsername rawUsername = .ok (base, selection) → reads later = bytes →
      Presented platform later base password) :
    Gated platform peer (Selection × Int) (fun past result => LoggedInAs platform peer past result.2) past
      (authenticate rawUsername password) := by
  rw [authenticate]
  cases parsed : parseUsername rawUsername with
  | error reason => trivial
  | ok pair =>
      refine ⟨trivial, fun reply => ?_⟩
      rcases lookup_cases reply fun account => (pair.2, account.id) with ⟨account, rfl, allowance, ends⟩ | ⟨_, failure, refused⟩
      · simp only [bind_eq, pure_eq, ends, meets_done]
        refine ⟨account, rfl, .inl ⟨pair.1, password, ?_, ?_⟩, allowance, ?_⟩
        · simp [asked]
        · exact presented pair.1 pair.2 _ parsed ((reads_other past _ _ (by simp [IsRead])).trans unasked.read)
        · intro base secret answer member
          rcases List.mem_append.mp member with before | last
          · exact absurd before (unasked.none base secret answer)
          · rw [List.mem_singleton] at last
            cases last
            exact ⟨account, rfl⟩
      · simp only [bind_eq, pure_eq, refused, meets_fail]

theorem authenticate_by_ip_gated (request : Bytes) (unasked : Unasked past [request]) (notSocks5 : byteAt request 0 ≠ 0x05)
    (bare : authHeader platform request = none) :
    Gated platform peer Int (LoggedInAs platform peer) past (authenticateByIp peer) := by
  refine ⟨trivial, fun reply => ?_⟩
  rcases lookup_cases reply fun account => account.id with ⟨account, rfl, allowance, ends⟩ | ⟨_, failure, refused⟩
  · simp only [bind_eq, pure_eq, ends, meets_done]
    have later := unasked_frame past [request] (.authenticateByIp peer) (.ok (some account)) unasked
      (by simp [IsRead]) (by simp [IsLogin])
    refine ⟨account, rfl, .inr ⟨by simp [askedByIp], request, [], later.read, notSocks5, bare⟩, allowance, ?_⟩
    intro base secret answer member
    exact absurd member (later.none base secret answer)
  · simp only [bind_eq, pure_eq, refused, meets_fail]

theorem after_login_gated (id : Int) (program : Router Unit) (loggedIn : LoggedInAs platform peer past id)
    (uses : Uses (AfterLogin (some id)) program) :
    Gated platform peer Unit (fun past _ => LoggedInAs platform peer past id) past program := by
  have guarded := meets_of_uses (fun past => LoggedInAs platform peer past id) (Guarded platform peer) past program uses loggedIn
    (by
      rintro past op ⟨account, same, admitted⟩ may
      cases op with
      | dial address => exact ⟨account, admitted⟩
      | relay other cost =>
          have metered : other = some id := may
          exact ⟨account, by rw [metered, same], admitted⟩
      | _ => trivial)
    (by
      rintro past op reply ⟨account, same, admitted⟩ may
      obtain ⟨notRead, notLogin⟩ := after_login_op (some id) op may
      exact ⟨account, same, admitted_frame platform peer past account op reply notRead notLogin admitted⟩)
  exact meets_mono _ _ _ _ program (fun _ _ may => may) (fun _ _ ends => ends) (fun _ _ _ => trivial) guarded

theorem after_login_guarded (id : Int) (program : Router Unit) (loggedIn : LoggedInAs platform peer past id)
    (uses : Uses (AfterLogin (some id)) program) : Gated platform peer Unit (fun _ _ => True) past program :=
  meets_mono _ _ _ _ program (fun _ _ may => may) (fun _ _ _ => trivial) (fun _ _ _ => trivial)
    (after_login_gated platform peer past id program loggedIn uses)

theorem before_login_gated {A : Type} (bytes : List Bytes) (program : Router A) (unasked : Unasked past bytes)
    (uses : Uses BeforeLogin program) : Gated platform peer A (fun past _ => Unasked past bytes) past program := by
  have guarded := meets_of_uses (fun past => Unasked past bytes) (Guarded platform peer) past program uses unasked
    (by
      intro past op _ may
      cases op <;> trivial)
    (by
      intro past op reply unasked may
      obtain ⟨notRead, notLogin⟩ := before_login_op op may
      exact unasked_frame past bytes op reply unasked notRead notLogin)
  exact meets_mono _ _ _ _ program (fun _ _ may => may) (fun _ _ ends => ends) (fun _ _ _ => trivial) guarded

theorem authenticate_user_gated (config : RouterConfig) (request : Bytes) (auth : config.auth = some true)
    (unasked : Unasked past [request]) (notSocks5 : byteAt request 0 ≠ 0x05)
    (colonFree : ColonFree platform request) :
    Gated platform peer (Option Int) (fun past id => ∃ metered, id = some metered ∧ LoggedInAs platform peer past metered) past
      (authenticateUser platform config request peer) := by
  rw [authenticateUser, if_pos auth]
  cases header : authHeader platform request with
  | none =>
      refine meets_bind _ _ _ _ (authenticate_by_ip_gated platform peer past request unasked notSocks5 header) ?_
      intro later id loggedIn
      exact ⟨id, rfl, loggedIn⟩
  | some line =>
      cases decoded : decodeHeader platform line with
      | error failure => simp [decoded]
      | ok credentials =>
          simp only [decoded, ofExcept_ok, bind_eq, done_bind]
          cases split : credentials.bind splitCredentials with
          | none => trivial
          | some pair =>
              obtain ⟨rawUsername, password⟩ := pair
              obtain ⟨text, rfl, fields⟩ := Option.bind_eq_some_iff.mp split
              obtain ⟨full, rfl, absent, same⟩ := split_credentials_some text rawUsername password fields
              have credential : BasicCredential platform request rawUsername full := ⟨line, header, decoded, absent⟩
              cases named : parseUsername rawUsername with
              | error reason => simp [authenticate, named]
              | ok pair =>
                  have whole : password = full := same.trans ((take_while_free ':' full).mpr (colonFree _ _ _ _ named credential))
                  rw [whole]
                  have login := authenticate_gated platform peer past
                    [request] rawUsername full unasked fun base selection later parsed read =>
                    ⟨request, [], rawUsername, selection, read, parsed, .inr ⟨notSocks5, credential⟩⟩
                  refine meets_bind _ _ _ _ login ?_
                  intro later result loggedIn
                  exact ⟨result.2, rfl, loggedIn⟩

theorem io_gated {A B : Type} (ends : History → B → Prop) (result : Except Fault A)
    (next : A → Router B) (tail : ∀ value, result = .ok value → Gated platform peer B ends past (next value)) :
    Gated platform peer B ends past ((io result).bind next) := by
  rcases io_cases result with ⟨value, known, done⟩ | ⟨failure, failed⟩
  · rw [done]
    exact tail value known
  · rw [failed]
    trivial

theorem socks5_login_gated (request message : Bytes) (unasked : Unasked past [request, message])
    (socks5 : byteAt request 0 = 0x05) :
    Gated platform peer (Selection × Int) (fun past result => LoggedInAs platform peer past result.2) past
    (socks5Login message) := by
  rw [socks5Login]
  cases parsed : socks5Credentials message with
  | error failure => trivial
  | ok pair =>
      exact authenticate_gated platform peer past [request, message] pair.1 pair.2 unasked fun base selection later known read =>
        ⟨request, [message], pair.1, selection, read, known,
          .inl ⟨socks5, message, [], rfl, socks5_credentials_presented message pair.1 pair.2 parsed⟩⟩

theorem socks5_authenticate_gated (config : RouterConfig) (request methods : Bytes) (auth : config.auth = some true)
    (unasked : Unasked past [request]) (socks5 : byteAt request 0 = 0x05) :
    Gated platform peer (Selection × Option Int)
      (fun past result => ∃ metered, result.2 = some metered ∧ LoggedInAs platform peer past metered) past
      (socks5Authenticate config methods) := by
  rw [socks5Authenticate, if_pos auth]
  by_cases offered : 0x02 ∈ methods
  · rw [if_pos offered]
    refine meets_bind _ _ _ _ (before_login_gated platform peer past _ _ unasked ⟨trivial, io_uses _⟩) ?_
    intro written _ unasked
    refine ⟨trivial, fun reply => ?_⟩
    dsimp only
    rw [bind_assoc]
    refine io_gated platform peer _ _ reply _ ?_
    rintro message rfl
    have read : Unasked (written ++ [⟨.read 513, .ok message⟩]) [request, message.val] :=
      ⟨by rw [reads_read, unasked.read]; rfl,
        fun base secret answer member => unasked.none base secret answer (asked_other _ _ _ (by simp [IsLogin]) _ _ _ member)⟩
    rw [done_bind]
    refine meets_bind _ _ _ _ (socks5_login_gated platform peer _ request message.val read socks5) ?_
    intro later result loggedIn
    have written := uses_mono _ _ (outward_after_login (some result.2)) (client_write_outward [0x01, 0x00])
    refine meets_bind _ _ _ _ (after_login_gated platform peer later result.2 _ loggedIn written) ?_
    intro final _ loggedIn
    exact ⟨result.2, rfl, loggedIn⟩
  · rw [if_neg offered]
    refine meets_bind _ _ _ _ (before_login_gated platform peer past _ _ unasked ⟨trivial, io_uses _⟩) ?_
    intro _ _ _
    trivial

theorem handle_socks5_gated (server : ProxyServer) (request : Bytes) (auth : server.config.auth = some true)
    (unasked : Unasked past [request]) (socks5 : byteAt request 0 = 0x05) :
    Gated platform peer Unit (fun _ _ => True) past (handleSocks5 server request peer) := by
  rw [handleSocks5]
  cases greeting : greetingMethods request with
  | error failure => trivial
  | ok methods =>
      rw [ofExcept_ok, bind_eq, done_bind]
      refine meets_bind _ _ _ _
        (socks5_authenticate_gated platform peer past server.config request methods auth unasked socks5) ?_
      rintro later ⟨chosen, _⟩ ⟨metered, rfl, loggedIn⟩
      exact after_login_guarded platform peer later metered _ loggedIn
        (socks5_tail_keeps _ (after_login_closed _) server peer chosen
        (fun chain => relayed (some metered) (firstCost chain)) fun _ => relayed_after_login _ _)

theorem handle_single_gated (server : ProxyServer) (protocol : Protocol) (request : Bytes) (proxy : ProxyConfig)
    (auth : server.config.auth = some true) (unasked : Unasked past [request]) (notSocks5 : byteAt request 0 ≠ 0x05)
    (colonFree : ColonFree platform request) :
    Gated platform peer Unit (fun _ _ => True) past (handleSingle platform server peer protocol request proxy) := by
  refine meets_bind _ _ _ _ (authenticate_user_gated platform peer past server.config request auth unasked notSocks5 colonFree) ?_
  rintro later _ ⟨metered, rfl, loggedIn⟩
  exact after_login_guarded platform peer later metered _ loggedIn (single_keeps _ (after_login_closed _) platform request proxy
    (getUpstreamAddr proxy) _ (relayed_after_login _ proxy.costPerByte) protocol)

theorem handle_chain_gated (server : ProxyServer) (request : Bytes) (chain : List ProxyConfig)
    (target : Except Failure (Str × UInt16))
    (answer : Router Unit) (answers : Uses Outward answer) (auth : server.config.auth = some true)
    (unasked : Unasked past [request]) (notSocks5 : byteAt request 0 ≠ 0x05)
    (colonFree : ColonFree platform request) :
    Gated platform peer Unit (fun _ _ => True) past ((authenticateUser platform server.config request peer).bind fun id =>
      (ofExcept target).bind fun pair =>
        (connectChain chain pair.1 pair.2).bind fun _ => answer.bind fun _ => relayed id (firstCost chain)) := by
  refine meets_bind _ _ _ _ (authenticate_user_gated platform peer past server.config request auth unasked notSocks5 colonFree) ?_
  rintro later _ ⟨metered, rfl, loggedIn⟩
  exact after_login_guarded platform peer later metered _ loggedIn
    (chain_tail_keeps _ (after_login_closed _) target chain answer answers _
    (relayed_after_login _ _))

theorem dispatch_gated (server : ProxyServer) (protocol : Protocol) (request : Bytes) (chain : List ProxyConfig)
    (auth : server.config.auth = some true) (unasked : Unasked past [request])
    (detected : protocol = .socks5 ↔ byteAt request 0 = 0x05)
    (colonFree : byteAt request 0 ≠ 0x05 → ColonFree platform request) :
    Gated platform peer Unit (fun _ _ => True) past (dispatch platform server peer protocol request chain) := by
  have byChain := handle_chain_gated platform peer past server request chain
  rcases chain with _ | ⟨first, _ | ⟨second, rest⟩⟩
  · trivial
  · by_cases socks5 : protocol = .socks5
    · simp only [dispatch, if_pos socks5]
      exact handle_socks5_gated platform peer past server request auth unasked (detected.mp socks5)
    · simp only [dispatch, if_neg socks5]
      exact handle_single_gated platform peer past server protocol request first auth unasked
        (fun isSocks5 => socks5 (detected.mpr isSocks5)) (colonFree fun isSocks5 => socks5 (detected.mpr isSocks5))
  · cases protocol with
    | socks5 => exact handle_socks5_gated platform peer past server request auth unasked (detected.mp rfl)
    | socks4 =>
        have other : byteAt request 0 ≠ 0x05 := fun same => by cases detected.mpr same
        exact byChain (parseSocks4Target request) (clientWrite socks4Granted) (client_write_outward _)
          auth unasked other (colonFree other)
    | https =>
        have other : byteAt request 0 ≠ 0x05 := fun same => by cases detected.mpr same
        exact byChain (parseConnectTarget request) (clientWrite tunnelGranted) (client_write_outward _)
          auth unasked other (colonFree other)
    | http =>
        have other : byteAt request 0 ≠ 0x05 := fun same => by cases detected.mpr same
        exact byChain (parseHttpTarget request) (send (.raw (toOriginForm request))) (send_uses _ _ trivial)
          auth unasked other (colonFree other)

theorem serve_gated (server : ProxyServer) (request : Bytes) (auth : server.config.auth = some true)
    (unasked : Unasked past [request])
    (colonFree : byteAt request 0 ≠ 0x05 → ColonFree platform request) :
    Gated platform peer Unit (fun _ _ => True) past (serve platform server peer request) := by
  rw [serve]
  cases detected : detectProtocol request with
  | error failure => trivial
  | ok protocol =>
      rw [ofExcept_ok, bind_eq, done_bind]
      refine meets_bind _ _ _ _ (before_login_gated platform peer past [request] _ unasked
        (selection_for_uses _ platform protocol request peer trivial)) ?_
      intro later selection unasked
      refine meets_bind _ _ _ _ (before_login_gated platform peer later [request] _ unasked
        (resolve_uses _ server selection trivial)) ?_
      intro final chain unasked
      exact dispatch_gated platform peer final server protocol request chain auth unasked
        (detect_socks5 request protocol detected) colonFree

end Histories

section Runs

variable (platform : Platform) (server : ProxyServer) (peer : IpAddr)

theorem reads_head (first : Event) (later : History) (bytes : Bytes) (head : reads [first] = [bytes]) :
    ∃ rest, reads (first :: later) = bytes :: rest := by
  refine ⟨reads later, ?_⟩
  have whole : reads (first :: later) = reads [first] ++ reads later := by
    rw [← List.singleton_append, reads, List.filterMap_append]
    rfl
  rw [whole, head, List.singleton_append]

theorem runs_guarded (trace : History) (op : Op) (next : op.Reply → Router Unit)
    (auth : server.config.auth = some true) (reached : Reaches (handleConnection platform server peer) trace (.ask op next))
    (whole : PasswordsWhole platform trace) : Guarded platform peer trace op := by
  rcases connection_reaches platform server peer trace _ reached with ⟨rfl, same⟩ | ⟨_, _, _, failed⟩ | ⟨bytes, later, rfl, tail⟩
  · cases same
    trivial
  · cases failed
  · have head : reads [⟨.read 8192, .ok bytes⟩] = [bytes.val] := reads_read [] 8192 bytes
    obtain ⟨rest, read⟩ := reads_head ⟨.read 8192, .ok bytes⟩ later bytes.val head
    have unasked : Unasked [⟨.read 8192, .ok bytes⟩] [bytes.val] := by
      refine ⟨head, ?_⟩
      intro base secret answer member
      rw [List.mem_singleton] at member
      cases member
    have gated := serve_gated platform peer _ server bytes.val auth unasked (whole bytes.val rest read)
    exact (meets_reaches _ _ _ later gated tail).1

def OneField : Op → Prop
  | .authenticate _ secret => ':' ∉ secret
  | _ => True

theorem outward_one_field (op : Op) (outward : Outward op) : OneField op := by
  cases op with
  | authenticate username secret => exact outward.elim
  | _ => trivial

theorem authenticate_user_one_field (config : RouterConfig) (request : Bytes) :
    Uses OneField (authenticateUser platform config request peer) := by
  rw [authenticateUser]
  split
  · split
    · refine uses_bind _ _ ⟨trivial, fun reply => ?_⟩ fun _ => trivial
      refine uses_bind _ _ (admitted_uses OneField reply) fun account => ?_
      exact uses_bind _ _ (uses_ofExcept _) fun _ => trivial
    · refine uses_bind _ _ (uses_ofExcept _) fun credentials => ?_
      split
      · trivial
      · rename_i rawUsername password split
        obtain ⟨text, _, fields⟩ := Option.bind_eq_some_iff.mp split
        obtain ⟨full, _, _, rfl⟩ := split_credentials_some text rawUsername password fields
        refine uses_bind _ _ (authenticate_uses OneField _ _ fun _ _ _ => ?_) fun _ => trivial
        intro colon
        simpa using List.mem_takeWhile_imp colon
  · trivial

theorem serve_one_field (request : Bytes) (notSocks5 : byteAt request 0 ≠ 0x05) :
    Uses OneField (serve platform server peer request) := by
  rw [serve]
  cases detected : detectProtocol request with
  | error failure => trivial
  | ok protocol =>
      rw [ofExcept_ok, bind_eq, done_bind]
      refine uses_bind _ _ (selection_for_uses OneField platform protocol request peer trivial) fun selection => ?_
      refine uses_bind _ _ (resolve_uses OneField server selection trivial) fun chain => ?_
      exact dispatch_keeps (Uses OneField) (uses_outward_closed OneField outward_one_field) platform request
        (fun _ => True) server peer
        protocol chain (fun next tail =>
          uses_bind _ next (authenticate_user_one_field platform peer server.config request) fun id => tail id trivial)
        (fun id costPerByte _ => relayed_uses OneField id costPerByte trivial trivial trivial)
        fun socks5 => absurd ((detect_socks5 request protocol detected).mp socks5) notSocks5

theorem basic_credential_unique (request : Bytes) (username password other secret : Str)
    (first : BasicCredential platform request username password) (second : BasicCredential platform request other secret) :
    password = secret := by
  obtain ⟨line, found, decoded, absent⟩ := first
  obtain ⟨line', found', decoded', absent'⟩ := second
  cases found.symm.trans found'
  exact (cut_unique ':' _ _ _ _ absent absent' (Option.some.inj (Except.ok.inj (decoded.symm.trans decoded')))).2

theorem admitted_passwords_whole (trace : History) (op : Op) (next : op.Reply → Router Unit)
    (reached : Reaches (handleConnection platform server peer) trace (.ask op next)) (account : Account)
    (admitted : Admitted platform peer trace account) : PasswordsWhole platform trace := by
  intro request rest read notSocks5 username password base selection _ credential
  rcases connection_reaches platform server peer trace _ reached with ⟨rfl, _⟩ | ⟨_, _, _, failed⟩ | ⟨bytes, later, rfl, tail⟩
  · cases read
  · cases failed
  · obtain ⟨after, head⟩ := reads_head ⟨.read 8192, .ok bytes⟩ later bytes.val (reads_read [] 8192 bytes)
    cases head.symm.trans read
    have fields := (uses_event _ _ later (serve_one_field platform server peer bytes.val notSocks5) tail).1
    rcases admitted.accepted with ⟨asker, secret, member, presented⟩ | ⟨_, byIp⟩
    · obtain ⟨request, rest, name, tokens, known, _, socks5 | ⟨_, shown⟩⟩ := presented
      · cases head.symm.trans known
        exact absurd socks5.1 notSocks5
      · cases head.symm.trans known
        rw [basic_credential_unique platform bytes.val username password name secret credential shown]
        rcases List.mem_cons.mp member with first | later
        · cases first
        · exact fields _ later
    · obtain ⟨request, rest, known, _, bare⟩ := byIp
      cases head.symm.trans known
      obtain ⟨line, found, _, _⟩ := credential
      cases bare.symm.trans found

theorem admission_precedes_relay (trace : History) (op : Op) (next : op.Reply → Router Unit)
    (auth : server.config.auth = some true) (reached : Reaches (handleConnection platform server peer) trace (.ask op next)) :
    Guarded platform peer trace op ↔ (Opens op → PasswordsWhole platform trace) := by
  constructor
  · intro guarded opens
    cases op with
    | dial address =>
        obtain ⟨account, admitted⟩ := guarded
        exact admitted_passwords_whole platform server peer trace _ next reached account admitted
    | relay id costPerByte =>
        obtain ⟨account, _, admitted⟩ := guarded
        exact admitted_passwords_whole platform server peer trace _ next reached account admitted
    | _ => exact opens.elim
  · intro whole
    cases op with
    | dial address => exact runs_guarded platform server peer trace _ next auth reached (whole trivial)
    | relay id costPerByte => exact runs_guarded platform server peer trace _ next auth reached (whole trivial)
    | _ => trivial

end Runs

section Examples

def openServer : ProxyServer := ⟨none, ⟨none, some true⟩⟩
def upstream : ProxyConfig := ⟨none, .socks5, "10.0.0.1", some 1080, none, none, ⟨none, none, none, none, none⟩, 1, none⟩
def visitor : IpAddr := .v4 0
def guest : Account := ⟨7, some 1000, none⟩

def connectRun (request : Bytes) (short : request.length ≤ 8192) : History :=
  [⟨.read 8192, .ok ⟨request, short⟩⟩, askedByIp visitor (.ok none), ⟨.load, ([upstream], ⟨0, id, fun _ _ => 0⟩)⟩,
    asked "me" "pw" (.ok (some guest))]

theorem connect_run_asked (request : Bytes) (short : request.length ≤ 8192) (base secret : Str) (account : Account)
    (member : asked base secret (.ok (some account)) ∈ connectRun request short) : secret = "pw" := by
  simp only [connectRun, List.mem_cons, List.not_mem_nil, or_false] at member
  rcases member with same | same | same | same <;> cases same
  rfl

theorem connect_run_asked_by_ip (request : Bytes) (short : request.length ≤ 8192) (account : Account)
    (member : askedByIp visitor (.ok (some account)) ∈ connectRun request short) : False := by
  simp only [connectRun, List.mem_cons, List.not_mem_nil, or_false] at member
  rcases member with same | same | same | same <;> cases same

theorem basic_request_fields (full username password : Str)
    (header : authHeader standard (basicRequest "me" full) =
      some ("proxy-authorization: BASIC " ++ encodeAuth standard "me" full))
    (credential : BasicCredential standard (basicRequest "me" full) username password) : username = "me" ∧ password = full := by
  obtain ⟨line, found, decoded, absent⟩ := credential
  cases found.symm.trans header
  have known := decode_header_carried standard "me" full "proxy-authorization: BASIC " (by decide)
  have same := Option.some.inj (Except.ok.inj (decoded.symm.trans known))
  exact cut_unique ':' _ _ _ _ absent (by decide) same

theorem password_admits : ∃ next, Reaches (handleConnection standard openServer visitor)
      (connectRun (basicRequest "me" "pw") (by decide)) (.ask (.dial "10.0.0.1:1080") next) ∧
    Guarded standard visitor (connectRun (basicRequest "me" "pw") (by decide)) (.dial "10.0.0.1:1080") := by
  have reached : ∃ next, Reaches (handleConnection standard openServer visitor)
      (connectRun (basicRequest "me" "pw") (by decide)) (.ask (.dial "10.0.0.1:1080") next) :=
    ⟨_, .step _ _ _ _ _ (.step _ _ _ _ _ (.step _ _ _ _ _ (.step _ _ _ _ _ (.here _))))⟩
  obtain ⟨next, reached⟩ := reached
  refine ⟨next, reached, (admission_precedes_relay standard openServer visitor _ _ next rfl reached).mpr fun _ => ?_⟩
  intro request rest read _ username password _ _ _ credential
  cases read
  rw [(basic_request_fields "pw" username password (by decide) credential).2]
  decide

-- The client presents `pw:x` and is let in as `pw`.
theorem truncated_password_admits :
    ¬ ∀ (trace : History) (op : Op) (next : op.Reply → Router Unit),
      Reaches (handleConnection standard openServer visitor) trace (.ask op next) → Guarded standard visitor trace op := by
  intro gate
  have guarded := gate (connectRun (basicRequest "me" "pw:x") (by decide)) (.dial "10.0.0.1:1080") _
    (.step _ _ _ _ _ (.step _ _ _ _ _ (.step _ _ _ _ _ (.step _ _ _ _ _ (.here _)))))
  obtain ⟨account, admitted⟩ := guarded
  rcases admitted.accepted with ⟨base, secret, member, request, rest, username, selection, read, _, presented⟩ | ⟨member, _⟩
  · have short := connect_run_asked _ _ _ _ _ member
    cases read
    rcases presented with ⟨socks5, _⟩ | ⟨_, credential⟩
    · exact absurd socks5 (by decide)
    · have whole := (basic_request_fields "pw:x" username secret (by decide) credential).2
      rw [whole] at short
      exact absurd short (by decide)
  · exact connect_run_asked_by_ip _ _ _ member

end Examples

end Purroute
