import Purroute.Commands
import Purroute.Sockets

set_option autoImplicit false

namespace Purroute

open Interaction Interaction.Program

def Aside : Op → Prop
  | .read _ => False
  | .readExact _ => False
  | .reply _ => False
  | .relay _ _ => False
  | _ => True

theorem aside_silent (op : Op) (aside : Aside op) : Untouching clientPort op := by
  intro reply
  cases op <;> first | exact aside.elim | exact ⟨fun _ same => same, fun _ same => same⟩

theorem connect_chain_aside (chain : List ProxyConfig) (host : Str) (port : UInt16) :
    Uses Aside (connectChain chain host port) := by
  have through : ∀ (proxy : ProxyConfig) (target : Str) (number : UInt16),
    Uses Aside (connectThroughProxy proxy target number) := by
    intro proxy target number
    refine uses_mono _ _ (fun op own => ?_) (connect_through_proxy_uses proxy target number)
    cases op <;> first | exact own.elim | trivial
  have hops : ∀ path : List ProxyConfig, Uses Aside (connectHops path host port) := by
    intro path
    induction path with
    | nil => trivial
    | cons proxy rest ih =>
        cases rest with
        | nil => exact through proxy host port
        | cons next rest => exact uses_bind _ _ (uses_ofExcept _) fun target => uses_bind _ _ (through proxy _ _) fun _ => ih
  cases chain with
  | nil => trivial
  | cons first rest => exact uses_bind _ _ ⟨trivial, io_uses _⟩ fun _ => hops _

section Rules

variable {A : Type} {may : Bytes → Bytes → Prop} {asks : Flow UInt8 → Op → Prop} {fails : Flow UInt8 → Failure → Prop}
  (flow : Flow UInt8)

theorem client_write_follows (bytes : Bytes) (ends : Flow UInt8 → Unit → Prop) (asked : asks flow (.reply bytes))
    (whole : ends (flow.after bytes []) ())
    (failing : ∀ out failure, out <+: bytes → out.length < bytes.length → fails (flow.after out []) failure) :
    Follows clientPort may asks ends fails flow (clientWrite bytes) := by
  refine ⟨asked, fun (reply : Except Fault Unit) out input wrote took _ => ?_⟩
  have none : input = [] := took
  subst none
  cases reply with
  | ok value =>
      have all : out = bytes := wrote
      subst all
      exact whole
  | error fault =>
      have part : out <+: bytes ∧ out.length < bytes.length := wrote
      cases fault <;> exact failing out _ part.1 part.2

theorem client_read_follows (limit : Nat)
    (result : Except Fault { bytes : Bytes // bytes.length ≤ limit } → Router { bytes : Bytes // bytes.length ≤ limit })
    (value : ∀ bytes, result (.ok bytes) = .done bytes) (fault : ∀ fault, ∃ failure, result (.error fault) = .fail failure)
    (ends : Flow UInt8 → Bytes → Prop) (asked : asks flow (.read limit))
    (whole : ∀ bytes, may flow.sent (flow.taken ++ bytes) → ends (flow.after [] bytes) bytes)
    (failing : ∀ failure, fails flow failure) :
    Follows clientPort may asks ends fails flow (.ask (.read limit) fun reply =>
      (result reply).bind fun bytes => .done bytes.val) := by
  refine ⟨asked, fun (reply : Except Fault { bytes : Bytes // bytes.length ≤ limit }) out input wrote took allowed => ?_⟩
  have none : out = [] := wrote
  subst none
  cases reply with
  | ok bytes =>
      have all : input = bytes.val := took
      subst all
      change Follows _ _ _ _ _ _ ((result (.ok bytes)).bind _)
      rw [value bytes]
      exact whole bytes.val allowed
  | error reason =>
      have nothing : input = [] := took
      obtain ⟨failure, failed⟩ := fault reason
      change Follows _ _ _ _ _ _ ((result (.error reason)).bind _)
      rw [failed, nothing, after_nothing]
      exact failing failure

theorem client_read_exact_follows (count : Nat) (ends : Flow UInt8 → Bytes → Prop) (asked : asks flow (.readExact count))
    (whole : ∀ bytes, bytes.length = count → may flow.sent (flow.taken ++ bytes) → ends (flow.after [] bytes) bytes)
    (failing : ∀ input failure, fails (flow.after [] input) failure) :
    Follows clientPort may asks ends fails flow (clientReadExact count) := by
  refine ⟨asked, fun (reply : Except Fault { bytes : Bytes // bytes.length = count }) out input wrote took allowed => ?_⟩
  have none : out = [] := wrote
  subst none
  cases reply with
  | ok bytes =>
      have all : input = bytes.val := took
      subst all
      exact whole bytes.val bytes.property allowed
  | error reason => cases reason <;> exact failing input _

end Rules

section Bytes

theorem arrived_front (before input front back : Bytes) (arrived : before ++ input <+: before ++ (front ++ back))
    (size : input.length = front.length) : input = front := by
  obtain ⟨rest, same⟩ := (List.prefix_append_right_inj before).mp arrived
  exact (List.append_inj same size).1

theorem request_fields (platform : Platform) (host : Str) (port : UInt16) : requestOf platform host port =
    [0x05, 0x01, 0x00, 0x03] ++ ([lengthByte (utf8 host)] ++ (utf8 host ++ toBeBytes port)) := by
  simp [requestOf, Message.bytes]

theorem address_decodes (host : Str) (port : UInt16) (short : (utf8 host).length ≤ 255) :
    (fromUtf8Lossy ((utf8 host ++ toBeBytes port).take (lengthByte (utf8 host)).toNat),
      fromBeBytes (byteAt (utf8 host ++ toBeBytes port) (lengthByte (utf8 host)).toNat)
        (byteAt (utf8 host ++ toBeBytes port) ((lengthByte (utf8 host)).toNat + 1))) = (host, port) := by
  have high : byteAt (utf8 host ++ toBeBytes port) (utf8 host).length = byteAt (toBeBytes port) 0 := by
    simp [byteAt, List.getElem?_append_right]
  have low : byteAt (utf8 host ++ toBeBytes port) ((utf8 host).length + 1) = byteAt (toBeBytes port) 1 := by
    simp [byteAt, List.getElem?_append_right]
  rw [length_byte_nat _ short, List.take_left, lossy_encoded, high, low, from_to_be_bytes]

theorem login_whole (message input : Bytes) (username password name secret : Str)
    (decodes : DecodesLogin message username password)
    (part : input <+: message) (parsed : socks5Credentials input = .ok (name, secret)) : input = message := by
  obtain ⟨_, whole, _, _⟩ := (socks5_credentials_iff input name secret).mp parsed
  have first := byte_at_start input message 1 part (by omega)
  have second := byte_at_start input message (2 + (byteAt input 1).toNat) part (by omega)
  refine whole_of_length input message part ?_
  rw [decodes.2, loginEnd, first, second]
  omega

theorem greeting_first (platform : Platform) (proxy : ProxyConfig) (bytes : Bytes) (part : bytes <+: greeting platform proxy)
    (some : bytes ≠ []) : byteAt bytes 0 = 0x05 := by
  have long : 0 < bytes.length := List.length_pos_iff.mpr some
  rw [← byte_at_start bytes _ 0 part long]
  rfl

theorem greeting_whole (platform : Platform) (proxy : ProxyConfig) (bytes methods : Bytes)
    (part : bytes <+: greeting platform proxy)
    (greeted : greetingMethods bytes = .ok methods) : bytes = greeting platform proxy ∧ methods = offeredMethods proxy := by
  have accepted : Greeting bytes := by
    by_contra malformed
    obtain ⟨failure, refused⟩ := greeting_methods_error bytes malformed
    rw [refused] at greeted
    cases greeted
  have three := accepted.1
  have listed := accepted.2.2
  have size : (byteAt bytes 1).toNat = (offeredMethods proxy).length := by
    rw [← byte_at_start bytes _ 1 part (by omega)]
    change (lengthByte (offeredMethods proxy)).toNat = _
    apply length_byte_nat
    rw [offeredMethods]
    split <;> decide
  have total : (greeting platform proxy).length = 2 + (offeredMethods proxy).length := by
    change (offeredMethods proxy).length + 1 + 1 = _
    omega
  have whole : bytes = greeting platform proxy := whole_of_length bytes _ part (by omega)
  refine ⟨whole, ?_⟩
  rw [greeting_methods_ok bytes accepted, listedMethods, size, whole] at greeted
  injection greeted with same
  rw [← same, slice, ← total, List.take_length]
  rfl

end Bytes

section Server

variable (platform : Platform) (server : ProxyServer) (proxy : ProxyConfig) (host : Str) (port : UInt16)

def replies (config : RouterConfig) : Bytes := if config.auth = some true then [0x05, 0x02, 0x01, 0x00] else [0x05, 0x00]

structure Ungranted (config : RouterConfig) (flow : Flow UInt8) : Prop where
  sent : flow.sent <+: replies config ++ socks5Granted ∨ flow.sent <+: [0x05, 0xFF]
  short : flow.sent.length < (replies config ++ socks5Granted).length

theorem early_ungranted (config : RouterConfig) (flow : Flow UInt8)
    (early : flow.sent <+: replies config ∨ flow.sent <+: [0x05, 0xFF]) :
    Ungranted config flow := by
  have shorter : (replies config).length ≤ 4 ∧ 2 ≤ (replies config).length := by
    rw [replies]
    split <;> decide
  have ten : socks5Granted.length = 10 := rfl
  rcases early with part | part
  · refine ⟨.inl (part.trans (List.prefix_append _ _)), ?_⟩
    have length := part.length_le
    rw [List.length_append]
    omega
  · refine ⟨.inr part, ?_⟩
    have length : flow.sent.length ≤ 2 := part.length_le
    rw [List.length_append]
    omega

def Between (sent : Bytes) : Prop := sent = [] ∨ sent = [0x05, 0x02] ∨ sent = [0x05, 0x00] ∨ sent = [0x05, 0x02, 0x01, 0x00]

def ServerReads (flow : Flow UInt8) (op : Op) : Prop :=
  match op with
  | .read limit => Between flow.sent ∧ 0 < limit ∧ flow.taken.length < (negotiation platform proxy host port flow.sent).length
  | .readExact count => Between flow.sent ∧ flow.taken.length + count ≤ (negotiation platform proxy host port flow.sent).length
  | _ => True

def ServerAsks (flow : Flow UInt8) (op : Op) : Prop := Ungranted server.config flow ∧ ServerReads platform proxy host port flow op

abbrev Serves {A : Type} (ends : Flow UInt8 → A → Prop) (flow : Flow UInt8) (program : Router A) : Prop :=
  Follows clientPort (fun sent taken => taken <+: negotiation platform proxy host port sent)
    (ServerAsks platform server proxy host port) ends (fun reached _ => Ungranted server.config reached) flow program

theorem aside_serves {A : Type} (flow : Flow UInt8) (program : Router A) (uses : Uses Aside program)
    (early : Ungranted server.config flow) :
    Serves platform server proxy host port (fun reached value => reached = flow ∧
      ∃ log, Runs program log (.ok value)) flow program := by
  refine follows_silent Aside flow program uses aside_silent (fun op aside => ⟨early, ?_⟩) fun _ => early
  cases op <;> first | exact aside.elim | trivial

theorem opening_serves : Serves platform server proxy host port
    (fun flow bytes => flow = ⟨[], bytes⟩ ∧ bytes <+: greeting platform proxy)
    (idle UInt8) (.ask (.read 8192) fun reply => (ioWithin .timeout reply).bind fun bytes => .done bytes.val) := by
  have early : Ungranted server.config (idle UInt8) := early_ungranted _ _ (.inl List.nil_prefix)
  have start := negotiation_start platform proxy host port [] (by simp)
  refine client_read_follows _ 8192 (ioWithin .timeout) (fun _ => rfl) (within_fault .timeout) _
    ⟨early, .inl rfl, by decide, ?_⟩ ?_ fun _ => early
  · change 0 < (negotiation platform proxy host port []).length
    rw [start]
    exact Nat.succ_pos _
  · intro bytes supplied
    change bytes <+: negotiation platform proxy host port [] at supplied
    rw [start] at supplied
    exact ⟨rfl, supplied⟩

theorem offered_login (offered : 0x02 ∈ offeredMethods proxy) :
    ∃ username password, credentials proxy = some (username, password) := by
  cases name : proxy.username with
  | none => simp [offeredMethods, name] at offered
  | some username =>
      cases secret : proxy.password with
      | none => simp [offeredMethods, secret] at offered
      | some password => exact ⟨username, password, by rw [credentials, name, secret]⟩

theorem offered_open : 0x00 ∈ offeredMethods proxy := by
  rw [offeredMethods]
  split <;> decide

structure Identified (flow : Flow UInt8) (chosen : Selection) : Prop where
  sent : flow.sent = replies server.config
  left : flow.taken ++ requestOf platform host port = negotiation platform proxy host port flow.sent
  presented : server.config.auth = some true → flow.taken = greeting platform proxy ++ loginOf platform proxy ∧
    ∃ username password base, credentials proxy = some (username, password) ∧ parseUsername username = .ok (base, chosen)

theorem login_serves (fits : FitsLengthBytes proxy host) (auth : server.config.auth = some true)
    (username password : Str) (known : credentials proxy = some (username, password))
    (message : Bytes) (part : message <+: loginOf platform proxy) :
    Serves platform server proxy host port (fun flow pair => flow = ⟨[0x05, 0x02], greeting platform proxy ++ message⟩ ∧
        message = loginOf platform proxy ∧ ∃ base, parseUsername username = .ok (base, pair.1))
      ⟨[0x05, 0x02], greeting platform proxy ++ message⟩ (socks5Login message) := by
  have whole : loginOf platform proxy = (Message.userPass username password).bytes platform := by rw [loginOf, known]
  have decodes := (login_decodes_iff platform username password).mpr (fits.2 username password known)
  have early : Ungranted server.config ⟨[0x05, 0x02], greeting platform proxy ++ message⟩ := by
    refine early_ungranted _ _ (.inl ?_)
    rw [replies, if_pos auth]
    exact ⟨[0x01, 0x00], rfl⟩
  refine follows_bind (fun flow pair => flow = ⟨[0x05, 0x02], greeting platform proxy ++ message⟩ ∧
    message = loginOf platform proxy ∧
    pair = (username, password)) _ _ _ _ ?_ ?_
  · refine follows_ofExcept _ _ _ (fun pair parsed => ?_) fun _ _ => early
    rw [whole] at part ⊢
    have same := login_whole _ message username password pair.1 pair.2 decodes part parsed
    rw [same, decodes.1] at parsed
    injection parsed with fields
    exact ⟨rfl, same, fields.symm⟩
  · intro flow pair arrived
    obtain ⟨here, all, fields⟩ := arrived
    subst here fields
    refine follows_weaken _ _ _ _ (fun _ _ asked => asked) (fun _ _ failed => failed) ?_ _ _
      (aside_serves platform server proxy host port _ _ (authenticate_uses Aside username password fun _ _ _ => trivial) early)
    intro reached result ends
    obtain ⟨same, log, run⟩ := ends
    obtain ⟨base, _, parsed, _⟩ := authenticate_runs log username password result.1 result.2 run
    exact ⟨same, all, base, parsed⟩

theorem authenticate_serves (fits : FitsLengthBytes proxy host) :
    Serves platform server proxy host port (fun flow pair => Identified platform server proxy host port flow pair.1)
      ⟨[], greeting platform proxy⟩ (socks5Authenticate server.config (offeredMethods proxy)) := by
  have start : Ungranted server.config ⟨[], greeting platform proxy⟩ := early_ungranted _ _ (.inl List.nil_prefix)
  have refused : ∀ reason, Serves platform server proxy host port (fun flow (pair : Selection × Option Int) =>
      Identified platform server proxy host port flow pair.1) ⟨[], greeting platform proxy⟩ (refuseMethods reason) := by
    intro reason
    refine follows_bind (fun flow _ => flow.sent = [0x05, 0xFF]) _ _ _ _ ?_ ?_
    · exact client_write_follows _ _ _ ⟨start, trivial⟩ rfl fun out failure part _ => early_ungranted _ _ (.inr part)
    · intro flow _ same
      exact early_ungranted _ _ (.inr (by rw [same]))
  rw [socks5Authenticate]
  by_cases auth : server.config.auth = some true
  · rw [if_pos auth]
    by_cases offered : 0x02 ∈ offeredMethods proxy
    · rw [if_pos offered]
      obtain ⟨username, password, known⟩ := offered_login proxy offered
      have whole : loginOf platform proxy = (Message.userPass username password).bytes platform := by rw [loginOf, known]
      have all : replies server.config = [0x05, 0x02] ++ [0x01, 0x00] := if_pos auth
      have early : ∀ (sent taken : Bytes), sent <+: [0x05, 0x02] ++ [0x01, 0x00] → Ungranted server.config ⟨sent, taken⟩ :=
        fun sent taken part => early_ungranted _ _ (.inl (all ▸ part))
      have two : ∀ taken : Bytes, Ungranted server.config ⟨[0x05, 0x02], taken⟩ :=
        fun taken => early _ taken (List.prefix_append _ _)
      have expects := negotiation_login platform proxy host port [0x05, 0x02] (by decide) (by decide) (by decide)
      refine follows_bind (fun flow _ => flow = ⟨[0x05, 0x02], greeting platform proxy⟩) _ _ _ _ ?_ ?_
      · refine client_write_follows _ _ _ ⟨start, trivial⟩ (by simp [Flow.after]) fun out failure part _ => early _ _ ?_
        exact part.trans (List.prefix_append _ _)
      intro flow _ same
      subst same
      refine follows_bind (fun flow message => flow = ⟨[0x05, 0x02], greeting platform proxy ++ message⟩ ∧
        message <+: loginOf platform proxy) _ _ _ _ ?_ ?_
      · refine client_read_follows _ 513 io (fun _ => rfl) io_fault _ ⟨two _, .inr (.inl rfl), by decide, ?_⟩ ?_ fun _ => two _
        · rw [expects, whole, List.length_append]
          exact Nat.lt_add_of_pos_right (Nat.succ_pos _)
        · intro message supplied
          rw [expects] at supplied
          exact ⟨by simp [Flow.after], (List.prefix_append_right_inj _).mp supplied⟩
      intro flow message arrived
      obtain ⟨here, part⟩ := arrived
      subst here
      refine follows_bind _ _ _ _ _
        (login_serves platform server proxy host port fits auth username password known message part) ?_
      intro flow pair ends
      obtain ⟨here, entire, base, parsed⟩ := ends
      subst here entire
      refine follows_bind (fun flow _ =>
        flow = ⟨[0x05, 0x02, 0x01, 0x00], greeting platform proxy ++ loginOf platform proxy⟩) _ _ _ _ ?_ ?_
      · refine client_write_follows _ _ _ ⟨two _, trivial⟩ (by simp [Flow.after]) fun out failure part _ => early _ _ ?_
        exact (List.prefix_append_right_inj _).mpr part
      intro flow _ same
      subst same
      refine ⟨(if_pos auth).symm, ?_, fun _ => ⟨rfl, username, password, base, known, parsed⟩⟩
      rw [negotiation_admitted platform proxy host port [0x05, 0x02, 0x01, 0x00] (by decide) (by decide) (by decide),
        List.append_assoc]
    · rw [if_neg offered]
      exact refused _
  · rw [if_neg auth, if_pos (offered_open proxy)]
    refine follows_bind (fun flow _ => flow = ⟨[0x05, 0x00], greeting platform proxy⟩) _ _ _ _ ?_ ?_
    · refine client_write_follows _ _ _ ⟨start, trivial⟩ (by simp [Flow.after]) fun out failure part _ =>
        early_ungranted _ _ (.inl ?_)
      rw [replies, if_neg auth]
      exact part
    intro flow _ same
    subst same
    refine ⟨(if_neg auth).symm, ?_, fun login => absurd login auth⟩
    rw [negotiation_open platform proxy host port [0x05, 0x00] (by decide) (by decide)]

theorem taken_step (may : Bytes → Bytes → Prop) (start stop : Flow UInt8) (event : Event) (later : History) (bytes : Bytes)
    (took : ∀ input, clientPort.took event input → input = bytes)
    (exchanged : Exchanged clientPort may start (event :: later) stop) :
    ∃ middle, middle.taken = start.taken ++ bytes ∧ Exchanged clientPort may middle later stop := by
  cases exchanged with
  | cons _ _ _ _ out input _ takes _ rest => exact ⟨_, by rw [after_taken, took input takes], rest⟩

theorem sub_negotiation_taken (may : Bytes → Bytes → Prop) (start stop : Flow UInt8) (one other : Bytes) (base secret : Str)
    (answer : Except Fault (Option Account)) (message : { bytes : Bytes // bytes.length ≤ 513 })
    (exchanged : Exchanged clientPort may start [wrote one, readOnce 513 message, asked base secret answer, wrote other] stop) :
    stop.taken = start.taken ++ message.val := by
  obtain ⟨first, takenFirst, rest⟩ := taken_step may start stop (wrote one) _ [] (fun _ same => same) exchanged
  obtain ⟨second, takenSecond, rest⟩ := taken_step may first stop (readOnce 513 message) _ message.val (fun _ same => same) rest
  obtain ⟨third, takenThird, rest⟩ := taken_step may second stop (asked base secret answer) _ [] (fun _ same => same) rest
  obtain ⟨fourth, takenFourth, rest⟩ := taken_step may third stop (wrote other) _ [] (fun _ same => same) rest
  cases rest
  rw [takenFourth, takenThird, takenSecond, takenFirst]
  simp only [List.append_nil]

structure LetIn (login : History) (chosen : Selection) (id : Option Int) : Prop where
  account : ∃ username password base account, credentials proxy = some (username, password) ∧
    parseUsername username = .ok (base, chosen) ∧
    asked base password (.ok (some account)) ∈ login ∧ HasAllowance account ∧ id = some account.id

theorem identified_let_in (fits : FitsLengthBytes proxy host) (auth : server.config.auth = some true)
    (methods : Bytes) (login : History)
    (flow : Flow UInt8) (chosen : Selection) (id : Option Int) (may : Bytes → Bytes → Prop)
    (run : Runs (socks5Authenticate server.config methods) login (.ok (chosen, id)))
    (identified : Identified platform server proxy host port flow chosen)
    (exchanged : Exchanged clientPort may ⟨[], greeting platform proxy⟩ login flow) : LetIn proxy login chosen id := by
  obtain ⟨message, rawUsername, password, base, account, sent, parsed, allowance, rfl, rfl⟩ :=
    socks5_authenticate_runs login server.config methods chosen id auth run
  obtain ⟨taken, username, secret, base', known, parsed'⟩ := identified.presented auth
  have read := sub_negotiation_taken may _ flow _ _ base password _ message exchanged
  have same : message.val = (Message.userPass username secret).bytes platform := by
    have both := List.append_cancel_left (read.symm.trans taken)
    rwa [loginOf, known] at both
  have decodes := (login_decodes_iff platform username secret).mpr (fits.2 username secret known)
  rw [same, decodes.1] at sent
  cases sent
  rw [parsed] at parsed'
  cases parsed'
  exact ⟨rawUsername, password, base, account, known, parsed, by simp, allowance, rfl⟩

theorem replies_between (config : RouterConfig) : Between (replies config) := by
  rw [replies]
  split
  · exact .inr (.inr (.inr rfl))
  · exact .inr (.inr (.inl rfl))

theorem field_serves (sent taken front field back : Bytes) (between : Between sent)
    (early : sent <+: replies server.config) (count : Nat)
    (left : taken ++ (front ++ (field ++ back)) = negotiation platform proxy host port sent) (size : field.length = count) :
    Serves platform server proxy host port (fun flow bytes => flow = ⟨sent, taken ++ (front ++ field)⟩ ∧ bytes = field)
      ⟨sent, taken ++ front⟩ (clientReadExact count) := by
  refine client_read_exact_follows _ count _ ⟨early_ungranted _ _ (.inl early), between, ?_⟩ ?_ fun input failure => ?_
  · rw [← left]
    simp only [List.length_append]
    omega
  · intro bytes length supplied
    rw [← left, ← List.append_assoc taken] at supplied
    have same := arrived_front _ bytes field back supplied (length.trans size.symm)
    subst same
    exact ⟨by simp [Flow.after], rfl⟩
  · refine early_ungranted _ _ (.inl ?_)
    rwa [after_sent, List.append_nil]

theorem target_serves (fits : FitsLengthBytes proxy host) (sent taken : Bytes) (between : Between sent)
    (early : sent <+: replies server.config)
    (left : taken ++ requestOf platform host port = negotiation platform proxy host port sent) :
    Serves platform server proxy host port (fun flow target =>
      flow = ⟨sent, taken ++ requestOf platform host port⟩ ∧ target = (host, port))
      ⟨sent, taken⟩ socks5Target := by
  have fields := request_fields platform host port
  have bodySize : (utf8 host ++ toBeBytes port).length = (lengthByte (utf8 host)).toNat + 2 := by
    rw [length_byte_nat _ fits.1, List.length_append]
    rfl
  rw [fields] at left ⊢
  have first := field_serves platform server proxy host port sent taken [] [0x05, 0x01, 0x00, 0x03] _ between early 4 left rfl
  rw [List.append_nil] at first
  refine follows_bind _ _ _ _ _ first ?_
  intro flow header arrived
  obtain ⟨here, same⟩ := arrived
  subst here same
  refine follows_bind _ _ _ _ _
    (field_serves platform server proxy host port sent taken [0x05, 0x01, 0x00, 0x03]
      [lengthByte (utf8 host)] _ between early 1 left rfl) ?_
  intro flow length arrived
  obtain ⟨here, same⟩ := arrived
  subst here same
  have body := field_serves platform server proxy host port sent taken ([0x05, 0x01, 0x00, 0x03] ++ [lengthByte (utf8 host)])
    (utf8 host ++ toBeBytes port) [] between early _ (by simpa using left) bodySize
  refine follows_bind _ _ _ _ _ body ?_
  intro flow domain arrived
  obtain ⟨here, same⟩ := arrived
  subst here same
  exact ⟨by simp, address_decodes host port fits.1⟩

-- The server as it is once it has granted the request: whom it let in, where
-- it connected to, and that it has read what was written for it.
structure Bridged (peer : IpAddr) (log : History) (flow : Flow UInt8) (rest : Router Unit) : Prop where
  stages : ∃ before login target default path after chosen selection id live draws chain,
    log = before ++ (login ++ (target ++ (default ++ (loaded live draws :: (path ++ wrote socks5Granted :: after))))) ∧
      Runs (socks5Authenticate server.config (offeredMethods proxy)) login (.ok (chosen, id)) ∧
      (server.config.auth = some true → LetIn proxy login chosen id) ∧
      Runs socks5Target target (.ok (host, port)) ∧ Runs (defaulted peer chosen) default (.ok selection) ∧
      resolveProxyChain server live draws selection = .ok chain ∧ Runs (connectChain chain host port) path (.ok ()) ∧
      Reaches (relayed id (firstCost chain)) after rest
  sent : replies server.config ++ socks5Granted <+: flow.sent
  taken : negotiation platform proxy host port (replies server.config) <+: flow.taken

theorem detected_greeting (bytes : Bytes) (protocol : Protocol) (part : bytes <+: greeting platform proxy)
    (detected : detectProtocol bytes = .ok protocol) : protocol = .socks5 := by
  refine (detect_socks5 bytes protocol detected).mpr (greeting_first platform proxy bytes part fun none => ?_)
  subst none
  cases detected

theorem granted_serves (flow : Flow UInt8) (here : flow.sent = replies server.config) :
    Serves platform server proxy host port (fun reached _ => reached = flow.after socks5Granted []) flow
    (clientWrite socks5Granted) := by
  refine client_write_follows _ _ _ ⟨early_ungranted _ _ (.inl (by rw [here])), trivial⟩ rfl fun out failure part short => ?_
  refine ⟨.inl ?_, ?_⟩
  · rw [after_sent, here]
    exact (List.prefix_append_right_inj _).mpr part
  · rw [after_sent, here, List.length_append, List.length_append]
    exact Nat.add_lt_add_left short _

abbrev Negotiating (flow : Flow UInt8) (rest : Router Unit) : Prop :=
  Inside (ServerAsks platform server proxy host port) (fun reached _ => Ungranted server.config reached) flow rest

abbrev Supplied (start : Flow UInt8) (log : History) (stop : Flow UInt8) : Prop :=
  Exchanged clientPort (fun sent taken => taken <+: negotiation platform proxy host port sent) start log stop

theorem handle_socks5_states (fits : FitsLengthBytes proxy host) (peer : IpAddr) (bytes : Bytes)
    (part : bytes <+: greeting platform proxy)
    (before log : History) (flow : Flow UInt8) (rest : Router Unit) (reached : Reaches (handleSocks5 server bytes peer) log rest)
    (exchanged : Supplied platform proxy host port ⟨[], bytes⟩ log flow) :
    Negotiating platform server proxy host port flow rest ∨
      Bridged platform server proxy host port peer (before ++ log) flow rest := by
  have quiet : ∀ {A : Type} (program : Router A) (sent taken : Bytes), Uses Aside program → sent <+: replies server.config →
      Serves platform server proxy host port (fun reached value => reached = ⟨sent, taken⟩ ∧ ∃ log, Runs program log (.ok value))
        ⟨sent, taken⟩ program := fun program sent taken uses early =>
    aside_serves platform server proxy host port _ program uses (early_ungranted _ _ (.inl early))
  rw [handleSocks5] at reached
  cases greeted : greetingMethods bytes with
  | error failure =>
      rw [greeted] at reached
      obtain ⟨rfl, rfl⟩ := reaches_fail _ _ _ reached
      cases exchanged
      exact .inl (.inr ⟨failure, rfl, early_ungranted _ _ (.inl List.nil_prefix)⟩)
  | ok methods =>
      rw [greeted, ofExcept_ok, bind_eq, done_bind] at reached
      obtain ⟨whole, same⟩ := greeting_whole platform proxy bytes methods part greeted
      subst whole same
      rcases follows_stage _ _ _ rest log _ flow (authenticate_serves platform server proxy host port fits) reached exchanged with
        inside | ⟨⟨chosen, id⟩, login, log, ⟨sent, taken⟩, rfl, loggedIn, identified, loginFlow, reached, exchanged⟩
      · exact .inl inside
      have here : sent = replies server.config := identified.sent
      have left : taken ++ requestOf platform host port = negotiation platform proxy host port sent := identified.left
      have early : sent <+: replies server.config := by rw [here]
      have between : Between sent := by rw [here]; exact replies_between _
      rcases follows_stage _ _ _ rest log _ flow
        (target_serves platform server proxy host port fits sent taken between early left)
        reached exchanged with inside | ⟨_, target, log, _, rfl, named, ⟨rfl, rfl⟩, _, reached, exchanged⟩
      · exact .inl inside
      rcases follows_stage _ _ _ rest log _ flow
        (quiet _ sent _ (defaulted_uses Aside peer chosen trivial) early) reached exchanged with
        inside | ⟨selection, default, log, _, rfl, routed, ⟨rfl, _⟩, _, reached, exchanged⟩
      · exact .inl inside
      rcases follows_stage _ _ _ rest log _ flow
        (quiet _ sent _ (resolve_uses Aside server selection trivial) early) reached exchanged with
        inside | ⟨chain, load, log, _, rfl, resolved, ⟨rfl, _⟩, _, onward, crossed⟩
      · exact .inl inside
      obtain ⟨live, draws, rfl, path⟩ := resolve_runs server selection load chain resolved
      rcases follows_stage _ _ _ rest log _ flow (quiet _ sent _ (connect_chain_aside chain host port) early) onward crossed with
        inside | ⟨_, hops, log, _, rfl, connected, ⟨rfl, _⟩, _, reached, exchanged⟩
      · exact .inl inside
      rcases follows_stage _ _ _ rest log _ flow (granted_serves platform server proxy host port _ here) reached exchanged with
        inside | ⟨_, grant, after, _, rfl, granted, rfl, _, relays, relayFlow⟩
      · exact .inl inside
      rw [← bind_unit (clientWrite socks5Granted)] at granted
      obtain ⟨later, rfl, ended⟩ := client_write_runs grant _ _ () granted
      obtain ⟨rfl, _⟩ := reaches_done _ _ _ ended
      obtain ⟨sends, takes⟩ := exchanged_grows _ _ _ relayFlow
      refine .inr ⟨⟨before, login, target, default, hops, after, chosen, selection, id, live, draws, chain, by simp,
        loggedIn, ?_, named, routed, path, connected, relays⟩, ?_, ?_⟩
      · intro auth
        exact identified_let_in platform server proxy host port fits auth _ login _ chosen id _ loggedIn identified loginFlow
      · rwa [after_sent, here] at sends
      · rw [after_taken, List.append_nil, left, here] at takes
        exact takes

theorem handle_connection_states (fits : FitsLengthBytes proxy host) (peer : IpAddr) (log : History) (flow : Flow UInt8)
    (rest : Router Unit) (reached : Reaches (handleConnection platform server peer) log rest)
    (exchanged : Supplied platform proxy host port (idle UInt8) log flow) :
    Negotiating platform server proxy host port flow rest ∨ Bridged platform server proxy host port peer log flow rest := by
  have whole : handleConnection platform server peer =
      (.ask (.read 8192) fun reply => (ioWithin .timeout reply).bind fun bytes => .done bytes.val : Router Bytes).bind
        fun bytes => serve platform server peer bytes := by
    simp only [handleConnection, ask_bind, bind_assoc, done_bind]
  have ungranted : ∀ taken : Bytes, Ungranted server.config ⟨[], taken⟩ := fun _ => early_ungranted _ _ (.inl List.nil_prefix)
  rw [whole] at reached
  rcases follows_stage _ _ _ rest log _ flow (opening_serves platform server proxy host port) reached exchanged with
    inside | ⟨bytes, first, log, _, rfl, _, ⟨rfl, part⟩, _, reached, exchanged⟩
  · exact .inl inside
  rw [serve] at reached
  cases detected : detectProtocol bytes with
  | error failure =>
      rw [detected] at reached
      obtain ⟨rfl, rfl⟩ := reaches_fail _ _ _ reached
      cases exchanged
      exact .inl (.inr ⟨failure, rfl, ungranted _⟩)
  | ok protocol =>
      rw [detected, ofExcept_ok, bind_eq, done_bind, detected_greeting platform proxy bytes protocol part detected] at reached
      rcases follows_stage _ _ _ rest log _ flow (aside_serves platform server proxy host port _ _
          (selection_for_uses Aside platform .socks5 bytes peer trivial) (ungranted bytes)) reached exchanged with
        inside | ⟨selection, route, log, _, rfl, _, ⟨rfl, _⟩, _, reached, exchanged⟩
      · exact .inl inside
      rcases follows_stage _ _ _ rest log _ flow (aside_serves platform server proxy host port _ _
          (resolve_uses Aside server selection trivial) (ungranted bytes)) reached exchanged with
        inside | ⟨chain, load, log, _, rfl, _, ⟨rfl, _⟩, _, reached, exchanged⟩
      · exact .inl inside
      rcases dispatch_socks5 platform server peer bytes chain with ⟨_, empty⟩ | handled
      · rw [empty] at reached
        obtain ⟨rfl, rfl⟩ := reaches_fail _ _ _ reached
        cases exchanged
        exact .inl (.inr ⟨.panic, rfl, ungranted _⟩)
      · rw [handled] at reached
        have states := handle_socks5_states platform server proxy host port fits peer bytes part
          (first ++ (route ++ load)) log flow rest
          reached exchanged
        simpa only [List.append_assoc] using states

end Server

section Agreement

variable (platform : Platform) (server : ProxyServer) (peer : IpAddr) (texts : Socks5Texts) (proxy : ProxyConfig) (host : Str)
  (port : UInt16)

abbrev Cascade : Type := Joined signature signature UInt8 Failure Failure Unit Unit

-- A router's handshake with its next hop, and the connection task of another
-- router at the other end, in any interleaving and segmentation.
def Cascaded (state : Cascade) : Prop :=
  Joined.Reached (upstreamPort platform) clientPort (socks5Handshake texts proxy host port)
    (handleConnection platform server peer) state

theorem cascade_states (fits : FitsLengthBytes proxy host) (state : Cascade)
    (reached : Cascaded platform server peer texts proxy host port state) :
    Negotiating platform server proxy host port state.far.flow state.far.rest ∨
      Bridged platform server proxy host port peer state.far.log state.far.flow state.far.rest := by
  have coupled := joined_coupled _ _ state reached
  have supplied := joined_supplied _ _ (negotiation platform proxy host port) (negotiation_monotone platform proxy host port)
    (handshake_answers platform proxy host port texts) state reached
  exact handle_connection_states platform server proxy host port fits peer _ _ _ coupled.farReaches supplied

theorem near_state (state : Cascade) (reached : Cascaded platform server peer texts proxy host port state) :
    Follows (upstreamPort platform) (fun _ _ => True) (HandshakeAsks platform proxy host port)
      (fun flow _ => Concluded platform proxy host port flow)
        (HandshakeFails platform proxy host port) state.near.flow state.near.rest := by
  have coupled := joined_coupled _ _ state reached
  exact follows_reaches _ _ _ _ _ _
    (handshake_negotiates platform proxy host port texts) coupled.nearReaches coupled.nearExchanged

-- What the two routers agree on when the handshake of the first is done.
structure Agreement (state : Cascade) : Prop where
  bridged : Bridged platform server proxy host port peer state.far.log state.far.flow state.far.rest
  read : state.near.flow.taken = replies server.config ++ socks5Granted
  consumed : state.far.flow.taken = state.near.flow.sent

theorem byte_at_comparable (one other : Bytes) (i : Nat) (comparable : one <+: other ∨ other <+: one) (inside : i < one.length)
    (within : i < other.length) : byteAt one i = byteAt other i := by
  rcases comparable with part | part
  · exact (byte_at_start one other i part inside).symm
  · exact byte_at_start other one i part within

theorem concluded_length (config : RouterConfig) (flow : Flow UInt8) (concluded : Concluded platform proxy host port flow)
    (comparable : flow.taken <+: replies config ++ socks5Granted ∨ replies config ++ socks5Granted <+: flow.taken) :
    flow.taken.length = (replies config ++ socks5Granted).length := by
  obtain ⟨login, response, address, fields, ⟨cleared⟩, four, size⟩ := concluded.taken
  have same := byte_at_comparable flow.taken (replies config ++ socks5Granted)
  have long : 6 ≤ flow.taken.length := by
    rw [fields, List.length_append, List.length_append]
    rcases cleared with ⟨length, _⟩ | ⟨length, _⟩ <;> omega
  have login1 : byteAt flow.taken 1 = byteAt login 1 := by
    rw [fields]
    exact byte_at_left _ _ 1 (by rcases cleared with ⟨length, _⟩ | ⟨length, _⟩ <;> omega)
  have replied : (replies config).length = login.length := by
    have second := same 1 comparable (by omega)
    by_cases auth : config.auth = some true
    · have all : replies config = [0x05, 0x02, 0x01, 0x00] := if_pos auth
      rw [all] at second ⊢
      have two : byteAt login 1 = 0x02 := login1.symm.trans (second (by decide))
      rcases cleared with ⟨_, zero⟩ | ⟨length, _⟩
      · rw [two] at zero
        cases zero
      · exact length.symm
    · have all : replies config = [0x05, 0x00] := if_neg auth
      rw [all] at second ⊢
      have zero : byteAt login 1 = 0x00 := login1.symm.trans (second (by decide))
      rcases cleared with ⟨length, _⟩ | ⟨_, two, _⟩
      · exact length.symm
      · rw [zero] at two
        cases two
  have total : (replies config ++ socks5Granted).length = login.length + 10 := by
    rw [List.length_append, replied]
    rfl
  have inside : login.length + 3 < flow.taken.length := by
    rw [fields, List.length_append, List.length_append]
    omega
  have kind : byteAt response 3 = 0x01 := by
    have fourth := same (login.length + 3) comparable inside (by omega)
    have left : byteAt flow.taken (login.length + 3) = byteAt response 3 := by
      rw [fields, byte_at_right]
      exact byte_at_left response address 3 (by omega)
    have right : byteAt (replies config ++ socks5Granted) (login.length + 3) = 0x01 := by
      rw [← replied, byte_at_right]
      rfl
    exact left.symm.trans (fourth.trans right)
  rw [total, fields, List.length_append, List.length_append, four, size kind]

theorem concluded_ungranted (config : RouterConfig) (near far : Flow UInt8) (concluded : Concluded platform proxy host port near)
    (arrived : near.taken <+: far.sent) : ¬ Ungranted config far := by
  intro ungranted
  have length := arrived.length_le
  rcases ungranted.sent with part | refused
  · have same := concluded_length platform proxy host port config near concluded (.inl (arrived.trans part))
    have short := ungranted.short
    omega
  · obtain ⟨login, response, address, fields, _, four, _⟩ := concluded.taken
    have two : far.sent.length ≤ 2 := refused.length_le
    rw [fields, List.length_append, List.length_append] at length
    omega

theorem cascade_agrees (fits : FitsLengthBytes proxy host) (state : Cascade)
    (reached : Cascaded platform server peer texts proxy host port state) (done : state.near.rest = .done ()) :
    Agreement platform server peer proxy host port state := by
  have coupled := joined_coupled _ _ state reached
  have concluded : Concluded platform proxy host port state.near.flow := by
    have follows := near_state platform server peer texts proxy host port state reached
    rwa [done] at follows
  rcases cascade_states platform server peer texts proxy host port fits state reached with inside | bridged
  · have ungranted : Ungranted server.config state.far.flow := by
      rcases inside with ⟨_, _, _, asks⟩ | ⟨_, _, fails⟩
      · exact asks.1
      · exact fails
    exact absurd ungranted (concluded_ungranted platform proxy host port server.config _ _ concluded coupled.arrived)
  · have comparable := List.prefix_or_prefix_of_prefix coupled.arrived bridged.sent
    have length := concluded_length platform proxy host port server.config _ concluded comparable
    have read : state.near.flow.taken = replies server.config ++ socks5Granted := by
      rcases comparable with part | part
      · exact part.eq_of_length length
      · exact (part.eq_of_length length.symm).symm
    refine ⟨bridged, read, ?_⟩
    have all : state.near.flow.sent = negotiation platform proxy host port (replies server.config) := by
      rw [concluded.sent, read]
      rw [replies]
      split
      · rfl
      · rfl
    have taken := bridged.taken
    rw [← all] at taken
    exact coupled.delivered.eq_of_length (Nat.le_antisymm coupled.delivered.length_le taken.length_le)

abbrev UnfaultedStep : Cascade → Cascade → Prop := Joined.Step (upstreamPort platform) clientPort Unfaulted Unfaulted

theorem read_ready (limit : Nat) (positive : 0 < limit) (flow : Flow UInt8) (incoming : Bytes) (part : flow.taken <+: incoming)
    (more : flow.taken.length < incoming.length) : Ready clientPort Unfaulted incoming flow (.read limit) := by
  obtain ⟨bytes, one, there⟩ := more_arrived flow.taken incoming 1 part more
  have some : bytes ≠ [] := fun none => by rw [none] at one; cases one
  exact ⟨(.ok ⟨bytes, by omega⟩ : Except Fault { bytes : Bytes // bytes.length ≤ limit }), [],
    bytes, ⟨⟨bytes, by omega⟩, rfl, some⟩, rfl, rfl,
    there⟩

theorem read_exact_ready (count : Nat) (flow : Flow UInt8) (incoming : Bytes) (part : flow.taken <+: incoming)
    (enough : flow.taken.length + count ≤ incoming.length) : Ready clientPort Unfaulted incoming flow (.readExact count) := by
  obtain ⟨bytes, length, there⟩ := more_arrived flow.taken incoming count part enough
  exact ⟨(.ok ⟨bytes, length⟩ : Except Fault { bytes : Bytes // bytes.length = count }), [],
    bytes, ⟨⟨bytes, length⟩, rfl⟩, rfl, rfl, there⟩

theorem receive_exact_ready (count : Nat) (flow : Flow UInt8) (incoming : Bytes) (part : flow.taken <+: incoming)
    (enough : flow.taken.length + count ≤ incoming.length) :
    Ready (upstreamPort platform) Unfaulted incoming flow (.receiveExact count) := by
  obtain ⟨bytes, length, there⟩ := more_arrived flow.taken incoming count part enough
  exact ⟨(.ok ⟨bytes, length⟩ : Except Fault { bytes : Bytes // bytes.length = count }), [],
    bytes, ⟨⟨bytes, length⟩, rfl⟩, rfl, rfl, there⟩

theorem other_ready (flow : Flow UInt8) (incoming : Bytes) (part : flow.taken <+: incoming)
    (op : Op) (notRead : ∀ limit, op ≠ .read limit)
    (notExact : ∀ count, op ≠ .readExact count) : Ready clientPort Unfaulted incoming flow op := by
  have still : flow.taken ++ [] <+: incoming := by rwa [List.append_nil]
  cases op with
  | read limit => exact absurd rfl (notRead limit)
  | readExact count => exact absurd rfl (notExact count)
  | reply bytes => exact ⟨(.ok () : Except Fault Unit), bytes, [], rfl, rfl, rfl, still⟩
  | dial address => exact ⟨(.ok () : Except Fault Unit), [], [], rfl, rfl, rfl, still⟩
  | send message => exact ⟨(.ok () : Except Fault Unit), [], [], rfl, rfl, rfl, still⟩
  | receive limit =>
      exact ⟨(.ok ⟨[], Nat.zero_le _⟩ : Except Fault { bytes : Bytes // bytes.length ≤ limit }),
        [], [], ⟨_, rfl⟩, rfl, rfl, still⟩
  | receiveExact count =>
      exact ⟨(.ok ⟨List.replicate count 0, List.length_replicate⟩ : Except Fault { bytes : Bytes // bytes.length = count }),
        [], [],
        ⟨_, rfl⟩, rfl, rfl, still⟩
  | authenticate username secret => exact ⟨(.ok none : Except Fault (Option Account)), [], [], trivial, rfl, rfl, still⟩
  | authenticateByIp peer => exact ⟨(.ok none : Except Fault (Option Account)), [], [], trivial, rfl, rfl, still⟩
  | load => exact ⟨([], ⟨0, fun _ => 0, fun _ _ => 0⟩), [], [], trivial, rfl, rfl, still⟩
  | relay id costPerByte => exact ⟨(.ok () : Except Failure Unit), [], [], trivial, trivial, trivial, still⟩
  | record success => exact ⟨(), [], [], trivial, rfl, rfl, still⟩
  | decrement => exact ⟨(), [], [], trivial, rfl, rfl, still⟩

theorem waiting_read_all (taken sent : Bytes) (count : Nat) (part : taken <+: sent)
    (between : Between sent) (settled : Awaited taken count)
    (short : sent.length < taken.length + count) : taken = sent := by
  refine whole_of_length taken sent part ?_
  have length := part.length_le
  rcases settled with ⟨none, two⟩ | ⟨size, login⟩ | four
  · subst none two
    rcases between with rfl | rfl | rfl | rfl
    · exact Nat.le_refl 0
    · exact absurd short (by decide)
    · exact absurd short (by decide)
    · exact absurd short (by decide)
  · have same := byte_at_start taken sent 1 part (by omega)
    rcases between with rfl | rfl | rfl | rfl
    · exact Nat.zero_le _
    · exact size.ge
    · exact size.ge
    · have two : count = 2 := login (same.symm.trans rfl)
      rw [size, two] at short
      exact absurd short (by decide)
  · have bound : sent.length ≤ 4 := by
      rcases between with rfl | rfl | rfl | rfl <;> decide
    omega

theorem cascade_progresses (fits : FitsLengthBytes proxy host) (state : Cascade)
    (reached : Cascaded platform server peer texts proxy host port state) (nearRuns : ¬ Ended state.near.rest)
    (farRuns : ¬ Ended state.far.rest) :
    ∃ next, UnfaultedStep platform state next := by
  have coupled := joined_coupled _ _ state reached
  have follows := near_state platform server peer texts proxy host port state reached
  have states := cascade_states platform server peer texts proxy host port fits state reached
  obtain ⟨near, far⟩ := state
  have nearStep : ∀ op next, near.rest = .ask op next → Ready (upstreamPort platform) Unfaulted far.flow.sent near.flow op →
      ∃ next, UnfaultedStep platform ⟨near, far⟩ next := by
    intro op next asks ready
    obtain ⟨other, moves⟩ := ready_moves Unfaulted _ near op next asks ready
    exact ⟨_, .near near other far moves⟩
  have farStep : ∀ op next, far.rest = .ask op next → Ready clientPort Unfaulted near.flow.sent far.flow op →
      ∃ next, UnfaultedStep platform ⟨near, far⟩ next := by
    intro op next asks ready
    obtain ⟨other, moves⟩ := ready_moves Unfaulted _ far op next asks ready
    exact ⟨_, .far near far other moves⟩
  rcases ended_or_asks near.rest with ended | ⟨op, next, asks⟩
  · exact absurd ended nearRuns
  rw [asks] at follows
  have asked : HandshakeAsks platform proxy host port near.flow op := follows.1
  cases op with
  | send message =>
      refine nearStep _ next asks ⟨(.ok () : Except Fault Unit), message.bytes platform, [], rfl, rfl, rfl, ?_⟩
      rw [List.append_nil]
      exact coupled.arrived
  | receiveExact count =>
      obtain ⟨sent, settled⟩ := asked
      by_cases enough : near.flow.taken.length + count ≤ far.flow.sent.length
      · exact nearStep _ next asks (receive_exact_ready platform count near.flow _ coupled.arrived enough)
      rcases states with inside | bridged
      · rcases inside with ⟨op, body, rest, early, serverReads⟩ | ⟨failure, failed, _⟩
        · have short : far.flow.sent.length < near.flow.taken.length + count := by omega
          have all : Between far.flow.sent → near.flow.sent = negotiation platform proxy host port far.flow.sent :=
            fun between => by
            rw [sent, waiting_read_all _ _ count coupled.arrived between settled short]
          cases op with
          | read limit =>
              obtain ⟨between, positive, more⟩ := serverReads
              rw [← all between] at more
              exact farStep _ body rest (read_ready limit positive far.flow _ coupled.delivered more)
          | readExact size =>
              obtain ⟨between, more⟩ := serverReads
              rw [← all between] at more
              exact farStep _ body rest (read_exact_ready size far.flow _ coupled.delivered more)
          | _ => exact farStep _ body rest (other_ready far.flow _ coupled.delivered _ (fun _ => nofun) fun _ => nofun)
        · exact absurd ⟨.error failure, failed⟩ farRuns
      · rcases ended_or_asks far.rest with ended | ⟨op, body, rest⟩
        · exact absurd ended farRuns
        obtain ⟨_, _, _, _, _, _, _, _, id, _, _, chain, _, _, _, _, _, _, _, relays⟩ := bridged.stages
        have quiet : Uses (fun op : Op => (∀ limit, op ≠ .read limit) ∧ ∀ count, op ≠ .readExact count)
          (relayed id (firstCost chain)) :=
          relayed_uses _ id _ ⟨fun _ => nofun, fun _ => nofun⟩ ⟨fun _ => nofun, fun _ => nofun⟩ ⟨fun _ => nofun, fun _ => nofun⟩
        rw [rest] at relays
        have own := (uses_event _ _ _ quiet relays).2.1
        exact farStep op body rest (other_ready far.flow _ coupled.delivered op own.1 own.2)
  | _ => exact asked.elim

abbrev CascadeStep : Cascade → Cascade → Prop := Joined.Step (upstreamPort platform) clientPort (fun _ => True) (fun _ => True)

theorem cascade_completes (fits : FitsLengthBytes proxy host) (state : Cascade)
    (reached : Cascaded platform server peer texts proxy host port state) :
    (∃ last, Relation.ReflTransGen (UnfaultedStep platform) state last ∧
      Cascaded platform server peer texts proxy host port last ∧
      (Ended last.near.rest ∨ Ended last.far.rest)) ∧
    ∀ run : Nat → Cascade, run 0 = state → ∃ turn, ¬ CascadeStep platform (run turn) (run (turn + 1)) := by
  refine ⟨?_, fun run _ => joined_run_stops _ _ run⟩
  refine joined_completes Unfaulted Unfaulted (Cascaded platform server peer texts proxy host port)
    (fun state => Ended state.near.rest ∨ Ended state.far.rest) ?_ ?_ state reached
  · intro one other step reached
    exact reached.tail (step_any Unfaulted Unfaulted one other step)
  · intro one reached running
    rw [not_or] at running
    exact cascade_progresses platform server peer texts proxy host port fits one reached running.1 running.2

end Agreement

section Examples

def guardedServer : ProxyServer := ⟨none, ⟨none, some true⟩⟩
def guardedHop : ProxyConfig :=
  ⟨none, .socks5, "10.0.0.1", some 1080, some "u-country-us", some "p", ⟨none, none, none, none, none⟩, 1, none⟩
def firstExit : ProxyConfig :=
  ⟨none, .socks4, "10.0.0.2", some 1081, none, none, ⟨some "de", none, none, none, none⟩, 1, none⟩
def secondExit : ProxyConfig :=
  ⟨none, .socks4, "10.0.0.3", some 1082, none, none, ⟨some "us", none, none, none, none⟩, 1, none⟩
def exits : List ProxyConfig := [firstExit, secondExit]

abbrev GuardedCascade : Cascade → Prop := Cascaded standard guardedServer (.v4 0) handlerTexts guardedHop ['a'] 80

def readAll (bytes : Bytes) : Event := exactly bytes.length ⟨bytes, rfl⟩
def receivedAll (bytes : Bytes) : Event := receivedExact bytes.length ⟨bytes, rfl⟩

def shownLogin : Bytes := [1, 12, 117, 45, 99, 111, 117, 110, 116, 114, 121, 45, 117, 115, 1, 112]
def askedTarget : Bytes := [5, 1, 0, 3, 1, 97, 0, 80]

theorem shown_login_length : shownLogin.length ≤ 513 := by decide

def openingLog : History :=
  [readOnce 8192 ⟨[5, 2, 0, 2], by decide⟩, askedByIp (.v4 0) (.ok none), loaded exits firstDraws, wrote [5, 2]]

def admittingLog : History :=
  [readOnce 513 ⟨shownLogin, shown_login_length⟩, asked "u".toList "p".toList (.ok (some ⟨7, some 1, none⟩)), wrote [1, 0]]

def grantingLog : History :=
  [readAll [5, 1, 0, 3], readAll [1], readAll [97, 0, 80], loaded exits firstDraws, dialled (getUpstreamAddr secondExit),
    sent (.connect4 ['a'] 80), receivedAll [0, 90, 0, 0, 0, 0, 0, 0], wrote socks5Granted]

def offeredLog : History := [sent (.methods [0, 2])]
def shownLog : History := [receivedAll [5, 2], sent (.userPass "u-country-us".toList "p".toList)]
def requestedLog : History := [receivedAll [1, 0], sent (.connect5 ['a'] 80)]
def finishedLog : History := [receivedAll [5, 0, 0, 1], receivedAll [0, 0, 0, 0, 0, 0]]

theorem guarded_server_runs :
    ∃ greeted admitted relaying, Reaches (handleConnection standard guardedServer (.v4 0)) openingLog greeted ∧
    Reaches greeted admittingLog admitted ∧ Reaches admitted grantingLog relaying :=
  ⟨_, _, _, .step _ _ _ _ _ (.step _ _ _ _ _ (.step _ _ _ _ _ (.step _ _ _ _ _ (.here _)))),
    .step _ _ _ _ _ (.step _ _ _ _ _ (.step _ _ _ _ _ (.here _))),
    .step _ _ _ _ _ (.step _ _ _ _ _ (.step _ _ _ _ _ (.step _ _ _ _ _ (.step _ _ _ _ _
      (.step _ _ _ _ _ (.step _ _ _ _ _ (.step _ _ _ _ _ (.here _))))))))⟩

theorem guarded_handshake_runs :
    ∃ offered shown requested, Reaches (socks5Handshake handlerTexts guardedHop ['a'] 80) offeredLog offered ∧
    Reaches offered shownLog shown ∧ Reaches shown requestedLog requested ∧ Reaches requested finishedLog (.done ()) :=
  ⟨_, _, _, .step _ _ _ _ _ (.here _), .step _ _ _ _ _ (.step _ _ _ _ _ (.here _)), .step _ _ _ _ _ (.step _ _ _ _ _ (.here _)),
    .step _ _ _ _ _ (.step _ _ _ _ _ (.here _))⟩

abbrev Reading (port : Port signature UInt8) (incoming : Bytes) (start : Flow UInt8) (log : History) (stop : Flow UInt8) : Prop :=
  Exchanged port (fun _ taken => taken <+: incoming) start log stop

theorem guarded_offer : Reading (upstreamPort standard) [] (idle UInt8) offeredLog ⟨[5, 2, 0, 2], []⟩ :=
  .cons _ _ _ _ [5, 2, 0, 2] [] rfl rfl (by decide) (.nil _)

theorem guarded_opening : Reading clientPort [5, 2, 0, 2] (idle UInt8) openingLog ⟨[5, 2], [5, 2, 0, 2]⟩ :=
  .cons _ _ _ _ [] [5, 2, 0, 2] rfl rfl (by decide) (.cons _ _ _ _ [] [] rfl rfl (by decide)
    (.cons _ _ _ _ [] [] rfl rfl (by decide) (.cons _ _ _ _ [5, 2] [] rfl rfl (by decide) (.nil _))))

theorem guarded_login : Reading (upstreamPort standard) [5, 2] ⟨[5, 2, 0, 2], []⟩ shownLog ⟨[5, 2, 0, 2] ++ shownLogin, [5, 2]⟩ :=
  .cons _ _ _ _ [] [5, 2] rfl rfl (by decide) (.cons _ _ _ _ shownLogin [] rfl rfl (by decide) (.nil _))

theorem guarded_admission : Reading clientPort ([5, 2, 0, 2] ++ shownLogin) ⟨[5, 2], [5, 2, 0, 2]⟩ admittingLog
    ⟨[5, 2, 1, 0], [5, 2, 0, 2] ++ shownLogin⟩ :=
  .cons _ _ _ _ [] shownLogin rfl rfl (by decide) (.cons _ _ _ _ [] [] rfl rfl (by decide)
    (.cons _ _ _ _ [1, 0] [] rfl rfl (by decide) (.nil _)))

theorem guarded_request : Reading (upstreamPort standard) [5, 2, 1, 0] ⟨[5, 2, 0, 2] ++ shownLogin, [5, 2]⟩ requestedLog
    ⟨[5, 2, 0, 2] ++ shownLogin ++ askedTarget, [5, 2, 1, 0]⟩ :=
  .cons _ _ _ _ [] [1, 0] rfl rfl (by decide) (.cons _ _ _ _ askedTarget [] rfl rfl (by decide) (.nil _))

theorem guarded_granting :
    Reading clientPort ([5, 2, 0, 2] ++ shownLogin ++ askedTarget) ⟨[5, 2, 1, 0], [5, 2, 0, 2] ++ shownLogin⟩
    grantingLog ⟨[5, 2, 1, 0] ++ socks5Granted, [5, 2, 0, 2] ++ shownLogin ++ askedTarget⟩ :=
  .cons _ _ _ _ [] [5, 1, 0, 3] rfl rfl (by decide) (.cons _ _ _ _ [] [1] rfl rfl (by decide)
    (.cons _ _ _ _ [] [97, 0, 80] rfl rfl (by decide)
      (.cons _ _ _ _ [] [] rfl rfl (by decide) (.cons _ _ _ _ [] [] rfl rfl (by decide)
      (.cons _ _ _ _ [] [] rfl rfl (by decide) (.cons _ _ _ _ [] [] rfl rfl (by decide)
        (.cons _ _ _ _ socks5Granted [] rfl rfl (by decide) (.nil _))))))))

theorem guarded_finish : Reading (upstreamPort standard) ([5, 2, 1, 0] ++ socks5Granted)
    ⟨[5, 2, 0, 2] ++ shownLogin ++ askedTarget, [5, 2, 1, 0]⟩ finishedLog
    ⟨[5, 2, 0, 2] ++ shownLogin ++ askedTarget, [5, 2, 1, 0] ++ socks5Granted⟩ :=
  .cons _ _ _ _ [] [5, 0, 0, 1] rfl rfl (by decide) (.cons _ _ _ _ [] [0, 0, 0, 0, 0, 0] rfl rfl (by decide) (.nil _))

theorem guarded_cascade_runs : ∃ state, GuardedCascade state ∧ state.near.rest = .done () ∧
    state.far.log = openingLog ++ admittingLog ++ grantingLog := by
  obtain ⟨greeted, admitted, relaying, opens, admits, grants⟩ := guarded_server_runs
  obtain ⟨offered, shown, requested, offers, shows, requests, finishes⟩ := guarded_handshake_runs
  have start : GuardedCascade ⟨party _, party _⟩ := .refl
  have one := start.trans (near_run offered offeredLog _ _ _ offers guarded_offer)
  have two := one.trans (far_run greeted openingLog _ _ _ opens guarded_opening)
  have three := two.trans (near_run shown shownLog _ _ _ shows guarded_login)
  have four := three.trans (far_run admitted admittingLog _ _ _ admits guarded_admission)
  have five := four.trans (near_run requested requestedLog _ _ _ requests guarded_request)
  have six := five.trans (far_run relaying grantingLog _ _ _ grants guarded_granting)
  have seven := six.trans (near_run (.done ()) finishedLog _ _ _ finishes guarded_finish)
  exact ⟨_, seven, rfl, rfl⟩

theorem guarded_fits : FitsLengthBytes guardedHop ['a'] := by
  refine ⟨by decide, ?_⟩
  intro username password known
  cases known
  decide

-- The second router has asked for the base of the configured name, and left by
-- the exit that its token selects.
theorem guarded_cascade_agrees : ∃ state, GuardedCascade state ∧ state.far.log = openingLog ++ admittingLog ++ grantingLog ∧
    Agreement standard guardedServer (.v4 0) guardedHop ['a'] 80 state := by
  obtain ⟨state, reached, done, log⟩ := guarded_cascade_runs
  exact ⟨state, reached, log, cascade_agrees standard guardedServer (.v4 0) handlerTexts guardedHop
    ['a'] 80 guarded_fits state reached done⟩

theorem guarded_cascade_completes : ∃ last, GuardedCascade last ∧ (Ended last.near.rest ∨ Ended last.far.rest) := by
  obtain ⟨⟨last, _, reached, ended⟩, _⟩ :=
    cascade_completes standard guardedServer (.v4 0) handlerTexts guardedHop ['a'] 80 guarded_fits
    (joined _ _) .refl
  exact ⟨last, reached, ended⟩

end Examples

end Purroute
