import Purroute.Commands

set_option autoImplicit false

namespace Purroute

open Interaction Interaction.Program

def Answers (program : Router Unit) (bytes : Bytes) : Prop := ∃ next, program = .ask (.reply bytes) next

def Refuses (program : Router Unit) : Prop :=
  ∃ next, program = .ask (.reply [0x05, 0xFF]) next ∧ ∀ reply, ∃ failure, next reply = .fail failure

structure ExactNegotiation (server : ProxyServer) (peer : IpAddr) (request : Bytes) : Prop where
  passwordChosen : Answers (handleSocks5 server request peer) [0x05, 0x02] ↔
    Greeting request ∧ server.config.auth = some true ∧ 0x02 ∈ listedMethods request
  nothingChosen : Answers (handleSocks5 server request peer) [0x05, 0x00] ↔
    Greeting request ∧ server.config.auth ≠ some true ∧ 0x00 ∈ listedMethods request
  refused : Refuses (handleSocks5 server request peer) ↔
    Greeting request ∧ wantedMethod server.config ∉ listedMethods request
  silent : (∃ failure, handleSocks5 server request peer = .fail failure) ↔ ¬ Greeting request
  asks : ∀ trace name secret,
    (∃ next, Reaches (handleSocks5 server request peer) trace (.ask (.authenticate name secret) next)) ↔
      Greeting request ∧ server.config.auth = some true ∧ 0x02 ∈ listedMethods request ∧
        ∃ message username selection, trace = [wrote [0x05, 0x02], readOnce 513 message] ∧
          LoginMessage message.val username secret ∧
          parseUsername username = .ok (name, selection)
  inside : greetingMethodsWithin request ≠ .error .panic ∧ ∀ message, socks5CredentialsWithin message ≠ .error .panic

section Answering

variable (server : ProxyServer) (peer : IpAddr) (request : Bytes)

inductive Begins : Prop
  | malformed (malformed : ¬ Greeting request) (failure : Failure) (silent : handleSocks5 server request peer = .fail failure)
  | password (greeting : Greeting request) (auth : server.config.auth = some true) (offered : 0x02 ∈ listedMethods request)
      (answers : Answers (handleSocks5 server request peer) [0x05, 0x02])
  | nothing (greeting : Greeting request) (auth : server.config.auth ≠ some true) (offered : 0x00 ∈ listedMethods request)
      (answers : Answers (handleSocks5 server request peer) [0x05, 0x00])
  | refused (greeting : Greeting request) (absent : wantedMethod server.config ∉ listedMethods request)
      (refuses : Refuses (handleSocks5 server request peer))

theorem answers_unique (program : Router Unit) (one other : Bytes) (first : Answers program one)
    (second : Answers program other) : one = other := by
  obtain ⟨next, rfl⟩ := first
  obtain ⟨later, same⟩ := second
  cases same
  rfl

theorem refuses_answers (program : Router Unit) (refuses : Refuses program) : Answers program [0x05, 0xFF] :=
  ⟨refuses.choose, refuses.choose_spec.1⟩

theorem failed_silent (program : Router Unit) (failed : ∃ failure, program = .fail failure) (bytes : Bytes) :
    ¬ Answers program bytes := by
  obtain ⟨failure, rfl⟩ := failed
  intro answers
  obtain ⟨next, same⟩ := answers
  cases same

theorem refuse_methods_refuses {A : Type} (reason : Failure) (next : A → Router Unit) :
    Refuses ((refuseMethods reason).bind next) := by
  have stops : ∀ reply : Except Fault Unit, ∃ failure,
    ((io reply).bind fun _ => (.fail reason : Router A)).bind next = .fail failure := by
    intro reply
    rcases io_cases reply with ⟨_, _, done⟩ | ⟨failure, failed⟩
    · exact ⟨reason, by rw [done]; rfl⟩
    · exact ⟨failure, by rw [failed]; rfl⟩
  exact ⟨_, rfl, stops⟩

theorem negotiation_begins : Begins server peer request := by
  by_cases greeting : Greeting request
  · have methods := greeting_methods_ok request greeting
    by_cases auth : server.config.auth = some true
    · by_cases offered : 0x02 ∈ listedMethods request
      · refine .password greeting auth offered ?_
        rw [handleSocks5, methods, ofExcept_ok, bind_eq, done_bind, socks5Authenticate, if_pos auth, if_pos offered]
        exact ⟨_, rfl⟩
      · refine .refused greeting (by rw [wantedMethod, if_pos auth]; exact offered) ?_
        rw [handleSocks5, methods, ofExcept_ok, bind_eq, done_bind, socks5Authenticate, if_pos auth, if_neg offered]
        exact refuse_methods_refuses _ _
    · by_cases offered : 0x00 ∈ listedMethods request
      · refine .nothing greeting auth offered ?_
        rw [handleSocks5, methods, ofExcept_ok, bind_eq, done_bind, socks5Authenticate, if_neg auth, if_pos offered]
        exact ⟨_, rfl⟩
      · refine .refused greeting (by rw [wantedMethod, if_neg auth]; exact offered) ?_
        rw [handleSocks5, methods, ofExcept_ok, bind_eq, done_bind, socks5Authenticate, if_neg auth, if_neg offered]
        exact refuse_methods_refuses _ _
  · obtain ⟨failure, failed⟩ := greeting_methods_error request greeting
    refine .malformed greeting failure ?_
    rw [handleSocks5, failed]
    rfl

end Answering

section Asking

variable {A : Type} (name secret : Str) (rest : Except Fault (Option Account) → Router A)

theorem io_asks {R : Type} (reply : Except Fault R) (next : R → Router A) (trace : History)
    (reached : Reaches ((io reply).bind next) trace (.ask (.authenticate name secret) rest)) :
    ∃ value, reply = .ok value ∧ Reaches (next value) trace (.ask (.authenticate name secret) rest) := by
  rcases io_cases reply with ⟨value, known, done⟩ | ⟨failure, failed⟩
  · rw [done] at reached
    exact ⟨value, known, reached⟩
  · rw [failed] at reached
    cases reached

theorem client_write_asks (bytes : Bytes) (next : Unit → Router A) (trace : History)
    (reached : Reaches ((clientWrite bytes).bind next) trace (.ask (.authenticate name secret) rest)) :
    ∃ later, trace = wrote bytes :: later ∧ Reaches (next ()) later (.ask (.authenticate name secret) rest) := by
  cases reached with
  | step _ _ reply later _ behind =>
      obtain ⟨⟨⟩, rfl, asks⟩ := io_asks name secret rest reply next later behind
      exact ⟨later, rfl, asks⟩

theorem client_read_asks (limit : Nat) (next : Bytes → Router A) (trace : History)
    (reached : Reaches ((clientRead limit).bind next) trace (.ask (.authenticate name secret) rest)) :
    ∃ bytes later, trace = readOnce limit bytes :: later ∧
      Reaches (next bytes.val) later (.ask (.authenticate name secret) rest) := by
  cases reached with
  | step _ _ reply later _ behind =>
      change Reaches (((io reply).bind fun bytes => .done bytes.val).bind next) later _ at behind
      rw [bind_assoc] at behind
      obtain ⟨bytes, rfl, asks⟩ := io_asks name secret rest reply _ later behind
      exact ⟨bytes, later, rfl, asks⟩

theorem lookup_never_asks (result : Account → A) (reply : Except Fault (Option Account)) (trace : History) :
    ¬ Reaches ((admitted reply).bind fun account => (ofExcept (checkBandwidth account.bandwidthLimit)).bind fun _ =>
      .done (result account))
      trace (.ask (.authenticate name secret) rest) := by
  intro reached
  rcases lookup_cases reply result with ⟨account, _, _, ends⟩ | ⟨_, failure, refused⟩
  · rw [ends] at reached
    cases reached
  · rw [refused] at reached
    cases reached

end Asking

section Exact

variable (server : ProxyServer) (peer : IpAddr) (request : Bytes)

theorem socks5_login_asks_iff (message : Bytes) (name secret : Str) (trace : History) :
    (∃ next, Reaches (socks5Login message) trace (.ask (.authenticate name secret) next)) ↔
      trace = [] ∧ ∃ username selection, LoginMessage message username secret ∧
        parseUsername username = .ok (name, selection) := by
  constructor
  · intro asked
    obtain ⟨next, reached⟩ := asked
    rw [socks5Login] at reached
    cases presented : socks5Credentials message with
    | error failure =>
        rw [presented] at reached
        cases reached
    | ok pair =>
        obtain ⟨username, password⟩ := pair
        rw [presented, bind_eq, ofExcept_ok, done_bind] at reached
        dsimp only at reached
        rw [authenticate] at reached
        cases parsed : parseUsername username with
        | error reason =>
            rw [parsed] at reached
            cases reached
        | ok known =>
            rw [parsed] at reached
            cases reached with
            | here =>
                exact ⟨rfl, username, known.2, (socks5_credentials_iff message username _).mp presented, parsed⟩
            | step _ _ reply later _ behind => exact absurd behind (lookup_never_asks name secret next _ reply later)
  · intro presented
    obtain ⟨rfl, username, selection, login, parsed⟩ := presented
    rw [socks5Login, (socks5_credentials_iff message username secret).mpr login, bind_eq, ofExcept_ok, done_bind]
    dsimp only
    rw [authenticate, parsed]
    exact ⟨_, .here _⟩

theorem confirmation_quiet (selection : Selection) (id : Int) :
    Uses Outward ((clientWrite [0x01, 0x00]).bind fun _ => .done (selection, some id)) :=
  uses_bind _ _ (client_write_outward _) fun _ => trivial

theorem socks5_authenticate_asks_iff (methods : Bytes) (name secret : Str) (trace : History) :
    (∃ next, Reaches (socks5Authenticate server.config methods) trace (.ask (.authenticate name secret) next)) ↔
      server.config.auth = some true ∧ 0x02 ∈ methods ∧ ∃ message username selection,
        trace = [wrote [0x05, 0x02], readOnce 513 message] ∧ LoginMessage message.val username secret ∧
          parseUsername username = .ok (name, selection) := by
  rw [socks5Authenticate]
  by_cases auth : server.config.auth = some true
  · rw [if_pos auth]
    by_cases offered : 0x02 ∈ methods
    · rw [if_pos offered]
      constructor
      · intro asked
        obtain ⟨next, reached⟩ := asked
        obtain ⟨later, rfl, reads⟩ := client_write_asks name secret next _ _ trace reached
        obtain ⟨message, last, rfl, logs⟩ := client_read_asks name secret next 513 _ later reads
        obtain ⟨body, asks⟩ := reaches_before _ _ last _ next (fun login : Selection × Int =>
          confirmation_quiet login.1 login.2) not_false logs
        obtain ⟨rfl, username, selection, login, parsed⟩ := (socks5_login_asks_iff message.val name secret last).mp ⟨body, asks⟩
        exact ⟨auth, offered, message, username, selection, rfl, login, parsed⟩
      · intro negotiated
        obtain ⟨_, _, message, username, selection, rfl, login, parsed⟩ := negotiated
        obtain ⟨next, asks⟩ := (socks5_login_asks_iff message.val name secret []).mpr ⟨rfl, username, selection, login, parsed⟩
        have presented := reaches_bind_first (socks5Login message.val) _
          (fun login => (clientWrite [0x01, 0x00]).bind fun _ => .done (login.1, some login.2)) [] asks
        exact ⟨_, .step _ _ _ _ _ (.step _ _ _ _ _ presented)⟩
    · rw [if_neg offered]
      constructor
      · intro asked
        obtain ⟨next, reached⟩ := asked
        obtain ⟨later, rfl, stopped⟩ := client_write_asks name secret next _ _ trace reached
        cases stopped
      · intro negotiated
        exact absurd negotiated.2.1 offered
  · rw [if_neg auth]
    constructor
    · intro asked
      obtain ⟨next, reached⟩ := asked
      split at reached
      · obtain ⟨later, rfl, stopped⟩ := client_write_asks name secret next _ _ trace reached
        cases stopped
      · obtain ⟨later, rfl, stopped⟩ := client_write_asks name secret next _ _ trace reached
        cases stopped
    · intro negotiated
      exact absurd negotiated.1 auth

theorem handle_socks5_asks_iff (trace : History) (name secret : Str) :
    (∃ next, Reaches (handleSocks5 server request peer) trace (.ask (.authenticate name secret) next)) ↔
      Greeting request ∧ server.config.auth = some true ∧ 0x02 ∈ listedMethods request ∧ ∃ message username selection,
        trace = [wrote [0x05, 0x02], readOnce 513 message] ∧ LoginMessage message.val username secret ∧
          parseUsername username = .ok (name, selection) := by
  by_cases greeting : Greeting request
  · rw [handleSocks5, greeting_methods_ok request greeting, ofExcept_ok, bind_eq, done_bind]
    have method := socks5_authenticate_asks_iff server (listedMethods request) name secret trace
    constructor
    · intro asked
      obtain ⟨next, reached⟩ := asked
      -- Behind the negotiation nothing asks for an account.
      have quiet := fun login : Selection × Option Int => socks5_tail_keeps _ (after_login_closed login.2) server peer login.1
        (fun chain => relayed login.2 (firstCost chain)) fun _ => relayed_after_login _ _
      obtain ⟨body, asks⟩ := reaches_before _ _ trace _ next
        (fun login => uses_mono (fun op => ∃ id, AfterLogin id op) _ (fun op may => ⟨login.2, may⟩) (quiet login))
          (fun may => may.choose_spec) reached
      exact ⟨greeting, method.mp ⟨body, asks⟩⟩
    · intro negotiated
      obtain ⟨next, asks⟩ := method.mpr negotiated.2
      exact ⟨_, reaches_bind_first _ _ _ trace asks⟩
  · obtain ⟨failure, failed⟩ := greeting_methods_error request greeting
    rw [handleSocks5, failed]
    constructor
    · intro asked
      obtain ⟨next, reached⟩ := asked
      cases reached
    · intro negotiated
      exact absurd negotiated.1 greeting

theorem negotiation_exact : ExactNegotiation server peer request := by
  have asks := fun trace name secret => handle_socks5_asks_iff server peer request trace name secret
  have greetingInside : greetingMethodsWithin request ≠ .error .panic := by
    rw [greeting_methods_within]
    exact fun failed => greeting_fails request .panic failed rfl
  have messageInside : ∀ message, socks5CredentialsWithin message ≠ .error .panic := by
    intro message
    rw [socks5_credentials_within]
    exact fun failed => credentials_fail message .panic failed rfl
  have inside := And.intro greetingInside messageInside
  cases negotiation_begins server peer request with
  | malformed malformed failure silent =>
      have never := failed_silent (handleSocks5 server request peer) ⟨failure, silent⟩
      refine ⟨?_, ?_, ?_, ?_, asks, inside⟩
      · exact iff_of_false (never _) fun chosen => malformed chosen.1
      · exact iff_of_false (never _) fun chosen => malformed chosen.1
      · exact iff_of_false (fun refuses => never _ (refuses_answers _ refuses)) fun turned => malformed turned.1
      · exact iff_of_true ⟨failure, silent⟩ malformed
  | password greeting auth offered answers =>
      have only := fun bytes other => answers_unique _ [0x05, 0x02] bytes answers other
      have wanted : wantedMethod server.config ∈ listedMethods request := by
        rw [wantedMethod, if_pos auth]
        exact offered
      refine ⟨?_, ?_, ?_, ?_, asks, inside⟩
      · exact iff_of_true answers ⟨greeting, auth, offered⟩
      · exact iff_of_false (fun other => absurd (only _ other) (by decide)) fun chosen => chosen.2.1 auth
      · exact iff_of_false (fun refuses => absurd (only _ (refuses_answers _ refuses)) (by decide)) fun turned => turned.2 wanted
      · exact iff_of_false (fun failed => failed_silent _ failed _ answers) (not_not.mpr greeting)
  | nothing greeting auth offered answers =>
      have only := fun bytes other => answers_unique _ [0x05, 0x00] bytes answers other
      have wanted : wantedMethod server.config ∈ listedMethods request := by
        rw [wantedMethod, if_neg auth]
        exact offered
      refine ⟨?_, ?_, ?_, ?_, asks, inside⟩
      · exact iff_of_false (fun other => absurd (only _ other) (by decide)) fun chosen => auth chosen.2.1
      · exact iff_of_true answers ⟨greeting, auth, offered⟩
      · exact iff_of_false (fun refuses => absurd (only _ (refuses_answers _ refuses)) (by decide)) fun turned => turned.2 wanted
      · exact iff_of_false (fun failed => failed_silent _ failed _ answers) (not_not.mpr greeting)
  | refused greeting absent refuses =>
      have answers := refuses_answers _ refuses
      have only := fun bytes other => answers_unique _ [0x05, 0xFF] bytes answers other
      refine ⟨?_, ?_, ?_, ?_, asks, inside⟩
      · refine iff_of_false (fun other => absurd (only _ other) (by decide)) fun chosen => absent ?_
        rw [wantedMethod, if_pos chosen.2.1]
        exact chosen.2.2
      · refine iff_of_false (fun other => absurd (only _ other) (by decide)) fun chosen => absent ?_
        rw [wantedMethod, if_neg chosen.2.1]
        exact chosen.2.2
      · exact iff_of_true refuses ⟨greeting, absent⟩
      · exact iff_of_false (fun failed => failed_silent _ failed _ answers) (not_not.mpr greeting)

end Exact

end Purroute
