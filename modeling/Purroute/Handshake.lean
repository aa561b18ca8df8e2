import Purroute.Connect

set_option autoImplicit false

namespace Purroute

open Interaction Interaction.Program

def messagesOf (proxy : ProxyConfig) (host : Str) (port : UInt16) : List Message :=
  match proxy.proxyType with
  | .socks5 =>
      [.methods (offeredMethods proxy), .connect5 host port] ++
        (credentials proxy).toList.map fun (username, password) => .userPass username password
  | .socks4 => [.connect4 host port]
  | .http => [.connectHttp host port (credentials proxy)]
  | .https => [.connectHttp host port (credentials proxy)]

def HopOp (proxy : ProxyConfig) (host : Str) (port : UInt16) : Op → Prop
  | .send message => message ∈ messagesOf proxy host port
  | .receive _ => True
  | .receiveExact _ => True
  | _ => False

inductive LoggedIn (proxy : ProxyConfig) : UInt8 → History → Prop
  | anonymous : LoggedIn proxy 0x00 []
  | password (username password : Str) (verdict : { bytes : Bytes // bytes.length = 2 })
      (known : credentials proxy = some (username, password)) (granted : byteAt verdict.val 1 = 0x00) :
      LoggedIn proxy 0x02 [sent (.userPass username password), receivedExact 2 verdict]

inductive Skipped : UInt8 → History → Prop
  | ipv4 (address : { bytes : Bytes // bytes.length = 6 }) : Skipped 0x01 [receivedExact 6 address]
  | domain (length : { bytes : Bytes // bytes.length = 1 })
      (address : { bytes : Bytes // bytes.length = (byteAt length.val 0).toNat + 2 }) :
      Skipped 0x03 [receivedExact 1 length, receivedExact ((byteAt length.val 0).toNat + 2) address]
  | ipv6 (address : { bytes : Bytes // bytes.length = 18 }) : Skipped 0x04 [receivedExact 18 address]

inductive Accepted (proxy : ProxyConfig) (host : Str) (port : UInt16) : History → Prop
  | socks5 (type : proxy.proxyType = .socks5) (choice : { bytes : Bytes // bytes.length = 2 })
      (response : { bytes : Bytes // bytes.length = 4 }) (login address : History)
      (authenticated : LoggedIn proxy (byteAt choice.val 1) login) (granted : byteAt response.val 1 = 0x00)
      (skipped : Skipped (byteAt response.val 3) address) :
      Accepted proxy host port (sent (.methods (offeredMethods proxy)) :: receivedExact 2 choice ::
        (login ++ sent (.connect5 host port) :: receivedExact 4 response :: address))
  | socks4 (type : proxy.proxyType = .socks4) (response : { bytes : Bytes // bytes.length = 8 })
      (granted : byteAt response.val 1 = 0x5A) :
      Accepted proxy host port [sent (.connect4 host port), receivedExact 8 response]
  | http (type : proxy.proxyType = .http ∨ proxy.proxyType = .https)
      (response : { bytes : Bytes // bytes.length ≤ 1024 })
      (granted : contains (fromUtf8Lossy response.val) established = true) :
      Accepted proxy host port [sent (.connectHttp host port (credentials proxy)), received 1024 response]

section Handshakes

variable (proxy : ProxyConfig) (host : Str) (port : UInt16)

theorem check_verdict_ok (texts : Socks5Texts) (verdict : Bytes) (trace : History)
    (run : Runs (checkVerdict texts verdict) trace (.ok ())) : trace = [] ∧ byteAt verdict 1 = 0x00 := by
  rw [checkVerdict] at run
  by_cases granted : byteAt verdict 1 = 0x00
  · rw [if_pos granted] at run
    exact ⟨(reaches_done _ _ _ run).1, granted⟩
  · rw [if_neg granted] at run
    cases run

theorem socks5_auth_ok (texts : Socks5Texts) (choice : UInt8) (trace : History)
    (run : Runs (socks5Auth texts proxy choice) trace (.ok ())) : LoggedIn proxy choice trace := by
  rw [socks5Auth] at run
  by_cases password : choice = 0x02
  · subst password
    rw [if_pos rfl] at run
    cases known : credentials proxy with
    | none =>
        rw [known] at run
        cases run
    | some pair =>
        rw [known] at run
        obtain ⟨later, rfl, answered⟩ := send_ok _ _ _ _ run
        obtain ⟨verdict, later, rfl, checked⟩ := receive_exact_ok _ _ _ _ answered
        obtain ⟨rfl, granted⟩ := check_verdict_ok _ _ _ checked
        exact .password pair.1 pair.2 verdict known granted
  · rw [if_neg password] at run
    by_cases anonymous : choice = 0x00
    · subst anonymous
      obtain ⟨rfl, _⟩ := reaches_done _ _ _ run
      exact .anonymous
    · rw [if_neg anonymous] at run
      cases run

theorem skip_address_ok (atyp : UInt8) (trace : History) (run : Runs (skipAddress atyp) trace (.ok ())) :
    Skipped atyp trace := by
  rw [skipAddress] at run
  by_cases ipv4 : atyp = 0x01
  · subst ipv4
    obtain ⟨address, later, rfl, rest⟩ := receive_exact_ok _ _ _ _ run
    obtain ⟨rfl, _⟩ := reaches_done _ _ _ rest
    exact .ipv4 address
  · rw [if_neg ipv4] at run
    by_cases domain : atyp = 0x03
    · subst domain
      obtain ⟨length, later, rfl, more⟩ := receive_exact_ok _ _ _ _ run
      obtain ⟨address, later, rfl, rest⟩ := receive_exact_ok _ _ _ _ more
      obtain ⟨rfl, _⟩ := reaches_done _ _ _ rest
      exact .domain length address
    · rw [if_neg domain] at run
      by_cases ipv6 : atyp = 0x04
      · subst ipv6
        obtain ⟨address, later, rfl, rest⟩ := receive_exact_ok _ _ _ _ run
        obtain ⟨rfl, _⟩ := reaches_done _ _ _ rest
        exact .ipv6 address
      · rw [if_neg ipv6] at run
        cases run

theorem socks5_reply_ok (texts : Socks5Texts) (response : Bytes) (trace : History)
    (run : Runs (socks5Reply texts response) trace (.ok ())) :
    byteAt response 1 = 0x00 ∧ Skipped (byteAt response 3) trace := by
  rw [socks5Reply] at run
  by_cases granted : byteAt response 1 = 0x00
  · rw [if_pos granted] at run
    exact ⟨granted, skip_address_ok _ _ run⟩
  · rw [if_neg granted] at run
    cases run

theorem socks5_handshake_ok (texts : Socks5Texts) (trace : History)
    (run : Runs (socks5Handshake texts proxy host port) trace (.ok ())) :
    ∃ choice response login address, LoggedIn proxy (byteAt choice.val 1) login ∧ byteAt response.val 1 = 0x00 ∧
      Skipped (byteAt response.val 3) address ∧
      trace = sent (.methods (offeredMethods proxy)) :: receivedExact 2 choice ::
        (login ++ sent (.connect5 host port) :: receivedExact 4 response :: address) := by
  obtain ⟨later, rfl, offered⟩ := send_ok _ _ _ _ run
  obtain ⟨choice, later, rfl, chosen⟩ := receive_exact_ok _ _ _ _ offered
  rcases runs_bind _ _ _ _ chosen with ⟨error, _, mismatch⟩ | ⟨_, login, later, rfl, auth, request⟩
  · cases mismatch
  obtain ⟨later, rfl, requested⟩ := send_ok _ _ _ _ request
  obtain ⟨response, address, rfl, reply⟩ := receive_exact_within_ok _ _ _ _ _ requested
  obtain ⟨granted, skipped⟩ := socks5_reply_ok _ _ _ reply
  exact ⟨choice, response, login, address, socks5_auth_ok _ _ _ _ auth, granted, skipped, rfl⟩

theorem socks4_handshake_ok (refused : String) (trace : History)
    (run : Runs (socks4Handshake refused host port) trace (.ok ())) :
    ∃ response, byteAt response.val 1 = 0x5A ∧ trace = [sent (.connect4 host port), receivedExact 8 response] := by
  obtain ⟨later, rfl, requested⟩ := send_ok _ _ _ _ run
  obtain ⟨response, later, rfl, reply⟩ := receive_exact_ok _ _ _ _ requested
  by_cases granted : byteAt response.val 1 = 0x5A
  · rw [if_pos granted] at reply
    obtain ⟨rfl, _⟩ := reaches_done _ _ _ reply
    exact ⟨response, granted, rfl⟩
  · rw [if_neg granted] at reply
    cases reply

theorem http_handshake_ok (refused : String) (request : Message) (trace : History) (answer : Bytes)
    (run : Runs (httpHandshake refused request) trace (.ok answer)) :
    ∃ response, contains (fromUtf8Lossy response.val) established = true ∧ answer = response.val ∧
      trace = [sent request, received 1024 response] := by
  obtain ⟨later, rfl, requested⟩ := send_ok _ _ _ _ run
  obtain ⟨response, later, rfl, reply⟩ := receive_ok _ _ _ _ requested
  by_cases granted : contains (fromUtf8Lossy response.val) established = true
  · rw [if_pos granted] at reply
    obtain ⟨rfl, same⟩ := reaches_done _ _ _ reply
    cases same
    exact ⟨response, granted, rfl, rfl⟩
  · rw [if_neg granted] at reply
    cases reply

theorem http_connect_ok (trace : History) (run : Runs (httpConnect proxy host port) trace (.ok ())) :
    ∃ response, contains (fromUtf8Lossy response.val) established = true ∧
      trace = [sent (.connectHttp host port (credentials proxy)), received 1024 response] := by
  rcases runs_bind _ _ _ _ run with ⟨error, _, mismatch⟩ | ⟨answer, before, after, rfl, handshake, rest⟩
  · cases mismatch
  · obtain ⟨rfl, _⟩ := reaches_done _ _ _ rest
    obtain ⟨response, granted, _, rfl⟩ := http_handshake_ok _ _ _ _ handshake
    exact ⟨response, granted, by simp⟩

theorem connect_through_proxy_ok (trace : History) (run : Runs (connectThroughProxy proxy host port) trace (.ok ())) :
    Accepted proxy host port trace := by
  rw [connectThroughProxy] at run
  cases type : proxy.proxyType with
  | socks5 =>
      rw [type] at run
      obtain ⟨choice, response, login, address, auth, granted, skipped, rfl⟩ := socks5_handshake_ok _ _ _ _ _ run
      exact .socks5 type choice response login address auth granted skipped
  | socks4 =>
      rw [type] at run
      obtain ⟨response, granted, rfl⟩ := socks4_handshake_ok _ _ _ _ run
      exact .socks4 type response granted
  | http =>
      rw [type] at run
      obtain ⟨response, granted, rfl⟩ := http_connect_ok _ _ _ _ run
      exact .http (.inl type) response granted
  | https =>
      rw [type] at run
      obtain ⟨response, granted, rfl⟩ := http_connect_ok _ _ _ _ run
      exact .http (.inr type) response granted

theorem logged_in_runs (texts : Socks5Texts) (choice : UInt8) (login : History) (authenticated : LoggedIn proxy choice login) :
    Runs (socks5Auth texts proxy choice) login (.ok ()) := by
  cases authenticated with
  | anonymous => exact .here _
  | password username password verdict known granted =>
      have checked : checkVerdict texts verdict.val = .done () := if_pos granted
      simp only [socks5Auth, if_true, known]
      apply send_reaches
      apply receive_exact_reaches
      rw [checked]
      exact .here _

theorem skipped_runs (atyp : UInt8) (trace : History) (skipped : Skipped atyp trace) :
    Runs (skipAddress atyp) trace (.ok ()) := by
  cases skipped with
  | ipv4 address => exact receive_exact_reaches _ _ _ address _ (.here _)
  | domain length address => exact receive_exact_reaches _ _ _ length _ (receive_exact_reaches _ _ _ address _ (.here _))
  | ipv6 address => exact receive_exact_reaches _ _ _ address _ (.here _)

theorem http_handshake_runs (refused : String) (request : Message) (response : { bytes : Bytes // bytes.length ≤ 1024 })
    (granted : contains (fromUtf8Lossy response.val) established = true) :
    Runs (httpHandshake refused request) [sent request, received 1024 response] (.ok response.val) := by
  apply send_reaches
  apply receive_reaches
  rw [if_pos granted]
  exact .here _

theorem accepted_runs (trace : History) (accepted : Accepted proxy host port trace) :
    Runs (connectThroughProxy proxy host port) trace (.ok ()) := by
  rw [connectThroughProxy]
  cases accepted with
  | socks5 type choice response login address authenticated granted skipped =>
      have replied : socks5Reply chainTexts response.val = skipAddress (byteAt response.val 3) := if_pos granted
      rw [type]
      apply send_reaches
      apply receive_exact_reaches
      refine runs_bind_ok _ _ login _ () _ (logged_in_runs _ _ _ _ authenticated) ?_
      apply send_reaches
      apply receive_exact_within_reaches
      rw [replied]
      exact skipped_runs _ _ skipped
  | socks4 type response granted =>
      rw [type]
      apply send_reaches
      apply receive_exact_reaches
      rw [if_pos granted]
      exact .here _
  | http type response granted =>
      have handshake : Runs (httpConnect proxy host port)
          [sent (.connectHttp host port (credentials proxy)), received 1024 response] (.ok ()) :=
        runs_bind_ok _ _ _ [] _ _ (http_handshake_runs _ _ response granted) (.here _)
      rcases type with type | type <;> (rw [type]; exact handshake)

theorem connect_through_proxy_ok_iff (trace : History) :
    Runs (connectThroughProxy proxy host port) trace (.ok ()) ↔ Accepted proxy host port trace :=
  ⟨connect_through_proxy_ok proxy host port trace, accepted_runs proxy host port trace⟩

theorem socks5_auth_uses (allowed : Op → Prop) (texts : Socks5Texts) (choice : UInt8)
    (login : ∀ username password, credentials proxy = some (username, password) → allowed (.send (.userPass username password)))
    (receives : ∀ count, allowed (.receiveExact count)) : Uses allowed (socks5Auth texts proxy choice) := by
  rw [socks5Auth]
  split
  · split
    · rename_i username password known
      refine uses_bind _ _ (send_uses _ _ (login username password known)) fun _ => ?_
      refine uses_bind _ _ (receive_exact_uses _ _ (receives 2)) fun verdict => ?_
      rw [checkVerdict]
      split <;> trivial
    · trivial
  · split <;> trivial

theorem skip_address_uses (allowed : Op → Prop) (atyp : UInt8) (receives : ∀ count, allowed (.receiveExact count)) :
    Uses allowed (skipAddress atyp) := by
  have exact : ∀ count, Uses allowed (receiveExact count) := fun count => receive_exact_uses _ _ (receives count)
  rw [skipAddress]
  split
  · exact uses_bind _ _ (exact 6) fun _ => trivial
  split
  · exact uses_bind _ _ (exact 1) fun length => uses_bind _ _ (exact _) fun _ => trivial
  split
  · exact uses_bind _ _ (exact 18) fun _ => trivial
  · trivial

theorem socks5_handshake_uses (allowed : Op → Prop) (texts : Socks5Texts)
    (greeting : allowed (.send (.methods (offeredMethods proxy)))) (request : allowed (.send (.connect5 host port)))
    (login : ∀ username password, credentials proxy = some (username, password) → allowed (.send (.userPass username password)))
    (receives : ∀ count, allowed (.receiveExact count)) : Uses allowed (socks5Handshake texts proxy host port) := by
  refine uses_bind _ _ (send_uses _ _ greeting) fun _ => ?_
  refine uses_bind _ _ (receive_exact_uses _ _ (receives 2)) fun choice => ?_
  refine uses_bind _ _ (socks5_auth_uses _ _ _ _ login receives) fun _ => ?_
  refine uses_bind _ _ (send_uses _ _ request) fun _ => ?_
  refine uses_bind _ _ ⟨receives 4, fun reply => uses_bind _ _ (within_uses _ _ reply) fun _ => trivial⟩ fun response => ?_
  rw [socks5Reply]
  split
  · exact skip_address_uses _ _ receives
  · trivial

theorem socks4_handshake_uses (allowed : Op → Prop) (refused : String) (request : allowed (.send (.connect4 host port)))
    (receives : ∀ count, allowed (.receiveExact count)) : Uses allowed (socks4Handshake refused host port) := by
  refine uses_bind _ _ (send_uses _ _ request) fun _ => ?_
  refine uses_bind _ _ (receive_exact_uses _ _ (receives 8)) fun response => ?_
  split <;> trivial

theorem http_handshake_uses (allowed : Op → Prop) (refused : String) (request : Message) (may : allowed (.send request))
    (receives : allowed (.receive 1024)) : Uses allowed (httpHandshake refused request) := by
  refine uses_bind _ _ (send_uses _ _ may) fun _ => ?_
  refine uses_bind _ _ (receive_uses _ _ receives) fun response => ?_
  split <;> trivial

theorem connect_through_proxy_uses : Uses (HopOp proxy host port) (connectThroughProxy proxy host port) := by
  rw [connectThroughProxy]
  cases type : proxy.proxyType with
  | socks5 =>
      apply socks5_handshake_uses
      · simp [HopOp, messagesOf, type]
      · simp [HopOp, messagesOf, type]
      · intro username password known
        simp [HopOp, messagesOf, type, known]
      · exact fun _ => trivial
  | socks4 => exact socks4_handshake_uses _ _ _ _ (by simp [HopOp, messagesOf, type]) fun _ => trivial
  | http =>
      refine uses_bind _ _ (http_handshake_uses _ _ _ ?_ trivial) fun _ => trivial
      simp [HopOp, messagesOf, type]
  | https =>
      refine uses_bind _ _ (http_handshake_uses _ _ _ ?_ trivial) fun _ => trivial
      simp [HopOp, messagesOf, type]

end Handshakes

end Purroute
