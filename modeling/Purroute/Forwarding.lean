import Purroute.OriginForm
import Purroute.Segmentation
import Purroute.WireUsername

set_option autoImplicit false

namespace Purroute

open Interaction Interaction.Program

def httpExchange (platform : Platform) (chain : List ProxyConfig) (request : Bytes) : Router Unit :=
  match chain with
  | [proxy] => httpHandle platform (getUpstreamAddr proxy) request proxy (.done ())
  | _ => do
      let (host, port) ← ofExcept (parseHttpTarget request)
      connectChain chain host port
      send (.raw (toOriginForm request))

theorem http_handle_bind (platform : Platform) (address : Str) (request : Bytes) (proxy : ProxyConfig) (relay : Router Unit) :
    httpHandle platform address request proxy relay =
      (httpHandle platform address request proxy (.done ())).bind fun _ => relay := by
  rw [httpHandle, httpHandle]
  cases (lines (fromUtf8Lossy request)).head? with
  | none => rfl
  | some firstLine =>
      simp only [bind_eq, Program.bind_assoc, done_bind]

theorem dispatch_http (platform : Platform) (server : ProxyServer) (peer : IpAddr) (request : Bytes) (chain : List ProxyConfig)
    (path : chain ≠ []) : dispatch platform server peer .http request chain =
      (authenticateUser platform server.config request peer).bind fun id =>
        (httpExchange platform chain request).bind fun _ => relayed id (firstCost chain) := by
  rcases chain with _ | ⟨first, _ | ⟨second, rest⟩⟩
  · exact absurd rfl path
  · rw [dispatch, if_neg (by decide), handleSingle, bind_eq]
    congr 1
    funext id
    exact http_handle_bind platform (getUpstreamAddr first) request first _
  · have tail : ∀ id, ((ofExcept (parseHttpTarget request)).bind fun target =>
        (connectChain (first :: second :: rest) target.1 target.2).bind fun _ =>
          (send (.raw (toOriginForm request))).bind fun _ =>
          relayed id first.costPerByte) =
        (httpExchange platform (first :: second :: rest) request).bind fun _ => relayed id first.costPerByte := by
      intro id
      simp only [httpExchange, bind_eq, Program.bind_assoc]
    exact congrArg _ (funext tail)

def written (platform : Platform) (past : History) : Bytes :=
  past.flatMap fun event =>
    match event with
    | ⟨.send message, _⟩ => message.bytes platform
    | _ => []

def approach (platform : Platform) (chain : List ProxyConfig) (request : Bytes) : Router Unit :=
  match chain with
  | [proxy] => do
      connect (getUpstreamAddr proxy)
      match proxy.proxyType with
      | .socks4 => do
          let (host, port) ← ofExcept (hostHeader platform request)
          socks4Handshake "SOCKS4 connection failed" host port
      | .socks5 => do
          let (host, port) ← ofExcept (hostHeader platform request)
          socks5Handshake handlerTexts proxy host port
      | _ => pure ()
  | _ => do
      let (host, port) ← ofExcept (parseHttpTarget request)
      connectChain chain host port

def handedOn (chain : List ProxyConfig) (firstLine : Str) (request : Bytes) : Option Message :=
  let tunnelled := if contains firstLine "CONNECT" then none else some (.raw request)
  match chain with
  | [proxy] =>
      match proxy.proxyType with
      | .socks4 => tunnelled
      | .socks5 => tunnelled
      | _ => some (.rebuilt firstLine (credentials proxy) ((lines (fromUtf8Lossy request)).drop 1))
  | _ => some (.raw (toOriginForm request))

def handOver : Option Message → Router Unit
  | none => clientWrite tunnelGranted
  | some message => send message

def handedBytes (platform : Platform) : Option Message → Bytes
  | none => []
  | some message => message.bytes platform

theorem http_exchange_eq (platform : Platform) (chain : List ProxyConfig) (request : Bytes) (firstLine : Str)
    (first : (lines (fromUtf8Lossy request)).head? = some firstLine) :
    httpExchange platform chain request = (approach platform chain request).bind fun _ =>
      handOver (handedOn chain firstLine request) := by
  have byChain : ∀ path : List ProxyConfig, ((ofExcept (parseHttpTarget request)).bind fun target =>
      (connectChain path target.1 target.2).bind fun _ => send (.raw (toOriginForm request))) =
      ((ofExcept (parseHttpTarget request)).bind fun target => connectChain path target.1 target.2).bind fun _ =>
        send (.raw (toOriginForm request)) :=
    fun path => (Program.bind_assoc _ _ _).symm
  rcases chain with _ | ⟨proxy, _ | ⟨second, rest⟩⟩
  · exact byChain []
  · have forwards : forwardHttp firstLine request =
      handOver (if contains firstLine "CONNECT" then none else some (.raw request)) := by
      rw [forwardHttp]
      split <;> rfl
    rw [httpExchange, httpHandle, first]
    cases type : proxy.proxyType <;>
      simp only [approach, handedOn, httpUpstream, type, forwards, bind_eq, Program.bind_assoc, bind_unit, pure_eq, handOver]
  · exact byChain (proxy :: second :: rest)

theorem folded_spaces (text : Str) : (text.map Char.toLower).count ' ' ≤ (utf8 text).count 32 := by
  induction text with
  | nil => exact Nat.le_refl 0
  | cons c text ih =>
      rw [List.map_cons, utf8_cons, List.count_append]
      by_cases space : c.toLower = ' '
      · have here : c = ' ' := lower_space c space
        subst here
        rw [space, List.count_cons_self]
        have one : (String.utf8EncodeChar ' ').count 32 = 1 := by decide
        omega
      · rw [List.count_cons_of_ne space]
        omega

section Layout

variable (platform : Platform) (start rest : Bytes) (name : Str)

def presenting (value : Bytes) : Bytes := start ++ 10 :: (utf8 name ++ (value ++ 13 :: 10 :: rest))

def headLines : List Str := lines (fromUtf8Lossy start ++ ['\n'])

theorem head_lines_first : ∃ firstLine more, headLines start = firstLine :: more :=
  List.exists_cons_of_ne_nil (lines_from_stop [] _)

variable (field : eqIgnoreAsciiCase name ownName = true) (value : Bytes) (solid : 10 ∉ value)

include field

theorem name_folds : name.map Char.toLower = basicScheme := by
  have same : name.map Char.toLower = ownName.map Char.toLower := beq_iff_eq.mp field
  rw [same]
  decide

theorem name_solid : '\n' ∉ name := by
  intro member
  have folded : '\n'.toLower ∈ name.map Char.toLower := List.mem_map_of_mem member
  rw [name_folds name field] at folded
  exact absurd folded (by decide)

theorem name_ascii : ∀ c ∈ name, c.toNat < 0x80 := (ascii_of_same_case name ownName field (ascii_all _ (by decide))).2

include solid

theorem presenting_lines : lines (fromUtf8Lossy (presenting start rest name value)) =
    headLines start ++ (name ++ fromUtf8Lossy value) :: lines (fromUtf8Lossy rest) := by
  have line : '\n' ∉ name ++ fromUtf8Lossy value := by
    rw [List.mem_append, not_or]
    exact ⟨name_solid name field, fun member => solid (lossy_ascii_mem value '\n' (by decide) member)⟩
  have ending : fromUtf8Lossy (13 :: 10 :: rest) = '\r' :: '\n' :: fromUtf8Lossy rest := lossy_encoded_append ['\r', '\n'] rest
  have behind : fromUtf8Lossy (10 :: (utf8 name ++ (value ++ 13 :: 10 :: rest))) =
      '\n' :: ((name ++ fromUtf8Lossy value) ++ '\r' :: '\n' :: fromUtf8Lossy rest) := by
    have first := lossy_encoded_append ('\n' :: name) (value ++ 13 :: 10 :: rest)
    rw [lossy_append_stop value (10 :: rest) 13 (by decide), ending] at first
    change fromUtf8Lossy (10 :: (utf8 name ++ (value ++ 13 :: 10 :: rest))) = _ at first
    rw [first, List.cons_append, List.append_assoc]
  rw [presenting, lossy_append_stop start _ 10 (by decide), behind, lines_append, lines_cons _ _ line, headLines]

omit solid

theorem name_first : ∃ c tail, name = c :: tail ∧ c.toLower = 'p' := by
  have folds := name_folds name field
  cases name with
  | nil => exact absurd folds (by decide)
  | cons c tail => exact ⟨c, tail, rfl, (List.cons.inj folds).1⟩

theorem credential_not_host (text : Str) : startsWith (toLowercase platform (name ++ text)) "host: " = false := by
  have folded : toLowercase platform (name ++ text) = basicScheme ++ toLowercase platform text := by
    rw [lowercase_append, lowercase_ascii platform name (name_ascii name field), name_folds name field]
  rw [folded]
  rfl

theorem credential_no_value (text : Str) : hostValue (name ++ text) = none := by
  obtain ⟨c, tail, rfl, lower⟩ := name_first name field
  have upperH : 'H' ≠ c := by
    intro same
    rw [← same] at lower
    exact absurd lower (by decide)
  have lowerH : 'h' ≠ c := by
    intro same
    rw [← same] at lower
    exact absurd lower (by decide)
  simp [hostValue, stripPrefix, startsWith, upperH, lowerH]

include solid

theorem presenting_find (wanted : Str → Bool) (other : ∀ text, wanted (name ++ text) = false) :
    (lines (fromUtf8Lossy (presenting start rest name value))).find? wanted =
      ((headLines start).find? wanted).or ((lines (fromUtf8Lossy rest)).find? wanted) := by
  rw [presenting_lines start rest name field value solid, List.find?_append, List.find?_cons, other]

theorem presenting_find_some : (lines (fromUtf8Lossy (presenting start rest name value))).findSome? hostValue =
    ((headLines start).findSome? hostValue).or ((lines (fromUtf8Lossy rest)).findSome? hostValue) := by
  rw [presenting_lines start rest name field value solid, List.findSome?_append, List.findSome?_cons,
    credential_no_value name field]

theorem presenting_first : (lines (fromUtf8Lossy (presenting start rest name value))).head? = (headLines start).head? := by
  obtain ⟨firstLine, more, known⟩ := head_lines_first start
  rw [presenting_lines start rest name field value solid, known, List.cons_append, List.head?_cons, List.head?_cons]

variable (other : Bytes) (otherSolid : 10 ∉ other)

include otherSolid

theorem approach_same (chain : List ProxyConfig) : approach platform chain (presenting start rest name value) =
    approach platform chain (presenting start rest name other) := by
  have host : hostHeader platform (presenting start rest name value) =
    hostHeader platform (presenting start rest name other) := by
    rw [hostHeader, hostHeader, presenting_find start rest name field value solid _ (credential_not_host platform name field),
      presenting_find start rest name field other otherSolid _ (credential_not_host platform name field)]
  have target : parseHttpTarget (presenting start rest name value) = parseHttpTarget (presenting start rest name other) := by
    rw [parseHttpTarget, parseHttpTarget, presenting_first start rest name field value solid,
      presenting_first start rest name field other otherSolid, presenting_find_some start rest name field value solid,
      presenting_find_some start rest name field other otherSolid]
  simp only [approach, host, target]

theorem rebuilt_same_iff (firstLine : Str) (credentials : Credentials) :
    (Message.rebuilt firstLine credentials ((lines (fromUtf8Lossy (presenting start rest name value))).drop 1)).bytes platform =
      (Message.rebuilt firstLine credentials ((lines (fromUtf8Lossy (presenting start rest name other))).drop 1)).bytes platform ↔
    fromUtf8Lossy value = fromUtf8Lossy other := by
  obtain ⟨line, more, known⟩ := head_lines_first start
  rw [presenting_lines start rest name field value solid, presenting_lines start rest name field other otherSolid, known]
  simp only [Message.bytes, List.cons_append, List.drop_succ_cons, List.drop_zero, List.flatMap_append, List.flatMap_cons]
  constructor
  · intro same
    simp only [List.append_assoc] at same
    have tail := List.append_cancel_left (List.append_cancel_left (List.append_cancel_left (List.append_cancel_left same)))
    have encoded := List.append_cancel_right tail
    rw [utf8_append, utf8_append] at encoded
    exact utf8_injective _ _ (List.append_cancel_left encoded)
  · intro same
    rw [same]

omit solid otherSolid

theorem origin_form_same_iff : toOriginForm (presenting start rest name value) = toOriginForm (presenting start rest name other) ↔
    value = other := by
  have spread : ∀ credential, presenting start rest name credential =
      (start ++ 10 :: utf8 name) ++ (credential ++ 13 :: 10 :: rest) := by
    intro credential
    simp [presenting]
  have spaces : 2 ≤ (start ++ 10 :: utf8 name).count 32 := by
    have inName := folded_spaces name
    rw [name_folds name field] at inName
    have two : basicScheme.count ' ' = 2 := by decide
    rw [List.count_append, List.count_cons_of_ne (by decide)]
    omega
  constructor
  · intro same
    rw [spread, spread] at same
    exact List.append_cancel_right (origin_form_injective _ _ _ spaces same)
  · intro same
    rw [same]

end Layout

theorem written_append (platform : Platform) (before after : History) :
    written platform (before ++ after) = written platform before ++ written platform after := List.flatMap_append

section Handing

variable {S : Type} (platform : Platform) (answer : Environment signature S) (state : S) (past : History)

theorem io_past (reply : Except Fault Unit) : (drive answer state past (io reply)).past = past := by
  rcases io_cases reply with ⟨value, _, done⟩ | ⟨failure, failed⟩
  · rw [done]
    rfl
  · rw [failed]
    rfl

theorem hand_over_written (message : Option Message) :
    written platform (drive answer state past (handOver message)).past =
      written platform past ++ handedBytes platform message := by
  cases message with
  | none =>
      have ended := io_past answer (answer state past (.reply tunnelGranted)).2
        (past ++ [⟨.reply tunnelGranted, (answer state past (.reply tunnelGranted)).1⟩])
          (answer state past (.reply tunnelGranted)).1
      exact (congrArg (written platform) ended).trans (written_append platform past _)
  | some sent =>
      have ended := io_past answer (answer state past (.send sent)).2
        (past ++ [⟨.send sent, (answer state past (.send sent)).1⟩]) (answer state past (.send sent)).1
      have last : written platform [⟨.send sent, (answer state past (.send sent)).1⟩] = sent.bytes platform := List.append_nil _
      rw [handedBytes, ← last, ← written_append]
      exact congrArg (written platform) ended

theorem exchange_written (chain : List ProxyConfig) (request : Bytes) (firstLine : Str)
    (first : (lines (fromUtf8Lossy request)).head? = some firstLine)
    (completed : (drive answer state past (httpExchange platform chain request)).outcome = .ok ()) :
    written platform (drive answer state past (httpExchange platform chain request)).past =
      written platform (drive answer state past (approach platform chain request)).past ++
        handedBytes platform (handedOn chain firstLine request) := by
  rw [http_exchange_eq platform chain request firstLine first, drive_bind] at completed ⊢
  rcases front : drive answer state past (approach platform chain request) with ⟨reached, after, outcome⟩
  rw [front] at completed
  cases outcome with
  | ok value => exact hand_over_written platform answer after reached _
  | error error => cases completed

end Handing

-- What the first hop cannot see: it gets no request at all, or the values
-- agree wherever they are well-formed.
def Unseen (chain : List ProxyConfig) (firstLine : Str) (value other : Bytes) : Prop :=
  match chain with
  | [proxy] =>
      match proxy.proxyType with
      | .socks4 => contains firstLine "CONNECT" = true ∨ value = other
      | .socks5 => contains firstLine "CONNECT" = true ∨ value = other
      | _ => fromUtf8Lossy value = fromUtf8Lossy other
  | _ => value = other

theorem handed_on_same_iff (platform : Platform) (chain : List ProxyConfig) (start rest : Bytes)
    (name firstLine : Str) (value other : Bytes)
    (field : eqIgnoreAsciiCase name ownName = true) (solid : 10 ∉ value) (otherSolid : 10 ∉ other) :
    handedBytes platform (handedOn chain firstLine (presenting start rest name value)) =
      handedBytes platform (handedOn chain firstLine (presenting start rest name other)) ↔
    Unseen chain firstLine value other := by
  have same : presenting start rest name value = presenting start rest name other ↔ value = other := by
    simp [presenting]
  have tunnelled : ∀ tunnel : Bool,
      handedBytes platform (if tunnel then none else some (.raw (presenting start rest name value))) =
        handedBytes platform (if tunnel then none else some (.raw (presenting start rest name other))) ↔
      tunnel = true ∨ value = other := by
    intro tunnel
    cases tunnel with
    | true => exact ⟨fun _ => Or.inl rfl, fun _ => rfl⟩
    | false => exact ⟨fun equal => Or.inr (same.mp equal), fun agree => same.mpr (agree.resolve_left nofun)⟩
  have originated := origin_form_same_iff start rest name field value other
  have rebuilt := rebuilt_same_iff platform start rest name field value solid other otherSolid firstLine
  rcases chain with _ | ⟨proxy, _ | ⟨second, rest⟩⟩
  · exact originated
  · cases type : proxy.proxyType with
    | http =>
        simp only [handedOn, Unseen, type]
        exact rebuilt (credentials proxy)
    | https =>
        simp only [handedOn, Unseen, type]
        exact rebuilt (credentials proxy)
    | socks4 =>
        simp only [handedOn, Unseen, type]
        exact tunnelled (contains firstLine "CONNECT")
    | socks5 =>
        simp only [handedOn, Unseen, type]
        exact tunnelled (contains firstLine "CONNECT")
  · exact originated

structure Forwarding {S : Type} (platform : Platform) (server : ProxyServer) (peer : IpAddr) (chain : List ProxyConfig)
    (answer : Environment signature S) (state : S) (request : Bytes) where
  login : History
  id : Option Int
  admitted : Runs (authenticateUser platform server.config request peer) login (.ok id)
  completed : (drive answer state [] (httpExchange platform chain request)).outcome = .ok ()

section Forwardings

variable {S : Type} {platform : Platform} {server : ProxyServer} {peer : IpAddr} {chain : List ProxyConfig}
  {answer : Environment signature S} {state : S} {request : Bytes}
  (visit : Forwarding platform server peer chain answer state request)

def Forwarding.trace : History := visit.login ++ (drive answer state [] (httpExchange platform chain request)).past

def Forwarding.bytes : Bytes := written platform visit.trace

theorem forwarding_relays (path : chain ≠ []) :
    Reaches (dispatch platform server peer .http request chain) visit.trace (relayed visit.id (firstCost chain)) := by
  have exchange := drive_from_start answer state (httpExchange platform chain request)
  rw [visit.completed] at exchange
  rw [dispatch_http platform server peer request chain path]
  apply runs_bind_ok _ _ _ _ visit.id _ visit.admitted
  have behind := runs_bind_ok _ (fun _ => relayed visit.id (firstCost chain)) _ [] () _ exchange (.here _)
  rwa [List.append_nil] at behind

def Silent : Op → Prop
  | .send _ => False
  | _ => True

theorem login_silent : written platform visit.login = [] := by
  have silent := (uses_event _ _ _
    (authenticate_user_uses Silent platform server.config request peer (fun _ _ => trivial) trivial)
    visit.admitted).1
  apply List.flatMap_eq_nil_iff.mpr
  intro event member
  rcases event with ⟨op, reply⟩
  have quiet := silent _ member
  cases op with
  | send message => exact quiet.elim
  | _ => rfl

theorem forwarding_bytes (firstLine : Str) (first : (lines (fromUtf8Lossy request)).head? = some firstLine) :
    visit.bytes = written platform (drive answer state [] (approach platform chain request)).past ++
      handedBytes platform (handedOn chain firstLine request) := by
  rw [Forwarding.bytes, Forwarding.trace, written_append, login_silent, List.nil_append]
  exact exchange_written platform answer state [] chain request firstLine first visit.completed

end Forwardings

-- Two logins with the same request behind them look alike to the first hop
-- where it cannot see the credentials.
theorem forwarded_alike_iff {S : Type} (platform : Platform) (server : ProxyServer) (peer otherPeer : IpAddr)
    (chain : List ProxyConfig) (answer : Environment signature S) (state : S) (start rest : Bytes) (name firstLine : Str)
    (value other : Bytes) (field : eqIgnoreAsciiCase name ownName = true) (solid : 10 ∉ value) (otherSolid : 10 ∉ other)
    (head : (headLines start).head? = some firstLine)
    (one : Forwarding platform server peer chain answer state (presenting start rest name value))
    (two : Forwarding platform server otherPeer chain answer state (presenting start rest name other)) :
    one.bytes = two.bytes ↔ Unseen chain firstLine value other := by
  rw [forwarding_bytes one firstLine ((presenting_first start rest name field value solid).trans head),
    forwarding_bytes two firstLine ((presenting_first start rest name field other otherSolid).trans head),
    approach_same platform start rest name field value solid other otherSolid chain, List.append_cancel_left_eq]
  exact handed_on_same_iff platform chain start rest name firstLine value other field solid otherSolid

section Examples

def lockedServer : ProxyServer := ⟨none, ⟨none, some true⟩⟩
def httpHop : ProxyConfig := ⟨none, .http, "10.0.0.1", some 3128, none, none, ⟨none, none, none, none, none⟩, 1, none⟩

def obliging (_ : Unit) (_ : History) (op : Op) : op.Reply × Unit :=
  match op with
  | .authenticate _ _ => (.ok (some ⟨1, none, none⟩), ())
  | op => (accepting op, ())

def pageFront : Bytes := utf8 "GET http://a.example/ HTTP/1.1\r"
def page (value : Str) : Bytes := presenting pageFront crlf ownName (utf8 value)

abbrev PageVisit (value : Str) := Forwarding standard lockedServer (.v4 0) [httpHop] obliging () (page value)

def pageLogin (value : Str) : Driven signature Unit Failure (Option Int) :=
  drive obliging () [] (authenticateUser standard lockedServer.config (page value) (.v4 0))

def mine : PageVisit "bWU6cHc=" where
  login := (pageLogin "bWU6cHc=").past
  id := some 1
  admitted := (show (pageLogin "bWU6cHc=").outcome = .ok (some 1) by decide) ▸ drive_from_start _ _ _
  completed := by decide

def yours : PageVisit "eW91OnB3" where
  login := (pageLogin "eW91OnB3").past
  id := some 1
  admitted := (show (pageLogin "eW91OnB3").outcome = .ok (some 1) by decide) ▸ drive_from_start _ _ _
  completed := by decide

theorem names_told_apart : mine.bytes ≠ yours.bytes := by
  intro same
  have unseen := (forwarded_alike_iff standard lockedServer (.v4 0) (.v4 0) [httpHop] obliging () pageFront crlf ownName
    "GET http://a.example/ HTTP/1.1" _ _ rfl (by decide) (by decide) (by decide) mine yours).mp same
  exact absurd unseen (show ¬ fromUtf8Lossy _ = fromUtf8Lossy _ by decide)

theorem credentials_forwarded : ¬ ∀ (server : ProxyServer) (peer otherPeer : IpAddr) (chain : List ProxyConfig) (S : Type)
    (answer : Environment signature S) (state : S) (start rest : Bytes) (name : Str) (value other : Bytes)
    (one : Forwarding standard server peer chain answer state (presenting start rest name value))
    (two : Forwarding standard server otherPeer chain answer state (presenting start rest name other)),
    eqIgnoreAsciiCase name ownName = true → 10 ∉ value → 10 ∉ other → one.bytes = two.bytes := by
  intro alike
  have same := alike lockedServer (.v4 0) (.v4 0) [httpHop] Unit obliging
    () pageFront crlf ownName _ _ mine yours rfl (by decide) (by decide)
  exact absurd same (by decide)

end Examples

end Purroute
