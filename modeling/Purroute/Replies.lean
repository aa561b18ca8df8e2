import Purroute.Encoding

set_option autoImplicit false

namespace Purroute

open Interaction Interaction.Program

def upstreamSide (surroundings : History → (op : Op) → op.Reply) : Environment signature (List Bytes)
  | pieces, _, .send _ => (.ok (), pieces)
  | pieces, _, .receive limit => (.ok ⟨(takeRead limit pieces).1, take_read_length limit pieces⟩, (takeRead limit pieces).2)
  | pieces, _, .receiveExact count =>
      match taken : takeExact pieces count with
      | some (bytes, left) => (.ok ⟨bytes, take_exact_length pieces count bytes left taken⟩, left)
      | none => (.error .failed, [])
  | pieces, past, op => (surroundings past op, pieces)

inductive BoundAddress : Bytes → Prop
  | ipv4 (address : Bytes) (size : address.length = 6) : BoundAddress (0x01 :: address)
  | domain (name port : Bytes) (short : name.length ≤ 255) (size : port.length = 2) :
      BoundAddress (0x03 :: lengthByte name :: (name ++ port))
  | ipv6 (address : Bytes) (size : address.length = 18) : BoundAddress (0x04 :: address)

def responseHead (version : Str) (headers : List Bytes) : Bytes :=
  utf8 (version ++ " " ++ established) ++ crlf ++ (headers.flatMap fun header => header ++ crlf) ++ crlf

def IsTunnel (proxy : ProxyConfig) : Prop := proxy.proxyType = .http ∨ proxy.proxyType = .https

inductive SuccessReply (proxy : ProxyConfig) : Bytes → Prop
  | anonymous (type : proxy.proxyType = .socks5) (address : Bytes) (bound : BoundAddress address) :
      SuccessReply proxy ([0x05, 0x00] ++ ([] ++ ([0x05, 0x00, 0x00] ++ address)))
  | password (type : proxy.proxyType = .socks5) (known : (credentials proxy).isSome) (address : Bytes)
      (bound : BoundAddress address) :
      SuccessReply proxy ([0x05, 0x02] ++ ([0x01, 0x00] ++ ([0x05, 0x00, 0x00] ++ address)))
  | socks4 (type : proxy.proxyType = .socks4) (ignored : Bytes) (size : ignored.length = 6) :
      SuccessReply proxy ([0x00, 0x5A] ++ ignored)
  | http (type : IsTunnel proxy) (version : Str) (headers : List Bytes) (known : version = "HTTP/1.0".toList ∨
    version = "HTTP/1.1".toList)
      (fields : ∀ header ∈ headers, header ≠ [] ∧ 10 ∉ header ∧ 13 ∉ header) : SuccessReply proxy (responseHead version headers)

section Consumption

variable (surroundings : History → (op : Op) → op.Reply)

def Consumes {A : Type} (program : Router A) (front : Bytes) (value : A) : Prop :=
  ∀ (pieces : List Bytes) (past : History) (back : Bytes), pieces.flatten = front ++ back →
    ∃ left later, left.flatten = back ∧ drive (upstreamSide surroundings) pieces past program = ⟨later, left, .ok value⟩

theorem consumes_done {A : Type} (value : A) : Consumes surroundings (.done value) [] value :=
  fun pieces past _ stream => ⟨pieces, past, stream, rfl⟩

theorem consumes_bind {A B : Type} (first : Router A) (next : A → Router B) (front back : Bytes) (value : A) (result : B)
    (head : Consumes surroundings first front value) (tail : Consumes surroundings (next value) back result) :
    Consumes surroundings (first.bind next) (front ++ back) result := by
  intro pieces past rest stream
  rw [List.append_assoc] at stream
  obtain ⟨left, later, remains, ran⟩ := head pieces past (back ++ rest) stream
  obtain ⟨left', later', remains', ran'⟩ := tail left later rest remains
  refine ⟨left', later', remains', ?_⟩
  rw [drive_bind, ran]
  exact ran'

theorem consumes_send (message : Message) : Consumes surroundings (send message) [] () :=
  fun pieces past _ stream => ⟨pieces, past ++ [sent message], stream, rfl⟩

theorem upstream_side_exact (pieces : List Bytes) (past : History) (front back : Bytes)
    (stream : pieces.flatten = front ++ back) :
    ∃ left, left.flatten = back ∧
      upstreamSide surroundings pieces past (.receiveExact front.length) = (.ok ⟨front, rfl⟩, left) := by
  obtain ⟨left, taken, rest⟩ := take_exact_front pieces front back stream
  refine ⟨left, rest, ?_⟩
  simp only [upstreamSide]
  split
  · rename_i bytes other found
    rw [taken, Option.some.injEq, Prod.mk.injEq] at found
    obtain ⟨rfl, rfl⟩ := found
    rfl
  · rename_i missing
    rw [taken] at missing
    cases missing

theorem consumes_receive_exact (count : Nat) (front : Bytes) (size : front.length = count) :
    Consumes surroundings (receiveExact count) front front := by
  subst size
  intro pieces past back stream
  obtain ⟨left, rest, answered⟩ := upstream_side_exact surroundings pieces past front back stream
  refine ⟨left, past ++ [⟨.receiveExact front.length, .ok ⟨front, rfl⟩⟩], rest, ?_⟩
  rw [receiveExact, drive, answered]
  rfl

theorem consumes_receive_exact_within (count : Nat) (expired : ProxyError) (front : Bytes) (size : front.length = count) :
    Consumes surroundings (receiveExactWithin count expired) front front := by
  subst size
  intro pieces past back stream
  obtain ⟨left, rest, answered⟩ := upstream_side_exact surroundings pieces past front back stream
  refine ⟨left, past ++ [⟨.receiveExact front.length, .ok ⟨front, rfl⟩⟩], rest, ?_⟩
  rw [receiveExactWithin, drive, answered]
  rfl

theorem consumes_address (atyp : UInt8) (address : Bytes) (bound : BoundAddress (atyp :: address)) :
    Consumes surroundings (skipAddress atyp) address () := by
  cases bound with
  | ipv4 _ size =>
      have taken := consumes_bind surroundings _ (fun _ => .done ()) address [] address ()
        (consumes_receive_exact surroundings 6 address size)
        (consumes_done surroundings ())
      rwa [List.append_nil] at taken
  | ipv6 _ size =>
      have taken := consumes_bind surroundings _ (fun _ => .done ()) address [] address ()
        (consumes_receive_exact surroundings 18 address size)
        (consumes_done surroundings ())
      rwa [List.append_nil] at taken
  | domain name port short size =>
      have length : (lengthByte name).toNat = name.length := length_byte_nat name short
      have counted : (name ++ port).length = (byteAt [lengthByte name] 0).toNat + 2 := by
        rw [List.length_append, size]
        exact congrArg (· + 2) length.symm
      have body := consumes_bind surroundings _ (fun _ => .done ()) (name ++ port) [] _ ()
        (consumes_receive_exact surroundings _ (name ++ port) counted) (consumes_done surroundings ())
      rw [List.append_nil] at body
      exact consumes_bind surroundings (receiveExact 1)
        (fun length => (receiveExact ((byteAt length 0).toNat + 2)).bind fun _ => .done ()) [lengthByte name] (name ++ port) _ ()
        (consumes_receive_exact surroundings 1 [lengthByte name] rfl) body

theorem consumes_socks5 (texts : Socks5Texts) (proxy : ProxyConfig) (host : Str) (port : UInt16)
    (method : UInt8) (login address : Bytes)
    (authenticates : Consumes surroundings (socks5Auth texts proxy method) login ()) (bound : BoundAddress address) :
    Consumes surroundings (socks5Handshake texts proxy host port)
    ([0x05, method] ++ (login ++ ([0x05, 0x00, 0x00] ++ address))) () := by
  obtain ⟨atyp, rest, rfl⟩ : ∃ atyp rest, address = atyp :: rest := by
    cases bound <;> exact ⟨_, _, rfl⟩
  refine consumes_bind surroundings _ _ [] _ () () (consumes_send surroundings _) ?_
  refine consumes_bind surroundings _ _ [0x05, method] _ [0x05, method] () (consumes_receive_exact surroundings 2 _ rfl) ?_
  refine consumes_bind surroundings _ _ login _ () () authenticates ?_
  refine consumes_bind surroundings _ _ [] _ () () (consumes_send surroundings _) ?_
  refine consumes_bind surroundings _ _ [0x05, 0x00, 0x00, atyp] rest [0x05, 0x00, 0x00, atyp] ()
    (consumes_receive_exact_within surroundings 4 _ _ rfl) ?_
  exact consumes_address surroundings atyp rest bound

theorem consumes_anonymous (texts : Socks5Texts) (proxy : ProxyConfig) :
    Consumes surroundings (socks5Auth texts proxy 0x00) [] () :=
  consumes_done surroundings ()

theorem consumes_password (texts : Socks5Texts) (proxy : ProxyConfig) (known : (credentials proxy).isSome) :
    Consumes surroundings (socks5Auth texts proxy 0x02) [0x01, 0x00] () := by
  obtain ⟨login, known⟩ := Option.isSome_iff_exists.mp known
  rw [socks5Auth, if_pos rfl, known]
  refine consumes_bind surroundings _ _ [] _ () () (consumes_send surroundings _) ?_
  exact consumes_bind surroundings _ _ [0x01, 0x00] [] [0x01, 0x00] () (consumes_receive_exact surroundings 2 _ rfl)
    (consumes_done surroundings ())

theorem consumes_socks4 (refused : String) (host : Str) (port : UInt16) (ignored : Bytes) (size : ignored.length = 6) :
    Consumes surroundings (socks4Handshake refused host port) ([0x00, 0x5A] ++ ignored) () := by
  refine consumes_bind surroundings _ _ [] _ () () (consumes_send surroundings _) ?_
  have verdict : byteAt ([0x00, 0x5A] ++ ignored) 1 = 0x5A := rfl
  have taken := consumes_bind surroundings (receiveExact 8)
    (fun response => if byteAt response 1 = 0x5A then .done () else throw refused) ([0x00, 0x5A] ++ ignored) [] _ ()
    (consumes_receive_exact surroundings 8 _ (by simp [size])) (by rw [if_pos verdict]; exact consumes_done surroundings ())
  rwa [List.append_nil] at taken

theorem take_read_first (limit : Nat) (pieces : List Bytes) : (takeRead limit pieces).1 = (pieces.headD []).take limit := by
  cases pieces with
  | nil => exact List.take_nil.symm
  | cons piece rest =>
      simp only [takeRead, List.headD_cons]
      split
      · exact (List.take_of_length_le (by assumption)).symm
      · rfl

def httpAnswered (response : Bytes) : Except Failure Unit :=
  if contains (fromUtf8Lossy response) established then .ok () else .error (protocolError "HTTP tunnel failed")

theorem drive_http (proxy : ProxyConfig) (host : Str) (port : UInt16) (pieces : List Bytes) :
    ∃ later, drive (upstreamSide surroundings) pieces [] (httpConnect proxy host port) =
      ⟨later, (takeRead 1024 pieces).2, httpAnswered (takeRead 1024 pieces).1⟩ := by
  have ran : drive (upstreamSide surroundings) pieces [] (httpConnect proxy host port) =
      drive (upstreamSide surroundings) (takeRead 1024 pieces).2
        [sent (.connectHttp host port (credentials proxy)),
          received 1024 ⟨(takeRead 1024 pieces).1, take_read_length 1024 pieces⟩]
        ((if contains (fromUtf8Lossy (takeRead 1024 pieces).1) established then .done (takeRead 1024 pieces).1
          else throw "HTTP tunnel failed").bind fun _ => .done ()) := rfl
  rw [ran, httpAnswered]
  by_cases accepted : contains (fromUtf8Lossy (takeRead 1024 pieces).1) established = true
  · rw [if_pos accepted, if_pos accepted]
    exact ⟨_, rfl⟩
  · rw [if_neg accepted, if_neg accepted]
    exact ⟨_, rfl⟩

theorem http_consumes_iff (proxy : ProxyConfig) (host : Str) (port : UInt16) (pieces : List Bytes) (reply tunnel : Bytes)
    (accepted : contains (fromUtf8Lossy reply) established = true) (cut : pieces.flatten = reply ++ tunnel) :
    ((drive (upstreamSide surroundings) pieces [] (httpConnect proxy host port)).outcome = .ok () ∧
      (drive (upstreamSide surroundings) pieces [] (httpConnect proxy host port)).state.flatten = tunnel) ↔
        (pieces.headD []).take 1024 = reply := by
  obtain ⟨later, ran⟩ := drive_http surroundings proxy host port pieces
  have whole := take_read_flatten 1024 pieces
  rw [cut] at whole
  rw [ran, ← take_read_first]
  dsimp only
  constructor
  · rintro ⟨_, left⟩
    rw [left] at whole
    exact List.append_cancel_right whole
  · intro first
    rw [first] at whole
    exact ⟨by rw [first, httpAnswered, if_pos accepted], List.append_cancel_left whole⟩

theorem response_head_accepted (version : Str) (headers : List Bytes) :
    contains (fromUtf8Lossy (responseHead version headers)) established = true := by
  rw [responseHead, List.append_assoc, List.append_assoc, lossy_encoded_append, contains, decide_eq_true_eq]
  exact List.infix_append _ _ _

end Consumption

structure ReplyConsumed (surroundings : History → (op : Op) → op.Reply) (proxy : ProxyConfig) (host : Str) (port : UInt16)
    (pieces : List Bytes) (tunnel : Bytes) : Prop where
  outcome : (drive (upstreamSide surroundings) pieces [] (connectThroughProxy proxy host port)).outcome = .ok ()
  unread : (drive (upstreamSide surroundings) pieces [] (connectThroughProxy proxy host port)).state.flatten = tunnel

section Handshakes

variable (surroundings : History → (op : Op) → op.Reply) (proxy : ProxyConfig) (host : Str) (port : UInt16) (pieces : List Bytes)
  (reply tunnel : Bytes) (cut : pieces.flatten = reply ++ tunnel)

include cut in
theorem consumes_reply (consumes : Consumes surroundings (connectThroughProxy proxy host port) reply ()) :
    ReplyConsumed surroundings proxy host port pieces tunnel := by
  obtain ⟨left, later, rest, ran⟩ := consumes pieces [] tunnel cut
  exact ⟨by rw [ran], by rw [ran]; exact rest⟩

theorem reply_consumed_iff (success : SuccessReply proxy reply) (cut : pieces.flatten = reply ++ tunnel) :
    ReplyConsumed surroundings proxy host port pieces tunnel ↔ (IsTunnel proxy → (pieces.headD []).take 1024 = reply) := by
  have socks : ∀ type, proxy.proxyType = type → type ≠ .http → type ≠ .https → ¬ IsTunnel proxy := by
    rintro type rfl notHttp notHttps (http | https)
    · exact notHttp http
    · exact notHttps https
  cases success with
  | anonymous type address bound =>
      have taken := consumes_socks5 surroundings chainTexts proxy host port 0x00 [] address
        (consumes_anonymous surroundings _ _) bound
      have other := socks _ type (by decide) (by decide)
      refine iff_of_true (consumes_reply surroundings proxy host port pieces _ tunnel cut ?_)
        (fun tunnels => absurd tunnels other)
      rwa [connectThroughProxy, type]
  | password type known address bound =>
      have taken := consumes_socks5 surroundings chainTexts proxy host port 0x02 [0x01, 0x00] address
        (consumes_password surroundings _ _ known) bound
      have other := socks _ type (by decide) (by decide)
      refine iff_of_true (consumes_reply surroundings proxy host port pieces _ tunnel cut ?_)
        (fun tunnels => absurd tunnels other)
      rwa [connectThroughProxy, type]
  | socks4 type ignored size =>
      have taken := consumes_socks4 surroundings "SOCKS4 connect failed" host port ignored size
      have other := socks _ type (by decide) (by decide)
      refine iff_of_true (consumes_reply surroundings proxy host port pieces _ tunnel cut ?_)
        (fun tunnels => absurd tunnels other)
      rwa [connectThroughProxy, type]
  | http type version headers known fields =>
      have program : connectThroughProxy proxy host port = httpConnect proxy host port := by
        rcases type with http | https
        · rw [connectThroughProxy, http]
        · rw [connectThroughProxy, https]
      have decided := http_consumes_iff surroundings proxy host port pieces _ tunnel (response_head_accepted version headers) cut
      rw [← program] at decided
      constructor
      · intro consumed _
        exact decided.mp ⟨consumed.outcome, consumed.unread⟩
      · intro first
        obtain ⟨outcome, unread⟩ := decided.mpr (first type)
        exact ⟨outcome, unread⟩

end Handshakes

def cutReply : List Bytes := [[0x05], [0x02, 0x01], [0x00, 0x05, 0x00, 0x00, 0x03, 0x01], [0x61, 0x00, 0x50, 0x53], [0x53, 0x48]]

theorem reply_consumed_cut : ReplyConsumed (fun _ => accepting) openUpstream "example.com" 22 cutReply [0x53, 0x53, 0x48] ↔
    (IsTunnel openUpstream → (cutReply.headD []).take 1024 =
      [0x05, 0x02] ++ ([0x01, 0x00] ++ ([0x05, 0x00, 0x00] ++ (0x03 :: lengthByte [0x61] :: ([0x61] ++ [0x00, 0x50]))))) :=
  reply_consumed_iff (fun _ => accepting) openUpstream "example.com" 22 cutReply _ [0x53, 0x53, 0x48]
    (.password rfl rfl _ (.domain [0x61] [0x00, 0x50] (by decide) rfl)) (by decide)

def tunnelUpstream : ProxyConfig := { openUpstream with proxyType := .http }

def ConsumedAlways : Prop :=
  ∀ (proxy : ProxyConfig) (host : Str) (port : UInt16) (reply tunnel : Bytes) (pieces : List Bytes), SuccessReply proxy reply →
    CutOf (reply ++ tunnel) pieces → ReplyConsumed (fun _ => accepting) proxy host port pieces tunnel

-- A banner that comes with the reply never reaches the client.
theorem banner_swallowed : ¬ ConsumedAlways := by
  intro always
  have success : SuccessReply tunnelUpstream (responseHead "HTTP/1.1" []) := .http (.inl rfl) _ [] (.inr rfl) (by simp)
  have cut : CutOf (responseHead "HTTP/1.1" [] ++ utf8 "SSH-2.0") [responseHead "HTTP/1.1" [] ++ utf8 "SSH-2.0"] :=
    ⟨List.flatten_singleton, by decide⟩
  have consumed := always tunnelUpstream "example.com" 22 _ _ _ success cut
  have first := (http_consumes_iff (fun _ => accepting) tunnelUpstream "example.com" 22 _ _ _
    (response_head_accepted "HTTP/1.1" []) cut.1).mp ⟨consumed.outcome, consumed.unread⟩
  exact absurd first (by decide)

end Purroute
