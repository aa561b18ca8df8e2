import Purroute.Encoding
import Purroute.WireUsername

set_option autoImplicit false

namespace Purroute

open Interaction Interaction.Program

def Sends {A : Type} (program : Router A) (good : Message → Prop) : Prop :=
  ∀ (trace : History) (rest : Router A), Reaches program trace rest →
    ∀ message reply, ⟨.send message, reply⟩ ∈ trace → good message

theorem sends_of_uses {A : Type} (program : Router A) (good : Message → Prop)
    (uses : Uses (fun op : Op => ∀ message, op = .send message → good message) program) : Sends program good := by
  intro trace rest reached message reply member
  exact (uses_event _ _ _ uses reached).1 _ member message rfl

section Connect

variable (platform : Platform) (host : Str) (port : UInt16) (credentials : Credentials)

def requestLines : List Str :=
  ["CONNECT " ++ authority host port ++ " HTTP/1.1", "Host: " ++ authority host port] ++
    (credentials.toList.map fun (username, password) => ownLine platform username password) ++ [[]]

structure NamesExactly (request : Bytes) : Prop where
  lines : lines (fromUtf8Lossy request) = requestLines platform host port credentials
  target : parseConnectTarget request = .ok (host, port)

theorem authority_solid (solid : Solid host) : Solid (authority host port) := by
  intro c member
  simp only [authority, List.mem_append] at member
  rcases member with (inside | colon) | digit
  · exact solid c inside
  · have same : c = ':' := by simpa using colon
    rw [same]
    decide
  · exact digit_dark c (List.all_eq_true.mp (decimal_digits port.toNat) c digit)

theorem lines_newline (line rest : Str) (solid : '\n' ∉ line) : lines (line ++ newline ++ rest) = line :: lines rest := by
  rw [newline, List.append_assoc]
  exact lines_cons line rest solid

theorem connect_head_lines (target rest : Str) (solid : '\n' ∉ target) :
    lines (connectHead target ++ rest) = ("CONNECT " ++ target ++ " HTTP/1.1") :: ("Host: " ++ target) :: lines rest := by
  have first : '\n' ∉ "CONNECT " ++ target ++ " HTTP/1.1" := by
    simp only [List.mem_append, solid, or_false, not_or]
    decide
  have second : '\n' ∉ "Host: " ++ target := by
    simp only [List.mem_append, solid, or_false]
    decide
  have split : connectHead target ++ rest =
      ("CONNECT " ++ target ++ " HTTP/1.1") ++ newline ++ (("Host: " ++ target) ++ newline ++ rest) := by
    unfold connectHead
    generalize "CONNECT ".toList = verb, " HTTP/1.1".toList = version, "Host: ".toList = name
    simp only [List.append_assoc]
  rw [split, lines_newline _ _ first, lines_newline _ _ second]

theorem connect_lines (solid : Solid host) :
    lines (fromUtf8Lossy ((Message.connectHttp host port credentials).bytes platform)) =
      requestLines platform host port credentials := by
  have text : (Message.connectHttp host port credentials).bytes platform =
      utf8 (requestText platform (connectHead (authority host port)) newline credentials) :=
    connect_request_text platform (authority host port) credentials
  have target := solid_lines _ (authority_solid host port solid)
  have blank : lines newline = [[]] := by decide
  rw [text, lossy_encoded, requestLines]
  cases credentials with
  | none => rw [requestText, connect_head_lines _ _ target, blank]; rfl
  | some pair =>
      rw [requestText, connect_head_lines _ _ target, lines_newline _ _ (own_line_solid platform pair.1 pair.2), blank]
      rfl

theorem connect_target (solid : Solid host) :
    parseConnectTarget ((Message.connectHttp host port credentials).bytes platform) = .ok (host, port) := by
  have solidTarget := authority_solid host port solid
  have filled : authority host port ≠ [] := by simp [authority]
  have words : splitWhitespace ("CONNECT " ++ authority host port ++ " HTTP/1.1") =
      ["CONNECT".toList, authority host port, "HTTP/1.1".toList] := by
    have split : ("CONNECT " : Str) ++ authority host port ++ (" HTTP/1.1" : Str) =
        "CONNECT".toList ++ ' ' :: (authority host port ++ ' ' :: "HTTP/1.1".toList) := by
      simp
    have last : splitWhitespace "HTTP/1.1" = ["HTTP/1.1".toList] := by decide
    rw [split, words_cons _ _ _ (solid_all _ (by decide)) (by decide) (by decide),
      words_cons _ _ _ solidTarget (by decide) filled, last]
  have absent : ':' ∉ toDecimal port.toNat := decimal_absent ':' _ (by decide)
  have cut : rsplitOnce ':' (authority host port) = some (host, toDecimal port.toNat) := by
    have shape : authority host port = host ++ ':' :: toDecimal port.toNat := by simp [authority]
    rw [shape, rsplit_once_append ':' _ _ absent]
  rw [parseConnectTarget, connect_lines platform host port credentials solid]
  simp only [requestLines, List.cons_append, List.head?_cons, words]
  simp only [List.getElem?_cons_succ, List.getElem?_cons_zero, splitHostPort, cut, parse_u16_decimal]

theorem parsed_host_solid (request : Bytes) (parsed : parseConnectTarget request = .ok (host, port)) : Solid host := by
  unfold parseConnectTarget at parsed
  cases first : (lines (fromUtf8Lossy request)).head? with
  | none => simp [first] at parsed
  | some line =>
      cases second : (splitWhitespace line)[1]? with
      | none => simp [first, second] at parsed
      | some target =>
          have solid := word_solid line target (List.mem_of_getElem? second)
          simp only [first, second, splitHostPort] at parsed
          cases cut : rsplitOnce ':' target with
          | none =>
              simp only [cut, Except.ok.injEq, Prod.mk.injEq] at parsed
              exact parsed.1 ▸ solid
          | some pair =>
              obtain ⟨whole, _⟩ := rsplit_once_some ':' target pair.1 pair.2 cut
              cases digits : parseU16 pair.2 with
              | none => simp [cut, digits] at parsed
              | some port =>
                  simp only [cut, digits, Except.ok.injEq, Prod.mk.injEq] at parsed
                  rw [← parsed.1]
                  exact fun c inside => solid c (by rw [whole]; exact List.mem_append_left _ inside)

theorem connect_names_iff :
    NamesExactly platform host port credentials ((Message.connectHttp host port credentials).bytes platform) ↔ Solid host := by
  constructor
  · intro names
    exact parsed_host_solid host port _ names.target
  · intro solid
    exact ⟨connect_lines platform host port credentials solid, connect_target platform host port credentials solid⟩

end Connect

-- The chain connector and the SOCKS4 handler each have a copy of the encoder.
inductive ConnectCopy (proxy : ProxyConfig) (host : Str) (port : UInt16) : Router Unit → Prop
  | chain : ConnectCopy proxy host port (httpConnect proxy host port)
  | socks4 (request : Bytes) (type : proxy.proxyType = .http ∨ proxy.proxyType = .https) :
      ConnectCopy proxy host port (socks4Upstream request proxy host port)

theorem connect_copy_uses (proxy : ProxyConfig) (host : Str) (port : UInt16) (program : Router Unit)
    (copy : ConnectCopy proxy host port program) (allowed : Op → Prop)
    (request : allowed (.send (.connectHttp host port (credentials proxy)))) (receives : allowed (.receive 1024))
    (replies : ∀ bytes, allowed (.reply bytes)) : Uses allowed program := by
  have handshake := http_handshake_uses allowed "HTTP tunnel failed" _ request receives
  cases copy with
  | chain => exact uses_bind _ _ handshake fun _ => trivial
  | socks4 raw type =>
      have granted := uses_bind _ (fun _ => clientWrite socks4Granted) handshake fun _ => ⟨replies _, io_uses _⟩
      rcases type with http | https
      · rw [socks4Upstream, http]
        exact granted
      · rw [socks4Upstream, https]
        exact granted

theorem connect_copy_asks (proxy : ProxyConfig) (host : Str) (port : UInt16) (good : Message → Prop)
    (sends : ∀ program, ConnectCopy proxy host port program → Sends program good) :
    good (.connectHttp host port (credentials proxy)) := by
  have asked : Reaches (httpConnect proxy host port) [sent (.connectHttp host port (credentials proxy))] _ :=
    reaches_bind_first _ _ _ _ (send_reaches [] _ _ _ (.here _))
  exact sends _ .chain _ _ asked _ (.ok ()) (List.mem_singleton_self _)

theorem connect_request_names_iff (platform : Platform) (proxy : ProxyConfig) (host : Str) (port : UInt16) :
    (∀ program, ConnectCopy proxy host port program → Sends program fun message =>
        NamesExactly platform host port (credentials proxy) (message.bytes platform)) ↔ Solid host := by
  rw [← connect_names_iff platform host port (credentials proxy)]
  constructor
  · exact connect_copy_asks proxy host port _
  · intro names program copy
    apply sends_of_uses
    apply connect_copy_uses proxy host port program copy
    · rintro _ ⟨⟩
      exact names
    · rintro _ ⟨⟩
    · rintro bytes _ ⟨⟩

def injectedRequest : Bytes := [0x04, 0x01, 0x00, 0x50, 0x00, 0x00, 0x00, 0x01, 0x00] ++ utf8 "a\r\nb" ++ [0x00]

def NamedAlways : Prop :=
  ∀ (request : Bytes) (host : Str) (port : UInt16) (proxy : ProxyConfig) (program : Router Unit),
    parseSocks4Target request = .ok (host, port) → ConnectCopy proxy host port program → Sends program fun message =>
      NamesExactly standard host port (credentials proxy) (message.bytes standard)

-- A line break in the name ends the request line.
theorem injected_name_splits : ¬ NamedAlways := by
  intro always
  have parsed : parseSocks4Target injectedRequest = .ok ("a\r\nb".toList, 80) := by decide
  have names := connect_copy_asks openUpstream "a\r\nb" 80 _ fun program =>
    always injectedRequest _ 80 openUpstream program parsed
  have solid := (connect_names_iff standard "a\r\nb" 80 (credentials openUpstream)).mp names
  exact absurd (solid '\n' (by decide)) (by decide)

section Socks4a

variable (platform : Platform) (host : Str) (port : UInt16)

structure DecodesSocks4 (request : Bytes) : Prop where
  target : parseSocks4Target request = .ok (host, port)
  terminated : scanEnd request (scanEnd request 8 + 1) + 1 = request.length

theorem nul_free_iff : 0 ∉ utf8 host ↔ Char.ofNat 0 ∉ host := by
  constructor
  · intro free member
    exact free (List.mem_flatMap.mpr ⟨_, member, by decide⟩)
  · intro free member
    exact free (utf8_ascii_mem host (Char.ofNat 0) (by decide) member)

theorem take_while_terminated : ((utf8 host ++ [0]).takeWhile (· ≠ 0)).length = (utf8 host).length ↔ 0 ∉ utf8 host := by
  constructor
  · intro whole member
    have taken := List.takeWhile_prefix (l := utf8 host ++ [0]) fun byte => decide (byte ≠ 0)
    have same := (List.prefix_of_prefix_length_le taken (List.prefix_append _ _) (Nat.le_of_eq whole)).eq_of_length whole
    rw [← same] at member
    simpa using List.mem_takeWhile_imp member
  · intro free
    rw [List.takeWhile_append_of_pos]
    · simp
    · intro byte member
      simpa using fun zero : byte = 0 => free (zero ▸ member)

theorem connect4_fields : (Message.connect4 host port).bytes platform =
    [0x04, 0x01] ++ toBeBytes port ++ [0x00, 0x00, 0x00, 0x01] ++ 0x00 :: (utf8 host ++ [0x00]) := by
  simp [Message.bytes]

theorem connect4_scan : scanEnd ((Message.connect4 host port).bytes platform) 8 = 8 ∧
    scanEnd ((Message.connect4 host port).bytes platform) 9 = 9 + ((utf8 host ++ [0]).takeWhile (· ≠ 0)).length := by
  rw [connect4_fields]
  exact ⟨rfl, rfl⟩

theorem connect4_length : ((Message.connect4 host port).bytes platform).length = 10 + (utf8 host).length := by
  rw [connect4_fields]
  simp [toBeBytes]
  omega

theorem connect4_target (free : 0 ∉ utf8 host) :
    parseSocks4Target ((Message.connect4 host port).bytes platform) = .ok (host, port) := by
  obtain ⟨user, domain⟩ := connect4_scan platform host port
  have length := connect4_length platform host port
  have whole := (take_while_terminated host).mpr free
  have version : byteAt ((Message.connect4 host port).bytes platform) 0 = 0x04 := rfl
  have marked : byteAt ((Message.connect4 host port).bytes platform) 4 = 0 ∧
    byteAt ((Message.connect4 host port).bytes platform) 5 = 0 ∧
      byteAt ((Message.connect4 host port).bytes platform) 6 = 0 ∧ byteAt ((Message.connect4 host port).bytes platform) 7 ≠ 0 :=
    ⟨rfl, rfl, rfl, (by decide : (0x01 : UInt8) ≠ 0)⟩
  have name : slice ((Message.connect4 host port).bytes platform) 9 (9 + (utf8 host).length) = utf8 host := by
    rw [slice, List.drop_take, Nat.add_sub_cancel_left, connect4_fields]
    exact List.take_left
  have ports : fromBeBytes (byteAt ((Message.connect4 host port).bytes platform) 2)
    (byteAt ((Message.connect4 host port).bytes platform) 3) =
      port := from_to_be_bytes port
  rw [parseSocks4Target, if_neg (by rw [not_or, not_not]; exact ⟨by omega, version⟩)]
  simp only [user, length, if_neg (show ¬ 10 + (utf8 host).length ≤ 8 by omega), if_pos marked,
    domain, whole, name, lossy_encoded, ports]

theorem connect4_decodes_iff : DecodesSocks4 host port ((Message.connect4 host port).bytes platform) ↔ Char.ofNat 0 ∉ host := by
  obtain ⟨user, domain⟩ := connect4_scan platform host port
  have length := connect4_length platform host port
  rw [← nul_free_iff]
  constructor
  · intro decodes
    have ends := decodes.terminated
    rw [user, domain, length] at ends
    exact (take_while_terminated host).mp (by omega)
  · intro free
    have whole := (take_while_terminated host).mpr free
    refine ⟨connect4_target platform host port free, ?_⟩
    rw [user, domain, length, whole]
    omega

end Socks4a

inductive Socks4Copy (host : Str) (port : UInt16) : Router Unit → Prop
  | chain (proxy : ProxyConfig) : Socks4Copy host port (socks4Connect proxy host port)
  | handler : Socks4Copy host port (socks4Handshake "SOCKS4 connection failed" host port)

theorem socks4_copy_asks (host : Str) (port : UInt16) (good : Message → Prop)
    (sends : ∀ program, Socks4Copy host port program → Sends program good) : good (.connect4 host port) := by
  have asked : Reaches (socks4Handshake "SOCKS4 connection failed" host port) [sent (.connect4 host port)] _ :=
    send_reaches _ _ _ _ (.here _)
  exact sends _ .handler _ _ asked _ (.ok ()) (List.mem_singleton_self _)

theorem socks4_request_decodes_iff (platform : Platform) (host : Str) (port : UInt16) :
    (∀ program, Socks4Copy host port program → Sends program fun message =>
        DecodesSocks4 host port (message.bytes platform)) ↔ Char.ofNat 0 ∉ host := by
  rw [← connect4_decodes_iff platform host port]
  constructor
  · exact socks4_copy_asks host port _
  · intro decodes program copy
    apply sends_of_uses
    have uses : ∀ refused, Uses (fun op : Op => ∀ message, op = .send message → DecodesSocks4 host port (message.bytes platform))
        (socks4Handshake refused host port) := by
      intro refused
      apply socks4_handshake_uses
      · rintro _ ⟨⟩
        exact decodes
      · rintro count _ ⟨⟩
    cases copy with
    | chain proxy => exact uses "SOCKS4 connect failed"
    | handler => exact uses "SOCKS4 connection failed"

def nulRequest : Bytes := utf8 "CONNECT a" ++ [0x00] ++ utf8 "b:443 HTTP/1.1\r\n\r\n"

def DecodedAlways : Prop :=
  ∀ (request : Bytes) (host : Str) (port : UInt16) (program : Router Unit), parseConnectTarget request = .ok (host, port) →
    Socks4Copy host port program → Sends program fun message => DecodesSocks4 host port (message.bytes standard)

-- The reader takes the null byte in the name for its end.
theorem nul_name_truncated : ¬ DecodedAlways := by
  intro always
  have parsed : parseConnectTarget nulRequest = .ok (['a', Char.ofNat 0, 'b'], 443) := by decide +kernel
  have decodes := socks4_copy_asks _ 443 _ fun program => always nulRequest _ 443 program parsed
  have free := (connect4_decodes_iff standard ['a', Char.ofNat 0, 'b'] 443).mp decodes
  exact absurd free (by decide)

end Purroute
