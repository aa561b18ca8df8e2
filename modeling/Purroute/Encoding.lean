import Purroute.Carriers
import Purroute.Segmentation

set_option autoImplicit false

namespace Purroute

open Interaction Interaction.Program

def loginEnd (message : Bytes) : Nat :=
  let ulen := (byteAt message 1).toNat
  2 + ulen + 1 + (byteAt message (2 + ulen)).toNat

def DecodesLogin (message : Bytes) (username password : Str) : Prop :=
  socks5Credentials message = .ok (username, password) ∧ message.length = loginEnd message

def DecodesRequest (message : Bytes) (host : Str) (port : UInt16) : Prop :=
  ∀ (surroundings : History → (op : Op) → op.Reply) (pieces : List Bytes) (past : History), pieces.flatten = message →
    (drive (clientSide surroundings) pieces past socks5Target).outcome = .ok (host, port) ∧
      (drive (clientSide surroundings) pieces past socks5Target).state.flatten = []

def ReadsBack (platform : Platform) (proxy : ProxyConfig) (host : Str) (port : UInt16) (message : Message) : Prop :=
  match message with
  | .methods _ => True
  | .userPass _ _ => ∃ username password, credentials proxy = some (username, password) ∧
      DecodesLogin (message.bytes platform) username password
  | .connect5 _ _ => DecodesRequest (message.bytes platform) host port
  | _ => False

def FitsLengthBytes (proxy : ProxyConfig) (host : Str) : Prop :=
  (utf8 host).length ≤ 255 ∧
    ∀ username password, credentials proxy = some (username, password) → (utf8 username).length ≤ 255 ∧
      (utf8 password).length ≤ 255

theorem login_decodes_iff (platform : Platform) (username password : Str) :
    DecodesLogin ((Message.userPass username password).bytes platform) username password ↔
      (utf8 username).length ≤ 255 ∧ (utf8 password).length ≤ 255 := by
  have message : (Message.userPass username password).bytes platform = subNegotiation username password := rfl
  have nameLength : byteAt (subNegotiation username password) 1 = lengthByte (utf8 username) := rfl
  have total : (subNegotiation username password).length = 3 + (utf8 username).length + (utf8 password).length := by
    simp [subNegotiation]
    omega
  have passwordLength : byteAt (subNegotiation username password) (2 + (utf8 username).length) = lengthByte (utf8 password) := by
    have split : subNegotiation username password =
        (0x01 :: lengthByte (utf8 username) :: utf8 username) ++ lengthByte (utf8 password) :: utf8 password := rfl
    rw [split]
    exact byte_at_append _ _ _ _ (by simp; omega)
  rw [message, DecodesLogin, loginEnd, nameLength, total]
  constructor
  · rintro ⟨_, ends⟩
    have nameBound := (lengthByte (utf8 username)).toNat_lt
    have nameByte : (lengthByte (utf8 username)).toNat = (utf8 username).length % 256 := by simp [lengthByte]
    have short : (utf8 username).length ≤ 255 := by
      by_contra long
      have last := (byteAt (subNegotiation username password) (2 + (lengthByte (utf8 username)).toNat)).toNat_lt
      omega
    have passwordByte : (lengthByte (utf8 password)).toNat = (utf8 password).length % 256 := by simp [lengthByte]
    rw [length_byte_nat _ short, passwordLength] at ends
    omega
  · rintro ⟨shortName, shortPassword⟩
    have parsed := socks5_credentials_carried username password [] shortName shortPassword
    rw [List.append_nil] at parsed
    rw [length_byte_nat _ shortName, passwordLength, length_byte_nat _ shortPassword]
    exact ⟨parsed, by omega⟩

theorem take_exact_front (pieces : List Bytes) (front back : Bytes) (stream : pieces.flatten = front ++ back) :
    ∃ left, takeExact pieces front.length = some (front, left) ∧ left.flatten = back := by
  cases taken : takeExact pieces front.length with
  | none =>
      have short := take_exact_none pieces front.length taken
      rw [stream, List.length_append] at short
      omega
  | some result =>
      obtain ⟨length, whole⟩ := take_exact_some pieces front.length result.1 result.2 taken
      obtain ⟨same, rest⟩ := List.append_inj (whole.trans stream) length
      exact ⟨result.2, by rw [← same], rest⟩

section Streams

variable {A : Type} (surroundings : History → (op : Op) → op.Reply) (pieces : List Bytes) (past : History)

theorem client_side_front (front back : Bytes) (stream : pieces.flatten = front ++ back) :
    ∃ left, left.flatten = back ∧
      clientSide surroundings pieces past (.readExact front.length) = (.ok ⟨front, rfl⟩, left) := by
  obtain ⟨left, taken, rest⟩ := take_exact_front pieces front back stream
  refine ⟨left, rest, ?_⟩
  simp only [clientSide]
  split
  · rename_i bytes other found
    rw [taken, Option.some.injEq, Prod.mk.injEq] at found
    obtain ⟨rfl, rfl⟩ := found
    rfl
  · rename_i missing
    rw [taken] at missing
    cases missing

theorem drive_read_exact (front back : Bytes) (count : Nat) (next : Bytes → Router A) (stream : pieces.flatten = front ++ back)
    (size : front.length = count) :
    ∃ left later, left.flatten = back ∧ drive (clientSide surroundings) pieces past ((clientReadExact count).bind next) =
      drive (clientSide surroundings) left later (next front) := by
  subst size
  obtain ⟨left, rest, answered⟩ := client_side_front surroundings pieces past front back stream
  refine ⟨left, past ++ [⟨.readExact front.length, .ok ⟨front, rfl⟩⟩], rest, ?_⟩
  rw [clientReadExact, ask_bind, drive, answered]
  rfl

theorem drive_domain (command reserved length : UInt8) (body back : Bytes) (size : body.length = length.toNat + 2)
    (stream : pieces.flatten = [0x05, command, reserved, 0x03] ++ ([length] ++ (body ++ back))) :
    (drive (clientSide surroundings) pieces past socks5Target).outcome =
        .ok (fromUtf8Lossy (body.take length.toNat), fromBeBytes (byteAt body length.toNat) (byteAt body (length.toNat + 1))) ∧
      (drive (clientSide surroundings) pieces past socks5Target).state.flatten = back := by
  have domain : socks5Address 0x03 = (clientReadExact 1).bind fun length =>
      (clientReadExact ((byteAt length 0).toNat + 2)).bind fun domain =>
        .done (fromUtf8Lossy (domain.take (byteAt length 0).toNat),
          fromBeBytes (byteAt domain (byteAt length 0).toNat) (byteAt domain ((byteAt length 0).toNat + 1))) := rfl
  obtain ⟨left, later, rest, first⟩ := drive_read_exact surroundings pieces past [0x05, command, reserved, 0x03] _ 4
    (fun header => if byteAt header 0 ≠ 0x05 then throw "Invalid SOCKS5 version in request" else socks5Address (byteAt header 3))
    stream rfl
  obtain ⟨left', later', rest', second⟩ := drive_read_exact surroundings left later [length] _ 1
    (fun length => (clientReadExact ((byteAt length 0).toNat + 2)).bind fun domain =>
      .done (fromUtf8Lossy (domain.take (byteAt length 0).toNat),
        fromBeBytes (byteAt domain (byteAt length 0).toNat) (byteAt domain ((byteAt length 0).toNat + 1)))) rest rfl
  obtain ⟨left'', later'', rest'', third⟩ := drive_read_exact surroundings left' later' body back (length.toNat + 2)
    (fun domain => .done (fromUtf8Lossy (domain.take length.toNat),
      fromBeBytes (byteAt domain length.toNat) (byteAt domain (length.toNat + 1)))) rest' size
  have whole : drive (clientSide surroundings) pieces past socks5Target =
    ⟨later'', left'', .ok (fromUtf8Lossy (body.take length.toNat),
      fromBeBytes (byteAt body length.toNat) (byteAt body (length.toNat + 1)))⟩ := by
    rw [← domain] at second
    exact first.trans (second.trans third)
  rw [whole]
  exact ⟨rfl, rest''⟩

end Streams

theorem from_to_be_bytes (port : UInt16) : fromBeBytes (byteAt (toBeBytes port) 0) (byteAt (toBeBytes port) 1) = port := by
  have bound := port.toNat_lt
  have high : (UInt8.ofNat (port.toNat / 256)).toNat = port.toNat / 256 := by simp; omega
  have low : (UInt8.ofNat (port.toNat % 256)).toNat = port.toNat % 256 := by simp
  change UInt16.ofNat ((UInt8.ofNat (port.toNat / 256)).toNat * 256 + (UInt8.ofNat (port.toNat % 256)).toNat) = port
  rw [high, low, Nat.div_add_mod', UInt16.ofNat_toNat]

theorem request_decodes_iff (platform : Platform) (host : Str) (port : UInt16) :
    DecodesRequest ((Message.connect5 host port).bytes platform) host port ↔ (utf8 host).length ≤ 255 := by
  have lengthValue : (lengthByte (utf8 host)).toNat = (utf8 host).length % 256 := by simp [lengthByte]
  have fields : (Message.connect5 host port).bytes platform = [0x05, 0x01, 0x00, 0x03] ++ ([lengthByte (utf8 host)] ++
      ((utf8 host ++ toBeBytes port).take ((lengthByte (utf8 host)).toNat + 2) ++
        (utf8 host ++ toBeBytes port).drop ((lengthByte (utf8 host)).toNat + 2))) := by
    rw [List.take_append_drop]
    simp [Message.bytes]
  have size : ((utf8 host ++ toBeBytes port).take ((lengthByte (utf8 host)).toNat + 2)).length =
    (lengthByte (utf8 host)).toNat + 2 := by
    simp [toBeBytes]
    omega
  constructor
  · intro decodes
    have stream : [(Message.connect5 host port).bytes platform].flatten =
      (Message.connect5 host port).bytes platform := List.flatten_singleton
    have left := (decodes (fun _ => accepting) _ [] stream).2
    rw [fields] at stream
    rw [(drive_domain _ _ [] 0x01 0x00 (lengthByte (utf8 host)) _ _ size (by rw [fields, stream])).2, List.drop_eq_nil_iff,
      List.length_append] at left
    have two : (toBeBytes port).length = 2 := rfl
    omega
  · intro short surroundings pieces past stream
    rw [fields] at stream
    obtain ⟨outcome, left⟩ := drive_domain surroundings pieces past 0x01 0x00 (lengthByte (utf8 host)) _ _ size stream
    have high : byteAt (utf8 host ++ toBeBytes port) (utf8 host).length = byteAt (toBeBytes port) 0 := by
      simp [byteAt, List.getElem?_append_right]
    have low : byteAt (utf8 host ++ toBeBytes port) ((utf8 host).length + 1) = byteAt (toBeBytes port) 1 := by
      simp [byteAt, List.getElem?_append_right]
    have all : (utf8 host ++ toBeBytes port).length = (utf8 host).length + 2 := by simp [toBeBytes]
    rw [outcome, left, length_byte_nat _ short, ← all, List.take_length, List.drop_length,
      List.take_left, lossy_encoded, high, low,
      from_to_be_bytes]
    exact ⟨rfl, rfl⟩

section Handshakes

variable (platform : Platform) (texts : Socks5Texts) (proxy : ProxyConfig) (host : Str) (port : UInt16)

theorem handshake_offered (choice : { bytes : Bytes // bytes.length = 2 }) : Reaches (socks5Handshake texts proxy host port)
    [sent (.methods (offeredMethods proxy)), receivedExact 2 choice]
    ((socks5Auth texts proxy (byteAt choice.val 1)).bind fun _ => (send (.connect5 host port)).bind fun _ =>
      (receiveExactWithin 4 texts.expired).bind fun response => socks5Reply texts response) :=
  send_reaches _ _ _ _ (receive_exact_reaches _ _ _ choice _ (.here _))

variable (readBack : ∀ (trace : History) (rest : Router Unit), Reaches (socks5Handshake texts proxy host port) trace rest →
  ∀ message reply, ⟨.send message, reply⟩ ∈ trace → ReadsBack platform proxy host port message)

include readBack

theorem read_back_host : (utf8 host).length ≤ 255 := by
  have asked : Reaches (socks5Handshake texts proxy host port)
      ([sent (.methods (offeredMethods proxy)), receivedExact 2 ⟨[0x05, 0x00], rfl⟩] ++ [sent (.connect5 host port)])
      ((receiveExactWithin 4 texts.expired).bind fun response => socks5Reply texts response) :=
    reaches_append _ _ _ _ _ (handshake_offered texts proxy host port ⟨[0x05, 0x00], rfl⟩) (send_reaches _ _ _ _ (.here _))
  exact (request_decodes_iff platform host port).mp (readBack _ _ asked (.connect5 host port) (.ok ()) (by simp [sent]))

theorem read_back_login (username password : Str) (known : credentials proxy = some (username, password)) :
    (utf8 username).length ≤ 255 ∧ (utf8 password).length ≤ 255 := by
  have login : ∀ next : Unit → Router Unit, Reaches ((socks5Auth texts proxy 0x02).bind next) [sent (.userPass username password)]
      (((receiveExact 2).bind (checkVerdict texts)).bind next) := by
    intro next
    rw [socks5Auth, if_pos rfl, known]
    exact reaches_bind_first _ _ next _ (send_reaches [] _ _ _ (.here _))
  have asked := reaches_append _ _ _ _ _ (handshake_offered texts proxy host port ⟨[0x05, 0x02], rfl⟩) (login _)
  obtain ⟨name, secret, same, decodes⟩ := readBack _ _ asked (.userPass username password) (.ok ()) (by simp [sent])
  cases same.symm.trans known
  exact (login_decodes_iff platform username password).mp decodes

end Handshakes

-- Every copy of the outbound handshake is this one, with texts of its own.
theorem encoders_read_back_iff (platform : Platform) (texts : Socks5Texts) (proxy : ProxyConfig) (host : Str) (port : UInt16) :
    (∀ (trace : History) (rest : Router Unit), Reaches (socks5Handshake texts proxy host port) trace rest →
        ∀ message reply, ⟨.send message, reply⟩ ∈ trace → ReadsBack platform proxy host port message) ↔
      FitsLengthBytes proxy host := by
  constructor
  · intro readBack
    exact ⟨read_back_host platform texts proxy host port readBack, read_back_login platform texts proxy host port readBack⟩
  · rintro ⟨shortHost, shortLogin⟩ trace rest reached message reply member
    have uses : Uses (fun op : Op => ∀ message, op = .send message → ReadsBack platform proxy host port message)
        (socks5Handshake texts proxy host port) := by
      apply socks5_handshake_uses
      · rintro _ ⟨⟩
        trivial
      · rintro _ ⟨⟩
        exact (request_decodes_iff platform host port).mpr shortHost
      · rintro username password known _ ⟨⟩
        exact ⟨username, password, known, (login_decodes_iff platform username password).mpr (shortLogin username password known)⟩
      · rintro count message ⟨⟩
    exact (uses_event _ _ _ uses reached).1 _ member message rfl

section Examples

def longName : Str := List.replicate 300 'a'
def openUpstream : ProxyConfig :=
  ⟨none, .socks5, "10.0.0.1", some 1080, some "me", some "pw", ⟨none, none, none, none, none⟩, 1, none⟩

def ReadBackAlways : Prop :=
  ∀ (request : Bytes) (host : Str) (port : UInt16) (texts : Socks5Texts) (proxy : ProxyConfig)
    (trace : History) (rest : Router Unit),
    parseConnectTarget request = .ok (host, port) → Reaches (socks5Handshake texts proxy host port) trace rest →
      ∀ message reply, ⟨.send message, reply⟩ ∈ trace → ReadsBack standard proxy host port message

-- 300 is put on the wire as 44, and the name goes on where the port belongs.
theorem long_name_garbled : ¬ ReadBackAlways := by
  intro always
  have parsed : parseConnectTarget (utf8 ("CONNECT " ++ longName ++ ":443 HTTP/1.1\r\n\r\n")) = .ok (longName, 443) := by
    decide +kernel
  have fits := read_back_host standard handlerTexts openUpstream longName 443 fun trace rest =>
    always _ _ _ handlerTexts openUpstream trace rest parsed
  exact absurd fits (by decide +kernel)

end Examples

end Purroute
