import Purroute.Interaction
import Purroute.Resolve

set_option autoImplicit false

namespace Purroute

open Interaction (Program)

abbrev Credentials := Option (Str × Str)

def crlf : Bytes := [13, 10]

-- `s.len() as u8`: the length is cut to its low byte.
def lengthByte (bytes : Bytes) : UInt8 := UInt8.ofNat bytes.length

-- What the router writes to an upstream, by field; `bytes` is the encoding.
inductive Message where
  | methods (offered : Bytes)
  | userPass (username password : Str)
  | connect5 (host : Str) (port : UInt16)
  | connect4 (host : Str) (port : UInt16)
  | connectHttp (host : Str) (port : UInt16) (credentials : Credentials)
  | connectTarget (target : Str) (credentials : Credentials)
  | rebuilt (firstLine : Str) (credentials : Credentials) (headers : List Str)
  | raw (payload : Bytes)
deriving DecidableEq, Repr

def authorizationLine (platform : Platform) : Credentials → Bytes
  | none => []
  | some (username, password) => utf8 "Proxy-Authorization: Basic " ++ utf8 (encodeAuth platform username password) ++ crlf

def connectRequest (platform : Platform) (target : Str) (credentials : Credentials) : Bytes :=
  utf8 ("CONNECT " ++ target ++ " HTTP/1.1") ++ crlf ++ utf8 ("Host: " ++ target) ++ crlf ++
    authorizationLine platform credentials ++ crlf

def authority (host : Str) (port : UInt16) : Str := host ++ ":" ++ toDecimal port.toNat

def Message.bytes (platform : Platform) : Message → Bytes
  | .methods offered => 0x05 :: lengthByte offered :: offered
  | .userPass username password =>
      0x01 :: lengthByte (utf8 username) :: utf8 username ++ lengthByte (utf8 password) :: utf8 password
  | .connect5 host port => [0x05, 0x01, 0x00, 0x03, lengthByte (utf8 host)] ++ utf8 host ++ toBeBytes port
  | .connect4 host port => [0x04, 0x01] ++ toBeBytes port ++ [0x00, 0x00, 0x00, 0x01, 0x00] ++ utf8 host ++ [0x00]
  | .connectHttp host port credentials => connectRequest platform (authority host port) credentials
  | .connectTarget target credentials => connectRequest platform target credentials
  | .rebuilt firstLine credentials headers =>
      utf8 firstLine ++ crlf ++ authorizationLine platform credentials ++
        (headers.flatMap fun header => utf8 header ++ crlf) ++ crlf
  | .raw payload => payload

inductive IpAddr where
  | v4 (bits : BitVec 32)
  | v6 (bits : BitVec 128)
deriving DecidableEq, Repr

structure Account where
  id : Int
  bandwidthLimit : Option Int
  defaultSelection : Option Str
deriving DecidableEq, Repr

inductive Fault where
  | failed
  | elapsed
  | panicked
deriving DecidableEq, Repr

-- Everything a connection task asks of its surroundings. The two sockets are
-- told apart by name: read, readExact and reply are the client's, dial, send,
-- receive and receiveExact the upstream's.
inductive Op where
  | read (limit : Nat)
  | readExact (count : Nat)
  | reply (bytes : Bytes)
  | dial (address : Str)
  | send (message : Message)
  | receive (limit : Nat)
  | receiveExact (count : Nat)
  | authenticate (username secret : Str)
  | authenticateByIp (peer : IpAddr)
  | load
  | relay (id : Option Int) (costPerByte : Rat)
  | record (success : Bool)
  | decrement
deriving DecidableEq, Repr

def Op.Reply : Op → Type
  | .read limit => Except Fault { bytes : Bytes // bytes.length ≤ limit }
  | .readExact count => Except Fault { bytes : Bytes // bytes.length = count }
  | .reply _ => Except Fault Unit
  | .dial _ => Except Fault Unit
  | .send _ => Except Fault Unit
  | .receive limit => Except Fault { bytes : Bytes // bytes.length ≤ limit }
  | .receiveExact count => Except Fault { bytes : Bytes // bytes.length = count }
  | .authenticate _ _ => Except Fault (Option Account)
  | .authenticateByIp _ => Except Fault (Option Account)
  | .load => List ProxyConfig × Draws
  | .relay _ _ => Except Failure Unit
  | .record _ => Unit
  | .decrement => Unit

abbrev signature : Interaction.Signature := ⟨Op, Op.Reply⟩
abbrev Router (A : Type) := Program signature Failure A
abbrev Event := Interaction.Event signature
abbrev History := Interaction.History signature

def throw {A : Type} (message : String) : Router A := .fail (protocolError message)

-- `.await?` on a call whose error is an `io::Error`.
def io {A : Type} : Except Fault A → Router A
  | .ok value => .done value
  | .error .panicked => .fail .panic
  | .error _ => .fail (.error .io)

-- The same under `timeout(..)`, whose expiry is reported as `expired`.
def ioWithin {A : Type} (expired : ProxyError) : Except Fault A → Router A
  | .ok value => .done value
  | .error .panicked => .fail .panic
  | .error .elapsed => .fail (.error expired)
  | .error .failed => .fail (.error .io)

-- `.await.map_err(|_| AuthFailed)?.ok_or(AuthFailed)?` on a backend call.
def admitted : Except Fault (Option Account) → Router Account
  | .ok (some account) => .done account
  | .error .panicked => .fail .panic
  | _ => .fail (.error .authFailed)

def clientRead (limit : Nat) : Router Bytes := .ask (.read limit) fun reply => (io reply).bind fun bytes => .done bytes.val
def clientReadExact (count : Nat) : Router Bytes :=
  .ask (.readExact count) fun reply => (io reply).bind fun bytes => .done bytes.val
def clientWrite (bytes : Bytes) : Router Unit := .ask (.reply bytes) io
def connect (address : Str) : Router Unit := .ask (.dial address) io
def send (message : Message) : Router Unit := .ask (.send message) io
def receive (limit : Nat) : Router Bytes := .ask (.receive limit) fun reply => (io reply).bind fun bytes => .done bytes.val
def receiveExact (count : Nat) : Router Bytes :=
  .ask (.receiveExact count) fun reply => (io reply).bind fun bytes => .done bytes.val
def receiveExactWithin (count : Nat) (expired : ProxyError) : Router Bytes :=
  .ask (.receiveExact count) fun reply => (ioWithin expired reply).bind fun bytes => .done bytes.val
def recordConnectionResult (success : Bool) : Router Unit := .ask (.record success) .done
def decrementActiveConnections : Router Unit := .ask .decrement .done

def byteAt (bytes : Bytes) (i : Nat) : UInt8 := bytes.getD i 0

def sent (message : Message) : Event := ⟨.send message, (.ok () : Except Fault Unit)⟩
def received (limit : Nat) (bytes : { bytes : Bytes // bytes.length ≤ limit }) : Event :=
  ⟨.receive limit, (.ok bytes : Except Fault { bytes : Bytes // bytes.length ≤ limit })⟩
def receivedExact (count : Nat) (bytes : { bytes : Bytes // bytes.length = count }) : Event :=
  ⟨.receiveExact count, (.ok bytes : Except Fault { bytes : Bytes // bytes.length = count })⟩

theorem io_cases {A : Type} (result : Except Fault A) :
    (∃ value, result = .ok value ∧ io result = .done value) ∨ ∃ failure, io result = .fail failure := by
  rcases result with ⟨_ | _ | _⟩ | value
  · exact .inr ⟨_, rfl⟩
  · exact .inr ⟨_, rfl⟩
  · exact .inr ⟨_, rfl⟩
  · exact .inl ⟨value, rfl, rfl⟩

section Frames

variable {A : Type} (allowed : Op → Prop)

theorem io_uses (result : Except Fault A) : Program.Uses allowed (io result) := by
  rcases result with ⟨_ | _ | _⟩ | _ <;> trivial

theorem within_uses (expired : ProxyError) (result : Except Fault A) : Program.Uses allowed (ioWithin expired result) := by
  rcases result with ⟨_ | _ | _⟩ | _ <;> trivial

theorem send_uses (message : Message) (may : allowed (.send message)) : Program.Uses allowed (send message) :=
  ⟨may, io_uses allowed⟩

theorem receive_uses (limit : Nat) (may : allowed (.receive limit)) : Program.Uses allowed (receive limit) :=
  ⟨may, fun reply => Program.uses_bind _ _ (io_uses allowed reply) fun _ => trivial⟩

theorem receive_exact_uses (count : Nat) (may : allowed (.receiveExact count)) : Program.Uses allowed (receiveExact count) :=
  ⟨may, fun reply => Program.uses_bind _ _ (io_uses allowed reply) fun _ => trivial⟩

end Frames

section Success

variable {A : Type} (trace : History) (value : A)

theorem io_bind_ok {R : Type} (result : Except Fault R) (next : R → Router A)
    (run : Program.Runs ((io result).bind next) trace (.ok value)) :
    ∃ reply, result = .ok reply ∧ Program.Runs (next reply) trace (.ok value) := by
  cases result with
  | ok reply => exact ⟨reply, rfl, run⟩
  | error fault => cases fault <;> cases run

theorem within_bind_ok {R : Type} (expired : ProxyError) (result : Except Fault R) (next : R → Router A)
    (run : Program.Runs ((ioWithin expired result).bind next) trace (.ok value)) :
    ∃ reply, result = .ok reply ∧ Program.Runs (next reply) trace (.ok value) := by
  cases result with
  | ok reply => exact ⟨reply, rfl, run⟩
  | error fault => cases fault <;> cases run

theorem read_bind_ok {R : Type} (result : Except Fault R) (bytesOf : R → Bytes) (next : Bytes → Router A)
    (run : Program.Runs (((io result).bind fun reply => .done (bytesOf reply)).bind next) trace (.ok value)) :
    ∃ reply, result = .ok reply ∧ Program.Runs (next (bytesOf reply)) trace (.ok value) := by
  rw [Program.bind_assoc] at run
  exact io_bind_ok trace value result _ run

theorem send_ok (message : Message) (next : Unit → Router A)
    (run : Program.Runs ((send message).bind next) trace (.ok value)) :
    ∃ later, trace = sent message :: later ∧ Program.Runs (next ()) later (.ok value) := by
  cases run with
  | step _ _ reply later _ tail =>
      obtain ⟨⟨⟩, rfl, rest⟩ := io_bind_ok later value reply next tail
      exact ⟨later, rfl, rest⟩

theorem receive_ok (limit : Nat) (next : Bytes → Router A)
    (run : Program.Runs ((receive limit).bind next) trace (.ok value)) :
    ∃ bytes later, trace = received limit bytes :: later ∧ Program.Runs (next bytes.val) later (.ok value) := by
  cases run with
  | step _ _ reply later _ tail =>
      obtain ⟨bytes, rfl, rest⟩ := read_bind_ok later value reply Subtype.val next tail
      exact ⟨bytes, later, rfl, rest⟩

theorem receive_exact_ok (count : Nat) (next : Bytes → Router A)
    (run : Program.Runs ((receiveExact count).bind next) trace (.ok value)) :
    ∃ bytes later, trace = receivedExact count bytes :: later ∧ Program.Runs (next bytes.val) later (.ok value) := by
  cases run with
  | step _ _ reply later _ tail =>
      obtain ⟨bytes, rfl, rest⟩ := read_bind_ok later value reply Subtype.val next tail
      exact ⟨bytes, later, rfl, rest⟩

theorem receive_exact_within_ok (count : Nat) (expired : ProxyError) (next : Bytes → Router A)
    (run : Program.Runs ((receiveExactWithin count expired).bind next) trace (.ok value)) :
    ∃ bytes later, trace = receivedExact count bytes :: later ∧ Program.Runs (next bytes.val) later (.ok value) := by
  cases run with
  | step _ _ reply later _ tail =>
      dsimp only at tail
      rw [Program.bind_assoc] at tail
      obtain ⟨bytes, rfl, rest⟩ := within_bind_ok later value expired reply _ tail
      exact ⟨bytes, later, rfl, rest⟩

end Success

section Progress

variable {A : Type} (later : History) (rest : Router A)

theorem send_reaches (message : Message) (next : Unit → Router A) (tail : Program.Reaches (next ()) later rest) :
    Program.Reaches ((send message).bind next) (sent message :: later) rest :=
  .step _ _ _ _ _ tail

theorem receive_reaches (limit : Nat) (bytes : { bytes : Bytes // bytes.length ≤ limit }) (next : Bytes → Router A)
    (tail : Program.Reaches (next bytes.val) later rest) :
    Program.Reaches ((receive limit).bind next) (received limit bytes :: later) rest :=
  .step _ _ _ _ _ tail

theorem receive_exact_reaches (count : Nat) (bytes : { bytes : Bytes // bytes.length = count }) (next : Bytes → Router A)
    (tail : Program.Reaches (next bytes.val) later rest) :
    Program.Reaches ((receiveExact count).bind next) (receivedExact count bytes :: later) rest :=
  .step _ _ _ _ _ tail

theorem receive_exact_within_reaches (count : Nat) (expired : ProxyError) (bytes : { bytes : Bytes // bytes.length = count })
    (next : Bytes → Router A) (tail : Program.Reaches (next bytes.val) later rest) :
    Program.Reaches ((receiveExactWithin count expired).bind next) (receivedExact count bytes :: later) rest :=
  .step _ _ _ _ _ tail

end Progress

end Purroute
