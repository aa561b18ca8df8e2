import Purroute.Auth
import Purroute.Handshake

set_option autoImplicit false

namespace Purroute

open Interaction Interaction.Program

def socks5Granted : Bytes := [0x05, 0x00, 0x00, 0x01, 0x00, 0x00, 0x00, 0x00, 0x00, 0x00]
def socks4Granted : Bytes := [0x00, 0x5A, 0x00, 0x00, 0x00, 0x00, 0x00, 0x00]
def tunnelGranted : Bytes := utf8 "HTTP/1.1 200 Connection Established" ++ crlf ++ crlf

-- The relay is one request here. A panic in it unwinds past the decrement.
def proxyData (id : Option Int) (costPerByte : Rat) : Router Unit :=
  .ask (.relay id costPerByte) fun result =>
    match result with
    | .error .panic => .fail .panic
    | .error (.error reason) => decrementActiveConnections.bind fun _ => .fail (.error reason)
    | .ok () => decrementActiveConnections

def relayed (id : Option Int) (costPerByte : Rat) : Router Unit := do
  recordConnectionResult true
  proxyData id costPerByte

def resolve (server : ProxyServer) (selection : Selection) : Router (List ProxyConfig) :=
  .ask .load fun (live, draws) => ofExcept (resolveProxyChain server live draws selection)

def firstCost (chain : List ProxyConfig) : Rat :=
  match chain with
  | first :: _ => first.costPerByte
  | [] => 1

def greetingMethods (request : Bytes) : Except Failure Bytes :=
  let nmethods := (byteAt request 1).toNat
  if request.length < 3 then .error (protocolError "Invalid SOCKS5 greeting length")
  else if byteAt request 0 ≠ 0x05 then .error (protocolError "Invalid SOCKS5 version")
  else if request.length < 2 + nmethods then .error (protocolError "Invalid SOCKS5 greeting: insufficient methods")
  else .ok (slice request 2 (2 + nmethods))

def refuseMethods {A : Type} (reason : Failure) : Router A := do
  clientWrite [0x05, 0xFF]
  .fail reason

def socks5Authenticate (config : RouterConfig) (methods : Bytes) : Router (Selection × Option Int) :=
  if config.auth = some true then
    if 0x02 ∈ methods then do
      clientWrite [0x05, 0x02]
      let request ← clientRead 513
      let (selection, id) ← socks5Login request
      clientWrite [0x01, 0x00]
      pure (selection, some id)
    else refuseMethods authFailed
  else if 0x00 ∈ methods then do
    clientWrite [0x05, 0x00]
    pure (emptySelection, none)
  else refuseMethods (protocolError "Client does not support no authentication")

def hexGroups (address : Bytes) : Str :=
  join ':' ((List.range 8).map fun i => toHex (fromBeBytes (byteAt address (2 * i)) (byteAt address (2 * i + 1))).toNat)

def socks5Address (atyp : UInt8) : Router (Str × UInt16) :=
  if atyp = 0x01 then do
    let address ← clientReadExact 6
    pure (dotted (byteAt address 0) (byteAt address 1) (byteAt address 2) (byteAt address 3),
      fromBeBytes (byteAt address 4) (byteAt address 5))
  else if atyp = 0x03 then do
    let length ← clientReadExact 1
    let n := (byteAt length 0).toNat
    let domain ← clientReadExact (n + 2)
    pure (fromUtf8Lossy (domain.take n), fromBeBytes (byteAt domain n) (byteAt domain (n + 1)))
  else if atyp = 0x04 then do
    let address ← clientReadExact 18
    pure (hexGroups address, fromBeBytes (byteAt address 16) (byteAt address 17))
  else throw "Unsupported address type"

def socks5Target : Router (Str × UInt16) := do
  let header ← clientReadExact 4
  if byteAt header 0 ≠ 0x05 then throw "Invalid SOCKS5 version in request" else socks5Address (byteAt header 3)

-- No token selection: fall back to the account's stored default, by IP.
def defaulted (peer : IpAddr) (chosen : Selection) : Router Selection :=
  if isEmpty chosen then storedSelection peer chosen else pure chosen

def handleSocks5 (server : ProxyServer) (request : Bytes) (peer : IpAddr) : Router Unit := do
  let methods ← ofExcept (greetingMethods request)
  let (chosen, id) ← socks5Authenticate server.config methods
  let (host, port) ← socks5Target
  let selection ← defaulted peer chosen
  let chain ← resolve server selection
  connectChain chain host port
  clientWrite socks5Granted
  relayed id (firstCost chain)

section Chains

variable (platform : Platform) (server : ProxyServer) (request : Bytes) (chain : List ProxyConfig) (peer : IpAddr)

def handleSocks4Chain : Router Unit := do
  let id ← authenticateUser platform server.config request peer
  let (host, port) ← ofExcept (parseSocks4Target request)
  connectChain chain host port
  clientWrite socks4Granted
  relayed id (firstCost chain)

def handleHttpsChain : Router Unit := do
  let id ← authenticateUser platform server.config request peer
  let (host, port) ← ofExcept (parseConnectTarget request)
  connectChain chain host port
  clientWrite tunnelGranted
  relayed id (firstCost chain)

def handleHttpChain : Router Unit := do
  let id ← authenticateUser platform server.config request peer
  let (host, port) ← ofExcept (parseHttpTarget request)
  connectChain chain host port
  send (.raw (toOriginForm request))
  relayed id (firstCost chain)

end Chains

-- The per-protocol handlers wait for the CONNECT reply without a deadline.
def handlerTexts : Socks5Texts where
  authFailed := "SOCKS5 authentication failed"
  authMissing := "Username/password required but not provided"
  handshakeFailed := "Upstream SOCKS5 handshake failed"
  expired := .io
  refused := fun _ => .protocol "Connection failed"

def socks4Request (request : Bytes) : Except Failure (Str × UInt16) := do
  let version ← index request 0
  if version ≠ 0x04 then .error (protocolError "Invalid SOCKS4 version")
  else
    let command ← index request 1
    if command ≠ 0x01 then .error (protocolError "Only CONNECT command is supported")
    else
      let high ← index request 2
      let low ← index request 3
      let a ← index request 4
      let b ← index request 5
      let c ← index request 6
      let d ← index request 7
      let userEnd := scanEnd request 8
      let domainEnd := scanEnd request (userEnd + 1)
      if dotted a b c d = "0.0.0.1" ∨ dotted a b c d = "0.0.0.0" then
        if domainEnd ≤ userEnd + 1 then .error (protocolError "Invalid SOCKS4a request: missing domain")
        else .ok (fromUtf8Lossy (slice request (userEnd + 1) domainEnd), fromBeBytes high low)
      else .ok (dotted a b c d, fromBeBytes high low)

def socks4Upstream (request : Bytes) (proxy : ProxyConfig) (host : Str) (port : UInt16) : Router Unit :=
  let http : Router Unit := do
    let _ ← httpHandshake "HTTP tunnel failed" (.connectHttp host port (credentials proxy))
    clientWrite socks4Granted
  match proxy.proxyType with
  | .http => http
  | .https => http
  | .socks4 => do
      send (.raw request)
      let response ← receiveExact 8
      clientWrite response
      if byteAt response 1 = 0x5A then pure () else throw "SOCKS4 connection failed"
  | .socks5 => do
      socks5Handshake handlerTexts proxy host port
      clientWrite socks4Granted

def socks4Handle (upstreamAddr : Str) (request : Bytes) (proxy : ProxyConfig) (proxyData : Router Unit) : Router Unit := do
  let (host, port) ← ofExcept (socks4Request request)
  connect upstreamAddr
  socks4Upstream request proxy host port
  proxyData

-- `split(':')`, of which the first two parts count.
def hostAndPort (text : Str) (defaultPort : UInt16) : Str × UInt16 :=
  match text.splitOn ':' with
  | host :: digits :: _ => (host, (parseU16 digits).getD defaultPort)
  | [host] => (host, defaultPort)
  | [] => ([], defaultPort)

def hostHeader (platform : Platform) (request : Bytes) : Except Failure (Str × UInt16) :=
  match (lines (fromUtf8Lossy request)).find? fun line => startsWith (toLowercase platform line) "host: " with
  | none => .error (protocolError "No Host header found")
  | some line =>
      match sliceFrom 6 line with
      | none => .error .panic
      | some value => .ok (hostAndPort (trim value) 80)

def forwardHttp (firstLine : Str) (request : Bytes) : Router Unit :=
  if contains firstLine "CONNECT" then clientWrite tunnelGranted else send (.raw request)

def httpUpstream (platform : Platform) (firstLine : Str) (request : Bytes) (proxy : ProxyConfig) : Router Unit :=
  match proxy.proxyType with
  | .http => send (.rebuilt firstLine (credentials proxy) ((lines (fromUtf8Lossy request)).drop 1))
  | .https => send (.rebuilt firstLine (credentials proxy) ((lines (fromUtf8Lossy request)).drop 1))
  | .socks4 => do
      let (host, port) ← ofExcept (hostHeader platform request)
      socks4Handshake "SOCKS4 connection failed" host port
      forwardHttp firstLine request
  | .socks5 => do
      let (host, port) ← ofExcept (hostHeader platform request)
      socks5Handshake handlerTexts proxy host port
      forwardHttp firstLine request

def httpHandle (platform : Platform) (upstreamAddr : Str) (request : Bytes) (proxy : ProxyConfig) (proxyData : Router Unit) :
    Router Unit :=
  match (lines (fromUtf8Lossy request)).head? with
  | none => throw "Invalid HTTP request"
  | some firstLine => do
      connect upstreamAddr
      httpUpstream platform firstLine request proxy
      proxyData

def httpsUpstream (target : Str) (proxy : ProxyConfig) : Router Unit :=
  let (host, port) := hostAndPort target 443
  let http : Router Unit := do
    let response ← httpHandshake "HTTPS tunnel failed" (.connectTarget target (credentials proxy))
    clientWrite response
  match proxy.proxyType with
  | .http => http
  | .https => http
  | .socks4 => do
      socks4Handshake "SOCKS4 connection failed" host port
      clientWrite tunnelGranted
  | .socks5 => do
      socks5Handshake handlerTexts proxy host port
      clientWrite tunnelGranted

def httpsHandle (upstreamAddr : Str) (request : Bytes) (proxy : ProxyConfig) (proxyData : Router Unit) : Router Unit :=
  match (lines (fromUtf8Lossy request)).head? with
  | none => throw "Invalid HTTPS request"
  | some firstLine => do
      connect upstreamAddr
      match (splitWhitespace firstLine)[1]? with
      | none => throw "Invalid CONNECT request"
      | some target =>
          httpsUpstream target proxy
          proxyData

section Dispatch

variable (platform : Platform) (server : ProxyServer) (peer : IpAddr)

def handleSingle (protocol : Protocol) (request : Bytes) (proxy : ProxyConfig) : Router Unit := do
  let id ← authenticateUser platform server.config request peer
  match protocol with
  | .http => httpHandle platform (getUpstreamAddr proxy) request proxy (relayed id proxy.costPerByte)
  | .https => httpsHandle (getUpstreamAddr proxy) request proxy (relayed id proxy.costPerByte)
  | _ => socks4Handle (getUpstreamAddr proxy) request proxy (relayed id proxy.costPerByte)

def dispatch (protocol : Protocol) (request : Bytes) (chain : List ProxyConfig) : Router Unit :=
  match chain with
  | [] => .fail .panic
  | [proxy] =>
      if protocol = .socks5 then handleSocks5 server request peer else handleSingle platform server peer protocol request proxy
  | _ =>
      match protocol with
      | .socks5 => handleSocks5 server request peer
      | .socks4 => handleSocks4Chain platform server request chain peer
      | .https => handleHttpsChain platform server request chain peer
      | .http => handleHttpChain platform server request chain peer

def serve (request : Bytes) : Router Unit := do
  let protocol ← ofExcept (detectProtocol request)
  let selection ← selectionFor platform protocol request peer
  let chain ← resolve server selection
  dispatch platform server peer protocol request chain

def handleConnection : Router Unit :=
  .ask (.read 8192) fun reply => (ioWithin .timeout reply).bind fun bytes => serve platform server peer bytes.val

-- The task that `run` spawns for an accepted connection.
def connectionTask : Router Unit := do
  let outcome ← (handleConnection platform server peer).attempt
  match outcome with
  | .ok () => pure ()
  | .error _ => do
      recordConnectionResult false
      decrementActiveConnections

end Dispatch

end Purroute
