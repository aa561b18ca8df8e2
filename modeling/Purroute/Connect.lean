import Purroute.Router

set_option autoImplicit false

namespace Purroute

open Interaction Interaction.Program

-- Where the copies of the outbound SOCKS5 handshake differ.
structure Socks5Texts where
  authFailed : String
  authMissing : String
  handshakeFailed : String
  expired : ProxyError
  refused : UInt8 → ProxyError

def offeredMethods (proxy : ProxyConfig) : Bytes :=
  if proxy.username.isSome ∧ proxy.password.isSome then [0x00, 0x02] else [0x00]

def credentials (proxy : ProxyConfig) : Credentials :=
  match proxy.username, proxy.password with
  | some username, some password => some (username, password)
  | _, _ => none

def checkVerdict (texts : Socks5Texts) (verdict : Bytes) : Router Unit :=
  if byteAt verdict 1 = 0x00 then .done () else throw texts.authFailed

def socks5Auth (texts : Socks5Texts) (proxy : ProxyConfig) (choice : UInt8) : Router Unit :=
  if choice = 0x02 then
    match credentials proxy with
    | some (username, password) => do
        send (.userPass username password)
        let verdict ← receiveExact 2
        checkVerdict texts verdict
    | none => throw texts.authMissing
  else if choice = 0x00 then .done ()
  else throw texts.handshakeFailed

def skipAddress (atyp : UInt8) : Router Unit :=
  if atyp = 0x01 then (receiveExact 6).bind fun _ => .done ()
  else if atyp = 0x03 then do
    let length ← receiveExact 1
    let _ ← receiveExact ((byteAt length 0).toNat + 2)
    pure ()
  else if atyp = 0x04 then (receiveExact 18).bind fun _ => .done ()
  else throw "Invalid address type"

def socks5Reply (texts : Socks5Texts) (response : Bytes) : Router Unit :=
  if byteAt response 1 = 0x00 then skipAddress (byteAt response 3) else .fail (.error (texts.refused (byteAt response 1)))

def socks5Handshake (texts : Socks5Texts) (proxy : ProxyConfig) (host : Str) (port : UInt16) : Router Unit := do
  send (.methods (offeredMethods proxy))
  let choice ← receiveExact 2
  socks5Auth texts proxy (byteAt choice 1)
  send (.connect5 host port)
  let response ← receiveExactWithin 4 texts.expired
  socks5Reply texts response

def socks4Handshake (refused : String) (host : Str) (port : UInt16) : Router Unit := do
  send (.connect4 host port)
  let response ← receiveExact 8
  if byteAt response 1 = 0x5A then .done () else throw refused

def established : Str := "200 Connection Established"

-- One read of at most 1024 bytes; the answer is searched for the usual phrase.
def httpHandshake (refused : String) (request : Message) : Router Bytes := do
  send request
  let response ← receive 1024
  if contains (fromUtf8Lossy response) established then .done response else throw refused

def chainTexts : Socks5Texts where
  authFailed := "SOCKS5 auth failed"
  authMissing := "Auth required but not provided"
  handshakeFailed := "SOCKS5 handshake failed"
  expired := .protocol "Timeout waiting for CONNECT response"
  refused := fun code => .protocol ("SOCKS5 connect failed with code " ++ toDecimal code.toNat)

def socks5Connect (proxy : ProxyConfig) (host : Str) (port : UInt16) : Router Unit :=
  socks5Handshake chainTexts proxy host port

def socks4Connect (_proxy : ProxyConfig) (host : Str) (port : UInt16) : Router Unit :=
  socks4Handshake "SOCKS4 connect failed" host port

def httpConnect (proxy : ProxyConfig) (host : Str) (port : UInt16) : Router Unit :=
  (httpHandshake "HTTP tunnel failed" (.connectHttp host port (credentials proxy))).bind fun _ => .done ()

def connectThroughProxy (proxy : ProxyConfig) (host : Str) (port : UInt16) : Router Unit :=
  match proxy.proxyType with
  | .socks5 => socks5Connect proxy host port
  | .socks4 => socks4Connect proxy host port
  | .http => httpConnect proxy host port
  | .https => httpConnect proxy host port

def parseAddress (address : Str) : Except Failure (Str × UInt16) :=
  match rsplitOnce ':' address with
  | none => .error (protocolError "Invalid address format")
  | some (host, digits) =>
      match parseU16 digits with
      | none => .error (protocolError "Invalid port")
      | some port => .ok (host, port)

def connectHops : List ProxyConfig → Str → UInt16 → Router Unit
  | [], _, _ => .done ()
  | [proxy], host, port => connectThroughProxy proxy host port
  | proxy :: next :: rest, host, port => do
      let (nextHost, nextPort) ← ofExcept (parseAddress (getUpstreamAddr next))
      connectThroughProxy proxy nextHost nextPort
      connectHops (next :: rest) host port

def connectChain (chain : List ProxyConfig) (host : Str) (port : UInt16) : Router Unit :=
  match chain with
  | [] => throw "Empty proxy chain"
  | first :: _ => do
      connect (getUpstreamAddr first)
      connectHops chain host port

end Purroute
