import Purroute.Router

set_option autoImplicit false

namespace Purroute

def methods : List Str :=
  ["GET".toList, "POST".toList, "HEAD".toList, "PUT".toList, "DELETE".toList, "OPTIONS".toList, "TRACE".toList, "PATCH".toList]

-- Only the first twenty bytes decide between the HTTP forms.
def detectProtocol (request : Bytes) : Except Failure Protocol :=
  if request = [] then .error (protocolError "Request too short")
  else if byteAt request 0 = 0x05 then .ok .socks5
  else if byteAt request 0 = 0x04 then .ok .socks4
  else
    match (lines (fromUtf8Lossy (request.take 20))).head? with
    | none => .error (protocolError "Invalid HTTP request")
    | some firstLine =>
        if startsWith firstLine "CONNECT" then .ok .https
        else if methods.any (startsWith firstLine) then .ok .http
        else .error (.error .unsupportedProtocol)

theorem detect_socks5 (request : Bytes) (protocol : Protocol) (detected : detectProtocol request = .ok protocol) :
    protocol = .socks5 ↔ byteAt request 0 = 0x05 := by
  rw [detectProtocol] at detected
  split at detected
  · cases detected
  split at detected
  · rename_i first
    cases detected
    exact ⟨fun _ => first, fun _ => rfl⟩
  · rename_i first
    have other : protocol ≠ .socks5 := by
      rintro rfl
      split at detected
      · cases detected
      split at detected
      · cases detected
      split at detected
      · cases detected
      split at detected <;> cases detected
    exact ⟨fun same => absurd same other, fun same => absurd same first⟩

theorem detect_one_byte (byte : UInt8) (protocol : Protocol) (detected : detectProtocol [byte] = .ok protocol) :
    byte = 0x05 ∨ byte = 0x04 := by
  by_cases five : byte = 0x05
  · exact Or.inl five
  by_cases four : byte = 0x04
  · exact Or.inr four
  have short : ∀ line, (lines (fromUtf8Lossy ([byte].take 20))).head? = some line → line.length ≤ 1 := by
    intro line first
    have single : fromUtf8Lossy ([byte].take 20) = [(decodeFirst byte []).1] := by
      change fromUtf8Lossy [byte] = _
      rw [lossy_cons, List.drop_nil, lossy_nil]
    rw [single] at first
    exact lines_single _ line first
  have longer : ∀ word ∈ "CONNECT".toList :: methods, 2 ≤ word.length := by decide
  have never : ∀ line, (lines (fromUtf8Lossy ([byte].take 20))).head? = some line → ∀ word ∈ "CONNECT".toList :: methods,
      startsWith line word = false := by
    intro line first word member
    cases starts : startsWith line word with
    | false => rfl
    | true =>
        have bound := starts_with_length line word starts
        have two := longer word member
        have one := short line first
        omega
  rw [detectProtocol] at detected
  have start : byteAt [byte] 0 = byte := rfl
  rw [if_neg (List.cons_ne_nil _ _), start, if_neg five, if_neg four] at detected
  split at detected
  · cases detected
  · rename_i line first
    rw [if_neg] at detected
    · rw [if_neg] at detected
      · cases detected
      · intro starts
        obtain ⟨word, member, found⟩ := List.any_eq_true.mp starts
        rw [never line first word (List.mem_cons_of_mem _ member)] at found
        cases found
    · intro starts
      have other := never line first _ List.mem_cons_self
      exact absurd (starts.symm.trans other) (by decide)

def index (request : Bytes) (i : Nat) : Except Failure UInt8 :=
  match request[i]? with
  | some byte => .ok byte
  | none => .error .panic

def slice (request : Bytes) (start stop : Nat) : Bytes := (request.take stop).drop start

-- Where the scan for a null byte stops, at the latest behind the last byte.
def scanEnd (request : Bytes) (start : Nat) : Nat := start + ((request.drop start).takeWhile (· ≠ 0)).length

def dotted (a b c d : UInt8) : Str :=
  toDecimal a.toNat ++ "." ++ toDecimal b.toNat ++ "." ++ toDecimal c.toNat ++ "." ++ toDecimal d.toNat

def splitHostPort (authority : Str) (defaultPort : UInt16) : Except Failure (Str × UInt16) :=
  match rsplitOnce ':' authority with
  | none => .ok (authority, defaultPort)
  | some (host, digits) =>
      match parseU16 digits with
      | none => .error (protocolError "invalid port")
      | some port => .ok (host, port)

def basicScheme : Str := "proxy-authorization: basic "

def isBasic (platform : Platform) (line : Str) : Bool := startsWith (toLowercase platform line) basicScheme

def authHeader (platform : Platform) (request : Bytes) : Option Str := (lines (fromUtf8Lossy request)).find? (isBasic platform)

-- `line[27..].trim()`, decoded. The slice may panic.
def decodeHeader (platform : Platform) (line : Str) : Except Failure (Option Str) :=
  match sliceFrom 27 line with
  | none => .error .panic
  | some encoded => .ok ((platform.decode (trim encoded)).bind fromUtf8)

def httpProxyUsername (platform : Platform) (request : Bytes) : Except Failure (Option Str) :=
  match authHeader platform request with
  | none => .ok none
  | some line => (decodeHeader platform line).map fun credentials => credentials.bind fun text => (text.splitOn ':').head?

def socks4Userid (request : Bytes) : Option Str :=
  if request.length < 9 ∨ byteAt request 0 ≠ 0x04 then none
  else if 8 < scanEnd request 8 ∧ scanEnd request 8 < request.length then
    some (fromUtf8Lossy (slice request 8 (scanEnd request 8)))
  else none

def parseConnectTarget (request : Bytes) : Except Failure (Str × UInt16) :=
  match (lines (fromUtf8Lossy request)).head? with
  | none => .error (protocolError "empty CONNECT request")
  | some firstLine =>
      match (splitWhitespace firstLine)[1]? with
      | none => .error (protocolError "malformed CONNECT line")
      | some target => splitHostPort target 443

def stripScheme (uri : Str) : Option Str :=
  match stripPrefix uri "http://" with
  | some rest => some rest
  | none => stripPrefix uri "https://"

def uriAuthority (firstLine : Str) : Option Str :=
  match (splitWhitespace firstLine)[1]? with
  | none => none
  | some uri => (stripScheme uri).bind fun rest => nonEmpty (rest.takeWhile (· ≠ '/'))

def hostValue (line : Str) : Option Str :=
  match stripPrefix line "Host:" with
  | some value => some value
  | none => stripPrefix line "host:"

def parseHttpTarget (request : Bytes) : Except Failure (Str × UInt16) :=
  let all := lines (fromUtf8Lossy request)
  match all.head? with
  | none => .error (protocolError "empty HTTP request")
  | some firstLine =>
      match uriAuthority firstLine with
      | some authority => splitHostPort authority 80
      | none =>
          match all.findSome? hostValue with
          | some value => splitHostPort (trim value) 80
          | none => .error (protocolError "no target host in HTTP request")

def parseSocks4Target (request : Bytes) : Except Failure (Str × UInt16) :=
  if request.length < 9 ∨ byteAt request 0 ≠ 0x04 then .error (protocolError "invalid SOCKS4 request")
  else
    let port := fromBeBytes (byteAt request 2) (byteAt request 3)
    let is4a := byteAt request 4 = 0 ∧ byteAt request 5 = 0 ∧ byteAt request 6 = 0 ∧ byteAt request 7 ≠ 0
    let userEnd := scanEnd request 8
    if request.length ≤ userEnd then .error (protocolError "unterminated SOCKS4 user id")
    else if is4a then .ok (fromUtf8Lossy (slice request (userEnd + 1) (scanEnd request (userEnd + 1))), port)
    else .ok (dotted (byteAt request 4) (byteAt request 5) (byteAt request 6) (byteAt request 7), port)

def lineEnd : Bytes → Option Nat
  | [] => none
  | 13 :: 10 :: _ => some 0
  | _ :: rest => (lineEnd rest).map (· + 1)

def splitOnce (separator : Char) (text : Str) : Option (Str × Str) :=
  if separator ∈ text then some (text.takeWhile (· ≠ separator), (text.dropWhile (· ≠ separator)).drop 1) else none

def originLine (firstLine : Str) : Option Str := do
  let (method, tail) ← splitOnce ' ' firstLine
  let (uri, version) ← splitOnce ' ' tail
  let rest ← stripScheme uri
  let path := if '/' ∈ rest then rest.dropWhile (· ≠ '/') else ['/']
  some (method ++ " " ++ path ++ " " ++ version)

def toOriginForm (request : Bytes) : Bytes :=
  match lineEnd request with
  | none => request
  | some stop =>
      match (fromUtf8 (request.take stop)).bind originLine with
      | none => request
      | some line => utf8 line ++ request.drop stop

example : parseHttpTarget (utf8 "GET http://a.example:81/x HTTP/1.1\r\n\r\n") = .ok ("a.example".toList, 81) := by decide
example : toOriginForm (utf8 "GET http://a.example:81/x HTTP/1.1\r\n\r\n") = utf8 "GET /x HTTP/1.1\r\n\r\n" := by decide

end Purroute
