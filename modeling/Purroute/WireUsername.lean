import Purroute.Carriers
import Purroute.Handlers
import Purroute.ExitSelection

set_option autoImplicit false

namespace Purroute

open Interaction Interaction.Program

-- The chain connector for SOCKS5 clients, the per-protocol handlers for the others.
inductive Arm where
  | chain (host : Str) (port : UInt16)
  | socks4 (request : Bytes) (host : Str) (port : UInt16)
  | http (firstLine : Str) (request : Bytes)
  | https (target : Str)

def Arm.program (platform : Platform) (proxy : ProxyConfig) : Arm → Router Unit
  | .chain host port => connectThroughProxy proxy host port
  | .socks4 request host port => socks4Upstream request proxy host port
  | .http firstLine request => httpUpstream platform firstLine request proxy
  | .https target => httpsUpstream target proxy

def newline : Str := ['\r', '\n']

def connectHead (target : Str) : Str := "CONNECT " ++ target ++ " HTTP/1.1" ++ newline ++ "Host: " ++ target ++ newline

def Arm.head : Arm → Str
  | .chain host port => connectHead (authority host port)
  | .socks4 _ host port => connectHead (authority host port)
  | .http firstLine _ => firstLine ++ newline
  | .https target => connectHead target

def Arm.tail : Arm → Str
  | .http _ request => (((lines (fromUtf8Lossy request)).drop 1).flatMap fun header => header ++ newline) ++ newline
  | _ => newline

section Text

variable (platform : Platform)

def ownName : Str := "Proxy-Authorization: Basic "
def ownLine (username password : Str) : Str := ownName ++ encodeAuth platform username password

theorem own_name_folded : toLowercase platform ownName = basicScheme := by
  rw [lowercase_ascii platform ownName (ascii_all _ (by decide))]
  decide

theorem own_line_basic (username password : Str) : isBasic platform (ownLine platform username password) = true := by
  rw [isBasic, ownLine, lowercase_append, own_name_folded]
  exact starts_with_append basicScheme _

theorem own_line_solid (username password : Str) : '\n' ∉ ownLine platform username password := by
  rw [ownLine, List.mem_append, not_or]
  refine ⟨by decide, ?_⟩
  intro member
  have solid := alphabet_solid '\n' (platform.encodeAlphabet _ '\n' member)
  exact absurd solid (by decide)

def requestText (head tail : Str) : Credentials → Str
  | none => head ++ tail
  | some (username, password) => head ++ (ownLine platform username password ++ newline ++ tail)

theorem utf8_newline : utf8 newline = crlf := by decide

theorem connect_request_text (target : Str) (credentials : Credentials) :
    connectRequest platform target credentials = utf8 (requestText platform (connectHead target) newline credentials) := by
  unfold connectRequest connectHead
  generalize "CONNECT ".toList = verb, " HTTP/1.1".toList = version, "Host: ".toList = host
  cases credentials with
  | none => simp only [requestText, authorizationLine, utf8_append, utf8_newline, List.append_assoc,
      List.nil_append]
  | some pair =>
      unfold requestText ownLine ownName authorizationLine
      generalize "Proxy-Authorization: Basic ".toList = name
      simp only [utf8_append, utf8_newline, List.append_assoc]

end Text

section Runs

variable (platform : Platform) (proxy : ProxyConfig) (username : Str)

end Runs

section Examples

def accept (reply : Bytes) (size : reply.length = 2) : Event := receivedExact 2 ⟨reply, size⟩

end Examples

end Purroute
