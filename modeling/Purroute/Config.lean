import Purroute.Text
import Mathlib.Data.Rat.Defs

set_option autoImplicit false

namespace Purroute

inductive ProxyError where
  | io
  | authFailed
  | bandwidthExceeded
  | protocol (message : Str)
  | timeout
  | unsupportedProtocol
  | noMatchingUpstream
deriving DecidableEq, Repr

-- An `Err` on its way up, or an unwinding panic.
inductive Failure where
  | error (reason : ProxyError)
  | panic
deriving DecidableEq, Repr

def protocolError (message : String) : Failure := .error (.protocol message.toList)

inductive Protocol where
  | http
  | https
  | socks4
  | socks5
deriving DecidableEq, Repr

structure Tags where
  country : Option Str
  state : Option Str
  city : Option Str
  isp : Option Str
  kind : Option Str
deriving DecidableEq, Repr

-- `BTreeMap<String, String>`, of which only lookups are made.
abbrev Prefixes := List (Str × Str)

-- The metering rate is taken as the exact number it stands for.
structure ProxyConfig where
  label : Option Str
  proxyType : Protocol
  address : Str
  port : Option UInt16
  username : Option Str
  password : Option Str
  tags : Tags
  costPerByte : Rat
  usernamePrefixes : Option Prefixes
deriving DecidableEq, Repr

def getUpstreamAddr (proxy : ProxyConfig) : Str :=
  match proxy.port with
  | some port => proxy.address ++ ":" ++ toDecimal port.toNat
  | none => proxy.address

inductive ChainMode where
  | strict
  | random
deriving DecidableEq, Repr

structure ChainConfig where
  chainId : Str
  proxies : List Str
  mode : ChainMode
  count : Option Nat
deriving DecidableEq, Repr

structure RouterConfig where
  chain : Option Str
  auth : Option Bool
deriving DecidableEq, Repr

def encodeAuth (platform : Platform) (username password : Str) : Str :=
  platform.encode (utf8 (username ++ ":" ++ password))

end Purroute
