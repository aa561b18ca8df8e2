import Purroute.Request

set_option autoImplicit false

namespace Purroute

open Interaction Interaction.Program

def authFailed : Failure := .error .authFailed

def checkBandwidth (limit : Option Int) : Except Failure Unit :=
  match limit with
  | none => .ok ()
  | some left => if left ≤ 0 then .error (.error .bandwidthExceeded) else .ok ()

def HasAllowance (account : Account) : Prop := ∀ left, account.bandwidthLimit = some left → 0 < left

def authenticate (rawUsername password : Str) : Router (Selection × Int) :=
  match parseUsername rawUsername with
  | .error _ => .fail authFailed
  | .ok (username, selection) =>
      .ask (.authenticate username password) fun reply => do
        let account ← admitted reply
        ofExcept (checkBandwidth account.bandwidthLimit)
        pure (selection, account.id)

def authenticateByIp (peer : IpAddr) : Router Int :=
  .ask (.authenticateByIp peer) fun reply => do
    let account ← admitted reply
    ofExcept (checkBandwidth account.bandwidthLimit)
    pure account.id

def splitCredentials (credentials : Str) : Option (Str × Str) :=
  match credentials.splitOn ':' with
  | rawUsername :: password :: _ => some (rawUsername, password)
  | _ => none

def authenticateUser (platform : Platform) (config : RouterConfig) (request : Bytes) (peer : IpAddr) : Router (Option Int) :=
  if config.auth = some true then
    match authHeader platform request with
    | none => do
        let id ← authenticateByIp peer
        pure (some id)
    | some line => do
        let credentials ← ofExcept (decodeHeader platform line)
        match credentials.bind splitCredentials with
        | none => .fail authFailed
        | some (rawUsername, password) => do
            let (_, id) ← authenticate rawUsername password
            pure (some id)
  else pure none

def tokens (username : Option Str) : Selection :=
  match username.map parseUsername with
  | some (.ok (_, selection)) => selection
  | _ => emptySelection

-- Without a stored default that parses the selection stays as it was.
def storedSelection (peer : IpAddr) (otherwise : Selection) : Router Selection :=
  .ask (.authenticateByIp peer) fun reply =>
    match reply with
    | .error .panicked => .fail .panic
    | .ok (some account) =>
        match account.defaultSelection.map parseUsername with
        | some (.ok (_, selection)) => .done selection
        | _ => .done otherwise
    | _ => .done otherwise

def requestUsername (platform : Platform) (protocol : Protocol) (request : Bytes) : Except Failure (Option Str) :=
  match protocol with
  | .http => httpProxyUsername platform request
  | .https => httpProxyUsername platform request
  | .socks4 => .ok (socks4Userid request)
  | .socks5 => .ok none

def selectionFor (platform : Platform) (protocol : Protocol) (request : Bytes) (peer : IpAddr) : Router Selection := do
  let username ← ofExcept (requestUsername platform protocol request)
  if isEmpty (tokens username) = false then pure (tokens username) else storedSelection peer (tokens username)

-- The user/pass sub-negotiation, taken from one read of the client.
def socks5Credentials (request : Bytes) : Except Failure (Str × Str) :=
  let ulen := (byteAt request 1).toNat
  let plen := (byteAt request (2 + ulen)).toNat
  if request.length < 3 ∨ byteAt request 0 ≠ 0x01 then .error (protocolError "Invalid SOCKS5 auth request")
  else if request.length < 2 + ulen + 1 then .error (protocolError "Invalid SOCKS5 auth username length")
  else if request.length < 2 + ulen + 1 + plen then .error (protocolError "Invalid SOCKS5 auth password length")
  else .ok (fromUtf8Lossy (slice request 2 (2 + ulen)), fromUtf8Lossy (slice request (2 + ulen + 1) (2 + ulen + 1 + plen)))

def socks5Login (request : Bytes) : Router (Selection × Int) := do
  let (username, password) ← ofExcept (socks5Credentials request)
  authenticate username password

theorem check_bandwidth_cases (limit : Option Int) :
    (checkBandwidth limit = .ok () ∧ ∀ left, limit = some left → 0 < left) ∨
      ((∃ failure, checkBandwidth limit = .error failure) ∧ ∃ left, limit = some left ∧ left ≤ 0) := by
  cases limit with
  | none => exact .inl ⟨rfl, nofun⟩
  | some left =>
      by_cases spent : left ≤ 0
      · exact .inr ⟨⟨_, if_pos spent⟩, left, rfl, spent⟩
      · exact .inl ⟨if_neg spent, fun other same => Option.some.inj same ▸ Int.lt_of_not_ge spent⟩

theorem admitted_cases (reply : Except Fault (Option Account)) :
    (∃ account, reply = .ok (some account) ∧ admitted reply = .done account) ∨
      ((∀ account, reply ≠ .ok (some account)) ∧ ∃ failure, admitted reply = .fail failure) := by
  rcases reply with ⟨_ | _ | _⟩ | ⟨_ | account⟩
  · exact .inr ⟨fun _ => nofun, _, rfl⟩
  · exact .inr ⟨fun _ => nofun, _, rfl⟩
  · exact .inr ⟨fun _ => nofun, _, rfl⟩
  · exact .inr ⟨fun _ => nofun, _, rfl⟩
  · exact .inl ⟨account, rfl, rfl⟩

theorem lookup_cases {A : Type} (reply : Except Fault (Option Account)) (result : Account → A) :
    (∃ account, reply = .ok (some account) ∧ HasAllowance account ∧
      ((admitted reply).bind fun account => (ofExcept (checkBandwidth account.bandwidthLimit)).bind fun _ =>
        .done (result account)) =
        .done (result account)) ∨
    ((∀ account, reply = .ok (some account) → ¬ HasAllowance account) ∧ ∃ failure,
      ((admitted reply).bind fun account => (ofExcept (checkBandwidth account.bandwidthLimit)).bind fun _ =>
        .done (result account)) =
        .fail failure) := by
  rcases admitted_cases reply with ⟨account, rfl, known⟩ | ⟨unknown, failure, refused⟩
  · rw [known, done_bind]
    rcases check_bandwidth_cases account.bandwidthLimit with ⟨checked, allowance⟩ | ⟨⟨failure, checked⟩, left, limit, spent⟩
    · rw [checked]
      exact .inl ⟨account, rfl, allowance, rfl⟩
    · rw [checked]
      refine .inr ⟨fun other same allowance => ?_, failure, rfl⟩
      cases same
      exact absurd (allowance left limit) (Int.not_lt.mpr spent)
  · rw [refused]
    exact .inr ⟨fun account same => absurd same (unknown account), failure, rfl⟩

def storedDefault (otherwise : Selection) : Except Fault (Option Account) → Except Failure Selection
  | .error .panicked => .error .panic
  | .ok (some account) =>
      match account.defaultSelection.map parseUsername with
      | some (.ok (_, selection)) => .ok selection
      | _ => .ok otherwise
  | _ => .ok otherwise

theorem stored_selection_eq (peer : IpAddr) (otherwise : Selection) :
    storedSelection peer otherwise = .ask (.authenticateByIp peer) fun reply => ofExcept (storedDefault otherwise reply) := by
  rw [storedSelection]
  congr 1
  funext reply
  rcases reply with ⟨_ | _ | _⟩ | ⟨_ | account⟩
  · rfl
  · rfl
  · rfl
  · rfl
  · dsimp only [storedDefault]
    split <;> rfl

section Frames

variable (allowed : Op → Prop)

theorem admitted_uses (reply : Except Fault (Option Account)) : Uses allowed (admitted reply) := by
  rcases reply with ⟨_ | _ | _⟩ | ⟨_ | _⟩ <;> trivial

theorem authenticate_uses (rawUsername password : Str)
    (asks : ∀ username selection, parseUsername rawUsername = .ok (username, selection) →
      allowed (.authenticate username password)) :
    Uses allowed (authenticate rawUsername password) := by
  rw [authenticate]
  split
  · trivial
  · rename_i username selection parsed
    refine ⟨asks username selection parsed, fun reply => ?_⟩
    refine uses_bind _ _ (admitted_uses allowed reply) fun account => ?_
    exact uses_bind _ _ (uses_ofExcept _) fun _ => trivial

theorem stored_selection_uses (peer : IpAddr) (otherwise : Selection) (asks : allowed (.authenticateByIp peer)) :
    Uses allowed (storedSelection peer otherwise) := by
  refine ⟨asks, fun reply => ?_⟩
  rcases reply with ⟨_ | _ | _⟩ | ⟨_ | account⟩
  · trivial
  · trivial
  · trivial
  · trivial
  · dsimp only
    split <;> trivial

theorem selection_for_uses (platform : Platform) (protocol : Protocol) (request : Bytes) (peer : IpAddr)
    (asks : allowed (.authenticateByIp peer)) : Uses allowed (selectionFor platform protocol request peer) := by
  refine uses_bind _ _ (uses_ofExcept _) fun username => ?_
  split
  · trivial
  · exact stored_selection_uses allowed peer _ asks

end Frames

end Purroute
