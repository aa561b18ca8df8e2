import Purroute.Carriers
import Purroute.Handlers

set_option autoImplicit false

namespace Purroute

-- The parsers of client bytes once more, with every offset checked as Rust
-- checks it: `request[i]` and `&request[a..b]` panic out of bounds.
def sliceWithin (request : Bytes) (start stop : Nat) : Except Failure Bytes :=
  if start ≤ stop ∧ stop ≤ request.length then .ok (slice request start stop) else .error .panic

def detectProtocolWithin (request : Bytes) : Except Failure Protocol :=
  if request = [] then .error (protocolError "Request too short")
  else do
    let first ← index request 0
    if first = 0x05 then .ok .socks5
    else
      let first ← index request 0
      if first = 0x04 then .ok .socks4
      else
        let front ← sliceWithin request 0 (min request.length 20)
        match (lines (fromUtf8Lossy front)).head? with
        | none => .error (protocolError "Invalid HTTP request")
        | some firstLine =>
            if startsWith firstLine "CONNECT" then .ok .https
            else if methods.any (startsWith firstLine) then .ok .http
            else .error (.error .unsupportedProtocol)

def greetingMethodsWithin (request : Bytes) : Except Failure Bytes :=
  if request.length < 3 then .error (protocolError "Invalid SOCKS5 greeting length")
  else do
    let version ← index request 0
    let nmethods ← index request 1
    if version ≠ 0x05 then .error (protocolError "Invalid SOCKS5 version")
    else if request.length < 2 + nmethods.toNat then .error (protocolError "Invalid SOCKS5 greeting: insufficient methods")
    else sliceWithin request 2 (2 + nmethods.toNat)

-- The buffer of 513 bytes is longer than what has been read into it, so this
-- asks for more than Rust does.
def socks5CredentialsWithin (request : Bytes) : Except Failure (Str × Str) :=
  if request.length < 3 then .error (protocolError "Invalid SOCKS5 auth request")
  else do
    let version ← index request 0
    if version ≠ 0x01 then .error (protocolError "Invalid SOCKS5 auth request")
    else
      let ulen ← index request 1
      if request.length < 2 + ulen.toNat + 1 then .error (protocolError "Invalid SOCKS5 auth username length")
      else
        let username ← sliceWithin request 2 (2 + ulen.toNat)
        let plen ← index request (2 + ulen.toNat)
        if request.length < 2 + ulen.toNat + 1 + plen.toNat then .error (protocolError "Invalid SOCKS5 auth password length")
        else
          let password ← sliceWithin request (2 + ulen.toNat + 1) (2 + ulen.toNat + 1 + plen.toNat)
          .ok (fromUtf8Lossy username, fromUtf8Lossy password)

def socks4UseridWithin (request : Bytes) : Except Failure (Option Str) :=
  if request.length < 9 then .ok none
  else do
    let version ← index request 0
    if version ≠ 0x04 then .ok none
    else
      let _ ← sliceWithin request 8 request.length
      if 8 < scanEnd request 8 ∧ scanEnd request 8 < request.length then
        let userid ← sliceWithin request 8 (scanEnd request 8)
        .ok (some (fromUtf8Lossy userid))
      else .ok none

-- `while idx < request.len() && request[idx] != 0`, with a turn for each byte left.
def scanWithin (request : Bytes) : Nat → Nat → Except Failure Nat
  | 0, i => .ok i
  | turns + 1, i =>
      if i < request.length then do
        let byte ← index request i
        if byte ≠ 0 then scanWithin request turns (i + 1) else .ok i
      else .ok i

def parseSocks4TargetWithin (request : Bytes) : Except Failure (Str × UInt16) :=
  if request.length < 9 then .error (protocolError "invalid SOCKS4 request")
  else do
    let version ← index request 0
    if version ≠ 0x04 then .error (protocolError "invalid SOCKS4 request")
    else
      let high ← index request 2
      let low ← index request 3
      let a ← index request 4
      let b ← index request 5
      let c ← index request 6
      let d ← index request 7
      let userEnd ← scanWithin request request.length 8
      if request.length ≤ userEnd then .error (protocolError "unterminated SOCKS4 user id")
      else if a = 0 ∧ b = 0 ∧ c = 0 ∧ d ≠ 0 then
        let domainEnd ← scanWithin request request.length (userEnd + 1)
        let domain ← sliceWithin request (userEnd + 1) domainEnd
        .ok (fromUtf8Lossy domain, fromBeBytes high low)
      else .ok (dotted a b c d, fromBeBytes high low)

def userIdWithin (request : Bytes) (userEnd : Nat) : Except Failure Bytes :=
  if 8 < userEnd then sliceWithin request 8 userEnd else .ok []

def socks4RequestWithin (request : Bytes) : Except Failure (Str × UInt16) := do
  let version ← index request 0
  if version ≠ 0x04 then .error (protocolError "Invalid SOCKS4 version")
  else
    let command ← index request 1
    if command ≠ 0x01 then .error (protocolError "Only CONNECT command is supported")
    else
      let high ← index request 2
      let low ← index request 3
      let a ← index request 4
      let b ← index request 5
      let c ← index request 6
      let d ← index request 7
      let userEnd ← scanWithin request request.length 8
      let _ ← userIdWithin request userEnd
      if dotted a b c d = "0.0.0.1" ∨ dotted a b c d = "0.0.0.0" then
        let domainEnd ← scanWithin request request.length (userEnd + 1)
        if domainEnd ≤ userEnd + 1 then .error (protocolError "Invalid SOCKS4a request: missing domain")
        else
          let domain ← sliceWithin request (userEnd + 1) domainEnd
          .ok (fromUtf8Lossy domain, fromBeBytes high low)
      else .ok (dotted a b c d, fromBeBytes high low)

def ipv4Within (address : Bytes) : Except Failure (Str × UInt16) := do
  let a ← index address 0
  let b ← index address 1
  let c ← index address 2
  let d ← index address 3
  let high ← index address 4
  let low ← index address 5
  .ok (dotted a b c d, fromBeBytes high low)

def domainWithin (n : Nat) (domain : Bytes) : Except Failure (Str × UInt16) := do
  let host ← sliceWithin domain 0 n
  let high ← index domain n
  let low ← index domain (n + 1)
  .ok (fromUtf8Lossy host, fromBeBytes high low)

def groupWithin (address : Bytes) (i : Nat) : Except Failure Str := do
  let high ← index address (2 * i)
  let low ← index address (2 * i + 1)
  .ok (toHex (fromBeBytes high low).toNat)

def ipv6Within (address : Bytes) : Except Failure (Str × UInt16) := do
  let groups ← (List.range 8).mapM (groupWithin address)
  let high ← index address 16
  let low ← index address 17
  .ok (join ':' groups, fromBeBytes high low)

section Within

variable (request : Bytes)

theorem byte_at_within (i : Nat) (inside : i < request.length) : byteAt request i = request[i] := by
  rw [byteAt, List.getD_eq_getElem?_getD, List.getElem?_eq_getElem inside, Option.getD_some]

theorem index_within (i : Nat) (inside : i < request.length) : index request i = .ok (byteAt request i) := by
  rw [index, List.getElem?_eq_getElem inside, byte_at_within request i inside]

theorem index_outside (i : Nat) (outside : request.length ≤ i) : index request i = .error .panic := by
  rw [index, List.getElem?_eq_none outside]

theorem slice_within (start stop : Nat) (ordered : start ≤ stop) (inside : stop ≤ request.length) :
    sliceWithin request start stop = .ok (slice request start stop) := if_pos ⟨ordered, inside⟩

theorem slice_front (stop : Nat) : slice request 0 stop = request.take stop := rfl

theorem scan_end_le (start : Nat) (inside : start ≤ request.length) : scanEnd request start ≤ request.length := by
  have short : ((request.drop start).takeWhile (· ≠ 0)).length ≤ (request.drop start).length :=
    (List.takeWhile_sublist _).length_le
  rw [List.length_drop] at short
  rw [scanEnd]
  omega

theorem scan_end_ge (start : Nat) : start ≤ scanEnd request start := Nat.le_add_right _ _

theorem scan_end_outside (start : Nat) (outside : request.length ≤ start) : scanEnd request start = start := by
  rw [scanEnd, List.drop_eq_nil_of_le outside]
  rfl

theorem scan_end_step (start : Nat) (inside : start < request.length) :
    scanEnd request start = if byteAt request start ≠ 0 then scanEnd request (start + 1) else start := by
  rw [scanEnd, List.drop_eq_getElem_cons inside, List.takeWhile_cons, byte_at_within request start inside]
  by_cases zero : request[start] = 0
  · simp [zero]
  · simp only [zero, ne_eq, not_false_eq_true, decide_true, if_true, List.length_cons, scanEnd]
    omega

theorem scan_within (turns start : Nat) (enough : request.length ≤ start + turns) :
    scanWithin request turns start = .ok (scanEnd request start) := by
  induction turns generalizing start with
  | zero => rw [scanWithin, scan_end_outside request start (by omega)]
  | succ turns ih =>
      rw [scanWithin]
      by_cases inside : start < request.length
      · rw [if_pos inside, index_within request start inside, scan_end_step request start inside, ih (start + 1) (by omega)]
        change (if byteAt request start ≠ 0 then Except.ok (scanEnd request (start + 1)) else Except.ok start) = _
        split <;> rfl
      · rw [if_neg inside, scan_end_outside request start (by omega)]

theorem filled_length (filled : request ≠ []) : 0 < request.length := List.length_pos_iff.mpr filled

theorem detect_protocol_within : detectProtocolWithin request = detectProtocol request := by
  rw [detectProtocolWithin, detectProtocol]
  by_cases empty : request = []
  · rw [if_pos empty, if_pos empty]
  · have first := index_within request 0 (filled_length request empty)
    have front : sliceWithin request 0 (min request.length 20) = .ok (request.take 20) := by
      rw [slice_within request 0 _ (Nat.zero_le _) (Nat.min_le_left _ _), slice_front, Nat.min_comm,
        ← List.take_take, List.take_length]
    rw [if_neg empty, if_neg empty, first, front]
    rfl

theorem greeting_methods_within : greetingMethodsWithin request = greetingMethods request := by
  rw [greetingMethodsWithin, greetingMethods]
  by_cases short : request.length < 3
  · rw [if_pos short, if_pos short]
  · have version := index_within request 0 (by omega)
    have count := index_within request 1 (by omega)
    rw [if_neg short, if_neg short]
    simp only [version, count, bind, Except.bind]
    split
    · rfl
    · split
      · rfl
      · exact slice_within request 2 _ (by omega) (by omega)

theorem socks5_credentials_within : socks5CredentialsWithin request = socks5Credentials request := by
  rw [socks5CredentialsWithin, socks5Credentials]
  by_cases short : request.length < 3
  · rw [if_pos short, if_pos (Or.inl short)]
  · have version := index_within request 0 (by omega)
    have length := index_within request 1 (by omega)
    rw [if_neg short]
    simp only [version, length, bind, Except.bind]
    by_cases other : byteAt request 0 ≠ 0x01
    · rw [if_pos other, if_pos (Or.inr other)]
    · have guard : ¬ (request.length < 3 ∨ byteAt request 0 ≠ 0x01) := by
        rw [not_or]
        exact ⟨short, other⟩
      rw [if_neg other, if_neg guard]
      split
      · rfl
      · have username := slice_within request 2 (2 + (byteAt request 1).toNat) (by omega) (by omega)
        have plen := index_within request (2 + (byteAt request 1).toNat) (by omega)
        simp only [username, plen]
        split
        · rfl
        · rw [slice_within request _ _ (by omega) (by omega)]

theorem socks4_userid_within : socks4UseridWithin request = .ok (socks4Userid request) := by
  rw [socks4UseridWithin, socks4Userid]
  by_cases short : request.length < 9
  · rw [if_pos short, if_pos (Or.inl short)]
  · have version := index_within request 0 (by omega)
    have tail := slice_within request 8 request.length (by omega) (Nat.le_refl _)
    rw [if_neg short]
    simp only [version, tail, bind, Except.bind]
    by_cases other : byteAt request 0 ≠ 0x04
    · rw [if_pos other, if_pos (Or.inr other)]
    · have guard : ¬ (request.length < 9 ∨ byteAt request 0 ≠ 0x04) := by
        rw [not_or]
        exact ⟨short, other⟩
      rw [if_neg other, if_neg guard]
      split
      · rw [slice_within request 8 _ (by omega) (by omega)]
      · rfl

theorem parse_socks4_target_within : parseSocks4TargetWithin request = parseSocks4Target request := by
  rw [parseSocks4TargetWithin, parseSocks4Target]
  by_cases short : request.length < 9
  · rw [if_pos short, if_pos (Or.inl short)]
  · have userEnd := scan_within request request.length 8 (by omega)
    rw [if_neg short]
    simp (disch := omega) only [index_within, userEnd, bind, Except.bind]
    by_cases other : byteAt request 0 ≠ 0x04
    · rw [if_pos other, if_pos (Or.inr other)]
    · have guard : ¬ (request.length < 9 ∨ byteAt request 0 ≠ 0x04) := by
        rw [not_or]
        exact ⟨short, other⟩
      rw [if_neg other, if_neg guard]
      split
      · rfl
      · rename_i terminated
        have stop := scan_end_le request (scanEnd request 8 + 1) (by omega)
        have domain := slice_within request (scanEnd request 8 + 1) (scanEnd request (scanEnd request 8 + 1))
          (scan_end_ge _ _) stop
        simp only [scan_within request request.length (scanEnd request 8 + 1) (by omega), domain]

theorem user_id_within (full : 8 ≤ request.length) : userIdWithin request (scanEnd request 8) =
    .ok (if 8 < scanEnd request 8 then slice request 8 (scanEnd request 8) else []) := by
  rw [userIdWithin]
  split
  · exact slice_within request 8 _ (by omega) (scan_end_le request 8 full)
  · rfl

theorem socks4_request_within : socks4RequestWithin request = socks4Request request := by
  rw [socks4RequestWithin, socks4Request]
  by_cases full : 8 ≤ request.length
  · have userEnd := scan_within request request.length 8 (by omega)
    have userid := user_id_within request full
    simp (disch := omega) only [index_within, userEnd, userid, bind, Except.bind]
    split
    · rfl
    split
    · rfl
    split
    · rw [scan_within request request.length (scanEnd request 8 + 1) (by omega)]
      dsimp only
      split
      · rfl
      · rename_i longer
        have inText : scanEnd request 8 + 1 ≤ request.length := by
          by_contra outside
          rw [scan_end_outside request _ (by omega)] at longer
          exact longer (Nat.le_refl _)
        rw [slice_within request _ _ (scan_end_ge _ _) (scan_end_le request _ inText)]
    · rfl
  · have missing : index request 7 = .error .panic := index_outside request 7 (by omega)
    simp only [missing, bind, Except.bind]

theorem ipv4_within (address : Bytes) (size : address.length = 6) : ipv4Within address =
    .ok (dotted (byteAt address 0) (byteAt address 1) (byteAt address 2) (byteAt address 3),
      fromBeBytes (byteAt address 4) (byteAt address 5)) := by
  simp (disch := omega) only [ipv4Within, index_within, bind, Except.bind]

theorem domain_within (n : Nat) (domain : Bytes) (size : domain.length = n + 2) : domainWithin n domain =
    .ok (fromUtf8Lossy (domain.take n), fromBeBytes (byteAt domain n) (byteAt domain (n + 1))) := by
  simp only [domainWithin, slice_within domain 0 n (Nat.zero_le _) (by omega), slice_front, index_within domain n (by omega),
    index_within domain (n + 1) (by omega), bind, Except.bind]

theorem map_m_ok {A B : Type} (read : A → Except Failure B) (value : A → B) (items : List A)
    (reads : ∀ i ∈ items, read i = .ok (value i)) :
    items.mapM read = .ok (items.map value) := by
  induction items with
  | nil => rfl
  | cons i items ih =>
      rw [List.forall_mem_cons] at reads
      rw [List.mapM_cons, reads.1, ih reads.2]
      rfl

theorem ipv6_within (address : Bytes) (size : address.length = 18) : ipv6Within address =
    .ok (hexGroups address, fromBeBytes (byteAt address 16) (byteAt address 17)) := by
  have groups := map_m_ok (groupWithin address)
    (fun i => toHex (fromBeBytes (byteAt address (2 * i)) (byteAt address (2 * i + 1))).toNat) (List.range 8) fun i member => by
      rw [List.mem_range] at member
      rw [groupWithin, index_within address (2 * i) (by omega), index_within address (2 * i + 1) (by omega)]
      rfl
  rw [ipv6Within, groups, index_within address 16 (by omega), index_within address 17 (by omega)]
  rfl

end Within

-- What is known of the exception, and that nothing else lower-cases to a space.
structure CaseFolding (platform : Platform) : Prop where
  kelvin : platform.lower (Char.ofNat 0x212A) = ['k']
  space : ∀ c, ' ' ∈ platform.lower c → c = ' '

section Folding

variable (platform : Platform) (folding : CaseFolding platform)

include folding

theorem folded_first (body text : Str) (c : Char) (ascii : ∀ d ∈ body, d.toNat < 0x80) (noKelvin : 'k' ∉ body)
    (starts : body ++ [' '] <+: platform.lower c ++ text) : c.toNat < 0x80 := by
  by_contra high
  have low : ∀ d ∈ body ++ [' '], d.toNat < 0x80 ∧ d ≠ 'k' := by
    intro d member
    rcases List.mem_append.mp member with inside | last
    · exact ⟨ascii d inside, fun same => noKelvin (same ▸ inside)⟩
    · rw [List.mem_singleton] at last
      rw [last]
      decide
  by_cases kelvin : c.toNat = 0x212A
  · have same : c = Char.ofNat 0x212A := by rw [← kelvin, Char.ofNat_toNat]
    rw [same, folding.kelvin] at starts
    obtain ⟨d, rest, spelled⟩ := List.exists_cons_of_ne_nil (List.append_ne_nil_of_right_ne_nil body (List.cons_ne_nil ' ' []))
    rw [spelled] at starts low
    have first := (List.cons_prefix_cons.mp starts).1
    exact (low d List.mem_cons_self).2 first
  · obtain ⟨d, member, outside⟩ := platform.lowerOther c (by omega) kelvin
    rcases List.prefix_or_prefix_of_prefix starts (List.prefix_append (platform.lower c) text) with within | within
    · have space := folding.space c (within.subset (List.mem_append_right body List.mem_cons_self))
      rw [space] at high
      exact high (by decide)
    · have small := (low d (within.subset member)).1
      omega

theorem folded_front (body line : Str) (ascii : ∀ c ∈ body, c.toNat < 0x80) (noKelvin : 'k' ∉ body)
    (starts : body ++ [' '] <+: toLowercase platform line) :
    ∃ front rest, line = front ++ rest ∧ front.length = body.length + 1 ∧ ∀ c ∈ front, c.toNat < 0x80 := by
  induction body generalizing line with
  | nil =>
      cases line with
      | nil => exact absurd starts (by simp [toLowercase])
      | cons c line =>
          have low := folded_first platform folding [] _ c ascii noKelvin starts
          exact ⟨[c], line, rfl, rfl, by simpa using low⟩
  | cons p body ih =>
      cases line with
      | nil => exact absurd starts (by simp [toLowercase])
      | cons c line =>
          have low := folded_first platform folding (p :: body) _ c ascii noKelvin starts
          rw [List.forall_mem_cons] at ascii
          rw [List.mem_cons, not_or] at noKelvin
          have folded : toLowercase platform (c :: line) = c.toLower :: toLowercase platform line := by
            change platform.lower c ++ toLowercase platform line = _
            rw [platform.lowerAscii c low]
            rfl
          rw [folded] at starts
          obtain ⟨front, rest, rfl, length, solid⟩ := ih line ascii.2 noKelvin.2 (List.cons_prefix_cons.mp starts).2
          refine ⟨c :: front, rest, rfl, by rw [List.length_cons, length, List.length_cons], ?_⟩
          rw [List.forall_mem_cons]
          exact ⟨low, solid⟩

theorem slice_behind (body line : Str) (ascii : ∀ c ∈ body, c.toNat < 0x80) (noKelvin : 'k' ∉ body)
    (starts : startsWith (toLowercase platform line) (body ++ [' ']) = true) :
    ∃ rest, sliceFrom (body.length + 1) line = some rest := by
  obtain ⟨front, rest, rfl, length, solid⟩ :=
    folded_front platform folding body line ascii noKelvin (List.isPrefixOf_iff_prefix.mp starts)
  rw [← length]
  exact ⟨rest, slice_from_ascii front rest fun c member => ascii_size c (solid c member)⟩

theorem basic_slice (line : Str) (basic : isBasic platform line = true) : ∃ rest, sliceFrom 27 line = some rest := by
  have spelled : basicScheme = "proxy-authorization: basic".toList ++ [' '] := by decide
  rw [isBasic, spelled] at basic
  exact slice_behind platform folding _ line (ascii_all _ (by decide)) (by decide) basic

theorem host_slice (line : Str) (host : startsWith (toLowercase platform line) "host: " = true) :
    ∃ rest, sliceFrom 6 line = some rest := by
  have spelled : "host: ".toList = "host:".toList ++ [' '] := by decide
  rw [spelled] at host
  exact slice_behind platform folding _ line (ascii_all _ (by decide)) (by decide) host

theorem decode_header_safe (request : Bytes) (line : Str) (header : authHeader platform request = some line) :
    ∃ credentials, decodeHeader platform line = .ok credentials := by
  obtain ⟨rest, cut⟩ := basic_slice platform folding line (List.find?_some header)
  exact ⟨_, by rw [decodeHeader, cut]⟩

theorem username_safe (request : Bytes) : ∃ username, httpProxyUsername platform request = .ok username := by
  rw [httpProxyUsername]
  cases header : authHeader platform request with
  | none => exact ⟨none, rfl⟩
  | some line =>
      obtain ⟨credentials, decoded⟩ := decode_header_safe platform folding request line header
      dsimp only
      rw [decoded]
      exact ⟨_, rfl⟩

theorem host_header_safe (request : Bytes) : hostHeader platform request ≠ .error .panic := by
  rw [hostHeader]
  cases found : (lines (fromUtf8Lossy request)).find? fun line => startsWith (toLowercase platform line) "host: " with
  | none => exact fun same => by cases same
  | some line =>
      have starts : startsWith (toLowercase platform line) "host: " = true :=
        @List.find?_some _ (fun line => startsWith (toLowercase platform line) "host: ") line _ found
      obtain ⟨rest, cut⟩ := host_slice platform folding line starts
      dsimp only
      rw [cut]
      exact fun same => by cases same

end Folding

end Purroute
