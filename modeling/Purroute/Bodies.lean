import Purroute.Admission
import Purroute.WireUsername

set_option autoImplicit false

namespace Purroute

open Interaction Interaction.Program

def outcome {A : Type} (surroundings : History → (op : Op) → op.Reply) (past : History) (program : Router A) : Except Failure A :=
  (drive (answered surroundings) () past program).outcome

def Fits (head body : Bytes) : Prop := (head ++ body).length ≤ 8192

structure BodyIgnored (platform : Platform) (config : RouterConfig) (protocol : Protocol)
    (peer : IpAddr) (head : Bytes) : Prop where
  charged : ∀ first second, Fits head first → Fits head second → ∀ surroundings past,
    outcome surroundings past (authenticateUser platform config (head ++ first) peer) =
      outcome surroundings past (authenticateUser platform config (head ++ second) peer)
  routed : ∀ first second, Fits head first → Fits head second → ∀ surroundings past,
    outcome surroundings past (selectionFor platform protocol (head ++ first) peer) =
      outcome surroundings past (selectionFor platform protocol (head ++ second) peer)
  chained : ∀ first second, Fits head first → Fits head second → parseHttpTarget (head ++ first) =
    parseHttpTarget (head ++ second)
  forwarded : ∀ first second, Fits head first → Fits head second →
    hostHeader platform (head ++ first) = hostHeader platform (head ++ second)

def isHost (platform : Platform) (line : Str) : Bool := startsWith (toLowercase platform line) "host: "

-- Each scan finds what it looks for before it comes to the body.
structure HeadSettles (platform : Platform) (head : Bytes) : Prop where
  credentials : (lines (fromUtf8Lossy head)).find? (isBasic platform) ≠ none
  authority : (lines (fromUtf8Lossy head)).head?.bind uriAuthority ≠ none ∨
    (lines (fromUtf8Lossy head)).findSome? hostValue ≠ none
  host : (lines (fromUtf8Lossy head)).find? (isHost platform) ≠ none

section Head

variable (platform : Platform) (start body : Bytes)

def headOf (start : Bytes) : Bytes := start ++ [13, 10, 13, 10]

theorem head_text (rest : Bytes) :
    fromUtf8Lossy (headOf start ++ rest) = fromUtf8Lossy (start ++ [13, 10, 13]) ++ '\n' :: fromUtf8Lossy rest := by
  have cut : headOf start ++ rest = (start ++ [13, 10, 13]) ++ 10 :: rest := by simp [headOf]
  rw [cut, lossy_append_stop _ rest 10 (by decide)]
  exact congrArg _ (lossy_encoded_append ['\n'] rest)

theorem head_lines : lines (fromUtf8Lossy (headOf start ++ body)) =
    lines (fromUtf8Lossy (headOf start)) ++ lines (fromUtf8Lossy body) := by
  have bare := head_text start []
  rw [List.append_nil, lossy_nil] at bare
  rw [head_text, bare, lines_append]

theorem head_lines_some : ∃ firstLine more, lines (fromUtf8Lossy (headOf start)) = firstLine :: more := by
  have bare := head_text start []
  rw [List.append_nil, lossy_nil] at bare
  rw [bare]
  exact List.exists_cons_of_ne_nil (lines_from_stop [] _)

theorem auth_header_head (settled : (lines (fromUtf8Lossy (headOf start))).find? (isBasic platform) ≠ none) :
    authHeader platform (headOf start ++ body) = authHeader platform (headOf start) := by
  rw [authHeader, head_lines, List.find?_append, Option.or_of_isSome (Option.isSome_iff_ne_none.mpr settled), authHeader]

theorem authenticate_user_header (config : RouterConfig) (peer : IpAddr) (first second : Bytes)
    (same : authHeader platform first = authHeader platform second) :
    authenticateUser platform config first peer = authenticateUser platform config second peer := by
  rw [authenticateUser, authenticateUser, same]

theorem selection_for_header (protocol : Protocol) (peer : IpAddr) (first second : Bytes)
    (web : protocol = .http ∨ protocol = .https) (same : authHeader platform first = authHeader platform second) :
    selectionFor platform protocol first peer = selectionFor platform protocol second peer := by
  have username : requestUsername platform protocol first = requestUsername platform protocol second := by
    rcases web with rfl | rfl
    · rw [requestUsername, requestUsername, httpProxyUsername, httpProxyUsername, same]
    · rw [requestUsername, requestUsername, httpProxyUsername, httpProxyUsername, same]
  rw [selectionFor, selectionFor, username]

theorem http_target_head : parseHttpTarget (headOf start ++ body) =
    match (lines (fromUtf8Lossy (headOf start))).head?.bind uriAuthority with
    | some authority => splitHostPort authority 80
    | none =>
        match ((lines (fromUtf8Lossy (headOf start))).findSome? hostValue).or
          ((lines (fromUtf8Lossy body)).findSome? hostValue) with
        | some value => splitHostPort (trim value) 80
        | none => .error (protocolError "no target host in HTTP request") := by
  obtain ⟨firstLine, more, known⟩ := head_lines_some start
  have first : (lines (fromUtf8Lossy (headOf start ++ body))).head? = some firstLine := by
    rw [head_lines, known, List.cons_append, List.head?_cons]
  rw [parseHttpTarget, first, head_lines, List.findSome?_append, known]
  rfl

def namedHost : Option Str → Except Failure (Str × UInt16)
  | none => .error (protocolError "No Host header found")
  | some line =>
      match sliceFrom 6 line with
      | none => .error .panic
      | some value => .ok (hostAndPort (trim value) 80)

theorem host_header_named (request : Bytes) :
    hostHeader platform request = namedHost ((lines (fromUtf8Lossy request)).find? (isHost platform)) := rfl

theorem host_header_head : hostHeader platform (headOf start ++ body) =
    namedHost (((lines (fromUtf8Lossy (headOf start))).find? (isHost platform)).or
      ((lines (fromUtf8Lossy body)).find? (isHost platform))) := by
  rw [host_header_named, head_lines, List.find?_append]

theorem settled_ignores_body (config : RouterConfig) (protocol : Protocol) (peer : IpAddr)
    (web : protocol = .http ∨ protocol = .https)
    (settles : HeadSettles platform (headOf start)) : BodyIgnored platform config protocol peer (headOf start) where
  charged := by
    intro first second _ _ surroundings past
    have same := (auth_header_head platform start first settles.credentials).trans
      (auth_header_head platform start second settles.credentials).symm
    rw [authenticate_user_header platform config peer _ _ same]
  routed := by
    intro first second _ _ surroundings past
    have same := (auth_header_head platform start first settles.credentials).trans
      (auth_header_head platform start second settles.credentials).symm
    rw [selection_for_header platform protocol peer _ _ web same]
  chained := by
    intro first second _ _
    rw [http_target_head, http_target_head]
    cases authority : (lines (fromUtf8Lossy (headOf start))).head?.bind uriAuthority with
    | some text => rfl
    | none =>
        have host := Option.isSome_iff_ne_none.mpr (settles.authority.resolve_left (not_not.mpr authority))
        rw [Option.or_of_isSome host, Option.or_of_isSome host]
  forwarded := by
    intro first second _ _
    have host := Option.isSome_iff_ne_none.mpr settles.host
    rw [host_header_head, host_header_head, Option.or_of_isSome host, Option.or_of_isSome host]

theorem body_lines (line : Str) (solid : '\n' ∉ line) : lines (fromUtf8Lossy (utf8 (line ++ newline))) = [line] := by
  rw [lossy_encoded, newline]
  exact lines_cons line [] solid

def strayLine : Str := ownLine platform "a-country-b" []
def strayBody : Bytes := utf8 (strayLine platform ++ newline)

def strangers : History → (op : Op) → op.Reply
  | _, .authenticateByIp _ => .ok none
  | past, op => trusting past op

theorem bare_routed (protocol : Protocol) (peer : IpAddr) (request : Bytes) (web : protocol = .http ∨ protocol = .https)
    (bare : authHeader platform request = none) :
    outcome strangers [] (selectionFor platform protocol request peer) = .ok emptySelection := by
  have unnamed : requestUsername platform protocol request = .ok none := by
    rcases web with rfl | rfl
    · rw [requestUsername, httpProxyUsername, bare]
    · rw [requestUsername, httpProxyUsername, bare]
  rw [selectionFor, unnamed]
  rfl

theorem stray_routed (protocol : Protocol) (peer : IpAddr) (request : Bytes) (web : protocol = .http ∨ protocol = .https)
    (stray : authHeader platform request = some (strayLine platform)) :
    outcome strangers [] (selectionFor platform protocol request peer) = .ok { emptySelection with country := ["b".toList] } := by
  have decoded : decodeHeader platform (strayLine platform) = .ok (some ("a-country-b" ++ ':' :: [])) :=
    decode_header_carried platform "a-country-b" [] ownName (by decide)
  have username : httpProxyUsername platform request = .ok (some "a-country-b".toList) := by
    rw [httpProxyUsername, stray]
    dsimp only
    rw [decoded]
    rfl
  have named : requestUsername platform protocol request = .ok (some "a-country-b".toList) := by
    rcases web with rfl | rfl
    · exact username
    · exact username
  rw [selectionFor, named]
  rfl

theorem shorter_fits (head first second : Bytes) (short : first.length ≤ second.length)
    (room : Fits head second) : Fits head first := by
  rw [Fits, List.length_append] at room ⊢
  omega

theorem stray_body_length : 27 ≤ (strayBody platform).length := by
  have name : (utf8 ownName).length = 27 := by decide
  rw [strayBody, strayLine, ownLine, List.append_assoc, utf8_append, List.length_append, name]
  exact Nat.le_add_right 27 _

def hostLine : Str := "host: a"

theorem host_line_host : isHost platform hostLine = true := by
  rw [isHost, lowercase_ascii platform hostLine (ascii_all _ (by decide))]
  decide

section Necessary

variable (config : RouterConfig) (protocol : Protocol) (peer : IpAddr) (room : Fits (headOf start) (strayBody platform))
  (ignored : BodyIgnored platform config protocol peer (headOf start))

include room ignored

theorem ignored_credentials (web : protocol = .http ∨ protocol = .https) :
    (lines (fromUtf8Lossy (headOf start))).find? (isBasic platform) ≠ none := by
  intro bare
  have alone : authHeader platform (headOf start ++ []) = none := by rwa [List.append_nil]
  have single := body_lines (strayLine platform) (own_line_solid platform _ _)
  have basic : isBasic platform (strayLine platform) = true := own_line_basic platform _ _
  have stray : authHeader platform (headOf start ++ strayBody platform) = some (strayLine platform) := by
    rw [authHeader, head_lines, List.find?_append, bare, strayBody, single, List.find?_cons, basic]
    rfl
  have same := ignored.routed [] (strayBody platform) (shorter_fits _ _ _ (Nat.zero_le _) room) room strangers []
  rw [bare_routed platform protocol peer _ web alone, stray_routed platform protocol peer _ web stray] at same
  exact absurd same (by decide)

theorem ignored_authority : (lines (fromUtf8Lossy (headOf start))).head?.bind uriAuthority ≠ none ∨
    (lines (fromUtf8Lossy (headOf start))).findSome? hostValue ≠ none := by
  by_contra neither
  rw [not_or, not_not, not_not] at neither
  obtain ⟨relative, hostless⟩ := neither
  have long := stray_body_length platform
  have short : (utf8 ("Host:a" ++ newline)).length ≤ (strayBody platform).length := Nat.le_trans (by decide) long
  have same := ignored.chained [] (utf8 ("Host:a" ++ newline)) (shorter_fits _ _ _ (Nat.zero_le _) room)
    (shorter_fits _ _ _ short room)
  rw [http_target_head, http_target_head, relative, hostless, body_lines _ (by decide)] at same
  exact absurd same (by decide)

theorem ignored_host : (lines (fromUtf8Lossy (headOf start))).find? (isHost platform) ≠ none := by
  intro hostless
  have long := stray_body_length platform
  have short : (utf8 (hostLine ++ newline)).length ≤ (strayBody platform).length := Nat.le_trans (by decide) long
  have same := ignored.forwarded [] (utf8 (hostLine ++ newline)) (shorter_fits _ _ _ (Nat.zero_le _) room)
    (shorter_fits _ _ _ short room)
  rw [host_header_head, host_header_head, hostless, body_lines _ (by decide), List.find?_cons, host_line_host] at same
  cases same

end Necessary

end Head

theorem body_ignored_iff (platform : Platform) (config : RouterConfig) (protocol : Protocol) (peer : IpAddr) (start : Bytes)
    (web : protocol = .http ∨ protocol = .https) :
    (HeadSettles platform (headOf start) → BodyIgnored platform config protocol peer (headOf start)) ∧
      (Fits (headOf start) (strayBody platform) → BodyIgnored platform config protocol peer (headOf start) →
        HeadSettles platform (headOf start)) := by
  constructor
  · intro settles
    exact settled_ignores_body platform start config protocol peer web settles
  · intro room ignored
    exact ⟨ignored_credentials platform start config protocol peer room ignored web,
      ignored_authority platform start config protocol peer room ignored,
      ignored_host platform start config protocol peer room ignored⟩

section Examples

def completeHead : Bytes := utf8 "GET http://a.example/ HTTP/1.1\r\nhost: a.example\r\nProxy-Authorization: Basic bWU6cHc="
def bareHead : Bytes := utf8 "POST http://a.example/ HTTP/1.1\r\nhost: a.example"

theorem complete_head_ignores_body : BodyIgnored standard ⟨none, some true⟩ .http (.v4 0) (headOf completeHead) :=
  (body_ignored_iff standard ⟨none, some true⟩ .http (.v4 0) completeHead (.inl rfl)).1 ⟨by decide, .inl (by decide), by decide⟩

theorem bare_head_reads_body : ¬ ∀ (config : RouterConfig) (protocol : Protocol) (peer : IpAddr) (start : Bytes),
    protocol = .http ∨ protocol = .https → BodyIgnored standard config protocol peer (headOf start) := by
  intro ignored
  have room : Fits (headOf bareHead) (strayBody standard) := by
    rw [Fits]
    decide
  have settles := ignored_credentials standard bareHead ⟨none, some true⟩ .http (.v4 0) room
    (ignored ⟨none, some true⟩ .http (.v4 0) bareHead (.inl rfl)) (.inl rfl)
  exact absurd settles (by decide)

end Examples

end Purroute
