import Purroute.Outward

set_option autoImplicit false

namespace Purroute

theorem dotted_injective (a b c d a' b' c' d' : UInt8) (same : dotted a b c d = dotted a' b' c' d') :
    a = a' ∧ b = b' ∧ c = c' ∧ d = d' := by
  have spelled : ∀ a b c d : UInt8, dotted a b c d = toDecimal a.toNat ++ '.' :: (toDecimal b.toNat ++ '.' ::
      (toDecimal c.toNat ++ '.' :: toDecimal d.toNat)) := by
    intro a b c d
    have dot : (".".toList : Str) = ['.'] := by decide
    simp only [dotted, dot, List.append_assoc, List.cons_append, List.nil_append]
  have solid : ∀ byte : UInt8, '.' ∉ toDecimal byte.toNat := fun byte => decimal_absent '.' byte.toNat (by decide)
  rw [spelled, spelled] at same
  obtain ⟨first, same⟩ := cut_unique '.' _ _ _ _ (solid a) (solid a') same
  obtain ⟨second, same⟩ := cut_unique '.' _ _ _ _ (solid b) (solid b') same
  obtain ⟨third, fourth⟩ := cut_unique '.' _ _ _ _ (solid c) (solid c') same
  exact ⟨UInt8.toNat_inj.mp (decimal_injective _ _ first), UInt8.toNat_inj.mp (decimal_injective _ _ second),
    UInt8.toNat_inj.mp (decimal_injective _ _ third), UInt8.toNat_inj.mp (decimal_injective _ _ fourth)⟩

theorem dotted_ascii (a b c d : UInt8) : ∀ x ∈ dotted a b c d, x.toNat < 0x80 := by
  intro x member
  have digit : ∀ n : Nat, x ∈ toDecimal n → x.toNat < 0x80 := by
    intro n inside
    have range := List.all_eq_true.mp (decimal_digits n) x inside
    change (decide (x.val ≥ '0'.val) && decide (x.val ≤ '9'.val)) = true at range
    simp only [Bool.and_eq_true, decide_eq_true_eq] at range
    have bound : x.val.toNat ≤ 57 := UInt32.le_iff_toNat_le.mp range.2
    exact Nat.lt_of_le_of_lt bound (by decide)
  have dot : ∀ y ∈ (".".toList : Str), y.toNat < 0x80 := by
    intro y inside
    rw [List.mem_singleton.mp inside]
    decide
  simp only [dotted, List.mem_append] at member
  rcases member with (((((member | member) | member) | member) | member) | member) | member
  · exact digit _ member
  · exact dot x member
  · exact digit _ member
  · exact dot x member
  · exact digit _ member
  · exact dot x member
  · exact digit _ member

theorem dotted_eq_iff (a b c d a' b' c' d' : UInt8) :
    dotted a b c d = dotted a' b' c' d' ↔ a = a' ∧ b = b' ∧ c = c' ∧ d = d' := by
  refine ⟨dotted_injective a b c d a' b' c' d', ?_⟩
  rintro ⟨rfl, rfl, rfl, rfl⟩
  rfl

theorem except_bind_ok {E A B : Type} (first : Except E A) (next : A → Except E B) (value : B)
    (run : first.bind next = .ok value) :
    ∃ middle, first = .ok middle ∧ next middle = .ok value := by
  cases first with
  | error failure => cases run
  | ok middle => exact ⟨middle, rfl, run⟩

section Socks4

variable (request : Bytes)

def addressBytes : Bytes := [byteAt request 4, byteAt request 5, byteAt request 6, byteAt request 7]

def domainBytes : Bytes := slice request (scanEnd request 8 + 1) (scanEnd request (scanEnd request 8 + 1))

def ReadAlike : Prop :=
  if request.length ≤ scanEnd request 8 then
    request.length < 8 ∨ byteAt request 1 ≠ 0x01 ∨ addressBytes request = [0, 0, 0, 0] ∨ addressBytes request = [0, 0, 0, 1]
  else
    byteAt request 1 = 0x01 ∧
      if (addressBytes request).take 3 ≠ [0, 0, 0] then True
      else if byteAt request 7 = 0x01 then domainBytes request ≠ []
      else domainBytes request = utf8 (dotted 0 0 0 (byteAt request 7))

def marker : Prop := addressBytes request = [0, 0, 0, 0] ∨ addressBytes request = [0, 0, 0, 1]

theorem domain_bytes_eq : domainBytes request = (request.drop (scanEnd request 8 + 1)).takeWhile (· ≠ 0) := by
  have whole := List.prefix_iff_eq_take.mp
    (List.takeWhile_prefix (l := request.drop (scanEnd request 8 + 1)) fun byte => decide (byte ≠ 0))
  rw [domainBytes, slice, List.drop_take, whole, scanEnd, Nat.add_sub_cancel_left]

theorem index_inside (i : Nat) (inside : i < request.length) : index request i = .ok (byteAt request i) := by
  simp [index, byteAt, inside]

theorem parse_socks4_target_eq (version : byteAt request 0 = 0x04) :
    (parseSocks4Target request).toOption =
      if request.length ≤ scanEnd request 8 then none
      else if (addressBytes request).take 3 = [0, 0, 0] ∧ byteAt request 7 ≠ 0 then
        some (fromUtf8Lossy (domainBytes request), fromBeBytes (byteAt request 2) (byteAt request 3))
      else some (dotted (byteAt request 4) (byteAt request 5) (byteAt request 6) (byteAt request 7),
        fromBeBytes (byteAt request 2) (byteAt request 3)) := by
  have start : 8 ≤ scanEnd request 8 := Nat.le_add_right _ _
  by_cases ended : request.length ≤ scanEnd request 8
  · rw [if_pos ended, parseSocks4Target]
    split
    · rfl
    · simp only [if_pos ended]
      rfl
  · rw [if_neg ended, parseSocks4Target, if_neg (by rw [not_or, not_not]; exact ⟨by omega, version⟩)]
    simp only [if_neg ended, addressBytes, List.take_succ_cons, List.take_zero, List.cons.injEq, and_true, and_assoc]
    split <;> rfl

theorem socks4_request_eq (version : byteAt request 0 = 0x04) :
    (socks4Request request).toOption =
      if request.length < 8 ∨ byteAt request 1 ≠ 0x01 then none
      else if addressBytes request = [0, 0, 0, 0] ∨ addressBytes request = [0, 0, 0, 1] then
        if domainBytes request = [] then none
        else some (fromUtf8Lossy (domainBytes request), fromBeBytes (byteAt request 2) (byteAt request 3))
      else some (dotted (byteAt request 4) (byteAt request 5) (byteAt request 6) (byteAt request 7),
        fromBeBytes (byteAt request 2) (byteAt request 3)) := by
  by_cases short : request.length < 8
  · rw [if_pos (Or.inl short)]
    cases accepted : socks4Request request with
    | error failure => rfl
    | ok target =>
        have missing : index request 7 = .error .panic := by simp [index, show request.length ≤ 7 by omega]
        rw [socks4Request] at accepted
        obtain ⟨first, _, accepted⟩ := except_bind_ok _ _ _ accepted
        split at accepted
        · cases accepted
        obtain ⟨command, _, accepted⟩ := except_bind_ok _ _ _ accepted
        split at accepted
        · cases accepted
        obtain ⟨high, _, accepted⟩ := except_bind_ok _ _ _ accepted
        obtain ⟨low, _, accepted⟩ := except_bind_ok _ _ _ accepted
        obtain ⟨a, _, accepted⟩ := except_bind_ok _ _ _ accepted
        obtain ⟨b, _, accepted⟩ := except_bind_ok _ _ _ accepted
        obtain ⟨c, _, accepted⟩ := except_bind_ok _ _ _ accepted
        obtain ⟨d, last, _⟩ := except_bind_ok _ _ _ accepted
        rw [missing] at last
        cases last
  · have inside : ∀ i, i < 8 → index request i = .ok (byteAt request i) := fun i small => index_inside request i (by omega)
    have ends : scanEnd request (scanEnd request 8 + 1) ≤ scanEnd request 8 + 1 ↔ domainBytes request = [] := by
      rw [domain_bytes_eq, scanEnd, ← List.length_eq_zero_iff]
      omega
    have marks : (dotted (byteAt request 4) (byteAt request 5) (byteAt request 6) (byteAt request 7) = "0.0.0.1".toList ∨
        dotted (byteAt request 4) (byteAt request 5) (byteAt request 6) (byteAt request 7) = "0.0.0.0".toList) ↔
        addressBytes request = [0, 0, 0, 0] ∨ addressBytes request = [0, 0, 0, 1] := by
      have one : "0.0.0.1".toList = dotted 0 0 0 1 := by decide
      have zero : "0.0.0.0".toList = dotted 0 0 0 0 := by decide
      rw [one, zero, dotted_eq_iff, dotted_eq_iff, or_comm, addressBytes]
      simp only [List.cons.injEq, and_true]
    rw [socks4Request]
    simp only [inside, Nat.reduceLT, bind, Except.bind, version, ne_eq, not_true_eq_false, if_false, short, false_or]
    split
    · rfl
    · rw [if_congr marks rfl rfl]
      split
      · rw [if_congr ends rfl rfl]
        split <;> rfl
      · rfl

omit request in
theorem reserved_agree (last : UInt8) (domain : Bytes) (port : UInt16) :
    (if last ≠ 0 then some (fromUtf8Lossy domain, port) else some (dotted 0 0 0 last, port)) =
        (if last = 0 ∨ last = 1 then if domain = [] then none else some (fromUtf8Lossy domain, port)
          else some (dotted 0 0 0 last, port)) ↔
      if last = 1 then domain ≠ [] else domain = utf8 (dotted 0 0 0 last) := by
  have spelled := lossy_ascii_iff domain _ (dotted_ascii 0 0 0 last)
  have named : utf8 (dotted 0 0 0 last) ≠ [] := fun nothing => by
    have empty := utf8_injective _ [] nothing
    simp [dotted] at empty
  by_cases one : last = 1
  · subst one
    rw [if_pos (by decide), if_pos (Or.inr rfl), if_pos rfl]
    by_cases empty : domain = []
    · simp [empty]
    · simp [empty]
  · rw [if_neg one]
    by_cases zero : last = 0
    · subst zero
      rw [if_neg (not_not.mpr rfl), if_pos (Or.inl rfl), ← spelled]
      by_cases empty : domain = []
      · rw [if_pos empty, spelled, empty]
        exact iff_of_false (Option.some_ne_none _) fun same => named same.symm
      · rw [if_neg empty]
        simp [eq_comm]
    · rw [if_pos zero, if_neg (by simp [zero, one]), ← spelled]
      simp

theorem socks4_parsers_agree_iff (version : byteAt request 0 = 0x04) :
    (parseSocks4Target request).toOption = (socks4Request request).toOption ↔ ReadAlike request := by
  have address : addressBytes request = [byteAt request 4, byteAt request 5, byteAt request 6, byteAt request 7] := rfl
  rw [parse_socks4_target_eq request version, socks4_request_eq request version, ReadAlike]
  by_cases ended : request.length ≤ scanEnd request 8
  · have none : domainBytes request = [] := by
      rw [domain_bytes_eq, List.drop_eq_nil_of_le (by omega)]
      rfl
    rw [if_pos ended, if_pos ended, none, if_pos rfl, ← or_assoc]
    by_cases refused : request.length < 8 ∨ byteAt request 1 ≠ 0x01
    · rw [if_pos refused]
      exact iff_of_true rfl (Or.inl refused)
    · rw [if_neg refused]
      split
      · rename_i marked
        exact iff_of_true rfl (Or.inr marked)
      · rename_i unmarked
        refine iff_of_false (by simp) ?_
        rintro (left | right)
        · exact refused left
        · exact unmarked right
  · have long : ¬ request.length < 8 := by
      have start : 8 ≤ scanEnd request 8 := Nat.le_add_right _ _
      omega
    rw [if_neg ended, if_neg ended]
    simp only [long, false_or]
    by_cases command : byteAt request 1 = 0x01
    · rw [if_neg (not_not.mpr command), and_iff_right command, address, List.take_succ_cons,
        List.take_succ_cons, List.take_succ_cons,
        List.take_zero]
      by_cases zeros : [byteAt request 4, byteAt request 5, byteAt request 6] = [0, 0, 0]
      · obtain ⟨four, five, six⟩ : byteAt request 4 = 0 ∧ byteAt request 5 = 0 ∧ byteAt request 6 = 0 := by simpa using zeros
        rw [if_neg (not_not.mpr zeros)]
        simp only [four, five, six, true_and, List.cons.injEq, and_true]
        exact reserved_agree (byteAt request 7) (domainBytes request) _
      · rw [if_pos zeros, if_neg fun both => zeros both.1, if_neg]
        · exact iff_of_true rfl trivial
        · rintro (marked | marked) <;> exact zeros (congrArg (List.take 3) marked)
    · rw [if_pos command]
      refine iff_of_false ?_ fun both => command both.1
      split <;> exact Option.some_ne_none _

end Socks4

section Authorities

def Unambiguous (target : Str) : Prop :=
  match target.splitOn ':' with
  | [_] => True
  | [_, digits] => (parseU16 digits).isSome
  | _ => False

def hostField (text : Str) : Str := text.takeWhile (· ≠ ':')
def portField (text : Str) (defaultPort : UInt16) : UInt16 := ((text.splitOn ':')[1]?.bind parseU16).getD defaultPort

theorem split_on_colon (text : Str) :
    (':' ∉ text ∧ text.splitOn ':' = [text]) ∨
      ∃ before after, text = before ++ ':' :: after ∧ ':' ∉ before ∧ text.splitOn ':' = before :: after.splitOn ':' := by
  by_cases present : ':' ∈ text
  · obtain ⟨before, after, rfl, absent⟩ := List.eq_append_cons_of_mem present
    exact .inr ⟨before, after, rfl, absent, List.splitOn_append_cons_self_of_not_mem absent after⟩
  · exact .inl ⟨present, List.splitOn_eq_singleton present⟩

theorem host_and_port_eq (text : Str) (defaultPort : UInt16) :
    hostAndPort text defaultPort = (hostField text, portField text defaultPort) := by
  obtain ⟨rest, fields⟩ := split_on_head ':' text
  rw [hostAndPort, hostField, portField, fields]
  cases rest with
  | nil => rfl
  | cons digits rest => rfl

theorem host_field_solid (text : Str) : ':' ∉ hostField text := by
  intro member
  have other := List.mem_takeWhile_imp member
  simp at other

theorem split_host_port_iff (target other : Str) (defaultPort : UInt16) :
    (splitHostPort target defaultPort).toOption = some (hostAndPort other defaultPort) ↔
      Unambiguous target ∧ hostField target = hostField other ∧ portField target defaultPort = portField other defaultPort := by
  rw [host_and_port_eq]
  rcases split_on_colon target with ⟨absent, fields⟩ | ⟨before, after, rfl, absent, fields⟩
  · have host : hostField target = target := (take_while_free ':' target).mpr absent
    have port : portField target defaultPort = defaultPort := by
      rw [portField, fields]
      rfl
    simp only [splitHostPort, (rsplit_once_none ':' target).mpr absent, Except.toOption, Unambiguous,
      fields, host, port, true_and,
      Option.some.injEq, Prod.mk.injEq]
  · have host : hostField (before ++ ':' :: after) = before := by
      rw [hostField, take_while_append_cut]
      exact (take_while_free ':' before).mpr absent
    by_cases later : ':' ∈ after
    · obtain ⟨middle, last, rfl, between⟩ := List.eq_append_cons_of_mem later
      obtain ⟨rest, more⟩ := split_on_head ':' last
      have several : ¬ Unambiguous (before ++ ':' :: (middle ++ ':' :: last)) := by
        rw [Unambiguous, fields, List.splitOn_append_cons_self_of_not_mem between, more]
        exact id
      refine iff_of_false ?_ fun clear => several clear.1
      rw [splitHostPort]
      cases cut : rsplitOnce ':' (before ++ ':' :: (middle ++ ':' :: last)) with
      | none => exact absurd (List.mem_append_right _ List.mem_cons_self) ((rsplit_once_none ':' _).mp cut)
      | some pair =>
          obtain ⟨whole, behind⟩ := rsplit_once_some ':' _ pair.1 pair.2 cut
          dsimp only
          split
          · exact fun same => nomatch same
          · intro same
            have front : pair.1 = hostField other := congrArg Prod.fst (Option.some.inj same)
            have solid : ':' ∉ pair.1 := front ▸ host_field_solid other
            obtain ⟨_, rest⟩ := cut_unique ':' _ _ _ _ absent solid whole
            exact behind (rest ▸ List.mem_append_right _ List.mem_cons_self)
    · have port : portField (before ++ ':' :: after) defaultPort = (parseU16 after).getD defaultPort := by
        rw [portField, fields, List.splitOn_eq_singleton later]
        rfl
      simp only [splitHostPort, rsplit_once_append ':' before after later, Unambiguous, fields,
        List.splitOn_eq_singleton later, host, port]
      cases parseU16 after with
      | none => simp [Except.toOption]
      | some number => simp [Except.toOption]

def BadPort (target : Str) : Prop :=
  match rsplitOnce ':' target with
  | some (_, digits) => parseU16 digits = none
  | none => False

theorem split_host_port_none (target : Str) (defaultPort : UInt16) :
    (splitHostPort target defaultPort).toOption = none ↔ BadPort target := by
  rw [splitHostPort, BadPort]
  cases rsplitOnce ':' target with
  | none => exact iff_of_false (Option.some_ne_none _) id
  | some pair =>
      dsimp only
      cases parseU16 pair.2 with
      | none => exact iff_of_true rfl rfl
      | some port => exact iff_of_false (Option.some_ne_none _) (Option.some_ne_none _)

end Authorities

def connectTarget (request : Bytes) : Option Str :=
  (lines (fromUtf8Lossy request)).head?.bind fun firstLine => (splitWhitespace firstLine)[1]?

def httpsTarget (request : Bytes) : Option (Str × UInt16) := (connectTarget request).map fun target => hostAndPort target 443

-- Where the multi-hop path takes the destination of a plain request from, and
-- where `Http::handle` takes it from.
def chainAuthority (request : Bytes) : Option Str :=
  match (lines (fromUtf8Lossy request)).head?.bind uriAuthority with
  | some authority => some authority
  | none => ((lines (fromUtf8Lossy request)).findSome? hostValue).map trim

def hostText (platform : Platform) (request : Bytes) : Option Str :=
  ((lines (fromUtf8Lossy request)).find? fun line => startsWith (toLowercase platform line) "host: ").bind fun line =>
    (sliceFrom 6 line).map trim

def SameDestination (platform : Platform) (request : Bytes) : Prop :=
  match chainAuthority request, hostText platform request with
  | none, none => True
  | none, some _ => False
  | some authority, none => BadPort authority
  | some authority, some text =>
      Unambiguous authority ∧ hostField authority = hostField text ∧ portField authority 80 = portField text 80

section Handlers

open Interaction Interaction.Program

variable (platform : Platform) (request : Bytes) (proxy : ProxyConfig) (address : Str)

def NamesTarget (target : Option (Str × UInt16)) : Op → Prop
  | .send (.connect4 host port) => target = some (host, port)
  | .send (.connect5 host port) => target = some (host, port)
  | _ => True

theorem socks4_names (refused : String) (host : Str) (port : UInt16) :
    Uses (NamesTarget (some (host, port))) (socks4Handshake refused host port) :=
  socks4_handshake_uses host port _ refused rfl fun _ => trivial

theorem socks5_names (host : Str) (port : UInt16) :
    Uses (NamesTarget (some (host, port))) (socks5Handshake handlerTexts proxy host port) :=
  socks5_handshake_uses proxy host port _ handlerTexts trivial rfl (fun _ _ _ => trivial) fun _ => trivial

theorem client_write_names (target : Option (Str × UInt16)) (bytes : Bytes) : Uses (NamesTarget target) (clientWrite bytes) :=
  ⟨trivial, io_uses _⟩

theorem https_upstream_names (target : Str) :
    Uses (NamesTarget (some (hostAndPort target 443))) (httpsUpstream target proxy) := by
  have tunnel := http_handshake_uses (NamesTarget (some (hostAndPort target 443))) "HTTPS tunnel failed"
    (.connectTarget target (credentials proxy)) trivial trivial
  rw [httpsUpstream]
  cases proxy.proxyType with
  | http => exact uses_bind _ _ tunnel fun _ => client_write_names _ _
  | https => exact uses_bind _ _ tunnel fun _ => client_write_names _ _
  | socks4 => exact uses_bind _ _ (socks4_names _ _ _) fun _ => client_write_names _ _
  | socks5 => exact uses_bind _ _ (socks5_names proxy _ _) fun _ => client_write_names _ _

theorem https_handle_names : Uses (NamesTarget (httpsTarget request)) (httpsHandle address request proxy (.done ())) := by
  rw [httpsHandle, httpsTarget, connectTarget]
  cases (lines (fromUtf8Lossy request)).head? with
  | none => trivial
  | some firstLine =>
      refine uses_bind _ _ ⟨trivial, io_uses _⟩ fun _ => ?_
      rw [Option.bind_some]
      cases (splitWhitespace firstLine)[1]? with
      | none => trivial
      | some target => exact uses_bind _ _ (https_upstream_names proxy target) fun _ => trivial

theorem http_handle_names :
    Uses (NamesTarget (hostHeader platform request).toOption) (httpHandle platform address request proxy (.done ())) := by
  have forward : ∀ target firstLine, Uses (NamesTarget target) (forwardHttp firstLine request) := by
    intro target firstLine
    rw [forwardHttp]
    split
    · exact client_write_names _ _
    · exact send_uses _ _ trivial
  rw [httpHandle]
  split
  · trivial
  rename_i firstLine _
  refine uses_bind _ _ ⟨trivial, io_uses _⟩ fun _ => uses_bind _ _ ?_ fun _ => trivial
  rw [httpUpstream]
  cases proxy.proxyType with
  | http => exact send_uses _ _ trivial
  | https => exact send_uses _ _ trivial
  | socks4 =>
      cases hostHeader platform request with
      | error failure => trivial
      | ok target =>
          obtain ⟨host, port⟩ := target
          have asks := uses_bind _ _ (socks4_names "SOCKS4 connection failed" host port) fun _ =>
            forward (some (host, port)) firstLine
          exact asks
  | socks5 =>
      cases hostHeader platform request with
      | error failure => trivial
      | ok target =>
          obtain ⟨host, port⟩ := target
          have asks := uses_bind _ _ (socks5_names proxy host port) fun _ => forward (some (host, port)) firstLine
          exact asks

end Handlers

theorem parse_connect_target_eq (request : Bytes) :
    (parseConnectTarget request).toOption = (connectTarget request).bind fun target => (splitHostPort target 443).toOption := by
  rw [parseConnectTarget, connectTarget]
  cases (lines (fromUtf8Lossy request)).head? with
  | none => rfl
  | some firstLine =>
      dsimp only [Option.bind_some]
      cases (splitWhitespace firstLine)[1]? with
      | none => rfl
      | some target => rfl

theorem connect_parsers_agree_iff (request : Bytes) :
    (parseConnectTarget request).toOption = httpsTarget request ↔ ∀ target, connectTarget request = some target →
      Unambiguous target := by
  rw [parse_connect_target_eq, httpsTarget]
  cases connectTarget request with
  | none => exact iff_of_true rfl fun target same => nomatch same
  | some target =>
      rw [Option.bind_some, Option.map_some, split_host_port_iff]
      constructor
      · rintro ⟨clear, _⟩ other same
        cases same
        exact clear
      · intro clear
        exact ⟨clear target rfl, rfl, rfl⟩

theorem parse_http_target_eq (request : Bytes) :
    (parseHttpTarget request).toOption = (chainAuthority request).bind fun text => (splitHostPort text 80).toOption := by
  rw [parseHttpTarget, chainAuthority]
  cases whole : lines (fromUtf8Lossy request) with
  | nil => rfl
  | cons firstLine rest =>
      simp only [List.head?_cons, Option.bind_some]
      cases uriAuthority firstLine with
      | some authority => rfl
      | none =>
          dsimp only
          cases (firstLine :: rest).findSome? hostValue with
          | none => rfl
          | some value => rfl

theorem host_header_eq (platform : Platform) (request : Bytes) :
    (hostHeader platform request).toOption = (hostText platform request).map fun text => hostAndPort text 80 := by
  rw [hostHeader, hostText]
  cases (lines (fromUtf8Lossy request)).find? fun line => startsWith (toLowercase platform line) "host: " with
  | none => rfl
  | some line =>
      dsimp only [Option.bind_some]
      cases sliceFrom 6 line with
      | none => rfl
      | some value => rfl

theorem http_parsers_agree_iff (platform : Platform) (request : Bytes) :
    (parseHttpTarget request).toOption = (hostHeader platform request).toOption ↔ SameDestination platform request := by
  rw [parse_http_target_eq, host_header_eq, SameDestination]
  cases chainAuthority request with
  | none =>
      cases hostText platform request with
      | none => exact iff_of_true rfl trivial
      | some text => exact iff_of_false (Option.some_ne_none _).symm id
  | some authority =>
      cases hostText platform request with
      | none => exact split_host_port_none authority 80
      | some text => exact split_host_port_iff authority text 80

section Examples

def socks4aRequest (marker : UInt8) : Bytes :=
  [0x04, 0x01, 0x00, 0x50, 0x00, 0x00, 0x00, marker, 0x00] ++ utf8 "example.com" ++ [0x00]

theorem socks4a_marker_agrees :
    (parseSocks4Target (socks4aRequest 1)).toOption = (socks4Request (socks4aRequest 1)).toOption ↔
      ReadAlike (socks4aRequest 1) :=
  socks4_parsers_agree_iff (socks4aRequest 1) rfl

-- Through several hops to example.com, through one hop to 0.0.0.2.
theorem socks4a_marker_differs :
    ¬ ∀ request, byteAt request 0 = 0x04 → (parseSocks4Target request).toOption = (socks4Request request).toOption := by
  intro agree
  have same := agree (socks4aRequest 2) rfl
  exact absurd same (by decide)

theorem ipv6_target_differs :
    ¬ ∀ request, detectProtocol request = .ok .https → (parseConnectTarget request).toOption = httpsTarget request := by
  intro agree
  have same := agree (utf8 "CONNECT [::1]:443 HTTP/1.1\r\n\r\n") (by decide)
  exact absurd same (by decide)

theorem host_header_differs :
    ¬ ∀ request, detectProtocol request = .ok .http →
      (parseHttpTarget request).toOption = (hostHeader standard request).toOption := by
  intro agree
  have same := agree (utf8 "GET http://a.example/ HTTP/1.1\r\nHost: b.example\r\n\r\n") (by decide)
  exact absurd same (by decide)

end Examples

end Purroute
