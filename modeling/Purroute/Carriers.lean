import Purroute.Auth
import Mathlib.Data.List.TakeWhile

set_option autoImplicit false

namespace Purroute

open Interaction Interaction.Program

def subNegotiation (username password : Str) : Bytes :=
  0x01 :: lengthByte (utf8 username) :: utf8 username ++ lengthByte (utf8 password) :: utf8 password

def CarriesBasic (platform : Platform) (request : Bytes) (username password : Str) : Prop :=
  ∃ name, eqIgnoreAsciiCase name "Proxy-Authorization: Basic " = true ∧
    authHeader platform request = some (name ++ encodeAuth platform username password)

def socks5Carrier (message : Bytes) : Router (Selection × Option Int) :=
  (socks5Login message).bind fun (selection, id) => .done (selection, some id)

def httpCarrier (platform : Platform) (config : RouterConfig) (protocol : Protocol) (request : Bytes) (peer : IpAddr) :
    Router (Selection × Option Int) :=
  (authenticateUser platform config request peer).bind fun id =>
    (ofExcept (requestUsername platform protocol request)).bind fun username => .done (tokens username, id)

section Decoding

variable (platform : Platform) (username password : Str)

theorem length_byte_nat (bytes : Bytes) (short : bytes.length ≤ 255) : (lengthByte bytes).toNat = bytes.length := by
  simp [lengthByte]
  omega

theorem slice_append (before middle after : Bytes) (start stop : Nat) (starts : start = before.length)
    (stops : stop = before.length + middle.length) : slice (before ++ (middle ++ after)) start stop = middle := by
  subst starts stops
  rw [slice, ← List.append_assoc, List.take_left' (by simp), List.drop_left]

theorem byte_at_append (before after : Bytes) (byte : UInt8) (i : Nat) (here : i = before.length) :
    byteAt (before ++ byte :: after) i = byte := by
  subst here
  simp [byteAt]

theorem socks5_credentials_carried (extra : Bytes) (shortName : (utf8 username).length ≤ 255)
    (shortPassword : (utf8 password).length ≤ 255) :
    socks5Credentials (subNegotiation username password ++ extra) = .ok (username, password) := by
  have ulen := length_byte_nat (utf8 username) shortName
  have plen := length_byte_nat (utf8 password) shortPassword
  have nameFirst : subNegotiation username password ++ extra = [0x01, lengthByte (utf8 username)] ++
      (utf8 username ++ (lengthByte (utf8 password) :: utf8 password ++ extra)) := by simp [subNegotiation]
  have lengthNext : subNegotiation username password ++ extra = ([0x01, lengthByte (utf8 username)] ++ utf8 username) ++
      lengthByte (utf8 password) :: (utf8 password ++ extra) := by simp [subNegotiation]
  have passwordNext : subNegotiation username password ++ extra =
      ([0x01, lengthByte (utf8 username)] ++ utf8 username ++ [lengthByte (utf8 password)]) ++ (utf8 password ++ extra) := by
    simp [subNegotiation]
  have version : byteAt (subNegotiation username password ++ extra) 0 = 0x01 := rfl
  have nameLength : byteAt (subNegotiation username password ++ extra) 1 = lengthByte (utf8 username) := rfl
  have passwordLength : byteAt (subNegotiation username password ++ extra) (2 + (utf8 username).length) =
      lengthByte (utf8 password) := by
    rw [lengthNext]
    exact byte_at_append _ _ _ _ (by simp; omega)
  have total : (subNegotiation username password ++ extra).length =
      3 + (utf8 username).length + (utf8 password).length + extra.length := by
    simp [subNegotiation]
    omega
  have name : slice (subNegotiation username password ++ extra) 2 (2 + (utf8 username).length) = utf8 username := by
    rw [nameFirst]
    exact slice_append _ _ _ _ _ (by simp) (by simp)
  have secret : slice (subNegotiation username password ++ extra) (2 + (utf8 username).length + 1)
      (2 + (utf8 username).length + 1 + (utf8 password).length) = utf8 password := by
    rw [passwordNext]
    exact slice_append _ _ _ _ _ (by simp; omega) (by simp; omega)
  simp only [socks5Credentials, version, nameLength, ulen, passwordLength, plen, total, name, secret, lossy_encoded, ne_eq,
    not_true_eq_false, or_false]
  rw [if_neg (by omega), if_neg (by omega), if_neg (by omega)]

theorem lower_ascii (c : Char) (ascii : c.toNat < 0x80) : c.toLower.toNat < 0x80 := by
  unfold Char.toLower
  split
  · rename_i upper
    have bound : c.val.toNat ≤ 90 := UInt32.le_iff_toNat_le.mp upper.2
    simp only [Char.toNat, UInt32.toNat_add]
    have small : ('a'.val - 'A'.val).toNat = 32 := rfl
    omega
  · exact ascii

theorem ascii_of_lower (c : Char) (folded : c.toLower.toNat < 0x80) : c.toNat < 0x80 := by
  unfold Char.toLower at folded
  split at folded
  · rename_i upper
    have bound : c.val.toNat ≤ 90 := UInt32.le_iff_toNat_le.mp upper.2
    exact Nat.lt_of_le_of_lt bound (by decide)
  · exact folded

theorem ascii_size (c : Char) (ascii : c.toNat < 0x80) : c.utf8Size = 1 :=
  Char.utf8Size_eq_one_iff.mpr (UInt32.le_iff_toNat_le.mpr (Nat.le_of_lt_succ ascii))

theorem ascii_of_same_case (left right : Str) (same : eqIgnoreAsciiCase left right = true)
    (ascii : ∀ c ∈ right, c.toNat < 0x80) : left.length = right.length ∧ ∀ c ∈ left, c.toNat < 0x80 := by
  have folded : left.map Char.toLower = right.map Char.toLower := by simpa [eqIgnoreAsciiCase] using same
  refine ⟨by simpa using congrArg List.length folded, ?_⟩
  intro c member
  apply ascii_of_lower
  have image : c.toLower ∈ right.map Char.toLower := folded ▸ List.mem_map_of_mem member
  obtain ⟨d, inRight, equal⟩ := List.mem_map.mp image
  exact equal ▸ lower_ascii d (ascii d inRight)

theorem slice_from_ascii (text rest : Str) (ascii : ∀ c ∈ text, c.utf8Size = 1) :
    sliceFrom text.length (text ++ rest) = some rest := by
  induction text with
  | nil => simp [sliceFrom]
  | cons c text ih =>
      have size := ascii c List.mem_cons_self
      simp only [List.length_cons, List.cons_append, sliceFrom, size]
      rw [if_pos (by omega), Nat.add_sub_cancel]
      exact ih fun d member => ascii d (List.mem_cons_of_mem _ member)

theorem drop_while_solid (text : Str) (solid : ∀ c ∈ text, isWhitespace c = false) : text.dropWhile isWhitespace = text := by
  cases text with
  | nil => rfl
  | cons c text => exact List.dropWhile_cons_of_neg (by simp [solid c List.mem_cons_self])

theorem trim_solid (text : Str) (solid : ∀ c ∈ text, isWhitespace c = false) : trim text = text := by
  have backwards : ∀ c ∈ text.reverse, isWhitespace c = false := fun c member => solid c (List.mem_reverse.mp member)
  rw [trim, drop_while_solid text solid, drop_while_solid _ backwards, List.reverse_reverse]

theorem alphabet_solid (c : Char) (member : c.isAlphanum = true ∨ c ∈ ['+', '/', '=']) : isWhitespace c = false := by
  have bounds : 0x21 ≤ c.toNat ∧ c.toNat ≤ 0x7A := by
    rcases member with alphanum | symbol
    · change (decide (c.val ≥ 'A'.val ∧ c.val ≤ 'Z'.val) || (decide (c.val ≥ 'a'.val) && decide (c.val ≤ 'z'.val)) ||
        (decide (c.val ≥ '0'.val) && decide (c.val ≤ '9'.val))) = true at alphanum
      simp only [Bool.or_eq_true, Bool.and_eq_true, decide_eq_true_eq, ge_iff_le, UInt32.le_iff_toNat_le] at alphanum
      have value : c.toNat = c.val.toNat := rfl
      have limits : 'A'.val.toNat = 65 ∧ 'Z'.val.toNat = 90 ∧ 'a'.val.toNat = 97 ∧ 'z'.val.toNat = 122 ∧
          '0'.val.toNat = 48 ∧ '9'.val.toNat = 57 := ⟨rfl, rfl, rfl, rfl, rfl, rfl⟩
      omega
    · simp only [List.mem_cons, List.not_mem_nil, or_false] at symbol
      rcases symbol with rfl | rfl | rfl <;> decide
  simp only [isWhitespace, Bool.or_eq_false_iff, Bool.and_eq_false_iff, decide_eq_false_iff_not, beq_eq_false_iff_ne]
  omega

theorem decode_header_carried (name : Str) (same : eqIgnoreAsciiCase name "Proxy-Authorization: Basic " = true) :
    decodeHeader platform (name ++ encodeAuth platform username password) = .ok (some (username ++ ':' :: password)) := by
  obtain ⟨length, ascii⟩ := ascii_of_same_case name _ same (ascii_all _ (by decide))
  have cut : sliceFrom 27 (name ++ encodeAuth platform username password) = some (encodeAuth platform username password) := by
    have size : name.length = 27 := length
    rw [← size]
    exact slice_from_ascii name _ fun c member => ascii_size c (ascii c member)
  have solid : trim (encodeAuth platform username password) = encodeAuth platform username password :=
    trim_solid _ fun c member => alphabet_solid c (platform.encodeAlphabet _ c member)
  have pair : username ++ ":" ++ password = username ++ ':' :: password := by simp
  rw [decodeHeader, cut]
  simp only [solid]
  rw [encodeAuth, platform.decodeEncode, Option.bind_some, from_utf8_encoded, pair]

theorem split_credentials_carried (colonFree : ':' ∉ username) :
    splitCredentials (username ++ ':' :: password) = some (username, password.takeWhile (· ≠ ':')) := by
  obtain ⟨rest, first⟩ := split_on_head ':' password
  simp only [splitCredentials, List.splitOn_append_cons_self_of_not_mem colonFree, first]

theorem first_field_carried (colonFree : ':' ∉ username) :
    ((username ++ ':' :: password).splitOn ':').head? = some username := by
  rw [List.splitOn_append_cons_self_of_not_mem colonFree, List.head?_cons]

end Decoding

def decision (selection : Selection) (reply : Except Fault (Option Account)) : Router (Selection × Option Int) :=
  (admitted reply).bind fun account =>
    (ofExcept (checkBandwidth account.bandwidthLimit)).bind fun _ => .done (selection, some account.id)

def carried (username secret : Str) : Router (Selection × Option Int) :=
  match parseUsername username with
  | .error _ => .fail authFailed
  | .ok (base, selection) => .ask (.authenticate base secret) (decision selection)

section Agreement

variable (platform : Platform) (config : RouterConfig) (protocol : Protocol) (peer : IpAddr) (request : Bytes)
  (username password : Str)

theorem socks5_carrier_eq (extra : Bytes) (shortName : (utf8 username).length ≤ 255)
    (shortPassword : (utf8 password).length ≤ 255) :
    socks5Carrier (subNegotiation username password ++ extra) = carried username password := by
  have parsed := socks5_credentials_carried username password extra shortName shortPassword
  simp only [socks5Carrier, socks5Login, parsed, ofExcept_ok, bind_eq, done_bind, authenticate, carried]
  cases parseUsername username with
  | error reason => rfl
  | ok pair => simp only [ask_bind, bind_assoc, pure_eq, done_bind]; rfl

theorem http_carrier_eq (auth : config.auth = some true) (http : protocol = .http ∨ protocol = .https)
    (colonFree : ':' ∉ username) (carries : CarriesBasic platform request username password) :
    httpCarrier platform config protocol request peer = carried username (password.takeWhile (· ≠ ':')) := by
  obtain ⟨name, same, header⟩ := carries
  have decoded := decode_header_carried platform username password name same
  have known : requestUsername platform protocol request = .ok (some username) := by
    have found : httpProxyUsername platform request = .ok (some username) := by
      simp only [httpProxyUsername, header, decoded, Except.map, Option.bind_some, first_field_carried _ _ colonFree]
    rcases http with rfl | rfl <;> exact found
  simp only [httpCarrier, authenticateUser, auth, if_true, header, decoded, known, ofExcept_ok, bind_eq, done_bind,
    Option.bind_some, split_credentials_carried username password colonFree, authenticate, carried, tokens, Option.map_some]
  cases parsed : parseUsername username with
  | error reason => rfl
  | ok pair => simp only [ask_bind, bind_assoc, pure_eq, done_bind]; rfl

theorem carried_injective (secret other : Str) :
    carried username secret = carried username other ↔ secret = other ∨ ∃ reason, parseUsername username = .error reason := by
  unfold carried
  cases parsed : parseUsername username with
  | error reason => simp
  | ok pair =>
      constructor
      · intro same
        injection same with calls
        injection calls with _ secrets
        exact .inl secrets
      · rintro (rfl | ⟨reason, failed⟩)
        · rfl
        · cases failed

theorem carriers_agree_iff (extra : Bytes) (auth : config.auth = some true) (http : protocol = .http ∨ protocol = .https)
    (colonFree : ':' ∉ username) (shortName : (utf8 username).length ≤ 255) (shortPassword : (utf8 password).length ≤ 255)
    (carries : CarriesBasic platform request username password) :
    socks5Carrier (subNegotiation username password ++ extra) = httpCarrier platform config protocol request peer ↔
      ':' ∉ password ∨ ∃ reason, parseUsername username = .error reason := by
  rw [socks5_carrier_eq username password extra shortName shortPassword,
    http_carrier_eq platform config protocol peer request username password auth http colonFree carries,
    carried_injective, eq_comm, take_while_free]

end Agreement

section Examples

def withAuth : RouterConfig := ⟨none, some true⟩

def basicRequest (username password : Str) : Bytes :=
  utf8 ("CONNECT example.com:443 HTTP/1.1\r\nproxy-authorization: BASIC " ++ encodeAuth standard username password ++ "\r\n\r\n")

theorem plain_password_agrees :
    socks5Carrier (subNegotiation "me-country-de" "pw" ++ []) =
        httpCarrier standard withAuth .https (basicRequest "me-country-de" "pw") (.v4 0) ↔
      ':' ∉ "pw".toList ∨ ∃ reason, parseUsername "me-country-de" = .error reason :=
  carriers_agree_iff standard withAuth .https (.v4 0) (basicRequest "me-country-de" "pw") "me-country-de" "pw" [] rfl
    (.inr rfl) (by decide) (by decide) (by decide) ⟨"proxy-authorization: BASIC ", by decide, by decide⟩

-- The Basic carrier asks the backend about the part before the colon only.
theorem colon_password_differs :
    ¬ ∀ username password : Str, ':' ∉ username → 1 ≤ (utf8 username).length → (utf8 username).length ≤ 255 →
        (utf8 password).length ≤ 255 →
      socks5Carrier (subNegotiation username password) =
        httpCarrier standard withAuth .https (basicRequest username password) (.v4 0) := by
  intro agree
  have same := agree "me" "a:b" (by decide) (by decide) (by decide) (by decide)
  rw [← List.append_nil (subNegotiation "me" "a:b"), socks5_carrier_eq "me" "a:b" [] (by decide) (by decide),
    http_carrier_eq standard withAuth .https (.v4 0) _ "me" "a:b" rfl (.inr rfl) (by decide)
      ⟨"proxy-authorization: BASIC ", by decide, by decide⟩, carried_injective] at same
  rcases same with whole | ⟨reason, failed⟩
  · exact absurd whole (by decide)
  · have parsed : parseUsername "me" = .ok ("me".toList, emptySelection) := by decide
    rw [parsed] at failed
    cases failed

end Examples

end Purroute
