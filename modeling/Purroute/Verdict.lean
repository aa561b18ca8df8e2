import Purroute.Destination
import Purroute.HopOrder
import Purroute.Replies
import Purroute.Search

set_option autoImplicit false

namespace Purroute

open Interaction Interaction.Program

structure TunnelReply where
  minor : Char
  code : Str
  reason : Bytes
  headers : List Bytes
  body : Bytes
  version : minor.isDigit = true
  threeDigits : code.length = 3
  decimal : code.all Char.isDigit = true
  oneLine : 10 ∉ reason ∧ 13 ∉ reason
  fields : ∀ header ∈ headers, header ≠ [] ∧ 10 ∉ header ∧ 13 ∉ header

namespace TunnelReply

def statusLine (reply : TunnelReply) : Bytes :=
  utf8 ("HTTP/1." ++ [reply.minor]) ++ 32 :: (utf8 reply.code ++ 32 :: reply.reason)

def bytes (reply : TunnelReply) : Bytes :=
  reply.statusLine ++ crlf ++ (reply.headers.flatMap fun header => header ++ crlf) ++ crlf ++ reply.body

def status (reply : TunnelReply) : Nat := Nat.ofDigitChars 10 reply.code 0

def Success (reply : TunnelReply) : Prop := 200 ≤ reply.status ∧ reply.status ≤ 299

def Usual (reply : TunnelReply) : Prop := reply.code = "200".toList ∧ utf8 "Connection Established" <+: reply.reason

def Quoted (reply : TunnelReply) : Prop :=
  utf8 established <:+: reply.reason ∨ (∃ header ∈ reply.headers, utf8 established <:+: header) ∨ utf8 established <:+: reply.body

end TunnelReply

section Decoding

theorem lossy_ascii_front (text : Str) (bytes : Bytes) (ascii : ∀ c ∈ text, c.toNat < 0x80)
    (starts : text <+: fromUtf8Lossy bytes) :
    utf8 text <+: bytes := by
  induction text generalizing bytes with
  | nil => exact List.nil_prefix
  | cons c text ih =>
      rw [List.forall_mem_cons] at ascii
      cases bytes with
      | nil => exact absurd starts (by simp)
      | cons first rest =>
          rw [lossy_cons, List.cons_prefix_cons] at starts
          obtain ⟨rfl, later⟩ := starts
          have low : first.toNat < 0x80 := by
            by_contra high
            have folded := decode_first_high first rest (by omega)
            have small := ascii.1
            omega
          rw [decode_first_low first rest low] at later ⊢
          rw [utf8_cons, encode_low first low, List.singleton_append, List.cons_prefix_cons]
          exact ⟨rfl, ih rest ascii.2 later⟩

theorem lossy_ascii_infix (text : Str) (bytes : Bytes) (ascii : ∀ c ∈ text, c.toNat < 0x80) :
    text <:+: fromUtf8Lossy bytes ↔ utf8 text <:+: bytes := by
  constructor
  · intro found
    induction length : bytes.length using Nat.strong_induction_on generalizing bytes with
    | _ n ih =>
        cases bytes with
        | nil =>
            rw [lossy_nil, List.infix_nil] at found
            rw [found]
            exact List.nil_infix
        | cons first rest =>
            rw [lossy_cons] at found
            rcases List.infix_cons_iff.mp found with starts | later
            · rw [← lossy_cons] at starts
              exact (lossy_ascii_front text _ ascii starts).isInfix
            · have shorter := ih _ (by rw [← length, List.length_drop, List.length_cons]; omega) _ later rfl
              exact List.infix_cons (shorter.trans (List.drop_suffix _ rest).isInfix)
  · rintro ⟨before, after, rfl⟩
    cases text with
    | nil => exact List.nil_infix
    | cons c text =>
        have low : (UInt8.ofNat c.toNat).toNat < 0x80 := by
          have small := ascii c List.mem_cons_self
          rw [UInt8.toNat_ofNat']
          omega
        have single : String.utf8EncodeChar c = [UInt8.ofNat c.toNat] := by
          have value : c.val.toNat = c.toNat := rfl
          rw [String.utf8EncodeChar, value, if_pos (by have small := ascii c List.mem_cons_self; omega)]
        have spread : before ++ utf8 (c :: text) ++ after = before ++ UInt8.ofNat c.toNat :: (utf8 text ++ after) := by
          rw [utf8_cons, single, List.append_assoc]
          rfl
        have whole := lossy_encoded_append (c :: text) after
        rw [utf8_cons, single] at whole
        rw [spread, lossy_append_stop before _ _ low]
        change c :: text <:+: fromUtf8Lossy before ++ fromUtf8Lossy ([UInt8.ofNat c.toNat] ++ utf8 text ++ after)
        rw [whole]
        exact List.infix_append' _ _ _

end Decoding

section Phrase

variable (reply : TunnelReply)

theorem established_bytes : utf8 established = [50, 48, 48] ++ 32 :: utf8 "Connection Established" := by decide

theorem established_solid : 13 ∉ utf8 established ∧ 10 ∉ utf8 established ∧ utf8 established ≠ [] := by decide

theorem digits_spaceless (digits : Str) (decimal : digits.all Char.isDigit = true) : 32 ∉ utf8 digits := by
  intro member
  have space := utf8_ascii_mem digits ' ' (by decide) member
  exact absurd (List.all_eq_true.mp decimal ' ' space) (by decide)

theorem digit_byte (c : Char) (digit : c.isDigit = true) : String.utf8EncodeChar c = [UInt8.ofNat c.toNat] := by
  have range : 48 ≤ c.toNat ∧ c.toNat ≤ 57 := Char.isDigit_iff_toNat.mp digit
  have value : c.val.toNat = c.toNat := rfl
  rw [String.utf8EncodeChar, value, if_pos (by omega)]

theorem digits_length (digits : Str) (decimal : digits.all Char.isDigit = true) : (utf8 digits).length = digits.length := by
  induction digits with
  | nil => rfl
  | cons c digits ih =>
      rw [List.all_cons, Bool.and_eq_true] at decimal
      rw [utf8_cons, digit_byte c decimal.1, List.length_append, ih decimal.2, List.length_singleton,
        List.length_cons, Nat.add_comm]

theorem version_bytes : utf8 ("HTTP/1." ++ [reply.minor]) = [72, 84, 84, 80, 47, 49, 46] ++ [UInt8.ofNat reply.minor.toNat] := by
  rw [utf8_append, utf8_cons, digit_byte reply.minor reply.version]
  rfl

theorem version_spaceless : 32 ∉ utf8 ("HTTP/1." ++ [reply.minor]) := by
  rw [utf8_append, List.mem_append, not_or]
  refine ⟨by decide, digits_spaceless [reply.minor] ?_⟩
  rw [List.all_cons, reply.version]
  rfl

theorem version_no_code : ¬ [50, 48, 48] <:+ utf8 ("HTTP/1." ++ [reply.minor]) := by
  intro ends
  rw [version_bytes, List.suffix_iff_eq_drop] at ends
  cases ends

theorem code_ends_iff : [50, 48, 48] <:+ utf8 reply.code ↔ reply.code = "200".toList := by
  have spelled : utf8 "200" = [50, 48, 48] := by decide
  have length := digits_length reply.code reply.decimal
  rw [reply.threeDigits] at length
  rw [← spelled]
  constructor
  · intro ends
    exact (utf8_injective _ _ (ends.eq_of_length (by rw [length]; rfl))).symm
  · intro same
    rw [same]

theorem status_line_phrase : utf8 established <:+: reply.statusLine ↔ reply.Usual ∨ utf8 established <:+: reply.reason := by
  have short : (32 : UInt8) ∉ [50, 48, 48] := by decide
  have code := digits_spaceless reply.code reply.decimal
  rw [TunnelReply.statusLine, established_bytes, Search.infix_across _ _ _ _ _ short (version_spaceless reply),
    Search.infix_across _ _ _ _ _ short code, code_ends_iff]
  constructor
  · rintro (⟨never, _⟩ | found)
    · exact absurd never (version_no_code reply)
    · exact found
  · exact Or.inr

theorem reply_phrase : contains (fromUtf8Lossy reply.bytes) established = true ↔ reply.Usual ∨ reply.Quoted := by
  obtain ⟨noReturn, noFeed, filled⟩ := established_solid
  have ascii : ∀ c ∈ established, c.toNat < 0x80 := ascii_all _ (by decide)
  have spread : reply.bytes = reply.statusLine ++ 13 :: 10 :: ((reply.headers.flatMap fun header => header ++ [13, 10]) ++
      13 :: 10 :: reply.body) := by
    simp only [TunnelReply.bytes, crlf, List.append_assoc, List.cons_append, List.nil_append]
  rw [contains, decide_eq_true_eq, lossy_ascii_infix established reply.bytes ascii, spread, Search.infix_cut _ _ _ 13 noReturn,
    Search.infix_cons_other _ _ 10 noFeed, Search.infix_cut _ _ _ 13 noReturn, Search.infix_cons_other _ _ 10 noFeed,
    Search.infix_parts _ _ 13 10 noReturn noFeed filled, status_line_phrase, or_assoc]
  rfl

theorem usual_success (usual : reply.Usual) : reply.Success := by
  rw [TunnelReply.Success, TunnelReply.status, usual.1]
  decide

end Phrase

section Verdicts

variable (program : Router Unit) (before : History) (reply : { bytes : Bytes // bytes.length ≤ 1024 })

def Stands : Prop := ∃ rest, Reaches program (before ++ [received 1024 reply]) rest ∧ ∀ failure, rest ≠ .fail failure

variable (refused : String) (request : Message) (next : Bytes → Router Unit)
    (goesOn : ∀ bytes failure, next bytes ≠ .fail failure)

include goesOn

theorem handshake_stands_iff : Stands ((httpHandshake refused request).bind next) [sent request] reply ↔
    contains (fromUtf8Lossy reply.val) established = true := by
  have reached : Reaches ((httpHandshake refused request).bind next) [sent request, received 1024 reply]
      ((if contains (fromUtf8Lossy reply.val) established then .done reply.val else throw refused).bind next) :=
    .step _ _ _ _ _ (.step _ _ _ _ _ (.here _))
  constructor
  · rintro ⟨rest, there, open_⟩
    by_contra other
    rw [if_neg other] at reached
    exact open_ _ (reaches_unique _ _ _ _ there reached)
  · intro accepted
    rw [if_pos accepted] at reached
    exact ⟨next reply.val, reached, goesOn reply.val⟩

theorem connected_stands_iff (address : Str) :
    Stands ((connect address).bind fun _ => (httpHandshake refused request).bind next) [dialled address, sent request] reply ↔
      contains (fromUtf8Lossy reply.val) established = true := by
  rw [← handshake_stands_iff reply refused request next goesOn]
  constructor
  · rintro ⟨rest, there, open_⟩
    cases there with
    | step _ _ _ _ _ later => exact ⟨rest, later, open_⟩
  · rintro ⟨rest, there, open_⟩
    exact ⟨rest, .step _ _ _ _ _ there, open_⟩

end Verdicts

section Handlers

variable (address : Str) (request : Bytes) (proxy : ProxyConfig) (relay : Router Unit)

theorem https_handle_tunnel (target : Str) (tunnel : IsTunnel proxy) (known : connectTarget request = some target) :
    httpsHandle address request proxy relay = (connect address).bind fun _ =>
      (httpHandshake "HTTPS tunnel failed" (.connectTarget target (credentials proxy))).bind fun response =>
        (clientWrite response).bind fun _ => relay := by
  obtain ⟨firstLine, first, word⟩ := Option.bind_eq_some_iff.mp known
  rw [httpsHandle, first]
  dsimp only
  rw [word]
  rcases tunnel with http | https
  · simp only [httpsUpstream, http, bind_eq, Program.bind_assoc]
  · simp only [httpsUpstream, https, bind_eq, Program.bind_assoc]

theorem socks4_handle_tunnel (host : Str) (port : UInt16) (tunnel : IsTunnel proxy)
    (known : socks4Request request = .ok (host, port)) :
    socks4Handle address request proxy relay = (connect address).bind fun _ =>
      (httpHandshake "HTTP tunnel failed" (.connectHttp host port (credentials proxy))).bind fun _ =>
        (clientWrite socks4Granted).bind fun _ => relay := by
  rw [socks4Handle, known]
  rcases tunnel with http | https
  · simp only [socks4Upstream, http, bind_eq, Program.bind_assoc, ofExcept_ok, done_bind]
  · simp only [socks4Upstream, https, bind_eq, Program.bind_assoc, ofExcept_ok, done_bind]

end Handlers

-- Each of the three copies of the check takes the answer for a tunnel exactly
-- where its status code is a success.
structure JudgedByCode (reply : TunnelReply) (fits : reply.bytes.length ≤ 1024) : Prop where
  httpConnect : ∀ proxy host port,
    Stands (httpConnect proxy host port) [sent (.connectHttp host port (credentials proxy))] ⟨reply.bytes, fits⟩ ↔ reply.Success
  https : ∀ address request proxy relay target, IsTunnel proxy → connectTarget request = some target →
    (Stands (httpsHandle address request proxy relay) [dialled address, sent (.connectTarget target (credentials proxy))]
      ⟨reply.bytes, fits⟩ ↔ reply.Success)
  socks4 : ∀ address request proxy relay host port, IsTunnel proxy → socks4Request request = .ok (host, port) →
    (Stands (socks4Handle address request proxy relay) [dialled address, sent (.connectHttp host port (credentials proxy))]
      ⟨reply.bytes, fits⟩ ↔ reply.Success)

theorem http_connect_stands_iff (proxy : ProxyConfig) (host : Str) (port : UInt16) (reply : TunnelReply)
    (fits : reply.bytes.length ≤ 1024) :
    Stands (httpConnect proxy host port) [sent (.connectHttp host port (credentials proxy))] ⟨reply.bytes, fits⟩ ↔
      reply.Usual ∨ reply.Quoted := by
  rw [← reply_phrase]
  exact handshake_stands_iff _ _ _ _ fun _ _ same => by cases same

-- A success is recognised by the phrase alone, and the phrase counts wherever it stands.
theorem judged_by_code_iff (reply : TunnelReply) (fits : reply.bytes.length ≤ 1024) :
    JudgedByCode reply fits ↔ (reply.Success → reply.Usual ∨ reply.Quoted) ∧ (¬ reply.Success → ¬ reply.Quoted) := by
  have decided : ((reply.Usual ∨ reply.Quoted) ↔ reply.Success) ↔
      (reply.Success → reply.Usual ∨ reply.Quoted) ∧ (¬ reply.Success → ¬ reply.Quoted) := by
    constructor
    · intro same
      exact ⟨same.mpr, fun failed quoted => failed (same.mp (Or.inr quoted))⟩
    · rintro ⟨found, silent⟩
      refine ⟨fun phrase => ?_, found⟩
      rcases phrase with usual | quoted
      · exact usual_success reply usual
      · by_contra failed
        exact silent failed quoted
  rw [← decided]
  constructor
  · intro judged
    rw [← judged.httpConnect anonymousHop [] 0]
    exact (http_connect_stands_iff anonymousHop [] 0 reply fits).symm
  · intro same
    have accepts : contains (fromUtf8Lossy reply.bytes) established = true ↔ reply.Success := (reply_phrase reply).trans same
    refine ⟨?_, ?_, ?_⟩
    · intro proxy host port
      exact (http_connect_stands_iff proxy host port reply fits).trans same
    · intro address request proxy relay target tunnel known
      rw [← accepts, https_handle_tunnel address request proxy relay target tunnel known]
      exact connected_stands_iff _ _ _ _ (fun _ _ same => by cases same) address
    · intro address request proxy relay host port tunnel known
      rw [← accepts, socks4_handle_tunnel address request proxy relay host port tunnel known]
      exact connected_stands_iff _ _ _ _ (fun _ _ same => by cases same) address

section Examples

def plainOk : TunnelReply := ⟨'1', "200", utf8 "OK", [], [], rfl, rfl, rfl, by decide, by simp⟩
def quotingPage : TunnelReply :=
  ⟨'1', "403", utf8 "Forbidden", [], utf8 "no 200 Connection Established", rfl, rfl, rfl, by decide, by simp⟩

def bareRefusal : TunnelReply :=
  ⟨'1', "404", [], [], [], rfl, rfl, rfl, ⟨List.not_mem_nil, List.not_mem_nil⟩, List.forall_mem_nil _⟩

theorem bare_refusal_judged : JudgedByCode bareRefusal (by decide) :=
  (judged_by_code_iff bareRefusal (by decide)).mpr ⟨fun success => absurd success.2 (by decide), fun _ quoted => by
    rcases quoted with reason | ⟨header, listed, _⟩ | body
    · exact absurd (List.infix_nil.mp reason) established_solid.2.2
    · cases listed
    · exact absurd (List.infix_nil.mp body) established_solid.2.2⟩

def AlwaysJudged : Prop := ∀ (reply : TunnelReply) (fits : reply.bytes.length ≤ 1024), JudgedByCode reply fits

theorem plain_ok_refused : ¬ AlwaysJudged := by
  intro judged
  have stands := (judged plainOk (by decide)).httpConnect anonymousHop [] 0
  have success : plainOk.Success := by
    rw [TunnelReply.Success]
    decide
  have phrase : contains (fromUtf8Lossy plainOk.bytes) established = true :=
    (handshake_stands_iff _ _ _ _ (fun _ _ same => by cases same)).mp (stands.mpr success)
  exact absurd phrase (by decide)

example : quotingPage.status = 403 ∧ contains (fromUtf8Lossy quotingPage.bytes) established = true := by decide

end Examples

end Purroute
