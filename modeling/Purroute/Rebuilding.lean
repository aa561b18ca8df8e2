import Purroute.Forwarding
import Purroute.Replies

set_option autoImplicit false

namespace Purroute

open Interaction Interaction.Program

structure PlainRequest (request : Bytes) (stop : Nat) : Prop where
  protocol : detectProtocol request = .ok .http
  first : lineEnd request = some stop
  complete : crlf ++ crlf <:+: request

def keptRequest (platform : Platform) (proxy : ProxyConfig) (request : Bytes) (stop : Nat) : Bytes :=
  request.take (stop + 2) ++ authorizationLine platform (credentials proxy) ++ request.drop (stop + 2)

section Lines

theorem lines_from_feeds (current text : Str) : text.count '\n' ≤ (linesFrom current text).length := by
  induction text generalizing current with
  | nil => exact Nat.zero_le _
  | cons c text ih =>
      by_cases feed : c = '\n'
      · subst feed
        rw [List.count_cons_self, linesFrom, if_pos rfl, List.length_cons]
        exact Nat.succ_le_succ (ih [])
      · rw [List.count_cons_of_ne feed, linesFrom, if_neg feed]
        exact ih (c :: current)

theorem lines_feeds (text : Str) : text.count '\n' ≤ (lines text).length := lines_from_feeds [] text

theorem lossy_feeds (bytes : Bytes) : bytes.count 10 ≤ (fromUtf8Lossy bytes).count '\n' := by
  induction length : bytes.length using Nat.strong_induction_on generalizing bytes with
  | _ n ih =>
      by_cases present : 10 ∈ bytes
      · obtain ⟨before, after, rfl, absent⟩ := List.eq_append_cons_of_mem present
        have decoded : fromUtf8Lossy (10 :: after) = '\n' :: fromUtf8Lossy after := lossy_encoded_append ['\n'] after
        have later := ih after.length (by rw [← length, List.length_append, List.length_cons]; omega) after rfl
        rw [lossy_append_stop before after 10 (by decide), decoded, List.count_append, List.count_append, List.count_cons_self,
          List.count_cons_self, List.count_eq_zero.mpr absent]
        omega
      · rw [List.count_eq_zero.mpr present]
        exact Nat.zero_le _

theorem header_feeds (headers : List Str) : headers.length ≤ (headers.flatMap fun header => utf8 header ++ crlf).count 10 := by
  induction headers with
  | nil => exact Nat.zero_le _
  | cons header headers ih =>
      have ending : crlf.count 10 = 1 := by decide
      rw [List.flatMap_cons, List.count_append, List.count_append, ending, List.length_cons]
      omega

theorem rebuilt_feeds (platform : Platform) (credentials : Credentials) (request : Bytes) (firstLine : Str)
    (first : (lines (fromUtf8Lossy request)).head? = some firstLine) :
    request.count 10 + (authorizationLine platform credentials).count 10 <
      ((Message.rebuilt firstLine credentials ((lines (fromUtf8Lossy request)).drop 1)).bytes platform).count 10 := by
  obtain ⟨headers, cut⟩ := List.head?_eq_some_iff.mp first
  have enough := Nat.le_trans (lossy_feeds request) (lines_feeds (fromUtf8Lossy request))
  have ending : crlf.count 10 = 1 := by decide
  have each := header_feeds headers
  rw [cut, List.length_cons] at enough
  rw [cut, Message.bytes, List.drop_succ_cons, List.drop_zero]
  simp only [List.count_append, ending]
  omega

theorem lines_of_text (texts : List Str) (solid : ∀ line ∈ texts, '\n' ∉ line) :
    lines (texts.flatMap fun line => line ++ ['\r', '\n']) = texts := by
  induction texts with
  | nil => rfl
  | cons line texts ih =>
      rw [List.forall_mem_cons] at solid
      rw [List.flatMap_cons, List.append_assoc]
      change lines (line ++ '\r' :: '\n' :: texts.flatMap fun line => line ++ ['\r', '\n']) = line :: texts
      rw [lines_cons line _ solid.1, ih solid.2]

theorem utf8_lines (texts : List Str) :
    utf8 (texts.flatMap fun line => line ++ ['\r', '\n']) = texts.flatMap fun line => utf8 line ++ crlf := by
  induction texts with
  | nil => rfl
  | cons line texts ih =>
      rw [List.flatMap_cons, List.flatMap_cons, utf8_append, utf8_append, ih]
      rfl

theorem rebuilt_whole_lines (platform : Platform) (credentials : Credentials) (firstLine : Str) (headers : List Str)
    (solid : ∀ line ∈ firstLine :: headers, '\n' ∉ line) :
    (Message.rebuilt firstLine credentials
        ((lines (fromUtf8Lossy (utf8 ((firstLine :: headers).flatMap fun line =>
          line ++ ['\r', '\n'])))).drop 1)).bytes platform =
      utf8 firstLine ++ crlf ++ authorizationLine platform credentials ++
        utf8 (headers.flatMap fun line => line ++ ['\r', '\n']) ++ crlf := by
  rw [lossy_encoded, lines_of_text _ solid, List.drop_succ_cons, List.drop_zero, utf8_lines]
  rfl

end Lines

section Requests

theorem lines_ne_nil (text : Str) (filled : text ≠ []) : lines text ≠ [] := by
  have longer : ∀ current, current ≠ [] ∨ text ≠ [] → linesFrom current text ≠ [] := by
    clear filled
    induction text with
    | nil =>
        intro current some
        have left : current ≠ [] := some.resolve_right fun absent => absent rfl
        rw [linesFrom, if_neg left]
        exact List.cons_ne_nil _ _
    | cons c text ih =>
        intro current _
        rw [linesFrom]
        by_cases feed : c = '\n'
        · rw [if_pos feed]
          exact List.cons_ne_nil _ _
        · rw [if_neg feed]
          exact ih _ (Or.inl (List.cons_ne_nil _ _))
  exact longer [] (Or.inr filled)

theorem request_line (request : Bytes) (filled : request ≠ []) :
    ∃ firstLine, (lines (fromUtf8Lossy request)).head? = some firstLine := by
  obtain ⟨byte, rest, rfl⟩ := List.exists_cons_of_ne_nil filled
  have decoded : fromUtf8Lossy (byte :: rest) ≠ [] := by
    rw [lossy_cons]
    exact List.cons_ne_nil _ _
  obtain ⟨firstLine, more, cut⟩ := List.exists_cons_of_ne_nil (lines_ne_nil _ decoded)
  exact ⟨firstLine, by rw [cut, List.head?_cons]⟩

theorem http_filled (request : Bytes) (protocol : detectProtocol request = .ok .http) : request ≠ [] := by
  rintro rfl
  cases protocol

end Requests

section Upstream

variable {S : Type} (platform : Platform) (answer : Environment signature S) (state : S) (proxy : ProxyConfig) (request : Bytes)

def upstreamRun : Driven signature S Failure Unit :=
  drive answer state [] (httpHandle platform (getUpstreamAddr proxy) request proxy (.done ()))

theorem upstream_run_written (firstLine : Str) (first : (lines (fromUtf8Lossy request)).head? = some firstLine)
    (type : IsTunnel proxy) (completed : (upstreamRun platform answer state proxy request).outcome = .ok ()) :
    written platform (upstreamRun platform answer state proxy request).past =
      (Message.rebuilt firstLine (credentials proxy) ((lines (fromUtf8Lossy request)).drop 1)).bytes platform := by
  have dialled : approach platform [proxy] request = connect (getUpstreamAddr proxy) := by
    rcases type with http | https
    · rw [approach, http]
      exact bind_unit _
    · rw [approach, https]
      exact bind_unit _
  have handed : handedOn [proxy] firstLine request =
      some (.rebuilt firstLine (credentials proxy) ((lines (fromUtf8Lossy request)).drop 1)) := by
    rcases type with http | https
    · simp only [handedOn, http]
    · simp only [handedOn, https]
  have silent : written platform (drive answer state [] (connect (getUpstreamAddr proxy))).past = [] :=
    congrArg (written platform) (io_past answer _ _ _)
  have whole := exchange_written platform answer state [] [proxy] request firstLine first completed
  rw [dialled, handed, silent] at whole
  exact whole

theorem request_never_preserved (stop : Nat) (type : IsTunnel proxy) (plain : PlainRequest request stop) :
    (upstreamRun platform (fun _ _ op => (accepting op, ())) () proxy request).outcome = .ok () ∧
      ((upstreamRun platform answer state proxy request).outcome = .ok () →
        written platform (upstreamRun platform answer state proxy request).past ≠ keptRequest platform proxy request stop) := by
  obtain ⟨firstLine, first⟩ := request_line request (http_filled request plain.protocol)
  constructor
  · rw [upstreamRun, httpHandle, first]
    rcases type with http | https
    · simp only [httpUpstream, http]
      rfl
    · simp only [httpUpstream, https]
      rfl
  · intro completed same
    have more := rebuilt_feeds platform (credentials proxy) request firstLine first
    rw [← upstream_run_written platform answer state proxy request firstLine first type completed, same, keptRequest] at more
    have whole : (request.take (stop + 2)).count 10 + (request.drop (stop + 2)).count 10 = request.count 10 := by
      rw [← List.count_append, List.take_append_drop]
    rw [List.count_append, List.count_append] at more
    omega

end Upstream

section Examples

def plainPage : Bytes := utf8 "GET / HTTP/1.1\r\nHost: a\r\n\r\n"

theorem plain_page : PlainRequest plainPage 14 := ⟨by decide, by decide, ⟨plainPage.take 23, [], by decide⟩⟩

theorem plain_page_changed :
    (upstreamRun standard (fun _ _ op => (accepting op, ())) () httpHop plainPage).outcome = .ok () ∧
      ((upstreamRun standard (fun _ _ op => (accepting op, ())) () httpHop plainPage).outcome = .ok () →
        written standard (upstreamRun standard (fun _ _ op => (accepting op, ())) () httpHop plainPage).past ≠
          keptRequest standard httpHop plainPage 14) :=
  request_never_preserved standard (fun _ _ op => (accepting op, ())) () httpHop plainPage 14 (.inl rfl) plain_page

def RequestPreserved : Prop :=
  ∀ (S : Type) (platform : Platform) (answer : Environment signature S) (state : S) (proxy : ProxyConfig)
    (request : Bytes) (stop : Nat),
    IsTunnel proxy → PlainRequest request stop → (upstreamRun platform answer state proxy request).outcome = .ok () →
      written platform (upstreamRun platform answer state proxy request).past = keptRequest platform proxy request stop

-- The head ends with one empty line, what is written with two.
theorem second_empty_line : ¬ RequestPreserved := by
  intro preserved
  have same := preserved Unit standard (fun _ _ op => (accepting op, ())) () httpHop plainPage 14
    (.inl rfl) plain_page (by decide)
  exact absurd same (by decide)

end Examples

end Purroute
