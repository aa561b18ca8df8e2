import Purroute.HopOrder
import Purroute.Rebuilding

set_option autoImplicit false

namespace Purroute

open Interaction Interaction.Program

def IsSocks (proxy : ProxyConfig) : Prop := proxy.proxyType = .socks4 ∨ proxy.proxyType = .socks5

def tunnelHandshake (proxy : ProxyConfig) (host : Str) (port : UInt16) : Router Unit :=
  match proxy.proxyType with
  | .socks4 => socks4Handshake "SOCKS4 connection failed" host port
  | _ => socks5Handshake handlerTexts proxy host port

def OffClient (op : Op) : Prop := ∀ bytes, op ≠ .reply bytes

section Delivery

variable {S : Type} (platform : Platform) (answer : Environment signature S) (state : S) (proxy : ProxyConfig) (request : Bytes)

structure Grants : Prop where
  dialled : ∀ state past address, (answer state past (.dial address)).1 = .ok ()
  taken : ∀ state past message, (answer state past (.send message)).1 = .ok ()
  granted : ∀ state past host port, (drive answer state past (tunnelHandshake proxy host port)).outcome = .ok ()

structure Delivered (run : Driven signature S Failure Unit) : Prop where
  completed : run.outcome = .ok ()
  forwarded : ∃ handshake, run.past = handshake ++ [sent (.raw request)]
  unanswered : ∀ event ∈ run.past, OffClient event.1

theorem tunnel_handshake_off_client (host : Str) (port : UInt16) : Uses OffClient (tunnelHandshake proxy host port) := by
  have sends : ∀ message, OffClient (.send message) := fun message bytes same => by cases same
  have receives : ∀ count, OffClient (.receiveExact count) := fun count bytes same => by cases same
  have five := socks5_handshake_uses proxy host port OffClient handlerTexts (sends _) (sends _) (fun _ _ _ => sends _) receives
  rw [tunnelHandshake]
  split
  · exact socks4_handshake_uses host port OffClient _ (sends _) receives
  · exact five

theorem approach_socks (socks : IsSocks proxy) :
    approach platform [proxy] request = (connect (getUpstreamAddr proxy)).bind fun _ =>
    (ofExcept (hostHeader platform request)).bind fun target => tunnelHandshake proxy target.1 target.2 := by
  rcases socks with four | five
  · simp only [approach, tunnelHandshake, four, bind_eq]
  · simp only [approach, tunnelHandshake, five, bind_eq]

theorem approach_off_client (socks : IsSocks proxy) : Uses OffClient (approach platform [proxy] request) := by
  have dials : OffClient (.dial (getUpstreamAddr proxy)) := fun bytes same => by cases same
  rw [approach_socks platform proxy request socks]
  apply uses_bind
  · exact ⟨dials, io_uses _⟩
  · intro _
    apply uses_bind
    · exact uses_ofExcept _
    · exact fun target => tunnel_handshake_off_client proxy target.1 target.2

theorem drive_connect (past : History) (address : Str) (accepts : (answer state past (.dial address)).1 = .ok ()) :
    drive answer state past (connect address) = ⟨past ++ [dialled address], (answer state past (.dial address)).2, .ok ()⟩ := by
  change drive answer (answer state past (.dial address)).2 (past ++ [⟨.dial address, (answer state past (.dial address)).1⟩])
    (io (answer state past (.dial address)).1) = _
  rw [accepts]
  rfl

theorem drive_send (past : History) (message : Message) (takes : (answer state past (.send message)).1 = .ok ()) :
    drive answer state past (send message) = ⟨past ++ [sent message], (answer state past (.send message)).2, .ok ()⟩ := by
  change drive answer (answer state past (.send message)).2 (past ++ [⟨.send message, (answer state past (.send message)).1⟩])
    (io (answer state past (.send message)).1) = _
  rw [takes]
  rfl

theorem drive_approach (socks : IsSocks proxy) (grants : Grants answer proxy) :
    (drive answer state [] (approach platform [proxy] request)).outcome = (hostHeader platform request).map fun _ => () := by
  have opened := drive_connect answer state [] (getUpstreamAddr proxy) (grants.dialled state [] (getUpstreamAddr proxy))
  rw [approach_socks platform proxy request socks, drive_bind, opened]
  cases hostHeader platform request with
  | error failure => rfl
  | ok target => exact grants.granted _ _ target.1 target.2

theorem upstream_run_socks (socks : IsSocks proxy) (firstLine : Str)
    (first : (lines (fromUtf8Lossy request)).head? = some firstLine) :
    upstreamRun platform answer state proxy request = drive answer state []
      ((approach platform [proxy] request).bind fun _ =>
        handOver (if contains firstLine "CONNECT" then none else some (.raw request))) := by
  have handed : handedOn [proxy] firstLine request = if contains firstLine "CONNECT" then none else some (.raw request) := by
    rcases socks with four | five
    · simp only [handedOn, four]
    · simp only [handedOn, five]
  have exchange := http_exchange_eq platform [proxy] request firstLine first
  rw [handed] at exchange
  rw [← exchange]
  rfl

theorem request_delivered_iff (socks : IsSocks proxy) (grants : Grants answer proxy) (firstLine : Str)
    (first : (lines (fromUtf8Lossy request)).head? = some firstLine) :
    Delivered request (upstreamRun platform answer state proxy request) ↔
      (∃ target, hostHeader platform request = .ok target) ∧ contains firstLine "CONNECT" = false := by
  have approached := drive_approach platform answer state proxy request socks grants
  have kept := approach_off_client platform proxy request socks
  have quiet := (uses_event _ _ _ kept (drive_from_start answer state (approach platform [proxy] request))).1
  rw [upstream_run_socks platform answer state proxy request socks firstLine first, drive_bind]
  rcases front : drive answer state [] (approach platform [proxy] request) with ⟨past, after, outcome⟩
  rw [front] at approached quiet
  cases host : hostHeader platform request with
  | error failure =>
      rw [host] at approached
      cases approached
      constructor
      · intro delivered
        cases delivered.completed
      · rintro ⟨⟨target, found⟩, _⟩
        cases found
  | ok target =>
      rw [host] at approached
      cases approached
      dsimp only
      cases connects : contains firstLine "CONNECT" with
      | true =>
          have told : (drive answer after past (handOver (if true = true then none else some (.raw request)))).past =
              past ++ [⟨.reply tunnelGranted, (answer after past (.reply tunnelGranted)).1⟩] := io_past answer _ _ _
          constructor
          · intro delivered
            have heard := delivered.unanswered ⟨.reply tunnelGranted, (answer after past (.reply tunnelGranted)).1⟩
              (by rw [told]; exact List.mem_append_right _ List.mem_cons_self)
            exact absurd rfl (heard tunnelGranted)
          · rintro ⟨_, other⟩
            cases other
      | false =>
          have wrote : drive answer after past (handOver (if false = true then none else some (.raw request))) =
              ⟨past ++ [sent (.raw request)], (answer after past (.send (.raw request))).2, .ok ()⟩ :=
            drive_send answer after past (.raw request) (grants.taken after past (.raw request))
          rw [wrote]
          constructor
          · exact fun _ => ⟨⟨target, rfl⟩, rfl⟩
          · intro _
            refine ⟨rfl, ⟨past, rfl⟩, fun event member => ?_⟩
            rcases List.mem_append.mp member with earlier | last
            · exact quiet event earlier
            · rw [List.mem_singleton] at last
              rw [last]
              exact fun bytes same => by cases same

end Delivery

section Examples

theorem accepting_grants : Grants (fun _ _ op => (accepting op, ()) : Environment signature Unit) anonymousHop where
  dialled := fun _ _ _ => rfl
  taken := fun _ _ _ => rfl
  granted := fun _ _ _ _ => rfl

def connectingPage : Bytes := utf8 "GET /CONNECT HTTP/1.1\r\nHost: a\r\n\r\n"

theorem plain_page_delivered :
    Delivered plainPage (upstreamRun standard (fun _ _ op => (accepting op, ())) () anonymousHop plainPage) ↔
    (∃ target, hostHeader standard plainPage = .ok target) ∧ contains "GET / HTTP/1.1" "CONNECT" = false :=
  request_delivered_iff standard (fun _ _ op => (accepting op, ())) () anonymousHop plainPage (.inr rfl) accepting_grants
    "GET / HTTP/1.1" (by decide)

def AlwaysDelivered : Prop :=
  ∀ (S : Type) (platform : Platform) (answer : Environment signature S) (state : S) (proxy : ProxyConfig) (request : Bytes),
    IsSocks proxy → Grants answer proxy → detectProtocol request = .ok .http →
      Delivered request (upstreamRun platform answer state proxy request)

theorem connecting_page_lost : ¬ AlwaysDelivered := by
  intro always
  have delivered := always Unit standard (fun _ _ op => (accepting op, ())) () anonymousHop connectingPage
    (.inr rfl) accepting_grants
    (by decide)
  have told : (upstreamRun standard (fun _ _ op => (accepting op, ())) () anonymousHop connectingPage).past.getLast? =
      some ⟨.reply tunnelGranted, .ok ()⟩ := rfl
  exact delivered.unanswered _ (List.mem_of_getLast? told) tunnelGranted rfl

end Examples

end Purroute
