import Purroute.Outward

set_option autoImplicit false

namespace Purroute

open Interaction Interaction.Program

-- The part of a handler that settles whose connection it is.
def authStage (platform : Platform) (config : RouterConfig) (protocol : Protocol) (request : Bytes) (peer : IpAddr) :
    Router (Selection × Option Int) :=
  match protocol with
  | .socks5 => (ofExcept (greetingMethods request)).bind (socks5Authenticate config)
  | _ => (authenticateUser platform config request peer).bind fun id => .done (emptySelection, id)

def NoCredentials (platform : Platform) (protocol : Protocol) (request : Bytes) : Prop :=
  match protocol with
  | .socks5 => ∃ methods, greetingMethods request = .ok methods ∧ 0x00 ∈ methods ∧ 0x02 ∉ methods
  | _ => authHeader platform request = none

def AddressAdmitted (reply : Except Fault (Option Account)) : Prop :=
  ∃ account, reply = .ok (some account) ∧ HasAllowance account

def answered (surroundings : History → (op : Op) → op.Reply) : Environment signature Unit :=
  fun _ past op => (surroundings past op, ())

def Passes (surroundings : History → (op : Op) → op.Reply) (past : History) (stage : Router (Selection × Option Int)) : Prop :=
  ∃ admitted, (drive (answered surroundings) () past stage).outcome = .ok admitted

section Stage

variable (platform : Platform) (server : ProxyServer) (config : RouterConfig) (protocol : Protocol)
    (request : Bytes) (peer : IpAddr)

theorem dispatch_auth_stage (chain : List ProxyConfig) (path : chain ≠ []) :
    ∃ next, dispatch platform server peer protocol request chain =
      (authStage platform server.config protocol request peer).bind next := by
  have login : ∀ next : Option Int → Router Unit, (authenticateUser platform server.config request peer).bind next =
      ((authenticateUser platform server.config request peer).bind fun id => .done (emptySelection, id)).bind
        fun admitted => next admitted.2 := by
    intro next
    rw [Program.bind_assoc]
    rfl
  cases protocol with
  | socks5 =>
      rcases dispatch_socks5 platform server peer request chain with ⟨empty, _⟩ | handled
      · exact absurd empty path
      · rw [handled, authStage]
        exact ⟨_, (Program.bind_assoc _ _ _).symm⟩
  | _ =>
      rcases chain with _ | ⟨first, _ | ⟨second, rest⟩⟩
      · exact absurd rfl path
      · exact ⟨_, login _⟩
      · exact ⟨_, login _⟩

variable (surroundings : History → (op : Op) → op.Reply) (past : History)

theorem failure_not_passes (failure : Failure) : ¬ Passes surroundings past (.fail failure) := by
  intro passes
  obtain ⟨_, ended⟩ := passes
  cases ended

theorem passes_ask (op : Op) (next : op.Reply → Router (Selection × Option Int)) :
    Passes surroundings past (.ask op next) ↔
      Passes surroundings (past ++ [⟨op, surroundings past op⟩]) (next (surroundings past op)) := Iff.rfl

theorem address_passes (next : Int → Selection × Option Int) :
    Passes surroundings past ((authenticateByIp peer).bind fun id => .done (next id)) ↔
      AddressAdmitted (surroundings past (.authenticateByIp peer)) := by
  rw [authenticateByIp, ask_bind, passes_ask]
  generalize past ++ _ = later
  generalize surroundings past (.authenticateByIp peer) = reply
  simp only [bind_eq, pure_eq, Program.bind_assoc, done_bind]
  rcases lookup_cases reply fun account => next account.id with ⟨account, rfl, allowance, ends⟩ | ⟨spent, failure, refused⟩
  · rw [ends]
    exact ⟨fun _ => ⟨account, rfl, allowance⟩, fun _ => ⟨_, rfl⟩⟩
  · rw [refused]
    constructor
    · intro passes
      exact absurd passes (failure_not_passes surroundings later failure)
    · intro allowed
      obtain ⟨account, same, allowance⟩ := allowed
      exact absurd allowance (spent account same)

theorem refused_methods_fail (reason : Failure) : ¬ Passes surroundings past (refuseMethods reason) := by
  intro passes
  change Passes surroundings past (.ask (.reply [0x05, 0xFF]) fun reply => (io reply).bind fun _ => .fail reason) at passes
  rw [passes_ask] at passes
  rcases io_cases (surroundings past (.reply [0x05, 0xFF])) with ⟨_, _, done⟩ | ⟨failure, failed⟩
  · rw [done, done_bind] at passes
    exact failure_not_passes _ _ reason passes
  · rw [failed, fail_bind] at passes
    exact failure_not_passes _ _ failure passes

theorem socks5_anonymous_refused (login : config.auth = some true) (anonymous : NoCredentials platform .socks5 request) :
    ¬ Passes surroundings past (authStage platform config .socks5 request peer) := by
  obtain ⟨methods, greeted, _, noPassword⟩ := anonymous
  rw [authStage, greeted, ofExcept_ok, done_bind, socks5Authenticate, if_pos login, if_neg noPassword]
  exact refused_methods_fail surroundings past authFailed

theorem request_anonymous_passes (login : config.auth = some true) (other : protocol ≠ .socks5)
    (anonymous : NoCredentials platform protocol request) :
    Passes surroundings past (authStage platform config protocol request peer) ↔
      AddressAdmitted (surroundings past (.authenticateByIp peer)) := by
  have byAddress : authHeader platform request = none →
      (Passes surroundings past ((authenticateUser platform config request peer).bind fun id => .done (emptySelection, id)) ↔
        AddressAdmitted (surroundings past (.authenticateByIp peer))) := by
    intro headless
    rw [authenticateUser, if_pos login, headless, bind_eq, Program.bind_assoc]
    exact address_passes peer surroundings past fun id => (emptySelection, some id)
  cases protocol with
  | socks5 => exact absurd rfl other
  | _ => exact byAddress anonymous

end Stage

theorem address_admission_iff (platform : Platform) (config : RouterConfig) (protocol : Protocol)
    (request : Bytes) (peer : IpAddr)
    (surroundings : History → (op : Op) → op.Reply) (past : History) (login : config.auth = some true)
    (anonymous : NoCredentials platform protocol request) :
    (Passes surroundings past (authStage platform config protocol request peer) ↔
      AddressAdmitted (surroundings past (.authenticateByIp peer))) ↔
    (protocol = .socks5 → ¬ AddressAdmitted (surroundings past (.authenticateByIp peer))) := by
  by_cases socks5 : protocol = .socks5
  · subst socks5
    have refused := socks5_anonymous_refused platform config request peer surroundings past login anonymous
    constructor
    · intro agree _ allowed
      exact refused (agree.mpr allowed)
    · intro stranger
      exact ⟨fun passes => absurd passes refused, fun allowed => absurd allowed (stranger rfl)⟩
  · have passes := request_anonymous_passes platform config protocol request peer surroundings past login socks5 anonymous
    exact ⟨fun _ same => absurd same socks5, fun _ => passes⟩

section Examples

def trusting : History → (op : Op) → op.Reply
  | _, .authenticateByIp peer => .ok (if peer = .v4 0x0A000001 then some ⟨1, none, none⟩ else none)
  | _, .authenticate _ _ => .ok none
  | _, .read _ => .error .failed
  | _, .readExact _ => .error .failed
  | _, .reply _ => .ok ()
  | _, .dial _ => .error .failed
  | _, .send _ => .error .failed
  | _, .receive _ => .error .failed
  | _, .receiveExact _ => .error .failed
  | _, .load => ([], ⟨0, fun _ => 0, fun _ _ => 0⟩)
  | _, .relay _ _ => .ok ()
  | _, .record _ => ()
  | _, .decrement => ()

theorem connect_admitted_by_address :
    (Passes trusting [] (authStage standard ⟨none, some true⟩ .https
      (utf8 "CONNECT a.example:443 HTTP/1.1\r\n\r\n") (.v4 0x0A000001)) ↔
      AddressAdmitted (trusting [] (.authenticateByIp (.v4 0x0A000001)))) :=
  (address_admission_iff standard ⟨none, some true⟩ .https (utf8 "CONNECT a.example:443 HTTP/1.1\r\n\r\n")
    (.v4 0x0A000001) trusting []
    rfl (show authHeader standard _ = none by decide)).mpr nofun

theorem greeting_not_admitted_by_address :
    ¬ ∀ (config : RouterConfig) (protocol : Protocol) (request : Bytes) (peer : IpAddr)
        (surroundings : History → (op : Op) → op.Reply) (past : History),
      config.auth = some true → NoCredentials standard protocol request →
        (Passes surroundings past (authStage standard config protocol request peer) ↔
          AddressAdmitted (surroundings past (.authenticateByIp peer))) := by
  intro uniform
  have anonymous : NoCredentials standard .socks5 [0x05, 0x01, 0x00] := ⟨[0x00], by decide, by decide, by decide⟩
  have allowed : AddressAdmitted (trusting [] (.authenticateByIp (.v4 0x0A000001))) := ⟨⟨1, none, none⟩, rfl, nofun⟩
  have passes := (uniform ⟨none, some true⟩ .socks5 _ (.v4 0x0A000001) trusting [] rfl anonymous).mpr allowed
  exact socks5_anonymous_refused standard ⟨none, some true⟩ _ _ trusting [] rfl anonymous passes

end Examples

end Purroute
