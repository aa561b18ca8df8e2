import Purroute.OwnRoute
import Purroute.StaticAuth

set_option autoImplicit false

namespace Purroute

open Interaction Interaction.Program

def Named (trace : History) (account : Account) : Prop :=
  (∃ base secret, asked base secret (.ok (some account)) ∈ trace) ∨ ∃ peer, askedByIp peer (.ok (some account)) ∈ trace

def StoredRoute (account : Account) (selection : Selection) : Prop :=
  ∃ text base, account.defaultSelection = some text ∧ parseUsername text = .ok (base, selection) ∧ isEmpty selection = false

def loads (past : History) : List (List ProxyConfig × Draws) :=
  past.filterMap fun event =>
    match event with
    | ⟨.load, reply⟩ => some reply
    | _ => none

def Diverted (server : ProxyServer) (trace : History) (chain : List ProxyConfig) : Prop :=
  ∃ live draws, (loads trace).getLast? = some (live, draws) ∧ resolveProxyChain server live draws emptySelection ≠ .ok chain

-- A stored default that a connection is routed by, if it has diverted its path,
-- is that of the account charged.
def OwnDefaultOnly (server : ProxyServer) (trace : History) (selection : Selection) (id : Option Int)
    (chain : List ProxyConfig) : Prop :=
  ∀ account, Named trace account → StoredRoute account selection → Diverted server trace chain → id = some account.id

def Diverting (server : ProxyServer) (trace : History) (selection : Selection) : Prop :=
  ∃ live draws, (loads trace).getLast? = some (live, draws) ∧
    resolveProxyChain server live draws selection ≠ resolveProxyChain server live draws emptySelection

section Runs

variable (peer : IpAddr) (trace : History)

theorem is_empty_eq (selection : Selection) (empty : isEmpty selection = true) : selection = emptySelection := by
  cases selection
  simp only [isEmpty, Bool.and_eq_true, List.isEmpty_iff, Option.isNone_iff_eq_none] at empty
  obtain ⟨⟨⟨⟨⟨⟨rfl, rfl⟩, rfl⟩, rfl⟩, rfl⟩, rfl⟩, rfl⟩ := empty
  rfl

theorem stored_selection_runs (otherwise selection : Selection)
    (run : Runs (storedSelection peer otherwise) trace (.ok selection)) :
    ∃ reply, trace = [askedByIp peer reply] ∧ storedDefault otherwise reply = .ok selection := by
  rw [stored_selection_eq] at run
  cases run with
  | step _ _ reply later _ tail =>
      obtain ⟨rfl, found⟩ := of_except_runs _ _ _ tail
      exact ⟨reply, rfl, found⟩

theorem selection_for_default (platform : Platform) (protocol : Protocol) (request : Bytes) (username : Option Str)
    (selection : Selection) (presented : requestUsername platform protocol request = .ok username)
    (noTokens : isEmpty (tokens username) = true)
    (run : Runs (selectionFor platform protocol request peer) trace (.ok selection)) :
    ∃ reply, trace = [askedByIp peer reply] ∧ storedDefault emptySelection reply = .ok selection := by
  have empty := is_empty_eq _ noTokens
  rw [selectionFor, presented, ofExcept_ok, bind_eq, done_bind, empty, if_neg (by decide)] at run
  exact stored_selection_runs peer trace emptySelection selection run

theorem defaulted_default (chosen selection : Selection) (noTokens : isEmpty chosen = true)
    (run : Runs (defaulted peer chosen) trace (.ok selection)) :
    ∃ reply, trace = [askedByIp peer reply] ∧ storedDefault emptySelection reply = .ok selection := by
  have empty := is_empty_eq chosen noTokens
  rw [empty] at run
  exact stored_selection_runs peer trace emptySelection selection run

def Accounted (id : Option Int) (event : Event) : Prop :=
  (∀ base secret account, event = asked base secret (.ok (some account)) → id = some account.id) ∧
    ∀ other reply, event = askedByIp other reply → other = peer

def NoPassword : Op → Prop
  | .authenticate _ _ => False
  | .authenticateByIp other => other = peer
  | _ => True

theorem no_password_accounted (id : Option Int) (event : Event) (quiet : NoPassword peer event.1) : Accounted peer id event := by
  constructor
  · intro base secret account same
    rw [same] at quiet
    exact quiet.elim
  · intro other reply same
    rw [same] at quiet
    exact quiet

theorem password_accounted (base secret : Str) (account : Account) :
    Accounted peer (some account.id) (asked base secret (.ok (some account))) := by
  constructor
  · intro other password known same
    cases same
    rfl
  · intro other reply same
    cases same

theorem passed_default (platform : Platform) (server : ProxyServer) (request : Bytes)
    (chosen selection : Selection) (id : Option Int)
    (chain : List ProxyConfig) (login : server.config.auth = some true)
    (passed : Passed platform server peer request trace chosen selection id chain) (noTokens : isEmpty chosen = true) :
    (∃ reply, askedByIp peer reply ∈ trace ∧ storedDefault emptySelection reply = .ok selection) ∧
      ∀ event ∈ trace, Accounted peer id event := by
  cases passed with
  | request protocol username route logged live draws _ _ _ detected other presented routed resolved loggedIn =>
      obtain ⟨reply, rfl, found⟩ :=
        selection_for_default peer route platform protocol request username selection presented noTokens routed
      obtain ⟨account, recognised, _, rfl⟩ := authenticate_user_runs peer logged platform server.config request id login loggedIn
      refine ⟨⟨reply, List.mem_cons_self, found⟩, ?_⟩
      rw [List.forall_mem_append, List.forall_mem_singleton, List.forall_mem_cons]
      refine ⟨no_password_accounted peer _ _ rfl, no_password_accounted peer _ _ trivial, ?_⟩
      cases recognised with
      | address _ bare =>
          rw [List.forall_mem_singleton]
          exact no_password_accounted peer _ _ rfl
      | password _ line text rawUsername password base _ header decoded fields parsed =>
          rw [List.forall_mem_singleton]
          exact password_accounted peer base password account
  | socks5 prelude logged target default methods live draws _ _ _ host port _ detected greeted quiet loggedIn named
      routed resolved =>
      obtain ⟨reply, rfl, found⟩ := defaulted_default peer default chosen selection noTokens routed
      obtain ⟨message, rawUsername, password, base, account, _, _, _, rfl, rfl⟩ :=
        socks5_authenticate_runs logged server.config methods chosen id login loggedIn
      have early : ∀ event ∈ prelude, Accounted peer (some account.id) event := by
        intro event member
        apply no_password_accounted
        rcases quiet event member with same | same
        · rw [same]
          rfl
        · rw [same]
          trivial
      have asks : ∀ event ∈ target, Accounted peer (some account.id) event := fun event member =>
        no_password_accounted peer _ event
          ((uses_event _ _ target (socks5_target_uses (NoPassword peer) fun _ => trivial) named).1 event member)
      have logs : ∀ event ∈ [wrote [0x05, 0x02], readOnce 513 message, asked base password (.ok (some account)),
        wrote [0x01, 0x00]],
          Accounted peer (some account.id) event := by
        simp only [List.forall_mem_cons]
        exact ⟨no_password_accounted peer _ _ trivial, no_password_accounted peer _ _ trivial,
          password_accounted peer base password account,
          no_password_accounted peer _ _ trivial, nofun⟩
      refine ⟨⟨reply, by simp, found⟩, ?_⟩
      rw [List.forall_mem_append, List.forall_mem_append, List.forall_mem_append, List.forall_mem_append,
        List.forall_mem_singleton,
        List.forall_mem_singleton]
      exact ⟨early, logs, asks, no_password_accounted peer _ _ rfl, no_password_accounted peer _ _ trivial⟩

def NoLoad : Op → Prop
  | .load => False
  | _ => True

theorem loads_append (before after : History) : loads (before ++ after) = loads before ++ loads after := List.filterMap_append

theorem loads_none (quiet : ∀ event ∈ trace, NoLoad event.1) : loads trace = [] := by
  rw [loads, List.filterMap_eq_nil_iff]
  intro event member
  have other := quiet event member
  obtain ⟨op, reply⟩ := event
  cases op with
  | load => exact other.elim
  | _ => rfl

theorem passed_resolved (platform : Platform) (server : ProxyServer) (request : Bytes)
    (chosen selection : Selection) (id : Option Int)
    (chain : List ProxyConfig) (passed : Passed platform server peer request trace chosen selection id chain) :
    ∃ live draws, (loads trace).getLast? = some (live, draws) ∧ resolveProxyChain server live draws selection = .ok chain := by
  cases passed with
  | request protocol username route logged live draws _ _ _ _ _ _ _ resolved loggedIn =>
      have quiet := loads_none logged (uses_event _ _ logged
        (authenticate_user_uses NoLoad platform server.config request peer (fun _ _ => trivial) trivial) loggedIn).1
      have single : loads (loaded live draws :: logged) = [(live, draws)] := by
        rw [← quiet]
        rfl
      refine ⟨live, draws, ?_, resolved⟩
      rw [loads_append, single, List.getLast?_concat]
  | socks5 prelude logged target default methods live draws _ _ _ host port _ _ _ _ _ _ _ resolved =>
      have last : loads [loaded live draws] = [(live, draws)] := rfl
      refine ⟨live, draws, ?_, resolved⟩
      rw [loads_append, loads_append, loads_append, loads_append, last, ← List.append_assoc,
        ← List.append_assoc, ← List.append_assoc,
        List.getLast?_concat]

theorem passed_diverted_iff (platform : Platform) (server : ProxyServer) (request : Bytes)
    (chosen selection : Selection) (id : Option Int)
    (chain : List ProxyConfig) (passed : Passed platform server peer request trace chosen selection id chain) :
    Diverted server trace chain ↔ Diverting server trace selection := by
  obtain ⟨live, draws, last, resolved⟩ := passed_resolved peer trace platform server request chosen selection id chain passed
  constructor
  · rintro ⟨live', draws', last', other⟩
    cases last.symm.trans last'
    exact ⟨live, draws, last, fun same => other (same.symm.trans resolved)⟩
  · rintro ⟨live', draws', last', other⟩
    cases last.symm.trans last'
    exact ⟨live, draws, last, fun same => other (resolved.trans same.symm)⟩

end Runs

theorem stored_default_route (account : Account) (otherwise selection : Selection) (text base : Str)
    (stored : account.defaultSelection = some text) (parsed : parseUsername text = .ok (base, selection)) :
    storedDefault otherwise (.ok (some account)) = .ok selection := by
  simp only [storedDefault, stored, Option.map_some, parsed]

-- The lookup by address decides: it must name the account charged, or one whose
-- default leaves the path as it would be without one.
theorem own_default_iff {Net : Type} (contains : Net → IpAddr → Bool) (users : List (StaticUser Net)) (platform : Platform)
    (server : ProxyServer) (peer : IpAddr) (request : Bytes) (trace : History) (chosen selection : Selection) (id : Option Int)
    (chain : List ProxyConfig) (login : server.config.auth = some true)
    (passed : Passed platform server peer request trace chosen selection id chain) (noTokens : isEmpty chosen = true)
    (backed : ∀ event ∈ trace, Backed contains users event) :
    OwnDefaultOnly server trace selection id chain ↔
      ∀ user index, addressUser contains users peer = some (user, index) → ∀ text base route, user.defaultSelection = some text →
        parseUsername text = .ok (base, route) → isEmpty route = false → Diverting server trace route →
          id = some (index + 1 : Int) := by
  obtain ⟨⟨reply, asks, found⟩, accounted⟩ :=
    passed_default peer trace platform server request chosen selection id chain login passed noTokens
  have diverted := passed_diverted_iff peer trace platform server request chosen selection id chain passed
  constructor
  · intro own user index first text base route stored parsed constrained diverting
    obtain ⟨load, answer⟩ := backed _ asks
    have named : staticAuthenticateByIp contains users load peer = some (accountFor load user index) := by
      rw [staticAuthenticateByIp, first, Option.map_some]
    rw [answer, named] at asks found
    rw [stored_default_route (accountFor load user index) emptySelection route text base stored parsed] at found
    cases found
    exact own _ (.inr ⟨peer, asks⟩) ⟨text, base, stored, parsed, constrained⟩ (diverted.mpr diverting)
  · intro harmless account named route path
    rcases named with ⟨base, secret, member⟩ | ⟨other, member⟩
    · exact (accounted _ member).1 base secret account rfl
    · have same := (accounted _ member).2 other _ rfl
      subst same
      obtain ⟨load, answer⟩ := backed _ member
      obtain ⟨⟨user, index⟩, first, rfl⟩ := Option.map_eq_some_iff.mp (Except.ok.inj answer).symm
      obtain ⟨text, base, stored, parsed, constrained⟩ := route
      exact harmless user index first text base selection stored parsed constrained (diverted.mp path)

section Examples

def meRequest : { bytes : Bytes // bytes.length ≤ 8192 } := ⟨basicRequest "me" "pw", by decide⟩

def everywhere : Unit → IpAddr → Bool := fun _ _ => true
def nowhere : StaticUser Unit := ⟨"me", "pw", none, [], none⟩
def resident : StaticUser Unit := ⟨"me", "pw", none, [()], some "me-country-de".toList⟩
def neighbour : StaticUser Unit := ⟨"other", "pw", none, [()], some "other-country-de".toList⟩

def french : ProxyConfig := { upstream with address := "10.0.0.2", tags := { upstream.tags with country := some "fr" } }
def twoCountries : List ProxyConfig := [french, tagged]

def defaultRun (user : StaticUser Unit) (index : Nat) (credited : StaticUser Unit) : History :=
  [askedByIp visitor (.ok (some (accountFor (fun _ => 0) user index))), loaded twoCountries evenDraws,
    asked "me" "pw" (.ok (some (accountFor (fun _ => 0) credited 0)))]

theorem resident_passed :
    Passed standard openServer visitor meRequest.val (defaultRun resident 0 resident) emptySelection inGermany (some 1)
    [tagged] :=
  .request .https (some "me".toList) [_] [_] twoCountries evenDraws inGermany (some 1) [tagged] (by decide) nofun (by decide)
    (.step _ _ _ _ _ (.here _)) rfl (.step _ _ _ _ _ (.here _))

theorem neighbour_passed :
    Passed standard openServer visitor meRequest.val (defaultRun neighbour 1 nowhere) emptySelection inGermany (some 1)
    [tagged] :=
  .request .https (some "me".toList) [_] [_] twoCountries evenDraws inGermany (some 1) [tagged] (by decide) nofun (by decide)
    (.step _ _ _ _ _ (.here _)) rfl (.step _ _ _ _ _ (.here _))

theorem resident_backed : ∀ event ∈ defaultRun resident 0 resident, Backed everywhere [resident] event := by
  rw [defaultRun, List.forall_mem_cons, List.forall_mem_cons, List.forall_mem_singleton]
  exact ⟨⟨fun _ => 0, rfl⟩, trivial, fun _ => 0, rfl⟩

theorem neighbour_backed : ∀ event ∈ defaultRun neighbour 1 nowhere, Backed everywhere [nowhere, neighbour] event := by
  rw [defaultRun, List.forall_mem_cons, List.forall_mem_cons, List.forall_mem_singleton]
  exact ⟨⟨fun _ => 0, rfl⟩, trivial, fun _ => 0, rfl⟩

theorem resident_default_own : OwnDefaultOnly openServer (defaultRun resident 0 resident) inGermany (some 1) [tagged] := by
  apply (own_default_iff everywhere [resident] standard openServer visitor meRequest.val _ emptySelection inGermany
    (some 1) [tagged] rfl
    resident_passed rfl resident_backed).mpr
  intro user index first text base route stored parsed constrained diverting
  cases first
  rfl

-- The password says `me`, the address another user, whose default leads to the
-- second upstream instead of the first.
theorem neighbour_default_followed :
    ¬ ∀ (users : List (StaticUser Unit)) (peer : IpAddr) (request : { bytes : Bytes // bytes.length ≤ 8192 }) (trace : History)
        (chosen selection : Selection) (id : Option Int) (chain : List ProxyConfig) (address : Str)
        (next : (Op.dial address).Reply → Router Unit),
      Reaches (handleConnection standard openServer peer) (readOnce 8192 request :: trace) (.ask (.dial address) next) →
        Passed standard openServer peer request.val trace chosen selection id chain → isEmpty chosen = true →
          (∀ event ∈ trace, Backed everywhere users event) → OwnDefaultOnly openServer trace selection id chain := by
  intro own
  have reached : ∃ next, Reaches (handleConnection standard openServer visitor)
    (readOnce 8192 meRequest :: defaultRun neighbour 1 nowhere)
      (.ask (.dial "10.0.0.1:1080") next) :=
    ⟨_, .step _ _ _ _ _ (.step _ _ _ _ _ (.step _ _ _ _ _ (.step _ _ _ _ _ (.here _))))⟩
  obtain ⟨next, dials⟩ := reached
  have charged := own [nowhere, neighbour] visitor meRequest _ emptySelection inGermany (some 1)
    [tagged] _ next dials neighbour_passed rfl
    neighbour_backed (accountFor (fun _ => 0) neighbour 1) (.inr ⟨visitor, List.mem_cons_self⟩)
    ⟨"other-country-de", "other", rfl, by decide, by decide⟩ ⟨twoCountries, evenDraws, rfl, by decide⟩
  cases charged

end Examples

end Purroute
