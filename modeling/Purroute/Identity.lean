import Purroute.DefaultRoute

set_option autoImplicit false

namespace Purroute

open Interaction Interaction.Program

def PresentsLogin (platform : Platform) (request : Bytes) (rawUsername password : Str) : Prop :=
  ∃ line text, authHeader platform request = some line ∧ decodeHeader platform line = .ok (some text) ∧
    splitCredentials text = some (rawUsername, password)

def AdmittedAs (platform : Platform) (config : RouterConfig) (request : Bytes) (peer : IpAddr)
    (rawUsername : Str) (trace : History) : Prop :=
  (∃ password, PresentsLogin platform request rawUsername password) ∧
    ∃ id, Runs (authenticateUser platform config request peer) trace (.ok id)

def RoutedBy (peer : IpAddr) (own : Selection) (route : History) (selection : Selection) : Prop :=
  if isEmpty own = false then route = [] ∧ selection = own
  else ∃ reply, route = [askedByIp peer reply] ∧ storedDefault own reply = .ok selection

structure OneName (platform : Platform) (server : ProxyServer) (peer : IpAddr) (protocol : Protocol)
    (request : Bytes) : Prop where
  admitted : ∀ trace rawUsername, AdmittedAs platform server.config request peer rawUsername trace →
    httpProxyUsername platform request = .ok (some rawUsername) ∧ ∃ base selection password account,
      PresentsLogin platform request rawUsername password ∧ parseUsername rawUsername = .ok (base, selection) ∧
        trace = [asked base password (.ok (some account))] ∧
          (isEmpty selection = false → selectionFor platform protocol request peer = .done selection)
  named : ∀ trace id base password reply, Runs (authenticateUser platform server.config request peer) trace (.ok id) →
    asked base password reply ∈ trace → ∃ rawUsername, AdmittedAs platform server.config request peer rawUsername trace
  connection : ∀ trace rest base password reply, Reaches (serve platform server peer request) trace rest →
    asked base password reply ∈ trace → ∃ rawUsername own route live draws selection chain later,
      PresentsLogin platform request rawUsername password ∧ httpProxyUsername platform request = .ok (some rawUsername) ∧
      parseUsername rawUsername = .ok (base, own) ∧ trace = route ++ loaded live draws :: later ∧
        RoutedBy peer own route selection ∧
      resolveProxyChain server live draws selection = .ok chain ∧
      Reaches (dispatch platform server peer protocol request chain) later rest

section Fields

variable (platform : Platform) (request : Bytes) (rawUsername password : Str)

theorem login_username (login : PresentsLogin platform request rawUsername password) :
    httpProxyUsername platform request = .ok (some rawUsername) := by
  obtain ⟨line, text, header, decoded, fields⟩ := login
  obtain ⟨full, rfl, absent, _⟩ := split_credentials_some text rawUsername password fields
  rw [httpProxyUsername, header]
  dsimp only
  rw [decoded]
  exact congrArg Except.ok (first_field_carried rawUsername full absent)

theorem selection_for_named (protocol : Protocol) (peer : IpAddr) (base : Str) (own : Selection)
    (http : protocol = .http ∨ protocol = .https) (presented : httpProxyUsername platform request = .ok (some rawUsername))
    (parsed : parseUsername rawUsername = .ok (base, own)) :
    selectionFor platform protocol request peer = if isEmpty own = false then .done own else storedSelection peer own := by
  have username : requestUsername platform protocol request = .ok (some rawUsername) := by
    rcases http with rfl | rfl
    · exact presented
    · exact presented
  have chosen : tokens (some rawUsername) = own := by rw [tokens, Option.map_some, parsed]
  rw [selectionFor, username, ofExcept_ok, bind_eq, done_bind, chosen]
  rfl

end Fields

def AsksPresented (platform : Platform) (request : Bytes) : Op → Prop
  | .authenticate base password => ∃ rawUsername own, PresentsLogin platform request rawUsername password ∧
      parseUsername rawUsername = .ok (base, own)
  | _ => True

section Connections

variable (platform : Platform) (server : ProxyServer) (peer : IpAddr) (protocol : Protocol) (request : Bytes)

theorem outward_presented (op : Op) (outward : Outward op) : AsksPresented platform request op := by
  cases op with
  | authenticate base password => exact outward.elim
  | _ => trivial

theorem authenticate_user_presented :
    Uses (AsksPresented platform request) (authenticateUser platform server.config request peer) := by
  rw [authenticateUser]
  by_cases login : server.config.auth = some true
  · rw [if_pos login]
    cases header : authHeader platform request with
    | none =>
        refine uses_bind _ _ ⟨trivial, fun reply => ?_⟩ fun _ => trivial
        refine uses_bind _ _ (admitted_uses _ reply) fun account => ?_
        exact uses_bind _ _ (uses_ofExcept _) fun _ => trivial
    | some line =>
        dsimp only
        cases decoded : decodeHeader platform line with
        | error failure => trivial
        | ok credentials =>
            rw [bind_eq, ofExcept_ok, done_bind]
            cases split : credentials.bind splitCredentials with
            | none => trivial
            | some pair =>
                obtain ⟨text, rfl, fields⟩ := Option.bind_eq_some_iff.mp split
                refine uses_bind _ _ (authenticate_uses _ pair.1 pair.2 ?_) fun _ => trivial
                exact fun base own parsed => ⟨pair.1, own, ⟨line, text, header, decoded, fields⟩, parsed⟩
  · rw [if_neg login]
    trivial

theorem dispatch_presented (notSocks5 : protocol ≠ .socks5) (chain : List ProxyConfig) :
    Uses (AsksPresented platform request) (dispatch platform server peer protocol request chain) := by
  have login := authenticate_user_presented platform server peer request
  refine dispatch_keeps _ (uses_outward_closed _ (outward_presented platform request)) platform request
    (fun _ => True) server peer
    protocol chain ?_ ?_ ?_
  · exact fun next tail => uses_bind _ _ login fun id => tail id trivial
  · exact fun id costPerByte _ => relayed_uses _ id costPerByte trivial trivial trivial
  · exact fun own => absurd own notSocks5

variable (base password : Str) (reply : Except Fault (Option Account)) (trace : History) (rest : Router Unit)

theorem asked_behind {A : Type} (first : Router A) (next : A → Router Unit) (quiet : Uses (NoPassword peer) first)
    (reached : Reaches (first.bind next) trace rest) (member : asked base password reply ∈ trace) :
    ∃ value before after, trace = before ++ after ∧ Runs first before (.ok value) ∧ Reaches (next value) after rest ∧
      asked base password reply ∈ after := by
  rcases reaches_bind first next trace rest reached with ⟨middle, part, _⟩ | ⟨value, before, after, rfl, ran, behind⟩
  · exact ((uses_event first middle trace quiet part).1 _ member).elim
  · rcases List.mem_append.mp member with early | late
    · exact ((uses_event first _ before quiet ran).1 _ early).elim
    · exact ⟨value, before, after, rfl, ran, behind, late⟩

theorem routed_by_own (rawUsername : Str) (own selection : Selection) (http : protocol = .http ∨ protocol = .https)
    (presented : httpProxyUsername platform request = .ok (some rawUsername))
    (parsed : parseUsername rawUsername = .ok (base, own))
    (route : History) (run : Runs (selectionFor platform protocol request peer) route (.ok selection)) :
    RoutedBy peer own route selection := by
  rw [selection_for_named platform request rawUsername protocol peer base own http presented parsed] at run
  rw [RoutedBy]
  by_cases tokens : isEmpty own = false
  · rw [if_pos tokens] at run ⊢
    obtain ⟨rfl, same⟩ := reaches_done _ _ _ run
    cases same
    exact ⟨rfl, rfl⟩
  · rw [if_neg tokens] at run ⊢
    exact stored_selection_runs peer route own selection run

theorem serve_one_name (detected : detectProtocol request = .ok protocol) (http : protocol = .http ∨ protocol = .https)
    (reached : Reaches (serve platform server peer request) trace rest) (member : asked base password reply ∈ trace) :
    ∃ rawUsername own route live draws selection chain later,
      PresentsLogin platform request rawUsername password ∧ httpProxyUsername platform request = .ok (some rawUsername) ∧
      parseUsername rawUsername = .ok (base, own) ∧ trace = route ++ loaded live draws :: later ∧
        RoutedBy peer own route selection ∧
      resolveProxyChain server live draws selection = .ok chain ∧
      Reaches (dispatch platform server peer protocol request chain) later rest := by
  rw [serve, detected, ofExcept_ok, bind_eq, done_bind] at reached
  obtain ⟨selection, route, after, rfl, routed, resolves, behind⟩ := asked_behind peer base password reply trace rest _ _
    (selection_for_uses (NoPassword peer) platform protocol request peer rfl) reached member
  obtain ⟨chain, loads, later, rfl, resolved, dispatched, asks⟩ := asked_behind peer base password reply after rest _ _
    (resolve_uses (NoPassword peer) server selection trivial) resolves behind
  obtain ⟨live, draws, rfl, path⟩ := resolve_runs server selection loads chain resolved
  have notSocks5 : protocol ≠ .socks5 := by rcases http with rfl | rfl <;> decide
  have uses := dispatch_presented platform server peer protocol request notSocks5 chain
  obtain ⟨rawUsername, own, login, parsed⟩ := (uses_event _ rest later uses dispatched).1 _ asks
  have presented := login_username platform request rawUsername password login
  have own' := routed_by_own platform peer protocol request base rawUsername own selection http presented parsed route routed
  exact ⟨rawUsername, own, route, live, draws, selection, chain, later, login, presented, parsed, rfl, own', path, dispatched⟩

theorem admitted_one_name (rawUsername : Str) (http : protocol = .http ∨ protocol = .https)
    (auth : server.config.auth = some true)
    (admitted : AdmittedAs platform server.config request peer rawUsername trace) :
    httpProxyUsername platform request = .ok (some rawUsername) ∧ ∃ base selection password account,
      PresentsLogin platform request rawUsername password ∧ parseUsername rawUsername = .ok (base, selection) ∧
        trace = [asked base password (.ok (some account))] ∧
          (isEmpty selection = false → selectionFor platform protocol request peer = .done selection) := by
  obtain ⟨⟨password, line, text, header, decoded, fields⟩, id, run⟩ := admitted
  have presented := login_username platform request rawUsername password ⟨line, text, header, decoded, fields⟩
  refine ⟨presented, ?_⟩
  obtain ⟨account, recognised, _, _⟩ := authenticate_user_runs peer trace platform server.config request id auth run
  cases recognised with
  | address _ bare => cases header.symm.trans bare
  | password _ other words username secret base selection found known split parsed =>
      cases header.symm.trans found
      cases decoded.symm.trans known
      cases fields.symm.trans split
      refine ⟨base, selection, password, account, ⟨line, text, header, decoded, fields⟩, parsed, rfl, fun tokens => ?_⟩
      rw [selection_for_named platform request rawUsername protocol peer base selection http presented parsed, if_pos tokens]

theorem asked_admitted (id : Option Int)
    (run : Runs (authenticateUser platform server.config request peer) trace (.ok id))
    (member : asked base password reply ∈ trace) :
    ∃ rawUsername, AdmittedAs platform server.config request peer rawUsername trace := by
  have presented := (uses_event _ _ trace (authenticate_user_presented platform server peer request) run).1 _ member
  obtain ⟨rawUsername, _, login, _⟩ := presented
  exact ⟨rawUsername, ⟨password, login⟩, id, run⟩

end Connections

theorem one_name_presented (platform : Platform) (server : ProxyServer) (peer : IpAddr) (protocol : Protocol) (request : Bytes)
    (detected : detectProtocol request = .ok protocol) (http : protocol = .http ∨ protocol = .https)
    (auth : server.config.auth = some true) : OneName platform server peer protocol request where
  admitted := fun trace rawUsername login =>
    admitted_one_name platform server peer protocol request trace rawUsername http auth login
  named := fun trace id base password reply run member =>
    asked_admitted platform server peer request base password reply trace id run member
  connection := fun trace rest base password reply reached member =>
    serve_one_name platform server peer protocol request base password reply trace rest detected http reached member

def germanRequest : Bytes := basicRequest "me-country-de" "pw"

theorem german_request_one_name :
    AdmittedAs standard openServer.config germanRequest visitor "me-country-de" [asked "me" "pw" (.ok (some guest))] ∧
      OneName standard openServer visitor .https germanRequest := by
  have login : PresentsLogin standard germanRequest "me-country-de" "pw" :=
    ⟨"proxy-authorization: BASIC ".toList ++ encodeAuth standard "me-country-de" "pw",
      "me-country-de:pw", by decide, by decide, by decide⟩
  have run : Runs (authenticateUser standard openServer.config germanRequest visitor)
    [asked "me" "pw" (.ok (some guest))] (.ok (some 7)) :=
    .step _ _ _ _ _ (.here _)
  exact ⟨⟨⟨"pw", login⟩, some 7, run⟩,
    one_name_presented standard openServer visitor .https germanRequest (by decide) (.inr rfl) rfl⟩

end Purroute
