import Purroute.Arrivals

set_option autoImplicit false

namespace Purroute

open Interaction Interaction.Program

def bearer (login : Credentials) : ProxyConfig :=
  ⟨none, .socks5, [], none, login.map Prod.fst, login.map Prod.snd, ⟨none, none, none, none, none⟩, 1, none⟩

def announce : Stop → Router Unit
  | .socks5 login host port => socks5Handshake chainTexts (bearer login) host port
  | .socks4 host port => socks4Handshake "SOCKS4 connect failed" host port
  | .tunnel host port login => (httpHandshake "HTTP tunnel failed" (.connectHttp host port login)).bind fun _ => .done ()
  | .target text login => (httpHandshake "HTTPS tunnel failed" (.connectTarget text login)).bind fun _ => .done ()
  | .passed request => do
      send (.raw request)
      let response ← receiveExact 8
      if byteAt response 1 = 0x5A then pure () else throw "SOCKS4 connection failed"

def announceAll : List Stop → Router Unit
  | [] => .done ()
  | stop :: rest => (announce stop).bind fun _ => announceAll rest

def trip (address : Str) (stops : List Stop) : Router Unit := (connect address).bind fun _ => announceAll stops

def forward : Option Message → Router Unit
  | none => .done ()
  | some message => send message

def travel (way : Way) : Router Unit := (trip way.address way.stops).bind fun _ => forward way.message

theorem bearer_credentials (login : Credentials) : credentials (bearer login) = login := by
  cases login <;> rfl

theorem bearer_offers (proxy : ProxyConfig) : offeredMethods (bearer (credentials proxy)) = offeredMethods proxy := by
  obtain ⟨label, type, host, port, username, password, tags, cost, prefixes⟩ := proxy
  cases username <;> cases password <;> rfl

section Failures

variable {T A B : Type} (handler : T → (op : Op) → op.Reply × T)

theorem fulfil_bind_congr (first other : Router A) (next after : A → Router B)
    (head : ∀ state, fulfil handler first state = fulfil handler other state)
    (tail : ∀ value state, fulfil handler (next value) state = fulfil handler (after value) state) (state : T) :
    fulfil handler (first.bind next) state = fulfil handler (other.bind after) state := by
  rw [fulfil_bind, fulfil_bind, head]
  simp only [tail]

theorem fulfil_within {R : Type} (expired : ProxyError) (reply : Except Fault R) (next : R → Router B) (state : T) :
    fulfil handler ((ioWithin expired reply).bind next) state = fulfil handler ((io reply).bind next) state := by
  rcases reply with ⟨_ | _ | _⟩ | value <;> rfl

theorem fulfil_ask_congr (op : Op) (next after : op.Reply → Router A)
    (same : ∀ reply state, fulfil handler (next reply) state = fulfil handler (after reply) state) (state : T) :
    fulfil handler (.ask op next : Router A) state = fulfil handler (.ask op after : Router A) state := same _ _

theorem check_verdict_texts (texts other : Socks5Texts) (verdict : Bytes) (state : T) :
    fulfil handler (checkVerdict texts verdict) state = fulfil handler (checkVerdict other verdict) state := by
  simp only [checkVerdict]
  split <;> rfl

theorem skip_address_reply (texts other : Socks5Texts) (response : Bytes) (state : T) :
    fulfil handler (socks5Reply texts response) state = fulfil handler (socks5Reply other response) state := by
  simp only [socks5Reply]
  split <;> rfl

theorem socks5_auth_texts (texts other : Socks5Texts) (proxy : ProxyConfig) (choice : UInt8) (state : T) :
    fulfil handler (socks5Auth texts proxy choice) state =
      fulfil handler (socks5Auth other (bearer (credentials proxy)) choice) state := by
  simp only [socks5Auth, bearer_credentials]
  split
  · cases credentials proxy with
    | none => rfl
    | some login =>
        refine fulfil_bind_congr handler _ _ _ _ (fun _ => rfl) (fun _ state => ?_) state
        exact fulfil_bind_congr handler _ _ _ _ (fun _ => rfl) (fun verdict =>
          check_verdict_texts handler texts other verdict) state
  · split <;> rfl

theorem handshake_texts (texts other : Socks5Texts) (proxy : ProxyConfig) (host : Str) (port : UInt16) (state : T) :
    fulfil handler (socks5Handshake texts proxy host port) state =
      fulfil handler (socks5Handshake other (bearer (credentials proxy)) host port) state := by
  simp only [socks5Handshake, bearer_offers]
  refine fulfil_bind_congr handler _ _ _ _ (fun _ => rfl) (fun _ state => ?_) state
  refine fulfil_bind_congr handler _ _ _ _ (fun _ => rfl) (fun choice state => ?_) state
  refine fulfil_bind_congr handler _ _ _ _ (socks5_auth_texts handler texts other proxy _) (fun _ state => ?_) state
  refine fulfil_bind_congr handler _ _ _ _ (fun _ => rfl) (fun _ state => ?_) state
  refine fulfil_bind_congr handler _ _ _ _ (fun state => ?_) (fun response =>
    skip_address_reply handler texts other response) state
  refine fulfil_ask_congr handler _ _ _ (fun reply state => ?_) state
  exact (fulfil_within handler _ _ _ state).trans (fulfil_within handler _ _ _ state).symm

theorem socks4_handshake_texts (refused other : String) (host : Str) (port : UInt16) (state : T) :
    fulfil handler (socks4Handshake refused host port) state = fulfil handler (socks4Handshake other host port) state := by
  refine fulfil_bind_congr handler _ _ _ _ (fun _ => rfl) (fun _ state => ?_) state
  refine fulfil_bind_congr handler _ _ _ _ (fun _ => rfl) (fun response state => ?_) state
  split <;> rfl

theorem stop_announced (proxy : ProxyConfig) (host : Str) (port : UInt16) (state : T) :
    fulfil handler (connectThroughProxy proxy host port) state = fulfil handler (announce (stopAt proxy host port)) state := by
  simp only [connectThroughProxy, stopAt]
  cases proxy.proxyType with
  | http => rfl
  | https => rfl
  | socks4 => rfl
  | socks5 => exact handshake_texts handler chainTexts chainTexts proxy host port state

theorem chain_announced (chain : List ProxyConfig) (host : Str) (port : UInt16) (state : T) :
    fulfilled handler (connectHops chain host port) state =
      (hopStops chain host port).bind fun stops => fulfilled handler (announceAll stops) state := by
  induction chain generalizing state with
  | nil => rfl
  | cons proxy rest ih =>
      cases rest with
      | nil =>
          change fulfilled handler (connectThroughProxy proxy host port) state =
            fulfilled handler ((announce _).bind fun _ => .done ()) state
          rw [bind_unit, fulfilled, fulfilled, stop_announced]
      | cons next rest =>
          simp only [connectHops, hopStops, bind_eq]
          cases parseAddress (getUpstreamAddr next) with
          | error failure => rfl
          | ok hop =>
              rw [ofExcept_ok, done_bind, fulfilled_then, fulfilled, stop_announced]
              simp only [Except.toOption, Option.bind_some]
              cases found : hopStops (next :: rest) host port with
              | none =>
                  simp only [found, Option.bind_none] at ih
                  rw [funext ih, Option.bind_fun_none]
                  rfl
              | some stops =>
                  simp only [found, Option.bind_some] at ih
                  rw [funext ih, Option.map_some, Option.bind_some, announceAll, fulfilled_then]
                  rfl

end Failures

section Travelling

variable (platform : Platform) (setting : Setting) (world : World)

theorem after_silent (scene : Scene) (op : Op) (left : List Bytes) (unheard : op.heard = none) (other : op.isLoad = false)
    (empty : op.payload platform = []) : scene.after platform op left = ⟨left, scene.talk, scene.loaded, scene.payload⟩ := by
  rw [Scene.after, unheard, other, empty, Option.toList_none, List.append_nil, List.append_nil, Bool.or_false]

theorem ask_silent {A : Type} (op : Op) (next : op.Reply → Router A) (scene : Scene) (unheard : op.heard = none)
    (other : op.isLoad = false) (empty : op.payload platform = []) (outside : NotInput op) :
    fulfil (respond platform setting world) (.ask op next : Router A) scene =
      fulfil (respond platform setting world) (next (world.answer setting scene.talk scene.loaded op)) scene := by
  change fulfil _ (next _) (scene.after platform op _) = _
  rw [after_silent platform scene op _ unheard other empty]
  cases op with
  | read limit => exact outside.elim
  | readExact count => exact outside.elim
  | _ => rfl

theorem client_write_fulfil (bytes : Bytes) (scene : Scene) :
    fulfil (respond platform setting world) (clientWrite bytes) scene = some ((), scene) :=
  ask_silent platform setting world (.reply bytes) io scene rfl rfl rfl trivial

theorem client_write_fulfilled (bytes : Bytes) : fulfilled (respond platform setting world) (clientWrite bytes) = some := by
  funext scene
  rw [fulfilled, client_write_fulfil]
  rfl

theorem relayed_fulfilled (id : Option Int) (costPerByte : Rat) :
    fulfilled (respond platform setting world) (relayed id costPerByte) = some := by
  funext scene
  change some (((scene.after platform (.record true) scene.pieces).after platform
    (.relay id costPerByte) _).after platform .decrement _) = _
  rw [after_silent platform scene _ _ rfl rfl rfl, after_silent platform _ _ _ rfl rfl rfl,
    after_silent platform _ _ _ rfl rfl rfl]
  rfl

theorem travel_fulfilled (way : Way) (scene : Scene) : fulfilled (respond platform setting world) (travel way) scene =
    ((fulfilled (respond platform setting world) (connect way.address) scene).bind
      (fulfilled (respond platform setting world) (announceAll way.stops))).bind
        (fulfilled (respond platform setting world) (forward way.message)) := by
  rw [travel, fulfilled_then, trip, fulfilled_then]

theorem announce_one (stop : Stop) : fulfilled (respond platform setting world) (announceAll [stop]) =
    fulfilled (respond platform setting world) (announce stop) := by
  funext scene
  change fulfilled _ ((announce stop).bind fun _ => .done ()) scene = _
  rw [bind_unit]

theorem forward_nothing : fulfilled (respond platform setting world) (forward none) = some := rfl

theorem written_behind {A : Type} (program : Router A) (answer : A → Bytes) (scene : Scene) :
    fulfilled (respond platform setting world) (program.bind fun value => clientWrite (answer value)) scene =
      fulfilled (respond platform setting world) program scene := by
  rw [fulfilled_any _ _ _ some scene fun value => client_write_fulfilled platform setting world (answer value),
    Option.bind_fun_some]

theorem tunnel_announced {A : Type} (program : Router A) (answer : A → Bytes) (scene : Scene) :
    fulfilled (respond platform setting world) (program.bind fun value => clientWrite (answer value)) scene =
      fulfilled (respond platform setting world) (program.bind fun _ => .done ()) scene :=
  (written_behind platform setting world program answer scene).trans (fulfilled_map _ program (fun _ => ()) scene).symm

theorem socks4_upstream_fulfilled (request : Bytes) (proxy : ProxyConfig) (host : Str) (port : UInt16) (scene : Scene) :
    fulfilled (respond platform setting world) (socks4Upstream request proxy host port) scene =
      fulfilled (respond platform setting world)
        (announce (if proxy.proxyType = .socks4 then .passed request else stopAt proxy host port)) scene := by
  rw [socks4Upstream, stopAt]
  cases proxy.proxyType with
  | http =>
      rw [if_neg (by decide)]
      exact tunnel_announced platform setting world _ (fun _ => socks4Granted) scene
  | https =>
      rw [if_neg (by decide)]
      exact tunnel_announced platform setting world _ (fun _ => socks4Granted) scene
  | socks4 =>
      rw [if_pos rfl]
      refine congrArg (Option.map Prod.snd) (fulfil_bind_congr _ _ _ _ _ (fun _ => rfl) (fun _ scene => ?_) scene)
      refine fulfil_bind_congr _ _ _ _ _ (fun _ => rfl) (fun response scene => ?_) scene
      rw [bind_eq, fulfil_bind, client_write_fulfil]
      rfl
  | socks5 =>
      rw [if_neg (by decide)]
      refine (written_behind platform setting world _ (fun _ => socks4Granted) scene).trans ?_
      rw [fulfilled, handshake_texts _ handlerTexts chainTexts]
      rfl

theorem https_upstream_fulfilled (target : Str) (proxy : ProxyConfig) (scene : Scene) :
    fulfilled (respond platform setting world) (httpsUpstream target proxy) scene =
      fulfilled (respond platform setting world) (announce (if proxy.proxyType = .http ∨ proxy.proxyType = .https then
        .target target (credentials proxy) else stopAt proxy (hostAndPort target 443).1 (hostAndPort target 443).2)) scene := by
  rw [httpsUpstream, stopAt]
  cases proxy.proxyType with
  | http =>
      rw [if_pos (Or.inl rfl)]
      exact tunnel_announced platform setting world _ id scene
  | https =>
      rw [if_pos (Or.inr rfl)]
      exact tunnel_announced platform setting world _ id scene
  | socks4 =>
      rw [if_neg (by decide)]
      refine (written_behind platform setting world _ (fun _ => tunnelGranted) scene).trans ?_
      rw [fulfilled, socks4_handshake_texts _ _ "SOCKS4 connect failed"]
      rfl
  | socks5 =>
      rw [if_neg (by decide)]
      refine (written_behind platform setting world _ (fun _ => tunnelGranted) scene).trans ?_
      rw [fulfilled, handshake_texts _ handlerTexts chainTexts]
      rfl

theorem upstream_travels (way : Way) (upstream tail : Router Unit) (scene : Scene)
    (ends : fulfilled (respond platform setting world) tail = some)
    (same : ∀ scene, fulfilled (respond platform setting world) upstream scene =
      (fulfilled (respond platform setting world) (announceAll way.stops) scene).bind
        (fulfilled (respond platform setting world) (forward way.message))) :
    fulfilled (respond platform setting world) ((connect way.address).bind fun _ => upstream.bind fun _ => tail) scene =
      fulfilled (respond platform setting world) (travel way) scene := by
  rw [travel_fulfilled, fulfilled_then, Option.bind_assoc]
  congr 1
  funext behind
  rw [fulfilled_then, ends, Option.bind_fun_some, same]

theorem socks4_handle_travels (request : Bytes) (proxy : ProxyConfig) (tail : Router Unit) (scene : Scene)
    (ends : fulfilled (respond platform setting world) tail = some) :
    fulfilled (respond platform setting world) (socks4Handle (getUpstreamAddr proxy) request proxy tail) scene =
      (socks4Way request proxy).bind fun way => fulfilled (respond platform setting world) (travel way) scene := by
  rw [socks4Handle, socks4Way]
  cases socks4Request request with
  | error failure => rfl
  | ok pair =>
      refine upstream_travels platform setting world ⟨getUpstreamAddr proxy, [_], none⟩ _ tail scene ends fun behind => ?_
      rw [announce_one, forward_nothing, Option.bind_fun_some]
      exact socks4_upstream_fulfilled platform setting world request proxy pair.1 pair.2 behind

theorem https_handle_travels (request : Bytes) (proxy : ProxyConfig) (tail : Router Unit) (scene : Scene)
    (ends : fulfilled (respond platform setting world) tail = some) :
    fulfilled (respond platform setting world) (httpsHandle (getUpstreamAddr proxy) request proxy tail) scene =
      (httpsWay request proxy).bind fun way => fulfilled (respond platform setting world) (travel way) scene := by
  rw [httpsHandle, httpsWay]
  cases (lines (fromUtf8Lossy request)).head? with
  | none => rfl
  | some firstLine =>
      dsimp only
      rw [Option.bind_some]
      cases (splitWhitespace firstLine)[1]? with
      | none => exact (fulfilled_then _ _ _ scene).trans (Option.bind_fun_none _)
      | some target =>
          refine upstream_travels platform setting world ⟨getUpstreamAddr proxy, [_], none⟩ _ tail scene ends fun behind => ?_
          rw [announce_one, forward_nothing, Option.bind_fun_some]
          exact https_upstream_fulfilled platform setting world target proxy behind

theorem forward_http_fulfilled (firstLine : Str) (request : Bytes) :
    fulfilled (respond platform setting world) (forwardHttp firstLine request) =
      fulfilled (respond platform setting world)
        (forward (if contains firstLine "CONNECT" then none else some (.raw request))) := by
  rw [forwardHttp]
  split
  · rw [client_write_fulfilled]
    rfl
  · rfl

theorem host_travels (target : Except Failure (Str × UInt16)) (proxy : ProxyConfig)
    (handshake : Str × UInt16 → Router Unit) (firstLine : Str) (request : Bytes) (tail : Router Unit) (scene : Scene)
    (ends : fulfilled (respond platform setting world) tail = some)
    (same : ∀ pair behind, fulfilled (respond platform setting world) (handshake pair) behind =
      fulfilled (respond platform setting world) (announce (stopAt proxy pair.1 pair.2)) behind) :
    fulfilled (respond platform setting world) ((connect (getUpstreamAddr proxy)).bind fun _ =>
      ((ofExcept target).bind fun pair => (handshake pair).bind fun _ => forwardHttp firstLine request).bind fun _ => tail)
      scene =
      (target.toOption.map fun pair => (⟨getUpstreamAddr proxy, [stopAt proxy pair.1 pair.2],
        if contains firstLine "CONNECT" then none else some (.raw request)⟩ : Way)).bind fun way =>
          fulfilled (respond platform setting world) (travel way) scene := by
  cases target with
  | error failure => exact (fulfilled_then _ _ _ scene).trans (Option.bind_fun_none _)
  | ok pair =>
      refine upstream_travels platform setting world ⟨getUpstreamAddr proxy, [_], _⟩ _ tail scene ends fun behind => ?_
      refine (fulfilled_then _ _ _ behind).trans ?_
      rw [announce_one, same, forward_http_fulfilled]

theorem http_handle_travels (request : Bytes) (proxy : ProxyConfig) (tail : Router Unit) (scene : Scene)
    (ends : fulfilled (respond platform setting world) tail = some) :
    fulfilled (respond platform setting world) (httpHandle platform (getUpstreamAddr proxy) request proxy tail) scene =
      (httpWay platform request proxy).bind fun way => fulfilled (respond platform setting world) (travel way) scene := by
  rw [httpHandle, httpWay]
  cases (lines (fromUtf8Lossy request)).head? with
  | none => rfl
  | some firstLine =>
      dsimp only
      rw [Option.bind_some, httpUpstream]
      cases type : proxy.proxyType with
      | http =>
          rw [if_pos (Or.inl rfl)]
          exact upstream_travels platform setting world ⟨getUpstreamAddr proxy, [], some _⟩ _ tail scene ends fun behind => rfl
      | https =>
          rw [if_pos (Or.inr rfl)]
          exact upstream_travels platform setting world ⟨getUpstreamAddr proxy, [], some _⟩ _ tail scene ends fun behind => rfl
      | socks4 =>
          rw [if_neg (by decide)]
          refine host_travels platform setting world (hostHeader platform request) proxy
            (fun pair => socks4Handshake "SOCKS4 connection failed" pair.1 pair.2) firstLine request tail scene ends
            fun pair behind => ?_
          have stop : stopAt proxy pair.1 pair.2 = .socks4 pair.1 pair.2 := by rw [stopAt, type]
          rw [stop, fulfilled, socks4_handshake_texts _ _ "SOCKS4 connect failed"]
          rfl
      | socks5 =>
          rw [if_neg (by decide)]
          refine host_travels platform setting world (hostHeader platform request) proxy
            (fun pair => socks5Handshake handlerTexts proxy pair.1 pair.2) firstLine request tail scene ends
            fun pair behind => ?_
          have stop : stopAt proxy pair.1 pair.2 = .socks5 (credentials proxy) pair.1 pair.2 := by rw [stopAt, type]
          rw [stop, fulfilled, handshake_texts _ handlerTexts chainTexts]
          rfl

theorem chain_travels (chain : List ProxyConfig) (target : Except Failure (Str × UInt16)) (message : Option Message)
    (answer relay : Router Unit) (scene : Scene) (ends : fulfilled (respond platform setting world) relay = some)
    (answers : ∀ scene, fulfilled (respond platform setting world) answer scene =
      fulfilled (respond platform setting world) (forward message) scene) :
    fulfilled (respond platform setting world) ((ofExcept target).bind fun pair =>
      (connectChain chain pair.1 pair.2).bind fun _ =>
        answer.bind fun _ => relay) scene =
      (chainWay chain target message).bind fun way => fulfilled (respond platform setting world) (travel way) scene := by
  cases chain with
  | nil =>
      cases target <;> rfl
  | cons first rest =>
      rw [chainWay]
      cases target with
      | error failure => rfl
      | ok pair =>
          rw [ofExcept_ok, done_bind, fulfilled_then, connectChain, bind_eq, fulfilled_then, funext (chain_announced _ _ _ _)]
          have tail : fulfilled (respond platform setting world) (answer.bind fun _ => relay) =
              fulfilled (respond platform setting world) (forward message) := by
            funext behind
            rw [fulfilled_then, ends, Option.bind_fun_some, answers]
          rw [tail]
          simp only [Except.toOption, Option.bind_some]
          cases hopStops (first :: rest) pair.1 pair.2 with
          | none =>
              simp only [Option.bind_none, Option.map_none, Option.bind_fun_none]
          | some stops =>
              rw [Option.map_some, Option.bind_some, travel_fulfilled]
              rfl

end Travelling

def World.opens (world : World) : Option (Str × Str) → Bool
  | none => true
  | some pair => welcome (world.accounts pair.1 pair.2)

theorem has_allowance_iff (account : Account) : hasAllowance account = true ↔ HasAllowance account := by
  rw [hasAllowance, HasAllowance]
  cases account.bandwidthLimit with
  | none => exact ⟨fun _ => nofun, fun _ => rfl⟩
  | some left => exact decide_eq_true_iff.trans ⟨fun more other same => Option.some.inj same ▸ more, fun all => all left rfl⟩

section Entering

variable (platform : Platform) (setting : Setting) (world : World)

theorem lookup_fulfil {A C : Type} (reply : Except Fault (Option Account)) (result : Account → A) (part : A → C) (value : C)
    (constant : ∀ account, part (result account) = value) (scene : Scene) :
    (fulfil (respond platform setting world) ((admitted reply).bind fun account =>
      (ofExcept (checkBandwidth account.bandwidthLimit)).bind fun _ => .done (result account)) scene).map
        (fun reached => (part reached.1, reached.2)) = if welcome reply then some (value, scene) else none := by
  rcases lookup_cases reply result with ⟨account, rfl, allowance, looked⟩ | ⟨refused, failure, looked⟩
  · rw [looked, welcome, if_pos ((has_allowance_iff account).mpr allowance), ← constant account]
    rfl
  · rw [looked, if_neg]
    · rfl
    · intro known
      rcases reply with ⟨_ | _ | _⟩ | ⟨_ | account⟩
      · cases known
      · cases known
      · cases known
      · cases known
      · exact refused account rfl ((has_allowance_iff account).mp known)

theorem authenticate_fulfil (rawUsername password : Str) (scene : Scene) :
    (fulfil (respond platform setting world) (authenticate rawUsername password) scene).map
    (fun reached => (reached.1.1, reached.2)) =
      (parseUsername rawUsername).toOption.bind fun name =>
        if world.opens (some (name.1, password)) then some (name.2, scene) else none := by
  rw [authenticate]
  cases parseUsername rawUsername with
  | error reason => rfl
  | ok name =>
      refine (congrArg _ (ask_silent platform setting world (.authenticate name.1 password) _ scene rfl rfl rfl trivial)).trans ?_
      exact lookup_fulfil platform setting world (world.accounts name.1 password) (fun account =>
        (name.2, account.id)) Prod.fst name.2
        (fun _ => rfl) scene

theorem authenticate_by_ip_fulfil (scene : Scene) :
    fulfilled (respond platform setting world) (authenticateByIp setting.peer) scene =
    if welcome setting.known then some scene else none := by
  have looked := congrArg (Option.map Prod.snd)
    (lookup_fulfil platform setting world setting.known Account.id (fun _ => ()) () (fun _ => rfl) scene)
  rw [Option.map_map] at looked
  refine (congrArg _ (ask_silent platform setting world (.authenticateByIp setting.peer) _ scene rfl rfl rfl trivial)).trans ?_
  refine looked.trans ?_
  split <;> rfl

theorem authenticate_user_fulfilled (request : Bytes) (scene : Scene) :
    fulfilled (respond platform setting world) (authenticateUser platform setting.server.config request setting.peer) scene =
      (loginIn platform setting request).bind fun login => if world.opens login then some scene else none := by
  rw [authenticateUser, loginIn]
  by_cases auth : setting.server.config.auth = some true
  · rw [if_pos auth, if_pos auth]
    cases authHeader platform request with
    | none =>
        refine (fulfilled_map _ _ _ scene).trans ((authenticate_by_ip_fulfil platform setting world scene).trans ?_)
        dsimp only
        split <;> rfl
    | some line =>
        dsimp only
        cases decodeHeader platform line with
        | error failure => rfl
        | ok text =>
            simp only [bind_eq, ofExcept_ok, done_bind, Except.toOption, Option.bind_some]
            cases text.bind splitCredentials with
            | none => rfl
            | some pair =>
                have found := congrArg (Option.map Prod.snd) (authenticate_fulfil platform setting world pair.1 pair.2 scene)
                rw [Option.map_map] at found
                refine (fulfilled_map _ _ _ scene).trans (found.trans ?_)
                rw [Option.bind_some]
                cases parseUsername pair.1 with
                | error reason => rfl
                | ok name =>
                    change Option.map Prod.snd (if _ then _ else _) = if _ then _ else _
                    split <;> rfl
  · rw [if_neg auth, if_neg auth]
    rfl

theorem stored_selection_fulfil (otherwise : Selection) (scene : Scene) :
    fulfil (respond platform setting world) (storedSelection setting.peer otherwise) scene =
      (storedDefault otherwise setting.known).toOption.map fun selection => (selection, scene) := by
  rw [stored_selection_eq]
  refine (ask_silent platform setting world (.authenticateByIp setting.peer) _ scene rfl rfl rfl trivial).trans ?_
  exact fulfil_ofExcept _ _ scene

theorem selection_for_fulfil (protocol : Protocol) (request : Bytes) (scene : Scene) :
    fulfil (respond platform setting world) (selectionFor platform protocol request setting.peer) scene =
      ((requestUsername platform protocol request).toOption.bind (selectionOf setting)).map fun selection =>
        (selection, scene) := by
  rw [selectionFor]
  cases requestUsername platform protocol request with
  | error failure => rfl
  | ok username =>
      rw [ofExcept_ok, bind_eq, done_bind]
      change _ = (selectionOf setting username).map _
      rw [selectionOf]
      by_cases named : isEmpty (tokens username) = false
      · rw [if_pos named, if_pos named]
        rfl
      · rw [if_neg named, if_neg named]
        exact stored_selection_fulfil platform setting world _ scene

theorem defaulted_fulfil (chosen : Selection) (scene : Scene) :
    fulfil (respond platform setting world) (defaulted setting.peer chosen) scene =
      (if isEmpty chosen then (storedDefault chosen setting.known).toOption else some chosen).map fun selection =>
        (selection, scene) := by
  rw [defaulted]
  split
  · exact stored_selection_fulfil platform setting world _ scene
  · rfl

def Scene.resolved (scene : Scene) : Scene := { scene with loaded := true }
def Scene.left (scene : Scene) (pieces : List Bytes) : Scene := { scene with pieces := pieces }

def Setting.snapshot (setting : Setting) (loaded : Bool) : List ProxyConfig × Draws :=
  if loaded then setting.late else setting.early

theorem resolve_fulfil (selection : Selection) (scene : Scene) :
    fulfil (respond platform setting world) (resolve setting.server selection) scene =
      (resolveProxyChain setting.server (setting.snapshot scene.loaded).1
        (setting.snapshot scene.loaded).2 selection).toOption.map
        fun chain => (chain, scene.resolved) := by
  have after : scene.after platform .load scene.pieces = scene.resolved := by
    simp only [Scene.after, Scene.resolved, Op.heard, Op.isLoad, Op.payload, Option.toList_none, List.append_nil, Bool.or_true]
  change fulfil _ (ofExcept _) (scene.after platform .load scene.pieces) = _
  rw [after, fulfil_ofExcept]
  rfl

theorem client_read_fulfil (limit : Nat) (scene : Scene) : fulfil (respond platform setting world) (clientRead limit) scene =
    some ((takeRead limit scene.pieces).1, scene.left (takeRead limit scene.pieces).2) := by
  change some (_, scene.after platform (.read limit) _) = _
  rw [after_silent platform scene _ _ rfl rfl rfl]
  rfl

theorem client_read_exact_fulfil (count : Nat) (scene : Scene) :
    fulfil (respond platform setting world) (clientReadExact count) scene =
    (takeExact scene.pieces count).map fun taken => (taken.1, scene.left taken.2) := by
  rw [clientReadExact, fulfil, respond]
  dsimp only
  rw [after_silent platform scene _ _ rfl rfl rfl]
  simp only [clientSide]
  split
  · rename_i bytes left taken
    exact (congrArg (Option.map fun taken => (taken.1, scene.left taken.2)) taken).symm
  · rename_i missing
    exact (congrArg (Option.map fun taken => (taken.1, scene.left taken.2)) missing).symm

theorem socks5_address_fulfil (atyp : UInt8) (scene : Scene) :
    fulfil (respond platform setting world) (socks5Address atyp) scene =
    (addressIn atyp scene.pieces).map fun target => (target.1, scene.left target.2) := by
  rw [socks5Address, addressIn]
  split
  · rw [bind_eq, fulfil_bind, client_read_exact_fulfil, Option.bind_map, Option.map_map, Option.map_eq_bind]
    rfl
  split
  · rw [bind_eq, fulfil_bind, client_read_exact_fulfil, Option.bind_map]
    cases takeExact scene.pieces 1 with
    | none => rfl
    | some length =>
        change fulfil _ ((clientReadExact _).bind _) (scene.left length.2) = _
        rw [fulfil_bind, client_read_exact_fulfil, Option.bind_map, Option.bind_some, Option.map_map, Option.map_eq_bind]
        rfl
  split
  · rw [bind_eq, fulfil_bind, client_read_exact_fulfil, Option.bind_map, Option.map_map, Option.map_eq_bind]
    rfl
  · rfl

theorem socks5_target_fulfil (scene : Scene) : fulfil (respond platform setting world) socks5Target scene =
    (targetIn scene.pieces).map fun target => (target.1, scene.left target.2) := by
  rw [socks5Target, targetIn, bind_eq, fulfil_bind, client_read_exact_fulfil, Option.bind_map]
  cases takeExact scene.pieces 4 with
  | none => rfl
  | some header =>
      rw [Option.bind_some, Option.bind_some]
      change fulfil _ (if _ then _ else _) (scene.left header.2) = _
      split
      · rfl
      · exact socks5_address_fulfil platform setting world _ _

theorem socks5_login_fulfil (message : Bytes) (scene : Scene) :
    (fulfil (respond platform setting world) (socks5Login message) scene).map (fun reached => (reached.1.1, reached.2)) =
      (socks5Credentials message).toOption.bind fun pair => (parseUsername pair.1).toOption.bind fun name =>
        if world.opens (some (name.1, pair.2)) then some (name.2, scene) else none := by
  rw [socks5Login]
  cases socks5Credentials message with
  | error failure => rfl
  | ok pair => exact authenticate_fulfil platform setting world pair.1 pair.2 scene

theorem socks5_authenticate_fulfil (request : Bytes) (scene : Scene) :
    (fulfil (respond platform setting world)
      ((ofExcept (greetingMethods request)).bind (socks5Authenticate setting.server.config))
      scene).map (fun reached => (reached.1.1, reached.2)) =
      (socks5Opening setting request scene.pieces).bind fun opened =>
        if world.opens opened.1.2 then some (opened.1.1, scene.left opened.2) else none := by
  rw [socks5Opening]
  cases greetingMethods request with
  | error failure => rfl
  | ok methods =>
      rw [ofExcept_ok, done_bind, socks5Authenticate]
      change _ = Option.bind (if _ then _ else _) _
      by_cases auth : setting.server.config.auth = some true
      · rw [if_pos auth, if_pos auth]
        by_cases offered : 0x02 ∈ methods
        · rw [if_pos offered, if_pos offered, bind_eq, fulfil_bind, client_write_fulfil, Option.bind_some, bind_eq, fulfil_bind,
            client_read_fulfil, Option.bind_some, bind_eq, fulfil_bind]
          simp only [bind_eq, fulfil_bind, client_write_fulfil, Option.bind_some]
          have login := socks5_login_fulfil platform setting world (takeRead 513 scene.pieces).1
            (scene.left (takeRead 513 scene.pieces).2)
          rw [Option.map_bind]
          refine Eq.trans ?_ (login.trans ?_)
          · rw [Option.map_eq_bind]
            rfl
          · cases socks5Credentials (takeRead 513 scene.pieces).1 with
            | error failure => rfl
            | ok pair =>
                change Option.bind _ _ = Option.bind (Option.map _ (parseUsername pair.1).toOption) _
                rw [Option.bind_map]
                rfl
        · rw [if_neg offered, if_neg offered, refuseMethods, bind_eq, fulfil_bind, client_write_fulfil]
          rfl
      · rw [if_neg auth, if_neg auth]
        by_cases offered : 0x00 ∈ methods
        · rw [if_pos offered, if_pos offered, bind_eq, fulfil_bind, client_write_fulfil]
          rfl
        · rw [if_neg offered, if_neg offered, refuseMethods, bind_eq, fulfil_bind, client_write_fulfil]
          rfl

theorem single_travels (protocol : Protocol) (request : Bytes) (proxy : ProxyConfig) (id : Option Int) (scene : Scene) :
    fulfilled (respond platform setting world) (match protocol with
      | .http => httpHandle platform (getUpstreamAddr proxy) request proxy (relayed id proxy.costPerByte)
      | .https => httpsHandle (getUpstreamAddr proxy) request proxy (relayed id proxy.costPerByte)
      | _ => socks4Handle (getUpstreamAddr proxy) request proxy (relayed id proxy.costPerByte)) scene =
      (wayOut platform protocol request [proxy]).bind fun way =>
        fulfilled (respond platform setting world) (travel way) scene := by
  have ends := relayed_fulfilled platform setting world id proxy.costPerByte
  cases protocol with
  | http => exact http_handle_travels platform setting world request proxy _ scene ends
  | https => exact https_handle_travels platform setting world request proxy _ scene ends
  | socks4 => exact socks4_handle_travels platform setting world request proxy _ scene ends
  | socks5 => exact socks4_handle_travels platform setting world request proxy _ scene ends

def entering (request : Bytes) (behind : Scene → Option Scene) (scene : Scene) : Option Scene :=
  ((loginIn platform setting request).bind fun login => if world.opens login then some scene else none).bind behind

theorem login_then (request : Bytes) (next : Option Int → Router Unit) (behind : Scene → Option Scene) (scene : Scene)
    (same : ∀ id, fulfilled (respond platform setting world) (next id) = behind) :
    fulfilled (respond platform setting world)
        ((authenticateUser platform setting.server.config request setting.peer).bind next) scene =
      entering platform setting world request behind scene := by
  rw [fulfilled_any _ _ next behind scene same, authenticate_user_fulfilled]
  rfl

theorem dispatch_travels (protocol : Protocol) (request : Bytes) (chain : List ProxyConfig) (scene : Scene)
    (other : protocol ≠ .socks5) :
    fulfilled (respond platform setting world) (dispatch platform setting.server setting.peer protocol request chain) scene =
      entering platform setting world request (fun scene => (wayOut platform protocol request chain).bind fun way =>
        fulfilled (respond platform setting world) (travel way) scene) scene := by
  cases chain with
  | nil =>
      have nowhere : wayOut platform protocol request [] = none := by
        cases protocol <;> rfl
      rw [nowhere]
      exact (Option.bind_fun_none _).symm
  | cons first rest =>
      cases rest with
      | nil =>
          rw [dispatch, if_neg other]
          exact login_then platform setting world request _ _ scene fun id =>
            funext fun scene => single_travels platform setting world protocol request first id scene
      | cons second rest =>
          have answered : ∀ bytes behind, fulfilled (respond platform setting world) (clientWrite bytes) behind =
              fulfilled (respond platform setting world) (forward none) behind := by
            intro bytes behind
            rw [client_write_fulfilled]
            rfl
          cases protocol with
          | socks5 => exact absurd rfl other
          | socks4 =>
              exact login_then platform setting world request _ _ scene fun id => funext fun scene =>
                chain_travels platform setting world
                (first :: second :: rest) _ none _ _ scene (relayed_fulfilled platform setting world id _) (answered _)
          | https =>
              exact login_then platform setting world request _ _ scene fun id => funext fun scene =>
                chain_travels platform setting world
                (first :: second :: rest) _ none _ _ scene (relayed_fulfilled platform setting world id _) (answered _)
          | http =>
              exact login_then platform setting world request _ _ scene fun id => funext fun scene =>
                chain_travels platform setting world
                (first :: second :: rest) _ (some _) _ _ scene (relayed_fulfilled platform setting world id _) fun _ => rfl

def socks5Behind (chosen : Selection) (scene : Scene) : Option Scene :=
  (targetIn scene.pieces).bind fun target =>
    (if isEmpty chosen then (storedDefault chosen setting.known).toOption else some chosen).bind fun selection =>
      (resolveProxyChain setting.server (setting.snapshot scene.loaded).1
        (setting.snapshot scene.loaded).2 selection).toOption.bind
        fun chain => (chainWay chain (.ok target.1) none).bind fun way =>
          fulfilled (respond platform setting world) (travel way) (scene.left target.2).resolved

theorem socks5_tail_travels (login : Selection × Option Int) (scene : Scene) :
    fulfilled (respond platform setting world) (socks5Target.bind fun target =>
      (defaulted setting.peer login.1).bind fun selection =>
      (resolve setting.server selection).bind fun chain => (connectChain chain target.1 target.2).bind fun _ =>
        (clientWrite socks5Granted).bind fun _ => relayed login.2 (firstCost chain)) scene =
      socks5Behind platform setting world login.1 scene := by
  rw [socks5Behind, fulfilled_bind, socks5_target_fulfil, Option.bind_map]
  congr 1
  funext target
  rw [Function.comp_apply, fulfilled_bind, defaulted_fulfil, Option.bind_map]
  congr 1
  funext selection
  rw [Function.comp_apply, fulfilled_bind, resolve_fulfil, Option.bind_map]
  congr 1
  funext chain
  refine chain_travels platform setting world chain (.ok target.1) none _ _ _
    (relayed_fulfilled platform setting world _ _) fun behind => ?_
  rw [client_write_fulfilled]
  rfl

theorem handle_socks5_travels (request : Bytes) (scene : Scene) :
    fulfilled (respond platform setting world) (handleSocks5 setting.server request setting.peer) scene =
      (socks5Opening setting request scene.pieces).bind fun opened => if world.opens opened.1.2 then
        socks5Behind platform setting world opened.1.1 (scene.left opened.2) else none := by
  have split : handleSocks5 setting.server request setting.peer =
      ((ofExcept (greetingMethods request)).bind (socks5Authenticate setting.server.config)).bind fun login =>
        socks5Target.bind fun target => (defaulted setting.peer login.1).bind fun selection =>
          (resolve setting.server selection).bind fun chain => (connectChain chain target.1 target.2).bind fun _ =>
            (clientWrite socks5Granted).bind fun _ => relayed login.2 (firstCost chain) := (bind_assoc _ _ _).symm
  rw [split, fulfilled_along _ _ _ Prod.fst (socks5Behind platform setting world) scene
    (socks5_tail_travels platform setting world),
    socks5_authenticate_fulfil, Option.bind_assoc]
  congr 1
  funext opened
  split <;> rfl

end Entering

section Frames

variable (platform : Platform) (setting : Setting) (world : World)

def Conversing : Op → Prop
  | .reply _ => True
  | .dial _ => True
  | .send _ => True
  | .receive _ => True
  | .receiveExact _ => True
  | _ => False

theorem exchange_conversing (op : Op) (exchange : Exchange op) : Conversing op := by
  cases op <;> trivial

def Scene.beside (outer inner : Scene) : Scene := ⟨outer.pieces, inner.talk, outer.loaded, outer.payload ++ inner.payload⟩

theorem respond_beside (outer inner : Scene) (op : Op) (conversing : Conversing op) :
    respond platform setting world (outer.beside inner) op =
      ((respond platform setting world inner op).1, outer.beside (respond platform setting world inner op).2) := by
  have after : ∀ pieces left, (outer.beside inner).after platform op pieces =
    ⟨pieces, (inner.after platform op left).talk, outer.loaded,
      outer.payload ++ (inner.after platform op left).payload⟩ := by
    intro pieces left
    have other : op.isLoad = false := by cases op <;> first | rfl | exact conversing.elim
    simp only [Scene.after, Scene.beside, other, Bool.or_false, List.append_assoc]
  cases op with
  | reply bytes => exact Prod.ext rfl (after _ inner.pieces)
  | dial address => exact Prod.ext rfl (after _ inner.pieces)
  | send message => exact Prod.ext rfl (after _ inner.pieces)
  | receive limit => exact Prod.ext rfl (after _ inner.pieces)
  | receiveExact count => exact Prod.ext rfl (after _ inner.pieces)
  | _ => exact conversing.elim

theorem fulfilled_beside {A : Type} (program : Router A) (uses : Uses Conversing program) (outer inner : Scene) :
    fulfilled (respond platform setting world) program (outer.beside inner) =
      (fulfilled (respond platform setting world) program inner).map outer.beside := by
  induction program generalizing inner with
  | done value => rfl
  | fail failure => rfl
  | ask op next ih =>
      change fulfilled _ (next (respond platform setting world (outer.beside inner) op).1)
        (respond platform setting world (outer.beside inner) op).2 = _
      rw [respond_beside platform setting world outer inner op uses.1]
      exact ih _ (uses.2 _) _

theorem fulfilled_payload {A : Type} (program : Router A) (uses : Uses (fun op : Op => op.payload platform = []) program)
    (scene behind : Scene) (reached : fulfilled (respond platform setting world) program scene = some behind) :
    behind.payload = scene.payload := by
  induction program generalizing scene with
  | done value =>
      cases reached
      rfl
  | fail failure => cases reached
  | ask op next ih =>
      rw [ih _ (uses.2 _) _ reached]
      change scene.payload ++ op.payload platform = scene.payload
      rw [uses.1, List.append_nil]

theorem announce_conversing (stop : Stop) : Uses Conversing (announce stop) := by
  cases stop with
  | socks5 login host port => exact uses_mono _ _ exchange_conversing (handshake_exchange chainTexts (bearer login) host port)
  | socks4 host port => exact socks4_handshake_uses _ _ _ _ trivial fun _ => trivial
  | tunnel host port login => exact uses_bind _ _ (http_handshake_uses _ _ _ trivial trivial) fun _ => trivial
  | target text login => exact uses_bind _ _ (http_handshake_uses _ _ _ trivial trivial) fun _ => trivial
  | passed request =>
      refine uses_bind _ _ (send_uses _ _ trivial) fun _ => ?_
      refine uses_bind _ _ (receive_exact_uses _ _ trivial) fun response => ?_
      split <;> trivial

theorem announce_all_conversing (stops : List Stop) : Uses Conversing (announceAll stops) := by
  induction stops with
  | nil => trivial
  | cons stop rest ih => exact uses_bind _ _ (announce_conversing stop) fun _ => ih

theorem trip_conversing (address : Str) (stops : List Stop) : Uses Conversing (trip address stops) :=
  uses_bind _ _ ⟨trivial, io_uses _⟩ fun _ => announce_all_conversing stops

theorem announce_payload (stop : Stop) (scene behind : Scene)
    (reached : fulfilled (respond platform setting world) (announce stop) scene = some behind) :
    behind.payload = scene.payload ++ stop.payload := by
  have silent : Uses (fun op : Op => op.payload platform = []) (announce stop) → stop.payload = [] →
      behind.payload = scene.payload ++ stop.payload := by
    intro uses empty
    rw [empty, List.append_nil]
    exact fulfilled_payload platform setting world _ uses scene behind reached
  cases stop with
  | socks5 login host port =>
      exact silent (socks5_handshake_uses _ host port _ chainTexts rfl rfl (fun _ _ _ => rfl) fun _ => rfl) rfl
  | socks4 host port => exact silent (socks4_handshake_uses _ _ _ _ rfl fun _ => rfl) rfl
  | tunnel host port login => exact silent (uses_bind _ _ (http_handshake_uses _ _ _ rfl rfl) fun _ => trivial) rfl
  | target text login => exact silent (uses_bind _ _ (http_handshake_uses _ _ _ rfl rfl) fun _ => trivial) rfl
  | passed request =>
      refine (fulfilled_payload platform setting world _ ?_
        (scene.after platform (.send (.raw request)) scene.pieces) behind reached).trans rfl
      refine uses_bind _ _ (io_uses _ _) fun _ => ?_
      refine uses_bind _ _ (receive_exact_uses _ _ rfl) fun response => ?_
      split <;> trivial

theorem announce_all_payload (stops : List Stop) (scene behind : Scene)
    (reached : fulfilled (respond platform setting world) (announceAll stops) scene = some behind) :
    behind.payload = scene.payload ++ stops.flatMap Stop.payload := by
  induction stops generalizing scene with
  | nil =>
      cases reached
      exact (List.append_nil _).symm
  | cons stop rest ih =>
      rw [announceAll, fulfilled_then, Option.bind_eq_some_iff] at reached
      obtain ⟨between, first, later⟩ := reached
      rw [ih between later, announce_payload platform setting world stop scene between first,
        List.flatMap_cons, List.append_assoc]

theorem trip_payload (address : Str) (stops : List Stop) (behind : Scene)
    (reached : fulfilled (respond platform setting world) (trip address stops) (start []) = some behind) :
    behind.payload = stops.flatMap Stop.payload := by
  rw [trip, fulfilled_then, Option.bind_eq_some_iff] at reached
  obtain ⟨dialled, first, later⟩ := reached
  rw [announce_all_payload platform setting world stops dialled behind later,
    fulfilled_payload platform setting world (connect address) ⟨rfl, io_uses _⟩ (start []) dialled first]
  rfl

def Way.Forwards (way : Way) : Prop := ∀ message, way.message = some message → isPayload message = true

theorem forward_view (message : Option Message) (forwards : ∀ own, message = some own → isPayload own = true) (scene : Scene) :
    (fulfilled (respond platform setting world) (forward message) scene).map view =
      some (scene.talk.filter Op.asks, scene.payload ++ messageBytes platform message ++ scene.pieces.flatten) := by
  cases message with
  | none =>
      rw [messageBytes, List.append_nil]
      rfl
  | some own =>
      have payload := forwards own rfl
      have taken : fulfilled (respond platform setting world) (send own) scene =
        some (scene.after platform (.send own) scene.pieces) := by
        cases own <;> first | rfl | cases payload
      have bytes : Op.payload platform (.send own) = own.bytes platform := by
        cases own <;> first | rfl | cases payload
      have unasked : Op.asks (.send own) = false := by rw [Op.asks, payload, Bool.not_true]
      have said : [Op.send own].filter Op.asks = [] := List.filter_cons_of_neg (ne_true_of_eq_false unasked)
      rw [forward, taken, Option.map_some, view, messageBytes, ← bytes]
      simp only [Scene.after, Op.heard, Option.toList_some, List.filter_append, said, List.append_nil]

theorem travel_view (way : Way) (forwards : way.Forwards) (login : Option (Str × Str)) (scene : Scene) (silent : scene.talk = [])
    (unsent : scene.payload = []) : (fulfilled (respond platform setting world) (travel way) scene).map view =
      (fulfilled (respond platform setting world) (trip way.address way.stops) (start [])).map fun behind =>
        (behind.talk.filter Op.asks, (way.handling platform login scene.pieces.flatten).payload) := by
  have outer : scene = scene.beside (start []) := by
    obtain ⟨pieces, talk, loaded, payload⟩ := scene
    subst silent unsent
    rfl
  rw [travel, fulfilled_then]
  conv_lhs => rw [outer]
  rw [fulfilled_beside platform setting world _ (trip_conversing way.address way.stops)]
  cases reached : fulfilled (respond platform setting world) (trip way.address way.stops) (start []) with
  | none => rfl
  | some behind =>
      rw [Option.map_some, Option.bind_some, forward_view platform setting world way.message forwards, Option.map_some]
      have payload := trip_payload platform setting world way.address way.stops behind reached
      simp only [Scene.beside, unsent, payload, List.nil_append, Way.handling]

theorem chain_way_forwards (chain : List ProxyConfig) (target : Except Failure (Str × UInt16))
    (message : Option Message) (way : Way)
    (forwards : ∀ own, message = some own → isPayload own = true) (found : chainWay chain target message = some way) :
    way.Forwards := by
  cases chain with
  | nil => cases found
  | cons first rest =>
      rw [chainWay, Option.bind_eq_some_iff] at found
      obtain ⟨pair, _, found⟩ := found
      rw [Option.map_eq_some_iff] at found
      obtain ⟨stops, _, rfl⟩ := found
      exact forwards

theorem socks4_way_forwards (request : Bytes) (proxy : ProxyConfig) (way : Way) (found : socks4Way request proxy = some way) :
    way.Forwards := by
  rw [socks4Way, Option.map_eq_some_iff] at found
  obtain ⟨pair, _, rfl⟩ := found
  exact nofun

theorem https_way_forwards (request : Bytes) (proxy : ProxyConfig) (way : Way) (found : httpsWay request proxy = some way) :
    way.Forwards := by
  rw [httpsWay, Option.bind_eq_some_iff] at found
  obtain ⟨firstLine, _, found⟩ := found
  rw [Option.map_eq_some_iff] at found
  obtain ⟨target, _, rfl⟩ := found
  exact nofun

theorem http_way_forwards (request : Bytes) (proxy : ProxyConfig) (way : Way)
    (found : httpWay platform request proxy = some way) :
    way.Forwards := by
  rw [httpWay, Option.bind_eq_some_iff] at found
  obtain ⟨firstLine, _, found⟩ := found
  split at found
  · cases found
    rintro own ⟨⟩
    rfl
  · rw [Option.map_eq_some_iff] at found
    obtain ⟨pair, _, rfl⟩ := found
    dsimp only [Way.Forwards]
    split
    · exact nofun
    · rintro own ⟨⟩
      rfl

theorem way_out_cases (protocol : Protocol) (request : Bytes) (chain : List ProxyConfig) (way : Way)
    (found : wayOut platform protocol request chain = some way) :
    (∃ proxy, httpWay platform request proxy = some way ∨ httpsWay request proxy = some way ∨
      socks4Way request proxy = some way) ∨
    ∃ target message, chainWay chain target message = some way ∧ ∀ own, message = some own → isPayload own = true := by
  have raw : ∀ payload own, some (Message.raw payload) = some own → isPayload own = true := by
    rintro payload own ⟨⟩
    rfl
  cases chain with
  | nil => cases protocol <;> cases found
  | cons first rest =>
      cases rest with
      | nil =>
          left
          refine ⟨first, ?_⟩
          cases protocol with
          | http => exact Or.inl found
          | https => exact Or.inr (Or.inl found)
          | socks4 => exact Or.inr (Or.inr found)
          | socks5 => exact Or.inr (Or.inr found)
      | cons second rest =>
          right
          cases protocol with
          | http => exact ⟨parseHttpTarget request, some (.raw (toOriginForm request)), found, raw _⟩
          | https => exact ⟨parseConnectTarget request, none, found, nofun⟩
          | socks4 => exact ⟨parseSocks4Target request, none, found, nofun⟩
          | socks5 => exact ⟨parseSocks4Target request, none, found, nofun⟩

theorem way_out_forwards (protocol : Protocol) (request : Bytes) (chain : List ProxyConfig) (way : Way)
    (found : wayOut platform protocol request chain = some way) : way.Forwards := by
  rcases way_out_cases platform protocol request chain way found with
    ⟨proxy, http | https | socks4⟩ | ⟨target, message, hops, raw⟩
  · exact http_way_forwards platform request proxy way http
  · exact https_way_forwards request proxy way https
  · exact socks4_way_forwards request proxy way socks4
  · exact chain_way_forwards chain target message way raw hops

def carriedOut (handling : Handling) : Option (List Op × Bytes) :=
  if world.opens handling.login then
    (fulfilled (respond platform setting world) (trip handling.address handling.stops) (start [])).map fun behind =>
      (behind.talk.filter Op.asks, handling.payload)
  else none

theorem travel_carried (way : Way) (forwards : way.Forwards) (login : Option (Str × Str))
    (scene : Scene) (silent : scene.talk = []) (unsent : scene.payload = []) (opens : world.opens login = true) :
    (fulfilled (respond platform setting world) (travel way) scene).map view =
      carriedOut platform setting world (way.handling platform login scene.pieces.flatten) := by
  rw [travel_view platform setting world way forwards login scene silent unsent, carriedOut]
  exact (if_pos opens).symm

theorem other_view (protocol : Protocol) (request : Bytes) (chain : List ProxyConfig) (scene : Scene) (other : protocol ≠ .socks5)
    (silent : scene.talk = []) (unsent : scene.payload = []) :
    (fulfilled (respond platform setting world)
      (dispatch platform setting.server setting.peer protocol request chain) scene).map view =
      ((loginIn platform setting request).bind fun login =>
        (wayOut platform protocol request chain).map fun way => way.handling platform login scene.pieces.flatten).bind
          (carriedOut platform setting world) := by
  rw [dispatch_travels platform setting world protocol request chain scene other, entering]
  cases loginIn platform setting request with
  | none => rfl
  | some login =>
      rw [Option.bind_some, Option.bind_some]
      by_cases opens : world.opens login = true
      · rw [if_pos opens, Option.bind_some]
        cases found : wayOut platform protocol request chain with
        | none => rfl
        | some way =>
            rw [Option.bind_some, Option.map_some, Option.bind_some]
            exact travel_carried platform setting world way
              (way_out_forwards platform protocol request chain way found) login scene
              silent unsent opens
      · rw [if_neg opens]
        cases wayOut platform protocol request chain with
        | none => rfl
        | some way => exact (if_neg opens).symm

theorem socks5_view (request : Bytes) (scene : Scene) (silent : scene.talk = []) (unsent : scene.payload = [])
    (second : scene.loaded = true) :
    (fulfilled (respond platform setting world) (handleSocks5 setting.server request setting.peer) scene).map view =
      (socks5Handling platform setting request scene.pieces).bind (carriedOut platform setting world) := by
  rw [handle_socks5_travels, socks5Handling, Option.map_bind, Option.bind_assoc]
  congr 1
  funext opened
  have late : setting.snapshot (scene.left opened.2).loaded = setting.late := if_pos second
  rw [Function.comp_apply, socks5Behind, late]
  by_cases opens : world.opens opened.1.2 = true
  · rw [if_pos opens, Option.map_bind, Option.bind_assoc]
    congr 1
    funext target
    rw [Function.comp_apply, Option.map_bind, Option.bind_assoc]
    congr 1
    funext selection
    rw [Function.comp_apply, Option.map_bind, Option.bind_assoc]
    congr 1
    funext chain
    rw [Function.comp_apply, Option.map_bind, Option.bind_map]
    cases found : chainWay chain (.ok target.1) none with
    | none => rfl
    | some way =>
        exact travel_carried platform setting world way
          (chain_way_forwards chain _ none way nofun found) opened.1.2 _ silent unsent opens
  · simp only [if_neg opens, Option.map_none, Option.bind_assoc, Option.bind_map, Function.comp_def, carriedOut, Way.handling,
      Option.bind_fun_none]

theorem arrived_handled (pieces : List Bytes) : arrived platform setting world pieces =
    (handlingOf platform setting pieces).bind (carriedOut platform setting world) := by
  have read : fulfilled (respond platform setting world) (handleConnection platform setting.server setting.peer) (start pieces) =
      fulfilled (respond platform setting world) (serve platform setting.server setting.peer (takeRead 8192 pieces).1)
        (start (takeRead 8192 pieces).2) := rfl
  rw [arrived, read, serve, handlingOf]
  cases detectProtocol (takeRead 8192 pieces).1 with
  | error failure => rfl
  | ok protocol =>
      change Option.map view (fulfilled _ ((selectionFor platform protocol _ setting.peer).bind _) _) = _
      rw [fulfilled_bind, selection_for_fulfil, Option.bind_map, Option.map_bind]
      change _ = Option.bind (Option.bind (requestUsername platform protocol (takeRead 8192 pieces).1).toOption _) _
      rw [Option.bind_assoc, Option.bind_assoc]
      congr 1
      funext username
      rw [Option.bind_assoc]
      congr 1
      funext selection
      change Option.map view (fulfilled _ ((resolve setting.server selection).bind _) _) = _
      rw [fulfilled_bind, resolve_fulfil, Option.bind_map, Option.map_bind, Option.bind_assoc]
      congr 1
      funext chain
      rw [Function.comp_apply, Function.comp_apply]
      dsimp only
      by_cases own : protocol = .socks5
      · rw [if_pos own, own]
        by_cases empty : chain = []
        · rw [if_pos empty, empty]
          rfl
        · rw [if_neg empty]
          rcases dispatch_socks5 platform setting.server setting.peer (takeRead 8192 pieces).1 chain with ⟨none, _⟩ | handled
          · exact absurd none empty
          · rw [handled]
            exact socks5_view platform setting world _ _ rfl rfl rfl
      · rw [if_neg own]
        exact other_view platform setting world protocol _ chain _ own rfl rfl

end Frames

end Purroute
