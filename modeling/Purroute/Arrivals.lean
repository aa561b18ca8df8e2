import Purroute.Segmentation

set_option autoImplicit false

namespace Purroute

open Interaction Interaction.Program

inductive Stop where
  | socks5 (login : Credentials) (host : Str) (port : UInt16)
  | socks4 (host : Str) (port : UInt16)
  | tunnel (host : Str) (port : UInt16) (login : Credentials)
  | target (text : Str) (login : Credentials)
  | passed (request : Bytes)
deriving DecidableEq, Repr

def stopAt (proxy : ProxyConfig) (host : Str) (port : UInt16) : Stop :=
  match proxy.proxyType with
  | .socks5 => .socks5 (credentials proxy) host port
  | .socks4 => .socks4 host port
  | .http => .tunnel host port (credentials proxy)
  | .https => .tunnel host port (credentials proxy)

def hopStops : List ProxyConfig → Str → UInt16 → Option (List Stop)
  | [], _, _ => some []
  | [proxy], host, port => some [stopAt proxy host port]
  | proxy :: next :: rest, host, port =>
      (parseAddress (getUpstreamAddr next)).toOption.bind fun hop =>
        (hopStops (next :: rest) host port).map fun stops => stopAt proxy hop.1 hop.2 :: stops

structure Way where
  address : Str
  stops : List Stop
  message : Option Message
deriving DecidableEq, Repr

def chainWay (chain : List ProxyConfig) (target : Except Failure (Str × UInt16)) (message : Option Message) : Option Way :=
  match chain with
  | [] => none
  | first :: _ =>
      target.toOption.bind fun pair => (hopStops chain pair.1 pair.2).map fun stops => ⟨getUpstreamAddr first, stops, message⟩

def socks4Way (request : Bytes) (proxy : ProxyConfig) : Option Way :=
  (socks4Request request).toOption.map fun pair =>
    ⟨getUpstreamAddr proxy, [if proxy.proxyType = .socks4 then .passed request else stopAt proxy pair.1 pair.2], none⟩

def httpWay (platform : Platform) (request : Bytes) (proxy : ProxyConfig) : Option Way :=
  (lines (fromUtf8Lossy request)).head?.bind fun firstLine =>
    if proxy.proxyType = .http ∨ proxy.proxyType = .https then
      some ⟨getUpstreamAddr proxy, [], some (.rebuilt firstLine (credentials proxy) ((lines (fromUtf8Lossy request)).drop 1))⟩
    else (hostHeader platform request).toOption.map fun pair =>
      ⟨getUpstreamAddr proxy, [stopAt proxy pair.1 pair.2], if contains firstLine "CONNECT" then none else some (.raw request)⟩

def httpsWay (request : Bytes) (proxy : ProxyConfig) : Option Way :=
  (lines (fromUtf8Lossy request)).head?.bind fun firstLine => (splitWhitespace firstLine)[1]?.map fun target =>
    ⟨getUpstreamAddr proxy, [if proxy.proxyType = .http ∨ proxy.proxyType = .https then .target target (credentials proxy)
      else stopAt proxy (hostAndPort target 443).1 (hostAndPort target 443).2], none⟩

def wayOut (platform : Platform) (protocol : Protocol) (request : Bytes) (chain : List ProxyConfig) : Option Way :=
  match chain with
  | [proxy] =>
      match protocol with
      | .http => httpWay platform request proxy
      | .https => httpsWay request proxy
      | _ => socks4Way request proxy
  | _ =>
      match protocol with
      | .http => chainWay chain (parseHttpTarget request) (some (.raw (toOriginForm request)))
      | .https => chainWay chain (parseConnectTarget request) none
      | _ => chainWay chain (parseSocks4Target request) none

def Stop.payload : Stop → Bytes
  | .passed request => request
  | _ => []

def messageBytes (platform : Platform) : Option Message → Bytes
  | none => []
  | some message => message.bytes platform

-- What the arrival of a handshake comes to: whom the accounts are asked for,
-- where the connection goes, and the bytes that travel on it.
structure Handling where
  login : Option (Str × Str)
  address : Str
  stops : List Stop
  payload : Bytes
deriving DecidableEq, Repr

def Way.handling (platform : Platform) (way : Way) (login : Option (Str × Str)) (left : Bytes) : Handling :=
  ⟨login, way.address, way.stops, way.stops.flatMap Stop.payload ++ messageBytes platform way.message ++ left⟩

-- What stands while a connection is set up: its peer, the peer's account, and
-- the live set with the draws at the first resolution and at a later one.
structure Setting where
  server : ProxyServer
  peer : IpAddr
  known : Except Fault (Option Account)
  early : List ProxyConfig × Draws
  late : List ProxyConfig × Draws

section Reading

variable (platform : Platform) (setting : Setting)

def hasAllowance (account : Account) : Bool :=
  match account.bandwidthLimit with
  | none => true
  | some left => decide (0 < left)

def welcome : Except Fault (Option Account) → Bool
  | .ok (some account) => hasAllowance account
  | _ => false

def loginIn (request : Bytes) : Option (Option (Str × Str)) :=
  if setting.server.config.auth = some true then
    match authHeader platform request with
    | none => if welcome setting.known then some none else none
    | some line =>
        (decodeHeader platform line).toOption.bind fun credentials => (credentials.bind splitCredentials).bind fun pair =>
          (parseUsername pair.1).toOption.map fun name => some (name.1, pair.2)
  else some none

def selectionOf (username : Option Str) : Option Selection :=
  if isEmpty (tokens username) = false then some (tokens username) else (storedDefault (tokens username) setting.known).toOption

def socks5Opening (request : Bytes) (pieces : List Bytes) : Option ((Selection × Option (Str × Str)) × List Bytes) :=
  (greetingMethods request).toOption.bind fun methods =>
    if setting.server.config.auth = some true then
      if 0x02 ∈ methods then
        (socks5Credentials (takeRead 513 pieces).1).toOption.bind fun pair => (parseUsername pair.1).toOption.map fun name =>
          ((name.2, some (name.1, pair.2)), (takeRead 513 pieces).2)
      else none
    else if 0x00 ∈ methods then some ((emptySelection, none), pieces) else none

def addressIn (atyp : UInt8) (pieces : List Bytes) : Option ((Str × UInt16) × List Bytes) :=
  if atyp = 0x01 then
    (takeExact pieces 6).map fun taken => ((dotted (byteAt taken.1 0) (byteAt taken.1 1) (byteAt taken.1 2) (byteAt taken.1 3),
      fromBeBytes (byteAt taken.1 4) (byteAt taken.1 5)), taken.2)
  else if atyp = 0x03 then
    (takeExact pieces 1).bind fun length =>
      let n := (byteAt length.1 0).toNat
      (takeExact length.2 (n + 2)).map fun taken =>
        ((fromUtf8Lossy (taken.1.take n), fromBeBytes (byteAt taken.1 n) (byteAt taken.1 (n + 1))), taken.2)
  else if atyp = 0x04 then
    (takeExact pieces 18).map fun taken => ((hexGroups taken.1, fromBeBytes (byteAt taken.1 16) (byteAt taken.1 17)), taken.2)
  else none

def targetIn (pieces : List Bytes) : Option ((Str × UInt16) × List Bytes) :=
  (takeExact pieces 4).bind fun header =>
    if byteAt header.1 0 ≠ 0x05 then none else addressIn (byteAt header.1 3) header.2

def socks5Handling (request : Bytes) (pieces : List Bytes) : Option Handling :=
  (socks5Opening setting request pieces).bind fun opened => (targetIn opened.2).bind fun target =>
    (if isEmpty opened.1.1 then (storedDefault opened.1.1 setting.known).toOption else some opened.1.1).bind fun selection =>
      (resolveProxyChain setting.server setting.late.1 setting.late.2 selection).toOption.bind fun chain =>
        (chainWay chain (.ok target.1) none).map fun way => way.handling platform opened.1.2 target.2.flatten

-- The parsers of the source on the single reads of an arrival.
def handlingOf (pieces : List Bytes) : Option Handling :=
  let request := (takeRead 8192 pieces).1
  let left := (takeRead 8192 pieces).2
  (detectProtocol request).toOption.bind fun protocol =>
    (requestUsername platform protocol request).toOption.bind fun username => (selectionOf setting username).bind fun selection =>
      (resolveProxyChain setting.server setting.early.1 setting.early.2 selection).toOption.bind fun chain =>
        if protocol = .socks5 then
          if chain = [] then none else socks5Handling platform setting request left
        else (loginIn platform setting request).bind fun login =>
          (wayOut platform protocol request chain).map fun way => way.handling platform login left.flatten

end Reading

-- The accounts answer by the login, the upstreams by what was said to them.
structure World where
  accounts : Str → Str → Except Fault (Option Account)
  upstream : List Op → (op : Op) → op.Reply

def isPayload : Message → Bool
  | .raw _ => true
  | .rebuilt _ _ _ => true
  | _ => false

def Op.heard : Op → Option Op
  | .dial address => some (.dial address)
  | .send message => some (.send message)
  | .receive limit => some (.receive limit)
  | .receiveExact count => some (.receiveExact count)
  | _ => none

def Op.isLoad : Op → Bool
  | .load => true
  | _ => false

def Op.payload (platform : Platform) : Op → Bytes
  | .send (.raw payload) => payload
  | .send (.rebuilt firstLine credentials headers) => (Message.rebuilt firstLine credentials headers).bytes platform
  | _ => []

def World.answer (world : World) (setting : Setting) (talk : List Op) (loaded : Bool) : (op : Op) → op.Reply
  | .read _ => .error .failed
  | .readExact _ => .error .failed
  | .reply _ => .ok ()
  | .dial address => world.upstream talk (.dial address)
  | .send message => if isPayload message then .ok () else world.upstream talk (.send message)
  | .receive limit => world.upstream talk (.receive limit)
  | .receiveExact count => world.upstream talk (.receiveExact count)
  | .authenticate username password => world.accounts username password
  | .authenticateByIp _ => setting.known
  | .load => if loaded then setting.late else setting.early
  | .relay _ _ => .ok ()
  | .record _ => ()
  | .decrement => ()

def World.surroundings (world : World) (setting : Setting) (past : History) : (op : Op) → op.Reply :=
  world.answer setting (past.filterMap fun event => event.1.heard) (past.any fun event => event.1.isLoad)

def arrivalRun (platform : Platform) (setting : Setting) (world : World) (pieces : List Bytes) :
    Driven signature (List Bytes) Failure Unit :=
  connectionRun platform setting.server setting.peer (world.surroundings setting) pieces

structure Scene where
  pieces : List Bytes
  talk : List Op
  loaded : Bool
  payload : Bytes

section Observing

variable (platform : Platform) (setting : Setting) (world : World)

def Scene.after (scene : Scene) (op : Op) (left : List Bytes) : Scene :=
  ⟨left, scene.talk ++ op.heard.toList, scene.loaded || op.isLoad, scene.payload ++ op.payload platform⟩

def respond (scene : Scene) (op : Op) : op.Reply × Scene :=
  let taken := clientSide (fun _ => world.answer setting scene.talk scene.loaded) scene.pieces [] op
  (taken.1, scene.after platform op taken.2)

def observe (pieces : List Bytes) (past : History) : Scene :=
  ⟨pieces, past.filterMap fun event => event.1.heard, past.any fun event => event.1.isLoad,
    past.flatMap fun event => event.1.payload platform⟩

def start (pieces : List Bytes) : Scene := ⟨pieces, [], false, []⟩

theorem observe_next (pieces left : List Bytes) (past : History) (event : Event) :
    observe platform left (past ++ [event]) = (observe platform pieces past).after platform event.1 left := by
  have single : [event].filterMap (fun event => event.1.heard) = event.1.heard.toList := by
    cases said : event.1.heard <;> simp [said]
  simp only [observe, Scene.after, List.filterMap_append, single, List.any_append, List.any_cons, List.any_nil, Bool.or_false,
    List.flatMap_append, List.flatMap_cons, List.flatMap_nil, List.append_nil]

theorem surroundings_respond (pieces : List Bytes) (past : History) (op : Op) :
    respond platform setting world (observe platform pieces past) op =
      ((clientSide (world.surroundings setting) pieces past op).1,
        observe platform (clientSide (world.surroundings setting) pieces past op).2
          (past ++ [⟨op, (clientSide (world.surroundings setting) pieces past op).1⟩])) := by
  rw [observe_next platform pieces]
  cases op <;> rfl

theorem forwarded_eq (event : Event) : forwarded platform event = event.1.payload platform := by
  obtain ⟨op, reply⟩ := event
  cases op with
  | send message => cases message <;> rfl
  | _ => rfl

def Op.asks : Op → Bool
  | .dial _ => true
  | .send message => !isPayload message
  | _ => false

theorem requested_eq (event : Event) : requested event = event.1.heard.filter Op.asks := by
  obtain ⟨op, reply⟩ := event
  cases op with
  | send message => cases message <;> rfl
  | _ => rfl

theorem asked_past (past : History) : (past.filterMap fun event => event.1.heard).filter Op.asks = past.filterMap requested := by
  rw [List.filter_filterMap]
  exact List.filterMap_congr fun event _ => (requested_eq event).symm

def RelaysWhenOk (program : Router Unit) : Prop := ∀ pieces past, (∀ event ∈ past, isRelay event = false) →
  (isAdmitted (drive (clientSide (world.surroundings setting)) pieces past program) ↔
    (drive (clientSide (world.surroundings setting)) pieces past program).outcome.toOption.isSome = true)

theorem preparing_not_relay (op : Op) (preparing : Preparing op) : NotRelay op := by
  cases op with
  | relay id costPerByte => exact preparing
  | _ => trivial

theorem not_relay_past {A : Type} (surroundings : History → (op : Op) → op.Reply) (pieces : List Bytes) (past : History)
    (program : Router A) (uses : Uses NotRelay program) (before : ∀ event ∈ past, isRelay event = false) :
    ∀ event ∈ (drive (clientSide surroundings) pieces past program).past, isRelay event = false := by
  obtain ⟨trace, history, run⟩ := drive_runs (clientSide surroundings) pieces past program
  have own := (uses_event program _ trace uses run).1
  intro event member
  rw [history, List.mem_append] at member
  cases member with
  | inl earlier => exact before event earlier
  | inr later =>
      have allowed := own event later
      obtain ⟨op, reply⟩ := event
      cases op with
      | relay id costPerByte => exact allowed.elim
      | _ => rfl

theorem relays_when_ok_closed : PreparingClosed (RelaysWhenOk setting world) where
  fail := by
    intro failure pieces past before
    refine ⟨fun admitted => ?_, nofun⟩
    obtain ⟨event, member, relay⟩ := admitted
    exact absurd (before event member) (relay ▸ Bool.noConfusion)
  bind := by
    intro A first next uses tail pieces past before
    rw [drive_bind]
    have quiet := not_relay_past (world.surroundings setting) pieces past first (uses_mono _ _ preparing_not_relay uses) before
    rcases driven : drive (clientSide (world.surroundings setting)) pieces past first with ⟨reached, left, result⟩
    rw [driven] at quiet
    cases result with
    | ok value => exact tail value left reached quiet
    | error failure =>
        refine ⟨fun admitted => ?_, nofun⟩
        obtain ⟨event, member, relay⟩ := admitted
        exact absurd (quiet event member) (relay ▸ Bool.noConfusion)

theorem relayed_when_ok (id : Option Int) (costPerByte : Rat) : RelaysWhenOk setting world (relayed id costPerByte) := by
  intro pieces past before
  refine ⟨fun _ => rfl, fun _ => ⟨⟨.relay id costPerByte, .ok ()⟩, ?_, rfl⟩⟩
  change _ ∈ past ++ [_] ++ [_] ++ [_]
  exact List.mem_append_left _ (List.mem_append_right _ (List.mem_singleton.mpr rfl))

theorem connection_relays_when_ok : RelaysWhenOk setting world (handleConnection platform setting.server setting.peer) :=
  handle_connection_relays _ (relays_when_ok_closed setting world) platform setting.server setting.peer
    (relayed_when_ok setting world)

def view (scene : Scene) : List Op × Bytes := (scene.talk.filter Op.asks, scene.payload ++ scene.pieces.flatten)

def arrived (pieces : List Bytes) : Option (List Op × Bytes) :=
  (fulfilled (respond platform setting world) (handleConnection platform setting.server setting.peer) (start pieces)).map view

theorem arrived_eq (pieces : List Bytes) : arrived platform setting world pieces =
    (arrivalRun platform setting world pieces).outcome.toOption.map fun _ =>
      ((arrivalRun platform setting world pieces).past.filterMap requested,
        delivered platform (arrivalRun platform setting world pieces)) := by
  have run := drive_fulfils (respond platform setting world) (clientSide (world.surroundings setting)) (observe platform)
    (surroundings_respond platform setting world) (handleConnection platform setting.server setting.peer) pieces []
  have same : observe platform pieces [] = start pieces := rfl
  rw [arrived, fulfilled, ← same, run, Option.map_map, Option.map_map]
  congr 1
  funext value
  change (List.filter Op.asks _, _) = _
  rw [arrivalRun, connectionRun, observe, asked_past, delivered]
  simp only [← forwarded_eq]

theorem arrived_admitted (pieces : List Bytes) :
    isAdmitted (arrivalRun platform setting world pieces) ↔ (arrived platform setting world pieces).isSome = true := by
  rw [arrived_eq, Option.isSome_map]
  exact connection_relays_when_ok platform setting world pieces [] nofun

theorem alike_iff (first second : List Bytes) :
    Alike platform (arrivalRun platform setting world first) (arrivalRun platform setting world second) ↔
      arrived platform setting world first = arrived platform setting world second := by
  have left := arrived_admitted platform setting world first
  have right := arrived_admitted platform setting world second
  rw [arrived_eq] at left right
  rw [arrived_eq, arrived_eq]
  generalize arrivalRun platform setting world first = one at left ⊢
  generalize arrivalRun platform setting world second = two at right ⊢
  cases firstOutcome : one.outcome.toOption with
  | none =>
      rw [firstOutcome, Option.map_none, Option.isSome_none] at left
      have never : ¬ isAdmitted one := fun admitted => Bool.noConfusion (left.mp admitted)
      cases secondOutcome : two.outcome.toOption with
      | none =>
          rw [secondOutcome, Option.map_none, Option.isSome_none] at right
          exact ⟨fun _ => rfl, fun _ =>
            ⟨left.trans right.symm, fun admitted => absurd admitted never, fun admitted => absurd admitted never⟩⟩
      | some value =>
          rw [secondOutcome, Option.map_some, Option.isSome_some] at right
          exact ⟨fun alike => absurd (alike.decision.mpr (right.mpr rfl)) never, nofun⟩
  | some value =>
      rw [firstOutcome, Option.map_some, Option.isSome_some] at left
      have admitted := left.mpr rfl
      cases secondOutcome : two.outcome.toOption with
      | none =>
          rw [secondOutcome, Option.map_none, Option.isSome_none] at right
          exact ⟨fun alike => Bool.noConfusion (right.mp (alike.decision.mp admitted)), nofun⟩
      | some other =>
          rw [secondOutcome, Option.map_some, Option.isSome_some] at right
          rw [Option.map_some, Option.map_some, Option.some.injEq, Prod.mk.injEq]
          exact ⟨fun alike => ⟨alike.destination admitted, alike.payload admitted⟩,
            fun same => ⟨left.trans right.symm, fun _ => same.1, fun _ => same.2⟩⟩

end Observing

end Purroute
