import Purroute.Trips

set_option autoImplicit false

namespace Purroute

open Interaction Interaction.Program

def Stop.heard : Stop → List Op
  | .socks5 none host port => [.send (.methods [0x00]), .send (.connect5 host port)]
  | .socks5 (some login) host port =>
      [.send (.methods [0x00, 0x02]), .send (.userPass login.1 login.2), .send (.connect5 host port)]
  | .socks4 host port => [.send (.connect4 host port)]
  | .tunnel host port login => [.send (.connectHttp host port login)]
  | .target text login => [.send (.connectTarget text login)]
  | .passed _ => []

def stopsHeard : List Op → List Stop
  | .send (.methods _) :: .send (.userPass username password) :: .send (.connect5 host port) :: rest =>
      .socks5 (some (username, password)) host port :: stopsHeard rest
  | .send (.methods _) :: .send (.connect5 host port) :: rest => .socks5 none host port :: stopsHeard rest
  | .send (.connect4 host port) :: rest => .socks4 host port :: stopsHeard rest
  | .send (.connectHttp host port login) :: rest => .tunnel host port login :: stopsHeard rest
  | .send (.connectTarget text login) :: rest => .target text login :: stopsHeard rest
  | _ => []

theorem stops_heard (stops : List Stop) (own : ∀ request, .passed request ∉ stops) :
    stopsHeard (stops.flatMap Stop.heard) = stops := by
  induction stops with
  | nil => rfl
  | cons stop rest ih =>
      have later := ih fun request member => own request (List.mem_cons_of_mem _ member)
      rw [List.flatMap_cons]
      rcases stop with ⟨_ | login, host, port⟩ | ⟨host, port⟩ | ⟨host, port, login⟩ | ⟨text, login⟩ | request
      · exact congrArg (_ :: ·) later
      · exact congrArg (_ :: ·) later
      · exact congrArg (_ :: ·) later
      · exact congrArg (_ :: ·) later
      · exact congrArg (_ :: ·) later
      · exact absurd List.mem_cons_self (own request)

def agreement (fits : Bytes → Bool) (talk : List Op) : Bytes :=
  match talk.getLast? with
  | some (.send (.methods offered)) => [0x05, if 0x02 ∈ offered then 0x02 else 0x00]
  | some (.send (.userPass _ _)) => [0x01, 0x00]
  | some (.send (.connect5 _ _)) => [0x05, 0x00, 0x00, 0x01]
  | some (.send (.connect4 _ _)) => [0x00, 0x5A]
  | some (.send (.raw request)) => if fits request then [0x00, 0x5A] else []
  | _ => []

def agreed (fits : Bytes → Bool) (talk : List Op) (count : Nat) : { bytes : Bytes // bytes.length = count } :=
  ⟨(List.range count).map fun i => (agreement fits talk).getD i 0, by rw [List.length_map, List.length_range]⟩

def agreeing (fits : Bytes → Bool) (talk : List Op) : (op : Op) → op.Reply
  | .receive limit => .ok ⟨(utf8 established).take limit, List.length_take_le _ _⟩
  | .receiveExact count => .ok (agreed fits talk count)
  | op => accepting op

def unlimited : Account := ⟨0, none, none⟩

def agreeable (lets : Str × Str → Bool) (fits : Bytes → Bool) : World :=
  ⟨fun username password => if lets (username, password) then .ok (some unlimited) else .ok none, agreeing fits⟩

section Agreeing

variable (platform : Platform) (setting : Setting) (lets : Str × Str → Bool) (fits : Bytes → Bool)

theorem agreed_byte (talk : List Op) (count i : Nat) (inside : i < count) :
    byteAt (agreed fits talk count).val i = (agreement fits talk).getD i 0 := by
  rw [byteAt, agreed, List.getD_eq_getElem?_getD, List.getElem?_map, List.getElem?_range inside]
  rfl

theorem send_agreed (message : Message) (scene : Scene) :
    fulfil (respond platform setting (agreeable lets fits)) (send message) scene =
      some ((), scene.after platform (.send message) scene.pieces) := by
  cases message <;> rfl

theorem receive_exact_agreed (count : Nat) (scene : Scene) :
    fulfil (respond platform setting (agreeable lets fits)) (receiveExact count) scene =
      some ((agreed fits scene.talk count).val, scene.after platform (.receiveExact count) scene.pieces) := rfl

theorem receive_within_agreed (count : Nat) (expired : ProxyError) (scene : Scene) :
    fulfil (respond platform setting (agreeable lets fits)) (receiveExactWithin count expired) scene =
      some ((agreed fits scene.talk count).val, scene.after platform (.receiveExact count) scene.pieces) := rfl

theorem agreement_last (talk : List Op) (message : Message) (scene : Scene) (last : scene.talk = talk ++ [.send message]) :
    agreement fits scene.talk = agreement fits [.send message] := by
  rw [last, agreement, List.getLast?_concat]
  rfl

def AgreesTo (stop : Stop) : Prop := ∀ scene, ∃ behind,
  fulfilled (respond platform setting (agreeable lets fits)) (announce stop) scene = some behind ∧
    behind.talk.filter Op.asks = scene.talk.filter Op.asks ++ stop.heard

theorem socks4_agreed (host : Str) (port : UInt16) : AgreesTo platform setting lets fits (.socks4 host port) := by
  intro scene
  refine ⟨(scene.after platform (.send (.connect4 host port)) scene.pieces).after platform (.receiveExact 8) scene.pieces, ?_, ?_⟩
  · rw [announce, socks4Handshake, bind_eq, fulfilled_bind, send_agreed, Option.bind_some, bind_eq, fulfilled_bind,
      receive_exact_agreed, Option.bind_some]
    rw [agreed_byte fits _ 8 1 (by decide), agreement_last fits scene.talk (.connect4 host port) _ rfl]
    rfl
  · simp [Scene.after, Op.heard, Op.asks, isPayload, Stop.heard, List.filter_append]

theorem established_agreed : contains (fromUtf8Lossy ((utf8 established).take 1024)) established = true := by decide

theorem http_agreed (refused : String) (message : Message) (scene : Scene) :
    fulfilled (respond platform setting (agreeable lets fits)) ((httpHandshake refused message).bind fun _ => .done ()) scene =
      some ((scene.after platform (.send message) scene.pieces).after platform (.receive 1024) scene.pieces) := by
  rw [fulfilled_map, httpHandshake, bind_eq, fulfilled_bind, send_agreed, Option.bind_some]
  change fulfilled (respond platform setting (agreeable lets fits))
    (if contains (fromUtf8Lossy ((utf8 established).take 1024)) established then
    .done ((utf8 established).take 1024) else throw refused : Router Bytes) _ = _
  rw [if_pos established_agreed]
  rfl

theorem tunnel_agreed (host : Str) (port : UInt16) (login : Credentials) :
    AgreesTo platform setting lets fits (.tunnel host port login) := by
  intro scene
  refine ⟨_, http_agreed platform setting lets fits _ _ scene, ?_⟩
  simp [Scene.after, Op.heard, Op.asks, isPayload, Stop.heard, List.filter_append]

theorem target_agreed (text : Str) (login : Credentials) : AgreesTo platform setting lets fits (.target text login) := by
  intro scene
  refine ⟨_, http_agreed platform setting lets fits _ _ scene, ?_⟩
  simp [Scene.after, Op.heard, Op.asks, isPayload, Stop.heard, List.filter_append]

theorem passed_agreed (request : Bytes) (fit : fits request = true) : AgreesTo platform setting lets fits (.passed request) := by
  intro scene
  refine ⟨(scene.after platform (.send (.raw request)) scene.pieces).after platform (.receiveExact 8) scene.pieces, ?_, ?_⟩
  · rw [announce, bind_eq, fulfilled_bind, send_agreed, Option.bind_some, bind_eq, fulfilled_bind,
      receive_exact_agreed, Option.bind_some]
    rw [agreed_byte fits _ 8 1 (by decide), agreement_last fits scene.talk (.raw request) _ rfl]
    simp [agreement, fit]
    rfl
  · simp [Scene.after, Op.heard, Op.asks, isPayload, Stop.heard, List.filter_append]

theorem passed_refused (request : Bytes) (unfit : fits request = false) (scene : Scene) :
    fulfilled (respond platform setting (agreeable lets fits)) (announce (.passed request)) scene = none := by
  rw [announce, bind_eq, fulfilled_bind, send_agreed, Option.bind_some, bind_eq, fulfilled_bind,
    receive_exact_agreed, Option.bind_some]
  rw [agreed_byte fits _ 8 1 (by decide), agreement_last fits scene.talk (.raw request) _ rfl]
  simp [agreement, unfit]
  rfl

theorem connect5_agreed (host : Str) (port : UInt16) (scene : Scene) :
    fulfilled (respond platform setting (agreeable lets fits)) ((send (.connect5 host port)).bind fun _ =>
        (receiveExactWithin 4 chainTexts.expired).bind fun response => socks5Reply chainTexts response) scene =
      some (((scene.after platform (.send (.connect5 host port)) scene.pieces).after platform
        (.receiveExact 4) scene.pieces).after
        platform (.receiveExact 6) scene.pieces) := by
  rw [fulfilled_bind, send_agreed, Option.bind_some, fulfilled_bind, receive_within_agreed, Option.bind_some, socks5Reply]
  rw [agreed_byte fits _ 4 1 (by decide), agreed_byte fits _ 4 3 (by decide),
    agreement_last fits scene.talk (.connect5 host port) _ rfl]
  rfl

theorem login_agreed (login : Str × Str) (scene : Scene) :
    fulfil (respond platform setting (agreeable lets fits)) (socks5Auth chainTexts (bearer (some login)) 0x02) scene =
      some ((), (scene.after platform (.send (.userPass login.1 login.2)) scene.pieces).after platform
        (.receiveExact 2) scene.pieces) := by
  rw [socks5Auth, if_pos rfl, bearer_credentials]
  dsimp only
  rw [bind_eq, fulfil_bind, send_agreed, Option.bind_some, bind_eq, fulfil_bind, receive_exact_agreed,
    Option.bind_some, checkVerdict]
  rw [agreed_byte fits _ 2 1 (by decide), agreement_last fits scene.talk (.userPass login.1 login.2) _ rfl]
  rfl

theorem greeting_agreed (login : Credentials) (host : Str) (port : UInt16) (scene : Scene) :
    fulfilled (respond platform setting (agreeable lets fits)) (announce (.socks5 login host port)) scene =
      fulfilled (respond platform setting (agreeable lets fits))
        ((socks5Auth chainTexts (bearer login) (if 0x02 ∈ offeredMethods (bearer login) then 0x02 else 0x00)).bind fun _ =>
          (send (.connect5 host port)).bind fun _ => (receiveExactWithin 4 chainTexts.expired).bind fun response =>
            socks5Reply chainTexts response)
        ((scene.after platform (.send (.methods (offeredMethods (bearer login)))) scene.pieces).after platform (.receiveExact 2)
          scene.pieces) := by
  rw [announce, socks5Handshake, bind_eq, fulfilled_bind, send_agreed, Option.bind_some, bind_eq, fulfilled_bind,
    receive_exact_agreed, Option.bind_some, agreed_byte fits _ 2 1 (by decide),
    agreement_last fits scene.talk (.methods (offeredMethods (bearer login))) _ rfl]
  rfl

theorem socks5_agreed (login : Credentials) (host : Str) (port : UInt16) :
    AgreesTo platform setting lets fits (.socks5 login host port) := by
  intro scene
  rw [greeting_agreed]
  cases login with
  | none =>
      refine ⟨_, connect5_agreed platform setting lets fits host port _, ?_⟩
      simp [Scene.after, Op.heard, Op.asks, isPayload, Stop.heard, List.filter_append, offeredMethods, bearer]
  | some pair =>
      change ∃ behind, fulfilled _ ((socks5Auth chainTexts (bearer (some pair)) 0x02).bind _) _ = some behind ∧ _
      rw [fulfilled_bind, login_agreed, Option.bind_some]
      refine ⟨_, connect5_agreed platform setting lets fits host port _, ?_⟩
      simp [Scene.after, Op.heard, Op.asks, isPayload, Stop.heard, List.filter_append, offeredMethods, bearer]

theorem stop_agreed (stop : Stop) (fit : ∀ request, stop = .passed request → fits request = true) :
    AgreesTo platform setting lets fits stop := by
  cases stop with
  | socks5 login host port => exact socks5_agreed platform setting lets fits login host port
  | socks4 host port => exact socks4_agreed platform setting lets fits host port
  | tunnel host port login => exact tunnel_agreed platform setting lets fits host port login
  | target text login => exact target_agreed platform setting lets fits text login
  | passed request => exact passed_agreed platform setting lets fits request (fit request rfl)

theorem stops_agreed (stops : List Stop) (fit : ∀ request, .passed request ∈ stops → fits request = true) (scene : Scene) :
    ∃ behind, fulfilled (respond platform setting (agreeable lets fits)) (announceAll stops) scene = some behind ∧
      behind.talk.filter Op.asks = scene.talk.filter Op.asks ++ stops.flatMap Stop.heard := by
  induction stops generalizing scene with
  | nil => exact ⟨scene, rfl, (List.append_nil _).symm⟩
  | cons stop rest ih =>
      obtain ⟨between, first, told⟩ := stop_agreed platform setting lets fits stop
        (fun request same => fit request (same ▸ List.mem_cons_self)) scene
      obtain ⟨behind, later, more⟩ := ih (fun request member => fit request (List.mem_cons_of_mem _ member)) between
      refine ⟨behind, ?_, ?_⟩
      · rw [announceAll, fulfilled_then, first, Option.bind_some, later]
      · rw [more, told, List.flatMap_cons, List.append_assoc]

theorem carried_agreed (handling : Handling) (opens : (agreeable lets fits).opens handling.login = true)
    (fit : ∀ request, .passed request ∈ handling.stops → fits request = true) :
    carriedOut platform setting (agreeable lets fits) handling =
      some (.dial handling.address :: handling.stops.flatMap Stop.heard, handling.payload) := by
  obtain ⟨behind, reached, told⟩ := stops_agreed platform setting lets fits handling.stops fit
    ((start []).after platform (.dial handling.address) [])
  have gone : fulfilled (respond platform setting (agreeable lets fits)) (trip handling.address handling.stops)
    (start []) = some behind := by
    rw [trip, fulfilled_then]
    exact reached
  rw [carriedOut, if_pos opens, gone, Option.map_some, told]
  rfl

end Agreeing

def PassedAlone (stops : List Stop) : Prop := (∃ request, stops = [.passed request]) ∨ ∀ request, .passed request ∉ stops

theorem stop_not_passed (proxy : ProxyConfig) (host : Str) (port : UInt16) (request : Bytes) :
    stopAt proxy host port ≠ .passed request := by
  intro same
  rw [stopAt] at same
  cases type : proxy.proxyType <;> rw [type] at same <;> cases same

theorem single_stop (stop : Stop) (own : ∀ request, stop ≠ .passed request) : ∀ request, .passed request ∉ [stop] := by
  intro request member
  exact own request (List.mem_singleton.mp member).symm

theorem hop_stops_own (chain : List ProxyConfig) (host : Str) (port : UInt16) (stops : List Stop)
    (found : hopStops chain host port = some stops) : ∀ request, .passed request ∉ stops := by
  induction chain generalizing stops with
  | nil =>
      cases found
      exact fun _ => List.not_mem_nil
  | cons proxy rest ih =>
      cases rest with
      | nil =>
          cases found
          exact single_stop _ (stop_not_passed proxy host port)
      | cons next rest =>
          rw [hopStops, Option.bind_eq_some_iff] at found
          obtain ⟨hop, _, found⟩ := found
          rw [Option.map_eq_some_iff] at found
          obtain ⟨later, behind, rfl⟩ := found
          intro request member
          rcases List.mem_cons.mp member with same | inner
          · exact stop_not_passed _ _ _ request same.symm
          · exact ih later behind request inner

theorem chain_way_alone (chain : List ProxyConfig) (target : Except Failure (Str × UInt16)) (message : Option Message) (way : Way)
    (found : chainWay chain target message = some way) : PassedAlone way.stops := by
  cases chain with
  | nil => cases found
  | cons first rest =>
      rw [chainWay, Option.bind_eq_some_iff] at found
      obtain ⟨pair, _, found⟩ := found
      rw [Option.map_eq_some_iff] at found
      obtain ⟨stops, hops, rfl⟩ := found
      exact Or.inr (hop_stops_own _ _ _ stops hops)

theorem socks4_way_alone (request : Bytes) (proxy : ProxyConfig) (way : Way) (found : socks4Way request proxy = some way) :
    PassedAlone way.stops := by
  rw [socks4Way, Option.map_eq_some_iff] at found
  obtain ⟨pair, _, rfl⟩ := found
  by_cases own : proxy.proxyType = .socks4
  · exact Or.inl ⟨request, by rw [if_pos own]⟩
  · rw [if_neg own]
    exact Or.inr (single_stop _ (stop_not_passed _ _ _))

theorem http_way_alone (platform : Platform) (request : Bytes) (proxy : ProxyConfig) (way : Way)
    (found : httpWay platform request proxy = some way) : PassedAlone way.stops := by
  rw [httpWay, Option.bind_eq_some_iff] at found
  obtain ⟨firstLine, _, found⟩ := found
  split at found
  · cases found
    exact Or.inr fun _ => List.not_mem_nil
  · rw [Option.map_eq_some_iff] at found
    obtain ⟨pair, _, rfl⟩ := found
    exact Or.inr (single_stop _ (stop_not_passed _ _ _))

theorem https_way_alone (request : Bytes) (proxy : ProxyConfig) (way : Way) (found : httpsWay request proxy = some way) :
    PassedAlone way.stops := by
  rw [httpsWay, Option.bind_eq_some_iff] at found
  obtain ⟨firstLine, _, found⟩ := found
  rw [Option.map_eq_some_iff] at found
  obtain ⟨target, _, rfl⟩ := found
  by_cases http : proxy.proxyType = .http ∨ proxy.proxyType = .https
  · rw [if_pos http]
    exact Or.inr (single_stop _ fun request same => Stop.noConfusion same)
  · rw [if_neg http]
    exact Or.inr (single_stop _ (stop_not_passed _ _ _))

theorem way_out_alone (platform : Platform) (protocol : Protocol) (request : Bytes) (chain : List ProxyConfig) (way : Way)
    (found : wayOut platform protocol request chain = some way) : PassedAlone way.stops := by
  rcases way_out_cases platform protocol request chain way found with
    ⟨proxy, http | https | socks4⟩ | ⟨target, message, hops, _⟩
  · exact http_way_alone platform request proxy way http
  · exact https_way_alone request proxy way https
  · exact socks4_way_alone request proxy way socks4
  · exact chain_way_alone chain target message way hops

section Told

variable (platform : Platform) (setting : Setting)

theorem handling_alone (pieces : List Bytes) (handling : Handling) (found : handlingOf platform setting pieces = some handling) :
    PassedAlone handling.stops := by
  simp only [handlingOf, Option.bind_eq_some_iff] at found
  obtain ⟨protocol, _, username, _, selection, _, chain, _, found⟩ := found
  split at found
  · split at found
    · cases found
    · simp only [socks5Handling, Option.bind_eq_some_iff, Option.map_eq_some_iff] at found
      obtain ⟨opened, _, target, _, chosen, _, chain, _, way, found, rfl⟩ := found
      exact chain_way_alone chain _ none way found
  · simp only [Option.bind_eq_some_iff, Option.map_eq_some_iff] at found
    obtain ⟨login, _, way, found, rfl⟩ := found
    exact way_out_alone platform protocol _ chain way found

def letting (login : Option (Str × Str)) (pair : Str × Str) : Bool := decide (login = some pair)

theorem letting_opens (login other : Option (Str × Str)) (fits : Bytes → Bool) :
    (agreeable (letting login) fits).opens other = true ↔ other = none ∨ other = login := by
  cases other with
  | none => exact ⟨fun _ => Or.inl rfl, fun _ => rfl⟩
  | some pair =>
      change welcome (if letting login pair then .ok (some unlimited) else .ok none) = true ↔ _
      by_cases same : login = some pair
      · rw [letting, decide_eq_true same, if_pos rfl]
        exact ⟨fun _ => Or.inr same.symm, fun _ => rfl⟩
      · rw [letting, decide_eq_false same, if_neg Bool.false_ne_true]
        exact ⟨nofun, fun either => either.elim nofun fun own => absurd own.symm same⟩

theorem carried_letting (handling : Handling) (fits : Bytes → Bool)
    (fit : ∀ request, .passed request ∈ handling.stops → fits request = true) :
    carriedOut platform setting (agreeable (letting handling.login) fits) handling =
      some (.dial handling.address :: handling.stops.flatMap Stop.heard, handling.payload) :=
  carried_agreed platform setting _ fits handling ((letting_opens _ _ fits).mpr (Or.inr rfl)) fit

theorem carried_opens (world : World) (handling : Handling) (carried : carriedOut platform setting world handling ≠ none) :
    world.opens handling.login = true := by
  by_contra closed
  exact carried (if_neg closed)

theorem opened_by_same (one other : Handling)
    (same : ∀ world, carriedOut platform setting world one = carriedOut platform setting world other) :
    other.login = none ∨ other.login = one.login := by
  refine (letting_opens one.login other.login fun _ => true).mp (carried_opens platform setting _ other ?_)
  rw [← same, carried_letting platform setting one _ fun _ _ => rfl]
  exact Option.some_ne_none _

theorem same_login (one other : Handling)
    (same : ∀ world, carriedOut platform setting world one = carriedOut platform setting world other) :
    one.login = other.login := by
  rcases opened_by_same platform setting one other same with none | equal
  · rcases opened_by_same platform setting other one fun world => (same world).symm with none' | equal
    · rw [none, none']
    · exact equal
  · exact equal.symm

theorem carried_passed (world : World) (handling : Handling) (request : Bytes) (alone : handling.stops = [.passed request])
    (refused : ∀ scene, fulfilled (respond platform setting world) (announce (.passed request)) scene = none) :
    carriedOut platform setting world handling = none := by
  have nowhere : fulfilled (respond platform setting world) (trip handling.address handling.stops) (start []) = none := by
    rw [alone, trip, fulfilled_then, announce_one, funext refused, Option.bind_fun_none]
  rw [carriedOut, nowhere]
  split <;> rfl

theorem same_passed (one other : Handling)
    (same : ∀ world, carriedOut platform setting world one = carriedOut platform setting world other)
    (request : Bytes) (alone : one.stops = [.passed request]) : ∃ own, .passed own ∈ other.stops ∧ own = request := by
  by_contra none
  have fit : ∀ own, .passed own ∈ other.stops → (decide (own ≠ request)) = true :=
    fun own member => decide_eq_true fun equal => none ⟨own, member, equal⟩
  have carried := carried_letting platform setting other (fun own => decide (own ≠ request)) fit
  rw [← same, carried_passed platform setting _ one request alone fun scene =>
    passed_refused platform setting _ _ request (decide_eq_false fun different => different rfl) scene] at carried
  cases carried

theorem handling_told (one other : Handling) (first : PassedAlone one.stops) (second : PassedAlone other.stops)
    (same : ∀ world, carriedOut platform setting world one = carriedOut platform setting world other) : one = other := by
  have login := same_login platform setting one other same
  have told := same (agreeable (letting one.login) fun _ => true)
  rw [carried_letting platform setting one _ fun _ _ => rfl, login, carried_letting platform setting other _ fun _ _ => rfl,
    Option.some.injEq, Prod.mk.injEq, List.cons.injEq, Op.dial.injEq] at told
  obtain ⟨⟨address, conversation⟩, payload⟩ := told
  have stops : one.stops = other.stops := by
    rcases first with ⟨request, alone⟩ | own
    · obtain ⟨_, member, rfl⟩ := same_passed platform setting one other same request alone
      rcases second with ⟨request, alone'⟩ | none
      · rw [alone'] at member ⊢
        rw [alone, List.mem_singleton.mp member]
      · exact absurd member (none _)
    · rcases second with ⟨request, alone⟩ | own'
      · obtain ⟨passed, member, _⟩ := same_passed platform setting other one (fun world => (same world).symm) request alone
        exact absurd member (own passed)
      · rw [← stops_heard one.stops own, conversation, stops_heard other.stops own']
  cases one
  cases other
  simp_all only

theorem handled_alike_iff (first second : List Bytes) :
    (∀ world, Alike platform (arrivalRun platform setting world first) (arrivalRun platform setting world second)) ↔
      handlingOf platform setting first = handlingOf platform setting second := by
  simp only [alike_iff, arrived_handled]
  constructor
  · intro same
    cases one : handlingOf platform setting first with
    | none =>
        cases two : handlingOf platform setting second with
        | none => rfl
        | some other =>
            have carried := same (agreeable (letting other.login) fun _ => true)
            rw [one, two, Option.bind_some, carried_letting platform setting other _ fun _ _ => rfl] at carried
            cases carried
    | some handling =>
        cases two : handlingOf platform setting second with
        | none =>
            have carried := same (agreeable (letting handling.login) fun _ => true)
            rw [one, two, Option.bind_some, carried_letting platform setting handling _ fun _ _ => rfl] at carried
            cases carried
        | some other =>
            rw [one, two] at same
            exact congrArg some (handling_told platform setting handling other
              (handling_alone platform setting first handling one)
              (handling_alone platform setting second other two) same)
  · intro same world
    rw [same]

theorem unhandled_of_rejected (pieces : List Bytes)
    (rejected : ∀ world, ¬ isAdmitted (arrivalRun platform setting world pieces)) :
    handlingOf platform setting pieces = none := by
  cases found : handlingOf platform setting pieces with
  | none => rfl
  | some handling =>
      refine absurd ((arrived_admitted platform setting (agreeable (letting handling.login) fun _ => true) pieces).mpr ?_)
        (rejected _)
      rw [arrived_handled, found, Option.bind_some, carried_letting platform setting handling _ fun _ _ => rfl]
      rfl

theorem all_alike_iff (stream : Bytes) :
    (∀ first second, CutOf stream first → CutOf stream second → ∀ world,
        Alike platform (arrivalRun platform setting world first) (arrivalRun platform setting world second)) ↔
      ∀ first, CutOf stream first → handlingOf platform setting first = none := by
  constructor
  · intro alike first cut
    have never : ∃ other, CutOf stream other ∧ handlingOf platform setting other = none := by
      cases stream with
      | nil => exact ⟨[], ⟨rfl, nofun⟩, rfl⟩
      | cons byte rest =>
          obtain ⟨pieces, alone⟩ := first_byte_alone byte rest
          exact ⟨_, alone, unhandled_of_rejected platform setting _ fun world =>
            one_byte_rejected platform setting.server setting.peer (world.surroundings setting) byte pieces⟩
    obtain ⟨other, cutOther, none⟩ := never
    rw [(handled_alike_iff platform setting first other).mp (alike first other cut cutOther), none]
  · intro unhandled first second left right
    exact (handled_alike_iff platform setting first second).mpr ((unhandled first left).trans (unhandled second right).symm)

theorem cuttings_alike_iff (stream : Bytes) :
    (∀ first second, CutOf stream first → CutOf stream second →
      ((∀ world, Alike platform (arrivalRun platform setting world first) (arrivalRun platform setting world second)) ↔
        handlingOf platform setting first = handlingOf platform setting second)) ∧
    ((∀ first second, CutOf stream first → CutOf stream second → ∀ world,
        Alike platform (arrivalRun platform setting world first) (arrivalRun platform setting world second)) ↔
      ∀ first, CutOf stream first → handlingOf platform setting first = none) ∧
    ∀ (surroundings : History → (op : Op) → op.Reply) first second, CutOf stream first → CutOf stream second →
      SameReads setting.server first second →
      Alike platform (connectionRun platform setting.server setting.peer surroundings first)
        (connectionRun platform setting.server setting.peer surroundings second) := by
  refine ⟨fun first second _ _ => handled_alike_iff platform setting first second, all_alike_iff platform setting stream, ?_⟩
  intro surroundings first second left right reads
  exact alike_of_same_reads platform setting.server setting.peer surroundings first second (left.1.trans right.1.symm) reads

end Told

section Examples

def stillDraws : Draws := ⟨0, id, fun _ _ => 0⟩

def openSetting : Setting := ⟨unlockedServer, .v4 0, .ok none, ([anonymousHop], stillDraws), ([anonymousHop], stillDraws)⟩

def namedRequest : Bytes := [4, 1, 0, 80, 0, 0, 0, 1, 0] ++ utf8 "example.com" ++ [0]
def cutRequest : List Bytes := [namedRequest.take 16, namedRequest.drop 16]

theorem cut_name_accepted : ¬ ∀ first second, CutOf namedRequest first → CutOf namedRequest second → ∀ world,
    Alike standard (arrivalRun standard openSetting world first) (arrivalRun standard openSetting world second) := by
  intro alike
  have whole : CutOf namedRequest [namedRequest] := ⟨by decide, by decide⟩
  have cut : CutOf namedRequest cutRequest := ⟨by decide, by decide⟩
  have both := alike _ _ whole cut (agreeable (fun _ => true) fun _ => true)
  have admitted : isAdmitted (arrivalRun standard openSetting (agreeable (fun _ => true) fun _ => true) [namedRequest]) :=
    List.any_eq_true.mp (by decide)
  exact absurd (both.destination admitted) (by decide)

def posted : Bytes := utf8 "POST / HTTP/1.1\r\nHost: a.example\r\n\r\nname=value"
def cutBody : List Bytes := [posted.take 42, posted.drop 42]

def greeted (pieces : List Bytes) : List Bytes := [5, 1, 0] :: pieces
def askedWhole : List Bytes := greeted [[5, 1, 0, 1, 93, 184, 216, 34, 0, 80, 71]]
def askedInPieces : List Bytes := greeted [[5, 1], [0, 1, 93, 184], [216, 34, 0], [80, 71]]

theorem body_cut_alike :
    (∀ world, Alike standard (arrivalRun standard openSetting world [posted]) (arrivalRun standard openSetting world cutBody)) ∧
      ∀ surroundings, Alike standard (connectionRun standard unlockedServer (.v4 0) surroundings askedWhole)
        (connectionRun standard unlockedServer (.v4 0) surroundings askedInPieces) := by
  refine ⟨((cuttings_alike_iff standard openSetting posted).1 _ _ ⟨by decide, by decide⟩ ⟨by decide, by decide⟩).mpr
    (by decide), ?_⟩
  intro surroundings
  refine (cuttings_alike_iff standard openSetting askedWhole.flatten).2.2 surroundings _ _
    ⟨rfl, by decide⟩ ⟨by decide, by decide⟩ ?_
  exact ⟨rfl, fun auth => nomatch auth⟩

end Examples

end Purroute
