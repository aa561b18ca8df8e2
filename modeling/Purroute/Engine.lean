import Purroute.Metering
import Purroute.Payload
import Purroute.StaticAuth
import Purroute.Vouched

set_option autoImplicit false

namespace Purroute

open Interaction Interaction.Program

-- `proxy_data` for an account: its id, the price of a byte and the two loops.
structure MeteredRelay where
  id : Int
  cost : Nat
  stage : Direction → Stage

def MeteredRelay.view (relay : MeteredRelay) : Relay := ⟨fun _ => [], fun _ => [], fun direction => (relay.stage direction).phase⟩

-- `proxy_data` comes back with what one of its loops ended with, or panics.
def MeteredRelay.Returns (relay : MeteredRelay) (reply : Except Failure Unit) : Prop :=
  (∃ outcome, result relay.view = some outcome ∧ reply = outcome.mapError .error) ∨ (isOpen relay.view ∧ reply = .error .panic)

def MeteredRelay.put (relay : MeteredRelay) (direction : Direction) (stage : Stage) : MeteredRelay :=
  { relay with stage := Function.update relay.stage direction stage }

theorem put_stage (relay : MeteredRelay) (direction way : Direction) (stage : Stage) :
    (relay.put direction stage).stage way = Function.update relay.stage direction stage way := rfl

def openRelay (id : Int) (cost : Nat) : MeteredRelay := ⟨id, cost, fun _ => .copying .reading⟩

structure Lane where
  peer : IpAddr
  past : History
  rest : Router Unit
  relay : Option Nat

def Lane.told (lane : Lane) (op : Op) (reply : op.Reply) (rest : Router Unit) : Lane :=
  { lane with past := lane.past ++ [⟨op, reply⟩], rest := rest, relay := none }

-- The counters that the users and all relays share, the connections, every relay
-- that was ever entered, and what happened in them, the latest first.
structure Engine where
  counters : List (Option Int)
  lanes : List Lane
  relays : List MeteredRelay
  log : List (Loop Nat × Usage)

def isMetered : Op → Bool
  | .relay (some _) _ => true
  | _ => false

def counterAt (counters : List (Option Int)) (index : Nat) : Int := (counters[index]?.join).getD 0

section Steps

variable {Net : Type} (contains : Net → IpAddr → Bool) (users : List (StaticUser Net))

def ToldBy (load : Nat → Int) (event : Event) : Prop :=
  match event with
  | ⟨.authenticate username secret, reply⟩ => reply = .ok (staticAuthenticate users load username secret)
  | ⟨.authenticateByIp peer, reply⟩ => reply = .ok (staticAuthenticateByIp contains users load peer)
  | _ => True

variable (platform : Platform) (server : ProxyServer)

def openEngine : Engine := ⟨users.map StaticUser.remaining, [], [], []⟩

-- The connections, the loops of their relays and the calls on the counters take
-- their steps in any order. The sockets and the live set are free to do anything.
inductive Engine.Step : Engine → Engine → Prop
  | accept (engine : Engine) (peer : IpAddr) :
      Step engine { engine with lanes := engine.lanes ++ [⟨peer, [], connectionTask platform server peer, none⟩] }
  | answer (engine : Engine) (before after : List Lane) (lane : Lane) (op : Op) (next : op.Reply → Router Unit) (reply : op.Reply)
      (here : engine.lanes = before ++ lane :: after) (asks : lane.rest = .ask op next) (plain : isMetered op = false)
      (backed : ToldBy contains users (counterAt engine.counters) ⟨op, reply⟩) :
      Step engine { engine with lanes := before ++ lane.told op reply (next reply) :: after }
  | enter (engine : Engine) (before after : List Lane) (lane : Lane) (id : Int) (costPerByte : Rat) (cost : Nat)
      (next : Except Failure Unit → Router Unit) (here : engine.lanes = before ++ lane :: after)
      (asks : lane.rest = .ask (.relay (some id) costPerByte) next) (outside : lane.relay = none) (whole : costPerByte = cost) :
      Step engine { engine with
        lanes := before ++ { lane with relay := some engine.relays.length } :: after
        relays := engine.relays ++ [openRelay id cost] }
  | turn (engine : Engine) (before after : List Lane) (lane : Lane) (index : Nat) (relay : MeteredRelay) (direction : Direction)
      (usage : List Usage) (counters : List (Option Int)) (stage : Stage) (here : engine.lanes = before ++ lane :: after)
      (inside : lane.relay = some index) (entered : engine.relays[index]? = some relay) (running : isOpen relay.view)
      (step : Turn relay.id relay.cost engine.counters (relay.stage direction) usage counters stage) :
      Step engine { engine with
        counters := counters
        relays := engine.relays.set index (relay.put direction stage)
        log := usage.map (fun event => ((index, direction), event)) ++ engine.log }
  | leave (engine : Engine) (before after : List Lane) (lane : Lane) (index : Nat) (relay : MeteredRelay)
      (id : Int) (costPerByte : Rat)
      (next : Except Failure Unit → Router Unit) (reply : Except Failure Unit) (here : engine.lanes = before ++ lane :: after)
      (asks : lane.rest = .ask (.relay (some id) costPerByte) next) (inside : lane.relay = some index)
      (entered : engine.relays[index]? = some relay) (returns : relay.Returns reply) :
      Step engine { engine with lanes := before ++ lane.told (.relay (some id) costPerByte) reply (next reply) :: after }

end Steps

def Owned (id : Int) : Stage → Prop
  | .exchanging _ index _ => id = index + 1
  | _ => True

theorem report_usage_owned (counters : List (Option Int)) (id : Int) (chunk : Bytes) :
    Owned id (reportUsage counters id chunk) := by
  rw [reportUsage]
  by_cases negative : id - 1 < 0
  · rw [if_pos negative]
    trivial
  · rw [if_neg negative]
    split
    · change id = ((id - 1).toNat : Int) + 1
      omega
    · trivial

theorem turn_counters (id : Int) (cost : Nat) (counters later : List (Option Int)) (stage next : Stage) (usage : List Usage)
    (turn : Turn id cost counters stage usage later next) (owned : Owned id stage) : Owned id next ∧
      (later = counters ∨ ∃ (index : Nat) (cur amount : Int), id = index + 1 ∧ 0 ≤ amount ∧ counters[index]? = some (some cur) ∧
        later = counters.set index (some (nextRemaining cur amount))) := by
  cases turn with
  | copy phase next action kind step => exact ⟨trivial, .inl rfl⟩
  | call chunk => exact ⟨report_usage_owned counters id chunk, .inl rfl⟩
  | exchange chunk index cur same => exact ⟨trivial, .inr ⟨index, cur, _, owned, debit_nonneg chunk.length cost, same, rfl⟩⟩
  | retry chunk index cur observed read => exact ⟨owned, .inl rfl⟩
  | fail _ chunk reporting => exact ⟨trivial, .inl rfl⟩
  | answer chunk reply => exact ⟨trivial, .inl rfl⟩

def meteringOf (engine : Engine) : Metering Nat :=
  ⟨engine.counters, fun loop =>
    ((engine.relays[loop.1]?).map fun relay => relay.stage loop.2).getD (.copying .reading), engine.log⟩

def Assigned (id : Nat → Int) (cost : Nat → Nat) (engine : Engine) : Prop :=
  ∀ (index : Nat) (relay : MeteredRelay), engine.relays[index]? = some relay → relay.id = id index ∧ relay.cost = cost index

section Runs

variable {Net : Type} (contains : Net → IpAddr → Bool) (users : List (StaticUser Net))
    (platform : Platform) (server : ProxyServer)

theorem entered_metering (engine : Engine) (lanes : List Lane) (id : Int) (cost : Nat) :
    meteringOf { engine with lanes := lanes, relays := engine.relays ++ [openRelay id cost] } = meteringOf engine := by
  rw [meteringOf, meteringOf]
  congr 1
  funext loop
  dsimp only
  rcases Nat.lt_trichotomy loop.1 engine.relays.length with earlier | fresh | later
  · rw [List.getElem?_append_left earlier]
  · have absent : engine.relays[loop.1]? = none := List.getElem?_eq_none (Nat.le_of_eq fresh.symm)
    rw [absent, fresh, List.getElem?_concat_length]
    rfl
  · have absent : engine.relays[loop.1]? = none := List.getElem?_eq_none (Nat.le_of_lt later)
    have longer : (engine.relays ++ [openRelay id cost]).length ≤ loop.1 := by
      rw [List.length_append]
      exact later
    rw [absent, List.getElem?_eq_none longer]

theorem turned_metering (engine : Engine) (index : Nat) (relay : MeteredRelay) (direction : Direction) (usage : List Usage)
    (counters : List (Option Int)) (stage : Stage) (entered : engine.relays[index]? = some relay) :
    meteringOf { engine with
      counters := counters
      relays := engine.relays.set index (relay.put direction stage)
      log := usage.map (fun event => ((index, direction), event)) ++ engine.log } =
      turned (meteringOf engine) (index, direction) usage counters stage := by
  rw [meteringOf, turned, meteringOf]
  congr 1
  funext loop
  dsimp only
  by_cases here : loop.1 = index
  · have there := (List.getElem?_eq_some_iff.mp entered).1
    rw [here, List.getElem?_set_self there, Option.map_some, Option.getD_some, put_stage]
    by_cases same : loop.2 = direction
    · have whole : loop = (index, direction) := Prod.ext here same
      rw [same, whole, Function.update_self, Function.update_self]
    · have other : loop ≠ (index, direction) := fun whole => same (congrArg Prod.snd whole)
      rw [Function.update_of_ne same, Function.update_of_ne other, here, entered, Option.map_some, Option.getD_some]
  · have other : loop ≠ (index, direction) := fun whole => here (congrArg Prod.fst whole)
    rw [List.getElem?_set_ne (Ne.symm here), Function.update_of_ne other]

theorem assigned_before (engine next : Engine) (step : Engine.Step contains users platform server engine next) (id : Nat → Int)
    (cost : Nat → Nat) (assigned : Assigned id cost next) : Assigned id cost engine := by
  intro index relay entered
  have there := (List.getElem?_eq_some_iff.mp entered).1
  cases step with
  | accept peer => exact assigned index relay entered
  | answer before after lane op rest reply here asks plain backed => exact assigned index relay entered
  | enter before after lane own costPerByte price rest here asks outside whole =>
      refine assigned index relay ?_
      rw [List.getElem?_append_left there]
      exact entered
  | turn before after lane place moving direction usage counters stage here inside found running turn =>
      by_cases same : index = place
      · subst same
        cases entered.symm.trans found
        exact assigned index (relay.put direction stage) (List.getElem?_set_self there)
      · refine assigned index relay ?_
        rw [List.getElem?_set_ne (Ne.symm same)]
        exact entered
  | leave before after lane place moving own costPerByte rest reply here asks inside found returns =>
      exact assigned index relay entered

theorem step_meters (engine next : Engine) (step : Engine.Step contains users platform server engine next) (id : Nat → Int)
    (cost : Nat → Nat) (assigned : Assigned id cost engine) :
    meteringOf next = meteringOf engine ∨ Metering.Step id cost (meteringOf engine) (meteringOf next) := by
  cases step with
  | accept peer => exact .inl rfl
  | answer before after lane op rest reply here asks plain backed => exact .inl rfl
  | enter before after lane own costPerByte price rest here asks outside whole => exact .inl (entered_metering engine _ own price)
  | turn before after lane index relay direction usage counters stage here inside entered running turn =>
      obtain ⟨sameId, sameCost⟩ := assigned index relay entered
      have found : ∀ way, (meteringOf engine).stage (index, way) = relay.stage way := by
        intro way
        simp only [meteringOf, entered, Option.map_some, Option.getD_some]
      rw [turned_metering engine index relay direction usage counters stage entered]
      refine .inr (.turn (meteringOf engine) (index, direction) usage counters stage ?_ ?_)
      · intro way
        rw [found way]
        exact running way
      · rw [found direction, ← sameId, ← sameCost]
        exact turn
  | leave before after lane place moving own costPerByte rest reply here asks inside found returns => exact .inl rfl

theorem engine_meters (engine : Engine)
    (reached : Relation.ReflTransGen (Engine.Step contains users platform server) (openEngine users) engine)
    (id : Nat → Int) (cost : Nat → Nat) (assigned : Assigned id cost engine) :
    Relation.ReflTransGen (Metering.Step id cost) (startMetering (users.map StaticUser.remaining)) (meteringOf engine) := by
  induction reached with
  | refl => exact .refl
  | tail _ step ih =>
      have before := assigned_before contains users platform server _ _ step id cost assigned
      rcases step_meters contains users platform server _ _ step id cost before with still | moves
      · rw [still]
        exact ih before
      · exact (ih before).tail moves

end Runs

section Users

variable {Net : Type} (contains : Net → IpAddr → Bool) (users : List (StaticUser Net))

structure CountersKept (counters : List (Option Int)) : Prop where
  limited : ∀ (index : Nat) user limit, users[index]? = some user → user.remaining = some limit →
    ∃ cur, counters[index]? = some (some cur) ∧ cur ≤ limit ∧ (limit ≤ 0 → cur = limit)
  unlimited : ∀ (index : Nat) user, users[index]? = some user → user.remaining = none → counters[index]? = some none

def WithinLimits (load : Nat → Int) : Prop :=
  ∀ (index : Nat) user limit, users[index]? = some user → user.remaining = some limit → load index ≤ limit

def Entitled (peer : IpAddr) (past : History) (index : Nat) (user : StaticUser Net) : Prop :=
  users[index]? = some user ∧ ∃ account : Account, account.id = index + 1 ∧ HasAllowance account ∧
    (asked user.username user.password (.ok (some account)) ∈ past ∨
      (askedByIp peer (.ok (some account)) ∈ past ∧ (user.allowedNets.any fun net => contains net peer) = true))

def Funded (user : StaticUser Net) : Prop := ∀ limit, user.remaining = some limit → 0 < limit

theorem open_counters_kept : CountersKept users (users.map StaticUser.remaining) where
  limited := fun index user limit listed limited =>
    ⟨limit, by rw [List.getElem?_map, listed, Option.map_some, limited], le_refl limit, fun _ => rfl⟩
  unlimited := fun index user listed unlimited => by rw [List.getElem?_map, listed, Option.map_some, unlimited]

theorem counters_within (counters : List (Option Int)) (kept : CountersKept users counters) :
    WithinLimits users (counterAt counters) := by
  intro index user limit listed limited
  obtain ⟨cur, found, below, _⟩ := kept.limited index user limit listed limited
  rw [counterAt, found]
  exact below

theorem charged_counters_kept (counters : List (Option Int)) (kept : CountersKept users counters) (place : Nat) (cur amount : Int)
    (nonneg : 0 ≤ amount) (found : counters[place]? = some (some cur)) (payer : StaticUser Net)
    (listed : users[place]? = some payer)
    (funded : Funded payer) : CountersKept users (counters.set place (some (nextRemaining cur amount))) := by
  have there := (List.getElem?_eq_some_iff.mp found).1
  refine ⟨fun index user limit known limited => ?_, fun index user known unlimited => ?_⟩
  · obtain ⟨before, held, below, spent⟩ := kept.limited index user limit known limited
    by_cases here : index = place
    · subst here
      cases known.symm.trans listed
      cases held.symm.trans found
      have positive := funded limit limited
      refine ⟨_, List.getElem?_set_self there, ?_, fun none => by omega⟩
      rw [nextRemaining]
      omega
    · exact ⟨before, by rw [List.getElem?_set_ne (Ne.symm here), held], below, spent⟩
  · have held := kept.unlimited index user known unlimited
    by_cases here : index = place
    · subst here
      cases held.symm.trans found
    · rw [List.getElem?_set_ne (Ne.symm here), held]

theorem told_account (load : Nat → Int) (peer : IpAddr) (past : History) (account : Account) (allowance : HasAllowance account)
    (within : WithinLimits users load) (event : Event) (member : event ∈ past) (told : ToldBy contains users load event)
    (named : (∃ base secret, event = asked base secret (.ok (some account))) ∨ event = askedByIp peer (.ok (some account))) :
    ∃ (index : Nat) (user : StaticUser Net), account.id = index + 1 ∧
      Entitled contains users peer past index user ∧ Funded user := by
  have found : ∀ (index : Nat) (user : StaticUser Net), users[index]? = some user →
    account = accountFor load user index → Funded user := by
    intro index user listed same limit limited
    have positive : 0 < load index := allowance (load index) (by rw [same, accountFor, limited, Option.map_some])
    have below := within index user limit listed limited
    omega
  rcases named with ⟨base, secret, rfl⟩ | rfl
  · have answer : Except.ok (some account) = Except.ok (staticAuthenticate users load base secret) := told
    have hit := (Except.ok.inj answer).symm
    rw [staticAuthenticate, Option.map_eq_some_iff] at hit
    obtain ⟨⟨user, index⟩, chosen, same⟩ := hit
    obtain ⟨listed, fits⟩ := find_user_some users _ user index chosen
    rw [Bool.and_eq_true, beq_iff_eq, constant_time_eq_iff] at fits
    obtain ⟨rfl, rfl⟩ := fits
    exact ⟨index, user, by rw [← same]; rfl, ⟨listed, account, by rw [← same]; rfl, allowance, .inl member⟩,
      found index user listed same.symm⟩
  · have answer : Except.ok (some account) = Except.ok (staticAuthenticateByIp contains users load peer) := told
    have hit := (Except.ok.inj answer).symm
    rw [staticAuthenticateByIp, Option.map_eq_some_iff] at hit
    obtain ⟨⟨user, index⟩, chosen, same⟩ := hit
    obtain ⟨listed, fits⟩ := find_user_some users _ user index chosen
    exact ⟨index, user, by rw [← same]; rfl, ⟨listed, account, by rw [← same]; rfl, allowance, .inr ⟨member, fits⟩⟩,
      found index user listed same.symm⟩

theorem named_entitled (peer : IpAddr) (past : History) (id : Option Int)
    (told : ∀ event ∈ past, ∃ load, ToldBy contains users load event ∧ WithinLimits users load) (named : NamedAs peer past id) :
    ∃ (index : Nat) (user : StaticUser Net), id = some (index + 1 : Int) ∧
      Entitled contains users peer past index user ∧ Funded user := by
  obtain ⟨account, rfl, allowance, source⟩ := named
  have known : ∃ event ∈ past, (∃ base secret, event = asked base secret (.ok (some account))) ∨
    event = askedByIp peer (.ok (some account)) := by
    rcases source with ⟨base, secret, member⟩ | member
    · exact ⟨_, member, .inl ⟨base, secret, rfl⟩⟩
    · exact ⟨_, member, .inr rfl⟩
  obtain ⟨event, member, which⟩ := known
  obtain ⟨load, answered, within⟩ := told event member
  obtain ⟨index, user, same, entitled, funded⟩ :=
    told_account contains users load peer past account allowance within event member answered which
  exact ⟨index, user, congrArg some same, entitled, funded⟩

theorem entitled_later (peer : IpAddr) (past later : History) (part : past <+: later) (index : Nat) (user : StaticUser Net)
    (entitled : Entitled contains users peer past index user) : Entitled contains users peer later index user := by
  obtain ⟨listed, account, same, allowance, source⟩ := entitled
  refine ⟨listed, account, same, allowance, ?_⟩
  rcases source with login | ⟨address, inside⟩
  · exact .inl (part.subset login)
  · exact .inr ⟨part.subset address, inside⟩

end Users

section Whole

variable {Net : Type} (contains : Net → IpAddr → Bool) (users : List (StaticUser Net))
    (platform : Platform) (server : ProxyServer)

structure LaneKept (relays : List MeteredRelay) (lane : Lane) : Prop where
  run : Reaches (connectionTask platform server lane.peer) lane.past lane.rest
  told : ∀ event ∈ lane.past, ∃ load, ToldBy contains users load event ∧ WithinLimits users load
  inside : ∀ place, lane.relay = some place → ∃ relay next, relays[place]? = some relay ∧
    lane.rest = .ask (.relay (some relay.id) relay.cost) next

structure RelayKept (lanes : List Lane) (relay : MeteredRelay) : Prop where
  owned : ∀ direction, Owned relay.id (relay.stage direction)
  entitled : ∃ (index : Nat) (user : StaticUser Net), relay.id = index + 1 ∧ Funded user ∧
    ∃ lane ∈ lanes, Entitled contains users lane.peer lane.past index user

structure EngineKept (engine : Engine) : Prop where
  counters : CountersKept users engine.counters
  lanes : ∀ lane ∈ engine.lanes, LaneKept contains users platform server engine.relays lane
  relays : ∀ relay ∈ engine.relays, RelayKept contains users engine.lanes relay

def LanesGrow (lanes later : List Lane) : Prop :=
  ∀ lane ∈ lanes, ∃ grown ∈ later, grown.peer = lane.peer ∧ lane.past <+: grown.past

def RelaysGrow (relays later : List MeteredRelay) : Prop :=
  ∀ (place : Nat) relay, relays[place]? = some relay → ∃ moved, later[place]? = some moved ∧
    moved.id = relay.id ∧ moved.cost = relay.cost

theorem one_lane_grows (before after : List Lane) (lane grown : Lane) (peer : grown.peer = lane.peer)
    (past : lane.past <+: grown.past) :
    LanesGrow (before ++ lane :: after) (before ++ grown :: after) := by
  intro other member
  rcases List.mem_append.mp member with earlier | later
  · exact ⟨other, List.mem_append_left _ earlier, rfl, List.prefix_refl _⟩
  · rcases List.mem_cons.mp later with same | behind
    · exact ⟨grown, List.mem_append_right _ List.mem_cons_self, by rw [same, peer], by rw [same]; exact past⟩
    · exact ⟨other, List.mem_append_right _ (List.mem_cons_of_mem _ behind), rfl, List.prefix_refl _⟩

theorem lane_kept_later (relays later : List MeteredRelay) (grow : RelaysGrow relays later) (lane : Lane)
    (kept : LaneKept contains users platform server relays lane) : LaneKept contains users platform server later lane := by
  refine ⟨kept.run, kept.told, fun place inside => ?_⟩
  obtain ⟨relay, next, entered, asks⟩ := kept.inside place inside
  obtain ⟨moved, found, id, cost⟩ := grow place relay entered
  exact ⟨moved, next, found, by rw [id, cost, asks]⟩

theorem relay_kept_later (lanes later : List Lane) (grow : LanesGrow lanes later) (relay : MeteredRelay)
    (kept : RelayKept contains users lanes relay) : RelayKept contains users later relay := by
  obtain ⟨owned, index, user, same, funded, lane, member, entitled⟩ := kept
  obtain ⟨grown, found, peer, past⟩ := grow lane member
  refine ⟨owned, index, user, same, funded, grown, found, ?_⟩
  rw [peer]
  exact entitled_later contains users lane.peer lane.past grown.past past index user entitled

theorem told_kept (counters : List (Option Int)) (relays : List MeteredRelay) (lane : Lane)
    (op : Op) (next : op.Reply → Router Unit)
    (reply : op.Reply) (within : WithinLimits users (counterAt counters)) (asks : lane.rest = .ask op next)
    (backed : ToldBy contains users (counterAt counters) ⟨op, reply⟩)
    (kept : LaneKept contains users platform server relays lane) :
    LaneKept contains users platform server relays (lane.told op reply (next reply)) := by
  obtain ⟨run, told, _⟩ := kept
  refine ⟨?_, ?_, nofun⟩
  · have one : Reaches (.ask op next : Router Unit) [⟨op, reply⟩] (next reply) := .step op next reply [] (next reply) (.here _)
    rw [asks] at run
    exact reaches_append _ _ _ _ _ run one
  · intro event member
    rcases List.mem_append.mp member with earlier | last
    · exact told event earlier
    · rw [List.mem_singleton.mp last]
      exact ⟨counterAt counters, backed, within⟩

theorem told_engine_kept (engine : Engine) (before after : List Lane) (lane : Lane) (op : Op)
    (next : op.Reply → Router Unit) (reply : op.Reply)
    (here : engine.lanes = before ++ lane :: after) (asks : lane.rest = .ask op next)
    (backed : ToldBy contains users (counterAt engine.counters) ⟨op, reply⟩)
    (kept : EngineKept contains users platform server engine) :
    EngineKept contains users platform server { engine with lanes := before ++ lane.told op reply (next reply) :: after } := by
  obtain ⟨counters, lanes, relays⟩ := kept
  have grow := one_lane_grows before after lane (lane.told op reply (next reply)) rfl (List.prefix_append _ _)
  rw [here, List.forall_mem_append, List.forall_mem_cons] at lanes
  rw [here] at relays
  refine ⟨counters, ?_, fun relay member => relay_kept_later contains users _ _ grow relay (relays relay member)⟩
  rw [List.forall_mem_append, List.forall_mem_cons]
  exact ⟨lanes.1, told_kept contains users platform server engine.counters engine.relays lane op next reply
    (counters_within users engine.counters counters) asks backed lanes.2.1, lanes.2.2⟩

variable (auth : server.config.auth = some true)

include auth

theorem entered_engine_kept (engine : Engine) (before after : List Lane) (lane : Lane) (id : Int) (cost : Nat)
    (next : Except Failure Unit → Router Unit) (here : engine.lanes = before ++ lane :: after)
    (asks : lane.rest = .ask (.relay (some id) cost) next) (kept : EngineKept contains users platform server engine) :
    EngineKept contains users platform server { engine with
      lanes := before ++ { lane with relay := some engine.relays.length } :: after
      relays := engine.relays ++ [openRelay id cost] } := by
  obtain ⟨counters, lanes, relays⟩ := kept
  have growLanes := one_lane_grows before after lane { lane with relay := some engine.relays.length } rfl (List.prefix_refl _)
  have growRelays : RelaysGrow engine.relays (engine.relays ++ [openRelay id cost]) := fun place relay entered =>
    ⟨relay, by rw [List.getElem?_append_left (List.getElem?_eq_some_iff.mp entered).1, entered], rfl, rfl⟩
  have later := fun lane kept => lane_kept_later contains users platform server _ _ growRelays lane kept
  rw [here, List.forall_mem_append, List.forall_mem_cons] at lanes
  obtain ⟨earlier, ⟨run, told, _⟩, behind⟩ := lanes
  rw [here] at relays
  have reached := run
  rw [asks] at reached
  obtain ⟨index, user, same, entitled, funded⟩ := named_entitled contains users lane.peer lane.past (some id) told
    (task_vouched platform server lane.peer auth lane.past (.relay (some id) cost) next reached)
  refine ⟨counters, ?_, ?_⟩
  · rw [List.forall_mem_append, List.forall_mem_cons]
    refine ⟨fun lane member => later lane (earlier lane member), ⟨run, told, fun place inside => ?_⟩,
      fun lane member => later lane (behind lane member)⟩
    cases inside
    exact ⟨openRelay id cost, next, List.getElem?_concat_length, asks⟩
  · rw [List.forall_mem_append, List.forall_mem_singleton]
    refine ⟨fun relay member => relay_kept_later contains users _ _ growLanes relay (relays relay member),
      fun direction => trivial, index, user,
      Option.some.inj same, funded, _, List.mem_append_right _ List.mem_cons_self, entitled⟩

omit auth

theorem turned_engine_kept (engine : Engine) (place : Nat) (relay : MeteredRelay) (direction : Direction) (usage : List Usage)
    (counters : List (Option Int)) (stage : Stage) (log : List (Loop Nat × Usage)) (entered : engine.relays[place]? = some relay)
    (turn : Turn relay.id relay.cost engine.counters (relay.stage direction) usage counters stage)
    (kept : EngineKept contains users platform server engine) :
    EngineKept contains users platform server { engine with
      counters := counters, relays := engine.relays.set place (relay.put direction stage), log := log } := by
  obtain ⟨before, lanes, relays⟩ := kept
  have there := (List.getElem?_eq_some_iff.mp entered).1
  obtain ⟨owned, index, user, named, funded, lane, member, entitled⟩ := relays relay (List.mem_of_getElem? entered)
  obtain ⟨ownedNext, moves⟩ := turn_counters relay.id relay.cost engine.counters counters _ stage usage turn (owned direction)
  have growRelays : RelaysGrow engine.relays (engine.relays.set place (relay.put direction stage)) := by
    intro other found known
    by_cases same : other = place
    · subst same
      cases known.symm.trans entered
      exact ⟨relay.put direction stage, List.getElem?_set_self there, rfl, rfl⟩
    · exact ⟨found, by rw [List.getElem?_set_ne (Ne.symm same), known], rfl, rfl⟩
  refine ⟨?_, fun lane member => lane_kept_later contains users platform server _ _ growRelays lane (lanes lane member), ?_⟩
  · rcases moves with same | ⟨charged, cur, amount, charge, nonneg, found, same⟩
    · rw [same]
      exact before
    · have own : charged = index := by
        rw [named] at charge
        omega
      subst own
      rw [same]
      exact charged_counters_kept users engine.counters before charged cur amount nonneg found user entitled.1 funded
  · intro other found
    rcases List.mem_or_eq_of_mem_set found with kept | rfl
    · exact relays other kept
    · refine ⟨fun way => ?_, index, user, named, funded, lane, member, entitled⟩
      rw [put_stage]
      by_cases same : way = direction
      · rw [same, Function.update_self]
        exact ownedNext
      · rw [Function.update_of_ne same]
        exact owned way

include auth

theorem step_engine (engine next : Engine) (step : Engine.Step contains users platform server engine next)
    (kept : EngineKept contains users platform server engine) : EngineKept contains users platform server next := by
  cases step with
  | accept peer =>
      obtain ⟨counters, lanes, relays⟩ := kept
      have grow : LanesGrow engine.lanes (engine.lanes ++ [⟨peer, [], connectionTask platform server peer, none⟩]) :=
        fun lane member => ⟨lane, List.mem_append_left _ member, rfl, List.prefix_refl _⟩
      refine ⟨counters, ?_, fun relay member => relay_kept_later contains users _ _ grow relay (relays relay member)⟩
      rw [List.forall_mem_append, List.forall_mem_singleton]
      exact ⟨lanes, .here _, nofun, nofun⟩
  | answer before after lane op rest reply here asks plain backed =>
      exact told_engine_kept contains users platform server engine before after lane op rest reply here asks backed kept
  | enter before after lane id costPerByte cost rest here asks outside whole =>
      subst whole
      exact entered_engine_kept contains users platform server auth engine before after lane id cost rest here asks kept
  | turn before after lane place relay direction usage counters stage here inside entered running turn =>
      exact turned_engine_kept contains users platform server engine place relay direction usage counters stage _ entered turn kept
  | leave before after lane place relay id costPerByte rest reply here asks inside entered returns =>
      exact told_engine_kept contains users platform server engine before after lane
        (.relay (some id) costPerByte) rest reply here
        asks trivial kept

theorem run_engine (engine : Engine)
    (reached : Relation.ReflTransGen (Engine.Step contains users platform server) (openEngine users) engine) :
    EngineKept contains users platform server engine := by
  induction reached with
  | refl => exact ⟨open_counters_kept users, nofun, nofun⟩
  | tail _ step ih => exact step_engine contains users platform server auth _ _ step ih

def idAt (engine : Engine) (place : Nat) : Int := (engine.relays[place]?.map MeteredRelay.id).getD 0

def costAt (engine : Engine) (place : Nat) : Nat := (engine.relays[place]?.map MeteredRelay.cost).getD 0

def billed (engine : Engine) (index : Nat) : Nat := spentOn (idAt engine) (costAt engine) index engine.log

structure LaneEntitled (engine : Engine) (lane : Lane) : Prop where
  earlier : ∀ before after id costPerByte (reply : Except Failure Unit), lane.past =
    before ++ ⟨.relay id costPerByte, reply⟩ :: after →
    ∃ (index : Nat) (user : StaticUser Net), id = some (index + 1 : Int) ∧
      Entitled contains users lane.peer before index user ∧ Funded user
  inside : ∀ place, lane.relay = some place → ∃ (index : Nat) (user : StaticUser Net) (relay : MeteredRelay),
    engine.relays[place]? = some relay ∧ relay.id = index + 1 ∧
      Entitled contains users lane.peer lane.past index user ∧ Funded user

-- A user with an allowance is billed for less, each chunk on its own debit; one
-- without is not relayed for; one without a limit is only counted elsewhere.
structure UserBilled (engine : Engine) (index : Nat) (user : StaticUser Net) : Prop where
  limited : ∀ limit, user.remaining = some limit → 0 < limit → limit ≤ i64Max → billed engine index < limit ∧
    ∃ left : Nat, engine.counters[index]? = some (some (left : Int)) ∧ billed engine index + left ≤ limit
  paid : ∀ limit, user.remaining = some limit → 0 < limit → limit ≤ i64Max →
    ∀ later loop chunk earlier, idAt engine loop.1 = index + 1 →
    engine.log = later ++ (loop, .handed chunk) :: earlier → Paid index loop chunk earlier
  exhausted : ∀ limit, user.remaining = some limit → limit ≤ 0 →
    engine.counters[index]? = some (some limit) ∧ ∀ relay ∈ engine.relays, relay.id ≠ index + 1
  unlimited : user.remaining = none → engine.counters[index]? = some none

omit auth in
theorem assigned_at (engine : Engine) : Assigned (idAt engine) (costAt engine) engine := by
  intro place relay entered
  rw [idAt, costAt, entered]
  exact ⟨rfl, rfl⟩

omit auth in
theorem user_within_allowance (engine : Engine) (index : Nat) (user : StaticUser Net)
    (listed : users[index]? = some user) (limit : Int)
    (limited : user.remaining = some limit) (positive : 0 < limit) (bounded : limit ≤ i64Max)
    (reached : Relation.ReflTransGen (Engine.Step contains users platform server) (openEngine users) engine) :
    (billed engine index < limit ∧ ∃ left : Nat, engine.counters[index]? = some (some (left : Int)) ∧
      billed engine index + left ≤ limit) ∧
    ∀ later loop chunk earlier, idAt engine loop.1 = index + 1 → engine.log = later ++ (loop, .handed chunk) :: earlier →
      Paid index loop chunk earlier := by
  obtain ⟨amount, rfl⟩ := Int.eq_ofNat_of_zero_le (Int.le_of_lt positive)
  have run := engine_meters contains users platform server engine reached _ _ (assigned_at engine)
  have found : (users.map StaticUser.remaining)[index]? = some (some (amount : Int)) := by
    rw [List.getElem?_map, listed, Option.map_some, limited]
  have opened : ledger (idAt engine) (costAt engine) index (startMetering (users.map StaticUser.remaining)) =
    Allowance.start amount := by
    simp only [ledger, startMetering, remaining_of_limited index _ amount found, Allowance.start, spentOn, heldBy]
  have start : Tracked (idAt engine) index (startMetering (users.map StaticUser.remaining)) :=
    ⟨⟨amount, found, bounded⟩, fun _ => trivial⟩
  obtain ⟨tracked, charges⟩ := run_tracked _ (costAt engine) index _ _ start run
  rw [opened] at charges
  have safe := Allowance.run_safe_among amount (by omega) _ charges
  have covered := safe.covered ∅
  have strict := safe.strict ∅
  obtain ⟨left, held, _⟩ := tracked.limited
  rw [Finset.sum_empty] at covered strict
  rw [ledger, remaining_of_limited index _ left held] at covered
  refine ⟨⟨?_, left, held, ?_⟩, (run_recorded _ (costAt engine) index _ _ start (start_recorded _ index _) run).paid⟩
  · exact Int.ofNat_lt.mpr strict
  · exact Int.ofNat_le.mpr covered

structure AllowancesHold (engine : Engine) : Prop where
  lanes : ∀ lane ∈ engine.lanes, LaneEntitled contains users engine lane
  relays : ∀ relay ∈ engine.relays, ∃ (index : Nat) (user : StaticUser Net), relay.id = index + 1 ∧ Funded user ∧
    ∃ lane ∈ engine.lanes, Entitled contains users lane.peer lane.past index user
  users : ∀ (index : Nat) user, users[index]? = some user → UserBilled engine index user

theorem allowances_hold (engine : Engine)
    (reached : Relation.ReflTransGen (Engine.Step contains users platform server) (openEngine users) engine) :
    AllowancesHold contains users engine := by
  obtain ⟨counters, lanes, relays⟩ := run_engine contains users platform server auth engine reached
  refine ⟨fun lane member => ⟨?_, ?_⟩, fun relay member => (relays relay member).entitled,
    fun index user listed => ⟨?_, ?_, ?_, ?_⟩⟩
  · intro before after id costPerByte reply split
    obtain ⟨run, told, _⟩ := lanes lane member
    rw [split] at run told
    obtain ⟨next, asked⟩ := reaches_event _ _ before after (.relay id costPerByte) reply run
    exact named_entitled contains users lane.peer before id (fun event early => told event (List.mem_append_left _ early))
      (task_vouched platform server lane.peer auth before (.relay id costPerByte) next asked)
  · intro place inside
    obtain ⟨run, told, entered⟩ := lanes lane member
    obtain ⟨relay, next, found, asks⟩ := entered place inside
    rw [asks] at run
    obtain ⟨index, user, same, entitled, funded⟩ := named_entitled contains users lane.peer lane.past (some relay.id) told
      (task_vouched platform server lane.peer auth lane.past (.relay (some relay.id) relay.cost) next run)
    exact ⟨index, user, relay, found, Option.some.inj same, entitled, funded⟩
  · exact fun limit limited positive bounded =>
      (user_within_allowance contains users platform server engine index user listed limit limited positive bounded reached).1
  · exact fun limit limited positive bounded =>
      (user_within_allowance contains users platform server engine index user listed limit limited positive bounded reached).2
  · intro limit limited spent
    obtain ⟨cur, found, _, same⟩ := counters.limited index user limit listed limited
    refine ⟨by rw [found, same spent], fun relay member named => ?_⟩
    obtain ⟨other, payer, own, funded, _, _, entitled⟩ := (relays relay member).entitled
    have here : other = index := by
      rw [named] at own
      omega
    subst here
    cases entitled.1.symm.trans listed
    exact absurd (funded limit limited) (Int.not_lt.mpr spent)
  · exact counters.unlimited index user listed

end Whole

section Examples

theorem answers_in_engine {Net : Type} (contains : Net → IpAddr → Bool) (users : List (StaticUser Net)) (platform : Platform)
    (server : ProxyServer) (start rest : Router Unit) (trace : History) (run : Reaches start trace rest) (engine : Engine)
    (before after : List Lane) (peer : IpAddr) (past : History) (here : engine.lanes =
      before ++ ⟨peer, past, start, none⟩ :: after)
    (plain : ∀ event ∈ trace, isMetered event.1 = false ∧ ToldBy contains users (counterAt engine.counters) event) :
    Relation.ReflTransGen (Engine.Step contains users platform server) engine
      { engine with lanes := before ++ ⟨peer, past ++ trace, rest, none⟩ :: after } := by
  induction run generalizing engine past with
  | here program =>
      rw [List.append_nil, ← here]
  | step op next reply trace rest later ih =>
      rw [List.forall_mem_cons] at plain
      have one : Engine.Step contains users platform server engine
          { engine with lanes := before ++ ⟨peer, past ++ [⟨op, reply⟩], next reply, none⟩ :: after } :=
        .answer engine before after ⟨peer, past, .ask op next, none⟩ op next reply here rfl plain.1.1 plain.1.2
      have tail := ih { engine with lanes := before ++ ⟨peer, past ++ [⟨op, reply⟩], next reply, none⟩ :: after }
        (past ++ [⟨op, reply⟩]) rfl
        plain.2
      rw [List.append_assoc] at tail
      exact .head one tail

def rationedUser : StaticUser Unit := ⟨"guest".toList, "pw".toList, some 3, [()], none⟩
def anywhere : Unit → IpAddr → Bool := fun _ _ => true
def rationedAccount : Account := ⟨1, some 3, none⟩

def rationedRun : History :=
  [⟨.read 8192, .ok ⟨connectFour, connect_four_short⟩⟩, askedByIp caller (.ok (some rationedAccount)),
    ⟨.load, ([socks4Hop], ⟨0, id, fun _ _ => 0⟩)⟩, askedByIp caller (.ok (some rationedAccount)), ⟨.dial "10.0.0.1:1080", .ok ()⟩,
    sent (.raw connectFour), receivedExact 8 ⟨grantedFour, granted_four_exact⟩, ⟨.reply grantedFour, .ok ()⟩,
    ⟨.record true, ()⟩]

theorem rationed_run : ∃ next, Reaches (connectionTask standard openServer caller) rationedRun (.ask (.relay (some 1) 1) next) :=
  ⟨_, .step _ _ _ _ _ (.step _ _ _ _ _ (.step _ _ _ _ _ (.step _ _ _ _ _ (.step _ _ _ _ _ (.step _ _ _ _ _
    (.step _ _ _ _ _ (.step _ _ _ _ _ (.step _ _ _ _ _ (.here _)))))))))⟩

theorem rationed_run_told : ∀ event ∈ rationedRun, isMetered event.1 = false ∧
    ToldBy anywhere [rationedUser] (counterAt [some 3]) event := by
  simp only [rationedRun, List.forall_mem_cons]
  exact ⟨⟨rfl, trivial⟩, ⟨rfl, rfl⟩, ⟨rfl, trivial⟩, ⟨rfl, rfl⟩, ⟨rfl, trivial⟩, ⟨rfl, trivial⟩,
    ⟨rfl, trivial⟩, ⟨rfl, trivial⟩, ⟨rfl, trivial⟩,
    nofun⟩

def byteRead : MeteredRelay := (openRelay 1 1).put .toUpstream (.copying (.reporting [71]))
def byteLoaded : MeteredRelay := byteRead.put .toUpstream (.exchanging [71] 0 3)
def byteDebited : MeteredRelay := byteLoaded.put .toUpstream (.returned [71] (.ok (some 2)))
def byteHanded : MeteredRelay := byteDebited.put .toUpstream (.copying (.writing [71]))

def rationedLog : List (Loop Nat × Usage) := [((0, .toUpstream), .handed [71]), ((0, .toUpstream), .debited [71] 0 2)]

theorem rationed_reached :
    ∃ lane, Relation.ReflTransGen (Engine.Step anywhere [rationedUser] standard openServer) (openEngine [rationedUser])
    ⟨[some 2], [lane], [byteHanded], rationedLog⟩ := by
  obtain ⟨next, run⟩ := rationed_run
  have accepted : Engine.Step anywhere [rationedUser] standard openServer (openEngine [rationedUser])
      ⟨[some 3], [⟨caller, [], connectionTask standard openServer caller, none⟩], [], []⟩ := .accept _ caller
  have answered := answers_in_engine anywhere [rationedUser] standard openServer _ _ _ run
    ⟨[some 3], [⟨caller, [], connectionTask standard openServer caller, none⟩], [], []⟩ [] [] caller [] rfl rationed_run_told
  let lane : Lane := ⟨caller, rationedRun, .ask (.relay (some 1) 1) next, some 0⟩
  have entered : Engine.Step anywhere [rationedUser] standard openServer
      ⟨[some 3], [⟨caller, rationedRun, .ask (.relay (some 1) 1) next, none⟩], [], []⟩ ⟨[some 3], [lane], [openRelay 1 1], []⟩ :=
    .enter _ [] [] ⟨caller, rationedRun, .ask (.relay (some 1) 1) next, none⟩ 1 1 1 next rfl rfl rfl Nat.cast_one.symm
  have turns : ∀ counters relay usage later stage log, isOpen relay.view →
    Turn relay.id relay.cost counters (relay.stage .toUpstream) usage later stage →
      Engine.Step anywhere [rationedUser] standard openServer ⟨counters, [lane], [relay], log⟩
        ⟨later, [lane], [relay.put .toUpstream stage], usage.map (fun event => ((0, .toUpstream), event)) ++ log⟩ :=
    fun counters relay usage later stage log running turn =>
      .turn ⟨counters, [lane], [relay], log⟩ [] [] lane 0 relay .toUpstream usage later
      stage rfl rfl rfl running turn
  refine ⟨lane, .head accepted (answered.trans (.head entered ?_))⟩
  refine .head (turns [some 3] (openRelay 1 1) [] _ _ [] (both_open _ rfl rfl)
    (.copy _ .reading (.reporting [71]) (.read [71]) rfl rfl)) ?_
  refine .head (turns [some 3] byteRead [] _ _ [] (both_open _ rfl rfl) (.call _ [71])) ?_
  refine .head (turns [some 3] byteLoaded _ _ _ [] (both_open _ rfl rfl) (.exchange _ [71] 0 3 rfl)) ?_
  exact .single (turns [some 2] byteDebited _ _ _ _ (both_open _ rfl rfl) (.answer _ [71] (.ok (some 2))))

theorem rationed_allowance_holds : ∃ engine, AllowancesHold anywhere [rationedUser] engine ∧ billed engine 0 = 1 := by
  obtain ⟨lane, reached⟩ := rationed_reached
  exact ⟨_, allowances_hold anywhere [rationedUser] standard openServer rfl _ reached, rfl⟩

end Examples

end Purroute
