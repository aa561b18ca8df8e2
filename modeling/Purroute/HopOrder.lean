import Purroute.Handshake

set_option autoImplicit false

namespace Purroute

open Interaction Interaction.Program

def hopTarget (chain : List ProxyConfig) (host : Str) (port : UInt16) (i : Nat) : Except Failure (Str × UInt16) :=
  match chain[i + 1]? with
  | some next => parseAddress (getUpstreamAddr next)
  | none => .ok (host, port)

structure Hop where
  proxy : ProxyConfig
  target : Except Failure (Str × UInt16)

def plan (chain : List ProxyConfig) (host : Str) (port : UInt16) : List Hop :=
  chain.mapIdx fun i proxy => ⟨proxy, hopTarget chain host port i⟩

def HopAccepted (hop : Hop) (segment : History) : Prop :=
  ∃ host port, hop.target = .ok (host, port) ∧ Accepted hop.proxy host port segment

def dialled (address : Str) : Event := ⟨.dial address, (.ok () : Except Fault Unit)⟩

-- Part of the way through the plan: earlier hops have accepted, the current one
-- is spoken to with its own messages, and the later ones have seen nothing.
structure Underway (hops : List Hop) (conversation : History) (state : Router Unit) (visited : List Hop) (current : Hop)
    (pending : List Hop) (segments : List History) (own : History) : Prop where
  order : hops = visited ++ current :: pending
  accepted : List.Forall₂ HopAccepted visited segments
  split : conversation = segments.flatten ++ own
  unfinished : state ≠ .done ()
  unparsed : ∀ failure, current.target = .error failure → own = [] ∧ state = .fail failure
  confined : ∀ host port, current.target = .ok (host, port) →
    (∀ event ∈ own, HopOp current.proxy host port event.1) ∧
      ∀ op next, state = .ask op next → HopOp current.proxy host port op

structure Finished (hops : List Hop) (conversation : History) (state : Router Unit) (segments : List History) : Prop where
  accepted : List.Forall₂ HopAccepted hops segments
  split : conversation = segments.flatten
  done : state = .done ()

section Plan

variable (host : Str) (port : UInt16)

theorem plan_one (proxy : ProxyConfig) : plan [proxy] host port = [⟨proxy, .ok (host, port)⟩] := rfl

theorem plan_cons (proxy next : ProxyConfig) (rest : List ProxyConfig) :
    plan (proxy :: next :: rest) host port =
      ⟨proxy, parseAddress (getUpstreamAddr next)⟩ :: plan (next :: rest) host port := by
  simp only [plan, List.mapIdx_cons]
  rfl

theorem parse_address_iff (address : Str) : parseAddress address = .ok (host, port) ↔
    ∃ digits, address = host ++ ':' :: digits ∧ ':' ∉ digits ∧ parseU16 digits = some port := by
  constructor
  · intro parsed
    rw [parseAddress] at parsed
    cases split : rsplitOnce ':' address with
    | none => simp [split] at parsed
    | some pair =>
        obtain ⟨same, absent⟩ := rsplit_once_some _ _ _ _ split
        cases number : parseU16 pair.2 with
        | none => simp [split, number] at parsed
        | some value =>
            simp only [split, number, Except.ok.injEq, Prod.mk.injEq] at parsed
            obtain ⟨rfl, rfl⟩ := parsed
            exact ⟨pair.2, same, absent, number⟩
  · rintro ⟨digits, rfl, absent, number⟩
    simp [parseAddress, rsplit_once_append _ _ _ absent, number]

theorem parse_upstream_addr (proxy : ProxyConfig) (configured : proxy.port = some port) :
    parseAddress (getUpstreamAddr proxy) = .ok (proxy.address, port) := by
  rw [parse_address_iff]
  refine ⟨toDecimal port.toNat, ?_, decimal_absent ':' _ (by decide), parse_u16_decimal port⟩
  simp [getUpstreamAddr, configured]

end Plan

section Visits

variable (host : Str) (port : UInt16)

theorem within_hop (proxy : ProxyConfig) (target : Str) (q : UInt16) (pending : List Hop) (next : Unit → Router Unit)
    (trace : History) (middle : Router Unit) (reached : Reaches (connectThroughProxy proxy target q) trace middle)
    (open' : ∀ value, middle ≠ .done value) :
    Underway (⟨proxy, .ok (target, q)⟩ :: pending) trace (middle.bind next) [] ⟨proxy, .ok (target, q)⟩ pending [] trace := by
  obtain ⟨events, more⟩ := uses_event _ _ _ (connect_through_proxy_uses proxy target q) reached
  refine ⟨rfl, .nil, rfl, ?_, ?_, ?_⟩
  · cases middle with
    | done value => exact absurd rfl (open' value)
    | fail error => simp
    | ask op body => simp
  · intro failure failed
    cases failed
  · rintro _ _ ⟨⟩
    refine ⟨events, ?_⟩
    cases middle with
    | done value => exact absurd rfl (open' value)
    | fail error => simp
    | ask op body =>
        rintro _ _ ⟨⟩
        exact more.1

theorem underway_later (hop : Hop) (segment : History) (hops : List Hop) (conversation : History) (state : Router Unit)
    (visited : List Hop) (current : Hop) (pending : List Hop) (segments : List History) (own : History)
    (accepted : HopAccepted hop segment) (later : Underway hops conversation state visited current pending segments own) :
    Underway (hop :: hops) (segment ++ conversation) state (hop :: visited) current pending (segment :: segments) own where
  order := by rw [later.order, List.cons_append]
  accepted := .cons accepted later.accepted
  split := by rw [later.split, List.flatten_cons, List.append_assoc]
  unfinished := later.unfinished
  unparsed := later.unparsed
  confined := later.confined

theorem connect_hops_states (proxy : ProxyConfig) (rest : List ProxyConfig) (trace : History) (state : Router Unit)
    (reached : Reaches (connectHops (proxy :: rest) host port) trace state) :
    (∃ visited current pending segments own,
      Underway (plan (proxy :: rest) host port) trace state visited current pending segments own) ∨
      ∃ segments, Finished (plan (proxy :: rest) host port) trace state segments := by
  induction rest generalizing proxy trace with
  | nil =>
      rw [plan_one]
      cases state with
      | done value =>
          have accepted := connect_through_proxy_ok proxy host port trace reached
          exact .inr ⟨[trace], .cons ⟨host, port, rfl, accepted⟩ .nil, by simp, rfl⟩
      | fail error => exact .inl ⟨_, _, _, _, _, within_hop proxy host port [] .done trace _ reached (by simp)⟩
      | ask op next =>
          have underway := within_hop proxy host port [] .done trace _ reached (by simp)
          rw [bind_done] at underway
          exact .inl ⟨_, _, _, _, _, underway⟩
  | cons next rest ih =>
      rw [plan_cons]
      cases parsed : parseAddress (getUpstreamAddr next) with
      | error failure =>
          simp only [connectHops, parsed, ofExcept_error, bind_eq, fail_bind] at reached
          obtain ⟨rfl, rfl⟩ := reaches_fail _ _ _ reached
          exact .inl ⟨[], ⟨proxy, .error failure⟩, plan (next :: rest) host port, [], [],
            rfl, .nil, rfl, by simp, by rintro _ ⟨⟩; simp, by simp⟩
      | ok target =>
          obtain ⟨nextHost, nextPort⟩ := target
          simp only [connectHops, parsed, ofExcept_ok, bind_eq, done_bind] at reached
          have onward : ∀ before after, Runs (connectThroughProxy proxy nextHost nextPort) before (.ok ()) →
              Reaches (connectHops (next :: rest) host port) after state → trace = before ++ after →
              (∃ visited current pending segments own,
                Underway (⟨proxy, .ok (nextHost, nextPort)⟩ :: plan (next :: rest) host port)
                trace state visited current pending segments own) ∨
              ∃ segments, Finished (⟨proxy, .ok (nextHost, nextPort)⟩ :: plan (next :: rest) host port) trace state segments := by
            rintro before after handshake tail rfl
            have accepted : HopAccepted ⟨proxy, .ok (nextHost, nextPort)⟩ before :=
              ⟨nextHost, nextPort, rfl, connect_through_proxy_ok _ _ _ _ handshake⟩
            rcases ih next after tail with ⟨visited, current, pending, segments, own, later⟩ | ⟨segments, later⟩
            · exact .inl ⟨_, _, _, _, _, underway_later _ _ _ _ _ _ _ _ _ _ accepted later⟩
            · exact .inr ⟨before :: segments, .cons accepted later.accepted, by rw [later.split, List.flatten_cons], later.done⟩
          rcases reaches_bind _ _ _ _ reached with ⟨middle, part, rfl⟩ | ⟨_, before, after, same, handshake, tail⟩
          · by_cases finished : middle = .done ()
            · subst finished
              exact onward trace [] part (.here _) (by simp)
            · exact .inl ⟨_, _, _, _, _, within_hop proxy nextHost nextPort _ _ trace middle part fun _ same => finished same⟩
          · exact onward before after handshake tail same

theorem connect_hops_resume (chain : List ProxyConfig) (visited : List Hop) (current : Hop) (pending : List Hop)
    (segments : List History) (order : plan chain host port = visited ++ current :: pending)
    (accepted : List.Forall₂ HopAccepted visited segments) :
    ∃ proxy rest, plan (proxy :: rest) host port = current :: pending ∧
      Reaches (connectHops chain host port) segments.flatten (connectHops (proxy :: rest) host port) := by
  induction accepted generalizing chain with
  | nil =>
      cases chain with
      | nil => cases order
      | cons proxy rest => exact ⟨proxy, rest, order, .here _⟩
  | cons first later ih =>
      rename_i hop segment hops segments
      rcases chain with _ | ⟨proxy, _ | ⟨next, rest⟩⟩
      · cases order
      · rw [plan_one] at order
        have length := congrArg List.length order
        simp at length
      · rw [plan_cons] at order
        obtain ⟨rfl, remaining⟩ := List.cons.inj order
        obtain ⟨nextHost, nextPort, parsed, handshake⟩ := first
        dsimp only at parsed handshake
        obtain ⟨other, rest', same, tail⟩ := ih (next :: rest) remaining
        refine ⟨other, rest', same, ?_⟩
        simp only [connectHops, parsed, ofExcept_ok, bind_eq, done_bind, List.flatten_cons]
        exact runs_bind_ok _ _ _ _ () _ (accepted_runs _ _ _ _ handshake) tail

theorem connect_hops_head (proxy : ProxyConfig) (rest : List ProxyConfig) (current : Hop) (pending : List Hop)
    (order : plan (proxy :: rest) host port = current :: pending) :
    (∀ failure, current.target = .error failure → connectHops (proxy :: rest) host port = .fail failure) ∧
      ∀ nextHost nextPort, current.target = .ok (nextHost, nextPort) →
        ∃ next, connectHops (proxy :: rest) host port = (connectThroughProxy current.proxy nextHost nextPort).bind next := by
  cases rest with
  | nil =>
      rw [plan_one] at order
      obtain ⟨rfl, rfl⟩ := List.cons.inj order
      refine ⟨by simp, ?_⟩
      rintro _ _ ⟨⟩
      exact ⟨.done, by simp [connectHops, bind_done]⟩
  | cons next rest =>
      rw [plan_cons] at order
      obtain ⟨rfl, _⟩ := List.cons.inj order
      constructor
      · intro failure unparsed
        dsimp only at unparsed
        simp [connectHops, unparsed]
      · intro nextHost nextPort parsed
        dsimp only at parsed
        exact ⟨fun _ => connectHops (next :: rest) host port, by simp [connectHops, parsed]⟩

structure VisitsInOrder (first : ProxyConfig) (rest : List ProxyConfig) (host : Str) (port : UInt16) : Prop where
  dials : ∀ trace state, Reaches (connectChain (first :: rest) host port) trace state →
    trace = [] ∨ ∃ reply conversation, trace = ⟨.dial (getUpstreamAddr first), reply⟩ :: conversation ∧
      ∀ event ∈ conversation, ∀ address, event.1 ≠ .dial address
  written : ∀ before message reply after state,
    Reaches (connectChain (first :: rest) host port) (before ++ ⟨.send message, reply⟩ :: after) state →
    ∃ visited current pending segments own nextHost nextPort,
      plan (first :: rest) host port = visited ++ current :: pending ∧ List.Forall₂ HopAccepted visited segments ∧
      before = dialled (getUpstreamAddr first) :: (segments.flatten ++ own) ∧ current.target = .ok (nextHost, nextPort) ∧
      (∀ event ∈ own, HopOp current.proxy nextHost nextPort event.1) ∧ message ∈ messagesOf current.proxy nextHost nextPort
  failed : ∀ visited current pending segments own nextHost nextPort failure more state,
    plan (first :: rest) host port = visited ++ current :: pending → List.Forall₂ HopAccepted visited segments →
    current.target = .ok (nextHost, nextPort) → Runs (connectThroughProxy current.proxy nextHost nextPort) own (.error failure) →
    Reaches (connectChain (first :: rest) host port)
      (dialled (getUpstreamAddr first) :: (segments.flatten ++ own) ++ more) state → more = [] ∧ state = .fail failure
  unparsed : ∀ visited current pending segments failure more state,
    plan (first :: rest) host port = visited ++ current :: pending → List.Forall₂ HopAccepted visited segments →
    current.target = .error failure →
    Reaches (connectChain (first :: rest) host port)
      (dialled (getUpstreamAddr first) :: segments.flatten ++ more) state → more = [] ∧ state = .fail failure
  established : ∀ trace, Runs (connectChain (first :: rest) host port) trace (.ok ()) →
    ∃ segments, List.Forall₂ HopAccepted (plan (first :: rest) host port) segments ∧
      trace = dialled (getUpstreamAddr first) :: segments.flatten

-- Where each hop is sent: the address of the next one, cut at its last colon.
structure NamesHops (chain : List ProxyConfig) (host : Str) (port : UInt16) : Prop where
  proxies : (plan chain host port).map Hop.proxy = chain
  next : ∀ i proxy hop, chain[i + 1]? = some proxy → (plan chain host port)[i]? = some hop →
    hop.target = parseAddress (getUpstreamAddr proxy)
  last : ∀ hop, (plan chain host port).getLast? = some hop → hop.target = .ok (host, port)
  lastColon : ∀ address nextHost nextPort, parseAddress address = .ok (nextHost, nextPort) ↔
    ∃ digits, address = nextHost ++ ':' :: digits ∧ ':' ∉ digits ∧ parseU16 digits = some nextPort
  configured : ∀ proxy q, proxy.port = some q → parseAddress (getUpstreamAddr proxy) = .ok (proxy.address, q)

section Chains

variable (first : ProxyConfig) (rest : List ProxyConfig) (host : Str) (port : UInt16)

theorem connect_chain_states (trace : History) (state : Router Unit)
    (reached : Reaches (connectChain (first :: rest) host port) trace state) :
    (trace = [] ∧ ∃ next, state = .ask (.dial (getUpstreamAddr first)) next) ∨
      (∃ fault failure, trace = [⟨.dial (getUpstreamAddr first), (.error fault : Except Fault Unit)⟩] ∧ state = .fail failure) ∨
      ∃ conversation, trace = dialled (getUpstreamAddr first) :: conversation ∧
        Reaches (connectHops (first :: rest) host port) conversation state := by
  rcases reaches_ask _ _ _ _ reached with ⟨rfl, rfl⟩ | ⟨reply, later, rfl, tail⟩
  · exact .inl ⟨rfl, _, rfl⟩
  · cases reply with
    | ok value => exact .inr (.inr ⟨later, rfl, tail⟩)
    | error fault =>
        have stopped : ∃ failure, (io (.error fault : Except Fault Unit)) = .fail failure := by
          cases fault <;> exact ⟨_, rfl⟩
        obtain ⟨failure, same⟩ := stopped
        change Reaches ((io (.error fault : Except Fault Unit)).bind _) later state at tail
        rw [same, fail_bind] at tail
        obtain ⟨rfl, rfl⟩ := reaches_fail _ _ _ tail
        exact .inr (.inl ⟨fault, failure, rfl, rfl⟩)

theorem connect_chain_dialled (conversation : History) (state : Router Unit)
    (reached : Reaches (connectChain (first :: rest) host port) (dialled (getUpstreamAddr first) :: conversation) state) :
    Reaches (connectHops (first :: rest) host port) conversation state := by
  rcases connect_chain_states first rest host port _ _ reached with ⟨same, _⟩ | ⟨fault, _, same, _⟩ | ⟨other, same, tail⟩
  · cases same
  · cases same
  · cases same
    exact tail

theorem hop_not_dial (proxy : ProxyConfig) (op : Op) (address : Str) (own : HopOp proxy host port op) : op ≠ .dial address := by
  rintro rfl
  exact own

theorem chain_uses : Uses (fun op : Op => ∀ address, op ≠ .dial address) (connectHops (first :: rest) host port) := by
  have step : ∀ proxy target q, Uses (fun op : Op => ∀ address, op ≠ Op.dial address) (connectThroughProxy proxy target q) := by
    intro proxy target q
    exact uses_mono _ _ (fun op own address => hop_not_dial target q proxy op address own)
      (connect_through_proxy_uses proxy target q)
  induction rest generalizing first with
  | nil => exact step first host port
  | cons next rest ih =>
      refine uses_bind _ _ (uses_ofExcept _) fun target => ?_
      exact uses_bind _ _ (step first target.1 target.2) fun _ => ih next

theorem visits_in_order : VisitsInOrder first rest host port where
  dials := by
    intro trace state reached
    rcases connect_chain_states first rest host port _ _ reached with ⟨rfl, _⟩ | ⟨fault, _, rfl, _⟩ | ⟨conversation, rfl, tail⟩
    · exact .inl rfl
    · exact .inr ⟨_, [], rfl, by simp⟩
    · exact .inr ⟨_, conversation, rfl, (uses_event _ _ _ (chain_uses first rest host port) tail).1⟩
  written := by
    intro before message reply after state reached
    obtain ⟨next, asked⟩ := reaches_event _ _ _ _ _ _ reached
    rcases connect_chain_states first rest host port _ _ asked with ⟨_, next, mismatch⟩ |
      ⟨_, _, _, mismatch⟩ | ⟨conversation, rfl, tail⟩
    · cases mismatch
    · cases mismatch
    · rcases connect_hops_states host port first rest _ _ tail with ⟨visited, current, pending,
        segments, own, under⟩ | ⟨_, finished⟩
      · cases target : current.target with
        | error failure => cases (under.unparsed failure target).2
        | ok pair =>
            obtain ⟨events, request⟩ := under.confined pair.1 pair.2 target
            exact ⟨visited, current, pending, segments, own, pair.1, pair.2, under.order, under.accepted,
              by rw [under.split], target, events, request _ _ rfl⟩
      · cases finished.done
  failed := by
    intro visited current pending segments own nextHost nextPort failure more state order accepted target handshake reached
    rw [List.cons_append, List.append_assoc] at reached
    have conversation := connect_chain_dialled first rest host port _ _ reached
    obtain ⟨proxy, rest', same, resumed⟩ := connect_hops_resume host port _ visited current pending segments order accepted
    obtain ⟨next, body⟩ := (connect_hops_head host port proxy rest' current pending same).2 nextHost nextPort target
    have onward := reaches_split _ _ _ _ _ resumed conversation
    rw [body] at onward
    have stopped := reaches_split _ _ _ _ _ (reaches_bind_first _ _ next _ handshake) onward
    exact reaches_fail _ _ _ stopped
  unparsed := by
    intro visited current pending segments failure more state order accepted target reached
    have conversation := connect_chain_dialled first rest host port _ _ reached
    obtain ⟨proxy, rest', same, resumed⟩ := connect_hops_resume host port _ visited current pending segments order accepted
    have onward := reaches_split _ _ _ _ _ resumed conversation
    rw [(connect_hops_head host port proxy rest' current pending same).1 failure target] at onward
    exact reaches_fail _ _ _ onward
  established := by
    intro trace run
    rcases connect_chain_states first rest host port _ _ run with ⟨_, next, mismatch⟩ |
      ⟨_, _, _, mismatch⟩ | ⟨conversation, rfl, tail⟩
    · cases mismatch
    · cases mismatch
    · rcases connect_hops_states host port first rest _ _ tail with ⟨visited, current, pending,
        segments, own, under⟩ | ⟨segments, finished⟩
      · exact absurd rfl under.unfinished
      · exact ⟨segments, finished.accepted, by rw [finished.split]⟩

theorem names_hops (chain : List ProxyConfig) : NamesHops chain host port where
  proxies := by
    apply List.ext_getElem
    · simp [plan]
    · intro i _ _
      simp [plan]
  next := by
    intro i proxy hop later here
    simp only [plan, List.getElem?_mapIdx, Option.map_eq_some_iff] at here
    obtain ⟨_, _, rfl⟩ := here
    simp [hopTarget, later]
  last := by
    intro hop final
    rw [List.getLast?_eq_getElem?] at final
    simp only [plan, List.getElem?_mapIdx, List.length_mapIdx, Option.map_eq_some_iff] at final
    obtain ⟨_, _, rfl⟩ := final
    have beyond : chain[chain.length - 1 + 1]? = none := List.getElem?_eq_none (by omega)
    simp [hopTarget, beyond]
  lastColon := fun address nextHost nextPort => parse_address_iff nextHost nextPort address
  configured := fun proxy q set => parse_upstream_addr q proxy set

theorem connect_chain_visits_in_order :
    VisitsInOrder first rest host port ∧ NamesHops (first :: rest) host port :=
  ⟨visits_in_order first rest host port, names_hops host port (first :: rest)⟩

end Chains

end Visits

end Purroute
