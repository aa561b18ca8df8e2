import Purroute.ChainModes
import Purroute.ExitSelection
import Purroute.Gauge
import Purroute.Passage
import Purroute.Refresh

set_option autoImplicit false

namespace Purroute

open Interaction Interaction.Program

-- A row of `public.upstreams`, as far as it is read.
structure UpstreamRow where
  label : Option Str
  proxyType : Str
  address : Str
  port : Option Int
  username : Option Str
  password : Option Str
  country : Option Str
  state : Option Str
  city : Option Str
  isp : Option Str
  kind : Option Str
  costPerByte : Rat
  enabled : Bool
  expiresAt : Option Int
deriving DecidableEq, Repr

def protocolFromStr (s : Str) : Protocol :=
  let lower := s.map Char.toLower
  if lower = "http".toList then .http
  else if lower = "https".toList then .https
  else if lower = "socks4".toList then .socks4
  else .socks5

-- `u16::try_from(p).ok()`
def portOf (port : Int) : Option UInt16 := if 0 ≤ port ∧ port < 65536 then some (UInt16.ofNat port.toNat) else none

def buildProxy (label : Option Str) (proxyType address : Str) (port : Option Int)
    (username password country state city isp kind : Option Str) (costPerByte : Rat) : ProxyConfig :=
  ⟨label, protocolFromStr proxyType, address, port.bind portOf, username, password,
    ⟨country, state, city, isp, kind⟩, costPerByte, none⟩

def rowToProxy (row : UpstreamRow) : ProxyConfig :=
  buildProxy row.label row.proxyType row.address row.port row.username row.password
    row.country row.state row.city row.isp row.kind row.costPerByte

-- `enabled = true AND (expires_at IS NULL OR expires_at > now())`
def selected (now : Int) (row : UpstreamRow) : Bool := row.enabled && row.expiresAt.all fun expiry => decide (now < expiry)

-- One answer to the query: without an order, any order of the rows selected.
structure Load where
  now : Int
  rows : List UpstreamRow

def Load.Answers (load : Load) (table : List UpstreamRow) : Prop := load.rows.Perm (table.filter (selected load.now))

def Load.proxies (load : Load) : List ProxyConfig := load.rows.map rowToProxy

def liveAfter (staticUpstreams : List ProxyConfig) (loads : List Load) : List ProxyConfig :=
  refreshed staticUpstreams (loads.map Load.proxies)

-- A connection task, and the loads that had succeeded whenever it took the live set.
structure Visitor where
  peer : IpAddr
  past : History
  rest : Router Unit
  seen : List (List Load)

-- The table that somebody else edits, the clock, the live set with the loads
-- that have succeeded so far, and the connections.
structure Site where
  table : List UpstreamRow
  now : Int
  live : List ProxyConfig
  loads : List Load
  visitors : List Visitor

def isLoad : Op → Bool
  | .load => true
  | _ => false

def loadedLive : Event → Option (List ProxyConfig)
  | ⟨.load, (live, _)⟩ => some live
  | _ => none

section Steps

variable (platform : Platform) (server : ProxyServer) (staticUpstreams : List ProxyConfig)
    (database : Bool) (upstreamRefreshSecs : Option Nat)

-- The first load is made in front of everything else. The task that makes the
-- others dies at once of an interval of zero.
def mayLoad (site : Site) : Prop :=
  database = true ∧ (upstreamRefreshSecs.getD 30 ≠ 0 ∨ (site.loads = [] ∧ site.visitors = []))

inductive Site.Step : Site → Site → Prop
  | edit (site : Site) (table : List UpstreamRow) : Step site { site with table := table }
  | pass (site : Site) (now : Int) (later : site.now ≤ now) : Step site { site with now := now }
  | refresh (site : Site) (rows : List UpstreamRow) (may : mayLoad database upstreamRefreshSecs site)
      (answered : Load.Answers ⟨site.now, rows⟩ site.table) :
      Step site { site with
        live := replaceUpstreams staticUpstreams (Load.proxies ⟨site.now, rows⟩)
        loads := site.loads ++ [⟨site.now, rows⟩] }
  | accept (site : Site) (peer : IpAddr) :
      Step site { site with visitors := site.visitors ++ [⟨peer, [], connectionTask platform server peer, []⟩] }
  | progress (site : Site) (before after : List Visitor) (visitor : Visitor) (op : Op) (next : op.Reply →
    Router Unit) (reply : op.Reply)
      (here : site.visitors = before ++ visitor :: after) (asks : visitor.rest = .ask op next)
      (current : ∀ live, loadedLive ⟨op, reply⟩ = some live → live = site.live) :
      Step site { site with
        visitors := before ++ { visitor with
          past := visitor.past ++ [⟨op, reply⟩]
          rest := next reply
          seen := if isLoad op then visitor.seen ++ [site.loads] else visitor.seen } :: after }

end Steps

def openSite (staticUpstreams : List ProxyConfig) (table : List UpstreamRow) (now : Int) : Site :=
  ⟨table, now, staticUpstreams, [], []⟩

theorem live_after_eq (staticUpstreams : List ProxyConfig) (loads : List Load) :
    liveAfter staticUpstreams loads = staticUpstreams ++ (loads.getLast?.map Load.proxies).getD [] := by
  rw [liveAfter, refreshed_eq, List.getLast?_map]

theorem live_after_refresh (staticUpstreams : List ProxyConfig) (loads : List Load) (load : Load) :
    liveAfter staticUpstreams (loads ++ [load]) = replaceUpstreams staticUpstreams load.proxies := by
  rw [liveAfter, refreshed, List.map_append, List.map_singleton, List.foldl_concat]

theorem selected_iff (now : Int) (row : UpstreamRow) :
    selected now row = true ↔ row.enabled = true ∧ ∀ expiry, row.expiresAt = some expiry → now < expiry := by
  rw [selected, Bool.and_eq_true]
  cases row.expiresAt <;> simp

section Paths

variable (server : ProxyServer) (live : List ProxyConfig) (draws : Draws) (selection : Selection)

theorem resolve_global_mem (path : List ProxyConfig) (resolved : resolveGlobalChain server live draws = .ok path) :
    ∀ hop ∈ path, hop ∈ live := by
  unfold resolveGlobalChain at resolved
  cases configured : server.config.chain with
  | some name =>
      rw [configured] at resolved
      exact resolve_ref_mem server live draws name path resolved
  | none =>
      rw [configured] at resolved
      cases live with
      | nil => cases resolved
      | cons proxy rest =>
          cases resolved
          rw [List.forall_mem_singleton]
          exact List.mem_cons_self

theorem resolve_inner_mem (path : List ProxyConfig) (resolved : resolveChainInner server live draws selection = .ok path) :
    ∀ hop ∈ path, hop ∈ live := by
  rw [resolveChainInner] at resolved
  cases named : selection.chain with
  | some name =>
      rw [named] at resolved
      exact resolve_ref_mem server live draws name path resolved
  | none =>
      rw [named] at resolved
      dsimp only at resolved
      split at resolved
      · cases picked : pickIndex (candidates live selection).length selection.session draws.candidate with
        | none =>
            rw [picked] at resolved
            cases resolved
        | some i =>
            rw [picked] at resolved
            dsimp only at resolved
            cases found : (candidates live selection)[i]? with
            | none =>
                rw [found] at resolved
                cases resolved
            | some proxy =>
                rw [found] at resolved
                cases resolved
                rw [List.forall_mem_singleton]
                exact List.mem_of_mem_filter (List.mem_of_getElem? found)
      · exact resolve_global_mem server live draws path resolved

theorem resolve_path_mem (path : List ProxyConfig) (resolved : resolveProxyChain server live draws selection = .ok path) :
    ∀ hop ∈ path, ∃ proxy ∈ live, ∃ draw, hop = templateUsername selection draw proxy := by
  rw [resolveProxyChain] at resolved
  cases inner : resolveChainInner server live draws selection with
  | error failure =>
      rw [inner] at resolved
      cases resolved
  | ok plain =>
      rw [inner] at resolved
      cases resolved
      intro hop member
      obtain ⟨index, inside, rfl⟩ := List.mem_mapIdx.mp member
      exact ⟨_, resolve_inner_mem server live draws selection plain inner _ (List.getElem_mem inside), _, rfl⟩

end Paths

theorem row_untemplated (selection : Selection) (draw : Key → Nat) (row : UpstreamRow) :
    templateUsername selection draw (rowToProxy row) = rowToProxy row := rfl

theorem attempt_reaches {A E F : Type} (body : Program signature E A) (trace : History)
    (rest : Program signature F (Except E A)) (op : Op)
    (next : op.Reply → Program signature F (Except E A)) (asks : rest = .ask op next)
    (reached : Reaches (body.attempt) trace rest) :
    ∃ inner, Reaches body trace (.ask op inner) := by
  induction body generalizing trace with
  | done value =>
      obtain ⟨_, same⟩ := reaches_done _ trace rest reached
      rw [same] at asks
      cases asks
  | fail error =>
      obtain ⟨_, same⟩ := reaches_done _ trace rest reached
      rw [same] at asks
      cases asks
  | ask first body ih =>
      rcases reaches_ask _ _ trace rest reached with ⟨rfl, same⟩ | ⟨reply, later, rfl, tail⟩
      · rw [same] at asks
        cases asks
        exact ⟨body, .here _⟩
      · obtain ⟨inner, found⟩ := ih reply later tail
        exact ⟨inner, .step first body reply later _ found⟩

section Dials

variable (platform : Platform) (server : ProxyServer) (peer : IpAddr)

theorem task_dials (past : History) (address : Str) (rest : (Op.dial address).Reply → Router Unit)
    (reached : Reaches (connectionTask platform server peer) past (.ask (.dial address) rest)) :
    ∃ request trace chosen selection id first more, past = ⟨.read 8192, .ok request⟩ :: trace ∧
      Passed platform server peer request.val trace chosen selection id (first :: more) ∧ address = getUpstreamAddr first := by
  have served : ∃ inner, Reaches (handleConnection platform server peer) past (.ask (.dial address) inner) := by
    rcases reaches_bind _ _ past _ reached with ⟨middle, part, same⟩ | ⟨outcome, before, after, _, _, tail⟩
    · cases middle with
      | done outcome =>
          cases outcome <;> cases same
      | fail failure => cases same
      | ask op next =>
          injection same with asked later
          subst asked
          exact attempt_reaches _ past _ (.dial address) next rfl part
    · cases outcome with
      | ok value =>
          obtain ⟨_, same⟩ := reaches_done _ _ _ tail
          cases same
      | error failure =>
          rcases reaches_ask _ _ _ _ tail with ⟨_, same⟩ | ⟨_, _, _, later⟩
          · cases same
          · rcases reaches_ask _ _ _ _ later with ⟨_, same⟩ | ⟨_, _, _, last⟩
            · cases same
            · obtain ⟨_, same⟩ := reaches_done _ _ _ last
              cases same
  obtain ⟨inner, served⟩ := served
  rcases reaches_ask _ _ past _ served with ⟨_, same⟩ | ⟨reply, trace, rfl, tail⟩
  · cases same
  · cases reply with
    | error fault =>
        cases fault with
        | panicked => cases (reaches_fail _ _ _ tail).2
        | elapsed => cases (reaches_fail _ _ _ tail).2
        | failed => cases (reaches_fail _ _ _ tail).2
    | ok request =>
        obtain ⟨chosen, selection, id, first, more, passed, same⟩ :=
          dial_passed platform server peer request.val trace address inner tail
        exact ⟨request, trace, chosen, selection, id, first, more, rfl, passed, same⟩

end Dials

section Runs

variable (platform : Platform) (server : ProxyServer) (staticUpstreams : List ProxyConfig)
    (database : Bool) (upstreamRefreshSecs : Option Nat)

structure VisitorKept (loads : List Load) (visitor : Visitor) : Prop where
  run : Reaches (connectionTask platform server visitor.peer) visitor.past visitor.rest
  seen : visitor.past.filterMap loadedLive = visitor.seen.map (liveAfter staticUpstreams)
  parts : ∀ part ∈ visitor.seen, part <+: loads
  ordered : visitor.seen.Pairwise fun earlier later => earlier <+: later

structure SiteKept (site : Site) : Prop where
  live : site.live = liveAfter staticUpstreams site.loads
  selected : ∀ load ∈ site.loads, load.now ≤ site.now ∧ ∀ row ∈ load.rows, selected load.now row = true
  visitors : ∀ visitor ∈ site.visitors, VisitorKept platform server staticUpstreams site.loads visitor
  offline : database = false → site.loads = []
  once : upstreamRefreshSecs = some 0 → site.loads.length ≤ 1

theorem load_event (op : Op) (reply : op.Reply) : (∃ live, loadedLive ⟨op, reply⟩ = some live ∧ isLoad op = true) ∨
    (loadedLive ⟨op, reply⟩ = none ∧ isLoad op = false) := by
  cases op with
  | load => exact .inl ⟨reply.1, rfl, rfl⟩
  | _ => exact .inr ⟨rfl, rfl⟩

theorem progress_kept (loads : List Load) (live : List ProxyConfig) (visitor : Visitor) (op : Op)
    (next : op.Reply → Router Unit) (reply : op.Reply)
    (now : live = liveAfter staticUpstreams loads) (asks : visitor.rest = .ask op next)
    (current : ∀ taken, loadedLive ⟨op, reply⟩ = some taken → taken = live)
    (kept : VisitorKept platform server staticUpstreams loads visitor) : VisitorKept platform server staticUpstreams loads
      { visitor with
        past := visitor.past ++ [⟨op, reply⟩]
        rest := next reply
        seen := if isLoad op then visitor.seen ++ [loads] else visitor.seen } := by
  obtain ⟨run, seen, parts, ordered⟩ := kept
  have further : Reaches (connectionTask platform server visitor.peer) (visitor.past ++ [⟨op, reply⟩]) (next reply) := by
    have one : Reaches (.ask op next : Router Unit) [⟨op, reply⟩] (next reply) := .step op next reply [] (next reply) (.here _)
    rw [asks] at run
    exact reaches_append _ _ _ _ _ run one
  rcases load_event op reply with ⟨taken, loading, isLoading⟩ | ⟨other, notLoading⟩
  · have same := current taken loading
    refine ⟨further, ?_, ?_, ?_⟩
    · rw [if_pos isLoading, List.filterMap_append, seen, List.map_append, List.map_singleton,
        List.filterMap_cons_some loading, same, now]
      rfl
    · rw [if_pos isLoading, List.forall_mem_append, List.forall_mem_singleton]
      exact ⟨parts, List.prefix_refl loads⟩
    · rw [if_pos isLoading, List.pairwise_append]
      refine ⟨ordered, List.pairwise_singleton _ _, fun part member last newest => ?_⟩
      rw [List.mem_singleton.mp newest]
      exact parts part member
  · have same : (if isLoad op then visitor.seen ++ [loads] else visitor.seen) = visitor.seen :=
      if_neg (by rw [notLoading]; exact Bool.false_ne_true)
    refine ⟨further, ?_, ?_, ?_⟩
    · rw [same, List.filterMap_append, List.filterMap_cons_none other, List.filterMap_nil, List.append_nil]
      exact seen
    · rw [same]
      exact parts
    · rw [same]
      exact ordered

theorem visitor_later (loads : List Load) (load : Load) (visitor : Visitor)
    (kept : VisitorKept platform server staticUpstreams loads visitor) :
    VisitorKept platform server staticUpstreams (loads ++ [load]) visitor :=
  ⟨kept.run, kept.seen, fun part member => (kept.parts part member).trans (List.prefix_append _ _), kept.ordered⟩

theorem step_site (site next : Site) (step : Site.Step platform server staticUpstreams database upstreamRefreshSecs site next)
    (kept : SiteKept platform server staticUpstreams database upstreamRefreshSecs site) :
    SiteKept platform server staticUpstreams database upstreamRefreshSecs next := by
  obtain ⟨live, chosen, visitors, offline, once⟩ := kept
  cases step with
  | edit table => exact ⟨live, chosen, visitors, offline, once⟩
  | pass now later =>
      exact ⟨live, fun load member => ⟨Int.le_trans (chosen load member).1 later, (chosen load member).2⟩,
        visitors, offline, once⟩
  | refresh rows may answered =>
      obtain ⟨connected, again⟩ := may
      refine ⟨?_, ?_, ?_, ?_, ?_⟩
      · exact (live_after_refresh staticUpstreams site.loads ⟨site.now, rows⟩).symm
      · rw [List.forall_mem_append, List.forall_mem_singleton]
        exact ⟨chosen, Int.le_refl _, fun row member => (List.mem_filter.mp (answered.subset member)).2⟩
      · exact fun visitor member => visitor_later platform server staticUpstreams _ _ visitor (visitors visitor member)
      · intro absent
        rw [absent] at connected
        cases connected
      · intro zero
        rcases again with period | ⟨first, _⟩
        · rw [zero] at period
          exact absurd rfl period
        · rw [first]
          exact le_refl 1
  | accept peer =>
      refine ⟨live, chosen, ?_, offline, once⟩
      rw [List.forall_mem_append, List.forall_mem_singleton]
      exact ⟨visitors, .here _, rfl, nofun, .nil⟩
  | progress before after visitor op rest reply here asks current =>
      refine ⟨live, chosen, ?_, offline, once⟩
      rw [here, List.forall_mem_append, List.forall_mem_cons] at visitors
      rw [List.forall_mem_append, List.forall_mem_cons]
      have kept := progress_kept platform server staticUpstreams site.loads site.live visitor op rest reply
        live asks current visitors.2.1
      exact ⟨visitors.1, kept, visitors.2.2⟩

theorem run_site (table : List UpstreamRow) (now : Int) (site : Site)
    (reached : Relation.ReflTransGen (Site.Step platform server staticUpstreams database upstreamRefreshSecs)
      (openSite staticUpstreams table now) site) :
    SiteKept platform server staticUpstreams database upstreamRefreshSecs site := by
  induction reached with
  | refl => exact ⟨rfl, nofun, nofun, fun _ => rfl, fun _ => Nat.zero_le 1⟩
  | tail _ step ih => exact step_site platform server staticUpstreams database upstreamRefreshSecs _ _ step ih

-- Where a hop of a path comes from: the configuration, with its username filled
-- in, or a row of the last load, as it is.
inductive KnownHop (loads : List Load) (selection : Selection) : ProxyConfig → Prop
  | configured (proxy : ProxyConfig) (draw : Key → Nat) (member : proxy ∈ staticUpstreams) :
    KnownHop loads selection (templateUsername selection draw proxy)
  | dynamic (load : Load) (row : UpstreamRow) (last : loads.getLast? = some load) (member : row ∈ load.rows)
      (enabled : row.enabled = true)
      (current : ∀ expiry, row.expiresAt = some expiry → load.now < expiry) : KnownHop loads selection (rowToProxy row)

structure KnownDial (visitor : Visitor) (loads : List Load) (address : Str) : Prop where
  seen : loads ∈ visitor.seen
  path : ∃ request trace chosen selection id first more, ⟨.read 8192, .ok request⟩ :: trace <+: visitor.past ∧
    Passed platform server visitor.peer request.val trace chosen selection id (first :: more) ∧ address = getUpstreamAddr first ∧
    ∀ hop ∈ first :: more, KnownHop staticUpstreams loads selection hop

structure SiteKnown (site : Site) : Prop where
  live : site.live = staticUpstreams ++ (site.loads.getLast?.map Load.proxies).getD []
  dials : ∀ visitor ∈ site.visitors, ∀ address reply, ⟨.dial address, reply⟩ ∈ visitor.past →
    ∃ loads, loads <+: site.loads ∧ KnownDial platform server staticUpstreams visitor loads address
  snapshots : ∀ visitor ∈ site.visitors, visitor.past.filterMap loadedLive = visitor.seen.map (liveAfter staticUpstreams) ∧
    visitor.seen.Pairwise fun earlier later => earlier <+: later
  offline : database = false → site.live = staticUpstreams
  once : upstreamRefreshSecs = some 0 → site.loads.length ≤ 1

theorem passed_loaded (peer : IpAddr) (request : Bytes) (trace : History) (chosen selection : Selection)
    (id : Option Int) (chain : List ProxyConfig)
    (passed : Passed platform server peer request trace chosen selection id chain) :
    ∃ live draws, loaded live draws ∈ trace ∧ resolveProxyChain server live draws selection = .ok chain := by
  cases passed with
  | request _ _ route login live draws _ _ _ _ _ _ _ resolved _ => exact ⟨live, draws, by simp, resolved⟩
  | socks5 preliminary login target default _ live draws _ _ _ _ _ _ _ _ _ _ _ _ resolved =>
      exact ⟨live, draws, by simp, resolved⟩

theorem hop_known (loads : List Load) (chosen : ∀ load ∈ loads, ∀ row ∈ load.rows, selected load.now row = true)
    (draws : Draws) (selection : Selection)
    (path : List ProxyConfig) (resolved : resolveProxyChain server (liveAfter staticUpstreams loads) draws selection = .ok path) :
    ∀ hop ∈ path, KnownHop staticUpstreams loads selection hop := by
  intro hop member
  obtain ⟨proxy, live, draw, rfl⟩ := resolve_path_mem server _ draws selection path resolved hop member
  rw [live_after_eq, List.mem_append] at live
  cases live with
  | inl configured => exact .configured proxy draw configured
  | inr dynamic =>
      cases last : loads.getLast? with
      | none =>
          rw [last] at dynamic
          cases dynamic
      | some load =>
          rw [last] at dynamic
          obtain ⟨row, answered, rfl⟩ := List.mem_map.mp dynamic
          obtain ⟨enabled, current⟩ := (selected_iff load.now row).mp (chosen load (List.mem_of_getLast? last) row answered)
          rw [row_untemplated]
          exact .dynamic load row last answered enabled current

theorem dials_known (table : List UpstreamRow) (now : Int) (site : Site)
    (reached : Relation.ReflTransGen (Site.Step platform server staticUpstreams database upstreamRefreshSecs)
      (openSite staticUpstreams table now) site) :
    SiteKnown platform server staticUpstreams database upstreamRefreshSecs site := by
  obtain ⟨live, chosen, visitors, offline, once⟩ :=
    run_site platform server staticUpstreams database upstreamRefreshSecs table now site reached
  refine ⟨live.trans (live_after_eq _ _), ?_, fun visitor member =>
    ⟨(visitors visitor member).seen, (visitors visitor member).ordered⟩, ?_, once⟩
  · intro visitor member address reply dialled
    obtain ⟨run, seen, parts, _⟩ := visitors visitor member
    obtain ⟨before, after, split⟩ := List.append_of_mem dialled
    rw [split] at run
    obtain ⟨rest, asked⟩ := reaches_event _ _ before after _ reply run
    obtain ⟨request, trace, wish, selection, id, first, more, rfl, passed, same⟩ :=
      task_dials platform server visitor.peer before address rest asked
    obtain ⟨taken, draws, event, resolved⟩ :=
      passed_loaded platform server visitor.peer request.val trace wish selection id _ passed
    have found : taken ∈ visitor.past.filterMap loadedLive := by
      refine List.mem_filterMap.mpr ⟨loaded taken draws, ?_, rfl⟩
      rw [split]
      exact List.mem_append_left _ (List.mem_cons_of_mem _ event)
    rw [seen] at found
    obtain ⟨loads, known, rfl⟩ := List.mem_map.mp found
    have part := parts loads known
    refine ⟨loads, part, known, request, trace, wish, selection, id, first, more, ?_, passed, same, ?_⟩
    · rw [split]
      exact List.prefix_append _ _
    · exact hop_known server staticUpstreams loads (fun load inside =>
        (chosen load (part.subset inside)).2) draws selection _ resolved
  · intro absent
    rw [live, offline absent]
    rfl

theorem task_runs_in_site (start rest : Router Unit) (trace : History) (run : Reaches start trace rest)
    (site : Site) (before after : List Visitor)
    (visitor : Visitor) (here : site.visitors = before ++ visitor :: after) (asks : visitor.rest = start)
    (current : ∀ event ∈ trace, ∀ live, loadedLive event = some live → live = site.live) :
    ∃ later, later.past = visitor.past ++ trace ∧ Relation.ReflTransGen
      (Site.Step platform server staticUpstreams database upstreamRefreshSecs) site
        { site with visitors := before ++ later :: after } := by
  induction run generalizing site visitor with
  | here program =>
      refine ⟨visitor, (List.append_nil _).symm, ?_⟩
      rw [← here]
  | step op next reply trace rest later ih =>
      rw [List.forall_mem_cons] at current
      let further : Visitor := { visitor with
        past := visitor.past ++ [⟨op, reply⟩]
        rest := next reply
        seen := if isLoad op then visitor.seen ++ [site.loads] else visitor.seen }
      have one : Site.Step platform server staticUpstreams database upstreamRefreshSecs site
        { site with visitors := before ++ further :: after } :=
        .progress site before after visitor op next reply here asks current.1
      obtain ⟨last, past, run⟩ := ih { site with visitors := before ++ further :: after } further rfl rfl current.2
      refine ⟨last, ?_, .head one run⟩
      rw [past, List.append_assoc]
      rfl

end Runs

section Examples

def socks4Row : UpstreamRow :=
  ⟨none, "SOCKS4".toList, "10.0.0.1".toList, some 1080, none, none, none, none, none, none, none, 1, true, some 100⟩

def rowLoad : Load := ⟨7, [socks4Row]⟩
def rowSite : Site := openSite [] [socks4Row] 7
def rowVisitor : Visitor := ⟨caller, [], connectionTask standard plainServer caller, []⟩

example : (socks4Row.proxyType, (rowToProxy socks4Row).proxyType) = ("SOCKS4".toList, .socks4) := rfl

theorem row_site_reached : ∃ site, Relation.ReflTransGen (Site.Step standard plainServer [] true none) rowSite site ∧
    ∃ visitor ∈ site.visitors, (⟨.dial "10.0.0.1:1080".toList, .ok ()⟩ : Event) ∈ visitor.past := by
  have loadedRow : Site.Step standard plainServer [] true none rowSite { rowSite with live := [socks4Hop], loads := [rowLoad] } :=
    .refresh rowSite [socks4Row] ⟨rfl, .inl nofun⟩ (.refl _)
  have accepted : Site.Step standard plainServer [] true none { rowSite with live := [socks4Hop], loads := [rowLoad] }
      { rowSite with live := [socks4Hop], loads := [rowLoad], visitors := [rowVisitor] } := .accept _ caller
  have current : ∀ event ∈ relayedRun (.ok ()) ++ [released], ∀ live, loadedLive event = some live → live = [socks4Hop] := by
    intro event member live loading
    simp only [relayedRun, List.mem_append, List.mem_cons, List.not_mem_nil, or_false] at member
    rcases member with (rfl | rfl | rfl | rfl | rfl | rfl | rfl | rfl | rfl) | rfl <;> cases loading
    rfl
  obtain ⟨later, past, run⟩ := task_runs_in_site standard plainServer [] true none _ _ _ closed_run
    { rowSite with live := [socks4Hop], loads := [rowLoad], visitors := [rowVisitor] } [] [] rowVisitor rfl rfl current
  refine ⟨_, .head loadedRow (.head accepted run), later, List.mem_singleton_self _, ?_⟩
  rw [past]
  simp [relayedRun, rowVisitor]

theorem row_dial_known : ∃ site, SiteKnown standard plainServer [] true none site ∧
    ∃ visitor ∈ site.visitors, (⟨.dial "10.0.0.1:1080".toList, .ok ()⟩ : Event) ∈ visitor.past := by
  obtain ⟨site, reached, dialled⟩ := row_site_reached
  exact ⟨site, dials_known standard plainServer [] true none [socks4Row] 7 site reached, dialled⟩

end Examples

end Purroute
