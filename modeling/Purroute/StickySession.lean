import Purroute.ExitSelection

set_option autoImplicit false

namespace Purroute

def route (server : ProxyServer) (selection : Selection) : Option Str :=
  match selection.chain with
  | some name => some name
  | none => if onlySession selection then server.config.chain else none

def exitOf (selection : Selection) (proxy : ProxyConfig) : ProxyConfig := templateUsername selection (fun _ => 0) proxy

structure Rotates (server : ProxyServer) (live : List ProxyConfig) (selection : Selection) (name : Str)
    (chain : ChainConfig) (members : List ProxyConfig) : Prop where
  named : route server selection = some name
  unlabelled : findLabel live name = none
  listed : findChain server name = some chain
  mode : chain.mode = .random
  count : chain.count ≠ some 0
  collected : collectMembers live name chain.proxies = .ok members
  different : ∃ left ∈ members, ∃ right ∈ members, exitOf selection left ≠ exitOf selection right

section Sticky

variable (server : ProxyServer) (live : List ProxyConfig) (selection : Selection) (s : Str)
  (sticky : selection.session = some s)

include sticky in
theorem template_sticky (draw : Key → Nat) (proxy : ProxyConfig) :
    templateUsername selection draw proxy = exitOf selection proxy := by
  unfold exitOf templateUsername
  cases proxy.usernamePrefixes with
  | none => rfl
  | some prefixes => simp [buildUsername, segment, pickIndex, sticky]

include sticky in
theorem resolve_sticky (draws : Draws) : resolveProxyChain server live draws selection =
    (resolveChainInner server live draws selection).map fun path => path.map (exitOf selection) := by
  rw [resolveProxyChain]
  congr 1
  funext path
  apply List.ext_getElem
  · simp
  · intro i _ _
    simp [template_sticky selection s sticky]

-- Off the named routes nothing consults the generator.
include sticky in
theorem unnamed_route_sticky (unnamed : route server selection = none) (first second : Draws) :
    resolveChainInner server live first selection = resolveChainInner server live second selection := by
  rw [route] at unnamed
  cases explicit : selection.chain with
  | some name => simp [explicit] at unnamed
  | none =>
      simp only [explicit] at unnamed
      by_cases narrowed : onlySession selection = false
      · simp [resolveChainInner, explicit, narrowed, sticky, pick_index_sticky _ s first.candidate second.candidate]
      · have only : onlySession selection = true := by simpa using narrowed
        simp only [only, if_true] at unnamed
        simp [resolveChainInner, explicit, only, resolveGlobalChain, unnamed]

theorem named_route (name : Str) (named : route server selection = some name) (draws : Draws) :
    resolveChainInner server live draws selection = resolveRef server live draws name := by
  rw [route] at named
  cases explicit : selection.chain with
  | some chosen =>
      simp only [explicit, Option.some.injEq] at named
      simp [resolveChainInner, explicit, named]
  | none =>
      simp only [explicit] at named
      split at named
      · rename_i only
        simp [resolveChainInner, explicit, only, resolveGlobalChain, named]
      · cases named

theorem apply_mode_random (draws : Draws) (chain : ChainConfig) (members path : List ProxyConfig)
    (mode : chain.mode = .random) (applied : applyMode draws chain members = .ok path) :
    (∀ proxy ∈ path, proxy ∈ members) ∧ path.length = (chain.count.map fun count => min count members.length).getD 1 := by
  simp only [applyMode, mode] at applied
  cases count : chain.count with
  | some count =>
      simp only [count, Except.ok.injEq] at applied
      subst applied
      refine ⟨?_, by simp [shuffle_length]⟩
      intro proxy member
      exact (shuffle_mem _ _ _).mp (List.mem_of_mem_take member)
  | none =>
      simp only [count] at applied
      cases order : shuffle draws.order members with
      | nil => simp [order] at applied
      | cons head rest =>
          simp only [order, Except.ok.injEq] at applied
          subst applied
          refine ⟨?_, rfl⟩
          intro proxy member
          rw [List.mem_singleton] at member
          exact member ▸ (shuffle_mem draws.order members head).mp (order ▸ List.mem_cons_self)

theorem same_exits (members one two : List ProxyConfig) (left : ∀ proxy ∈ one, proxy ∈ members)
    (right : ∀ proxy ∈ two, proxy ∈ members) (length : one.length = two.length)
    (same : ∀ left ∈ members, ∀ right ∈ members, exitOf selection left = exitOf selection right) :
    one.map (exitOf selection) = two.map (exitOf selection) := by
  apply List.ext_getElem
  · simpa using length
  · intro i inOne inTwo
    simp only [List.getElem_map]
    exact same _ (left _ (List.getElem_mem _)) _ (right _ (List.getElem_mem _))

theorem steady_ref_sticky (name : Str) (named : route server selection = some name)
    (steady : ∀ name chain members, ¬ Rotates server live selection name chain members) (first second : Draws)
    (one two : List ProxyConfig) (firstRun : resolveRef server live first name = .ok one)
    (secondRun : resolveRef server live second name = .ok two) :
    one.map (exitOf selection) = two.map (exitOf selection) := by
  rcases resolve_ref_cases server live first name one firstRun with
    ⟨proxy, labelled, rfl⟩ | ⟨unlabelled, chain, members, listed, collected, arranged⟩
  · rcases resolve_ref_cases server live second name two secondRun with ⟨other, again, rfl⟩ | ⟨unlabelled, _⟩
    · rw [Option.some.inj (labelled.symm.trans again)]
    · cases labelled.symm.trans unlabelled
  · rcases resolve_ref_cases server live second name two secondRun with ⟨other, labelled, _⟩ |
      ⟨_, chain', members', again, same, other⟩
    · cases labelled.symm.trans unlabelled
    · cases Option.some.inj (listed.symm.trans again)
      cases Except.ok.inj (collected.symm.trans same)
      cases mode : chain.mode with
      | strict =>
          simp only [applyMode, mode] at arranged other
          rw [Except.ok.inj (arranged.symm.trans other)]
      | random =>
          obtain ⟨fromLeft, leftLength⟩ := apply_mode_random first chain members one mode arranged
          obtain ⟨fromRight, rightLength⟩ := apply_mode_random second chain members two mode other
          by_cases nothing : chain.count = some 0
          · simp only [nothing, Option.map_some, Option.getD_some, Nat.zero_min,
              List.length_eq_zero_iff] at leftLength rightLength
            rw [leftLength, rightLength]
          · apply same_exits selection members one two fromLeft fromRight (leftLength.trans rightLength.symm)
            intro a inA b inB
            by_contra different
            exact steady name chain members ⟨named, unlabelled, listed, mode, nothing, collected, a, inA, b, inB, different⟩

include sticky in
theorem steady_route_sticky (steady : ∀ name chain members, ¬ Rotates server live selection name chain members)
    (first second : Draws) (one two : List ProxyConfig)
    (firstRun : resolveProxyChain server live first selection = .ok one)
    (secondRun : resolveProxyChain server live second selection = .ok two) : one = two := by
  rw [resolve_sticky server live selection s sticky] at firstRun secondRun
  cases named : route server selection with
  | none =>
      rw [unnamed_route_sticky server live selection s sticky named first second] at firstRun
      exact Except.ok.inj (firstRun.symm.trans secondRun)
  | some name =>
      rw [named_route server live selection name named] at firstRun secondRun
      cases left : resolveRef server live first name with
      | error reason => simp [left, Except.map] at firstRun
      | ok pathOne =>
          cases right : resolveRef server live second name with
          | error reason => simp [right, Except.map] at secondRun
          | ok pathTwo =>
              simp only [left, right, Except.map, Except.ok.injEq] at firstRun secondRun
              rw [← firstRun, ← secondRun]
              exact steady_ref_sticky server live selection name named steady first second pathOne pathTwo left right

-- A shuffle may put any member first, and the first hop is kept.
include sticky in
theorem rotating_route (name : Str) (chain : ChainConfig) (members : List ProxyConfig)
    (rotates : Rotates server live selection name chain members) (member : ProxyConfig) (chosen : member ∈ members) :
    ∃ draws rest, resolveProxyChain server live draws selection = .ok (exitOf selection member :: rest) := by
  obtain ⟨order, rest, first⟩ := shuffle_first members member chosen
  have resolved : resolveRef server live ⟨0, order, fun _ _ => 0⟩ name = applyMode ⟨0, order, fun _ _ => 0⟩ chain members := by
    simp [resolveRef, rotates.unlabelled, rotates.listed, rotates.collected, Except.bind]
  refine ⟨⟨0, order, fun _ _ => 0⟩, ?_⟩
  rw [resolve_sticky server live selection s sticky, named_route server live selection name rotates.named, resolved]
  cases count : chain.count with
  | none => exact ⟨[], by simp [applyMode, rotates.mode, count, first, Except.map]⟩
  | some count' =>
      have kept : count' ≠ 0 := by
        rintro rfl
        exact rotates.count count
      have some' : members.length ≠ 0 := List.length_pos_of_mem chosen |>.ne'
      obtain ⟨taken, same⟩ : ∃ taken, min count' members.length = taken + 1 := Nat.exists_eq_succ_of_ne_zero (by omega)
      exact ⟨(rest.take taken).map (exitOf selection), by simp [applyMode, rotates.mode, count, first, same, Except.map]⟩

include sticky in
theorem sticky_session_pins_exit :
    (∀ (first second : Draws) (one two : List ProxyConfig), resolveProxyChain server live first selection = .ok one →
        resolveProxyChain server live second selection = .ok two → one = two) ↔
      ∀ name chain members, ¬ Rotates server live selection name chain members := by
  constructor
  · intro pinned name chain members rotates
    obtain ⟨left, inLeft, right, inRight, different⟩ := rotates.different
    obtain ⟨first, one, firstRun⟩ := rotating_route server live selection s sticky name chain members rotates left inLeft
    obtain ⟨second, two, secondRun⟩ := rotating_route server live selection s sticky name chain members rotates right inRight
    exact different (List.cons.inj (pinned first second _ _ firstRun secondRun)).1
  · intro steady first second one two firstRun secondRun
    exact steady_route_sticky server live selection s sticky steady first second one two firstRun secondRun

end Sticky

section Examples

def exit (label : String) (address : String) : ProxyConfig :=
  ⟨some label.toList, .socks5, address.toList, some 1080, none, none, ⟨none, none, none, none, none⟩, 1, none⟩

def pooled : List ProxyConfig := [exit "a" "10.0.0.1", exit "b" "10.0.0.2"]
def pool (mode : ChainMode) : ProxyServer := ⟨some [⟨"pool", ["a".toList, "b".toList], mode, some 1⟩], ⟨some "pool".toList, none⟩⟩
def pinned : Selection := { emptySelection with session := some "ab12".toList }

theorem random_chain_ignores_session :
    ¬ ∀ (first second : Draws) (one two : List ProxyConfig),
      resolveProxyChain (pool .random) pooled first pinned = .ok one →
      resolveProxyChain (pool .random) pooled second pinned = .ok two → one = two := by
  intro sticky
  have same := sticky ⟨0, fun _ => 0, fun _ _ => 0⟩ ⟨0, fun _ => 1, fun _ _ => 0⟩ [exit "a" "10.0.0.1"]
    [exit "b" "10.0.0.2"] rfl rfl
  exact absurd same (by decide)

theorem strict_chain_keeps_session :
    (∀ (first second : Draws) (one two : List ProxyConfig), resolveProxyChain (pool .strict) pooled first pinned = .ok one →
        resolveProxyChain (pool .strict) pooled second pinned = .ok two → one = two) ↔
      ∀ name chain members, ¬ Rotates (pool .strict) pooled pinned name chain members :=
  sticky_session_pins_exit (pool .strict) pooled pinned "ab12" rfl

end Examples

end Purroute
