import Purroute.Resolve

set_option autoImplicit false

namespace Purroute

def wanted (selection : Selection) : Key → List Str
  | .country => selection.country
  | .state => selection.state
  | .city => selection.city
  | .isp => selection.isp
  | .type => selection.kind
  | .session => selection.session.toList
  | .chain => selection.chain.toList

def tagOf (tags : Tags) : Key → Option Str
  | .country => tags.country
  | .state => tags.state
  | .city => tags.city
  | .isp => tags.isp
  | .type => tags.kind
  | .session => none
  | .chain => none

def dimensions : List Key := [.country, .state, .city, .isp, .type]
def templatable : List Key := [.country, .state, .city, .isp]

def TagHonours (proxy : ProxyConfig) (values : List Str) (key : Key) : Prop :=
  ∃ value, tagOf proxy.tags key = some value ∧ ∃ w ∈ values, eqIgnoreAsciiCase w value = true

structure Composed (prefixes : Prefixes) (selection : Selection) (base username : Str) (parts : Key → Str) : Prop where
  order : username = base ++ parts .country ++ parts .state ++ parts .city ++ parts .isp ++ parts .session
  parts : ∀ key, parts key = [] ∨
    ∃ pfx, prefixes.lookup key.name = some pfx ∧ ∃ value ∈ wanted selection key, parts key = pfx ++ value

def UsernameHonours (selection : Selection) (proxy : ProxyConfig) (username : Option Str) (key : Key) : Prop :=
  ∃ prefixes pfx name parts, proxy.usernamePrefixes = some prefixes ∧ prefixes.lookup key.name = some pfx ∧
    username = some name ∧ Composed prefixes selection (proxy.username.getD []) name parts ∧
    ∃ value ∈ wanted selection key, parts key = pfx ++ value

theorem candidates_mem (live : List ProxyConfig) (selection : Selection) (proxy : ProxyConfig) :
    proxy ∈ candidates live selection ↔
      proxy ∈ live ∧ matchesUpstream selection proxy.tags proxy.usernamePrefixes = true := by
  simp [candidates]

theorem matches_upstream_cases (selection : Selection) (proxy : ProxyConfig) (key : Key) (dimension : key ∈ dimensions)
    (matched : matchesUpstream selection proxy.tags proxy.usernamePrefixes = true) (constrained : wanted selection key ≠ []) :
    TagHonours proxy (wanted selection key) key ∨ (key ∈ templatable ∧ templated proxy.usernamePrefixes key = true) := by
  simp only [matchesUpstream, Bool.and_eq_true, Bool.or_eq_true] at matched
  obtain ⟨⟨⟨⟨country, state⟩, city⟩, isp⟩, kind⟩ := matched
  have byTag : ∀ tag, tagOf proxy.tags key = tag → dimOk (wanted selection key) tag = true →
      TagHonours proxy (wanted selection key) key := by
    rintro tag rfl ok
    exact ((dim_ok_iff _ _).mp ok).resolve_left constrained
  cases key with
  | country => exact country.elim (fun set => .inr ⟨by decide, set⟩) fun ok => .inl (byTag _ rfl ok)
  | state => exact state.elim (fun set => .inr ⟨by decide, set⟩) fun ok => .inl (byTag _ rfl ok)
  | city => exact city.elim (fun set => .inr ⟨by decide, set⟩) fun ok => .inl (byTag _ rfl ok)
  | isp => exact isp.elim (fun set => .inr ⟨by decide, set⟩) fun ok => .inl (byTag _ rfl ok)
  | type => exact .inl (byTag _ rfl kind)
  | session => simp [dimensions] at dimension
  | chain => simp [dimensions] at dimension

def segments (prefixes : Prefixes) (selection : Selection) (draw : Key → Nat) : Key → Str
  | .session => sessionSegment prefixes selection.session
  | .type => []
  | .chain => []
  | key => segment prefixes key (wanted selection key) selection.session (draw key)

theorem build_username_composed (base : Str) (prefixes : Prefixes) (selection : Selection) (draw : Key → Nat) :
    Composed prefixes selection base (buildUsername base prefixes selection draw) (segments prefixes selection draw) := by
  refine ⟨rfl, ?_⟩
  intro key
  cases key with
  | country => exact segment_cases _ _ _ _ _
  | state => exact segment_cases _ _ _ _ _
  | city => exact segment_cases _ _ _ _ _
  | isp => exact segment_cases _ _ _ _ _
  | type => exact .inl rfl
  | chain => exact .inl rfl
  | session =>
      cases present : selection.session with
      | none => exact .inl (by simp [segments, sessionSegment, present])
      | some s =>
          cases entry : prefixes.lookup Key.session.name with
          | none => exact .inl (by simp [segments, sessionSegment, present, entry])
          | some pfx => exact .inr ⟨pfx, rfl, s, by simp [wanted, present], by simp [segments, sessionSegment, present, entry]⟩

theorem templated_username_honours (selection : Selection) (draw : Key → Nat) (proxy : ProxyConfig) (key : Key)
    (dimension : key ∈ templatable) (set : templated proxy.usernamePrefixes key = true)
    (constrained : wanted selection key ≠ []) :
    UsernameHonours selection proxy (templateUsername selection draw proxy).username key := by
  cases present : proxy.usernamePrefixes with
  | none => simp [templated, present] at set
  | some prefixes =>
      simp only [templated, present, Option.isSome_iff_exists] at set
      obtain ⟨pfx, entry⟩ := set
      obtain ⟨value, member, same⟩ := segment_some prefixes key _ selection.session (draw key) pfx entry constrained
      refine ⟨prefixes, pfx, _, segments prefixes selection draw, present, entry, by simp [templateUsername, present],
        build_username_composed _ _ _ _, value, member, ?_⟩
      simp only [templatable, List.mem_cons, List.not_mem_nil, or_false] at dimension
      rcases dimension with rfl | rfl | rfl | rfl <;> exact same

theorem template_username_frame (selection : Selection) (draw : Key → Nat) (proxy : ProxyConfig) :
    templateUsername selection draw proxy = { proxy with username := (templateUsername selection draw proxy).username } := by
  rw [templateUsername]
  split <;> rfl

theorem resolve_tagged (server : ProxyServer) (live : List ProxyConfig) (draws : Draws) (selection : Selection)
    (noChain : selection.chain = none) (constrained : onlySession selection = false) :
    (candidates live selection = [] ∧
        resolveProxyChain server live draws selection = .error (.error .noMatchingUpstream)) ∨
      ∃ proxy ∈ candidates live selection,
        resolveProxyChain server live draws selection = .ok [templateUsername selection (draws.value 0) proxy] := by
  cases picked : pickIndex (candidates live selection).length selection.session draws.candidate with
  | none =>
      left
      refine ⟨List.length_eq_zero_iff.mp ((pick_index_none _ _ _).mp picked), ?_⟩
      simp [resolveProxyChain, resolveChainInner, noChain, constrained, picked, Except.map]
  | some i =>
      right
      have bound := pick_index_lt _ _ _ _ picked
      refine ⟨(candidates live selection)[i], List.getElem_mem bound, ?_⟩
      simp [resolveProxyChain, resolveChainInner, noChain, constrained, picked, bound, Except.map]

theorem exit_selection_honoured (server : ProxyServer) (live : List ProxyConfig) (draws : Draws) (selection : Selection)
    (noChain : selection.chain = none) (constrained : ∃ key ∈ dimensions, wanted selection key ≠ []) :
    (resolveProxyChain server live draws selection = .error (.error .noMatchingUpstream) ↔
        ∀ proxy ∈ live, matchesUpstream selection proxy.tags proxy.usernamePrefixes = false) ∧
      ((∃ proxy ∈ live, matchesUpstream selection proxy.tags proxy.usernamePrefixes = true) →
        ∃ proxy ∈ live, ∃ username, resolveProxyChain server live draws selection = .ok [{ proxy with username }] ∧
          ∀ key ∈ dimensions, wanted selection key ≠ [] →
            TagHonours proxy (wanted selection key) key ∨
              (key ∈ templatable ∧ UsernameHonours selection proxy username key)) := by
  have narrowed : onlySession selection = false := by
    obtain ⟨key, dimension, some⟩ := constrained
    simp only [dimensions, List.mem_cons, List.not_mem_nil, or_false] at dimension
    rcases dimension with rfl | rfl | rfl | rfl | rfl <;> simp_all [onlySession, wanted]
  have nobody : candidates live selection = [] ↔
      ∀ proxy ∈ live, matchesUpstream selection proxy.tags proxy.usernamePrefixes = false := by
    simp [candidates]
  rcases resolve_tagged server live draws selection noChain narrowed with ⟨empty, refused⟩ | ⟨proxy, member, chosen⟩
  · refine ⟨⟨fun _ => nobody.mp empty, fun _ => refused⟩, ?_⟩
    rintro ⟨proxy, live, matched⟩
    rw [nobody.mp empty proxy live] at matched
    cases matched
  · obtain ⟨inSet, matched⟩ := (candidates_mem live selection proxy).mp member
    refine ⟨⟨?_, ?_⟩, fun _ => ⟨proxy, inSet, (templateUsername selection (draws.value 0) proxy).username, ?_, ?_⟩⟩
    · intro refused
      rw [chosen] at refused
      cases refused
    · intro none
      rw [none proxy inSet] at matched
      cases matched
    · rw [chosen]
      exact congrArg (fun hop => Except.ok [hop]) (template_username_frame _ _ _)
    · intro key dimension some
      rcases matches_upstream_cases selection proxy key dimension matched some with byTag | ⟨may, set⟩
      · exact .inl byTag
      · exact .inr ⟨may, templated_username_honours selection _ proxy key may set some⟩

section Examples

def gateway : ProxyConfig :=
  ⟨some "gw", .socks5, "10.0.0.1", some 1080, some "BASE", some "pw", ⟨none, none, none, none, none⟩, 1,
    some [("country", "-country-"), ("city", "-city-")]⟩

def germany : Selection := { emptySelection with country := ["de".toList, "at".toList] }

theorem gateway_exit_honoured :
    ∃ proxy ∈ [gateway], ∃ username,
      resolveProxyChain ⟨none, none, none⟩ [gateway] ⟨0, id, fun _ _ => 1⟩ germany = .ok [{ proxy with username }] ∧
        ∀ key ∈ dimensions, wanted germany key ≠ [] →
          TagHonours proxy (wanted germany key) key ∨
            (key ∈ templatable ∧ UsernameHonours germany proxy username key) :=
  (exit_selection_honoured ⟨none, none, none⟩ [gateway] ⟨0, id, fun _ _ => 1⟩ germany rfl
    ⟨.country, by decide, by decide⟩).2 ⟨gateway, by simp, by decide⟩

example : resolveProxyChain ⟨none, none, none⟩ [gateway] ⟨0, id, fun _ _ => 1⟩ germany =
    .ok [{ gateway with username := some "BASE-country-at" }] := rfl

end Examples

end Purroute
