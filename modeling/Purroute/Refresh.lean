import Purroute.Resolve

set_option autoImplicit false

namespace Purroute

-- What a refresh stores as the live set.
def replaceUpstreams (staticUpstreams dynamic : List ProxyConfig) : List ProxyConfig := staticUpstreams ++ dynamic

def refreshed (staticUpstreams : List ProxyConfig) (refreshes : List (List ProxyConfig)) : List ProxyConfig :=
  refreshes.foldl (fun _ dynamic => replaceUpstreams staticUpstreams dynamic) staticUpstreams

def Labelled (upstreams : List ProxyConfig) (name : Str) : Prop := ∃ proxy ∈ upstreams, proxy.label = some name

def StaticChain (server : ProxyServer) (staticUpstreams : List ProxyConfig) (name : Str) : Prop :=
  ∃ chain, findChain server name = some chain ∧ chain.mode = .strict ∧ ∀ member ∈ chain.proxies, Labelled staticUpstreams member

def StaticName (server : ProxyServer) (staticUpstreams : List ProxyConfig) (name : Str) : Prop :=
  Labelled staticUpstreams name ∨ StaticChain server staticUpstreams name

theorem find_label_none (upstreams : List ProxyConfig) (name : Str) :
    findLabel upstreams name = none ↔ ¬ Labelled upstreams name := by
  simp [findLabel, Labelled]

theorem find_label_some (upstreams : List ProxyConfig) (name : Str) (labelled : Labelled upstreams name) :
    ∃ proxy ∈ upstreams, proxy.label = some name ∧ findLabel upstreams name = some proxy := by
  cases found : findLabel upstreams name with
  | none => exact absurd labelled ((find_label_none upstreams name).mp found)
  | some proxy =>
      have label : proxy.label = some name := by simpa using List.find?_some found
      exact ⟨proxy, List.mem_of_find?_eq_some found, label, rfl⟩

section Append

variable (staticUpstreams dynamic : List ProxyConfig)

theorem find_label_kept (name : Str) (labelled : Labelled staticUpstreams name) :
    findLabel (staticUpstreams ++ dynamic) name = findLabel staticUpstreams name := by
  obtain ⟨proxy, _, _, found⟩ := find_label_some staticUpstreams name labelled
  rw [findLabel] at found
  simp only [findLabel, List.find?_append, found, Option.some_or]

theorem find_label_added (name : Str) (unlabelled : ¬ Labelled staticUpstreams name) :
    findLabel (staticUpstreams ++ dynamic) name = findLabel dynamic name := by
  have missing := (find_label_none staticUpstreams name).mpr unlabelled
  rw [findLabel] at missing
  simp only [findLabel, List.find?_append, missing, Option.none_or]

theorem collect_members_kept (name : Str) (members : List Str) (labelled : ∀ member ∈ members, Labelled staticUpstreams member) :
    collectMembers (staticUpstreams ++ dynamic) name members = collectMembers staticUpstreams name members := by
  induction members with
  | nil => rfl
  | cons member members ih =>
      rw [List.forall_mem_cons] at labelled
      rw [collectMembers, collectMembers, find_label_kept _ _ _ labelled.1, ih labelled.2]

theorem collect_members_static (name : Str) (members : List Str)
    (labelled : ∀ member ∈ members, Labelled staticUpstreams member) :
    ∃ path, collectMembers staticUpstreams name members = .ok path := by
  induction members with
  | nil => exact ⟨[], rfl⟩
  | cons member members ih =>
      rw [List.forall_mem_cons] at labelled
      obtain ⟨proxy, _, _, found⟩ := find_label_some staticUpstreams member labelled.1
      obtain ⟨path, collected⟩ := ih labelled.2
      exact ⟨proxy :: path, by rw [collectMembers, found, collected]; rfl⟩

end Append

theorem refreshed_eq (staticUpstreams : List ProxyConfig) (refreshes : List (List ProxyConfig)) :
    refreshed staticUpstreams refreshes = staticUpstreams ++ refreshes.getLast?.getD [] := by
  cases refreshes using List.reverseRecOn with
  | nil => simp [refreshed]
  | append_singleton earlier dynamic => simp [refreshed, replaceUpstreams]

section Resolution

variable (server : ProxyServer) (staticUpstreams dynamic : List ProxyConfig) (before after : Draws) (name : Str)

theorem resolve_label_kept (labelled : Labelled staticUpstreams name) :
    resolveRef server (staticUpstreams ++ dynamic) after name = resolveRef server staticUpstreams before name := by
  obtain ⟨proxy, _, _, found⟩ := find_label_some staticUpstreams name labelled
  rw [resolveRef, find_label_kept _ _ _ labelled, resolveRef, found]

theorem resolve_chain_static (listed : StaticChain server staticUpstreams name) (unlabelled : ¬ Labelled staticUpstreams name) :
    ∃ chain path, findChain server name = some chain ∧ collectMembers staticUpstreams name chain.proxies = .ok path ∧
      ∀ draws, resolveRef server staticUpstreams draws name = .ok path := by
  obtain ⟨chain, found, strict, members⟩ := listed
  obtain ⟨path, collected⟩ := collect_members_static staticUpstreams name chain.proxies members
  have missing := (find_label_none staticUpstreams name).mpr unlabelled
  exact ⟨chain, path, found, collected, fun draws =>
    by simp [resolveRef, missing, found, collected, Except.bind, applyMode, strict]⟩

theorem resolve_chain_kept (listed : StaticChain server staticUpstreams name) (unlabelled : ¬ Labelled staticUpstreams name)
    (free : ¬ Labelled dynamic name) :
    resolveRef server (staticUpstreams ++ dynamic) after name = resolveRef server staticUpstreams before name := by
  obtain ⟨chain, found, strict, members⟩ := listed
  have missing : findLabel (staticUpstreams ++ dynamic) name = none := by
    rw [find_label_added _ _ _ unlabelled, find_label_none]
    exact free
  have same := collect_members_kept staticUpstreams dynamic name chain.proxies members
  obtain ⟨path, collected⟩ := collect_members_static staticUpstreams name chain.proxies members
  have missingBefore := (find_label_none staticUpstreams name).mpr unlabelled
  simp [resolveRef, missing, missingBefore, found, same, collected, Except.bind, applyMode, strict]

theorem resolve_chain_shadowed (listed : StaticChain server staticUpstreams name) (unlabelled : ¬ Labelled staticUpstreams name)
    (taken : Labelled dynamic name) :
    resolveRef server (staticUpstreams ++ dynamic) after name ≠ resolveRef server staticUpstreams before name := by
  obtain ⟨chain, path, _, collected, resolved⟩ := resolve_chain_static server staticUpstreams name listed unlabelled
  obtain ⟨proxy, _, label, found⟩ := find_label_some dynamic name taken
  rw [resolveRef, find_label_added _ _ _ unlabelled, found, resolved before]
  intro same
  have one : [proxy] = path := Except.ok.inj same
  have member := collect_members_mem staticUpstreams name chain.proxies path collected proxy (by simp [← one])
  exact unlabelled ⟨proxy, member, label⟩

end Resolution

theorem refresh_keeps_names (server : ProxyServer) (staticUpstreams : List ProxyConfig) (refreshes : List (List ProxyConfig))
    (before after : Draws) (name : Str) (named : StaticName server staticUpstreams name) :
    resolveRef server (refreshed staticUpstreams refreshes) after name = resolveRef server staticUpstreams before name ↔
      Labelled staticUpstreams name ∨ ∀ dynamic, refreshes.getLast? = some dynamic → ¬ Labelled dynamic name := by
  rw [refreshed_eq]
  by_cases labelled : Labelled staticUpstreams name
  · exact iff_of_true (resolve_label_kept server staticUpstreams _ before after name labelled) (.inl labelled)
  · have listed : StaticChain server staticUpstreams name := named.resolve_left labelled
    rw [or_iff_right labelled]
    constructor
    · intro same dynamic latest taken
      rw [latest, Option.getD_some] at same
      exact resolve_chain_shadowed server staticUpstreams dynamic before after name listed labelled taken same
    · intro free
      apply resolve_chain_kept server staticUpstreams _ before after name listed labelled
      cases latest : refreshes.getLast? with
      | none => simp [Labelled]
      | some dynamic => exact free dynamic latest

def labelledUpstream (label : Str) : ProxyConfig :=
  ⟨some label, .socks5, "127.0.0.1", some 1, none, none, ⟨none, none, none, none, none⟩, 1, none⟩

def chainServer : ProxyServer := ⟨some [⟨"main", ["static-a".toList], .strict, none⟩], ⟨none, none⟩⟩

theorem main_chain_static : StaticChain chainServer [labelledUpstream "static-a"] "main" := by
  refine ⟨⟨"main", ["static-a".toList], .strict, none⟩, by decide, rfl, fun member listed => ?_⟩
  rw [List.mem_singleton] at listed
  exact ⟨labelledUpstream "static-a", List.mem_singleton_self _, by rw [listed, labelledUpstream]⟩

theorem main_unlabelled : ¬ Labelled [labelledUpstream "static-a"] "main" := by
  unfold Labelled
  decide

def firstDraws : Draws := ⟨0, fun _ => 0, fun _ _ => 0⟩

theorem refresh_keeps_main :
    resolveRef chainServer (refreshed [labelledUpstream "static-a"] [[labelledUpstream "main"], [labelledUpstream "dyn-b"]])
        firstDraws "main" = resolveRef chainServer [labelledUpstream "static-a"] firstDraws "main" ↔
      Labelled [labelledUpstream "static-a"] "main" ∨
        ∀ dynamic, some [labelledUpstream "dyn-b"] = some dynamic → ¬ Labelled dynamic "main" :=
  refresh_keeps_names chainServer _ [[labelledUpstream "main"], [labelledUpstream "dyn-b"]] firstDraws firstDraws "main"
    (.inr main_chain_static)

-- A dynamic upstream labelled like the chain takes its name.
theorem refresh_takes_main : StaticName chainServer [labelledUpstream "static-a"] "main" ∧
    resolveRef chainServer (refreshed [labelledUpstream "static-a"] [[labelledUpstream "main"]]) firstDraws "main" ≠
      resolveRef chainServer [labelledUpstream "static-a"] firstDraws "main" := by
  have taken : Labelled [labelledUpstream "main"] "main" := ⟨_, List.mem_singleton_self _, rfl⟩
  exact ⟨.inr main_chain_static, resolve_chain_shadowed chainServer _ [labelledUpstream "main"] firstDraws firstDraws "main"
    main_chain_static main_unlabelled taken⟩

end Purroute
