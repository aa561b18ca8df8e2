import Mathlib.Data.List.Forall2
import Mathlib.Logic.Relation
import Purroute.Handlers
import Purroute.Refresh
import Purroute.Search
import Purroute.StickySession

set_option autoImplicit false

namespace Purroute

open Interaction Interaction.Program Search

def FirstLabelled (live : List ProxyConfig) (name : Str) (proxy : ProxyConfig) : Prop :=
  First (fun other => other.label = some name) live proxy

def FirstChain (server : ProxyServer) (name : Str) (chain : ChainConfig) : Prop :=
  First (fun other => other.chainId = name) (server.chains.getD []) chain

def Promised (chain : ChainConfig) (members : List ProxyConfig) (result : Except Failure (List ProxyConfig)) : Prop :=
  match chain.mode, chain.count with
  | .strict, _ => result = .ok members
  | .random, some count => ∃ path, result = .ok path ∧ path.length = min count members.length ∧ path.Subperm members
  | .random, none => members ≠ [] → ∃ member ∈ members, result = .ok [member]

structure NameResolved (server : ProxyServer) (live : List ProxyConfig) (name : Str)
    (result : Except Failure (List ProxyConfig)) :
    Prop where
  single : ∀ proxy, FirstLabelled live name proxy → result = .ok [proxy]
  missing : ¬ Labelled live name → ∀ chain, FirstChain server name chain → (∃ member ∈ chain.proxies, ¬ Labelled live member) →
    ∃ reason, result = .error (.error reason)
  listed : ¬ Labelled live name → ∀ chain, FirstChain server name chain → (∀ member ∈ chain.proxies, Labelled live member) →
    ∃ members, List.Forall₂ (FirstLabelled live) chain.proxies members ∧ Promised chain members result
  unknown : ¬ Labelled live name → (∀ chain ∈ server.chains.getD [], chain.chainId ≠ name) →
    ∃ reason, result = .error (.error reason)

section Lookup

variable (server : ProxyServer) (live : List ProxyConfig) (draws : Draws)

theorem find_label_first (name : Str) (proxy : ProxyConfig) : findLabel live name = some proxy ↔
    FirstLabelled live name proxy := by
  rw [findLabel, find_first]
  exact first_iff _ _ (fun other => beq_iff_eq) live proxy

theorem find_chain_first (name : Str) (chain : ChainConfig) : findChain server name = some chain ↔
    FirstChain server name chain := by
  rw [findChain, find_first]
  exact first_iff _ _ (fun other => beq_iff_eq) _ chain

theorem find_chain_none (name : Str) : findChain server name = none ↔ ∀ chain ∈ server.chains.getD [], chain.chainId ≠ name := by
  simp [findChain]

theorem collect_members_ok (name : Str) (labels : List Str) (members : List ProxyConfig)
    (collected : collectMembers live name labels = .ok members) : List.Forall₂ (FirstLabelled live) labels members := by
  induction labels generalizing members with
  | nil =>
      cases collected
      exact .nil
  | cons label labels ih =>
      rw [collectMembers] at collected
      cases found : findLabel live label with
      | none =>
          rw [found] at collected
          cases collected
      | some proxy =>
          rw [found] at collected
          cases later : collectMembers live name labels with
          | error failure =>
              rw [later] at collected
              cases collected
          | ok tail =>
              rw [later] at collected
              cases collected
              exact .cons ((find_label_first live label proxy).mp found) (ih tail later)

theorem collect_members_missing (name : Str) (labels : List Str) (missing : ∃ label ∈ labels, ¬ Labelled live label) :
    ∃ reason, collectMembers live name labels = .error (.error reason) := by
  induction labels with
  | nil =>
      obtain ⟨label, member, _⟩ := missing
      cases member
  | cons label labels ih =>
      rw [collectMembers]
      cases found : findLabel live label with
      | none => exact ⟨_, rfl⟩
      | some proxy =>
          have later : ∃ other ∈ labels, ¬ Labelled live other := by
            obtain ⟨other, member, unlabelled⟩ := missing
            rcases List.mem_cons.mp member with rfl | behind
            · rw [← find_label_none, found] at unlabelled
              cases unlabelled
            · exact ⟨other, behind, unlabelled⟩
          obtain ⟨reason, failed⟩ := ih later
          exact ⟨reason, by dsimp only; rw [failed]; rfl⟩

theorem apply_mode_promised (chain : ChainConfig) (members : List ProxyConfig) :
    Promised chain members (applyMode draws chain members) := by
  have shuffled := shuffle_perm draws.order members
  rw [Promised, applyMode]
  cases chain.mode with
  | strict => rfl
  | random =>
      cases chain.count with
      | some count =>
          refine ⟨_, rfl, ?_, (List.take_sublist _ _).subperm.trans shuffled.subperm⟩
          rw [List.length_take, shuffle_length]
          omega
      | none =>
          intro filled
          cases order : shuffle draws.order members with
          | nil =>
              rw [order] at shuffled
              exact absurd shuffled.nil_eq.symm filled
          | cons first rest =>
              rw [order] at shuffled
              exact ⟨first, shuffled.subset List.mem_cons_self, rfl⟩

theorem resolve_ref_label (name : Str) (proxy : ProxyConfig) (found : findLabel live name = some proxy) :
    resolveRef server live draws name = .ok [proxy] := by
  rw [resolveRef, found]

theorem resolve_ref_chain (name : Str) (unlabelled : ¬ Labelled live name) (chain : ChainConfig)
    (found : findChain server name = some chain) :
    resolveRef server live draws name = (collectMembers live name chain.proxies).bind (applyMode draws chain) := by
  rw [resolveRef, (find_label_none live name).mpr unlabelled, found]

theorem resolve_ref_named (name : Str) : NameResolved server live name (resolveRef server live draws name) where
  single := by
    intro proxy first
    exact resolve_ref_label server live draws name proxy ((find_label_first live name proxy).mpr first)
  missing := by
    intro unlabelled chain first missing
    obtain ⟨reason, failed⟩ := collect_members_missing live name chain.proxies missing
    rw [resolve_ref_chain server live draws name unlabelled chain ((find_chain_first server name chain).mpr first), failed]
    exact ⟨reason, rfl⟩
  listed := by
    intro unlabelled chain first labelled
    obtain ⟨members, collected⟩ := collect_members_static live name chain.proxies labelled
    rw [resolve_ref_chain server live draws name unlabelled chain ((find_chain_first server name chain).mpr first), collected]
    exact ⟨members, collect_members_ok live name chain.proxies members collected, apply_mode_promised draws chain members⟩
  unknown := by
    intro unlabelled absent
    rw [resolveRef, (find_label_none live name).mpr unlabelled, (find_chain_none server name).mpr absent]
    exact ⟨_, rfl⟩

theorem apply_mode_mem (chain : ChainConfig) (members path : List ProxyConfig)
    (applied : applyMode draws chain members = .ok path) :
    ∀ hop ∈ path, hop ∈ members := by
  cases mode : chain.mode with
  | strict =>
      rw [applyMode, mode] at applied
      cases applied
      exact fun _ member => member
  | random => exact (apply_mode_random draws chain members path mode applied).1

theorem resolve_ref_mem (name : Str) (path : List ProxyConfig) (resolved : resolveRef server live draws name = .ok path) :
    ∀ hop ∈ path, hop ∈ live := by
  rcases resolve_ref_cases server live draws name path resolved with
    ⟨proxy, found, rfl⟩ | ⟨_, chain, members, _, collected, applied⟩
  · rw [List.forall_mem_singleton]
    exact List.mem_of_find?_eq_some found
  · exact fun hop member => collect_members_mem live name chain.proxies members collected hop
      (apply_mode_mem draws chain members path applied hop member)

end Lookup

-- Every live set stored so far, the newest first, and a task that resolves one name.
structure Resolving where
  stored : List (List ProxyConfig)
  task : Router (List ProxyConfig)

def resolveRefTask (server : ProxyServer) (name : Str) : Router (List ProxyConfig) :=
  .ask .load fun (live, draws) => ofExcept (resolveRef server live draws name)

-- `replace_upstreams` stores another set at any time; a load gives the newest.
inductive Resolving.Step : Resolving → Resolving → Prop
  | replace (stored : List (List ProxyConfig)) (staticUpstreams dynamic : List ProxyConfig) (task : Router (List ProxyConfig)) :
      Step ⟨stored, task⟩ ⟨replaceUpstreams staticUpstreams dynamic :: stored, task⟩
  | load (live : List ProxyConfig) (earlier : List (List ProxyConfig)) (draws : Draws)
      (next : List ProxyConfig × Draws → Router (List ProxyConfig)) :
      Step ⟨live :: earlier, .ask .load next⟩ ⟨live :: earlier, next (live, draws)⟩

def OneSnapshot (server : ProxyServer) (name : Str) (state : Resolving) : Prop :=
  state.task = resolveRefTask server name ∨ ∃ live ∈ state.stored, ∃ draws, state.task =
    ofExcept (resolveRef server live draws name)

theorem one_snapshot_step (server : ProxyServer) (name : Str) (state next : Resolving) (step : Resolving.Step state next)
    (kept : OneSnapshot server name state) : OneSnapshot server name next := by
  cases step with
  | replace stored staticUpstreams dynamic task =>
      rcases kept with waiting | ⟨live, member, draws, settled⟩
      · exact .inl waiting
      · exact .inr ⟨live, List.mem_cons_of_mem _ member, draws, settled⟩
  | load live earlier draws continuation =>
      rcases kept with waiting | ⟨loaded, _, before, settled⟩
      · cases waiting
        exact .inr ⟨live, List.mem_cons_self, draws, rfl⟩
      · cases outcome : resolveRef server loaded before name <;> rw [outcome] at settled <;> cases settled

theorem one_snapshot_run (server : ProxyServer) (name : Str) (initial : List ProxyConfig) (state : Resolving)
    (run : Relation.ReflTransGen Resolving.Step ⟨[initial], resolveRefTask server name⟩ state) :
    OneSnapshot server name state := by
  induction run with
  | refl => exact .inl rfl
  | tail _ step ih => exact one_snapshot_step server name _ _ step ih

-- `draws` ranges over every order that the shuffle can give (`shuffle_surjective`).
theorem chain_modes_kept (server : ProxyServer) (name : Str) :
    (∀ live draws, NameResolved server live name (resolveRef server live draws name)) ∧
      ∀ initial stored outcome,
        Relation.ReflTransGen Resolving.Step ⟨[initial], resolveRefTask server name⟩ ⟨stored, ofExcept outcome⟩ →
        ∃ live ∈ stored, NameResolved server live name outcome ∧ ∀ path, outcome = .ok path → ∀ hop ∈ path, hop ∈ live := by
  constructor
  · exact fun live draws => resolve_ref_named server live draws name
  · intro initial stored outcome run
    rcases one_snapshot_run server name initial _ run with waiting | ⟨live, member, draws, settled⟩
    · cases outcome <;> cases waiting
    · cases ofExcept_injective _ _ settled
      exact ⟨live, member, resolve_ref_named server live draws name, resolve_ref_mem server live draws name⟩

def Usable : Except Failure (List ProxyConfig) → Prop
  | .ok path => 0 < path.length
  | .error failure => failure ≠ .panic

def Fillable (chain : ChainConfig) : Prop := chain.proxies ≠ [] ∧ (chain.mode = .random → chain.count ≠ some 0)

section Usability

variable (server : ProxyServer) (live : List ProxyConfig) (draws : Draws) (selection : Selection)

theorem apply_mode_usable (chain : ChainConfig) (members : List ProxyConfig) :
    Usable (applyMode draws chain members) ↔ members ≠ [] ∧ (chain.mode = .random → chain.count ≠ some 0) := by
  rw [← List.length_pos_iff]
  cases mode : chain.mode with
  | strict =>
      rw [applyMode, mode]
      constructor
      · exact fun filled => ⟨filled, fun other => by cases other⟩
      · exact fun filled => filled.1
  | random =>
      rw [applyMode, mode]
      cases limit : chain.count with
      | some count =>
          have length : ((shuffle draws.order members).take (min count members.length)).length = min count members.length := by
            rw [List.length_take, shuffle_length]
            omega
          change 0 < ((shuffle draws.order members).take (min count members.length)).length ↔ _
          rw [length]
          constructor
          · intro filled
            refine ⟨by omega, fun _ zero => ?_⟩
            cases zero
            omega
          · intro both
            obtain ⟨filled, positive⟩ := both
            have counted : count ≠ 0 := fun zero => positive rfl (zero ▸ rfl)
            omega
      | none =>
          have length := shuffle_length draws.order members
          cases order : shuffle draws.order members with
          | nil =>
              rw [order] at length
              constructor
              · exact fun panics => absurd rfl panics
              · intro both
                have filled := both.1
                rw [← length] at filled
                exact absurd filled (Nat.lt_irrefl 0)
          | cons first rest =>
              rw [order] at length
              constructor
              · exact fun _ => ⟨length ▸ Nat.succ_pos _, fun _ other => by cases other⟩
              · exact fun _ => Nat.one_pos

theorem resolve_ref_usable (name : Str) : Usable (resolveRef server live draws name) ↔
    (¬ Labelled live name → ∀ chain, FirstChain server name chain →
      (∀ member ∈ chain.proxies, Labelled live member) → Fillable chain) := by
  have named := resolve_ref_named server live draws name
  by_cases labelled : Labelled live name
  · obtain ⟨proxy, _, _, found⟩ := find_label_some live name labelled
    rw [resolve_ref_label server live draws name proxy found]
    exact iff_of_true Nat.one_pos fun unlabelled => absurd labelled unlabelled
  · cases listed : findChain server name with
    | none =>
        obtain ⟨reason, failed⟩ := named.unknown labelled ((find_chain_none server name).mp listed)
        rw [failed]
        refine iff_of_true (fun same => by cases same) fun _ chain first => ?_
        rw [← find_chain_first, listed] at first
        cases first
    | some chain =>
        have first := (find_chain_first server name chain).mp listed
        have only : ∀ other, FirstChain server name other → other = chain := by
          intro other same
          rw [← find_chain_first, listed] at same
          exact (Option.some.inj same).symm
        by_cases complete : ∀ member ∈ chain.proxies, Labelled live member
        · obtain ⟨members, collected⟩ := collect_members_static live name chain.proxies complete
          have length := (collect_members_ok live name chain.proxies members collected).length_eq
          have same : members ≠ [] ↔ chain.proxies ≠ [] := by
            rw [← List.length_pos_iff, ← List.length_pos_iff, length]
          rw [resolve_ref_chain server live draws name labelled chain listed, collected]
          change Usable (applyMode draws chain members) ↔ _
          rw [apply_mode_usable, same]
          constructor
          · intro filled _ other second _
            rw [only other second]
            exact filled
          · exact fun filled => filled labelled chain first complete
        · have missing : ∃ member ∈ chain.proxies, ¬ Labelled live member := by
            by_contra kept
            exact complete fun member inside => by_contra fun unlabelled => kept ⟨member, inside, unlabelled⟩
          obtain ⟨reason, failed⟩ := named.missing labelled chain first missing
          rw [failed]
          refine iff_of_true (fun same => by cases same) fun _ other second all => ?_
          rw [only other second] at all
          exact absurd all complete

theorem unnamed_usable (unnamed : route server selection = none) : Usable (resolveChainInner server live draws selection) := by
  rw [route] at unnamed
  rw [resolveChainInner]
  cases explicit : selection.chain with
  | some name =>
      rw [explicit] at unnamed
      cases unnamed
  | none =>
      rw [explicit] at unnamed
      dsimp only at unnamed ⊢
      split
      · cases picked : pickIndex (candidates live selection).length selection.session draws.candidate with
        | none => exact fun same => by cases same
        | some i =>
            dsimp only
            rw [List.getElem?_eq_getElem (pick_index_lt _ _ _ _ picked)]
            exact Nat.one_pos
      · have only : onlySession selection = true := by simpa using ‹¬ onlySession selection = false›
        rw [only, if_pos rfl] at unnamed
        unfold resolveGlobalChain
        rw [unnamed]
        cases live with
        | nil => exact fun same => by cases same
        | cons proxy rest => exact Nat.one_pos

theorem template_usable : Usable (resolveProxyChain server live draws selection) ↔
    Usable (resolveChainInner server live draws selection) := by
  rw [resolveProxyChain]
  cases resolveChainInner server live draws selection with
  | error failure => rfl
  | ok path =>
      change 0 < (path.mapIdx _).length ↔ 0 < path.length
      rw [List.length_mapIdx]

theorem resolution_usable_iff : Usable (resolveProxyChain server live draws selection) ↔
    ∀ name, route server selection = some name → ¬ Labelled live name → ∀ chain, FirstChain server name chain →
      (∀ member ∈ chain.proxies, Labelled live member) → Fillable chain := by
  rw [template_usable]
  cases named : route server selection with
  | none =>
      refine iff_of_true (unnamed_usable server live draws selection named) fun name other => ?_
      cases other
  | some name =>
      rw [named_route server live selection name named draws, resolve_ref_usable]
      constructor
      · intro filled other same
        cases same
        exact filled
      · exact fun filled => filled name rfl

end Usability

theorem empty_chain_panics : ¬ ∀ (server : ProxyServer) (live : List ProxyConfig) (draws : Draws) (selection : Selection),
    Usable (resolveProxyChain server live draws selection) := by
  intro usable
  exact usable ⟨some [⟨"main", [], .random, none⟩], ⟨some "main".toList, none⟩⟩ [] firstDraws emptySelection rfl

end Purroute
