import Purroute.Routing
import Mathlib.Data.List.Perm.Basic

set_option autoImplicit false

namespace Purroute

-- A resolution loads the live set once and works on that snapshot.
structure ProxyServer where
  chains : Option (List ChainConfig)
  config : RouterConfig
deriving Repr

-- What the random generator yields during one resolution.
structure Draws where
  candidate : Nat
  order : Nat → Nat
  value : Nat → Key → Nat

-- `SliceRandom::shuffle`: every permutation is the outcome of some `order`.
def shuffle {A : Type} (order : Nat → Nat) : List A → List A
  | [] => []
  | head :: rest => (shuffle (fun k => order (k + 1)) rest).insertIdx (order 0 % (rest.length + 1)) head

def findLabel (live : List ProxyConfig) (name : Str) : Option ProxyConfig :=
  live.find? fun proxy => proxy.label == some name

def findChain (server : ProxyServer) (name : Str) : Option ChainConfig :=
  (server.chains.getD []).find? fun chain => chain.chainId == name

def collectMembers (live : List ProxyConfig) (name : Str) : List Str → Except Failure (List ProxyConfig)
  | [] => .ok []
  | label :: rest =>
      match findLabel live label with
      | none => .error (.error (.protocol ("Proxy '" ++ label ++ "' not found in chain '" ++ name ++ "'")))
      | some proxy => (collectMembers live name rest).map fun members => proxy :: members

def applyMode (draws : Draws) (chain : ChainConfig) (members : List ProxyConfig) : Except Failure (List ProxyConfig) :=
  match chain.mode with
  | .strict => .ok members
  | .random =>
      match chain.count with
      | some count => .ok ((shuffle draws.order members).take (min count members.length))
      | none =>
          match shuffle draws.order members with
          | [] => .error .panic
          | first :: _ => .ok [first]

def resolveRef (server : ProxyServer) (live : List ProxyConfig) (draws : Draws) (name : Str) :
    Except Failure (List ProxyConfig) :=
  match findLabel live name with
  | some proxy => .ok [proxy]
  | none =>
      match findChain server name with
      | some chain => (collectMembers live name chain.proxies).bind (applyMode draws chain)
      | none => .error (.error (.protocol ("Chain or proxy '" ++ name ++ "' not found")))

def resolveGlobalChain (server : ProxyServer) (live : List ProxyConfig) (draws : Draws) :
    Except Failure (List ProxyConfig) :=
  match server.config.chain with
  | some name => resolveRef server live draws name
  | none =>
      match live with
      | [] => .error (protocolError "No proxy configuration available")
      | proxy :: _ => .ok [proxy]

def candidates (live : List ProxyConfig) (selection : Selection) : List ProxyConfig :=
  live.filter fun proxy => matchesUpstream selection proxy.tags proxy.usernamePrefixes

def resolveChainInner (server : ProxyServer) (live : List ProxyConfig) (draws : Draws) (selection : Selection) :
    Except Failure (List ProxyConfig) :=
  match selection.chain with
  | some name => resolveRef server live draws name
  | none =>
      if onlySession selection = false then
        match pickIndex (candidates live selection).length selection.session draws.candidate with
        | none => .error (.error .noMatchingUpstream)
        | some i =>
            match (candidates live selection)[i]? with
            | none => .error .panic
            | some proxy => .ok [proxy]
      else resolveGlobalChain server live draws

def templateUsername (selection : Selection) (draw : Key → Nat) (proxy : ProxyConfig) : ProxyConfig :=
  match proxy.usernamePrefixes with
  | none => proxy
  | some prefixes => { proxy with username := some (buildUsername (proxy.username.getD []) prefixes selection draw) }

def resolveProxyChain (server : ProxyServer) (live : List ProxyConfig) (draws : Draws) (selection : Selection) :
    Except Failure (List ProxyConfig) :=
  (resolveChainInner server live draws selection).map fun path =>
    path.mapIdx fun hop proxy => templateUsername selection (draws.value hop) proxy

section Shuffle

variable {A : Type}

theorem shuffle_perm (order : Nat → Nat) (items : List A) : (shuffle order items).Perm items := by
  induction items generalizing order with
  | nil => exact .nil
  | cons head rest ih =>
      have tail := ih fun k => order (k + 1)
      have bound : order 0 % (rest.length + 1) ≤ (shuffle (fun k => order (k + 1)) rest).length := by
        rw [tail.length_eq]
        exact Nat.lt_succ_iff.mp (Nat.mod_lt _ (Nat.succ_pos _))
      exact (List.perm_insertIdx head _ bound).trans (tail.cons head)

theorem shuffle_length (order : Nat → Nat) (items : List A) : (shuffle order items).length = items.length :=
  (shuffle_perm order items).length_eq

theorem shuffle_mem (order : Nat → Nat) (items : List A) (item : A) : item ∈ shuffle order items ↔ item ∈ items :=
  (shuffle_perm order items).mem_iff

theorem shuffle_first (items : List A) (item : A) (member : item ∈ items) :
    ∃ order rest, shuffle order items = item :: rest := by
  induction items with
  | nil => cases member
  | cons head tail ih =>
      rcases List.mem_cons.mp member with rfl | later
      · exact ⟨fun _ => 0, shuffle (fun _ => 0) tail, by simp [shuffle]⟩
      · obtain ⟨order, rest, first⟩ := ih later
        have positive : 0 < tail.length := List.length_pos_of_mem later
        refine ⟨fun k => k.casesOn 1 order, head :: rest, ?_⟩
        simp [shuffle, first, Nat.mod_eq_of_lt (show 1 < tail.length + 1 by omega)]

theorem insert_middle (before after : List A) (item : A) :
    (before ++ after).insertIdx before.length item = before ++ item :: after := by
  induction before with
  | nil => simp
  | cons head tail ih => simpa using ih

theorem shuffle_surjective (items target : List A) (perm : target.Perm items) : ∃ order, shuffle order items = target := by
  induction items generalizing target with
  | nil => exact ⟨fun _ => 0, by simp [shuffle, perm.eq_nil]⟩
  | cons head tail ih =>
      obtain ⟨before, after, rfl⟩ := List.append_of_mem (perm.symm.subset List.mem_cons_self)
      have smaller : (before ++ after).Perm tail := (List.perm_middle.symm.trans perm).cons_inv
      obtain ⟨order, same⟩ := ih (before ++ after) smaller
      have bound : before.length < tail.length + 1 := by
        have := smaller.length_eq
        simp at this
        omega
      refine ⟨fun k => k.casesOn before.length order, ?_⟩
      simp [shuffle, same, Nat.mod_eq_of_lt bound, insert_middle]

end Shuffle

section Lookup

variable (server : ProxyServer) (live : List ProxyConfig) (draws : Draws)

theorem collect_members_mem (name : Str) (labels : List Str) (members : List ProxyConfig)
    (collected : collectMembers live name labels = .ok members) : ∀ member ∈ members, member ∈ live := by
  induction labels generalizing members with
  | nil =>
      cases collected
      simp
  | cons label rest ih =>
      simp only [collectMembers] at collected
      cases found : findLabel live label with
      | none => simp [found] at collected
      | some proxy =>
          cases later : collectMembers live name rest with
          | error reason => simp [found, later, Except.map] at collected
          | ok tail =>
              simp only [found, later, Except.map, Except.ok.injEq] at collected
              subst collected
              simpa using ⟨List.mem_of_find?_eq_some found, ih tail later⟩

theorem resolve_ref_cases (name : Str) (path : List ProxyConfig) (resolved : resolveRef server live draws name = .ok path) :
    (∃ proxy, findLabel live name = some proxy ∧ path = [proxy]) ∨
      (findLabel live name = none ∧ ∃ chain members, findChain server name = some chain ∧
        collectMembers live name chain.proxies = .ok members ∧ applyMode draws chain members = .ok path) := by
  rw [resolveRef] at resolved
  cases labelled : findLabel live name with
  | some proxy =>
      simp only [labelled, Except.ok.injEq] at resolved
      exact .inl ⟨proxy, rfl, resolved.symm⟩
  | none =>
      cases listed : findChain server name with
      | none => simp [labelled, listed] at resolved
      | some chain =>
          cases collected : collectMembers live name chain.proxies with
          | error reason => simp [labelled, listed, collected, Except.bind] at resolved
          | ok members =>
              simp only [labelled, listed, collected, Except.bind] at resolved
              exact .inr ⟨rfl, chain, members, rfl, collected, resolved⟩

end Lookup

end Purroute
