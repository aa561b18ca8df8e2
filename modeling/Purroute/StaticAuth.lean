import Purroute.Auth

set_option autoImplicit false

namespace Purroute

inductive AuthError where
  | backend (message : Str)
deriving DecidableEq, Repr

-- A `[[user]]` block.
structure UserConfig where
  username : Str
  password : Str
  bandwidthLimit : Option Int
  allowedIps : List Str
  defaultSelection : Option Str

-- What an `IpNet` is, and which addresses it contains, comes from outside the repository.
structure StaticUser (Net : Type) where
  username : Str
  password : Str
  remaining : Option Int
  allowedNets : List Net
  defaultSelection : Option Str

-- `IpNet::from_str`, `IpAddr::from_str` and the conversion between what they yield.
structure NetTexts (Net : Type) where
  net : Str → Option Net
  addr : Str → Option IpAddr
  host : IpAddr → Net

section Startup

variable {Net : Type} (texts : NetTexts Net)

-- A bare address is a host network.
def parseNet (s : Str) : Except AuthError Net :=
  match texts.net s with
  | some net => .ok net
  | none =>
      match texts.addr s with
      | some addr => .ok (texts.host addr)
      | none => .error (.backend ("invalid allowed_ips entry '" ++ s ++ "'"))

def newUser (u : UserConfig) : Except AuthError (StaticUser Net) := do
  let allowedNets ← u.allowedIps.mapM (parseNet texts)
  pure ⟨u.username, u.password, u.bandwidthLimit, allowedNets, u.defaultSelection⟩

def newBackend (users : List UserConfig) : Except AuthError (List (StaticUser Net)) := users.mapM (newUser texts)

def Configured (u : UserConfig) (user : StaticUser Net) : Prop :=
  user.username = u.username ∧ user.password = u.password ∧ user.remaining = u.bandwidthLimit ∧
    user.defaultSelection = u.defaultSelection

theorem new_user_configured (u : UserConfig) (user : StaticUser Net) (made : newUser texts u = .ok user) : Configured u user := by
  rw [newUser] at made
  cases nets : u.allowedIps.mapM (parseNet texts) with
  | error reason =>
      rw [nets] at made
      cases made
  | ok allowed =>
      rw [nets] at made
      cases made
      exact ⟨rfl, rfl, rfl, rfl⟩

theorem new_backend_configured (blocks : List UserConfig) (users : List (StaticUser Net))
    (accepted : newBackend texts blocks = .ok users) :
    List.Forall₂ Configured blocks users := by
  rw [newBackend] at accepted
  induction blocks generalizing users with
  | nil =>
      cases accepted
      exact .nil
  | cons block blocks ih =>
      rw [List.mapM_cons] at accepted
      cases made : newUser texts block with
      | error reason =>
          rw [made] at accepted
          cases accepted
      | ok user =>
          cases rest : blocks.mapM (newUser texts) with
          | error reason =>
              rw [made, rest] at accepted
              cases accepted
          | ok others =>
              rw [made, rest] at accepted
              cases accepted
              exact .cons (new_user_configured texts block user made) (ih others rest)

end Startup

def constantTimeEq (a b : Str) : Bool :=
  if (utf8 a).length ≠ (utf8 b).length then false
  else ((utf8 a).zip (utf8 b)).foldl (fun diff pair => diff ||| (pair.1 ^^^ pair.2)) 0 == 0

section Backend

variable {Net : Type} (contains : Net → IpAddr → Bool) (users : List (StaticUser Net))

-- Account ids are 1-based indices. The allowances are atomics, and `load` is what
-- they hold at the moment.
def accountFor (load : Nat → Int) (user : StaticUser Net) (index : Nat) : Account :=
  ⟨index + 1, user.remaining.map fun _ => load index, user.defaultSelection⟩

def findUser (wanted : StaticUser Net → Bool) : Option (StaticUser Net × Nat) := users.zipIdx.find? fun entry => wanted entry.1

def addressUser (peer : IpAddr) : Option (StaticUser Net × Nat) :=
  findUser users fun user => user.allowedNets.any fun net => contains net peer

def staticAuthenticate (load : Nat → Int) (username secret : Str) : Option Account :=
  (findUser users fun user => user.username == username && constantTimeEq user.password secret).map fun (user, index) =>
    accountFor load user index

def staticAuthenticateByIp (load : Nat → Int) (peer : IpAddr) : Option Account :=
  (addressUser contains users peer).map fun (user, index) => accountFor load user index

def Backed (event : Event) : Prop :=
  match event with
  | ⟨.authenticate username secret, reply⟩ => ∃ load, reply = .ok (staticAuthenticate users load username secret)
  | ⟨.authenticateByIp peer, reply⟩ => ∃ load, reply = .ok (staticAuthenticateByIp contains users load peer)
  | _ => True

end Backend

theorem differing_bits (pairs : List (UInt8 × UInt8)) (diff : UInt8) :
    pairs.foldl (fun diff pair => diff ||| (pair.1 ^^^ pair.2)) diff = 0 ↔ diff = 0 ∧ ∀ pair ∈ pairs, pair.1 = pair.2 := by
  induction pairs generalizing diff with
  | nil => simp
  | cons pair rest ih =>
      rw [List.foldl_cons, ih, UInt8.or_eq_zero_iff, UInt8.xor_eq_zero_iff, List.forall_mem_cons, and_assoc]

theorem zip_equal (left right : Bytes) (same : left.length = right.length) :
    (∀ pair ∈ left.zip right, pair.1 = pair.2) ↔ left = right := by
  induction left generalizing right with
  | nil =>
      have empty : right = [] := List.length_eq_zero_iff.mp same.symm
      simp [empty]
  | cons byte left ih =>
      cases right with
      | nil => cases same
      | cons other right =>
          rw [List.zip_cons_cons, List.forall_mem_cons, ih right (Nat.succ.inj same), List.cons.injEq]

theorem constant_time_eq_iff (a b : Str) : constantTimeEq a b = true ↔ a = b := by
  rw [constantTimeEq]
  by_cases same : (utf8 a).length = (utf8 b).length
  · rw [if_neg (not_not.mpr same), beq_iff_eq, differing_bits, zip_equal _ _ same]
    exact ⟨fun equal => utf8_injective a b equal.2, fun equal => ⟨rfl, congrArg utf8 equal⟩⟩
  · rw [if_pos same]
    exact ⟨nofun, fun equal => absurd (congrArg (fun text => (utf8 text).length) equal) same⟩

section Users

variable {Net : Type} (users : List (StaticUser Net))

theorem find_user_some (wanted : StaticUser Net → Bool) (user : StaticUser Net) (index : Nat)
    (found : findUser users wanted = some (user, index)) : users[index]? = some user ∧ wanted user = true := by
  rw [findUser] at found
  have member := List.mem_of_find?_eq_some found
  have matching := List.find?_some found
  exact ⟨List.mem_zipIdx_iff_getElem?.mp member, matching⟩

end Users

end Purroute
