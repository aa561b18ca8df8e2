import Purroute.Rounding
import Purroute.StaticAuth

set_option autoImplicit false

namespace Purroute

-- The README runs a release build, where `i64` arithmetic wraps.
def wrapI64 (value : Int) : Int := (value - i64Min) % 18446744073709551616 + i64Min

abbrev AccountId := { id : Int // i64Min ≤ id ∧ id ≤ i64Max }

-- The compare-and-swap of one call by itself: `(cur - debit).max(0)`.
def nextLeft (cur : Int) (debit : Debit) : Int := max (wrapI64 (cur - debit)) 0

-- `usize::try_from(id - 1).ok()`
def positionOf (id : AccountId) : Option Nat :=
  let index := wrapI64 (id - 1)
  if index < 0 then none else some index.toNat

-- `remaining` is what each atomic holds now. A `Vec` is no longer than `isize::MAX`.
structure Backend (Net : Type) where
  users : List (StaticUser Net)
  size : (users.length : Int) ≤ i64Max

section Calls

variable {Net : Type}

def allowanceAt (users : List (StaticUser Net)) (index : Nat) : Int := (users[index]?.bind fun user => user.remaining).getD 0

def Backend.authenticate (backend : Backend Net) (username secret : Str) : Option Account :=
  staticAuthenticate backend.users (allowanceAt backend.users) username secret

def Backend.authenticateByIp (contains : Net → IpAddr → Bool) (backend : Backend Net) (peer : IpAddr) : Option Account :=
  staticAuthenticateByIp contains backend.users (allowanceAt backend.users) peer

def Backend.store (backend : Backend Net) (index : Nat) (user : StaticUser Net) (next : Int) : Backend Net where
  users := backend.users.set index { user with remaining := some next }
  size := by
    rw [List.length_set]
    exact backend.size

-- `price` is what the floating-point product and its casts make of a number of bytes.
def Backend.reportUsage (backend : Backend Net) (id : AccountId) (bytesIn bytesOut : Nat) (price : Int → Debit) :
    Option Int × Backend Net :=
  match positionOf id with
  | none => (none, backend)
  | some index =>
      match backend.users[index]? with
      | none => (none, backend)
      | some user =>
          match user.remaining with
          | none => (none, backend)
          | some cur =>
              let next := nextLeft cur (price (saturatingAdd (toI64 bytesIn) (toI64 bytesOut)))
              (some next, backend.store index user next)

inductive AuthCall where
  | authenticate (username secret : Str)
  | authenticateByIp (peer : IpAddr)
  | reportUsage (id : AccountId) (bytesIn bytesOut : Nat) (price : Int → Debit)

def Backend.call (backend : Backend Net) : AuthCall → Backend Net
  | .reportUsage id bytesIn bytesOut price => (backend.reportUsage id bytesIn bytesOut price).2
  | _ => backend

def Backend.calls (backend : Backend Net) (calls : List AuthCall) : Backend Net := calls.foldl Backend.call backend

end Calls

section Positions

variable {Net : Type} (users : List (StaticUser Net)) (wanted : StaticUser Net → Bool)

def FirstUser (wanted : StaticUser Net → Prop) (index : Nat) (user : StaticUser Net) : Prop :=
  users[index]? = some user ∧ wanted user ∧ ∀ earlier < index, ∀ other, users[earlier]? = some other → ¬ wanted other

theorem find_user_first (user : StaticUser Net) (index : Nat) (found : findUser users wanted = some (user, index)) :
    FirstUser users (fun other => wanted other = true) index user := by
  obtain ⟨listed, matching⟩ := find_user_some users wanted user index found
  refine ⟨listed, matching, fun earlier before other early => ?_⟩
  rw [findUser, List.find?_eq_some_iff_getElem] at found
  obtain ⟨_, place, inside, entry, skipped⟩ := found
  rw [List.getElem_zipIdx, Nat.zero_add] at entry
  have same : place = index := congrArg Prod.snd entry
  have here := List.getElem?_eq_some_iff.mp early
  obtain ⟨short, here⟩ := here
  have unwanted := skipped earlier (same ▸ before)
  rw [List.getElem_zipIdx, here] at unwanted
  simpa using unwanted

theorem find_user_exists : (∃ entry, findUser users wanted = some entry) ↔ ∃ user ∈ users, wanted user = true := by
  rw [findUser, ← Option.isSome_iff_exists, List.find?_isSome]
  constructor
  · rintro ⟨⟨user, index⟩, member, matching⟩
    exact ⟨user, List.mem_of_getElem? (List.mem_zipIdx_iff_getElem?.mp member), matching⟩
  · rintro ⟨user, member, matching⟩
    obtain ⟨index, listed⟩ := List.getElem?_of_mem member
    exact ⟨(user, index), List.mem_zipIdx_iff_getElem?.mpr listed, matching⟩

def identity (user : StaticUser Net) : StaticUser Net := { user with remaining := none }

theorem find_user_identity (blind : ∀ user, wanted (identity user) = wanted user) :
    (findUser (users.map identity) wanted).map Prod.snd = (findUser users wanted).map Prod.snd := by
  have same : (fun entry : StaticUser Net × Nat => wanted entry.1) ∘ Prod.map identity id = fun entry => wanted entry.1 :=
    funext fun entry => blind entry.1
  rw [findUser, findUser, List.zipIdx_map, List.find?_map, same, Option.map_map]
  rfl

def accountAt (index : Nat) : Option Account := users[index]?.map fun user => ⟨index + 1, user.remaining, user.defaultSelection⟩

theorem account_for_held (user : StaticUser Net) (index : Nat) (listed : users[index]? = some user) :
    some (accountFor (allowanceAt users) user index) = accountAt users index := by
  rw [accountAt, listed, accountFor]
  cases limit : user.remaining with
  | none => rw [Option.map_none, Option.map_some, limit]
  | some cur =>
      have held : allowanceAt users index = cur := by rw [allowanceAt, listed, Option.bind_some, limit, Option.getD_some]
      rw [Option.map_some, Option.map_some, held, limit]

theorem found_account : ((findUser users wanted).map fun (user, index) => accountFor (allowanceAt users) user index) =
    ((findUser users wanted).map Prod.snd).bind (accountAt users) := by
  cases found : findUser users wanted with
  | none => rfl
  | some entry =>
      obtain ⟨user, index⟩ := entry
      exact account_for_held users user index (find_user_some users wanted user index found).1

end Positions

section Reports

variable {Net : Type} (backend : Backend Net) (id : AccountId) (bytesIn bytesOut : Nat) (price : Int → Debit)

def callDebit (bytesIn bytesOut : Nat) (price : Int → Debit) : Debit := price (saturatingAdd (toI64 bytesIn) (toI64 bytesOut))

def spent (debit : Debit) (user : StaticUser Net) : StaticUser Net :=
  { user with remaining := user.remaining.map fun cur => nextLeft cur debit }

theorem wrap_inside (value : Int) (low : i64Min ≤ value) (high : value ≤ i64Max) : wrapI64 value = value := by
  unfold wrapI64
  unfold i64Min i64Max at *
  omega

theorem position_listed (index : Nat) (inside : index < backend.users.length) :
    positionOf id = some index ↔ id.val = index + 1 := by
  have size := backend.size
  obtain ⟨low, high⟩ := id.2
  rw [positionOf]
  by_cases least : id.val = i64Min
  · have wrapped : wrapI64 (id.val - 1) = i64Max := by
      rw [least]
      rfl
    rw [wrapped]
    unfold i64Min i64Max at *
    simp only [Int.reduceLT, if_false, Option.some.injEq]
    omega
  · have plain : wrapI64 (id.val - 1) = id.val - 1 := by
      apply wrap_inside
      · omega
      · omega
    rw [plain]
    split
    · constructor
      · exact fun same => by cases same
      · omega
    · rw [Option.some.injEq]
      omega

theorem next_left_inside (cur : Int) (debit : Debit) (inside : InRange cur) : nextLeft cur debit = nextRemaining cur debit := by
  obtain ⟨nonneg, bounded⟩ := inside
  obtain ⟨low, high⟩ := debit.2
  have plain : wrapI64 (cur - debit) = cur - debit := by
    apply wrap_inside
    · unfold i64Min
      unfold i64Max at *
      omega
    · omega
  rw [nextLeft, plain, nextRemaining]

theorem report_listed (index : Nat) (user : StaticUser Net) (listed : backend.users[index]? = some user)
    (named : id.val = index + 1) :
    (backend.reportUsage id bytesIn bytesOut price).1 = (spent (callDebit bytesIn bytesOut price) user).remaining ∧
      (backend.reportUsage id bytesIn bytesOut price).2.users =
        backend.users.set index (spent (callDebit bytesIn bytesOut price) user) := by
  obtain ⟨inside, here⟩ := List.getElem?_eq_some_iff.mp listed
  rw [Backend.reportUsage, (position_listed backend id index inside).mpr named]
  dsimp only
  rw [listed, spent]
  dsimp only
  cases limit : user.remaining with
  | none =>
      have same : ({ user with remaining := none } : StaticUser Net) = user := by rw [← limit]
      have kept := List.set_getElem_self inside
      rw [here] at kept
      refine ⟨rfl, ?_⟩
      rw [Option.map_none, same, kept]
  | some cur => exact ⟨rfl, rfl⟩

theorem exact_price_range (amount : Int) :
    0 ≤ (if 0 < amount then min amount i64Max else 0) ∧ (if 0 < amount then min amount i64Max else 0) ≤ i64Max := by
  have limit : (0 : Int) ≤ i64Max := by decide
  split <;> omega

def exactPrice (costPerByte : Rat) (bytes : Int) : Debit :=
  let amount := roundHalfAway (bytes * costPerByte)
  ⟨if 0 < amount then min amount i64Max else 0, exact_price_range amount⟩

theorem call_debit_exact (costPerByte : Rat) : (callDebit bytesIn bytesOut (exactPrice costPerByte)).val =
    usageDebit bytesIn bytesOut costPerByte := rfl

def sharedCounters (users : List (StaticUser Net)) : List (Option Int) := users.map StaticUser.remaining

theorem report_alone (index : Nat) (user : StaticUser Net) (cur : Int) (listed : backend.users[index]? = some user)
    (named : id.val = index + 1) (limited : user.remaining = some cur) (inside : InRange cur) :
    Report.Step id (callDebit bytesIn bytesOut price) (sharedCounters backend.users) .called
    (sharedCounters backend.users) (.exchanging cur) ∧
      Report.Step id (callDebit bytesIn bytesOut price) (sharedCounters backend.users) (.exchanging cur)
        (sharedCounters (backend.reportUsage id bytesIn bytesOut price).2.users)
        (.returned (backend.reportUsage id bytesIn bytesOut price).1) := by
  obtain ⟨replied, stored⟩ := report_listed backend id bytesIn bytesOut price index user listed named
  have place : (id.val - 1).toNat = index := by omega
  have read : counter (sharedCounters backend.users) id = some cur := by
    rw [counter, if_neg (by omega), place, sharedCounters, List.getElem?_map, listed, Option.map_some, limited, Option.join_some]
  have next := next_left_inside cur (callDebit bytesIn bytesOut price) inside
  rw [spent, limited, Option.map_some, next] at replied stored
  have after : sharedCounters (backend.reportUsage id bytesIn bytesOut price).2.users =
      storeCounter (sharedCounters backend.users) id (nextRemaining cur (callDebit bytesIn bytesOut price)) := by
    rw [stored, sharedCounters, List.map_set, storeCounter, place, sharedCounters]
  rw [replied, after]
  exact ⟨.load _ cur read, .exchange _ cur read⟩

theorem report_unlisted (unknown : ∀ (index : Nat) user, backend.users[index]? = some user → id.val ≠ index + 1) :
    backend.reportUsage id bytesIn bytesOut price = (none, backend) := by
  rw [Backend.reportUsage]
  cases place : positionOf id with
  | none => rfl
  | some index =>
      dsimp only
      cases listed : backend.users[index]? with
      | none => rfl
      | some user =>
          have inside := (List.getElem?_eq_some_iff.mp listed).1
          exact absurd ((position_listed backend id index inside).mp place) (unknown index user listed)

theorem report_others (index : Nat) (other : id.val ≠ index + 1) :
    (backend.reportUsage id bytesIn bytesOut price).2.users[index]? = backend.users[index]? := by
  by_cases known : ∃ (place : Nat) (user : StaticUser Net), backend.users[place]? = some user ∧ id.val = place + 1
  · obtain ⟨place, user, listed, named⟩ := known
    rw [(report_listed backend id bytesIn bytesOut price place user listed named).2, List.getElem?_set_ne]
    intro same
    exact other (same ▸ named)
  · rw [report_unlisted backend id bytesIn bytesOut price fun place user listed named => known ⟨place, user, listed, named⟩]

theorem report_identities :
    (backend.reportUsage id bytesIn bytesOut price).2.users.map identity = backend.users.map identity := by
  by_cases known : ∃ (index : Nat) (user : StaticUser Net), backend.users[index]? = some user ∧ id.val = index + 1
  · obtain ⟨index, user, listed, named⟩ := known
    obtain ⟨inside, here⟩ := List.getElem?_eq_some_iff.mp listed
    have kept := List.set_getElem_self (show index < (backend.users.map identity).length by rwa [List.length_map])
    rw [List.getElem_map, here] at kept
    rw [(report_listed backend id bytesIn bytesOut price index user listed named).2, List.map_set]
    exact kept
  · rw [report_unlisted backend id bytesIn bytesOut price fun index user listed named => known ⟨index, user, listed, named⟩]

def settled (id : AccountId) (reply : Option Int) (account : Account) : Account :=
  if account.id = id then { account with bandwidthLimit := reply } else account

theorem account_at_settled (index : Nat) : accountAt (backend.reportUsage id bytesIn bytesOut price).2.users index =
    (accountAt backend.users index).map (settled id (backend.reportUsage id bytesIn bytesOut price).1) := by
  by_cases known : ∃ (index : Nat) (user : StaticUser Net), backend.users[index]? = some user ∧ id.val = index + 1
  · obtain ⟨place, user, listed, named⟩ := known
    obtain ⟨replied, stored⟩ := report_listed backend id bytesIn bytesOut price place user listed named
    have inside := (List.getElem?_eq_some_iff.mp listed).1
    rw [replied, stored, accountAt, accountAt, Option.map_map]
    by_cases same : place = index
    · subst same
      rw [List.getElem?_set_self inside, listed, Option.map_some, Option.map_some, Function.comp_apply,
        settled, if_pos named.symm]
      rfl
    · have other : ∀ left, settled id left ∘ (fun user : StaticUser Net =>
        (⟨index + 1, user.remaining, user.defaultSelection⟩ : Account)) =
          fun user => ⟨index + 1, user.remaining, user.defaultSelection⟩ := by
        intro left
        funext user
        exact if_neg (by rw [named]; dsimp only; omega)
      rw [List.getElem?_set_ne same, other]
  · have unknown : ∀ (index : Nat) user, backend.users[index]? = some user → id.val ≠ index + 1 :=
      fun index user listed named => known ⟨index, user, listed, named⟩
    rw [report_unlisted backend id bytesIn bytesOut price unknown, accountAt]
    cases listed : backend.users[index]? with
    | none => rfl
    | some user =>
        rw [Option.map_some, Option.map_some, settled, if_neg fun same => unknown index user listed same.symm]

theorem lookup_settled (wanted : StaticUser Net → Bool) (blind : ∀ user, wanted (identity user) = wanted user) :
    let after := (backend.reportUsage id bytesIn bytesOut price).2
    ((findUser after.users wanted).map fun (user, index) => accountFor (allowanceAt after.users) user index) =
      ((findUser backend.users wanted).map fun (user, index) => accountFor (allowanceAt backend.users) user index).map
        (settled id (backend.reportUsage id bytesIn bytesOut price).1) := by
  intro after
  have place : (findUser after.users wanted).map Prod.snd = (findUser backend.users wanted).map Prod.snd := by
    rw [← find_user_identity after.users wanted blind, ← find_user_identity backend.users wanted blind, report_identities]
  rw [found_account, found_account, place]
  cases (findUser backend.users wanted).map Prod.snd with
  | none => rfl
  | some index => exact account_at_settled backend id bytesIn bytesOut price index

end Reports

section Runs

variable {Net : Type} (contains : Net → IpAddr → Bool)

structure ReportKept (backend : Backend Net) (id : AccountId) (debit : Debit) (reply : Option Int)
    (after : Backend Net) : Prop where
  debited : ∀ (index : Nat) user cur, backend.users[index]? = some user → id.val = index + 1 → user.remaining = some cur →
    reply = some (nextLeft cur debit) ∧ after.users = backend.users.set index { user with remaining := some (nextLeft cur debit) }
  charged : ∀ (index : Nat) user cur, backend.users[index]? = some user → id.val = index + 1 → user.remaining = some cur →
    InRange cur → reply = some (max (cur - debit) 0)
  unlimited : ∀ (index : Nat) user, backend.users[index]? = some user → id.val = index + 1 → user.remaining = none →
    reply = none ∧ after = backend
  unknown : (∀ (index : Nat) user, backend.users[index]? = some user → id.val ≠ index + 1) → reply = none ∧ after = backend
  others : ∀ index : Nat, id.val ≠ index + 1 → after.users[index]? = backend.users[index]?
  login : ∀ username secret, after.authenticate username secret = (backend.authenticate username secret).map (settled id reply)
  address : ∀ peer, after.authenticateByIp contains peer = (backend.authenticateByIp contains peer).map (settled id reply)

structure AccountsKept (backend : Backend Net) : Prop where
  admits : ∀ username secret, (∃ account, backend.authenticate username secret = some account) ↔
    ∃ user ∈ backend.users, user.username = username ∧ user.password = secret
  first : ∀ username secret account, backend.authenticate username secret = some account →
    ∃ index user, FirstUser backend.users (fun user => user.username = username ∧ user.password = secret) index user ∧
      account = ⟨index + 1, user.remaining, user.defaultSelection⟩
  firstByIp : ∀ peer account, backend.authenticateByIp contains peer = some account →
    ∃ index user, FirstUser backend.users (fun user => ∃ net ∈ user.allowedNets, contains net peer = true) index user ∧
      account = ⟨index + 1, user.remaining, user.defaultSelection⟩
  reports : ∀ id bytesIn bytesOut price, ReportKept contains backend id (callDebit bytesIn bytesOut price)
    (backend.reportUsage id bytesIn bytesOut price).1 (backend.reportUsage id bytesIn bytesOut price).2

theorem report_kept (backend : Backend Net) (id : AccountId) (bytesIn bytesOut : Nat) (price : Int → Debit) :
    ReportKept contains backend id (callDebit bytesIn bytesOut price)
      (backend.reportUsage id bytesIn bytesOut price).1 (backend.reportUsage id bytesIn bytesOut price).2 where
  debited := by
    intro index user cur listed named limited
    obtain ⟨replied, stored⟩ := report_listed backend id bytesIn bytesOut price index user listed named
    rw [spent, limited] at replied stored
    exact ⟨replied, stored⟩
  charged := by
    intro index user cur listed named limited inside
    obtain ⟨replied, _⟩ := report_listed backend id bytesIn bytesOut price index user listed named
    rw [replied, spent, limited, Option.map_some, next_left_inside cur _ inside, nextRemaining]
  unlimited := by
    intro index user listed named unlimited
    have inside := (List.getElem?_eq_some_iff.mp listed).1
    rw [Backend.reportUsage, (position_listed backend id index inside).mpr named]
    dsimp only
    rw [listed]
    dsimp only
    rw [unlimited]
    exact ⟨rfl, rfl⟩
  unknown := by
    intro unknown
    rw [report_unlisted backend id bytesIn bytesOut price unknown]
    exact ⟨rfl, rfl⟩
  others := report_others backend id bytesIn bytesOut price
  login := fun username secret => lookup_settled backend id bytesIn bytesOut price
    (fun user => user.username == username && constantTimeEq user.password secret) fun _ => rfl
  address := fun peer => lookup_settled backend id bytesIn bytesOut price
    (fun user => user.allowedNets.any fun net => contains net peer) fun _ => rfl

theorem backend_kept (backend : Backend Net) : AccountsKept contains backend where
  admits := by
    intro username secret
    have listed := find_user_exists backend.users fun user => user.username == username && constantTimeEq user.password secret
    simp only [Bool.and_eq_true, beq_iff_eq, constant_time_eq_iff] at listed
    rw [← listed, Backend.authenticate, staticAuthenticate]
    cases findUser backend.users fun user => user.username == username && constantTimeEq user.password secret <;> simp
  first := by
    intro username secret account known
    rw [Backend.authenticate, staticAuthenticate, Option.map_eq_some_iff] at known
    obtain ⟨⟨user, index⟩, found, rfl⟩ := known
    have first := find_user_first backend.users _ user index found
    have account := account_for_held backend.users user index first.1
    rw [accountAt, first.1, Option.map_some] at account
    simp only [Bool.and_eq_true, beq_iff_eq, constant_time_eq_iff] at first
    exact ⟨index, user, first, Option.some.inj account⟩
  firstByIp := by
    intro peer account known
    rw [Backend.authenticateByIp, staticAuthenticateByIp, Option.map_eq_some_iff] at known
    obtain ⟨⟨user, index⟩, found, rfl⟩ := known
    have first := find_user_first backend.users _ user index found
    have account := account_for_held backend.users user index first.1
    rw [accountAt, first.1, Option.map_some] at account
    simp only [List.any_eq_true] at first
    exact ⟨index, user, first, Option.some.inj account⟩
  reports := report_kept contains backend

def debitAt (index : Nat) : AuthCall → Option Debit
  | .reportUsage id bytesIn bytesOut price => if id.val = index + 1 then some (callDebit bytesIn bytesOut price) else none
  | _ => none

def afterDebits (debits : List Debit) (user : StaticUser Net) : StaticUser Net :=
  { user with remaining := user.remaining.map fun cur => debits.foldl nextLeft cur }

theorem after_no_debits : afterDebits [] = (id : StaticUser Net → StaticUser Net) := by
  funext user
  rw [afterDebits]
  cases limit : user.remaining with
  | none =>
      rw [Option.map_none, ← limit]
      rfl
  | some cur =>
      rw [Option.map_some, List.foldl_nil, ← limit]
      rfl

theorem call_user (backend : Backend Net) (call : AuthCall) (index : Nat) :
    (backend.call call).users[index]? = backend.users[index]?.map (afterDebits (debitAt index call).toList) := by
  have still : backend.users[index]? = backend.users[index]?.map (afterDebits []) := by
    rw [after_no_debits, Option.map_id]
    rfl
  cases call with
  | authenticate username secret => exact still
  | authenticateByIp peer => exact still
  | reportUsage id bytesIn bytesOut price =>
      rw [Backend.call, debitAt]
      by_cases named : id.val = index + 1
      · rw [if_pos named]
        cases listed : backend.users[index]? with
        | none =>
            rw [report_unlisted backend id bytesIn bytesOut price, listed, Option.map_none]
            intro place user other same
            have here : place = index := by omega
            rw [here, listed] at other
            cases other
        | some user =>
            have inside := (List.getElem?_eq_some_iff.mp listed).1
            rw [(report_listed backend id bytesIn bytesOut price index user listed named).2, List.getElem?_set_self inside]
            rfl
      · rw [if_neg named, report_others backend id bytesIn bytesOut price index named]
        exact still

theorem calls_user (start : Backend Net) (calls : List AuthCall) (index : Nat) :
    (start.calls calls).users[index]? = start.users[index]?.map (afterDebits (calls.filterMap (debitAt index))) := by
  induction calls generalizing start with
  | nil =>
      rw [List.filterMap_nil, after_no_debits, Option.map_id]
      rfl
  | cons call calls ih =>
      have joined : ∀ first later : List Debit, (afterDebits later ∘ afterDebits first : StaticUser Net → StaticUser Net) =
          afterDebits (first ++ later) := by
        intro first later
        funext user
        rw [Function.comp_apply, afterDebits, afterDebits, afterDebits, Option.map_map]
        congr 2
        funext cur
        exact List.foldl_append.symm
      have spread : (call :: calls).filterMap (debitAt index) =
        (debitAt index call).toList ++ calls.filterMap (debitAt index) := by
        cases one : debitAt index call with
        | none => rw [List.filterMap_cons_none one]; rfl
        | some debit => rw [List.filterMap_cons_some one]; rfl
      have rest := ih (start.call call)
      rw [call_user, Option.map_map, joined, ← spread] at rest
      exact rest

theorem accounts_kept (start : Backend Net) (calls : List AuthCall) : AccountsKept contains (start.calls calls) ∧
    ∀ index : Nat, (start.calls calls).users[index]? =
      start.users[index]?.map (afterDebits (calls.filterMap (debitAt index))) := by
  constructor
  · exact backend_kept contains (start.calls calls)
  · exact calls_user start calls

end Runs

end Purroute
