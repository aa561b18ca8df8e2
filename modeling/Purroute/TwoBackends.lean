import Purroute.Database

set_option autoImplicit false

namespace Purroute

inductive AuthReply where
  | account (reply : Option Account)
  | left (reply : Option Int)
deriving DecidableEq, Repr

section Answers

variable {Net : Type} (contains : Net → IpAddr → Bool) (within : Str → IpAddr → Option Bool)

def Backend.answer (backend : Backend Net) : AuthCall → AuthReply
  | .authenticate username secret => .account (backend.authenticate username secret)
  | .authenticateByIp peer => .account (backend.authenticateByIp contains peer)
  | .reportUsage id bytesIn bytesOut price => .left (backend.reportUsage id bytesIn bytesOut price).1

def Database.Replies (db : Database) : AuthCall → AuthReply → Prop
  | .authenticate username secret, reply => (db.authenticate username secret).map AuthReply.account = .ok reply
  | .authenticateByIp peer, reply => ∃ found, db.AnswersIp within peer (.ok found) ∧ reply = .account found
  | .reportUsage id bytesIn bytesOut price, reply => (db.reportUsage id bytesIn bytesOut price).1.map AuthReply.left = .ok reply

def answeredAll (log : List (AuthCall × AuthReply)) : List (AuthCall × Fate) := log.map fun entry => (entry.1, .answered)

def Served (db : Database) : List (AuthCall × AuthReply) → Prop
  | [] => True
  | (call, reply) :: log => db.Replies within call reply ∧ Served (db.after (call, .answered)) log

structure Mirrored (index : Nat) (user : StaticUser Net) (row : AccountRow) : Prop where
  account : row.account.val = index + 1
  username : row.username = some user.username
  password : row.password = some user.password
  limit : row.bandwidthLimit.map Subtype.val = user.remaining
  selection : row.defaultSelection = user.defaultSelection

structure SameAccounts (backend : Backend Net) (db : Database) : Prop where
  size : db.accounts.length = backend.users.length
  rows : ∀ (index : Nat) (user : StaticUser Net) (row : AccountRow), backend.users[index]? = some user →
    db.accounts[index]? = some row →
    Mirrored index user row
  addresses : ∀ (index : Nat) (user : StaticUser Net) (row : AccountRow) (peer : IpAddr), backend.users[index]? = some user →
    db.accounts[index]? = some row →
    ((∃ ip ∈ db.accountIps, ip.account = some row.account ∧ within ip.cidr peer = some true) ↔
      ∃ net ∈ user.allowedNets, contains net peer = true)

def FitsPeer (backend : Backend Net) (peer : IpAddr) (account : Account) : Prop :=
  ∃ (index : Nat) (user : StaticUser Net), backend.users[index]? = some user ∧
    (∃ net ∈ user.allowedNets, contains net peer = true) ∧
    account = ⟨index + 1, user.remaining, user.defaultSelection⟩

-- Where several accounts fit an address the database may take any of them,
-- and the configured users are tried in their order.
structure Agrees (backend : Backend Net) (db : Database) (call : AuthCall) (reply : AuthReply) : Prop where
  named : (∀ peer, call ≠ .authenticateByIp peer) → reply = backend.answer contains call
  known : ∀ peer, call = .authenticateByIp peer →
    (reply = .account none ↔ backend.answer contains call = .account none) ∧
      ∀ account, reply = .account (some account) → FitsPeer contains backend peer account
  possible : db.Replies within call (backend.answer contains call)

end Answers

section Rows

variable {Net : Type}

theorem mirrored_account (index : Nat) (user : StaticUser Net) (row : AccountRow) (mirrored : Mirrored index user row) :
    Database.accountOf row = ⟨index + 1, user.remaining, user.defaultSelection⟩ := by
  rw [Database.accountOf, mirrored.account, mirrored.limit, mirrored.selection]

theorem ip_match (db : Database) (within : Str → IpAddr → Option Bool) (peer : IpAddr) (row : AccountRow) :
    row ∈ db.ipMatches within peer ↔
      row ∈ db.accounts ∧ ∃ ip ∈ db.accountIps, ip.account = some row.account ∧ within ip.cidr peer = some true := by
  rw [Database.ipMatches, List.mem_flatMap]
  constructor
  · intro matched
    obtain ⟨ip, listed, joined⟩ := matched
    obtain ⟨listed, fits⟩ := List.mem_filter.mp listed
    obtain ⟨member, same⟩ := List.mem_filter.mp joined
    exact ⟨member, ip, listed, (of_decide_eq_true same).symm, of_decide_eq_true fits⟩
  · intro matched
    obtain ⟨member, ip, listed, same, fits⟩ := matched
    exact ⟨ip, List.mem_filter.mpr ⟨listed, decide_eq_true fits⟩, List.mem_filter.mpr ⟨member, decide_eq_true same.symm⟩⟩

variable {contains : Net → IpAddr → Bool} {within : Str → IpAddr → Option Bool} (backend : Backend Net) (db : Database)

theorem fits_peer_known (contains : Net → IpAddr → Bool) (peer : IpAddr) :
    (∃ account, backend.authenticateByIp contains peer = some account) ↔
    ∃ user ∈ backend.users, ∃ net ∈ user.allowedNets, contains net peer = true := by
  have listed := find_user_exists backend.users fun user => user.allowedNets.any fun net => contains net peer
  simp only [List.any_eq_true] at listed
  rw [← listed, Backend.authenticateByIp, staticAuthenticateByIp, addressUser]
  cases findUser backend.users fun user => user.allowedNets.any fun net => contains net peer <;> simp

section Same

variable (same : SameAccounts contains within backend db)

include same

theorem user_row (index : Nat) (user : StaticUser Net) (listed : backend.users[index]? = some user) :
    ∃ row, db.accounts[index]? = some row ∧ Mirrored index user row := by
  have inside : index < db.accounts.length := by
    rw [same.size]
    exact (List.getElem?_eq_some_iff.mp listed).1
  exact ⟨_, List.getElem?_eq_getElem inside, same.rows index user _ listed (List.getElem?_eq_getElem inside)⟩

theorem row_user (row : AccountRow) (member : row ∈ db.accounts) :
    ∃ (index : Nat) (user : StaticUser Net), backend.users[index]? = some user ∧
      db.accounts[index]? = some row ∧ Mirrored index user row := by
  obtain ⟨index, listed⟩ := List.getElem?_of_mem member
  have inside : index < backend.users.length := by
    rw [← same.size]
    exact (List.getElem?_eq_some_iff.mp listed).1
  exact ⟨index, _, List.getElem?_eq_getElem inside, listed, same.rows index _ row (List.getElem?_eq_getElem inside) listed⟩

theorem authenticate_agrees (username secret : Str) (reply : Option Account)
    (answered : db.authenticate username secret = .ok reply) :
    backend.authenticate username secret = reply := by
  have kept := backend_kept contains backend
  have matching : ∀ (index : Nat) (user : StaticUser Net) (row : AccountRow), Mirrored index user row → user.username = username →
      user.password = secret → row ∈ db.accounts →
      row ∈ db.accounts.filter fun row => decide (row.username = some username ∧ row.password = some secret) := by
    intro index user row mirrored name password member
    exact List.mem_filter.mpr ⟨member, by simp [mirrored.username, mirrored.password, name, password]⟩
  rw [Database.authenticate] at answered
  rcases rows : db.accounts.filter fun row =>
    decide (row.username = some username ∧ row.password = some secret) with _ | ⟨row, _ | ⟨other, more⟩⟩
  · rw [rows] at answered
    cases answered
    cases known : backend.authenticate username secret with
    | none => rfl
    | some account =>
        obtain ⟨user, member, name, password⟩ := (kept.admits username secret).mp ⟨account, known⟩
        obtain ⟨index, listed⟩ := List.getElem?_of_mem member
        obtain ⟨row, found, mirrored⟩ := user_row backend db same index user listed
        have there := matching index user row mirrored name password (List.mem_of_getElem? found)
        rw [rows] at there
        cases there
  · rw [rows] at answered
    cases answered
    have own : row ∈ db.accounts.filter fun row => decide (row.username = some username ∧ row.password = some secret) := by
      rw [rows]
      exact List.mem_cons_self
    obtain ⟨member, fits⟩ := List.mem_filter.mp own
    obtain ⟨index, user, listed, _, mirrored⟩ := row_user backend db same row member
    have bears : user.username = username ∧ user.password = secret := by
      simpa [mirrored.username, mirrored.password] using fits
    obtain ⟨account, known⟩ := (kept.admits username secret).mpr ⟨user, List.mem_of_getElem? listed, bears⟩
    obtain ⟨index', user', first, account'⟩ := kept.first username secret account known
    obtain ⟨row', found', mirrored'⟩ := user_row backend db same index' user' first.1
    have there := matching index' user' row' mirrored' first.2.1.1 first.2.1.2 (List.mem_of_getElem? found')
    rw [rows, List.mem_singleton] at there
    subst there
    rw [known, account', ← mirrored_account index' user' row' mirrored']
    rfl
  · rw [rows] at answered
    cases answered

theorem match_fits (peer : IpAddr) (row : AccountRow) (matched : row ∈ db.ipMatches within peer) :
    FitsPeer contains backend peer (Database.accountOf row) := by
  obtain ⟨member, addressed⟩ := (ip_match db within peer row).mp matched
  obtain ⟨index, user, listed, found, mirrored⟩ := row_user backend db same row member
  exact ⟨index, user, listed, (same.addresses index user row peer listed found).mp addressed,
    mirrored_account index user row mirrored⟩

theorem fits_match (peer : IpAddr) (account : Account) (fits : FitsPeer contains backend peer account) :
    ∃ row ∈ db.ipMatches within peer, Database.accountOf row = account := by
  obtain ⟨index, user, listed, net, rfl⟩ := fits
  obtain ⟨row, found, mirrored⟩ := user_row backend db same index user listed
  have addressed := (same.addresses index user row peer listed found).mpr net
  exact ⟨row, (ip_match db within peer row).mpr ⟨List.mem_of_getElem? found, addressed⟩, mirrored_account index user row mirrored⟩

theorem no_match (peer : IpAddr) : db.ipMatches within peer = [] ↔ backend.authenticateByIp contains peer = none := by
  rw [List.eq_nil_iff_forall_not_mem, Option.eq_none_iff_forall_not_mem]
  constructor
  · intro empty account known
    obtain ⟨index, user, first, rfl⟩ := (backend_kept contains backend).firstByIp peer account known
    obtain ⟨row, matched, _⟩ := fits_match backend db same peer _ ⟨index, user, first.1, first.2.1, rfl⟩
    exact empty row matched
  · intro unknown row matched
    obtain ⟨index, user, listed, net, _⟩ := match_fits backend db same peer row matched
    obtain ⟨account, known⟩ := (fits_peer_known backend contains peer).mpr ⟨user, List.mem_of_getElem? listed, net⟩
    exact unknown account known

theorem by_ip_possible (peer : IpAddr) : db.AnswersIp within peer (.ok (backend.authenticateByIp contains peer)) := by
  cases known : backend.authenticateByIp contains peer with
  | none => exact .none ((no_match backend db same peer).mpr known)
  | some account =>
      obtain ⟨index, user, first, rfl⟩ := (backend_kept contains backend).firstByIp peer account known
      obtain ⟨row, matched, account⟩ := fits_match backend db same peer _ ⟨index, user, first.1, first.2.1, rfl⟩
      exact account ▸ .found row matched

end Same

end Rows

theorem except_map {E A B : Type} (value : Except E A) (f : A → B) (mapped : B) (same : value.map f = .ok mapped) :
    ∃ inner, value = .ok inner ∧ f inner = mapped := by
  cases value with
  | error failure => cases same
  | ok inner => exact ⟨inner, rfl, Except.ok.inj same⟩

section Reported

variable {Net : Type} {contains : Net → IpAddr → Bool} {within : Str → IpAddr → Option Bool}
    (backend : Backend Net) (db : Database)
  (id : AccountId) (bytesIn bytesOut : Nat) (price : Int → Debit)

theorem debited_mirrored (index : Nat) (user : StaticUser Net) (row : AccountRow) (charge : Charge)
    (mirrored : Mirrored index user row) (accepted : (debitRow charge row).isSome) :
    Mirrored index (if charge.id.val = index + 1 then spent charge.debit user else user) (debited charge row) := by
  have settled := debited_settled charge row accepted
  have limits : (debited charge row).bandwidthLimit.map Subtype.val =
      (if charge.id.val = index + 1 then spent charge.debit user else user).remaining := by
    rw [settled.limit, mirrored.limit]
    by_cases named : charge.id.val = index + 1
    · have own : row.account = charge.id := Subtype.ext (mirrored.account.trans named.symm)
      rw [if_pos named, own, charges_on_own, spent]
      cases remaining : user.remaining with
      | none => rfl
      | some left =>
          have limit := mirrored.limit
          rw [remaining] at limit
          obtain ⟨held, holds, value⟩ := Option.map_eq_some_iff.mp limit
          rw [debitRow, holds] at accepted
          dsimp only at accepted
          rw [if_pos own, Option.isSome_map, bigint, value] at accepted
          have inside : i64Min ≤ left - charge.debit.val ∧ left - charge.debit.val ≤ i64Max := by
            by_contra outside
            rw [dif_neg outside] at accepted
            cases accepted
          have plain : nextLeft left charge.debit = max (left - charge.debit.val) 0 := by
            rw [nextLeft, wrap_inside _ inside.1 inside.2]
          simp [leftAfter, plain]
    · have other : row.account ≠ charge.id := fun same => named (by rw [← same]; exact mirrored.account)
      rw [if_neg named, charges_on_other row.account charge other]
      cases user.remaining <;> rfl
  by_cases named : charge.id.val = index + 1
  · rw [if_pos named] at limits ⊢
    exact ⟨by rw [settled.account]; exact mirrored.account, settled.username.trans mirrored.username,
      settled.password.trans mirrored.password, limits, settled.defaultSelection.trans mirrored.selection⟩
  · rw [if_neg named] at limits ⊢
    exact ⟨by rw [settled.account]; exact mirrored.account, settled.username.trans mirrored.username,
      settled.password.trans mirrored.password, limits, settled.defaultSelection.trans mirrored.selection⟩

theorem reported_user (index : Nat) (user : StaticUser Net) (listed : backend.users[index]? = some user) :
    (backend.reportUsage id bytesIn bytesOut price).2.users[index]? =
      some (if id.val = index + 1 then spent (callDebit bytesIn bytesOut price) user else user) := by
  by_cases named : id.val = index + 1
  · have inside := (List.getElem?_eq_some_iff.mp listed).1
    rw [if_pos named, (report_listed backend id bytesIn bytesOut price index user listed named).2, List.getElem?_set_self inside]
  · rw [if_neg named, report_others backend id bytesIn bytesOut price index named, listed]

theorem accepted_report (reply : Option Int) (answered : (db.reportUsage id bytesIn bytesOut price).1 = .ok reply) :
    db.accepts ⟨toI64 bytesIn, toI64 bytesOut, id, callDebit bytesIn bytesOut price⟩ = true := by
  by_contra refused
  rw [Database.reportUsage] at answered
  rw [if_neg refused] at answered
  cases answered

variable (same : SameAccounts contains within backend db) (reply : Option Int)
  (answered : (db.reportUsage id bytesIn bytesOut price).1 = .ok reply)

include same answered

theorem report_same : SameAccounts contains within (backend.reportUsage id bytesIn bytesOut price).2
    (db.reportUsage id bytesIn bytesOut price).2 := by
  have accepted := accepted_report db id bytesIn bytesOut price reply answered
  have rows := (accepts_rows db _ accepted).2
  have users : (backend.reportUsage id bytesIn bytesOut price).2.users.length = backend.users.length := by
    have lengths := congrArg List.length (report_identities backend id bytesIn bytesOut price)
    rwa [List.length_map, List.length_map] at lengths
  have tables : (db.reportUsage id bytesIn bytesOut price).2 =
    db.charged ⟨toI64 bytesIn, toI64 bytesOut, id, callDebit bytesIn bytesOut price⟩ := by
    rw [Database.reportUsage]
    rw [if_pos accepted]
  rw [tables]
  -- A place holds after the report what the report has made of its user and of its row.
  have before : ∀ (index : Nat) (user' : StaticUser Net) (row' : AccountRow),
      (backend.reportUsage id bytesIn bytesOut price).2.users[index]? = some user' →
      (db.charged ⟨toI64 bytesIn, toI64 bytesOut, id, callDebit bytesIn bytesOut price⟩).accounts[index]? = some row' →
      ∃ user row, backend.users[index]? = some user ∧ db.accounts[index]? = some row ∧
        user' = (if id.val = index + 1 then spent (callDebit bytesIn bytesOut price) user else user) ∧
        row' = debited ⟨toI64 bytesIn, toI64 bytesOut, id, callDebit bytesIn bytesOut price⟩ row := by
    intro index user' row' listed' found'
    rw [Database.charged, List.getElem?_map, Option.map_eq_some_iff] at found'
    obtain ⟨row, found, rfl⟩ := found'
    have inside : index < backend.users.length := by
      rw [← same.size]
      exact (List.getElem?_eq_some_iff.mp found).1
    have listed := List.getElem?_eq_getElem inside
    rw [reported_user backend id bytesIn bytesOut price index _ listed, Option.some.injEq] at listed'
    exact ⟨_, row, listed, found, listed'.symm, rfl⟩
  refine ⟨?_, ?_, ?_⟩
  · rw [users, ← same.size]
    exact List.length_map _
  · intro index user' row' listed' found'
    obtain ⟨user, row, listed, found, rfl, rfl⟩ := before index user' row' listed' found'
    exact debited_mirrored index user row _ (same.rows index user row listed found) (rows row (List.mem_of_getElem? found))
  · intro index user' row' peer listed' found'
    obtain ⟨user, row, listed, found, rfl, rfl⟩ := before index user' row' listed' found'
    have nets : (if id.val = index + 1 then spent (callDebit bytesIn bytesOut price) user else user).allowedNets =
      user.allowedNets := by
      split <;> rfl
    rw [nets, debited_account]
    exact same.addresses index user row peer listed found

theorem report_agrees : (backend.reportUsage id bytesIn bytesOut price).1 = reply := by
  have accepted := accepted_report db id bytesIn bytesOut price reply answered
  rw [Database.reportUsage] at answered
  rw [if_pos accepted, returning_row] at answered
  rcases keyed_row AccountRow.account db.accounts id db.accountKey with empty | ⟨row, only⟩
  · dsimp only at answered
    rw [empty] at answered
    cases answered
    rw [report_unlisted backend id bytesIn bytesOut price]
    · rfl
    · intro index user listed named
      obtain ⟨row, found, mirrored⟩ := user_row backend db same index user listed
      have there : row ∈ db.accounts.filter fun row => decide (row.account = id) :=
        List.mem_filter.mpr ⟨List.mem_of_getElem? found, decide_eq_true (Subtype.ext (mirrored.account.trans named.symm))⟩
      rw [empty] at there
      cases there
  · have own : row ∈ db.accounts.filter fun row => decide (row.account = id) := by
      rw [only]
      exact List.mem_cons_self
    obtain ⟨member, named⟩ := List.mem_filter.mp own
    obtain ⟨index, user, listed, _, mirrored⟩ := row_user backend db same row member
    have named : id.val = index + 1 := by rw [← of_decide_eq_true named]; exact mirrored.account
    have after := debited_mirrored index user row _ mirrored ((accepts_rows db _ accepted).2 row member)
    rw [if_pos named] at after
    rw [(report_listed backend id bytesIn bytesOut price index user listed named).1, ← after.limit]
    dsimp only at answered
    rw [only, List.filterMap_cons, List.filterMap_nil] at answered
    cases limit : (debited ⟨toI64 bytesIn, toI64 bytesOut, id, callDebit bytesIn bytesOut price⟩ row).bandwidthLimit with
    | none =>
        rw [limit] at answered
        cases answered
        rfl
    | some left =>
        rw [limit] at answered
        cases answered
        rfl

end Reported

section Logs

variable {Net : Type} {contains : Net → IpAddr → Bool} {within : Str → IpAddr → Option Bool}

theorem call_agrees (backend : Backend Net) (db : Database) (call : AuthCall) (reply : AuthReply)
    (same : SameAccounts contains within backend db) (replies : db.Replies within call reply) :
    Agrees contains within backend db call reply ∧
      SameAccounts contains within (backend.call call) (db.after (call, .answered)) := by
  cases call with
  | authenticate username secret =>
      have answer : reply = backend.answer contains (.authenticate username secret) := by
        obtain ⟨found, answered, rfl⟩ := except_map (db.authenticate username secret) AuthReply.account reply replies
        rw [Backend.answer, authenticate_agrees backend db same username secret found answered]
      exact ⟨⟨fun _ => answer, nofun, answer ▸ replies⟩, same⟩
  | authenticateByIp peer =>
      obtain ⟨found, answers, rfl⟩ := replies
      refine ⟨⟨fun other => absurd rfl (other peer), ?_, ⟨_, by_ip_possible backend db same peer, rfl⟩⟩, same⟩
      intro peer' again
      cases again
      cases answers with
      | none empty =>
          refine ⟨?_, nofun⟩
          rw [Backend.answer, (no_match backend db same peer).mp empty]
      | found row matched =>
          have fits := match_fits backend db same peer row matched
          refine ⟨⟨nofun, fun unknown => ?_⟩, fun account known => ?_⟩
          · rw [Backend.answer, AuthReply.account.injEq, ← no_match backend db same peer] at unknown
            rw [unknown] at matched
            cases matched
          · cases known
            exact fits
  | reportUsage id bytesIn bytesOut price =>
      obtain ⟨left, answered, rfl⟩ := except_map (db.reportUsage id bytesIn bytesOut price).1 AuthReply.left reply replies
      have answer := report_agrees backend db id bytesIn bytesOut price same left answered
      refine ⟨⟨fun _ => by rw [Backend.answer, answer], nofun, ?_⟩,
        report_same backend db id bytesIn bytesOut price same left answered⟩
      rw [Backend.answer, answer]
      exact replies

theorem backends_agree (backend : Backend Net) (db : Database) (log : List (AuthCall × AuthReply))
    (same : SameAccounts contains within backend db) (served : Served within db log) :
    SameAccounts contains within (backend.calls (log.map Prod.fst)) (db.run (answeredAll log)) ∧
      ∀ before call reply rest, log = before ++ (call, reply) :: rest →
        Agrees contains within (backend.calls (before.map Prod.fst)) (db.run (answeredAll before)) call reply := by
  induction log generalizing backend db with
  | nil => exact ⟨same, fun before call reply rest empty => by cases before <;> cases empty⟩
  | cons entry log ih =>
      obtain ⟨first, answer⟩ := entry
      obtain ⟨agrees, kept⟩ := call_agrees backend db first answer same served.1
      obtain ⟨after, later⟩ := ih (backend.call first) (db.after (first, .answered)) kept served.2
      refine ⟨after, fun before call reply rest split => ?_⟩
      cases before with
      | nil =>
          cases split
          exact agrees
      | cons _ before =>
          rw [List.cons_append, List.cons.injEq] at split
          obtain ⟨rfl, split⟩ := split
          exact later before call reply rest split

theorem clamp_inside (n : Int) : i64Min ≤ max i64Min (min n i64Max) ∧ max i64Min (min n i64Max) ≤ i64Max := by
  unfold i64Min i64Max
  omega

def clamped (n : Int) : Bigint := ⟨max i64Min (min n i64Max), clamp_inside n⟩

theorem price_inside (bytes : Int) : 0 ≤ max 0 (min bytes i64Max) ∧ max 0 (min bytes i64Max) ≤ i64Max := by
  unfold i64Max
  omega

def oneEach (bytes : Int) : Debit := ⟨max 0 (min bytes i64Max), price_inside bytes⟩

def tenNet (cidr : Str) (peer : IpAddr) : Option Bool :=
  if cidr = "10.0.0.0/8".toList then
    match peer with
    | .v4 bits => some (bits.toNat / 2 ^ 24 = 10)
    | .v6 _ => some false
  else none

def ownerAndGuest : List (StaticUser Str) :=
  [⟨"owner".toList, "pw".toList, none, [], none⟩,
    ⟨"guest".toList, "pw".toList, some 10, ["10.0.0.0/8".toList], some "residential".toList⟩]

def guestRow : AccountRow := ⟨clamped 2, some "guest".toList, some "pw".toList, some (clamped 10), some "residential".toList⟩

def ownerAndGuestRows : List AccountRow := [⟨clamped 1, some "owner".toList, some "pw".toList, none, none⟩, guestRow]

theorem guest_rows_keyed : (ownerAndGuestRows.map AccountRow.account).Nodup := by decide

def guestTables : Database := ⟨ownerAndGuestRows, [⟨some (clamped 2), "10.0.0.0/8".toList⟩], [], guest_rows_keyed, .nil⟩

theorem guest_size : (ownerAndGuest.length : Int) ≤ i64Max := by decide

def guestBackend : Backend Str := ⟨ownerAndGuest, guest_size⟩

def guestLog : List (AuthCall × AuthReply) :=
  [(.authenticate "owner".toList "pw".toList, .account (some ⟨1, none, none⟩)),
    (.authenticateByIp (.v4 0x0A000007), .account (some ⟨2, some 10, some "residential".toList⟩)),
    (.reportUsage (clamped 2) 3 4 oneEach, .left (some 3)),
    (.authenticate "guest".toList "pw".toList, .account (some ⟨2, some 3, some "residential".toList⟩))]

theorem guest_tables_same : SameAccounts (fun net peer => tenNet net peer = some true) tenNet guestBackend guestTables := by
  refine ⟨rfl, ?_, ?_⟩
  · intro index user row listed found
    match index with
    | 0 => cases listed; cases found; exact ⟨rfl, rfl, rfl, rfl, rfl⟩
    | 1 => cases listed; cases found; exact ⟨rfl, rfl, rfl, rfl, rfl⟩
    | _ + 2 => cases listed
  · intro index user row peer listed found
    match index with
    | 0 =>
        cases listed
        cases found
        have other : clamped 2 ≠ clamped 1 := by decide
        simp [guestTables, other]
    | 1 =>
        cases listed
        cases found
        simp [guestTables, guestRow]
    | _ + 2 => cases listed

theorem guest_log_served : Served tenNet guestTables guestLog := by
  have matched : guestTables.ipMatches tenNet (.v4 0x0A000007) = [guestRow] := rfl
  have answers : guestTables.AnswersIp tenNet (.v4 0x0A000007) (.ok (some (Database.accountOf guestRow))) :=
    .found guestRow (matched ▸ List.mem_cons_self)
  exact ⟨rfl, ⟨_, answers, rfl⟩, rfl, rfl, trivial⟩

theorem guest_backends_agree :
    SameAccounts (fun net peer => tenNet net peer = some true) tenNet
    (guestBackend.calls (guestLog.map Prod.fst)) (guestTables.run (answeredAll guestLog)) ∧
      ∀ before call reply rest, guestLog = before ++ (call, reply) :: rest →
        Agrees (fun net peer => tenNet net peer = some true) tenNet
        (guestBackend.calls (before.map Prod.fst)) (guestTables.run (answeredAll before)) call reply :=
  backends_agree guestBackend guestTables guestLog guest_tables_same guest_log_served

end Logs

end Purroute
