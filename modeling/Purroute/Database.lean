import Mathlib.Data.List.Forall2
import Purroute.Accounts

set_option autoImplicit false

namespace Purroute

-- BIGINT: the values of an `i64`, and an error where a result is none of them.
abbrev Bigint := AccountId

def bigint (n : Int) : Option Bigint := if inside : i64Min ≤ n ∧ n ≤ i64Max then some ⟨n, inside⟩ else none

-- `GREATEST(n, 0)`
def greatestZero (n : Bigint) : Bigint := if n.val < 0 then ⟨0, by decide, by decide⟩ else n

structure AccountRow where
  account : Bigint
  username : Option Str
  password : Option Str
  bandwidthLimit : Option Bigint
  defaultSelection : Option Str

structure IpRow where
  account : Option Bigint
  cidr : Str

structure StatsRow where
  id : Bigint
  totalBytesIn : Option Bigint
  totalBytesOut : Option Bigint

-- The tables that the accounts are kept in, with their primary keys.
structure Database where
  accounts : List AccountRow
  accountIps : List IpRow
  userStats : List StatsRow
  accountKey : (accounts.map AccountRow.account).Nodup
  statsKey : (userStats.map StatsRow.id).Nodup

inductive DbFailure where
  | rowCount
  | outOfRange
  | invalidCidr
  | connection
deriving DecidableEq, Repr

-- `query_opt`: more than one row is an error.
def queryOpt {A : Type} : List A → Except DbFailure (Option A)
  | [] => .ok none
  | [row] => .ok (some row)
  | _ => .error .rowCount

-- The parameters `$1` to `$4` of the usage statement.
structure Charge where
  bytesIn : Int
  bytesOut : Int
  id : Bigint
  debit : Debit

-- NULL plus something is NULL.
def plus (amount : Int) : Option Bigint → Option (Option Bigint)
  | none => some none
  | some n => (bigint (n.val + amount)).map some

-- `UPDATE public.user_stats .. WHERE id = $3`
def bump (charge : Charge) (row : StatsRow) : Option StatsRow :=
  if row.id = charge.id then do
    let totalBytesIn ← plus charge.bytesIn row.totalBytesIn
    let totalBytesOut ← plus charge.bytesOut row.totalBytesOut
    pure { row with totalBytesIn := totalBytesIn, totalBytesOut := totalBytesOut }
  else some row

-- `UPDATE public.accounts .. WHERE account = $3 AND bandwidth_limit IS NOT NULL`
def debitRow (charge : Charge) (row : AccountRow) : Option AccountRow :=
  match row.bandwidthLimit with
  | some left =>
      if row.account = charge.id then
        (bigint (left.val - charge.debit.val)).map fun n => { row with bandwidthLimit := some (greatestZero n) }
      else some row
  | none => some row

def bumped (charge : Charge) (row : StatsRow) : StatsRow := (bump charge row).getD row
def debited (charge : Charge) (row : AccountRow) : AccountRow := (debitRow charge row).getD row

theorem bumped_id (charge : Charge) (row : StatsRow) : (bumped charge row).id = row.id := by
  rw [bumped, bump]
  split
  · cases plus charge.bytesIn row.totalBytesIn with
    | none => rfl
    | some totalIn => cases plus charge.bytesOut row.totalBytesOut <;> rfl
  · rfl

theorem debited_account (charge : Charge) (row : AccountRow) : (debited charge row).account = row.account := by
  rw [debited, debitRow]
  split
  · split
    · rename_i left _ _
      cases bigint (left.val - charge.debit.val) <;> rfl
    · rfl
  · rfl

namespace Database

-- Both updates are one statement: an error in either leaves every row as it was.
def accepts (db : Database) (charge : Charge) : Bool :=
  (db.userStats.all fun row => (bump charge row).isSome) && db.accounts.all fun row => (debitRow charge row).isSome

def charged (db : Database) (charge : Charge) : Database where
  accounts := db.accounts.map (debited charge)
  accountIps := db.accountIps
  userStats := db.userStats.map (bumped charge)
  accountKey := by
    rw [List.map_map, show AccountRow.account ∘ debited charge = AccountRow.account from funext (debited_account charge)]
    exact db.accountKey
  statsKey := by
    rw [List.map_map, show StatsRow.id ∘ bumped charge = StatsRow.id from funext (bumped_id charge)]
    exact db.statsKey

-- `RETURNING bandwidth_limit`
def returning (db : Database) (charge : Charge) : List Bigint :=
  db.accounts.filterMap fun row => if row.account = charge.id then (debited charge row).bandwidthLimit else none

def reportUsage (db : Database) (id : Bigint) (bytesIn bytesOut : Nat) (price : Int → Debit) :
    Except DbFailure (Option Int) × Database :=
  let charge : Charge := ⟨toI64 bytesIn, toI64 bytesOut, id, callDebit bytesIn bytesOut price⟩
  if db.accepts charge then
    ((queryOpt (db.returning charge)).map fun row => row.map Subtype.val, db.charged charge)
  else (.error .outOfRange, db)

def accountOf (row : AccountRow) : Account := ⟨row.account.val, row.bandwidthLimit.map Subtype.val, row.defaultSelection⟩

def authenticate (db : Database) (username secret : Str) : Except DbFailure (Option Account) :=
  (queryOpt (db.accounts.filter fun row => row.username = some username ∧ row.password = some secret)).map fun row =>
    row.map accountOf

-- `$1::inet <<= i.cidr::cidr`, where the cast can fail, comes from outside the repository.
def ipMatches (db : Database) (within : Str → IpAddr → Option Bool) (peer : IpAddr) : List AccountRow :=
  (db.accountIps.filter fun ip => within ip.cidr peer = some true).flatMap fun ip =>
    db.accounts.filter fun row => some row.account = ip.account

-- `LIMIT 1` without an order: any one of them. A cast that fails can fail the statement.
inductive AnswersIp (db : Database) (within : Str → IpAddr → Option Bool) (peer : IpAddr) :
    Except DbFailure (Option Account) → Prop
  | found (row : AccountRow) (member : row ∈ db.ipMatches within peer) : AnswersIp db within peer (.ok (some (accountOf row)))
  | none (empty : db.ipMatches within peer = []) : AnswersIp db within peer (.ok none)
  | invalid (ip : IpRow) (member : ip ∈ db.accountIps) (broken : within ip.cidr peer = .none) :
    AnswersIp db within peer (.error .invalidCidr)

end Database

inductive Fate where
  | refused
  | lost
  | answered
deriving DecidableEq, Repr

def chargeOf : AuthCall → Option Charge
  | .reportUsage id bytesIn bytesOut price => some ⟨toI64 bytesIn, toI64 bytesOut, id, callDebit bytesIn bytesOut price⟩
  | _ => none

namespace Database

-- Only a usage report that reaches the server changes the tables.
def after (db : Database) : AuthCall × Fate → Database
  | (.reportUsage id bytesIn bytesOut price, fate) => if fate = .refused then db else (db.reportUsage id bytesIn bytesOut price).2
  | _ => db

def run (db : Database) (calls : List (AuthCall × Fate)) : Database := calls.foldl Database.after db

def takes (db : Database) (call : AuthCall × Fate) : Option Charge :=
  (chargeOf call.1).filter fun charge => decide (call.2 ≠ .refused) && db.accepts charge

def applied (db : Database) : List (AuthCall × Fate) → List Charge
  | [] => []
  | call :: calls => (db.takes call).toList ++ (db.after call).applied calls

theorem after_takes (db : Database) (call : AuthCall × Fate) :
    db.after call = (db.takes call).toList.foldl Database.charged db := by
  obtain ⟨call, fate⟩ := call
  cases call with
  | authenticate username secret => rfl
  | authenticateByIp peer => rfl
  | reportUsage id bytesIn bytesOut price =>
      rw [after, takes, chargeOf, reportUsage, Option.filter_some]
      by_cases refused : fate = .refused
      · simp [refused]
      · by_cases accepted : db.accepts ⟨toI64 bytesIn, toI64 bytesOut, id, callDebit bytesIn bytesOut price⟩ = true
        · simp [refused, accepted]
        · simp [refused, accepted]

theorem run_applied (db : Database) (calls : List (AuthCall × Fate)) :
    db.run calls = (db.applied calls).foldl Database.charged db := by
  induction calls generalizing db with
  | nil => rfl
  | cons call calls ih =>
      rw [run, List.foldl_cons, applied, List.foldl_append, ← after_takes]
      exact ih (db.after call)

def Accepted (db : Database) : List Charge → Prop
  | [] => True
  | charge :: charges => db.accepts charge = true ∧ (db.charged charge).Accepted charges

theorem applied_accepted (db : Database) (calls : List (AuthCall × Fate)) : db.Accepted (db.applied calls) := by
  induction calls generalizing db with
  | nil => trivial
  | cons call calls ih =>
      rw [applied]
      have rest := ih (db.after call)
      cases taken : db.takes call with
      | none =>
          rw [after_takes, taken] at rest ⊢
          exact rest
      | some charge =>
          rw [after_takes, taken] at rest ⊢
          refine ⟨?_, rest⟩
          have kept := (Option.filter_eq_some_iff.mp taken).2
          exact (Bool.and_eq_true_iff.mp kept).2

end Database

section Amounts

def leftAfter (debits : List Debit) (left : Int) : Int :=
  if debits = [] then left else max (left - (debits.map Subtype.val).sum) 0

theorem debits_nonneg (debits : List Debit) : 0 ≤ (debits.map Subtype.val).sum := by
  apply List.sum_nonneg
  intro amount member
  obtain ⟨debit, _, rfl⟩ := List.mem_map.mp member
  exact debit.2.1

theorem left_after_cons (debit : Debit) (debits : List Debit) (left : Int) :
    leftAfter (debit :: debits) left = leftAfter debits (leftAfter [debit] left) := by
  have nonneg := debits_nonneg debits
  cases debits with
  | nil => rfl
  | cons next debits =>
      simp only [leftAfter, List.cons_ne_nil, if_false, List.map_cons, List.sum_cons, List.map_nil, List.sum_nil] at nonneg ⊢
      omega

theorem left_after_perm (debits other : List Debit) (left : Int) (same : debits.Perm other) :
    leftAfter debits left = leftAfter other left := by
  have sums : (debits.map Subtype.val).sum = (other.map Subtype.val).sum := (same.map Subtype.val).sum_eq
  rw [leftAfter, leftAfter, sums]
  by_cases none : debits = []
  · subst none
    rw [List.nil_perm.mp same]
  · rw [if_neg none, if_neg fun empty => none (by rw [empty] at same; exact List.perm_nil.mp same)]

theorem bigint_val (n : Int) (inside : (bigint n).isSome) : ∃ value, bigint n = some value ∧ value.val = n := by
  rw [bigint] at inside ⊢
  split
  · exact ⟨_, rfl, rfl⟩
  · rename_i outside
    rw [dif_neg outside] at inside
    cases inside

theorem greatest_zero_val (n : Bigint) : (greatestZero n).val = max n.val 0 := by
  rw [greatestZero]
  split
  · rename_i negative
    exact (max_eq_right negative.le).symm
  · rename_i positive
    exact (max_eq_left (not_lt.mp positive)).symm

end Amounts

def chargesOn (id : Bigint) (charges : List Charge) : List Charge := charges.filter fun charge => decide (charge.id = id)

structure Settled (charges : List Charge) (row after : AccountRow) : Prop where
  account : after.account = row.account
  username : after.username = row.username
  password : after.password = row.password
  defaultSelection : after.defaultSelection = row.defaultSelection
  limit : after.bandwidthLimit.map Subtype.val =
    (row.bandwidthLimit.map Subtype.val).map (leftAfter ((chargesOn row.account charges).map Charge.debit))

structure Counted (charges : List Charge) (row after : StatsRow) : Prop where
  id : after.id = row.id
  bytesIn : after.totalBytesIn.map Subtype.val =
    (row.totalBytesIn.map Subtype.val).map (· + ((chargesOn row.id charges).map Charge.bytesIn).sum)
  bytesOut : after.totalBytesOut.map Subtype.val =
    (row.totalBytesOut.map Subtype.val).map (· + ((chargesOn row.id charges).map Charge.bytesOut).sum)

section Rows

theorem charges_on_cons (id : Bigint) (charge : Charge) (charges : List Charge) :
    chargesOn id (charge :: charges) = chargesOn id [charge] ++ chargesOn id charges := by
  rw [chargesOn, chargesOn, chargesOn, ← List.filter_append, List.singleton_append]

theorem charges_on_own (charge : Charge) : chargesOn charge.id [charge] = [charge] := by
  simp [chargesOn]

theorem charges_on_other (id : Bigint) (charge : Charge) (other : id ≠ charge.id) : chargesOn id [charge] = [] := by
  simp [chargesOn, other.symm]

theorem debited_settled (charge : Charge) (row : AccountRow) (accepted : (debitRow charge row).isSome) :
    Settled [charge] row (debited charge row) := by
  cases limit : row.bandwidthLimit with
  | none =>
      have same : debited charge row = row := by rw [debited, debitRow, limit]; rfl
      rw [same]
      exact ⟨rfl, rfl, rfl, rfl, by rw [limit]; rfl⟩
  | some left =>
      by_cases own : row.account = charge.id
      · rw [debitRow, limit] at accepted
        dsimp only at accepted
        rw [if_pos own, Option.isSome_map] at accepted
        obtain ⟨value, found, exactly⟩ := bigint_val _ accepted
        have same : debited charge row = { row with bandwidthLimit := some (greatestZero value) } := by
          rw [debited, debitRow, limit]
          dsimp only
          rw [if_pos own, found]
          rfl
        rw [same]
        refine ⟨rfl, rfl, rfl, rfl, ?_⟩
        rw [limit, own, charges_on_own]
        simp only [Option.map_some, List.map_cons, List.map_nil, greatest_zero_val, exactly,
          leftAfter, List.cons_ne_nil, if_false,
          List.sum_cons, List.sum_nil, Int.add_zero]
      · have same : debited charge row = row := by
          rw [debited, debitRow, limit]
          dsimp only
          rw [if_neg own]
          rfl
        rw [same]
        refine ⟨rfl, rfl, rfl, rfl, ?_⟩
        rw [limit, charges_on_other row.account charge own]
        rfl

theorem settled_step (charge : Charge) (charges : List Charge) (row middle after : AccountRow)
    (first : Settled [charge] row middle)
    (rest : Settled charges middle after) : Settled (charge :: charges) row after := by
  refine ⟨rest.account.trans first.account, rest.username.trans first.username, rest.password.trans first.password,
    rest.defaultSelection.trans first.defaultSelection, ?_⟩
  rw [rest.limit, first.limit, first.account, charges_on_cons row.account charge charges, List.map_append, Option.map_map]
  by_cases own : row.account = charge.id
  · rw [own, charges_on_own]
    congr 1
    funext left
    exact (left_after_cons charge.debit _ left).symm
  · rw [charges_on_other row.account charge own]
    rfl

theorem plus_val (amount : Int) (total : Option Bigint) (inside : (plus amount total).isSome) :
    ∃ after, plus amount total = some after ∧ after.map Subtype.val = (total.map Subtype.val).map (· + amount) := by
  cases total with
  | none => exact ⟨none, rfl, rfl⟩
  | some n =>
      rw [plus, Option.isSome_map] at inside
      obtain ⟨value, found, exactly⟩ := bigint_val _ inside
      exact ⟨some value, by rw [plus, found]; rfl, congrArg some exactly⟩

theorem bumped_counted (charge : Charge) (row : StatsRow) (accepted : (bump charge row).isSome) :
    Counted [charge] row (bumped charge row) := by
  by_cases own : row.id = charge.id
  · rw [bump, if_pos own] at accepted
    have sums : ∀ field : Charge → Int, ((chargesOn row.id [charge]).map field).sum = field charge := by
      intro field
      rw [own, charges_on_own, List.map_singleton, List.sum_singleton]
    cases totalIn : plus charge.bytesIn row.totalBytesIn with
    | none =>
        rw [totalIn] at accepted
        cases accepted
    | some bytesIn =>
        cases totalOut : plus charge.bytesOut row.totalBytesOut with
        | none =>
            rw [totalIn, totalOut] at accepted
            cases accepted
        | some bytesOut =>
            obtain ⟨_, sameIn, valueIn⟩ := plus_val charge.bytesIn row.totalBytesIn (by rw [totalIn]; rfl)
            obtain ⟨_, sameOut, valueOut⟩ := plus_val charge.bytesOut row.totalBytesOut (by rw [totalOut]; rfl)
            have same : bumped charge row = { row with totalBytesIn := bytesIn, totalBytesOut := bytesOut } := by
              rw [bumped, bump, if_pos own, totalIn, totalOut]
              rfl
            rw [totalIn] at sameIn
            rw [totalOut] at sameOut
            cases sameIn
            cases sameOut
            rw [same]
            exact ⟨rfl, by rw [sums]; exact valueIn, by rw [sums]; exact valueOut⟩
  · have same : bumped charge row = row := by
      rw [bumped, bump, if_neg own]
      rfl
    rw [same]
    refine ⟨rfl, ?_, ?_⟩
    · rw [charges_on_other row.id charge own]
      simp
    · rw [charges_on_other row.id charge own]
      simp

theorem counted_step (charge : Charge) (charges : List Charge) (row middle after : StatsRow) (first : Counted [charge] row middle)
    (rest : Counted charges middle after) : Counted (charge :: charges) row after := by
  have joined : ∀ field : Charge → Int,
      ((· + ((chargesOn row.id charges).map field).sum) ∘ (· + ((chargesOn row.id [charge]).map field).sum)) =
      (· + ((chargesOn row.id (charge :: charges)).map field).sum) := by
    intro field
    funext total
    rw [charges_on_cons row.id charge charges, List.map_append, List.sum_append, Function.comp_apply, Int.add_assoc]
  refine ⟨rest.id.trans first.id, ?_, ?_⟩
  · rw [rest.bytesIn, first.bytesIn, first.id, Option.map_map, joined]
  · rw [rest.bytesOut, first.bytesOut, first.id, Option.map_map, joined]

theorem settled_none (row : AccountRow) : Settled [] row row := by
  refine ⟨rfl, rfl, rfl, rfl, ?_⟩
  have same : leftAfter ((chargesOn row.account []).map Charge.debit) = id := rfl
  rw [same, Option.map_id]
  rfl

theorem counted_none (row : StatsRow) : Counted [] row row := by
  have same : (· + ((chargesOn row.id []).map Charge.bytesIn).sum) = (id : Int → Int) := by
    funext total
    exact Int.add_zero total
  refine ⟨rfl, ?_, ?_⟩
  · rw [same, Option.map_id]
    rfl
  · exact same ▸ (congrFun Option.map_id _).symm

end Rows

section Lists

theorem forall₂_compose {A B C : Type} (one : A → B → Prop) (two : B → C → Prop) (both : A → C → Prop)
    (step : ∀ a b c, one a b → two b c → both a c) (first : List A) (middle : List B) (last : List C)
    (left : List.Forall₂ one first middle) (right : List.Forall₂ two middle last) : List.Forall₂ both first last := by
  induction left generalizing last with
  | nil =>
      cases right
      exact .nil
  | cons here _ ih =>
      cases right with
      | cons there rest => exact .cons (step _ _ _ here there) (ih _ rest)

theorem keyed_row {R K : Type} [DecidableEq K] (key : R → K) (rows : List R) (wanted : K) (distinct : (rows.map key).Nodup) :
    (rows.filter fun row => decide (key row = wanted)) = [] ∨
      ∃ row, (rows.filter fun row => decide (key row = wanted)) = [row] := by
  induction rows with
  | nil => exact .inl rfl
  | cons row rows ih =>
      rw [List.map_cons, List.nodup_cons] at distinct
      by_cases here : key row = wanted
      · refine .inr ⟨row, ?_⟩
        rw [List.filter_cons_of_pos (by simpa using here), List.filter_eq_nil_iff.mpr]
        intro other member same
        exact distinct.1 (List.mem_map.mpr ⟨other, member, by rw [here]; simpa using same⟩)
      · rw [List.filter_cons_of_neg (by simpa using here)]
        exact ih distinct.2

end Lists

section Accounting

variable (db : Database)

theorem accepts_rows (charge : Charge) (accepted : db.accepts charge = true) :
    (∀ row ∈ db.userStats, (bump charge row).isSome) ∧ ∀ row ∈ db.accounts, (debitRow charge row).isSome := by
  rw [Database.accepts, Bool.and_eq_true, List.all_eq_true, List.all_eq_true] at accepted
  exact accepted

theorem charges_settled (charges : List Charge) (accepted : db.Accepted charges) :
    List.Forall₂ (Settled charges) db.accounts (charges.foldl Database.charged db).accounts ∧
      List.Forall₂ (Counted charges) db.userStats (charges.foldl Database.charged db).userStats ∧
      (charges.foldl Database.charged db).accountIps = db.accountIps := by
  induction charges generalizing db with
  | nil => exact ⟨List.forall₂_same.mpr fun row _ => settled_none row, List.forall₂_same.mpr fun row _ => counted_none row, rfl⟩
  | cons charge charges ih =>
      obtain ⟨stats, accounts⟩ := accepts_rows db charge accepted.1
      obtain ⟨settled, counted, ips⟩ := ih (db.charged charge) accepted.2
      rw [List.foldl_cons]
      have ownAccounts : List.Forall₂ (Settled [charge]) db.accounts (db.accounts.map (debited charge)) :=
        List.forall₂_map_right_iff.mpr (List.forall₂_same.mpr fun row member => debited_settled charge row (accounts row member))
      have ownStats : List.Forall₂ (Counted [charge]) db.userStats (db.userStats.map (bumped charge)) :=
        List.forall₂_map_right_iff.mpr (List.forall₂_same.mpr fun row member => bumped_counted charge row (stats row member))
      exact ⟨forall₂_compose _ _ _ (settled_step charge charges) _ _ _ ownAccounts settled,
        forall₂_compose _ _ _ (counted_step charge charges) _ _ _ ownStats counted, ips⟩

structure ReportAnswered (id : Bigint) (reply : Except DbFailure (Option Int)) (after : Database) : Prop where
  single : reply ≠ .error .rowCount
  limited : ∀ left, reply = .ok (some left) → ∃ row ∈ after.accounts, row.account = id ∧
    row.bandwidthLimit.map Subtype.val = some left
  unlimited : reply = .ok none → ∀ row ∈ db.accounts, row.account = id → row.bandwidthLimit = none
  failed : ∀ failure, reply = .error failure → after = db

theorem returning_row (charge : Charge) : db.returning charge =
    ((db.accounts.filter fun row => decide (row.account = charge.id)).filterMap fun row =>
      (debited charge row).bandwidthLimit) := by
  rw [List.filterMap_filter, Database.returning]
  congr 1
  funext row
  simp only [decide_eq_true_eq]

theorem debited_unlimited (charge : Charge) (row : AccountRow) (unlimited : (debited charge row).bandwidthLimit = none) :
    row.bandwidthLimit = none := by
  cases limit : row.bandwidthLimit with
  | none => rfl
  | some left =>
      rw [debited, debitRow, limit] at unlimited
      dsimp only at unlimited
      split at unlimited
      · cases amount : bigint (left.val - charge.debit.val) with
        | none =>
            rw [amount, Option.map_none, Option.getD_none, limit] at unlimited
            cases unlimited
        | some value =>
            rw [amount] at unlimited
            cases unlimited
      · rw [Option.getD_some, limit] at unlimited
        cases unlimited

theorem report_answered (id : Bigint) (bytesIn bytesOut : Nat) (price : Int → Debit) :
    ReportAnswered db id (db.reportUsage id bytesIn bytesOut price).1 (db.reportUsage id bytesIn bytesOut price).2 := by
  let charge : Charge := ⟨toI64 bytesIn, toI64 bytesOut, id, callDebit bytesIn bytesOut price⟩
  have report : db.reportUsage id bytesIn bytesOut price =
      if db.accepts charge then ((queryOpt (db.returning charge)).map fun row => row.map Subtype.val, db.charged charge)
      else (.error .outOfRange, db) := rfl
  rw [report]
  by_cases accepted : db.accepts charge = true
  · rw [if_pos accepted, returning_row]
    rcases keyed_row AccountRow.account db.accounts id db.accountKey with empty | ⟨row, only⟩
    · rw [show charge.id = id from rfl, empty]
      refine ⟨nofun, nofun, fun _ row member own => ?_, nofun⟩
      have there : row ∈ db.accounts.filter fun row => decide (row.account = id) :=
        List.mem_filter.mpr ⟨member, by simpa using own⟩
      rw [empty] at there
      cases there
    · have member : row ∈ db.accounts.filter fun row => decide (row.account = id) := by rw [only]; exact List.mem_cons_self
      obtain ⟨listed, own⟩ := List.mem_filter.mp member
      rw [show charge.id = id from rfl, only, List.filterMap_cons, List.filterMap_nil]
      cases limit : (debited charge row).bandwidthLimit with
      | none =>
          refine ⟨nofun, nofun, fun _ other there same => ?_, nofun⟩
          have found : other ∈ db.accounts.filter fun row => decide (row.account = id) :=
            List.mem_filter.mpr ⟨there, by simpa using same⟩
          rw [only, List.mem_singleton] at found
          rw [found]
          exact debited_unlimited charge row limit
      | some value =>
          refine ⟨nofun, fun left same => ?_, nofun, nofun⟩
          cases same
          refine ⟨debited charge row, List.mem_map.mpr ⟨row, listed, rfl⟩, ?_, by rw [limit]; rfl⟩
          rw [debited_account]
          simpa using own
  · rw [if_neg accepted]
    exact ⟨nofun, nofun, nofun, fun _ _ => rfl⟩

theorem settled_perm (charges other : List Charge) (same : charges.Perm other) (row after : AccountRow)
    (settled : Settled charges row after) :
    Settled other row after := by
  refine ⟨settled.account, settled.username, settled.password, settled.defaultSelection, ?_⟩
  rw [settled.limit]
  congr 1
  funext left
  exact left_after_perm _ _ left ((same.filter _).map _)

theorem counted_perm (charges other : List Charge) (same : charges.Perm other) (row after : StatsRow)
    (counted : Counted charges row after) :
    Counted other row after := by
  have sums : ∀ field : Charge → Int, ((chargesOn row.id charges).map field).sum = ((chargesOn row.id other).map field).sum :=
    fun field => ((same.filter _).map field).sum_eq
  exact ⟨counted.id, by rw [counted.bytesIn, sums], by rw [counted.bytesOut, sums]⟩

theorem optional_val (one other : Option Bigint) (same : one.map Subtype.val = other.map Subtype.val) : one = other :=
  Option.map_injective Subtype.val_injective same

theorem settled_unique (charges : List Charge) (row one other : AccountRow) (first : Settled charges row one)
    (second : Settled charges row other) :
    one = other := by
  obtain ⟨account, username, password, limit, selection⟩ := one
  obtain ⟨account', username', password', limit', selection'⟩ := other
  have limits := optional_val limit limit' (first.limit.trans second.limit.symm)
  have accounts : account = account' := first.account.trans second.account.symm
  have usernames : username = username' := first.username.trans second.username.symm
  have passwords : password = password' := first.password.trans second.password.symm
  have selections : selection = selection' := first.defaultSelection.trans second.defaultSelection.symm
  subst limits accounts usernames passwords selections
  rfl

theorem counted_unique (charges : List Charge) (row one other : StatsRow) (first : Counted charges row one)
    (second : Counted charges row other) :
    one = other := by
  obtain ⟨id, bytesIn, bytesOut⟩ := one
  obtain ⟨id', bytesIn', bytesOut'⟩ := other
  have ins := optional_val bytesIn bytesIn' (first.bytesIn.trans second.bytesIn.symm)
  have outs := optional_val bytesOut bytesOut' (first.bytesOut.trans second.bytesOut.symm)
  have ids : id = id' := first.id.trans second.id.symm
  subst ins outs ids
  rfl

-- What any sequence of calls leaves in the tables, from the charges that were
-- applied, and in whatever order.
structure TablesAccounted (calls : List (AuthCall × Fate)) : Prop where
  accounts : List.Forall₂ (Settled (db.applied calls)) db.accounts (db.run calls).accounts
  stats : List.Forall₂ (Counted (db.applied calls)) db.userStats (db.run calls).userStats
  addresses : (db.run calls).accountIps = db.accountIps
  reports : ∀ id bytesIn bytesOut price, ReportAnswered (db.run calls) id ((db.run calls).reportUsage id bytesIn bytesOut price).1
    ((db.run calls).reportUsage id bytesIn bytesOut price).2
  unordered : ∀ other, (db.applied calls).Perm (db.applied other) → db.run other = db.run calls

theorem run_settled (calls : List (AuthCall × Fate)) :
    List.Forall₂ (Settled (db.applied calls)) db.accounts (db.run calls).accounts ∧
    List.Forall₂ (Counted (db.applied calls)) db.userStats (db.run calls).userStats ∧
      (db.run calls).accountIps = db.accountIps := by
  rw [Database.run_applied]
  exact charges_settled db _ (Database.applied_accepted db calls)

theorem database_ext (one other : Database) (accounts : one.accounts = other.accounts) (ips : one.accountIps = other.accountIps)
    (stats : one.userStats = other.userStats) : one = other := by
  cases one
  cases other
  dsimp only at accounts ips stats
  subst accounts ips stats
  rfl

theorem database_accounted (calls : List (AuthCall × Fate)) : TablesAccounted db calls := by
  obtain ⟨accounts, stats, addresses⟩ := run_settled db calls
  refine ⟨accounts, stats, addresses, fun id bytesIn bytesOut price =>
    report_answered (db.run calls) id bytesIn bytesOut price, ?_⟩
  intro other same
  obtain ⟨accounts', stats', addresses'⟩ := run_settled db other
  have rows := accounts.imp fun row after => settled_perm _ _ same row after
  have counts := stats.imp fun row after => counted_perm _ _ same row after
  refine database_ext _ _ ?_ (addresses'.trans addresses.symm) ?_
  · exact List.right_unique_forall₂' (fun row one two first second => settled_unique _ row one two first second) accounts' rows
  · exact List.right_unique_forall₂' (fun row one two first second => counted_unique _ row one two first second) stats' counts

end Accounting

end Purroute
