import Mathlib.Data.Fintype.Prod
import Purroute.Allowance
import Purroute.Relay

set_option autoImplicit false

namespace Purroute

def i64Max : Int := 9223372036854775807

-- Saturating, as the cast to `i64` does.
def debit (bytes cost : Nat) : Int := min ((bytes * cost : Nat) : Int) i64Max

def nextRemaining (cur debit : Int) : Int := max (cur - debit) 0

-- A copy loop inside `proxy_data`: `report_usage` works on the shared counter in
-- its own steps, a load and then compare-and-swaps until one succeeds.
inductive Stage where
  | copying (phase : Phase)
  | exchanging (chunk : Bytes) (index : Nat) (cur : Int)
  | returned (chunk : Bytes) (reply : Except Unit (Option Int))

def Stage.phase : Stage → Phase
  | .copying phase => phase
  | .exchanging chunk _ _ => .reporting chunk
  | .returned chunk _ => .reporting chunk

-- A user without a limit is answered without a remaining amount.
def reportUsage (users : List (Option Int)) (id : Int) (chunk : Bytes) : Stage :=
  if id - 1 < 0 then .returned chunk (.ok none)
  else
    match users[(id - 1).toNat]? with
    | some (some cur) => .exchanging chunk (id - 1).toNat cur
    | _ => .returned chunk (.ok none)

inductive Usage where
  | debited (chunk : Bytes) (index : Nat) (next : Int)
  | failed (chunk : Bytes)
  | handed (chunk : Bytes)

def isReport : Action → Bool
  | .report _ => true
  | _ => false

def handedOver : Phase → List Usage
  | .writing chunk => [.handed chunk]
  | _ => []

-- One turn of one loop. A compare-and-swap may fail for no reason.
inductive Turn (id : Int) (cost : Nat) : List (Option Int) → Stage → List Usage → List (Option Int) → Stage → Prop
  | copy (users : List (Option Int)) (phase next : Phase) (action : Action) (kind : isReport action = false)
      (step : phase.step true action = some next) : Turn id cost users (.copying phase) [] users (.copying next)
  | call (users : List (Option Int)) (chunk : Bytes) :
      Turn id cost users (.copying (.reporting chunk)) [] users (reportUsage users id chunk)
  | exchange (users : List (Option Int)) (chunk : Bytes) (index : Nat) (cur : Int) (same : users[index]? = some (some cur)) :
      Turn id cost users (.exchanging chunk index cur) [.debited chunk index (nextRemaining cur (debit chunk.length cost))]
        (users.set index (some (nextRemaining cur (debit chunk.length cost))))
        (.returned chunk (.ok (some (nextRemaining cur (debit chunk.length cost)))))
  | retry (users : List (Option Int)) (chunk : Bytes) (index : Nat) (cur observed : Int)
      (read : users[index]? = some (some observed)) :
      Turn id cost users (.exchanging chunk index cur) [] users (.exchanging chunk index observed)
  | fail (users : List (Option Int)) (stage : Stage) (chunk : Bytes) (reporting : stage.phase = .reporting chunk) :
      Turn id cost users stage [.failed chunk] users (.returned chunk (.error ()))
  | answer (users : List (Option Int)) (chunk : Bytes) (reply : Except Unit (Option Int)) :
      Turn id cost users (.returned chunk reply) (handedOver (afterReport chunk reply)) users (.copying (afterReport chunk reply))

theorem turn_moves (id : Int) (cost : Nat) (users users' : List (Option Int)) (stage stage' : Stage) (usage : List Usage)
    (turn : Turn id cost users stage usage users' stage') :
    stage'.phase = stage.phase ∨ ∃ action, stage.phase.step true action = some stage'.phase := by
  cases turn with
  | copy phase next action kind step => exact Or.inr ⟨action, step⟩
  | call chunk =>
      left
      rw [reportUsage]
      split
      · rfl
      · split <;> rfl
  | exchange chunk index cur same => exact Or.inl rfl
  | retry chunk index cur observed read => exact Or.inl rfl
  | fail _ chunk reporting => exact Or.inl reporting.symm
  | answer chunk reply => exact Or.inr ⟨.report reply, rfl⟩

section Relays

variable {ι : Type} (id : ι → Int) (cost : ι → Nat)

instance : Fintype Direction := ⟨{.toUpstream, .toClient}, fun direction => by cases direction <;> decide⟩

abbrev Loop (ι : Type) := ι × Direction

-- The log is what happened, the latest first.
structure Metering (ι : Type) where
  users : List (Option Int)
  stage : Loop ι → Stage
  log : List (Loop ι × Usage)

def startMetering (users : List (Option Int)) : Metering ι := ⟨users, fun _ => .copying .reading, []⟩

def isRelaying (state : Metering ι) (relay : ι) : Prop :=
  ∀ direction, isEnded (state.stage (relay, direction)).phase = false

def turned [DecidableEq ι] (state : Metering ι) (loop : Loop ι) (usage : List Usage)
    (users : List (Option Int)) (stage : Stage) : Metering ι :=
  ⟨users, Function.update state.stage loop stage, usage.map (fun event => (loop, event)) ++ state.log⟩

inductive Metering.Step [DecidableEq ι] : Metering ι → Metering ι → Prop
  | turn (state : Metering ι) (loop : Loop ι) (usage : List Usage) (users : List (Option Int)) (stage : Stage)
      (running : isRelaying state loop.1)
      (step : Turn (id loop.1) (cost loop.1) state.users (state.stage loop) usage users stage) :
      Step state (turned state loop usage users stage)

variable (account : Nat)

def remainingOf (users : List (Option Int)) : Nat :=
  match users[account]? with
  | some (some remaining) => remaining.toNat
  | _ => 0

def price (loop : Loop ι) (chunk : Bytes) : Nat :=
  if id loop.1 = account + 1 then chunk.length * cost loop.1 else 0

def spentBy : Loop ι × Usage → Nat
  | (loop, .handed chunk) => price id cost account loop chunk
  | _ => 0

def spentOn : List (Loop ι × Usage) → Nat
  | [] => 0
  | entry :: log => spentBy id cost account entry + spentOn log

def heldBy (loop : Loop ι) : Stage → Nat
  | .returned chunk (.ok (some next)) => if 0 < next then price id cost account loop chunk else 0
  | _ => 0

def ledger (state : Metering ι) : Allowance.State (Loop ι) :=
  ⟨remainingOf account state.users, spentOn id cost account state.log, fun loop => heldBy id cost account loop (state.stage loop)⟩

def Limited (users : List (Option Int)) : Prop :=
  ∃ remaining : Nat, users[account]? = some (some (remaining : Int)) ∧ (remaining : Int) ≤ i64Max

def OnCounter (id : Int) : Stage → Prop
  | .exchanging _ index _ => id = index + 1
  | .returned _ (.ok none) => id ≠ account + 1
  | _ => True

theorem debit_nonneg (bytes cost : Nat) : 0 ≤ debit bytes cost := by
  unfold debit i64Max
  omega

theorem next_remaining_covered (remaining bytes cost : Nat) (bounded : (remaining : Int) ≤ i64Max)
    (left : 0 < nextRemaining remaining (debit bytes cost)) :
    bytes * cost < remaining ∧ nextRemaining remaining (debit bytes cost) = ((remaining - bytes * cost : Nat) : Int) := by
  unfold nextRemaining debit at left ⊢
  rw [i64Max] at left bounded ⊢
  omega

theorem next_remaining_bounds (remaining : Nat) (amount : Int) (bounded : (remaining : Int) ≤ i64Max) (nonneg : 0 ≤ amount) :
    ∃ left : Nat, nextRemaining remaining amount = (left : Int) ∧ (left : Int) ≤ i64Max := by
  rw [nextRemaining]
  exact ⟨(max ((remaining : Int) - amount) 0).toNat, by omega, by omega⟩

theorem report_usage_on_counter (users : List (Option Int)) (id : Int) (chunk : Bytes) (limited : Limited account users) :
    OnCounter account id (reportUsage users id chunk) := by
  obtain ⟨remaining, found, _⟩ := limited
  rw [reportUsage]
  by_cases negative : id - 1 < 0
  · rw [if_pos negative]
    change id ≠ account + 1
    omega
  · rw [if_neg negative]
    have named : id = (id - 1).toNat + 1 := by omega
    split
    · exact named
    · rename_i absent
      intro same
      have place : (id - 1).toNat = account := by omega
      rw [place] at absent
      exact absent _ found

theorem turn_tracked (loopId : Int) (loopCost : Nat) (users users' : List (Option Int))
    (stage stage' : Stage) (usage : List Usage)
    (turn : Turn loopId loopCost users stage usage users' stage') (limited : Limited account users)
    (counted : OnCounter account loopId stage) : Limited account users' ∧ OnCounter account loopId stage' := by
  cases turn with
  | copy phase next action kind step => exact ⟨limited, trivial⟩
  | call chunk => exact ⟨limited, report_usage_on_counter account users loopId chunk limited⟩
  | exchange chunk index cur same =>
      refine ⟨?_, trivial⟩
      obtain ⟨remaining, found, bounded⟩ := limited
      by_cases here : index = account
      · rw [here, found] at same
        cases same
        obtain ⟨left, next, bound⟩ := next_remaining_bounds remaining _ bounded (debit_nonneg chunk.length loopCost)
        refine ⟨left, ?_, bound⟩
        rw [here, next]
        exact List.getElem?_set_self (List.getElem?_eq_some_iff.mp found).1
      · refine ⟨remaining, ?_, bounded⟩
        rw [List.getElem?_set_ne here]
        exact found
  | retry chunk index cur observed read => exact ⟨limited, counted⟩
  | fail _ chunk reporting => exact ⟨limited, trivial⟩
  | answer chunk reply => exact ⟨limited, trivial⟩

theorem price_elsewhere (loop : Loop ι) (chunk : Bytes) (other : id loop.1 ≠ account + 1) :
    price id cost account loop chunk = 0 :=
  if_neg other

theorem remaining_of_limited (users : List (Option Int)) (remaining : Nat)
    (found : users[account]? = some (some (remaining : Int))) :
    remainingOf account users = remaining := by
  simp only [remainingOf, found, Int.toNat_natCast]

theorem report_usage_holds_nothing (loop : Loop ι) (users : List (Option Int)) (loopId : Int) (chunk : Bytes) :
    heldBy id cost account loop (reportUsage users loopId chunk) = 0 := by
  rw [reportUsage]
  split
  · rfl
  · split <;> rfl

def exhausts : Loop ι × Usage → Prop
  | (_, .debited _ index next) => index = account ∧ next ≤ 0
  | _ => False

-- The latest event of the loop is the debit for this chunk, which left
-- something, as did every debit of the account before it.
def Paid (loop : Loop ι) (chunk : Bytes) (earlier : List (Loop ι × Usage)) : Prop :=
  ∃ between next older, earlier = between ++ (loop, .debited chunk account next) :: older ∧
    (∀ entry ∈ between, entry.1 ≠ loop) ∧ 0 < next ∧ ∀ entry ∈ older, ¬ exhausts account entry

def Granted (loop : Loop ι) (log : List (Loop ι × Usage)) : Stage → Prop
  | .returned chunk (.ok (some next)) => 0 < next → Paid account loop chunk log
  | _ => True

structure Recorded (state : Metering ι) : Prop where
  exhausted : ∀ entry ∈ state.log, exhausts account entry → state.users[account]? = some (some 0)
  granted : ∀ loop, id loop.1 = account + 1 → Granted account loop state.log (state.stage loop)
  paid : ∀ later loop chunk earlier, id loop.1 = account + 1 → state.log = later ++ (loop, .handed chunk) :: earlier →
    Paid account loop chunk earlier

theorem granted_later (loop other : Loop ι) (usage : List Usage) (log : List (Loop ι × Usage))
    (stage : Stage) (apart : other ≠ loop)
    (granted : Granted account other log stage) :
    Granted account other (usage.map (fun event => (loop, event)) ++ log) stage := by
  cases stage with
  | returned chunk reply =>
      cases reply with
      | error reason => trivial
      | ok remaining =>
          cases remaining with
          | none => trivial
          | some next =>
              intro left
              obtain ⟨between, after, older, split, others, positive, before⟩ := granted left
              refine ⟨usage.map (fun event => (loop, event)) ++ between, after, older, ?_, ?_, positive, before⟩
              · rw [split, List.append_assoc]
              · intro entry member
                rw [List.mem_append] at member
                cases member with
                | inl own =>
                    obtain ⟨event, _, rfl⟩ := List.mem_map.mp own
                    exact fun same => apart same.symm
                | inr between => exact others entry between
  | _ => trivial

theorem next_remaining_nonneg (cur amount : Int) : 0 ≤ nextRemaining cur amount := le_max_right _ _

theorem next_remaining_exhausted (amount : Int) (nonneg : 0 ≤ amount) : nextRemaining 0 amount = 0 := by
  rw [nextRemaining]
  omega

theorem exchange_exhausted (users : List (Option Int)) (index : Nat) (cur amount : Int) (same : users[index]? = some (some cur))
    (nonneg : 0 ≤ amount) (empty : users[account]? = some (some 0)) :
    (users.set index (some (nextRemaining cur amount)))[account]? = some (some 0) := by
  by_cases here : index = account
  · subst here
    cases same.symm.trans empty
    rw [next_remaining_exhausted amount nonneg]
    exact List.getElem?_set_self (List.getElem?_eq_some_iff.mp same).1
  · rw [List.getElem?_set_ne here]
    exact empty

theorem handed_over_cases (chunk : Bytes) (reply : Except Unit (Option Int)) :
    handedOver (afterReport chunk reply) = [] ∨
      (handedOver (afterReport chunk reply) = [.handed chunk] ∧
        (reply = .ok none ∨ ∃ next, reply = .ok (some next) ∧ 0 < next)) := by
  rcases reply with _ | _ | next
  · exact Or.inl rfl
  · exact Or.inr ⟨rfl, Or.inl rfl⟩
  · by_cases left : next ≤ 0
    · rw [afterReport, if_pos left]
      exact Or.inl rfl
    · rw [afterReport, if_neg left]
      exact Or.inr ⟨rfl, Or.inr ⟨next, rfl, by omega⟩⟩

structure Entered (loop : Loop ι) (users : List (Option Int)) (usage : List Usage)
    (log : List (Loop ι × Usage)) (stage : Stage) : Prop where
  exhausted : ∀ entry ∈ usage.map (fun event => (loop, event)) ++ log, exhausts account entry → users[account]? = some (some 0)
  granted : id loop.1 = account + 1 → Granted account loop (usage.map (fun event => (loop, event)) ++ log) stage
  paid : ∀ chunk, id loop.1 = account + 1 → .handed chunk ∈ usage → usage.length = 1 ∧ Paid account loop chunk log

theorem turn_entered (loop : Loop ι) (users users' : List (Option Int)) (stage stage' : Stage) (usage : List Usage)
    (turn : Turn (id loop.1) (cost loop.1) users stage usage users' stage') (counted : OnCounter account (id loop.1) stage)
    (log : List (Loop ι × Usage)) (exhausted : ∀ entry ∈ log, exhausts account entry → users[account]? = some (some 0))
    (granted : id loop.1 = account + 1 → Granted account loop log stage) : Entered id account loop users' usage log stage' := by
  have exhausted_later : ∀ usage : List Usage, (∀ event ∈ usage, ¬ exhausts account (loop, event)) →
      ∀ entry ∈ usage.map (fun event => (loop, event)) ++ log, exhausts account entry → users[account]? = some (some 0) := by
    intro usage spares entry member spent
    rw [List.mem_append] at member
    cases member with
    | inl own =>
        obtain ⟨event, occurs, rfl⟩ := List.mem_map.mp own
        exact absurd spent (spares event occurs)
    | inr before => exact exhausted entry before spent
  cases turn with
  | copy phase next action kind step => exact ⟨exhausted, fun _ => trivial, by simp⟩
  | call chunk =>
      refine ⟨exhausted, fun _ => ?_, by simp⟩
      rw [reportUsage]
      split
      · trivial
      · split <;> trivial
  | retry chunk index cur observed read => exact ⟨exhausted, fun _ => trivial, by simp⟩
  | fail _ chunk reporting => exact ⟨exhausted_later [.failed chunk] (by simp [exhausts]), fun _ => trivial, by simp⟩
  | exchange chunk index cur same =>
      have inTable := (List.getElem?_eq_some_iff.mp same).1
      refine ⟨?_, ?_, by simp⟩
      · intro entry member spent
        rw [List.map_singleton, List.singleton_append, List.mem_cons] at member
        cases member with
        | inl own =>
            rw [own] at spent
            obtain ⟨here, nothing⟩ := spent
            have zero := le_antisymm nothing (next_remaining_nonneg cur (debit chunk.length (cost loop.1)))
            rw [zero, ← here]
            exact List.getElem?_set_self inTable
        | inr before =>
            exact exchange_exhausted account users index cur _ same (debit_nonneg chunk.length (cost loop.1))
              (exhausted entry before spent)
      · intro metered left
        have here : index = account := by
          have named : id loop.1 = index + 1 := counted
          omega
        refine ⟨[], _, log, by rw [here]; rfl, by simp, left, ?_⟩
        intro entry member spent
        have empty := exhausted entry member spent
        rw [here, empty] at same
        cases same
        rw [next_remaining_exhausted _ (debit_nonneg chunk.length (cost loop.1))] at left
        exact lt_irrefl 0 left
  | answer chunk reply =>
      rcases handed_over_cases chunk reply with nothing | ⟨handed, outcome⟩
      · rw [nothing]
        exact ⟨exhausted, fun _ => trivial, by simp⟩
      · rw [handed]
        refine ⟨exhausted_later [.handed chunk] (by simp [exhausts]), fun _ => trivial, ?_⟩
        intro written metered member
        cases List.mem_singleton.mp member
        refine ⟨rfl, ?_⟩
        rcases outcome with rfl | ⟨next, rfl, left⟩
        · exact absurd metered counted
        · exact granted metered left

theorem spent_append (log earlier : List (Loop ι × Usage)) :
    spentOn id cost account (log ++ earlier) = spentOn id cost account log + spentOn id cost account earlier := by
  induction log with
  | nil => exact (Nat.zero_add _).symm
  | cons entry log ih => rw [List.cons_append, spentOn, spentOn, ih, Nat.add_assoc]

variable [DecidableEq ι]

theorem exchange_charges (loop : Loop ι) (users : List (Option Int)) (chunk : Bytes) (cur : Int)
    (spent : Nat) (held : Loop ι → Nat)
    (metered : id loop.1 = account + 1) (limited : Limited account users) (same : users[account]? = some (some cur)) :
    Allowance.Step ⟨remainingOf account users, spent, held⟩
      ⟨remainingOf account (users.set account (some (nextRemaining cur (debit chunk.length (cost loop.1))))), spent,
        Function.update held loop (heldBy id cost account loop
          (.returned chunk (.ok (some (nextRemaining cur (debit chunk.length (cost loop.1)))))))⟩ := by
  obtain ⟨remaining, found, bounded⟩ := limited
  have inTable := (List.getElem?_eq_some_iff.mp found).1
  cases same.symm.trans found
  have paid : price id cost account loop chunk = chunk.length * cost loop.1 := if_pos metered
  rw [remaining_of_limited account users remaining found]
  by_cases left : 0 < nextRemaining remaining (debit chunk.length (cost loop.1))
  · obtain ⟨covered, next⟩ := next_remaining_covered remaining chunk.length (cost loop.1) bounded left
    have after : (users.set account (some (nextRemaining remaining (debit chunk.length (cost loop.1)))))[account]? =
        some (some ((remaining - chunk.length * cost loop.1 : Nat) : Int)) := by
      rw [next]
      exact List.getElem?_set_self inTable
    rw [remaining_of_limited account _ _ after]
    simp only [heldBy, if_pos left, paid]
    exact .grant ⟨remaining, spent, held⟩ loop _ covered
  · have next : nextRemaining remaining (debit chunk.length (cost loop.1)) = ((0 : Nat) : Int) := by
      rw [nextRemaining] at left ⊢
      omega
    rw [next, remaining_of_limited account _ 0 (List.getElem?_set_self inTable)]
    have refused : heldBy id cost account loop (.returned chunk (.ok (some ((0 : Nat) : Int)))) = 0 := rfl
    rw [refused]
    exact .refuse ⟨remaining, spent, held⟩ loop

theorem turn_charges (loop : Loop ι) (users users' : List (Option Int)) (stage stage' : Stage) (usage : List Usage)
    (turn : Turn (id loop.1) (cost loop.1) users stage usage users' stage') (limited : Limited account users)
    (counted : OnCounter account (id loop.1) stage) (spent : Nat) (held : Loop ι → Nat)
    (owed : held loop = heldBy id cost account loop stage) :
    Allowance.Step ⟨remainingOf account users, spent, held⟩
      ⟨remainingOf account users', spentOn id cost account (usage.map (fun event => (loop, event))) + spent,
        Function.update held loop (heldBy id cost account loop stage')⟩ := by
  -- Nothing is charged, and nothing is held afterwards.
  have dropped : ∀ (paid : Nat) (kept : Nat), paid = 0 → kept = 0 →
      Allowance.Step ⟨remainingOf account users, spent, held⟩ ⟨remainingOf account users,
        paid + spent, Function.update held loop kept⟩ := by
    intro paid kept unpaid empty
    rw [unpaid, empty, Nat.zero_add]
    exact .drop ⟨remainingOf account users, spent, held⟩ loop
  cases turn with
  | copy phase next action kind step => exact dropped _ _ rfl rfl
  | call chunk => exact dropped _ _ rfl (report_usage_holds_nothing id cost account loop users _ chunk)
  | retry chunk index cur observed read => exact dropped _ _ rfl rfl
  | fail _ chunk reporting => exact dropped _ _ rfl rfl
  | exchange chunk index cur same =>
      have named : id loop.1 = index + 1 := counted
      by_cases here : index = account
      · subst here
        have unpaid : ∀ next, spentOn id cost index [(loop, .debited chunk index next)] + spent = spent :=
          fun _ => Nat.zero_add spent
        rw [List.map_singleton, unpaid]
        exact exchange_charges id cost index loop users chunk cur spent held named limited same
      · have kept : remainingOf account (users.set index (some (nextRemaining cur (debit chunk.length (cost loop.1))))) =
            remainingOf account users := by
          unfold remainingOf
          rw [List.getElem?_set_ne here]
        rw [kept]
        apply dropped _ _ rfl
        have elsewhere : id loop.1 ≠ account + 1 := by omega
        simp only [heldBy, price_elsewhere id cost account loop chunk elsewhere, ite_self]
  | answer chunk reply =>
      rcases handed_over_cases chunk reply with nothing | ⟨handed, outcome⟩
      · rw [nothing]
        exact dropped _ _ rfl rfl
      · rw [handed]
        have price : spentOn id cost account [(loop, .handed chunk)] = price id cost account loop chunk := Nat.add_zero _
        rcases outcome with rfl | ⟨next, rfl, left⟩
        · exact dropped _ _ (price.trans (price_elsewhere id cost account loop chunk counted)) rfl
        · have holds : heldBy id cost account loop (.returned chunk (.ok (some next))) =
            spentOn id cost account [(loop, .handed chunk)] :=
            (if_pos left).trans price.symm
          rw [List.map_singleton, ← holds, ← owed, Nat.add_comm]
          exact .spend ⟨remainingOf account users, spent, held⟩ loop

structure Tracked (state : Metering ι) : Prop where
  limited : Limited account state.users
  counted : ∀ loop, OnCounter account (id loop.1) (state.stage loop)

theorem step_tracked (state next : Metering ι) (step : Metering.Step id cost state next) (tracked : Tracked id account state) :
    Tracked id account next := by
  cases step with
  | turn loop usage users stage running step =>
      obtain ⟨limited, counted⟩ := turn_tracked account _ _ _ _ _ _ _ step tracked.limited (tracked.counted loop)
      refine ⟨limited, fun other => ?_⟩
      by_cases same : other = loop
      · simp only [turned, same, Function.update_self]
        exact counted
      · simp only [turned, Function.update_of_ne same]
        exact tracked.counted other

theorem step_charges (state next : Metering ι) (step : Metering.Step id cost state next) (tracked : Tracked id account state) :
    Allowance.Step (ledger id cost account state) (ledger id cost account next) := by
  cases step with
  | turn loop usage users stage running step =>
      have charges := turn_charges id cost account loop _ _ _ _ _ step tracked.limited (tracked.counted loop)
        (spentOn id cost account state.log) (fun other => heldBy id cost account other (state.stage other)) rfl
      have spent := spent_append id cost account (usage.map fun event => (loop, event)) state.log
      have held : (fun other => heldBy id cost account other (Function.update state.stage loop stage other)) =
          Function.update (fun other => heldBy id cost account other (state.stage other)) loop
            (heldBy id cost account loop stage) := by
        funext other
        by_cases same : other = loop
        · rw [same, Function.update_self, Function.update_self]
        · rw [Function.update_of_ne same, Function.update_of_ne same]
      simpa only [ledger, turned, spent, held] using charges

theorem run_tracked (state final : Metering ι) (tracked : Tracked id account state)
    (reached : Relation.ReflTransGen (Metering.Step id cost) state final) :
    Tracked id account final ∧
      Relation.ReflTransGen Allowance.Step (ledger id cost account state) (ledger id cost account final) := by
  induction reached with
  | refl => exact ⟨tracked, .refl⟩
  | tail _ step ih =>
      obtain ⟨before, charges⟩ := ih
      exact ⟨step_tracked id cost account _ _ step before, charges.tail (step_charges id cost account _ _ step before)⟩

theorem step_recorded (state next : Metering ι) (step : Metering.Step id cost state next) (tracked : Tracked id account state)
    (recorded : Recorded id account state) : Recorded id account next := by
  cases step with
  | turn loop usage users stage running step =>
      have entered := turn_entered id cost account loop _ _ _ _ _ step (tracked.counted loop) state.log recorded.exhausted
        (recorded.granted loop)
      refine ⟨entered.exhausted, ?_, ?_⟩
      · intro other metered
        by_cases same : other = loop
        · rw [same] at metered ⊢
          simp only [turned, Function.update_self]
          exact entered.granted metered
        · simp only [turned, Function.update_of_ne same]
          exact granted_later account loop other usage state.log _ same (recorded.granted other metered)
      · intro later other chunk earlier metered split
        -- The chunk was handed over in an earlier turn, or in this one.
        obtain ⟨rest, _, before⟩ | ⟨rest, own, before⟩ := List.append_eq_append_iff.mp split
        · exact recorded.paid rest other chunk earlier metered before
        · cases rest with
          | nil => exact recorded.paid [] other chunk earlier metered before.symm
          | cons entry rest =>
              rw [List.cons_append] at before
              obtain ⟨rfl, rfl⟩ := List.cons.inj before
              have member : (other, Usage.handed chunk) ∈ usage.map (fun event => (loop, event)) := by
                rw [own]
                exact List.mem_append_right _ List.mem_cons_self
              obtain ⟨event, occurs, same⟩ := List.mem_map.mp member
              cases same
              obtain ⟨single, paid⟩ := entered.paid chunk metered occurs
              have short := congrArg List.length own
              rw [List.length_map, single, List.length_append, List.length_cons] at short
              have last : rest = [] := List.length_eq_zero_iff.mp (by omega)
              rw [last]
              exact paid

theorem run_recorded (state final : Metering ι) (tracked : Tracked id account state) (recorded : Recorded id account state)
    (reached : Relation.ReflTransGen (Metering.Step id cost) state final) : Recorded id account final := by
  induction reached with
  | refl => exact recorded
  | tail before step ih => exact step_recorded id cost account _ _ step (run_tracked id cost account _ _ tracked before).1 ih

omit [DecidableEq ι] in
theorem start_recorded (users : List (Option Int)) : Recorded id account (startMetering users) := by
  refine ⟨?_, fun _ _ => trivial, ?_⟩
  · intro entry member
    cases member
  · intro later loop chunk earlier _ split
    exact absurd (congrArg List.length split) (by simp [startMetering])

-- However the loops interleave, what was handed over costs less than the
-- allowance, and each chunk was handed over on its own debit.
theorem relays_stay_within_allowance [Fintype ι] (users : List (Option Int)) (limit : Nat)
    (limited : users[account]? = some (some (limit : Int)))
    (positive : 0 < limit) (bounded : (limit : Int) ≤ i64Max) (state : Metering ι)
    (reached : Relation.ReflTransGen (Metering.Step id cost) (startMetering users) state) :
    (∃ remaining : Nat, state.users[account]? = some (some (remaining : Int)) ∧
      spentOn id cost account state.log + remaining ≤ limit) ∧
    spentOn id cost account state.log < limit ∧
    ∀ later loop chunk earlier, id loop.1 = account + 1 → state.log = later ++ (loop, .handed chunk) :: earlier →
      Paid account loop chunk earlier := by
  have start : Tracked id account (startMetering users : Metering ι) := ⟨⟨limit, limited, bounded⟩, fun _ => trivial⟩
  have opened : ledger id cost account (startMetering users) = Allowance.start limit := by
    simp only [ledger, startMetering, remaining_of_limited account users limit limited, Allowance.start, spentOn, heldBy]
  obtain ⟨tracked, charges⟩ := run_tracked id cost account _ _ start reached
  rw [opened] at charges
  obtain ⟨strict, covered⟩ := Allowance.safe_spent limit _ (Allowance.run_safe limit positive _ charges)
  obtain ⟨remaining, left, _⟩ := tracked.limited
  have counter : (ledger id cost account state).remaining = remaining := remaining_of_limited account _ remaining left
  rw [counter] at covered
  exact ⟨⟨remaining, left, covered⟩, strict,
    (run_recorded id cost account _ _ start (start_recorded id account users) reached).paid⟩

end Relays

section Examples

def onlyId : Unit → Int := fun _ => 1

def perByte : Unit → Nat := fun _ => 2

def upload : Loop Unit := ((), .toUpstream)

def firstByteRead : Metering Unit := turned (startMetering [some 3]) upload [] [some 3] (.copying (.reporting [71]))

def firstByteDebited : Metering Unit :=
  turned (turned firstByteRead upload [] [some 3] (.exchanging [71] 0 3)) upload [.debited [71] 0 1]
    [some 1] (.returned [71] (.ok (some 1)))

def firstByteHanded : Metering Unit := turned firstByteDebited upload [.handed [71]] [some 1] (.copying (.writing [71]))

theorem first_byte_reached : Relation.ReflTransGen (Metering.Step onlyId perByte) (startMetering [some 3]) firstByteHanded := by
  have running : ∀ state : Metering Unit, isEnded (state.stage upload).phase = false →
      isEnded (state.stage ((), .toClient)).phase = false → isRelaying state () := by
    intro state up down direction
    cases direction with
    | toUpstream => exact up
    | toClient => exact down
  have step := @Metering.Step.turn Unit onlyId perByte _
  refine .head (step _ upload [] _ _ (running _ rfl rfl) (.copy _ .reading (.reporting [71]) (.read [71]) rfl rfl)) ?_
  refine .head (step firstByteRead upload [] _ _ (running _ rfl rfl) (.call _ [71])) ?_
  refine .head (step _ upload _ _ _ (running _ rfl rfl) (.exchange _ [71] 0 3 rfl)) ?_
  exact .single (step firstByteDebited upload _ _ _ (running _ rfl rfl) (.answer _ [71] (.ok (some 1))))

theorem first_byte_within_allowance : (∃ remaining : Nat, firstByteHanded.users[0]? = some (some (remaining : Int)) ∧
      spentOn onlyId perByte 0 firstByteHanded.log + remaining ≤ 3) ∧
    spentOn onlyId perByte 0 firstByteHanded.log < 3 ∧
    ∀ later loop chunk earlier, onlyId loop.1 = (0 : Nat) + 1 → firstByteHanded.log = later ++ (loop, .handed chunk) :: earlier →
      Paid 0 loop chunk earlier :=
  relays_stay_within_allowance onlyId perByte 0 [some 3] 3 rfl (by decide) (by decide) firstByteHanded first_byte_reached

end Examples

end Purroute
