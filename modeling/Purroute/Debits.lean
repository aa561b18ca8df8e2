import Mathlib.Algebra.BigOperators.Group.Finset.Basic
import Mathlib.Data.Rat.Floor
import Mathlib.Tactic.Linarith
import Mathlib.Tactic.FieldSimp
import Purroute.CompareExchange
import Purroute.Metering

set_option autoImplicit false

namespace Purroute

open CompareExchange (valueAfter)

def i64Min : Int := -9223372036854775808

-- What the cast leaves of a price, whatever the rate was.
abbrev Debit := { amount : Int // 0 ≤ amount ∧ amount ≤ i64Max }

def counter (users : List (Option Int)) (id : Int) : Option Int :=
  if id - 1 < 0 then none else users[(id - 1).toNat]?.join

def storeCounter (users : List (Option Int)) (id next : Int) : List (Option Int) := users.set (id - 1).toNat (some next)

inductive Report where
  | called
  | exchanging (cur : Int)
  | returned (reply : Option Int)

-- One atomic step of `report_usage`.
inductive Report.Step (id : Int) (debit : Debit) : List (Option Int) → Report → List (Option Int) → Report → Prop
  | unlimited (users : List (Option Int)) (absent : counter users id = none) :
      Step id debit users .called users (.returned none)
  | load (users : List (Option Int)) (cur : Int) (read : counter users id = some cur) :
      Step id debit users .called users (.exchanging cur)
  | exchange (users : List (Option Int)) (cur : Int) (same : counter users id = some cur) :
      Step id debit users (.exchanging cur) (storeCounter users id (nextRemaining cur debit))
        (.returned (some (nextRemaining cur debit)))
  | retry (users : List (Option Int)) (cur observed : Int) (read : counter users id = some observed) :
      Step id debit users (.exchanging cur) users (.exchanging observed)

theorem debit_range (bytes cost : Nat) : 0 ≤ debit bytes cost ∧ debit bytes cost ≤ i64Max := by
  have limit : (0 : Int) ≤ i64Max := by decide
  rw [debit]
  omega

def wholeDebit (bytes cost : Nat) : Debit := ⟨debit bytes cost, debit_range bytes cost⟩

def calling : Stage → Option Report
  | .copying (.reporting _) => some .called
  | .exchanging _ _ cur => some (.exchanging cur)
  | .returned _ (.ok reply) => some (.returned reply)
  | _ => none

def AtCounter (id : Int) : Stage → Prop
  | .exchanging _ index _ => 0 < id ∧ index = (id - 1).toNat
  | _ => True

-- The turns of a metered loop inside `report_usage` are the steps of one report.
theorem turn_reports (id : Int) (cost : Nat) (users users' : List (Option Int)) (stage stage' : Stage)
    (usage : List Usage) (chunk : Bytes)
    (turn : Turn id cost users stage usage users' stage') (reporting : stage.phase = .reporting chunk)
    (there : AtCounter id stage)
    (report report' : Report) (before : calling stage = some report) (behind : calling stage' = some report') :
    Report.Step id (wholeDebit chunk.length cost) users report users' report' ∧ AtCounter id stage' := by
  cases turn with
  | copy phase next action kind step =>
      cases phase with
      | reporting held =>
          cases action with
          | report reply => cases kind
          | _ => cases step
      | _ => cases reporting
  | call held =>
      cases before
      rw [reportUsage] at behind ⊢
      by_cases negative : id - 1 < 0
      · rw [if_pos negative] at behind ⊢
        cases behind
        exact ⟨.unlimited users (if_pos negative), trivial⟩
      · rw [if_neg negative] at behind ⊢
        have read : counter users id = users[(id - 1).toNat]?.join := if_neg negative
        rcases found : users[(id - 1).toNat]? with _ | _ | cur
        · rw [found] at behind read
          cases behind
          exact ⟨.unlimited users read, trivial⟩
        · rw [found] at behind read
          cases behind
          exact ⟨.unlimited users read, trivial⟩
        · rw [found] at behind read
          cases behind
          exact ⟨.load users cur read, by omega, rfl⟩
  | exchange held index cur same =>
      cases reporting
      cases before
      cases behind
      obtain ⟨positive, rfl⟩ := there
      have read : counter users id = some cur := by
        rw [counter, if_neg (by omega), same, Option.join_some]
      exact ⟨.exchange users cur read, trivial⟩
  | retry held index cur observed read =>
      cases before
      cases behind
      obtain ⟨positive, rfl⟩ := there
      have seen : counter users id = some observed := by
        rw [counter, if_neg (by omega), read, Option.join_some]
      exact ⟨.retry users cur observed seen, positive, rfl⟩
  | fail _ held _ => cases behind
  | answer held reply =>
      cases reply with
      | error failure => cases behind
      | ok reply =>
          rcases reply with _ | remaining
          · cases behind
          · simp only [afterReport] at behind
            split at behind <;> cases behind

structure Reports (ι : Type) where
  users : List (Option Int)
  report : ι → Report

section Reports

variable {ι : Type} (id : Int) (debits : ι → Debit)

def startReports (users : List (Option Int)) : Reports ι := ⟨users, fun _ => .called⟩

def debitNext (call : ι) (cur : Int) : Int := nextRemaining cur (debits call)

def reportOf : CompareExchange.Call Int → Report
  | .called => .called
  | .loaded seen => .exchanging seen
  | .returned result => .returned (some result)

structure Simulates (state : Reports ι) (model : CompareExchange.State ι Int) : Prop where
  counter : counter state.users id = some model.cell
  reports : ∀ call, state.report call = reportOf (model.call call)

theorem counter_store (users : List (Option Int)) (cur next : Int) (limited : counter users id = some cur) :
    counter (storeCounter users id next) id = some next := by
  unfold counter storeCounter at *
  by_cases negative : id - 1 < 0
  · rw [if_pos negative] at limited
    cases limited
  · rw [if_neg negative] at limited ⊢
    have inside : (id - 1).toNat < users.length := by
      by_contra outside
      rw [List.getElem?_eq_none (Nat.le_of_not_lt outside)] at limited
      cases limited
    rw [List.getElem?_set_self inside, Option.join_some]

theorem call_of_report (state : Reports ι) (model : CompareExchange.State ι Int)
    (simulates : Simulates id state model) (call : ι) :
    (state.report call = .called → model.call call = .called) ∧
      ∀ cur, state.report call = .exchanging cur → model.call call = .loaded cur := by
  rw [simulates.reports]
  cases model.call call with
  | called => simp [reportOf]
  | loaded seen => simp [reportOf]
  | returned result => simp [reportOf]

variable [DecidableEq ι]

inductive Reports.Step : Reports ι → Reports ι → Prop
  | turn (state : Reports ι) (call : ι) (users : List (Option Int)) (report : Report)
      (step : Report.Step id (debits call) state.users (state.report call) users report) :
      Step state ⟨users, Function.update state.report call report⟩

theorem update_reports (state : Reports ι) (model : CompareExchange.State ι Int) (simulates : Simulates id state model)
    (call : ι) (stage : CompareExchange.Call Int) (other : ι) :
    Function.update state.report call (reportOf stage) other = reportOf (Function.update model.call call stage other) := by
  by_cases same : other = call
  · rw [same, Function.update_self, Function.update_self]
  · rw [Function.update_of_ne same, Function.update_of_ne same, simulates.reports]

theorem step_simulates (state next : Reports ι) (step : Reports.Step id debits state next)
    (model : CompareExchange.State ι Int) (simulates : Simulates id state model) :
    ∃ after, CompareExchange.Step (debitNext debits) model after ∧ Simulates id next after := by
  obtain ⟨call, users, report, step⟩ := step
  have calls := call_of_report id state model simulates call
  have limited := simulates.counter
  generalize stage : state.report call = before at step
  cases step with
  | unlimited absent =>
      rw [absent] at limited
      cases limited
  | load cur read =>
      have same : cur = model.cell := Option.some.inj (read.symm.trans limited)
      refine ⟨_, .load model call (calls.1 stage), limited, fun other => ?_⟩
      rw [same]
      exact update_reports id state model simulates call (.loaded model.cell) other
  | exchange cur read =>
      have same : cur = model.cell := Option.some.inj (read.symm.trans limited)
      subst same
      refine ⟨_, .exchange model call (calls.2 _ stage), counter_store id state.users _ _ limited, fun other => ?_⟩
      exact update_reports id state model simulates call (.returned (debitNext debits call model.cell)) other
  | retry cur observed read =>
      have same : observed = model.cell := Option.some.inj (read.symm.trans limited)
      refine ⟨_, .retry model call cur (calls.2 _ stage), limited, fun other => ?_⟩
      rw [same]
      exact update_reports id state model simulates call (.loaded model.cell) other

abbrev Reports.Reaches (users : List (Option Int)) : Reports ι → Prop :=
  Relation.ReflTransGen (Reports.Step id debits) (startReports users)

theorem reached_simulates (users : List (Option Int)) (initial : Int) (limited : counter users id = some initial)
    (state : Reports ι) (reached : Reports.Reaches id debits users state) :
    ∃ model, CompareExchange.Reaches (debitNext debits) initial model ∧ Simulates id state model := by
  induction reached with
  | refl => exact ⟨CompareExchange.start initial, .refl, limited, fun _ => rfl⟩
  | tail _ step ih =>
      obtain ⟨model, reached, simulates⟩ := ih
      obtain ⟨after, turn, simulates⟩ := step_simulates id debits _ _ step model simulates
      exact ⟨after, reached.tail turn, simulates⟩

end Reports

section Order

variable {ι : Type} (debits : ι → Debit) (initial : Int)

def InRange (cur : Int) : Prop := 0 ≤ cur ∧ cur ≤ i64Max

theorem debit_next_bounds (call : ι) (cur : Int) (inRange : InRange cur) :
    InRange (debitNext debits call cur) ∧ debitNext debits call cur ≤ cur ∧
      i64Min ≤ cur - debits call ∧ cur - debits call ≤ i64Max := by
  obtain ⟨nonneg, bounded⟩ := inRange
  obtain ⟨low, high⟩ := (debits call).2
  unfold InRange debitNext nextRemaining
  unfold i64Max i64Min at *
  omega

theorem value_after_debits (order : List ι) (nonneg : 0 ≤ initial) :
    valueAfter (debitNext debits) initial order = max 0 (initial - (order.map fun call => (debits call).1).sum) := by
  induction order using List.reverseRecOn with
  | nil => simp [valueAfter, nonneg]
  | append_singleton earlier call ih =>
      have low := (debits call).2.1
      rw [CompareExchange.value_after_append, ih, debitNext, nextRemaining, List.map_append, List.sum_append, List.map_singleton,
        List.sum_singleton]
      omega

theorem debits_sum [Fintype ι] [DecidableEq ι] (order : List ι) (once : order.Nodup) (complete : ∀ call, call ∈ order) :
    (order.map fun call => (debits call).1).sum = ∑ call, (debits call).1 := by
  have everyone : order.toFinset = Finset.univ := Finset.eq_univ_iff_forall.mpr fun call => List.mem_toFinset.mpr (complete call)
  rw [← List.sum_toFinset _ once, everyone]

end Order

-- No subtraction overflows, the counter only falls, and in the end the calls were
-- made one after the other.
structure Linearized {ι : Type} [Fintype ι] [DecidableEq ι] (id : Int) (debits : ι → Debit)
    (initial : Int) (state : Reports ι) : Prop where
  remaining : ∃ cur, counter state.users id = some cur ∧ 0 ≤ cur ∧
    ∀ next, Reports.Step id debits state next → ∃ after, counter next.users id = some after ∧ after ≤ cur
  subtraction : ∀ call cur, state.report call = .exchanging cur →
    i64Min ≤ cur - debits call ∧ cur - debits call ≤ i64Max
  finished : (∀ call, ∃ reply, state.report call = .returned reply) →
    counter state.users id = some (max 0 (initial - ∑ call, (debits call).1)) ∧
      ∃ order : List ι, order.Nodup ∧ (∀ call, call ∈ order) ∧ ∀ before call after, order = before ++ call :: after →
        state.report call = .returned (some (valueAfter (debitNext debits) initial (before ++ [call])))

theorem concurrent_debits {ι : Type} [Fintype ι] [DecidableEq ι] (id : Int) (debits : ι → Debit) (users : List (Option Int))
    (initial : Int) (limited : counter users id = some initial) (inRange : InRange initial) (state : Reports ι)
    (reached : Reports.Reaches id debits users state) : Linearized id debits initial state := by
  obtain ⟨model, run, simulates⟩ := reached_simulates id debits users initial limited state reached
  have sound := CompareExchange.reached_sound (debitNext debits) InRange
    (fun call cur kept => (debit_next_bounds debits call cur kept).1) initial inRange model run
  have linear := CompareExchange.reached_linear (debitNext debits) initial model run
  refine ⟨⟨model.cell, simulates.counter, sound.cell.1, fun next step => ?_⟩, fun call cur exchanging => ?_, fun finished => ?_⟩
  · obtain ⟨after, turn, simulates⟩ := step_simulates id debits state next step model simulates
    refine ⟨after.cell, simulates.counter, ?_⟩
    rcases CompareExchange.step_cell (debitNext debits) model after turn with same | ⟨call, changed⟩
    · exact Int.le_of_eq same
    · rw [changed]
      exact (debit_next_bounds debits call model.cell sound.cell).2.1
  · have loaded := (call_of_report id state model simulates call).2 cur exchanging
    exact (debit_next_bounds debits call cur (sound.seen call cur loaded)).2.2
  · have returned : ∀ call, ∃ result, model.call call = .returned result := by
      intro call
      obtain ⟨reply, done⟩ := finished call
      rw [simulates.reports] at done
      cases stage : model.call call with
      | returned result => exact ⟨result, rfl⟩
      | called => simp [stage, reportOf] at done
      | loaded seen => simp [stage, reportOf] at done
    have complete := CompareExchange.linear_complete (debitNext debits) initial model linear returned
    refine ⟨?_, model.order, linear.once, complete, ?_⟩
    · rw [simulates.counter, linear.value, value_after_debits debits initial model.order inRange.1,
        debits_sum debits model.order linear.once complete]
    · intro before call after order
      obtain ⟨result, done⟩ := returned call
      have value := CompareExchange.linear_result (debitNext debits) initial model linear before after call order result done
      rw [simulates.reports, done, reportOf, value]

def racingDebits (call : Bool) : Debit := if call then ⟨4, by decide⟩ else ⟨8, by decide⟩

def racedReports : Reports Bool := ⟨[some 0], fun call => .returned (some (if call then 6 else 0))⟩

theorem reaches_turn {ι : Type} [DecidableEq ι] {id : Int} {debits : ι → Debit}
    {start users : List (Option Int)} {state : Reports ι}
    {report : Report} (run : Reports.Reaches id debits start state) (call : ι)
    (step : Report.Step id (debits call) state.users (state.report call) users report) :
    Reports.Reaches id debits start ⟨users, Function.update state.report call report⟩ :=
  run.tail (.turn state call users report step)

theorem racing_run : Reports.Reaches 1 racingDebits [some 10] racedReports := by
  have first : Reports.Reaches 1 racingDebits [some 10] _ := reaches_turn .refl true (.load [some 10] 10 rfl)
  have second := reaches_turn first false (.load [some 10] 10 rfl)
  have third := reaches_turn second true (.exchange [some 10] 10 rfl)
  have fourth := reaches_turn third false (.retry [some 6] 10 6 rfl)
  have fifth := reaches_turn fourth false (.exchange [some 6] 6 rfl)
  convert fifth using 1
  refine congrArg (Reports.mk [some 0]) (funext fun call => ?_)
  cases call <;> rfl

theorem concurrent_debits_race : Linearized 1 racingDebits 10 racedReports :=
  concurrent_debits 1 racingDebits [some 10] 10 (by decide) ⟨by decide, by decide⟩ racedReports racing_run

end Purroute
