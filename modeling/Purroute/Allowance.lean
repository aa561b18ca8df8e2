import Mathlib.Algebra.BigOperators.Group.Finset.Piecewise
import Mathlib.Algebra.Order.BigOperators.Group.Finset
import Mathlib.Logic.Relation

set_option autoImplicit false

namespace Allowance

-- One allowance shared by many holders, each charged before it spends.
structure State (κ : Type) where
  remaining : Nat
  spent : Nat
  held : κ → Nat

variable {κ : Type}

def start (limit : Nat) : State κ := ⟨limit, 0, fun _ => 0⟩

inductive Step [DecidableEq κ] : State κ → State κ → Prop
  | grant (state : State κ) (holder : κ) (cost : Nat) (covered : cost < state.remaining) :
      Step state ⟨state.remaining - cost, state.spent, Function.update state.held holder cost⟩
  | refuse (state : State κ) (holder : κ) : Step state ⟨0, state.spent, Function.update state.held holder 0⟩
  | spend (state : State κ) (holder : κ) :
      Step state ⟨state.remaining, state.spent + state.held holder, Function.update state.held holder 0⟩
  | drop (state : State κ) (holder : κ) : Step state ⟨state.remaining, state.spent, Function.update state.held holder 0⟩

variable [Fintype κ]

structure Safe (limit : Nat) (state : State κ) : Prop where
  covered : state.spent + (∑ holder, state.held holder) + state.remaining ≤ limit
  strict : state.spent + (∑ holder, state.held holder) < limit

theorem start_safe (limit : Nat) (positive : 0 < limit) : Safe limit (start limit : State κ) := by
  have nothing : (∑ holder, (start limit : State κ).held holder) = 0 := Finset.sum_const_zero
  refine ⟨?_, ?_⟩
  · rw [nothing]
    exact Nat.le_of_eq (by simp only [start, Nat.zero_add])
  · rw [nothing, start]
    exact positive

theorem safe_spent (limit : Nat) (state : State κ) (safe : Safe limit state) :
    state.spent < limit ∧ state.spent + state.remaining ≤ limit := by
  obtain ⟨covered, strict⟩ := safe
  constructor <;> omega

variable [DecidableEq κ]

theorem sum_update (held : κ → Nat) (holder : κ) (cost : Nat) :
    (∑ other, Function.update held holder cost other) + held holder = (∑ other, held other) + cost := by
  have changed := Finset.sum_update_of_mem (Finset.mem_univ holder) held cost
  have kept := Finset.sum_erase_add Finset.univ held (Finset.mem_univ holder)
  rw [changed, ← kept, Finset.sdiff_singleton_eq_erase]
  omega

theorem step_safe (limit : Nat) (state next : State κ) (step : Step state next) (safe : Safe limit state) : Safe limit next := by
  obtain ⟨covered, strict⟩ := safe
  cases step with
  | grant holder cost enough =>
      have sum := sum_update state.held holder cost
      constructor <;> simp only <;> omega
  | refuse holder =>
      have sum := sum_update state.held holder 0
      constructor <;> simp only <;> omega
  | spend holder =>
      have sum := sum_update state.held holder 0
      constructor <;> simp only <;> omega
  | drop holder =>
      have sum := sum_update state.held holder 0
      constructor <;> simp only <;> omega

theorem run_safe (limit : Nat) (positive : 0 < limit) (state : State κ)
    (reached : Relation.ReflTransGen Step (start limit) state) : Safe limit state := by
  induction reached with
  | refl => exact start_safe limit positive
  | tail _ step ih => exact step_safe limit _ _ step ih

section Holders

variable {η : Type} [DecidableEq η]

structure SafeAmong (limit : Nat) (state : State η) : Prop where
  covered : ∀ holders : Finset η, state.spent + (∑ holder ∈ holders, state.held holder) + state.remaining ≤ limit
  strict : ∀ holders : Finset η, state.spent + (∑ holder ∈ holders, state.held holder) < limit

theorem sum_with (held : η → Nat) (holders : Finset η) (holder : η) :
    (∑ other ∈ insert holder holders, held other) = held holder + ∑ other ∈ holders.erase holder, held other := by
  rw [← Finset.insert_erase (Finset.mem_insert_self holder holders), Finset.sum_insert (Finset.notMem_erase _ _),
    Finset.erase_insert_eq_erase]

theorem sum_update_le (held : η → Nat) (holders : Finset η) (holder : η) (cost : Nat) :
    (∑ other ∈ holders, Function.update held holder cost other) ≤ cost + ∑ other ∈ holders.erase holder, held other := by
  have more : (∑ other ∈ holders, Function.update held holder cost other) ≤
      ∑ other ∈ insert holder holders, Function.update held holder cost other :=
    Finset.sum_le_sum_of_subset (Finset.subset_insert holder holders)
  have others : (∑ other ∈ holders.erase holder, Function.update held holder cost other) =
    ∑ other ∈ holders.erase holder, held other :=
    Finset.sum_congr rfl fun other member => Function.update_of_ne (Finset.ne_of_mem_erase member) cost held
  rwa [sum_with, Function.update_self, others] at more

theorem step_safe_among (limit : Nat) (state next : State η) (step : Step state next) (safe : SafeAmong limit state) :
    SafeAmong limit next := by
  -- What the others hold counts beside the holder that moves, looked at or not.
  have moved : ∀ (holders : Finset η) holder cost, ∃ others,
      (∑ other ∈ holders, Function.update state.held holder cost other) ≤ cost + others ∧
      state.spent + (state.held holder + others) + state.remaining ≤ limit ∧ state.spent + (state.held holder + others) < limit :=
    fun holders holder cost => ⟨∑ other ∈ holders.erase holder, state.held other, sum_update_le state.held holders holder cost,
      sum_with state.held holders holder ▸ safe.covered (insert holder holders),
      sum_with state.held holders holder ▸ safe.strict (insert holder holders)⟩
  cases step with
  | grant holder cost enough =>
      constructor <;> intro holders <;> obtain ⟨others, sum, covered, strict⟩ :=
        moved holders holder cost <;> dsimp only <;> omega
  | refuse holder =>
      constructor <;> intro holders <;> obtain ⟨others, sum, covered, strict⟩ := moved holders holder 0 <;> dsimp only <;> omega
  | spend holder =>
      constructor <;> intro holders <;> obtain ⟨others, sum, covered, strict⟩ := moved holders holder 0 <;> dsimp only <;> omega
  | drop holder =>
      constructor <;> intro holders <;> obtain ⟨others, sum, covered, strict⟩ := moved holders holder 0 <;> dsimp only <;> omega

theorem run_safe_among (limit : Nat) (positive : 0 < limit) (state : State η)
    (reached : Relation.ReflTransGen Step (start limit) state) : SafeAmong limit state := by
  induction reached with
  | refl =>
      refine ⟨fun holders => ?_, fun holders => ?_⟩
      · simp [start]
      · simpa [start] using positive
  | tail _ step ih => exact step_safe_among limit _ _ step ih

end Holders

end Allowance
