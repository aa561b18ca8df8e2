import Mathlib.Data.List.Basic
import Mathlib.Data.List.Nodup
import Mathlib.Logic.Function.Basic
import Mathlib.Logic.Relation

set_option autoImplicit false

namespace CompareExchange

-- A call loads the shared cell once. Then it exchanges what it saw for its update
-- of that, until the exchange succeeds.
inductive Call (A : Type) where
  | called
  | loaded (seen : A)
  | returned (result : A)

-- `order` lists the calls whose exchange succeeded, the earliest first.
structure State (ι A : Type) where
  cell : A
  call : ι → Call A
  order : List ι

section Calls

variable {ι A : Type}

def start (cell : A) : State ι A := ⟨cell, fun _ => .called, []⟩

variable (update : ι → A → A)

def valueAfter (cell : A) (order : List ι) : A := order.foldl (fun value i => update i value) cell

structure Linear (cell : A) (state : State ι A) : Prop where
  value : state.cell = valueAfter update cell state.order
  once : state.order.Nodup
  pending : ∀ i, (∀ result, state.call i ≠ .returned result) → i ∉ state.order
  returned : ∀ i result, state.call i = .returned result →
    ∃ before after, state.order = before ++ i :: after ∧ result = valueAfter update cell (before ++ [i])

theorem value_after_append (cell : A) (order : List ι) (i : ι) :
    valueAfter update cell (order ++ [i]) = update i (valueAfter update cell order) := by
  rw [valueAfter, List.foldl_append, List.foldl_cons, List.foldl_nil, ← valueAfter]

theorem start_linear (cell : A) : Linear update cell (start cell : State ι A) where
  value := rfl
  once := List.nodup_nil
  pending := fun _ _ => List.not_mem_nil
  returned := fun i result same => by cases same

theorem linear_complete (cell : A) (state : State ι A) (linear : Linear update cell state)
    (finished : ∀ i, ∃ result, state.call i = .returned result) (i : ι) : i ∈ state.order := by
  obtain ⟨result, done⟩ := finished i
  obtain ⟨before, after, order, _⟩ := linear.returned i result done
  simp [order]

theorem linear_result (cell : A) (state : State ι A) (linear : Linear update cell state) (before after : List ι) (i : ι)
    (order : state.order = before ++ i :: after) (result : A) (done : state.call i = .returned result) :
    result = valueAfter update cell (before ++ [i]) := by
  obtain ⟨earlier, later, split, value⟩ := linear.returned i result done
  have once := linear.once
  rw [split, List.nodup_middle, List.nodup_cons, List.mem_append, not_or] at once
  rw [order] at split
  rw [(List.append_cons_inj_of_notMem once.1.1 once.1.2).mp split.symm |>.1] at value
  exact value

variable [DecidableEq ι]

def State.put (state : State ι A) (i : ι) (call : Call A) : State ι A := { state with call := Function.update state.call i call }

-- An exchange may fail because another one succeeded, or for no reason.
inductive Step : State ι A → State ι A → Prop
  | load (state : State ι A) (i : ι) (fresh : state.call i = .called) : Step state (state.put i (.loaded state.cell))
  | exchange (state : State ι A) (i : ι) (current : state.call i = .loaded state.cell) :
      Step state ⟨update i state.cell, Function.update state.call i (.returned (update i state.cell)), state.order ++ [i]⟩
  | retry (state : State ι A) (i : ι) (seen : A) (pending : state.call i = .loaded seen) :
      Step state (state.put i (.loaded state.cell))

abbrev Reaches (cell : A) : State ι A → Prop := Relation.ReflTransGen (Step update) (start cell)

theorem put_linear (cell : A) (state : State ι A) (i : ι) (seen : A) (working : ∀ result, state.call i ≠ .returned result)
    (linear : Linear update cell state) : Linear update cell (state.put i (.loaded seen)) where
  value := linear.value
  once := linear.once
  pending := by
    intro j unfinished
    by_cases same : j = i
    · exact same ▸ linear.pending i working
    · apply linear.pending j
      simpa [State.put, Function.update_of_ne same] using unfinished
  returned := by
    intro j result done
    by_cases same : j = i
    · simp [State.put, same] at done
    · apply linear.returned j result
      simpa [State.put, Function.update_of_ne same] using done

theorem exchange_linear (cell : A) (state : State ι A) (i : ι) (current : state.call i = .loaded state.cell)
    (linear : Linear update cell state) :
    Linear update cell ⟨update i state.cell, Function.update state.call i (.returned (update i state.cell)),
      state.order ++ [i]⟩ where
  value := by
    dsimp only
    rw [value_after_append, ← linear.value]
  once := by
    have absent := linear.pending i (by simp [current])
    rw [← List.concat_eq_append]
    exact linear.once.concat absent
  pending := by
    intro j unfinished
    by_cases same : j = i
    · simp [same] at unfinished
    · have earlier := linear.pending j (by simpa [Function.update_of_ne same] using unfinished)
      simp [earlier, same]
  returned := by
    intro j result done
    by_cases same : j = i
    · subst same
      simp only [Function.update_self, Call.returned.injEq] at done
      refine ⟨state.order, [], rfl, ?_⟩
      rw [value_after_append, ← linear.value, done]
    · obtain ⟨before, after, order, value⟩ := linear.returned j result (by simpa [Function.update_of_ne same] using done)
      exact ⟨before, after ++ [i], by simp [order], value⟩

theorem step_linear (cell : A) (state next : State ι A) (step : Step update state next) (linear : Linear update cell state) :
    Linear update cell next := by
  cases step with
  | load i fresh => exact put_linear update cell state i state.cell (by simp [fresh]) linear
  | exchange i current => exact exchange_linear update cell state i current linear
  | retry i seen pending => exact put_linear update cell state i state.cell (by simp [pending]) linear

theorem reached_linear (cell : A) (state : State ι A) (reached : Reaches update cell state) : Linear update cell state := by
  induction reached with
  | refl => exact start_linear update cell
  | tail _ step ih => exact step_linear update cell _ _ step ih

section Invariant

variable (keeps : A → Prop)

structure Sound (state : State ι A) : Prop where
  cell : keeps state.cell
  seen : ∀ i seen, state.call i = .loaded seen → keeps seen

theorem put_sound (state : State ι A) (i : ι) (sound : Sound keeps state) : Sound keeps (state.put i (.loaded state.cell)) where
  cell := sound.cell
  seen := by
    intro j seen loaded
    by_cases same : j = i
    · simp only [State.put, same, Function.update_self, Call.loaded.injEq] at loaded
      exact loaded ▸ sound.cell
    · exact sound.seen j seen (by simpa [State.put, Function.update_of_ne same] using loaded)

theorem step_sound (kept : ∀ i value, keeps value → keeps (update i value)) (state next : State ι A)
    (step : Step update state next) (sound : Sound keeps state) : Sound keeps next := by
  cases step with
  | load i fresh => exact put_sound keeps state i sound
  | retry i seen pending => exact put_sound keeps state i sound
  | exchange i current =>
      refine ⟨kept i state.cell sound.cell, fun j seen loaded => ?_⟩
      by_cases same : j = i
      · simp [same] at loaded
      · exact sound.seen j seen (by simpa [Function.update_of_ne same] using loaded)

theorem reached_sound (kept : ∀ i value, keeps value → keeps (update i value)) (cell : A)
    (initial : keeps cell) (state : State ι A) (reached : Reaches update cell state) : Sound keeps state := by
  induction reached with
  | refl => exact ⟨initial, fun i seen loaded => by cases loaded⟩
  | tail _ step ih => exact step_sound update keeps kept _ _ step ih

end Invariant

theorem step_cell (state next : State ι A) (step : Step update state next) :
    next.cell = state.cell ∨ ∃ i, next.cell = update i state.cell := by
  cases step with
  | load i fresh => exact .inl rfl
  | retry i seen pending => exact .inl rfl
  | exchange i current => exact .inr ⟨i, rfl⟩

end Calls

end CompareExchange
