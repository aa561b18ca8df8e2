import Mathlib.Algebra.BigOperators.Group.List.Basic
import Mathlib.Data.List.Induction
import Mathlib.Tactic.Abel

set_option autoImplicit false

namespace Atomics

inductive Access (K G : Type) where
  | fetchAdd (cell : K) (amount : G)
  | load (cell : K)
  | swap (cell : K) (value : G)

section Cells

variable {K G : Type} [DecidableEq K] [AddCommGroup G]

def Access.cell : Access K G → K
  | .fetchAdd cell _ => cell
  | .load cell => cell
  | .swap cell _ => cell

def perform (cells : K → G) : Access K G → K → G
  | .fetchAdd cell amount => Function.update cells cell (cells cell + amount)
  | .load _ => cells
  | .swap cell value => Function.update cells cell value

-- Several threads access the cells, each access at once. What remains of the
-- threads is the order of all accesses, each with what it has found.
inductive Run (start : K → G) : List (Access K G × G) → (K → G) → Prop
  | nil : Run start [] start
  | append (log : List (Access K G × G)) (cells : K → G) (access : Access K G) (earlier : Run start log cells) :
      Run start (log ++ [(access, cells access.cell)]) (perform cells access)

def addedBy (cell : K) : Access K G × G → G
  | (.fetchAdd other amount, _) => if other = cell then amount else 0
  | _ => 0

def removedBy (cell : K) : Access K G × G → G
  | (.swap other value, found) => if other = cell then found - value else 0
  | _ => 0

def added (cell : K) (log : List (Access K G × G)) : G := (log.map (addedBy cell)).sum
def removed (cell : K) (log : List (Access K G × G)) : G := (log.map (removedBy cell)).sum

theorem added_nil (cell : K) : added cell ([] : List (Access K G × G)) = 0 := List.sum_nil
theorem removed_nil (cell : K) : removed cell ([] : List (Access K G × G)) = 0 := List.sum_nil

theorem added_append (cell : K) (log : List (Access K G × G)) (entry : Access K G × G) :
    added cell (log ++ [entry]) = added cell log + addedBy cell entry := by
  rw [added, List.map_append, List.sum_append, List.map_singleton, List.sum_singleton, added]

theorem removed_append (cell : K) (log : List (Access K G × G)) (entry : Access K G × G) :
    removed cell (log ++ [entry]) = removed cell log + removedBy cell entry := by
  rw [removed, List.map_append, List.sum_append, List.map_singleton, List.sum_singleton, removed]

theorem perform_conserves (cells : K → G) (access : Access K G) (cell : K) :
    perform cells access cell + removedBy cell (access, cells access.cell) =
      cells cell + addedBy cell (access, cells access.cell) := by
  cases access with
  | fetchAdd other amount =>
      by_cases same : other = cell
      · subst same
        simp [perform, removedBy, addedBy]
      · simp [perform, removedBy, addedBy, same, Function.update_of_ne (Ne.symm same)]
  | load other => simp [perform, removedBy, addedBy]
  | swap other value =>
      by_cases same : other = cell
      · subst same
        simp [perform, removedBy, addedBy, Access.cell]
      · simp [perform, removedBy, addedBy, same, Function.update_of_ne (Ne.symm same)]

theorem run_conserves (start cells : K → G) (log : List (Access K G × G)) (run : Run start log cells) (cell : K) :
    cells cell + removed cell log = start cell + added cell log := by
  induction run with
  | nil => rw [removed_nil, added_nil]
  | append log cells access _ ih =>
      rw [removed_append, added_append, ← add_assoc (start cell), ← ih]
      have step := perform_conserves cells access cell
      calc perform cells access cell + (removed cell log + removedBy cell (access, cells access.cell))
          = perform cells access cell + removedBy cell (access, cells access.cell) + removed cell log := by abel
        _ = cells cell + removed cell log + addedBy cell (access, cells access.cell) := by rw [step]; abel

structure CellReading (G : Type) where
  found : G
  left : G
  since : G

def CellReading.next (cell : K) (known : Option (CellReading G)) : Access K G × G → Option (CellReading G)
  | (.fetchAdd other amount, _) =>
      if other = cell then known.map fun reading => { reading with since := reading.since + amount } else known
  | (.load other, found) => if other = cell then some ⟨found, found, 0⟩ else known
  | (.swap other value, found) => if other = cell then some ⟨found, value, 0⟩ else known

def lastReading (cell : K) (log : List (Access K G × G)) : Option (CellReading G) := log.foldl (CellReading.next cell) none

theorem last_reading_append (cell : K) (log : List (Access K G × G)) (entry : Access K G × G) :
    lastReading cell (log ++ [entry]) = CellReading.next cell (lastReading cell log) entry := by
  rw [lastReading, List.foldl_concat, lastReading]

theorem run_reading (start cells : K → G) (log : List (Access K G × G)) (run : Run start log cells)
    (cell : K) (reading : CellReading G)
    (last : lastReading cell log = some reading) : cells cell = reading.left + reading.since := by
  induction run generalizing reading with
  | nil => cases last
  | append log cells access _ ih =>
      rw [last_reading_append] at last
      cases access with
      | fetchAdd other amount =>
          rw [CellReading.next] at last
          by_cases same : other = cell
          · subst same
            rw [if_pos rfl, Option.map_eq_some_iff] at last
            obtain ⟨earlier, known, rfl⟩ := last
            rw [perform, Function.update_self, ih earlier known, add_assoc]
          · rw [if_neg same] at last
            rw [perform, Function.update_of_ne (Ne.symm same)]
            exact ih reading last
      | load other =>
          rw [CellReading.next] at last
          by_cases same : other = cell
          · subst same
            rw [if_pos rfl, Option.some.injEq] at last
            subst last
            exact (add_zero _).symm
          · rw [if_neg same] at last
            exact ih reading last
      | swap other value =>
          rw [CellReading.next] at last
          by_cases same : other = cell
          · subst same
            rw [if_pos rfl, Option.some.injEq] at last
            subst last
            rw [perform, Function.update_self]
            exact (add_zero _).symm
          · rw [if_neg same] at last
            rw [perform, Function.update_of_ne (Ne.symm same)]
            exact ih reading last

def Unswapped (cell : K) (log : List (Access K G × G)) : Prop := ∀ value found, (.swap cell value, found) ∉ log

theorem unswapped_removed (cell : K) (log : List (Access K G × G)) (unswapped : Unswapped cell log) : removed cell log = 0 := by
  apply List.sum_eq_zero
  intro amount member
  obtain ⟨⟨access, found⟩, listed, rfl⟩ := List.mem_map.mp member
  cases access with
  | fetchAdd other amount => rfl
  | load other => rfl
  | swap other value =>
      rw [removedBy, if_neg]
      intro same
      exact unswapped value found (same ▸ listed)

theorem unswapped_left (cell : K) (log : List (Access K G × G)) (unswapped : Unswapped cell log) (reading : CellReading G)
    (last : lastReading cell log = some reading) : reading.left = reading.found := by
  induction log using List.reverseRecOn generalizing reading with
  | nil => cases last
  | append_singleton log entry ih =>
      have earlier : Unswapped cell log := fun value found member => unswapped value found (List.mem_append_left _ member)
      rw [last_reading_append] at last
      obtain ⟨access, found⟩ := entry
      cases access with
      | fetchAdd other amount =>
          rw [CellReading.next] at last
          split at last
          · obtain ⟨known, before, rfl⟩ := Option.map_eq_some_iff.mp last
            exact ih earlier known before
          · exact ih earlier reading last
      | load other =>
          rw [CellReading.next] at last
          split at last
          · cases last
            rfl
          · exact ih earlier reading last
      | swap other value =>
          rw [CellReading.next] at last
          split at last
          · rename_i same
            exact absurd (List.mem_append_right _ (List.mem_singleton.mpr rfl)) (same ▸ unswapped value found)
          · exact ih earlier reading last

end Cells

end Atomics
