import Mathlib.Data.List.Basic

set_option autoImplicit false

namespace Assignments

variable {K V S : Type}

def Last (writes : List (K × V)) (cell : K) (value : V) : Prop :=
  ∃ front back, writes = front ++ (cell, value) :: back ∧ ∀ entry ∈ back, entry.1 ≠ cell

theorem last_mem (writes : List (K × V)) (cell : K) (value : V) (last : Last writes cell value) : (cell, value) ∈ writes := by
  obtain ⟨front, back, rfl, _⟩ := last
  exact List.mem_append_right front List.mem_cons_self

theorem last_exists (writes : List (K × V)) (cell : K) (written : ∃ entry ∈ writes, entry.1 = cell) :
    ∃ value, Last writes cell value := by
  induction writes with
  | nil =>
      obtain ⟨_, member, _⟩ := written
      cases member
  | cons first writes ih =>
      by_cases later : ∃ entry ∈ writes, entry.1 = cell
      · obtain ⟨value, front, back, rfl, absent⟩ := ih later
        exact ⟨value, first :: front, back, rfl, absent⟩
      · have here : first.1 = cell := by
          obtain ⟨entry, member, same⟩ := written
          rcases List.mem_cons.mp member with rfl | behind
          · exact same
          · exact absurd ⟨entry, behind, same⟩ later
        refine ⟨first.2, [], writes, here ▸ rfl, ?_⟩
        exact fun entry member same => later ⟨entry, member, same⟩

structure Writing (write : S → K × V → S) (holds : S → K → Prop) (filled : K → V → Prop) : Prop where
  own : ∀ state cell value, holds (write state (cell, value)) cell ↔ filled cell value
  other : ∀ state written value cell, cell ≠ written → (holds (write state (written, value)) cell ↔ holds state cell)

section Folds

variable {write : S → K × V → S} {holds : S → K → Prop} {filled : K → V → Prop} (writing : Writing write holds filled) (start : S)
  (writes : List (K × V))

include writing

theorem holds_unwritten (cell : K) (absent : ∀ entry ∈ writes, entry.1 ≠ cell) :
    holds (writes.foldl write start) cell ↔ holds start cell := by
  induction writes generalizing start with
  | nil => exact Iff.rfl
  | cons first writes ih =>
      rw [List.forall_mem_cons] at absent
      rw [List.foldl_cons, ih _ absent.2]
      exact writing.other start first.1 first.2 cell (Ne.symm absent.1)

theorem holds_last (cell : K) (value : V) (last : Last writes cell value) :
    holds (writes.foldl write start) cell ↔ filled cell value := by
  obtain ⟨front, back, rfl, absent⟩ := last
  rw [List.foldl_append, List.foldl_cons, holds_unwritten writing _ back cell absent]
  exact writing.own _ cell value

theorem written_hold_iff : (∀ entry ∈ writes, holds (writes.foldl write start) entry.1) ↔
    ∀ cell value, Last writes cell value → filled cell value := by
  constructor
  · intro held cell value last
    exact (holds_last writing start writes cell value last).mp (held _ (last_mem writes cell value last))
  · intro lasting entry member
    obtain ⟨value, last⟩ := last_exists writes entry.1 ⟨entry, member, rfl⟩
    exact (holds_last writing start writes entry.1 value last).mpr (lasting entry.1 value last)

theorem none_holds_iff (empty : ∀ cell, ¬ holds start cell) : (∀ cell, ¬ holds (writes.foldl write start) cell) ↔
    ∀ cell value, Last writes cell value → ¬ filled cell value := by
  constructor
  · intro none cell value last held
    exact none cell ((holds_last writing start writes cell value last).mpr held)
  · intro lasting cell held
    by_cases written : ∃ entry ∈ writes, entry.1 = cell
    · obtain ⟨value, last⟩ := last_exists writes cell written
      exact lasting cell value last ((holds_last writing start writes cell value last).mp held)
    · have absent : ∀ entry ∈ writes, entry.1 ≠ cell := fun entry member same => written ⟨entry, member, same⟩
      exact empty cell ((holds_unwritten writing start writes cell absent).mp held)

end Folds

end Assignments
