import Mathlib.Algebra.BigOperators.Group.List.Basic
import Mathlib.Algebra.Order.Monoid.Canonical.Defs
import Mathlib.Algebra.Order.Monoid.Prod
import Purroute.Interaction

set_option autoImplicit false

namespace Interaction.Program

section Costs

variable {sig : Signature} {E F A B : Type} {M : Type} [AddCommMonoid M] [PartialOrder M]
    [IsOrderedAddMonoid M] [CanonicallyOrderedAdd M]
  (weight : sig.Op → M)

def costOf (trace : History sig) : M := (trace.map fun event => weight event.1).sum

-- Whatever a program is answered, what it asks for weighs no more than the bound.
def Costs (bound : M) (program : Program sig E A) : Prop := ∀ trace rest, Reaches program trace rest → costOf weight trace ≤ bound

omit [PartialOrder M] [IsOrderedAddMonoid M] [CanonicallyOrderedAdd M] in
theorem cost_append (before after : History sig) :
    costOf weight (before ++ after) = costOf weight before + costOf weight after := by
  rw [costOf, List.map_append, List.sum_append, costOf, costOf]

omit [IsOrderedAddMonoid M] [CanonicallyOrderedAdd M] in
theorem costs_mono (bound wider : M) (fits : bound ≤ wider) (program : Program sig E A) (costs : Costs weight bound program) :
    Costs weight wider program :=
  fun trace rest reached => (costs trace rest reached).trans fits

omit [IsOrderedAddMonoid M] in
theorem costs_done (bound : M) (value : A) : Costs weight bound (.done value : Program sig E A) := by
  intro trace rest reached
  rw [(reaches_done value trace rest reached).1]
  exact zero_le

omit [IsOrderedAddMonoid M] in
theorem costs_fail (bound : M) (error : E) : Costs weight bound (.fail error : Program sig E A) := by
  intro trace rest reached
  rw [(reaches_fail error trace rest reached).1]
  exact zero_le

omit [IsOrderedAddMonoid M] in
theorem costs_ofExcept (bound : M) (outcome : Except E A) : Costs weight bound (ofExcept outcome : Program sig E A) := by
  cases outcome with
  | ok value => exact costs_done weight bound value
  | error error => exact costs_fail weight bound error

theorem costs_ask (bound more : M) (op : sig.Op) (next : sig.Reply op → Program sig E A) (fits : weight op + more ≤ bound)
    (tail : ∀ reply, Costs weight more (next reply)) : Costs weight bound (.ask op next) := by
  intro trace rest reached
  rcases reaches_ask op next trace rest reached with ⟨rfl, _⟩ | ⟨reply, later, rfl, behind⟩
  · exact zero_le
  · have whole : costOf weight (⟨op, reply⟩ :: later) = weight op + costOf weight later := rfl
    rw [whole]
    exact (add_le_add_right (tail reply later rest behind) _).trans fits

theorem costs_bind_runs (head more bound : M) (fits : head + more ≤ bound) (first : Program sig E A) (next : A → Program sig E B)
    (costs : Costs weight head first) (tail : ∀ value trace, Runs first trace (.ok value) → Costs weight more (next value)) :
    Costs weight bound (first.bind next) := by
  intro trace rest reached
  rcases reaches_bind first next trace rest reached with ⟨middle, part, _⟩ | ⟨value, before, after, rfl, run, behind⟩
  · exact (costs trace middle part).trans (le_self_add.trans fits)
  · rw [cost_append]
    exact (add_le_add (costs before _ run) (tail value before run after rest behind)).trans fits

theorem costs_bind (head more bound : M) (fits : head + more ≤ bound) (first : Program sig E A) (next : A → Program sig E B)
    (costs : Costs weight head first) (tail : ∀ value, Costs weight more (next value)) : Costs weight bound (first.bind next) :=
  costs_bind_runs weight head more bound fits first next costs fun value _ _ => tail value

omit [IsOrderedAddMonoid M] [CanonicallyOrderedAdd M] in
theorem costs_attempt (bound : M) (body : Program sig E A) (costs : Costs weight bound body) :
    Costs weight bound (body.attempt : Program sig F (Except E A)) := by
  intro trace rest reached
  obtain ⟨middle, part, _⟩ := reaches_attempt body trace rest reached
  exact costs trace middle part

end Costs

end Interaction.Program
