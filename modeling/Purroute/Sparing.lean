import Purroute.Interaction

set_option autoImplicit false

namespace Interaction

namespace Program

variable {sig : Signature} {E A B : Type} {quiet : Event sig → Prop} {spared : E → Prop}

-- As long as its environment is quiet, the program fails with spared errors only.
def Spares (quiet : Event sig → Prop) (spared : E → Prop) : Program sig E A → Prop
  | .done _ => True
  | .fail error => spared error
  | .ask op next => ∀ reply, quiet ⟨op, reply⟩ → Spares quiet spared (next reply)

theorem spares_ofExcept (outcome : Except E A) (fine : ∀ error, outcome = .error error → spared error) :
    Spares quiet spared (ofExcept outcome : Program sig E A) := by
  cases outcome with
  | ok value => trivial
  | error error => exact fine error rfl

theorem spares_bind (first : Program sig E A) (next : A → Program sig E B) (head : Spares quiet spared first)
    (tail : ∀ value, Spares quiet spared (next value)) : Spares quiet spared (first.bind next) := by
  induction first with
  | done value => exact tail value
  | fail error => exact head
  | ask op body ih => exact fun reply calm => ih reply (head reply calm)

theorem spares_reaches (start rest : Program sig E A) (trace : History sig) (spares : Spares quiet spared start)
    (calm : ∀ event ∈ trace, quiet event) (reached : Reaches start trace rest) : Spares quiet spared rest := by
  induction reached with
  | here program => exact spares
  | step op next reply trace rest later ih =>
      rw [List.forall_mem_cons] at calm
      exact ih (spares reply calm.1) calm.2

theorem spares_passes (first : Program sig E A) (next : A → Program sig E B) (trace : History sig) (error : E)
    (spares : Spares quiet spared first) (calm : ∀ event ∈ trace, quiet event) (never : ¬ spared error)
    (reached : Reaches (first.bind next) trace (.fail error)) :
    ∃ value before after, trace = before ++ after ∧ Runs first before (.ok value) ∧ Reaches (next value) after (.fail error) := by
  rcases reaches_bind first next trace _ reached with ⟨middle, part, same⟩ | later
  · have kept := spares_reaches first middle trace spares calm part
    cases middle with
    | done value => exact ⟨value, trace, [], (List.append_nil trace).symm, part, same ▸ .here _⟩
    | fail other =>
        cases same
        exact absurd kept never
    | ask op body => cases same
  · exact later

end Program

end Interaction
