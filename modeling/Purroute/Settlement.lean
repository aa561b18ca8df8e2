import Purroute.Interaction

set_option autoImplicit false

-- Programs that settle an account once, and once more for each answer that
-- charges it.
namespace Interaction.Program

variable {sig : Signature} {E A B : Type} (settles charges : Event sig → Bool)

def Clear (past : History sig) : Prop := past.countP settles = 0 ∧ past.countP charges = 0

def MaySettle (past : History sig) (op : sig.Op) : Prop :=
  ∀ reply : sig.Reply op, settles ⟨op, reply⟩ = true → past.countP settles ≤ past.countP charges

-- A good end has settled the account, a failure still owes it.
def Settles (program : Program sig E A) : Prop :=
  ∀ past, Clear settles charges past → Meets (MaySettle settles charges)
    (fun past _ => past.countP settles = 1 ∧ past.countP charges = 0)
    (fun past _ => past.countP settles = past.countP charges) past program

def Neutral (op : sig.Op) : Prop := ∀ reply : sig.Reply op, settles ⟨op, reply⟩ = false ∧ charges ⟨op, reply⟩ = false

theorem count_other (counted : Event sig → Bool) (past : History sig) (event : Event sig) (other : counted event = false) :
    (past ++ [event]).countP counted = past.countP counted := by
  rw [List.countP_append, List.countP_singleton, other]
  rfl

theorem count_one (counted : Event sig → Bool) (past : History sig) (event : Event sig) (one : counted event = true) :
    (past ++ [event]).countP counted = past.countP counted + 1 := by
  rw [List.countP_append, List.countP_singleton, one]
  rfl

theorem neutral_clear (past : History sig) (op : sig.Op) (reply : sig.Reply op) (neutral : Neutral settles charges op)
    (clear : Clear settles charges past) : Clear settles charges (past ++ [⟨op, reply⟩]) := by
  obtain ⟨kept, uncharged⟩ := neutral reply
  rw [Clear, count_other settles past _ kept, count_other charges past _ uncharged]
  exact clear

theorem neutral_may_settle (past : History sig) (op : sig.Op) (neutral : Neutral settles charges op) :
    MaySettle settles charges past op := by
  intro reply settling
  rw [(neutral reply).1] at settling
  cases settling

theorem settles_fail (error : E) : Settles settles charges (.fail error : Program sig E A) := by
  intro past clear
  exact clear.1.trans clear.2.symm

theorem settles_bind (first : Program sig E A) (next : A → Program sig E B) (neutral : Uses (Neutral settles charges) first)
    (tail : ∀ value, Settles settles charges (next value)) : Settles settles charges (first.bind next) := by
  intro past clear
  have head := meets_of_uses (Clear settles charges) (MaySettle settles charges) past first neutral clear
    (fun past op _ neutral => neutral_may_settle settles charges past op neutral)
    (fun past op reply clear neutral => neutral_clear settles charges past op reply neutral clear)
  refine meets_bind (fun past _ => Clear settles charges past) _ first next ?_ fun reached value clear => tail value reached clear
  exact meets_mono _ _ _ _ first (fun _ _ may => may) (fun _ _ ends => ends) (fun _ _ clear => clear.1.trans clear.2.symm) head

def Solvent (past : History sig) : Prop := past.countP settles ≤ 1 + past.countP charges

theorem solvent_event (past : History sig) (op : sig.Op) (reply : sig.Reply op) (may : MaySettle settles charges past op)
    (solvent : Solvent settles charges past) : Solvent settles charges (past ++ [⟨op, reply⟩]) := by
  have charged : past.countP charges ≤ List.countP charges (past ++ [⟨op, reply⟩]) := by
    rw [List.countP_append]
    exact Nat.le_add_right _ _
  cases settling : settles ⟨op, reply⟩ with
  | true =>
      have owed := may reply settling
      have one := count_one settles past ⟨op, reply⟩ settling
      unfold Solvent
      omega
  | false =>
      have kept := count_other settles past ⟨op, reply⟩ settling
      unfold Solvent at solvent ⊢
      omega

theorem solvent_reaches (ends : History sig → A → Prop) (fails : History sig → E → Prop) (start rest : Program sig E A)
    (past trace : History sig) (meets : Meets (MaySettle settles charges) ends fails past start)
    (reached : Reaches start trace rest)
    (solvent : Solvent settles charges past) : Solvent settles charges (past ++ trace) := by
  induction reached generalizing past with
  | here program => rwa [List.append_nil]
  | step op next reply trace rest later ih =>
      have tail := ih (past ++ [⟨op, reply⟩]) (meets.2 reply) (solvent_event settles charges past op reply meets.1 solvent)
      rwa [List.append_assoc] at tail

end Interaction.Program
