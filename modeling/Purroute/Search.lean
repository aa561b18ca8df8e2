import Mathlib.Data.List.Infix

set_option autoImplicit false

namespace Search

variable {A : Type}

theorem prefix_other (needle rest : List A) (c : A) (absent : c ∉ needle) (starts : needle <+: c :: rest) : needle = [] := by
  rcases List.prefix_cons_iff.mp starts with empty | ⟨tail, rfl, _⟩
  · exact empty
  · exact absurd List.mem_cons_self absent

theorem infix_cons_other (needle rest : List A) (c : A) (absent : c ∉ needle) : needle <:+: c :: rest ↔ needle <:+: rest := by
  rw [List.infix_cons_iff]
  constructor
  · rintro (starts | later)
    · rw [prefix_other needle rest c absent starts]
      exact List.nil_infix
    · exact later
  · exact Or.inr

theorem infix_cut (needle left right : List A) (c : A) (absent : c ∉ needle) :
    needle <:+: left ++ c :: right ↔ needle <:+: left ∨ needle <:+: right := by
  rw [List.infix_append_iff_ne_nil, infix_cons_other needle right c absent]
  constructor
  · rintro (before | behind | ⟨first, second, _, filled, rfl, _, starts⟩)
    · exact Or.inl before
    · exact Or.inr behind
    · have other : c ∉ second := fun member => absent (List.mem_append_right _ member)
      exact absurd (prefix_other second right c other starts) filled
  · rintro (before | behind)
    · exact Or.inl before
    · exact Or.inr (Or.inl behind)

theorem infix_across (head tail left right : List A) (c : A) (front : c ∉ head) (first : c ∉ left) :
    head ++ c :: tail <:+: left ++ c :: right ↔ (head <:+ left ∧ tail <+: right) ∨ head ++ c :: tail <:+: right := by
  rw [List.infix_append_iff]
  constructor
  · rintro (before | behind | ⟨one, two, whole, ends, starts⟩)
    · exact absurd (before.subset (List.mem_append_right _ List.mem_cons_self)) first
    · rcases List.infix_cons_iff.mp behind with starts | later
      · cases head with
        | nil => exact Or.inl ⟨List.nil_suffix, (List.cons_prefix_cons.mp starts).2⟩
        | cons d head => exact absurd ((List.cons_prefix_cons.mp starts).1 ▸ List.mem_cons_self) front
      · exact Or.inr later
    · have solid : c ∉ one := fun member => first (ends.subset member)
      rcases List.append_eq_append_iff.mp whole with ⟨gap, rfl, cut⟩ | ⟨gap, rfl, rfl⟩
      · cases gap with
        | nil =>
            rw [List.append_nil] at solid ends
            rw [List.nil_append] at cut
            rw [← cut] at starts
            exact Or.inl ⟨ends, (List.cons_prefix_cons.mp starts).2⟩
        | cons d gap =>
            have same := (List.cons.inj cut).1
            exact absurd (List.mem_append_right head (same ▸ List.mem_cons_self)) solid
      · cases gap with
        | nil =>
            rw [List.append_nil]
            exact Or.inl ⟨ends, (List.cons_prefix_cons.mp starts).2⟩
        | cons d gap =>
            have same := (List.cons_prefix_cons.mp starts).1
            exact absurd (List.mem_append_right one (same ▸ List.mem_cons_self)) front
  · rintro (⟨ends, starts⟩ | behind)
    · exact Or.inr (Or.inr ⟨head, c :: tail, rfl, ends, List.cons_prefix_cons.mpr ⟨rfl, starts⟩⟩)
    · exact Or.inr (Or.inl (List.infix_cons behind))

theorem infix_parts (needle : List A) (parts : List (List A)) (c d : A) (absent : c ∉ needle)
    (other : d ∉ needle) (filled : needle ≠ []) :
    needle <:+: (parts.flatMap fun part => part ++ [c, d]) ↔ ∃ part ∈ parts, needle <:+: part := by
  induction parts with
  | nil => simp [filled]
  | cons part parts ih =>
      have spread : (part :: parts).flatMap (fun part => part ++ [c, d]) =
        part ++ c :: d :: parts.flatMap fun part => part ++ [c, d] := by
        rw [List.flatMap_cons, List.append_assoc]
        rfl
      rw [spread, infix_cut needle part _ c absent, infix_cons_other needle _ d other, ih, List.exists_mem_cons_iff]

def First (wanted : A → Prop) (items : List A) (item : A) : Prop :=
  ∃ before after, items = before ++ item :: after ∧ wanted item ∧ ∀ other ∈ before, ¬ wanted other

theorem find_first (wanted : A → Bool) (items : List A) (item : A) :
    items.find? wanted = some item ↔ First (fun other => wanted other = true) items item := by
  rw [List.find?_eq_some_iff_append]
  constructor
  · rintro ⟨found, before, after, cut, earlier⟩
    exact ⟨before, after, cut, found, fun other member => by simpa using earlier other member⟩
  · rintro ⟨before, after, cut, found, earlier⟩
    exact ⟨found, before, after, cut, fun other member => by simpa using earlier other member⟩

theorem first_iff (wanted same : A → Prop) (agree : ∀ item, wanted item ↔ same item) (items : List A) (item : A) :
    First wanted items item ↔ First same items item := by
  have equal : wanted = same := funext fun item => propext (agree item)
  rw [equal]

end Search
