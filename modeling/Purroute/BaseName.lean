import Purroute.Tokens

set_option autoImplicit false

namespace Purroute

def TokenRegion (region : Str) : Prop := ∃ (key : Key) (rest : Str), region = key.name ++ '-' :: rest

structure StableBase (username base : Str) : Prop where
  shape : username = base ∨ (∃ region, TokenRegion region ∧ username = base ++ '-' :: region) ∨ (base = [] ∧ TokenRegion username)
  again : parseUsername base = .ok (base, emptySelection)

section Base

theorem lookup_known (part : Str) (key : Key) (known : keys.lookup part = some key) : part = key.name := by
  obtain ⟨before, after, listed, _⟩ := List.lookup_eq_some_iff.mp known
  have member : (part, key) ∈ keys := listed ▸ List.mem_append_right before List.mem_cons_self
  obtain ⟨source, _, same⟩ := List.mem_map.mp member
  cases same
  rfl

theorem split_base_cases (parts : List Str) : splitBase parts = (parts, []) ∨
    ∃ front key value rest, parts = front ++ Key.name key :: value :: rest ∧ (∀ part ∈ front, keys.lookup part = none) ∧
      splitBase parts = (front, key.name :: value :: rest) := by
  induction parts with
  | nil => exact .inl rfl
  | cons part parts ih =>
      cases known : keys.lookup part with
      | none =>
          rw [split_base_cons part parts known]
          rcases ih with same | ⟨front, key, value, rest, rfl, free, stop⟩
          · rw [same]
            exact .inl rfl
          · rw [stop]
            exact .inr ⟨part :: front, key, value, rest, rfl, List.forall_mem_cons.mpr ⟨known, free⟩, rfl⟩
      | some key =>
          cases parts with
          | nil => exact .inl rfl
          | cons value rest =>
              have named := lookup_known part key known
              subst named
              exact .inr ⟨[], key, value, rest, rfl, List.forall_mem_nil _,
                split_base_stop [] rest key value (List.forall_mem_nil _)⟩

theorem split_base_whole (parts : List Str) : splitBase parts = (parts, []) ↔
    ∀ part ∈ parts.dropLast, keys.lookup part = none := by
  induction parts with
  | nil => exact iff_of_true rfl (List.forall_mem_nil _)
  | cons part parts ih =>
      cases parts with
      | nil => exact iff_of_true rfl (List.forall_mem_nil _)
      | cons next rest =>
          rw [List.dropLast_cons_cons, List.forall_mem_cons, ← ih]
          cases known : keys.lookup part with
          | none => simp [split_base_cons part (next :: rest) known, Prod.ext_iff]
          | some key => simp [splitBase, known]

theorem join_append (separator : Char) (front : List Str) (next : Str) (rest : List Str) (filled : front ≠ []) :
    join separator (front ++ next :: rest) = join separator front ++ separator :: join separator (next :: rest) := by
  induction front with
  | nil => exact absurd rfl filled
  | cons part front ih =>
      cases front with
      | nil =>
          have single : join separator [part] = part := by simp [join]
          rw [List.singleton_append, join_cons, single]
      | cons second front =>
          have behind := ih (List.cons_ne_nil _ _)
          rw [List.cons_append, List.cons_append, join_cons, ← List.cons_append, behind, join_cons, List.append_assoc]
          rfl

theorem parse_keyless (front : List Str) (dashFree : ∀ part ∈ front, '-' ∉ part)
    (free : ∀ part ∈ front, keys.lookup part = none) :
    parseUsername (join '-' front) = .ok (join '-' front, emptySelection) := by
  by_cases filled : front = []
  · subst filled
    rfl
  · have parts : (join '-' front).splitOn '-' = front := List.splitOn_intercalate '-' dashFree filled
    rw [parseUsername, parts, split_base_free front free]
    rfl

def baseName (username : Str) : Str := join '-' (splitBase (username.splitOn '-')).1

theorem parsed_base (username base : Str) (selection : Selection) (parsed : parseUsername username = .ok (base, selection)) :
    base = baseName username := by
  rw [parseUsername] at parsed
  cases tokens : parseTokens emptySelection (splitBase (username.splitOn '-')).2 with
  | error reason =>
      rw [tokens] at parsed
      cases parsed
  | ok yielded =>
      rw [tokens] at parsed
      cases parsed
      rfl

theorem base_name_stable (username base : Str) (selection : Selection) (parsed : parseUsername username = .ok (base, selection)) :
    StableBase username base := by
  have whole : join '-' (username.splitOn '-') = username := List.intercalate_splitOn '-'
  have dashFree : ∀ part ∈ username.splitOn '-', '-' ∉ part := fun part member => split_part_free '-' username part member
  have named := parsed_base username base selection parsed
  rcases split_base_cases (username.splitOn '-') with same | ⟨front, key, value, rest, cut, free, stop⟩
  · rw [baseName, same, whole] at named
    subst named
    refine ⟨.inl rfl, ?_⟩
    rw [parseUsername, same, whole]
    rfl
  · rw [baseName, stop] at named
    have region : TokenRegion (join '-' (key.name :: value :: rest)) := ⟨key, _, join_cons _ _ _ _⟩
    rw [cut] at whole dashFree
    subst named
    constructor
    case shape =>
      right
      by_cases filled : front = []
      · subst filled
        right
        refine ⟨rfl, ?_⟩
        rw [← whole]
        exact region
      · left
        refine ⟨_, region, ?_⟩
        rw [← whole]
        exact join_append '-' front key.name (value :: rest) filled
    case again => exact parse_keyless front (fun part member => dashFree part (List.mem_append_left _ member)) free

theorem dashed_base_stable : StableBase "my-cool-name-country-us" "my-cool-name" :=
  base_name_stable "my-cool-name-country-us" "my-cool-name" { emptySelection with country := ["us".toList] } (by decide)

end Base

end Purroute
