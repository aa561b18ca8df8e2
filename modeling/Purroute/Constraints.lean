import Purroute.Assignments
import Purroute.BaseName

set_option autoImplicit false

namespace Purroute

open Assignments

def keyPositions : List Str → List (Str × Str)
  | [] => []
  | [key] => [(key, [])]
  | key :: value :: rest => if key = Key.chain.name then [(key, join '-' (value :: rest))] else (key, value) :: keyPositions rest

def keyTokens (username : Str) : List (Str × Str) := keyPositions (splitBase (username.splitOn '-')).2

def Constrained (selection : Selection) : Key → Prop
  | .country => selection.country ≠ []
  | .state => selection.state ≠ []
  | .city => selection.city ≠ []
  | .isp => selection.isp ≠ []
  | .type => selection.kind ≠ []
  | .session => selection.session ≠ none
  | .chain => selection.chain ≠ none

def Enforced (username : Str) : Prop :=
  ∀ base selection, parseUsername username = .ok (base, selection) → ∀ (key : Key) (value : Str),
    (key.name, value) ∈ keyTokens username → Constrained selection key

def Filled : Key → Str → Prop
  | .session, value => value ≠ []
  | .chain, value => value ≠ []
  | _, value => ∃ c ∈ value, c ≠ ','

def UnknownToken (username : Str) : Prop := ∃ token ∈ keyTokens username, ∀ key : Key, token.1 ≠ key.name

def LastFilled (username : Str) : Prop := ∀ (key : Key) (value : Str), Last (keyTokens username) key.name value → Filled key value

section Values

theorem non_empty_none (value : Str) : nonEmpty value ≠ none ↔ value ≠ [] := by
  rw [nonEmpty]
  split
  · exact iff_of_false (fun some => some rfl) (fun filled => filled ‹value = []›)
  · exact iff_of_true (Option.some_ne_none value) ‹¬ value = []›

theorem join_blank (parts : List Str) (blank : ∀ part ∈ parts, part = []) : ∀ c ∈ join ',' parts, c = ',' := by
  induction parts with
  | nil => exact List.forall_mem_nil _
  | cons part parts ih =>
      rw [List.forall_mem_cons] at blank
      obtain ⟨rfl, later⟩ := blank
      cases parts with
      | nil => exact List.forall_mem_nil _
      | cons next parts =>
          rw [join_cons, List.nil_append, List.forall_mem_cons]
          exact ⟨rfl, ih later⟩

theorem set_filled (value : Str) : (value.splitOn ',').filter (fun part => part ≠ []) ≠ [] ↔ ∃ c ∈ value, c ≠ ',' := by
  have whole : join ',' (value.splitOn ',') = value := List.intercalate_splitOn ','
  constructor
  · intro filled
    obtain ⟨part, member⟩ := List.exists_mem_of_ne_nil _ filled
    rw [List.mem_filter, decide_eq_true_eq] at member
    obtain ⟨c, inside⟩ := List.exists_mem_of_ne_nil part member.2
    exact ⟨c, split_part_mem ',' value part member.1 c inside⟩
  · intro solid empty
    obtain ⟨c, member, other⟩ := solid
    have blank : ∀ part ∈ value.splitOn ',', part = [] := by
      intro part inside
      simpa using List.filter_eq_nil_iff.mp empty part inside
    exact other (join_blank _ blank c (whole.symm ▸ member))

end Values

section Tokens

theorem name_injective (one other : Key) (same : one.name = other.name) : one = other := by
  have known := lookup_key_name one
  rw [same, lookup_key_name] at known
  exact (Option.some.inj known).symm

def Selection.take (selection : Selection) (key : Key) (value : Str) : Selection :=
  match key with
  | .chain => { selection with chain := nonEmpty value }
  | _ => assign selection key value

def Selection.write (selection : Selection) (token : Str × Str) : Selection :=
  match keys.lookup token.1 with
  | none => selection
  | some key => selection.take key token.2

theorem constrained_own (selection : Selection) (key : Key) (value : Str) :
    Constrained (selection.take key value) key ↔ Filled key value := by
  cases key with
  | session => exact non_empty_none value
  | chain => exact non_empty_none value
  | country | state | city | isp | type => exact set_filled value

theorem constrained_other (selection : Selection) (written key : Key) (value : Str) (other : key ≠ written) :
    Constrained (selection.take written value) key ↔ Constrained selection key := by
  cases written <;> cases key <;> first | exact Iff.rfl | exact absurd rfl other

def ByName (observed : Key → Prop) (name : Str) : Prop := ∃ key : Key, name = key.name ∧ observed key

theorem by_name_key (observed : Key → Prop) (key : Key) : ByName observed key.name ↔ observed key := by
  constructor
  · intro named
    obtain ⟨other, same, seen⟩ := named
    exact name_injective key other same ▸ seen
  · exact fun seen => ⟨key, rfl, seen⟩

theorem tokens_writing : Writing Selection.write (fun selection => ByName (Constrained selection))
    (fun name value => ByName (Filled · value) name) where
  own := by
    intro selection name value
    cases known : keys.lookup name with
    | none =>
        have foreign : ∀ observed, ¬ ByName observed name := by
          intro observed named
          obtain ⟨key, rfl, _⟩ := named
          rw [lookup_key_name] at known
          cases known
        exact iff_of_false (foreign _) (foreign _)
    | some key =>
        have named := lookup_known name key known
        subst named
        rw [by_name_key, by_name_key, Selection.write, known]
        exact constrained_own selection key value
  other := by
    intro selection written value cell different
    rw [Selection.write]
    cases known : keys.lookup written with
    | none => exact Iff.rfl
    | some key =>
        have named := lookup_known written key known
        subst named
        have apart : ∀ other : Key, cell = other.name → other ≠ key := fun other same equal => different (equal ▸ same)
        constructor
        · rintro ⟨other, same, seen⟩
          exact ⟨other, same, (constrained_other selection key other value (apart other same)).mp seen⟩
        · rintro ⟨other, same, seen⟩
          exact ⟨other, same, (constrained_other selection key other value (apart other same)).mpr seen⟩

theorem empty_unconstrained (key : Key) : ¬ Constrained emptySelection key := by
  cases key <;> exact fun constrained => constrained rfl

end Tokens

section Parsing

theorem parse_last_key (selection : Selection) (key : Key) : parseTokens selection [key.name] = .ok (selection.take key []) := by
  cases key <;> simp [parseTokens, lookup_key_name, Selection.take, nonEmpty]

theorem parse_next_key (selection : Selection) (key : Key) (value : Str) (rest : List Str) (other : key ≠ .chain) :
    parseTokens selection (key.name :: value :: rest) = parseTokens (selection.take key value) rest := by
  cases key <;> first | exact absurd rfl other | simp [parseTokens, lookup_key_name, Selection.take]

theorem parse_chain_key (selection : Selection) (value : Str) (rest : List Str) :
    parseTokens selection (Key.chain.name :: value :: rest) = .ok (selection.take .chain (join '-' (value :: rest))) := by
  simp [parseTokens, lookup_key_name, Selection.take]

theorem write_key (selection : Selection) (key : Key) (value : Str) :
    selection.write (key.name, value) = selection.take key value := by
  rw [Selection.write, lookup_key_name]

theorem parse_tokens_known (selection : Selection) (parts : List Str)
    (known : ∀ token ∈ keyPositions parts, ∃ key : Key, token.1 = key.name) :
    parseTokens selection parts = .ok ((keyPositions parts).foldl Selection.write selection) := by
  induction parts using keyPositions.induct generalizing selection with
  | case1 => rfl
  | case2 name =>
      obtain ⟨key, rfl⟩ := known _ List.mem_cons_self
      rw [parse_last_key, keyPositions, List.foldl_cons, write_key, List.foldl_nil]
  | case3 value rest =>
      rw [parse_chain_key, keyPositions, if_pos rfl, List.foldl_cons, write_key, List.foldl_nil]
  | case4 name value rest other ih =>
      rw [keyPositions, if_neg other] at known ⊢
      rw [List.forall_mem_cons] at known
      obtain ⟨⟨key, rfl⟩, later⟩ := known
      rw [parse_next_key selection key value rest fun same => other (congrArg Key.name same), List.foldl_cons, write_key]
      exact ih _ later

theorem foreign_lookup (name : Str) (foreign : ∀ key : Key, name ≠ key.name) : keys.lookup name = none := by
  cases known : keys.lookup name with
  | none => rfl
  | some key => exact absurd (lookup_known name key known) (foreign key)

theorem parse_tokens_unknown (selection : Selection) (parts : List Str)
    (unknown : ∃ token ∈ keyPositions parts, ∀ key : Key, token.1 ≠ key.name) :
    ∃ reason, parseTokens selection parts = .error reason := by
  obtain ⟨token, member, foreign⟩ := unknown
  induction parts using keyPositions.induct generalizing selection with
  | case1 => cases member
  | case2 name =>
      rw [keyPositions, List.mem_singleton] at member
      subst member
      rw [parseTokens, foreign_lookup name foreign]
      exact ⟨_, rfl⟩
  | case3 value rest =>
      rw [keyPositions, if_pos rfl, List.mem_singleton] at member
      subst member
      exact absurd rfl (foreign .chain)
  | case4 name value rest other ih =>
      rw [keyPositions, if_neg other, List.mem_cons] at member
      cases known : keys.lookup name with
      | none =>
          rw [parseTokens, known]
          exact ⟨_, rfl⟩
      | some key =>
          have named := lookup_known name key known
          subst named
          rw [parse_next_key selection key value rest fun same => other (congrArg Key.name same)]
          rcases member with rfl | later
          · exact absurd rfl (foreign key)
          · exact ih _ later

theorem parse_username_known (username : Str) (known : ¬ UnknownToken username) : parseUsername username =
    .ok (join '-' (splitBase (username.splitOn '-')).1, (keyTokens username).foldl Selection.write emptySelection) := by
  have all : ∀ token ∈ keyTokens username, ∃ key : Key, token.1 = key.name := by
    intro token member
    by_contra foreign
    exact known ⟨token, member, not_exists.mp foreign⟩
  rw [parseUsername, parse_tokens_known emptySelection _ all]
  rfl

theorem parse_username_unknown (username : Str) (unknown : UnknownToken username) :
    ∃ reason, parseUsername username = .error reason := by
  obtain ⟨reason, failed⟩ := parse_tokens_unknown emptySelection _ unknown
  rw [parseUsername, failed]
  exact ⟨reason, rfl⟩

end Parsing

-- The last occurrence of a key decides, and an empty value there opens its dimension again.
theorem constraints_enforced_iff (username : Str) : Enforced username ↔ UnknownToken username ∨ LastFilled username := by
  by_cases unknown : UnknownToken username
  · refine iff_of_true ?_ (.inl unknown)
    intro base selection parsed
    obtain ⟨reason, failed⟩ := parse_username_unknown username unknown
    rw [failed] at parsed
    cases parsed
  · have parsed := parse_username_known username unknown
    have written := written_hold_iff tokens_writing emptySelection (keyTokens username)
    constructor
    · intro enforced
      right
      intro key value last
      have held : ∀ token ∈ keyTokens username,
          ByName (Constrained ((keyTokens username).foldl Selection.write emptySelection)) token.1 := by
        intro token member
        by_contra foreign
        refine unknown ⟨token, member, fun other same => foreign ⟨other, same, ?_⟩⟩
        exact enforced _ _ parsed other token.2 (same ▸ member)
      exact (by_name_key (Filled · value) key).mp (written.mp held key.name value last)
    · intro condition base selection accepted key value member
      rw [parsed] at accepted
      cases accepted
      have lasting := condition.resolve_left unknown
      have filled : ∀ name text, Last (keyTokens username) name text → ByName (Filled · text) name := by
        intro name text last
        by_contra foreign
        refine unknown ⟨(name, text), last_mem _ name text last, fun other same => foreign ⟨other, same, ?_⟩⟩
        have same : name = other.name := same
        exact lasting other text (same ▸ last)
      exact (by_name_key _ key).mp (written.mpr filled (key.name, value) member)

-- `me-country-` is let through as `me`, with every country open.
theorem emptied_country_open : ¬ ∀ username, Enforced username := by
  intro enforced
  have parsed : parseUsername "me-country-" = .ok ("me".toList, emptySelection) := by decide
  exact enforced "me-country-" "me" emptySelection parsed .country [] (List.mem_singleton.mpr rfl) rfl

end Purroute
