import Purroute.Routing
import Mathlib.Data.List.Perm.Basic

set_option autoImplicit false

namespace Purroute

inductive Dimension where
  | country
  | state
  | city
  | isp
  | type
deriving DecidableEq, Repr

def Dimension.key : Dimension → Key
  | .country => .country
  | .state => .state
  | .city => .city
  | .isp => .isp
  | .type => .type

def Selection.values (selection : Selection) : Dimension → List Str
  | .country => selection.country
  | .state => selection.state
  | .city => selection.city
  | .isp => selection.isp
  | .type => selection.kind

structure ValueSet where
  values : List Str
  filled : values ≠ []
  plain : ∀ value ∈ values, value ≠ [] ∧ '-' ∉ value ∧ ',' ∉ value

structure SessionValue where
  text : Str
  filled : text ≠ []
  dashFree : '-' ∉ text

inductive Token where
  | set (dimension : Dimension) (values : ValueSet)
  | session (value : SessionValue)

def Token.key : Token → Key
  | .set dimension _ => dimension.key
  | .session _ => .session

def Token.value : Token → Str
  | .set _ values => join ',' values.values
  | .session value => value.text

def Token.text (token : Token) : Str := '-' :: (token.key.name ++ '-' :: token.value)

def chainText : Option Str → Str
  | none => []
  | some name => '-' :: (Key.chain.name ++ '-' :: name)

def spell (base : Str) (tokens : List Token) (chain : Option Str) : Str :=
  base ++ (tokens.flatMap Token.text ++ chainText chain)

def KeyFree (base : Str) : Prop := ∀ part ∈ base.splitOn '-', keys.lookup part = none

structure Holds (selection : Selection) (tokens : List Token) (chain : Option Str) : Prop where
  set : ∀ dimension values, .set dimension values ∈ tokens → selection.values dimension = values.values
  unset : ∀ dimension, (∀ values, .set dimension values ∉ tokens) → selection.values dimension = []
  session : ∀ value, .session value ∈ tokens → selection.session = some value.text
  sessionless : (∀ value, .session value ∉ tokens) → selection.session = none
  chain : selection.chain = chain

theorem selection_ext (left right : Selection) (values : ∀ dimension, left.values dimension = right.values dimension)
    (session : left.session = right.session) (chain : left.chain = right.chain) : left = right := by
  obtain ⟨_, _, _, _, _, _, _⟩ := left
  obtain ⟨_, _, _, _, _, _, _⟩ := right
  cases values .country
  cases values .state
  cases values .city
  cases values .isp
  cases values .type
  cases session
  cases chain
  rfl

theorem holds_unique (left right : Selection) (tokens : List Token) (chain : Option Str)
    (first : Holds left tokens chain) (second : Holds right tokens chain) : left = right := by
  apply selection_ext
  · intro dimension
    by_cases given : ∃ values, Token.set dimension values ∈ tokens
    · obtain ⟨values, member⟩ := given
      rw [first.set dimension values member, second.set dimension values member]
    · rw [not_exists] at given
      rw [first.unset dimension given, second.unset dimension given]
  · by_cases given : ∃ value, Token.session value ∈ tokens
    · obtain ⟨value, member⟩ := given
      rw [first.session value member, second.session value member]
    · rw [not_exists] at given
      rw [first.sessionless given, second.sessionless given]
  · rw [first.chain, second.chain]

theorem holds_perm (selection : Selection) (tokens other : List Token) (chain : Option Str) (order : tokens.Perm other)
    (holds : Holds selection tokens chain) : Holds selection other chain where
  set := fun dimension values member => holds.set dimension values (order.mem_iff.mpr member)
  unset := fun dimension absent => holds.unset dimension fun values member => absent values (order.mem_iff.mp member)
  session := fun value member => holds.session value (order.mem_iff.mpr member)
  sessionless := fun absent => holds.sessionless fun value member => absent value (order.mem_iff.mp member)
  chain := holds.chain

theorem lookup_key_name (key : Key) : keys.lookup key.name = some key := by
  cases key <;> decide

theorem dash_free_name (key : Key) : '-' ∉ key.name := by
  cases key <;> decide

theorem dash_free_join (values : List Str) (plain : ∀ value ∈ values, '-' ∉ value) : '-' ∉ join ',' values := by
  induction values with
  | nil => simp [join]
  | cons value values ih =>
      rw [List.forall_mem_cons] at plain
      cases values with
      | nil => simpa [join] using plain.1
      | cons next rest =>
          have later := ih plain.2
          simp only [join] at later ⊢
          rw [List.intercalate_cons_cons]
          simp [plain.1, later]

theorem dash_free_value (token : Token) : '-' ∉ token.value := by
  cases token with
  | set dimension values => exact dash_free_join values.values fun value member => (values.plain value member).2.1
  | session value => exact value.dashFree

theorem split_token (token : Token) : (token.key.name ++ '-' :: token.value).splitOn '-' = [token.key.name, token.value] := by
  rw [List.splitOn_append_cons_self_of_not_mem (dash_free_name token.key), List.splitOn_eq_singleton (dash_free_value token)]

def Token.parts (token : Token) : List Str := [token.key.name, token.value]

def chainParts : Option Str → List Str
  | none => []
  | some name => Key.chain.name :: name.splitOn '-'

theorem split_spell (base : Str) (tokens : List Token) (chain : Option Str) :
    (spell base tokens chain).splitOn '-' = base.splitOn '-' ++ (tokens.flatMap Token.parts ++ chainParts chain) := by
  induction tokens generalizing base with
  | nil =>
      cases chain with
      | none => simp [spell, chainText, chainParts]
      | some name =>
          simp only [spell, List.flatMap_nil, List.nil_append, chainText, chainParts, List.splitOn_append_cons_self,
            List.splitOn_append_cons_self_of_not_mem (dash_free_name .chain)]
  | cons token tokens ih =>
      have grouped : spell base (token :: tokens) chain = spell (base ++ token.text) tokens chain := by
        simp [spell, List.append_assoc]
      rw [grouped, ih, Token.text, List.splitOn_append_cons_self, split_token]
      simp [Token.parts, List.append_assoc]

theorem split_base_cons (part : Str) (parts : List Str) (free : keys.lookup part = none) :
    splitBase (part :: parts) = (part :: (splitBase parts).1, (splitBase parts).2) := by
  cases parts with
  | nil => rfl
  | cons next rest => rw [splitBase, free, Option.isSome_none, if_neg Bool.false_ne_true]

theorem split_base_free (parts : List Str) (free : ∀ part ∈ parts, keys.lookup part = none) : splitBase parts = (parts, []) := by
  induction parts with
  | nil => rfl
  | cons part parts ih =>
      rw [List.forall_mem_cons] at free
      rw [split_base_cons part parts free.1, ih free.2]

theorem split_base_stop (parts rest : List Str) (key : Key) (value : Str) (free : ∀ part ∈ parts, keys.lookup part = none) :
    splitBase (parts ++ key.name :: value :: rest) = (parts, key.name :: value :: rest) := by
  induction parts with
  | nil => simp only [List.nil_append, splitBase, lookup_key_name, Option.isSome_some, if_true]
  | cons part parts ih =>
      rw [List.forall_mem_cons] at free
      rw [List.cons_append, split_base_cons part _ free.1, ih free.2]

theorem split_base_spell (base : Str) (tokens : List Token) (chain : Option Str) (keyFree : KeyFree base) :
    splitBase ((spell base tokens chain).splitOn '-') =
      (base.splitOn '-', tokens.flatMap Token.parts ++ chainParts chain) := by
  rw [split_spell]
  cases tokens with
  | cons token tokens => exact split_base_stop _ _ token.key token.value keyFree
  | nil =>
      cases chain with
      | none => simpa [chainParts] using split_base_free _ keyFree
      | some name =>
          obtain ⟨first, rest, split⟩ := List.exists_cons_of_ne_nil (List.splitOn_ne_nil '-' name)
          rw [chainParts, split]
          exact split_base_stop _ rest .chain first keyFree

def Selection.put (selection : Selection) : Token → Selection
  | .set dimension values => assign selection dimension.key (join ',' values.values)
  | .session value => { selection with session := some value.text }

theorem split_values (values : ValueSet) :
    ((join ',' values.values).splitOn ',').filter (fun value => value ≠ []) = values.values := by
  rw [join, List.splitOn_intercalate ',' (fun value member => (values.plain value member).2.2) values.filled]
  exact List.filter_eq_self.mpr fun value member => by simpa using (values.plain value member).1

theorem parse_token (selection : Selection) (token : Token) (rest : List Str) :
    parseTokens selection (token.parts ++ rest) = parseTokens (selection.put token) rest := by
  cases token with
  | set dimension values =>
      cases dimension <;>
        simp [Token.parts, Token.key, Token.value, Dimension.key, Selection.put, parseTokens, lookup_key_name]
  | session value =>
      simp [Token.parts, Token.key, Token.value, Selection.put, parseTokens, lookup_key_name, assign, nonEmpty, value.filled]

theorem parse_chain (selection : Selection) (chain : Option Str) (named : chain ≠ some []) (unchained : selection.chain = none) :
    parseTokens selection (chainParts chain) = .ok { selection with chain := chain } := by
  cases chain with
  | none => rw [chainParts, parseTokens, ← unchained]
  | some name =>
      obtain ⟨first, rest, split⟩ := List.exists_cons_of_ne_nil (List.splitOn_ne_nil '-' name)
      have filled : name ≠ [] := fun empty => named (congrArg some empty)
      have whole : join '-' (first :: rest) = name := by rw [← split, join, List.intercalate_splitOn]
      simp only [chainParts, split, parseTokens, lookup_key_name, whole, nonEmpty, if_neg filled]

@[simp] theorem put_chain (selection : Selection) (token : Token) : (selection.put token).chain = selection.chain := by
  cases token with
  | set dimension values => cases dimension <;> rfl
  | session value => rfl

theorem parse_spelled (selection : Selection) (tokens : List Token) (chain : Option Str) (named : chain ≠ some [])
    (unchained : selection.chain = none) :
    parseTokens selection (tokens.flatMap Token.parts ++ chainParts chain) =
      .ok { tokens.foldl Selection.put selection with chain := chain } := by
  induction tokens generalizing selection with
  | nil => exact parse_chain selection chain named unchained
  | cons token tokens ih =>
      rw [List.flatMap_cons, List.append_assoc, parse_token, ih _ (by rw [put_chain, unchained]), List.foldl_cons]

theorem put_values (selection : Selection) (dimension : Dimension) (values : ValueSet) :
    (selection.put (.set dimension values)).values dimension = values.values := by
  cases dimension <;> exact split_values values

theorem put_frame (selection : Selection) (dimension : Dimension) (token : Token)
    (other : token.key ≠ dimension.key) : (selection.put token).values dimension = selection.values dimension := by
  cases token with
  | session value => cases dimension <;> rfl
  | set changed values =>
      cases changed <;> cases dimension <;> first | rfl | exact absurd rfl other

theorem fold_values (selection : Selection) (dimension : Dimension) (tokens : List Token)
    (absent : dimension.key ∉ tokens.map Token.key) :
    (tokens.foldl Selection.put selection).values dimension = selection.values dimension := by
  induction tokens generalizing selection with
  | nil => rfl
  | cons token tokens ih =>
      rw [List.map_cons, List.mem_cons, not_or] at absent
      rw [List.foldl_cons, ih _ absent.2, put_frame _ _ _ (Ne.symm absent.1)]

theorem fold_session (selection : Selection) (tokens : List Token) (absent : Key.session ∉ tokens.map Token.key) :
    (tokens.foldl Selection.put selection).session = selection.session := by
  induction tokens generalizing selection with
  | nil => rfl
  | cons token tokens ih =>
      rw [List.map_cons, List.mem_cons, not_or] at absent
      rw [List.foldl_cons, ih _ absent.2]
      cases token with
      | set dimension values => cases dimension <;> rfl
      | session value => exact absurd rfl absent.1

theorem distinct_split (token : Token) (tokens : List Token) (distinct : (tokens.map Token.key).Nodup) (member : token ∈ tokens) :
    ∃ before after, tokens = before ++ token :: after ∧ token.key ∉ after.map Token.key := by
  obtain ⟨before, after, rfl⟩ := List.append_of_mem member
  rw [List.map_append, List.map_cons] at distinct
  exact ⟨before, after, rfl, (List.nodup_cons.mp (List.nodup_append.mp distinct).2.1).1⟩

theorem key_absent (tokens : List Token) (dimension : Dimension) (absent : ∀ values, .set dimension values ∉ tokens) :
    dimension.key ∉ tokens.map Token.key := by
  intro present
  obtain ⟨token, member, same⟩ := List.mem_map.mp present
  cases token with
  | session value => cases dimension <;> cases same
  | set changed values =>
      have equal : changed = dimension := by cases changed <;> cases dimension <;> first | rfl | cases same
      exact absent values (equal ▸ member)

theorem session_absent (tokens : List Token) (absent : ∀ value, .session value ∉ tokens) :
    Key.session ∉ tokens.map Token.key := by
  intro present
  obtain ⟨token, member, same⟩ := List.mem_map.mp present
  cases token with
  | session value => exact absent value member
  | set changed values => cases changed <;> cases same

theorem fold_holds (tokens : List Token) (chain : Option Str) (distinct : (tokens.map Token.key).Nodup) :
    Holds { tokens.foldl Selection.put emptySelection with chain := chain } tokens chain where
  set := by
    intro dimension values member
    obtain ⟨before, after, rfl, absent⟩ := distinct_split _ tokens distinct member
    have kept : ((before ++ .set dimension values :: after).foldl Selection.put emptySelection).values dimension =
      values.values := by
      rw [List.foldl_append, List.foldl_cons, fold_values _ _ _ absent, put_values]
    cases dimension <;> exact kept
  unset := by
    intro dimension absent
    have kept := fold_values emptySelection dimension tokens (key_absent tokens dimension absent)
    cases dimension <;> exact kept
  session := by
    intro value member
    obtain ⟨before, after, rfl, absent⟩ := distinct_split _ tokens distinct member
    dsimp only
    rw [List.foldl_append, List.foldl_cons, fold_session _ _ absent, Selection.put]
  sessionless := fun absent => fold_session emptySelection tokens (session_absent tokens absent)
  chain := rfl

theorem parse_spell (base : Str) (tokens : List Token) (chain : Option Str) (keyFree : KeyFree base)
    (distinct : (tokens.map Token.key).Nodup) (named : chain ≠ some []) :
    ∃ selection, parseUsername (spell base tokens chain) = .ok (base, selection) ∧ Holds selection tokens chain := by
  have parsed := parse_spelled emptySelection tokens chain named rfl
  refine ⟨_, ?_, fold_holds tokens chain distinct⟩
  rw [parseUsername, split_base_spell base tokens chain keyFree]
  simp only [parsed, Except.map, join, List.intercalate_splitOn]

theorem parse_username_spelled (base : Str) (tokens : List Token) (chain : Option Str) (keyFree : KeyFree base)
    (distinct : (tokens.map Token.key).Nodup) (named : chain ≠ some []) :
    ∃ selection, parseUsername (spell base tokens chain) = .ok (base, selection) ∧ Holds selection tokens chain ∧
      ∀ other, tokens.Perm other → parseUsername (spell base other chain) = .ok (base, selection) := by
  obtain ⟨selection, parsed, holds⟩ := parse_spell base tokens chain keyFree distinct named
  refine ⟨selection, parsed, holds, fun other order => ?_⟩
  have otherDistinct : (other.map Token.key).Nodup := (order.map Token.key).nodup_iff.mp distinct
  obtain ⟨same, otherParsed, otherHolds⟩ := parse_spell base other chain keyFree otherDistinct named
  rw [otherParsed, holds_unique same selection other chain otherHolds (holds_perm _ _ _ _ order holds)]

def spelledTokens : List Token :=
  [.session ⟨"country".toList, by decide, by decide⟩, .set .country ⟨["us".toList, "de".toList], by decide, by decide⟩]

theorem parse_username_spelled_nested :
    ∃ selection, parseUsername "u-session-country-country-us,de-chain-local-exit" = .ok ("u".toList, selection) ∧
      Holds selection spelledTokens (some "local-exit".toList) ∧
      ∀ other, spelledTokens.Perm other → parseUsername (spell "u" other (some "local-exit".toList)) =
        .ok ("u".toList, selection) :=
  parse_username_spelled "u" spelledTokens (some "local-exit".toList) (by unfold KeyFree; decide) (by decide) (by decide)

section Gateway

structure Separable (selection : Selection) : Prop where
  values : ∀ dimension, ∀ value ∈ selection.values dimension, value ≠ [] ∧ '-' ∉ value ∧ ',' ∉ value
  session : ∀ value, selection.session = some value → value ≠ [] ∧ '-' ∉ value

theorem empty_separable : Separable emptySelection where
  values := fun dimension value member => by cases dimension <;> cases member
  session := fun value given => by cases given

theorem set_plain (text value : Str) (dashFree : '-' ∉ text)
    (member : value ∈ (text.splitOn ',').filter fun value => value ≠ []) : value ≠ [] ∧ '-' ∉ value ∧ ',' ∉ value := by
  rw [List.mem_filter, decide_eq_true_eq] at member
  refine ⟨member.2, fun dash => dashFree ?_, split_part_free ',' text value member.1⟩
  exact (split_part_mem ',' text value member.1 '-' dash).1

theorem assign_separable (selection : Selection) (key : Key) (value : Str) (dashFree : '-' ∉ value)
    (separable : Separable selection) : Separable (assign selection key value) := by
  have plain := fun element => set_plain value element dashFree
  cases key with
  | session =>
      refine ⟨fun dimension => separable.values dimension, fun text given => ?_⟩
      simp only [assign, nonEmpty] at given
      by_cases empty : value = []
      · simp [if_pos empty] at given
      · rw [if_neg empty, Option.some.injEq] at given
        exact given ▸ ⟨empty, dashFree⟩
  | chain => exact ⟨fun dimension => separable.values dimension, separable.session⟩
  | country | state | city | isp | type =>
      refine ⟨fun dimension => ?_, separable.session⟩
      have kept := separable.values dimension
      cases dimension <;> first | exact plain | exact kept

theorem chain_separable (selection : Selection) (chain : Option Str) (separable : Separable selection) :
    Separable { selection with chain := chain } :=
  ⟨fun dimension => separable.values dimension, separable.session⟩

theorem parse_tokens_separable (selection parsed : Selection) (parts : List Str) (dashFree : ∀ part ∈ parts, '-' ∉ part)
    (separable : Separable selection) (ok : parseTokens selection parts = .ok parsed) : Separable parsed := by
  induction selection, parts using parseTokens.induct with
  | case1 selection =>
      rw [parseTokens, Except.ok.injEq] at ok
      exact ok ▸ separable
  | case2 selection key unknown =>
      rw [parseTokens, unknown] at ok
      cases ok
  | case3 selection key chained =>
      rw [parseTokens, chained] at ok
      cases ok
      exact chain_separable selection none separable
  | case4 selection key known notChain found =>
      have assigned : parseTokens selection [key] = .ok (assign selection known []) := by
        cases known <;> first | exact absurd rfl notChain | simp [parseTokens, found]
      rw [assigned, Except.ok.injEq] at ok
      exact ok ▸ assign_separable selection known [] List.not_mem_nil separable
  | case5 selection key value rest unknown =>
      rw [parseTokens, unknown] at ok
      cases ok
  | case6 selection key value rest chained =>
      rw [parseTokens, chained] at ok
      cases ok
      exact chain_separable selection _ separable
  | case7 selection key value rest known notChain found ih =>
      have assigned : parseTokens selection (key :: value :: rest) = parseTokens (assign selection known value) rest := by
        cases known <;> first | exact absurd rfl notChain | simp [parseTokens, found]
      rw [assigned] at ok
      rw [List.forall_mem_cons, List.forall_mem_cons] at dashFree
      exact ih dashFree.2.2 (assign_separable selection known value dashFree.2.1 separable) ok

theorem split_base_append (parts : List Str) : (splitBase parts).1 ++ (splitBase parts).2 = parts := by
  induction parts with
  | nil => rfl
  | cons part parts ih =>
      by_cases free : keys.lookup part = none
      · rw [split_base_cons part parts free, List.cons_append, ih]
      · cases parts with
        | nil => rfl
        | cons next rest => rw [splitBase, if_pos (Option.isSome_iff_ne_none.mpr free), List.nil_append]

theorem parse_username_separable (username base : Str) (selection : Selection)
    (parsed : parseUsername username = .ok (base, selection)) : Separable selection := by
  have dashFree : ∀ part ∈ (splitBase (username.splitOn '-')).2, '-' ∉ part := by
    intro part member
    apply split_part_free '-' username part
    rw [← split_base_append (username.splitOn '-')]
    exact List.mem_append_right _ member
  rw [parseUsername] at parsed
  cases ok : parseTokens emptySelection (splitBase (username.splitOn '-')).2 with
  | error reason => simp [ok, Except.map] at parsed
  | ok yielded =>
      simp only [ok, Except.map, Except.ok.injEq, Prod.mk.injEq] at parsed
      exact parsed.2 ▸ parse_tokens_separable emptySelection yielded _ dashFree empty_separable ok

def Mirrors (prefixes : Prefixes) : Prop :=
  ∀ key ∈ [Key.country, .state, .city, .isp, .session], prefixes.lookup key.name = some ('-' :: (key.name ++ ['-']))

def Chosen (values yielded : List Str) : Prop := (values = [] ∧ yielded = []) ∨ ∃ value ∈ values, yielded = [value]

structure Spells (dimension : Dimension) (values : List Str) (text : Str) (tokens : List Token) : Prop where
  text : text = tokens.flatMap Token.text
  chosen : (values = [] ∧ tokens = []) ∨ ∃ set : ValueSet, Chosen values set.values ∧ tokens = [.set dimension set]

theorem segment_spells (prefixes : Prefixes) (dimension : Dimension) (values : List Str) (session : Option Str) (draw : Nat)
    (entry : prefixes.lookup dimension.key.name = some ('-' :: (dimension.key.name ++ ['-'])))
    (plain : ∀ value ∈ values, value ≠ [] ∧ '-' ∉ value ∧ ',' ∉ value) :
    ∃ tokens, Spells dimension values (segment prefixes dimension.key values session draw) tokens := by
  by_cases empty : values = []
  · exact ⟨[], by simp [segment, empty, pickIndex], .inl ⟨empty, rfl⟩⟩
  · obtain ⟨value, member, text⟩ := segment_some prefixes dimension.key values session draw _ entry empty
    have one : ∀ other ∈ [value], other ≠ [] ∧ '-' ∉ other ∧ ',' ∉ other := by
      simpa using plain value member
    refine ⟨[.set dimension ⟨[value], List.cons_ne_nil value [], one⟩], ?_, .inr ⟨_, .inr ⟨value, member, rfl⟩, rfl⟩⟩
    simp [text, Token.text, Token.key, Token.value, join, List.append_assoc]

theorem session_spells (prefixes : Prefixes) (selection : Selection) (mirrors : Mirrors prefixes)
    (separable : Separable selection) :
    ∃ tokens : List Token, sessionSegment prefixes selection.session = tokens.flatMap Token.text ∧
      ((selection.session = none ∧ tokens = []) ∨ ∃ value, selection.session = some value.text ∧ tokens = [.session value]) := by
  cases given : selection.session with
  | none => exact ⟨[], rfl, .inl ⟨rfl, rfl⟩⟩
  | some text =>
      obtain ⟨filled, dashFree⟩ := separable.session text given
      refine ⟨[.session ⟨text, filled, dashFree⟩], ?_, .inr ⟨_, rfl, rfl⟩⟩
      simp [sessionSegment, mirrors .session, Token.text, Token.key, Token.value, List.append_assoc]

def routed : List Dimension := [.country, .state, .city, .isp]

structure Built (selection : Selection) (tokens : Dimension → List Token) (session : List Token) : Prop where
  chosen : ∀ dimension ∈ routed, (selection.values dimension = [] ∧ tokens dimension = []) ∨
    ∃ set : ValueSet, Chosen (selection.values dimension) set.values ∧ tokens dimension = [.set dimension set]
  ending : (selection.session = none ∧ session = []) ∨
    ∃ value, selection.session = some value.text ∧ session = [.session value]

theorem build_spells (base : Str) (prefixes : Prefixes) (selection : Selection) (draw : Key → Nat) (mirrors : Mirrors prefixes)
    (separable : Separable selection) :
    ∃ (tokens : Dimension → List Token) (session : List Token), Built selection tokens session ∧
      buildUsername base prefixes selection draw = spell base (routed.flatMap tokens ++ session) none := by
  have spelled : ∀ dimension, ∃ tokens, dimension ∈ routed → Spells dimension (selection.values dimension)
      (segment prefixes dimension.key (selection.values dimension) selection.session (draw dimension.key)) tokens := by
    intro dimension
    by_cases inside : dimension ∈ routed
    · have entry : dimension.key ∈ [Key.country, .state, .city, .isp, .session] := by
        revert inside
        cases dimension <;> decide
      obtain ⟨tokens, spells⟩ := segment_spells prefixes dimension _ selection.session (draw dimension.key)
        (mirrors _ entry) (separable.values dimension)
      exact ⟨tokens, fun _ => spells⟩
    · exact ⟨[], fun present => absurd present inside⟩
  choose tokens spells using spelled
  obtain ⟨session, text, ending⟩ := session_spells prefixes selection mirrors separable
  refine ⟨tokens, session, ⟨fun dimension inside => (spells dimension inside).chosen, ending⟩, ?_⟩
  have country := (spells .country (by decide)).text
  have state := (spells .state (by decide)).text
  have city := (spells .city (by decide)).text
  have isp := (spells .isp (by decide)).text
  simp only [Selection.values, Dimension.key] at country state city isp
  simp [buildUsername, country, state, city, isp, text, spell, chainText, routed, List.append_assoc]

section Built

variable (selection : Selection) (tokens : Dimension → List Token) (session : List Token) (built : Built selection tokens session)

include built in
theorem built_keys (dimensions : List Dimension) (inside : ∀ dimension ∈ dimensions, dimension ∈ routed) :
    ((dimensions.flatMap tokens).map Token.key).Sublist (dimensions.map Dimension.key) := by
  induction dimensions with
  | nil => exact List.Sublist.refl []
  | cons dimension dimensions ih =>
      rw [List.forall_mem_cons] at inside
      have later := ih inside.2
      rw [List.flatMap_cons, List.map_append, List.map_cons]
      rcases built.chosen dimension inside.1 with ⟨_, absent⟩ | ⟨set, _, one⟩
      · rw [absent]
        exact later.cons dimension.key
      · rw [one]
        exact later.cons_cons dimension.key

include built in
theorem built_distinct : ((routed.flatMap tokens ++ session).map Token.key).Nodup := by
  have front := built_keys selection tokens session built routed fun _ inside => inside
  have back : (session.map Token.key).Sublist [Key.session] := by
    rcases built.ending with ⟨_, absent⟩ | ⟨value, _, one⟩
    · simp [absent]
    · simp [one, Token.key]
  rw [List.map_append]
  exact (front.append back).nodup (by decide)

include built in
theorem built_set (dimension : Dimension) (set : ValueSet) (member : .set dimension set ∈ routed.flatMap tokens ++ session) :
    dimension ∈ routed ∧ tokens dimension = [.set dimension set] := by
  rw [List.mem_append, List.mem_flatMap] at member
  rcases member with ⟨source, inside, member⟩ | member
  · rcases built.chosen source inside with ⟨_, absent⟩ | ⟨other, _, one⟩
    · rw [absent] at member
      cases member
    · rw [one, List.mem_singleton, Token.set.injEq] at member
      obtain ⟨rfl, rfl⟩ := member
      exact ⟨inside, one⟩
  · rcases built.ending with ⟨_, absent⟩ | ⟨value, _, one⟩
    · rw [absent] at member
      cases member
    · rw [one, List.mem_singleton] at member
      cases member

include built in
theorem built_session (value : SessionValue) (member : .session value ∈ routed.flatMap tokens ++ session) :
    .session value ∈ session := by
  rcases List.mem_append.mp member with front | back
  · obtain ⟨source, inside, front⟩ := List.mem_flatMap.mp front
    rcases built.chosen source inside with ⟨_, absent⟩ | ⟨other, _, one⟩
    · rw [absent] at front
      cases front
    · rw [one, List.mem_singleton] at front
      cases front
  · exact back

include built in
theorem built_holds (yielded : Selection) (holds : Holds yielded (routed.flatMap tokens ++ session) none) :
    (∀ dimension ∈ routed, Chosen (selection.values dimension) (yielded.values dimension)) ∧
      yielded.session = selection.session ∧ yielded.kind = [] ∧ yielded.chain = none := by
  refine ⟨fun dimension inside => ?_, ?_, ?_, holds.chain⟩
  · rcases built.chosen dimension inside with ⟨empty, absent⟩ | ⟨set, chosen, one⟩
    · refine .inl ⟨empty, holds.unset dimension fun set member => ?_⟩
      rw [(built_set selection tokens session built dimension set member).2] at absent
      cases absent
    · have member : Token.set dimension set ∈ routed.flatMap tokens ++ session := by
        rw [List.mem_append, List.mem_flatMap]
        exact .inl ⟨dimension, inside, by rw [one, List.mem_singleton]⟩
      rwa [holds.set dimension set member]
  · rcases built.ending with ⟨without, absent⟩ | ⟨value, given, one⟩
    · rw [without]
      apply holds.sessionless
      intro value member
      have inside := built_session selection tokens session built value member
      rw [absent] at inside
      cases inside
    · rw [given]
      apply holds.session
      rw [one]
      exact List.mem_append_right _ (List.mem_singleton_self _)
  · apply holds.unset .type
    intro set member
    have inside := (built_set selection tokens session built .type set member).1
    exact absurd inside (by decide)

end Built

theorem parse_built_username (base : Str) (prefixes : Prefixes) (mirrors : Mirrors prefixes) (keyFree : KeyFree base)
    (username name : Str) (selection : Selection) (parsed : parseUsername username = .ok (name, selection)) (draw : Key → Nat) :
    ∃ yielded, parseUsername (buildUsername base prefixes selection draw) = .ok (base, yielded) ∧
      (∀ dimension ∈ routed, Chosen (selection.values dimension) (yielded.values dimension)) ∧
      yielded.session = selection.session ∧ yielded.kind = [] ∧ yielded.chain = none := by
  have separable := parse_username_separable username name selection parsed
  obtain ⟨tokens, session, built, text⟩ := build_spells base prefixes selection draw mirrors separable
  have distinct := built_distinct selection tokens session built
  obtain ⟨yielded, ok, holds⟩ := parse_spell base (routed.flatMap tokens ++ session) none keyFree distinct (by simp)
  rw [text]
  exact ⟨yielded, ok, built_holds selection tokens session built yielded holds⟩

def mirrored : Prefixes :=
  [Key.country, .state, .city, .isp, .session].map fun key => (key.name, '-' :: (key.name ++ ['-']))

theorem parse_built_username_session : ∃ yielded,
    parseUsername (buildUsername "gw" mirrored
      { emptySelection with country := ["us".toList, "city".toList], session := some "a,b".toList } fun _ => 0) =
      .ok ("gw".toList, yielded) ∧
    (∀ dimension ∈ routed, Chosen (Selection.values
      { emptySelection with country := ["us".toList, "city".toList], session := some "a,b".toList } dimension)
      (yielded.values dimension)) ∧
    yielded.session = some "a,b".toList ∧ yielded.kind = [] ∧ yielded.chain = none :=
  parse_built_username "gw" mirrored (by intro key; cases key <;> decide) (by unfold KeyFree; decide)
    "me-country-us,city-session-a,b" "me" _ (by decide) fun _ => 0

end Gateway

end Purroute
