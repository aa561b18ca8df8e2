import Purroute.Config

set_option autoImplicit false

namespace Purroute

inductive Key where
  | country
  | state
  | city
  | isp
  | type
  | session
  | chain
deriving DecidableEq, Repr

def Key.name : Key → Str
  | .country => "country"
  | .state => "state"
  | .city => "city"
  | .isp => "isp"
  | .type => "type"
  | .session => "session"
  | .chain => "chain"

def keys : List (Str × Key) :=
  [.country, .state, .city, .isp, .type, .session, .chain].map fun key => (key.name, key)

structure Selection where
  country : List Str
  state : List Str
  city : List Str
  isp : List Str
  kind : List Str
  session : Option Str
  chain : Option Str
deriving DecidableEq, Repr

def emptySelection : Selection := ⟨[], [], [], [], [], none, none⟩

inductive RoutingError where
  | unknownKey (key : Str)
deriving DecidableEq, Repr

def isEmpty (selection : Selection) : Bool :=
  selection.country.isEmpty && selection.state.isEmpty && selection.city.isEmpty && selection.isp.isEmpty &&
    selection.kind.isEmpty && selection.session.isNone && selection.chain.isNone

def onlySession (selection : Selection) : Bool :=
  selection.country.isEmpty && selection.state.isEmpty && selection.city.isEmpty && selection.isp.isEmpty &&
    selection.kind.isEmpty

def eqIgnoreAsciiCase (left right : Str) : Bool := left.map Char.toLower == right.map Char.toLower

def dimOk (wanted : List Str) (tag : Option Str) : Bool :=
  if wanted.isEmpty then true
  else
    match tag with
    | some value => wanted.any fun w => eqIgnoreAsciiCase w value
    | none => false

def templated (prefixes : Option Prefixes) (key : Key) : Bool :=
  match prefixes with
  | some map => (map.lookup key.name).isSome
  | none => false

def matchesUpstream (selection : Selection) (tags : Tags) (prefixes : Option Prefixes) : Bool :=
  (templated prefixes .country || dimOk selection.country tags.country) &&
    (templated prefixes .state || dimOk selection.state tags.state) &&
    (templated prefixes .city || dimOk selection.city tags.city) &&
    (templated prefixes .isp || dimOk selection.isp tags.isp) &&
    dimOk selection.kind tags.kind

def join (separator : Char) (parts : List Str) : Str := [separator].intercalate parts

-- The base name ends at the first key that has a following part.
def splitBase : List Str → List Str × List Str
  | [] => ([], [])
  | [part] => ([part], [])
  | part :: next :: rest =>
      if (keys.lookup part).isSome then ([], part :: next :: rest)
      else (part :: (splitBase (next :: rest)).1, (splitBase (next :: rest)).2)

def nonEmpty (value : Str) : Option Str := if value = [] then none else some value

def assign (selection : Selection) (key : Key) (value : Str) : Selection :=
  let set := (value.splitOn ',').filter (· ≠ [])
  match key with
  | .country => { selection with country := set }
  | .state => { selection with state := set }
  | .city => { selection with city := set }
  | .isp => { selection with isp := set }
  | .type => { selection with kind := set }
  | .session => { selection with session := nonEmpty value }
  | .chain => selection

-- The token region, two parts at a time. A chain name takes all that is left.
def parseTokens : Selection → List Str → Except RoutingError Selection
  | selection, [] => .ok selection
  | selection, [key] =>
      match keys.lookup key with
      | none => .error (.unknownKey key)
      | some .chain => .ok { selection with chain := none }
      | some known => .ok (assign selection known [])
  | selection, key :: value :: rest =>
      match keys.lookup key with
      | none => .error (.unknownKey key)
      | some .chain => .ok { selection with chain := nonEmpty (join '-' (value :: rest)) }
      | some known => parseTokens (assign selection known value) rest

def parseUsername (username : Str) : Except RoutingError (Str × Selection) :=
  let parts := splitBase (username.splitOn '-')
  (parseTokens emptySelection parts.2).map fun selection => (join '-' parts.1, selection)

def fnvStep (hash : UInt64) (byte : UInt8) : UInt64 := (hash ^^^ byte.toUInt64) * 0x00000100000001b3
def fnv1a (text : Str) : UInt64 := (utf8 text).foldl fnvStep 0xcbf29ce484222325

-- `draw` is what the generator yields.
def pickIndex (len : Nat) (session : Option Str) (draw : Nat) : Option Nat :=
  if len = 0 then none
  else
    match session with
    | some s => some ((fnv1a s).toNat % len)
    | none => some (draw % len)

def segment (prefixes : Prefixes) (key : Key) (values : List Str) (session : Option Str) (draw : Nat) : Str :=
  match pickIndex values.length session draw with
  | none => []
  | some i =>
      match prefixes.lookup key.name with
      | none => []
      | some pfx => pfx ++ values.getD i []

def sessionSegment (prefixes : Prefixes) (session : Option Str) : Str :=
  match session with
  | none => []
  | some s =>
      match prefixes.lookup Key.session.name with
      | none => []
      | some pfx => pfx ++ s

def buildUsername (base : Str) (prefixes : Prefixes) (selection : Selection) (draw : Key → Nat) : Str :=
  base ++ segment prefixes .country selection.country selection.session (draw .country) ++
    segment prefixes .state selection.state selection.session (draw .state) ++
    segment prefixes .city selection.city selection.session (draw .city) ++
    segment prefixes .isp selection.isp selection.session (draw .isp) ++
    sessionSegment prefixes selection.session

theorem join_cons (separator : Char) (part next : Str) (more : List Str) :
    join separator (part :: next :: more) = part ++ separator :: join separator (next :: more) := by
  simp [join, List.intercalate]

theorem pick_index_none (len : Nat) (session : Option Str) (draw : Nat) :
    pickIndex len session draw = none ↔ len = 0 := by
  unfold pickIndex
  by_cases empty : len = 0
  · simp [empty]
  · cases session <;> simp [empty]

theorem pick_index_lt (len : Nat) (session : Option Str) (draw i : Nat) (picked : pickIndex len session draw = some i) :
    i < len := by
  unfold pickIndex at picked
  by_cases empty : len = 0
  · simp [empty] at picked
  · cases session with
    | none =>
        simp only [if_neg empty, Option.some.injEq] at picked
        exact picked ▸ Nat.mod_lt _ (Nat.pos_of_ne_zero empty)
    | some s =>
        simp only [if_neg empty, Option.some.injEq] at picked
        exact picked ▸ Nat.mod_lt _ (Nat.pos_of_ne_zero empty)

theorem pick_index_sticky (len : Nat) (s : Str) (first second : Nat) :
    pickIndex len (some s) first = pickIndex len (some s) second := rfl

theorem segment_some (prefixes : Prefixes) (key : Key) (values : List Str) (session : Option Str) (draw : Nat) (pfx : Str)
    (entry : prefixes.lookup key.name = some pfx) (constrained : values ≠ []) :
    ∃ value ∈ values, segment prefixes key values session draw = pfx ++ value := by
  cases picked : pickIndex values.length session draw with
  | none =>
      rw [pick_index_none] at picked
      exact absurd (List.length_eq_zero_iff.mp picked) constrained
  | some i =>
      have bound := pick_index_lt _ _ _ _ picked
      exact ⟨values[i], List.getElem_mem bound, by simp [segment, picked, entry, bound]⟩

theorem segment_cases (prefixes : Prefixes) (key : Key) (values : List Str) (session : Option Str) (draw : Nat) :
    segment prefixes key values session draw = [] ∨
      ∃ pfx, prefixes.lookup key.name = some pfx ∧ ∃ value ∈ values, segment prefixes key values session draw = pfx ++ value := by
  cases entry : prefixes.lookup key.name with
  | none =>
      left
      rw [segment]
      rw [entry]
      split <;> rfl
  | some pfx =>
      by_cases constrained : values = []
      · left
        simp [segment, constrained, pickIndex]
      · exact .inr ⟨pfx, rfl, segment_some prefixes key values session draw pfx entry constrained⟩

theorem dim_ok_iff (wanted : List Str) (tag : Option Str) :
    dimOk wanted tag = true ↔ wanted = [] ∨ ∃ value, tag = some value ∧ ∃ w ∈ wanted, eqIgnoreAsciiCase w value = true := by
  unfold dimOk
  by_cases empty : wanted = []
  · simp [empty]
  · cases tag <;> simp [empty]

example : parseUsername "u-country-us,de-city-nyc-session-ab12" =
    .ok ("u".toList, { emptySelection with
      country := ["us".toList, "de".toList], city := ["nyc".toList], session := some "ab12".toList }) := by decide
example : parseUsername "u-country-us-region-eu" = .error (.unknownKey "region".toList) := by decide

end Purroute
