import Purroute.Accounts
import Purroute.Admission
import Purroute.Commands
import Purroute.Constraints

set_option autoImplicit false

namespace Purroute

open Assignments Interaction Interaction.Program

def Plain (username : Str) : Prop := ∀ part ∈ (username.splitOn '-').dropLast, ∀ key : Key, part ≠ key.name

def Idle (username : Str) : Prop :=
  ¬ UnknownToken username ∧ ∀ (key : Key) (value : Str), Last (keyTokens username) key.name value → ¬ Filled key value

section Names

variable (username : Str)

theorem plain_iff : Plain username ↔ splitBase (username.splitOn '-') = (username.splitOn '-', []) := by
  rw [split_base_whole]
  constructor
  · exact fun plain part member => foreign_lookup part (plain part member)
  · intro free part member key same
    have known := free part member
    rw [same, lookup_key_name] at known
    cases known

theorem plain_base (plain : Plain username) : baseName username = username := by
  rw [baseName, (plain_iff username).mp plain]
  exact List.intercalate_splitOn '-'

theorem plain_idle (plain : Plain username) : Idle username := by
  have empty : keyTokens username = [] := by rw [keyTokens, (plain_iff username).mp plain, keyPositions]
  constructor
  · intro unknown
    obtain ⟨token, member, _⟩ := unknown
    rw [empty] at member
    cases member
  · intro key value last
    have member := last_mem _ _ _ last
    rw [empty] at member
    cases member

theorem is_empty_iff (selection : Selection) : isEmpty selection = true ↔ ∀ key, ¬ Constrained selection key := by
  constructor
  · intro empty key
    simp only [isEmpty, Bool.and_eq_true, List.isEmpty_iff, Option.isNone_iff_eq_none] at empty
    cases key <;> simp only [Constrained, ne_eq, not_not, empty]
  · intro none
    simp only [isEmpty, Bool.and_eq_true, List.isEmpty_iff, Option.isNone_iff_eq_none]
    exact ⟨⟨⟨⟨⟨⟨not_not.mp (none .country), not_not.mp (none .state)⟩, not_not.mp (none .city)⟩, not_not.mp (none .isp)⟩,
      not_not.mp (none .type)⟩, not_not.mp (none .session)⟩, not_not.mp (none .chain)⟩

theorem idle_iff : Idle username ↔ ∃ base selection, parseUsername username = .ok (base, selection) ∧
    isEmpty selection = true := by
  by_cases unknown : UnknownToken username
  · obtain ⟨reason, failed⟩ := parse_username_unknown username unknown
    refine iff_of_false (fun idle => idle.1 unknown) ?_
    intro accepted
    obtain ⟨base, selection, parsed, _⟩ := accepted
    rw [failed] at parsed
    cases parsed
  · have parsed := parse_username_known username unknown
    have nothing : ∀ name, ¬ ByName (Constrained emptySelection) name := by
      intro name seen
      obtain ⟨key, _, constrained⟩ := seen
      exact empty_unconstrained key constrained
    have unwritten := none_holds_iff tokens_writing emptySelection (keyTokens username) nothing
    constructor
    · intro idle
      refine ⟨_, _, parsed, (is_empty_iff _).mpr fun key constrained => ?_⟩
      refine unwritten.mpr ?_ key.name ((by_name_key _ key).mpr constrained)
      intro name value last filled
      obtain ⟨other, rfl, said⟩ := filled
      exact idle.2 other value last said
    · intro accepted
      obtain ⟨base, selection, same, empty⟩ := accepted
      rw [parsed] at same
      cases same
      refine ⟨unknown, fun key value last said => ?_⟩
      refine unwritten.mp ?_ key.name value last ((by_name_key (Filled · value) key).mpr said)
      intro name seen
      obtain ⟨other, rfl, constrained⟩ := seen
      exact (is_empty_iff _).mp empty other constrained

end Names

theorem block_user {Net : Type} (texts : NetTexts Net) (blocks : List UserConfig) (users : List (StaticUser Net))
    (accepted : newBackend texts blocks = .ok users) (index : Nat) (block : UserConfig) (listed : blocks[index]? = some block) :
    ∃ user, users[index]? = some user ∧ Configured block user := by
  have configured := new_backend_configured texts blocks users accepted
  obtain ⟨inside, here⟩ := List.getElem?_eq_some_iff.mp listed
  have bound : index < users.length := configured.length_eq ▸ inside
  refine ⟨users[index], List.getElem?_eq_getElem bound, ?_⟩
  rw [← here]
  exact List.Forall₂.get configured inside bound

section Users

variable {Net : Type} (users : List (StaticUser Net)) (load : Nat → Int)

def Bears (username password : Str) (user : StaticUser Net) : Prop := user.username = username ∧ user.password = password

def HasLeft (index : Nat) (user : StaticUser Net) : Prop := user.remaining = none ∨ 0 < load index

theorem first_user_unique (wanted : StaticUser Net → Prop) (one other : Nat) (user another : StaticUser Net)
    (first : FirstUser users wanted one user) (second : FirstUser users wanted other another) : one = other ∧ user = another := by
  have same : one = other := by
    rcases Nat.lt_trichotomy one other with before | equal | behind
    · exact absurd first.2.1 (second.2.2 one before user first.1)
    · exact equal
    · exact absurd second.2.1 (first.2.2 other behind another second.1)
  subst same
  exact ⟨rfl, Option.some.inj (first.1.symm.trans second.1)⟩

theorem first_user_exists (wanted : StaticUser Net → Prop) (index : Nat) (user : StaticUser Net)
    (listed : users[index]? = some user)
    (matching : wanted user) : ∃ first ≤ index, ∃ earliest, FirstUser users wanted first earliest := by
  induction index using Nat.strong_induction_on generalizing user with
  | _ index ih =>
      by_cases before : ∃ earlier < index, ∃ other, users[earlier]? = some other ∧ wanted other
      · obtain ⟨earlier, less, other, found, same⟩ := before
        obtain ⟨first, bound, earliest⟩ := ih earlier less other found same
        exact ⟨first, by omega, earliest⟩
      · refine ⟨index, Nat.le_refl _, user, listed, matching, ?_⟩
        exact fun earlier less other found same => before ⟨earlier, less, other, found, same⟩

theorem bears_wanted (username password : Str) (user : StaticUser Net) :
    (user.username == username && constantTimeEq user.password password) = true ↔ Bears username password user := by
  rw [Bool.and_eq_true, beq_iff_eq, constant_time_eq_iff, Bears]

theorem static_authenticate_first (username password : Str) (account : Account) :
    staticAuthenticate users load username password = some account ↔
      ∃ first user, FirstUser users (Bears username password) first user ∧ account = accountFor load user first := by
  have found_first : ∀ user first,
    findUser users (fun user => user.username == username && constantTimeEq user.password password) =
      some (user, first) → FirstUser users (Bears username password) first user := by
    intro user first found
    have wanted := find_user_first users _ user first found
    simpa only [bears_wanted] using wanted
  rw [staticAuthenticate, Option.map_eq_some_iff]
  constructor
  · intro known
    obtain ⟨⟨user, first⟩, found, rfl⟩ := known
    exact ⟨first, user, found_first user first found, rfl⟩
  · intro known
    obtain ⟨first, user, earliest, rfl⟩ := known
    have listed : ∃ user ∈ users, (user.username == username && constantTimeEq user.password password) = true :=
      ⟨user, List.mem_of_getElem? earliest.1, (bears_wanted username password user).mpr earliest.2.1⟩
    obtain ⟨⟨other, place⟩, found⟩ := (find_user_exists users _).mpr listed
    obtain ⟨rfl, rfl⟩ := first_user_unique users _ _ _ _ _ (found_first other place found) earliest
    exact ⟨_, found, rfl⟩

theorem account_allowance (user : StaticUser Net) (index : Nat) :
    HasAllowance (accountFor load user index) ↔ HasLeft load index user := by
  rw [HasAllowance, HasLeft, accountFor]
  cases user.remaining with
  | none => exact iff_of_true (fun _ limited => by cases limited) (.inl rfl)
  | some cur => simp

end Users

-- The client offers a password in its greeting and presents these credentials,
-- all writes succeed, and the backend answers from its list.
structure LoginAttempt {Net : Type} (users : List (StaticUser Net)) (load : Nat → Int) (config : RouterConfig) (request : Bytes)
    (username password : Str) (surroundings : History → (op : Op) → op.Reply) : Prop where
  auth : config.auth = some true
  offers : Offers request 0x02
  writes : ∀ past bytes, surroundings past (.reply bytes) = .ok ()
  presents : ∀ past, ∃ short, surroundings past (.read 513) = .ok ⟨subNegotiation username password, short⟩
  backend : ∀ past base secret, surroundings past (.authenticate base secret) = .ok (staticAuthenticate users load base secret)

def Enters (surroundings : History → (op : Op) → op.Reply) (past : History) (stage : Router (Selection × Option Int)) : Prop :=
  ∃ selection id, (drive (answered surroundings) () past stage).outcome = .ok (selection, some id) ∧ isEmpty selection = true

-- The name is left as it is, and nobody before the user bears it with the same
-- password and has nothing left. Or else its tokens say nothing, and the user
-- that the login finds in front of them has the same password.
def Unhindered {Net : Type} (users : List (StaticUser Net)) (load : Nat → Int) (index : Nat) (username password : Str) : Prop :=
  (Plain username ∧ ∀ first < index, ∀ user, FirstUser users (Bears username password) first user → HasLeft load first user) ∨
    (Idle username ∧ ∃ first user, FirstUser users (Bears (baseName username) password) first user ∧ HasLeft load first user)

section Logins

variable (surroundings : History → (op : Op) → op.Reply) (past : History)

theorem failure_not_enters (failure : Failure) : ¬ Enters surroundings past (.fail failure) := by
  intro enters
  obtain ⟨_, _, ended, _⟩ := enters
  cases ended

theorem done_enters (selection : Selection) (id : Int) :
    Enters surroundings past (.done (selection, some id)) ↔ isEmpty selection = true := by
  constructor
  · intro enters
    obtain ⟨_, _, ended, empty⟩ := enters
    cases ended
    exact empty
  · exact fun empty => ⟨selection, id, rfl, empty⟩

theorem enters_ask (op : Op) (next : op.Reply → Router (Selection × Option Int)) : Enters surroundings past (.ask op next) ↔
    Enters surroundings (past ++ [⟨op, surroundings past op⟩]) (next (surroundings past op)) := Iff.rfl

theorem enters_write (bytes : Bytes) (next : Unit → Router (Selection × Option Int)) (outcome : Prop)
    (writes : ∀ past bytes, surroundings past (.reply bytes) = .ok ())
    (tail : ∀ later, Enters surroundings later (next ()) ↔ outcome) :
    Enters surroundings past ((clientWrite bytes).bind next) ↔ outcome := by
  change Enters surroundings past (.ask (.reply bytes) fun reply => (io reply).bind next) ↔ outcome
  rw [enters_ask, writes]
  exact tail _

variable {Net : Type} (users : List (StaticUser Net)) (load : Nat → Int) (config : RouterConfig) (request : Bytes)
  (username password : Str) (attempt : LoginAttempt users load config request username password surroundings)

include attempt

theorem login_enters_iff : Enters surroundings past ((authenticate username password).bind fun login =>
      (clientWrite [0x01, 0x00]).bind fun _ => .done (login.1, some login.2)) ↔
    ∃ base selection, parseUsername username = .ok (base, selection) ∧ isEmpty selection = true ∧
      ∃ account, staticAuthenticate users load base password = some account ∧ HasAllowance account := by
  rw [authenticate]
  cases parsed : parseUsername username with
  | error reason =>
      refine iff_of_false (failure_not_enters surroundings past authFailed) ?_
      intro accepted
      obtain ⟨_, _, same, _⟩ := accepted
      cases same
  | ok pair =>
      obtain ⟨base, selection⟩ := pair
      dsimp only
      rw [ask_bind, enters_ask, attempt.backend]
      generalize past ++ _ = later
      simp only [bind_eq, pure_eq]
      rcases lookup_cases (.ok (staticAuthenticate users load base password)) fun account => (selection, account.id) with
        ⟨account, known, allowance, ends⟩ | ⟨spent, failure, refused⟩
      · rw [ends, done_bind]
        have empty : Enters surroundings later ((clientWrite [0x01, 0x00]).bind fun _ => .done (selection, some account.id)) ↔
            isEmpty selection = true :=
          enters_write surroundings later _ _ _ attempt.writes fun last => done_enters surroundings last selection account.id
        rw [empty]
        constructor
        · exact fun open' => ⟨base, selection, rfl, open', account, Except.ok.inj known, allowance⟩
        · intro accepted
          obtain ⟨_, _, same, open', _⟩ := accepted
          cases same
          exact open'
      · rw [refused, fail_bind]
        refine iff_of_false (failure_not_enters surroundings later failure) ?_
        intro accepted
        obtain ⟨_, _, same, _, account, known, allowance⟩ := accepted
        cases same
        exact spent account (congrArg Except.ok known) allowance

theorem enters_iff (platform : Platform) (peer : IpAddr) (shortName : (utf8 username).length ≤ 255)
    (shortPassword : (utf8 password).length ≤ 255) :
    Enters surroundings past (authStage platform config .socks5 request peer) ↔
      Idle username ∧ ∃ first user, FirstUser users (Bears (baseName username) password) first user ∧
        HasLeft load first user := by
  obtain ⟨methods, greeted, offered⟩ := (greeting_offers request 0x02).mpr attempt.offers
  have presented := socks5_credentials_carried username password [] shortName shortPassword
  rw [List.append_nil] at presented
  rw [authStage, greeted, ofExcept_ok, done_bind, socks5Authenticate, if_pos attempt.auth, if_pos offered]
  apply enters_write surroundings past _ _ _ attempt.writes
  intro later
  obtain ⟨short, reads⟩ := attempt.presents later
  change Enters surroundings later (.ask (.read 513) fun reply =>
    ((io reply).bind fun bytes => .done bytes.val).bind fun message =>
    (socks5Login message).bind fun login => (clientWrite [0x01, 0x00]).bind fun _ => .done (login.1, some login.2)) ↔ _
  rw [enters_ask, reads]
  generalize later ++ _ = read
  change Enters surroundings read ((socks5Login (subNegotiation username password)).bind fun login =>
    (clientWrite [0x01, 0x00]).bind fun _ => .done (login.1, some login.2)) ↔ _
  rw [socks5Login, presented, ofExcept_ok, bind_eq, done_bind]
  dsimp only
  rw [login_enters_iff surroundings read users load config request username password attempt, idle_iff]
  constructor
  · intro accepted
    obtain ⟨base, selection, parsed, empty, account, known, allowance⟩ := accepted
    obtain ⟨first, user, earliest, rfl⟩ := (static_authenticate_first users load base password account).mp known
    have named := parsed_base username base selection parsed
    subst named
    exact ⟨⟨_, selection, parsed, empty⟩, first, user, earliest, (account_allowance load user first).mp allowance⟩
  · intro usable
    obtain ⟨⟨base, selection, parsed, empty⟩, first, user, earliest, left⟩ := usable
    have named := parsed_base username base selection parsed
    subst named
    refine ⟨_, selection, parsed, empty, accountFor load user first, ?_, (account_allowance load user first).mpr left⟩
    exact (static_authenticate_first users load _ password _).mpr ⟨first, user, earliest, rfl⟩

end Logins

theorem configured_login_iff {Net : Type} (texts : NetTexts Net) (blocks : List UserConfig) (users : List (StaticUser Net))
    (accepted : newBackend texts blocks = .ok users) (index : Nat) (block : UserConfig) (listed : blocks[index]? = some block)
    (shortName : (utf8 block.username).length ≤ 255) (shortPassword : (utf8 block.password).length ≤ 255) (load : Nat → Int)
    (left : block.bandwidthLimit = none ∨ 0 < load index) (platform : Platform) (config : RouterConfig)
    (request : Bytes) (peer : IpAddr) (surroundings : History → (op : Op) → op.Reply) (past : History)
    (attempt : LoginAttempt users load config request block.username block.password surroundings) :
    Enters surroundings past (authStage platform config .socks5 request peer) ↔
      Unhindered users load index block.username block.password := by
  rw [enters_iff surroundings past users load config request _ _ attempt platform peer shortName shortPassword]
  constructor
  · exact .inr
  · rintro (⟨plain, unspent⟩ | usable)
    · refine ⟨plain_idle _ plain, ?_⟩
      rw [plain_base _ plain]
      obtain ⟨user, own, name, password, remaining, _⟩ := block_user texts blocks users accepted index block listed
      obtain ⟨first, bound, earliest, found⟩ :=
        first_user_exists users (Bears block.username block.password) index user own ⟨name, password⟩
      refine ⟨first, earliest, found, ?_⟩
      rcases Nat.lt_or_eq_of_le bound with before | same
      · exact unspent first before earliest found
      · subst same
        have itself : earliest = user := Option.some.inj (found.1.symm.trans own)
        rw [HasLeft, itself, remaining]
        exact left
    · exact usable

section Examples

def noNets : NetTexts Unit := ⟨fun _ => none, fun _ => none, fun _ => ()⟩

def offeringLogin {Net : Type} (users : List (StaticUser Net)) (load : Nat → Int) (message : Bytes) :
    History → (op : Op) → op.Reply
  | _, .authenticate base secret => .ok (staticAuthenticate users load base secret)
  | _, .reply _ => .ok ()
  | _, .read limit => if short : message.length ≤ limit then .ok ⟨message, short⟩ else .error .failed
  | past, op => trusting past op

theorem presenting_attempt {Net : Type} (users : List (StaticUser Net)) (load : Nat → Int) (username password : Str)
    (shortName : (utf8 username).length ≤ 255) (shortPassword : (utf8 password).length ≤ 255) :
    LoginAttempt users load ⟨none, some true⟩ [0x05, 0x01, 0x02] username password
      (offeringLogin users load (subNegotiation username password)) where
  auth := rfl
  offers := ⟨by decide, by decide, by decide, by decide⟩
  writes := fun _ _ => rfl
  presents := by
    intro past
    have short : (subNegotiation username password).length ≤ 513 := by
      simp only [subNegotiation, List.length_cons, List.length_append]
      omega
    exact ⟨short, dif_pos short⟩
  backend := fun _ _ _ => rfl

def plainBlock : UserConfig := ⟨"me", "pw", none, [], none⟩
def plainUser : StaticUser Unit := ⟨"me", "pw", none, [], none⟩

theorem plain_user_enters :
    Enters (offeringLogin [plainUser] (fun _ => 0) (subNegotiation "me" "pw")) []
    (authStage standard ⟨none, some true⟩ .socks5 [0x05, 0x01, 0x02] (.v4 0)) :=
  (configured_login_iff noNets [plainBlock] [plainUser] rfl 0 plainBlock rfl (by decide) (by decide)
    (fun _ => 0) (.inl rfl) standard
    ⟨none, some true⟩ [0x05, 0x01, 0x02] (.v4 0) (offeringLogin [plainUser] (fun _ => 0) (subNegotiation "me" "pw")) []
    (presenting_attempt [plainUser] (fun _ => 0) "me" "pw" (by decide) (by decide))).mpr
    (.inl ⟨List.forall_mem_nil _, fun _ before => absurd before (Nat.not_lt_zero _)⟩)

def tokenBlock : UserConfig := ⟨"me-country-us", "pw", none, [], none⟩
def tokenUser : StaticUser Unit := ⟨"me-country-us", "pw", none, [], none⟩

-- The account `me-country-us` is accepted, and asked for as `me`.
theorem token_name_locked_out :
    ¬ ∀ (blocks : List UserConfig) (users : List (StaticUser Unit)), newBackend noNets blocks = .ok users →
      ∀ (index : Nat) (block : UserConfig), blocks[index]? = some block → block.username ≠ [] →
      (utf8 block.username).length ≤ 255 → (utf8 block.password).length ≤ 255 →
      ∀ load : Nat → Int, block.bandwidthLimit = none ∨ 0 < load index →
      ∀ (platform : Platform) (config : RouterConfig) (request : Bytes) (peer : IpAddr)
        (surroundings : History → (op : Op) → op.Reply)
        (past : History), LoginAttempt users load config request block.username block.password surroundings →
        Enters surroundings past (authStage platform config .socks5 request peer) := by
  intro always
  have attempt := presenting_attempt [tokenUser] (fun _ => 0) "me-country-us" "pw" (by decide) (by decide)
  have enters := always [tokenBlock] [tokenUser] rfl 0 tokenBlock rfl (by decide) (by decide) (by decide) (fun _ => 0) (.inl rfl)
    standard _ _ (.v4 0) _ [] attempt
  obtain ⟨idle, _⟩ := (enters_iff _ [] _ _ _ _ _ _ attempt standard (.v4 0) (by decide) (by decide)).mp enters
  exact idle.2 .country "us" ⟨[], [], rfl, List.forall_mem_nil _⟩ ⟨'u', by decide, by decide⟩

end Examples

end Purroute
