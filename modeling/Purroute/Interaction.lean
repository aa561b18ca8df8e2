import Mathlib.Tactic.Common
import Mathlib.Data.List.Basic

set_option autoImplicit false

namespace Interaction

-- The requests a program can make of its environment, and their answers.
structure Signature where
  Op : Type
  Reply : Op → Type

abbrev Event (sig : Signature) := (op : sig.Op) × sig.Reply op
abbrev History (sig : Signature) := List (Event sig)

-- A fallible body is the rule, so the error exit is a constructor of its own.
inductive Program (sig : Signature) (E A : Type) where
  | done (value : A)
  | fail (error : E)
  | ask (op : sig.Op) (next : sig.Reply op → Program sig E A)

namespace Program

variable {sig : Signature} {E F A B C : Type}

def bind : Program sig E A → (A → Program sig E B) → Program sig E B
  | .done value, next => next value
  | .fail error, _ => .fail error
  | .ask op rest, next => .ask op fun reply => (rest reply).bind next

instance : Monad (Program sig E) where
  pure := .done
  bind := bind

def ofExcept : Except E A → Program sig E A
  | .ok value => .done value
  | .error error => .fail error

-- What a caller does that looks at a `Result` instead of propagating it.
def attempt : Program sig E A → Program sig F (Except E A)
  | .done value => .done (.ok value)
  | .fail error => .done (.error error)
  | .ask op next => .ask op fun reply => (next reply).attempt

@[simp] theorem pure_eq (value : A) : (pure value : Program sig E A) = .done value := rfl
@[simp] theorem bind_eq (first : Program sig E A) (next : A → Program sig E B) : first >>= next = first.bind next := rfl
@[simp] theorem done_bind (value : A) (next : A → Program sig E B) : (done value).bind next = next value := rfl
@[simp] theorem fail_bind (error : E) (next : A → Program sig E B) :
    (fail error : Program sig E A).bind next = .fail error := rfl
@[simp] theorem ask_bind (op : sig.Op) (rest : sig.Reply op → Program sig E A) (next : A → Program sig E B) :
    (ask op rest).bind next = .ask op fun reply => (rest reply).bind next := rfl
@[simp] theorem ofExcept_ok (value : A) : (ofExcept (.ok value) : Program sig E A) = .done value := rfl
@[simp] theorem ofExcept_error (error : E) : (ofExcept (.error error) : Program sig E A) = .fail error := rfl

theorem ofExcept_injective (one other : Except E A) (same : (ofExcept one : Program sig E A) = ofExcept other) : one = other := by
  cases one <;> cases other <;> cases same <;> rfl

theorem bind_done (first : Program sig E A) : first.bind .done = first := by
  induction first with
  | done value => rfl
  | fail error => rfl
  | ask op rest ih => simp only [ask_bind, ih]

theorem bind_unit (first : Program sig E Unit) : (first.bind fun _ => .done ()) = first := bind_done first

theorem bind_assoc (first : Program sig E A) (second : A → Program sig E B) (third : B → Program sig E C) :
    (first.bind second).bind third = first.bind fun value => (second value).bind third := by
  induction first with
  | done value => rfl
  | fail error => rfl
  | ask op rest ih => simp only [ask_bind, ih]

inductive Reaches : Program sig E A → History sig → Program sig E A → Prop
  | here (program : Program sig E A) : Reaches program [] program
  | step (op : sig.Op) (next : sig.Reply op → Program sig E A) (reply : sig.Reply op) (trace : History sig)
      (rest : Program sig E A) (later : Reaches (next reply) trace rest) :
      Reaches (.ask op next) (⟨op, reply⟩ :: trace) rest

abbrev Runs (start : Program sig E A) (trace : History sig) (outcome : Except E A) : Prop :=
  Reaches start trace (ofExcept outcome)

theorem reaches_done (value : A) (trace : History sig) (rest : Program sig E A)
    (reached : Reaches (.done value) trace rest) : trace = [] ∧ rest = .done value := by
  cases reached
  exact ⟨rfl, rfl⟩

theorem reaches_fail (error : E) (trace : History sig) (rest : Program sig E A)
    (reached : Reaches (.fail error) trace rest) : trace = [] ∧ rest = .fail error := by
  cases reached
  exact ⟨rfl, rfl⟩

theorem reaches_ask (op : sig.Op) (next : sig.Reply op → Program sig E A) (trace : History sig) (rest : Program sig E A)
    (reached : Reaches (.ask op next) trace rest) :
    (trace = [] ∧ rest = .ask op next) ∨
      ∃ reply later, trace = ⟨op, reply⟩ :: later ∧ Reaches (next reply) later rest := by
  cases reached with
  | here => exact .inl ⟨rfl, rfl⟩
  | step _ _ reply later _ reached => exact .inr ⟨reply, later, rfl, reached⟩

theorem reaches_append (start middle rest : Program sig E A) (before after : History sig)
    (first : Reaches start before middle) (second : Reaches middle after rest) : Reaches start (before ++ after) rest := by
  induction first with
  | here program => exact second
  | step op next reply trace stop later ih => exact .step op next reply _ rest (ih second)

theorem reaches_split (start middle rest : Program sig E A) (before after : History sig)
    (part : Reaches start before middle) (whole : Reaches start (before ++ after) rest) : Reaches middle after rest := by
  induction part with
  | here program => exact whole
  | step op next reply trace stop later ih =>
      cases whole with
      | step _ _ _ _ _ tail => exact ih tail

theorem reaches_unique (start rest other : Program sig E A) (trace : History sig) (one : Reaches start trace rest)
    (two : Reaches start trace other) : rest = other := by
  have tail := reaches_split start rest other trace [] one (by rwa [List.append_nil])
  cases tail
  rfl

theorem reaches_event (start rest : Program sig E A) (before after : History sig) (op : sig.Op) (reply : sig.Reply op)
    (reached : Reaches start (before ++ ⟨op, reply⟩ :: after) rest) : ∃ next, Reaches start before (.ask op next) := by
  induction before generalizing start with
  | nil =>
      cases reached with
      | step _ next => exact ⟨next, .here _⟩
  | cons event before ih =>
      cases reached with
      | step first body answer _ _ tail =>
          obtain ⟨next, part⟩ := ih _ tail
          exact ⟨next, .step first body answer before _ part⟩

theorem reaches_bind (first : Program sig E A) (next : A → Program sig E B) (trace : History sig)
    (rest : Program sig E B) (reached : Reaches (first.bind next) trace rest) :
    (∃ middle, Reaches first trace middle ∧ rest = middle.bind next) ∨
      ∃ value before after, trace = before ++ after ∧ Runs first before (.ok value) ∧ Reaches (next value) after rest := by
  induction first generalizing trace with
  | done value => exact .inr ⟨value, [], trace, rfl, .here _, reached⟩
  | fail error =>
      obtain ⟨rfl, rfl⟩ := reaches_fail error trace rest reached
      exact .inl ⟨.fail error, .here _, rfl⟩
  | ask op body ih =>
      rcases reaches_ask op _ trace rest reached with ⟨rfl, rfl⟩ | ⟨reply, later, rfl, tail⟩
      · exact .inl ⟨.ask op body, .here _, rfl⟩
      · rcases ih reply later tail with ⟨middle, part, rfl⟩ | ⟨value, before, after, rfl, part, tail⟩
        · exact .inl ⟨middle, .step op body reply later middle part, rfl⟩
        · exact .inr ⟨value, ⟨op, reply⟩ :: before, after, rfl, .step op body reply before _ part, tail⟩

theorem reaches_attempt (body : Program sig E A) (trace : History sig) (rest : Program sig F (Except E A))
    (reached : Reaches (body.attempt : Program sig F (Except E A)) trace rest) :
    ∃ middle, Reaches body trace middle ∧ rest = middle.attempt := by
  induction body generalizing trace with
  | done value =>
      obtain ⟨rfl, same⟩ := reaches_done _ trace rest reached
      exact ⟨.done value, .here _, same⟩
  | fail error =>
      obtain ⟨rfl, same⟩ := reaches_done _ trace rest reached
      exact ⟨.fail error, .here _, same⟩
  | ask op next ih =>
      rcases reaches_ask op _ trace rest reached with ⟨rfl, same⟩ | ⟨reply, later, rfl, behind⟩
      · exact ⟨.ask op next, .here _, same⟩
      · obtain ⟨middle, part, same⟩ := ih reply later behind
        exact ⟨middle, .step op next reply later middle part, same⟩

theorem bind_eq_ofExcept (middle : Program sig E A) (next : A → Program sig E B) (outcome : Except E B)
    (same : ofExcept outcome = middle.bind next) :
    (∃ value, middle = .done value ∧ next value = ofExcept outcome) ∨
      ∃ error, middle = .fail error ∧ outcome = .error error := by
  cases middle with
  | done value => exact .inl ⟨value, rfl, same.symm⟩
  | fail error =>
      cases outcome with
      | ok value => cases same
      | error other =>
          cases same
          exact .inr ⟨error, rfl, rfl⟩
  | ask op body => cases outcome <;> cases same

theorem runs_bind (first : Program sig E A) (next : A → Program sig E B) (trace : History sig) (outcome : Except E B)
    (run : Runs (first.bind next) trace outcome) :
    (∃ error, Runs first trace (.error error) ∧ outcome = .error error) ∨
      ∃ value before after, trace = before ++ after ∧ Runs first before (.ok value) ∧ Runs (next value) after outcome := by
  rcases reaches_bind first next trace _ run with ⟨middle, part, same⟩ | later
  · rcases bind_eq_ofExcept middle next outcome same with ⟨value, rfl, rest⟩ | ⟨error, rfl, rfl⟩
    · exact .inr ⟨value, trace, [], by simp, part, rest ▸ .here _⟩
    · exact .inl ⟨error, part, rfl⟩
  · exact .inr later

theorem reaches_bind_first (first middle : Program sig E A) (next : A → Program sig E B) (trace : History sig)
    (part : Reaches first trace middle) : Reaches (first.bind next) trace (middle.bind next) := by
  induction part with
  | here program => exact .here _
  | step op body reply trace stop later ih => exact .step op _ reply trace _ ih

theorem runs_bind_ok (first : Program sig E A) (next : A → Program sig E B) (before after : History sig) (value : A)
    (rest : Program sig E B) (part : Runs first before (.ok value)) (tail : Reaches (next value) after rest) :
    Reaches (first.bind next) (before ++ after) rest :=
  reaches_append _ _ _ _ _ (reaches_bind_first first (.done value) next before part) tail

-- The contract of a program: `may` holds of each request at the history it is
-- made at, `ends` or `fails` of the result at the final one.
def Meets (may : History sig → sig.Op → Prop) (ends : History sig → A → Prop) (fails : History sig → E → Prop) :
    History sig → Program sig E A → Prop
  | past, .done value => ends past value
  | past, .fail error => fails past error
  | past, .ask op next => may past op ∧ ∀ reply, Meets may ends fails (past ++ [⟨op, reply⟩]) (next reply)

section Contracts

variable {may : History sig → sig.Op → Prop} {fails : History sig → E → Prop} {past : History sig}

@[simp] theorem meets_done (ends : History sig → A → Prop) (value : A) :
    Meets may ends fails past (.done value) ↔ ends past value := Iff.rfl
@[simp] theorem meets_fail (ends : History sig → A → Prop) (error : E) :
    Meets may ends fails past (.fail error) ↔ fails past error := Iff.rfl
@[simp] theorem meets_ask (ends : History sig → A → Prop) (op : sig.Op) (next : sig.Reply op → Program sig E A) :
    Meets may ends fails past (.ask op next) ↔
      may past op ∧ ∀ reply, Meets may ends fails (past ++ [⟨op, reply⟩]) (next reply) := Iff.rfl

theorem meets_bind (middle : History sig → A → Prop) (ends : History sig → B → Prop) (first : Program sig E A)
    (next : A → Program sig E B) (head : Meets may middle fails past first)
    (tail : ∀ reached value, middle reached value → Meets may ends fails reached (next value)) :
    Meets may ends fails past (first.bind next) := by
  induction first generalizing past with
  | done value => exact tail past value head
  | fail error => exact head
  | ask op body ih => exact ⟨head.1, fun reply => ih reply (head.2 reply)⟩

theorem meets_mono (may' : History sig → sig.Op → Prop) (ends ends' : History sig → A → Prop)
    (fails' : History sig → E → Prop) (program : Program sig E A) (allowed : ∀ past op, may past op → may' past op)
    (value : ∀ past value, ends past value → ends' past value) (error : ∀ past error, fails past error → fails' past error)
    (meets : Meets may ends fails past program) : Meets may' ends' fails' past program := by
  induction program generalizing past with
  | done result => exact value past result meets
  | fail result => exact error past result meets
  | ask op body ih => exact ⟨allowed past op meets.1, fun reply => ih reply (meets.2 reply)⟩

theorem meets_attempt (ends : History sig → A → Prop) (never : History sig → F → Prop) (body : Program sig E A)
    (meets : Meets may ends fails past body) :
    Meets may
      (fun past outcome => match outcome with | .ok value => ends past value | .error error => fails past error)
      never past (body.attempt : Program sig F (Except E A)) := by
  induction body generalizing past with
  | done value => exact meets
  | fail error => exact meets
  | ask op next ih => exact ⟨meets.1, fun reply => ih reply (meets.2 reply)⟩

theorem meets_reaches (ends : History sig → A → Prop) (start rest : Program sig E A) (trace : History sig)
    (meets : Meets may ends fails past start) (reached : Reaches start trace rest) :
    Meets may ends fails (past ++ trace) rest := by
  induction reached generalizing past with
  | here program => simpa using meets
  | step op next reply trace rest later ih =>
      have tail := ih (meets.2 reply)
      rwa [List.append_assoc] at tail

end Contracts

def Uses (allowed : sig.Op → Prop) : Program sig E A → Prop
  | .done _ => True
  | .fail _ => True
  | .ask op next => allowed op ∧ ∀ reply, Uses allowed (next reply)

section Requests

variable {allowed : sig.Op → Prop}

@[simp] theorem uses_done (value : A) : Uses allowed (.done value : Program sig E A) := trivial
@[simp] theorem uses_fail (error : E) : Uses allowed (.fail error : Program sig E A) := trivial
@[simp] theorem uses_ask (op : sig.Op) (next : sig.Reply op → Program sig E A) :
    Uses allowed (.ask op next) ↔ allowed op ∧ ∀ reply, Uses allowed (next reply) := Iff.rfl

theorem uses_ofExcept (outcome : Except E A) : Uses allowed (ofExcept outcome : Program sig E A) := by
  cases outcome <;> trivial

theorem uses_bind (first : Program sig E A) (next : A → Program sig E B) (head : Uses allowed first)
    (tail : ∀ value, Uses allowed (next value)) : Uses allowed (first.bind next) := by
  induction first with
  | done value => exact tail value
  | fail error => trivial
  | ask op body ih => exact ⟨head.1, fun reply => ih reply (head.2 reply)⟩

theorem uses_bind_runs (first : Program sig E A) (next : A → Program sig E B) (head : Uses allowed first)
    (tail : ∀ value trace, Runs first trace (.ok value) → Uses allowed (next value)) : Uses allowed (first.bind next) := by
  induction first with
  | done value => exact tail value [] (.here _)
  | fail error => trivial
  | ask op body ih =>
      refine ⟨head.1, fun reply => ih reply (head.2 reply) fun value trace run => ?_⟩
      exact tail value (⟨op, reply⟩ :: trace) (.step op body reply trace _ run)

theorem uses_mono (allowed' : sig.Op → Prop) (program : Program sig E A) (wider : ∀ op, allowed op → allowed' op)
    (uses : Uses allowed program) : Uses allowed' program := by
  induction program with
  | done value => trivial
  | fail error => trivial
  | ask op body ih => exact ⟨wider op uses.1, fun reply => ih reply (uses.2 reply)⟩

theorem uses_attempt (program : Program sig E A) (uses : Uses allowed program) :
    Uses allowed (program.attempt : Program sig F (Except E A)) := by
  induction program with
  | done value => trivial
  | fail error => trivial
  | ask op body ih => exact ⟨uses.1, fun reply => ih reply (uses.2 reply)⟩

theorem uses_event (start rest : Program sig E A) (trace : History sig) (uses : Uses allowed start)
    (reached : Reaches start trace rest) : (∀ event ∈ trace, allowed event.1) ∧ Uses allowed rest := by
  induction reached with
  | here program => exact ⟨by simp, uses⟩
  | step op next reply trace rest later ih =>
      obtain ⟨events, tail⟩ := ih (uses.2 reply)
      exact ⟨by simpa using ⟨uses.1, events⟩, tail⟩

theorem reaches_through (first : Program sig E A) (next : A → Program sig E B) (trace : History sig) (op : sig.Op)
    (rest : sig.Reply op → Program sig E B) (uses : Uses allowed first) (never : ¬ allowed op)
    (reached : Reaches (first.bind next) trace (.ask op rest)) :
    ∃ value before after, trace = before ++ after ∧ Runs first before (.ok value) ∧
      Reaches (next value) after (.ask op rest) := by
  rcases reaches_bind first next trace _ reached with ⟨middle, part, same⟩ | later
  · have remaining := (uses_event first middle trace uses part).2
    cases middle with
    | done value => exact ⟨value, trace, [], (List.append_nil trace).symm, part, same ▸ .here _⟩
    | fail error => cases same
    | ask other body =>
        cases same
        exact absurd remaining.1 never
  · exact later

theorem reaches_before (first : Program sig E A) (next : A → Program sig E B) (trace : History sig) (op : sig.Op)
    (rest : sig.Reply op → Program sig E B) (uses : ∀ value, Uses allowed (next value)) (never : ¬ allowed op)
    (reached : Reaches (first.bind next) trace (.ask op rest)) : ∃ body, Reaches first trace (.ask op body) := by
  rcases reaches_bind first next trace _ reached with ⟨middle, part, same⟩ | ⟨value, _, after, _, _, behind⟩
  · cases middle with
    | done value => exact absurd (same ▸ uses value : Uses allowed (.ask op rest)).1 never
    | fail error => cases same
    | ask other body =>
        cases same
        exact ⟨body, part⟩
  · exact absurd (uses_event (next value) _ after (uses value) behind).2.1 never

theorem meets_of_uses (kept : History sig → Prop) (may : History sig → sig.Op → Prop) (past : History sig)
    (program : Program sig E A) (uses : Uses allowed program) (start : kept past)
    (permits : ∀ past op, kept past → allowed op → may past op)
    (frame : ∀ past op reply, kept past → allowed op → kept (past ++ [⟨op, reply⟩])) :
    Meets may (fun past _ => kept past) (fun past _ => kept past) past program := by
  induction program generalizing past with
  | done value => exact start
  | fail error => exact start
  | ask op body ih =>
      exact ⟨permits past op start uses.1, fun reply => ih reply _ (uses.2 reply) (frame past op reply start uses.1)⟩

end Requests

structure Driven (sig : Signature) (S E A : Type) where
  past : History sig
  state : S
  outcome : Except E A

abbrev Environment (sig : Signature) (S : Type) := S → History sig → (op : sig.Op) → sig.Reply op × S

section Driving

variable {S : Type} (answer : Environment sig S)

def drive : S → History sig → Program sig E A → Driven sig S E A
  | state, past, .done value => ⟨past, state, .ok value⟩
  | state, past, .fail error => ⟨past, state, .error error⟩
  | state, past, .ask op next =>
      drive (answer state past op).2 (past ++ [⟨op, (answer state past op).1⟩]) (next (answer state past op).1)

theorem drive_runs (state : S) (past : History sig) (program : Program sig E A) :
    ∃ trace, (drive answer state past program).past = past ++ trace ∧
      Runs program trace (drive answer state past program).outcome := by
  induction program generalizing state past with
  | done value => exact ⟨[], (List.append_nil past).symm, .here _⟩
  | fail error => exact ⟨[], (List.append_nil past).symm, .here _⟩
  | ask op next ih =>
      obtain ⟨trace, history, run⟩ :=
        ih (answer state past op).1 (answer state past op).2 (past ++ [⟨op, (answer state past op).1⟩])
      refine ⟨⟨op, (answer state past op).1⟩ :: trace, ?_, .step op next _ trace _ run⟩
      rw [drive, history, List.append_assoc, List.singleton_append]

theorem drive_from_start (state : S) (program : Program sig E A) :
    Runs program (drive answer state [] program).past (drive answer state [] program).outcome := by
  obtain ⟨trace, past, runs⟩ := drive_runs answer state [] program
  rw [past]
  exact runs

theorem drive_bind (state : S) (past : History sig) (first : Program sig E A) (next : A → Program sig E B) :
    drive answer state past (first.bind next) =
      match drive answer state past first with
      | ⟨reached, after, .ok value⟩ => drive answer after reached (next value)
      | ⟨reached, after, .error error⟩ => ⟨reached, after, .error error⟩ := by
  induction first generalizing state past with
  | done value => rfl
  | fail error => rfl
  | ask op body ih =>
      rw [ask_bind, drive, ih]
      rfl

def Lockstep (before after : S → S → Prop) (program : Program sig E A) : Prop :=
  ∀ past first second, before first second →
    (drive answer first past program).past = (drive answer second past program).past ∧
      (drive answer first past program).outcome = (drive answer second past program).outcome ∧
      after (drive answer first past program).state (drive answer second past program).state

variable {answer}

theorem lockstep_done (before after : S → S → Prop)
    (wider : ∀ first second, before first second → after first second) (value : A) :
    Lockstep answer before after (.done value : Program sig E A) :=
  fun _ _ _ related => ⟨rfl, rfl, wider _ _ related⟩

theorem lockstep_fail (before after : S → S → Prop)
    (wider : ∀ first second, before first second → after first second) (error : E) :
    Lockstep answer before after (.fail error : Program sig E A) :=
  fun _ _ _ related => ⟨rfl, rfl, wider _ _ related⟩

theorem lockstep_ask (before middle after : S → S → Prop) (op : sig.Op) (next : sig.Reply op → Program sig E A)
    (head : ∀ past first second, before first second →
      (answer first past op).1 = (answer second past op).1 ∧ middle (answer first past op).2 (answer second past op).2)
    (tail : ∀ reply, Lockstep answer middle after (next reply)) : Lockstep answer before after (.ask op next) := by
  intro past first second related
  obtain ⟨same, later⟩ := head past first second related
  simp only [drive]
  rw [same]
  exact tail _ _ _ _ later

theorem lockstep_bind (before middle after : S → S → Prop) (wider : ∀ first second, middle first second → after first second)
    (first : Program sig E A) (next : A → Program sig E B) (head : Lockstep answer before middle first)
    (tail : ∀ value, Lockstep answer middle after (next value)) : Lockstep answer before after (first.bind next) := by
  intro past left right related
  rw [drive_bind, drive_bind]
  obtain ⟨history, result, later⟩ := head past left right related
  rcases leftRun : drive answer left past first with ⟨reached, leftState, outcome⟩
  rcases rightRun : drive answer right past first with ⟨reached', rightState, outcome'⟩
  rw [leftRun, rightRun] at history result later
  dsimp only at history result later
  subst history result
  cases outcome with
  | ok value => exact tail value _ _ _ later
  | error error => exact ⟨rfl, rfl, wider _ _ later⟩

theorem lockstep_of_uses (related : S → S → Prop) (allowed : sig.Op → Prop) (program : Program sig E A)
    (uses : Uses allowed program) (frame : ∀ op, allowed op → ∀ past first second, related first second →
      (answer first past op).1 = (answer second past op).1 ∧ related (answer first past op).2 (answer second past op).2) :
    Lockstep answer related related program := by
  induction program with
  | done value => exact lockstep_done related related (fun _ _ same => same) value
  | fail error => exact lockstep_fail related related (fun _ _ same => same) error
  | ask op next ih => exact lockstep_ask related related related op next (frame op uses.1) fun reply => ih reply (uses.2 reply)

end Driving

section Fulfilling

variable {T : Type} (handler : T → (op : sig.Op) → sig.Reply op × T)

def fulfil : Program sig E A → T → Option (A × T)
  | .done value, state => some (value, state)
  | .fail _, _ => none
  | .ask op next, state => fulfil (next (handler state op).1) (handler state op).2

def fulfilled (program : Program sig E A) (state : T) : Option T := (fulfil handler program state).map Prod.snd

theorem fulfil_bind (first : Program sig E A) (next : A → Program sig E B) (state : T) :
    fulfil handler (first.bind next) state =
      (fulfil handler first state).bind fun reached => fulfil handler (next reached.1) reached.2 := by
  induction first generalizing state with
  | done value => rfl
  | fail error => rfl
  | ask op rest ih => exact ih _ _

theorem fulfil_ofExcept (result : Except E A) (state : T) :
    fulfil handler (ofExcept result) state = result.toOption.map fun value => (value, state) := by
  cases result <;> rfl

theorem fulfilled_bind (first : Program sig E A) (next : A → Program sig E B) (state : T) :
    fulfilled handler (first.bind next) state =
      (fulfil handler first state).bind fun reached => fulfilled handler (next reached.1) reached.2 := by
  rw [fulfilled, fulfil_bind, Option.map_bind]
  rfl

theorem fulfilled_along (first : Program sig E A) (next : A → Program sig E B) (part : A → C)
    (after : C → T → Option T) (state : T)
    (same : ∀ value later, fulfilled handler (next value) later = after (part value) later) :
    fulfilled handler (first.bind next) state =
      ((fulfil handler first state).map fun reached => (part reached.1, reached.2)).bind fun reached =>
        after reached.1 reached.2 := by
  rw [fulfilled_bind, Option.bind_map]
  simp only [same]
  rfl

theorem fulfilled_any (first : Program sig E A) (next : A → Program sig E B) (after : T → Option T) (state : T)
    (same : ∀ value, fulfilled handler (next value) = after) :
    fulfilled handler (first.bind next) state = (fulfilled handler first state).bind after := by
  rw [fulfilled_bind, fulfilled, Option.bind_map]
  simp only [same]
  rfl

theorem fulfilled_then (first : Program sig E A) (next : Program sig E B) (state : T) :
    fulfilled handler (first.bind fun _ => next) state = (fulfilled handler first state).bind (fulfilled handler next) :=
  fulfilled_any handler first (fun _ => next) _ state fun _ => rfl

theorem fulfilled_map (first : Program sig E A) (part : A → B) (state : T) :
    fulfilled handler (first.bind fun value => .done (part value)) state = fulfilled handler first state := by
  rw [fulfilled_bind, fulfilled, Option.map_eq_bind]
  rfl

theorem drive_fulfils {S : Type} (answer : Environment sig S) (observe : S → History sig → T)
    (step : ∀ state past op, handler (observe state past) op =
      ((answer state past op).1, observe (answer state past op).2 (past ++ [⟨op, (answer state past op).1⟩])))
    (program : Program sig E A) (state : S) (past : History sig) :
    fulfil handler program (observe state past) = (drive answer state past program).outcome.toOption.map fun value =>
      (value, observe (drive answer state past program).state (drive answer state past program).past) := by
  induction program generalizing state past with
  | done value => rfl
  | fail error => rfl
  | ask op next ih =>
      rw [fulfil, step, drive]
      exact ih _ _ _

end Fulfilling

end Program

end Interaction
