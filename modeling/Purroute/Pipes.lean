import Mathlib.Logic.Relation
import Mathlib.Order.GameAdd
import Purroute.Interaction

set_option autoImplicit false

namespace Interaction

open Program

-- What has been put on one end of a connection and what has been taken off it.
structure Flow (X : Type) where
  sent : List X
  taken : List X

def Flow.after {X : Type} (flow : Flow X) (out input : List X) : Flow X := ⟨flow.sent ++ out, flow.taken ++ input⟩

def idle (X : Type) : Flow X := ⟨[], []⟩

-- Which requests of a program use the connection, and how.
structure Port (sig : Signature) (X : Type) where
  wrote : Event sig → List X → Prop
  took : Event sig → List X → Prop

variable {sig : Signature} {X E A B : Type}

@[simp] theorem after_nothing (flow : Flow X) : flow.after [] [] = flow := by
  simp [Flow.after]

@[simp] theorem after_sent (flow : Flow X) (out input : List X) : (flow.after out input).sent = flow.sent ++ out := rfl

@[simp] theorem after_taken (flow : Flow X) (out input : List X) : (flow.after out input).taken = flow.taken ++ input := rfl

-- A history and what it does to the connection, where each request may take
-- no more than `may` allows at what has been sent before it.
inductive Exchanged (port : Port sig X) (may : List X → List X → Prop) : Flow X → History sig → Flow X → Prop
  | nil (flow : Flow X) : Exchanged port may flow [] flow
  | cons (flow stop : Flow X) (event : Event sig) (later : History sig) (out input : List X) (wrote : port.wrote event out)
      (took : port.took event input) (allowed : may flow.sent (flow.taken ++ input))
      (rest : Exchanged port may (flow.after out input) later stop) : Exchanged port may flow (event :: later) stop

section Exchanges

variable {port : Port sig X} {may : List X → List X → Prop}

theorem exchanged_append (start middle stop : Flow X) (before after : History sig)
    (first : Exchanged port may start before middle)
    (second : Exchanged port may middle after stop) : Exchanged port may start (before ++ after) stop := by
  induction first with
  | nil flow => exact second
  | cons flow _ event later out input wrote took allowed _ ih =>
      exact .cons flow stop event _ out input wrote took allowed (ih second)

theorem exchanged_split (start stop : Flow X) (before after : History sig)
    (whole : Exchanged port may start (before ++ after) stop) :
    ∃ middle, Exchanged port may start before middle ∧ Exchanged port may middle after stop := by
  induction before generalizing start with
  | nil => exact ⟨start, .nil start, whole⟩
  | cons event before ih =>
      cases whole with
      | cons _ _ _ _ out input wrote took allowed rest =>
          obtain ⟨middle, first, second⟩ := ih _ rest
          exact ⟨middle, .cons start middle event before out input wrote took allowed first, second⟩

theorem exchanged_one (flow : Flow X) (event : Event sig) (out input : List X) (wrote : port.wrote event out)
    (took : port.took event input) (allowed : may flow.sent (flow.taken ++ input)) :
    Exchanged port may flow [event] (flow.after out input) :=
  .cons flow _ event [] out input wrote took allowed (.nil _)

theorem exchanged_grows (start stop : Flow X) (log : History sig) (exchanged : Exchanged port may start log stop) :
    start.sent <+: stop.sent ∧ start.taken <+: stop.taken := by
  induction exchanged with
  | nil flow => exact ⟨List.prefix_rfl, List.prefix_rfl⟩
  | cons flow stop event later out input wrote took allowed _ ih =>
      exact ⟨(List.prefix_append _ _).trans ih.1, (List.prefix_append _ _).trans ih.2⟩

def Untouching (port : Port sig X) (op : sig.Op) : Prop :=
  ∀ reply, (∀ out, port.wrote ⟨op, reply⟩ out → out = []) ∧ ∀ input, port.took ⟨op, reply⟩ input → input = []

end Exchanges

section Contracts

variable (port : Port sig X) (may : List X → List X → Prop)

-- The contract of one end: `asks` holds of each request at the state of the
-- connection it is made at, `ends` and `fails` of the result at the final one.
def Follows (asks : Flow X → sig.Op → Prop) (ends : Flow X → A → Prop) (fails : Flow X → E → Prop) :
    Flow X → Program sig E A → Prop
  | flow, .done value => ends flow value
  | flow, .fail error => fails flow error
  | flow, .ask op next => asks flow op ∧ ∀ reply out input, port.wrote ⟨op, reply⟩ out → port.took ⟨op, reply⟩ input →
      may flow.sent (flow.taken ++ input) → Follows asks ends fails (flow.after out input) (next reply)

variable {port may} {asks : Flow X → sig.Op → Prop} {fails : Flow X → E → Prop}

@[simp] theorem follows_done (ends : Flow X → A → Prop) (flow : Flow X) (value : A) :
    Follows port may asks ends fails flow (.done value) ↔ ends flow value := Iff.rfl
@[simp] theorem follows_fail (ends : Flow X → A → Prop) (flow : Flow X) (error : E) :
    Follows port may asks ends fails flow (.fail error) ↔ fails flow error := Iff.rfl
@[simp] theorem follows_ask (ends : Flow X → A → Prop) (flow : Flow X) (op : sig.Op) (next : sig.Reply op → Program sig E A) :
    Follows port may asks ends fails flow (.ask op next) ↔ asks flow op ∧ ∀ reply out input, port.wrote ⟨op, reply⟩ out →
      port.took ⟨op, reply⟩ input → may flow.sent (flow.taken ++ input) →
        Follows port may asks ends fails (flow.after out input) (next reply) := Iff.rfl

theorem follows_bind (middle : Flow X → A → Prop) (ends : Flow X → B → Prop) (flow : Flow X) (first : Program sig E A)
    (next : A → Program sig E B) (head : Follows port may asks middle fails flow first)
    (tail : ∀ reached value, middle reached value → Follows port may asks ends fails reached (next value)) :
    Follows port may asks ends fails flow (first.bind next) := by
  induction first generalizing flow with
  | done value => exact tail flow value head
  | fail error => exact head
  | ask op body ih =>
      exact ⟨head.1, fun reply out input wrote took allowed => ih reply _ (head.2 reply out input wrote took allowed)⟩

theorem follows_weaken (asks' : Flow X → sig.Op → Prop) (fails' : Flow X → E → Prop) (ends ends' : Flow X → A → Prop)
    (asking : ∀ flow op, asks flow op → asks' flow op) (failing : ∀ flow error, fails flow error → fails' flow error)
    (ending : ∀ flow value, ends flow value → ends' flow value) (flow : Flow X) (program : Program sig E A)
    (follows : Follows port may asks ends fails flow program) : Follows port may asks' ends' fails' flow program := by
  induction program generalizing flow with
  | done value => exact ending flow value follows
  | fail error => exact failing flow error follows
  | ask op body ih =>
      refine ⟨asking flow op follows.1, fun reply out input wrote took allowed => ?_⟩
      exact ih reply _ (follows.2 reply out input wrote took allowed)

theorem follows_ofExcept (ends : Flow X → A → Prop) (flow : Flow X) (outcome : Except E A)
    (value : ∀ result, outcome = .ok result → ends flow result) (failing : ∀ error, outcome = .error error → fails flow error) :
    Follows port may asks ends fails flow (ofExcept outcome) := by
  cases outcome with
  | ok result => exact value result rfl
  | error error => exact failing error rfl

theorem follows_silent (allowed : sig.Op → Prop) (flow : Flow X) (program : Program sig E A) (uses : Uses allowed program)
    (silent : ∀ op, allowed op → Untouching port op) (permits : ∀ op, allowed op → asks flow op)
    (failing : ∀ error, fails flow error) :
    Follows port may asks (fun reached value => reached = flow ∧ ∃ log, Runs program log (.ok value)) fails flow program := by
  induction program with
  | done value => exact ⟨rfl, [], .here _⟩
  | fail error => exact failing error
  | ask op body ih =>
      refine ⟨permits op uses.1, fun reply out input wrote took _ => ?_⟩
      obtain ⟨nothing, none⟩ := silent op uses.1 reply
      rw [nothing out wrote, none input took, after_nothing]
      refine follows_weaken _ _ _ _ (fun _ _ asked => asked) (fun _ _ failed => failed) ?_ _ _ (ih reply (uses.2 reply))
      intro reached value ends
      obtain ⟨same, log, run⟩ := ends
      exact ⟨same, ⟨op, reply⟩ :: log, .step op body reply log _ run⟩

theorem follows_reaches (ends : Flow X → A → Prop) (start rest : Program sig E A) (log : History sig) (flow stop : Flow X)
    (follows : Follows port may asks ends fails flow start) (reached : Reaches start log rest)
    (exchanged : Exchanged port may flow log stop) : Follows port may asks ends fails stop rest := by
  induction reached generalizing flow with
  | here program =>
      cases exchanged
      exact follows
  | step op next reply log rest _ ih =>
      cases exchanged with
      | cons _ _ _ _ out input wrote took allowed later => exact ih _ (follows.2 reply out input wrote took allowed) later

def Inside (asks : Flow X → sig.Op → Prop) (fails : Flow X → E → Prop) (flow : Flow X) (rest : Program sig E A) : Prop :=
  (∃ op next, rest = .ask op next ∧ asks flow op) ∨ ∃ error, rest = .fail error ∧ fails flow error

theorem follows_stage (ends : Flow X → A → Prop) (first : Program sig E A) (next : A → Program sig E B) (rest : Program sig E B)
    (log : History sig) (flow stop : Flow X) (follows : Follows port may asks ends fails flow first)
    (reached : Reaches (first.bind next) log rest) (exchanged : Exchanged port may flow log stop) :
    Inside asks fails stop rest ∨
      ∃ value before after middle, log = before ++ after ∧ Runs first before (.ok value) ∧ ends middle value ∧
        Exchanged port may flow before middle ∧ Reaches (next value) after rest ∧ Exchanged port may middle after stop := by
  rcases reaches_bind first next log rest reached with ⟨inside, part, same⟩ | ⟨value, before, after, rfl, part, behind⟩
  · have there := follows_reaches ends first inside log flow stop follows part exchanged
    subst same
    cases inside with
    | done value => exact .inr ⟨value, log, [], stop, (List.append_nil log).symm, part, there, exchanged, .here _, .nil stop⟩
    | fail error => exact .inl (.inr ⟨error, rfl, there⟩)
    | ask op body => exact .inl (.inl ⟨op, _, rfl, there.1⟩)
  · obtain ⟨middle, earlier, later⟩ := exchanged_split flow stop before after exchanged
    exact .inr ⟨value, before, after, middle, rfl, part, follows_reaches ends first _ before flow middle follows part earlier,
      earlier, behind, later⟩

end Contracts

structure Party (sig : Signature) (X E A : Type) where
  rest : Program sig E A
  log : History sig
  flow : Flow X

def party (start : Program sig E A) : Party sig X E A := ⟨start, [], idle X⟩

inductive Party.Moves (port : Port sig X) (calm : Event sig → Prop) (incoming : List X) : Party sig X E A → Party sig X E A → Prop
  | answered (op : sig.Op) (next : sig.Reply op → Program sig E A) (log : History sig) (flow : Flow X) (reply : sig.Reply op)
      (out input : List X) (good : calm ⟨op, reply⟩) (wrote : port.wrote ⟨op, reply⟩ out) (took : port.took ⟨op, reply⟩ input)
      (there : flow.taken ++ input <+: incoming) :
      Moves port calm incoming ⟨.ask op next, log, flow⟩ ⟨next reply, log ++ [⟨op, reply⟩], flow.after out input⟩

variable {sig' : Signature} {E' A' : Type}

structure Joined (sig sig' : Signature) (X E E' A A' : Type) where
  near : Party sig X E A
  far : Party sig' X E' A'

def joined (near : Program sig E A) (far : Program sig' E' A') : Joined sig sig' X E E' A A' := ⟨party near, party far⟩

section Joins

variable (port : Port sig X) (port' : Port sig' X)

-- Any interleaving of the two ends. `calm` can rule answers out.
inductive Joined.Step (calm : Event sig → Prop) (calm' : Event sig' → Prop) :
    Joined sig sig' X E E' A A' → Joined sig sig' X E E' A A' → Prop
  | near (one other : Party sig X E A) (far : Party sig' X E' A') (moves : Party.Moves port calm far.flow.sent one other) :
      Step calm calm' ⟨one, far⟩ ⟨other, far⟩
  | far (near : Party sig X E A) (one other : Party sig' X E' A') (moves : Party.Moves port' calm' near.flow.sent one other) :
      Step calm calm' ⟨near, one⟩ ⟨near, other⟩

abbrev Joined.Reached (near : Program sig E A) (far : Program sig' E' A') (state : Joined sig sig' X E E' A A') : Prop :=
  Relation.ReflTransGen (Joined.Step port port' (fun _ => True) fun _ => True) (joined near far) state

variable {port port'}

theorem moves_reaches (calm : Event sig → Prop) (incoming : List X) (start : Program sig E A) (one other : Party sig X E A)
    (moves : Party.Moves port calm incoming one other) (reached : Reaches start one.log one.rest) :
    Reaches start other.log other.rest := by
  cases moves with
  | answered op next log flow reply out input good wrote took there =>
      exact reaches_append _ _ _ _ _ reached (.step op next reply [] (next reply) (.here _))

theorem moves_exchanged (calm : Event sig → Prop) (incoming : List X) (may : List X → List X → Prop) (one other : Party sig X E A)
    (moves : Party.Moves port calm incoming one other) (allowed : ∀ taken, taken <+: incoming → may one.flow.sent taken)
    (exchanged : Exchanged port may (idle X) one.log one.flow) : Exchanged port may (idle X) other.log other.flow := by
  cases moves with
  | answered op next log flow reply out input good wrote took there =>
      exact exchanged_append _ _ _ _ _ exchanged (exchanged_one flow ⟨op, reply⟩ out input wrote took (allowed _ there))

theorem moves_flow (calm : Event sig → Prop) (incoming : List X) (one other : Party sig X E A)
    (moves : Party.Moves port calm incoming one other) : one.flow.sent <+: other.flow.sent ∧ other.flow.taken <+: incoming := by
  cases moves with
  | answered op next log flow reply out input good wrote took there => exact ⟨List.prefix_append _ _, there⟩

variable (port port') in
-- What every state of the joined programs has: runs of both, and two streams
-- that arrive in order, with nothing lost, repeated or made up.
structure Coupled (near : Program sig E A) (far : Program sig' E' A') (state : Joined sig sig' X E E' A A') : Prop where
  nearReaches : Reaches near state.near.log state.near.rest
  farReaches : Reaches far state.far.log state.far.rest
  nearExchanged : Exchanged port (fun _ _ => True) (idle X) state.near.log state.near.flow
  farExchanged : Exchanged port' (fun _ _ => True) (idle X) state.far.log state.far.flow
  arrived : state.near.flow.taken <+: state.far.flow.sent
  delivered : state.far.flow.taken <+: state.near.flow.sent

theorem step_coupled (near : Program sig E A) (far : Program sig' E' A') (calm : Event sig → Prop) (calm' : Event sig' → Prop)
    (one other : Joined sig sig' X E E' A A') (step : Joined.Step port port' calm calm' one other)
    (coupled : Coupled port port' near far one) : Coupled port port' near far other := by
  cases step with
  | near one other far moves =>
      obtain ⟨grown, there⟩ := moves_flow calm _ one other moves
      exact ⟨moves_reaches calm _ _ one other moves coupled.nearReaches, coupled.farReaches,
        moves_exchanged calm _ _ one other moves (fun _ _ => trivial) coupled.nearExchanged, coupled.farExchanged,
        there, coupled.delivered.trans grown⟩
  | far near one other moves =>
      obtain ⟨grown, there⟩ := moves_flow calm' _ one other moves
      exact ⟨coupled.nearReaches, moves_reaches calm' _ _ one other moves coupled.farReaches, coupled.nearExchanged,
        moves_exchanged calm' _ _ one other moves (fun _ _ => trivial) coupled.farExchanged, coupled.arrived.trans grown, there⟩

theorem joined_coupled (near : Program sig E A) (far : Program sig' E' A') (state : Joined sig sig' X E E' A A')
    (reached : Joined.Reached port port' near far state) : Coupled port port' near far state := by
  induction reached with
  | refl => exact ⟨.here near, .here far, .nil _, .nil _, List.prefix_rfl, List.prefix_rfl⟩
  | tail _ step ih => exact step_coupled near far _ _ _ _ step ih

def Responds (port : Port sig X) (answer : List X → List X) (program : Program sig E A) : Prop :=
  ∀ log rest flow, Reaches program log rest → Exchanged port (fun _ _ => True) (idle X) log flow → flow.sent <+: answer flow.taken

def Monotone (answer : List X → List X) : Prop := ∀ short long, short <+: long → answer short <+: answer long

theorem joined_supplied (near : Program sig E A) (far : Program sig' E' A') (answer : List X → List X)
    (monotone : Monotone answer)
    (answers : Responds port answer near) (state : Joined sig sig' X E E' A A')
    (reached : Joined.Reached port port' near far state) :
    Exchanged port' (fun sent taken => taken <+: answer sent) (idle X) state.far.log state.far.flow := by
  induction reached with
  | refl => exact .nil _
  | tail run step ih =>
      cases step with
      | near one other far moves => exact ih
      | far near one other moves =>
          have coupled := joined_coupled _ _ _ run
          have bound := (answers _ _ _ coupled.nearReaches coupled.nearExchanged).trans (monotone _ _ coupled.arrived)
          exact moves_exchanged _ _ _ one other moves (fun taken there => there.trans bound) ih

def Ended (program : Program sig E A) : Prop := ∃ outcome, program = ofExcept outcome

theorem ended_or_asks (program : Program sig E A) : Ended program ∨ ∃ op next, program = .ask op next := by
  cases program with
  | done value => exact .inl ⟨.ok value, rfl⟩
  | fail error => exact .inl ⟨.error error, rfl⟩
  | ask op next => exact .inr ⟨op, next, rfl⟩

def Ready (port : Port sig X) (calm : Event sig → Prop) (incoming : List X) (flow : Flow X) (op : sig.Op) : Prop :=
  ∃ reply out input, calm ⟨op, reply⟩ ∧ port.wrote ⟨op, reply⟩ out ∧ port.took ⟨op, reply⟩ input ∧
    flow.taken ++ input <+: incoming

theorem ready_moves (calm : Event sig → Prop) (incoming : List X) (one : Party sig X E A) (op : sig.Op)
    (next : sig.Reply op → Program sig E A) (asks : one.rest = .ask op next) (ready : Ready port calm incoming one.flow op) :
    ∃ other, Party.Moves port calm incoming one other := by
  obtain ⟨rest, log, flow⟩ := one
  cases asks
  obtain ⟨reply, out, input, good, wrote, took, there⟩ := ready
  exact ⟨_, .answered op next log flow reply out input good wrote took there⟩

theorem near_run (rest : Program sig E A) (log : History sig) (near : Party sig X E A) (far : Party sig' X E' A') (stop : Flow X)
    (run : Reaches near.rest log rest) (exchanged : Exchanged port (fun _ taken => taken <+: far.flow.sent) near.flow log stop) :
    Relation.ReflTransGen (Joined.Step port port' (fun _ => True) fun _ => True) ⟨near, far⟩
    ⟨⟨rest, near.log ++ log, stop⟩, far⟩ := by
  obtain ⟨start, before, flow⟩ := near
  dsimp only at run exchanged ⊢
  induction run generalizing before flow with
  | here program =>
      cases exchanged
      rw [List.append_nil]
  | step op next reply log rest later ih =>
      cases exchanged with
      | cons _ _ _ _ out input wrote took allowed onward =>
          have tail := ih (before ++ [⟨op, reply⟩]) (flow.after out input) onward
          rw [List.append_assoc, List.singleton_append] at tail
          exact .head (.near _ _ far (.answered op next before flow reply out input trivial wrote took allowed)) tail

theorem far_run (rest : Program sig' E' A') (log : History sig') (near : Party sig X E A)
    (far : Party sig' X E' A') (stop : Flow X)
    (run : Reaches far.rest log rest) (exchanged : Exchanged port' (fun _ taken => taken <+: near.flow.sent) far.flow log stop) :
    Relation.ReflTransGen (Joined.Step port port' (fun _ => True) fun _ => True) ⟨near, far⟩
    ⟨near, ⟨rest, far.log ++ log, stop⟩⟩ := by
  obtain ⟨start, before, flow⟩ := far
  dsimp only at run exchanged ⊢
  induction run generalizing before flow with
  | here program =>
      cases exchanged
      rw [List.append_nil]
  | step op next reply log rest later ih =>
      cases exchanged with
      | cons _ _ _ _ out input wrote took allowed onward =>
          have tail := ih (before ++ [⟨op, reply⟩]) (flow.after out input) onward
          rw [List.append_assoc, List.singleton_append] at tail
          exact .head (.far near _ _ (.answered op next before flow reply out input trivial wrote took allowed)) tail

-- A program is a finite tree, so two of them cannot answer each other for ever.
inductive Below : Program sig E A → Program sig E A → Prop
  | answered (op : sig.Op) (next : sig.Reply op → Program sig E A) (reply : sig.Reply op) : Below (next reply) (.ask op next)

theorem below_wf : WellFounded (Below : Program sig E A → Program sig E A → Prop) := by
  refine ⟨fun program => ?_⟩
  induction program with
  | done value => exact ⟨_, fun _ below => by cases below⟩
  | fail error => exact ⟨_, fun _ below => by cases below⟩
  | ask op next ih =>
      refine ⟨_, fun _ below => ?_⟩
      cases below with
      | answered _ _ reply => exact ih reply

variable (port port') in
theorem joined_wf (calm : Event sig → Prop) (calm' : Event sig' → Prop) :
    WellFounded fun other one : Joined sig sig' X E E' A A' => Joined.Step port port' calm calm' one other := by
  have nearBelow : WellFounded (Below : Program sig E A → Program sig E A → Prop) := below_wf
  have farBelow : WellFounded (Below : Program sig' E' A' → Program sig' E' A' → Prop) := below_wf
  have pairs := nearBelow.prod_gameAdd farBelow
  refine Subrelation.wf ?_ (InvImage.wf (fun state : Joined sig sig' X E E' A A' => (state.near.rest, state.far.rest)) pairs)
  intro other one step
  cases step with
  | near one other far moves =>
      cases moves with
      | answered op next log flow reply => exact .fst (.answered op next reply)
  | far near one other moves =>
      cases moves with
      | answered op next log flow reply => exact .snd (.answered op next reply)

theorem joined_run_stops (calm : Event sig → Prop) (calm' : Event sig' → Prop) (run : Nat → Joined sig sig' X E E' A A') :
    ∃ turn, ¬ Joined.Step port port' calm calm' (run turn) (run (turn + 1)) := by
  have falling : IsWellFounded (Joined sig sig' X E E' A A') fun other one => Joined.Step port port' calm calm' one other :=
    ⟨joined_wf port port' calm calm'⟩
  exact WellFounded.not_rel_apply_succ (r := fun other one => Joined.Step port port' calm calm' one other) run

theorem joined_completes (calm : Event sig → Prop) (calm' : Event sig' → Prop) (holds final : Joined sig sig' X E E' A A' → Prop)
    (keeps : ∀ one other, Joined.Step port port' calm calm' one other → holds one → holds other)
    (progress : ∀ one, holds one → ¬ final one → ∃ other, Joined.Step port port' calm calm' one other)
    (state : Joined sig sig' X E E' A A') (start : holds state) :
    ∃ last, Relation.ReflTransGen (Joined.Step port port' calm calm') state last ∧ holds last ∧ final last := by
  induction state using (joined_wf port port' calm calm').induction with
  | _ state ih =>
      by_cases ended : final state
      · exact ⟨state, .refl, start, ended⟩
      · obtain ⟨other, step⟩ := progress state start ended
        obtain ⟨last, run, kept, ends⟩ := ih other step (keeps state other step start)
        exact ⟨last, .head step run, kept, ends⟩

theorem step_any (calm : Event sig → Prop) (calm' : Event sig' → Prop) (one other : Joined sig sig' X E E' A A')
    (step : Joined.Step port port' calm calm' one other) : Joined.Step port port' (fun _ => True) (fun _ => True) one other := by
  cases step with
  | near one other far moves =>
      cases moves with
      | answered op next log flow reply out input good wrote took there =>
          exact .near _ _ far (.answered op next log flow reply out input trivial wrote took there)
  | far near one other moves =>
      cases moves with
      | answered op next log flow reply out input good wrote took there =>
          exact .far near _ _ (.answered op next log flow reply out input trivial wrote took there)

end Joins

end Interaction
