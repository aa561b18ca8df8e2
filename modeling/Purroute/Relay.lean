import Purroute.Config
import Mathlib.Logic.Relation

set_option autoImplicit false

namespace Purroute

inductive Direction where
  | toUpstream
  | toClient
deriving DecidableEq, Repr

-- One copy loop of `proxy_data`, by the await it is suspended at.
inductive Phase where
  | reading
  | reporting (chunk : Bytes)
  | writing (chunk : Bytes)
  | flushing
  | ended (result : Except ProxyError Unit)

-- What that await comes back with; a write may be partial.
inductive Action where
  | read (chunk : Bytes)
  | eof
  | readFails
  | report (reply : Except Unit (Option Int))
  | write (count : Nat)
  | writeFails
  | flush
  | flushFails

def buffer : Nat := 8192

-- Mid-stream cut-off: stop once the allowance is spent.
def afterReport (chunk : Bytes) : Except Unit (Option Int) → Phase
  | .error _ => .ended (.error .io)
  | .ok none => .writing chunk
  | .ok (some remaining) => if remaining ≤ 0 then .ended (.error .bandwidthExceeded) else .writing chunk

def Phase.step (metered : Bool) : Phase → Action → Option Phase
  | .reading, .read chunk =>
      if chunk = [] ∨ buffer < chunk.length then none else some (if metered then .reporting chunk else .writing chunk)
  | .reading, .eof => some (.ended (.ok ()))
  | .reading, .readFails => some (.ended (.error .io))
  | .reporting chunk, .report reply => some (afterReport chunk reply)
  | .writing chunk, .write count =>
      if count = 0 ∨ chunk.length < count then none
      else some (if chunk.drop count = [] then .flushing else .writing (chunk.drop count))
  | .writing _, .writeFails => some (.ended (.error .io))
  | .flushing, .flush => some .reading
  | .flushing, .flushFails => some (.ended (.error .io))
  | _, _ => none

def isEnded : Phase → Bool
  | .ended _ => true
  | _ => false

inductive Phase.Advance (metered : Bool) : Phase → Action → Phase → Prop
  | read (chunk : Bytes) (filled : chunk ≠ []) (fits : chunk.length ≤ buffer) :
      Advance metered .reading (.read chunk) (if metered then .reporting chunk else .writing chunk)
  | eof : Advance metered .reading .eof (.ended (.ok ()))
  | readFails : Advance metered .reading .readFails (.ended (.error .io))
  | report (chunk : Bytes) (reply : Except Unit (Option Int)) :
      Advance metered (.reporting chunk) (.report reply) (afterReport chunk reply)
  | write (chunk : Bytes) (count : Nat) (some : count ≠ 0) (fits : count ≤ chunk.length) :
      Advance metered (.writing chunk) (.write count) (if chunk.drop count = [] then .flushing else .writing (chunk.drop count))
  | writeFails (chunk : Bytes) : Advance metered (.writing chunk) .writeFails (.ended (.error .io))
  | flush : Advance metered .flushing .flush .reading
  | flushFails : Advance metered .flushing .flushFails (.ended (.error .io))

theorem phase_step_cases (metered : Bool) (phase next : Phase) (action : Action) (step : phase.step metered action = some next) :
    Phase.Advance metered phase action next := by
  cases phase with
  | ended outcome => cases action <;> cases step
  | reading =>
      cases action with
      | read chunk =>
          simp only [Phase.step] at step
          by_cases refused : chunk = [] ∨ buffer < chunk.length
          · rw [if_pos refused] at step
            cases step
          · rw [if_neg refused] at step
            cases step
            rw [not_or, not_lt] at refused
            exact .read chunk refused.1 refused.2
      | eof =>
          cases step
          exact .eof
      | readFails =>
          cases step
          exact .readFails
      | _ => cases step
  | reporting chunk =>
      cases action with
      | report reply =>
          cases step
          exact .report chunk reply
      | _ => cases step
  | writing chunk =>
      cases action with
      | write count =>
          simp only [Phase.step] at step
          by_cases refused : count = 0 ∨ chunk.length < count
          · rw [if_pos refused] at step
            cases step
          · rw [if_neg refused] at step
            cases step
            rw [not_or, not_lt] at refused
            exact .write chunk count refused.1 refused.2
      | writeFails =>
          cases step
          exact .writeFails chunk
      | _ => cases step
  | flushing =>
      cases action with
      | flush =>
          cases step
          exact .flush
      | flushFails =>
          cases step
          exact .flushFails
      | _ => cases step

structure Relay where
  unread : Direction → Bytes
  written : Direction → Bytes
  phase : Direction → Phase

-- Each one-shot signal is sent in the poll that ends its loop, so the signal
-- branches of `select!` never win.
def isOpen (relay : Relay) : Prop := ∀ direction, isEnded (relay.phase direction) = false

def result (relay : Relay) : Option (Except ProxyError Unit) :=
  match relay.phase .toUpstream, relay.phase .toClient with
  | .ended outcome, _ => some outcome
  | _, .ended outcome => some outcome
  | _, _ => none

def startRelay (streams : Direction → Bytes) : Relay := ⟨streams, fun _ => [], fun _ => .reading⟩

def available (unread : Bytes) : Action → Prop
  | .read chunk => chunk <+: unread
  | .eof => unread = []
  | _ => True

def taken : Action → Nat
  | .read chunk => chunk.length
  | _ => 0

def given (phase : Phase) (action : Action) : Bytes :=
  match phase, action with
  | .writing chunk, .write count => chunk.take count
  | _, _ => []

def undisturbed : Action → Prop
  | .readFails => False
  | .report reply => reply = .ok none
  | .writeFails => False
  | .flushFails => False
  | _ => True

def moved (relay : Relay) (direction : Direction) (action : Action) (next : Phase) : Relay where
  unread := Function.update relay.unread direction ((relay.unread direction).drop (taken action))
  written := Function.update relay.written direction (relay.written direction ++ given (relay.phase direction) action)
  phase := Function.update relay.phase direction next

theorem moved_phase (relay : Relay) (direction : Direction) (action : Action) (next : Phase) :
    (moved relay direction action next).phase direction = next := Function.update_self ..

theorem moved_other (relay : Relay) (direction other : Direction) (action : Action) (next : Phase)
    (different : other ≠ direction) :
    (moved relay direction action next).phase other = relay.phase other := Function.update_of_ne different ..

inductive Relay.Step (metered : Bool) (allowed : Action → Prop) : Relay → Relay → Prop
  | copy (relay : Relay) (direction : Direction) (action : Action) (next : Phase) (running : isOpen relay) (kind : allowed action)
      (enabled : available (relay.unread direction) action) (step : (relay.phase direction).step metered action = some next) :
      Step metered allowed relay (moved relay direction action next)

def inHand : Phase → Bytes
  | .reporting chunk => chunk
  | .writing chunk => chunk
  | _ => []

structure Faithful (stream unread written : Bytes) (phase : Phase) : Prop where
  order : written <+: stream
  kept : isEnded phase = false → stream = written ++ inHand phase ++ unread
  complete : phase = .ended (.ok ()) → written = stream

section Arms

variable (stream unread written chunk : Bytes)

theorem faithful_read (metered : Bool) (enabled : chunk <+: unread) (faithful : Faithful stream unread written .reading) :
    Faithful stream (unread.drop chunk.length) written (if metered then .reporting chunk else .writing chunk) := by
  have rest : unread = chunk ++ unread.drop chunk.length := by
    obtain ⟨later, rfl⟩ := enabled
    rw [List.drop_left]
  have split : stream = written ++ chunk ++ unread.drop chunk.length := by
    have whole := faithful.kept rfl
    rw [List.append_assoc, ← rest]
    simpa [inHand] using whole
  cases metered with
  | true => exact ⟨faithful.order, fun _ => split, by simp⟩
  | false => exact ⟨faithful.order, fun _ => split, by simp⟩

theorem faithful_eof (faithful : Faithful stream [] written .reading) : Faithful stream [] written (.ended (.ok ())) := by
  have complete : written = stream := by simpa [inHand] using (faithful.kept rfl).symm
  exact ⟨faithful.order, by simp [isEnded], fun _ => complete⟩

theorem faithful_write (count : Nat) (faithful : Faithful stream unread written (.writing chunk)) :
    Faithful stream unread (written ++ chunk.take count) (if chunk.drop count = [] then .flushing
      else .writing (chunk.drop count)) := by
  have split : stream = (written ++ chunk.take count) ++ chunk.drop count ++ unread := by
    rw [List.append_assoc written, List.take_append_drop]
    exact faithful.kept rfl
  have order : written ++ chunk.take count <+: stream := by
    rw [split, List.append_assoc]
    exact List.prefix_append _ _
  by_cases all : chunk.drop count = []
  · rw [if_pos all]
    exact ⟨order, fun _ => by simpa [inHand, all] using split, by simp⟩
  · rw [if_neg all]
    exact ⟨order, fun _ => split, by simp⟩

variable (phase : Phase) (faithful : Faithful stream unread written phase)

include faithful

theorem faithful_fails (reason : ProxyError) : Faithful stream unread written (.ended (.error reason)) :=
  ⟨faithful.order, by simp [isEnded], by simp⟩

theorem faithful_goes_on (next : Phase) (running : isEnded phase = false) (hand : inHand next = inHand phase)
    (goesOn : isEnded next = false) : Faithful stream unread written next := by
  refine ⟨faithful.order, fun _ => ?_, ?_⟩
  · rw [hand]
    exact faithful.kept running
  · intro ended
    rw [ended] at goesOn
    cases goesOn

end Arms

theorem phase_step_faithful (metered : Bool) (stream unread written : Bytes) (phase next : Phase) (action : Action)
    (running : isEnded phase = false) (enabled : available unread action) (step : phase.step metered action = some next)
    (faithful : Faithful stream unread written phase) :
    Faithful stream (unread.drop (taken action)) (written ++ given phase action) next := by
  have stopped : ∀ reason, Faithful stream unread (written ++ []) (.ended (.error reason)) := by
    intro reason
    rw [List.append_nil]
    exact faithful_fails stream unread written phase faithful reason
  have goesOn : ∀ phase', inHand phase' = inHand phase → isEnded phase' = false →
    Faithful stream unread (written ++ []) phase' := by
    intro phase' hand openPhase
    rw [List.append_nil]
    exact faithful_goes_on stream unread written phase faithful phase' running hand openPhase
  cases phase_step_cases metered phase next action step with
  | read chunk filled fits =>
      simpa only [given, taken, List.append_nil] using faithful_read stream unread written chunk metered enabled faithful
  | eof =>
      have drained : unread = [] := enabled
      subst drained
      simpa only [given, taken, List.append_nil, List.drop_zero] using faithful_eof stream written faithful
  | readFails => exact stopped .io
  | report chunk reply =>
      rcases reply with failure | _ | remaining
      · exact stopped .io
      · exact goesOn (.writing chunk) rfl rfl
      · by_cases spent : remaining ≤ 0
        · simp only [afterReport, if_pos spent]
          exact stopped .bandwidthExceeded
        · simp only [afterReport, if_neg spent]
          exact goesOn (.writing chunk) rfl rfl
  | write chunk count some fits => exact faithful_write stream unread written chunk count faithful
  | writeFails chunk => exact stopped .io
  | flush => exact goesOn .reading rfl rfl
  | flushFails => exact stopped .io

theorem relay_faithful (metered : Bool) (allowed : Action → Prop) (streams : Direction → Bytes) (relay : Relay)
    (reached : Relation.ReflTransGen (Relay.Step metered allowed) (startRelay streams) relay) (direction : Direction) :
    Faithful (streams direction) (relay.unread direction) (relay.written direction) (relay.phase direction) := by
  induction reached with
  | refl =>
      have nothing : [] <+: streams direction := List.nil_prefix
      exact ⟨nothing, fun _ => by simp [startRelay, inHand], by simp [startRelay]⟩
  | tail _ step ih =>
      cases step with
      | copy acting action next running kind enabled step =>
          by_cases same : direction = acting
          · subst same
            simp only [moved, Function.update_self]
            exact phase_step_faithful metered _ _ _ _ next action (running direction) enabled step ih
          · simp only [moved, Function.update_of_ne same]
            exact ih

theorem result_ok (relay : Relay) (finished : result relay = some (.ok ())) :
    ∃ direction, relay.phase direction = .ended (.ok ()) := by
  rw [result] at finished
  split at finished
  · rename_i outcome upstream
    cases finished
    exact ⟨.toUpstream, upstream⟩
  · rename_i outcome client _
    cases finished
    exact ⟨.toClient, client⟩
  · cases finished

-- The stream that ended is delivered whole, the other one as far as it came.
theorem relay_delivers_one_stream (metered : Bool) (allowed : Action → Prop) (streams : Direction → Bytes) (relay : Relay)
    (reached : Relation.ReflTransGen (Relay.Step metered allowed) (startRelay streams) relay)
    (finished : result relay = some (.ok ())) :
    (∃ direction, relay.written direction = streams direction) ∧ ∀ direction, relay.written direction <+: streams direction := by
  obtain ⟨direction, ended⟩ := result_ok relay finished
  have faithful := relay_faithful metered allowed streams relay reached
  exact ⟨⟨direction, (faithful direction).complete ended⟩, fun other => (faithful other).order⟩

theorem both_open (relay : Relay) (upstream : isEnded (relay.phase .toUpstream) = false)
    (client : isEnded (relay.phase .toClient) = false) : isOpen relay := by
  intro direction
  cases direction with
  | toUpstream => exact upstream
  | toClient => exact client

section Examples

def exchange : Direction → Bytes
  | .toUpstream => [71]
  | .toClient => [72]

def requestSent : Relay := moved (startRelay exchange) .toUpstream (.read [71]) (.writing [71])

def halfClosed : Relay :=
  moved (moved (moved requestSent .toUpstream (.write 1) .flushing) .toUpstream .flush .reading) .toUpstream .eof
    (.ended (.ok ()))

theorem half_closed_reached : Relation.ReflTransGen (Relay.Step false undisturbed) (startRelay exchange) halfClosed := by
  have step := @Relay.Step.copy false undisturbed
  refine .head (step _ .toUpstream (.read [71]) _ (both_open _ rfl rfl) trivial List.prefix_rfl rfl) ?_
  refine .head (step _ .toUpstream (.write 1) _ (both_open _ rfl rfl) trivial trivial rfl) ?_
  refine .head (step _ .toUpstream .flush _ (both_open _ rfl rfl) trivial trivial rfl) ?_
  exact .single (step _ .toUpstream .eof _ (both_open _ rfl rfl) trivial rfl rfl)

theorem half_close_loses_response : ¬ ∀ (streams : Direction → Bytes) (relay : Relay),
    Relation.ReflTransGen (Relay.Step false undisturbed) (startRelay streams) relay → result relay = some (.ok ()) →
      ∀ direction, relay.written direction = streams direction := by
  intro lossless
  have delivered := lossless exchange halfClosed half_closed_reached rfl .toClient
  have nothing : halfClosed.written .toClient = [] := rfl
  rw [nothing] at delivered
  cases delivered

theorem half_close_delivers_request : (∃ direction, halfClosed.written direction = exchange direction) ∧
    ∀ direction, halfClosed.written direction <+: exchange direction :=
  relay_delivers_one_stream false undisturbed exchange halfClosed half_closed_reached rfl

end Examples

end Purroute
