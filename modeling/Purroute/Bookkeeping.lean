import Purroute.Display

set_option autoImplicit false

namespace Purroute

open Atomics

section Cells

variable (config : LogConfig) {capacity : Nat} (broadcast : Broadcast capacity) (client : Bool)

def called (counter : Counter) (log : List StatsEvent) : Count := amounts counter ((calls log).flatMap (StatsCall.atoms config))

def IsCurrent (counter : Counter) : Prop := counter = .currentBytesIn ∨ counter = .currentBytesOut

structure CellsKept (base : GlobalStats) (s : Station) : Prop where
  run : Run base (accesses s.log) s.cells
  pending : ∀ counter, added counter (accesses s.log) + amounts counter s.tasks.flatten = called config counter s.log
  unswapped : ∀ counter, ¬ IsCurrent counter → Unswapped counter (accesses s.log)

theorem part_append {A : Type} (part : StatsEvent → Option A) (log : List StatsEvent) (event : StatsEvent) :
    (log ++ [event]).filterMap part = log.filterMap part ++ (part event).toList := by
  rw [List.filterMap_append]
  cases known : part event with
  | none =>
      rw [List.filterMap_cons_none known]
      rfl
  | some value =>
      rw [List.filterMap_cons_some known]
      rfl

theorem part_other {A : Type} (part : StatsEvent → Option A) (log : List StatsEvent) (event : StatsEvent)
    (other : part event = none) :
    (log ++ [event]).filterMap part = log.filterMap part := by
  rw [part_append, other]
  exact List.append_nil _

theorem called_append (counter : Counter) (log : List StatsEvent) (event : StatsEvent) :
    called config counter (log ++ [event]) =
      called config counter log + amounts counter ((callOf event).toList.flatMap (StatsCall.atoms config)) := by
  rw [called, calls, part_append, List.flatMap_append, amounts_append, called, calls]

theorem called_other (counter : Counter) (log : List StatsEvent) (event : StatsEvent) (other : callOf event = none) :
    called config counter (log ++ [event]) = called config counter log := by
  rw [called, calls, part_other callOf log event other, called, calls]

theorem tasks_amounts (counter : Counter) (before after : List (List Atom)) (atom : Atom) (rest : List Atom) :
    amounts counter (before ++ (atom :: rest) :: after).flatten =
      amountOf counter atom + amounts counter (before ++ rest :: after).flatten := by
  simp only [List.flatten_append, List.flatten_cons, amounts_append, amounts_cons]
  abel

theorem read_access_cell (idle : Bool) (counter : Counter) : (readAccess idle counter).cell = counter := by
  rw [readAccess]
  split <;> rfl

theorem read_adds_nothing (idle : Bool) (counter other : Counter) (found : Count) :
    addedBy other (readAccess idle counter, found) = 0 := by
  rw [readAccess]
  split <;> rfl

theorem read_swaps_current (idle : Bool) (counter other : Counter) (value : Count) (kept : ¬ IsCurrent other) :
    readAccess idle counter ≠ .swap other value := by
  rw [readAccess]
  split
  · rename_i resets
    intro same
    cases same
    exact kept resets.2
  · nofun

theorem unswapped_append (counter : Counter) (log : List (Access Counter Count × Count)) (entry : Access Counter Count × Count)
    (unswapped : Unswapped counter log) (other : ∀ value, entry.1 ≠ .swap counter value) :
    Unswapped counter (log ++ [entry]) := by
  intro value found member
  rw [List.mem_append, List.mem_singleton] at member
  cases member with
  | inl before => exact unswapped value found before
  | inr last => exact other value (congrArg Prod.fst last).symm

theorem cells_kept_other (base : GlobalStats) (s next : Station) (cells : next.cells = s.cells)
    (log : accesses next.log = accesses s.log)
    (calls : ∀ counter, called config counter next.log = called config counter s.log)
    (tasks : ∀ counter, amounts counter next.tasks.flatten = amounts counter s.tasks.flatten) (kept : CellsKept config base s) :
    CellsKept config base next := by
  obtain ⟨run, pending, unswapped⟩ := kept
  refine ⟨?_, ?_, ?_⟩
  · rw [log, cells]
    exact run
  · intro counter
    rw [log, tasks, calls]
    exact pending counter
  · rw [log]
    exact unswapped

theorem step_cells (base : GlobalStats) (s next : Station) (step : Station.Step config broadcast client s next)
    (kept : CellsKept config base s) :
    CellsKept config base next := by
  have quiet : ∀ event, accessOf event = none → callOf event = none → accesses (s.log ++ [event]) = accesses s.log ∧
      ∀ counter, called config counter (s.log ++ [event]) = called config counter s.log :=
    fun event access call => ⟨part_other accessOf s.log event access, fun counter => called_other config counter s.log event call⟩
  obtain ⟨run, pending, unswapped⟩ := kept
  cases step with
  | call call =>
      have same : accesses (s.log ++ [.called call]) = accesses s.log := part_other accessOf s.log (.called call) rfl
      refine ⟨?_, ?_, ?_⟩
      · rw [same]
        exact run
      · intro counter
        have one : (callOf (.called call)).toList.flatMap (StatsCall.atoms config) = call.atoms config :=
          List.flatMap_singleton _ _
        rw [same, List.flatten_append, amounts_append, ← add_assoc, pending counter, called_append, List.flatten_singleton, one]
      · rw [same]
        exact unswapped
  | add before after rest counter amount here =>
      have entry : accesses (s.log ++ [.accessed (.fetchAdd counter amount) (s.cells counter)]) =
          accesses s.log ++ [(.fetchAdd counter amount, s.cells counter)] := part_append accessOf _ _
      refine ⟨?_, ?_, ?_⟩
      · rw [entry]
        exact .append _ _ (.fetchAdd counter amount) run
      · intro other
        have total := pending other
        rw [here, tasks_amounts] at total
        rw [entry, added_append, add_assoc, called_other config other s.log (.accessed _ _) rfl]
        exact total
      · intro other kept
        rw [entry]
        exact unswapped_append other _ _ (unswapped other kept) nofun
  | send before after rest message here =>
      refine cells_kept_other config base s _ rfl rfl (fun _ => rfl) (fun counter => ?_) ⟨run, pending, unswapped⟩
      rw [here, tasks_amounts]
      exact (zero_add _).symm
  | tick waiting =>
      exact cells_kept_other config base s _ rfl (quiet _ rfl rfl).1 (quiet _ rfl rfl).2 (fun _ => rfl) ⟨run, pending, unswapped⟩
  | receive message timestamp channel receiving got =>
      exact cells_kept_other config base s _ rfl (quiet _ rfl rfl).1 (quiet _ rfl rfl).2 (fun _ => rfl) ⟨run, pending, unswapped⟩
  | drained channel receiving got =>
      exact cells_kept_other config base s _ rfl rfl (fun _ => rfl) (fun _ => rfl) ⟨run, pending, unswapped⟩
  | lag channel receiving got =>
      exact cells_kept_other config base s _ rfl (quiet _ rfl rfl).1 (quiet _ rfl rfl).2 (fun _ => rfl) ⟨run, pending, unswapped⟩
  | measure idle measuring =>
      exact cells_kept_other config base s _ rfl rfl (fun _ => rfl) (fun _ => rfl) ⟨run, pending, unswapped⟩
  | read idle stats counter left reading =>
      have entry : accesses (s.log ++ [.accessed (readAccess idle counter) (s.cells counter)]) =
          accesses s.log ++ [(readAccess idle counter, s.cells counter)] := part_append accessOf _ _
      refine ⟨?_, ?_, ?_⟩
      · rw [entry]
        have next := Run.append _ _ (readAccess idle counter) run
        rwa [read_access_cell] at next
      · intro other
        rw [entry, added_append, read_adds_nothing, add_zero, called_other config other s.log (.accessed _ _) rfl]
        exact pending other
      · intro other kept
        rw [entry]
        exact unswapped_append other _ _ (unswapped other kept) fun value => read_swaps_current idle counter other value kept
  | compare idle stats reading =>
      exact cells_kept_other config base s _ rfl rfl (fun _ => rfl) (fun _ => rfl) ⟨run, pending, unswapped⟩
  | print stats refreshing =>
      exact cells_kept_other config base s _ rfl rfl (fun _ => rfl) (fun _ => rfl) ⟨run, pending, unswapped⟩
  | tear stats screen refreshing =>
      exact cells_kept_other config base s _ rfl rfl (fun _ => rfl) (fun _ => rfl) ⟨run, pending, unswapped⟩
  | record stats applied ok recording answered offline =>
      exact cells_kept_other config base s _ rfl (quiet _ rfl rfl).1 (quiet _ rfl rfl).2 (fun _ => rfl) ⟨run, pending, unswapped⟩

end Cells

section Messages

variable (config : LogConfig) {capacity : Nat} (broadcast : Broadcast capacity) (client : Bool)

def Printed (level : LogLevel) : Prop := ∀ entry : LogEntry, entry.level = level → printLogEntry config entry = some entry

def lastLines (messages : List LogMessage) : List LogMessage := messages.drop (messages.length - maxLogLines)

def lineOf (entry : LogEntry) : LogMessage := (entry.message, entry.level)

structure MessagesKept (s : Station) : Prop where
  printed : ∀ message ∈ s.channel.sent, Printed config message.2
  pending : ∀ message, .send message ∈ s.tasks.flatten → Printed config message.2
  next : s.channel.next ≤ s.channel.sent.length
  part : (receivedIn s.log).Sublist (s.channel.sent.take s.channel.next)
  complete : .lagged ∉ s.log → receivedIn s.log = s.channel.sent.take s.channel.next
  window : s.display.logs.map lineOf = lastLines (receivedIn s.log)

theorem log_message_printed (message : LogMessage) (text : Str) (level : LogLevel)
    (sent : .send message ∈ GlobalStats.logMessage config text level) :
    Printed config message.2 := by
  unfold GlobalStats.logMessage at sent
  intro entry same
  rw [printLogEntry, same]
  cases on : config.log with
  | none =>
      rw [on] at sent
      cases sent
  | some enabled =>
      cases enabled with
      | false =>
          rw [on] at sent
          cases sent
      | true =>
          rw [on] at sent
          cases level with
          | error =>
              cases List.mem_singleton.mp sent
              rfl
          | info =>
              dsimp only at sent
              split at sent
              · rename_i shown
                cases List.mem_singleton.mp sent
                exact if_pos shown
              · cases sent
          | success =>
              dsimp only at sent
              split at sent
              · rename_i shown
                cases List.mem_singleton.mp sent
                exact if_pos shown
              · cases sent

theorem call_printed (call : StatsCall) (message : LogMessage) (sent : .send message ∈ call.atoms config) :
    Printed config message.2 := by
  have noBytes : ∀ current total bytes, .send message ∉ GlobalStats.addBytes current total bytes := by
    intro current total bytes
    rw [GlobalStats.addBytes]
    split
    · simp
    · exact List.not_mem_nil
  cases call with
  | incrementActiveConnections => simp [StatsCall.atoms, GlobalStats.incrementActiveConnections] at sent
  | decrementActiveConnections => simp [StatsCall.atoms, GlobalStats.decrementActiveConnections] at sent
  | recordConnectionResult success text =>
      rw [StatsCall.atoms, GlobalStats.recordConnectionResult] at sent
      split at sent
      · exact log_message_printed config message text _ ((List.mem_cons.mp sent).resolve_left nofun)
      · exact log_message_printed config message text _ ((List.mem_cons.mp sent).resolve_left nofun)
  | logInfo text =>
      rw [StatsCall.atoms, GlobalStats.logInfo] at sent
      exact log_message_printed config message text _ sent
  | addBytesIn bytes => exact absurd sent (noBytes _ _ bytes)
  | addBytesOut bytes => exact absurd sent (noBytes _ _ bytes)

theorem push_log_window (logs : List LogEntry) (entry : LogEntry) (messages : List LogMessage)
    (window : logs.map lineOf = lastLines messages) :
    (pushLog logs entry).map lineOf = lastLines (messages ++ [lineOf entry]) := by
  have size : logs.length = messages.length - (messages.length - maxLogLines) := by
    rw [← List.length_map lineOf, window, lastLines, List.length_drop]
  rw [pushLog, lastLines, List.map_append, List.length_append, List.length_singleton, List.map_singleton]
  by_cases full : logs.length ≥ maxLogLines
  · have enough : maxLogLines ≤ messages.length := by omega
    have place : messages.length + 1 - maxLogLines = messages.length - maxLogLines + 1 := by omega
    have inside : messages.length - maxLogLines + 1 ≤ messages.length := by
      rw [maxLogLines] at *
      omega
    rw [if_pos full, List.map_drop, window, lastLines, List.drop_drop, place, List.drop_append_of_le_length inside]
  · have short : messages.length + 1 - maxLogLines = 0 := by omega
    have before : messages.length - maxLogLines = 0 := by omega
    rw [if_neg full, window, lastLines, before, short]
    rfl

theorem messages_kept_other (s next : Station) (channel : next.channel = s.channel) (logs : next.display.logs = s.display.logs)
    (received : receivedIn next.log = receivedIn s.log) (lagged : .lagged ∉ next.log → .lagged ∉ s.log)
    (tasks : ∀ message, .send message ∈ next.tasks.flatten → .send message ∈ s.tasks.flatten) (kept : MessagesKept config s) :
    MessagesKept config next := by
  obtain ⟨printed, pending, place, part, complete, window⟩ := kept
  refine ⟨?_, fun message sent => pending message (tasks message sent), ?_, ?_, ?_, ?_⟩
  · rw [channel]
    exact printed
  · rw [channel]
    exact place
  · rw [channel, received]
    exact part
  · rw [channel, received]
    exact fun none => complete (lagged none)
  · rw [logs, received]
    exact window

theorem fewer_tasks (before after : List (List Atom)) (atom : Atom) (rest : List Atom) (message : LogMessage)
    (sent : .send message ∈ (before ++ rest :: after).flatten) : .send message ∈ (before ++ (atom :: rest) :: after).flatten := by
  simp only [List.flatten_append, List.flatten_cons, List.mem_append, List.mem_cons] at sent ⊢
  rcases sent with first | here | last
  · exact .inl first
  · exact .inr (.inl (.inr here))
  · exact .inr (.inr last)

theorem compare_db_logs (display : StatsDisplay) (stats : GlobalStatsSnapshot) :
    (display.compareDb stats).logs = display.logs := by
  rw [StatsDisplay.compareDb]
  split <;> rfl

theorem compare_logs (display : StatsDisplay) (stats : GlobalStatsSnapshot) : (display.compare stats).logs = display.logs := by
  rw [StatsDisplay.compare]
  split
  · rfl
  · exact compare_db_logs display stats

theorem step_messages (s next : Station) (step : Station.Step config broadcast client s next) (kept : MessagesKept config s) :
    MessagesKept config next := by
  have earlier : ∀ event, StatsEvent.lagged ∉ s.log ++ [event] → .lagged ∉ s.log :=
    fun event none member => none (List.mem_append_left _ member)
  cases step with
  | call call =>
      have received : receivedIn (s.log ++ [.called call]) = receivedIn s.log := part_other receivedOf s.log (.called call) rfl
      refine ⟨kept.printed, ?_, kept.next, ?_, ?_, ?_⟩
      · intro message sent
        rw [List.flatten_append, List.mem_append, List.flatten_singleton] at sent
        exact sent.elim (kept.pending message) (call_printed config call message)
      · rw [received]
        exact kept.part
      · rw [received]
        exact fun none => kept.complete (earlier _ none)
      · rw [received]
        exact kept.window
  | add before after rest counter amount here =>
      refine messages_kept_other config s _ rfl rfl (part_other receivedOf _ _ rfl) (earlier _) (fun message sent => ?_) kept
      rw [here]
      exact fewer_tasks before after _ rest message sent
  | send before after rest message here =>
      obtain ⟨printed, pending, place, part, complete, window⟩ := kept
      have same : (s.channel.sent ++ [message]).take s.channel.next = s.channel.sent.take s.channel.next :=
        List.take_append_of_le_length place
      refine ⟨?_, ?_, ?_, ?_, ?_, window⟩
      · intro other sent
        rw [Channel.send, List.mem_append, List.mem_singleton] at sent
        cases sent with
        | inl known => exact printed other known
        | inr fresh =>
            rw [fresh]
            apply pending
            rw [here]
            simp
      · intro other sent
        apply pending
        rw [here]
        exact fewer_tasks before after _ rest other sent
      · rw [Channel.send, List.length_append]
        exact Nat.le_add_right_of_le place
      · exact same ▸ part
      · exact fun none => (complete none).trans same.symm
  | tick waiting =>
      exact messages_kept_other config s _ rfl rfl (part_other receivedOf _ _ rfl) (earlier _) (fun _ sent => sent) kept
  | receive message timestamp channel receiving got =>
      obtain ⟨printed, pending, place, part, complete, window⟩ := kept
      obtain ⟨found, rfl⟩ := broadcast.inOrder _ _ _ got
      have taken : s.channel.sent.take (s.channel.next + 1) = s.channel.sent.take s.channel.next ++ [message] := by
        rw [List.take_add_one, found]
        rfl
      have received : receivedIn (s.log ++ [.received message]) = receivedIn s.log ++ [message] := part_append receivedOf _ _
      refine ⟨printed, pending, ?_, ?_, ?_, ?_⟩
      · exact (List.getElem?_eq_some_iff.mp found).1
      · rw [received, taken]
        exact part.append (List.Sublist.refl _)
      · rw [received, taken]
        exact fun none => by rw [complete (earlier _ none)]
      · rw [received]
        exact push_log_window s.display.logs ⟨timestamp, message.1, message.2⟩ _ window
  | drained channel receiving got =>
      obtain ⟨_, rfl⟩ := broadcast.exhausted _ _ got
      exact messages_kept_other config s _ rfl rfl rfl (fun none => none) (fun _ sent => sent) kept
  | lag channel receiving got =>
      obtain ⟨printed, pending, place, part, complete, window⟩ := kept
      obtain ⟨_, kept, further, inside⟩ := broadcast.overrun _ _ got
      have received : receivedIn (s.log ++ [.lagged]) = receivedIn s.log := part_other receivedOf s.log .lagged rfl
      refine ⟨?_, pending, ?_, ?_, ?_, ?_⟩
      · rw [kept]
        exact printed
      · rw [kept]
        exact inside
      · rw [received, kept]
        exact part.trans (List.take_sublist_take_left further)
      · exact fun none => absurd (List.mem_append_right _ (List.mem_singleton_self _)) none
      · rw [received]
        exact window
  | measure idle measuring => exact messages_kept_other config s _ rfl rfl rfl (fun none => none) (fun _ sent => sent) kept
  | read idle stats counter left reading =>
      exact messages_kept_other config s _ rfl rfl (part_other receivedOf _ _ rfl) (earlier _) (fun _ sent => sent) kept
  | compare idle stats reading =>
      exact messages_kept_other config s _ rfl (compare_logs _ _) rfl (fun none => none) (fun _ sent => sent) kept
  | print stats refreshing =>
      exact messages_kept_other config s _ rfl (compare_db_logs _ _) rfl (fun none => none) (fun _ sent => sent) kept
  | tear stats screen refreshing => exact messages_kept_other config s _ rfl rfl rfl (fun none => none) (fun _ sent => sent) kept
  | record stats applied ok recording answered offline =>
      exact messages_kept_other config s _ rfl rfl (part_other receivedOf _ _ rfl) (earlier _) (fun _ sent => sent) kept

end Messages

section Loop

variable (config : LogConfig) {capacity : Nat} (broadcast : Broadcast capacity) (client : Bool)

def ticksOf (ticks : Nat) : StatsEvent → Nat
  | .ticked => ticks + 1
  | .recorded _ => 0
  | _ => ticks

def ticksSince (log : List StatsEvent) : Nat := log.foldl ticksOf 0

def foundLast (counter : Counter) (log : List StatsEvent) : Option Count :=
  (lastReading counter (accesses log)).map CellReading.found

def Latest (stats : GlobalStatsSnapshot) (log : List StatsEvent) : Prop := ∀ counter, foundLast counter log = some (stats counter)

def ReadSoFar (stats : GlobalStatsSnapshot) (left : List Counter) (log : List StatsEvent) : Prop :=
  ∃ done, counters = done ++ left ∧ ∀ counter ∈ done, foundLast counter log = some (stats counter)

def SameTotals (one other : GlobalStatsSnapshot) : Prop := ∀ counter ∈ recordedCounters, one counter = other counter

structure AtRest (display : StatsDisplay) (log : List StatsEvent) : Prop where
  noNewLogs : display.hasNewLogs = false
  ticks : display.ticksSinceDbUpdate < dbUpdateIntervalTicks
  compared : (display.lastStats = none ∧ .ticked ∉ log) ∨
    ∃ stats last, display.lastStats = some stats ∧ Latest stats log ∧ display.lastDbStats = some last ∧ SameTotals last stats

def AtStage (display : StatsDisplay) (log : List StatsEvent) : Prop :=
  match display.stage with
  | .waiting => AtRest display log
  | .receiving => display.ticksSinceDbUpdate ≤ dbUpdateIntervalTicks
  | .measuring => display.ticksSinceDbUpdate ≤ dbUpdateIntervalTicks
  | .reading _ stats left => display.ticksSinceDbUpdate ≤ dbUpdateIntervalTicks ∧ ReadSoFar stats left log
  | .refreshing stats => display.ticksSinceDbUpdate ≤ dbUpdateIntervalTicks ∧ Latest stats log
  | .recording stats => Latest stats log ∧ display.lastStats = some stats ∧ display.hasNewLogs = false
  | .stopped => True

def Shows (display : StatsDisplay) (screen : Option Screen) : Prop :=
  match display.lastStats with
  | none => screen = none
  | some stats =>
      ∃ lines, screen = some ⟨stats, lines⟩ ∧ (display.hasNewLogs = false → lines = display.logs.filterMap (printLogEntry config))

structure LoopKept (s : Station) : Prop where
  ticks : s.display.ticksSinceDbUpdate = ticksSince s.log
  shows : s.display.stage ≠ .stopped → Shows config s.display s.screen
  stage : AtStage s.display s.log

theorem counters_all (counter : Counter) : counter ∈ counters := by
  cases counter <;> decide

theorem differs_false (fields : List Counter) (last : Option GlobalStatsSnapshot) (stats : GlobalStatsSnapshot) :
    differs fields last stats = false ↔ ∃ before, last = some before ∧ ∀ counter ∈ fields, before counter = stats counter := by
  cases last with
  | none => simp [differs]
  | some before => simp [differs]

theorem stats_unchanged (display : StatsDisplay) (stats : GlobalStatsSnapshot) (same : ¬ statsChanged display stats = true) :
    display.lastStats = some stats := by
  rw [Bool.not_eq_true, statsChanged, differs_false] at same
  obtain ⟨before, last, equal⟩ := same
  rw [last, funext fun counter => equal counter (counters_all counter)]

theorem compare_db_cases (display : StatsDisplay) (stats : GlobalStatsSnapshot) :
    display.compareDb stats = { display with stage := .recording stats } ∨
      (display.compareDb stats = { display with stage := .waiting } ∧ display.ticksSinceDbUpdate < dbUpdateIntervalTicks ∧
        ∃ last, display.lastDbStats = some last ∧ SameTotals last stats) := by
  rw [StatsDisplay.compareDb]
  split
  · exact .inl rfl
  · rename_i still
    rw [not_or, Bool.not_eq_true, dbStatsChanged, differs_false] at still
    exact .inr ⟨rfl, Nat.lt_of_not_ge still.1, still.2⟩

theorem compare_cases (display : StatsDisplay) (stats : GlobalStatsSnapshot) :
    display.compare stats = { display with stage := .refreshing stats } ∨
      (display.compare stats = display.compareDb stats ∧ display.hasNewLogs = false ∧ display.lastStats = some stats) := by
  rw [StatsDisplay.compare]
  split
  · exact .inl rfl
  · rename_i still
    rw [not_or, Bool.not_eq_true] at still
    exact .inr ⟨rfl, still.1, stats_unchanged display stats still.2⟩

theorem compare_db_kept (display : StatsDisplay) (stats : GlobalStatsSnapshot) (log : List StatsEvent) (screen : Option Screen)
    (latest : Latest stats log) (last : display.lastStats = some stats) (noNewLogs : display.hasNewLogs = false)
    (shows : Shows config display screen) :
    AtStage (display.compareDb stats) log ∧ Shows config (display.compareDb stats) screen ∧
      (display.compareDb stats).ticksSinceDbUpdate = display.ticksSinceDbUpdate := by
  rcases compare_db_cases display stats with recording | ⟨waiting, ticks, before, recorded, same⟩
  · rw [recording]
    exact ⟨⟨latest, last, noNewLogs⟩, shows, rfl⟩
  · rw [waiting]
    exact ⟨⟨noNewLogs, ticks, .inr ⟨stats, before, last, latest, recorded, same⟩⟩, shows, rfl⟩

theorem ticks_next (log : List StatsEvent) (event : StatsEvent) (before after : Nat) (ticks : before = ticksSince log)
    (next : ticksOf before event = after) : after = ticksSince (log ++ [event]) := by
  rw [ticksSince, List.foldl_concat, ← next, ticks, ticksSince]

theorem found_last_other (counter : Counter) (log : List StatsEvent) (event : StatsEvent) (other : accessOf event = none) :
    foundLast counter (log ++ [event]) = foundLast counter log := by
  rw [foundLast, accesses, part_other accessOf log event other, foundLast, accesses]

theorem found_last_add (counter other : Counter) (amount found : Count) (log : List StatsEvent) :
    foundLast counter (log ++ [.accessed (.fetchAdd other amount) found]) = foundLast counter log := by
  have entry : accesses (log ++ [.accessed (.fetchAdd other amount) found]) = accesses log ++ [(.fetchAdd other amount, found)] :=
    part_append accessOf _ _
  rw [foundLast, entry, last_reading_append, CellReading.next, foundLast]
  split
  · rw [Option.map_map]
    rfl
  · rfl

theorem found_last_read (idle : Bool) (counter other : Counter) (found : Count) (log : List StatsEvent) :
    foundLast other (log ++ [.accessed (readAccess idle counter) found]) =
      if counter = other then some found else foundLast other log := by
  have entry : accesses (log ++ [.accessed (readAccess idle counter) found]) =
    accesses log ++ [(readAccess idle counter, found)] :=
    part_append accessOf _ _
  rw [foundLast, entry, last_reading_append, readAccess]
  split
  · rw [CellReading.next]
    split <;> rfl
  · rw [CellReading.next]
    split <;> rfl

theorem ticked_other (log : List StatsEvent) (event : StatsEvent) (none : .ticked ∉ log) (other : event ≠ .ticked) :
    .ticked ∉ log ++ [event] := by
  intro member
  rw [List.mem_append, List.mem_singleton] at member
  exact member.elim none fun same => other same.symm

theorem at_stage_other (display : StatsDisplay) (log : List StatsEvent) (event : StatsEvent)
    (found : ∀ counter, foundLast counter (log ++ [event]) = foundLast counter log)
    (other : event ≠ .ticked) (kept : AtStage display log) :
    AtStage display (log ++ [event]) := by
  have latest : ∀ stats, Latest stats log → Latest stats (log ++ [event]) :=
    fun stats known counter => (found counter).trans (known counter)
  unfold AtStage at kept ⊢
  cases stage : display.stage with
  | waiting =>
      rw [stage] at kept
      refine ⟨kept.noNewLogs, kept.ticks, ?_⟩
      rcases kept.compared with ⟨first, none⟩ | ⟨stats, last, shown, known, recorded, same⟩
      · exact .inl ⟨first, ticked_other log event none other⟩
      · exact .inr ⟨stats, last, shown, latest stats known, recorded, same⟩
  | receiving => rwa [stage] at kept
  | measuring => rwa [stage] at kept
  | reading idle stats left =>
      rw [stage] at kept
      obtain ⟨ticks, done, split, known⟩ := kept
      exact ⟨ticks, done, split, fun counter member => (found counter).trans (known counter member)⟩
  | refreshing stats =>
      rw [stage] at kept
      exact ⟨kept.1, latest stats kept.2⟩
  | recording stats =>
      rw [stage] at kept
      exact ⟨latest stats kept.1, kept.2⟩
  | stopped => trivial

theorem stage_of (s : Station) (stage : DisplayStage) (here : s.display.stage = stage) (kept : AtStage s.display s.log) :
    AtStage { s.display with stage := stage } s.log := by
  rw [← here]
  exact kept

theorem step_loop (s next : Station) (step : Station.Step config broadcast client s next) (kept : LoopKept config s) :
    LoopKept config next := by
  obtain ⟨ticks, shows, atStage⟩ := kept
  cases step with
  | call call =>
      refine ⟨ticks_next s.log (.called call) _ _ ticks rfl, shows, ?_⟩
      exact at_stage_other _ _ _ (fun counter => found_last_other counter _ _ rfl) nofun atStage
  | add before after rest counter amount here =>
      refine ⟨ticks_next s.log (.accessed (.fetchAdd counter amount) (s.cells counter)) _ _ ticks rfl, shows, ?_⟩
      exact at_stage_other _ _ _ (fun other => found_last_add other counter amount _ _) nofun atStage
  | send before after rest message here => exact ⟨ticks, shows, atStage⟩
  | tick waiting =>
      have rest : AtRest _ s.log := stage_of s .waiting waiting atStage
      refine ⟨?_, fun _ => shows (by rw [waiting]; nofun), ?_⟩
      · exact ticks_next s.log .ticked _ _ ticks rfl
      · exact rest.ticks
  | receive message timestamp channel receiving got =>
      have bound := stage_of s .receiving receiving atStage
      have shown := shows (by rw [receiving]; nofun)
      refine ⟨ticks_next s.log (.received message) _ _ ticks rfl, fun _ => ?_, ?_⟩
      · unfold Shows at shown ⊢
        cases last : s.display.lastStats with
        | none => rwa [last] at shown
        | some stats =>
            rw [last] at shown
            obtain ⟨lines, screen, _⟩ := shown
            exact ⟨lines, screen, nofun⟩
      · unfold AtStage
        rw [receiving]
        exact bound
  | drained channel receiving got =>
      exact ⟨ticks, fun _ => shows (by rw [receiving]; nofun), stage_of s .receiving receiving atStage⟩
  | lag channel receiving got =>
      exact ⟨ticks_next s.log .lagged _ _ ticks rfl, fun _ => shows (by rw [receiving]; nofun),
        stage_of s .receiving receiving atStage⟩
  | measure idle measuring =>
      refine ⟨ticks, fun _ => shows (by rw [measuring]; nofun), stage_of s .measuring measuring atStage, [], rfl, nofun⟩
  | read idle stats counter left reading =>
      obtain ⟨bound, done, split, known⟩ := stage_of s (.reading idle stats (counter :: left)) reading atStage
      refine ⟨ticks_next s.log (.accessed (readAccess idle counter) (s.cells counter)) _ _ ticks rfl,
        fun _ => shows (by rw [reading]; nofun), bound, done ++ [counter], ?_, ?_⟩
      · rw [split, List.append_assoc]
        rfl
      · intro other member
        rw [found_last_read]
        by_cases same : counter = other
        · rw [if_pos same, ← same, Function.update_self]
        · rw [if_neg same, Function.update_of_ne (Ne.symm same)]
          rw [List.mem_append, List.mem_singleton] at member
          exact known other (member.resolve_right (Ne.symm same))
  | compare idle stats reading =>
      obtain ⟨bound, done, split, known⟩ := stage_of s (.reading idle stats []) reading atStage
      have shown := shows (by rw [reading]; nofun)
      have latest : Latest stats s.log :=
        fun counter => known counter (by rw [List.append_nil] at split; exact split ▸ counters_all counter)
      rcases compare_cases s.display stats with refreshing | ⟨passed, noNewLogs, last⟩
      · refine ⟨?_, fun _ => ?_, ?_⟩
        · exact (congrArg StatsDisplay.ticksSinceDbUpdate refreshing).trans ticks
        · exact (congrArg (Shows config · s.screen) refreshing).mpr shown
        · exact (congrArg (AtStage · s.log) refreshing).mpr ⟨bound, latest⟩
      · obtain ⟨after, shown, same⟩ := compare_db_kept config s.display stats s.log s.screen latest last noNewLogs shown
        refine ⟨?_, fun _ => ?_, ?_⟩
        · exact (congrArg StatsDisplay.ticksSinceDbUpdate passed).trans (same.trans ticks)
        · exact (congrArg (Shows config · s.screen) passed).mpr shown
        · exact (congrArg (AtStage · s.log) passed).mpr after
  | print stats refreshing =>
      obtain ⟨bound, latest⟩ := stage_of s (.refreshing stats) refreshing atStage
      have shown : Shows config { s.display with lastStats := some stats, hasNewLogs := false }
        (some (refreshDisplay config s.display stats)) :=
        ⟨_, rfl, fun _ => rfl⟩
      obtain ⟨after, shown, same⟩ :=
        compare_db_kept config { s.display with lastStats := some stats, hasNewLogs := false } stats s.log _ latest rfl rfl shown
      exact ⟨same.trans ticks, fun _ => shown, after⟩
  | tear stats screen refreshing => exact ⟨ticks, fun running => absurd rfl running, trivial⟩
  | record stats applied ok recording answered offline =>
      obtain ⟨latest, last, noNewLogs⟩ := stage_of s (.recording stats) recording atStage
      refine ⟨ticks_next s.log (.recorded ⟨stats, applied, ok⟩) _ _ ticks rfl, fun _ =>
        shows (by rw [recording]; nofun), noNewLogs, Nat.succ_pos 4, .inr ⟨stats, stats, last, ?_, rfl, fun _ _ => rfl⟩⟩
      exact fun counter => (found_last_other counter _ _ rfl).trans (latest counter)

end Loop

section Table

variable (config : LogConfig) {capacity : Nat} (broadcast : Broadcast capacity) (client : Bool)
    (base : GlobalStats) (start : List GlobalRow)

def PastTotal (log : List StatsEvent) (counter : Counter) (value : Count) : Prop :=
  ∃ part, part <+: accesses log ∧ value = base counter + added counter part

def PastStats (log : List StatsEvent) (stats : GlobalStatsSnapshot) : Prop :=
  ∀ counter, ¬ IsCurrent counter → PastTotal base log counter (stats counter)

def PastStage (log : List StatsEvent) : DisplayStage → Prop
  | .reading _ stats left =>
      ∃ done, counters = done ++ left ∧ ∀ counter ∈ done, ¬ IsCurrent counter → PastTotal base log counter (stats counter)
  | .refreshing stats => PastStats base log stats
  | .recording stats => PastStats base log stats
  | _ => True

def applyRecording (table : List GlobalRow) (recording : Recording) : List GlobalRow :=
  if recording.applied then table.map fun _ => rowOf recording.stats else table

structure TableKept (s : Station) : Prop where
  table : s.table = (recordings s.log).foldl applyRecording start
  last : s.display.lastDbStats = (recordings s.log).getLast?.map Recording.stats
  answered : ∀ recording ∈ recordings s.log, recording.ok = true → recording.applied = client
  past : ∀ recording ∈ recordings s.log, PastStats base s.log recording.stats
  stage : PastStage base s.log s.display.stage

theorem past_total_later (log : List StatsEvent) (event : StatsEvent) (counter : Counter)
    (value : Count) (past : PastTotal base log counter value) :
    PastTotal base (log ++ [event]) counter value := by
  obtain ⟨part, earlier, same⟩ := past
  refine ⟨part, earlier.trans ?_, same⟩
  rw [accesses, accesses, part_append]
  exact List.prefix_append _ _

theorem past_stage_later (log : List StatsEvent) (event : StatsEvent) (stage : DisplayStage) (past : PastStage base log stage) :
    PastStage base (log ++ [event]) stage := by
  cases stage with
  | waiting => trivial
  | receiving => trivial
  | measuring => trivial
  | reading idle stats left =>
      obtain ⟨done, split, known⟩ := past
      exact ⟨done, split, fun counter member kept => past_total_later base log event counter _ (known counter member kept)⟩
  | refreshing stats => exact fun counter kept => past_total_later base log event counter _ (past counter kept)
  | recording stats => exact fun counter kept => past_total_later base log event counter _ (past counter kept)
  | stopped => trivial

theorem past_compare_db (log : List StatsEvent) (display : StatsDisplay) (stats : GlobalStatsSnapshot)
    (past : PastStats base log stats) :
    PastStage base log (display.compareDb stats).stage ∧ (display.compareDb stats).lastDbStats = display.lastDbStats := by
  rcases compare_db_cases display stats with recording | ⟨waiting, _⟩
  · rw [recording]
    exact ⟨past, rfl⟩
  · rw [waiting]
    exact ⟨trivial, rfl⟩

theorem past_compare (log : List StatsEvent) (display : StatsDisplay) (stats : GlobalStatsSnapshot)
    (past : PastStats base log stats) :
    PastStage base log (display.compare stats).stage ∧ (display.compare stats).lastDbStats = display.lastDbStats := by
  rcases compare_cases display stats with refreshing | ⟨passed, _⟩
  · rw [refreshing]
    exact ⟨past, rfl⟩
  · rw [passed]
    exact past_compare_db base log display stats past

theorem past_now (s : Station) (kept : CellsKept config base s) (counter : Counter) (total : ¬ IsCurrent counter) :
    s.cells counter = base counter + added counter (accesses s.log) := by
  have conserved := run_conserves base s.cells (accesses s.log) kept.run counter
  rwa [unswapped_removed counter _ (kept.unswapped counter total), add_zero] at conserved

theorem table_kept_event (s next : Station) (event : StatsEvent) (log : next.log = s.log ++ [event])
    (other : recordingOf event = none)
    (table : next.table = s.table) (last : next.display.lastDbStats = s.display.lastDbStats)
    (stage : PastStage base next.log next.display.stage) (kept : TableKept client base start s) :
    TableKept client base start next := by
  have same : recordings next.log = recordings s.log := by
    rw [log, recordings, part_other recordingOf s.log event other, recordings]
  refine ⟨?_, ?_, ?_, ?_, stage⟩
  · rw [table, same]
    exact kept.table
  · rw [last, same]
    exact kept.last
  · rw [same]
    exact kept.answered
  · rw [same, log]
    exact fun recording member counter total =>
      past_total_later base s.log event counter _ (kept.past recording member counter total)

theorem table_kept_silent (s next : Station) (log : next.log = s.log) (table : next.table = s.table)
    (last : next.display.lastDbStats = s.display.lastDbStats) (stage : PastStage base next.log next.display.stage)
    (kept : TableKept client base start s) : TableKept client base start next := by
  refine ⟨?_, ?_, ?_, ?_, stage⟩
  · rw [table, log]
    exact kept.table
  · rw [last, log]
    exact kept.last
  · rw [log]
    exact kept.answered
  · rw [log]
    exact kept.past

theorem step_table (s next : Station) (step : Station.Step config broadcast client s next) (cells : CellsKept config base s)
    (kept : TableKept client base start s) : TableKept client base start next := by
  cases step with
  | call call => exact table_kept_event client base start s _ _ rfl rfl rfl rfl (past_stage_later base _ _ _ kept.stage) kept
  | add before after rest counter amount here =>
      exact table_kept_event client base start s _ _ rfl rfl rfl rfl (past_stage_later base _ _ _ kept.stage) kept
  | send before after rest message here => exact table_kept_silent client base start s _ rfl rfl rfl kept.stage kept
  | tick waiting => exact table_kept_event client base start s _ _ rfl rfl rfl rfl trivial kept
  | receive message timestamp channel receiving got =>
      exact table_kept_event client base start s _ _ rfl rfl rfl rfl (past_stage_later base _ _ _ kept.stage) kept
  | drained channel receiving got => exact table_kept_silent client base start s _ rfl rfl rfl trivial kept
  | lag channel receiving got => exact table_kept_event client base start s _ _ rfl rfl rfl rfl trivial kept
  | measure idle measuring => exact table_kept_silent client base start s _ rfl rfl rfl ⟨[], rfl, nofun⟩ kept
  | read idle stats counter left reading =>
      have stage := kept.stage
      rw [reading] at stage
      obtain ⟨done, split, known⟩ := past_stage_later base _ (.accessed (readAccess idle counter) (s.cells counter)) _ stage
      refine table_kept_event client base start s _ _ rfl rfl rfl rfl ⟨done ++ [counter], ?_, ?_⟩ kept
      · rw [split, List.append_assoc]
        rfl
      · intro other member total
        by_cases same : other = counter
        · subst same
          rw [Function.update_self, past_now config base s cells other total]
          exact ⟨accesses s.log, by rw [accesses, accesses, part_append]; exact List.prefix_append _ _, rfl⟩
        · rw [Function.update_of_ne same]
          rw [List.mem_append, List.mem_singleton] at member
          exact known other (member.resolve_right same) total
  | compare idle stats reading =>
      have stage := kept.stage
      rw [reading] at stage
      obtain ⟨done, split, known⟩ := stage
      rw [List.append_nil] at split
      obtain ⟨after, last⟩ := past_compare base s.log s.display stats fun counter total =>
        known counter (split ▸ counters_all counter) total
      exact table_kept_silent client base start s _ rfl rfl last after kept
  | print stats refreshing =>
      have stage := kept.stage
      rw [refreshing] at stage
      obtain ⟨after, last⟩ := past_compare_db base s.log
        { s.display with lastStats := some stats, hasNewLogs := false } stats stage
      exact table_kept_silent client base start s _ rfl rfl last after kept
  | tear stats screen refreshing => exact table_kept_silent client base start s _ rfl rfl rfl trivial kept
  | record stats applied ok recording answered offline =>
      have stage := kept.stage
      rw [recording] at stage
      have added : recordings (s.log ++ [.recorded ⟨stats, applied, ok⟩]) =
        recordings s.log ++ [⟨stats, applied, ok⟩] := part_append recordingOf _ _
      refine ⟨?_, ?_, ?_, ?_, trivial⟩
      · rw [added, List.foldl_concat, ← kept.table]
        rfl
      · rw [added, List.getLast?_concat]
        rfl
      · intro entry member
        rw [added, List.mem_append, List.mem_singleton] at member
        cases member with
        | inl before => exact kept.answered entry before
        | inr last =>
            rw [last]
            exact answered
      · intro entry member counter total
        rw [added, List.mem_append, List.mem_singleton] at member
        apply past_total_later
        cases member with
        | inl before => exact kept.past entry before counter total
        | inr last =>
            rw [last]
            exact stage counter total

end Table

section Runs

variable (config : LogConfig) {capacity : Nat} (broadcast : Broadcast capacity) (client : Bool)
    (base : GlobalStats) (start : List GlobalRow)

structure StationKept (s : Station) : Prop where
  cells : CellsKept config base s
  messages : MessagesKept config s
  loop : LoopKept config s
  table : TableKept client base start s

theorem new_station_kept : StationKept config client base start (newStation base start) where
  cells := ⟨.nil, fun _ => rfl, nofun⟩
  messages := ⟨nofun, nofun, le_refl 0, .slnil, fun _ => rfl, rfl⟩
  loop := ⟨rfl, fun _ => rfl, rfl, Nat.succ_pos 4, .inl ⟨rfl, nofun⟩⟩
  table := ⟨rfl, rfl, nofun, nofun, trivial⟩

theorem run_station (s : Station)
    (reached : Relation.ReflTransGen (Station.Step config broadcast client) (newStation base start) s) :
    StationKept config client base start s := by
  induction reached with
  | refl => exact new_station_kept config client base start
  | tail _ step ih =>
      exact ⟨step_cells config broadcast client base _ _ step ih.cells,
        step_messages config broadcast client _ _ step ih.messages,
        step_loop config broadcast client _ _ step ih.loop,
        step_table config broadcast client base start _ _ step ih.cells ih.table⟩

theorem table_size (table : List GlobalRow) (entries : List Recording) :
    (entries.foldl applyRecording table).length = table.length := by
  induction entries generalizing table with
  | nil => rfl
  | cons entry entries ih =>
      rw [List.foldl_cons, ih, applyRecording]
      split
      · exact List.length_map _
      · rfl

theorem last_applied (table : List GlobalRow) (entries : List Recording) (last : Recording) (here : entries.getLast? = some last)
    (applied : last.applied = true) : entries.foldl applyRecording table = table.map fun _ => rowOf last.stats := by
  obtain ⟨earlier, rfl⟩ := List.getLast?_eq_some_iff.mp here
  rw [List.foldl_concat, applyRecording, if_pos applied, List.map_const', List.map_const', table_size]

theorem same_row (one other : GlobalStatsSnapshot) (same : SameTotals one other) : rowOf one = rowOf other := by
  have each : ∀ counter, counter ∈ recordedCounters → one counter = other counter := same
  rw [rowOf, rowOf, each .totalConnections (by decide), each .succeededConnections (by decide),
    each .failedConnections (by decide),
    each .totalBytesIn (by decide), each .totalBytesOut (by decide)]

-- Between two iterations. The screen shows the last ten messages and the last
-- snapshot: all that has been counted, but for what has come since each counter
-- was read. The table holds that snapshot too unless its statement failed, and
-- within five ticks there is another.
structure UpToDate (s : Station) (stats : GlobalStatsSnapshot) : Prop where
  shown : s.screen = some ⟨stats, s.display.logs⟩
  latest : ∀ counter, ∃ reading, lastReading counter (accesses s.log) = some reading ∧ reading.found = stats counter ∧
    s.cells counter = reading.left + reading.since ∧ (¬ IsCurrent counter → reading.left = reading.found)
  lines : s.display.logs.map lineOf = lastLines (receivedIn s.log)
  received : (receivedIn s.log).Sublist s.channel.sent
  complete : .lagged ∉ s.log → receivedIn s.log = s.channel.sent.take s.channel.next
  soon : ticksSince s.log < dbUpdateIntervalTicks
  recorded : ∃ recording, (recordings s.log).getLast? = some recording ∧ SameTotals recording.stats stats ∧
    (recording.ok = true → recording.applied = client) ∧ (recording.applied = true → s.table = start.map fun _ => rowOf stats)

theorem window_printed (s : Station) (messages : MessagesKept config s) :
    s.display.logs.filterMap (printLogEntry config) = s.display.logs := by
  have each : ∀ entry ∈ s.display.logs, printLogEntry config entry = some entry := by
    intro entry member
    have line : lineOf entry ∈ lastLines (receivedIn s.log) := messages.window ▸ List.mem_map_of_mem member
    have sent := List.mem_of_mem_take (messages.part.subset (List.mem_of_mem_drop line))
    exact messages.printed _ sent entry rfl
  calc s.display.logs.filterMap (printLogEntry config) = s.display.logs.filterMap some := List.filterMap_congr each
    _ = s.display.logs := List.filterMap_some

theorem display_follows (s : Station)
    (reached : Relation.ReflTransGen (Station.Step config broadcast client) (newStation base start) s)
    (waiting : s.display.stage = .waiting) (ticked : .ticked ∈ s.log) : ∃ stats, UpToDate client start s stats := by
  obtain ⟨cells, messages, loop, table⟩ := run_station config broadcast client base start s reached
  have rest : AtRest _ s.log := stage_of s .waiting waiting loop.stage
  rcases rest.compared with ⟨_, none⟩ | ⟨stats, last, shown, latest, recorded, same⟩
  · exact absurd ticked none
  · refine ⟨stats, ?_, ?_, messages.window, messages.part.trans (List.take_sublist _ _), messages.complete, ?_, ?_⟩
    · have screen := loop.shows (by rw [waiting]; nofun)
      have lastStats : s.display.lastStats = some stats := shown
      rw [Shows, lastStats] at screen
      obtain ⟨lines, screen, all⟩ := screen
      rw [screen, all rest.noNewLogs, window_printed config s messages]
    · intro counter
      obtain ⟨reading, known, found⟩ := Option.map_eq_some_iff.mp (latest counter)
      exact ⟨reading, known, found, run_reading base s.cells _ cells.run counter reading known,
        fun total => unswapped_left counter _ (cells.unswapped counter total) reading known⟩
    · exact loop.ticks ▸ rest.ticks
    · have lastDbStats : s.display.lastDbStats = some last := recorded
      rw [table.last, Option.map_eq_some_iff] at lastDbStats
      obtain ⟨recording, final, rfl⟩ := lastDbStats
      refine ⟨recording, final, same, table.answered recording (List.mem_of_getLast? final), fun applied => ?_⟩
      rw [table.table, last_applied start _ recording final applied, same_row _ _ same]

def bytesInOf : StatsCall → Nat
  | .addBytesIn bytes => if bytes < 2 ^ 63 then bytes else 0
  | _ => 0

def bytesOutOf : StatsCall → Nat
  | .addBytesOut bytes => if bytes < 2 ^ 63 then bytes else 0
  | _ => 0

-- Whatever the order of the calls' steps and of the readings. What a snapshot
-- takes off a current counter is gone from no total.
structure BytesConserved (s : Station) : Prop where
  counted : ∀ counter, s.cells counter + removed counter (accesses s.log) + amounts counter s.tasks.flatten =
    base counter + called config counter s.log
  untaken : ∀ counter, ¬ IsCurrent counter → removed counter (accesses s.log) = 0
  bytesIn : ∀ counter, counter = .totalBytesIn ∨ counter = .currentBytesIn →
    called config counter s.log = BitVec.ofNat 64 ((calls s.log).map bytesInOf).sum
  bytesOut : ∀ counter, counter = .totalBytesOut ∨ counter = .currentBytesOut →
    called config counter s.log = BitVec.ofNat 64 ((calls s.log).map bytesOutOf).sum
  settled : s.tasks.flatten = [] →
    s.cells .totalBytesIn - base .totalBytesIn =
      s.cells .currentBytesIn - base .currentBytesIn + removed .currentBytesIn (accesses s.log) ∧
      s.cells .totalBytesOut - base .totalBytesOut =
        s.cells .currentBytesOut - base .currentBytesOut + removed .currentBytesOut (accesses s.log)

theorem log_message_amounts (message : Str) (level : LogLevel) (counter : Counter) :
    amounts counter (GlobalStats.logMessage config message level) = 0 := by
  have one : amounts counter [.send (message, level)] = 0 := rfl
  unfold GlobalStats.logMessage
  cases config.log with
  | none => rfl
  | some enabled =>
      cases enabled with
      | false => rfl
      | true =>
          cases level with
          | error => exact one
          | info =>
              dsimp only
              split
              · exact one
              · rfl
          | success =>
              dsimp only
              split
              · exact one
              · rfl

theorem record_amounts (success : Bool) (message : Str) (counter : Counter)
    (other : counter ≠ .succeededConnections ∧ counter ≠ .failedConnections) :
    amounts counter (GlobalStats.recordConnectionResult config success message) = 0 := by
  unfold GlobalStats.recordConnectionResult
  split
  · rw [amounts_cons, log_message_amounts, amountOf, if_neg (Ne.symm other.1), add_zero]
  · rw [amounts_cons, log_message_amounts, amountOf, if_neg (Ne.symm other.2), add_zero]

theorem add_bytes_amounts (current total counter : Counter) (bytes : Nat) (different : current ≠ total) :
    amounts counter (GlobalStats.addBytes current total bytes) =
      if counter = current ∨ counter = total then BitVec.ofNat 64 (if bytes < 2 ^ 63 then bytes else 0) else 0 := by
  rw [GlobalStats.addBytes]
  by_cases small : bytes < 2 ^ 63
  · rw [if_pos small, if_pos small, amounts_cons, amounts_cons, amountOf, amountOf]
    by_cases first : current = counter
    · subst first
      rw [if_pos rfl, if_neg (Ne.symm different), if_pos (.inl rfl)]
      exact add_zero _
    · by_cases second : total = counter
      · subst second
        rw [if_neg first, if_pos rfl, if_pos (.inr rfl), zero_add]
        exact add_zero _
      · rw [if_neg first, if_neg second, if_neg fun same => same.elim (Ne.symm first) (Ne.symm second)]
        rfl
  · rw [if_neg small, if_neg small]
    split <;> rfl

theorem call_bytes_in (call : StatsCall) (counter : Counter) (isIn : counter = .totalBytesIn ∨ counter = .currentBytesIn) :
    amounts counter (call.atoms config) = BitVec.ofNat 64 (bytesInOf call) := by
  cases call with
  | incrementActiveConnections => rcases isIn with rfl | rfl <;> rfl
  | decrementActiveConnections => rcases isIn with rfl | rfl <;> rfl
  | recordConnectionResult success message =>
      apply record_amounts
      rcases isIn with rfl | rfl <;> exact ⟨nofun, nofun⟩
  | logInfo message => exact log_message_amounts config message .info counter
  | addBytesIn bytes => exact (add_bytes_amounts .currentBytesIn .totalBytesIn counter bytes nofun).trans (if_pos isIn.symm)
  | addBytesOut bytes =>
      refine (add_bytes_amounts .currentBytesOut .totalBytesOut counter bytes nofun).trans (if_neg ?_)
      rcases isIn with rfl | rfl <;> exact nofun

theorem call_bytes_out (call : StatsCall) (counter : Counter) (isOut : counter = .totalBytesOut ∨ counter = .currentBytesOut) :
    amounts counter (call.atoms config) = BitVec.ofNat 64 (bytesOutOf call) := by
  cases call with
  | incrementActiveConnections => rcases isOut with rfl | rfl <;> rfl
  | decrementActiveConnections => rcases isOut with rfl | rfl <;> rfl
  | recordConnectionResult success message =>
      apply record_amounts
      rcases isOut with rfl | rfl <;> exact ⟨nofun, nofun⟩
  | logInfo message => exact log_message_amounts config message .info counter
  | addBytesIn bytes =>
      refine (add_bytes_amounts .currentBytesIn .totalBytesIn counter bytes nofun).trans (if_neg ?_)
      rcases isOut with rfl | rfl <;> exact nofun
  | addBytesOut bytes => exact (add_bytes_amounts .currentBytesOut .totalBytesOut counter bytes nofun).trans (if_pos isOut.symm)

theorem called_bytes (counter : Counter) (bytesOf : StatsCall → Nat)
    (each : ∀ call, amounts counter (call.atoms config) = BitVec.ofNat 64 (bytesOf call))
    (log : List StatsEvent) : called config counter log = BitVec.ofNat 64 ((calls log).map bytesOf).sum := by
  rw [called]
  induction calls log with
  | nil => rfl
  | cons call calls ih =>
      rw [List.flatMap_cons, amounts_append, ih, each, List.map_cons, List.sum_cons]
      exact (BitVec.ofNat_add _ _).symm

theorem bytes_conserved (s : Station)
    (reached : Relation.ReflTransGen (Station.Step config broadcast client) (newStation base start) s) :
    BytesConserved config base s := by
  have cells := (run_station config broadcast client base start s reached).cells
  have counted : ∀ counter, s.cells counter + removed counter (accesses s.log) + amounts counter s.tasks.flatten =
      base counter + called config counter s.log := by
    intro counter
    rw [run_conserves base s.cells _ cells.run counter, add_assoc, cells.pending]
  have bytesIn : ∀ counter : Counter, counter = .totalBytesIn ∨ counter = .currentBytesIn → _ :=
    fun counter isIn => called_bytes config counter bytesInOf (fun call => call_bytes_in config call counter isIn) s.log
  have bytesOut : ∀ counter : Counter, counter = .totalBytesOut ∨ counter = .currentBytesOut → _ :=
    fun counter isOut => called_bytes config counter bytesOutOf (fun call => call_bytes_out config call counter isOut) s.log
  have untaken : ∀ counter, ¬ IsCurrent counter → removed counter (accesses s.log) = 0 :=
    fun counter total => unswapped_removed counter _ (cells.unswapped counter total)
  refine ⟨counted, untaken, bytesIn, bytesOut, fun settled => ?_⟩
  have quiet : ∀ counter, amounts counter s.tasks.flatten = 0 := fun counter => by rw [settled]; rfl
  have both : ∀ total current, ¬ IsCurrent total → called config total s.log = called config current s.log →
      s.cells total - base total = s.cells current - base current + removed current (accesses s.log) := by
    intro total current kept same
    have first := counted total
    have second := counted current
    rw [quiet, untaken total kept, add_zero, add_zero] at first
    rw [quiet, add_zero] at second
    rw [first, same, add_sub_cancel_left, sub_add_eq_add_sub, second, add_sub_cancel_left]
  have inTotal : ¬ IsCurrent .totalBytesIn := by rw [IsCurrent]; exact nofun
  have outTotal : ¬ IsCurrent .totalBytesOut := by rw [IsCurrent]; exact nofun
  exact ⟨both .totalBytesIn .currentBytesIn inTotal ((bytesIn _ (.inl rfl)).trans (bytesIn _ (.inr rfl)).symm),
    both .totalBytesOut .currentBytesOut outTotal ((bytesOut _ (.inl rfl)).trans (bytesOut _ (.inr rfl)).symm)⟩

end Runs

section Examples

def errorsOnly : LogConfig := ⟨some true, none, none⟩

def freshStation : Station := newStation newStats [rowOf newStats]

def worked (stats : GlobalStats) : GlobalStatsSnapshot
  | .failedConnections => stats .failedConnections + 1
  | .totalBytesIn => stats .totalBytesIn + 5
  | counter => stats counter

theorem one_tick_reached (stats : GlobalStats) (row : GlobalRow) :
    ∃ s, Relation.ReflTransGen (Station.Step errorsOnly (latest 128) true) (newStation stats [row]) s ∧
      s.display.stage = .waiting ∧
      .ticked ∈ s.log ∧ s.tasks.flatten = [] ∧ s.table = [rowOf (worked stats)] := by
  have begun : Relation.ReflTransGen (Station.Step errorsOnly (latest 128) true) (newStation stats [row])
    (newStation stats [row]) := .refl
  have counted := (begun.tail (.call _ (.addBytesIn 5))).tail (.call _ (.recordConnectionResult false "reset".toList))
  have bytes := (counted.tail
    (.add _ [] [[.add .failedConnections 1, .send ("reset".toList, .error)]] [.add .totalBytesIn 5] .currentBytesIn 5 rfl)).tail
    (.add _ [] [[.add .failedConnections 1, .send ("reset".toList, .error)]] [] .totalBytesIn 5 rfl)
  have failure := (bytes.tail (.add _ [[]] [] [.send ("reset".toList, .error)] .failedConnections 1 rfl)).tail
    (.send _ [[]] [] [] ("reset".toList, .error) rfl)
  have received := ((failure.tail (.tick _ rfl)).tail
    (.receive _ ("reset".toList, .error) 0 ⟨[("reset".toList, .error)], 1⟩ rfl rfl)).tail
    (.drained _ ⟨[("reset".toList, .error)], 1⟩ rfl rfl)
  have four := ((((received.tail (.measure _ false rfl)).tail (.read _ false _ _ _ rfl)).tail (.read _ false _ _ _ rfl)).tail
    (.read _ false _ _ _ rfl)).tail (.read _ false _ _ _ rfl)
  have eight := (((four.tail (.read _ false _ _ _ rfl)).tail (.read _ false _ _ _ rfl)).tail (.read _ false _ _ _ rfl)).tail
    (.read _ false _ _ _ rfl)
  have printed := (eight.tail (.compare _ false _ rfl)).tail (.print _ _ rfl)
  have recorded := printed.tail (.record _ _ true true rfl (fun _ => rfl) nofun)
  exact ⟨_, recorded, rfl, by simp, rfl, rfl⟩

theorem first_tick_reached :
    ∃ s, Relation.ReflTransGen (Station.Step errorsOnly (latest 128) true) freshStation s ∧ s.display.stage = .waiting ∧
    .ticked ∈ s.log ∧ s.tasks.flatten = [] ∧ s.table = [⟨some 0, some 0, some 1, some 5, some 0⟩] :=
  one_tick_reached newStats (rowOf newStats)

theorem first_tick_followed : ∃ s stats, UpToDate true [rowOf newStats] s stats ∧
    s.table = [⟨some 0, some 0, some 1, some 5, some 0⟩] := by
  obtain ⟨s, reached, waiting, ticked, _, table⟩ := first_tick_reached
  obtain ⟨stats, follows⟩ := display_follows errorsOnly (latest 128) true newStats [rowOf newStats] s reached waiting ticked
  exact ⟨s, stats, follows, table⟩

theorem first_tick_conserved : ∃ s, BytesConserved errorsOnly newStats s ∧ s.tasks.flatten = [] := by
  obtain ⟨s, reached, _, _, settled, _⟩ := first_tick_reached
  exact ⟨s, bytes_conserved errorsOnly (latest 128) true newStats [rowOf newStats] s reached, settled⟩

end Examples

end Purroute
