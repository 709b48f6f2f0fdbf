import Issuebot.Logic.Runs
import Issuebot.Orchestrator.State

/-!
# The wait between two ticks

`_wait_for_next_tick` takes one message after another off the queue until its deadline has come.
A refresh does not end a wait before the least interval is up: it brings the deadline forward to
that moment. The loop suspends while it fires retries, waits for a message and handles an exit,
and requests, exits and stops come in then, in any order.
-/

namespace Issuebot
set_option autoImplicit false
open Logic

/-- `MIN_REFRESH_INTERVAL_S` -/
def minRefreshInterval : Int := seconds 5

inductive Message where
  | refresh
  | stop
  | workerExited (issue : Nat)
  deriving DecidableEq, Repr

/-- A wait under way. `scheduled` is the deadline it began with, and `refreshed` whether it has taken a refresh;
the source keeps neither. -/
structure Wait where
  started : Int
  deadline : Int
  scheduled : Int
  refreshed : Bool
  deriving DecidableEq, Repr

/-- The earliest a refresh may start the next tick. -/
def Wait.admissible (wait : Wait) : Int := wait.started + minRefreshInterval

/-- `min(deadline, self._earliest_due())` -/
def Wait.wakes (wait : Wait) : Option Int → Int
  | some due => min wait.deadline due
  | none => wait.deadline

/-- Where `run` is. -/
inductive LoopPhase where
  | tick
  | firing (wait : Wait)
  | waiting (wait : Wait)
  | exiting (wait : Wait) (issue : Nat)
  | stopped
  deriving DecidableEq, Repr

/-- The wait under way, if there is one. -/
def LoopPhase.wait? : LoopPhase → Option Wait
  | firing wait | waiting wait | exiting wait _ => some wait
  | tick | stopped => none

/-- The loop's state. `clock` is its last look at the clock, `due` the earliest retry's time, and `owed` whether a
refresh has been asked for since the last tick began; the source does not keep the last. -/
structure WaitLoop where
  phase : LoopPhase
  clock : Int
  queue : List Message
  refreshPending : Bool
  stopping : Bool
  due : Option Int
  owed : Bool
  deriving DecidableEq, Repr

/-- What can happen. `fired`, `received` and `tickDone` carry what the clock reads then. -/
inductive LoopEvent where
  | request
  | requestStop
  | exited (issue : Nat)
  | tickDone (now : Int) (intervalMs : Nat) (due : Option Int)
  | fired (now : Int) (due : Option Int)
  | timedOut
  | received (now : Int)
  | exitHandled (due : Option Int)
  deriving DecidableEq, Repr

namespace WaitLoop

/-- The worker as `run` begins its first tick. -/
def starts : WaitLoop where
  phase := .tick
  clock := 0
  queue := []
  refreshPending := false
  stopping := false
  due := none
  owed := false

/-- The wait returns, and `run` begins a tick, or stops. -/
def endWait (s : WaitLoop) : WaitLoop :=
  if s.stopping then { s with phase := .stopped } else { s with phase := .tick, owed := false }

/-- The loop of the wait begins again. -/
def again (wait : Wait) (s : WaitLoop) : WaitLoop := if s.stopping then s.endWait else { s with phase := .firing wait }

/-- `request_refresh` -/
def requestRefresh (s : WaitLoop) : WaitLoop :=
  if s.refreshPending then { s with owed := true }
  else { s with refreshPending := true, queue := s.queue ++ [.refresh], owed := true }

/-- `request_stop` -/
def requestStop (s : WaitLoop) : WaitLoop :=
  if s.stopping then s else { s with stopping := true, queue := s.queue ++ [.stop] }

/-- A wait begins. -/
def beginWait (now : Int) (intervalMs : Nat) (s : WaitLoop) : WaitLoop :=
  again ⟨now, now + milliseconds intervalMs, now + milliseconds intervalMs, false⟩ s

/-- The retries have been fired, and the loop looks at the clock. -/
def look (wait : Wait) (now : Int) (s : WaitLoop) : WaitLoop :=
  if wait.deadline ≤ now then s.endWait
  else if wait.wakes s.due - now ≤ 0 then s.again wait
  else { s with phase := .waiting wait }

/-- A refresh is taken, and the loop looks at the clock. -/
def takeRefresh (wait : Wait) (now : Int) (s : WaitLoop) : WaitLoop :=
  if wait.admissible ≤ now then s.endWait
  else s.again { wait with
    deadline := if wait.admissible < wait.deadline then wait.admissible else wait.deadline
    refreshed := true }

/-- The message at the head of the queue is taken. -/
def receive (wait : Wait) (now : Int) (message : Message) (s : WaitLoop) : WaitLoop :=
  match message with
  | .refresh => { s with refreshPending := false, clock := now }.takeRefresh wait now
  | .stop => s.endWait
  | .workerExited issue => { s with phase := .exiting wait issue }

def step (s : WaitLoop) : LoopEvent → Option WaitLoop
  | .request => if s.phase = .stopped then none else some s.requestRefresh
  | .requestStop => if s.phase = .stopped then none else some s.requestStop
  | .exited issue => some { s with queue := s.queue ++ [.workerExited issue] }
  | .tickDone now intervalMs due =>
    if s.phase = .tick ∧ s.clock ≤ now then some ({ s with clock := now, due }.beginWait now intervalMs) else none
  | .fired now due =>
    match s.phase with
    | .firing wait => if s.clock ≤ now then some ({ s with clock := now, due }.look wait now) else none
    | _ => none
  | .timedOut =>
    match s.phase with
    | .waiting wait => some (s.again wait)
    | _ => none
  | .received now =>
    match s.phase, s.queue with
    | .waiting wait, message :: queue =>
      if s.clock ≤ now then some ({ s with queue }.receive wait now message) else none
    | _, _ => none
  | .exitHandled due =>
    match s.phase with
    | .exiting wait _ => some ({ s with due }.again wait)
    | _ => none

/-- A run of the loop. -/
abbrev Runs (s : WaitLoop) (events : List LoopEvent) (s' : WaitLoop) : Prop :=
  Steps (fun s e s' => step s e = some s') s events s'

/-- A wait that has taken a refresh ends by the moment a refresh may end it. -/
def Brought (wait : Wait) : Prop := wait.deadline = min wait.scheduled wait.admissible

/-- What the loop keeps: a refresh is queued exactly while one is pending, and once; one that is owed is queued or
taken by the wait under way; and a stop is queued by a loop that is stopping. -/
structure Sound (s : WaitLoop) : Prop where
  once : s.queue.count .refresh = if s.refreshPending then 1 else 0
  stops : .stop ∈ s.queue → s.stopping = true
  kept : s.owed = true → s.refreshPending = true ∨ (∃ wait, s.phase.wait? = some wait ∧ wait.refreshed = true) ∨ s.phase = .stopped
  early : ∀ wait, s.phase.wait? = some wait → wait.deadline = wait.scheduled ∧ wait.refreshed = false ∨ Brought wait

variable {s s' : WaitLoop} {wait : Wait} {now : Int}

/-- The same of the queue and the flags, whatever the wait does. -/
structure Queued (s : WaitLoop) : Prop where
  once : s.queue.count .refresh = if s.refreshPending then 1 else 0
  stops : .stop ∈ s.queue → s.stopping = true

theorem Sound.queued (sound : s.Sound) : s.Queued := ⟨sound.once, sound.stops⟩

theorem Queued.endWait (queued : s.Queued) : s.endWait.Sound := by
  unfold WaitLoop.endWait
  split
  · exact ⟨queued.once, queued.stops, fun _ => .inr (.inr rfl), fun _ none_wait => nomatch none_wait⟩
  · exact ⟨queued.once, queued.stops, fun owed => (nomatch owed), fun _ none_wait => nomatch none_wait⟩

theorem Queued.again (queued : s.Queued) (kept : s.owed = true → s.refreshPending = true ∨ wait.refreshed = true)
    (early : wait.deadline = wait.scheduled ∧ wait.refreshed = false ∨ Brought wait) : (s.again wait).Sound := by
  unfold WaitLoop.again
  split
  · exact queued.endWait
  · refine ⟨queued.once, queued.stops, fun owed => ?_, ?_⟩
    · rcases kept owed with pending | refreshed
      · exact .inl pending
      · exact .inr (.inl ⟨wait, rfl, refreshed⟩)
    · intro other same
      obtain rfl := Option.some.inj same
      exact early

/-- What a sound state says of its wait. -/
theorem Sound.underWay (sound : s.Sound) (under_way : s.phase.wait? = some wait) :
    (s.owed = true → s.refreshPending = true ∨ wait.refreshed = true) ∧
      (wait.deadline = wait.scheduled ∧ wait.refreshed = false ∨ Brought wait) := by
  refine ⟨fun owed => ?_, sound.early wait under_way⟩
  rcases sound.kept owed with pending | ⟨other, same, refreshed⟩ | stopped
  · exact .inl pending
  · rw [under_way] at same
    obtain rfl := Option.some.inj same
    exact .inr refreshed
  · rw [stopped] at under_way
    cases under_way

theorem min_brought (early : wait.deadline = wait.scheduled ∧ wait.refreshed = false ∨ Brought wait) :
    (if wait.admissible < wait.deadline then wait.admissible else wait.deadline) = min wait.scheduled wait.admissible := by
  rcases early with ⟨same, -⟩ | brought
  · rw [same]
    split <;> omega
  · unfold Brought at brought
    rw [brought]
    split <;> omega

theorem Sound.requestRefresh (sound : s.Sound) : s.requestRefresh.Sound := by
  unfold WaitLoop.requestRefresh
  split
  next pending => exact ⟨sound.once, sound.stops, fun _ => .inl pending, sound.early⟩
  next idle =>
    refine ⟨?_, ?_, fun _ => .inl rfl, sound.early⟩
    · have none_queued := sound.once
      rw [if_neg idle] at none_queued
      show (s.queue ++ [Message.refresh]).count .refresh = 1
      rw [List.count_append, none_queued]
      rfl
    · intro mem
      rcases List.mem_append.mp mem with old | new
      · exact sound.stops old
      · cases List.mem_singleton.mp new

theorem Sound.requestStop (sound : s.Sound) : s.requestStop.Sound := by
  unfold WaitLoop.requestStop
  split
  · exact sound
  · refine ⟨?_, fun _ => rfl, sound.kept, sound.early⟩
    show (s.queue ++ [Message.stop]).count .refresh = _
    rw [List.count_append, sound.once]
    exact Nat.add_zero _

theorem Queued.beginWait (queued : s.Queued) (kept : s.owed = true → s.refreshPending = true) (intervalMs : Nat) :
    (s.beginWait now intervalMs).Sound :=
  queued.again (fun owed => .inl (kept owed)) (.inl ⟨rfl, rfl⟩)

theorem Sound.look (sound : s.Sound) (under_way : s.phase.wait? = some wait) : (s.look wait now).Sound := by
  obtain ⟨kept, early⟩ := sound.underWay under_way
  unfold WaitLoop.look
  split
  · exact sound.queued.endWait
  · split
    · exact sound.queued.again kept early
    · refine ⟨sound.once, sound.stops, fun owed => ?_, ?_⟩
      · rcases kept owed with pending | refreshed
        · exact .inl pending
        · exact .inr (.inl ⟨wait, rfl, refreshed⟩)
      · intro other same
        obtain rfl := Option.some.inj same
        exact early

/-- Taking the message at the head of the queue. -/
theorem Sound.receive {message : Message} {queue : List Message} (sound : s.Sound) (under_way : s.phase.wait? = some wait)
    (is_queue : s.queue = message :: queue) : ({ s with queue }.receive wait now message).Sound := by
  obtain ⟨kept, early⟩ := sound.underWay under_way
  have once := sound.once
  have stops := sound.stops
  rw [is_queue] at once stops
  have later : .stop ∈ queue → s.stopping = true := fun mem => stops (List.mem_cons_of_mem _ mem)
  cases message with
  | refresh =>
    have none_left : queue.count .refresh = 0 := by
      rw [List.count_cons_self] at once
      split at once <;> omega
    have queued : Queued { s with queue, refreshPending := false, clock := now } := ⟨none_left, later⟩
    show (takeRefresh wait now _).Sound
    by_cases reached : wait.admissible ≤ now
    · rw [takeRefresh, if_pos reached]
      exact queued.endWait
    · rw [takeRefresh, if_neg reached]
      exact queued.again (fun _ => .inr rfl) (.inr (min_brought early))
  | stop =>
    rw [List.count_cons_of_ne (by decide)] at once
    exact Queued.endWait ⟨once, later⟩
  | workerExited issue =>
    have other : Message.workerExited issue ≠ .refresh := fun same => nomatch same
    rw [List.count_cons_of_ne other] at once
    refine ⟨once, later, fun owed => ?_, ?_⟩
    · rcases kept owed with pending | refreshed
      · exact .inl pending
      · exact .inr (.inl ⟨wait, rfl, refreshed⟩)
    · intro other same
      obtain rfl := Option.some.inj same
      exact early

/-- Every step keeps the loop sound. -/
theorem Sound.step {e : LoopEvent} (here : s.step e = some s') (sound : s.Sound) : s'.Sound := by
  cases e with
  | request =>
    obtain ⟨-, same⟩ := Option.ite_none_left_eq_some.mp here
    obtain rfl := Option.some.inj same
    exact sound.requestRefresh
  | requestStop =>
    obtain ⟨-, same⟩ := Option.ite_none_left_eq_some.mp here
    obtain rfl := Option.some.inj same
    exact sound.requestStop
  | exited issue =>
    obtain rfl := Option.some.inj here
    refine ⟨?_, fun mem => ?_, sound.kept, sound.early⟩
    · show (s.queue ++ [Message.workerExited issue]).count .refresh = _
      rw [List.count_append, sound.once]
      exact Nat.add_zero _
    · rcases List.mem_append.mp mem with old | new
      · exact sound.stops old
      · cases List.mem_singleton.mp new
  | tickDone now intervalMs due =>
    obtain ⟨⟨is_tick, -⟩, same⟩ := Option.ite_none_right_eq_some.mp here
    obtain rfl := Option.some.inj same
    have queued : Queued { s with clock := now, due } := ⟨sound.once, sound.stops⟩
    apply queued.beginWait
    intro owed
    rcases sound.kept owed with pending | ⟨_, under_way, -⟩ | stopped
    · exact pending
    · rw [is_tick] at under_way
      cases under_way
    · rw [is_tick] at stopped
      cases stopped
  | fired now due =>
    simp only [WaitLoop.step] at here
    split at here
    next wait is_firing =>
      obtain ⟨-, same⟩ := Option.ite_none_right_eq_some.mp here
      obtain rfl := Option.some.inj same
      have moved : Sound { s with clock := now, due } := ⟨sound.once, sound.stops, sound.kept, sound.early⟩
      apply moved.look
      show s.phase.wait? = some wait
      rw [is_firing]
      rfl
    · cases here
  | timedOut =>
    simp only [WaitLoop.step] at here
    split at here
    next wait is_waiting =>
      obtain rfl := Option.some.inj here
      obtain ⟨kept, early⟩ := sound.underWay (show s.phase.wait? = some wait by rw [is_waiting]; rfl)
      exact sound.queued.again kept early
    · cases here
  | received now =>
    simp only [WaitLoop.step] at here
    split at here
    next wait message queue is_waiting is_queue =>
      obtain ⟨-, same⟩ := Option.ite_none_right_eq_some.mp here
      obtain rfl := Option.some.inj same
      exact sound.receive (by rw [is_waiting]; rfl) is_queue
    · cases here
  | exitHandled due =>
    simp only [WaitLoop.step] at here
    split at here
    next wait issue is_exiting =>
      obtain rfl := Option.some.inj here
      obtain ⟨kept, early⟩ := sound.underWay (show s.phase.wait? = some wait by rw [is_exiting]; rfl)
      exact Queued.again ⟨sound.once, sound.stops⟩ kept early
    · cases here

theorem Sound.run {events : List LoopEvent} (run : Runs starts events s) : s.Sound :=
  Steps.invariant (fun _ _ _ here => Sound.step here) run
    ⟨rfl, fun mem => (nomatch mem), fun owed => (nomatch owed), fun _ none_wait => nomatch none_wait⟩

theorem endWait_phase : s.endWait.phase = .tick ∨ s.endWait.phase = .stopped := by
  unfold endWait
  split
  · exact .inr rfl
  · exact .inl rfl

/-- A loop that begins again begins a tick only where it is stopping, and then it stops. -/
theorem again_tick (ended : (s.again wait).phase = .tick) : False := by
  unfold again at ended
  split at ended
  next stopping =>
    rw [endWait, if_pos stopping] at ended
    cases ended
  · cases ended

theorem endWait_clock : s.endWait.clock = s.clock := by
  unfold endWait
  split
  · rfl
  · rfl

/-- A wait under way ends in a tick at a look at the clock at or after its deadline, or at or after the moment a
refresh may end it. -/
theorem ends_in_tick {e : LoopEvent} (sound : s.Sound) (here : s.step e = some s') (under_way : s.phase.wait? = some wait)
    (ended : s'.phase = .tick) : wait.deadline ≤ s'.clock ∨ wait.admissible ≤ s'.clock := by
  cases e with
  | request =>
    obtain ⟨-, same⟩ := Option.ite_none_left_eq_some.mp here
    obtain rfl := Option.some.inj same
    have phase : s.requestRefresh.phase = s.phase := by unfold requestRefresh; split <;> rfl
    rw [← phase, ended] at under_way
    cases under_way
  | requestStop =>
    obtain ⟨-, same⟩ := Option.ite_none_left_eq_some.mp here
    obtain rfl := Option.some.inj same
    have phase : s.requestStop.phase = s.phase := by unfold requestStop; split <;> rfl
    rw [← phase, ended] at under_way
    cases under_way
  | exited issue =>
    obtain rfl := Option.some.inj here
    have is_tick : s.phase = .tick := ended
    rw [is_tick] at under_way
    cases under_way
  | tickDone now intervalMs due =>
    obtain ⟨⟨is_tick, -⟩, -⟩ := Option.ite_none_right_eq_some.mp here
    rw [is_tick] at under_way
    cases under_way
  | fired now due =>
    simp only [WaitLoop.step] at here
    split at here
    next other is_firing =>
      obtain ⟨-, same⟩ := Option.ite_none_right_eq_some.mp here
      obtain rfl := Option.some.inj same
      rw [is_firing] at under_way
      obtain rfl := Option.some.inj under_way
      unfold look at ended ⊢
      split at ended
      next reached =>
        rw [if_pos reached, endWait_clock]
        exact .inl reached
      · split at ended
        · exact (again_tick ended).elim
        · cases ended
    · cases here
  | timedOut =>
    simp only [WaitLoop.step] at here
    split at here
    · obtain rfl := Option.some.inj here
      exact (again_tick ended).elim
    · cases here
  | received now =>
    simp only [WaitLoop.step] at here
    split at here
    next other message queue is_waiting is_queue =>
      obtain ⟨-, same⟩ := Option.ite_none_right_eq_some.mp here
      obtain rfl := Option.some.inj same
      rw [is_waiting] at under_way
      obtain rfl := Option.some.inj under_way
      cases message with
      | refresh =>
        by_cases reached : other.admissible ≤ now
        · rw [receive, takeRefresh, if_pos reached, endWait_clock]
          exact .inr reached
        · rw [receive, takeRefresh, if_neg reached] at ended
          exact (again_tick ended).elim
      | stop =>
        have stopping := sound.stops (is_queue ▸ List.mem_cons_self)
        have stopped : (endWait { s with queue }).phase = .stopped := by rw [endWait, if_pos stopping]
        have is_tick : (endWait { s with queue }).phase = .tick := ended
        rw [is_tick] at stopped
        cases stopped
      | workerExited issue => cases ended
    · cases here
  | exitHandled due =>
    simp only [WaitLoop.step] at here
    split at here
    · obtain rfl := Option.some.inj here
      exact (again_tick ended).elim
    · cases here

/-- A wait that is stopped is one of a loop that is stopping. -/
theorem look_ends {due : Option Int} (here : s.step (.fired now due) = some s') (under_way : s.phase.wait? = some wait)
    (reached : wait.deadline ≤ now) : s'.phase = .tick ∨ s'.phase = .stopped := by
  simp only [WaitLoop.step] at here
  split at here
  next other is_firing =>
    obtain ⟨-, same⟩ := Option.ite_none_right_eq_some.mp here
    obtain rfl := Option.some.inj same
    rw [is_firing] at under_way
    obtain rfl := Option.some.inj under_way
    rw [look, if_pos reached]
    exact endWait_phase
  · cases here

/-- A refresh that is taken ends the wait, or brings its deadline forward. -/
theorem refresh_taken {queue : List Message} (sound : s.Sound) (here : s.step (.received now) = some s')
    (under_way : s.phase.wait? = some wait) (is_queue : s.queue = .refresh :: queue) :
    s'.phase = .tick ∨ s'.phase = .stopped ∨
      ∃ brought, s'.phase.wait? = some brought ∧ brought.started = wait.started ∧ brought.scheduled = wait.scheduled ∧
        Brought brought := by
  have early := (sound.underWay under_way).2
  simp only [WaitLoop.step] at here
  split at here
  next other message rest is_waiting is_message =>
    obtain ⟨-, same⟩ := Option.ite_none_right_eq_some.mp here
    obtain rfl := Option.some.inj same
    rw [is_waiting] at under_way
    obtain rfl := Option.some.inj under_way
    rw [is_queue] at is_message
    obtain ⟨rfl, rfl⟩ := List.cons.inj is_message
    by_cases reached : other.admissible ≤ now
    · rw [receive, takeRefresh, if_pos reached]
      exact endWait_phase.imp id .inl
    · rw [receive, takeRefresh, if_neg reached, again]
      split
      · exact endWait_phase.imp id .inl
      · exact .inr (.inr ⟨_, rfl, rfl, rfl, min_brought early⟩)
  · cases here

/-- Refreshes are rate limited, coalesced and kept: in every state of every run at most one is queued, and one that is
owed is queued or taken by the wait under way. A wait that has taken one has its deadline at the scheduled one or at the
moment a refresh may end it, whichever is first; a wait's loop ends it at its first look at the clock at or after its
deadline; and a wait that ends in a tick before the deadline it began with has lasted the least interval. -/
theorem refreshes_kept {events : List LoopEvent} (run : Runs starts events s) :
    s.queue.count .refresh ≤ 1 ∧
      (s.owed = true → .refresh ∈ s.queue ∨ (∃ wait, s.phase.wait? = some wait ∧ Brought wait) ∨ s.phase = .stopped) ∧
      ∀ e s' wait, s.step e = some s' → s.phase.wait? = some wait →
        (s'.phase = .tick → s'.clock < wait.scheduled → wait.started + minRefreshInterval ≤ s'.clock) ∧
        (∀ now queue, e = .received now → s.queue = .refresh :: queue → s'.phase = .tick ∨ s'.phase = .stopped ∨
          ∃ brought, s'.phase.wait? = some brought ∧ brought.started = wait.started ∧ brought.scheduled = wait.scheduled ∧
            Brought brought) ∧
        ∀ now due, e = .fired now due → wait.deadline ≤ now → s'.phase = .tick ∨ s'.phase = .stopped := by
  have sound := Sound.run run
  refine ⟨?_, fun owed => ?_, fun e s' wait here under_way => ⟨fun ended early => ?_, ?_, ?_⟩⟩
  · rw [sound.once]
    split <;> omega
  · rcases sound.kept owed with pending | ⟨wait, under_way, refreshed⟩ | stopped
    · left
      have once := sound.once
      rw [if_pos pending] at once
      exact List.count_pos_iff.mp (by omega)
    · right
      left
      rcases sound.early wait under_way with ⟨-, not_refreshed⟩ | brought
      · rw [refreshed] at not_refreshed
        cases not_refreshed
      · exact ⟨wait, under_way, brought⟩
    · exact .inr (.inr stopped)
  · have reached := ends_in_tick sound here under_way ended
    rcases sound.early wait under_way with ⟨same, -⟩ | brought
    · rcases reached with deadline | admissible
      · omega
      · exact admissible
    · unfold Brought at brought
      unfold Wait.admissible at brought reached
      omega
  · rintro now queue rfl is_queue
    exact refresh_taken sound here under_way is_queue
  · rintro now due rfl reached
    exact look_ends here under_way reached

/-- A wait of one second that takes a refresh at 1.5 seconds goes on, and fires retries until 9. -/
def lateRefresh : List LoopEvent :=
  [.tickDone 0 1000 none, .request, .fired 0 none, .received 1500000, .fired (seconds 9) none]

/-- The look at the clock behind the refresh comes after the deadline and does not end the wait, and the tick starts
long after the deadline the wait began with. -/
theorem late_refresh_outlasts_deadline :
    (execute step starts (lateRefresh.take 4)).map (fun s => (s.phase, s.clock)) =
        some (.firing ⟨0, seconds 1, seconds 1, true⟩, 1500000) ∧
      (execute step starts lateRefresh).map (fun s => (s.phase, s.clock)) = some (.tick, seconds 9) := by
  decide

/-- A refresh that is asked for in a wait of thirty seconds ends it after seven. -/
theorem refresh_ends_wait_early :
    ∃ s s', Runs starts [.tickDone 0 30000 none, .request, .fired 0 none] s ∧ s.step (.received (seconds 7)) = some s' ∧
      s'.phase = .tick ∧ (⟨0, seconds 30, seconds 30, false⟩ : Wait).started + minRefreshInterval ≤ s'.clock := by
  have waits : (execute step starts [.tickDone 0 30000 none, .request, .fired 0 none]).bind
      (fun s => (s.step (.received (seconds 7))).map fun s' => (s.phase, s'.phase, s'.clock)) =
        some (.waiting ⟨0, seconds 30, seconds 30, false⟩, .tick, seconds 7) := by decide
  obtain ⟨s, executed, here⟩ := Option.bind_eq_some_iff.mp waits
  obtain ⟨s', here, same⟩ := Option.map_eq_some_iff.mp here
  obtain ⟨is_waiting, ended⟩ := Prod.mk.inj same
  obtain ⟨is_tick, clock⟩ := Prod.mk.inj ended
  have run := Steps.of_execute executed
  have under_way : s.phase.wait? = some ⟨0, seconds 30, seconds 30, false⟩ := by
    rw [is_waiting]
    rfl
  refine ⟨s, s', run, here, is_tick, ((refreshes_kept run).2.2 _ s' _ here under_way).1 is_tick ?_⟩
  rw [clock]
  decide

end WaitLoop
end Issuebot
