import Issuebot.Db.Writes
import Issuebot.Dict
import Issuebot.Logic.Runs

/-!
# The coalescing sink

`PostgresSink` as a transition system: the calls that enqueue, the drain task that takes one item at a time and writes it
through a connection that comes and goes, and the shutdown. A write may land without its answer; it is then made
again.
-/

namespace Issuebot
set_option autoImplicit false
open Logic

namespace Postgres

variable {py : Py} {Data : Type}

/-- `QUEUE_LIMIT` -/
def queueLimit : Nat := 1000

/-- An item of the queue: an event, a reconcile, or one of the two markers. -/
inductive Item where
  | event (event : Event)
  | track (numbers : List Nat) (seenAt : Datetime)
  | issues
  | snapshot
  deriving DecidableEq

/-- What the drain task writes, an event with the turns it captured for it. -/
inductive Work (Data : Type) where
  | event (event : Event) (turns : List TurnCapture)
  | track (numbers : List Nat) (seenAt : Datetime)
  | issues (batch : List IssueSnapshot)
  | snapshot (snapshot : Datetime × Data)

/-- Where the drain task is. -/
inductive Drain (Data : Type) where
  | unstarted
  | waiting
  | writing (work : Work Data)
  | ended

def Drain.isWriting : Drain Data → Bool
  | .writing _ => true
  | _ => false

/-- The queue's `none` is the one `close` puts there. -/
structure Sink (Data : Type) where
  queue : List (Option Item) := []
  issues : Dict IssueSnapshot := ∅
  issuesQueued : Bool := false
  snapshot : Option (Datetime × Data) := none
  snapshotQueued : Bool := false
  drain : Drain Data := .unstarted
  closed : Bool := false
  connected : Bool := false
  everConnected : Bool := false
  written : Nat := 0
  failed : Nat := 0
  dropped : Nat := 0
  reconnects : Nat := 0

/-- A call of the worker's, with the moment it reads of the clock. -/
inductive Call (Data : Type) where
  | handle (event : Event)
  | recordIssues (issues : List PolledIssue) (now : Datetime)
  | recordTriageTrack (issues : List PolledIssue) (now : Datetime)
  | recordSnapshot (snapshot : Datetime × Data)

/-- How one attempt at a write goes: its answer came, or the connection was lost before it landed or after, or the store
refused it. -/
inductive Attempt where
  | written
  | lost (landed : Bool)
  | refused
  deriving DecidableEq

inductive Action (Data : Type) where
  | call (call : Call Data)
  | start
  | take
  | connect (answers : Bool)
  | write (attempt : Attempt)
  | close
  | timeout

/-- The pending batch, with the snapshots of one read in it. -/
def mergedBatch (issues : List PolledIssue) (seenAt : Datetime) (batch : Dict IssueSnapshot) : Dict IssueSnapshot :=
  issues.foldl (fun batch issue => batch.set issue.number ⟨issue, seenAt⟩) batch

namespace Sink

variable (sink : Sink Data)

/-- `_merge` -/
def merge (issues : List PolledIssue) (seenAt : Datetime) : Sink Data :=
  let batch := mergedBatch issues seenAt sink.issues
  if issues ≠ [] ∧ !sink.issuesQueued then { sink with issues := batch, issuesQueued := true, queue := sink.queue ++ [some .issues] }
  else { sink with issues := batch }

/-- `record_snapshot`, of an open sink. -/
def fill (snapshot : Datetime × Data) : Sink Data :=
  if sink.snapshotQueued then { sink with snapshot := some snapshot }
  else { sink with snapshot := some snapshot, snapshotQueued := true, queue := sink.queue ++ [some .snapshot] }

/-- The call is taken in. -/
def accepts : Call Data → Bool
  | .handle _ => !sink.closed && sink.queue.length < queueLimit
  | .recordIssues issues _ => !sink.closed && !issues.isEmpty
  | .recordTriageTrack _ _ => !sink.closed && sink.queue.length < queueLimit
  | .recordSnapshot _ => !sink.closed

/-- `handle`, `record_issues`, `record_triage_track` and `record_snapshot`, of a call that is taken in. -/
def enqueue : Call Data → Sink Data
  | .handle event => { sink with queue := sink.queue ++ [some (.event event)] }
  | .recordIssues issues now => sink.merge issues now
  | .recordTriageTrack issues now =>
    let merged := sink.merge issues now
    { merged with queue := merged.queue ++ [some (.track (issues.map PolledIssue.number) now)] }
  | .recordSnapshot snapshot => sink.fill snapshot

/-- A call that is not taken in: one the full queue or the closed sink turns away is counted. -/
def turnAway : Call Data → Sink Data
  | .handle _ => { sink with dropped := sink.dropped + 1 }
  | .recordTriageTrack _ _ => if sink.closed then sink else { sink with dropped := sink.dropped + 1 }
  | .recordIssues _ _ | .recordSnapshot _ => sink

/-- What a shutdown in a hurry leaves behind. -/
def left : Nat := sink.queue.countP Option.isSome

end Sink

variable (sources : Sources py)

/-- `_capture` -/
def capture : Event → List TurnCapture
  | .ofIssue _ _ _ (.runEnded run) =>
    match run.logDir with
    | some logDir => if logDir = "" then [] else (sources.captureTurns logDir).getD []
    | none => []
  | _ => []

/-- `_scrub_log_dir` -/
def scrubLogDir : Event → Event
  | .ofIssue happened number identifier (.runEnded run) =>
    .ofIssue happened number identifier (.runEnded {
      run with logDir := run.logDir.map fun logDir => if logDir = "" then logDir else sources.scrub logDir })
  | event => event

/-- An event as it is written, with its turns. -/
def eventWork (event : Event) : Work Data := .event (scrubLogDir sources event) (capture sources event)

/-- `_take`: the work an item stands for. -/
def Sink.work (sink : Sink Data) : Item → Option (Work Data)
  | .event event => some (eventWork sources event)
  | .track numbers seenAt => some (.track numbers seenAt)
  | .issues => some (.issues sink.issues.values)
  | .snapshot => sink.snapshot.map .snapshot

/-- `_take`: what it leaves of the batch and the slot. -/
def Sink.taken (sink : Sink Data) : Item → Sink Data
  | .event _ | .track _ _ => sink
  | .issues => { sink with issues := ∅, issuesQueued := false }
  | .snapshot => { sink with snapshot := none, snapshotQueued := false }

/-- `_apply`, on the rows. -/
def Work.apply (tables : Tables Data) : Work Data → Tables Data
  | .event scrubbed turns => tables.applyEvent sources scrubbed turns
  | .track numbers seenAt => tables.reconcileTriageTrack numbers seenAt
  | .issues batch => tables.upsertIssues sources batch
  | .snapshot taken => tables.writeSnapshot taken

/-- The row a work appends to `events`. -/
def Work.events : Work Data → List Event
  | .event scrubbed _ => [scrubbed]
  | _ => []

/-- The sink and its repository's rows; `accepted` keeps the calls it has taken in. -/
structure System (Data : Type) where
  sink : Sink Data
  tables : Tables Data
  events : List Event
  accepted : List (Call Data)

def Action.isTimeout : Action Data → Bool
  | timeout => true
  | _ => false

namespace System

variable (s : System Data)

/-- One attempt at the write in flight, on a connection. -/
def attempt (work : Work Data) : Attempt → System Data
  | .written =>
    { s with
      tables := work.apply sources s.tables
      events := s.events ++ work.events
      sink := { s.sink with drain := .waiting, written := s.sink.written + 1 } }
  | .lost landed =>
    { s with
      tables := if landed then work.apply sources s.tables else s.tables
      events := if landed then s.events ++ work.events else s.events
      sink := { s.sink with connected := false } }
  | .refused => { s with sink := { s.sink with drain := .waiting, failed := s.sink.failed + 1 } }

/-- The drain task's next item. -/
def takeNext : Option (System Data) :=
  match s.sink.drain, s.sink.queue with
  | .waiting, none :: queue => some { s with sink := { s.sink with queue, drain := .ended } }
  | .waiting, some item :: queue =>
    let drain := ((s.sink.work sources item).map Drain.writing).getD .waiting
    some { s with sink := { s.sink.taken item with queue, drain } }
  | _, _ => none

/-- A call, taken in or not. -/
def called (call : Call Data) : System Data :=
  if s.sink.accepts call then { s with sink := s.sink.enqueue call, accepted := s.accepted ++ [call] }
  else { s with sink := s.sink.turnAway call }

/-- `start` -/
def start : Option (System Data) :=
  match s.sink.drain with
  | .unstarted => some { s with sink := { s.sink with drain := .waiting } }
  | _ => none

/-- One try of `_ensure_connected`, which the write in flight waits for. -/
def connect (answers : Bool) : Option (System Data) :=
  match s.sink.drain, s.sink.connected with
  | .writing _, false =>
    let reconnects := if s.sink.everConnected then s.sink.reconnects + 1 else s.sink.reconnects
    some (if answers then { s with sink := { s.sink with connected := true, everConnected := true, reconnects } } else s)
  | _, _ => none

/-- One attempt at the write in flight. -/
def write (attempt : Attempt) : Option (System Data) :=
  match s.sink.drain, s.sink.connected with
  | .writing work, true => some (s.attempt sources work attempt)
  | _, _ => none

/-- `close`, up to where it waits. -/
def close : System Data :=
  match s.sink.drain, s.sink.closed with
  | .unstarted, _ => s
  | _, true => s
  | _, false => { s with sink := { s.sink with closed := true, queue := s.sink.queue ++ [none] } }

/-- `close` has waited for `DRAIN_TIMEOUT_S`: the drain task is cancelled. -/
def cutShort : Option (System Data) :=
  let emptied := { s.sink with drain := .ended, queue := [], dropped := s.sink.dropped + s.sink.left }
  match s.sink.closed, s.sink.drain with
  | true, .waiting => some { s with sink := emptied }
  | true, .writing _ => some { s with sink := { emptied with failed := s.sink.failed + 1 } }
  | _, _ => none

/-- What an action does, `none` where it does not happen. -/
def act : Action Data → Option (System Data)
  | .call call => some (s.called call)
  | .start => s.start
  | .take => s.takeNext sources
  | .connect answers => s.connect answers
  | .write attempt => s.write sources attempt
  | .close => some s.close
  | .timeout => s.cutShort

/-- Everything taken in has been written. -/
def Drained : Prop := s.sink.queue = [] ∧ s.sink.drain.isWriting = false

instance : Decidable s.Drained := inferInstanceAs (Decidable (_ ∧ _))

/-- A new sink before rows that stand so. -/
def fresh (tables : Tables Data) (events : List Event) : System Data := ⟨{}, tables, events, []⟩

section Steps

variable {sources} {s} {s' : System Data}

theorem start_some (step : s.start = some s') :
    s.sink.drain = .unstarted ∧ s' = { s with sink := { s.sink with drain := .waiting } } := by
  unfold start at step
  split at step
  next unstarted => exact ⟨unstarted, (Option.some.inj step).symm⟩
  next => cases step

/-- The drain task comes to the `None`, or takes an item. -/
theorem takeNext_some (step : s.takeNext sources = some s') : s.sink.drain = .waiting ∧ ∃ queue,
    s.sink.queue = none :: queue ∧ s' = { s with sink := { s.sink with queue, drain := .ended } } ∨
    ∃ item, s.sink.queue = some item :: queue ∧ s' = { s with sink := {
      s.sink.taken item with queue, drain := ((s.sink.work sources item).map Drain.writing).getD .waiting } } := by
  unfold takeNext at step
  split at step
  next queue waits next => exact ⟨waits, queue, .inl ⟨next, (Option.some.inj step).symm⟩⟩
  next item queue waits next => exact ⟨waits, queue, .inr ⟨item, next, (Option.some.inj step).symm⟩⟩
  next => cases step

/-- A connection changes nothing but what the sink knows of it. -/
theorem connect_some {answers : Bool} (step : s.connect answers = some s') : ∃ connected everConnected reconnects,
    s' = { s with sink := { s.sink with connected, everConnected, reconnects } } := by
  unfold connect at step
  split at step
  next =>
    obtain rfl := Option.some.inj step
    split
    · exact ⟨_, _, _, rfl⟩
    · exact ⟨s.sink.connected, s.sink.everConnected, s.sink.reconnects, rfl⟩
  next => cases step

theorem write_some {attempt : Attempt} (step : s.write sources attempt = some s') :
    ∃ work, s.sink.drain = .writing work ∧ s' = s.attempt sources work attempt := by
  unfold write at step
  split at step
  next work writes _ => exact ⟨work, writes, (Option.some.inj step).symm⟩
  next => cases step

theorem close_cases : s.close = s ∨ s.sink.drain ≠ .unstarted ∧ s.sink.closed = false ∧
    s.close = { s with sink := { s.sink with closed := true, queue := s.sink.queue ++ [none] } } := by
  unfold close
  split
  · exact .inl rfl
  · exact .inl rfl
  next isOpen begun => exact .inr ⟨begun, isOpen, rfl⟩

theorem cutShort_some (step : s.cutShort = some s') : ∃ sink, s' = { s with sink } := by
  unfold cutShort at step
  dsimp only at step
  split at step
  · exact ⟨_, (Option.some.inj step).symm⟩
  · exact ⟨_, (Option.some.inj step).symm⟩
  · cases step

end Steps

end System

end Postgres
end Issuebot
