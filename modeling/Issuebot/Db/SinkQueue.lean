import Issuebot.Db.Sink

/-!
# The sink's queue

What holds of the sink at every moment of a run that `close` does not have to cut short: a batch waits exactly while its
marker is queued, once, and the same of the snapshot's slot; the queue outgrows its limit by the two markers and the
`None` at most, and nothing follows that `None` (`queue_sound`).
-/

namespace Issuebot
set_option autoImplicit false
open Logic

namespace Postgres

variable {py : Py} {sources : Sources py} {Data : Type}

def Drain.isEnded : Drain Data → Bool
  | .ended => true
  | _ => false

namespace Item

/-- An item that is turned away where the queue is full. -/
def isCounted : Item → Bool
  | event _ | track _ _ => true
  | issues | snapshot => false

theorem counted_add (items : List Item) :
    items.length = items.countP isCounted + items.count issues + items.count snapshot := by
  induction items with
  | nil => rfl
  | cons item items ih =>
    rw [List.length_cons, List.countP_cons, List.count_cons, List.count_cons, ih]
    cases item <;> simp [isCounted] <;> omega

end Item

namespace Sink

variable (sink : Sink Data)

/-- What is queued, but for the `None`. -/
def items : List Item := sink.queue.filterMap id

/-- The `None` of `close`, until the drain task has come to it. -/
def stop : List (Option Item) := if sink.closed && !sink.drain.isEnded then [none] else []

end Sink

/-- Each snapshot of a batch stands under its own issue's number. -/
def Keyed (batch : Dict IssueSnapshot) : Prop :=
  ∀ number snapshot, batch.lookup number = some snapshot → snapshot.issue.number = number

/-- What holds of the sink. -/
structure Sound (sink : Sink Data) : Prop where
  shape : sink.queue = sink.items.map some ++ sink.stop
  started : sink.closed → sink.drain ≠ .unstarted
  ended : sink.drain.isEnded → sink.closed ∧ sink.items = []
  issues : sink.items.count .issues = if sink.issuesQueued then 1 else 0
  batch : sink.issuesQueued ↔ sink.issues ≠ ∅
  snapshots : sink.items.count .snapshot = if sink.snapshotQueued then 1 else 0
  slot : sink.snapshotQueued = sink.snapshot.isSome
  keyed : Keyed sink.issues
  room : sink.items.countP Item.isCounted ≤ queueLimit
  taken : ∀ batch, sink.drain = .writing (.issues batch) → batch ≠ [] ∧ (batch.map fun snapshot => snapshot.issue.number).Nodup

section Merge

variable {sink : Sink Data} {issue : PolledIssue} {polled : List PolledIssue} {seenAt : Datetime} {batch : Dict IssueSnapshot}

theorem batch_numbers (keyed : Keyed batch) :
    batch.values.map (fun snapshot => snapshot.issue.number) = (batch.entries.map Sigma.fst).reverse := by
  rw [Dict.values, List.map_map, ← List.map_reverse]
  refine List.map_congr_left fun entry mem => keyed entry.1 entry.2 ?_
  exact AList.mem_lookup_iff.mpr (List.mem_reverse.mp mem)

theorem set_ne_empty {number : Nat} {snapshot : IssueSnapshot} : batch.set number snapshot ≠ ∅ := fun none_left => by
  have found : (batch.set number snapshot).lookup number = some snapshot := Dict.lookup_set_self
  rw [none_left] at found
  cases found

/-- A batch something is merged into is not empty. -/
theorem mergedBatch_ne_empty (some_here : polled ≠ [] ∨ batch ≠ ∅) : mergedBatch polled seenAt batch ≠ ∅ := by
  induction polled generalizing batch with
  | nil => exact some_here.resolve_left fun absent => absent rfl
  | cons issue polled ih => exact ih (.inr set_ne_empty)

theorem set_keyed {snapshot : IssueSnapshot} (keyed : Keyed batch) : Keyed (batch.set snapshot.issue.number snapshot) := by
  intro other old found
  by_cases same : other = snapshot.issue.number
  · subst same
    rw [Dict.lookup_set_self] at found
    rw [Option.some.inj found]
  · exact keyed other old (Dict.lookup_set_of_ne same ▸ found)

theorem mergedBatch_keyed (keyed : Keyed batch) : Keyed (mergedBatch polled seenAt batch) := by
  induction polled generalizing batch with
  | nil => exact keyed
  | cons issue polled ih => exact ih (@set_keyed _ ⟨issue, seenAt⟩ keyed)

end Merge

section Steps

variable {sink : Sink Data} {item : Item} {polled : List PolledIssue} {seenAt : Datetime}

theorem items_push (queue : List (Option Item)) : (queue ++ [some item]).filterMap id = queue.filterMap id ++ [item] :=
  List.filterMap_append ..

theorem Sound.stop_of_open (_ : Sound sink) (isOpen : sink.closed = false) : sink.stop = [] := by
  rw [Sink.stop, isOpen]
  rfl

theorem Sound.shape_push (h : Sound sink) (isOpen : sink.closed = false) :
    sink.queue ++ [some item] = (sink.items ++ [item]).map some ++ sink.stop := by
  rw [h.stop_of_open isOpen, List.append_nil, List.map_append, h.shape, h.stop_of_open isOpen, List.append_nil]
  rfl

theorem Sound.not_ended (h : Sound sink) (isOpen : sink.closed = false) : ¬ sink.drain.isEnded := fun finished => by
  have closed := (h.ended finished).1
  rw [isOpen] at closed
  cases closed

/-- An event or a reconcile, where there is room. -/
theorem Sound.push (h : Sound sink) (isOpen : sink.closed = false) (counted : item.isCounted)
    (room : sink.items.countP Item.isCounted < queueLimit) : Sound { sink with queue := sink.queue ++ [some item] } where
  shape := by
    rw [Sink.items, items_push]
    exact h.shape_push isOpen
  started := h.started
  ended finished := (h.not_ended isOpen finished).elim
  issues := by
    rw [Sink.items, items_push, List.count_append, ← h.issues]
    cases item with
    | event | track => rfl
    | issues | snapshot => cases counted
  batch := h.batch
  snapshots := by
    rw [Sink.items, items_push, List.count_append, ← h.snapshots]
    cases item with
    | event | track => rfl
    | issues | snapshot => cases counted
  slot := h.slot
  keyed := h.keyed
  room := by
    rw [Sink.items, items_push, List.countP_append, List.countP_singleton, if_pos counted]
    exact room
  taken := h.taken

/-- A merge queues the marker where none is queued. -/
theorem Sound.merge (h : Sound sink) (isOpen : sink.closed = false) : Sound (sink.merge polled seenAt) := by
  have keyed : Keyed (mergedBatch polled seenAt sink.issues) := mergedBatch_keyed h.keyed
  unfold Sink.merge
  dsimp only
  split
  next fresh =>
    have unqueued : sink.issuesQueued = false := by simpa using fresh.2
    exact {
      shape := by
        rw [Sink.items, items_push]
        exact h.shape_push isOpen
      started := h.started
      ended := fun finished => (h.not_ended isOpen finished).elim
      issues := by
        have none_queued := h.issues
        rw [unqueued] at none_queued
        rw [Sink.items, items_push, List.count_append]
        exact congrArg (· + 1) none_queued
      batch := ⟨fun _ => mergedBatch_ne_empty (.inl fresh.1), fun _ => rfl⟩
      snapshots := by
        rw [Sink.items, items_push, List.count_append, ← h.snapshots]
        rfl
      slot := h.slot
      keyed
      room := by
        rw [Sink.items, items_push, List.countP_append]
        exact h.room
      taken := h.taken }
  next settled =>
    have same : sink.issuesQueued = true ↔ mergedBatch polled seenAt sink.issues ≠ ∅ := by
      constructor
      · exact fun queued => mergedBatch_ne_empty (.inr (h.batch.mp queued))
      · intro some_here
        by_contra unqueued
        have no_read : polled = [] := by
          by_contra read
          exact settled ⟨read, by simpa using unqueued⟩
        subst no_read
        exact unqueued (h.batch.mpr some_here)
    exact ⟨h.shape, h.started, h.ended, h.issues, same, h.snapshots, h.slot, keyed, h.room, h.taken⟩

theorem merge_counted : (sink.merge polled seenAt).items.countP Item.isCounted = sink.items.countP Item.isCounted := by
  unfold Sink.merge
  dsimp only
  split
  · rw [Sink.items, items_push, List.countP_append]
    rfl
  · rfl

theorem merge_closed : (sink.merge polled seenAt).closed = sink.closed := by
  unfold Sink.merge
  dsimp only
  split <;> rfl

/-- The slot takes the snapshot, and its marker is queued where none is. -/
theorem Sound.fill (h : Sound sink) (isOpen : sink.closed = false) (snapshot : Datetime × Data) :
    Sound (sink.fill snapshot) := by
  unfold Sink.fill
  split
  next queued => exact ⟨h.shape, h.started, h.ended, h.issues, h.batch, h.snapshots, queued, h.keyed, h.room, h.taken⟩
  next unqueued =>
    exact {
      shape := by
        rw [Sink.items, items_push]
        exact h.shape_push isOpen
      started := h.started
      ended := fun finished => (h.not_ended isOpen finished).elim
      issues := by
        rw [Sink.items, items_push, List.count_append, ← h.issues]
        rfl
      batch := h.batch
      snapshots := by
        have none_queued := h.snapshots
        rw [if_neg unqueued] at none_queued
        rw [Sink.items, items_push, List.count_append]
        exact congrArg (· + 1) none_queued
      slot := rfl
      keyed := h.keyed
      room := by
        rw [Sink.items, items_push, List.countP_append]
        exact h.room
      taken := h.taken }

/-- A call that is taken in. -/
theorem Sound.enqueue (h : Sound sink) {call : Call Data} (accepted : sink.accepts call) : Sound (sink.enqueue call) := by
  have fits (room : sink.queue.length < queueLimit) : sink.items.countP Item.isCounted < queueLimit :=
    (List.countP_le_length.trans (List.length_filterMap_le _ _)).trans_lt room
  cases call with
  | handle event =>
    simp only [Sink.accepts, Bool.and_eq_true, Bool.not_eq_true', decide_eq_true_eq] at accepted
    exact h.push accepted.1 rfl (fits accepted.2)
  | recordIssues polled now =>
    simp only [Sink.accepts, Bool.and_eq_true, Bool.not_eq_true'] at accepted
    exact h.merge accepted.1
  | recordTriageTrack polled now =>
    simp only [Sink.accepts, Bool.and_eq_true, Bool.not_eq_true', decide_eq_true_eq] at accepted
    exact (h.merge accepted.1).push (merge_closed.trans accepted.1) rfl (merge_counted.trans_lt (fits accepted.2))
  | recordSnapshot snapshot =>
    simp only [Sink.accepts, Bool.not_eq_true'] at accepted
    exact h.fill accepted snapshot

/-- The batch a marker stands for, which is not empty and holds each issue once. -/
theorem Sound.batch_taken (h : Sound sink) (queued : .issues ∈ sink.items) :
    sink.issues.values ≠ [] ∧ (sink.issues.values.map fun snapshot => snapshot.issue.number).Nodup := by
  have marked : sink.issuesQueued := by
    by_contra unmarked
    have absent := h.issues
    rw [if_neg unmarked] at absent
    exact List.count_eq_zero.mp absent queued
  have some_here := h.batch.mp marked
  constructor
  · intro empty
    refine some_here (AList.ext ?_)
    exact List.reverse_eq_nil_iff.mp (List.map_eq_nil_iff.mp empty)
  · rw [batch_numbers h.keyed]
    exact List.nodup_reverse.mpr sink.issues.nodupKeys

end Steps

section Acts

variable {s s' : System Data} {action : Action Data}

/-- The drain task's next item. -/
theorem Sound.takeNext (h : Sound s.sink) (step : s.takeNext sources = some s') : Sound s'.sink := by
  obtain ⟨waits, queue, ⟨next, rfl⟩ | ⟨item, next, rfl⟩⟩ := System.takeNext_some step
  · have shape := h.shape
    have none_before : s.sink.items = [] := by
      cases is_items : s.sink.items with
      | nil => rfl
      | cons item items =>
        rw [is_items, next] at shape
        cases shape
    have closed : s.sink.closed ∧ queue = [] := by
      rw [none_before, next, Sink.stop, waits] at shape
      cases closed : s.sink.closed with
      | true =>
        rw [closed] at shape
        exact ⟨rfl, (List.cons.inj shape).2⟩
      | false =>
        rw [closed] at shape
        cases shape
    obtain ⟨closed, rfl⟩ := closed
    have none_counted := h.issues
    have none_filled := h.snapshots
    rw [none_before] at none_counted none_filled
    refine ⟨?_, fun _ => by rintro ⟨⟩, fun _ => ⟨closed, rfl⟩, none_counted, h.batch, none_filled, h.slot, h.keyed, Nat.zero_le _, fun _ => by rintro ⟨⟩⟩
    show [] = [] ++ if s.sink.closed && !true then [none] else []
    rw [Bool.not_true, Bool.and_false]
    rfl
  · have whole : s.sink.items = item :: queue.filterMap id := by
      rw [Sink.items, next]
      rfl
    have shape : queue = (queue.filterMap id).map some ++ if s.sink.closed && !false then [none] else [] := by
      have shape := h.shape
      rw [whole, next, Sink.stop, waits] at shape
      exact (List.cons.inj shape).2
    have issues := h.issues
    have snapshots := h.snapshots
    rw [whole] at issues snapshots
    have room : (queue.filterMap id).countP Item.isCounted ≤ queueLimit := by
      have room := h.room
      rw [whole] at room
      exact ((List.sublist_cons_self _ _).countP_le).trans room
    cases item with
    | event event =>
      exact ⟨shape, fun _ => by rintro ⟨⟩, by rintro ⟨⟩, issues, h.batch, snapshots, h.slot, h.keyed, room, fun _ => by rintro ⟨⟩⟩
    | track numbers seenAt =>
      exact ⟨shape, fun _ => by rintro ⟨⟩, by rintro ⟨⟩, issues, h.batch, snapshots, h.slot, h.keyed, room, fun _ => by rintro ⟨⟩⟩
    | issues =>
      have unqueued : (queue.filterMap id).count .issues = 0 := by
        rw [List.count_cons_self] at issues
        split at issues <;> omega
      refine ⟨shape, fun _ => by rintro ⟨⟩, by rintro ⟨⟩, unqueued, ⟨by rintro ⟨⟩, fun some_here => absurd rfl some_here⟩, snapshots, h.slot,
        (fun _ _ found => by cases found), room, fun batch is_batch => ?_⟩
      obtain rfl : s.sink.issues.values = batch := by
        cases is_batch
        rfl
      exact h.batch_taken (whole ▸ List.mem_cons_self)
    | snapshot =>
      have unqueued : (queue.filterMap id).count .snapshot = 0 := by
        rw [List.count_cons_self] at snapshots
        split at snapshots <;> omega
      have filled : ∃ taken, s.sink.snapshot = some taken := by
        rw [List.count_cons_self] at snapshots
        refine Option.isSome_iff_exists.mp ?_
        rw [← h.slot]
        by_contra unfilled
        rw [if_neg unfilled] at snapshots
        cases snapshots
      obtain ⟨taken, is_taken⟩ := filled
      have drain : ((s.sink.work sources .snapshot).map Drain.writing).getD .waiting = .writing (.snapshot taken) := by
        rw [Sink.work, is_taken]
        rfl
      rw [drain]
      exact ⟨shape, fun _ => by rintro ⟨⟩, by rintro ⟨⟩, issues, h.batch, unqueued, rfl, h.keyed, room, fun _ => by rintro ⟨⟩⟩

/-- What each action but a shutdown in a hurry keeps. -/
theorem Sound.act (h : Sound s.sink) (step : s.act sources action = some s') (patient : action.isTimeout = false) : Sound s'.sink := by
  cases action with
  | call call =>
    obtain rfl := Option.some.inj step
    unfold System.called
    split
    next accepted => exact h.enqueue accepted
    next refused =>
      cases call with
      | handle event => exact ⟨h.shape, h.started, h.ended, h.issues, h.batch, h.snapshots, h.slot, h.keyed, h.room, h.taken⟩
      | recordIssues polled now => exact h
      | recordTriageTrack polled now =>
        show Sound (if s.sink.closed then s.sink else _)
        split
        · exact h
        · exact ⟨h.shape, h.started, h.ended, h.issues, h.batch, h.snapshots, h.slot, h.keyed, h.room, h.taken⟩
      | recordSnapshot snapshot => exact h
  | start =>
    obtain ⟨unstarted, rfl⟩ := System.start_some step
    have isOpen : s.sink.closed = false := by
      by_contra closed
      exact h.started (by simpa using closed) unstarted
    have shape : s.sink.queue = s.sink.items.map some ++ if s.sink.closed && !false then [none] else [] := by
      have shape := h.shape
      rwa [Sink.stop, unstarted] at shape
    exact ⟨shape, fun _ => by rintro ⟨⟩, by rintro ⟨⟩, h.issues, h.batch, h.snapshots, h.slot, h.keyed, h.room, fun _ => by rintro ⟨⟩⟩
  | take => exact h.takeNext step
  | connect answers =>
    obtain ⟨connected, everConnected, reconnects, rfl⟩ := System.connect_some step
    exact ⟨h.shape, h.started, h.ended, h.issues, h.batch, h.snapshots, h.slot, h.keyed, h.room, h.taken⟩
  | write attempt =>
    obtain ⟨work, writes, rfl⟩ := System.write_some step
    have shape : s.sink.queue = s.sink.items.map some ++ if s.sink.closed && !false then [none] else [] := by
      have shape := h.shape
      rwa [Sink.stop, writes] at shape
    cases attempt with
    | written | refused =>
      exact ⟨shape, fun _ => by rintro ⟨⟩, by rintro ⟨⟩, h.issues, h.batch, h.snapshots, h.slot, h.keyed, h.room, fun _ => by rintro ⟨⟩⟩
    | lost landed => exact ⟨h.shape, h.started, h.ended, h.issues, h.batch, h.snapshots, h.slot, h.keyed, h.room, h.taken⟩
  | close =>
    obtain rfl := Option.some.inj step
    rcases s.close_cases with same | ⟨begun, isOpen, same⟩
    · rw [same]
      exact h
    · rw [same]
      have going : s.sink.drain.isEnded = false := by simpa using h.not_ended isOpen
      have items : (s.sink.queue ++ [none]).filterMap id = s.sink.items := (List.filterMap_append ..).trans (List.append_nil _)
      have shape : s.sink.queue ++ [none] = s.sink.items.map some ++ if true && !s.sink.drain.isEnded then [none] else [] := by
        rw [h.shape, h.stop_of_open isOpen, going, List.append_nil]
        rfl
      refine ⟨?_, fun _ => begun, fun finished => (h.not_ended isOpen finished).elim, ?_, h.batch, ?_, h.slot, h.keyed, ?_, h.taken⟩
      · rw [Sink.items, items]
        exact shape
      · rw [Sink.items, items]
        exact h.issues
      · rw [Sink.items, items]
        exact h.snapshots
      · rw [Sink.items, items]
        exact h.room
  | timeout => cases patient

theorem sound_fresh {tables : Tables Data} {events : List Event} : Sound (System.fresh tables events).sink where
  shape := rfl
  started := by rintro ⟨⟩
  ended := by rintro ⟨⟩
  issues := rfl
  batch := ⟨by rintro ⟨⟩, fun some_here => absurd rfl some_here⟩
  snapshots := rfl
  slot := rfl
  keyed _ _ found := by cases found
  room := Nat.zero_le _
  taken _ := by rintro ⟨⟩

/-- The queue holds what is counted, one marker of each kind at most, and the `None`. -/
theorem Sound.length_le (h : Sound s.sink) : s.sink.queue.length ≤ queueLimit + 3 := by
  have issues : s.sink.items.count .issues ≤ 1 := by
    rw [h.issues]
    split <;> omega
  have snapshots : s.sink.items.count .snapshot ≤ 1 := by
    rw [h.snapshots]
    split <;> omega
  have stop : s.sink.stop.length ≤ 1 := by
    unfold Sink.stop
    split <;> simp
  have counted := Item.counted_add s.sink.items
  have room := h.room
  rw [h.shape, List.length_append, List.length_map]
  omega

/-- Every item that is next stands for work: a marker finds its batch, of distinct issues, or its slot filled. -/
theorem Sound.work_some (h : Sound s.sink) {item : Item} (waits : item ∈ s.sink.items) :
    ∃ work, s.sink.work sources item = some work ∧
      ∀ batch, work = .issues batch → batch ≠ [] ∧ (batch.map fun snapshot => snapshot.issue.number).Nodup := by
  cases item with
  | event event => exact ⟨_, rfl, fun _ => by rintro ⟨⟩⟩
  | track numbers seenAt => exact ⟨_, rfl, fun _ => by rintro ⟨⟩⟩
  | issues =>
    refine ⟨_, rfl, fun batch is_batch => ?_⟩
    cases is_batch
    exact h.batch_taken waits
  | snapshot =>
    have queued := h.snapshots ▸ List.count_pos_iff.mpr waits
    have marked : s.sink.snapshotQueued := by
      by_contra unmarked
      rw [if_neg unmarked] at queued
      exact absurd queued (Nat.lt_irrefl 0)
    obtain ⟨taken, is_taken⟩ := Option.isSome_iff_exists.mp (h.slot ▸ marked)
    refine ⟨.snapshot taken, by rw [Sink.work, is_taken]; rfl, fun _ => by rintro ⟨⟩⟩

variable {tables : Tables Data} {events : List Event} {actions : List (Action Data)}

/-- At every moment of a run that no shutdown cuts short, refused writes and lost connections included. -/
theorem queue_sound (run : Steps (fun s action s' => s.act sources action = some s') (System.fresh tables events) actions s)
    (patient : ∀ action ∈ actions, action.isTimeout = false) : Sound s.sink ∧ s.sink.queue.length ≤ queueLimit + 3 ∧
      ∀ item ∈ s.sink.items, ∃ work, s.sink.work sources item = some work ∧
        ∀ batch, work = .issues batch → batch ≠ [] ∧ (batch.map fun snapshot => snapshot.issue.number).Nodup := by
  have sound : Sound s.sink := by
    generalize is_first : System.fresh tables events = first at run
    have start : Sound first.sink := is_first ▸ sound_fresh
    clear is_first
    induction run with
    | nil => exact start
    | cons step _ ih =>
      exact ih (fun action mem => patient action (List.mem_cons_of_mem _ mem)) (start.act step (patient _ List.mem_cons_self))
  exact ⟨sound, sound.length_le, fun item waits => sound.work_some waits⟩

end Acts

section Plain

/-- The default labels, no turn files, and nothing to scrub. -/
def plainSources : Sources Py.ascii where
  labels := GitHubLabels.default
  captureTurns _ := some []
  scrub logDir := logDir

def noRows : Tables Unit where
  issues _ := none
  runs _ := none
  turns _ _ := none
  snapshot := none

/-- An issue as the board poll reads it. -/
def polledIssue (state : StateLabel) (labels : List String) : PolledIssue where
  number := 8
  identifier := "8"
  title := "Cache the index"
  state := some state
  stateLabels := [GitHubLabels.default.labelName state]
  githubState := .opened
  url := ""
  labels
  linkedPr := none
  createdAt := 0
  updatedAt := 0
  closedAt := none

/-- What some actions leave of a new sink, where they happen. -/
def leftBy (actions : List (Action Unit)) : System Unit :=
  (execute (System.act plainSources) (System.fresh noRows []) actions).getD (System.fresh noRows [])

theorem leftBy_runs {actions : List (Action Unit)} (happen : (execute (System.act plainSources) (System.fresh noRows []) actions).isSome) :
    Steps (fun s action s' => s.act plainSources action = some s') (System.fresh noRows []) actions (leftBy actions) :=
  .of_isSome happen

/-- Two polls, an event, a read of the triage track and a snapshot, before the drain task starts; then the batch is refused. -/
def refusedBatch : List (Action Unit) :=
  [.call (.recordIssues [polledIssue .todo ["issuebot/todo"]] 10), .call (.handle (.autoTriageState 11 true 0)),
    .call (.recordTriageTrack [polledIssue .todo ["issuebot/todo"]] 12), .call (.recordSnapshot (13, ())), .start, .take, .connect true,
    .write .refused, .call (.recordIssues [polledIssue .review ["issuebot/review"]] 14)]

/-- Behind the refused batch, another waits with a marker of its own. -/
theorem refused_batch_sound : ((leftBy refusedBatch).sink.queue =
      [some (.event (.autoTriageState 11 true 0)), some (.track [8] 12), some .snapshot, some .issues]) ∧
    Sound (leftBy refusedBatch).sink ∧ (leftBy refusedBatch).sink.queue.length ≤ queueLimit + 3 ∧
      ∀ item ∈ (leftBy refusedBatch).sink.items, ∃ work, (leftBy refusedBatch).sink.work plainSources item = some work ∧
        ∀ batch, work = .issues batch → batch ≠ [] ∧ (batch.map fun snapshot => snapshot.issue.number).Nodup :=
  ⟨by decide +kernel, queue_sound (leftBy_runs (by decide +kernel)) (by decide +kernel)⟩

end Plain

end Postgres
end Issuebot
