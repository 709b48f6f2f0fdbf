import Issuebot.Db.SinkQueue

/-!
# The sink writes in order

A batch is taken where its marker was queued, so a snapshot merged in later overtakes what was queued between. Every write
to an issue's row is guarded by when the row was seen, so the rows come out as if each call had been written when it was
made (`sink_refines`), also where a write is made twice, and a reconcile never comes before the snapshots of its own read.
-/

namespace Issuebot
set_option autoImplicit false
open Logic

namespace Postgres

variable {py : Py} {sources : Sources py} {Data : Type}

namespace Call

/-- The call written by itself. -/
def apply (sources : Sources py) (tables : Tables Data) : Call Data → Tables Data
  | handle event => tables.applyEvent sources (scrubLogDir sources event) (capture sources event)
  | recordIssues polled now => tables.upsertIssues sources (polled.map fun issue => ⟨issue, now⟩)
  | recordTriageTrack polled now =>
    (tables.upsertIssues sources (polled.map fun issue => ⟨issue, now⟩)).reconcileTriageTrack (polled.map PolledIssue.number) now
  | recordSnapshot snapshot => tables.writeSnapshot snapshot

/-- When the call read issues. -/
def readAt : Call Data → Option Datetime
  | recordIssues _ now | recordTriageTrack _ now => some now
  | handle _ | recordSnapshot _ => none

/-- The call comes before a read at that moment: what it changes was before it, and what it read was not after it. -/
def Before (now : Datetime) : Call Data → Prop
  | handle event => event.happened < now
  | recordIssues _ earlier => earlier ≤ now
  | recordTriageTrack _ earlier => earlier < now
  | recordSnapshot _ => True

instance (call : Call Data) (now : Datetime) : Decidable (call.Before now) := by
  cases call <;> (unfold Before; infer_instance)

end Call

/-- Every read comes after the calls made before it. -/
def Ordered (calls : List (Call Data)) : Prop :=
  calls.Pairwise fun call later => ∀ now ∈ later.readAt, call.Before now

instance (calls : List (Call Data)) : Decidable (Ordered calls) := inferInstanceAs (Decidable (List.Pairwise _ _))

/-- The calls written one by one. -/
def inOrder (sources : Sources py) (tables : Tables Data) (calls : List (Call Data)) : Tables Data :=
  calls.foldl (Call.apply sources) tables

namespace Work

variable {tables : Tables Data} {work : Work Data} {number : Nat} {row : IssueRow} {moment : Datetime}

/-- A write that was due before `now`. A batch is never overtaken: there is one at most. -/
def Before (now : Datetime) : Work Data → Prop
  | event scrubbed _ => scrubbed.happened < now
  | track _ seenAt => seenAt < now
  | issues _ => False
  | snapshot _ => True

/-- A batch of distinct issues. -/
def Distinct : Work Data → Prop
  | issues batch => (batch.map fun snapshot => snapshot.issue.number).Nodup
  | _ => True

theorem apply_put (earlier : work.Before row.seenAt) :
    work.apply sources (tables.putIssue number row) = (work.apply sources tables).putIssue number row := by
  cases work with
  | event scrubbed turns => exact Tables.applyEvent_put earlier
  | track numbers seenAt => exact Tables.reconcileTriageTrack_put earlier
  | issues batch => exact earlier.elim
  | snapshot taken => rfl

/-- A write made twice is made once. -/
theorem apply_again (distinct : work.Distinct) : work.apply sources (work.apply sources tables) = work.apply sources tables := by
  cases work with
  | event scrubbed turns => exact Tables.applyEvent_again
  | track numbers seenAt => exact Tables.reconcileTriageTrack_again
  | issues batch => exact Tables.upsertIssues_again distinct
  | snapshot taken => rfl

theorem apply_seenBy (held : SeenBy IssueRow.seenAt moment (tables.issues number)) :
    SeenBy IssueRow.seenAt moment ((work.apply sources tables).issues number) := by
  cases work with
  | event scrubbed turns => exact Tables.applyEvent_seenBy held
  | track numbers seenAt => exact seenBy_change reconciledRow_dated held
  | issues batch => exact seenBy_putAll held
  | snapshot taken => exact held

/-- Nothing but a snapshot writes that table, or reads it. -/
theorem apply_snapshot {slot : Option (Datetime × Data)} (other : ∀ taken, work ≠ .snapshot taken) :
    work.apply sources { tables with snapshot := slot } = { work.apply sources tables with snapshot := slot } := by
  cases work with
  | event scrubbed turns =>
    show Tables.applyEvent sources _ scrubbed turns = { Tables.applyEvent sources tables scrubbed turns with snapshot := slot }
    unfold Tables.applyEvent
    split
    · rfl
    · rfl
    · unfold Tables.updateIssue
      split <;> rfl
  | track numbers seenAt => rfl
  | issues batch => rfl
  | snapshot taken => exact (other taken rfl).elim

end Work

section Batch

variable {tables : Tables Data} {batch : Dict IssueSnapshot} {number : Nat} {snapshot : IssueSnapshot}

/-- A batch puts each of its snapshots in place. -/
theorem upsert_of_mem (keyed : Keyed batch) (found : batch.lookup number = some snapshot) :
    (tables.upsertIssues sources batch.values).issues number = put IssueRow.seenAt (issueRow sources snapshot) (tables.issues number) := by
  refine putAll_of_mem ?_ ?_
  · rw [List.map_map]
    refine (congrArg List.Nodup (batch_numbers keyed)).mpr (List.nodup_reverse.mpr batch.nodupKeys)
  · refine List.mem_map.mpr ⟨snapshot, Dict.mem_values found, ?_⟩
    rw [keyed number snapshot found]

theorem upsert_of_notMem (keyed : Keyed batch) (absent : batch.lookup number = none) :
    (tables.upsertIssues sources batch.values).issues number = tables.issues number := by
  refine putAll_of_notMem fun listed => ?_
  rw [List.map_map] at listed
  have listed : number ∈ batch.values.map fun snapshot => snapshot.issue.number := listed
  rw [batch_numbers keyed, List.mem_reverse] at listed
  exact AList.lookup_eq_none.mp absent (AList.mem_keys.mp listed)

/-- A snapshot merged into a batch is written as if behind it. -/
theorem upsert_set (keyed : Keyed batch) (keyed' : Keyed (batch.set snapshot.issue.number snapshot))
    (fresh : ∀ old, batch.lookup snapshot.issue.number = some old → old.seenAt ≤ snapshot.seenAt) :
    tables.upsertIssues sources (batch.set snapshot.issue.number snapshot).values =
      (tables.upsertIssues sources batch.values).putIssue snapshot.issue.number (issueRow sources snapshot) := by
  refine congrArg (fun issues => { tables with issues }) ?_
  funext number
  show (tables.upsertIssues sources (batch.set snapshot.issue.number snapshot).values).issues number =
    putAt IssueRow.seenAt (tables.upsertIssues sources batch.values).issues snapshot.issue.number (issueRow sources snapshot) number
  by_cases same : number = snapshot.issue.number
  · subst same
    rw [upsert_of_mem keyed' Dict.lookup_set_self, putAt_self]
    cases before : batch.lookup snapshot.issue.number with
    | none => rw [upsert_of_notMem keyed before]
    | some old =>
      have order : (issueRow sources old).seenAt ≤ (issueRow sources snapshot).seenAt := fresh old before
      rw [upsert_of_mem keyed before]
      exact (put_put order).symm
  · rw [putAt_of_ne same]
    have untouched : (batch.set snapshot.issue.number snapshot).lookup number = batch.lookup number := Dict.lookup_set_of_ne same
    cases before : batch.lookup number with
    | none => rw [upsert_of_notMem keyed before, upsert_of_notMem keyed' (untouched.trans before)]
    | some old => rw [upsert_of_mem keyed before, upsert_of_mem keyed' (untouched.trans before)]

end Batch

namespace Sink

variable (sources) (sink : Sink Data) (tables : Tables Data)

/-- The rows once the write in flight has landed. -/
def begun : Tables Data :=
  match sink.drain with
  | .writing work => work.apply sources tables
  | _ => tables

/-- The rows once an item is written, as it stands. -/
def pending (tables : Tables Data) (item : Item) : Tables Data :=
  match sink.work sources item with
  | some work => work.apply sources tables
  | none => tables

/-- The rows once everything that waits is written, as it stands. -/
def flush : Tables Data := sink.items.foldl (sink.pending sources) (sink.begun sources tables)

end Sink

/-- An item due before `now`; the two markers are due whenever they are come to. -/
def Item.Before (now : Datetime) : Item → Prop
  | event waiting => waiting.happened < now
  | track _ seenAt => seenAt < now
  | issues | snapshot => True

theorem scrubLogDir_happened {event : Event} : (scrubLogDir sources event).happened = event.happened := by
  unfold scrubLogDir
  split <;> rfl

/-- What is known to stand by each reconcile: the snapshots of its own read, or newer ones. -/
def OwnSnapshots (tables : Tables Data) : Item → Prop
  | .track numbers seenAt => ∀ number ∈ numbers, SeenBy IssueRow.seenAt seenAt (tables.issues number)
  | _ => True

section Flush

variable {sink : Sink Data} {tables : Tables Data} {item : Item} {issue : PolledIssue} {polled : List PolledIssue} {now : Datetime}
variable {row : IssueRow} {number : Nat} {items : List Item}

theorem ownSnapshots_put (held : OwnSnapshots tables item) : OwnSnapshots (tables.putIssue number row) item := by
  cases item with
  | track numbers seenAt => exact fun other mem => seenBy_putAt (held other mem)
  | event | issues | snapshot => trivial

/-- A row put in place behind an item that is due before it may be put there first. -/
theorem pending_put (other : item ≠ .issues) (earlier : item.Before row.seenAt) :
    sink.pending sources (tables.putIssue number row) item = (sink.pending sources tables item).putIssue number row := by
  cases item with
  | event event =>
    have earlier : (scrubLogDir sources event).happened < row.seenAt := scrubLogDir_happened.trans_lt earlier
    exact Tables.applyEvent_put earlier
  | track numbers seenAt => exact Tables.reconcileTriageTrack_put earlier
  | issues => exact absurd rfl other
  | snapshot =>
    unfold Sink.pending
    split <;> rename_i is_work
    · obtain ⟨taken, -, rfl⟩ := Option.map_eq_some_iff.mp is_work
      rfl
    · rfl

/-- The sink with one more snapshot in its batch. -/
def Sink.add (sink : Sink Data) (issue : PolledIssue) (now : Datetime) : Sink Data :=
  { sink with issues := sink.issues.set issue.number ⟨issue, now⟩ }

theorem pending_add (other : item ≠ .issues) (tables : Tables Data) :
    (sink.add issue now).pending sources tables item = sink.pending sources tables item := by
  cases item with
  | issues => exact absurd rfl other
  | event | track | snapshot => rfl

theorem pending_add_issues (keyed : Keyed sink.issues) (fresh : ∀ old, sink.issues.lookup issue.number = some old → old.seenAt ≤ now)
    (tables : Tables Data) : (sink.add issue now).pending sources tables .issues =
      (sink.pending sources tables .issues).putIssue issue.number (issueRow sources ⟨issue, now⟩) := by
  have keyed' : Keyed (sink.issues.set issue.number ⟨issue, now⟩) := @set_keyed _ ⟨issue, now⟩ keyed
  exact @upsert_set _ sources _ tables sink.issues ⟨issue, now⟩ keyed keyed' fresh

/-- Along the queue, each reconcile comes behind the snapshots of its own read. -/
def OwnAlong (sources : Sources py) (sink : Sink Data) (tables : Tables Data) : Prop :=
  Along (sink.pending sources) OwnSnapshots (sink.begun sources tables) sink.items

/-- One more snapshot in the batch is one more row at the end, where all that waits was due before it. -/
theorem flush_add (once : sink.items.count .issues = 1) (keyed : Keyed sink.issues)
    (fresh : ∀ old, sink.issues.lookup issue.number = some old → old.seenAt ≤ now) (later : ∀ item ∈ sink.items, item.Before now) :
    (sink.add issue now).flush sources tables = (sink.flush sources tables).putIssue issue.number (issueRow sources ⟨issue, now⟩) ∧
      (OwnAlong sources sink tables → OwnAlong sources (sink.add issue now) tables) := by
  obtain ⟨before, after, split, absent, absent'⟩ := exists_split_of_count once
  have other (item : Item) (mem : item ∈ before ++ after) : item ≠ .issues := by
    rintro rfl
    exact (List.mem_append.mp mem).elim absent absent'
  have same (item : Item) (mem : item ∈ before ++ after) (tables : Tables Data) :
      (sink.add issue now).pending sources tables item = sink.pending sources tables item := pending_add (other item mem) tables
  have comm (item : Item) (mem : item ∈ after) (tables : Tables Data) :
      sink.pending sources (tables.putIssue issue.number (issueRow sources ⟨issue, now⟩)) item =
        (sink.pending sources tables item).putIssue issue.number (issueRow sources ⟨issue, now⟩) := by
    refine pending_put (other item (List.mem_append_right _ mem)) (later item ?_)
    rw [split]
    exact List.mem_append_right _ (List.mem_cons_of_mem _ mem)
  have here (tables : Tables Data) : (sink.add issue now).pending sources tables .issues =
      (sink.pending sources tables .issues).putIssue issue.number (issueRow sources ⟨issue, now⟩) := pending_add_issues keyed fresh tables
  constructor
  · show sink.items.foldl ((sink.add issue now).pending sources) (sink.begun sources tables) = _
    rw [Sink.flush, split]
    exact foldl_coalesce _ here same comm
  · intro own
    show Along ((sink.add issue now).pending sources) OwnSnapshots (sink.begun sources tables) sink.items
    unfold OwnAlong at own
    rw [split] at own ⊢
    exact along_coalesce here same comm (fun _ _ held => ownSnapshots_put held) own

/-- The snapshots of one read in the batch are written at the end. -/
theorem flush_addAll (once : sink.items.count .issues = 1) (keyed : Keyed sink.issues)
    (fresh : ∀ number old, sink.issues.lookup number = some old → old.seenAt ≤ now) (later : ∀ item ∈ sink.items, item.Before now) :
    ({ sink with issues := mergedBatch polled now sink.issues } : Sink Data).flush sources tables =
        (sink.flush sources tables).upsertIssues sources (polled.map fun issue => ⟨issue, now⟩) ∧
      (OwnAlong sources sink tables → OwnAlong sources { sink with issues := mergedBatch polled now sink.issues } tables) := by
  induction polled generalizing sink with
  | nil => exact ⟨rfl, id⟩
  | cons issue polled ih =>
    have fresh' (number : Nat) (old : IssueSnapshot) (found : (sink.add issue now).issues.lookup number = some old) : old.seenAt ≤ now := by
      by_cases same : number = issue.number
      · subst same
        obtain rfl := Option.some.inj (Dict.lookup_set_self.symm.trans found)
        exact le_refl _
      · exact fresh number old ((Dict.lookup_set_of_ne same).symm.trans found)
    have one := @flush_add _ sources _ sink tables issue now once keyed (fresh issue.number) later
    have rest := @ih (sink.add issue now) once (@set_keyed _ ⟨issue, now⟩ keyed) fresh' later
    exact ⟨rest.1.trans (congrArg (Tables.upsertIssues sources · _) one.1), fun own => rest.2 (one.2 own)⟩

/-- An item at the end of the queue is written last. -/
theorem flush_push : ({ sink with queue := sink.queue ++ [some item] } : Sink Data).flush sources tables =
    sink.pending sources (sink.flush sources tables) item := by
  show ((sink.queue ++ [some item]).filterMap id).foldl (sink.pending sources) (sink.begun sources tables) = _
  rw [items_push, List.foldl_append]
  rfl

theorem own_push (own : OwnAlong sources sink tables) (last : OwnSnapshots (sink.flush sources tables) item) :
    OwnAlong sources { sink with queue := sink.queue ++ [some item] } tables := by
  show Along (sink.pending sources) OwnSnapshots (sink.begun sources tables) ((sink.queue ++ [some item]).filterMap id)
  rw [items_push]
  exact along_append.mpr ⟨own, last, trivial⟩

/-- A read merged in is written at the end. -/
theorem flush_merge (h : Sound sink) (fresh : ∀ number old, sink.issues.lookup number = some old → old.seenAt ≤ now)
    (later : ∀ item ∈ sink.items, item.Before now) :
    (sink.merge polled now).flush sources tables =
        (sink.flush sources tables).upsertIssues sources (polled.map fun issue => ⟨issue, now⟩) ∧
      (OwnAlong sources sink tables → OwnAlong sources (sink.merge polled now) tables) := by
  unfold Sink.merge
  dsimp only
  split
  next begins =>
    have unqueued : sink.issuesQueued = false := by simpa using begins.2
    have empty : sink.issues = ∅ := by
      by_contra some_here
      have queued := h.batch.mpr some_here
      rw [unqueued] at queued
      cases queued
    -- The marker alone stands for an empty batch.
    let marked : Sink Data := { sink with issuesQueued := true, queue := sink.queue ++ [some .issues] }
    have items : marked.items = sink.items ++ [.issues] := items_push sink.queue
    have none_queued := h.issues
    rw [unqueued] at none_queued
    have once : marked.items.count .issues = 1 := by
      rw [items, List.count_append, none_queued]
      rfl
    have flushed : marked.flush sources tables = sink.flush sources tables := by
      refine (@flush_push _ sources _ sink tables .issues).trans ?_
      show Tables.upsertIssues sources _ sink.issues.values = _
      rw [empty]
      rfl
    have later' (item : Item) (mem : item ∈ marked.items) : item.Before now := by
      rw [items] at mem
      rcases List.mem_append.mp mem with waiting | marker
      · exact later item waiting
      · obtain rfl := List.mem_singleton.mp marker
        trivial
    have both := @flush_addAll _ sources _ marked tables polled now once h.keyed fresh later'
    exact ⟨both.1.trans (by rw [flushed]), fun own => both.2 (@own_push _ sources _ sink tables .issues own trivial)⟩
  next goes_on =>
    by_cases queued : sink.issuesQueued
    · have once := h.issues
      rw [if_pos queued] at once
      exact flush_addAll once h.keyed fresh later
    · have nothing : polled = [] := by
        by_contra some_read
        exact goes_on ⟨some_read, by simpa using queued⟩
      subst nothing
      exact ⟨rfl, id⟩

/-- The slot's snapshot is written at the end. -/
theorem flush_fill (h : Sound sink) {snapshot : Datetime × Data} :
    (sink.fill snapshot).flush sources tables = (sink.flush sources tables).writeSnapshot snapshot ∧
      (OwnAlong sources sink tables → OwnAlong sources (sink.fill snapshot) tables) := by
  have same (item : Item) (other : item ≠ .snapshot) (tables : Tables Data) :
      ({ sink with snapshot := some snapshot } : Sink Data).pending sources tables item = sink.pending sources tables item := by
    cases item with
    | snapshot => exact absurd rfl other
    | event | track | issues => rfl
  unfold Sink.fill
  split
  next queued =>
    have once := h.snapshots
    rw [if_pos queued] at once
    obtain ⟨before, after, split, absent, absent'⟩ := exists_split_of_count once
    have other (item : Item) (mem : item ∈ before ++ after) : item ≠ .snapshot := by
      rintro rfl
      exact (List.mem_append.mp mem).elim absent absent'
    have comm (item : Item) (mem : item ∈ after) (tables : Tables Data) :
        sink.pending sources { tables with snapshot := some snapshot } item =
          { sink.pending sources tables item with snapshot := some snapshot } := by
      have other := other item (List.mem_append_right _ mem)
      unfold Sink.pending
      split
      next work is_work =>
        refine Work.apply_snapshot fun taken is_snapshot => ?_
        subst is_snapshot
        cases item with
        | snapshot => exact other rfl
        | event | track | issues => cases is_work
      next => rfl
    have here (tables : Tables Data) : ({ sink with snapshot := some snapshot } : Sink Data).pending sources tables .snapshot =
        { sink.pending sources tables .snapshot with snapshot := some snapshot } := by
      unfold Sink.pending Sink.work
      cases sink.snapshot <;> rfl
    have here' (item : Item) (mem : item ∈ before ++ after) (tables : Tables Data) := same item (other item mem) tables
    constructor
    · show sink.items.foldl (Sink.pending sources _) (sink.begun sources tables) = { sink.flush sources tables with snapshot := some snapshot }
      rw [Sink.flush, split]
      exact foldl_coalesce (g := fun tables => { tables with snapshot := some snapshot }) _ here here' comm
    · intro own
      show Along (Sink.pending sources _) OwnSnapshots (sink.begun sources tables) sink.items
      unfold OwnAlong at own
      rw [split] at own ⊢
      refine along_coalesce (g := fun tables => { tables with snapshot := some snapshot }) here here' comm (fun tables item held => ?_) own
      cases item with
      | track numbers seenAt => exact held
      | event | issues | snapshot => trivial
  next unqueued =>
    have none_queued := h.snapshots
    rw [if_neg unqueued] at none_queued
    have other (item : Item) (mem : item ∈ sink.items) : item ≠ .snapshot := by
      rintro rfl
      exact List.count_eq_zero.mp none_queued mem
    have here' (item : Item) (mem : item ∈ sink.items) (tables : Tables Data) := same item (other item mem) tables
    let filled : Sink Data := { sink with snapshot := some snapshot, snapshotQueued := true }
    have flushed : filled.flush sources tables = sink.flush sources tables := foldl_same _ _ here'
    constructor
    · refine (@flush_push _ sources _ filled tables .snapshot).trans ?_
      rw [flushed]
      rfl
    · exact fun own => @own_push _ sources _ filled tables .snapshot (along_same here' own) trivial

/-- What a read finds is there once it is written, seen no earlier. -/
theorem own_upsert (tables : Tables Data) : OwnSnapshots
    (tables.upsertIssues sources (polled.map fun issue => ⟨issue, now⟩)) (.track (polled.map PolledIssue.number) now) := by
  rintro number mem
  obtain ⟨issue, read, rfl⟩ := List.mem_map.mp mem
  refine @seenBy_putAll_of_mem _ _ _ _ _ IssueRow.seenAt _ _ (issueRow sources ⟨issue, now⟩) _ ?_
  exact List.mem_map.mpr ⟨⟨issue, now⟩, List.mem_map.mpr ⟨issue, read, rfl⟩, rfl⟩

/-- Nothing is written by taking an item. -/
theorem flush_take (h : Sound sink) {queue : List (Option Item)} (waits : sink.drain = .waiting) (next : sink.queue = some item :: queue) :
    let taken : Sink Data := { sink.taken item with queue, drain := ((sink.work sources item).map Drain.writing).getD .waiting }
    taken.flush sources tables = sink.flush sources tables ∧ (OwnAlong sources sink tables → OwnAlong sources taken tables) := by
  intro taken
  have whole : sink.items = item :: queue.filterMap id := by
    rw [Sink.items, next]
    rfl
  have begun : sink.begun sources tables = tables := by
    rw [Sink.begun, waits]
  have begun' : taken.begun sources tables = sink.pending sources tables item := by
    show Sink.begun sources { sink.taken item with queue, drain := _ } tables = _
    unfold Sink.begun Sink.pending
    cases sink.work sources item <;> rfl
  have same (other : Item) (mem : other ∈ queue.filterMap id) (tables : Tables Data) :
      taken.pending sources tables other = sink.pending sources tables other := by
    have issues := h.issues
    have snapshots := h.snapshots
    rw [whole] at issues snapshots
    cases item with
    | event | track => cases other <;> rfl
    | issues =>
      cases other with
      | issues =>
        rw [List.count_cons_self] at issues
        have again := List.count_pos_iff.mpr mem
        split at issues <;> omega
      | event | track | snapshot => rfl
    | snapshot =>
      cases other with
      | snapshot =>
        rw [List.count_cons_self] at snapshots
        have again := List.count_pos_iff.mpr mem
        split at snapshots <;> omega
      | event | track | issues => rfl
  constructor
  · show (queue.filterMap id).foldl (taken.pending sources) (taken.begun sources tables) = _
    rw [begun', foldl_same _ _ same, Sink.flush, whole, begun]
    rfl
  · intro own
    show Along (taken.pending sources) OwnSnapshots (taken.begun sources tables) (queue.filterMap id)
    unfold OwnAlong at own
    rw [whole, begun] at own
    rw [begun']
    exact along_same same own.2

end Flush

section Events

/-- The events a call hands to the store, as they are written. -/
def Call.events (sources : Sources py) : Call Data → List Event
  | handle event => [scrubLogDir sources event]
  | _ => []

def Item.events (sources : Sources py) : Item → List Event
  | event waiting => [scrubLogDir sources waiting]
  | _ => []

def Drain.events : Drain Data → List Event
  | writing work => work.events
  | _ => []

/-- The events that wait, the one in flight first. -/
def Sink.waiting (sources : Sources py) (sink : Sink Data) : List Event :=
  sink.drain.events ++ sink.items.flatMap (Item.events sources)

variable {sink : Sink Data} {polled : List PolledIssue} {seenAt : Datetime} {call : Call Data}

theorem merge_items : ∃ more, (sink.merge polled seenAt).items = sink.items ++ more ∧ ∀ item ∈ more, item = .issues := by
  unfold Sink.merge
  dsimp only
  split
  · exact ⟨[.issues], items_push sink.queue, fun item mem => List.mem_singleton.mp mem⟩
  · exact ⟨[], (List.append_nil _).symm, fun _ mem => absurd mem List.not_mem_nil⟩

theorem merge_same : (sink.merge polled seenAt).drain = sink.drain ∧ (sink.merge polled seenAt).issues = mergedBatch polled seenAt sink.issues := by
  unfold Sink.merge
  dsimp only
  split <;> exact ⟨rfl, rfl⟩

/-- What a call adds to the queue: its event, and what is due when it is. -/
theorem enqueue_items : ∃ more, (sink.enqueue call).items = sink.items ++ more ∧ more.flatMap (Item.events sources) = call.events sources ∧
    ∀ item ∈ more, ∀ now, call.Before now → item.Before now := by
  cases call with
  | handle event => exact ⟨[.event event], items_push sink.queue, rfl, fun item mem now due => List.mem_singleton.mp mem ▸ due⟩
  | recordIssues polled now =>
    obtain ⟨more, items, marker⟩ := @merge_items _ sink polled now
    refine ⟨more, items, ?_, fun item mem now _ => marker item mem ▸ trivial⟩
    exact List.flatMap_eq_nil_iff.mpr fun item mem => marker item mem ▸ rfl
  | recordTriageTrack polled seenAt =>
    obtain ⟨more, items, marker⟩ := @merge_items _ sink polled seenAt
    refine ⟨more ++ [.track (polled.map PolledIssue.number) seenAt], ?_, ?_, fun item mem now due => ?_⟩
    · rw [← List.append_assoc, ← items]
      exact items_push _
    · exact List.flatMap_eq_nil_iff.mpr fun item mem => (List.mem_append.mp mem).elim (fun mem => marker item mem ▸ rfl) fun mem =>
        List.mem_singleton.mp mem ▸ rfl
    · rcases List.mem_append.mp mem with marked | last
      · exact marker item marked ▸ trivial
      · exact List.mem_singleton.mp last ▸ due
  | recordSnapshot snapshot =>
    show ∃ more, (sink.fill snapshot).items = _ ∧ _
    unfold Sink.fill
    split
    · exact ⟨[], (List.append_nil _).symm, rfl, fun _ mem => absurd mem List.not_mem_nil⟩
    · exact ⟨[.snapshot], items_push sink.queue, rfl, fun item mem _ _ => List.mem_singleton.mp mem ▸ trivial⟩

theorem enqueue_drain : (sink.enqueue call).drain = sink.drain := by
  cases call with
  | handle event => rfl
  | recordIssues polled now => exact merge_same.1
  | recordTriageTrack polled now => exact merge_same.1
  | recordSnapshot snapshot =>
    show (sink.fill snapshot).drain = _
    unfold Sink.fill
    split <;> rfl

theorem mergedBatch_lookup {batch : Dict IssueSnapshot} {number : Nat} {old : IssueSnapshot}
    (found : (mergedBatch polled seenAt batch).lookup number = some old) : batch.lookup number = some old ∨ old.seenAt = seenAt := by
  induction polled generalizing batch with
  | nil => exact .inl found
  | cons issue polled ih =>
    rcases ih found with kept | new
    · by_cases same : number = issue.number
      · subst same
        rw [Dict.lookup_set_self] at kept
        exact .inr (Option.some.inj kept ▸ rfl)
      · exact .inl (Dict.lookup_set_of_ne same ▸ kept)
    · exact .inr new

/-- A snapshot of the batch was there before the call, or the call is no earlier. -/
theorem enqueue_batch {number : Nat} {old : IssueSnapshot} {now : Datetime} (found : (sink.enqueue call).issues.lookup number = some old)
    (due : call.Before now) : sink.issues.lookup number = some old ∨ old.seenAt ≤ now := by
  cases call with
  | handle event => exact .inl found
  | recordIssues polled seenAt =>
    have found : (mergedBatch polled seenAt sink.issues).lookup number = some old := merge_same.2 ▸ found
    exact (mergedBatch_lookup found).imp_right fun same => same.trans_le due
  | recordTriageTrack polled seenAt =>
    have due : seenAt < now := due
    have found : (mergedBatch polled seenAt sink.issues).lookup number = some old := merge_same.2 ▸ found
    exact (mergedBatch_lookup found).imp_right fun same => same.trans_le due.le
  | recordSnapshot snapshot =>
    refine .inl ?_
    have same : (sink.fill snapshot).issues = sink.issues := by
      unfold Sink.fill
      split <;> rfl
    exact same ▸ found

end Events


/-- The sink's state, where it writes to rows that stood so at first. -/
structure Refines (sources : Sources py) (tables : Tables Data) (events : List Event) (s : System Data) : Prop where
  sound : Sound s.sink
  flushed : s.sink.flush sources s.tables = inOrder sources tables s.accepted
  own : OwnAlong sources s.sink s.tables
  flight : ∀ numbers seenAt, s.sink.drain = .writing (.track numbers seenAt) → OwnSnapshots s.tables (.track numbers seenAt)
  due : ∀ now, (∀ call ∈ s.accepted, call.Before now) → ∀ item ∈ s.sink.items, item.Before now
  fresh : ∀ now, (∀ call ∈ s.accepted, call.Before now) → ∀ number old, s.sink.issues.lookup number = some old → old.seenAt ≤ now
  sent : (events ++ s.accepted.flatMap (Call.events sources)).Sublist (s.events ++ s.sink.waiting sources)
  known : ∀ event ∈ s.events ++ s.sink.waiting sources, event ∈ events ++ s.accepted.flatMap (Call.events sources)

section Steps

variable {tables : Tables Data} {events : List Event} {s s' : System Data} {call : Call Data}

/-- A call that is taken in. -/
theorem Refines.called (h : Refines sources tables events s) (accepted : s.sink.accepts call)
    (ordered : ∀ now, call.readAt = some now → ∀ earlier ∈ s.accepted, earlier.Before now) :
    Refines sources tables events { s with sink := s.sink.enqueue call, accepted := s.accepted ++ [call] } := by
  have inOrder_append : inOrder sources tables (s.accepted ++ [call]) = call.apply sources (s.sink.flush sources s.tables) := by
    rw [h.flushed, inOrder, List.foldl_append]
    rfl
  obtain ⟨more, items, handed, dated⟩ := @enqueue_items _ sources _ s.sink call
  have both : (s.sink.enqueue call).flush sources s.tables = call.apply sources (s.sink.flush sources s.tables) ∧
      OwnAlong sources (s.sink.enqueue call) s.tables := by
    cases call with
    | handle event => exact ⟨flush_push, own_push h.own trivial⟩
    | recordIssues polled now =>
      have merged := @flush_merge _ sources _ s.sink s.tables polled now h.sound (h.fresh now (ordered now rfl)) (h.due now (ordered now rfl))
      exact ⟨merged.1, merged.2 h.own⟩
    | recordTriageTrack polled now =>
      have merged := @flush_merge _ sources _ s.sink s.tables polled now h.sound (h.fresh now (ordered now rfl)) (h.due now (ordered now rfl))
      refine ⟨flush_push.trans (congrArg (Tables.reconcileTriageTrack · _ now) merged.1), own_push (merged.2 h.own) ?_⟩
      rw [merged.1]
      exact own_upsert _
    | recordSnapshot snapshot =>
      have filled := @flush_fill _ sources _ s.sink s.tables h.sound snapshot
      exact ⟨filled.1, filled.2 h.own⟩
  have earlier (now : Datetime) (all : ∀ other ∈ s.accepted ++ [call], other.Before now) :
      (∀ other ∈ s.accepted, other.Before now) ∧ call.Before now :=
    ⟨fun other mem => all other (List.mem_append_left _ mem), all call (List.mem_append_right _ (List.mem_singleton_self _))⟩
  have waiting : (s.sink.enqueue call).waiting sources = s.sink.waiting sources ++ call.events sources := by
    rw [Sink.waiting, enqueue_drain, items, List.flatMap_append, handed, ← List.append_assoc]
    rfl
  have handed_last : (s.accepted ++ [call]).flatMap (Call.events sources) = s.accepted.flatMap (Call.events sources) ++ call.events sources := by
    rw [List.flatMap_append, List.flatMap_singleton]
  exact {
    sound := h.sound.enqueue accepted
    flushed := both.1.trans inOrder_append.symm
    own := both.2
    flight := fun numbers seenAt writes => h.flight numbers seenAt (enqueue_drain ▸ writes)
    due := fun now all item mem => by
      rw [items] at mem
      rcases List.mem_append.mp mem with waits | new
      · exact h.due now (earlier now all).1 item waits
      · exact dated item new now (earlier now all).2
    fresh := fun now all number old found =>
      (enqueue_batch found (earlier now all).2).elim (h.fresh now (earlier now all).1 number old) id
    sent := by
      rw [waiting, handed_last, ← List.append_assoc, ← List.append_assoc]
      exact h.sent.append (List.Sublist.refl _)
    known := by
      rw [waiting, handed_last, ← List.append_assoc, ← List.append_assoc]
      exact fun event mem => (List.mem_append.mp mem).elim (fun mem => List.mem_append_left _ (h.known event mem)) (List.mem_append_right _) }

/-- What of the sink and its rows a step must leave for what waits to come to the same. -/
theorem Refines.same (h : Refines sources tables events s) {sink : Sink Data} (sound : Sound sink) (queue : sink.queue = s.sink.queue)
    (issues : sink.issues = s.sink.issues) (snapshot : sink.snapshot = s.sink.snapshot) (drain : sink.drain = s.sink.drain) :
    Refines sources tables events { s with sink } := by
  have items : sink.items = s.sink.items := congrArg (List.filterMap id) queue
  have pending : sink.pending sources = s.sink.pending sources := by
    funext tables item
    unfold Sink.pending Sink.work
    rw [issues, snapshot]
  have begun : sink.begun sources s.tables = s.sink.begun sources s.tables := by
    unfold Sink.begun
    rw [drain]
  have waiting : sink.waiting sources = s.sink.waiting sources := by
    rw [Sink.waiting, drain, items]
    rfl
  exact {
    sound
    flushed := by
      rw [← h.flushed, Sink.flush, items, pending, begun]
      rfl
    own := by
      unfold OwnAlong
      rw [items, pending, begun]
      exact h.own
    flight := fun numbers seenAt writes => h.flight numbers seenAt (drain ▸ writes)
    due := fun now all => items ▸ h.due now all
    fresh := fun now all => issues ▸ h.fresh now all
    sent := waiting ▸ h.sent
    known := waiting ▸ h.known }

/-- The drain task's next item. -/
theorem Refines.takeNext (h : Refines sources tables events s) (step : s.takeNext sources = some s') : Refines sources tables events s' := by
  have sound := h.sound.takeNext step
  obtain ⟨waits, queue, ⟨next, rfl⟩ | ⟨item, next, rfl⟩⟩ := System.takeNext_some step
  · have items : (queue.filterMap id : List Item) = s.sink.items := by
      rw [Sink.items, next]
      rfl
    have begun : s.sink.begun sources s.tables = s.tables := by
      rw [Sink.begun, waits]
    have waiting : s.sink.waiting sources = [] ++ (queue.filterMap id : List Item).flatMap (Item.events sources) := by
      rw [Sink.waiting, waits, items]
      rfl
    exact {
      sound
      flushed := by
        rw [← h.flushed, Sink.flush, Sink.flush, begun, ← items]
        rfl
      own := by
        have own := h.own
        unfold OwnAlong at own
        rw [begun, ← items] at own
        exact own
      flight := fun _ _ => by rintro ⟨⟩
      due := fun now all item mem => h.due now all item (items ▸ mem)
      fresh := h.fresh
      sent := by
        have sent := h.sent
        rw [waiting] at sent
        exact sent
      known := by
        have known := h.known
        rw [waiting] at known
        exact known }
  · have whole : s.sink.items = item :: queue.filterMap id := by
      rw [Sink.items, next]
      rfl
    have both := @flush_take _ sources _ s.sink s.tables item h.sound queue waits next
    have begun : s.sink.begun sources s.tables = s.tables := by
      rw [Sink.begun, waits]
    have handed : (((s.sink.work sources item).map Drain.writing).getD .waiting).events = item.events sources := by
      cases item with
      | event | track | issues => rfl
      | snapshot =>
        unfold Sink.work
        cases s.sink.snapshot <;> rfl
    have waiting : s.sink.waiting sources =
        (((s.sink.work sources item).map Drain.writing).getD .waiting).events ++ (queue.filterMap id : List Item).flatMap (Item.events sources) := by
      rw [Sink.waiting, waits, whole, handed]
      rfl
    exact {
      sound
      flushed := both.1.trans h.flushed
      own := both.2 h.own
      flight := fun numbers seenAt writes => by
        have own := h.own
        unfold OwnAlong at own
        rw [whole, begun] at own
        cases item with
        | track numbers' seenAt' =>
          cases writes
          exact own.1
        | event | issues => cases writes
        | snapshot =>
          unfold Sink.work at writes
          cases is_slot : s.sink.snapshot with
          | none =>
            rw [is_slot] at writes
            cases writes
          | some taken =>
            rw [is_slot] at writes
            cases writes
      due := fun now all other mem => h.due now all other (whole ▸ List.mem_cons_of_mem _ mem)
      fresh := fun now all number old found => by
        cases item with
        | issues => cases found
        | event | track | snapshot => exact h.fresh now all number old found
      sent := by
        have sent := h.sent
        rw [waiting] at sent
        exact sent
      known := by
        have known := h.known
        rw [waiting] at known
        exact known }

/-- A write that lands, and a write whose answer is lost, landed or not. -/
theorem Refines.attempt (h : Refines sources tables events s) {work : Work Data} {attempt : Attempt} (writes : s.sink.drain = .writing work)
    (sound : Sound (s.attempt sources work attempt).sink) (answered : attempt ≠ .refused) :
    Refines sources tables events (s.attempt sources work attempt) := by
  have begun : s.sink.begun sources s.tables = work.apply sources s.tables := by
    rw [Sink.begun, writes]
  have waiting : s.sink.waiting sources = work.events ++ s.sink.items.flatMap (Item.events sources) := by
    rw [Sink.waiting, writes]
    rfl
  have flushed := h.flushed
  have own := h.own
  have sent := h.sent
  have known := h.known
  rw [Sink.flush, begun] at flushed
  unfold OwnAlong at own
  rw [begun] at own
  rw [waiting, ← List.append_assoc] at sent known
  cases attempt with
  | written =>
    exact {
      sound
      flushed
      own
      flight := fun _ _ => by rintro ⟨⟩
      due := h.due
      fresh := h.fresh
      sent
      known }
  | lost did =>
    cases did with
    | false => exact h.same sound rfl rfl rfl rfl
    | true =>
      have distinct : work.Distinct := by
        cases work with
        | issues batch => exact (h.sound.taken batch writes).2
        | event | track | snapshot => trivial
      have again : s.sink.begun sources (work.apply sources s.tables) = work.apply sources s.tables := by
        rw [Sink.begun, writes]
        exact Work.apply_again distinct
      have waits : ((s.attempt sources work (.lost true)).events ++ (s.attempt sources work (.lost true)).sink.waiting sources) =
          s.events ++ work.events ++ (work.events ++ s.sink.items.flatMap (Item.events sources)) := congrArg (s.events ++ work.events ++ ·) waiting
      exact {
        sound
        flushed := (congrArg (s.sink.items.foldl (s.sink.pending sources)) again).trans flushed
        own := by
          show Along (s.sink.pending sources) OwnSnapshots (s.sink.begun sources (work.apply sources s.tables)) s.sink.items
          rw [again]
          exact own
        flight := fun numbers seenAt track number mem => Work.apply_seenBy (h.flight numbers seenAt track number mem)
        due := h.due
        fresh := h.fresh
        sent := by
          rw [waits, ← List.append_assoc]
          refine sent.trans (List.Sublist.append ?_ (List.Sublist.refl _))
          exact List.sublist_append_left _ _
        known := fun event mem => known event (by
          rw [waits] at mem
          simp only [List.mem_append] at mem ⊢
          tauto) }
  | refused => exact absurd rfl answered

/-- An action that loses nothing of what was taken in. -/
def Action.Lands : Action Data → Prop
  | write attempt => attempt ≠ .refused
  | timeout => False
  | _ => True

instance (action : Action Data) : Decidable action.Lands := by
  cases action <;> (unfold Action.Lands; infer_instance)

/-- Every step that loses nothing. -/
theorem Refines.act {action : Action Data} (h : Refines sources tables events s) (step : s.act sources action = some s')
    (lands : action.Lands) (ordered : Ordered s'.accepted) : Refines sources tables events s' := by
  have patient : action.isTimeout = false := by
    cases action with
    | timeout => exact lands.elim
    | _ => rfl
  have sound := h.sound.act step patient
  cases action with
  | call call =>
    obtain rfl := Option.some.inj step
    unfold System.called at sound ordered ⊢
    split at sound
    next accepted =>
      rw [if_pos accepted] at ordered ⊢
      have last := (List.pairwise_append.mp ordered).2.2
      exact h.called accepted fun now is_read other mem => last other mem call (List.mem_singleton_self _) now is_read
    next refused =>
      rw [if_neg refused]
      cases call with
      | handle event => exact h.same sound rfl rfl rfl rfl
      | recordIssues polled now => exact h
      | recordTriageTrack polled now =>
        unfold Sink.turnAway at sound ⊢
        dsimp only at sound ⊢
        split at sound
        next closed =>
          rw [if_pos closed]
          exact h
        next isOpen =>
          rw [if_neg isOpen]
          exact h.same sound rfl rfl rfl rfl
      | recordSnapshot snapshot => exact h
  | start =>
    obtain ⟨unstarted, rfl⟩ := System.start_some step
    have begun : s.sink.begun sources s.tables = s.tables := by
      rw [Sink.begun, unstarted]
    have waiting : s.sink.waiting sources = s.sink.items.flatMap (Item.events sources) := by
      rw [Sink.waiting, unstarted]
      rfl
    have flushed := h.flushed
    have own := h.own
    have sent := h.sent
    have known := h.known
    rw [Sink.flush, begun] at flushed
    unfold OwnAlong at own
    rw [begun] at own
    rw [waiting] at sent known
    exact {
      sound
      flushed
      own
      flight := fun _ _ => by rintro ⟨⟩
      due := h.due
      fresh := h.fresh
      sent
      known }
  | take => exact h.takeNext step
  | connect answers =>
    obtain ⟨connected, everConnected, reconnects, rfl⟩ := System.connect_some step
    exact h.same sound rfl rfl rfl rfl
  | write attempt =>
    obtain ⟨work, writes, rfl⟩ := System.write_some step
    exact h.attempt writes sound lands
  | close =>
    obtain rfl := Option.some.inj step
    rcases s.close_cases with same | ⟨begun, isOpen, same⟩
    · rw [same]
      exact h
    · rw [same] at sound ⊢
      have items : (s.sink.queue ++ [none]).filterMap id = s.sink.items := (List.filterMap_append ..).trans (List.append_nil _)
      exact {
        sound
        flushed := by
          rw [← h.flushed]
          exact congrArg (List.foldl (s.sink.pending sources) (s.sink.begun sources s.tables)) items
        own := by
          have own := h.own
          unfold OwnAlong at own
          rw [← items] at own
          exact own
        flight := h.flight
        due := fun now all item mem => h.due now all item (items ▸ mem)
        fresh := h.fresh
        sent := by
          have sent := h.sent
          rw [Sink.waiting, ← items] at sent
          exact sent
        known := by
          have known := h.known
          rw [Sink.waiting, ← items] at known
          exact known }
  | timeout => exact lands.elim

theorem act_accepted {action : Action Data} (step : s.act sources action = some s') : s.accepted <+: s'.accepted := by
  cases action with
  | call call =>
    obtain rfl := Option.some.inj step
    unfold System.called
    split
    · exact List.prefix_append _ _
    · exact List.prefix_refl _
  | start =>
    obtain ⟨-, rfl⟩ := System.start_some step
    exact List.prefix_refl _
  | take =>
    obtain ⟨-, queue, ⟨-, rfl⟩ | ⟨item, -, rfl⟩⟩ := System.takeNext_some step <;> exact List.prefix_refl _
  | connect answers =>
    obtain ⟨connected, everConnected, reconnects, rfl⟩ := System.connect_some step
    exact List.prefix_refl _
  | write attempt =>
    obtain ⟨work, -, rfl⟩ := System.write_some step
    cases attempt <;> exact List.prefix_refl _
  | close =>
    obtain rfl := Option.some.inj step
    rcases s.close_cases with same | ⟨-, -, same⟩ <;> rw [same]
  | timeout =>
    obtain ⟨sink, rfl⟩ := System.cutShort_some step
    exact List.prefix_refl _

variable {actions : List (Action Data)}

theorem run_accepted (run : Steps (fun s action s' => s.act sources action = some s') s actions s') : s.accepted <+: s'.accepted := by
  induction run with
  | nil => exact List.prefix_refl _
  | cons step _ ih => exact (act_accepted step).trans ih

theorem Refines.run (run : Steps (fun s action s' => s.act sources action = some s') s actions s') (lands : ∀ action ∈ actions, action.Lands)
    (ordered : Ordered s'.accepted) (h : Refines sources tables events s) : Refines sources tables events s' := by
  induction run with
  | nil => exact h
  | cons step rest ih =>
    refine ih (fun action mem => lands action (List.mem_cons_of_mem _ mem)) ordered ?_
    exact h.act step (lands _ List.mem_cons_self) (ordered.sublist (run_accepted rest).sublist)

theorem refines_fresh : Refines sources tables events (System.fresh tables events) where
  sound := sound_fresh
  flushed := rfl
  own := trivial
  flight _ _ := by rintro ⟨⟩
  due _ _ _ mem := absurd mem List.not_mem_nil
  fresh _ _ _ _ found := by cases found
  sent := List.Sublist.refl _
  known _ mem := mem

end Steps

section Main

variable {tables : Tables Data} {events : List Event} {s : System Data} {actions : List (Action Data)}

/-- However the calls, the drain task and the losses of its connection interleave, a drained sink that was refused nothing
has written what writing each call as it was made would have, and each event at least once. -/
theorem sink_refines (run : Steps (fun s action s' => s.act sources action = some s') (System.fresh tables events) actions s)
    (lands : ∀ action ∈ actions, action.Lands) (ordered : Ordered s.accepted) (drained : s.Drained) :
    s.tables = inOrder sources tables s.accepted ∧
      (events ++ s.accepted.flatMap (Call.events sources)).Sublist s.events ∧
      ∀ event ∈ s.events, event ∈ events ++ s.accepted.flatMap (Call.events sources) := by
  have h := Refines.run run lands ordered refines_fresh
  have items : s.sink.items = [] := by
    rw [Sink.items, drained.1]
    rfl
  have idle : s.sink.begun sources s.tables = s.tables ∧ s.sink.drain.events = [] := by
    unfold Sink.begun Drain.events
    cases is_drain : s.sink.drain with
    | writing work =>
      have idle := drained.2
      rw [is_drain] at idle
      cases idle
    | unstarted | waiting | ended => exact ⟨rfl, rfl⟩
  have flushed := h.flushed
  have waiting : s.sink.waiting sources = [] := by
    rw [Sink.waiting, items, idle.2]
    rfl
  rw [Sink.flush, items, idle.1] at flushed
  have sent := h.sent
  have known := h.known
  rw [waiting, List.append_nil] at sent known
  exact ⟨flushed, sent, known⟩

section Overtaking

/-- A poll waits, the issue is claimed, the triage track is read, and a later poll's snapshot is merged into the first's. The
batch lands without its answer, and is written again. -/
def overtaking : List (Action Unit) :=
  [.call (.recordIssues [polledIssue .todo ["issuebot/todo", "issuebot/triage-complete"]] 10),
    .call (.handle (.ofIssue 11 8 "8" (.stateChanged (some "issuebot/todo") (some "issuebot/in-progress") .issuebot none none))),
    .call (.recordTriageTrack [] 12),
    .call (.recordIssues [polledIssue .review ["issuebot/review", "issuebot/triage-complete"]] 13),
    .call (.recordSnapshot (14, ())),
    .start, .take, .connect false, .connect true, .write (.lost true), .connect true, .write .written,
    .take, .write .written, .take, .write .written, .take, .write .written]

/-- The later poll's snapshot has overtaken the claim and the reconcile. -/
theorem overtaking_refines : ((leftBy overtaking).tables = inOrder plainSources noRows (leftBy overtaking).accepted ∧
      ([] ++ (leftBy overtaking).accepted.flatMap (Call.events plainSources)).Sublist (leftBy overtaking).events ∧
      ∀ event ∈ (leftBy overtaking).events, event ∈ [] ++ (leftBy overtaking).accepted.flatMap (Call.events plainSources)) ∧
    ((leftBy overtaking).tables.issues 8).map (fun row => (row.stateLabel, row.triage, row.seenAt)) =
      some (some "issuebot/review", some .triageComplete, 13) :=
  ⟨sink_refines (leftBy_runs (by decide +kernel)) (by decide +kernel) (by decide +kernel) (by decide +kernel), by decide +kernel⟩

end Overtaking

/-- A reconcile that is being written comes behind the snapshots of its own read, or newer ones of the same issues. -/
theorem reconcile_behind_snapshots {numbers : List Nat} {seenAt : Datetime}
    (run : Steps (fun s action s' => s.act sources action = some s') (System.fresh tables events) actions s)
    (lands : ∀ action ∈ actions, action.Lands) (ordered : Ordered s.accepted)
    (writes : s.sink.drain = .writing (.track numbers seenAt)) :
    ∀ number ∈ numbers, ∃ row, s.tables.issues number = some row ∧ seenAt ≤ row.seenAt :=
  (Refines.run run lands ordered refines_fresh).flight numbers seenAt writes

/-- A read of the triage track, whose batch has been written. -/
def trackRead : List (Action Unit) :=
  [.call (.recordTriageTrack [polledIssue .todo ["issuebot/todo", "issuebot/triage-todo"]] 12), .start, .take, .connect true,
    .write .written, .take]

theorem track_read_behind_snapshots : ∃ row, (leftBy trackRead).tables.issues 8 = some row ∧ 12 ≤ row.seenAt :=
  reconcile_behind_snapshots (leftBy_runs (by decide +kernel)) (by decide +kernel) (by decide +kernel) rfl 8
    (by decide)

end Main

end Postgres
end Issuebot
