import Issuebot.Logic.Runs
import Mathlib.Logic.Function.Basic

/-!
# A record behind a lock

Any number of processes rewrite one record, each holding a lock while it reads the record, works out the next one and puts
that in place at once; who only reads takes no lock. A process may be killed anywhere, which frees its lock. Each operation
then acts at one moment: the record is what the operations done come to one after the other, and each was answered as on the
record it came to (`locked_serial`).
-/

namespace Issuebot.Logic
set_option autoImplicit false

namespace Locked

/-- Where a process is. -/
inductive Place (σ ω α : Type) where
  | idle
  | waits (op : ω)
  | holds (op : ω)
  | loaded (op : ω) (record : σ)
  | stored (answer : α)

/-- An operation that has acted, and its answer. -/
structure Done (π ω α : Type) where
  process : π
  op : ω
  answer : α
deriving DecidableEq

/-- The record, its lock and the processes; `done` keeps what has acted. -/
structure Shared (π σ ω α : Type) where
  record : σ
  lock : Option π
  place : π → Place σ ω α
  done : List (Done π ω α)

inductive Event (π ω : Type) where
  | read (process : π) (op : ω)
  | begin (process : π) (op : ω)
  | lock (process : π)
  | load (process : π)
  | store (process : π)
  | unlock (process : π)
  | kill (process : π)

/-- Between taking the lock and giving it back. -/
def Place.inside {σ ω α : Type} : Place σ ω α → Bool
  | .idle | .waits _ => false
  | .holds _ | .loaded _ _ | .stored _ => true

section Steps

variable {π σ ω α : Type} [DecidableEq π] (apply : ω → σ → σ × α) (reads : ω → Bool) (s : Shared π σ ω α)

def Shared.goTo (process : π) (place : Place σ ω α) : Shared π σ ω α :=
  { s with place := Function.update s.place process place }

/-- What an event does, `none` where it does not happen. -/
def step : Event π ω → Option (Shared π σ ω α)
  | .read process op =>
    match s.place process, reads op with
    | .idle, true => some { s with done := s.done ++ [⟨process, op, (apply op s.record).2⟩] }
    | _, _ => none
  | .begin process op =>
    match s.place process with
    | .idle => some (s.goTo process (.waits op))
    | _ => none
  | .lock process =>
    match s.place process, s.lock with
    | .waits op, none => some { s.goTo process (.holds op) with lock := some process }
    | _, _ => none
  | .load process =>
    match s.place process with
    | .holds op => some (s.goTo process (.loaded op s.record))
    | _ => none
  | .store process =>
    match s.place process with
    | .loaded op record =>
      some { s.goTo process (.stored (apply op record).2) with
        record := (apply op record).1
        done := s.done ++ [⟨process, op, (apply op record).2⟩] }
    | _ => none
  | .unlock process =>
    match s.place process with
    | .stored _ => some { s.goTo process .idle with lock := none }
    | _ => none
  -- a killed process's descriptors are closed for it, and with them its lock
  | .kill process => some { s.goTo process .idle with lock := if s.lock = some process then none else s.lock }

/-- Nobody is at the record. -/
def free (record : σ) : Shared π σ ω α := ⟨record, none, fun _ => .idle, []⟩

end Steps

section Serial

variable {π σ ω α : Type} (apply : ω → σ → σ × α)

/-- The record the operations come to, one after the other. -/
def after (record : σ) (done : List (Done π ω α)) : σ := done.foldl (fun record d => (apply d.op record).1) record

/-- Each operation was answered as it is on the record it came to. -/
def Answered (record : σ) : List (Done π ω α) → Prop
  | [] => True
  | d :: done => d.answer = (apply d.op record).2 ∧ Answered (apply d.op record).1 done

variable {apply} {record : σ} {done more : List (Done π ω α)}

theorem answered_append :
    Answered apply record (done ++ more) ↔ Answered apply record done ∧ Answered apply (after apply record done) more := by
  induction done generalizing record with
  | nil => exact ⟨fun held => ⟨trivial, held⟩, And.right⟩
  | cons d done ih => exact (and_congr_right fun _ => ih).trans and_assoc.symm

theorem after_append : after apply record (done ++ more) = after apply (after apply record done) more := List.foldl_append

/-- What every operation keeps of the record, all of them do. -/
theorem after_keeps {P : σ → Prop} (start : P record)
    (each : ∀ d ∈ done, ∀ record, P record → P (apply d.op record).1) : P (after apply record done) := by
  induction done generalizing record with
  | nil => exact start
  | cons d done ih =>
    exact ih (each d List.mem_cons_self record start) fun e listed => each e (List.mem_cons_of_mem _ listed)

end Serial

section Runs

variable {π σ ω α : Type} [DecidableEq π] {apply : ω → σ → σ × α} {reads : ω → Bool} {s s' : Shared π σ ω α}
  {event : Event π ω} {events : List (Event π ω)} {start : σ}

/-- Who is inside holds the lock, and what it has loaded is still the record. -/
def Fits (lock : Option π) (record : σ) (process : π) : Place σ ω α → Prop
  | .idle | .waits _ => True
  | .holds _ | .stored _ => lock = some process
  | .loaded _ held => lock = some process ∧ held = record

/-- What every run keeps. -/
structure Serial (apply : ω → σ → σ × α) (start : σ) (s : Shared π σ ω α) : Prop where
  fits : ∀ process, Fits s.lock s.record process (s.place process)
  record : s.record = after apply start s.done
  answered : Answered apply start s.done

omit [DecidableEq π] in
theorem Serial.found (serial : Serial apply start s) {process : π} {place : Place σ ω α} (there : s.place process = place) :
    Fits s.lock s.record process place := there ▸ serial.fits process

omit [DecidableEq π] in
theorem Fits.locked {lock : Option π} {record : σ} {process : π} {place : Place σ ω α} (fits : Fits lock record process place)
    (inside : place.inside) : lock = some process := by
  cases place with
  | idle => cases inside
  | waits op => cases inside
  | holds op => exact fits
  | loaded op held => exact fits.1
  | stored answer => exact fits

omit [DecidableEq π] in
/-- Who does not hold the lock is outside, whatever becomes of the lock and the record. -/
theorem Fits.outside {lock lock' : Option π} {record record' : σ} {process : π} {place : Place σ ω α}
    (fits : Fits lock record process place) (not_held : lock ≠ some process) : Fits lock' record' process place := by
  cases place with
  | idle => trivial
  | waits op => trivial
  | holds op => exact absurd fits not_held
  | loaded op held => exact absurd fits.1 not_held
  | stored answer => exact absurd fits not_held

/-- One process moves and the others fit as they did. -/
theorem fits_goTo {lock : Option π} {record : σ} {process : π} {place : Place σ ω α} (own : Fits lock record process place)
    (others : ∀ other, other ≠ process → Fits lock record other (s.place other)) (other : π) :
    Fits lock record other ((s.goTo process place).place other) := by
  rcases eq_or_ne other process with rfl | moved
  · have moves : (s.goTo other place).place other = place := Function.update_self ..
    rw [moves]
    exact own
  · have stays : (s.goTo process place).place other = s.place other := Function.update_of_ne moved ..
    rw [stays]
    exact others other moved

theorem step_serial (quiet : ∀ op record, reads op = true → (apply op record).1 = record)
    (went : step apply reads s event = some s') (serial : Serial apply start s) : Serial apply start s' := by
  have acted (op : ω) (process : π) (record : σ) (is_record : record = s.record) :
      (apply op record).1 = after apply start (s.done ++ [⟨process, op, (apply op record).2⟩]) ∧
        Answered apply start (s.done ++ [⟨process, op, (apply op record).2⟩]) := by
    subst is_record
    rw [after_append, answered_append, ← serial.record]
    exact ⟨rfl, serial.answered, rfl, trivial⟩
  cases event with
  | read process op =>
    simp only [step] at went
    split at went
    next at_idle is_read =>
      cases went
      have held := acted op process s.record rfl
      exact ⟨serial.fits, (quiet op s.record is_read).symm.trans held.1, held.2⟩
    next => cases went
  | begin process op =>
    simp only [step] at went
    split at went
    next =>
      cases went
      exact ⟨fits_goTo trivial fun other _ => serial.fits other, serial.record, serial.answered⟩
    next => cases went
  | lock process =>
    simp only [step] at went
    split at went
    next op waiting unlocked =>
      cases went
      exact ⟨fits_goTo rfl fun other _ => (serial.fits other).outside (unlocked ▸ (Option.some_ne_none other).symm), serial.record, serial.answered⟩
    next => cases went
  | load process =>
    simp only [step] at went
    split at went
    next op holding =>
      cases went
      have held : s.lock = some process := serial.found holding
      exact ⟨fits_goTo ⟨held, rfl⟩ fun other _ => serial.fits other, serial.record, serial.answered⟩
    next => cases went
  | store process =>
    simp only [step] at went
    split at went
    next op record loading =>
      cases went
      have held : s.lock = some process ∧ record = s.record := serial.found loading
      have put := acted op process record held.2
      refine ⟨fits_goTo held.1 fun other moved => (serial.fits other).outside ?_, put.1, put.2⟩
      exact held.1 ▸ fun same => moved (Option.some.inj same).symm
    next => cases went
  | unlock process =>
    simp only [step] at went
    split at went
    next answer storing =>
      cases went
      have held : s.lock = some process := serial.found storing
      refine ⟨fits_goTo trivial fun other moved => (serial.fits other).outside ?_, serial.record, serial.answered⟩
      exact held ▸ fun same => moved (Option.some.inj same).symm
    next => cases went
  | kill process =>
    cases went
    refine ⟨fits_goTo trivial fun other moved => ?_, serial.record, serial.answered⟩
    by_cases held : s.lock = some process
    · exact (serial.fits other).outside (held ▸ fun same => moved (Option.some.inj same).symm)
    · rw [if_neg held]
      exact serial.fits other

omit [DecidableEq π] in
theorem free_serial : Serial apply start (free (π := π) start) := ⟨fun _ => trivial, rfl, trivial⟩

theorem steps_serial (quiet : ∀ op record, reads op = true → (apply op record).1 = record)
    (run : Steps (fun s event s' => step apply reads s event = some s') s events s') (serial : Serial apply start s) :
    Serial apply start s' := run.invariant (fun _ _ _ went held => step_serial quiet went held) serial

omit [DecidableEq π] in
/-- At most one process is inside. -/
theorem Serial.exclusive (serial : Serial apply start s) {first second : π} (one : (s.place first).inside)
    (two : (s.place second).inside) : first = second :=
  Option.some.inj (((serial.fits first).locked one).symm.trans ((serial.fits second).locked two))

end Runs

end Locked

end Issuebot.Logic
