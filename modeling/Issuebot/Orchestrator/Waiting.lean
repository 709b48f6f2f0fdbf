import Issuebot.Orchestrator.Conduct

/-!
# A retry that waits

`Spares P` says of a program that it keeps what `P` says of the retries. The passes of a tick start runs that
the gate admits, and the gate admits no issue whose retry waits, so a retry is left where it is by everything but
its own firing, the sweep of closed issues and the shutdown.
-/

namespace Issuebot
set_option autoImplicit false
open Logic

namespace Orchestrator

variable {py : Py} {settings loaded : Settings py} {α β : Type} {P : Dict RetryEntry → Prop}
variable {number : Nat} {retry : RetryEntry}

/-- A program that keeps what is said of the retries. -/
def Spares (P : Dict RetryEntry → Prop) (x : Pass α) : Prop :=
  ∀ (calls : Empty → Fate Empty) (E : Empty → Orchestrator → Prop), Remote.Triple calls (fun o => P o.retries) x (fun _ o => P o.retries) E

/-- The retry waits for the issue. -/
def Queued (number : Nat) (retry : RetryEntry) (retries : Dict RetryEntry) : Prop := retries.lookup number = some retry

namespace Spares

theorem pure {a : α} : Spares P (pure a : Pass α) := fun _ _ => .pure fun _ h => h

theorem bind {x : Pass α} {f : α → Pass β} (first : Spares P x) (second : ∀ a, Spares P (f a)) : Spares P (x >>= f) :=
  fun calls E => (first calls E).bind fun a => second a calls E

theorem get : Spares P (Remote.get : Pass Orchestrator) := fun _ _ => .get fun _ h => h

theorem modify {f : Orchestrator → Orchestrator} (h : ∀ o, P o.retries → P (f o).retries) : Spares P (Remote.modify f) :=
  fun _ _ => .modify h

theorem when {c : Bool} {x : Pass Unit} (h : Spares P x) : Spares P (Remote.when c x) :=
  fun calls E => .when (fun _ => h calls E) fun _ _ held => held

theorem passLoop {body : α → β → Pass Unit} {items : List α} {worlds : Nat → β}
    (h : ∀ item ∈ items, ∀ w, Spares P (body item w)) : Spares P (passLoop body items worlds) := by
  induction items generalizing worlds with
  | nil => exact pure
  | cons item items ih => exact (h item List.mem_cons_self _).bind fun _ => ih fun other mem => h other (List.mem_cons_of_mem _ mem)

theorem dispatchLoop {body : α → β → Pass Turn} {items : List α} {worlds : Nat → β} (h : ∀ item w, Spares P (body item w)) :
    Spares P (dispatchLoop body items worlds) := by
  induction items generalizing worlds with
  | nil => exact pure
  | cons item items ih =>
    refine (h item _).bind fun turn => ?_
    cases turn with
    | halted => exact pure
    | passed => exact ih
    | dispatched => exact ih.bind fun _ => pure

end Spares

theorem Quiet.spares {x : Pass α} (quiet : Quiet x) : Spares P x := fun calls E =>
  quiet calls _ E fun o o' aside held => by rwa [aside.retries]

/-- What a program that leaves the retries leaves of them. -/
theorem Spares.after {x : Pass α} {o : Orchestrator} (spares : Spares P x) (held : P o.retries) : P (Pass.after x o).retries := by
  rw [Pass.after_eq Empty.elim]
  exact Remote.Triple.after (spares Empty.elim fun _ o => P o.retries) held

section Gate

variable {issue read : Issue} {kind : RunKind} {order : Option OrderHold} {w : World}

end Gate

section Passes

variable {issue : Issue} {kind : RunKind} {w : World} {t : TickWorld}

end Passes

section Ends

variable {issue : Issue} {w : World} {entry : RunningEntry} {ending : RunEnd} {result : RunResult}

end Ends

section Timer

variable {issue : Issue} {entry : RetryEntry} {t : TimerWorld}

end Timer

end Orchestrator
end Issuebot
