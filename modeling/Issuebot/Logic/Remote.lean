import Mathlib.Algebra.Group.Int.Defs
import Mathlib.Algebra.Group.Nat.Defs
import Mathlib.Tactic.Common

/-!
# Programs over a remote that may lie

A program makes named calls to a remote. Each call has a fate: it is answered, it is
refused and had no effect, or it took effect and its answer was lost, so that the caller
sees a refusal all the same. `Remote κ ε σ α` is such a program with calls named by `κ`:
given the fates, it ends on a value or an error, and in either case on a state, since what
took effect before an error stays.

`Triple F P x Q E` is a Hoare triple with two postconditions, one for a value and one for an
error, under the fates `F`. The rules below are the ones a proof uses; none unfolds a
program.
-/

namespace Issuebot.Logic
set_option autoImplicit false

/-- What becomes of a call. -/
inductive Fate (ε : Type) where
  | answered
  | refused (error : ε)
  | lost (error : ε)

/-- The call took effect and did not say so. -/
def Fate.isLost {ε : Type} : Fate ε → Prop
  | lost _ => True
  | _ => False

/-- A program over a remote: calls named by `κ`, errors `ε`, state `σ`. -/
def Remote (κ ε σ α : Type) : Type := (κ → Fate ε) → σ → Except ε α × σ

namespace Remote

section Programs

variable {κ ε σ α β : Type}

instance : Monad (Remote κ ε σ) where
  pure a := fun _ s => (.ok a, s)
  bind x f := fun F s =>
    match x F s with
    | (.ok a, s') => f a F s'
    | (.error e, s') => (.error e, s')

/-- Raise an error. -/
def raise (e : ε) : Remote κ ε σ α := fun _ s => (.error e, s)

/-- A call that changes the remote. -/
def call (k : κ) (effect : σ → α × σ) : Remote κ ε σ α := fun F s =>
  match F k with
  | .answered => (.ok (effect s).1, (effect s).2)
  | .refused e => (.error e, s)
  | .lost e => (.error e, (effect s).2)

/-- A call that only reads. -/
def ask (k : κ) (answer : σ → α) : Remote κ ε σ α := call k fun s => (answer s, s)

/-- The caller's own state. -/
def get : Remote κ ε σ σ := fun _ s => (.ok s, s)

/-- A change of the caller's own state. -/
def modify (f : σ → σ) : Remote κ ε σ Unit := fun _ s => (.ok (), f s)

/-- Run `x` where `c` holds. -/
def when (c : Bool) (x : Remote κ ε σ Unit) : Remote κ ε σ Unit := if c then x else pure ()

/-- Run `x`, and go on with its error where it raises one. -/
def attempt (x : Remote κ ε σ α) : Remote κ ε σ (Except ε α) := fun F s =>
  let (result, s') := x F s
  (.ok result, s')

/-- Run `cleanup` however `x` ends; where it raises, its error takes the place of that end. -/
def lastly (x : Remote κ ε σ α) (cleanup : Remote κ ε σ Unit) : Remote κ ε σ α := fun F s =>
  let (result, s') := x F s
  match cleanup F s' with
  | (.ok (), s'') => (result, s'')
  | (.error e, s'') => (.error e, s'')

end Programs

/-- From a state in `P`, `x` ends in `Q` on a value and in `E` on an error. -/
def Triple {κ ε σ α : Type} (F : κ → Fate ε) (P : σ → Prop) (x : Remote κ ε σ α) (Q : α → σ → Prop)
    (E : ε → σ → Prop) : Prop :=
  ∀ s, P s →
    match x F s with
    | (.ok a, s') => Q a s'
    | (.error e, s') => E e s'

section Rules

variable {κ ε σ α β γ : Type} {F : κ → Fate ε} {P P' : σ → Prop} {Q Q' : α → σ → Prop}
variable {R : β → σ → Prop} {E E' : ε → σ → Prop}

theorem Triple.pure {a : α} (h : ∀ s, P s → Q a s) : Triple F P (pure a) Q E := h

theorem Triple.raise {e : ε} (h : ∀ s, P s → E e s) : Triple F P (Remote.raise e) Q E := h

theorem Triple.bind {x : Remote κ ε σ α} {f : α → Remote κ ε σ β} (first : Triple F P x Q E)
    (second : ∀ a, Triple F (Q a) (f a) R E) : Triple F P (x >>= f) R E := by
  intro s hs
  have here := first s hs
  simp only [Bind.bind]
  rcases run : x F s with ⟨_ | a, s'⟩
  · simpa only [run] using here
  · rw [run] at here
    exact second a s' here

theorem Triple.conseq {x : Remote κ ε σ α} (h : Triple F P x Q E) (pre : ∀ s, P' s → P s)
    (post : ∀ a s, Q a s → Q' a s) (error : ∀ e s, E e s → E' e s) : Triple F P' x Q' E' := by
  intro s hs
  have here := h s (pre s hs)
  rcases run : x F s with ⟨_ | a, s'⟩
  · exact error _ _ (by simpa only [run] using here)
  · exact post _ _ (by simpa only [run] using here)

/-- The rule of consequence, the errors left alone. -/
theorem Triple.weaken {x : Remote κ ε σ α} (h : Triple F P x Q E) (pre : ∀ s, P' s → P s)
    (post : ∀ a s, Q a s → Q' a s) : Triple F P' x Q' E := h.conseq pre post fun _ _ held => held

/-- A stronger precondition. -/
theorem Triple.before {x : Remote κ ε σ α} (h : Triple F P x Q E) (pre : ∀ s, P' s → P s) : Triple F P' x Q E :=
  h.weaken pre fun _ _ held => held

/-- Two triples of one program. -/
theorem Triple.and {x : Remote κ ε σ α} (first : Triple F P x Q E) (second : Triple F P' x Q' E') :
    Triple F (fun s => P s ∧ P' s) x (fun a s => Q a s ∧ Q' a s) fun e s => E e s ∧ E' e s := by
  intro s hs
  have here := first s hs.1
  have too := second s hs.2
  rcases run : x F s with ⟨_ | _, s'⟩
  · rw [run] at here too
    exact ⟨here, too⟩
  · rw [run] at here too
    exact ⟨here, too⟩

/-- A fact that does not speak of the state may be used in the proof. -/
theorem Triple.assuming {p : Prop} {x : Remote κ ε σ α} (h : p → Triple F P x Q E) :
    Triple F (fun s => p ∧ P s) x Q E := fun s hs => h hs.1 s hs.2

/-- A triple may be shown from each state by itself. -/
theorem Triple.of_each {x : Remote κ ε σ α} (h : ∀ start, P start → Triple F (fun s => s = start) x Q E) :
    Triple F P x Q E := fun s hs => h s hs s rfl

/-- What a program does from a state is its run. -/
theorem Triple.run {x : Remote κ ε σ α} {start : σ} :
    Triple F (fun s => s = start) x (fun a s => x F start = (.ok a, s)) fun e s => x F start = (.error e, s) := by
  rintro s rfl
  rcases run : x F s with ⟨_ | _, s'⟩ <;> rfl

/-- A call, by its three fates. -/
theorem Triple.call {k : κ} {effect : σ → α × σ} (answered : ∀ s, P s → Q (effect s).1 (effect s).2)
    (refused : ∀ e s, P s → E e s) (lost : ∀ e s, F k = .lost e → P s → E e (effect s).2) :
    Triple F P (Remote.call k effect) Q E := by
  intro s hs
  simp only [Remote.call]
  cases fate : F k with
  | answered => exact answered s hs
  | refused e => exact refused e s hs
  | lost e => exact lost e s fate hs

/-- A read changes nothing, whatever its fate. -/
theorem Triple.ask {k : κ} {answer : σ → α} (answered : ∀ s, P s → Q (answer s) s)
    (refused : ∀ e s, P s → E e s) : Triple F P (Remote.ask k answer) Q E :=
  Triple.call answered refused fun e s _ => refused e s

theorem Triple.get {Q : σ → σ → Prop} (h : ∀ s, P s → Q s s) : Triple F P Remote.get Q E := h

/-- What follows a look at the caller's own state, from each state by itself. -/
theorem Triple.bind_get {f : σ → Remote κ ε σ β}
    (h : ∀ now, P now → Triple F (fun s => s = now) (f now) R E) : Triple F P (Remote.get >>= f) R E :=
  fun s hs => h s hs s rfl

theorem Triple.modify {f : σ → σ} {Q : Unit → σ → Prop} (h : ∀ s, P s → Q () (f s)) :
    Triple F P (Remote.modify f) Q E := h

theorem Triple.when {c : Bool} {x : Remote κ ε σ Unit} {Q : Unit → σ → Prop} (run : c = true → Triple F P x Q E)
    (skip : c = false → ∀ s, P s → Q () s) : Triple F P (Remote.when c x) Q E := by
  cases c with
  | true => exact run rfl
  | false => exact Triple.pure (skip rfl)

theorem Triple.attempt {x : Remote κ ε σ α} {T : Except ε α → σ → Prop}
    (h : Triple F P x (fun a => T (.ok a)) (fun e => T (.error e))) : Triple F P (Remote.attempt x) T E := by
  intro s hs
  have here := h s hs
  simp only [Remote.attempt]
  rcases run : x F s with ⟨_ | a, s'⟩
  · simpa only [run] using here
  · simpa only [run] using here

/-- A cleanup sees how `x` ended. -/
theorem Triple.lastly {x : Remote κ ε σ α} {cleanup : Remote κ ε σ Unit} {T T' : Except ε α → σ → Prop}
    (body : Triple F P x (fun a => T (.ok a)) fun e => T (.error e))
    (after : ∀ result, Triple F (T result) cleanup (fun _ => T' result) fun e => T' (.error e)) :
    Triple F P (x.lastly cleanup) (fun a => T' (.ok a)) fun e => T' (.error e) := by
  intro s hs
  have here := body s hs
  simp only [Remote.lastly]
  rcases run : x F s with ⟨e | a, s'⟩
  · rw [run] at here
    have then_ := after (.error e) s' here
    rcases rest : cleanup F s' with ⟨_ | _, s''⟩ <;> simpa only [rest] using then_
  · rw [run] at here
    have then_ := after (.ok a) s' here
    rcases rest : cleanup F s' with ⟨_ | _, s''⟩ <;> simpa only [rest] using then_

/-- What holds once `x` has run, however it ended. -/
theorem Triple.after {x : Remote κ ε σ α} {T : σ → Prop} (h : Triple F P x (fun _ => T) fun _ => T) {s : σ}
    (hs : P s) : T (x F s).2 := by
  have here := h s hs
  rcases run : x F s with ⟨_ | _, s'⟩ <;> simpa only [run] using here

/-- What owes the impossible on an error ends on a value. -/
theorem Triple.answers {x : Remote κ ε σ α} (h : Triple F P x Q fun _ _ => False) {s : σ} (hs : P s) :
    ∃ a s', x F s = (.ok a, s') ∧ Q a s' := by
  have here := h s hs
  rcases run : x F s with ⟨_ | a, s'⟩
  · simp only [run] at here
  · rw [run] at here
    exact ⟨a, s', rfl, here⟩

/-- A loop over a list, by an invariant of the elements done. -/
theorem Triple.foldlM {f : β → α → Remote κ ε σ β} {I : List α → β → σ → Prop} {xs : List α} {b : β}
    (body : ∀ done a rest b, xs = done ++ a :: rest →
      Triple F (I done b) (f b a) (I (done ++ [a])) E) :
    Triple F (I [] b) (xs.foldlM f b) (I xs) E := by
  suffices h : ∀ rest done b, xs = done ++ rest → Triple F (I done b) (rest.foldlM f b) (I xs) E from
    h xs [] b rfl
  intro rest
  induction rest with
  | nil =>
    intro done b whole
    rw [List.append_nil] at whole
    subst whole
    exact Triple.pure fun _ h => h
  | cons a rest ih =>
    intro done b whole
    rw [List.foldlM_cons]
    exact (body done a rest b whole).bind fun b' => ih (done ++ [a]) b' (by simp [whole])

end Rules

section Total

variable {κ ε σ α β : Type}

/-- `x` never raises. -/
def Total (x : Remote κ ε σ α) : Prop := ∀ F s, ∃ a, (x F s).1 = .ok a

theorem Total.pure {a : α} : Total (pure a : Remote κ ε σ α) := fun _ _ => ⟨a, rfl⟩

theorem Total.modify {f : σ → σ} : Total (Remote.modify f : Remote κ ε σ Unit) := fun _ _ => ⟨(), rfl⟩

theorem Total.attempt {x : Remote κ ε σ α} : Total x.attempt := fun F s => ⟨(x F s).1, rfl⟩

theorem Total.bind {x : Remote κ ε σ α} {f : α → Remote κ ε σ β} (first : Total x) (second : ∀ a, Total (f a)) :
    Total (x >>= f) := by
  intro F s
  obtain ⟨a, answer⟩ := first F s
  obtain ⟨b, last⟩ := second a F (x F s).2
  refine ⟨b, ?_⟩
  simp only [Bind.bind]
  rcases run : x F s with ⟨result, s'⟩
  simp only [run] at answer last
  subst answer
  exact last

theorem Total.when {c : Bool} {x : Remote κ ε σ Unit} (h : Total x) : Total (Remote.when c x) := by
  cases c with
  | true => exact h
  | false => exact Total.pure

/-- A program that never raises owes nothing on an error. -/
theorem Triple.total {F : κ → Fate ε} {P : σ → Prop} {x : Remote κ ε σ α} {Q : α → σ → Prop}
    {E E' : ε → σ → Prop} (h : Triple F P x Q E) (total : Total x) : Triple F P x Q E' := by
  intro s hs
  have here := h s hs
  obtain ⟨a, answer⟩ := total F s
  rcases run : x F s with ⟨result, s'⟩
  simp only [run] at answer here
  subst answer
  exact here

end Total

section Follows

variable {κ ε σ α β : Type} {R : σ → σ → Prop} {x y : Remote κ ε σ α}

/-- Wherever `x` starts and however it ends, `R` relates the two states. -/
def Follows (R : σ → σ → Prop) (x : Remote κ ε σ α) : Prop := ∀ F s, R s (x F s).2

/-- What follows a program that has answered. -/
theorem bind_ok {f : α → Remote κ ε σ β} {F : κ → Fate ε} {s s' : σ} {a : α} (run : x F s = (.ok a, s')) :
    (x >>= f) F s = f a F s' := by
  simp only [Bind.bind, run]

/-- What is made of the answer changes no state. -/
theorem after_mapped {f : α → β} {F : κ → Fate ε} {s : σ} : ((x >>= fun a => Pure.pure (f a)) F s).2 = (x F s).2 := by
  simp only [Bind.bind]
  rcases x F s with ⟨_ | _, _⟩ <;> rfl

theorem Follows.of_triple (h : ∀ F start, Triple F (fun s => s = start) x (fun _ => R start) fun _ => R start) :
    Follows R x := fun F start => (h F start).after rfl

theorem Follows.mono {S : σ → σ → Prop} (h : Follows R x) (weaker : ∀ s s', R s s' → S s s') : Follows S x :=
  fun F s => weaker s _ (h F s)

theorem Follows.attempt (h : Follows R x) : Follows R x.attempt := h

theorem Follows.ite {c : Prop} [Decidable c] (yes : Follows R x) (no : Follows R y) : Follows R (if c then x else y) := by
  split
  · exact yes
  · exact no

theorem Follows.modify {f : σ → σ} (h : ∀ s, R s (f s)) : Follows R (Remote.modify f : Remote κ ε σ Unit) := fun _ => h

theorem Follows.and {S : σ → σ → Prop} (h : Follows R x) (h' : Follows S x) : Follows (fun s s' => R s s' ∧ S s s') x :=
  fun F s => ⟨h F s, h' F s⟩

/-- What the relation preserves, the program preserves. -/
theorem Follows.keeps {F : κ → Fate ε} {P : σ → Prop} (h : Follows R x) (preserved : ∀ s s', R s s' → P s → P s') :
    Triple F P x (fun _ => P) fun _ => P := by
  intro s hs
  have here := preserved s _ (h F s) hs
  rcases run : x F s with ⟨_ | _, s'⟩ <;> simpa only [run] using here

section Refl

variable [Std.Refl R]

theorem Follows.pure {a : α} : Follows R (pure a : Remote κ ε σ α) := fun _ s => Std.Refl.refl s

theorem Follows.raise {e : ε} : Follows R (Remote.raise e : Remote κ ε σ α) := fun _ s => Std.Refl.refl s

theorem Follows.get : Follows R (Remote.get : Remote κ ε σ σ) := fun _ s => Std.Refl.refl s

theorem Follows.call {k : κ} {effect : σ → α × σ} (h : ∀ s, R s (effect s).2) : Follows R (Remote.call k effect : Remote κ ε σ α) := by
  intro F s
  simp only [Remote.call]
  cases F k with
  | answered => exact h s
  | refused => exact Std.Refl.refl s
  | lost => exact h s

theorem Follows.ask {k : κ} {answer : σ → α} : Follows R (Remote.ask k answer : Remote κ ε σ α) :=
  call fun s => Std.Refl.refl s

theorem Follows.when {c : Bool} {x : Remote κ ε σ Unit} (h : Follows R x) : Follows R (Remote.when c x) := by
  cases c with
  | true => exact h
  | false => exact pure

end Refl

variable [IsTrans σ R]

theorem Follows.bind {f : α → Remote κ ε σ β} (first : Follows R x) (second : ∀ a, Follows R (f a)) :
    Follows R (x >>= f) := by
  intro F s
  have here := first F s
  simp only [Bind.bind]
  rcases run : x F s with ⟨_ | a, s'⟩
  · simpa only [run] using here
  · rw [run] at here
    exact IsTrans.trans _ _ _ here (second a F s')

/-- What follows a program need only be shown for the answers it can give. -/
theorem Follows.bind_answer {p : α → Prop} {f : α → Remote κ ε σ β} (first : Follows R x)
    (answers : ∀ F s a, (x F s).1 = .ok a → p a) (second : ∀ a, p a → Follows R (f a)) : Follows R (x >>= f) := by
  intro F s
  have here := first F s
  have answer := answers F s
  simp only [Bind.bind]
  rcases run : x F s with ⟨_ | a, s'⟩
  · simpa only [run] using here
  · rw [run] at here answer
    exact IsTrans.trans _ _ _ here (second a (answer a rfl) F s')

/-- A relation a program follows, kept from a start. -/
theorem Follows.triple {F : κ → Fate ε} {start : σ} (h : Follows R x) :
    Triple F (R start) x (fun _ => R start) fun _ => R start :=
  h.keeps fun _ _ next along => IsTrans.trans _ _ _ along next

theorem Follows.foldlM [Std.Refl R] {f : β → α → Remote κ ε σ β} (h : ∀ b a, Follows R (f b a)) {items : List α} {b : β} :
    Follows R (items.foldlM f b) := by
  induction items generalizing b with
  | nil => exact pure
  | cons item items ih =>
    rw [List.foldlM_cons]
    exact (h b item).bind fun _ => ih

end Follows

section Ignores

variable {κ ε σ α β : Type} {f : σ → σ} {x : Remote κ ε σ α}

/-- `x` neither reads nor undoes what `f` changes: the two may be swapped. -/
def Ignores (f : σ → σ) (x : Remote κ ε σ α) : Prop := ∀ F s, x F (f s) = ((x F s).1, f (x F s).2)

theorem Ignores.pure {a : α} : Ignores f (pure a : Remote κ ε σ α) := fun _ _ => rfl

theorem Ignores.modify {g : σ → σ} (h : ∀ s, g (f s) = f (g s)) : Ignores f (Remote.modify g : Remote κ ε σ Unit) := by
  intro F s
  simp only [Remote.modify, h]

theorem Ignores.bind {k : α → Remote κ ε σ β} (first : Ignores f x) (second : ∀ a, Ignores f (k a)) :
    Ignores f (x >>= k) := by
  intro F s
  simp only [Bind.bind, first F s]
  rcases x F s with ⟨_ | a, s'⟩
  · rfl
  · exact second a F s'

/-- A look at the state that does not see what `f` changes. -/
theorem Ignores.bind_get {k : σ → Remote κ ε σ β} (unseen : ∀ s, k (f s) = k s) (rest : ∀ s, Ignores f (k s)) :
    Ignores f (Remote.get >>= k) := by
  intro F s
  show k (f s) F (f s) = _
  rw [unseen]
  exact rest s F s

theorem Ignores.when {c : Bool} {y : Remote κ ε σ Unit} (h : Ignores f y) : Ignores f (Remote.when c y) := by
  cases c with
  | true => exact h
  | false => exact pure

theorem Ignores.ite {c : Prop} [Decidable c] {y : Remote κ ε σ α} (yes : Ignores f x) (no : Ignores f y) :
    Ignores f (if c then x else y) := by
  split
  · exact yes
  · exact no

end Ignores

section Figures

variable {κ ε σ α β M : Type} [AddMonoid M] {figure : σ → M} {k : M}

/-- `x` adds `k` to a figure of the state, however it ends. -/
def Adds (figure : σ → M) (x : Remote κ ε σ α) (k : M) : Prop := ∀ F s, figure (x F s).2 = figure s + k

theorem Adds.pure {a : α} : Adds figure (pure a : Remote κ ε σ α) 0 := fun _ _ => (add_zero _).symm

/-- `k`, and then nothing. -/
theorem Adds.last {x : Remote κ ε σ α} {f : α → Remote κ ε σ β} (adds : Adds figure x k)
    (rest : ∀ a, Adds figure (f a) 0) : Adds figure (x >>= f) k := by
  intro F s
  have here := adds F s
  simp only [Bind.bind]
  rcases run : x F s with ⟨_ | a, s'⟩
  · simpa only [run] using here
  · rw [run] at here
    exact (rest a F s').trans (by rw [add_zero, here])

/-- Nothing, and then `k`, where nothing is raised. -/
theorem Adds.first [IsEmpty ε] {x : Remote κ ε σ α} {f : α → Remote κ ε σ β} (none : Adds figure x 0)
    (adds : ∀ a, Adds figure (f a) k) : Adds figure (x >>= f) k := by
  intro F s
  have here := none F s
  simp only [Bind.bind]
  rcases run : x F s with ⟨error | a, s'⟩
  · exact isEmptyElim error
  · rw [run, add_zero] at here
    exact (adds a F s').trans (by rw [here])

theorem Adds.modify {f : σ → σ} (adds : ∀ s, figure (f s) = figure s + k) :
    Adds figure (Remote.modify f : Remote κ ε σ Unit) k := fun _ => adds

theorem Adds.when {c : Bool} {x : Remote κ ε σ Unit} (none : Adds figure x 0) : Adds figure (Remote.when c x) 0 := by
  cases c with
  | true => exact none
  | false => exact .pure

end Figures

end Remote
end Issuebot.Logic
