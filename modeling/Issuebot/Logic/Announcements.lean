import Mathlib

/-!
# Announcements claimed on a board

Heralds announce rising levels of a key. A board keeps the highest level claimed for each key. A
herald asks for the level, claims a higher one, announces it, and gives the claim back when the
announcement fails; `⊤` is a key closed for good. On an orderly board a claim is taken only over the
level the herald was told, and while no other claim of the key is out: then each key's announcements
rise strictly, so that none is made twice and none after a higher one.
-/

namespace Issuebot.Logic
set_option autoImplicit false

/-- Where a herald stands. -/
inductive Stage (κ : Type) where
  | idle
  | asked (key : κ) (previous target : Nat)
  | claimed (key : κ) (previous target : Nat)
  | refused (key : κ) (previous target : Nat)

/-- A claim is out: taken, and neither announced nor given back. -/
def Stage.Holds {κ : Type} (stage : Stage κ) (key : κ) (previous target : Nat) : Prop :=
  stage = .claimed key previous target ∨ stage = .refused key previous target

structure Board (κ π : Type) where
  level : κ → WithTop Nat
  stage : π → Stage κ
  posted : List (κ × Nat)

namespace Board

variable {κ π : Type} {board board' : Board κ π} {herald other : π} {key : κ} {previous target : Nat}

theorem not_holds_idle : ¬ (Stage.idle : Stage κ).Holds key previous target := by
  rintro (h | h) <;> cases h

theorem not_holds_asked {key' : κ} {previous' target' : Nat} :
    ¬ (Stage.asked key' previous' target').Holds key previous target := by
  rintro (h | h) <;> cases h

/-- Nobody has a claim of the key out. -/
def Free (board : Board κ π) (key : κ) : Prop := ∀ herald previous target, ¬ (board.stage herald).Holds key previous target

/-- No key's announcement comes after one as high. -/
def Ascending (posted : List (κ × Nat)) : Prop := posted.Pairwise fun a b => a.1 = b.1 → a.2 < b.2

/-- What an orderly board keeps. -/
structure Orderly (board : Board κ π) : Prop where
  ascending : Ascending board.posted
  posted : ∀ key level, (key, level) ∈ board.posted → (level : WithTop Nat) ≤ board.level key
  asked : ∀ herald key previous target, board.stage herald = .asked key previous target → previous < target
  held : ∀ herald key previous target, (board.stage herald).Holds key previous target →
    previous < target ∧ (target : WithTop Nat) ≤ board.level key ∧ ∀ level, (key, level) ∈ board.posted → level ≤ previous
  single : ∀ herald other key previous target previous' target', (board.stage herald).Holds key previous target →
    (board.stage other).Holds key previous' target' → herald = other

/-- A key's level is announced once at most. -/
theorem Ascending.nodup {posted : List (κ × Nat)} (ascending : Ascending posted) : posted.Nodup := by
  apply ascending.imp
  rintro a _ rises rfl
  exact Nat.lt_irrefl _ (rises rfl)

/-- An announcement above those before it, of a key nobody has a claim of. -/
theorem Orderly.post (orderly : board.Orderly) (free : board.Free key) (within : (target : WithTop Nat) ≤ board.level key)
    (above : ∀ level, (key, level) ∈ board.posted → level < target) :
    ({ board with posted := board.posted ++ [(key, target)] } : Board κ π).Orderly := by
  refine ⟨?_, ?_, orderly.asked, ?_, orderly.single⟩
  · apply List.pairwise_append.mpr
    refine ⟨orderly.ascending, List.pairwise_singleton .., ?_⟩
    rintro ⟨key', posted⟩ mem new is_new same
    cases List.mem_singleton.mp is_new
    obtain rfl : key' = key := same
    exact above posted mem
  · intro key' posted mem
    rcases List.mem_append.mp mem with old | new
    · exact orderly.posted _ _ old
    · cases List.mem_singleton.mp new
      exact within
  · intro herald key' previous target' holds
    obtain ⟨rises, claimed, below⟩ := orderly.held _ _ _ _ holds
    refine ⟨rises, claimed, fun posted mem => ?_⟩
    rcases List.mem_append.mp mem with old | new
    · exact below posted old
    · cases List.mem_singleton.mp new
      exact absurd holds (free _ _ _)

section Levels

variable [DecidableEq κ]

def raise (board : Board κ π) (key : κ) (level : WithTop Nat) : Board κ π :=
  { board with level := Function.update board.level key level }

theorem raise_level_self {level : WithTop Nat} : (board.raise key level).level key = level := Function.update_self ..

theorem raise_level_of_ne {other : κ} {level : WithTop Nat} (ne : other ≠ key) :
    (board.raise key level).level other = board.level other := Function.update_of_ne ne ..

/-- The level of a key nobody has a claim of is set to what covers its announcements. -/
theorem Orderly.raise {level : WithTop Nat} (orderly : board.Orderly) (free : board.Free key)
    (covers : ∀ posted, (key, posted) ∈ board.posted → (posted : WithTop Nat) ≤ level) : (board.raise key level).Orderly := by
  refine ⟨orderly.ascending, ?_, orderly.asked, ?_, orderly.single⟩
  · intro other posted mem
    by_cases same : other = key
    · subst same
      rw [raise_level_self]
      exact covers posted mem
    · rw [raise_level_of_ne same]
      exact orderly.posted other posted mem
  · intro herald other previous target holds
    have ne : other ≠ key := by
      rintro rfl
      exact free _ _ _ holds
    rw [raise_level_of_ne ne]
    exact orderly.held _ _ _ _ holds

end Levels

section Turns

variable [DecidableEq π]

def turn (board : Board κ π) (herald : π) (stage : Stage κ) : Board κ π :=
  { board with stage := Function.update board.stage herald stage }

@[simp] theorem turn_stage_self {stage : Stage κ} : (board.turn herald stage).stage herald = stage :=
  Function.update_self ..

theorem turn_stage_of_ne {stage : Stage κ} (ne : other ≠ herald) : (board.turn herald stage).stage other = board.stage other :=
  Function.update_of_ne ne ..

/-- A herald turns to a stage that holds no more than its last one. -/
theorem Orderly.turn {stage : Stage κ} (orderly : board.Orderly)
    (asks : ∀ key previous target, stage = .asked key previous target → previous < target)
    (holds : ∀ key previous target, stage.Holds key previous target → (board.stage herald).Holds key previous target) :
    (board.turn herald stage).Orderly := by
  have held : ∀ other key previous target, ((board.turn herald stage).stage other).Holds key previous target →
      (board.stage other).Holds key previous target := by
    intro other key previous target is_held
    by_cases same : other = herald
    · subst same
      rw [turn_stage_self] at is_held
      exact holds _ _ _ is_held
    · rwa [turn_stage_of_ne same] at is_held
  refine ⟨orderly.ascending, orderly.posted, ?_, ?_, ?_⟩
  · intro other key previous target is_asked
    by_cases same : other = herald
    · subst same
      rw [turn_stage_self] at is_asked
      exact asks _ _ _ is_asked
    · rw [turn_stage_of_ne same] at is_asked
      exact orderly.asked _ _ _ _ is_asked
  · intro other key previous target is_held
    exact orderly.held _ _ _ _ (held _ _ _ _ is_held)
  · intro other other' key previous target previous' target' first second
    exact orderly.single _ _ _ _ _ _ _ (held _ _ _ _ first) (held _ _ _ _ second)

theorem Orderly.rest (orderly : board.Orderly) : (board.turn herald .idle).Orderly :=
  orderly.turn (fun _ _ _ asked => nomatch asked) fun _ _ _ holds => absurd holds not_holds_idle

/-- A herald takes a claim that nobody else has out. -/
theorem Orderly.claim (orderly : board.Orderly) (free : board.Free key) (rises : previous < target)
    (level : (target : WithTop Nat) ≤ board.level key) (below : ∀ level, (key, level) ∈ board.posted → level ≤ previous) :
    (board.turn herald (.claimed key previous target)).Orderly := by
  have claimed : ∀ key' previous' target', (Stage.claimed key previous target).Holds key' previous' target' →
      key' = key ∧ previous' = previous ∧ target' = target := by
    rintro key' previous' target' (h | h) <;> cases h
    exact ⟨rfl, rfl, rfl⟩
  refine ⟨orderly.ascending, orderly.posted, ?_, ?_, ?_⟩
  · intro other key' previous' target' asked
    by_cases same : other = herald
    · subst same
      rw [turn_stage_self] at asked
      cases asked
    · rw [turn_stage_of_ne same] at asked
      exact orderly.asked _ _ _ _ asked
  · intro other key' previous' target' holds
    by_cases same : other = herald
    · subst same
      rw [turn_stage_self] at holds
      obtain ⟨rfl, rfl, rfl⟩ := claimed _ _ _ holds
      exact ⟨rises, level, below⟩
    · rw [turn_stage_of_ne same] at holds
      exact orderly.held _ _ _ _ holds
  · intro first second key' p t p' t' holds holds'
    by_cases same : first = herald
    · subst same
      rw [turn_stage_self] at holds
      obtain ⟨rfl, -, -⟩ := claimed _ _ _ holds
      by_contra ne
      rw [turn_stage_of_ne (Ne.symm ne)] at holds'
      exact free _ _ _ holds'
    · rw [turn_stage_of_ne same] at holds
      by_cases same' : second = herald
      · subst same'
        rw [turn_stage_self] at holds'
        obtain ⟨rfl, -, -⟩ := claimed _ _ _ holds'
        exact absurd holds (free _ _ _)
      · rw [turn_stage_of_ne same'] at holds'
        exact orderly.single _ _ _ _ _ _ _ holds holds'

/-- A claim that is out is the key's only one. -/
theorem Orderly.free_after (orderly : board.Orderly) (holds : (board.stage herald).Holds key previous target) :
    (board.turn herald .idle).Free key := by
  intro other p t held
  by_cases same : other = herald
  · subst same
    rw [turn_stage_self] at held
    exact not_holds_idle held
  · rw [turn_stage_of_ne same] at held
    exact same (orderly.single _ _ _ _ _ _ _ held holds)

end Turns

section Moves

variable [DecidableEq κ] [DecidableEq π]

/-- One herald, or the board itself, makes a move. -/
inductive Step (board board' : Board κ π) : Prop where
  /-- Keys are closed. -/
  | closes (level : κ → WithTop Nat) (higher : ∀ key, level key = board.level key ∨ level key = ⊤)
      (after : board' = { board with level })
  | asks (herald : π) (key : κ) (previous target : Nat) (rises : previous < target)
      (after : board' = board.turn herald (.asked key previous target))
  /-- The herald lets the matter rest; a claim that is out stays on the board. -/
  | rests (herald : π) (after : board' = board.turn herald .idle)
  /-- A claim over the level the herald was told, none other of the key being out; a herald that is
  stopped meanwhile does not hold it. -/
  | claims (herald : π) (key : κ) (previous target : Nat) (stage : Stage κ)
      (asked : board.stage herald = .asked key previous target) (told : board.level key = previous)
      (alone : board.Free key)
      (next : stage = .claimed key previous target ∨ stage = .idle)
      (after : board' = (board.raise key target).turn herald stage)
  | posts (herald : π) (key : κ) (previous target : Nat) (claimed : board.stage herald = .claimed key previous target)
      (after : board' = { board.turn herald .idle with posted := board.posted ++ [(key, target)] })
  | refuses (herald : π) (key : κ) (previous target : Nat) (claimed : board.stage herald = .claimed key previous target)
      (after : board' = board.turn herald (.refused key previous target))
  | releases (herald : π) (key : κ) (previous target : Nat) (refused : board.stage herald = .refused key previous target)
      (level : board.level key = target) (after : board' = (board.raise key previous).turn herald .idle)

/-- Every move keeps a board orderly. -/
theorem Step.orderly (step : Step board board') (orderly : board.Orderly) : board'.Orderly := by
  cases step with
  | closes level higher after =>
    subst after
    have up : ∀ key (bound : Nat), (bound : WithTop Nat) ≤ board.level key → (bound : WithTop Nat) ≤ level key := by
      intro key bound le
      rcases higher key with same | top
      · rwa [same]
      · exact top ▸ le_top
    exact ⟨orderly.ascending, fun key bound mem => up key bound (orderly.posted key bound mem), orderly.asked,
      fun herald key previous target holds =>
        have ⟨rises, within, below⟩ := orderly.held herald key previous target holds
        ⟨rises, up key target within, below⟩, orderly.single⟩
  | asks herald key previous target rises after =>
    subst after
    apply orderly.turn
    · intro key' previous' target' is_asked
      cases is_asked
      exact rises
    · exact fun _ _ _ holds => absurd holds not_holds_asked
  | rests herald after => exact after ▸ orderly.rest
  | claims herald key previous target stage asked told alone next after =>
    have rises := orderly.asked _ _ _ _ asked
    have below : ∀ level, (key, level) ∈ board.posted → level ≤ previous := by
      intro level mem
      have within := orderly.posted key level mem
      rw [told] at within
      exact WithTop.coe_le_coe.mp within
    have raised : (board.raise key target).Orderly := by
      apply orderly.raise alone
      intro level mem
      exact WithTop.coe_le_coe.mpr ((below level mem).trans rises.le)
    rcases next with rfl | rfl
    · exact after ▸ raised.claim alone rises raise_level_self.ge below
    · exact after ▸ raised.rest
  | posts herald key previous target claimed after =>
    have holds : (board.stage herald).Holds key previous target := .inl claimed
    obtain ⟨rises, within, below⟩ := orderly.held _ _ _ _ holds
    rw [after]
    apply orderly.rest.post (orderly.free_after holds) within
    exact fun level mem => (below level mem).trans_lt rises
  | refuses herald key previous target claimed after =>
    subst after
    apply orderly.turn
    · exact fun _ _ _ asked => nomatch asked
    · rintro key' previous' target' (h | h)
      · cases h
      · cases h
        exact .inl claimed
  | releases herald key previous target refused level after =>
    have holds : (board.stage herald).Holds key previous target := .inr refused
    obtain ⟨rises, within, below⟩ := orderly.held _ _ _ _ holds
    rw [after]
    apply orderly.rest.raise (orderly.free_after holds)
    exact fun level mem => WithTop.coe_le_coe.mpr (below level mem)

/-- However the heralds take turns. -/
theorem Orderly.reaches (run : Relation.ReflTransGen Step board board') (orderly : board.Orderly) : board'.Orderly := by
  induction run with
  | refl => exact orderly
  | tail _ step ih => exact step.orderly ih

end Moves

end Board
end Issuebot.Logic
