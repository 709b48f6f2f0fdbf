import Issuebot.Agent.VerdictLimits
import Issuebot.Floats

/-!
# The account's usage windows, as claude reports them

`parseRateLimits` and `parseUsageLimit` read a `rate_limit_event` line. What they cannot read is no
reading, but for two kinds of number: an integer no float holds raises (`FitsFloat`), and a utilization
of `NaN` passes between the bounds it is cut to.
-/

namespace Issuebot
set_option autoImplicit false

/-- What Python raises that the stream's readers do not catch. -/
inductive Uncaught where
  | overflowError
  | valueError
  | recursionError
  deriving DecidableEq, Repr

/-- One of the account's usage windows: how much of it is spent, and when it rolls over. -/
structure RateLimitWindow where
  utilization : PyFloat
  resetsAt : Datetime
  deriving DecidableEq

/-- A reading of the windows. -/
structure RateLimits where
  fiveHour : Option RateLimitWindow
  sevenDay : Option RateLimitWindow
  observedAt : Datetime
  deriving DecidableEq

/-- A `rate_limit_event` that refused the request, and when the window reopens. -/
structure UsageLimit where
  window : PyStr
  resetsAt : Datetime
  deriving DecidableEq, Repr

section Readers

/-- `_string` -/
def Decoded.string : Decoded → Option PyStr
  | str value => some value
  | _ => none

/-- The members, of an object. -/
def Decoded.asObject : Decoded → Option Members
  | obj members => some members
  | _ => none

/-- `_number` -/
def Decoded.number : Decoded → Except Uncaught (Option PyFloat)
  | int value => (PyFloat.ofInt value).elim (.error .overflowError) fun value => .ok (some value)
  | num value => .ok (some (.finite value))
  | nonfinite value => .ok (some (.nonfinite value))
  | _ => .ok none

-- `datetime.fromtimestamp(seconds, tz=UTC)`, `none` where it raises one of the three exceptions caught
variable (fromtimestamp : PyFloat → Option Datetime)

/-- `_epoch` -/
def epoch (value : Decoded) : Except Uncaught (Option Datetime) := do
  let seconds ← value.number
  return seconds.bind fromtimestamp

/-- `_rate_limit_window` -/
def rateLimitWindow (value : Decoded) : Except Uncaught (Option RateLimitWindow) :=
  match value.asObject with
  | none => .ok none
  | some members => do
    let utilization ← (members.item "utilization").number
    let resets ← (members.item "resetsAt").number
    return do
      let utilization ← utilization
      let resetsAt ← resets.bind fromtimestamp
      return { utilization := (utilization.max .zero).min .one, resetsAt }

/-- `parse_rate_limits` -/
def parseRateLimits (message : Members) (now : Datetime) : Except Uncaught (Option RateLimits) :=
  match (message.item "rate_limit_info").asObject with
  | none => .ok none
  | some info =>
    match (info.item "unifiedWindows").asObject with
    | none => .ok none
    | some windows => do
      let fiveHour ← rateLimitWindow fromtimestamp (windows.item "five_hour")
      let sevenDay ← rateLimitWindow fromtimestamp (windows.item "seven_day")
      return if fiveHour = none ∧ sevenDay = none then none else some { fiveHour, sevenDay, observedAt := now }

/-- When the window reopens, by its own entry. -/
def windowReset (info : Members) (window : PyStr) : Except Uncaught (Option Datetime) :=
  match (info.item "unifiedWindows").asObject with
  | none => .ok none
  | some windows =>
    match ((windows.lookup window).getD .null).asObject with
    | none => .ok none
    | some entry => epoch fromtimestamp (entry.item "resetsAt")

/-- `_string(value) or default`, of a text that is not empty. -/
def stringOr (value : Decoded) (default : String) : PyStr :=
  match value.string with
  | none | some [] => PyStr.ofString default
  | some text => text

/-- `parse_usage_limit` -/
def parseUsageLimit (message : Members) (now : Datetime) : Except Uncaught (Option UsageLimit) :=
  match (message.item "rate_limit_info").asObject with
  | none => .ok none
  | some info =>
    if (info.item "status").string ≠ some (PyStr.ofString "rejected") then .ok none
    else do
      let window := stringOr (info.item "rateLimitType") "unknown"
      match ← epoch fromtimestamp (info.item "resetsAt") with
      | some resetsAt => return some { window, resetsAt }
      | none => do
        let resetsAt ← windowReset fromtimestamp info window
        return some { window, resetsAt := resetsAt.getD now }

end Readers

section Fits

variable {fromtimestamp : PyFloat → Option Datetime} {value : Decoded} {message info : Members} {now : Datetime}

/-- The value is no integer that is too large for a float. -/
def Decoded.FitsFloat (value : Decoded) : Prop := ∀ n, value = .int n → PyFloat.roundNat n.natAbs < PyFloat.bound

theorem ofInt_of_fits {n : Int} (fits : PyFloat.roundNat n.natAbs < PyFloat.bound) :
    PyFloat.ofInt n = some (.finite (n.sign * PyFloat.roundNat n.natAbs)) := if_pos fits

/-- A number is read where it fits. -/
theorem number_ok_iff : (∃ x, value.number = .ok x) ↔ value.FitsFloat := by
  cases value with
  | int n =>
    by_cases fits : PyFloat.roundNat n.natAbs < PyFloat.bound
    · simp [Decoded.number, Decoded.FitsFloat, ofInt_of_fits fits, fits]
    · simp [Decoded.number, Decoded.FitsFloat, PyFloat.ofInt, fits]
  | null | bool | num | nonfinite | str | arr | obj => simp [Decoded.number, Decoded.FitsFloat]

/-- Of the values that are read, one is a NaN. -/
theorem number_nan {x : Option PyFloat} (read : value.number = .ok x) : x = some .nan ↔ value = .nonfinite .nan := by
  cases value with
  | int n =>
    by_cases fits : PyFloat.roundNat n.natAbs < PyFloat.bound
    · simp only [Decoded.number, ofInt_of_fits fits, Option.elim_some, Except.ok.injEq] at read
      simp [← read, PyFloat.nan]
    · simp [Decoded.number, PyFloat.ofInt, fits] at read
  | null | bool | num | nonfinite | str | arr | obj =>
    simp only [Decoded.number, Except.ok.injEq] at read
    simp [← read, PyFloat.nan]

theorem epoch_eq {x : Option PyFloat} (read : value.number = .ok x) : epoch fromtimestamp value = .ok (x.bind fromtimestamp) := by
  rw [epoch, read]
  rfl

theorem epoch_ok_iff : (∃ resetsAt, epoch fromtimestamp value = .ok resetsAt) ↔ value.FitsFloat := by
  rw [← number_ok_iff]
  constructor
  · rintro ⟨resetsAt, read⟩
    obtain ⟨x, is_number, -⟩ := bind_eq_ok.mp read
    exact ⟨x, is_number⟩
  · rintro ⟨x, read⟩
    exact ⟨_, epoch_eq read⟩

/-- A window whose numbers fit, and whose utilization is no NaN unless the window names no time. -/
structure WindowFits (fromtimestamp : PyFloat → Option Datetime) (window : Members) : Prop where
  utilization : (window.item "utilization").FitsFloat
  resetsAt : (window.item "resetsAt").FitsFloat
  share : window.item "utilization" = .nonfinite .nan → epoch fromtimestamp (window.item "resetsAt") = .ok none

/-- The window of a utilization and a time, cut to the unit interval. -/
def windowOf (utilization : Option PyFloat) (resetsAt : Option Datetime) : Option RateLimitWindow := do
  let utilization ← utilization
  let resetsAt ← resetsAt
  return { utilization := (utilization.max .zero).min .one, resetsAt }

theorem windowOf_share {utilization : Option PyFloat} {resetsAt : Option Datetime} :
    (∀ read, windowOf utilization resetsAt = some read → read.utilization.IsShare) ↔
      (utilization = some .nan → resetsAt = none) := by
  rcases utilization with _ | x
  · simp [windowOf]
  rcases resetsAt with _ | resetsAt
  · simp [windowOf]
  simp [windowOf, PyFloat.isShare_clamped]

theorem rateLimitWindow_ok_iff {members : Members} {window : Option RateLimitWindow} :
    rateLimitWindow fromtimestamp (.obj members) = .ok window ↔
      ∃ utilization resets, (members.item "utilization").number = .ok utilization ∧
        (members.item "resetsAt").number = .ok resets ∧ window = windowOf utilization (resets.bind fromtimestamp) := by
  constructor
  · intro read
    obtain ⟨utilization, first, rest⟩ := bind_eq_ok.mp read
    obtain ⟨resets, second, last⟩ := bind_eq_ok.mp rest
    exact ⟨utilization, resets, first, second, (Except.ok.inj last).symm⟩
  · rintro ⟨utilization, resets, first, second, rfl⟩
    exact bind_eq_ok.mpr ⟨utilization, first, bind_eq_ok.mpr ⟨resets, second, rfl⟩⟩

/-- A window is read, as a share, where it fits. -/
theorem rateLimitWindow_iff :
    (∃ window, rateLimitWindow fromtimestamp value = .ok window ∧ ∀ read, window = some read → read.utilization.IsShare) ↔
      ∀ members, value = .obj members → WindowFits fromtimestamp members := by
  cases value with
  | obj members =>
    constructor
    · rintro ⟨window, read, shares⟩ members same
      cases same
      obtain ⟨utilization, resets, first, second, rfl⟩ := rateLimitWindow_ok_iff.mp read
      refine ⟨number_ok_iff.mp ⟨_, first⟩, number_ok_iff.mp ⟨_, second⟩, fun is_nan => ?_⟩
      rw [epoch_eq second, windowOf_share.mp shares ((number_nan first).mpr is_nan)]
    · intro fits
      have fits := fits members rfl
      obtain ⟨utilization, first⟩ := number_ok_iff.mpr fits.utilization
      obtain ⟨resets, second⟩ := number_ok_iff.mpr fits.resetsAt
      refine ⟨_, rateLimitWindow_ok_iff.mpr ⟨_, _, first, second, rfl⟩, windowOf_share.mpr fun is_nan => ?_⟩
      have none_there := fits.share ((number_nan first).mp is_nan)
      rw [epoch_eq second] at none_there
      exact Except.ok.inj none_there
  | null | bool | int | num | nonfinite | str | arr =>
    simp [rateLimitWindow, Decoded.asObject]

theorem asObject_eq_some {members : Members} : value.asObject = some members ↔ value = .obj members := by
  cases value <;> simp [Decoded.asObject, Members, eq_comm]

/-- The windows of a reading are shares. -/
def RateLimits.AreShares (limits : RateLimits) : Prop :=
  ∀ window, limits.fiveHour = some window ∨ limits.sevenDay = some window → window.utilization.IsShare

/-- Both of the windows that are read fit. -/
def WindowsFit (fromtimestamp : PyFloat → Option Datetime) (message : Members) : Prop :=
  ∀ info : Members, message.item "rate_limit_info" = .obj info → ∀ windows : Members, info.item "unifiedWindows" = .obj windows →
    ∀ name ∈ ["five_hour", "seven_day"], ∀ window : Members, windows.item name = .obj window → WindowFits fromtimestamp window

/-- The numbers of both windows fit a float; what share they make is not asked. -/
def NumbersFit (message : Members) : Prop :=
  ∀ info : Members, message.item "rate_limit_info" = .obj info → ∀ windows : Members, info.item "unifiedWindows" = .obj windows →
    ∀ name ∈ ["five_hour", "seven_day"], ∀ window : Members, windows.item name = .obj window →
      (window.item "utilization").FitsFloat ∧ (window.item "resetsAt").FitsFloat

/-- The times that a refusal may be read from fit. -/
def RefusalFits (fromtimestamp : PyFloat → Option Datetime) (message : Members) : Prop :=
  ∀ info : Members, message.item "rate_limit_info" = .obj info → (info.item "status").string = some (PyStr.ofString "rejected") →
    (info.item "resetsAt").FitsFloat ∧ (epoch fromtimestamp (info.item "resetsAt") = .ok none →
      ∀ windows : Members, info.item "unifiedWindows" = .obj windows →
        ∀ entry : Members, (windows.lookup (stringOr (info.item "rateLimitType") "unknown")).getD .null = .obj entry →
          (entry.item "resetsAt").FitsFloat)

/-- A window is read where its numbers fit. -/
theorem rateLimitWindow_returns_iff (fromtimestamp : PyFloat → Option Datetime) :
    (∃ window, rateLimitWindow fromtimestamp value = .ok window) ↔
      ∀ members : Members, value = .obj members →
        (members.item "utilization").FitsFloat ∧ (members.item "resetsAt").FitsFloat := by
  cases value with
  | obj members =>
    constructor
    · rintro ⟨window, read⟩ members same
      cases same
      obtain ⟨utilization, resets, first, second, -⟩ := rateLimitWindow_ok_iff.mp read
      exact ⟨number_ok_iff.mp ⟨_, first⟩, number_ok_iff.mp ⟨_, second⟩⟩
    · intro fits
      obtain ⟨utilization_fits, resets_fits⟩ := fits members rfl
      obtain ⟨utilization, first⟩ := number_ok_iff.mpr utilization_fits
      obtain ⟨resets, second⟩ := number_ok_iff.mpr resets_fits
      exact ⟨_, rateLimitWindow_ok_iff.mpr ⟨_, _, first, second, rfl⟩⟩
  | null | bool | int | num | nonfinite | str | arr =>
    simp [rateLimitWindow, Decoded.asObject]

/-- The windows are read, as whatever they are, where their numbers fit. -/
theorem parseRateLimits_returns_iff :
    (∃ limits, parseRateLimits fromtimestamp message now = .ok limits) ↔ NumbersFit message := by
  simp only [parseRateLimits, NumbersFit, ← asObject_eq_some]
  rcases (message.item "rate_limit_info").asObject with _ | info
  · simp
  simp only [Option.some.injEq, forall_eq']
  rcases (info.item "unifiedWindows").asObject with _ | windows
  · simp
  simp only [Option.some.injEq, forall_eq', List.forall_mem_cons, List.not_mem_nil, false_implies, implies_true, and_true,
    asObject_eq_some, ← rateLimitWindow_returns_iff fromtimestamp]
  constructor
  · rintro ⟨limits, read⟩
    obtain ⟨fiveHour, first, rest⟩ := bind_eq_ok.mp read
    obtain ⟨sevenDay, second, -⟩ := bind_eq_ok.mp rest
    exact ⟨⟨_, first⟩, ⟨_, second⟩⟩
  · rintro ⟨⟨fiveHour, first⟩, ⟨sevenDay, second⟩⟩
    exact ⟨_, bind_eq_ok.mpr ⟨fiveHour, first, bind_eq_ok.mpr ⟨sevenDay, second, rfl⟩⟩⟩

/-- The windows are read, as shares, where they fit. -/
theorem parseRateLimits_iff :
    (∃ limits, parseRateLimits fromtimestamp message now = .ok limits ∧ ∀ read, limits = some read → read.AreShares) ↔
      WindowsFit fromtimestamp message := by
  simp only [parseRateLimits, WindowsFit, ← asObject_eq_some]
  rcases (message.item "rate_limit_info").asObject with _ | info
  · simp
  simp only [Option.some.injEq, forall_eq']
  rcases (info.item "unifiedWindows").asObject with _ | windows
  · simp
  simp only [Option.some.injEq, forall_eq', List.forall_mem_cons, List.not_mem_nil, false_implies, implies_true, and_true,
    asObject_eq_some, ← rateLimitWindow_iff]
  constructor
  · rintro ⟨limits, read, shares⟩
    obtain ⟨fiveHour, first, rest⟩ := bind_eq_ok.mp read
    obtain ⟨sevenDay, second, last⟩ := bind_eq_ok.mp rest
    obtain rfl := Except.ok.inj last
    by_cases missing : fiveHour = none ∧ sevenDay = none
    · exact ⟨⟨_, first, by simp [missing.1]⟩, ⟨_, second, by simp [missing.2]⟩⟩
    · have shares := shares _ (if_neg missing)
      exact ⟨⟨_, first, fun window there => shares window (.inl there)⟩, ⟨_, second, fun window there => shares window (.inr there)⟩⟩
  · rintro ⟨⟨fiveHour, first, fiveHours⟩, ⟨sevenDay, second, sevenDays⟩⟩
    refine ⟨_, bind_eq_ok.mpr ⟨fiveHour, first, bind_eq_ok.mpr ⟨sevenDay, second, rfl⟩⟩, fun read is_read window there => ?_⟩
    split at is_read
    · cases is_read
    · cases is_read
      exact there.elim (fiveHours window) (sevenDays window)

/-- The window's own entry is read where its time fits. -/
theorem windowReset_ok_iff {window : PyStr} :
    (∃ resetsAt, windowReset fromtimestamp info window = .ok resetsAt) ↔
      ∀ windows : Members, info.item "unifiedWindows" = .obj windows →
        ∀ entry : Members, (windows.lookup window).getD .null = .obj entry → (entry.item "resetsAt").FitsFloat := by
  simp only [windowReset, ← asObject_eq_some]
  rcases (info.item "unifiedWindows").asObject with _ | windows
  · simp
  simp only [Option.some.injEq, forall_eq']
  rcases ((windows.lookup window).getD .null).asObject with _ | entry
  · simp
  · simp only [Option.some.injEq, forall_eq', epoch_ok_iff]

/-- A refusal is read where its times fit. -/
theorem parseUsageLimit_iff :
    (∃ refusal, parseUsageLimit fromtimestamp message now = .ok refusal) ↔ RefusalFits fromtimestamp message := by
  have info_of : ∀ P : Members → Prop, (∀ info : Members, message.item "rate_limit_info" = .obj info → P info) ↔
      ∀ info, (message.item "rate_limit_info").asObject = some info → P info := by
    simp only [asObject_eq_some, implies_true]
  rw [parseUsageLimit, RefusalFits, info_of]
  rcases (message.item "rate_limit_info").asObject with _ | info
  · simp
  simp only [Option.some.injEq, forall_eq']
  by_cases rejected : (info.item "status").string = some (PyStr.ofString "rejected")
  · simp only [rejected, ne_eq, not_true_eq_false, if_false, true_implies]
    constructor
    · rintro ⟨refusal, read⟩
      obtain ⟨resetsAt, first, rest⟩ := bind_eq_ok.mp read
      refine ⟨epoch_ok_iff.mp ⟨_, first⟩, fun none_there => ?_⟩
      obtain rfl := Except.ok.inj (first.symm.trans none_there)
      obtain ⟨own, second, -⟩ := bind_eq_ok.mp rest
      exact windowReset_ok_iff.mp ⟨own, second⟩
    · rintro ⟨fits, own⟩
      obtain ⟨resetsAt, first⟩ := epoch_ok_iff.mpr fits
      cases resetsAt with
      | some resetsAt => exact ⟨_, bind_eq_ok.mpr ⟨_, first, rfl⟩⟩
      | none =>
        obtain ⟨own, second⟩ := windowReset_ok_iff.mpr (own first)
        exact ⟨_, bind_eq_ok.mpr ⟨_, first, bind_eq_ok.mpr ⟨_, second, rfl⟩⟩⟩
  · simp [rejected]

end Fits

end Issuebot
