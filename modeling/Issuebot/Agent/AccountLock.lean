import Issuebot.Agent.Accounts
import Issuebot.Logic.LockedRecord

/-!
# The registry under its lock

The worker and `run-once` read and rewrite one record. Each call acts at one moment, whoever is killed in between
(`registry_serial`), so a key is answered one account for as long as its binding is spared (`binding_kept`).
-/

namespace Issuebot
set_option autoImplicit false
open Logic

/-- A call of the registry, with the pool of the settings it is made under and what it finds of the workspaces. -/
inductive RegistryCall where
  | bound (accounts : List String) (key : String)
  | busyAccounts (accounts opened : List String)
  | allocate (accounts : List String) (key : String) (busy : List String)
  | prune (accounts keep directories : List String)
deriving DecidableEq

inductive RegistryAnswer where
  | account (name : Option String)
  | accounts (names : List String)
  | pruned
deriving DecidableEq

/-- The recorded bindings, by workspace key. -/
abbrev Bindings := List (String × String)

namespace RegistryCall

/-- What `prune` leaves: the bindings whose workspace has a session or a directory. -/
def live (keep directories : List String) (bindings : Bindings) : Bindings :=
  bindings.filter fun binding => keep.contains binding.1 || directories.contains binding.1

/-- What a call makes of the recorded bindings, and its answer. The file is written only where the bindings change; it keeps
them by key, which nothing reads. -/
def serve : RegistryCall → Bindings → Bindings × RegistryAnswer
  | bound accounts key, recorded => (recorded, .account (AccountRegistry.bound ⟨recorded, fun _ => false⟩ accounts key))
  | busyAccounts accounts opened, recorded => (recorded, .accounts (AccountRegistry.busyAccounts ⟨recorded, opened.contains⟩ accounts))
  | allocate accounts key busy, recorded =>
    let registry : AccountRegistry := ⟨recorded, fun _ => false⟩
    match registry.bound accounts key, registry.allocate accounts key busy with
    | some existing, _ => (recorded, .account (some existing))
    | none, none => (recorded, .account none)
    | none, some chosen => (registry.load accounts ++ [(key, chosen)], .account (some chosen))
  | prune accounts keep directories, recorded =>
    let bindings := AccountRegistry.load ⟨recorded, fun _ => false⟩ accounts
    (if live keep directories bindings = bindings then recorded else live keep directories bindings, .pruned)

/-- The calls that take no lock. -/
def reads : RegistryCall → Bool
  | bound _ _ | busyAccounts _ _ => true
  | allocate _ _ _ | prune _ _ _ => false

/-- The pool a call is made with. -/
def pool : RegistryCall → List String
  | bound accounts _ | busyAccounts accounts _ | allocate accounts _ _ | prune accounts _ _ => accounts

/-- The key an account is asked for. -/
def key? : RegistryCall → Option String
  | bound _ key | allocate _ key _ => some key
  | busyAccounts _ _ | prune _ _ _ => none

/-- The call leaves a binding be: what may write has its account in the pool, and a sweep finds the workspace. -/
def Spares (key account : String) : RegistryCall → Prop
  | bound _ _ | busyAccounts _ _ => True
  | allocate accounts _ _ => account ∈ accounts
  | prune accounts keep directories => account ∈ accounts ∧ (key ∈ keep ∨ key ∈ directories)

instance (key account : String) (call : RegistryCall) : Decidable (call.Spares key account) := by
  cases call <;> (unfold Spares; infer_instance)

end RegistryCall

/-- The account a key is bound to, in whatever pool. -/
def Bindings.Binds (recorded : Bindings) (key account : String) : Prop :=
  recorded.find? (fun binding => binding.1 = key) = some (key, account)

/-- The record is a dictionary. -/
def Bindings.Unique (recorded : Bindings) : Prop := (recorded.map Prod.fst).Nodup

section Serve

variable {recorded bindings : Bindings} {accounts : List String} {key account : String} {call : RegistryCall}

theorem Bindings.Binds.filter {kept : String × String → Bool} (binds : recorded.Binds key account) (is_kept : kept (key, account)) :
    Bindings.Binds (recorded.filter kept) key account := by
  obtain ⟨named, before, rest, rfl, others⟩ := List.find?_eq_some_iff_append.mp binds
  refine List.find?_eq_some_iff_append.mpr ⟨named, before.filter kept, rest.filter kept, ?_, fun binding listed => ?_⟩
  · rw [List.filter_append, List.filter_cons_of_pos is_kept]
  · exact others binding (List.mem_of_mem_filter listed)

theorem Bindings.Unique.binds (unique : recorded.Unique) (listed : (key, account) ∈ recorded) : recorded.Binds key account := by
  obtain ⟨before, rest, rfl⟩ := List.append_of_mem listed
  refine List.find?_eq_some_iff_append.mpr ⟨decide_eq_true rfl, before, rest, rfl, fun binding earlier => ?_⟩
  have apart : binding.1 ≠ key := by
    rw [Bindings.Unique, List.map_append, List.nodup_append] at unique
    exact unique.2.2 _ (List.mem_map_of_mem earlier) _ List.mem_cons_self
  simpa using apart

/-- A binding to an account of the pool is one that is loaded. -/
theorem Bindings.Binds.load (binds : recorded.Binds key account) (pooled : account ∈ accounts) {isOpen : String → Bool} :
    Bindings.Binds (AccountRegistry.load ⟨recorded, isOpen⟩ accounts) key account := binds.filter (by simpa using pooled)

theorem Bindings.Binds.bound (binds : recorded.Binds key account) (pooled : account ∈ accounts) {isOpen : String → Bool} :
    AccountRegistry.bound ⟨recorded, isOpen⟩ accounts key = some account := by
  have loads : Bindings.Binds (AccountRegistry.load ⟨recorded, isOpen⟩ accounts) key account := binds.load pooled
  rw [AccountRegistry.bound, loads]
  rfl

theorem Bindings.Unique.of_bound (unique : recorded.Unique) {isOpen : String → Bool}
    (found : AccountRegistry.bound ⟨recorded, isOpen⟩ accounts key = some account) : recorded.Binds key account := by
  obtain ⟨⟨named, held⟩, is_binding, rfl⟩ := Option.map_eq_some_iff.mp found
  have found_key := List.find?_some is_binding
  have is_key : named = key := of_decide_eq_true found_key
  subst is_key
  exact unique.binds (List.mem_of_mem_filter (List.mem_of_find?_eq_some is_binding))

theorem AccountRegistry.bound_eq_none {registry : AccountRegistry} (none : registry.bound accounts key = none) :
    key ∉ (registry.load accounts).map Prod.fst := by
  intro listed
  obtain ⟨binding, loaded, rfl⟩ := List.mem_map.mp listed
  have missing := List.find?_eq_none.mp (Option.map_eq_none_iff.mp none) binding loaded
  exact missing (decide_eq_true rfl)

/-- What a call that spares a binding makes of it. -/
theorem RegistryCall.serve_binds (binds : recorded.Binds key account) (spares : call.Spares key account) :
    (call.serve recorded).1.Binds key account := by
  cases call with
  | bound accounts other => exact binds
  | busyAccounts accounts opened => exact binds
  | allocate accounts other busy =>
    simp only [serve]
    split
    next => exact binds
    next => exact binds
    next chosen _ _ =>
      have loads : Bindings.Binds (AccountRegistry.load ⟨recorded, fun _ => false⟩ accounts) key account := binds.load spares
      exact List.find?_append.trans (by rw [loads]; rfl)
  | prune accounts keep directories =>
    have loads : Bindings.Binds (AccountRegistry.load ⟨recorded, fun _ => false⟩ accounts) key account := binds.load spares.1
    simp only [serve]
    split
    next => exact binds
    next => exact loads.filter (by simpa using spares.2)

theorem RegistryCall.serve_unique (unique : recorded.Unique) : Bindings.Unique (call.serve recorded).1 := by
  have filtered {kept : String × String → Bool} {bindings : Bindings} (unique : bindings.Unique) :
      Bindings.Unique (bindings.filter kept) := unique.sublist (List.filter_sublist.map Prod.fst)
  cases call with
  | bound accounts key => exact unique
  | busyAccounts accounts opened => exact unique
  | allocate accounts key busy =>
    simp only [serve]
    split
    next => exact unique
    next => exact unique
    next chosen unbound _ =>
      have apart := AccountRegistry.bound_eq_none unbound
      rw [Bindings.Unique, List.map_append, List.nodup_append]
      refine ⟨filtered unique, List.pairwise_singleton _ _, fun named listed other only => ?_⟩
      rw [List.mem_singleton.mp only]
      intro (same : named = key)
      exact apart (same ▸ listed)
  | prune accounts keep directories =>
    simp only [serve]
    split
    next => exact unique
    next => exact filtered (filtered unique)

/-- The account a call answers for a key is then the key's. -/
theorem RegistryCall.binds_of_answer (unique : recorded.Unique) (asked : call.key? = some key)
    (answered : (call.serve recorded).2 = .account (some account)) : (call.serve recorded).1.Binds key account := by
  cases call with
  | bound accounts named =>
    cases asked
    exact unique.of_bound (RegistryAnswer.account.inj answered)
  | busyAccounts accounts opened => cases asked
  | allocate accounts named busy =>
    cases asked
    simp only [serve] at answered ⊢
    split at answered
    next found =>
      cases answered
      exact unique.of_bound found
    next => cases answered
    next chosen unbound _ =>
      cases answered
      have apart := Option.map_eq_none_iff.mp unbound
      have put : List.find? (fun binding => binding.1 = key) [(key, account)] = some (key, account) :=
        List.find?_cons_of_pos (decide_eq_true rfl)
      exact List.find?_append.trans (by rw [apart, put]; rfl)
  | prune accounts keep directories => cases asked

/-- A bound key is answered its account. -/
theorem RegistryCall.answer_of_binds (binds : recorded.Binds key account) (asked : call.key? = some key)
    (pooled : account ∈ call.pool) : (call.serve recorded).2 = .account (some account) := by
  cases call with
  | bound accounts named =>
    cases asked
    exact congrArg RegistryAnswer.account (binds.bound pooled)
  | busyAccounts accounts opened => cases asked
  | allocate accounts named busy =>
    cases asked
    have found : AccountRegistry.bound ⟨recorded, fun _ => false⟩ accounts key = some account := binds.bound pooled
    simp only [serve, found]
  | prune accounts keep directories => cases asked

end Serve

section Runs

variable {Process : Type} [DecidableEq Process] {recorded : Bindings}
  {s : Locked.Shared Process Bindings RegistryCall RegistryAnswer} {events : List (Locked.Event Process RegistryCall)}

theorem RegistryCall.reads_quiet (call : RegistryCall) (recorded : Bindings) (reads : call.reads = true) :
    (call.serve recorded).1 = recorded := by
  cases call with
  | bound accounts key => rfl
  | busyAccounts accounts opened => rfl
  | allocate accounts key busy => cases reads
  | prune accounts keep directories => cases reads

/-- **Every call acts at one moment**, and at most one process is inside. -/
theorem registry_serial
    (run : Steps (fun s event s' => Locked.step RegistryCall.serve RegistryCall.reads s event = some s') (Locked.free recorded) events s) :
    s.record = Locked.after RegistryCall.serve recorded s.done ∧ Locked.Answered RegistryCall.serve recorded s.done ∧
      ∀ first second, (s.place first).inside → (s.place second).inside → first = second := by
  have serial := Locked.steps_serial RegistryCall.reads_quiet run Locked.free_serial
  exact ⟨serial.record, serial.answered, fun _ _ => serial.exclusive⟩

/-- **A key that has been answered an account is answered it again**, by whichever process and call, while what acts in between
spares the binding. -/
theorem binding_kept
    (run : Steps (fun s event s' => Locked.step RegistryCall.serve RegistryCall.reads s event = some s') (Locked.free recorded) events s)
    (unique : recorded.Unique) {before between rest : List (Locked.Done Process RegistryCall RegistryAnswer)}
    {first second : Locked.Done Process RegistryCall RegistryAnswer} (acted : s.done = before ++ first :: (between ++ second :: rest))
    {key account : String} (asked : first.op.key? = some key) (answered : first.answer = .account (some account))
    (spared : ∀ d ∈ between, d.op.Spares key account) (again : second.op.key? = some key) (pooled : account ∈ second.op.pool) :
    second.answer = .account (some account) := by
  have serial := Locked.steps_serial RegistryCall.reads_quiet run Locked.free_serial
  have inOrder := acted ▸ serial.answered
  obtain ⟨-, is_first, inOrder⟩ := Locked.answered_append.mp inOrder
  obtain ⟨-, is_second, -⟩ := Locked.answered_append.mp inOrder
  have kept : Bindings.Unique (Locked.after RegistryCall.serve recorded before) :=
    Locked.after_keeps unique fun _ _ _ => RegistryCall.serve_unique
  have binds := RegistryCall.binds_of_answer kept asked (is_first.symm.trans answered)
  have still := Locked.after_keeps (P := fun recorded => Bindings.Binds recorded key account) binds
    fun d listed _ held => RegistryCall.serve_binds held (spared d listed)
  exact is_second.trans (RegistryCall.answer_of_binds still again pooled)

/-- The worker binds a key and is killed inside, `run-once` binds another, and its sweep keeps both. -/
def besideRunOnce : List (Locked.Event Bool RegistryCall) :=
  [.begin false (.allocate ["agent-a", "agent-b"] "7" []), .begin true (.allocate ["agent-a", "agent-b"] "8" ["agent-a"]),
    .lock false, .load false, .store false, .kill false, .lock true, .load true, .store true, .unlock true,
    .begin true (.prune ["agent-a", "agent-b"] ["8"] ["7"]), .lock true, .load true, .store true,
    .read false (.bound ["agent-a", "agent-b"] "7")]

/-- What some events leave of a record that is not there yet, where they happen. -/
def leftAfter (events : List (Locked.Event Bool RegistryCall)) : Locked.Shared Bool Bindings RegistryCall RegistryAnswer :=
  (execute (Locked.step RegistryCall.serve RegistryCall.reads) (Locked.free []) events).getD (Locked.free [])

theorem leftAfter_runs {events : List (Locked.Event Bool RegistryCall)}
    (happen : (execute (Locked.step RegistryCall.serve RegistryCall.reads) (Locked.free []) events).isSome) :
    Steps (fun s event s' => Locked.step RegistryCall.serve RegistryCall.reads s event = some s') (Locked.free []) events
      (leftAfter events) :=
  .of_isSome happen

theorem serial_beside_run_once : (leftAfter besideRunOnce).record = [("7", "agent-a"), ("8", "agent-b")] ∧
    ((leftAfter besideRunOnce).record = Locked.after RegistryCall.serve [] (leftAfter besideRunOnce).done ∧
      Locked.Answered RegistryCall.serve [] (leftAfter besideRunOnce).done ∧
      ∀ first second, ((leftAfter besideRunOnce).place first).inside → ((leftAfter besideRunOnce).place second).inside →
        first = second) :=
  ⟨by decide +kernel, registry_serial (leftAfter_runs (by decide +kernel))⟩

/-- The account the killed allocation put in the record. -/
theorem bound_after_kill : (leftAfter besideRunOnce).done.getLast?.map Locked.Done.answer = some (.account (some "agent-a")) := by
  have acted : (leftAfter besideRunOnce).done = [] ++ ⟨false, .allocate ["agent-a", "agent-b"] "7" [], .account (some "agent-a")⟩ ::
      ([⟨true, .allocate ["agent-a", "agent-b"] "8" ["agent-a"], .account (some "agent-b")⟩,
        ⟨true, .prune ["agent-a", "agent-b"] ["8"] ["7"], .pruned⟩] ++
        ⟨false, .bound ["agent-a", "agent-b"] "7", .account (some "agent-a")⟩ :: []) := by decide +kernel
  have again := binding_kept (leftAfter_runs (by decide +kernel)) List.nodup_nil acted rfl rfl (by decide) rfl (by decide)
  rw [acted]
  exact congrArg some again

end Runs

end Issuebot
