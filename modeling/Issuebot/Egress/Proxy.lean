import Issuebot.Egress.Rules
import Issuebot.Logic.Census
import Issuebot.Logic.Runs

/-!
# The egress proxy

Every client connection is a coroutine of its own, and the coroutines interleave at their awaits. A
`Phase` is the await a connection stands at, and an `Event` is what ends one. `_accepted` is checked
and raised in one stretch, without an await between; `_open` is checked before the upstream
connection is awaited and raised after it, so the connections awaiting theirs have all been checked
against the same count (`Roomy`).
-/

namespace Issuebot.Egress
set_option autoImplicit false
open Logic

/-- `_response` -/
structure Response where
  status : Nat
  reason : String
  body : String
  deriving DecidableEq, Repr

/-- What `readuntil` brings under its timeout; `raised` is any other exception, or a cancellation. -/
inductive Read where
  | head (bytes : List UInt8)
  | timedOut
  | tooLarge
  | truncated
  | raised

/-- How `open_connection` ends under its timeout. -/
inductive Dial where
  | connected
  | failed
  | raised

/-- The await a connection stands at. -/
inductive Phase where
  /-- Turned away at the accept: the answer, and then the close. -/
  | refusing (response : Response)
  | reading
  | replying (response : Response)
  | connecting (host : String) (port : Nat)
  | tunnelling (host : String) (port : Nat)
  | closingUpstream
  | closing
  | ended
  deriving DecidableEq, Repr

namespace Phase

/-- `_serve` has begun and not ended. -/
def isServed : Phase → Bool
  | reading | replying _ | connecting _ _ | tunnelling _ _ | closingUpstream => true
  | refusing _ | closing | ended => false

/-- Its tunnel is established. -/
def isTunnel : Phase → Bool
  | tunnelling _ _ => true
  | _ => false

/-- It has passed the tunnel ceiling, and its tunnel is established or may yet be. -/
def isPledged : Phase → Bool
  | connecting _ _ | tunnelling _ _ => true
  | _ => false

end Phase

/-- What a proxy is made with. -/
structure ProxySettings where
  rules : List Rule
  maxTunnels : Nat
  maxConnections : Nat
  compressed : String → Option String

/-- A running proxy: its counters, and every connection there has been, by arrival. -/
structure Proxy where
  opened : Int
  accepted : Int
  saturated : Bool
  connections : List Phase

/-- What ends an await, by the connection it is of. -/
inductive Event where
  | arrived
  | read (i : Nat) (read : Read)
  | dialled (i : Nat) (dial : Dial)
  /-- The relay is over, or raised. -/
  | relayed (i : Nat)
  | upstreamClosed (i : Nat)
  | replied (i : Nat)
  | closed (i : Nat)

variable (settings : ProxySettings)

/-- What `_serve` does with what it has read. -/
inductive Answer where
  | reply (response : Response)
  | connect (host : String) (port : Nat)
  | leave
  deriving DecidableEq, Repr

/-- The refusal of a method. -/
def methodNotAllowed (method : List Char) : Response where
  status := 405
  reason := "Method Not Allowed"
  body := String.ofList ((method.flatMap upper).take 16) ++
    " is not proxied; this proxy speaks CONNECT only, so egress is HTTPS only\n"

/-- A `CONNECT` request with its destination: the tunnel ceiling, and then the allow-list. -/
def admitTarget (opened : Int) (host : String) (port : Nat) : Answer :=
  if (settings.maxTunnels : Int) ≤ opened then
    .reply ⟨503, "Service Unavailable",
      "the proxy is already relaying " ++ toString settings.maxTunnels ++ " connections\n"⟩
  else if !allowed host port settings.rules then
    .reply ⟨403, "Forbidden", host ++ ":" ++ toString port ++
      " is not on the egress allow-list; add it to ISSUEBOT_EGRESS_ALLOW in the deployment's .env to admit it\n"⟩
  else .connect host port

/-- `_serve`, up to its next await. -/
def serveRead (opened : Int) : Read → Answer
  | .timedOut => .reply ⟨408, "Request Timeout", "no request in time\n"⟩
  | .tooLarge => .reply ⟨431, "Request Header Fields Too Large", "request head too large\n"⟩
  | .truncated => .leave
  | .raised => .leave
  | .head bytes =>
    match words (requestLine (latin1 bytes)) with
    | [method, target, _] =>
      if method.flatMap upper ≠ "CONNECT".toList then .reply (methodNotAllowed method)
      else match parseConnectTarget settings.compressed target with
      | .error _ => .leave
      | .ok none => .reply ⟨400, "Bad Request", "not a host:port target\n"⟩
      | .ok (some (host, port)) => admitTarget settings opened host port
    | _ => .reply ⟨400, "Bad Request", "not a request line\n"⟩

namespace Proxy

/-- A proxy before its first connection. -/
def fresh : Proxy where
  opened := 0
  accepted := 0
  saturated := false
  connections := []

def move (proxy : Proxy) (i : Nat) (phase : Phase) : Proxy :=
  { proxy with connections := proxy.connections.set i phase }

/-- The end of `_serve`, however it ends. -/
def release (proxy : Proxy) (i : Nat) : Proxy := { proxy.move i .closing with accepted := proxy.accepted - 1 }

/-- `handle`, up to its first await. -/
def arrive (proxy : Proxy) : Proxy :=
  if (settings.maxConnections : Int) ≤ proxy.accepted then
    { proxy with
      saturated := true
      connections := proxy.connections ++ [.refusing ⟨503, "Service Unavailable",
        "the proxy is already holding " ++ toString settings.maxConnections ++ " connections\n"⟩] }
  else
    { proxy with
      saturated := proxy.saturated && !decide (proxy.accepted < settings.maxConnections * 3 / 4)
      accepted := proxy.accepted + 1
      connections := proxy.connections ++ [.reading] }

/-- One await ends; `none` where no connection stands at it. -/
def step (proxy : Proxy) : Event → Option Proxy
  | .arrived => some (proxy.arrive settings)
  | .read i read =>
    match proxy.connections[i]? with
    | some .reading =>
      match serveRead settings proxy.opened read with
      | .reply response => some (proxy.move i (.replying response))
      | .connect host port => some (proxy.move i (.connecting host port))
      | .leave => some (proxy.release i)
    | _ => none
  | .dialled i dial =>
    match proxy.connections[i]? with
    | some (.connecting host port) =>
      match dial with
      | .connected => some { proxy.move i (.tunnelling host port) with opened := proxy.opened + 1 }
      | .failed =>
        some (proxy.move i (.replying ⟨502, "Bad Gateway", "cannot reach " ++ host ++ ":" ++ toString port ++ "\n"⟩))
      | .raised => some (proxy.release i)
    | _ => none
  | .relayed i =>
    match proxy.connections[i]? with
    | some (.tunnelling _ _) => some { proxy.move i .closingUpstream with opened := proxy.opened - 1 }
    | _ => none
  | .upstreamClosed i =>
    match proxy.connections[i]? with
    | some .closingUpstream => some (proxy.release i)
    | _ => none
  | .replied i =>
    match proxy.connections[i]? with
    | some (.replying _) => some (proxy.release i)
    | some (.refusing _) => some (proxy.move i .closing)
    | _ => none
  | .closed i =>
    match proxy.connections[i]? with
    | some .closing => some (proxy.move i .ended)
    | _ => none

/-- The tunnels established. -/
def tunnels (proxy : Proxy) : Int := census Phase.isTunnel proxy.connections

/-- The connections being served. -/
def served (proxy : Proxy) : Int := census Phase.isServed proxy.connections

/-- The tunnels established, and those that may yet be. -/
def pledged (proxy : Proxy) : Int := census Phase.isPledged proxy.connections

end Proxy

/-- A destination a connection dials or relays to is on the allow-list. -/
def Phase.Admitted (rules : List Rule) : Phase → Prop
  | .connecting host port | .tunnelling host port => allowed host port rules
  | _ => True

namespace Proxy

section Moves

variable {settings : ProxySettings} {proxy proxy' : Proxy} {event : Event} {i : Nat} {a b : Phase}

/-- Whether the event sends a request on to its destination. -/
def takesUp (settings : ProxySettings) (proxy : Proxy) : Event → Bool
  | .read _ read =>
    match serveRead settings proxy.opened read with
    | .connect _ _ => true
    | _ => false
  | _ => false

/-- Connection `i` goes from `a` to `b`, and the counters go with it. -/
structure Shift (settings : ProxySettings) (event : Event) (proxy proxy' : Proxy) (i : Nat) (a b : Phase) : Prop where
  found : proxy.connections[i]? = some a
  connections : proxy'.connections = proxy.connections.set i b
  opened : proxy'.opened = proxy.opened - weight Phase.isTunnel a + weight Phase.isTunnel b
  accepted : proxy'.accepted = proxy.accepted - weight Phase.isServed a + weight Phase.isServed b
  served : b.isServed = true → a.isServed = true
  pledged : b.isPledged = true → a.isPledged = true ∨ takesUp settings proxy event = true
  admitted : a.Admitted settings.rules → b.Admitted settings.rules

/-- A served connection that has no tunnel leaves. -/
theorem release_shift (found : proxy.connections[i]? = some a) (serving : a.isServed = true) (no_tunnel : a.isTunnel = false) :
    Shift settings event proxy (proxy.release i) i a .closing where
  found := found
  connections := rfl
  opened := by
    rw [weight_of_not no_tunnel, weight_of_not rfl, Int.sub_zero, Int.add_zero]
    rfl
  accepted := by
    rw [weight_of_mem serving, weight_of_not rfl, Int.add_zero]
    rfl
  served := nofun
  pledged := nofun
  admitted := fun _ => trivial

/-- A connection moves, and neither counter does. -/
theorem move_shift (found : proxy.connections[i]? = some a) (tunnel : b.isTunnel = a.isTunnel) (serving : b.isServed = a.isServed)
    (pledged : b.isPledged = true → a.isPledged = true ∨ takesUp settings proxy event = true)
    (admitted : a.Admitted settings.rules → b.Admitted settings.rules) :
    Shift settings event proxy (proxy.move i b) i a b where
  found := found
  connections := rfl
  opened := by simp [move, weight, tunnel]
  accepted := by simp [move, weight, serving]
  served := fun is_served => serving ▸ is_served
  pledged := pledged
  admitted := admitted

/-- A destination is taken up only past the allow-list. -/
theorem serveRead_allowed {opened : Int} {read : Read} {host : String} {port : Nat}
    (answer : serveRead settings opened read = .connect host port) : allowed host port settings.rules := by
  have admitted : ∀ host' port', admitTarget settings opened host' port' = .connect host port → allowed host port settings.rules := by
    intro host' port' answer
    unfold admitTarget at answer
    split at answer
    · cases answer
    · split at answer
      · cases answer
      next listed =>
        cases answer
        simpa using listed
  cases read with
  | head bytes =>
    simp only [serveRead] at answer
    split at answer
    · split at answer
      · cases answer
      · split at answer
        · cases answer
        · cases answer
        · exact admitted _ _ answer
    · cases answer
  | timedOut => cases answer
  | tooLarge => cases answer
  | truncated => cases answer
  | raised => cases answer

/-- Everything an event can do. -/
theorem step_cases (stepped : proxy.step settings event = some proxy') :
    event = .arrived ∧ proxy' = proxy.arrive settings ∨ ∃ i a b, Shift settings event proxy proxy' i a b := by
  cases event with
  | arrived => exact .inl ⟨rfl, (Option.some.inj stepped).symm⟩
  | read i read =>
    right
    simp only [step] at stepped
    split at stepped
    next found =>
      split at stepped <;> cases stepped
      next response answer => exact ⟨i, _, _, move_shift found rfl rfl (fun pledged => by cases pledged) fun _ => trivial⟩
      next host port answer =>
        exact ⟨i, _, _, move_shift found rfl rfl (fun _ => .inr (by simp only [takesUp, answer]))
          fun _ => serveRead_allowed answer⟩
      · exact ⟨i, _, _, release_shift found rfl rfl⟩
    · cases stepped
  | dialled i dial =>
    right
    simp only [step] at stepped
    split at stepped
    next host port found =>
      cases dial <;> cases stepped
      · exact ⟨i, .connecting host port, .tunnelling host port, {
          found
          connections := rfl
          opened := by simp [weight, Phase.isTunnel]
          accepted := by simp [move, weight, Phase.isServed]
          served := fun _ => rfl
          pledged := fun _ => .inl rfl
          admitted := id }⟩
      · exact ⟨i, _, _, move_shift found rfl rfl (fun pledged => by cases pledged) fun _ => trivial⟩
      · exact ⟨i, _, _, release_shift found rfl rfl⟩
    · cases stepped
  | relayed i =>
    right
    simp only [step] at stepped
    split at stepped <;> cases stepped
    next host port found =>
      exact ⟨i, .tunnelling host port, .closingUpstream, {
        found
        connections := rfl
        opened := by simp [weight, Phase.isTunnel]
        accepted := by simp [move, weight, Phase.isServed]
        served := fun _ => rfl
        pledged := fun pledged => by cases pledged
        admitted := fun _ => trivial }⟩
  | upstreamClosed i =>
    right
    simp only [step] at stepped
    split at stepped <;> cases stepped
    next found => exact ⟨i, _, _, release_shift found rfl rfl⟩
  | replied i =>
    right
    simp only [step] at stepped
    split at stepped <;> cases stepped
    next found => exact ⟨i, _, _, release_shift found rfl rfl⟩
    next found => exact ⟨i, _, _, move_shift found rfl rfl (fun pledged => by cases pledged) fun _ => trivial⟩
  | closed i =>
    right
    simp only [step] at stepped
    split at stepped <;> cases stepped
    next found => exact ⟨i, _, _, move_shift found rfl rfl (fun pledged => by cases pledged) fun _ => trivial⟩

end Moves

section Runs

variable {settings : ProxySettings} {proxy proxy' : Proxy} {event : Event} {events : List Event}

def Step (settings : ProxySettings) (proxy : Proxy) (event : Event) (proxy' : Proxy) : Prop :=
  proxy.step settings event = some proxy'

/-- What holds however the connections interleave. -/
structure Sound (settings : ProxySettings) (proxy : Proxy) : Prop where
  opened : proxy.opened = proxy.tunnels
  accepted : proxy.accepted = proxy.served
  ceiling : proxy.served ≤ settings.maxConnections
  admitted : ∀ phase ∈ proxy.connections, phase.Admitted settings.rules

theorem fresh_sound : Sound settings fresh where
  opened := rfl
  accepted := rfl
  ceiling := Int.natCast_nonneg _
  admitted := nofun

theorem Sound.arrive (sound : Sound settings proxy) : Sound settings (proxy.arrive settings) := by
  obtain ⟨opened, accepted, ceiling, admitted⟩ := sound
  have joined : ∀ phase : Phase, phase.Admitted settings.rules →
      ∀ other ∈ proxy.connections ++ [phase], other.Admitted settings.rules := by
    intro phase here other mem
    rcases List.mem_append.mp mem with old | new
    · exact admitted other old
    · rwa [List.mem_singleton.mp new]
  unfold Proxy.arrive
  unfold tunnels at opened
  unfold served at accepted ceiling
  split
  · refine ⟨?_, ?_, ?_, joined _ trivial⟩
    · show proxy.opened = census _ _
      rw [census_arrival, weight_of_not rfl, opened, Int.add_zero]
    · show proxy.accepted = census _ _
      rw [census_arrival, weight_of_not rfl, accepted, Int.add_zero]
    · show census _ _ ≤ _
      rwa [census_arrival, weight_of_not rfl, Int.add_zero]
  next room =>
    refine ⟨?_, ?_, ?_, joined _ trivial⟩
    · show proxy.opened = census _ _
      rw [census_arrival, weight_of_not rfl, opened, Int.add_zero]
    · show proxy.accepted + 1 = census _ _
      rw [census_arrival, weight_of_mem rfl, accepted]
    · show census _ _ ≤ _
      rw [census_arrival, weight_of_mem rfl]
      omega

theorem Sound.shift {i : Nat} {a b : Phase} (sound : Sound settings proxy) (shift : Shift settings event proxy proxy' i a b) :
    Sound settings proxy' := by
  obtain ⟨opened, accepted, ceiling, admitted⟩ := sound
  have tunnels : proxy'.tunnels = proxy.tunnels - weight Phase.isTunnel a + weight Phase.isTunnel b := by
    unfold Proxy.tunnels
    rw [shift.connections, census_set shift.found]
  have served : proxy'.served = proxy.served - weight Phase.isServed a + weight Phase.isServed b := by
    unfold Proxy.served
    rw [shift.connections, census_set shift.found]
  refine ⟨?_, ?_, ?_, ?_⟩
  · rw [shift.opened, tunnels, opened]
  · rw [shift.accepted, served, accepted]
  · have fewer : weight Phase.isServed b ≤ weight Phase.isServed a := by
      cases serving : b.isServed with
      | false => exact weight_of_not serving ▸ weight_nonneg
      | true => exact Int.le_of_eq ((weight_of_mem serving).trans (weight_of_mem (shift.served serving)).symm)
    omega
  · intro phase mem
    rw [shift.connections] at mem
    rcases List.mem_or_eq_of_mem_set mem with old | rfl
    · exact admitted phase old
    · exact shift.admitted (admitted a (List.mem_of_getElem? shift.found))

/-- Whatever happens to the connections, the counters are true. -/
theorem step_sound (stepped : Step settings proxy event proxy') (sound : Sound settings proxy) : Sound settings proxy' := by
  rcases step_cases stepped with ⟨-, rfl⟩ | ⟨i, a, b, shift⟩
  · exact sound.arrive
  · exact sound.shift shift

theorem reached_sound (run : Steps (Step settings) fresh events proxy) : Sound settings proxy :=
  run.invariant (fun _ _ _ => step_sound) fresh_sound

/-- A request goes on to its destination only while the tunnels established, and those that may
yet be, are fewer than the ceiling. -/
def Roomy (settings : ProxySettings) (proxy : Proxy) (event : Event) : Prop :=
  takesUp settings proxy event = true → proxy.pledged < settings.maxTunnels

instance : Decidable (Roomy settings proxy event) := inferInstanceAs (Decidable (_ → _))

def RoomyStep (settings : ProxySettings) (proxy : Proxy) (event : Event) (proxy' : Proxy) : Prop :=
  Step settings proxy event proxy' ∧ Roomy settings proxy event

theorem step_pledged (stepped : RoomyStep settings proxy event proxy') (within : proxy.pledged ≤ settings.maxTunnels) :
    proxy'.pledged ≤ settings.maxTunnels := by
  obtain ⟨stepped, roomy⟩ := stepped
  rcases step_cases stepped with ⟨-, rfl⟩ | ⟨i, a, b, shift⟩
  · have same : (proxy.arrive settings).pledged = proxy.pledged := by
      unfold arrive pledged
      split
      · rw [census_arrival, weight_of_not rfl, Int.add_zero]
      · rw [census_arrival, weight_of_not rfl, Int.add_zero]
    rwa [same]
  · have moved : proxy'.pledged = proxy.pledged - weight Phase.isPledged a + weight Phase.isPledged b := by
      unfold pledged
      rw [shift.connections, census_set shift.found]
    have before : 0 ≤ weight Phase.isPledged a := weight_nonneg
    cases pledges : b.isPledged with
    | false =>
      rw [weight_of_not pledges] at moved
      omega
    | true =>
      rw [weight_of_mem pledges] at moved
      rcases shift.pledged pledges with already | taken
      · rw [weight_of_mem already] at moved
        omega
      · have room := roomy taken
        omega

theorem tunnels_le_pledged : proxy.tunnels ≤ proxy.pledged := by
  apply census_mono
  intro phase tunnel
  cases phase <;> cases tunnel
  rfl

/-- A proxy overcommitted by its checks exceeds its ceiling if the upstreams all come up. -/
theorem pledges_come_up (proxy : Proxy) :
    ∃ events proxy', Steps (Step settings) proxy events proxy' ∧ proxy'.tunnels = proxy.pledged := by
  induction gap : (proxy.pledged - proxy.tunnels).toNat using Nat.strongRecOn generalizing proxy with
  | _ gap ih =>
    by_cases waiting : ∃ (i : Nat) (host : String) (port : Nat), proxy.connections[i]? = some (.connecting host port)
    · obtain ⟨i, host, port, found⟩ := waiting
      let up : Proxy := { proxy.move i (.tunnelling host port) with opened := proxy.opened + 1 }
      have stepped : Step settings proxy (.dialled i .connected) up := by
        simp only [Step, step, found]
        rfl
      have pledged : up.pledged = proxy.pledged := by
        show census _ (proxy.connections.set i _) = _
        rw [census_set found, weight_of_mem rfl, weight_of_mem rfl, Int.sub_add_cancel]
        rfl
      have tunnels : up.tunnels = proxy.tunnels + 1 := by
        show census _ (proxy.connections.set i _) = _
        rw [census_set found, weight_of_not rfl, weight_of_mem rfl, Int.sub_zero]
        rfl
      have below : up.tunnels ≤ up.pledged := tunnels_le_pledged
      obtain ⟨events, proxy', run, all⟩ := ih _ (by omega) up rfl
      exact ⟨_, proxy', .cons stepped run, all.trans pledged⟩
    · refine ⟨[], proxy, .nil _, ?_⟩
      unfold tunnels pledged census
      congr 1
      apply List.countP_congr
      intro phase mem
      obtain ⟨i, found⟩ := List.mem_iff_getElem?.mp mem
      cases phase with
      | connecting host port => exact absurd ⟨i, host, port, found⟩ waiting
      | _ => rfl

/-- However the connections interleave, if every request goes on with room for its tunnel, neither
ceiling is exceeded, the counters are true, and every tunnel is to a destination on the list. -/
theorem ceilings_hold (run : Steps (RoomyStep settings) fresh events proxy) :
    proxy.tunnels ≤ settings.maxTunnels ∧ proxy.served ≤ settings.maxConnections ∧
      proxy.opened = proxy.tunnels ∧ proxy.accepted = proxy.served ∧
      (∀ host port, .tunnelling host port ∈ proxy.connections → allowed host port settings.rules) ∧
      ((∀ phase ∈ proxy.connections, phase = .ended) → proxy.opened = 0 ∧ proxy.accepted = 0) := by
  obtain ⟨opened, accepted, ceiling, admitted⟩ := reached_sound (run.mono fun _ _ _ stepped => stepped.1)
  have each : ∀ s event s', RoomyStep settings s event s' → s.pledged ≤ settings.maxTunnels → s'.pledged ≤ settings.maxTunnels :=
    fun _ _ _ => step_pledged
  have keeps := Steps.invariant each run
  have within : proxy.pledged ≤ settings.maxTunnels := keeps (Int.natCast_nonneg _)
  refine ⟨Int.le_trans tunnels_le_pledged within, ceiling, opened, accepted, ?_, ?_⟩
  · intro host port mem
    exact admitted _ mem
  · intro allEnded
    constructor
    · exact opened.trans (census_eq_zero fun phase mem => allEnded phase mem ▸ rfl)
    · exact accepted.trans (census_eq_zero fun phase mem => allEnded phase mem ▸ rfl)

/-- A proxy of one tunnel and four connections. -/
def oneTunnel : ProxySettings where
  rules := [⟨"github.com", 443, false⟩]
  maxTunnels := 1
  maxConnections := 4
  compressed _ := none

def connectGitHub : Read := .head ("CONNECT github.com:443 HTTP/1.1\r\n\r\n".toList.map fun c => UInt8.ofNat c.toNat)

/-- One request, from its arrival to the end of its tunnel. -/
def oneRequest : List Event :=
  [.arrived, .read 0 connectGitHub, .dialled 0 .connected, .relayed 0, .upstreamClosed 0, .closed 0]

theorem one_tunnel_comes_and_goes :
    ∃ proxy, Steps (RoomyStep oneTunnel) fresh oneRequest proxy ∧ proxy.opened = 0 ∧ proxy.accepted = 0 := by
  let roomy (proxy : Proxy) (event : Event) : Option Proxy :=
    if Roomy oneTunnel proxy event then proxy.step oneTunnel event else none
  have ran : (execute roomy fresh oneRequest).map connections = some [.ended] := by decide +kernel
  obtain ⟨proxy, executed, allEnded⟩ := Option.map_eq_some_iff.mp ran
  have run : Steps (RoomyStep oneTunnel) fresh oneRequest proxy := by
    apply (Steps.of_execute executed).mono
    intro proxy event proxy' stepped
    obtain ⟨room, stepped⟩ := Option.ite_none_right_eq_some.mp stepped
    exact ⟨stepped, room⟩
  have all : ∀ phase ∈ proxy.connections, phase = .ended := by simp [allEnded]
  exact ⟨proxy, run, (ceilings_hold run).2.2.2.2.2 all⟩

/-- Two requests pass the check before either upstream is connected. -/
theorem two_tunnels_where_one_is_the_ceiling :
    ∃ proxy, Steps (Step oneTunnel) fresh [.arrived, .arrived, .read 0 connectGitHub, .read 1 connectGitHub,
      .dialled 0 .connected, .dialled 1 .connected] proxy ∧ ¬ proxy.tunnels ≤ oneTunnel.maxTunnels := by
  have ran : ((execute (step oneTunnel) fresh [.arrived, .arrived, .read 0 connectGitHub, .read 1 connectGitHub,
      .dialled 0 .connected, .dialled 1 .connected]).map tunnels) = some 2 := by decide +kernel
  obtain ⟨proxy, executed, two⟩ := Option.map_eq_some_iff.mp ran
  refine ⟨proxy, .of_execute executed, ?_⟩
  rw [two]
  decide

end Runs

end Proxy
end Issuebot.Egress
