import GestureSuite.Soundness.Connection.Ownership

/-! # What a failed connect leaves behind

The `finally` block of `ConnectAsync` releases the gate and nothing else. A scan or an opening that fails
leaves the client as its `DisconnectCoreAsync` left it. From the attached device on, every exception leaves
the device open, and whatever was subscribed by then goes on delivering until the next teardown.
-/

namespace GestureSuite.Connection

/-- The call has attached the device and is setting up the connection. -/
def Pc.attaching : Pc → Bool
  | .discovering | .enablingStatus | .enablingImu | .readingStatus | .readingImu => true
  | _ => false

/-- Where a teardown can stop. -/
def Pc.tearsDown : Pc → Bool
  | .disablingStatus _ | .disablingImu _ | .scanning | .returned .disconnect (.ok ()) => true
  | _ => false

private theorem inside_of_attaching {pc : Pc} (attaching : pc.attaching = true) : pc.inside = true := by
  cases pc <;> simp_all [Pc.attaching, Pc.inside]

section Device

variable {c : Client} {call : ℕ}

/-- While the connection is set up, no piece of code lets go of the device. -/
private theorem resume_device {pc : Pc} (attaching : pc.attaching = true) {outcome : Outcome} {result : Client × Pc}
    (resumed : resume c call pc outcome = some result) : result.1.device = c.device := by
  cases pc <;> simp only [Pc.attaching, Bool.false_eq_true] at attaching <;> cases outcome <;>
    simp only [resume, Option.some.injEq, reduceCtorEq] at resumed <;> subst result
  all_goals first
    | rfl
    | exact (enableStatus_keeps _ call).device
    | exact (enableImu_keeps c call).device
    | exact (readStatus_keeps c call).device
    | exact (readImu_keeps c call).device

private theorem finishDisconnectCore_tearsDown (op : Operation) :
    (c.finishDisconnectCore call op).2.tearsDown = true := by
  cases op <;> rfl

private theorem disableImu_tearsDown (op : Operation) : (c.disableImu call op).2.tearsDown = true := by
  rw [Client.disableImu]
  split
  · rfl
  · exact finishDisconnectCore_tearsDown op

private theorem startDisconnectCore_tearsDown (op : Operation) :
    (c.startDisconnectCore call op).2.tearsDown = true := by
  rw [Client.startDisconnectCore]
  dsimp only
  split
  · rfl
  · exact disableImu_tearsDown op

/-- A call that tears down goes on tearing down. -/
private theorem resume_tearsDown {op : Operation} {pc : Pc} (core : pc = .disablingStatus op ∨ pc = .disablingImu op)
    {outcome : Outcome} {result : Client × Pc} (resumed : resume c call pc outcome = some result) :
    result.2.tearsDown = true := by
  rcases core with rfl | rfl
  · obtain rfl := Option.some.inj resumed
    exact disableImu_tearsDown op
  · obtain rfl := Option.some.inj resumed
    exact finishDisconnectCore_tearsDown op

private theorem attaching_of_tearsDown {pc : Pc} (stopped : pc.tearsDown = true) : pc.attaching = false := by
  cases pc <;> simp_all [Pc.tearsDown, Pc.attaching]

/-- The setting up begins with an attached device. -/
private theorem resume_attaches {pc : Pc} (before : pc.attaching = false) {outcome : Outcome} {result : Client × Pc}
    (resumed : resume c call pc outcome = some result) (after : result.2.attaching = true) :
    result.1.device ≠ none := by
  cases pc with
  | discovering | enablingStatus | enablingImu | readingStatus | readingImu => cases before
  | notStarted | gateWait | returned => cases inside_of_resume resumed
  | disablingStatus op =>
    rw [attaching_of_tearsDown (resume_tearsDown (.inl rfl) resumed)] at after
    cases after
  | disablingImu op =>
    rw [attaching_of_tearsDown (resume_tearsDown (.inr rfl) resumed)] at after
    cases after
  | scanning =>
    cases outcome <;> simp only [resume, Option.some.injEq, reduceCtorEq] at resumed <;> subst result <;> cases after
  | opening =>
    cases outcome <;> simp only [resume, Option.some.injEq, reduceCtorEq] at resumed <;> subst result
    case opened => exact Option.some_ne_none _
    all_goals cases after

/-- Where an exception can come from. -/
private theorem attaching_or_of_failed {pc : Pc} {outcome : Outcome} {result : Client × Pc} {fault : Fault}
    (resumed : resume c call pc outcome = some result) (failed : result.2 = .returned .connect (.error fault)) :
    pc.attaching = true ∨ pc = .scanning ∨ pc = .opening := by
  cases pc with
  | scanning => exact .inr (.inl rfl)
  | opening => exact .inr (.inr rfl)
  | discovering | enablingStatus | enablingImu | readingStatus | readingImu => exact .inl rfl
  | notStarted | gateWait | returned => cases inside_of_resume resumed
  | disablingStatus op =>
    have stopped := resume_tearsDown (.inl rfl) resumed
    rw [failed] at stopped
    cases stopped
  | disablingImu op =>
    have stopped := resume_tearsDown (.inr rfl) resumed
    rw [failed] at stopped
    cases stopped

/-- A scan or an opening that fails leaves the client as it was torn down. -/
private theorem clean_of_failed {pc : Pc} (clean : c.Clean) (early : pc = .scanning ∨ pc = .opening) {outcome : Outcome}
    {result : Client × Pc} {fault : Fault} (resumed : resume c call pc outcome = some result)
    (failed : result.2 = .returned .connect (.error fault)) : result.1.Clean := by
  obtain ⟨device, opened, status, imu, link, statusHandlers, imuHandlers⟩ := clean
  rcases early with rfl | rfl <;> cases outcome <;> simp only [resume, Option.some.injEq, reduceCtorEq] at resumed <;>
    subst result
  case inl.completed | inr.opened => cases failed
  case inr.notOpened => exact ⟨rfl, opened, status, imu, link, statusHandlers, imuHandlers⟩
  all_goals exact ⟨device, opened, status, imu, link, statusHandlers, imuHandlers⟩

end Device

/-- A call that sets up the connection has a device. -/
def World.Attached (w : World) : Prop := ∀ call, (w.calls call).attaching = true → w.client.device ≠ none

section Attached

variable {w : World} {call : ℕ}

/-- Only the moved call can start to set up; the others go on only when the client keeps its device. -/
private theorem World.Attached.put (attached : w.Attached) {result : Client × Pc}
    (mover : result.2.attaching = true → result.1.device ≠ none)
    (others : ∀ other, other ≠ call → (w.calls other).attaching = true → result.1.device = w.client.device) :
    (w.put call result).Attached := by
  apply (w.forall_put_iff call result fun _ pc => pc.attaching = true → result.1.device ≠ none).mpr
  refine ⟨mover, ?_⟩
  intro other differs attaching
  rw [others other differs attaching]
  exact attached other attaching

private theorem World.Attached.moves (attached : w.Attached) (guarded : w.Guarded) {a : Action} {next : World}
    (moved : w.Moves a next) : next.Attached := by
  cases moved with
  | invoke => exact attached.put (by simp [Pc.attaching]) (fun _ _ _ => rfl)
  | cancelWait => exact attached.put (by simp [Pc.attaching]) (fun _ _ _ => rfl)
  | acquire waiting available =>
    apply attached.put
    · simp [attaching_of_tearsDown (startDisconnectCore_tearsDown _)]
    · -- the gate is free, so no other call is behind it
      intro other _ attaching
      obtain ⟨taken, -, -⟩ := guarded.holder (inside_of_attaching attaching)
      omega
  | @resume call outcome result resumed =>
    obtain ⟨-, alone, -⟩ := guarded.holder (inside_of_resume resumed)
    apply attached.put
    · intro after
      cases before : (w.calls call).attaching with
      | false => exact resume_attaches before resumed after
      | true =>
        rw [resume_device before resumed]
        exact attached call before
    · intro other differs attaching
      exact absurd (alone other (inside_of_attaching attaching)) differs
  | @link device up _ _ =>
    intro other attaching
    obtain ⟨_, _, _, _, _, changed⟩ := w.client.linkChanged_sameHandles device up
    rw [changed]
    exact attached other attaching

end Attached

private theorem reachable_attached {w : World} (reached : connectionSystem.Reachable w) : w.Attached := by
  refine reached.invariant ?_ ?_
  · intro call attaching
    cases attaching
  · intro before _ _ reachedBefore attached _ stepped
    exact attached.moves (reachable_owned reachedBefore).guarded (World.step_moves stepped)

/-- The runs that go on from a given state of the world. -/
def World.onwards (w : World) : Machine.System World Action where
  init := w
  step := World.step

/-- A `ConnectAsync` gets the gate. -/
def World.StartsConnect (w : World) (a : Action) : Prop :=
  ∃ call, a = .acquire call ∧ w.calls call = .gateWait .connect

/-- Nothing is left of the connection, `IsConnected` says so, and until the next `ConnectAsync` no IMU frame
arrives, neither through a subscription nor through a read. -/
structure World.LeftDisconnected (w : World) : Prop where
  clean : w.client.Clean
  notConnected : w.client.isConnected = false
  silent : ∀ later, w.onwards.ReachableUnder (fun now a => ¬ now.StartsConnect a) later →
    later.client.imuHandlers = [] ∧ ∀ call, later.calls call ≠ .readingImu

/-- Nothing is attached and no call is behind the gate. -/
structure World.Idle (w : World) : Prop where
  clean : w.client.Clean
  nobody : ∀ call, (w.calls call).inside = false

section Idle

variable {w : World} {call : ℕ}

private theorem World.Idle.put (idle : w.Idle) {result : Client × Pc} (clean : result.1.Clean)
    (outside : result.2.inside = false) : (w.put call result).Idle := by
  refine ⟨clean, ?_⟩
  apply (w.forall_put_iff call result fun _ pc => pc.inside = false).mpr
  exact ⟨outside, fun other _ => idle.nobody other⟩

/-- With nothing to tear down, a disconnect runs through without an await. -/
private theorem startDisconnectCore_of_clean {c : Client} (clean : c.Clean) (call : ℕ) :
    (c.startDisconnectCore call .disconnect).1.Clean ∧
      (c.startDisconnectCore call .disconnect).2 = .returned .disconnect (.ok ()) := by
  obtain ⟨device, opened, status, imu, link, statusHandlers, imuHandlers⟩ := clean
  rw [Client.startDisconnectCore, Client.trySetDisconnectSignal]
  cases c.disconnectSignal <;>
    simp only [status, Client.disableImu, imu, Client.finishDisconnectCore, Client.releaseDevice, device, and_true] <;>
    exact ⟨rfl, opened, rfl, rfl, link, statusHandlers, imuHandlers⟩

private theorem World.Idle.moves (idle : w.Idle) {a : Action} {next : World} (noConnect : ¬ w.StartsConnect a)
    (moved : w.Moves a next) : next.Idle := by
  cases moved with
  | invoke => exact idle.put idle.clean rfl
  | cancelWait => exact idle.put idle.clean rfl
  | @acquire call op waiting _ =>
    cases op with
    | connect => exact absurd ⟨call, rfl, waiting⟩ noConnect
    | disconnect =>
      obtain ⟨device, opened, status, imu, link, statusHandlers, imuHandlers⟩ := idle.clean
      have acquired : (w.client.acquireGate call).Clean :=
        ⟨device, opened, status, imu, link, statusHandlers, imuHandlers⟩
      obtain ⟨clean, returned⟩ := startDisconnectCore_of_clean acquired call
      exact idle.put clean (by rw [returned]; rfl)
  | @resume call _ _ resumed =>
    have inside := inside_of_resume resumed
    rw [idle.nobody call] at inside
    cases inside
  | link opened =>
    rw [idle.clean.opened] at opened
    cases opened

end Idle

private theorem World.Idle.leftDisconnected {w : World} (idle : w.Idle) : w.LeftDisconnected where
  clean := idle.clean
  notConnected := by rw [Client.isConnected, idle.clean.device]
  silent later reached := by
    have still : later.Idle := by
      refine reached.invariant idle ?_
      intro _ _ _ _ idle noConnect stepped
      exact idle.moves noConnect (World.step_moves stepped)
    refine ⟨still.clean.imuHandlers, ?_⟩
    intro call reading
    have outside := still.nobody call
    rw [reading] at outside
    cases outside

/-- The step that ends a call in front of a given await is the call's own. -/
private theorem resumed_of_failed {w next : World} {a : Action} {call : ℕ} {fault : Fault}
    (stepped : w.step a = some next)
    (inside : (w.calls call).inside = true) (failed : next.calls call = .returned .connect (.error fault)) :
    ∃ outcome result, resume w.client call (w.calls call) outcome = some result ∧ next = w.put call result := by
  -- a call that another one's step leaves alone is still behind the gate
  have mover : ∀ {other : ℕ} {result : Client × Pc},
      (w.put other result).calls call = .returned .connect (.error fault) → call = other := by
    intro other result returned
    by_contra differs
    rw [World.put_calls_of_ne w differs] at returned
    rw [returned] at inside
    cases inside
  cases World.step_moves stepped with
  | invoke idle =>
    obtain rfl := mover failed
    rw [idle] at inside
    cases inside
  | acquire waiting =>
    obtain rfl := mover failed
    rw [waiting] at inside
    cases inside
  | cancelWait waiting =>
    obtain rfl := mover failed
    rw [waiting] at inside
    cases inside
  | resume resumed =>
    obtain rfl := mover failed
    exact ⟨_, _, resumed, rfl⟩
  | link =>
    rw [failed] at inside
    cases inside

/-- A connect that got past the gate and fails leaves the client disconnected exactly when the exception came
from the scan or from opening the device. -/
theorem failedConnect_leftDisconnected_iff {w next : World} {a : Action} {call : ℕ} {fault : Fault}
    (reached : connectionSystem.Reachable w) (stepped : w.step a = some next)
    (inside : (w.calls call).inside = true) (failed : next.calls call = .returned .connect (.error fault)) :
    next.LeftDisconnected ↔ w.calls call = .scanning ∨ w.calls call = .opening := by
  obtain ⟨outcome, result, resumed, rfl⟩ := resumed_of_failed stepped inside failed
  obtain ⟨-, alone, shape⟩ := (reachable_owned reached).guarded.holder inside
  rw [World.put_calls_self] at failed
  constructor
  · intro left
    rcases attaching_or_of_failed resumed failed with attaching | early
    · have attached := reachable_attached reached call attaching
      rw [← resume_device attaching resumed] at attached
      exact absurd left.clean.device attached
    · exact early
  · intro early
    have clean : w.client.Clean := by
      rcases early with scanning | opening
      · rwa [scanning] at shape
      · rwa [opening] at shape
    apply World.Idle.leftDisconnected
    refine ⟨clean_of_failed clean early resumed failed, ?_⟩
    apply (w.forall_put_iff call result fun _ pc => pc.inside = false).mpr
    refine ⟨by rw [failed]; rfl, ?_⟩
    intro other differs
    by_contra behind
    exact differs (alone other (by simpa using behind))

/-- A connect that waits for its scan. -/
def scanningWorld : World :=
  (connectionSystem.run connectionSystem.init [.invoke 0 .connect, .acquire 0]).getD {}

theorem failedConnect_scan_timeout : ∃ next, scanningWorld.step (.resume 0 (.faulted .timeout)) = some next ∧
    next.calls 0 = .returned .connect (.error .timeout) ∧ next.LeftDisconnected := by
  have reached : connectionSystem.Reachable scanningWorld := by
    apply Machine.System.Reachable.run .init
    exact (rfl : connectionSystem.run connectionSystem.init [.invoke 0 .connect, .acquire 0] = some scanningWorld)
  have early : scanningWorld.calls 0 = .scanning := rfl
  have stepped : scanningWorld.step (.resume 0 (.faulted .timeout)) =
      some (scanningWorld.put 0 (scanningWorld.client.abandonConnect 0 .timeout)) := rfl
  refine ⟨_, stepped, rfl, ?_⟩
  exact (failedConnect_leftDisconnected_iff reached stepped (by rw [early]; rfl) rfl).mpr (.inl early)

/-- A connect whose device is open and linked and whose IMU notifications have just been enabled. -/
def readingWorld : World :=
  (connectionSystem.run connectionSystem.init ((sampleConnect 0).take 7)).getD {}

theorem failedConnect_read_halfOpen : connectionSystem.Reachable readingWorld ∧
    (readingWorld.calls 0).inside = true ∧
    ∃ next, readingWorld.step (.resume 0 (.faulted .failed)) = some next ∧
      next.calls 0 = .returned .connect (.error .failed) ∧ next.client.isConnected = true ∧
      next.client.imuHandlers ≠ [] ∧ ¬ next.LeftDisconnected := by
  have reached : connectionSystem.Reachable readingWorld := by
    apply Machine.System.Reachable.run .init
    exact (rfl : connectionSystem.run connectionSystem.init ((sampleConnect 0).take 7) = some readingWorld)
  refine ⟨reached, rfl, _, rfl, rfl, rfl, by decide, ?_⟩
  intro left
  cases left.clean.device

end GestureSuite.Connection
