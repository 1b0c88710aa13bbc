import GestureSuite.Model.Connection.Client

/-! # Every handle and every subscription has one owner

A failed `ConnectAsync` leaves a partly built connection behind and relies on the next call to tear
it down. The invariant therefore describes the client at every await separately: what may already be
attached there, and what must already be gone. The gate makes at most one call stand at such a place,
so the description of that single call is a description of the whole client.
-/

namespace GestureSuite.Connection

/-- The call holds the gate. -/
def Pc.inside : Pc → Bool
  | .notStarted | .gateWait _ | .returned _ _ => false
  | _ => true

/-- Nothing is attached and nothing is subscribed. -/
structure Client.Clean (c : Client) : Prop where
  device : c.device = none
  opened : c.opened = []
  statusCharacteristic : c.statusCharacteristic = none
  imuCharacteristic : c.imuCharacteristic = none
  linkHandlers : c.linkHandlers = []
  statusHandlers : c.statusHandlers = []
  imuHandlers : c.imuHandlers = []

/-- What is open or subscribed belongs to the objects the fields hold, and is there once. -/
structure Client.Consistent (c : Client) : Prop where
  opened : c.opened = c.device.toList
  linkHandlers : c.linkHandlers = c.device.toList
  statusHandlers : c.statusHandlers = [] ∨ ∃ status, c.statusCharacteristic = some status ∧
    c.statusHandlers = [status.id]
  imuHandlers : c.imuHandlers = [] ∨ ∃ imu, c.imuCharacteristic = some imu ∧ c.imuHandlers = [imu.id]

/-- The open device is the current one. -/
theorem Client.Consistent.mem_opened_iff {c : Client} (consistent : c.Consistent) {device : ℕ} :
    device ∈ c.opened ↔ c.device = some device := by
  rw [consistent.opened, Option.mem_toList]

/-- The link handler is subscribed on the current device. -/
theorem Client.Consistent.mem_linkHandlers_iff {c : Client} (consistent : c.Consistent) {device : ℕ} :
    device ∈ c.linkHandlers ↔ c.device = some device := by
  rw [consistent.linkHandlers, Option.mem_toList]

theorem Client.Clean.consistent {c : Client} (clean : c.Clean) : c.Consistent where
  opened := by rw [clean.opened, clean.device]; rfl
  linkHandlers := by rw [clean.linkHandlers, clean.device]; rfl
  statusHandlers := .inl clean.statusHandlers
  imuHandlers := .inl clean.imuHandlers

/-- The client while the call that holds the gate is suspended at a given await. -/
def Client.At (c : Client) : Pc → Prop
  | .disablingStatus _ => c.Consistent ∧ c.statusHandlers = []
  | .disablingImu _ => c.Consistent ∧ c.statusHandlers = [] ∧ c.imuHandlers = []
  | .scanning | .opening => c.Clean
  | .discovering => c.Consistent ∧ c.statusHandlers = [] ∧ c.imuHandlers = []
  | .enablingStatus => c.Consistent ∧ c.imuHandlers = []
  | _ => c.Consistent

theorem Client.At.consistent {c : Client} {pc : Pc} (shape : c.At pc) : c.Consistent := by
  cases pc with
  | scanning | opening => exact Clean.consistent shape
  | disablingStatus | disablingImu | discovering | enablingStatus => exact shape.1
  | _ => exact shape

/-- What a piece of code run under the gate leaves behind. It either keeps the gate and stops at the
next await, or releases it once and returns; a finished disconnect leaves nothing at all. -/
inductive Leaves (c : Client) (call : ℕ) : Client × Pc → Prop
  | suspended {next : Client} {pc : Pc} (inside : pc.inside = true) (shape : next.At pc)
      (count : next.gateCount = c.gateCount) (log : next.gateLog = c.gateLog) : Leaves c call (next, pc)
  | returned {next : Client} {op : Operation} {result : Except Fault Unit} (consistent : next.Consistent)
      (clean : op = .disconnect → next.Clean) (count : next.gateCount = c.gateCount + 1)
      (log : next.gateLog = .released call :: c.gateLog) : Leaves c call (next, .returned op result)

/-- Only the gate of the starting point matters. -/
theorem Leaves.congr {c d : Client} {call : ℕ} {result : Client × Pc} (left : Leaves c call result)
    (count : c.gateCount = d.gateCount) (log : c.gateLog = d.gateLog) : Leaves d call result := by
  cases left with
  | suspended inside shape sameCount sameLog =>
    exact .suspended inside shape (sameCount.trans count) (sameLog.trans log)
  | returned consistent clean nextCount nextLog =>
    exact .returned consistent clean (nextCount.trans (by rw [count])) (nextLog.trans (by rw [log]))

section Segments

variable {c : Client} {call : ℕ}

theorem Client.releaseDevice_clean (consistent : c.Consistent) (status : c.statusHandlers = [])
    (imu : c.imuHandlers = []) : c.releaseDevice.Clean := by
  have opened := consistent.opened
  have handlers := consistent.linkHandlers
  rw [releaseDevice, raiseConnectionState]
  cases device : c.device with
  | none =>
    rw [device] at opened handlers
    exact ⟨device, opened, rfl, rfl, handlers, status, imu⟩
  | some d =>
    rw [device] at opened handlers
    exact ⟨rfl, by simp [opened], rfl, rfl, by simp [handlers], status, imu⟩

private theorem releaseDevice_gate (c : Client) :
    c.releaseDevice.gateCount = c.gateCount ∧ c.releaseDevice.gateLog = c.gateLog := by
  rw [Client.releaseDevice, Client.raiseConnectionState]
  cases c.device <;> exact ⟨rfl, rfl⟩

private theorem finishDisconnectCore_leaves (consistent : c.Consistent) (status : c.statusHandlers = [])
    (imu : c.imuHandlers = []) (op : Operation) : Leaves c call (c.finishDisconnectCore call op) := by
  have clean := Client.releaseDevice_clean consistent status imu
  obtain ⟨count, log⟩ := releaseDevice_gate c
  cases op with
  | connect => exact .suspended rfl ⟨clean.1, clean.2, clean.3, clean.4, clean.5, clean.6, clean.7⟩ count log
  | disconnect =>
    have released : (c.releaseDevice.releaseGate call).Clean :=
      ⟨clean.1, clean.2, clean.3, clean.4, clean.5, clean.6, clean.7⟩
    exact .returned released.consistent (fun _ => released) (congrArg (· + 1) count)
      (congrArg (GateEvent.released call :: ·) log)

private theorem disableImu_leaves (consistent : c.Consistent) (status : c.statusHandlers = [])
    (op : Operation) : Leaves c call (c.disableImu call op) := by
  rw [Client.disableImu]
  cases imu : c.imuCharacteristic with
  | none =>
    have handlers : c.imuHandlers = [] := by
      rcases consistent.imuHandlers with none | ⟨_, some, _⟩
      · exact none
      · simp [imu] at some
    exact finishDisconnectCore_leaves consistent status handlers op
  | some characteristic =>
    have handlers : c.imuHandlers.erase characteristic.id = [] := by
      rcases consistent.imuHandlers with none | ⟨_, some, only⟩
      · simp [none]
      · obtain rfl := Option.some.inj (imu.symm.trans some)
        simp [only]
    exact .suspended rfl ⟨⟨consistent.1, consistent.2, consistent.3, .inl handlers⟩, status, handlers⟩ rfl rfl

private theorem trySetDisconnectSignal_frame (c : Client) :
    ∃ signalled, c.trySetDisconnectSignal = { c with signalled } := by
  rw [Client.trySetDisconnectSignal]
  split
  · exact ⟨_, rfl⟩
  · exact ⟨c.signalled, rfl⟩

private theorem startDisconnectCore_leaves (consistent : c.Consistent) (op : Operation) :
    Leaves c call (c.startDisconnectCore call op) := by
  obtain ⟨signalled, signals⟩ := trySetDisconnectSignal_frame c
  rw [Client.startDisconnectCore]
  rw [signals]
  dsimp only
  split
  · next characteristic status =>
    have handlers : c.statusHandlers.erase characteristic.id = [] := by
      rcases consistent.statusHandlers with none | ⟨_, some, only⟩
      · simp [none]
      · obtain rfl := Option.some.inj (status.symm.trans some)
        simp [only]
    exact .suspended rfl ⟨⟨consistent.1, consistent.2, .inl handlers, consistent.4⟩, handlers⟩ rfl rfl
  · next status =>
    have handlers : c.statusHandlers = [] := by
      rcases consistent.statusHandlers with none | ⟨_, some, _⟩
      · exact none
      · simp [status] at some
    have cleared : ({ c with signalled, disconnectSignal := none } : Client).Consistent :=
      ⟨consistent.1, consistent.2, consistent.3, consistent.4⟩
    exact (disableImu_leaves cleared handlers op).congr rfl rfl

private theorem abandonConnect_leaves (consistent : c.Consistent) (fault : Fault) :
    Leaves c call (c.abandonConnect call fault) :=
  .returned ⟨consistent.1, consistent.2, consistent.3, consistent.4⟩ (by simp) rfl rfl

private theorem completeConnect_leaves (consistent : c.Consistent) :
    Leaves c call (c.completeConnect call) :=
  .returned ⟨consistent.1, consistent.2, consistent.3, consistent.4⟩ (by simp) rfl rfl

private theorem readImu_leaves (consistent : c.Consistent) : Leaves c call (c.readImu call) := by
  rw [Client.readImu]
  split
  · split_ifs
    · exact .suspended rfl consistent rfl rfl
    · exact completeConnect_leaves consistent
  · exact abandonConnect_leaves consistent .failed

private theorem readStatus_leaves (consistent : c.Consistent) : Leaves c call (c.readStatus call) := by
  rw [Client.readStatus]
  split
  · split_ifs
    · exact .suspended rfl consistent rfl rfl
    · exact readImu_leaves consistent
  · exact abandonConnect_leaves consistent .failed

private theorem enableImu_leaves (consistent : c.Consistent) (imu : c.imuHandlers = []) :
    Leaves c call (c.enableImu call) := by
  rw [Client.enableImu]
  split
  · next characteristic some =>
    have subscribed : ({ c with imuHandlers := characteristic.id :: c.imuHandlers } : Client).Consistent :=
      ⟨consistent.1, consistent.2, consistent.3, .inr ⟨characteristic, some, by rw [imu]⟩⟩
    dsimp only
    split_ifs
    · exact .suspended rfl subscribed rfl rfl
    · exact (readStatus_leaves subscribed).congr rfl rfl
  · exact abandonConnect_leaves consistent .failed

private theorem enableStatus_leaves (consistent : c.Consistent) (status : c.statusHandlers = [])
    (imu : c.imuHandlers = []) : Leaves c call (c.enableStatus call) := by
  rw [Client.enableStatus]
  split
  · next characteristic some =>
    have subscribed : ({ c with statusHandlers := characteristic.id :: c.statusHandlers } : Client).Consistent :=
      ⟨consistent.1, consistent.2, .inr ⟨characteristic, some, by rw [status]⟩, consistent.4⟩
    dsimp only
    split_ifs
    · exact .suspended rfl ⟨subscribed, imu⟩ rfl rfl
    · exact (enableImu_leaves subscribed imu).congr rfl rfl
  · exact abandonConnect_leaves consistent .failed

/-- What no piece of code that sets up a connection touches: the device and the completed signals. -/
structure Client.SetUpKeeps (c d : Client) : Prop where
  device : d.device = c.device
  signalled : d.signalled = c.signalled

variable (c call) in
theorem readImu_keeps : c.SetUpKeeps (c.readImu call).1 := by
  rw [Client.readImu]
  split
  · split_ifs <;> exact ⟨rfl, rfl⟩
  · exact ⟨rfl, rfl⟩

variable (c call) in
theorem readStatus_keeps : c.SetUpKeeps (c.readStatus call).1 := by
  rw [Client.readStatus]
  split
  · split_ifs
    · exact ⟨rfl, rfl⟩
    · exact readImu_keeps c call
  · exact ⟨rfl, rfl⟩

variable (c call) in
theorem enableImu_keeps : c.SetUpKeeps (c.enableImu call).1 := by
  rw [Client.enableImu]
  split
  · dsimp only
    split_ifs
    · exact ⟨rfl, rfl⟩
    · obtain ⟨device, signalled⟩ := readStatus_keeps { c with imuHandlers := _ :: c.imuHandlers } call
      exact ⟨device, signalled⟩
  · exact ⟨rfl, rfl⟩

variable (c call) in
theorem enableStatus_keeps : c.SetUpKeeps (c.enableStatus call).1 := by
  rw [Client.enableStatus]
  split
  · dsimp only
    split_ifs
    · exact ⟨rfl, rfl⟩
    · obtain ⟨device, signalled⟩ := enableImu_keeps { c with statusHandlers := _ :: c.statusHandlers } call
      exact ⟨device, signalled⟩
  · exact ⟨rfl, rfl⟩

private theorem attachDevice_consistent (clean : c.Clean) (up : Bool) : (c.attachDevice up).Consistent where
  opened := congrArg (c.fresh :: ·) clean.opened
  linkHandlers := congrArg (c.fresh :: ·) clean.linkHandlers
  statusHandlers := .inl clean.statusHandlers
  imuHandlers := .inl clean.imuHandlers

private theorem discovered_consistent (consistent : c.Consistent) (noStatus : c.statusHandlers = [])
    (noImu : c.imuHandlers = []) (status imu : GattCharacteristic) : (c.discovered status imu).Consistent :=
  ⟨consistent.1, consistent.2, .inl noStatus, .inl noImu⟩

/-- Whatever an await comes back with, the code behind it keeps the description. -/
theorem resume_leaves {pc : Pc} (shape : c.At pc) {outcome : Outcome} {result : Client × Pc}
    (resumed : resume c call pc outcome = some result) : Leaves c call result := by
  have consistent := shape.consistent
  simp only [resume] at resumed
  split at resumed <;> simp only [Option.some.injEq, reduceCtorEq] at resumed <;> subst result
  · exact disableImu_leaves consistent shape.2 _
  · exact finishDisconnectCore_leaves consistent shape.2.1 shape.2.2 _
  · exact .suspended rfl shape rfl rfl
  · exact abandonConnect_leaves consistent _
  · exact .suspended rfl ⟨attachDevice_consistent shape _, shape.statusHandlers, shape.imuHandlers⟩ rfl rfl
  · refine .returned ⟨?_, ?_, consistent.3, consistent.4⟩ (by simp) rfl rfl
    · exact shape.opened
    · exact shape.linkHandlers
  · exact abandonConnect_leaves consistent _
  · exact (enableStatus_leaves (discovered_consistent consistent shape.2.1 shape.2.2 _ _) shape.2.1
      shape.2.2).congr rfl rfl
  · exact abandonConnect_leaves consistent _
  · exact enableImu_leaves consistent shape.2
  · exact abandonConnect_leaves consistent _
  · exact abandonConnect_leaves consistent _
  · exact readStatus_leaves consistent
  · exact abandonConnect_leaves consistent _
  · exact abandonConnect_leaves consistent _
  · exact readImu_leaves consistent
  · exact readImu_leaves consistent
  · exact abandonConnect_leaves consistent _
  · exact completeConnect_leaves consistent
  · exact completeConnect_leaves consistent
  · exact abandonConnect_leaves consistent _

end Segments

@[simp] theorem World.put_client (w : World) (call : ℕ) (result : Client × Pc) :
    (w.put call result).client = result.1 := rfl

@[simp] theorem World.put_calls_self (w : World) (call : ℕ) (result : Client × Pc) :
    (w.put call result).calls call = result.2 := Function.update_self ..

theorem World.put_calls_of_ne (w : World) {call other : ℕ} (differs : other ≠ call) (result : Client × Pc) :
    (w.put call result).calls other = w.calls other := Function.update_of_ne differs _ _

/-- A fact about every call afterwards is one about the call that moved and about all others before. -/
theorem World.forall_put_iff (w : World) (call : ℕ) (result : Client × Pc) (p : ℕ → Pc → Prop) :
    (∀ other, p other ((w.put call result).calls other)) ↔
      p call result.2 ∧ ∀ other, other ≠ call → p other (w.calls other) :=
  Function.forall_update_iff w.calls p

/-- What a step of the world can be, guards included. -/
inductive World.Moves (w : World) : Action → World → Prop
  | invoke {call : ℕ} {op : Operation} (idle : w.calls call = .notStarted) :
      Moves w (.invoke call op) (w.put call (w.client, .gateWait op))
  | acquire {call : ℕ} {op : Operation} (waiting : w.calls call = .gateWait op)
      (available : 0 < w.client.gateCount) :
      Moves w (.acquire call) (w.put call ((w.client.acquireGate call).startDisconnectCore call op))
  | cancelWait {call : ℕ} (waiting : w.calls call = .gateWait .connect) :
      Moves w (.cancelWait call) (w.put call (w.client, .returned .connect (.error .cancelled)))
  | resume {call : ℕ} {outcome : Outcome} {result : Client × Pc}
      (resumed : Connection.resume w.client call (w.calls call) outcome = some result) :
      Moves w (.resume call outcome) (w.put call result)
  | link {device : ℕ} {up : Bool} (opened : device ∈ w.client.opened)
      (changes : up ≠ w.client.linkUp.contains device) :
      Moves w (.link device up) { w with client := w.client.linkChanged device up }

theorem World.step_moves {w next : World} {a : Action} (stepped : w.step a = some next) : w.Moves a next := by
  cases a with
  | invoke call op =>
    obtain ⟨idle, moved⟩ := Option.ite_none_right_eq_some.mp stepped
    obtain rfl := Option.some.inj moved
    exact .invoke idle
  | acquire call =>
    simp only [World.step] at stepped
    split at stepped
    · next op waiting =>
      obtain ⟨available, moved⟩ := Option.ite_none_right_eq_some.mp stepped
      obtain rfl := Option.some.inj moved
      exact .acquire waiting available
    · cases stepped
  | cancelWait call =>
    obtain ⟨waiting, moved⟩ := Option.ite_none_right_eq_some.mp stepped
    obtain rfl := Option.some.inj moved
    exact .cancelWait waiting
  | resume call outcome =>
    obtain ⟨result, resumed, rfl⟩ := Option.map_eq_some_iff.mp stepped
    exact .resume resumed
  | link device up =>
    obtain ⟨⟨opened, changes⟩, moved⟩ := Option.ite_none_right_eq_some.mp stepped
    obtain rfl := Option.some.inj moved
    exact .link opened changes

/-- Acquisitions of the gate by one call. -/
def Client.acquisitions (c : Client) (call : ℕ) : ℕ := c.gateLog.count (.acquired call)

/-- Releases of the gate by one call. -/
def Client.releases (c : Client) (call : ℕ) : ℕ := c.gateLog.count (.released call)

/-- The call has not got past the gate yet. -/
def Pc.outside : Pc → Bool
  | .notStarted | .gateWait _ => true
  | _ => false

/-- The record of the gate matches where a call stands: nothing before the gate, one acquisition
behind it, and one release once the call is out again. -/
structure GateBalanced (c : Client) (call : ℕ) (pc : Pc) : Prop where
  balance : c.releases call + (if pc.inside then 1 else 0) = c.acquisitions call
  once : c.acquisitions call ≤ 1
  before : pc.outside = true → c.acquisitions call = 0

/-- Either the gate is free and no call is behind it, or exactly one call is and describes the client. -/
inductive World.Guarded (w : World) : Prop
  | free (count : w.client.gateCount = 1) (nobody : ∀ call, (w.calls call).inside = false)
      (consistent : w.client.Consistent)
  | held (owner : ℕ) (count : w.client.gateCount = 0) (inside : (w.calls owner).inside = true)
      (only : ∀ call, (w.calls call).inside = true → call = owner) (shape : w.client.At (w.calls owner))

structure World.Owned (w : World) : Prop where
  guarded : w.Guarded
  balanced : ∀ call, GateBalanced w.client call (w.calls call)

section Steps

variable {w : World} {call : ℕ}

theorem World.Guarded.consistent (guarded : w.Guarded) : w.client.Consistent := by
  cases guarded with
  | free _ _ consistent => exact consistent
  | held _ _ _ _ shape => exact shape.consistent

/-- A call behind the gate is the one that holds it. -/
theorem World.Guarded.holder (guarded : w.Guarded) (inside : (w.calls call).inside = true) :
    w.client.gateCount = 0 ∧ (∀ other, (w.calls other).inside = true → other = call) ∧
      w.client.At (w.calls call) := by
  cases guarded with
  | free _ nobody _ => simp [nobody call] at inside
  | held owner count _ only shape =>
    obtain rfl := only call inside
    exact ⟨count, only, shape⟩

private theorem inside_not_outside {pc : Pc} (inside : pc.inside = true) : pc.outside = false := by
  cases pc <;> simp_all [Pc.inside, Pc.outside]

/-- Calls that did not move keep their balance when the gate record of others grows. -/
private theorem GateBalanced.frame {c d : Client} {pc : Pc} (balanced : GateBalanced c call pc)
    (acquired : d.acquisitions call = c.acquisitions call) (released : d.releases call = c.releases call) :
    GateBalanced d call pc :=
  ⟨by rw [released, acquired]; exact balanced.balance, by rw [acquired]; exact balanced.once,
    fun before => by rw [acquired]; exact balanced.before before⟩

/-- A call behind the gate has acquired it and not released it. -/
private theorem GateBalanced.of_inside {c : Client} {pc : Pc} (inside : pc.inside = true)
    (acquired : c.acquisitions call = 1) (released : c.releases call = 0) : GateBalanced c call pc :=
  ⟨by simp [inside, acquired, released], by omega, by simp [inside_not_outside inside]⟩

/-- Storing what a call behind the gate leaves keeps the invariant. -/
private theorem World.put_owned {c : Client} {result : Client × Pc} (left : Leaves c call result)
    (count : c.gateCount = 0) (alone : ∀ other, (w.calls other).inside = true → other = call)
    (acquired : c.acquisitions call = 1) (released : c.releases call = 0)
    (others : ∀ other, other ≠ call → GateBalanced c other (w.calls other)) : (w.put call result).Owned := by
  cases left with
  | @suspended final pc inside shape sameCount sameLog =>
    have acquisitions (other : ℕ) : final.acquisitions other = c.acquisitions other :=
      congrArg (List.count _) sameLog
    have releases (other : ℕ) : final.releases other = c.releases other := congrArg (List.count _) sameLog
    refine ⟨.held call (sameCount.trans count) (by rwa [World.put_calls_self]) ?_ (by rwa [World.put_calls_self]), ?_⟩
    · apply (w.forall_put_iff call _ fun other pc => pc.inside = true → other = call).mpr
      exact ⟨fun _ => rfl, fun other _ behind => alone other behind⟩
    · apply (w.forall_put_iff call _ fun other pc => GateBalanced final other pc).mpr
      constructor
      · exact (GateBalanced.of_inside inside acquired released).frame (acquisitions call) (releases call)
      · intro other differs
        exact (others other differs).frame (acquisitions other) (releases other)
  | @returned final op outcome consistent clean nextCount nextLog =>
    have acquisitions (other : ℕ) : final.acquisitions other = c.acquisitions other := by
      simp [Client.acquisitions, nextLog]
    refine ⟨.free (nextCount.trans (by rw [count])) ?_ consistent, ?_⟩
    · apply (w.forall_put_iff call _ fun _ pc => pc.inside = false).mpr
      refine ⟨rfl, ?_⟩
      intro other differs
      by_contra behind
      exact differs (alone other (by simpa using behind))
    · apply (w.forall_put_iff call _ fun other pc => GateBalanced final other pc).mpr
      constructor
      · have releases : final.releases call = c.releases call + 1 := by
          simp [Client.releases, nextLog]
        refine ⟨?_, (acquisitions call).trans_le (by omega), by simp [Pc.outside]⟩
        change final.releases call + 0 = final.acquisitions call
        rw [acquisitions, acquired, releases, released]
      · intro other differs
        have releases : final.releases other = c.releases other := by
          simp [Client.releases, nextLog, Ne.symm differs]
        exact (others other differs).frame (acquisitions other) releases

/-- A call in front of the gate or out of it may move without touching the client. -/
private theorem World.Owned.move (owned : w.Owned) {pc : Pc} (before : (w.calls call).outside = true)
    (inside : pc.inside = false) : (w.put call (w.client, pc)).Owned := by
  have wasOutside : (w.calls call).inside = false := by
    by_contra behind
    simp [inside_not_outside (by simpa using behind)] at before
  have sameInside : ∀ other, ((w.put call (w.client, pc)).calls other).inside = (w.calls other).inside := by
    apply (w.forall_put_iff call (w.client, pc) fun other pc => pc.inside = (w.calls other).inside).mpr
    exact ⟨inside.trans wasOutside.symm, fun _ _ => rfl⟩
  refine ⟨?_, ?_⟩
  · cases owned.guarded with
    | free count nobody consistent =>
      exact .free count (fun other => (sameInside other).trans (nobody other)) consistent
    | held owner count holds only shape =>
      have differs : owner ≠ call := by
        rintro rfl
        simp [wasOutside] at holds
      refine .held owner count ((sameInside owner).trans holds) ?_ (by rwa [World.put_calls_of_ne w differs])
      intro other behind
      exact only other ((sameInside other).symm.trans behind)
  · intro other
    have balanced := owned.balanced other
    refine ⟨?_, balanced.once, ?_⟩
    · rw [sameInside]
      exact balanced.balance
    · intro beforeGate
      by_cases same : other = call
      · subst other
        exact balanced.before before
      · rw [World.put_calls_of_ne w same] at beforeGate
        exact balanced.before beforeGate

private theorem World.Owned.acquire (owned : w.Owned) {op : Operation} (waiting : w.calls call = .gateWait op)
    (available : 0 < w.client.gateCount) :
    (w.put call ((w.client.acquireGate call).startDisconnectCore call op)).Owned := by
  have none : w.client.acquisitions call = 0 := (owned.balanced call).before (by rw [waiting]; rfl)
  have balance : w.client.releases call = 0 := by
    have := (owned.balanced call).balance
    omega
  cases owned.guarded with
  | held _ count => omega
  | free count nobody consistent =>
    have acquired : (w.client.acquireGate call).Consistent :=
      ⟨consistent.1, consistent.2, consistent.3, consistent.4⟩
    apply World.put_owned (startDisconnectCore_leaves acquired op) (congrArg (· - 1) count)
    · intro other behind
      simp [nobody other] at behind
    · exact (List.count_cons_self ..).trans (congrArg (· + 1) none)
    · exact (List.count_cons_of_ne (by simp)).trans balance
    · intro other differs
      refine (owned.balanced other).frame (List.count_cons_of_ne ?_) (List.count_cons_of_ne (by simp))
      simpa using Ne.symm differs

/-- Only a call behind the gate has an await to come back from. -/
theorem inside_of_resume {c : Client} {pc : Pc} {outcome : Outcome} {result : Client × Pc}
    (resumed : resume c call pc outcome = some result) : pc.inside = true := by
  cases pc <;> simp_all [Pc.inside, resume]

private theorem World.Owned.resume (owned : w.Owned) {outcome : Outcome} {result : Client × Pc}
    (resumed : Connection.resume w.client call (w.calls call) outcome = some result) :
    (w.put call result).Owned := by
  have inside := inside_of_resume resumed
  obtain ⟨count, alone, shape⟩ := owned.guarded.holder inside
  have balanced := owned.balanced call
  have balance := balanced.balance
  have once := balanced.once
  rw [inside, if_pos rfl] at balance
  exact World.put_owned (resume_leaves shape resumed) count alone (by omega) (by omega)
    fun other _ => owned.balanced other

/-- The fields the ownership of handles does not depend on: link status, signals and raised events. -/
def Client.SameHandles (c d : Client) : Prop :=
  ∃ disconnectSignal linkUp signalled fresh raised,
    d = { c with disconnectSignal, linkUp, signalled, fresh, raised }

theorem Client.Consistent.of_sameHandles {c d : Client} (consistent : c.Consistent) (same : c.SameHandles d) :
    d.Consistent := by
  obtain ⟨_, _, _, _, _, rfl⟩ := same
  exact ⟨consistent.1, consistent.2, consistent.3, consistent.4⟩

private theorem Client.At.of_sameHandles {c d : Client} {pc : Pc} (shape : c.At pc) (same : c.SameHandles d) :
    d.At pc := by
  have consistent := shape.consistent.of_sameHandles same
  obtain ⟨_, _, _, _, _, rfl⟩ := same
  cases pc with
  | scanning | opening => exact ⟨shape.1, shape.2, shape.3, shape.4, shape.5, shape.6, shape.7⟩
  | disablingStatus | disablingImu | discovering | enablingStatus => exact ⟨consistent, shape.2⟩
  | _ => exact consistent

theorem World.Owned.of_sameHandles {c : Client} (owned : w.Owned) (same : w.client.SameHandles c) :
    ({ w with client := c } : World).Owned := by
  refine ⟨?_, ?_⟩
  · have count : c.gateCount = w.client.gateCount := by
      obtain ⟨_, _, _, _, _, rfl⟩ := same
      rfl
    cases owned.guarded with
    | free free nobody consistent => exact .free (count.trans free) nobody (consistent.of_sameHandles same)
    | held owner taken inside only shape =>
      exact .held owner (count.trans taken) inside only (shape.of_sameHandles same)
  · intro call
    obtain ⟨_, _, _, _, _, rfl⟩ := same
    exact (owned.balanced call).frame rfl rfl

/-- A run of the link handler completes the current signal if the link went down, and otherwise only
raises an event. -/
private theorem connectionStatusChanged_frame (up : Bool) (c : Client) :
    ∃ signalled raised, c.connectionStatusChanged up = { c with signalled, raised } ∧ c.signalled ⊆ signalled ∧
      (up = false → ∀ signal, c.disconnectSignal = some signal → signal ∈ signalled) := by
  cases up with
  | true => exact ⟨c.signalled, c.raised, rfl, List.Subset.refl _, by simp⟩
  | false =>
    cases current : c.disconnectSignal with
    | none =>
      refine ⟨c.signalled, .disconnected :: c.raised, ?_, List.Subset.refl _, by simp⟩
      simp [Client.connectionStatusChanged, Client.trySetDisconnectSignal, Client.raiseConnectionState, current]
    | some signal =>
      refine ⟨signal :: c.signalled, .disconnected :: c.raised, ?_, List.subset_cons_self .., by simp⟩
      simp [Client.connectionStatusChanged, Client.trySetDisconnectSignal, Client.raiseConnectionState, current]

private theorem connectionStatusChanged_iterate (up : Bool) (n : ℕ) (c : Client) :
    ∃ signalled raised, (Client.connectionStatusChanged up)^[n] c = { c with signalled, raised } ∧
      c.signalled ⊆ signalled ∧
      (up = false → 0 < n → ∀ signal, c.disconnectSignal = some signal → signal ∈ signalled) := by
  induction n generalizing c with
  | zero => exact ⟨c.signalled, c.raised, rfl, List.Subset.refl _, by simp⟩
  | succ n ih =>
    obtain ⟨signalled, raised, once, grows, completes⟩ := connectionStatusChanged_frame up c
    obtain ⟨signalled', raised', rest, grows', -⟩ := ih { c with signalled, raised }
    refine ⟨signalled', raised', ?_, List.Subset.trans grows grows', ?_⟩
    · rw [Function.iterate_succ_apply, once, rest]
    · intro down _ signal current
      exact grows' (completes down signal current)

/-- A link callback touches the link status, completed signals and raised events only, and a link
that goes down completes the current signal if anything is subscribed to it. -/
theorem Client.linkChanged_frame (c : Client) (device : ℕ) (up : Bool) :
    ∃ signalled raised, c.linkChanged device up =
        { c with linkUp := if up then device :: c.linkUp else c.linkUp.filter (· ≠ device), signalled, raised } ∧
      c.signalled ⊆ signalled ∧
      (up = false → device ∈ c.linkHandlers → ∀ signal, c.disconnectSignal = some signal → signal ∈ signalled) := by
  obtain ⟨signalled, raised, final, grows, completes⟩ :=
    connectionStatusChanged_iterate up (c.linkHandlers.count device)
      { c with linkUp := if up then device :: c.linkUp else c.linkUp.filter (· ≠ device) }
  refine ⟨signalled, raised, final, grows, ?_⟩
  intro down subscribed
  exact completes down (List.count_pos_iff.mpr subscribed)

theorem Client.linkChanged_sameHandles (c : Client) (device : ℕ) (up : Bool) :
    c.SameHandles (c.linkChanged device up) := by
  obtain ⟨signalled, raised, changed, -, -⟩ := c.linkChanged_frame device up
  exact ⟨_, _, signalled, _, raised, changed⟩

/-- Every step of every interleaving keeps the invariant. -/
theorem World.Owned.moves (owned : w.Owned) {a : Action} {next : World} (moved : w.Moves a next) :
    next.Owned := by
  cases moved with
  | invoke idle => exact owned.move (by rw [idle]; rfl) rfl
  | acquire waiting available => exact owned.acquire waiting available
  | cancelWait waiting => exact owned.move (by rw [waiting]; rfl) rfl
  | resume resumed => exact owned.resume resumed
  | link => exact owned.of_sameHandles (w.client.linkChanged_sameHandles ..)

private theorem Leaves.clean {c : Client} {result : Client × Pc} (left : Leaves c call result)
    (completed : result.2 = .scanning ∨ ∃ outcome, result.2 = .returned .disconnect outcome) :
    result.1.Clean := by
  cases left with
  | suspended inside shape _ _ =>
    rcases completed with rfl | ⟨_, rfl⟩
    · exact shape
    · simp [Pc.inside] at inside
  | returned _ clean _ _ =>
    rcases completed with scanning | ⟨_, returned⟩
    · cases scanning
    · injection returned with disconnect _
      exact clean disconnect

/-- The step brought a call to the end of its `DisconnectCoreAsync`: a connecting call goes on to
scan, a disconnecting one returns. -/
def World.CoreCompleted (w next : World) : Prop :=
  ∃ call, next.calls call ≠ w.calls call ∧
    (next.calls call = .scanning ∨ ∃ outcome, next.calls call = .returned .disconnect outcome)

private theorem World.Owned.clean_of_coreCompleted (owned : w.Owned) {a : Action} {next : World}
    (stepped : w.step a = some next) (completed : w.CoreCompleted next) : next.client.Clean := by
  obtain ⟨call, changed, arrived⟩ := completed
  -- only the call that took the step can have moved
  have mover : ∀ {other : ℕ} {result : Client × Pc}, (w.put other result).calls call ≠ w.calls call →
      call = other := by
    intro other result moved
    by_contra differs
    exact moved (World.put_calls_of_ne w differs result)
  cases World.step_moves stepped with
  | invoke idle =>
    obtain rfl := mover changed
    simp at arrived
  | cancelWait waiting =>
    obtain rfl := mover changed
    simp at arrived
  | link => exact absurd rfl changed
  | acquire waiting available =>
    obtain rfl := mover changed
    have consistent := owned.guarded.consistent
    have acquired : (w.client.acquireGate call).Consistent :=
      ⟨consistent.1, consistent.2, consistent.3, consistent.4⟩
    apply (startDisconnectCore_leaves acquired _).clean
    simpa only [World.put_calls_self] using arrived
  | resume resumed =>
    obtain rfl := mover changed
    obtain ⟨_, _, shape⟩ := owned.guarded.holder (inside_of_resume resumed)
    apply (resume_leaves shape resumed).clean
    simpa only [World.put_calls_self] using arrived

end Steps

theorem initial_owned : World.Owned {} where
  guarded := .free rfl (fun _ => rfl) ⟨rfl, rfl, .inl rfl, .inl rfl⟩
  balanced _ := ⟨rfl, Nat.zero_le 1, fun _ => rfl⟩

theorem reachable_owned {w : World} (reached : connectionSystem.Reachable w) : w.Owned :=
  reached.invariant initial_owned fun _ _ _ _ owned _ stepped => owned.moves (World.step_moves stepped)

/-- Subscriptions that are none or the current object's are one at most. -/
private theorem subscribed_spec {handlers : List ℕ} {current : Option GattCharacteristic}
    (shape : handlers = [] ∨ ∃ object, current = some object ∧ handlers = [object.id]) :
    handlers.length ≤ 1 ∧ ∀ id ∈ handlers, ∃ object, current = some object ∧ object.id = id := by
  rcases shape with none | ⟨object, found, only⟩
  · simp [none]
  · rw [only]
    refine ⟨le_rfl, ?_⟩
    intro id subscribed
    exact ⟨object, found, (List.mem_singleton.mp subscribed).symm⟩

/-- In every interleaving the open device is the current one, each handler is subscribed at most once
and only on the current object, each acquisition of the gate is released once, and the end of a
`DisconnectCoreAsync` leaves nothing attached. -/
theorem handles_owned {w : World} (reached : connectionSystem.Reachable w) :
    (∀ device ∈ w.client.opened, w.client.device = some device) ∧
    (w.client.linkHandlers.length ≤ 1 ∧ ∀ device ∈ w.client.linkHandlers, w.client.device = some device) ∧
    (w.client.statusHandlers.length ≤ 1 ∧
      ∀ id ∈ w.client.statusHandlers, ∃ status, w.client.statusCharacteristic = some status ∧ status.id = id) ∧
    (w.client.imuHandlers.length ≤ 1 ∧
      ∀ id ∈ w.client.imuHandlers, ∃ imu, w.client.imuCharacteristic = some imu ∧ imu.id = id) ∧
    (∀ call, w.client.acquisitions call ≤ 1 ∧
      w.client.acquisitions call = w.client.releases call + if (w.calls call).inside then 1 else 0) ∧
    w.client.gateCount ≤ 1 ∧
    ∀ a next, w.step a = some next → w.CoreCompleted next → next.client.Clean := by
  have owned := reachable_owned reached
  have consistent := owned.guarded.consistent
  refine ⟨?_, ⟨?_, ?_⟩, ?_, ?_, ?_, ?_, ?_⟩
  · intro device isOpen
    exact consistent.mem_opened_iff.mp isOpen
  · rw [consistent.linkHandlers]
    exact Option.length_toList_le
  · intro device subscribed
    exact consistent.mem_linkHandlers_iff.mp subscribed
  · exact subscribed_spec consistent.statusHandlers
  · exact subscribed_spec consistent.imuHandlers
  · intro call
    exact ⟨(owned.balanced call).once, (owned.balanced call).balance.symm⟩
  · cases owned.guarded with
    | free count => exact count.le
    | held _ count => omega
  · intro a next stepped completed
    exact owned.clean_of_coreCompleted stepped completed

/-- One connect that succeeds, with both characteristics supporting everything. -/
def sampleConnect (call : ℕ) : List Action :=
  [.invoke call .connect, .acquire call, .resume call .completed, .resume call (.opened true),
    .resume call (.found { id := 0 } { id := 0 }), .resume call .completed, .resume call .completed,
    .resume call .completed, .resume call .completed]

/-- A disconnect during a live connection, up to its last await. -/
def sampleDisconnect : List Action :=
  sampleConnect 0 ++ [.invoke 1 .disconnect, .acquire 1, .resume 1 .completed]

def sampleWorld : World := (connectionSystem.run connectionSystem.init sampleDisconnect).getD {}

theorem handles_owned_sampleWorld : sampleWorld.client.opened = [0] ∧ sampleWorld.client.linkHandlers = [0] ∧
    ∀ a next, sampleWorld.step a = some next → sampleWorld.CoreCompleted next → next.client.Clean := by
  have ran : connectionSystem.run connectionSystem.init sampleDisconnect = some sampleWorld := rfl
  obtain ⟨_, _, _, _, _, _, clean⟩ := handles_owned (.run .init ran)
  exact ⟨rfl, rfl, clean⟩

end GestureSuite.Connection
