/-
  BacnetRs.Transport.Timeouts — requests under way, and their ids
  (`transport/mod.rs`).

  A table of the requests under way, by id, and the id of the next.  Ids come
  one after another, 255 of them, whether or not the one that is due is still
  under way; and a request is in the table before it is sent.  The timeout
  manager and the BACnet/IP transport keep such a table each:

    * `Books.sound_of_start_iff` — when a request is accounted for as it starts.
    * `requests_accounted_iff` — and so when all of a run are.
-/
import BacnetRs.Library.Machine
import BacnetRs.Transport.Registration

namespace BacnetRs.Transport

open Network

/-! ## §1. The table -/

/-- `TimeoutManager`. -/
structure TimeoutManager where
  timeouts : KeyedTable UInt8 (Instant × Duration)
  nextInvokeId : UInt8

namespace TimeoutManager

/-- `TimeoutManager::new`. -/
def new : TimeoutManager := ⟨∅, 1⟩

/-- The id that comes after; 0 is left out. -/
def following (invokeId : UInt8) : UInt8 := if invokeId + 1 = 0 then 1 else invokeId + 1

/-- `start_request`. -/
def startRequest (self : TimeoutManager) (timeout : Duration) (now : Instant) :
    UInt8 × TimeoutManager :=
  (self.nextInvokeId, ⟨self.timeouts.insert self.nextInvokeId (now, timeout),
    following self.nextInvokeId⟩)

/-- `complete_request`. -/
def completeRequest (self : TimeoutManager) (invokeId : UInt8) (now : Instant) :
    Option Duration × TimeoutManager :=
  ((self.timeouts.lookup invokeId).map (fun entry => now.saturatingDurationSince entry.1),
    { self with timeouts := self.timeouts.erase invokeId })

/-- `now.duration_since(start_time) > timeout`. -/
def overdue (now : Instant) (entry : Instant × Duration) : Bool :=
  decide (now.saturatingDurationSince entry.1 > entry.2)

/-- `check_timeouts`; the ids come in the order of the table. -/
def checkTimeouts (self : TimeoutManager) (now : Instant) : List UInt8 × TimeoutManager :=
  ((KeyedTable.retain (fun _ entry => overdue now entry) self.timeouts).keys,
    { self with timeouts := KeyedTable.retain (fun _ entry => !overdue now entry) self.timeouts })

/-- A request with the id is under way. -/
def active (self : TimeoutManager) (invokeId : UInt8) : Bool :=
  (self.timeouts.lookup invokeId).isSome

end TimeoutManager

namespace BacnetIpTransport

/-- `BacnetIpTransport::new`, once the socket is bound. -/
def new (config : BacnetIpConfig) (buffer : Nat) : BacnetIpTransport := ⟨config, buffer, ∅, 1⟩

/-- The table of the transport. -/
def requests (self : BacnetIpTransport) : TimeoutManager :=
  ⟨self.activeRequests, self.nextInvokeId⟩

/-- The transport with another table. -/
def withRequests (self : BacnetIpTransport) (requests : TimeoutManager) : BacnetIpTransport :=
  { self with activeRequests := requests.timeouts, nextInvokeId := requests.nextInvokeId }

/-- `send_npdu_unicast`; `sendTo` is what the socket answers. -/
def sendNpduUnicast (npdu : Bytes) (dest : SocketAddr)
    (sendTo : Bytes → SocketAddr → Except TransportError Unit) : Except TransportError Unit :=
  sendTo (BvllMessage.new .originalUnicastNpdu npdu).encode dest

/-- `send_confirmed_request`.  The request is in the table before it is sent. -/
def sendConfirmedRequest (self : BacnetIpTransport) (dest : SocketAddr) (data : Bytes)
    (timeout : Option Duration) (now : Instant)
    (sendTo : Bytes → SocketAddr → Except TransportError Unit) :
    Except TransportError UInt8 × BacnetIpTransport :=
  let (invokeId, requests) :=
    self.requests.startRequest (timeout.getD self.config.requestTimeout) now
  let after := self.withRequests requests
  match sendNpduUnicast data dest sendTo with
  | .ok _ => (.ok invokeId, after)
  | .error e => (.error e, after)

/-- `check_timeouts`. -/
def checkTimeouts (self : BacnetIpTransport) (now : Instant) : List UInt8 × BacnetIpTransport :=
  ((self.requests.checkTimeouts now).1, self.withRequests (self.requests.checkTimeouts now).2)

/-- `complete_request`. -/
def completeRequest (self : BacnetIpTransport) (invokeId : UInt8) (now : Instant) :
    Option Duration × BacnetIpTransport :=
  ((self.requests.completeRequest invokeId now).1,
    self.withRequests (self.requests.completeRequest invokeId now).2)

end BacnetIpTransport

/-! ## §2. Runs -/

/-- What a call comes to: an id handed out, or an error, and the ids reported. -/
structure Outcome (σ : Type) where
  handedOut : Option UInt8
  failed : Bool
  reported : List UInt8
  after : σ

/-- A state, and the ids handed out and reported on the way to it. -/
structure Books (σ : Type) where
  state : σ
  handedOut : List UInt8
  reported : List UInt8

namespace Books

variable {σ ε : Type}

/-- What a call comes to is entered. -/
def enter (books : Books σ) (outcome : Outcome σ) : Books σ :=
  ⟨outcome.after, books.handedOut ++ outcome.handedOut.toList, books.reported ++ outcome.reported⟩

/-- One call of a run. -/
def step (act : σ → ε → Outcome σ) (books : Books σ) (call : ε) : Option (Books σ) :=
  some (books.enter (act books.state call))

/-- The ids handed out are those reported and those of the requests under way. -/
def Balanced (requests : σ → TimeoutManager) (books : Books σ) : Prop :=
  ∀ invokeId, books.handedOut.count invokeId
    = books.reported.count invokeId + ((requests books.state).active invokeId).toNat

/-- What is asked of every call in a run. -/
structure Sound (requests : σ → TimeoutManager) (books : Books σ) (outcome : Outcome σ) :
    Prop where
  /-- An id handed out is not 0, and no request with it is under way. -/
  handedOut : ∀ invokeId, outcome.handedOut = some invokeId →
    invokeId ≠ 0 ∧ (requests books.state).active invokeId = false
  /-- A call that fails leaves the table as it was. -/
  unchanged : outcome.failed = true → ∀ invokeId,
    (requests outcome.after).timeouts.lookup invokeId
      = (requests books.state).timeouts.lookup invokeId
  /-- What was handed out is reported once, or is under way. -/
  balanced : (books.enter outcome).Balanced requests
  /-- What is still under way is reported once all time is over. -/
  settled : ∀ now, (∀ invokeId entry,
      (requests outcome.after).timeouts.lookup invokeId = some entry →
        TimeoutManager.overdue now entry = true) →
    ∀ invokeId, (books.enter outcome).handedOut.count invokeId
      = ((books.enter outcome).reported
          ++ ((requests outcome.after).checkTimeouts now).1).count invokeId

end Books

/-- The calls on a timeout manager. -/
inductive TimeoutManager.Call where
  | startRequest (timeout : Duration) (now : Instant)
  | completeRequest (invokeId : UInt8) (now : Instant)
  | checkTimeouts (now : Instant)

/-- The calls on a transport, each with what the socket answers. -/
inductive BacnetIpTransport.Call where
  | sendConfirmedRequest (dest : SocketAddr) (data : Bytes) (timeout : Option Duration)
      (now : Instant) (sendTo : Bytes → SocketAddr → Except TransportError Unit)
  | completeRequest (invokeId : UInt8) (now : Instant)
  | checkTimeouts (now : Instant)

namespace TimeoutManager

/-- One call. -/
def act (self : TimeoutManager) : Call → Outcome TimeoutManager
  | .startRequest timeout now =>
      let (invokeId, after) := self.startRequest timeout now
      ⟨some invokeId, false, [], after⟩
  | .completeRequest invokeId now =>
      let (elapsed, after) := self.completeRequest invokeId now
      ⟨none, false, elapsed.toList.map (fun _ => invokeId), after⟩
  | .checkTimeouts now =>
      let (timedOut, after) := self.checkTimeouts now
      ⟨none, false, timedOut, after⟩

/-- No request with the id that is due is under way. -/
def Clear (self : TimeoutManager) : Call → Prop
  | .startRequest _ _ => self.active self.nextInvokeId = false
  | .completeRequest _ _ | .checkTimeouts _ => True

end TimeoutManager

namespace BacnetIpTransport

/-- One call. -/
def act (self : BacnetIpTransport) : Call → Outcome BacnetIpTransport
  | .sendConfirmedRequest dest data timeout now sendTo =>
      match self.sendConfirmedRequest dest data timeout now sendTo with
      | (.ok invokeId, after) => ⟨some invokeId, false, [], after⟩
      | (.error _, after) => ⟨none, true, [], after⟩
  | .completeRequest invokeId now =>
      let (elapsed, after) := self.completeRequest invokeId now
      ⟨none, false, elapsed.toList.map (fun _ => invokeId), after⟩
  | .checkTimeouts now =>
      let (timedOut, after) := self.checkTimeouts now
      ⟨none, false, timedOut, after⟩

/-- A request is sent, and none with the id that is due is under way; or it is not sent, and the
one under way with that id was to be timed just as this one. -/
def Clear (self : BacnetIpTransport) : Call → Prop
  | .sendConfirmedRequest dest data timeout now sendTo =>
      (sendNpduUnicast data dest sendTo = .ok () ∧ self.requests.active self.nextInvokeId = false)
        ∨ (sendNpduUnicast data dest sendTo ≠ .ok () ∧ self.activeRequests.lookup self.nextInvokeId
          = some (now, timeout.getD self.config.requestTimeout))
  | .completeRequest _ _ | .checkTimeouts _ => True

end BacnetIpTransport

/-! ## §3. One call -/

namespace TimeoutManager

variable {self : TimeoutManager} {invokeId : UInt8} {timeout : Duration} {now : Instant}

/-- The id that comes after is not 0. -/
theorem following_ne_zero (invokeId : UInt8) : following invokeId ≠ 0 := by
  unfold following
  split
  · decide
  · assumption

theorem active_start :
    (self.startRequest timeout now).2.active invokeId
      = (decide (invokeId = self.nextInvokeId) || self.active invokeId) := by
  unfold startRequest active
  rw [KeyedTable.lookup_insert_eq_ite]
  by_cases h : invokeId = self.nextInvokeId
  · simp [h]
  · simp [h]

theorem active_complete {completed : UInt8} :
    (self.completeRequest completed now).2.active invokeId
      = (decide (invokeId ≠ completed) && self.active invokeId) := by
  unfold completeRequest active
  rw [KeyedTable.lookup_erase_eq_ite]
  by_cases h : invokeId = completed
  · simp [h]
  · simp [h]

/-- An id is reported if a request with it was under way. -/
theorem count_complete {completed : UInt8} :
    ((self.completeRequest completed now).1.toList.map (fun _ => completed)).count invokeId
      = (decide (invokeId = completed) && self.active invokeId).toNat := by
  unfold completeRequest active
  by_cases h : invokeId = completed
  · subst h
    cases self.timeouts.lookup invokeId <;> simp
  · cases self.timeouts.lookup completed <;> simp [h, Ne.symm h]

/-- An id is reported once or stays, if a request with it was under way. -/
theorem count_check (self : TimeoutManager) (now : Instant) (invokeId : UInt8) :
    (self.checkTimeouts now).1.count invokeId
        + ((self.checkTimeouts now).2.active invokeId).toNat
      = (self.active invokeId).toNat := by
  unfold checkTimeouts active
  rw [KeyedTable.count_keys, KeyedTable.lookup_retain, KeyedTable.lookup_retain]
  cases hentry : self.timeouts.lookup invokeId with
  | none => rfl
  | some entry =>
      cases hover : overdue now entry with
      | true => simp [Option.filter, hover]
      | false => simp [Option.filter, hover]

/-- When all time is over nothing is under way. -/
theorem active_check_of_overdue
    (h : ∀ invokeId entry, self.timeouts.lookup invokeId = some entry →
      overdue now entry = true) :
    (self.checkTimeouts now).2.active invokeId = false := by
  unfold checkTimeouts active
  rw [KeyedTable.lookup_retain]
  cases hentry : self.timeouts.lookup invokeId with
  | none => rfl
  | some entry => simp [Option.filter, h invokeId entry hentry]

end TimeoutManager

namespace Books

variable {σ : Type} {requests : σ → TimeoutManager} {books : Books σ} {outcome : Outcome σ}

/-- The balance is kept where the calls' own is. -/
theorem balanced_enter (hbalanced : books.Balanced requests)
    (h : ∀ invokeId, ((requests books.state).active invokeId).toNat
        + outcome.handedOut.toList.count invokeId
      = outcome.reported.count invokeId + ((requests outcome.after).active invokeId).toNat) :
    (books.enter outcome).Balanced requests := by
  intro invokeId
  show (books.handedOut ++ outcome.handedOut.toList).count invokeId
    = (books.reported ++ outcome.reported).count invokeId
      + ((requests outcome.after).active invokeId).toNat
  have hbefore := hbalanced invokeId
  have hcall := h invokeId
  rw [List.count_append, List.count_append]
  omega

/-- In a balance, what is under way is reported once all time is over. -/
theorem settled_of_balanced (hbalanced : books.Balanced requests) {now : Instant}
    (hover : ∀ invokeId entry, (requests books.state).timeouts.lookup invokeId = some entry →
      TimeoutManager.overdue now entry = true) (invokeId : UInt8) :
    books.handedOut.count invokeId
      = (books.reported ++ ((requests books.state).checkTimeouts now).1).count invokeId := by
  have hbooks := hbalanced invokeId
  have hcheck := TimeoutManager.count_check (requests books.state) now invokeId
  rw [TimeoutManager.active_check_of_overdue hover] at hcheck
  rw [List.count_append]
  simp only [Bool.toNat_false] at hcheck
  omega

/-- A call that keeps the balance, hands out what it may and fails without a trace is sound. -/
theorem sound_of_balance (hbalanced : books.Balanced requests)
    (hhanded : ∀ invokeId, outcome.handedOut = some invokeId →
      invokeId ≠ 0 ∧ (requests books.state).active invokeId = false)
    (hunchanged : outcome.failed = true → ∀ invokeId,
      (requests outcome.after).timeouts.lookup invokeId
        = (requests books.state).timeouts.lookup invokeId)
    (h : ∀ invokeId, ((requests books.state).active invokeId).toNat
        + outcome.handedOut.toList.count invokeId
      = outcome.reported.count invokeId + ((requests outcome.after).active invokeId).toNat) :
    books.Sound requests outcome := by
  have hafter := balanced_enter hbalanced h
  refine ⟨hhanded, hunchanged, hafter, ?_⟩
  intro now hover invokeId
  exact settled_of_balanced hafter hover invokeId

/-- The table between two calls: in balance, and the id that is due is not 0. -/
structure Regular (requests : σ → TimeoutManager) (books : Books σ) : Prop where
  balanced : books.Balanced requests
  due : (requests books.state).nextInvokeId ≠ 0

variable {after : σ} {timeout : Duration} {now : Instant} {invokeId : UInt8}

/-- **A request that starts is accounted for** if none with its id is under way. -/
theorem sound_of_start_iff (h : books.Regular requests)
    (hafter : requests after = ((requests books.state).startRequest timeout now).2) :
    books.Sound requests ⟨some (requests books.state).nextInvokeId, false, [], after⟩ ↔
      (requests books.state).active (requests books.state).nextInvokeId = false := by
  constructor
  · intro hsound
    exact (hsound.handedOut _ rfl).2
  · intro hclear
    refine sound_of_balance h.balanced ?_ (by intro hfailed; cases hfailed) ?_
    · intro invokeId hhanded
      cases hhanded
      exact ⟨h.due, hclear⟩
    · intro invokeId
      show _ + [(requests books.state).nextInvokeId].count invokeId
        = 0 + ((requests after).active invokeId).toNat
      rw [hafter, TimeoutManager.active_start, List.count_singleton]
      by_cases hid : invokeId = (requests books.state).nextInvokeId
      · subst hid
        simp [hclear]
      · simp [hid, Ne.symm hid]

/-- **A request that is not sent leaves no trace** if what it puts into the table is there. -/
theorem sound_of_failure_iff (h : books.Regular requests)
    (hafter : requests after = ((requests books.state).startRequest timeout now).2) :
    books.Sound requests ⟨none, true, [], after⟩ ↔
      (requests books.state).timeouts.lookup (requests books.state).nextInvokeId
        = some (now, timeout) := by
  have hlookup : ∀ invokeId, (requests after).timeouts.lookup invokeId
      = if invokeId = (requests books.state).nextInvokeId then some (now, timeout)
        else (requests books.state).timeouts.lookup invokeId := by
    intro invokeId
    rw [hafter]
    exact KeyedTable.lookup_insert_eq_ite _ _ _ _
  constructor
  · intro hsound
    rw [← hsound.unchanged rfl, hlookup, if_pos rfl]
  · intro hthere
    have hsame : ∀ invokeId, (requests after).timeouts.lookup invokeId
        = (requests books.state).timeouts.lookup invokeId := by
      intro invokeId
      rw [hlookup]
      split
      · next hid => rw [hid, hthere]
      · rfl
    refine sound_of_balance h.balanced (by intro _ hhanded; cases hhanded) (fun _ => hsame) ?_
    intro invokeId
    show ((requests books.state).active invokeId).toNat + 0
      = 0 + ((requests after).active invokeId).toNat
    unfold TimeoutManager.active
    rw [hsame, Nat.add_zero, Nat.zero_add]

theorem sound_of_complete (h : books.Regular requests)
    (hafter : requests after = ((requests books.state).completeRequest invokeId now).2) :
    books.Sound requests ⟨none, false,
      ((requests books.state).completeRequest invokeId now).1.toList.map (fun _ => invokeId),
      after⟩ := by
  refine sound_of_balance h.balanced (by intro _ hhanded; cases hhanded)
    (by intro hfailed; cases hfailed) ?_
  intro other
  show _ + 0 = _
  rw [TimeoutManager.count_complete, hafter, TimeoutManager.active_complete]
  by_cases hid : other = invokeId
  · simp [hid]
  · simp [hid]

theorem sound_of_check (h : books.Regular requests)
    (hafter : requests after = ((requests books.state).checkTimeouts now).2) :
    books.Sound requests ⟨none, false, ((requests books.state).checkTimeouts now).1, after⟩ := by
  refine sound_of_balance h.balanced (by intro _ hhanded; cases hhanded)
    (by intro hfailed; cases hfailed) ?_
  intro other
  show _ + 0 = _
  rw [hafter, TimeoutManager.count_check, Nat.add_zero]

end Books

/-! ## §4. Runs of either -/

namespace TimeoutManager

variable {books : Books TimeoutManager}

/-- **A call on a manager is sound** if no request with the id that is due is under way. -/
theorem sound_iff_clear (h : books.Regular id) (call : Call) :
    books.Sound id (books.state.act call) ↔ books.state.Clear call := by
  cases call with
  | startRequest timeout now => exact Books.sound_of_start_iff h rfl
  | completeRequest invokeId now => exact iff_of_true (Books.sound_of_complete h rfl) trivial
  | checkTimeouts now => exact iff_of_true (Books.sound_of_check h rfl) trivial

/-- The id that is due stays other than 0. -/
theorem due_act {self : TimeoutManager} (h : self.nextInvokeId ≠ 0) (call : Call) :
    (self.act call).after.nextInvokeId ≠ 0 := by
  cases call with
  | startRequest timeout now => exact following_ne_zero _
  | completeRequest invokeId now => exact h
  | checkTimeouts now => exact h

end TimeoutManager

namespace BacnetIpTransport

variable {books : Books BacnetIpTransport}

section Sending

variable {self : BacnetIpTransport} {dest : SocketAddr} {data : Bytes} {timeout : Option Duration}
variable {now : Instant} {sendTo : Bytes → SocketAddr → Except TransportError Unit}

theorem act_of_sent (h : sendNpduUnicast data dest sendTo = .ok ()) :
    self.act (.sendConfirmedRequest dest data timeout now sendTo)
      = ⟨some self.requests.nextInvokeId, false, [], self.withRequests
          (self.requests.startRequest (timeout.getD self.config.requestTimeout) now).2⟩ := by
  unfold act sendConfirmedRequest TimeoutManager.startRequest
  simp only [h]

theorem act_of_not_sent {e : TransportError} (h : sendNpduUnicast data dest sendTo = .error e) :
    self.act (.sendConfirmedRequest dest data timeout now sendTo)
      = ⟨none, true, [], self.withRequests
          (self.requests.startRequest (timeout.getD self.config.requestTimeout) now).2⟩ := by
  unfold act sendConfirmedRequest TimeoutManager.startRequest
  simp only [h]

theorem clear_of_sent (h : sendNpduUnicast data dest sendTo = .ok ()) :
    self.Clear (.sendConfirmedRequest dest data timeout now sendTo) ↔
      self.requests.active self.requests.nextInvokeId = false := by
  constructor
  · rintro (⟨_, hfree⟩ | ⟨hnot, _⟩)
    · exact hfree
    · exact absurd h hnot
  · intro hfree
    exact .inl ⟨h, hfree⟩

theorem clear_of_not_sent {e : TransportError} (h : sendNpduUnicast data dest sendTo = .error e) :
    self.Clear (.sendConfirmedRequest dest data timeout now sendTo) ↔
      self.requests.timeouts.lookup self.requests.nextInvokeId
        = some (now, timeout.getD self.config.requestTimeout) := by
  constructor
  · rintro (⟨hsent, _⟩ | ⟨_, hthere⟩)
    · cases h.symm.trans hsent
    · exact hthere
  · intro hthere
    refine .inr ⟨?_, hthere⟩
    intro hsent
    cases h.symm.trans hsent

end Sending

/-- **A call on a transport is sound** if what it sends goes out under an id that is free, or
leaves the table as it was. -/
theorem sound_iff_clear (h : books.Regular requests) (call : Call) :
    books.Sound requests (books.state.act call) ↔ books.state.Clear call := by
  cases call with
  | sendConfirmedRequest dest data timeout now sendTo =>
      cases hsent : sendNpduUnicast data dest sendTo with
      | ok _ => rw [act_of_sent hsent, Books.sound_of_start_iff h rfl, clear_of_sent hsent]
      | error e =>
          rw [act_of_not_sent hsent, Books.sound_of_failure_iff h rfl, clear_of_not_sent hsent]
  | completeRequest invokeId now => exact iff_of_true (Books.sound_of_complete h rfl) trivial
  | checkTimeouts now => exact iff_of_true (Books.sound_of_check h rfl) trivial

theorem due_act {self : BacnetIpTransport} (h : self.nextInvokeId ≠ 0) (call : Call) :
    (self.act call).after.nextInvokeId ≠ 0 := by
  cases call with
  | sendConfirmedRequest dest data timeout now sendTo =>
      cases hsent : sendNpduUnicast data dest sendTo with
      | ok _ =>
          rw [act_of_sent hsent]
          exact TimeoutManager.following_ne_zero _
      | error e =>
          rw [act_of_not_sent hsent]
          exact TimeoutManager.following_ne_zero _
  | completeRequest invokeId now => exact h
  | checkTimeouts now => exact h

end BacnetIpTransport

namespace Books

variable {σ ε : Type} {requests : σ → TimeoutManager} {act : σ → ε → Outcome σ}

/-- **A run is sound exactly when it is clear at every call**, for calls of which each is. -/
theorem run_sound_iff {clear : σ → ε → Prop}
    (hcall : ∀ (books : Books σ) call, books.Regular requests →
      (books.Sound requests (act books.state call) ↔ clear books.state call))
    (hdue : ∀ (books : Books σ) call, books.Regular requests →
      (requests (act books.state call).after).nextInvokeId ≠ 0)
    {books : Books σ} (h : books.Regular requests) (calls : List ε) :
    Machine.Throughout (step act) (fun books call => books.Sound requests (act books.state call))
        books calls
      ↔ Machine.Throughout (step act) (fun books call => clear books.state call) books calls := by
  refine Machine.throughout_iff (P := Regular requests) hcall ?_ h
  intro books call after hclear hregular hstep
  cases hstep
  exact ⟨((hcall books call hregular).mpr hclear).balanced, hdue books call hregular⟩

end Books

/-- **Every request is accounted for**, in the runs of a manager and of a transport whose calls are
all clear, and in these only. -/
theorem requests_accounted_iff (managerCalls : List TimeoutManager.Call)
    (transportCalls : List BacnetIpTransport.Call) (config : BacnetIpConfig) (buffer : Nat) :
    (Machine.Throughout (Books.step TimeoutManager.act)
        (fun books call => books.Sound id (books.state.act call))
        ⟨.new, [], []⟩ managerCalls
      ↔ Machine.Throughout (Books.step TimeoutManager.act)
        (fun books call => books.state.Clear call) ⟨.new, [], []⟩ managerCalls)
    ∧ (Machine.Throughout (Books.step BacnetIpTransport.act)
        (fun books call => books.Sound BacnetIpTransport.requests (books.state.act call))
        ⟨.new config buffer, [], []⟩ transportCalls
      ↔ Machine.Throughout (Books.step BacnetIpTransport.act)
        (fun books call => books.state.Clear call) ⟨.new config buffer, [], []⟩
        transportCalls) := by
  constructor
  · refine Books.run_sound_iff (fun books call h => TimeoutManager.sound_iff_clear h call)
      (fun books call h => TimeoutManager.due_act h.due call) ⟨?_, ?_⟩ managerCalls
    · intro invokeId
      rfl
    · decide
  · refine Books.run_sound_iff (fun books call h => BacnetIpTransport.sound_iff_clear h call)
      (fun books call h => BacnetIpTransport.due_act h.due call) ⟨?_, ?_⟩ transportCalls
    · intro invokeId
      rfl
    · show (1 : UInt8) ≠ 0
      decide

/-- So many requests started one after another, none of them completed; induction on how many. -/
theorem run_starts (n : Nat) (h : n < 255) :
    ∃ books, Machine.run (Books.step TimeoutManager.act) ⟨.new, [], []⟩
        (List.replicate n (.startRequest 10 0)) = some books
      ∧ books.state.nextInvokeId = .ofNat (n + 1)
      ∧ (0 < n → books.state.active 1 = true) := by
  induction n with
  | zero => exact ⟨_, rfl, rfl, fun hpos => absurd hpos (Nat.lt_irrefl 0)⟩
  | succ n ih =>
      obtain ⟨books, hrun, hdue, hfirst⟩ := ih (by omega)
      refine ⟨books.enter (books.state.act (.startRequest 10 0)), ?_, ?_, ?_⟩
      · rw [List.replicate_succ', Machine.run_append, hrun]
        rfl
      · show TimeoutManager.following books.state.nextInvokeId = .ofNat (n + 1 + 1)
        have hnext : UInt8.ofNat (n + 1) + 1 = .ofNat (n + 1 + 1) := by
          rw [UInt8.ofNat_add (n + 1) 1]
          rfl
        have hpos : UInt8.ofNat (n + 1 + 1) ≠ 0 := by
          intro hzero
          have hvalue := congrArg UInt8.toNat hzero
          rw [UInt8.toNat_ofNat_of_lt' (by show n + 1 + 1 < 256; omega)] at hvalue
          cases hvalue
        unfold TimeoutManager.following
        rw [hdue, hnext, if_neg hpos]
      · intro _
        show (books.state.startRequest 10 0).2.active 1 = true
        rw [TimeoutManager.active_start, hdue]
        match n with
        | 0 => rfl
        | n + 1 => rw [hfirst (Nat.succ_pos n), Bool.or_true]

/-- The 256th request gets the id of the first; a request that is not sent stays in the table. -/
theorem first_id_again_and_failure_kept :
    (¬ ∀ calls, Machine.Throughout (Books.step TimeoutManager.act)
        (fun books call => books.Sound id (books.state.act call)) ⟨.new, [], []⟩ calls)
      ∧ ¬ ∀ calls, Machine.Throughout (Books.step BacnetIpTransport.act)
        (fun books call => books.Sound BacnetIpTransport.requests (books.state.act call))
        ⟨.new ⟨none, 10, 30⟩ 1500, [], []⟩ calls := by
  constructor
  · intro hall
    -- The request behind 254 others gets the last id, and the next one the first id again.
    obtain ⟨books, hrun, hdue, hfirst⟩ := run_starts 254 (by omega)
    have hlast := hall (List.replicate 254 (.startRequest 10 0)
      ++ [.startRequest 10 0, .startRequest 10 0])
    rw [Machine.throughout_append] at hlast
    obtain ⟨_, hthen⟩ := hlast.2 books hrun
    have hsound := (hthen (books.enter (books.state.act (.startRequest 10 0))) rfl).1
    have hinactive := (hsound.handedOut _ rfl).2
    have hdue' : (books.state.startRequest 10 0).2.nextInvokeId = 1 := by
      show TimeoutManager.following books.state.nextInvokeId = 1
      rw [hdue]
      rfl
    have hagain : (books.state.startRequest 10 0).2.active 1 = false := by
      rw [← hdue']
      exact hinactive
    rw [TimeoutManager.active_start, hfirst (by omega), Bool.or_true] at hagain
    cases hagain
  · intro hall
    have hsound := (hall [.sendConfirmedRequest (.v4 0x0A000001 47808) [] none 0
      (fun _ _ => .error (.ioError 101))]).1
    cases hsound.unchanged rfl 1

end BacnetRs.Transport
