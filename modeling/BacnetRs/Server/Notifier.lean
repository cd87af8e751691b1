/-
  BacnetRs.Server.Notifier — what a device sends unprompted (`server/bip.rs`).

  A confirmed notification goes out under an invoke identifier that no other
  request to its destination is waiting on.  They are counted round, and the
  search ends after all 256 of them; if all are taken, the first is used again.
  The request is registered before it is sent, and withdrawn if it cannot be.

    * `nextInvokeId_free`   — a free identifier is found if there is one.
    * `Notifier.leavesPending_iff`
                            — when a request that was not sent leaves the table
                              as it was.
    * `Notifier.withdrawn_alone_iff` — in which runs every one does.
-/
import BacnetRs.Library.Attempt
import BacnetRs.Library.Machine
import BacnetRs.Server.Bip
import BacnetRs.Server.Transactions

namespace BacnetRs.Server

open BacnetRs.Object BacnetRs.Service BacnetRs.Network BacnetRs.App

/-! ## §1. The notifier -/

/-- `NotificationTarget`. -/
inductive NotificationTarget where
  | unicast (address : SocketAddr)
  | broadcast
  deriving Repr, DecidableEq

structure Notifier where
  broadcastAddress : SocketAddr
  /-- The device behind a router that is speaking. -/
  source : Option NetworkAddress
  /-- The counter behind the invoke identifiers. -/
  invokeId : UInt8
  /-- Without it a confirmed notification is never followed up. -/
  transactions : Option Table
  deriving Repr, DecidableEq

/-- The loop of `next_invoke_id`: the identifier found, or the one it moved onto last, and the
counter. -/
def searchInvokeId (inFlight : UInt8 → Bool) : Nat → UInt8 → UInt8 → Except UInt8 UInt8 × UInt8
  | 0, id, counter => (.error id, counter)
  | rounds + 1, id, counter =>
      if !inFlight id then (.ok id, counter)
      else searchInvokeId inFlight rounds counter (counter + 1)

namespace Notifier

/-- `next_invoke_id`. -/
def nextInvokeId (self : Notifier) (destination : SocketAddr) : UInt8 × Notifier :=
  match self.transactions with
  | none => (self.invokeId, { self with invokeId := self.invokeId + 1 })
  | some table =>
      let first := self.invokeId
      match searchInvokeId (table.inFlight destination) 255 first (first + 1) with
      | (.ok id, counter) => (id, { self with invokeId := counter })
      | (.error id, counter) =>
          -- The 256th identifier, which the loop moved onto without checking.
          (if !table.inFlight destination id then id else first, { self with invokeId := counter })

/-- `route`. -/
def route (self : Notifier) : NotificationTarget → SocketAddr × BvlcFunction
  | .unicast address => (address, .originalUnicastNpdu)
  | .broadcast => (self.broadcastAddress, .originalBroadcastNpdu)

/-- `npdu`: a confirmed request asks the recipient to reply. -/
def npdu (self : Notifier) (confirmed : Bool) : Bytes :=
  let npdu : Npdu :=
    { Npdu.new with control := { Npdu.new.control with expectingReply := confirmed } }
  match self.source with
  | some source => (npdu.setSource source).encode
  | none => npdu.encode

/-- The APDU that `send` makes. -/
def apdu (serviceData : Bytes) (confirmed : Option ConfirmedServiceChoice)
    (unconfirmed : UnconfirmedServiceChoice) (invokeId : Option UInt8) : Apdu :=
  match confirmed, invokeId with
  | some serviceChoice, some invokeId =>
      .confirmedRequest
        { segmented := false
          moreFollows := false
          segmentedResponseAccepted := false
          maxSegments := .unspecified
          maxResponseSize := .up1476
          invokeId
          sequenceNumber := none
          proposedWindowSize := none
          serviceChoice
          serviceData }
  | _, _ => .unconfirmedRequest unconfirmed serviceData

/-- The frame that `send` writes. -/
def frame (self : Notifier) (function : BvlcFunction) (serviceData : Bytes)
    (confirmed : Option ConfirmedServiceChoice) (unconfirmed : UnconfirmedServiceChoice)
    (invokeId : Option UInt8) : Bytes :=
  wrapBvlcParts function
    [self.npdu confirmed.isSome, (apdu serviceData confirmed unconfirmed invokeId).encode]

/-- `send`, at `now`; `socket` is what `send_to` returns. -/
def send {ε : Type} (self : Notifier) (destination : NotificationTarget) (serviceData : Bytes)
    (confirmed : Option ConfirmedServiceChoice) (unconfirmed : UnconfirmedServiceChoice)
    (now : Instant) (socket : Bytes → SocketAddr → Except ε Unit) : Attempt ε Notifier :=
  let (address, function) := self.route destination
  let (invokeId, self) :=
    match confirmed with
    | some _ =>
        let (invokeId, counted) := self.nextInvokeId address
        (some invokeId, counted)
    | none => (none, self)
  let frame := self.frame function serviceData confirmed unconfirmed invokeId
  -- Registered before sending: the reply can be served before `send_to` returns.
  match self.transactions, confirmed, invokeId with
  | some table, some service, some invokeId =>
      let registered := table.register address invokeId service frame now
      match socket frame address with
      | .ok () => .done { self with transactions := some registered }
      | .error e =>
          .refused { self with transactions := some (registered.withdraw address invokeId) } e
  | _, _, _ =>
      match socket frame address with
      | .ok () => .done self
      | .error e => .refused self e

end Notifier

/-! ## §2. The search -/

/-- **An identifier is found, or all that were tried are in flight.** -/
theorem searchInvokeId_spec (inFlight : UInt8 → Bool) (rounds : Nat) (id : UInt8) :
    (∃ found counter, searchInvokeId inFlight rounds id (id + 1) = (.ok found, counter)
        ∧ inFlight found = false) ∨
    ∃ counter, searchInvokeId inFlight rounds id (id + 1)
        = (.error (id + UInt8.ofNat rounds), counter)
      ∧ ∀ k < rounds, inFlight (id + UInt8.ofNat k) = true := by
  -- By induction on the rounds: the id is free, or the search goes on from the next.
  induction rounds generalizing id with
  | zero =>
      refine .inr ⟨id + 1, ?_, fun k hk => absurd hk (Nat.not_lt_zero k)⟩
      show (Except.error id, _) = (Except.error (id + 0), _)
      rw [UInt8.add_zero]
  | succ rounds ih =>
      unfold searchInvokeId
      cases htaken : inFlight id with
      | false => exact .inl ⟨id, id + 1, rfl, htaken⟩
      | true =>
          have hnext (k : Nat) : id + 1 + UInt8.ofNat k = id + UInt8.ofNat (k + 1) := by
            rw [UInt8.add_assoc, UInt8.ofNat_add, UInt8.add_comm (UInt8.ofNat k)]
            rfl
          rcases ih (id + 1) with hfound | ⟨counter, hlast, hall⟩
          · exact .inl hfound
          · refine .inr ⟨counter, ?_, ?_⟩
            · rw [← hnext]
              exact hlast
            · intro k hk
              cases k with
              | zero =>
                  show inFlight (id + 0) = true
                  rw [UInt8.add_zero]
                  exact htaken
              | succ k =>
                  rw [← hnext]
                  exact hall k (by omega)

namespace Notifier

/-- Every identifier waits on an answer from the destination. -/
def Exhausted (table : Table) (destination : SocketAddr) : Prop :=
  ∀ id, table.inFlight destination id = true

/-- **A free identifier is found if there is one**, wherever the counter stands. -/
theorem nextInvokeId_free {self : Notifier} {table : Table} {destination : SocketAddr}
    (htable : self.transactions = some table) (hfree : ¬ Exhausted table destination) :
    table.inFlight destination (self.nextInvokeId destination).1 = false := by
  unfold nextInvokeId
  rw [htable]
  dsimp only
  rcases searchInvokeId_spec (table.inFlight destination) 255 self.invokeId with
    ⟨found, counter, hsearch, hfound⟩ | ⟨counter, hsearch, hall⟩
  · rw [hsearch]
    exact hfound
  · rw [hsearch]
    dsimp only
    cases hlast : table.inFlight destination (self.invokeId + UInt8.ofNat 255) with
    | false => exact hlast
    | true =>
        -- All 256 would be taken: each is so many steps from the first.
        refine absurd (fun id => ?_) hfree
        have hid : id = self.invokeId + UInt8.ofNat (id - self.invokeId).toNat := by
          rw [UInt8.ofNat_toNat, UInt8.add_comm, UInt8.sub_add_cancel]
        rw [hid]
        have hbound := (id - self.invokeId).toNat_lt
        rcases Nat.lt_or_ge (id - self.invokeId).toNat 255 with hlt | hge
        · exact hall _ hlt
        · rw [show (id - self.invokeId).toNat = 255 by omega]
          exact hlast

/-- Only the counter moves. -/
theorem nextInvokeId_counts (self : Notifier) (destination : SocketAddr) :
    ∃ counter, (self.nextInvokeId destination).2 = { self with invokeId := counter } := by
  unfold nextInvokeId
  split
  · exact ⟨_, rfl⟩
  · dsimp only
    split <;> exact ⟨_, rfl⟩

/-! ## §3. One request -/

/-- A request goes from the table again. -/
theorem withdraw_register (table : Table) (destination : SocketAddr) (invokeId : UInt8)
    (service : ConfirmedServiceChoice) (frame : Bytes) (now : Instant) :
    (table.register destination invokeId service frame now).withdraw destination invokeId
      = table.withdraw destination invokeId := by
  unfold Table.register Table.withdraw
  simp [List.filter_append, Pending.isFor]

/-- A withdrawal changes the table exactly when the identifier is in flight. -/
theorem withdraw_eq_self_iff (table : Table) (destination : SocketAddr) (invokeId : UInt8) :
    table.withdraw destination invokeId = table ↔ table.inFlight destination invokeId = false := by
  unfold Table.withdraw Table.inFlight
  obtain ⟨pending, answered⟩ := table
  simp only [Table.mk.injEq, and_true, List.filter_eq_self, Bool.not_eq_true', List.any_eq_false,
    Bool.not_eq_true]

section Send

variable {ε : Type} {self : Notifier} (destination : NotificationTarget) (serviceData : Bytes)
  {confirmed : Option ConfirmedServiceChoice} (unconfirmed : UnconfirmedServiceChoice)
  (now : Instant) (socket : Bytes → SocketAddr → Except ε Unit)

/-- The identifier that a confirmed request goes out under. -/
def chosen (self : Notifier) (destination : NotificationTarget) : UInt8 :=
  (self.nextInvokeId (self.route destination).1).1

/-- What `send_to` returns of a confirmed request. -/
def outcome (self : Notifier) (destination : NotificationTarget) (serviceData : Bytes)
    (service : ConfirmedServiceChoice) (unconfirmed : UnconfirmedServiceChoice)
    (socket : Bytes → SocketAddr → Except ε Unit) : Except ε Unit :=
  let (address, function) := self.route destination
  socket (self.frame function serviceData (some service) unconfirmed
    (some (self.chosen destination))) address

/-- What is not confirmed, or not followed up, is not in the table. -/
theorem send_untracked (h : self.transactions = none ∨ confirmed = none) :
    (self.send destination serviceData confirmed unconfirmed now socket).1.transactions
      = self.transactions := by
  unfold send
  cases confirmed with
  | none =>
      dsimp only
      split
      · contradiction
      · split <;> rfl
  | some service =>
      have hnone : self.transactions = none := h.resolve_right (fun hsome => nomatch hsome)
      obtain ⟨counter, hcounted⟩ := self.nextInvokeId_counts (self.route destination).1
      dsimp only
      rw [hcounted]
      dsimp only
      rw [hnone]
      dsimp only
      split <;> rfl

/-- **A confirmed request is in the table once it is sent, and otherwise withdrawn.** -/
theorem send_tracked {table : Table} (service : ConfirmedServiceChoice)
    (htable : self.transactions = some table) :
    (self.send destination serviceData (some service) unconfirmed now socket).2
        = self.outcome destination serviceData service unconfirmed socket ∧
    (self.outcome destination serviceData service unconfirmed socket = .ok () → ∃ frame,
      (self.send destination serviceData (some service) unconfirmed now socket).1.transactions
        = some (table.register (self.route destination).1 (self.chosen destination) service frame
            now)) ∧
    ∀ e, self.outcome destination serviceData service unconfirmed socket = .error e →
      (self.send destination serviceData (some service) unconfirmed now socket).1.transactions
        = some (table.withdraw (self.route destination).1 (self.chosen destination)) := by
  obtain ⟨counter, hcounted⟩ := self.nextInvokeId_counts (self.route destination).1
  have hframe : ({ self with invokeId := counter } : Notifier).frame = self.frame := rfl
  unfold send outcome chosen
  dsimp only
  rw [hcounted, hframe]
  dsimp only
  rw [htable]
  dsimp only
  generalize socket _ (self.route destination).1 = result
  cases result with
  | ok u => exact ⟨rfl, fun _ => ⟨_, rfl⟩, fun e herror => nomatch herror⟩
  | error error =>
      refine ⟨rfl, ?_, ?_⟩
      · intro hok
        cases hok
      · intro e _
        show some _ = some _
        rw [withdraw_register]

end Send

/-! ## §4. Runs -/

/-- What becomes of the table: the notifier sends, the dispatcher takes in an answer, or what is
due is collected. -/
inductive Event (ε : Type) where
  | send (destination : NotificationTarget) (serviceData : Bytes)
      (confirmed : Option ConfirmedServiceChoice) (unconfirmed : UnconfirmedServiceChoice)
      (now : Instant) (socket : Bytes → SocketAddr → Except ε Unit)
  | answer (source : SocketAddr) (invokeId : UInt8) (outcome : Outcome)
  | poll (database : DatabaseView) (now : Instant)

def step {ε : Type} (self : Notifier) : Event ε → Option Notifier
  | .send destination serviceData confirmed unconfirmed now socket =>
      some (self.send destination serviceData confirmed unconfirmed now socket).1
  | .answer source invokeId outcome =>
      some { self with
        transactions := self.transactions.map (fun table => table.answer source invokeId outcome) }
  | .poll database now =>
      some { self with
        transactions := self.transactions.map (fun table => (table.due database now).1) }

/-- A request whose socket write fails leaves the pending requests as they were. -/
def LeavesPending {ε : Type} (self : Notifier) : Event ε → Prop
  | .send destination serviceData confirmed unconfirmed now socket =>
      ∀ e, (self.send destination serviceData confirmed unconfirmed now socket).2 = .error e →
        (self.send destination serviceData confirmed unconfirmed now socket).1.transactions
          = self.transactions
  | .answer .. | .poll .. => True

/-- A confirmed request that is followed up is sent, or an identifier was free for it. -/
def SentOrRoom {ε : Type} (self : Notifier) : Event ε → Prop
  | .send destination serviceData confirmed unconfirmed _ socket =>
      ∀ table service, self.transactions = some table → confirmed = some service →
        self.outcome destination serviceData service unconfirmed socket = .ok () ∨
        ¬ Exhausted table (self.route destination).1
  | .answer .. | .poll .. => True

/-- With every identifier in flight, the one chosen is. -/
theorem chosen_inFlight_iff {self : Notifier} {table : Table} {destination : NotificationTarget}
    (htable : self.transactions = some table) :
    table.inFlight (self.route destination).1 (self.chosen destination) = false
      ↔ ¬ Exhausted table (self.route destination).1 := by
  constructor
  · intro hfree hall
    rw [hall] at hfree
    cases hfree
  · exact nextInvokeId_free htable

/-- **When a request that was not sent leaves the table as it was.** -/
theorem leavesPending_iff {ε : Type} (self : Notifier) (event : Event ε) :
    self.LeavesPending event ↔ self.SentOrRoom event := by
  cases event with
  | answer | poll => exact Iff.rfl
  | send destination serviceData confirmed unconfirmed now socket =>
      unfold LeavesPending SentOrRoom
      dsimp only
      cases htable : self.transactions with
      | none =>
          refine iff_of_true (fun e _ => ?_) (fun table _ hsome => nomatch hsome)
          rw [send_untracked _ _ _ _ _ (.inl htable), htable]
      | some table =>
          cases confirmed with
          | none =>
              refine iff_of_true (fun e _ => ?_) (fun _ _ _ hsome => nomatch hsome)
              rw [send_untracked _ _ _ _ _ (.inr rfl), htable]
          | some service =>
              obtain ⟨hresult, -, hrefused⟩ := send_tracked destination serviceData unconfirmed
                now socket service htable
              rw [hresult]
              cases houtcome : self.outcome destination serviceData service unconfirmed socket with
              | ok u =>
                  refine iff_of_true (fun e h => nomatch h) ?_
                  intro _ _ _ hservice
                  cases hservice
                  exact .inl houtcome
              | error e =>
                  -- The withdrawal took nothing else exactly when the identifier was free.
                  rw [hrefused e houtcome]
                  have hiff := (withdraw_eq_self_iff table (self.route destination).1
                    (self.chosen destination)).trans (chosen_inFlight_iff htable)
                  constructor
                  · intro hsame other _ hother hservice
                    cases hother
                    exact .inr (hiff.mp (Option.some.inj (hsame e rfl)))
                  · intro hroom _ _
                    rcases hroom table service rfl rfl with hok | hroom
                    · rw [houtcome] at hok
                      cases hok
                    · rw [hiff.mpr hroom]

/-- No two requests to the destination wait under one identifier. -/
def Apart (destination : SocketAddr) (self : Notifier) : Prop :=
  ∀ table, self.transactions = some table →
    table.pending.Pairwise (fun a b =>
      a.destination = destination → b.destination = destination → a.invokeId ≠ b.invokeId)

/-- A confirmed request to the destination finds some identifier free for it. -/
def HasRoom {ε : Type} (destination : SocketAddr) (self : Notifier) : Event ε → Prop
  | .send target _ confirmed _ _ _ =>
      ∀ table service, self.transactions = some table → confirmed = some service →
        (self.route target).1 = destination → ¬ Exhausted table destination
  | .answer .. | .poll .. => True

theorem Apart.answer {self : Notifier} {destination : SocketAddr} (h : self.Apart destination)
    (source : SocketAddr) (invokeId : UInt8) (outcome : Outcome) :
    Apart destination { self with
      transactions := self.transactions.map (fun table => table.answer source invokeId outcome) } := by
  intro table hafter
  obtain ⟨before, htable, rfl⟩ := Option.map_eq_some_iff.mp hafter
  have hless : (before.answer source invokeId outcome).pending.Sublist before.pending := by
    unfold Table.answer
    split
    · exact List.Sublist.refl _
    · exact List.eraseP_sublist
  exact (h before htable).sublist hless

/-- What goes on waiting does so under its own destination and identifier. -/
theorem visit_kept {pending waiting : Pending} {now : Instant} {timeout : Duration}
    {retries : UInt8} (h : (pending.visit now timeout retries).kept = some waiting) :
    waiting.destination = pending.destination ∧ waiting.invokeId = pending.invokeId := by
  unfold Pending.visit at h
  split at h
  · cases h
    exact ⟨rfl, rfl⟩
  split at h
  · cases h
  · cases h
    exact ⟨rfl, rfl⟩

theorem Apart.poll {self : Notifier} {destination : SocketAddr} (h : self.Apart destination)
    (database : DatabaseView) (now : Instant) :
    Apart destination { self with
      transactions := self.transactions.map (fun table => (table.due database now).1) } := by
  intro table hafter
  obtain ⟨before, htable, rfl⟩ := Option.map_eq_some_iff.mp hafter
  rw [due_eq rfl]
  refine (h before htable).filterMap _ ?_
  intro a b hab waiting hwaiting other hother
  obtain ⟨hdestination, hid⟩ := visit_kept hwaiting
  obtain ⟨hdestination', hid'⟩ := visit_kept hother
  rw [hdestination, hdestination', hid, hid']
  exact hab

/-- **A request goes out under an identifier of its own**, where one is free. -/
theorem Apart.register {table : Table} {self : Notifier} {target : NotificationTarget}
    {destination : SocketAddr} (h : self.Apart destination)
    (htable : self.transactions = some table)
    (hroom : (self.route target).1 = destination → ¬ Exhausted table destination)
    (service : ConfirmedServiceChoice) (frame : Bytes) (now : Instant) :
    (table.register (self.route target).1 (self.chosen target) service frame now).pending.Pairwise
      (fun a b => a.destination = destination → b.destination = destination →
        a.invokeId ≠ b.invokeId) := by
  refine List.pairwise_append.mpr ⟨h table htable, List.pairwise_singleton _ _, ?_⟩
  intro a ha b hb hsame hdestination heq
  rw [List.mem_singleton.mp hb] at hdestination heq
  have hflight := List.any_eq_false.mp (nextInvokeId_free htable (hroom hdestination)) a ha
  rw [← show (self.route target).1 = destination from hdestination] at hflight hsame
  apply hflight
  unfold Pending.isFor
  rw [Bool.and_eq_true, beq_iff_eq, beq_iff_eq]
  exact ⟨hsame, heq⟩

theorem Apart.send {ε : Type} {self : Notifier} {destination : SocketAddr}
    (h : self.Apart destination) {target : NotificationTarget} {serviceData : Bytes}
    {confirmed : Option ConfirmedServiceChoice} {unconfirmed : UnconfirmedServiceChoice}
    {now : Instant} {socket : Bytes → SocketAddr → Except ε Unit}
    (hroom : ∀ table service, self.transactions = some table → confirmed = some service →
      (self.route target).1 = destination → ¬ Exhausted table destination) :
    (self.send target serviceData confirmed unconfirmed now socket).1.Apart destination := by
  intro found hfound
  cases htable : self.transactions with
  | none =>
      rw [send_untracked _ _ _ _ _ (.inl htable), htable] at hfound
      cases hfound
  | some table =>
      cases confirmed with
      | none =>
          rw [send_untracked _ _ _ _ _ (.inr rfl)] at hfound
          exact h found hfound
      | some service =>
          obtain ⟨-, hsent, hrefused⟩ :=
            send_tracked target serviceData unconfirmed now socket service htable
          cases houtcome : self.outcome target serviceData service unconfirmed socket with
          | error e =>
              rw [hrefused e houtcome] at hfound
              cases hfound
              exact (h table htable).sublist List.filter_sublist
          | ok u =>
              obtain ⟨frame, hafter⟩ := hsent houtcome
              rw [hafter] at hfound
              cases hfound
              exact h.register htable (hroom table service htable rfl) service frame now

/-- **Requests to one destination stay apart** where each finds an identifier free. -/
theorem Apart.next {ε : Type} {self after : Notifier} {destination : SocketAddr}
    {event : Event ε} (h : self.Apart destination) (hroom : self.HasRoom destination event)
    (hstep : self.step event = some after) : after.Apart destination := by
  cases event with
  | answer source invokeId outcome =>
      cases hstep
      exact h.answer source invokeId outcome
  | poll database now =>
      cases hstep
      exact h.poll database now
  | send target serviceData confirmed unconfirmed now socket =>
      cases hstep
      exact h.send hroom

/-- **Every request of a run whose socket write fails leaves the pending requests as they were
exactly when each that fails, being confirmed and followed up, finds an identifier free for its
destination.**  Wherever the counter stands and whatever the table holds, the search returns a free
identifier if there is one; and two requests to one destination wait under one identifier only
where one of them found all 256 in flight. -/
theorem withdrawn_alone_iff {ε : Type} (self : Notifier) (events : List (Event ε)) :
    (Machine.Throughout step LeavesPending self events
      ↔ Machine.Throughout step SentOrRoom self events) ∧
    (∀ table destination, self.transactions = some table → ¬ Exhausted table destination →
      table.inFlight destination (self.nextInvokeId destination).1 = false) ∧
    ∀ destination after, Machine.run step self events = some after → self.Apart destination →
      Machine.Throughout step (HasRoom destination) self events → after.Apart destination := by
  refine ⟨Machine.throughout_iff (P := fun _ => True) (fun s event _ => leavesPending_iff s event)
    (fun _ _ _ _ _ _ => trivial) trivial, ?_, ?_⟩
  · intro table destination htable hfree
    exact nextInvokeId_free htable hfree
  · intro destination after hrun hapart hroom
    exact Machine.run_invariant_throughout (fun _ _ _ hroom h hstep => h.next hroom hstep) hroom
      hapart hrun

/-- Requests to one peer under all 256 identifiers. -/
def allInFlight (address : SocketAddr) : Table :=
  ⟨(List.range 256).map (fun id =>
    ⟨address, UInt8.ofNat id, .confirmedEventNotification, [], 0, 0⟩), []⟩

theorem exhausted_allInFlight (address : SocketAddr) :
    Exhausted (allInFlight address) address := by
  intro id
  refine List.any_eq_true.mpr ⟨_, List.mem_map.mpr ⟨id.toNat, ?_, rfl⟩, ?_⟩
  · exact List.mem_range.mpr id.toNat_lt
  · simp [Pending.isFor]

/-- One of them is withdrawn. -/
theorem withdraw_allInFlight (address : SocketAddr) (id : UInt8) :
    ((allInFlight address).withdraw address id).outstanding = 255 := by
  have hone : (List.range 256).countP (fun k => UInt8.ofNat k == id) = 1 := by
    have hcount : (List.range 256).count id.toNat = 1 :=
      List.count_eq_one_of_mem List.nodup_range (List.mem_range.mpr id.toNat_lt)
    rw [← hcount, List.count]
    refine List.countP_congr (fun k hk => ?_)
    have hk256 := List.mem_range.mp hk
    rw [beq_iff_eq, beq_iff_eq]
    constructor
    · intro h
      rw [← h, UInt8.toNat_ofNat_of_lt' hk256]
    · intro h
      rw [h, UInt8.ofNat_toNat]
  have hall := List.length_eq_countP_add_countP (fun k => UInt8.ofNat k == id) (l := List.range 256)
  rw [hone, List.length_range] at hall
  unfold Table.outstanding Table.withdraw allInFlight
  simp only [List.filter_map, List.length_map, ← List.countP_eq_length_filter, Function.comp_def,
    Pending.isFor, beq_self_eq_true, Bool.true_and]
  simp only [Bool.not_eq_true] at hall
  show List.countP (fun k => !(UInt8.ofNat k == id)) (List.range 256) = 255
  simp only [Bool.decide_eq_false] at hall
  omega

/-- With all 256 in flight, a request that is not sent takes an older one with it. -/
theorem older_withdrawn :
    let peer : SocketAddr := .v4 0x0A000005 47808
    let notifier : Notifier := ⟨.v4 0xFFFFFFFF 47808, none, 1, some (allInFlight peer)⟩
    let event : Event Unit := .send (.unicast peer) [] (some .confirmedEventNotification)
      .unconfirmedEventNotification 0 (fun _ _ => .error ())
    (notifier.step event).map (fun after =>
        (after.transactions.map Table.outstanding, notifier.transactions.map Table.outstanding))
      = some (some 255, some 256) ∧
    ¬ Machine.Throughout step LeavesPending notifier [event] := by
  intro peer notifier event
  refine ⟨?_, fun hleaves => ?_⟩
  · have hsize : (allInFlight peer).outstanding = 256 := by
      simp [Table.outstanding, allInFlight]
    have htable : notifier.transactions = some (allInFlight peer) := rfl
    obtain ⟨-, -, hrefused⟩ := send_tracked (.unicast peer) [] .unconfirmedEventNotification 0
      (fun _ _ => Except.error ()) .confirmedEventNotification htable
    show some (Option.map _ (Notifier.send _ _ _ _ _ _ _).1.transactions,
      some (allInFlight peer).outstanding) = _
    rw [hrefused () rfl, hsize, Option.map_some]
    rw [show (notifier.route (.unicast peer)).1 = peer from rfl, withdraw_allInFlight]
  · have hfree := (leavesPending_iff _ _).mp hleaves.1 (allInFlight (.v4 0x0A000005 47808))
      .confirmedEventNotification rfl rfl
    rcases hfree with hsent | hroom
    · cases hsent
    · exact hroom (exhausted_allInFlight _)
end Notifier

end BacnetRs.Server
