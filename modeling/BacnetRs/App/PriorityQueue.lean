/-
  BacnetRs.App.PriorityQueue — messages waiting to be sent, by priority (`app/mod.rs`).

  Messages of one priority are pushed to the end of a vector and popped from
  its end.  Each call of a run has a number, which is what a message that is
  accepted is stamped with; beside the queue stands what was accepted and what
  was returned, so that it can be said which message came first.

    * `dequeue_eq`          — what is taken, of which priority.
    * `Session.Kept.next`   — nothing is lost, and each vector is in the order
                              of entry.
    * `Session.takesEarliest_iff`
                            — when the message taken is the one that came first.
    * `Session.earliest_first_iff` — in which runs it always is.
-/
import BacnetRs.App.Apdu
import BacnetRs.Library.Attempt
import BacnetRs.Library.Machine

namespace BacnetRs.App

/-! ## §1. The queue -/

inductive MessagePriority where
  /-- Alarms, life safety. -/
  | high
  | normal
  | low
  deriving Repr, DecidableEq

structure QueuedMessage where
  apdu : Apdu
  destination : Bytes
  /-- `_timestamp`, as the number of the call. -/
  timestamp : Nat
  deriving Repr, DecidableEq

/-- What is returned of a message. -/
def QueuedMessage.content (message : QueuedMessage) : Apdu × Bytes :=
  (message.apdu, message.destination)

structure ApplicationPriorityQueue where
  high : List QueuedMessage
  normal : List QueuedMessage
  low : List QueuedMessage
  /-- For each priority. -/
  maxQueueSize : Nat
  deriving Repr, DecidableEq

namespace ApplicationPriorityQueue

def new (maxQueueSize : Nat) : ApplicationPriorityQueue := ⟨[], [], [], maxQueueSize⟩

/-- The messages of a priority, the newest last. -/
def ofPriority (queue : ApplicationPriorityQueue) : MessagePriority → List QueuedMessage
  | .high => queue.high
  | .normal => queue.normal
  | .low => queue.low

def withPriority (queue : ApplicationPriorityQueue) (priority : MessagePriority)
    (messages : List QueuedMessage) : ApplicationPriorityQueue :=
  match priority with
  | .high => { queue with high := messages }
  | .normal => { queue with normal := messages }
  | .low => { queue with low := messages }

/-- `enqueue`. -/
def enqueue (queue : ApplicationPriorityQueue) (now : Nat) (apdu : Apdu) (destination : Bytes)
    (priority : MessagePriority) : Attempt ApplicationError ApplicationPriorityQueue :=
  if (queue.ofPriority priority).length ≥ queue.maxQueueSize then
    .refused queue (.transactionError "Queue full")
  else
    .done (queue.withPriority priority (queue.ofPriority priority ++ [⟨apdu, destination, now⟩]))

/-- `dequeue`. -/
def dequeue (queue : ApplicationPriorityQueue) :
    ApplicationPriorityQueue × Option (Apdu × Bytes) :=
  match queue.high.getLast? with
  | some message => ({ queue with high := queue.high.dropLast }, some message.content)
  | none =>
      match queue.normal.getLast? with
      | some message => ({ queue with normal := queue.normal.dropLast }, some message.content)
      | none =>
          match queue.low.getLast? with
          | some message => ({ queue with low := queue.low.dropLast }, some message.content)
          | none => (queue, none)

/-- The highest priority present. -/
def frontPriority (queue : ApplicationPriorityQueue) : MessagePriority :=
  if queue.high ≠ [] then .high else if queue.normal ≠ [] then .normal else .low

/-- The messages of the highest priority present. -/
def front (queue : ApplicationPriorityQueue) : List QueuedMessage :=
  queue.ofPriority queue.frontPriority

/-- The message that is taken next. -/
def taken (queue : ApplicationPriorityQueue) : Option (MessagePriority × QueuedMessage) :=
  queue.front.getLast?.map (fun message => (queue.frontPriority, message))

/-- All messages, with their priorities. -/
def held (queue : ApplicationPriorityQueue) : List (MessagePriority × QueuedMessage) :=
  queue.high.map (fun message => (.high, message))
    ++ queue.normal.map (fun message => (.normal, message))
    ++ queue.low.map (fun message => (.low, message))

section Operations

variable {queue : ApplicationPriorityQueue}

@[simp] theorem ofPriority_withPriority (priority other : MessagePriority)
    (messages : List QueuedMessage) :
    (queue.withPriority priority messages).ofPriority other
      = if other = priority then messages else queue.ofPriority other := by
  cases priority <;> cases other <;> rfl

/-- **What is taken is the last of the highest priority present.** -/
theorem dequeue_eq (queue : ApplicationPriorityQueue) :
    queue.dequeue = (queue.withPriority queue.frontPriority queue.front.dropLast,
      queue.taken.map (fun taken => taken.2.content)) := by
  obtain ⟨high, normal, low, maxQueueSize⟩ := queue
  have hlast (messages : List QueuedMessage) (hsome : messages ≠ []) :
      ∃ message, messages.getLast? = some message :=
    ⟨messages.getLast hsome, List.getLast?_eq_some_getLast hsome⟩
  unfold dequeue taken front frontPriority
  dsimp only
  by_cases hhigh : high = []
  · subst hhigh
    by_cases hnormal : normal = []
    · subst hnormal
      by_cases hlow : low = []
      · subst hlow
        rfl
      · obtain ⟨message, hmessage⟩ := hlast low hlow
        simp [ofPriority, withPriority, hmessage]
    · obtain ⟨message, hmessage⟩ := hlast normal hnormal
      simp [ofPriority, withPriority, hmessage, hnormal]
  · obtain ⟨message, hmessage⟩ := hlast high hhigh
    simp [ofPriority, withPriority, hmessage, hhigh]

/-- A message is held when the vector of its priority holds it. -/
theorem mem_held {priority : MessagePriority} {message : QueuedMessage} :
    (priority, message) ∈ queue.held ↔ message ∈ queue.ofPriority priority := by
  unfold held
  cases priority <;> simp [ofPriority]

/-- One more of a priority is one more held. -/
theorem held_push (queue : ApplicationPriorityQueue) (priority : MessagePriority)
    (message : QueuedMessage) :
    (queue.withPriority priority (queue.ofPriority priority ++ [message])).held.Perm
      (queue.held ++ [(priority, message)]) := by
  unfold held
  cases priority with
  | high =>
      simp only [withPriority, ofPriority, List.map_append, List.append_assoc]
      exact (List.perm_append_comm.append_left _).trans (by simp)
  | normal =>
      simp only [withPriority, ofPriority, List.map_append, List.append_assoc]
      exact (List.perm_append_comm.append_left _).append_left _
  | low =>
      simp only [withPriority, ofPriority, List.map_append, List.append_assoc]
      exact List.Perm.refl _

/-- What is held is what is taken and what is left. -/
theorem held_taken (queue : ApplicationPriorityQueue) :
    queue.held.Perm (queue.taken.toList ++ queue.dequeue.1.held) := by
  rw [dequeue_eq]
  dsimp only
  cases hlast : queue.front.getLast? with
  | none =>
      have hempty : queue.front = [] := List.getLast?_eq_none_iff.mp hlast
      unfold taken
      rw [hlast, hempty]
      unfold front at hempty
      rw [List.dropLast_nil, ← hempty]
      show queue.held.Perm (queue.withPriority queue.frontPriority _).held
      cases queue.frontPriority <;> exact List.Perm.refl _
  | some message =>
      unfold taken
      rw [hlast]
      have hsplit : queue.front = queue.front.dropLast ++ [message] :=
        (List.dropLast_append_getLast? message hlast).symm
      have hpush := held_push (queue.withPriority queue.frontPriority queue.front.dropLast)
        queue.frontPriority message
      rw [ofPriority_withPriority, if_pos rfl, ← hsplit] at hpush
      have hsame : (queue.withPriority queue.frontPriority queue.front.dropLast).withPriority
          queue.frontPriority queue.front = queue := by
        unfold front
        cases queue.frontPriority <;> rfl
      rw [hsame] at hpush
      exact hpush.trans List.perm_append_comm

end Operations

end ApplicationPriorityQueue

/-! ## §2. Runs -/

/-- A queue, and what became of the messages so far. -/
structure Session where
  /-- The number of the next call. -/
  now : Nat
  queue : ApplicationPriorityQueue
  /-- In order of entry. -/
  accepted : List (MessagePriority × QueuedMessage)
  /-- In the order they left in. -/
  returned : List (MessagePriority × QueuedMessage)

/-- A call of the queue. -/
inductive QueueCall where
  | enqueue (apdu : Apdu) (destination : Bytes) (priority : MessagePriority)
  | dequeue

namespace Session

def start (maxQueueSize : Nat) : Session := ⟨0, .new maxQueueSize, [], []⟩

/-- What an `enqueue` adds to what was accepted. -/
def entering (session : Session) (apdu : Apdu) (destination : Bytes)
    (priority : MessagePriority) : List (MessagePriority × QueuedMessage) :=
  match (session.queue.enqueue session.now apdu destination priority).2 with
  | .ok () => [(priority, ⟨apdu, destination, session.now⟩)]
  | .error _ => []

def step (session : Session) : QueueCall → Option Session
  | .enqueue apdu destination priority =>
      some { session with
        now := session.now + 1
        queue := (session.queue.enqueue session.now apdu destination priority).1
        accepted := session.accepted ++ session.entering apdu destination priority }
  | .dequeue =>
      some { session with
        queue := session.queue.dequeue.1
        returned := session.returned ++ session.queue.taken.toList }

/-- Nothing is lost or returned twice, and each vector is in the order of entry. -/
structure Kept (session : Session) : Prop where
  accounts : session.accepted.Perm (session.returned ++ session.queue.held)
  past : ∀ message ∈ session.accepted, message.2.timestamp < session.now
  distinct : session.accepted.Pairwise (fun a b => a.2.timestamp < b.2.timestamp)
  ordered : ∀ priority, (session.queue.ofPriority priority).Pairwise
    (fun a b => a.timestamp < b.timestamp)

theorem kept_start (maxQueueSize : Nat) : (start maxQueueSize).Kept where
  accounts := List.Perm.refl _
  past := fun _ h => absurd h List.not_mem_nil
  distinct := List.Pairwise.nil
  ordered := by
    intro priority
    cases priority <;> exact List.Pairwise.nil

/-- What is held was accepted. -/
theorem Kept.held_past {session : Session} (h : session.Kept) {priority : MessagePriority}
    {message : QueuedMessage} (hmem : message ∈ session.queue.ofPriority priority) :
    message.timestamp < session.now :=
  h.past (priority, message) (h.accounts.mem_iff.mpr
    (List.mem_append_right _ (ApplicationPriorityQueue.mem_held.mpr hmem)))

theorem Kept.enqueue {session : Session} (h : session.Kept) (apdu : Apdu) (destination : Bytes)
    (priority : MessagePriority) {after : Session}
    (hstep : session.step (.enqueue apdu destination priority) = some after) : after.Kept := by
  cases hstep
  unfold entering ApplicationPriorityQueue.enqueue
  split
  · -- Refused: only a call has gone by.
    simp only [Attempt.refused, List.append_nil]
    exact ⟨h.accounts, fun message hmem => Nat.lt_succ_of_lt (h.past message hmem), h.distinct,
      h.ordered⟩
  · simp only [Attempt.done]
    constructor
    · refine (h.accounts.append_right _).trans ?_
      rw [List.append_assoc]
      exact (ApplicationPriorityQueue.held_push _ priority _).symm.append_left _
    · intro message hmem
      rcases List.mem_append.mp hmem with hmem | hmem
      · exact Nat.lt_succ_of_lt (h.past message hmem)
      · rw [List.mem_singleton.mp hmem]
        exact Nat.lt_succ_self _
    · refine List.pairwise_append.mpr ⟨h.distinct, List.pairwise_singleton _ _, ?_⟩
      intro a ha b hb
      rw [List.mem_singleton.mp hb]
      exact h.past a ha
    · intro other
      rw [ApplicationPriorityQueue.ofPriority_withPriority]
      split
      · refine List.pairwise_append.mpr ⟨h.ordered priority, List.pairwise_singleton _ _, ?_⟩
        intro a ha b hb
        rw [List.mem_singleton.mp hb]
        exact h.held_past ha
      · exact h.ordered other

theorem Kept.dequeue {session after : Session} (h : session.Kept)
    (hstep : session.step .dequeue = some after) : after.Kept := by
  cases hstep
  refine ⟨?_, h.past, h.distinct, ?_⟩
  · refine h.accounts.trans ?_
    rw [List.append_assoc]
    exact session.queue.held_taken.append_left _
  · intro priority
    dsimp only
    rw [ApplicationPriorityQueue.dequeue_eq, ApplicationPriorityQueue.ofPriority_withPriority]
    split
    · exact (h.ordered _).sublist (List.dropLast_sublist _)
    · exact h.ordered priority

/-- **Each call keeps the accounts and the order of entry.** -/
theorem Kept.next {session after : Session} {made : QueueCall} (h : session.Kept)
    (hstep : session.step made = some after) : after.Kept := by
  cases made with
  | enqueue apdu destination priority => exact h.enqueue apdu destination priority hstep
  | dequeue => exact h.dequeue hstep

/-! ## §3. First come -/

/-- The message that a `dequeue` takes came before every other of the highest priority present. -/
def TakesEarliest (session : Session) : QueueCall → Prop
  | .enqueue .. => True
  | .dequeue => ∀ taken ∈ session.queue.taken, ∀ other ∈ session.queue.front,
      taken.2.timestamp ≤ other.timestamp

/-- A `dequeue` finds one message at most of the highest priority present. -/
def OneInFront (session : Session) : QueueCall → Prop
  | .enqueue .. => True
  | .dequeue => session.queue.front.length ≤ 1

/-- **The message taken is the one that came first exactly when there is no other.** -/
theorem takesEarliest_iff {session : Session} (h : session.Kept) (made : QueueCall) :
    session.TakesEarliest made ↔ session.OneInFront made := by
  cases made with
  | enqueue => exact Iff.rfl
  | dequeue =>
      show (∀ taken ∈ session.queue.taken, ∀ other ∈ session.queue.front, _)
        ↔ session.queue.front.length ≤ 1
      have hordered : session.queue.front.Pairwise (fun a b => a.timestamp < b.timestamp) :=
        h.ordered session.queue.frontPriority
      unfold ApplicationPriorityQueue.taken
      generalize session.queue.front = front at hordered ⊢
      cases front with
      | nil => exact iff_of_true (fun _ hnone => nomatch hnone) (Nat.zero_le 1)
      | cons first rest =>
          cases rest with
          | nil =>
              refine iff_of_true ?_ (Nat.le_refl 1)
              intro taken htaken other hother
              cases htaken
              rw [List.mem_singleton.mp hother]
              exact Nat.le_refl _
          | cons second rest =>
              refine iff_of_false (fun hearliest => ?_) (by simp)
              -- The last came after the first.
              have hlast : (first :: second :: rest).getLast?
                  = some ((second :: rest).getLast (List.cons_ne_nil _ _)) :=
                List.getLast?_eq_some_getLast (List.cons_ne_nil _ _)
              have hle := hearliest _ (by rw [hlast]; rfl) first List.mem_cons_self
              have hlt := (List.pairwise_cons.mp hordered).1 _
                (List.getLast_mem (List.cons_ne_nil second rest))
              exact absurd hlt (Nat.not_lt.mpr hle)

/-- What left of a priority, in the order it left in. -/
def left (session : Session) (priority : MessagePriority) : List QueuedMessage :=
  (session.returned.filter (fun message => message.1 == priority)).map Prod.snd

/-- Of each priority, what left did so in the order of entry, before what is left. -/
def LeftInOrder (session : Session) : Prop :=
  ∀ priority, (session.left priority ++ session.queue.ofPriority priority).Pairwise
    (fun a b => a.timestamp < b.timestamp)

theorem leftInOrder_start (maxQueueSize : Nat) : (start maxQueueSize).LeftInOrder := by
  intro priority
  cases priority <;> exact List.Pairwise.nil

/-- **Where one message at most is in front, the order of entry is the order of leaving.** -/
theorem LeftInOrder.next {session after : Session} {made : QueueCall} (h : session.LeftInOrder)
    (hkept : session.Kept) (hfront : session.OneInFront made)
    (hstep : session.step made = some after) : after.LeftInOrder := by
  cases made with
  | enqueue apdu destination priority =>
      cases hstep
      intro other
      show (session.left other ++ (session.queue.enqueue session.now apdu destination
        priority).1.ofPriority other).Pairwise _
      unfold ApplicationPriorityQueue.enqueue
      split
      · exact h other
      · simp only [Attempt.done, ApplicationPriorityQueue.ofPriority_withPriority]
        split
        · next hsame =>
            subst hsame
            rw [← List.append_assoc]
            refine List.pairwise_append.mpr ⟨h other, List.pairwise_singleton _ _, ?_⟩
            intro a ha b hb
            rw [List.mem_singleton.mp hb]
            -- What left was accepted, as what is held was.
            rcases List.mem_append.mp ha with ha | ha
            · obtain ⟨message, hmessage, rfl⟩ := List.mem_map.mp ha
              exact hkept.past message (hkept.accounts.mem_iff.mpr
                (List.mem_append_left _ (List.mem_filter.mp hmessage).1))
            · exact hkept.held_past ha
        · exact h other
  | dequeue =>
      cases hstep
      intro priority
      have hpriority := h priority
      have hone : session.queue.front.length ≤ 1 := hfront
      unfold left at hpriority ⊢
      dsimp only
      rw [ApplicationPriorityQueue.dequeue_eq, ApplicationPriorityQueue.ofPriority_withPriority]
      unfold ApplicationPriorityQueue.taken
      cases hfound : session.queue.front with
      | nil =>
          rw [List.getLast?_nil, Option.map_none, Option.toList_none, List.append_nil,
            List.dropLast_nil]
          split
          · rw [List.append_nil]
            exact hpriority.sublist (List.sublist_append_left _ _)
          · exact hpriority
      | cons message rest =>
          have hrest : rest = [] := by
            rw [hfound, List.length_cons] at hone
            exact List.length_eq_zero_iff.mp (by omega)
          subst hrest
          simp only [List.getLast?_singleton, Option.map_some, Option.toList_some,
            List.filter_append, List.map_append, List.dropLast_singleton]
          split
          · next hsame =>
              subst hsame
              -- The one message moves from the end of the one list to the end of the other.
              unfold ApplicationPriorityQueue.front at hfound
              rw [hfound] at hpriority
              simpa using hpriority
          · next hother =>
              have hnone : (session.queue.frontPriority == priority) = false :=
                beq_eq_false_iff_ne.mpr (Ne.symm hother)
              simpa [hnone] using hpriority

/-- **The message taken is always the one that came first exactly when every `dequeue` of the run
finds one message at most of the highest priority present**; then the messages of a priority leave
in the order they came in.  In every run what is returned is the content of what is taken, the
messages accepted are those returned and those held, each once, and an `enqueue` that is refused
changes nothing. -/
theorem earliest_first_iff (maxQueueSize : Nat) (calls : List QueueCall) :
    (Machine.Throughout step TakesEarliest (start maxQueueSize) calls
      ↔ Machine.Throughout step OneInFront (start maxQueueSize) calls) ∧
    ∀ after, Machine.run step (start maxQueueSize) calls = some after →
      (Machine.Throughout step TakesEarliest (start maxQueueSize) calls → after.LeftInOrder) ∧
      after.accepted.Perm (after.returned ++ after.queue.held) ∧
      after.accepted.Pairwise (fun a b => a.2.timestamp < b.2.timestamp) ∧
      after.queue.dequeue.2 = after.queue.taken.map (fun taken => taken.2.content) ∧
      ∀ apdu destination priority e,
        (after.queue.enqueue after.now apdu destination priority).2 = .error e →
          (after.queue.enqueue after.now apdu destination priority).1 = after.queue := by
  have hiff : Machine.Throughout step TakesEarliest (start maxQueueSize) calls
      ↔ Machine.Throughout step OneInFront (start maxQueueSize) calls :=
    Machine.throughout_iff (fun _ made h => takesEarliest_iff h made)
      (fun _ _ _ _ h hstep => Kept.next h hstep) (kept_start maxQueueSize)
  refine ⟨hiff, fun after hrun => ?_⟩
  have hkept : after.Kept :=
    Machine.run_invariant (fun _ _ _ h hstep => Kept.next h hstep) (kept_start maxQueueSize) hrun
  refine ⟨fun hearliest => ?_, hkept.accounts, hkept.distinct,
    congrArg Prod.snd (ApplicationPriorityQueue.dequeue_eq after.queue), ?_⟩
  · have hboth := Machine.run_invariant_throughout (P := fun s => s.Kept ∧ s.LeftInOrder)
      (fun _ _ _ hfront h hstep => ⟨h.1.next hstep, h.2.next h.1 hfront hstep⟩)
      (hiff.mp hearliest) ⟨kept_start maxQueueSize, leftInOrder_start maxQueueSize⟩ hrun
    exact hboth.2
  · intro apdu destination priority e
    unfold ApplicationPriorityQueue.enqueue
    split
    · intro _
      rfl
    · intro h
      cases h

/-- Two messages of one priority leave in the wrong order. -/
theorem second_leaves_first :
    (Machine.run step (start 4) [.enqueue (.simpleAck 1 12) [] .normal,
        .enqueue (.simpleAck 2 12) [] .normal, .dequeue, .dequeue]).map
          (fun after => after.returned.map (fun message => message.2.apdu))
      = some [.simpleAck 2 12, .simpleAck 1 12] ∧
    ¬ ∀ maxQueueSize calls, Machine.Throughout step TakesEarliest (start maxQueueSize) calls := by
  refine ⟨by decide, fun hall => ?_⟩
  have hrun := hall 4 [.enqueue (.simpleAck 1 12) [] .normal,
    .enqueue (.simpleAck 2 12) [] .normal, .dequeue]
  have htaken := ((hrun.2 _ rfl).2 _ rfl).1 (.normal, ⟨.simpleAck 2 12, [], 1⟩) rfl
    ⟨.simpleAck 1 12, [], 0⟩ (by decide)
  exact absurd htaken (by decide)

end Session

end BacnetRs.App
