/-
  BacnetRs.Cov.Engine — watching subscribed objects and reporting changes
  (`CovEngine` in `cov/mod.rs`).

  A tick expires what has lapsed, forgets what was reported to subscriptions
  that are gone, and for each live subscription reads the monitored properties
  once, decides whether any has moved far enough from the value last reported,
  and if so reports them all.  The engine sees the table at ticks only.

    * `exists_visit`         — the loop pays each subscription one visit.
    * `announced_iff`        — a tick announces a live subscription exactly
                               when it is worth sending to before the loop.
    * `baseline_tick_iff`    — what a tick tells a subscription becomes its
                               baseline, and nothing else changes one.
    * `baseline_tick_held`   — what the engine remembers after a tick it
                               remembers for subscriptions still held.
-/
import BacnetRs.Cov.Subscriptions
import BacnetRs.Object.Database
import BacnetRs.Service.CovNotification

namespace BacnetRs.Cov

open BacnetRs.Encoding BacnetRs.Object BacnetRs.Property BacnetRs.Service BacnetRs.Network

/-! ## §1. What is worth reporting -/

/-- `(now - before).abs() >= increment` on `f32`. -/
def movedBy (before now increment : F32) : Bool :=
  decide (increment.toFloat ≤ (now.toFloat - before.toFloat).abs)

/-- `reportable`: a first observation always reports; an increment applies to reals
only, and anything else reports when it differs. -/
def reportable (previous : Option PropertyValue) (current : PropertyValue)
    (increment : Option F32) : Bool :=
  match previous with
  | none => true
  | some previous =>
      match previous, current, increment with
      | .real before, .real now, some increment => movedBy before now increment
      | previous, current, _ => !previous.eq current

/-- `monitored_properties`: the one named, or the pair clause 13.1 defines. -/
def monitoredProperties (subscription : Subscription) : List PropertyIdentifier :=
  match subscription.key.monitoredProperty with
  | some property => [property]
  | none => [.presentValue, .statusFlags]

/-- `increment_for`. -/
def incrementFor (database : DatabaseView) (subscription : Subscription)
    (property : PropertyIdentifier) : Option F32 :=
  match subscription.covIncrement with
  | some increment => some increment
  | none =>
      -- The object's own increment is that of its present value.
      if property ≠ .presentValue then none
      else
        match database.getProperty subscription.key.monitoredObject .covIncrement with
        | .ok (.real increment) => some increment
        | _ => none

/-- The monitored properties that can be read, with what is read. -/
def observed (database : DatabaseView) (subscription : Subscription) :
    List (PropertyIdentifier × PropertyValue) :=
  (monitoredProperties subscription).filterMap (fun property =>
    (database.getProperty subscription.key.monitoredObject property).toOption.map
      (fun value => (property, value)))

theorem mem_observed {database : DatabaseView} {subscription : Subscription}
    {property : PropertyIdentifier} {value : PropertyValue} :
    (property, value) ∈ observed database subscription
      ↔ property ∈ monitoredProperties subscription
        ∧ database.getProperty subscription.key.monitoredObject property = .ok value := by
  unfold observed
  rw [List.mem_filterMap]
  constructor
  · rintro ⟨read, hread, heq⟩
    obtain ⟨found, hfound, hpair⟩ := Option.map_eq_some_iff.mp heq
    cases hpair
    refine ⟨hread, ?_⟩
    cases hget : database.getProperty subscription.key.monitoredObject property with
    | error refused => rw [hget] at hfound; cases hfound
    | ok value' => rw [hget] at hfound; cases hfound; rfl
  · rintro ⟨hmem, hget⟩
    refine ⟨property, hmem, ?_⟩
    rw [hget]
    rfl

theorem monitoredProperties_nodup (subscription : Subscription) :
    (monitoredProperties subscription).Nodup := by
  unfold monitoredProperties
  cases subscription.key.monitoredProperty with
  | some property => exact List.nodup_singleton property
  | none => decide

/-- No property is read twice. -/
theorem observed_nodup (database : DatabaseView) (subscription : Subscription) :
    ((observed database subscription).map Prod.fst).Nodup := by
  unfold observed
  rw [List.map_filterMap]
  apply List.Nodup.filterMap ?_ (monitoredProperties_nodup subscription)
  intro property property' read hread hread'
  simp only [Option.map_map, Option.mem_def, Option.map_eq_some_iff] at hread hread'
  obtain ⟨_, _, rfl⟩ := hread
  obtain ⟨_, _, heq⟩ := hread'
  exact heq.symm

/-! ## §2. The engine -/

/-- A notification and where it goes. -/
structure AddressedCovNotification where
  notification : CovNotification
  address : SocketAddr
  confirmed : Bool

/-- The engine: whose device it reports for, and the last value reported for each
subscription and property. -/
structure CovEngine where
  device : ObjectIdentifier
  reported : KeyedTable (SubscriptionKey × PropertyIdentifier) PropertyValue

/-- One of the notifications sent to a subscription carries `value` for `property`. -/
def Tells (announced : List (SubscriptionKey × AddressedCovNotification)) (key : SubscriptionKey)
    (property : PropertyIdentifier) (value : PropertyValue) : Prop :=
  ∃ sent, (key, sent) ∈ announced ∧ sent.notification.Carries property value

/-- What a tick leaves, and what it announces to which subscription. -/
structure Ticked where
  engine : CovEngine
  subscriptions : CovSubscriptions
  announced : List (SubscriptionKey × AddressedCovNotification)

/-- What `tick` returns. -/
def Ticked.notifications (ticked : Ticked) : List AddressedCovNotification :=
  ticked.announced.map Prod.snd

/-- The clock published and the lapsed expired, as a tick begins. -/
def CovSubscriptions.advanceTo (subscriptions : CovSubscriptions) (now : Nat) :
    CovSubscriptions :=
  (subscriptions.setNow now).expire now

namespace CovEngine

/-- `CovEngine::new`. -/
def new (deviceInstance : UInt32) : CovEngine := ⟨⟨.device, deviceInstance⟩, ∅⟩

/-- What was last reported to a subscription about a property. -/
def baseline (engine : CovEngine) (key : SubscriptionKey) (property : PropertyIdentifier) :
    Option PropertyValue :=
  engine.reported.lookup (key, property)

/-- `worth_sending`. -/
def worthSending (engine : CovEngine) (database : DatabaseView) (subscription : Subscription) :
    Bool :=
  (observed database subscription).any (fun read =>
    reportable (engine.baseline subscription.key read.1) read.2
      (incrementFor database subscription read.1))

/-- The notification a subscription is sent. -/
def announcement (engine : CovEngine) (database : DatabaseView) (now : Nat)
    (subscription : Subscription) : AddressedCovNotification where
  notification :=
    { subscriberProcessIdentifier := subscription.key.processIdentifier
      initiatingDevice := engine.device
      monitoredObject := subscription.key.monitoredObject
      timeRemaining := subscription.timeRemaining now
      listOfValues := (observed database subscription).map
        (fun read => CovPropertyValue.new read.1 read.2) }
  address := subscription.key.address
  confirmed := subscription.confirmed

/-- Every value a subscriber is told becomes the new baseline. -/
def remember (engine : CovEngine) (key : SubscriptionKey)
    (told : List (PropertyIdentifier × PropertyValue)) : CovEngine :=
  { engine with
    reported := told.foldl
      (fun reported read => reported.insert (key, read.1) read.2) engine.reported }

/-- The body of `tick`'s loop. -/
def reportOne (engine : CovEngine) (database : DatabaseView) (now : Nat)
    (subscription : Subscription) : CovEngine × Option AddressedCovNotification :=
  if engine.worthSending database subscription then
    (engine.remember subscription.key (observed database subscription),
      some (engine.announcement database now subscription))
  else (engine, none)

/-- `tick`'s loop over the live subscriptions. -/
def reportEach (engine : CovEngine) (database : DatabaseView) (now : Nat) :
    List Subscription → CovEngine × List (SubscriptionKey × AddressedCovNotification)
  | [] => (engine, [])
  | subscription :: live =>
      let (engine, notification) := engine.reportOne database now subscription
      let (engine, announced) := engine.reportEach database now live
      (engine, notification.toList.map (fun sent => (subscription.key, sent)) ++ announced)

/-- Forget what was reported to subscriptions that are not among `live`. -/
def forget (engine : CovEngine) (live : List SubscriptionKey) : CovEngine :=
  { engine with
    reported := KeyedTable.retain (fun entry _ => decide (entry.1 ∈ live)) engine.reported }

/-- `tick`. -/
def tick (engine : CovEngine) (database : DatabaseView) (subscriptions : CovSubscriptions)
    (now : Nat) : Ticked :=
  let subscriptions := subscriptions.advanceTo now
  let live := subscriptions.all
  let (engine, announced) :=
    (engine.forget (live.map Subscription.key)).reportEach database now live
  ⟨engine, subscriptions, announced⟩

/-! ## §3. The loop, one subscription at a time -/

theorem baseline_remember_of_ne {key other : SubscriptionKey} (hne : other ≠ key)
    (property : PropertyIdentifier) :
    ∀ (told : List (PropertyIdentifier × PropertyValue)) (engine : CovEngine),
      (engine.remember key told).baseline other property = engine.baseline other property
  | [], _ => rfl
  | (read, value) :: told, engine => by
      have hhead : (engine.reported.insert (key, read) value).lookup (other, property)
          = engine.reported.lookup (other, property) :=
        AList.lookup_insert_ne (fun heq => hne (Prod.mk.inj heq).1)
      have htail := baseline_remember_of_ne hne property told
        { engine with reported := engine.reported.insert (key, read) value }
      exact htail.trans hhead

/-- What is told becomes the baseline, and what is not told leaves it. -/
theorem baseline_remember_iff {key : SubscriptionKey} {property : PropertyIdentifier}
    {value : PropertyValue} :
    ∀ {told : List (PropertyIdentifier × PropertyValue)} (engine : CovEngine),
      (told.map Prod.fst).Nodup →
      ((engine.remember key told).baseline key property = some value
        ↔ (property, value) ∈ told
          ∨ (engine.baseline key property = some value ∧ ∀ other, (property, other) ∉ told))
  | [], engine, _ => by
      show engine.baseline key property = some value ↔ _
      simp
  | (read, first) :: told, engine, hnodup => by
      obtain ⟨hfresh, hrest⟩ := List.nodup_cons.mp hnodup
      have hfirst : (engine.remember key [(read, first)]).baseline key property
          = if property = read then some first else engine.baseline key property := by
        show (engine.reported.insert (key, read) first).lookup (key, property) = _
        rw [KeyedTable.lookup_insert_eq_ite]
        simp [baseline]
      refine Iff.trans (baseline_remember_iff (engine.remember key [(read, first)]) hrest) ?_
      rw [hfirst]
      by_cases hproperty : property = read
      · -- named once, so nothing later in the list speaks of it
        subst hproperty
        have hnot : ∀ other, (property, other) ∉ told := fun other hmem =>
          hfresh (List.mem_map.mpr ⟨_, hmem, rfl⟩)
        simp [hnot, eq_comm]
      · simp [hproperty]

/-- A visit leaves the baselines of every other subscription alone. -/
theorem baseline_reportOne_of_ne (engine : CovEngine) (database : DatabaseView) (now : Nat)
    {subscription : Subscription} {other : SubscriptionKey} (hne : other ≠ subscription.key)
    (property : PropertyIdentifier) :
    (engine.reportOne database now subscription).1.baseline other property
      = engine.baseline other property := by
  unfold reportOne
  split
  · exact baseline_remember_of_ne hne property _ engine
  · rfl

/-- Whether a subscription is worth sending to depends on its own baselines only. -/
theorem worthSending_congr {engine engine' : CovEngine} {subscription : Subscription}
    (h : ∀ property, engine'.baseline subscription.key property
      = engine.baseline subscription.key property) (database : DatabaseView) :
    engine'.worthSending database subscription = engine.worthSending database subscription := by
  unfold worthSending
  congr 1
  funext read
  rw [h read.1]

theorem reportOne_isSome (engine : CovEngine) (database : DatabaseView) (now : Nat)
    (subscription : Subscription) :
    (engine.reportOne database now subscription).2.isSome
      = engine.worthSending database subscription := by
  unfold reportOne
  cases engine.worthSending database subscription <;> rfl

theorem carries_announcement (engine : CovEngine) (database : DatabaseView) (now : Nat)
    (subscription : Subscription) {property : PropertyIdentifier} {value : PropertyValue} :
    (engine.announcement database now subscription).notification.Carries property value
      ↔ (property, value) ∈ observed database subscription := by
  show CovPropertyValue.new property value ∈ (observed database subscription).map _ ↔ _
  simp [CovPropertyValue.new]

/-- A visit remembers what it sends, and nothing else changes. -/
theorem baseline_reportOne_iff (engine : CovEngine) (database : DatabaseView) (now : Nat)
    (subscription : Subscription) {property : PropertyIdentifier} {value : PropertyValue} :
    (engine.reportOne database now subscription).1.baseline subscription.key property = some value
      ↔ (∃ sent, (engine.reportOne database now subscription).2 = some sent
            ∧ sent.notification.Carries property value)
        ∨ (engine.baseline subscription.key property = some value
          ∧ ∀ other, ¬ ∃ sent, (engine.reportOne database now subscription).2 = some sent
            ∧ sent.notification.Carries property other) := by
  unfold reportOne
  split
  · simp only [Option.some.injEq, exists_eq_left', carries_announcement]
    exact baseline_remember_iff engine (observed_nodup database subscription)
  · simp

/-- A loop announces what its first visit does, and then what the others do. -/
theorem announced_cons (engine : CovEngine) (database : DatabaseView) (now : Nat)
    (first : Subscription) (live : List Subscription) :
    (engine.reportEach database now (first :: live)).2
      = (engine.reportOne database now first).2.toList.map (fun sent => (first.key, sent))
        ++ ((engine.reportOne database now first).1.reportEach database now live).2 := rfl

/-- What the loop announces is to subscriptions it visits. -/
theorem key_mem_of_reportEach {database : DatabaseView} {now : Nat} {key : SubscriptionKey}
    {notification : AddressedCovNotification} :
    ∀ {live : List Subscription} {engine : CovEngine},
      (key, notification) ∈ (engine.reportEach database now live).2 →
      key ∈ live.map Subscription.key
  | [], _, h => absurd h List.not_mem_nil
  | subscription :: live, engine, h => by
      rcases List.mem_append.mp h with h | h
      · obtain ⟨_, _, heq⟩ := List.mem_map.mp h
        rw [← (Prod.mk.inj heq).1]
        exact List.mem_cons_self
      · exact List.mem_cons_of_mem _ (key_mem_of_reportEach h)

/-- What the loop leaves remembered for a subscription it did not visit was there
before. -/
theorem baseline_reportEach_of_not_mem (database : DatabaseView) (now : Nat)
    {key : SubscriptionKey} (property : PropertyIdentifier) :
    ∀ {live : List Subscription} (engine : CovEngine), key ∉ live.map Subscription.key →
      (engine.reportEach database now live).1.baseline key property
        = engine.baseline key property
  | [], _, _ => rfl
  | visited :: live, engine, h => by
      obtain ⟨hne, hrest⟩ := not_or.mp (fun hmem => h (List.mem_cons.mpr hmem))
      have hvisit := baseline_reportOne_of_ne engine database now hne property
      exact (baseline_reportEach_of_not_mem database now property
        (engine.reportOne database now visited).1 hrest).trans hvisit

/-- **The loop pays each subscription one visit**, and visits to the others neither add to
its baselines nor take from them: what the loop remembers of it and announces to it is
what that visit does. -/
theorem exists_visit (database : DatabaseView) (now : Nat) {subscription : Subscription} :
    ∀ {live : List Subscription} (engine : CovEngine),
      (live.map Subscription.key).Nodup → subscription ∈ live →
      ∃ visited : CovEngine,
        (∀ property, visited.baseline subscription.key property
            = engine.baseline subscription.key property)
          ∧ (∀ property, (engine.reportEach database now live).1.baseline subscription.key property
            = (visited.reportOne database now subscription).1.baseline subscription.key property)
          ∧ ∀ notification, (subscription.key, notification)
              ∈ (engine.reportEach database now live).2
            ↔ (visited.reportOne database now subscription).2 = some notification
  | [], _, _, hmem => absurd hmem List.not_mem_nil
  | first :: live, engine, hnodup, hmem => by
      obtain ⟨hfresh, hrest⟩ := List.nodup_cons.mp hnodup
      simp only [announced_cons, List.mem_append, List.mem_map, Option.mem_toList, Prod.mk.injEq]
      by_cases hkey : subscription.key = first.key
      · -- keys are distinct, so this visit is the subscription's own and the only one
        have hfirst : subscription = first := by
          rcases List.mem_cons.mp hmem with heq | hlater
          · exact heq
          · exact absurd (hkey ▸ List.mem_map_of_mem hlater) hfresh
        subst hfirst
        refine ⟨engine, fun _ => rfl, fun property => ?_, fun notification => ?_⟩
        · exact baseline_reportEach_of_not_mem database now property _ hfresh
        · constructor
          · rintro (⟨sent, hsent, _, rfl⟩ | h)
            · exact hsent
            · exact absurd (key_mem_of_reportEach h) hfresh
          · intro hsent
            exact .inl ⟨notification, hsent, rfl, rfl⟩
      · have hlater : subscription ∈ live := by
          rcases List.mem_cons.mp hmem with heq | hlater
          · exact absurd (congrArg Subscription.key heq) hkey
          · exact hlater
        obtain ⟨visited, hsame, hleaves, hsends⟩ := exists_visit database now
          (engine.reportOne database now first).1 hrest hlater
        refine ⟨visited, fun property => ?_, hleaves, fun notification => ?_⟩
        · rw [hsame property]
          exact baseline_reportOne_of_ne engine database now hkey property
        · rw [← hsends notification]
          constructor
          · rintro (⟨_, _, heq, _⟩ | h)
            · exact absurd heq.symm hkey
            · exact h
          · exact Or.inr

/-- **The loop announces exactly what was worth sending when it began.** -/
theorem mem_reportEach_iff (database : DatabaseView) (now : Nat) {subscription : Subscription}
    {live : List Subscription} (engine : CovEngine)
    (hnodup : (live.map Subscription.key).Nodup) (hmem : subscription ∈ live) :
    (∃ notification, (subscription.key, notification)
        ∈ (engine.reportEach database now live).2)
      ↔ engine.worthSending database subscription = true := by
  obtain ⟨visited, hsame, _, hsends⟩ := exists_visit database now engine hnodup hmem
  rw [← worthSending_congr hsame, ← reportOne_isSome visited database now,
    Option.isSome_iff_exists]
  exact exists_congr hsends

theorem announcement_congr {engine engine' : CovEngine} (h : engine'.device = engine.device)
    (database : DatabaseView) (now : Nat) (subscription : Subscription) :
    engine'.announcement database now subscription
      = engine.announcement database now subscription := by
  unfold announcement
  rw [h]

theorem device_reportOne (engine : CovEngine) (database : DatabaseView) (now : Nat)
    (subscription : Subscription) :
    (engine.reportOne database now subscription).1.device = engine.device := by
  unfold reportOne
  split
  · rfl
  · rfl

/-- What the loop announces to a subscription is its announcement. -/
theorem sent_of_reportEach {database : DatabaseView} {now : Nat} {key : SubscriptionKey}
    {sent : AddressedCovNotification} :
    ∀ {live : List Subscription} {engine : CovEngine},
      (key, sent) ∈ (engine.reportEach database now live).2 →
      ∃ subscription ∈ live, subscription.key = key
        ∧ sent = engine.announcement database now subscription
  | [], _, h => absurd h List.not_mem_nil
  | first :: live, engine, h => by
      rw [announced_cons, List.mem_append] at h
      rcases h with h | h
      · obtain ⟨notification, hnotification, heq⟩ := List.mem_map.mp h
        cases heq
        have hone := Option.mem_toList.mp hnotification
        unfold reportOne at hone
        split at hone
        · cases hone
          exact ⟨first, List.mem_cons_self, rfl, rfl⟩
        · cases hone
      · obtain ⟨subscription, hmem, hkey, hsent⟩ := sent_of_reportEach h
        rw [announcement_congr (device_reportOne engine database now first)] at hsent
        exact ⟨subscription, List.mem_cons_of_mem _ hmem, hkey, hsent⟩

/-! ## §4. The tick -/

theorem baseline_forget (engine : CovEngine) (live : List SubscriptionKey)
    (key : SubscriptionKey) (property : PropertyIdentifier) :
    (engine.forget live).baseline key property
      = if key ∈ live then engine.baseline key property else none := by
  unfold baseline forget
  rw [KeyedTable.lookup_retain]
  by_cases hmem : key ∈ live
  · rw [if_pos hmem]
    cases engine.reported.lookup (key, property) <;> simp [hmem]
  · rw [if_neg hmem]
    cases engine.reported.lookup (key, property) <;> simp [hmem]

/-- **A tick announces a live subscription exactly when it is worth sending to.** -/
theorem announced_iff (engine : CovEngine) (database : DatabaseView)
    (subscriptions : CovSubscriptions) (now : Nat) {key : SubscriptionKey}
    {subscription : Subscription}
    (hheld : (subscriptions.advanceTo now).held key = some subscription) :
    (∃ notification, (key, notification)
        ∈ (engine.tick database subscriptions now).announced)
      ↔ engine.worthSending database subscription = true := by
  have hkey : subscription.key = key :=
    (subscriptions.advanceTo now).keyed key subscription hheld
  rw [← hkey] at hheld ⊢
  have hmem := CovSubscriptions.mem_all_iff.mpr hheld
  have hloop := mem_reportEach_iff database now
    (engine.forget ((subscriptions.advanceTo now).all.map Subscription.key))
    (subscriptions.advanceTo now).all_keys_nodup hmem
  refine hloop.trans ?_
  rw [worthSending_congr (fun property => ?_) database]
  rw [baseline_forget, if_pos (List.mem_map_of_mem hmem)]

/-- **What a tick announces**: to each subscription worth sending to, its announcement. -/
theorem sent_iff (engine : CovEngine) (database : DatabaseView)
    (subscriptions : CovSubscriptions) (now : Nat) {key : SubscriptionKey}
    {sent : AddressedCovNotification} :
    (key, sent) ∈ (engine.tick database subscriptions now).announced
      ↔ ∃ subscription, (subscriptions.advanceTo now).held key = some subscription
        ∧ engine.worthSending database subscription = true
        ∧ sent = engine.announcement database now subscription := by
  have hsent : ∀ {sent}, (key, sent) ∈ (engine.tick database subscriptions now).announced →
      ∃ subscription, (subscriptions.advanceTo now).held key = some subscription
        ∧ sent = engine.announcement database now subscription := by
    intro sent h
    obtain ⟨subscription, hmem, rfl, rfl⟩ := sent_of_reportEach h
    exact ⟨subscription, CovSubscriptions.mem_all_iff.mp hmem, announcement_congr rfl _ _ _⟩
  constructor
  · intro h
    obtain ⟨subscription, hheld, hannouncement⟩ := hsent h
    exact ⟨subscription, hheld, (announced_iff engine database subscriptions now hheld).mp ⟨_, h⟩,
      hannouncement⟩
  · rintro ⟨subscription, hheld, hworth, rfl⟩
    obtain ⟨found, hfound⟩ :=
      (announced_iff engine database subscriptions now hheld).mpr hworth
    obtain ⟨subscription', hheld', rfl⟩ := hsent hfound
    rw [hheld] at hheld'
    cases hheld'
    exact hfound

/-- **What a tick tells a subscription becomes its baseline**, and where it tells nothing of
a property the baseline stays. -/
theorem baseline_tick_iff (engine : CovEngine) (database : DatabaseView)
    (subscriptions : CovSubscriptions) (now : Nat) {key : SubscriptionKey}
    {subscription : Subscription}
    (hheld : (subscriptions.advanceTo now).held key = some subscription)
    {property : PropertyIdentifier} {value : PropertyValue} :
    (engine.tick database subscriptions now).engine.baseline key property = some value
      ↔ Tells (engine.tick database subscriptions now).announced key property value
        ∨ (engine.baseline key property = some value
          ∧ ∀ other, ¬ Tells (engine.tick database subscriptions now).announced key
              property other) := by
  have hkey : subscription.key = key :=
    (subscriptions.advanceTo now).keyed key subscription hheld
  rw [← hkey] at hheld ⊢
  have hmem := CovSubscriptions.mem_all_iff.mpr hheld
  obtain ⟨visited, hsame, hleaves, hsends⟩ := exists_visit database now
    (engine.forget ((subscriptions.advanceTo now).all.map Subscription.key))
    (subscriptions.advanceTo now).all_keys_nodup hmem
  have hbefore : visited.baseline subscription.key property
      = engine.baseline subscription.key property := by
    rw [hsame property, baseline_forget, if_pos (List.mem_map_of_mem hmem)]
  have htells : ∀ other, Tells (engine.tick database subscriptions now).announced
        subscription.key property other
      ↔ ∃ sent, (visited.reportOne database now subscription).2 = some sent
          ∧ sent.notification.Carries property other :=
    fun other => exists_congr (fun sent => and_congr_left' (hsends sent))
  have hafter : (engine.tick database subscriptions now).engine.baseline subscription.key property
      = (visited.reportOne database now subscription).1.baseline subscription.key property :=
    hleaves property
  rw [hafter, ← hbefore]
  simp only [htells]
  exact baseline_reportOne_iff visited database now subscription

/-- A tick tells something only to what it holds. -/
theorem key_mem_of_tells {engine : CovEngine} {database : DatabaseView}
    {subscriptions : CovSubscriptions} {now : Nat} {key : SubscriptionKey}
    {property : PropertyIdentifier} {value : PropertyValue}
    (h : Tells (engine.tick database subscriptions now).announced key property value) :
    key ∈ (engine.tick database subscriptions now).subscriptions.all.map Subscription.key := by
  obtain ⟨sent, hmem, _⟩ := h
  exact key_mem_of_reportEach hmem

/-- **What a tick leaves remembered, it remembers for what is held.** -/
theorem baseline_tick_held {engine : CovEngine} {database : DatabaseView}
    {subscriptions : CovSubscriptions} {now : Nat} {key : SubscriptionKey}
    {property : PropertyIdentifier} {value : PropertyValue}
    (h : (engine.tick database subscriptions now).engine.baseline key property = some value) :
    key ∈ (engine.tick database subscriptions now).subscriptions.all.map Subscription.key := by
  by_contra hnot
  have hnone : (engine.tick database subscriptions now).engine.baseline key property = none := by
    refine (baseline_reportEach_of_not_mem database now property
      (engine.forget ((subscriptions.advanceTo now).all.map Subscription.key)) hnot).trans ?_
    rw [baseline_forget]
    exact if_neg hnot
  rw [hnone] at h
  cases h

end CovEngine

end BacnetRs.Cov
