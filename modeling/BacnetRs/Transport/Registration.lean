/-
  BacnetRs.Transport.Registration — registering with a BBMD as a foreign device
  (`transport/mod.rs`).

  A request, and then a wait for the result: what arrives is decoded, and all
  but a Result of the BBMD is waited past.  The two octets of the result code
  are read once it is seen that there are any:

    * `receive_panics_iff`, `receive_eq_ok_iff` — what one arrival comes to.
    * `registration_panics_iff` — when something is read that is not there.
    * `messages_and_registration_iff` — the same of every function on messages.
-/
import BacnetRs.Library.KeyedTable
import BacnetRs.Library.Words
import BacnetRs.Transport.Bvll

namespace BacnetRs.Transport

open Network

/-! ## §1. The transport -/

/-- `ForeignDeviceRegistration`. -/
structure ForeignDeviceRegistration where
  bbmdAddress : SocketAddr
  ttl : UInt16
  lastRegistration : Instant
  deriving Repr, DecidableEq

/-- `BacnetIpConfig`. -/
structure BacnetIpConfig where
  foreignDevice : Option ForeignDeviceRegistration
  requestTimeout : Duration
  registrationTimeout : Duration
  deriving Repr, DecidableEq

/-- `BacnetIpTransport`.  Of the receive buffer there is how much it has room for. -/
structure BacnetIpTransport where
  config : BacnetIpConfig
  buffer : Nat
  activeRequests : KeyedTable UInt8 (Instant × Duration)
  nextInvokeId : UInt8

/-- One turn of a wait: what the clock says, and what the socket returns. -/
structure Turn where
  elapsed : Duration
  /-- The read timeout, remembered and set. -/
  prepared : Except TransportError Unit
  received : Except TransportError (Bytes × SocketAddr)
  /-- The read timeout, set back. -/
  restored : Except TransportError Unit
  now : Instant

namespace BacnetIpTransport

/-- `receive_bvll`. -/
def receiveBvll (self : BacnetIpTransport) (received : Except TransportError (Bytes × SocketAddr)) :
    Checked TransportError (BvllMessage × SocketAddr) := do
  let (datagram, src) ← Checked.ofExcept received
  let message ← BvllMessage.decode (datagram.take self.buffer)
  return (message, src)

/-- `receive_bvll_timeout`. -/
def receiveBvllTimeout (self : BacnetIpTransport) (turn : Turn) :
    Checked TransportError (BvllMessage × SocketAddr) := do
  Checked.ofExcept turn.prepared
  match self.receiveBvll turn.received with
  | .error .panic => .error .panic
  | result => do
      Checked.ofExcept turn.restored
      result

/-- The transport, registered. -/
def registered (self : BacnetIpTransport) (bbmdAddr : SocketAddr) (ttl : UInt16) (now : Instant) :
    BacnetIpTransport :=
  { self with config := { self.config with foreignDevice := some ⟨bbmdAddr, ttl, now⟩ } }

/-- The wait of `register_foreign_device`.  When the turns are over so is the time; `ended` is
what the clock says then. -/
def awaitConfirmation (self : BacnetIpTransport) (bbmdAddr : SocketAddr) (ttl : UInt16)
    (ended : Instant) : List Turn → Checked TransportError BacnetIpTransport
  -- No answer came in time, which the source takes for a registration too.
  | [] => .ok (self.registered bbmdAddr ttl ended)
  | turn :: turns =>
      if turn.elapsed < self.config.registrationTimeout then
        match self.receiveBvllTimeout turn with
        | .error .panic => .error .panic
        -- Anything that is no frame is waited past.
        | .error (.error _) => awaitConfirmation self bbmdAddr ttl ended turns
        | .ok (response, src) =>
            if src = bbmdAddr ∧ response.header.function = .result ∧ response.data ≠ [] then do
              -- Only one octet is known to be there.
              let high ← Octets.index response.data 0
              let low ← Octets.index response.data 1
              if Octets.wordOf high low = 0 then .ok (self.registered bbmdAddr ttl turn.now)
              else Checked.fail .registrationFailed
            else awaitConfirmation self bbmdAddr ttl ended turns
      else .ok (self.registered bbmdAddr ttl turn.now)

/-- The message of `register_foreign_device`. -/
def registration (ttl : UInt16) : BvllMessage :=
  BvllMessage.new .registerForeignDevice [Octets.highOctet ttl, Octets.lowOctet ttl]

/-- `register_foreign_device`: the transport afterwards, when what it fails with changes nothing.
`sendTo` is what the socket answers to the request. -/
def registerForeignDevice (self : BacnetIpTransport) (bbmdAddr : SocketAddr) (ttl : UInt16)
    (sendTo : Bytes → SocketAddr → Except TransportError Unit) (turns : List Turn)
    (ended : Instant) : Checked TransportError BacnetIpTransport := do
  Checked.ofExcept (sendTo (registration ttl).encode bbmdAddr)
  self.awaitConfirmation bbmdAddr ttl ended turns

end BacnetIpTransport

/-! ## §2. What can arrive -/

namespace Turn

/-- A datagram from `src` has arrived, of which the receive buffer has room for these octets. -/
def Brings (turn : Turn) (buffer : Nat) (octets : Bytes) (src : SocketAddr) : Prop :=
  turn.prepared = .ok () ∧ ∃ datagram, turn.received = .ok (datagram, src)
    ∧ datagram.take buffer = octets

/-- An answer of the BBMD is looked at, with these data. -/
def Answers (turn : Turn) (buffer : Nat) (bbmdAddr : SocketAddr) (data : Bytes) : Prop :=
  turn.restored = .ok ()
    ∧ ∃ octets, turn.Brings buffer octets bbmdAddr ∧ Carries octets .result data

/-- A datagram that announces less than its header, or a Result of the BBMD with a single octet. -/
def Harmful (turn : Turn) (buffer : Nat) (bbmdAddr : SocketAddr) : Prop :=
  (∃ octets src, turn.Brings buffer octets src ∧ Stunted octets)
    ∨ ∃ octet, turn.Answers buffer bbmdAddr [octet]

/-- The turn is the last: it comes too late, or with a Result of the BBMD that has its code. -/
def Final (turn : Turn) (timeout : Duration) (buffer : Nat) (bbmdAddr : SocketAddr) : Prop :=
  timeout ≤ turn.elapsed
    ∨ ∃ high low rest, turn.Answers buffer bbmdAddr (high :: low :: rest)

end Turn

/-! ## §3. One arrival -/

namespace BacnetIpTransport

variable {self : BacnetIpTransport} {turn : Turn} {octets : Bytes} {src bbmdAddr : SocketAddr}
variable {message : BvllMessage}

/-- An arrival is decoded, and what is made of it is given if the timeout can be set back. -/
theorem receive_of_brings (h : turn.Brings self.buffer octets src) :
    (BvllMessage.decode octets = .error .panic ∧ self.receiveBvllTimeout turn = .error .panic)
      ∨ (BvllMessage.decode octets ≠ .error .panic ∧ self.receiveBvllTimeout turn = do
          Checked.ofExcept turn.restored
          let message ← BvllMessage.decode octets
          return (message, src)) := by
  obtain ⟨hprepared, datagram, hreceived, rfl⟩ := h
  unfold receiveBvllTimeout receiveBvll
  rw [hprepared, hreceived]
  simp only [Checked.ofExcept, Checked.ok_bind]
  cases hdecode : BvllMessage.decode (datagram.take self.buffer) with
  | ok message => exact .inr ⟨(by intro h; cases h), rfl⟩
  | error fault =>
      cases fault with
      | panic => exact .inl ⟨rfl, rfl⟩
      | error e => exact .inr ⟨(by intro h; cases h), rfl⟩

/-- Without an arrival nothing is decoded. -/
theorem receive_of_nothing (h : ¬ ∃ octets src, turn.Brings self.buffer octets src) :
    ∃ e, self.receiveBvllTimeout turn = Checked.fail e := by
  unfold receiveBvllTimeout receiveBvll
  cases hprepared : turn.prepared with
  | error e => exact ⟨e, rfl⟩
  | ok _ =>
      cases hreceived : turn.received with
      | ok arrival =>
          exact absurd ⟨_, arrival.2, hprepared, arrival.1, hreceived, rfl⟩ h
      | error e =>
          simp only [Checked.ofExcept, Checked.ok_bind]
          cases turn.restored with
          | ok _ => exact ⟨e, rfl⟩
          | error e' => exact ⟨e', rfl⟩

/-- One arrival is seen in a turn. -/
theorem brings_unique {octets' : Bytes} {src' : SocketAddr} {buffer : Nat}
    (h : turn.Brings buffer octets src) (h' : turn.Brings buffer octets' src') :
    octets = octets' ∧ src = src' := by
  obtain ⟨_, datagram, hreceived, rfl⟩ := h
  obtain ⟨_, datagram', hreceived', rfl⟩ := h'
  cases hreceived.symm.trans hreceived'
  exact ⟨rfl, rfl⟩

/-- **Receiving panics exactly on an arrival that announces less than its header.** -/
theorem receive_panics_iff :
    self.receiveBvllTimeout turn = .error .panic ↔
      ∃ octets src, turn.Brings self.buffer octets src ∧ Stunted octets := by
  by_cases hbrings : ∃ octets src, turn.Brings self.buffer octets src
  · obtain ⟨octets, src, hbrings⟩ := hbrings
    have hthis : (∃ octets src, turn.Brings self.buffer octets src ∧ Stunted octets)
        ↔ Stunted octets := by
      constructor
      · rintro ⟨octets', src', hbrings', hstunted⟩
        rw [(brings_unique hbrings hbrings').1]
        exact hstunted
      · intro hstunted
        exact ⟨octets, src, hbrings, hstunted⟩
    rw [hthis, ← BvllMessage.decode_panics_iff]
    obtain ⟨hdecode, hreceive⟩ | ⟨hdecode, hreceive⟩ := receive_of_brings hbrings
    · exact iff_of_true hreceive hdecode
    · refine iff_of_false ?_ hdecode
      intro hpanic
      obtain hrestored | ⟨_, _, hrest⟩ := Checked.bind_eq_panic.mp (hreceive.symm.trans hpanic)
      · exact Checked.ofExcept_ne_panic _ hrestored
      · obtain hvalue | ⟨_, _, hreturn⟩ := Checked.bind_eq_panic.mp hrest
        · exact hdecode hvalue
        · cases hreturn
  · obtain ⟨e, he⟩ := receive_of_nothing hbrings
    refine iff_of_false ?_ ?_
    · rw [he]
      intro hpanic
      cases hpanic
    · rintro ⟨octets, src, h, _⟩
      exact hbrings ⟨octets, src, h⟩

/-- **What is received** has arrived and decodes, and the timeout is set back. -/
theorem receive_eq_ok_iff :
    self.receiveBvllTimeout turn = .ok (message, src) ↔
      turn.restored = .ok () ∧ ∃ octets, turn.Brings self.buffer octets src
        ∧ BvllMessage.decode octets = .ok message := by
  constructor
  · intro h
    by_cases hbrings : ∃ octets src, turn.Brings self.buffer octets src
    · obtain ⟨octets, src', hbrings⟩ := hbrings
      obtain ⟨_, hreceive⟩ | ⟨_, hreceive⟩ := receive_of_brings hbrings
      · cases hreceive.symm.trans h
      · obtain ⟨_, hrestored, hrest⟩ := Checked.bind_eq_ok.mp (hreceive.symm.trans h)
        obtain ⟨message', hdecode, hmessage⟩ := Checked.bind_eq_ok.mp hrest
        cases hmessage
        exact ⟨Checked.ofExcept_eq_ok.mp hrestored, octets, hbrings, hdecode⟩
    · obtain ⟨e, he⟩ := receive_of_nothing hbrings
      cases he.symm.trans h
  · rintro ⟨hrestored, octets, hbrings, hdecode⟩
    obtain ⟨hpanic, _⟩ | ⟨_, hreceive⟩ := receive_of_brings hbrings
    · cases hdecode.symm.trans hpanic
    · rw [hreceive, hrestored, hdecode]
      rfl

/-- An answer is looked at when it is received. -/
theorem answers_iff {data : Bytes} :
    turn.Answers self.buffer bbmdAddr data ↔
      self.receiveBvllTimeout turn = .ok (BvllMessage.new .result data, bbmdAddr) := by
  rw [receive_eq_ok_iff]
  simp only [BvllMessage.decode_eq_new_iff]
  rfl

/-- What is received is a message that could have been made. -/
theorem receive_new (h : self.receiveBvllTimeout turn = .ok (message, src)) :
    ∃ function data, message = BvllMessage.new function data := by
  obtain ⟨_, octets, _, hdecode⟩ := receive_eq_ok_iff.mp h
  obtain ⟨function, data, _, hmessage⟩ := BvllMessage.decode_eq_ok_iff.mp hdecode
  exact ⟨function, data, hmessage⟩

/-! ## §4. The wait -/

variable {ttl : UInt16} {ended : Instant} {turns : List Turn}

/-- A message that is no Result of the BBMD, or has no data, is waited past. -/
theorem await_past {function : BvlcFunction} {data : Bytes}
    (helapsed : turn.elapsed < self.config.registrationTimeout)
    (h : self.receiveBvllTimeout turn = .ok (BvllMessage.new function data, src))
    (hpast : ¬ (src = bbmdAddr ∧ function = .result ∧ data ≠ [])) :
    self.awaitConfirmation bbmdAddr ttl ended (turn :: turns)
      = self.awaitConfirmation bbmdAddr ttl ended turns := by
  rw [awaitConfirmation, if_pos helapsed, h]
  exact if_neg hpast

/-- A result code of one octet is read past its end. -/
theorem await_half {octet : UInt8}
    (helapsed : turn.elapsed < self.config.registrationTimeout)
    (h : self.receiveBvllTimeout turn = .ok (BvllMessage.new .result [octet], bbmdAddr)) :
    self.awaitConfirmation bbmdAddr ttl ended (turn :: turns) = .error .panic := by
  rw [awaitConfirmation, if_pos helapsed, h]
  exact if_pos ⟨rfl, rfl, List.cons_ne_nil _ _⟩

/-- A result code of two octets ends the wait. -/
theorem await_code {high low : UInt8} {rest : Bytes}
    (helapsed : turn.elapsed < self.config.registrationTimeout)
    (h : self.receiveBvllTimeout turn
      = .ok (BvllMessage.new .result (high :: low :: rest), bbmdAddr)) :
    self.awaitConfirmation bbmdAddr ttl ended (turn :: turns) ≠ .error .panic := by
  have hread : self.awaitConfirmation bbmdAddr ttl ended (turn :: turns)
      = if Octets.wordOf high low = 0 then .ok (self.registered bbmdAddr ttl turn.now)
        else Checked.fail .registrationFailed := by
    rw [awaitConfirmation, if_pos helapsed, h]
    exact if_pos ⟨rfl, rfl, List.cons_ne_nil _ _⟩
  rw [hread]
  intro hpanic
  split at hpanic
  · cases hpanic
  · cases hpanic

/-- **One turn of the wait**: it does harm in time, or is not the last and a later one does. -/
theorem await_panics_cons_iff :
    self.awaitConfirmation bbmdAddr ttl ended (turn :: turns) = .error .panic ↔
      (turn.elapsed < self.config.registrationTimeout ∧ turn.Harmful self.buffer bbmdAddr)
        ∨ (¬ turn.Final self.config.registrationTimeout self.buffer bbmdAddr
          ∧ self.awaitConfirmation bbmdAddr ttl ended turns = .error .panic) := by
  unfold Turn.Harmful Turn.Final
  simp only [answers_iff, ← receive_panics_iff]
  by_cases helapsed : turn.elapsed < self.config.registrationTimeout
  · simp only [helapsed, true_and, Nat.not_le.mpr helapsed, false_or]
    cases hreceive : self.receiveBvllTimeout turn with
    | error fault =>
        cases fault with
        | panic =>
            rw [awaitConfirmation, if_pos helapsed, hreceive]
            simp
        | error e =>
            rw [awaitConfirmation, if_pos helapsed, hreceive]
            simp
    | ok received =>
        obtain ⟨response, src⟩ := received
        obtain ⟨function, data, rfl⟩ := receive_new hreceive
        by_cases hanswer : src = bbmdAddr ∧ function = .result ∧ data ≠ []
        · obtain ⟨rfl, rfl, hdata⟩ := hanswer
          match data with
          | [] => exact absurd rfl hdata
          | [octet] =>
              rw [await_half helapsed hreceive]
              simp [BvllMessage.new_inj]
          | high :: low :: rest =>
              refine iff_of_false (await_code helapsed hreceive) ?_
              simp [BvllMessage.new_inj]
        · rw [await_past helapsed hreceive hanswer]
          simp only [Except.ok.injEq, Prod.mk.injEq, BvllMessage.new_inj, reduceCtorEq, false_or]
          -- Neither half of a result code nor a whole one has come.
          have hhalf : ¬ ∃ octet, (function = .result ∧ data = [octet]) ∧ src = bbmdAddr := by
            rintro ⟨octet, ⟨hfunction, hdata⟩, hsrc⟩
            exact hanswer ⟨hsrc, hfunction, by rw [hdata]; exact List.cons_ne_nil _ _⟩
          have hcode : ¬ ∃ high low rest,
              (function = .result ∧ data = high :: low :: rest) ∧ src = bbmdAddr := by
            rintro ⟨high, low, rest, ⟨hfunction, hdata⟩, hsrc⟩
            exact hanswer ⟨hsrc, hfunction, by rw [hdata]; exact List.cons_ne_nil _ _⟩
          simp only [hhalf, hcode, not_false_eq_true, true_and, false_or]
  · have hlate : self.config.registrationTimeout ≤ turn.elapsed := Nat.not_lt.mp helapsed
    rw [awaitConfirmation, if_neg helapsed]
    simp [helapsed, hlate]

/-- Some turn does harm in time, and none before it is the last. -/
def Exposed (timeout : Duration) (buffer : Nat) (bbmdAddr : SocketAddr) (turns : List Turn) :
    Prop :=
  ∃ before turn after, turns = before ++ turn :: after ∧ turn.elapsed < timeout
    ∧ turn.Harmful buffer bbmdAddr ∧ ∀ earlier ∈ before, ¬ earlier.Final timeout buffer bbmdAddr

theorem exposed_cons_iff {timeout : Duration} {buffer : Nat} :
    Exposed timeout buffer bbmdAddr (turn :: turns) ↔
      (turn.elapsed < timeout ∧ turn.Harmful buffer bbmdAddr)
        ∨ (¬ turn.Final timeout buffer bbmdAddr ∧ Exposed timeout buffer bbmdAddr turns) := by
  constructor
  · rintro ⟨before, harmful, after, hturns, helapsed, hharmful, hbefore⟩
    match before with
    | [] =>
        cases hturns
        exact .inl ⟨helapsed, hharmful⟩
    | first :: before =>
        cases hturns
        refine .inr ⟨hbefore _ List.mem_cons_self, before, harmful, after, rfl, helapsed, hharmful,
          ?_⟩
        intro earlier hmem
        exact hbefore earlier (List.mem_cons_of_mem _ hmem)
  · rintro (⟨helapsed, hharmful⟩ | ⟨hfinal, before, harmful, after, rfl, helapsed, hharmful,
      hbefore⟩)
    · refine ⟨[], turn, turns, rfl, helapsed, hharmful, ?_⟩
      intro earlier hmem
      cases hmem
    · refine ⟨turn :: before, harmful, after, rfl, helapsed, hharmful, ?_⟩
      intro earlier hmem
      obtain rfl | hmem := List.mem_cons.mp hmem
      · exact hfinal
      · exact hbefore earlier hmem

/-- **The wait reads outside of what arrives exactly on a turn that does harm**, induction on the
turns. -/
theorem await_panics_iff (turns : List Turn) :
    self.awaitConfirmation bbmdAddr ttl ended turns = .error .panic ↔
      Exposed self.config.registrationTimeout self.buffer bbmdAddr turns := by
  induction turns with
  | nil =>
      refine iff_of_false (by intro hpanic; cases hpanic) ?_
      rintro ⟨before, turn, after, hturns, _⟩
      cases before <;> cases hturns
  | cons turn turns ih => rw [await_panics_cons_iff, exposed_cons_iff, ih]

/-- **Registering reads outside of what arrives** when the request is sent and the wait does. -/
theorem registration_panics_iff {sendTo : Bytes → SocketAddr → Except TransportError Unit} :
    self.registerForeignDevice bbmdAddr ttl sendTo turns ended = .error .panic ↔
      sendTo (registration ttl).encode bbmdAddr = .ok ()
        ∧ Exposed self.config.registrationTimeout self.buffer bbmdAddr turns := by
  unfold registerForeignDevice
  rw [Checked.bind_eq_panic, await_panics_iff]
  constructor
  · intro h
    obtain hsent | ⟨_, hsent, hexposed⟩ := h
    · exact absurd hsent (Checked.ofExcept_ne_panic _)
    · exact ⟨Checked.ofExcept_eq_ok.mp hsent, hexposed⟩
  · intro h
    exact .inr ⟨(), Checked.ofExcept_eq_ok.mpr h.1, h.2⟩

/-- **What is read of a message, made into one, and read of the answers to one.** -/
theorem messages_and_registration_iff (self : BacnetIpTransport) (bbmdAddr : SocketAddr)
    (ttl : UInt16) (sendTo : Bytes → SocketAddr → Except TransportError Unit) (turns : List Turn)
    (ended : Instant) (datagram data : Bytes) (function : BvlcFunction) :
    (BvllMessage.decode datagram ≠ .error .panic ↔ ¬ Stunted datagram)
      ∧ (∀ message, BvllMessage.decode datagram = .ok message →
        ∃ n, Announces datagram message.header.function n ∧ bvllHeaderSize ≤ n
          ∧ n ≤ datagram.length ∧ message.data = (datagram.take n).drop bvllHeaderSize)
      ∧ (bvllHeaderSize + data.length < 65536 →
        BvllMessage.decode (BvllMessage.new function data).encode
          = .ok (BvllMessage.new function data))
      ∧ ((BvllMessage.new function data).header.length.toNat
          = (BvllMessage.new function data).encode.length ↔
        bvllHeaderSize + data.length < 65536)
      ∧ (self.registerForeignDevice bbmdAddr ttl sendTo turns ended ≠ .error .panic ↔
        ¬ (sendTo (registration ttl).encode bbmdAddr = .ok ()
          ∧ Exposed self.config.registrationTimeout self.buffer bbmdAddr turns)) := by
  refine ⟨not_congr BvllMessage.decode_panics_iff, ?_, BvllMessage.decode_encode,
    BvllMessage.new_length_iff function data, not_congr registration_panics_iff⟩
  intro message hdecode
  obtain ⟨function, data, hcarries, rfl⟩ := BvllMessage.decode_eq_ok_iff.mp hdecode
  exact ⟨_, hcarries.1, Nat.le_add_right _ _, hcarries.within, hcarries.between⟩

/-- Three octets announced; a length of sixteen bits passed; a result code of one octet. -/
theorem three_lengths_not_checked :
    (¬ ∀ datagram, BvllMessage.decode datagram ≠ .error .panic)
      ∧ (¬ ∀ function data, (BvllMessage.new function data).header.length.toNat
          = (BvllMessage.new function data).encode.length)
      ∧ ¬ ∀ (self : BacnetIpTransport) bbmdAddr ttl sendTo turns ended,
          self.registerForeignDevice bbmdAddr ttl sendTo turns ended ≠ .error .panic := by
  refine ⟨?_, ?_, ?_⟩
  · intro hall
    exact hall [0x81, 0x0A, 0, 3] rfl
  · intro hall
    have hlength := (BvllMessage.new_length_iff _ _).mp
      (hall .originalUnicastNpdu (List.replicate 65532 0))
    rw [List.length_replicate] at hlength
    revert hlength
    decide
  · intro hall
    exact hall ⟨⟨none, 0, 30⟩, 1500, ∅, 1⟩ (.v4 0x0A000001 47808) 900 (fun _ _ => .ok ())
      [⟨0, .ok (), .ok ([0x81, 0x00, 0, 5, 0], .v4 0x0A000001 47808), .ok (), 0⟩] 0 rfl

end BacnetIpTransport

end BacnetRs.Transport
