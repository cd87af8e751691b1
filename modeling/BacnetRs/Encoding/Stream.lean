/-
  BacnetRs.Encoding.Stream — values one after another (`DecodingStream`).

  A stream keeps how far its data has been decoded.  Each of its decoders reads
  where the last one stopped, and one that fails leaves the stream where it was.
  A value can be skipped without being decoded: the tag and as many octets as
  the tag counts, whether or not they are there.

    * `run_within`        — whatever values are decoded in whatever order, a stream
                            stays within its data, and nothing panics.
    * `skipValue_agrees_iff` — skipping a value that decodes leaves the stream where
                            decoding it does, unless it is a Boolean true.
    * `operations_safe_iff` — a stream stays within its data through any operations
                            exactly when every value skipped is there.
-/
import BacnetRs.Encoding.Consumption
import BacnetRs.Library.Attempt
import BacnetRs.Library.Machine

namespace BacnetRs.Encoding

open Checked

/-- What a stream decodes: the `decode_` methods of `DecodingStream`. -/
inductive StreamValue where
  | boolean
  | unsigned
  | signed
  | real
  | double
  | characterString
  | octetString
  | enumerated
  | date
  | time
  | objectIdentifier
  deriving Repr, DecidableEq

/-- A decoder, for the octets that it takes. -/
def lengthOf {α : Type} (decode : Bytes → Decoded (α × Nat)) (data : Bytes) : Decoded (Unit × Nat) :=
  (fun decoded => ((), decoded.2)) <$> decode data

theorem lengthOf_takes {α : Type} {decode : Bytes → Decoded (α × Nat)} {data : Bytes}
    (h : Meets (decode data) (Takes data)) : Meets (lengthOf decode data) (Takes data) :=
  Meets.map (h.mono (fun _ htakes => htakes))

namespace StreamValue

/-- The decoder of a method. -/
def decode : StreamValue → Bytes → Decoded (Unit × Nat)
  | boolean => lengthOf decodeBoolean
  | unsigned => lengthOf decodeUnsigned
  | signed => lengthOf decodeSigned
  | real => lengthOf decodeReal
  | double => lengthOf decodeDouble
  | characterString => lengthOf decodeCharacterString
  | octetString => lengthOf decodeOctetString
  | enumerated => lengthOf decodeEnumerated
  | date => lengthOf decodeDate
  | time => lengthOf decodeTime
  | objectIdentifier => lengthOf decodeObjectIdentifier

theorem decode_takes (value : StreamValue) (data : Bytes) :
    Meets (value.decode data) (Takes data) := by
  cases value with
  | boolean => exact lengthOf_takes (decodeBoolean_takes data)
  | unsigned => exact lengthOf_takes (decodeUnsigned32_takes data .unsignedInt)
  | signed => exact lengthOf_takes (decodeSigned_takes data)
  | real => exact lengthOf_takes (decodeReal_takes data)
  | double => exact lengthOf_takes (decodeDouble_takes data)
  | characterString => exact lengthOf_takes (decodeCharacterString_takes data)
  | octetString => exact lengthOf_takes (decodeOctetString_takes data)
  | enumerated => exact lengthOf_takes (decodeUnsigned32_takes data .enumerated)
  | date => exact lengthOf_takes (decodeDate_takes data)
  | time => exact lengthOf_takes (decodeTime_takes data)
  | objectIdentifier => exact lengthOf_takes (decodeObjectIdentifier_takes data)

end StreamValue

/-- `DecodingStream`. -/
structure DecodingStream where
  data : Bytes
  position : Nat

namespace DecodingStream

/-- `DecodingStream::new`. -/
def new (data : Bytes) : DecodingStream := ⟨data, 0⟩

/-- A `decode_` method, as it moves the stream. -/
def decode (self : DecodingStream) (value : StreamValue) : Decoded DecodingStream := do
  let (_, position) ← readAt value.decode self.data self.position
  return { self with position }

/-- `DecodingStream::skip_value`. -/
def skipValue (self : DecodingStream) : Decoded DecodingStream := do
  let rest ← Octets.dropFrom self.data self.position
  let (_, length, consumed) ← Checked.ofExcept (decodeApplicationTag rest)
  return { self with position := self.position + (consumed + length) }

/-- `DecodingStream::peek_tag`. -/
def peekTag (self : DecodingStream) : Decoded ApplicationTag := do
  if self.data.length ≤ self.position then Checked.fail .unexpectedEndOfData
  let tagByte ← Octets.index self.data self.position
  Checked.ofExcept (ApplicationTag.tryFrom (tagByte >>> 4))

/-- `DecodingStream::set_position`. -/
def setPosition (self : DecodingStream) (position : Nat) : Decoded DecodingStream := do
  if self.data.length < position then Checked.fail .valueOutOfRange
  return { self with position }

/-- Decode values in order; one that fails is passed over. -/
def run : DecodingStream → List StreamValue → Decoded DecodingStream
  | self, [] => .ok self
  | self, value :: rest =>
      match self.decode value with
      | .ok next => next.run rest
      | .error (.error _) => self.run rest
      | .error .panic => .error .panic

/-- Where the stream has got to is within its data. -/
def Within (self : DecodingStream) : Prop := self.position ≤ self.data.length

theorem decode_meets {self : DecodingStream} (value : StreamValue) (h : self.Within) :
    Meets (self.decode value) (fun next => next.data = self.data ∧ next.Within) := by
  refine (readAt_meets value.decode_takes h).bind ?_
  rintro ⟨_, position⟩ ⟨_, hposition⟩
  exact meets_ok ⟨rfl, hposition⟩

/-- **Decoding keeps a stream within its data.** -/
theorem run_meets (values : List StreamValue) {self : DecodingStream} (h : self.Within) :
    Meets (self.run values) (fun last => last.data = self.data ∧ last.Within) := by
  induction values generalizing self with
  | nil => exact meets_ok ⟨rfl, h⟩
  | cons value rest ih =>
      unfold run
      rcases (decode_meets value h).cases with ⟨next, hnext, hdata, hwithin⟩ | ⟨e, he⟩
      · rw [hnext]
        refine (ih hwithin).mono ?_
        rintro last ⟨hlast, hlastWithin⟩
        exact ⟨hlast.trans hdata, hlastWithin⟩
      · rw [he]
        exact ih h

/-- Whatever is decoded of some data, the stream ends within them. -/
theorem run_within (data : Bytes) (values : List StreamValue) :
    Meets ((new data).run values) (fun last => last.position ≤ data.length) := by
  have hstart : (new data).Within := Nat.zero_le data.length
  refine (run_meets values hstart).mono ?_
  rintro last ⟨hdata, hwithin⟩
  have hlength : last.data.length = data.length := congrArg List.length hdata
  exact hlength ▸ hwithin

end DecodingStream

/-! ## §2. What a tag counts -/

/-- The tag of `data` counts all the octets that a decoder took after it. -/
def Counted {α : Type} (data : Bytes) (decoded : α × Nat) : Prop :=
  ∃ tag length consumed, decodeApplicationTag data = .ok (tag, length, consumed)
    ∧ tag ≠ .boolean ∧ decoded.2 = consumed + length

/-- A decoder takes the octets that the tag it expects counts. -/
theorem counted_after_tag {α : Type} {data : Bytes} {expected : ApplicationTag}
    {f : Nat × Nat → Decoded (α × Nat)} (hexpected : expected ≠ .boolean)
    (hf : ∀ length consumed,
      Ensures (f (length, consumed)) (fun decoded => decoded.2 = consumed + length)) :
    Ensures (expectApplicationTag data expected >>= f) (Counted data) := by
  intro decoded h
  obtain ⟨⟨length, consumed⟩, htag, hrest⟩ := bind_eq_ok.mp h
  exact ⟨expected, length, consumed, expectApplicationTag_eq_ok.mp htag, hexpected,
    hf length consumed decoded hrest⟩

theorem decodeUnsigned32_counted (data : Bytes) {expected : ApplicationTag}
    (hexpected : expected ≠ .boolean) :
    Ensures (decodeUnsigned32 data expected) (Counted data) := by
  apply counted_after_tag hexpected
  intro length consumed
  apply ensures_guard
  split
  · exact ensures_bind (fun _ => ensures_ok rfl)
  · exact ensures_fail _

theorem decodeSigned_counted (data : Bytes) : Ensures (decodeSigned data) (Counted data) := by
  apply counted_after_tag (by decide)
  intro length consumed
  apply ensures_guard
  split
  · exact ensures_bind (fun _ => ensures_bind (fun _ => ensures_ok rfl))
  · exact ensures_fail _

theorem decodeReal_counted (data : Bytes) : Ensures (decodeReal data) (Counted data) := by
  apply counted_after_tag (by decide)
  intro length consumed
  refine ensures_unless (fun hlength => ensures_guard (ensures_bind (fun _ => ensures_ok ?_)))
  show consumed + 4 = consumed + length
  omega

theorem decodeDouble_counted (data : Bytes) : Ensures (decodeDouble data) (Counted data) := by
  apply counted_after_tag (by decide)
  intro length consumed
  refine ensures_unless (fun hlength => ensures_bind (fun _ => ensures_ok ?_))
  show consumed + 8 = consumed + length
  omega

theorem decodeOctetString_counted (data : Bytes) :
    Ensures (decodeOctetString data) (Counted data) := by
  apply counted_after_tag (by decide)
  intro length consumed
  exact ensures_guard (ensures_bind (fun _ => ensures_ok rfl))

theorem decodeCharacterString_counted (data : Bytes) :
    Ensures (decodeCharacterString data) (Counted data) := by
  apply counted_after_tag (by decide)
  intro length consumed
  exact ensures_guard (ensures_bind (fun _ => ensures_bind (fun _ => ensures_bind (fun _ =>
    ensures_bind (fun _ => ensures_ok rfl)))))

theorem decodeDate_counted (data : Bytes) : Ensures (decodeDate data) (Counted data) := by
  apply counted_after_tag (by decide)
  intro length consumed
  refine ensures_unless (fun hlength => ensures_bind (fun _ => ensures_bind (fun _ =>
    ensures_bind (fun _ => ensures_bind (fun _ => ensures_ok ?_)))))
  show consumed + 4 = consumed + length
  omega

theorem decodeTime_counted (data : Bytes) : Ensures (decodeTime data) (Counted data) := by
  apply counted_after_tag (by decide)
  intro length consumed
  refine ensures_unless (fun hlength => ensures_bind (fun _ => ensures_bind (fun _ =>
    ensures_bind (fun _ => ensures_bind (fun _ => ensures_ok ?_)))))
  show consumed + 4 = consumed + length
  omega

theorem decodeObjectIdentifier_counted (data : Bytes) :
    Ensures (decodeObjectIdentifier data) (Counted data) := by
  apply counted_after_tag (by decide)
  intro length consumed
  refine ensures_unless (fun hlength => ensures_bind (fun _ => ensures_ok ?_))
  show consumed + 4 = consumed + length
  omega

/-- A Boolean is its tag: the length is the value. -/
theorem decodeBoolean_tag (data : Bytes) :
    Ensures (decodeBoolean data) (fun decoded => ∃ length,
      decodeApplicationTag data = .ok (.boolean, length, decoded.2)
        ∧ (length = 0 ∨ length = 1)) := by
  intro decoded h
  obtain ⟨⟨length, consumed⟩, htag, hrest⟩ := bind_eq_ok.mp h
  have hdecoded := expectApplicationTag_eq_ok.mp htag
  match length with
  | 0 =>
      cases hrest
      exact ⟨0, hdecoded, .inl rfl⟩
  | 1 =>
      cases hrest
      exact ⟨1, hdecoded, .inr rfl⟩
  | _ + 2 => cases hrest

theorem lengthOf_counted {α : Type} {decode : Bytes → Decoded (α × Nat)} {data : Bytes}
    (h : Ensures (decode data) (Counted data)) : Ensures (lengthOf decode data) (Counted data) :=
  Ensures.map (h.mono (fun _ hcounted => hcounted))

/-- Every decoder but that of Booleans takes what the tag counts. -/
theorem StreamValue.decode_counted {value : StreamValue} (hvalue : value ≠ .boolean)
    (data : Bytes) : Ensures (value.decode data) (Counted data) := by
  cases value with
  | boolean => exact absurd rfl hvalue
  | unsigned => exact lengthOf_counted (decodeUnsigned32_counted data (by decide))
  | signed => exact lengthOf_counted (decodeSigned_counted data)
  | real => exact lengthOf_counted (decodeReal_counted data)
  | double => exact lengthOf_counted (decodeDouble_counted data)
  | characterString => exact lengthOf_counted (decodeCharacterString_counted data)
  | octetString => exact lengthOf_counted (decodeOctetString_counted data)
  | enumerated => exact lengthOf_counted (decodeUnsigned32_counted data (by decide))
  | date => exact lengthOf_counted (decodeDate_counted data)
  | time => exact lengthOf_counted (decodeTime_counted data)
  | objectIdentifier => exact lengthOf_counted (decodeObjectIdentifier_counted data)

/-- How many octets a decoder takes, by the tag in front of it. -/
theorem StreamValue.decode_tag (value : StreamValue) (data : Bytes) :
    Ensures (value.decode data) (fun decoded => ∃ tag length consumed,
      decodeApplicationTag data = .ok (tag, length, consumed)
        ∧ (decoded.2 = consumed + length ↔ ¬ (tag = .boolean ∧ length = 1))) := by
  by_cases hvalue : value = .boolean
  · subst hvalue
    refine Ensures.map ((decodeBoolean_tag data).mono ?_)
    rintro ⟨value, taken⟩ ⟨length, htag, hlength⟩
    refine ⟨.boolean, length, taken, htag, ?_⟩
    show taken = taken + length ↔ _
    simp only [true_and]
    omega
  · refine (StreamValue.decode_counted hvalue data).mono ?_
    rintro decoded ⟨tag, length, consumed, htag, hboolean, hcounted⟩
    refine ⟨tag, length, consumed, htag, ?_⟩
    exact iff_of_true hcounted (fun h => hboolean h.1)

namespace DecodingStream

/-! ## §3. Skipping -/

theorem skipValue_eq_ok {self next : DecodingStream} :
    self.skipValue = .ok next ↔ self.Within ∧ ∃ tag length consumed,
      decodeApplicationTag (self.data.drop self.position) = .ok (tag, length, consumed)
        ∧ next = { self with position := self.position + (consumed + length) } := by
  unfold skipValue
  constructor
  · intro h
    obtain ⟨rest, hrest, hskip⟩ := bind_eq_ok.mp h
    obtain ⟨hwithin, rfl⟩ := Octets.dropFrom_eq_ok.mp hrest
    obtain ⟨⟨tag, length, consumed⟩, htag, hnext⟩ := bind_eq_ok.mp hskip
    cases hnext
    exact ⟨hwithin, tag, length, consumed, ofExcept_eq_ok.mp htag, rfl⟩
  · rintro ⟨hwithin, tag, length, consumed, htag, rfl⟩
    apply bind_eq_ok.mpr
    refine ⟨_, Octets.dropFrom_eq_ok.mpr ⟨hwithin, rfl⟩, ?_⟩
    exact bind_eq_ok.mpr ⟨_, ofExcept_eq_ok.mpr htag, rfl⟩

/-- **Skipping a value goes as far as decoding it, exactly when it is no Boolean true.** -/
theorem skipValue_agrees_iff {self next : DecodingStream} {value : StreamValue}
    (h : self.decode value = .ok next) :
    self.skipValue = .ok next
      ↔ ∀ consumed, decodeApplicationTag (self.data.drop self.position)
          ≠ .ok (.boolean, 1, consumed) := by
  obtain ⟨⟨_, position⟩, hread, hnext⟩ := bind_eq_ok.mp h
  obtain ⟨rest, hrest, hdecode⟩ := bind_eq_ok.mp hread
  obtain ⟨⟨_, taken⟩, htaken, hposition⟩ := bind_eq_ok.mp hdecode
  obtain ⟨hwithin, rfl⟩ := Octets.dropFrom_eq_ok.mp hrest
  cases hposition
  cases hnext
  obtain ⟨tag, length, consumed, htag, hcounts⟩ := value.decode_tag _ _ htaken
  rw [skipValue_eq_ok, htag]
  constructor
  · rintro ⟨_, tag', length', consumed', hsame, hposition⟩ other hboolean
    cases hsame
    cases hboolean
    have hpast : taken = consumed + 1 :=
      Nat.add_left_cancel (congrArg DecodingStream.position hposition)
    exact hcounts.mp hpast ⟨rfl, rfl⟩
  · intro hnot
    have htotal : taken = consumed + length := by
      apply hcounts.mpr
      rintro ⟨rfl, rfl⟩
      exact hnot consumed rfl
    exact ⟨hwithin, tag, length, consumed, rfl, by rw [← htotal]⟩

/-- A date is skipped. -/
theorem skipValue_agrees_date :
    (new [0xA4, 0x7C, 0x01, 0x01, 0x01]).skipValue = .ok ⟨[0xA4, 0x7C, 0x01, 0x01, 0x01], 5⟩ := by
  have hdecode : (new [0xA4, 0x7C, 0x01, 0x01, 0x01]).decode .date
      = .ok ⟨[0xA4, 0x7C, 0x01, 0x01, 0x01], 5⟩ := rfl
  apply (skipValue_agrees_iff hdecode).mpr
  intro consumed h
  cases h

/-- **A Boolean true is skipped one octet too far.** -/
theorem true_skipped_past :
    (new [0x11, 0x21, 0x05]).decode .boolean = .ok ⟨[0x11, 0x21, 0x05], 1⟩
      ∧ (new [0x11, 0x21, 0x05]).skipValue = .ok ⟨[0x11, 0x21, 0x05], 2⟩ :=
  ⟨rfl, rfl⟩

/-! ## §4. Runs of operations -/

/-- What is done to a stream. -/
inductive StreamOperation where
  | decode (value : StreamValue)
  | skipValue
  | peekTag
  | setPosition (position : Nat)

/-- An operation: the stream it leaves, and whether it failed. -/
def perform (self : DecodingStream) :
    StreamOperation → Attempt (Fault EncodingError) DecodingStream
  | .decode value => .store self id (self.decode value)
  | .skipValue => .store self id self.skipValue
  | .peekTag => .store self (fun _ => self) self.peekTag
  | .setPosition position => .store self id (self.setPosition position)

/-- One operation of a run; a panic is the end of it. -/
def step (self : DecodingStream) (operation : StreamOperation) : Option DecodingStream :=
  if (self.perform operation).2 = .error .panic then none else some (self.perform operation).1

/-- An operation is safe: it does not panic, it leaves the stream within the data it had, and
where it was if it fails. -/
structure Safe (stream : DecodingStream) (operation : StreamOperation) : Prop where
  quiet : (stream.perform operation).2 ≠ .error .panic
  data_eq : (stream.perform operation).1.data = stream.data
  within : (stream.perform operation).1.Within
  atomic : Attempt.Atomic stream (stream.perform operation)

/-- A value that is skipped is there: as many octets as its tag counts. -/
def SkipsPresent (self : DecodingStream) : StreamOperation → Prop
  | .skipValue =>
      ∀ tag length consumed,
        decodeApplicationTag (self.data.drop self.position) = .ok (tag, length, consumed) →
        self.position + (consumed + length) ≤ self.data.length
  | .decode _ => True
  | .peekTag => True
  | .setPosition _ => True

theorem peekTag_meets (self : DecodingStream) : Meets self.peekTag (fun _ => True) := by
  refine meets_guard (fun hposition => ?_)
  refine (Octets.index_meets (Nat.lt_of_not_le hposition)).bind (fun tagByte _ => ?_)
  exact meets_ofExcept (fun _ _ => trivial)

theorem setPosition_meets (self : DecodingStream) (position : Nat) :
    Meets (self.setPosition position) (fun next => next.data = self.data ∧ next.Within) := by
  refine meets_guard (fun hposition => ?_)
  exact meets_ok ⟨rfl, Nat.le_of_not_lt hposition⟩

theorem skipValue_meets {self : DecodingStream} (hwithin : self.Within)
    (hpresent : self.SkipsPresent .skipValue) :
    Meets self.skipValue (fun next => next.data = self.data ∧ next.Within) := by
  have hdrop : (Octets.dropFrom self.data self.position : Decoded Bytes)
      = .ok (self.data.drop self.position) := if_pos hwithin
  unfold skipValue
  rw [hdrop]
  refine (meets_ofExcept (P := fun tag => self.position + (tag.2.2 + tag.2.1) ≤ self.data.length)
    ?_).bind ?_
  · rintro ⟨tag, length, consumed⟩ htag
    exact hpresent tag length consumed htag
  · rintro ⟨tag, length, consumed⟩ hfits
    exact meets_ok ⟨rfl, hfits⟩

/-- What an operation stores is safe to store. -/
theorem safe_of_meets {self : DecodingStream} {operation : StreamOperation} {α : Type}
    {update : α → DecodingStream} {result : Decoded α} (hwithin : self.Within)
    (hperform : self.perform operation = .store self update result)
    (hresult : Meets result (fun a => (update a).data = self.data ∧ (update a).Within)) :
    self.Safe operation := by
  rcases hresult.cases with ⟨a, ha, hdata, hstays⟩ | ⟨e, he⟩
  · rw [ha] at hperform
    constructor
    · rw [hperform]
      intro h
      cases h
    · rw [hperform]
      exact hdata
    · rw [hperform]
      exact hstays
    · rw [hperform]
      exact Attempt.atomic_store self update (.ok a)
  · rw [he] at hperform
    constructor
    · rw [hperform]
      intro h
      cases h
    · rw [hperform]
      rfl
    · rw [hperform]
      exact hwithin
    · rw [hperform]
      exact Attempt.atomic_store self update (.error (.error e) : Decoded α)

/-- One operation within the data is safe exactly when what it skips is there. -/
theorem skipsPresent_iff {self : DecodingStream} (hwithin : self.Within)
    (operation : StreamOperation) : self.SkipsPresent operation ↔ self.Safe operation := by
  cases operation with
  | decode value => exact iff_of_true trivial (safe_of_meets hwithin rfl (decode_meets value hwithin))
  | peekTag =>
      refine iff_of_true trivial (safe_of_meets hwithin rfl ?_)
      exact self.peekTag_meets.mono (fun _ _ => ⟨rfl, hwithin⟩)
  | setPosition position =>
      exact iff_of_true trivial (safe_of_meets hwithin rfl (self.setPosition_meets position))
  | skipValue =>
      constructor
      · intro hpresent
        exact safe_of_meets hwithin rfl (skipValue_meets hwithin hpresent)
      · intro hsafe tag length consumed htag
        have hskip : self.skipValue
            = .ok { self with position := self.position + (consumed + length) } :=
          skipValue_eq_ok.mpr ⟨hwithin, tag, length, consumed, htag, rfl⟩
        have hleft := hsafe.within
        unfold perform at hleft
        rw [hskip] at hleft
        exact hleft

/-- **A stream is safe through any operations exactly when every value skipped is there.**
Whatever is decoded, peeked at and skipped and wherever the position is set: no operation
panics or leaves the data, and one that fails changes nothing, if and only if a tag that is
skipped over counts no more octets than remain. -/
theorem operations_safe_iff (data : Bytes) (operations : List StreamOperation) :
    Machine.Throughout step SkipsPresent (new data) operations
      ↔ Machine.Throughout step Safe (new data) operations := by
  have hstart : (new data).Within := Nat.zero_le data.length
  refine Machine.throughout_iff (fun _ operation hwithin => skipsPresent_iff hwithin operation)
    ?_ hstart
  intro self operation next hsafe _ hstep
  unfold step at hstep
  rw [if_neg hsafe.quiet] at hstep
  cases hstep
  exact hsafe.within

/-- **A value that is not there is skipped all the same**, and what comes next panics. -/
theorem skipped_past_end :
    Machine.run step (new [0x22, 0x00]) [.skipValue] = some ⟨[0x22, 0x00], 3⟩
      ∧ ((⟨[0x22, 0x00], 3⟩ : DecodingStream).perform (.decode .unsigned)).2 = .error .panic :=
  ⟨rfl, rfl⟩

end DecodingStream

end BacnetRs.Encoding
