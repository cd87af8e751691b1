/-
  BacnetRs.Encoding.ErrorEncoder — the encoder of error answers (`encoding/mod.rs`).

  An error answer is a class and a code, each an enumerated value under a
  context tag.  The encoder writes a context tag that counts the value's octets
  and then the value with a tag of its own in front.  What the context tag
  counts ends one octet early, and its first octet is a tag:

    * `last_of_shifted`        — a string that one octet in front leaves as it was.
    * `readsBack_never`        — no class and code are read back from what is written.
-/
import BacnetRs.Encoding.FieldCodec

namespace BacnetRs.Encoding

open Octets

/-- `decode_context_enumerated`: as an unsigned integer. -/
def decodeContextEnumerated (data : Bytes) (expectedTag : UInt8) : Decoded (UInt32 × Nat) :=
  decodeContextUnsigned data expectedTag

/-- The encoder, with what it has written. -/
structure ErrorEncoder where
  buffer : Bytes
  deriving Repr, DecidableEq

/-- The octets that a field's context tag counts: never three. -/
def errorFieldLength (value : UInt32) : Nat :=
  if value ≤ 0xFF then 1 else if value ≤ 0xFFFF then 2 else 4

/-- A field: its context tag, then the value as an application value. -/
def encodeErrorField (tagNumber : UInt8) (value : UInt32) : Bytes :=
  encodeContextTag tagNumber (errorFieldLength value) ++ encodeEnumerated value

/-- `encode_error`. -/
def ErrorEncoder.encodeError (encoder : ErrorEncoder) (errorClass errorCode : UInt32) :
    ErrorEncoder :=
  ⟨encoder.buffer ++ (encodeErrorField 0 errorClass ++ encodeErrorField 1 errorCode)⟩

/-- `written` is the class under tag 0 and then, to its end, the code under tag 1. -/
def ErrorReadsBack (written : Bytes) (errorClass errorCode : UInt32) : Prop :=
  ∃ consumed rest, decodeContextEnumerated written 0 = .ok (errorClass, consumed) ∧
    (dropFrom written consumed : Decoded Bytes) = .ok rest ∧
    decodeContextEnumerated rest 1 = .ok (errorCode, rest.length)

/-! ## The tag in the content -/

/-- A string that one octet in front leaves as it was, but for its last, ends in that octet. -/
theorem last_of_shifted {α : Type} : ∀ {octets : List α} {first last : α},
    first :: octets = octets ++ [last] → last = first
  | [], _, _, h => (List.singleton_inj.mp h).symm
  | octet :: octets, first, last, h => by
      obtain ⟨rfl, htail⟩ := List.cons.inj h
      exact last_of_shifted htail

/-- A field's tag counts octets of which the first is the value's own tag. -/
theorem decodeContextEnumerated_field {value read : UInt32} {tagNumber : UInt8} {rest : Bytes}
    {consumed : Nat}
    (h : decodeContextEnumerated (encodeErrorField tagNumber value ++ rest) tagNumber
      = .ok (read, consumed)) :
    consumed = (encodeContextTag tagNumber (errorFieldLength value)).length +
        errorFieldLength value ∧
      read.toNat = beNat ((encodeEnumerated value ++ rest).take (errorFieldLength value)) := by
  have hwidth : errorFieldLength value ≤ 4 := by
    unfold errorFieldLength
    split
    · decide
    · split <;> decide
  obtain ⟨⟨length, header⟩, htag, h⟩ := Checked.bind_eq_ok.mp h
  unfold encodeErrorField expectContextTag at htag
  rw [List.append_assoc, decodeContextTag_append tagNumber (by omega)] at htag
  obtain ⟨_, hread, htag⟩ := Checked.bind_eq_ok.mp htag
  cases hread
  obtain ⟨_, htag⟩ := Checked.guard_eq_ok.mp htag
  cases htag
  obtain ⟨_, h⟩ := Checked.guard_eq_ok.mp h
  rw [if_pos hwidth] at h
  obtain ⟨n, hn, h⟩ := Checked.bind_eq_ok.mp h
  cases h
  obtain ⟨-, rfl⟩ := natAt_eq_ok.mp hn
  unfold encodeErrorField
  refine ⟨rfl, ?_⟩
  rw [List.append_assoc, List.drop_left]
  have hbound := beNat_lt ((encodeEnumerated value ++ rest).take (errorFieldLength value))
  have hpow : 256 ^ ((encodeEnumerated value ++ rest).take (errorFieldLength value)).length
      ≤ 256 ^ 4 := Nat.pow_le_pow_right (by decide)
        (Nat.le_trans (List.length_take_le ..) hwidth)
  exact UInt32.toNat_ofNat_of_lt' (Nat.lt_of_lt_of_le hbound hpow)

/-- What starts with an application tag is no field. -/
theorem decodeContextEnumerated_application {tag : ApplicationTag} (htag : tag ≠ .reserved15)
    (length : Nat) (rest : Bytes) (expected : UInt8) :
    decodeContextEnumerated (encodeApplicationTag tag length ++ rest) expected
      = .error (.error .invalidTag) := by
  unfold decodeContextEnumerated decodeContextUnsigned expectContextTag decodeContextTag
  rw [decodeTag_encodeApplicationTag_mod htag]
  rfl

/-- The tag counts the value's octets, but four where there are three. -/
theorem errorFieldLength_eq (value : UInt32) :
    errorFieldLength value = (unsignedOctets value).length ∨
      ((unsignedOctets value).length = 3 ∧ errorFieldLength value = 4 ∧ value.toNat < 256 ^ 3) := by
  unfold errorFieldLength unsignedOctets
  split
  · exact .inl rfl
  split
  · exact .inl rfl
  split
  · rename_i hthree
    have hle : value.toNat ≤ 16777215 := UInt32.le_iff_toNat_le.mp hthree
    exact .inr ⟨rfl, rfl, by omega⟩
  · exact .inl rfl

/-- The value's own tag is one octet, and not zero. -/
theorem enumeratedTag_eq (value : UInt32) :
    ∃ tag : UInt8, encodeApplicationTag .enumerated (unsignedOctets value).length = [tag] ∧
      1 ≤ tag.toNat := by
  obtain ⟨width, hlow, hhigh, -, hoctets⟩ := unsignedOctets_eq value
  have hall : ∀ n : Fin 5, encodeApplicationTag .enumerated n = [0x90 ||| UInt8.ofNat n] ∧
      1 ≤ (0x90 ||| UInt8.ofNat n).toNat := by decide +kernel
  rw [hoctets, length_beOctets]
  exact ⟨_, hall ⟨width, by omega⟩⟩

theorem beNat_unsignedOctets (value : UInt32) : beNat (unsignedOctets value) = value.toNat := by
  obtain ⟨width, -, -, hfits, hoctets⟩ := unsignedOctets_eq value
  rw [hoctets, beNat_beOctets, Nat.mod_eq_of_lt hfits]

/-- A class that is read back leaves the value's tag in front of what comes next. -/
theorem rest_of_field {value : UInt32} {tagNumber : UInt8} {next rest : Bytes} {consumed : Nat}
    (h : decodeContextEnumerated (encodeErrorField tagNumber value ++ next) tagNumber
      = .ok (value, consumed))
    (hrest : (dropFrom (encodeErrorField tagNumber value ++ next) consumed : Decoded Bytes)
      = .ok rest) :
    rest = encodeApplicationTag .enumerated (unsignedOctets value).length ++ next := by
  -- How many octets are read is settled by the field's tag, what they denote by the content.
  obtain ⟨rfl, hvalue⟩ := decodeContextEnumerated_field h
  obtain ⟨-, rfl⟩ := dropFrom_eq_ok.mp hrest
  obtain ⟨tag, htag, hpositive⟩ := enumeratedTag_eq value
  have hencoded : encodeEnumerated value = tag :: unsignedOctets value := by
    unfold encodeEnumerated
    rw [htag]
    rfl
  have hdenotes := beNat_unsignedOctets value
  rw [hencoded] at hvalue
  obtain hsame | ⟨hthree, hfour, hbound⟩ := errorFieldLength_eq value
  · -- What is counted denotes the value, as its octets do: they are the same.
    have hsplit := List.take_append_drop (unsignedOctets value).length (tag :: unsignedOctets value)
    have hcounted : (tag :: unsignedOctets value).take (unsignedOctets value).length
        = unsignedOctets value := by
      rw [hsame, List.take_append_of_le_length (by simp)] at hvalue
      exact beNat_inj (by simp) (hvalue.symm.trans hdenotes.symm)
    have hlength : ((tag :: unsignedOctets value).drop (unsignedOctets value).length).length
        = 1 := by simp
    obtain ⟨last, hlast⟩ := List.length_eq_one_iff.mp hlength
    rw [hcounted, hlast] at hsplit
    obtain rfl := last_of_shifted hsplit.symm
    unfold encodeErrorField
    rw [hencoded, htag, hsame, List.append_assoc, ← List.drop_drop, List.drop_left,
      List.drop_append_of_le_length (by simp), hlast]
  · -- Four octets that start with a tag denote more than three can.
    rw [hfour, List.take_append_of_le_length (by simp [hthree]),
      List.take_of_length_le (by simp [hthree]), beNat_cons, hthree] at hvalue
    have hweight : 1 * 256 ^ 3 ≤ tag.toNat * 256 ^ 3 := Nat.mul_le_mul_right _ hpositive
    omega

/-- **No class and code are read back.**  A class that is read back at all is followed by the
tag which is inside the value, where the code's context tag should be. -/
theorem readsBack_never (encoder : ErrorEncoder) (errorClass errorCode : UInt32) :
    ∃ written, (encoder.encodeError errorClass errorCode).buffer = encoder.buffer ++ written ∧
      ¬ ErrorReadsBack written errorClass errorCode := by
  refine ⟨encodeErrorField 0 errorClass ++ encodeErrorField 1 errorCode, rfl, ?_⟩
  rintro ⟨consumed, rest, hclass, hrest, hcode⟩
  rw [rest_of_field hclass hrest, decodeContextEnumerated_application (by decide)] at hcode
  cases hcode

/-- The class `property` and the code `unknown property`: the class is read as its own tag. -/
theorem property_error_written :
    ((ErrorEncoder.mk []).encodeError 2 32).buffer = [0x09, 0x91, 0x02, 0x19, 0x91, 0x20] ∧
    decodeContextEnumerated [0x09, 0x91, 0x02, 0x19, 0x91, 0x20] 0 = .ok (0x91, 2) ∧
    ¬ ErrorReadsBack ((ErrorEncoder.mk []).encodeError 2 32).buffer 2 32 := by
  have hread : decodeContextEnumerated [0x09, 0x91, 0x02, 0x19, 0x91, 0x20] 0 = .ok (0x91, 2) := by
    decide +kernel
  refine ⟨by decide, hread, ?_⟩
  rintro ⟨consumed, rest, hclass, -⟩
  have hbuffer : ((ErrorEncoder.mk []).encodeError 2 32).buffer
      = [0x09, 0x91, 0x02, 0x19, 0x91, 0x20] := by decide
  rw [hbuffer, hread] at hclass
  cases hclass

end BacnetRs.Encoding
