/-
  BacnetRs.Encoding.Encodable — values that encode themselves (`EncodableValue`).

  A value encodes itself as an application value, or under the tag of a context
  field.  The integers take their application encoding for the second and put a
  context tag in place of its own; the others write their octets again.

    * `retag_short`       — another tag in place of one that is a single octet.
    * `contextEncoded_iff` — under which values a context tag announces what follows
                            it, and what follows decodes back.
-/
import BacnetRs.Encoding.FieldCodec

namespace BacnetRs.Encoding

open Octets Checked

/-! ## §1. Encoding -/

/-- The values that `EncodableValue` is implemented for. -/
inductive EncodableValue where
  | bool (value : Bool)
  | u32 (value : UInt32)
  | i32 (value : Int32)
  | f32 (value : F32)
  | f64 (value : F64)
  | str (value : String)

/-- The octets of `temp` after the first, under a context tag. -/
def retag (temp : Bytes) (tagNumber : UInt8) : Bytes :=
  encodeContextTag tagNumber (temp.length - 1) ++ temp.drop 1

/-- `encode_context_to`. -/
def EncodableValue.encodeContextTo (value : EncodableValue) (tagNumber : UInt8) : Bytes :=
  match value with
  | .bool value => encodeContextTag tagNumber (if value then 1 else 0)
  | .u32 value => retag (encodeUnsigned value) tagNumber
  | .i32 value => retag (encodeSigned value) tagNumber
  | .f32 value => encodeContextTag tagNumber 4 ++ beOctets 4 value.bits.toNat
  | .f64 value => encodeContextTag tagNumber 8 ++ beOctets 8 value.bits.toNat
  | .str value =>
      let text := value.toUTF8.toList
      -- The octet in front is the character set.
      encodeContextTag tagNumber (text.length + 1) ++ 0 :: text

/-! ## §2. What decodes back -/

/-- A value is read from what it encoded itself to: by the decoder of its context field, or
where there is none by the application decoder, from the payload under an application tag. -/
def EncodableValue.DecodesBack (tagNumber : UInt8) (encoded payload : Bytes) :
    EncodableValue → Prop
  | .bool value => Reads (decodeContextBoolean · tagNumber) encoded value
  | .u32 value => Reads (decodeContextUnsigned · tagNumber) encoded value
  | .i32 value =>
      Reads decodeSigned (encodeApplicationTag .signedInt payload.length ++ payload) value
  | .f32 value => Reads (decodeContextReal · tagNumber) encoded value
  | .f64 value =>
      Reads decodeDouble (encodeApplicationTag .double payload.length ++ payload) value
  | .str value =>
      Reads decodeCharacterString
        (encodeApplicationTag .characterString payload.length ++ payload) value

/-- A value's context tag announces as many octets as follow it, and they decode back,
whatever comes next. -/
def EncodableValue.ContextEncoded (value : EncodableValue) (tagNumber : UInt8) : Prop :=
  ∃ length consumed,
    (∀ rest, decodeContextTag (value.encodeContextTo tagNumber ++ rest)
      = .ok (tagNumber, length, consumed))
    ∧ ((value.encodeContextTo tagNumber).drop consumed).length = length
    ∧ value.DecodesBack tagNumber (value.encodeContextTo tagNumber)
        ((value.encodeContextTo tagNumber).drop consumed)

/-- No Boolean, and no text of 2³² - 1 octets or more. -/
def EncodableValue.Representable : EncodableValue → Prop
  | .bool _ => False
  | .str value => value.toUTF8.toList.length + 1 < 2 ^ 32
  | .u32 _ => True
  | .i32 _ => True
  | .f32 _ => True
  | .f64 _ => True

/-- An application tag of up to four octets is one octet, and is replaced. -/
theorem retag_short (tag : ApplicationTag) {content : Bytes} (h : content.length < 5)
    (tagNumber : UInt8) :
    retag (encodeApplicationTag tag content.length ++ content) tagNumber
      = encodeContextTag tagNumber content.length ++ content := by
  have hshort : content.length < lvtExtendedLength.toNat := h
  unfold retag encodeApplicationTag
  rw [if_pos hshort]
  simp

/-- What is written after a tag that counts it is well encoded, if it decodes back. -/
theorem EncodableValue.contextEncoded_of_content {value : EncodableValue} {tagNumber : UInt8}
    (content : Bytes)
    (hencoded : value.encodeContextTo tagNumber
      = encodeContextTag tagNumber content.length ++ content)
    (hlength : content.length < 2 ^ 32)
    (hback : value.DecodesBack tagNumber
      (encodeContextTag tagNumber content.length ++ content) content) :
    value.ContextEncoded tagNumber := by
  unfold ContextEncoded
  rw [hencoded]
  refine ⟨content.length, (encodeContextTag tagNumber content.length).length, ?_, ?_, ?_⟩
  · intro rest
    rw [List.append_assoc, decodeContextTag_append tagNumber hlength]
  · rw [List.drop_left]
  · rw [List.drop_left]
    exact hback

theorem contextEncoded_u32 (value : UInt32) (tagNumber : UInt8) :
    (EncodableValue.u32 value).ContextEncoded tagNumber := by
  obtain ⟨width, _, hwidth, _, hoctets⟩ := unsignedOctets_eq value
  have hshort : (unsignedOctets value).length < 5 := by
    rw [hoctets, length_beOctets]
    omega
  apply EncodableValue.contextEncoded_of_content (unsignedOctets value)
  · exact retag_short .unsignedInt hshort tagNumber
  · omega
  · exact reads_contextUnsigned value tagNumber

theorem contextEncoded_i32 (value : Int32) (tagNumber : UInt8) :
    (EncodableValue.i32 value).ContextEncoded tagNumber := by
  have hwidth : signedWidth value.toInt < 5 := by
    unfold signedWidth
    split
    · decide
    · split
      · decide
      · split <;> decide
  let content := beOctets (signedWidth value.toInt) value.toUInt32.toNat
  have hlength : content.length = signedWidth value.toInt := length_beOctets _ _
  have hencoded : encodeSigned value
      = encodeApplicationTag .signedInt content.length ++ content := by
    rw [hlength]
    rfl
  have hshort : content.length < 5 := by
    rw [hlength]
    exact hwidth
  apply EncodableValue.contextEncoded_of_content content
  · show retag (encodeSigned value) tagNumber = _
    rw [hencoded]
    exact retag_short .signedInt hshort tagNumber
  · omega
  · show Reads decodeSigned (encodeApplicationTag .signedInt content.length ++ content) value
    rw [← hencoded]
    exact reads_signed value

theorem contextEncoded_f32 (value : F32) (tagNumber : UInt8) :
    (EncodableValue.f32 value).ContextEncoded tagNumber := by
  have hlength : (beOctets 4 value.bits.toNat).length = 4 := length_beOctets _ _
  apply EncodableValue.contextEncoded_of_content (beOctets 4 value.bits.toNat)
  · rw [hlength]
    rfl
  · omega
  · rw [hlength]
    exact reads_contextReal value tagNumber

theorem contextEncoded_f64 (value : F64) (tagNumber : UInt8) :
    (EncodableValue.f64 value).ContextEncoded tagNumber := by
  have hlength : (beOctets 8 value.bits.toNat).length = 8 := length_beOctets _ _
  apply EncodableValue.contextEncoded_of_content (beOctets 8 value.bits.toNat)
  · rw [hlength]
    rfl
  · omega
  · show Reads decodeDouble (encodeApplicationTag .double (beOctets 8 value.bits.toNat).length
      ++ beOctets 8 value.bits.toNat) value
    rw [hlength]
    exact reads_double value

/-- Text is well encoded as long as its tag can count it. -/
theorem contextEncoded_str_iff (value : String) (tagNumber : UInt8) :
    (EncodableValue.str value).ContextEncoded tagNumber
      ↔ value.toUTF8.toList.length + 1 < 2 ^ 32 := by
  constructor
  · rintro ⟨length, consumed, htag, hlength, _⟩
    have hread := htag []
    have hencoded : (EncodableValue.str value).encodeContextTo tagNumber
        = encodeContextTag tagNumber (value.toUTF8.toList.length + 1)
          ++ 0 :: value.toUTF8.toList := rfl
    rw [hencoded, List.append_assoc, decodeContextTag_append_mod] at hread
    cases hread
    rw [hencoded, List.drop_left, List.length_cons] at hlength
    rw [hlength]
    exact Nat.mod_lt _ (by decide)
  · intro hfits
    apply EncodableValue.contextEncoded_of_content (0 :: value.toUTF8.toList)
    · rfl
    · exact hfits
    · exact reads_characterString hfits

/-- A Boolean is its tag only, and no octet follows to decode. -/
theorem not_contextEncoded_bool (value : Bool) (tagNumber : UInt8) :
    ¬ (EncodableValue.bool value).ContextEncoded tagNumber := by
  rintro ⟨length, consumed, htag, hlength, hback⟩
  have hread := htag []
  have hencoded : (EncodableValue.bool value).encodeContextTo tagNumber
      = encodeContextTag tagNumber (if value then 1 else 0) := rfl
  have hshort : (if value then 1 else 0) < 2 ^ 32 := by cases value <;> decide
  rw [hencoded, decodeContextTag_append tagNumber hshort] at hread
  cases hread
  rw [hencoded, List.drop_length] at hlength
  cases value with
  | true => cases hlength
  | false =>
      -- The tag announces nothing, which is no context Boolean.
      have hdecoded : decodeContextBoolean (encodeContextTag tagNumber 0 ++ []) tagNumber
          = .ok (false, _) := hback []
      unfold decodeContextBoolean at hdecoded
      rw [decodeContextTag_append tagNumber (by decide)] at hdecoded
      simp [bind, Except.bind, Checked.ofExcept, Checked.fail] at hdecoded

/-- **A context tag announces what follows it, which decodes back, exactly when the value is
no Boolean**, nor a text too long for a tag to count. -/
theorem contextEncoded_iff (value : EncodableValue) (tagNumber : UInt8) :
    value.ContextEncoded tagNumber ↔ value.Representable := by
  cases value with
  | bool value => exact iff_of_false (not_contextEncoded_bool value tagNumber) id
  | u32 value => exact iff_of_true (contextEncoded_u32 value tagNumber) trivial
  | i32 value => exact iff_of_true (contextEncoded_i32 value tagNumber) trivial
  | f32 value => exact iff_of_true (contextEncoded_f32 value tagNumber) trivial
  | f64 value => exact iff_of_true (contextEncoded_f64 value tagNumber) trivial
  | str value => exact contextEncoded_str_iff value tagNumber

/-- **A Boolean true is announced and not written.**  Under tag 2 it is the one octet of its
tag, which announces one more, and the context decoder takes the next field's for it. -/
theorem true_not_written :
    (EncodableValue.bool true).encodeContextTo 2 = [0x29]
      ∧ decodeContextTag [0x29] = .ok (2, 1, 1)
      ∧ decodeContextBoolean [0x29] 2 = .error (.error .bufferUnderflow) := by
  decide +kernel

end BacnetRs.Encoding
