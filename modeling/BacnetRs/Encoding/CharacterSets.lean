/-
  BacnetRs.Encoding.CharacterSets — character strings in each character set
  (`decode_character_string` and `CharacterSet::decode` in `encoding/mod.rs`).

  A string declares its character set in the octet in front of its text, and
  its tag counts that octet.  What is accepted is exactly what is the text of
  some string in that set:

    * `decodeUtf16_eq_some_iff`       — pairs of surrogates, and no surrogate alone.
    * `CharacterSet.decode_eq_ok_iff` — each set, in both directions.
    * `decodeCharacterString_exact`   — **behind any header that counts it**, the text
                                        is read or an error is reported.
-/
import BacnetRs.Encoding.TagCodec
import BacnetRs.Encoding.PrimitiveCodec
import BacnetRs.Library.Utf16

namespace BacnetRs.Encoding

open Octets

/-! ## §1. Code points -/

/-- A code point is the number of one character, if of any. -/
theorem charFromU32_eq_some_iff {n : Nat} {c : Char} : charFromU32 n = some c ↔ n = c.toNat := by
  unfold charFromU32
  by_cases hvalid : n.isValidChar
  · rw [dif_pos hvalid, Option.some.injEq]
    have hnumber : (Char.ofNatAux n hvalid).toNat = n := by
      show (UInt32.ofNatLT n _).toNat = n
      exact UInt32.toNat_ofNatLT
    constructor
    · rintro rfl
      exact hnumber.symm
    · intro h
      exact Char.toNat_inj.mp (hnumber.trans h)
  · rw [dif_neg hvalid]
    constructor
    · intro h
      cases h
    · rintro rfl
      exact absurd c.valid hvalid

/-! ## §2. Code units -/

theorem decodeUtf16_single {unit : Nat} (h : unit < 0xD800 ∨ 0xDFFF < unit) (rest : List Nat) :
    decodeUtf16 (unit :: rest)
      = (charFromU32 unit).bind (fun c => (decodeUtf16 rest).map (c :: ·)) := by
  rw [decodeUtf16.eq_def]
  exact if_pos h

theorem decodeUtf16_pair {high low : Nat} (hhigh : Utf16.IsHigh high) (hlow : Utf16.IsLow low)
    (rest : List Nat) :
    decodeUtf16 (high :: low :: rest)
      = (charFromU32 (Utf16.paired high low)).bind
          (fun c => (decodeUtf16 rest).map (c :: ·)) := by
  unfold Utf16.IsHigh at hhigh
  unfold Utf16.IsLow at hlow
  rw [decodeUtf16, if_neg (by omega)]
  exact if_pos ⟨hhigh.2, hlow⟩

/-- The units of a text are read as the text. -/
theorem decodeUtf16_units (text : Text) :
    decodeUtf16 (text.flatMap Utf16.units) = some text := by
  induction text with
  | nil => rw [List.flatMap_nil, decodeUtf16]
  | cons c text ih =>
      rw [List.flatMap_cons]
      rcases Utf16.units_cases c with ⟨hunits, hsingle⟩ | ⟨high, low, hunits, hhigh, hlow, hpaired⟩
      · rw [hunits, List.singleton_append, decodeUtf16_single hsingle,
          charFromU32_eq_some_iff.mpr rfl, ih]
        rfl
      · rw [hunits, List.cons_append, List.singleton_append, decodeUtf16_pair hhigh hlow,
          charFromU32_eq_some_iff.mpr hpaired, ih]
        rfl

/-- What is read first, and the units it was read from. -/
theorem exists_of_decoded {n : Nat} {rest : List Nat} {text : Text}
    (h : (charFromU32 n).bind (fun c => (decodeUtf16 rest).map (c :: ·)) = some text) :
    ∃ c more, n = c.toNat ∧ decodeUtf16 rest = some more ∧ text = c :: more := by
  obtain ⟨c, hc, hmore⟩ := Option.bind_eq_some_iff.mp h
  obtain ⟨more, hrest, rfl⟩ := Option.map_eq_some_iff.mp hmore
  exact ⟨c, more, charFromU32_eq_some_iff.mp hc, hrest, rfl⟩

/-- And what is read is read from the units of what is read. -/
theorem units_of_decodeUtf16 (units : List Nat) : ∀ {text : Text},
    (∀ unit ∈ units, unit < 0x10000) → decodeUtf16 units = some text →
      units = text.flatMap Utf16.units := by
  induction units using decodeUtf16.induct with
  | case1 =>
      intro text _ h
      rw [decodeUtf16] at h
      cases h
      rfl
  | case2 unit rest hsingle ih =>
      intro text hunits h
      obtain ⟨hunit, hrest⟩ := List.forall_mem_cons.mp hunits
      rw [decodeUtf16_single hsingle] at h
      obtain ⟨c, more, rfl, hmore, rfl⟩ := exists_of_decoded h
      rw [List.flatMap_cons, Utf16.units_single hunit, ← ih hrest hmore]
      rfl
  | case3 unit hsurrogate =>
      -- A surrogate is the last unit.
      intro text _ h
      rw [decodeUtf16, if_neg hsurrogate] at h
      cases h
  | case4 unit hsurrogate low rest hpair ih =>
      intro text hunits h
      obtain ⟨_, hunits⟩ := List.forall_mem_cons.mp hunits
      obtain ⟨_, hrest⟩ := List.forall_mem_cons.mp hunits
      have hhigh : Utf16.IsHigh unit := ⟨by omega, hpair.1⟩
      rw [decodeUtf16_pair hhigh hpair.2] at h
      obtain ⟨c, more, hnumber, hmore, rfl⟩ := exists_of_decoded h
      rw [List.flatMap_cons, Utf16.units_pair hhigh hpair.2 hnumber.symm, ← ih hrest hmore]
      rfl
  | case5 unit hsurrogate low rest hpair =>
      -- Two surrogates in a row that are no pair, or one before a unit that is none.
      intro text _ h
      rw [decodeUtf16, if_neg hsurrogate] at h
      simp only [hpair] at h
      cases h

/-- **Units are a text's exactly when they are read as it.** -/
theorem decodeUtf16_eq_some_iff {units : List Nat} (hunits : ∀ unit ∈ units, unit < 0x10000)
    {text : Text} : decodeUtf16 units = some text ↔ units = text.flatMap Utf16.units := by
  constructor
  · exact units_of_decodeUtf16 units hunits
  · rintro rfl
    exact decodeUtf16_units text

/-! ## §3. Pieces -/

/-- Pieces are read one by one as what each of them stands for. -/
theorem mapM_eq_some_iff {α β : Type} {read : α → Option β} {write : β → α} {pieces : List α}
    (h : ∀ piece ∈ pieces, ∀ b, read piece = some b ↔ piece = write b) : ∀ {values : List β},
    pieces.mapM read = some values ↔ pieces = values.map write := by
  induction pieces with
  | nil =>
      intro values
      cases values <;> simp
  | cons piece pieces ih =>
      intro values
      obtain ⟨hpiece, hpieces⟩ := List.forall_mem_cons.mp h
      have hmore : ∀ {values : List β}, pieces.mapM read = some values
          ↔ pieces = values.map write := ih hpieces
      rw [List.mapM_cons]
      constructor
      · intro hread
        obtain ⟨b, hb, hread⟩ := Option.bind_eq_some_iff.mp hread
        obtain ⟨more, hothers, hsame⟩ := Option.bind_eq_some_iff.mp hread
        cases hsame
        rw [List.map_cons, ← (hpiece b).mp hb, ← hmore.mp hothers]
      · intro hsame
        cases values with
        | nil => cases hsame
        | cons b values =>
            rw [List.map_cons, List.cons.injEq] at hsame
            rw [(hpiece b).mpr hsame.1, hmore.mpr hsame.2]
            rfl

section Pieces

variable {width : Nat} {data : Bytes}

/-- The pieces of data are of that size and are together the data. -/
theorem chunks_eq_map_iff (hwidth : 0 < width) {numbers : List Nat} :
    chunks width data = numbers.map (beOctets width)
      ↔ data = numbers.flatMap (beOctets width) := by
  refine (chunks_eq_iff hwidth ?_).trans ?_
  · intro piece hpiece
    obtain ⟨n, _, rfl⟩ := List.mem_map.mp hpiece
    exact length_beOctets width n
  · rw [List.flatMap_def]

/-- Data that comes out even has the numbers it is the octets of. -/
theorem chunks_beNat_iff (hwidth : 0 < width) (heven : data.length % width = 0)
    {numbers : List Nat} (hnumbers : ∀ n ∈ numbers, n < 256 ^ width) :
    (chunks width data).map beNat = numbers ↔ data = numbers.flatMap (beOctets width) := by
  rw [← chunks_eq_map_iff hwidth]
  have hpieces : ∀ piece ∈ chunks width data, piece.length = width :=
    fun piece hpiece => length_of_mem_chunks hwidth heven hpiece
  constructor
  · rintro rfl
    rw [List.map_map]
    refine (List.map_id _).symm.trans (List.map_congr_left (fun piece hpiece => ?_))
    show piece = beOctets width (beNat piece)
    rw [← hpieces piece hpiece, beOctets_beNat]
  · intro h
    rw [h, List.map_map]
    refine (List.map_congr_left (fun n hn => ?_)).trans (List.map_id _)
    show beNat (beOctets width n) = n
    rw [beNat_beOctets, Nat.mod_eq_of_lt (hnumbers n hn)]

/-- What is written in pieces of one size comes out even. -/
theorem even_of_eq {numbers : List Nat} (h : data = numbers.flatMap (beOctets width)) :
    data.length % width = 0 := by
  rw [h, List.flatMap_def]
  apply length_flatten_mod
  intro piece hpiece
  obtain ⟨n, _, rfl⟩ := List.mem_map.mp hpiece
  exact length_beOctets width n

end Pieces

/-! ## §4. Each character set -/

/-- `payload` is `text` in the character set that `octet` declares: UTF-8, UCS-4, UTF-16 or
Latin-1.  Nothing is in a set that is unknown or needs a code page. -/
def WrittenIn (octet : UInt8) (text : Text) (payload : Bytes) : Prop :=
  match octet.toNat with
  | 0 => payload = Utf8.encode text
  | 3 => payload = (text.map Char.toNat).flatMap (beOctets 4)
  | 4 => payload = (text.flatMap Utf16.units).flatMap (beOctets 2)
  | 5 => (∀ c ∈ text, c.toNat < 256) ∧ payload = text.map (fun c => UInt8.ofNat c.toNat)
  | _ => False

section Sets

variable {data : Bytes} {value : String}

theorem ofList_eq_iff {text : Text} : String.ofList text = value ↔ text = value.toList := by
  constructor
  · rintro rfl
    exact String.toList_ofList.symm
  · rintro rfl
    exact String.ofList_toList

/-- UTF-8, as the standard library has it. -/
theorem decode_utf8_iff :
    CharacterSet.utf8.decode data = .ok value ↔ data = Utf8.encode value.toList := by
  have hencode : value.toByteArray.data.toList = Utf8.encode value.toList := by
    rw [← String.utf8Encode_toList, List.utf8Encode, List.data_toByteArray]
    rfl
  simp only [CharacterSet.decode, String.fromUTF8?]
  split
  · next text htext =>
      split at htext
      · next hvalid =>
          rw [← Option.some.inj htext, Except.ok.injEq, ← hencode, ← String.toByteArray_inj]
          constructor
          · intro h
            exact congrArg (fun octets => octets.data.toList) h
          · intro h
            exact congrArg (fun octets : Bytes => (⟨octets.toArray⟩ : ByteArray)) h
      · cases htext
  · next hnone =>
      split at hnone
      · cases hnone
      · next hinvalid =>
          refine iff_of_false (fun h => by cases h) (fun h => hinvalid ?_)
          rw [h, ← hencode]
          exact value.isValidUTF8

/-- UCS-4. -/
theorem decode_ucs4_iff : CharacterSet.ucs4.decode data = .ok value
    ↔ data = (value.toList.map Char.toNat).flatMap (beOctets 4) := by
  have hbound : ∀ n ∈ value.toList.map Char.toNat, n < 256 ^ 4 := by
    intro n hn
    obtain ⟨c, _, rfl⟩ := List.mem_map.mp hn
    exact c.val.toNat_lt
  simp only [CharacterSet.decode]
  by_cases heven : data.length % 4 = 0
  · have hread : ∀ {text : Text}, (chunks 4 data).mapM (fun quad => charFromU32 (beNat quad))
        = some text ↔ (chunks 4 data).map beNat = text.map Char.toNat := by
      intro text
      have hone : ∀ n ∈ (chunks 4 data).map beNat, ∀ c, charFromU32 n = some c ↔ n = c.toNat :=
        fun _ _ _ => charFromU32_eq_some_iff
      rw [← mapM_eq_some_iff hone, List.mapM_map]
      rfl
    rw [if_neg (not_not_intro heven), ← chunks_beNat_iff (by decide) heven hbound, ← hread]
    split
    · next text htext =>
        rw [htext, Except.ok.injEq, ofList_eq_iff, Option.some.injEq]
    · next hnone =>
        rw [hnone]
        exact iff_of_false (fun h => by cases h) (fun h => by cases h)
  · rw [if_pos heven]
    exact iff_of_false (fun h => by cases h) (fun h => heven (even_of_eq h))

/-- UTF-16. -/
theorem decode_ucs2_iff : CharacterSet.ucs2.decode data = .ok value
    ↔ data = (value.toList.flatMap Utf16.units).flatMap (beOctets 2) := by
  have hbound : ∀ unit ∈ value.toList.flatMap Utf16.units, unit < 256 ^ 2 := by
    intro unit hunit
    obtain ⟨c, _, hunit⟩ := List.mem_flatMap.mp hunit
    exact Utf16.units_lt hunit
  simp only [CharacterSet.decode]
  by_cases heven : data.length % 2 = 0
  · have hunits : ∀ unit ∈ (chunks 2 data).map beNat, unit < 0x10000 := by
      intro unit hunit
      obtain ⟨piece, hpiece, rfl⟩ := List.mem_map.mp hunit
      have hlength := length_of_mem_chunks (by decide) heven hpiece
      have hlt := beNat_lt piece
      rw [hlength] at hlt
      exact hlt
    rw [if_neg (not_not_intro heven), ← chunks_beNat_iff (by decide) heven hbound,
      ← decodeUtf16_eq_some_iff hunits]
    split
    · next text htext =>
        rw [htext, Except.ok.injEq, ofList_eq_iff, Option.some.injEq]
    · next hnone =>
        rw [hnone]
        exact iff_of_false (fun h => by cases h) (fun h => by cases h)
  · rw [if_pos heven]
    exact iff_of_false (fun h => by cases h) (fun h => heven (even_of_eq h))

/-- Latin-1: an octet is a character. -/
theorem decode_latin1_iff : CharacterSet.latin1.decode data = .ok value
    ↔ (∀ c ∈ value.toList, c.toNat < 256)
      ∧ data = value.toList.map (fun c => UInt8.ofNat c.toNat) := by
  have hnumber : ∀ octet : UInt8, (Char.ofNat octet.toNat).toNat = octet.toNat := by
    intro octet
    have hoctet := octet.toNat_lt
    have hvalid : octet.toNat.isValidChar := .inl (by omega)
    have hread : charFromU32 octet.toNat = some (Char.ofNat octet.toNat) := by
      unfold charFromU32 Char.ofNat
      rw [dif_pos hvalid, dif_pos hvalid]
    exact (charFromU32_eq_some_iff.mp hread).symm
  simp only [CharacterSet.decode]
  rw [Except.ok.injEq, ofList_eq_iff]
  constructor
  · intro h
    rw [← h]
    refine ⟨fun c hc => ?_, ?_⟩
    · obtain ⟨octet, _, rfl⟩ := List.mem_map.mp hc
      rw [hnumber]
      exact octet.toNat_lt
    · rw [List.map_map]
      refine (List.map_id _).symm.trans (List.map_congr_left (fun octet _ => ?_))
      show octet = UInt8.ofNat (Char.ofNat octet.toNat).toNat
      rw [hnumber, UInt8.ofNat_toNat]
  · rintro ⟨hsmall, rfl⟩
    rw [List.map_map]
    refine (List.map_congr_left (fun c hc => ?_)).trans (List.map_id _)
    show Char.ofNat (UInt8.ofNat c.toNat).toNat = c
    rw [UInt8.toNat_ofNat_of_lt' (hsmall c hc), Char.ofNat_toNat]

end Sets

/-- **What the declared set reads is what is written in it.** -/
theorem read_eq_ok_iff {octet : UInt8} {payload : Bytes} {value : String} :
    (CharacterSet.tryFrom octet >>= fun set => set.decode payload) = .ok value
      ↔ WrittenIn octet value.toList payload := by
  have hrefused : ∀ {e : EncodingError}, (.error e : Except EncodingError String) = .ok value
      ↔ False := fun {e} => iff_of_false (fun h => by cases h) id
  unfold CharacterSet.tryFrom WrittenIn
  generalize octet.toNat = number
  match number with
  | 0 => exact decode_utf8_iff
  | 1 | 2 => exact hrefused
  | 3 => exact decode_ucs4_iff
  | 4 => exact decode_ucs2_iff
  | 5 => exact decode_latin1_iff
  | _ + 6 => exact hrefused

/-! ## §5. Behind any header -/

/-- The tags of a character string that count `length` octets: in the initial octet, or in one,
two or four octets behind it. -/
inductive StringHeader : Bytes → Nat → Prop
  | short (length : Nat) (h : length ≤ 4) : StringHeader [0x70 ||| UInt8.ofNat length] length
  | one (length : Nat) (h : length ≤ 253) : StringHeader [0x75, UInt8.ofNat length] length
  | two (high low : UInt8) : StringHeader [0x75, 254, high, low] (beNat [high, low])
  | four (a b c d : UInt8) : StringHeader [0x75, 255, a, b, c, d] (beNat [a, b, c, d])

theorem StringHeader.isTag {header : Bytes} {length : Nat} (h : StringHeader header length) :
    IsTag header (.application .characterString) length := by
  unfold IsTag
  cases h with
  | short length h =>
      match length, h with
      | 0, _ | 1, _ | 2, _ | 3, _ | 4, _ => rfl
  | one length h =>
      have hnumber : (UInt8.ofNat length).toNat = length := UInt8.toNat_ofNat_of_lt' (by
        show length < 256
        omega)
      have hread : readExtendedLength [0x75, UInt8.ofNat length] 1 = .ok (length, 1) := by
        show (if (UInt8.ofNat length).toNat ≤ 253 then _ else _) = _
        rw [if_pos (by omega), hnumber]
      show decodeTagValue [0x75, UInt8.ofNat length] false lvtExtendedLength 7 1 = _
      unfold decodeTagValue
      rw [hread]
      rfl
  | two high low => rfl
  | four a b c d => rfl

section Exact

open Checked

/-- Behind a header that counts the octet of its set and its payload, the payload is read in that
set. -/
theorem decodeCharacterString_eq {header payload : Bytes}
    (hheader : StringHeader header (payload.length + 1)) (octet : UInt8) (rest : Bytes) :
    decodeCharacterString (header ++ octet :: (payload ++ rest))
      = (ofExcept (CharacterSet.tryFrom octet >>= fun set => set.decode payload)
          >>= fun text => pure (text, header.length + (payload.length + 1))) := by
  have htag : expectApplicationTag (header ++ octet :: (payload ++ rest)) .characterString
      = .ok (payload.length + 1, header.length) := by
    unfold expectApplicationTag
    rw [decodeApplicationTag_eq_ok.mpr (hheader.isTag.decodes _)]
    rfl
  have hwithin : ¬ ((header ++ octet :: (payload ++ rest)).length
      < header.length + (payload.length + 1) ∨ payload.length + 1 = 0) := by
    simp only [List.length_append, List.length_cons]
    omega
  have hindex : (index (header ++ octet :: (payload ++ rest)) header.length : Decoded UInt8)
      = .ok octet := index_append header octet (payload ++ rest)
  have hrange : (range (header ++ octet :: (payload ++ rest)) (header.length + 1)
      (header.length + (payload.length + 1)) : Decoded Bytes) = .ok payload := by
    have h : (range _ _ _ : Decoded Bytes) = _ := range_append (header ++ [octet]) payload rest
    rw [List.length_append, List.length_singleton, List.append_assoc, List.singleton_append,
      Nat.add_assoc, Nat.add_comm 1] at h
    exact h
  unfold decodeCharacterString
  simp only [htag, ok_bind]
  rw [if_neg hwithin]
  simp only [hindex, ok_bind]
  cases CharacterSet.tryFrom octet with
  | error e => rfl
  | ok set =>
      simp only [hrange, ok_bind]
      rfl

/-- **A string is accepted exactly as what it says.**  Behind a header that counts the octet of its
set and its payload, and whatever comes next: the payload is read as the string it is in that set,
up to its end, and what is no string in that set is an error. -/
theorem decodeCharacterString_exact {header payload : Bytes}
    (hheader : StringHeader header (payload.length + 1)) (octet : UInt8) (rest : Bytes) :
    (∀ text : String, WrittenIn octet text.toList payload →
      decodeCharacterString (header ++ octet :: (payload ++ rest))
        = .ok (text, header.length + (payload.length + 1)))
    ∧ ((∀ text : String, ¬ WrittenIn octet text.toList payload) →
      ∃ e, decodeCharacterString (header ++ octet :: (payload ++ rest)) = .error (.error e)) := by
  rw [decodeCharacterString_eq hheader]
  constructor
  · intro text htext
    rw [read_eq_ok_iff.mpr htext]
    rfl
  · intro hnone
    cases hread : (CharacterSet.tryFrom octet >>= fun set => set.decode payload) with
    | ok text => exact absurd (read_eq_ok_iff.mp hread) (hnone text)
    | error e => exact ⟨e, rfl⟩

/-- Two characters in UTF-16, the second a pair of surrogates, with an octet behind them; and half
a pair, which is no string. -/
theorem decodeCharacterString_exact_utf16 :
    decodeCharacterString [0x75, 0x07, 4, 0x00, 0x41, 0xD8, 0x3D, 0xDE, 0x00, 0xFF]
      = .ok (String.ofList [Char.ofNat 0x41, Char.ofNat 0x1F600], 9)
    ∧ ∃ e, decodeCharacterString [0x73, 4, 0xD8, 0x3D] = .error (.error e) := by
  have hwhole : StringHeader [0x75, 0x07]
      (([0x00, 0x41, 0xD8, 0x3D, 0xDE, 0x00] : Bytes).length + 1) := .one 7 (by decide)
  have hhalf : StringHeader [0x73] (([0xD8, 0x3D] : Bytes).length + 1) := .short 3 (by decide)
  constructor
  · refine (decodeCharacterString_exact hwhole 4 [0xFF]).1 _ ?_
    rw [String.toList_ofList]
    show [0x00, 0x41, 0xD8, 0x3D, 0xDE, 0x00] = _
    decide
  · refine (decodeCharacterString_exact hhalf 4 []).2 ?_
    intro text htext
    have hread : CharacterSet.ucs2.decode [0xD8, 0x3D] = .ok text := decode_ucs2_iff.mpr htext
    have hrefused : CharacterSet.ucs2.decode [0xD8, 0x3D]
        = .error (.invalidFormat "Invalid UCS-2 string") := by decide
    rw [hrefused] at hread
    cases hread

end Exact

end BacnetRs.Encoding
