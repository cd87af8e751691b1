/-
  BacnetRs.Object.RecordAccess — the records in a File (`object/file.rs`).

  The content is read as text, and every line of it is a record.  A write takes
  the lines apart, puts records in their places and joins the lines again, with
  a line feed between each two.  What a line does not keep across that is lost:
  an empty last one is no line, and a carriage return before a line feed is a
  part of the line's end:

    * `writeRecords_eq`    — what a write leaves, of any file that can be written.
    * `records_written_iff` — when the records are there afterwards.
-/
import BacnetRs.Library.Utf8
import BacnetRs.Object.FileAccess

namespace BacnetRs.Object

open Octets Extent

/-- `FileAccessMethod`. -/
inductive FileAccessMethod where
  | recordAccess
  | streamAccess
  deriving Repr, DecidableEq

/-- `File`, with its content and how many records it reports. -/
structure RecordFile extends StreamFile where
  fileAccessMethod : FileAccessMethod
  recordCount : Option UInt32
  deriving Repr, DecidableEq

namespace RecordFile

/-- What a file that is not for records answers. -/
def notForRecords : ObjectError := .invalidValue "File is not configured for record access"

/-- The content's lines. -/
def lines (self : RecordFile) : List Text := Text.lines (Utf8.lossy self.fileData)

/-- `read_records`. -/
def readRecords (overflowChecks : Bool) (self : RecordFile) (startRecord recordCount : UInt32) :
    Checked ObjectError (List Bytes) :=
  if self.fileAccessMethod ≠ .recordAccess then Checked.fail notForRecords
  else do
    let endIdx ← addU32 overflowChecks startRecord recordCount
    return ((self.lines.take (min endIdx.toNat self.lines.length)).drop startRecord.toNat).map
      Utf8.encode

/-- The records put in the places of lines, one after another from the `i`-th on. -/
def replace : Nat → List Text → List Bytes → List Text
  | _, lines, [] => lines
  | i, lines, record :: records => replace (i + 1) (lines.set i (Utf8.lossy record)) records

/-- `write_records`. -/
def writeRecords (self : RecordFile) (startRecord : UInt32) (records : List Bytes) :
    Attempt ObjectError RecordFile :=
  if self.readOnly then .refused self .writeAccessDenied
  else if self.fileAccessMethod ≠ .recordAccess then .refused self notForRecords
  else
    let startIdx := startRecord.toNat
    -- There are lines enough after this, so every place is one of theirs.
    let extended := self.lines
      ++ List.replicate (startIdx + records.length - self.lines.length) []
    let replaced := replace startIdx extended records
    let newData := Utf8.encode (Text.unlines replaced)
    .done { self with
      fileData := newData
      fileSize := UInt32.ofNat newData.length
      recordCount := some (UInt32.ofNat replaced.length) }

/-- The records that can be read. -/
def readable (self : RecordFile) : List Bytes := self.lines.map Utf8.encode

/-- What a write is to do: the records are returned, those beside them are as they were, those in
the gap before them are empty, and as many are reported as can be read. -/
structure Held (overflowChecks : Bool) (file : RecordFile) (startRecord : UInt32)
    (records : List Bytes) : Prop where
  accepted : (file.writeRecords startRecord records).2 = .ok ()
  returned : (file.writeRecords startRecord records).1.readRecords overflowChecks startRecord
    (UInt32.ofNat records.length) = .ok records
  kept : ∀ i, i < file.readable.length →
    i < startRecord.toNat ∨ startRecord.toNat + records.length ≤ i →
    (file.writeRecords startRecord records).1.readable[i]? = file.readable[i]?
  empty : ∀ i, file.readable.length ≤ i → i < startRecord.toNat →
    (file.writeRecords startRecord records).1.readable[i]? = some []
  counted : (file.writeRecords startRecord records).1.recordCount.map UInt32.toNat
    = some (file.writeRecords startRecord records).1.readable.length

/-- Lines that are there again when they have been joined and taken apart: fewer than 2^32, the
last not empty, and none before it with a carriage return at its end. -/
structure Separable (lines : List Text) : Prop where
  length : lines.length < 2 ^ 32
  last : lines.getLast? ≠ some []
  ends : ∀ line ∈ lines.dropLast, line.getLast? ≠ some '\r'

/-! ## §1. What a write leaves -/

variable {file : RecordFile}

theorem replace_eq (start : Nat) (lines : List Text) (records : List Bytes)
    (h : start + records.length ≤ lines.length) :
    replace start lines records
      = lines.take start ++ records.map Utf8.lossy ++ lines.drop (start + records.length) := by
  induction records generalizing start lines with
  | nil =>
      show lines = _
      rw [List.map_nil, List.append_nil, List.length_nil, Nat.add_zero, List.take_append_drop]
  | cons record records ih =>
      rw [List.length_cons] at h
      have hwithin : start < lines.length := by omega
      have htake : (lines.set start (Utf8.lossy record)).take (start + 1)
          = lines.take start ++ [Utf8.lossy record] := by
        rw [List.take_add_one, List.take_set_of_le (Nat.le_refl start),
          List.getElem?_set_self hwithin]
        rfl
      rw [replace, ih (start + 1) _ (by rw [List.length_set]; omega), htake,
        List.drop_set_of_lt (by omega), List.map_cons, List.length_cons]
      have hend : start + 1 + records.length = start + (records.length + 1) := by omega
      rw [hend]
      simp only [List.append_assoc, List.cons_append, List.nil_append]

/-- **A write leaves the lines, with the records in their places and empty lines in the gap.** -/
theorem writeRecords_eq (hwritable : file.readOnly = false)
    (hrecords : file.fileAccessMethod = .recordAccess) (startRecord : UInt32)
    (records : List Bytes) :
    file.writeRecords startRecord records
      = .done { file with
          fileData := Utf8.encode (Text.unlines
            (overlay [] file.lines startRecord.toNat (records.map Utf8.lossy)))
          fileSize := UInt32.ofNat (Utf8.encode (Text.unlines
            (overlay [] file.lines startRecord.toNat (records.map Utf8.lossy)))).length
          recordCount := some (UInt32.ofNat
            (overlay [] file.lines startRecord.toNat (records.map Utf8.lossy)).length) } := by
  have hreplaced : replace startRecord.toNat (file.lines
        ++ List.replicate (startRecord.toNat + records.length - file.lines.length) []) records
      = overlay [] file.lines startRecord.toNat (records.map Utf8.lossy) := by
    rw [replace_eq _ _ _ (by rw [List.length_append, List.length_replicate]; omega)]
    have hgap : min (startRecord.toNat - file.lines.length)
        (startRecord.toNat + records.length - file.lines.length)
        = startRecord.toNat - file.lines.length := by omega
    unfold overlay
    rw [List.length_map, List.take_append, List.drop_append, List.take_replicate,
      List.drop_replicate, hgap, Nat.sub_self, List.replicate_zero, List.append_nil]
  unfold writeRecords
  rw [hwritable, if_neg Bool.false_ne_true, if_neg (not_not.mpr hrecords)]
  simp only [hreplaced]

/-! ## §2. What can be read -/

variable {startRecord : UInt32} {records : List Bytes}

/-- The lines that are to be there after a write. -/
def linesAfter (file : RecordFile) (startRecord : UInt32) (records : List Bytes) : List Text :=
  overlay [] file.lines startRecord.toNat (records.map Utf8.lossy)

theorem length_linesAfter (file : RecordFile) (startRecord : UInt32) (records : List Bytes) :
    (file.linesAfter startRecord records).length
      = max file.lines.length (startRecord.toNat + records.length) := by
  unfold linesAfter
  rw [length_overlay, List.length_map]

/-- Records of text without line feeds, put among lines. -/
def Lineal (records : List Bytes) : Prop :=
  ∀ record ∈ records, ∃ text, '\n' ∉ text ∧ record = Utf8.encode text

theorem Lineal.encode_lossy (h : Lineal records) :
    (records.map Utf8.lossy).map Utf8.encode = records := by
  rw [List.map_map]
  have hsame : ∀ record ∈ records, (Utf8.encode ∘ Utf8.lossy) record = record := by
    intro record hmem
    obtain ⟨text, _, rfl⟩ := h record hmem
    show Utf8.encode (Utf8.lossy (Utf8.encode text)) = _
    rw [Utf8.lossy_encode]
  rw [List.map_congr_left hsame, List.map_id']

/-- No line to be there has a line feed in it. -/
theorem Lineal.linesAfter (h : Lineal records) (file : RecordFile) (startRecord : UInt32) :
    ∀ line ∈ file.linesAfter startRecord records, '\n' ∉ line := by
  intro line hmem
  unfold RecordFile.linesAfter overlay at hmem
  obtain hmem | hbehind := List.mem_append.mp hmem
  · obtain hmem | hwritten := List.mem_append.mp hmem
    · obtain hfront | hgap := List.mem_append.mp hmem
      · exact Text.feed_not_mem_of_mem_lines (List.mem_of_mem_take hfront)
      · rw [List.eq_of_mem_replicate hgap]
        exact List.not_mem_nil
    · obtain ⟨record, hrecord, rfl⟩ := List.mem_map.mp hwritten
      obtain ⟨text, hplain, rfl⟩ := h record hrecord
      rw [Utf8.lossy_encode]
      exact hplain
  · exact Text.feed_not_mem_of_mem_lines (List.mem_of_mem_drop hbehind)

/-- What can be read of a file whose content is joined lines. -/
theorem lines_of_joined {lines : List Text}
    (h : file.fileData = Utf8.encode (Text.unlines lines)) :
    file.lines = Text.lines (Text.unlines lines) := by
  unfold RecordFile.lines
  rw [h, Utf8.lossy_encode]

/-- A read whose end has 32 bits returns the records from its start to its end. -/
theorem readRecords_eq_ok (overflowChecks : Bool)
    (hrecords : file.fileAccessMethod = .recordAccess) {count : UInt32}
    (hsum : startRecord.toNat + count.toNat < 2 ^ 32) :
    file.readRecords overflowChecks startRecord count
      = .ok (((file.lines.take (startRecord.toNat + count.toNat)).drop startRecord.toNat).map
          Utf8.encode) := by
  have hnat : (startRecord + count).toNat = startRecord.toNat + count.toNat := by
    rw [UInt32.toNat_add, Nat.mod_eq_of_lt hsum]
  unfold readRecords addU32
  rw [if_neg (not_not.mpr hrecords), if_neg (fun h => absurd h.2 (Nat.not_le.mpr hsum)),
    Checked.ok_bind, hnat, ← List.take_eq_take_min]
  rfl

/-- Texts are told apart by their octets. -/
theorem encode_injective : Function.Injective Utf8.encode :=
  Function.LeftInverse.injective Utf8.lossy_encode

theorem getElem?_readable (file : RecordFile) (i : Nat) :
    file.readable[i]? = file.lines[i]?.map Utf8.encode := List.getElem?_map

/-- The same record is read where the same line is. -/
theorem readable_eq_iff {file' : RecordFile} {i : Nat} :
    file.readable[i]? = file'.readable[i]? ↔ file.lines[i]? = file'.lines[i]? := by
  rw [getElem?_readable, getElem?_readable]
  exact (Option.map_injective encode_injective).eq_iff

section Written

variable (hwritable : file.readOnly = false) (hrecords : file.fileAccessMethod = .recordAccess)

include hwritable hrecords

theorem fileData_written : (file.writeRecords startRecord records).1.fileData
    = Utf8.encode (Text.unlines (file.linesAfter startRecord records)) := by
  rw [writeRecords_eq hwritable hrecords]
  rfl

theorem method_written :
    (file.writeRecords startRecord records).1.fileAccessMethod = .recordAccess := by
  rw [writeRecords_eq hwritable hrecords]
  exact hrecords

theorem count_written : (file.writeRecords startRecord records).1.recordCount
    = some (UInt32.ofNat (file.linesAfter startRecord records).length) := by
  rw [writeRecords_eq hwritable hrecords]
  rfl

/-- A read of as many records as were written returns what can be read in their places. -/
theorem readRecords_written (overflowChecks : Bool)
    (hfits : (file.linesAfter startRecord records).length < 2 ^ 32) :
    (file.writeRecords startRecord records).1.readRecords overflowChecks startRecord
        (UInt32.ofNat records.length)
      = .ok ((((file.writeRecords startRecord records).1.lines.take
          (startRecord.toNat + records.length)).drop startRecord.toNat).map Utf8.encode) := by
  have hlength := length_linesAfter file startRecord records
  have hcount : (UInt32.ofNat records.length).toNat = records.length :=
    UInt32.toNat_ofNat_of_lt' (by show records.length < 2 ^ 32; omega)
  rw [readRecords_eq_ok overflowChecks (method_written hwritable hrecords)
    (by rw [hcount]; omega), hcount]

/-- Where the lines that can be read are those to be there, the write has done what it is to do. -/
theorem held_of_lines (overflowChecks : Bool) (hlineal : Lineal records)
    (hfits : (file.linesAfter startRecord records).length < 2 ^ 32)
    (hlines : (file.writeRecords startRecord records).1.lines
      = file.linesAfter startRecord records) :
    file.Held overflowChecks startRecord records := by
  have hoverlaid := overlaid_overlay [] file.lines startRecord.toNat (records.map Utf8.lossy)
  refine ⟨?_, ?_, ?_, ?_, ?_⟩
  · rw [writeRecords_eq hwritable hrecords]
    rfl
  · have hslice := slice_overlay [] file.lines startRecord.toNat (records.map Utf8.lossy)
    rw [List.length_map] at hslice
    rw [readRecords_written hwritable hrecords overflowChecks hfits, hlines]
    show Except.ok (((overlay [] file.lines startRecord.toNat (records.map Utf8.lossy)).take
      (startRecord.toNat + records.length)).drop startRecord.toNat |>.map Utf8.encode) = _
    rw [hslice, hlineal.encode_lossy]
  · intro i hthere hbeside
    rw [readable_eq_iff, hlines]
    have hwithin : i < file.lines.length := by
      rwa [readable, List.length_map] at hthere
    obtain hbefore | hbehind := hbeside
    · exact hoverlaid.kept i hbefore hwithin
    · exact hoverlaid.behind i (by rw [List.length_map]; exact hbehind)
  · intro i hnone hbefore
    rw [readable, List.length_map] at hnone
    rw [getElem?_readable, hlines]
    show ((overlay [] file.lines startRecord.toNat (records.map Utf8.lossy))[i]?).map _ = _
    rw [hoverlaid.filled i hbefore hnone]
    rfl
  · rw [count_written hwritable hrecords, readable, List.length_map, hlines]
    exact congrArg some (UInt32.toNat_ofNat_of_lt' hfits)

/-- **Where the write has done what it is to do, the lines that can be read are those to be
there**, position by position. -/
theorem lines_of_held {overflowChecks : Bool} (hlineal : Lineal records)
    (hheld : file.Held overflowChecks startRecord records) :
    (file.linesAfter startRecord records).length < 2 ^ 32
      ∧ (file.writeRecords startRecord records).1.lines = file.linesAfter startRecord records := by
  have hoverlaid := overlaid_overlay [] file.lines startRecord.toNat (records.map Utf8.lossy)
  have hlength := length_linesAfter file startRecord records
  -- One record less than are counted would be the most that is lost.
  have hcounted : (file.linesAfter startRecord records).length % 2 ^ 32
      = (file.writeRecords startRecord records).1.lines.length := by
    have hcounted := hheld.counted
    rw [count_written hwritable hrecords, readable, List.length_map] at hcounted
    exact Option.some.inj hcounted
  obtain ⟨hless, hmore⟩ := Text.length_lines_unlines
    (hlineal.linesAfter file startRecord)
  rw [← lines_of_joined (fileData_written hwritable hrecords)] at hless hmore
  have hfits : (file.linesAfter startRecord records).length < 2 ^ 32 := by omega
  refine ⟨hfits, ?_⟩
  -- The records that are returned are the lines in their places.
  have hreturned := hheld.returned
  rw [readRecords_written hwritable hrecords overflowChecks hfits] at hreturned
  have hslice : ((file.writeRecords startRecord records).1.lines.take
      (startRecord.toNat + records.length)).drop startRecord.toNat
      = records.map Utf8.lossy := by
    apply List.map_injective_iff.mpr encode_injective
    rw [hlineal.encode_lossy]
    exact Except.ok.inj hreturned
  apply List.ext_getElem?
  intro i
  show _ = (overlay [] file.lines startRecord.toNat (records.map Utf8.lossy))[i]?
  by_cases hbefore : i < startRecord.toNat
  · by_cases hwithin : i < file.lines.length
    · rw [hoverlaid.kept i hbefore hwithin]
      exact readable_eq_iff.mp (hheld.kept i (by rwa [readable, List.length_map]) (.inl hbefore))
    · rw [hoverlaid.filled i hbefore (by omega)]
      have hempty := hheld.empty i (by rw [readable, List.length_map]; omega) hbefore
      rw [getElem?_readable] at hempty
      exact Option.map_injective encode_injective hempty
  · by_cases hbehind : startRecord.toNat + records.length ≤ i
    · rw [hoverlaid.behind i (by rwa [List.length_map])]
      by_cases hwithin : i < file.lines.length
      · exact readable_eq_iff.mp (hheld.kept i (by rwa [readable, List.length_map]) (.inr hbehind))
      · rw [List.getElem?_eq_none (by omega), List.getElem?_eq_none (by omega)]
    · obtain ⟨offset, rfl⟩ := Nat.exists_eq_add_of_le (Nat.le_of_not_lt hbefore)
      rw [hoverlaid.held offset (by rw [List.length_map]; omega), ← hslice, List.getElem?_drop,
        List.getElem?_take, if_pos (by omega)]

end Written

/-- **Records are there after a write exactly when the lines to be there are separable.** -/
theorem records_written_iff (overflowChecks : Bool) (file : RecordFile) (startRecord : UInt32)
    (records : List Bytes) (hwritable : file.readOnly = false)
    (hrecords : file.fileAccessMethod = .recordAccess) (hlineal : Lineal records) :
    file.Held overflowChecks startRecord records
      ↔ Separable (file.linesAfter startRecord records) := by
  have hlines : (file.writeRecords startRecord records).1.lines
      = Text.lines (Text.unlines (file.linesAfter startRecord records)) :=
    lines_of_joined (fileData_written hwritable hrecords)
  have hback := Text.lines_unlines_iff (hlineal.linesAfter file startRecord)
  constructor
  · intro hheld
    obtain ⟨hfits, hsame⟩ := lines_of_held hwritable hrecords hlineal hheld
    obtain ⟨hlast, hends⟩ := hback.mp (hlines.symm.trans hsame)
    exact ⟨hfits, hlast, hends⟩
  · intro hseparable
    exact held_of_lines hwritable hrecords overflowChecks hlineal hseparable.length
      (hlines.trans (hback.mpr ⟨hseparable.last, hseparable.ends⟩))

/-- A file for records, without any. -/
def emptyLog : RecordFile :=
  { StreamFile.new 1 "log" with fileAccessMethod := .recordAccess, recordCount := none }

theorem linesAfter_emptyLog (texts : List Text) :
    emptyLog.linesAfter 0 (texts.map Utf8.encode) = texts := by
  have hnone : emptyLog.lines = [] := by
    show Text.lines (Utf8.lossy []) = []
    rw [Utf8.lossy]
    rfl
  have hback : (texts.map Utf8.encode).map Utf8.lossy = texts := by
    rw [List.map_map, Function.LeftInverse.comp_eq_id Utf8.lossy_encode, List.map_id]
  unfold linesAfter overlay
  rw [hnone, hback]
  simp

theorem lineal_encode {texts : List Text} (h : ∀ text ∈ texts, '\n' ∉ text) :
    Lineal (texts.map Utf8.encode) := by
  intro record hmem
  obtain ⟨text, htext, rfl⟩ := List.mem_map.mp hmem
  exact ⟨text, h text htext, rfl⟩

/-- Two records, the first of them empty. -/
theorem two_records_held :
    emptyLog.Held true 0 ([[], "second".toList].map Utf8.encode) := by
  refine (records_written_iff true emptyLog 0 _ rfl rfl (lineal_encode ?_)).mpr ?_
  · decide
  · rw [linesAfter_emptyLog]
    exact ⟨by decide, by decide, by decide⟩

/-- Two records, the second of them empty: two are reported, and one can be read. -/
theorem empty_last_record_lost :
    (emptyLog.writeRecords 0 (["first".toList, []].map Utf8.encode)).1.recordCount = some 2
      ∧ (emptyLog.writeRecords 0 (["first".toList, []].map Utf8.encode)).1.readable
        = ["first".toList].map Utf8.encode
      ∧ ¬ ∀ (overflowChecks : Bool) (file : RecordFile) (startRecord : UInt32)
          (records : List Bytes), file.readOnly = false →
          file.fileAccessMethod = .recordAccess → Lineal records →
          file.Held overflowChecks startRecord records := by
  have hcount : (emptyLog.writeRecords 0 (["first".toList, []].map Utf8.encode)).1.recordCount
      = some 2 := by
    rw [count_written rfl rfl, linesAfter_emptyLog]
    rfl
  have hreadable : (emptyLog.writeRecords 0 (["first".toList, []].map Utf8.encode)).1.readable
      = ["first".toList].map Utf8.encode := by
    unfold readable
    rw [lines_of_joined (fileData_written rfl rfl), linesAfter_emptyLog]
    rfl
  refine ⟨hcount, hreadable, ?_⟩
  intro hall
  have hcounted := (hall true emptyLog 0 (["first".toList, []].map Utf8.encode) rfl rfl
    (lineal_encode (by decide))).counted
  rw [hcount, hreadable] at hcounted
  cases hcounted

end RecordFile

end BacnetRs.Object
