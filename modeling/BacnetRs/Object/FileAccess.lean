/-
  BacnetRs.Object.FileAccess — the stream of octets in a File
  (`object/file.rs`).

  `read_data` and `write_data` take an offset of 32 bits, and the content may
  be any length.  A write does to the content what its caller asks for at
  every offset.  The size that the file reports has 32 bits, and a read adds
  its start and its count as 32-bit numbers:

    * `writeData_eq`           — what a write leaves, of any file that can be written.
    * `readData_eq_ok`         — a read whose sum has 32 bits returns the octets asked for.
    * `readData_overflow`      — any other read inside the content panics.
    * `stream_access_iff`      — which runs of calls are as asked throughout.
    * `read_after`             — after any run, a position reads the last octet written over it.
    * `reported_after`         — the size reported is the length, modulo 2^32.
-/
import BacnetRs.Library.Extent
import BacnetRs.Library.Machine
import BacnetRs.Object.Calendar

namespace BacnetRs.Object

open Octets Extent

/-! ## §1. The file and its calls -/

/-- `a + b` of two `u32`s.  A build with overflow checks panics when the sum has more than
32 bits; one without them keeps the low 32. -/
def addU32 {ε : Type} (overflowChecks : Bool) (a b : UInt32) : Checked ε UInt32 :=
  if overflowChecks ∧ 2 ^ 32 ≤ a.toNat + b.toNat then .error .panic else .ok (a + b)

/-- `File`, with its content. -/
structure StreamFile extends File where
  /-- The size it reports, in octets. -/
  fileSize : UInt32
  readOnly : Bool
  fileData : Bytes
  deriving Repr, DecidableEq

namespace StreamFile

/-- `File::new`. -/
def new (instance_ : UInt32) (objectName : String) : StreamFile :=
  { identifier := ⟨.file, instance_⟩
    objectName
    archive := false
    fileSize := 0
    readOnly := false
    fileData := [] }

/-- `set_file_data`. -/
def setFileData (self : StreamFile) (data : Bytes) : StreamFile :=
  { self with fileData := data, fileSize := UInt32.ofNat data.length }

/-- `get_file_data`. -/
def getFileData (self : StreamFile) : Bytes := self.fileData

/-- `read_data`. -/
def readData (overflowChecks : Bool) (self : StreamFile) (startPosition requestedCount : UInt32) :
    Checked ObjectError Bytes := do
  let start := startPosition.toNat
  let sum ← addU32 overflowChecks startPosition requestedCount
  if start ≥ self.fileData.length then
    return []
  range self.fileData start (min sum.toNat self.fileData.length)

/-- `write_data`. -/
def writeData (self : StreamFile) (startPosition : UInt32) (data : Bytes) :
    Attempt (Fault ObjectError) StreamFile :=
  if self.readOnly then
    .refused self (.error .writeAccessDenied)
  else
    let start := startPosition.toNat
    let requiredLen := start + data.length
    -- A write past the end fills the gap with zeros.
    let extended :=
      if requiredLen > self.fileData.length then resize self.fileData requiredLen 0
      else self.fileData
    match copyInto extended start (start + data.length) data with
    | .ok fileData =>
        .done { self with fileData := fileData, fileSize := UInt32.ofNat fileData.length }
    | .error fault => .refused { self with fileData := extended } fault

/-- What a file is asked for. -/
inductive Call where
  | readData (startPosition requestedCount : UInt32)
  | writeData (startPosition : UInt32) (data : Bytes)

/-- What a call leaves; a read leaves the file as it was. -/
def after (self : StreamFile) : Call → StreamFile
  | .readData _ _ => self
  | .writeData startPosition data => (self.writeData startPosition data).1

/-- The file as a machine: a call that panics is a step too. -/
def step (self : StreamFile) (call : Call) : Option StreamFile := some (self.after call)

/-- What a call is to do: a read returns the octets from its start up to its end or the content's,
and a write leaves its octets in place and the content's length as the size. -/
def Upheld (overflowChecks : Bool) (self : StreamFile) : Call → Prop
  | .readData startPosition requestedCount =>
      self.readData overflowChecks startPosition requestedCount
        = .ok (self.fileData.extract startPosition.toNat
            (min self.fileData.length (startPosition.toNat + requestedCount.toNat)))
  | .writeData startPosition data =>
      (self.writeData startPosition data).2 = .ok ()
      ∧ Overlaid 0 self.fileData startPosition.toNat data
          (self.writeData startPosition data).1.fileData
      ∧ (self.writeData startPosition data).1.fileSize.toNat
          = (self.writeData startPosition data).1.fileData.length

/-- What fits into 32 bits: the end of a read, and the length that a write leaves.  Without
overflow checks a read from behind the content is right too, as its end is not looked at. -/
def Fits (overflowChecks : Bool) (self : StreamFile) : Call → Prop
  | .readData startPosition requestedCount =>
      startPosition.toNat + requestedCount.toNat < 2 ^ 32
      ∨ (overflowChecks = false ∧ self.fileData.length ≤ startPosition.toNat)
  | .writeData startPosition data =>
      max self.fileData.length (startPosition.toNat + data.length) < 2 ^ 32

/-! ## §2. One call -/

variable {file : StreamFile}

theorem writeData_eq (hwritable : file.readOnly = false) (startPosition : UInt32) (data : Bytes) :
    file.writeData startPosition data
      = .done { file with
          fileData := overlay 0 file.fileData startPosition.toNat data
          fileSize := UInt32.ofNat
            (max file.fileData.length (startPosition.toNat + data.length)) } := by
  unfold writeData
  rw [hwritable]
  simp only [Bool.false_eq_true, if_false, copyInto_resize, length_overlay]

/-- A file that cannot be written stays as it is. -/
theorem writeData_readOnly (hreadOnly : file.readOnly = true) (startPosition : UInt32)
    (data : Bytes) :
    file.writeData startPosition data = .refused file (.error .writeAccessDenied) := by
  unfold writeData
  rw [hreadOnly]
  rfl

/-- No call makes a file writable, or stops it being so. -/
theorem after_readOnly (file : StreamFile) (call : Call) :
    (file.after call).readOnly = file.readOnly := by
  cases call with
  | readData startPosition requestedCount => rfl
  | writeData startPosition data =>
      show (file.writeData startPosition data).1.readOnly = _
      cases hreadOnly : file.readOnly with
      | false =>
          rw [writeData_eq hreadOnly]
          exact hreadOnly
      | true =>
          rw [writeData_readOnly hreadOnly]
          exact hreadOnly

/-- A read that starts behind the content finds nothing, however far it was to go. -/
theorem extract_behind {content : Bytes} {start : Nat} (h : content.length ≤ start) (stop : Nat) :
    content.extract start stop = [] := by
  rw [List.extract_eq_take_drop, List.drop_of_length_le h, List.take_nil]

theorem readData_eq_ok (overflowChecks : Bool) (file : StreamFile)
    {startPosition requestedCount : UInt32}
    (hsum : startPosition.toNat + requestedCount.toNat < 2 ^ 32) :
    file.readData overflowChecks startPosition requestedCount
      = .ok (file.fileData.extract startPosition.toNat
          (min file.fileData.length (startPosition.toNat + requestedCount.toNat))) := by
  have hnat : (startPosition + requestedCount).toNat
      = startPosition.toNat + requestedCount.toNat := by
    rw [UInt32.toNat_add, Nat.mod_eq_of_lt hsum]
  unfold readData addU32
  rw [if_neg (fun h => absurd h.2 (Nat.not_le.mpr hsum)), Checked.ok_bind, hnat]
  by_cases hbehind : file.fileData.length ≤ startPosition.toNat
  · rw [if_pos hbehind, extract_behind hbehind]
    rfl
  · rw [if_neg hbehind, Nat.min_comm, range_eq_ok, List.extract_eq_take_drop]
    refine ⟨?_, ?_, rfl⟩ <;> omega

/-- A read whose sum overflows fails where it finds content, in a build of either kind: where the
sum is not checked, the end that is left of it lies before the start. -/
theorem readData_overflow (overflowChecks : Bool) (file : StreamFile)
    {startPosition requestedCount : UInt32}
    (hsum : 2 ^ 32 ≤ startPosition.toNat + requestedCount.toNat)
    (hwithin : overflowChecks = false → startPosition.toNat < file.fileData.length) :
    file.readData overflowChecks startPosition requestedCount = .error .panic := by
  unfold readData addU32
  cases overflowChecks with
  | true =>
      rw [if_pos ⟨rfl, hsum⟩]
      rfl
  | false =>
      have hstart := startPosition.toNat_lt
      have hcount := requestedCount.toNat_lt
      have hnat : (startPosition + requestedCount).toNat
          = startPosition.toNat + requestedCount.toNat - 2 ^ 32 := by
        rw [UInt32.toNat_add]
        omega
      have hinside := hwithin rfl
      rw [if_neg (fun h => Bool.noConfusion h.1), Checked.ok_bind, if_neg (by omega), hnat]
      unfold range
      rw [if_neg (by omega)]

/-- A call on a file that can be written does what it is to do exactly when it fits. -/
theorem upheld_iff (overflowChecks : Bool) (hwritable : file.readOnly = false) (call : Call) :
    file.Upheld overflowChecks call ↔ file.Fits overflowChecks call := by
  cases call with
  | readData startPosition requestedCount =>
      by_cases hsum : startPosition.toNat + requestedCount.toNat < 2 ^ 32
      · exact iff_of_true (readData_eq_ok overflowChecks file hsum) (.inl hsum)
      · constructor
        · intro hread
          refine .inr ?_
          by_contra hfound
          have hwithin : overflowChecks = false → startPosition.toNat < file.fileData.length :=
            fun hunchecked => Nat.lt_of_not_le fun hbehind => hfound ⟨hunchecked, hbehind⟩
          have hpanic := readData_overflow overflowChecks file
            (Nat.le_of_not_lt hsum) hwithin
          cases hpanic.symm.trans hread
        · rintro (hfits | ⟨rfl, hbehind⟩)
          · exact absurd hfits hsum
          · show file.readData false startPosition requestedCount = _
            unfold readData addU32
            rw [if_neg (fun h => Bool.noConfusion h.1), Checked.ok_bind, if_pos hbehind,
              extract_behind hbehind]
            rfl
  | writeData startPosition data =>
      show _ ∧ _ ∧ _ ↔ max _ _ < 2 ^ 32
      rw [writeData_eq hwritable]
      constructor
      · rintro ⟨_, _, hsize⟩
        -- A size of 32 bits that is the length: the length has 32 bits.
        have hlength : (UInt32.ofNat
            (max file.fileData.length (startPosition.toNat + data.length))).toNat
              = (overlay 0 file.fileData startPosition.toNat data).length := hsize
        rw [length_overlay] at hlength
        rw [← hlength]
        exact UInt32.toNat_lt _
      · intro hfits
        refine ⟨rfl, overlaid_iff.mpr rfl, ?_⟩
        show (UInt32.ofNat _).toNat = (overlay 0 _ _ _).length
        rw [length_overlay, UInt32.toNat_ofNat_of_lt' hfits]

/-! ## §3. Runs of calls -/

/-- **A file that can be written does what each call of a run is to do, exactly when every call
fits into 32 bits.** -/
theorem stream_access_iff (overflowChecks : Bool) (file : StreamFile)
    (hwritable : file.readOnly = false) (calls : List Call) :
    Machine.Throughout step (Upheld overflowChecks) file calls
      ↔ Machine.Throughout step (Fits overflowChecks) file calls := by
  refine Machine.throughout_iff (P := fun reached => reached.readOnly = false)
    (fun reached call h => upheld_iff overflowChecks h call) ?_ hwritable
  intro reached call reached' _ h hstep
  cases hstep
  rw [after_readOnly, h]

/-- A write into the gap behind a content of two octets, then a read across it. -/
theorem stream_access_hello :
    Machine.Throughout step (Upheld true) ((new 1 "test.dat").setFileData [0x48, 0x69])
      [.writeData 4 [0x21], .readData 1 100] := by
  refine (stream_access_iff true _ rfl _).mpr ?_
  refine ⟨?_, fun reached hreached => ?_⟩
  · show max 2 (4 + 1) < 2 ^ 32
    decide
  · cases hreached
    exact ⟨.inl (by decide), fun _ _ => trivial⟩

/-- All of a file from its second octet on, asked for with the largest count there is. -/
theorem largest_count_panics :
    (∀ overflowChecks : Bool,
      ((new 1 "test.dat").setFileData [0x48, 0x69]).readData overflowChecks 1 0xFFFFFFFF
        = .error .panic) ∧
    ¬ ∀ (overflowChecks : Bool) (file : StreamFile) (calls : List Call),
      file.readOnly = false → Machine.Throughout step (Upheld overflowChecks) file calls := by
  have hpanics : ∀ overflowChecks : Bool,
      ((new 1 "test.dat").setFileData [0x48, 0x69]).readData overflowChecks 1 0xFFFFFFFF
        = .error .panic := by decide
  refine ⟨hpanics, ?_⟩
  intro hall
  have hread := (hall true ((new 1 "test.dat").setFileData [0x48, 0x69])
    [.readData 1 0xFFFFFFFF] rfl).1
  cases (hpanics true).symm.trans hread

/-- What a run leaves. -/
def afterAll (self : StreamFile) (calls : List Call) : StreamFile := calls.foldl after self

/-- Where a run writes what. -/
def written : List Call → List (Nat × Bytes)
  | [] => []
  | .readData _ _ :: calls => written calls
  | .writeData startPosition data :: calls => (startPosition.toNat, data) :: written calls

/-- The content after a run is the content before it, written over. -/
theorem fileData_afterAll (file : StreamFile) (hwritable : file.readOnly = false)
    (calls : List Call) :
    (file.afterAll calls).fileData = overlayAll 0 file.fileData (written calls) := by
  induction calls generalizing file with
  | nil => rfl
  | cons call calls ih =>
      have hrest := ih (file.after call) ((after_readOnly file call).trans hwritable)
      show ((file.after call).afterAll calls).fileData = _
      rw [hrest]
      cases call with
      | readData startPosition requestedCount => rfl
      | writeData startPosition data =>
          show overlayAll 0 (file.writeData startPosition data).1.fileData _ = _
          rw [writeData_eq hwritable]
          rfl

/-- **After any run, a position reads the last octet written over it**, and otherwise what it read
before, and the content reaches to the farthest end of a write. -/
theorem read_after (file : StreamFile) (calls : List Call) :
    file.readOnly = false →
      (∀ i, read 0 (file.afterAll calls).getFileData i
        = (lastOver i (written calls)).getD (read 0 file.getFileData i)) ∧
      (file.afterAll calls).getFileData.length
        = max file.getFileData.length (reach (written calls)) := by
  intro hwritable
  show (∀ i, read 0 (file.afterAll calls).fileData i = _)
    ∧ (file.afterAll calls).fileData.length = _
  rw [fileData_afterAll file hwritable]
  exact ⟨read_overlayAll 0 file.fileData (written calls),
    length_overlayAll 0 file.fileData (written calls)⟩

/-- Two writes, the second over the end of the first. -/
def overlapping : List Call := [.writeData 0 [1, 2, 3], .writeData 2 [4, 5]]

/-- They are read back so. -/
theorem read_after_overlapping :
    (∀ i, read 0 ((new 1 "Log").afterAll overlapping).getFileData i
      = (lastOver i (written overlapping)).getD (read 0 (new 1 "Log").getFileData i)) ∧
    ((new 1 "Log").afterAll overlapping).getFileData.length
      = max (new 1 "Log").getFileData.length (reach (written overlapping)) :=
  read_after (new 1 "Log") overlapping rfl

/-! ## §4. The size reported -/

/-- The size reported is the length, as far as 32 bits hold it. -/
def Reported (self : StreamFile) : Prop := self.fileSize.toNat = self.fileData.length % 2 ^ 32

theorem reported_new (instance_ : UInt32) (objectName : String) :
    (new instance_ objectName).Reported := rfl

theorem reported_setFileData (file : StreamFile) (data : Bytes) :
    (file.setFileData data).Reported := UInt32.toNat_ofNat'

theorem Reported.after (h : file.Reported) (call : Call) : (file.after call).Reported := by
  cases call with
  | readData startPosition requestedCount => exact h
  | writeData startPosition data =>
      show (file.writeData startPosition data).1.Reported
      cases hreadOnly : file.readOnly with
      | true =>
          rw [writeData_readOnly hreadOnly]
          exact h
      | false =>
          rw [writeData_eq hreadOnly]
          show (UInt32.ofNat _).toNat = (overlay 0 _ _ _).length % 2 ^ 32
          rw [length_overlay]
          exact UInt32.toNat_ofNat'

theorem Reported.afterAll (h : file.Reported) (calls : List Call) :
    (file.afterAll calls).Reported := by
  induction calls generalizing file with
  | nil => exact h
  | cons call calls ih => exact ih (h.after call)

/-- **Whatever is written, the size reported is the length modulo 2^32**, of a new file and of
one whose content was set. -/
theorem reported_after (file : StreamFile) (instance_ : UInt32) (objectName : String)
    (data : Bytes) (calls : List Call) :
    ((new instance_ objectName).afterAll calls).Reported ∧
    ((file.setFileData data).afterAll calls).Reported :=
  ⟨(reported_new instance_ objectName).afterAll calls,
    (reported_setFileData file data).afterAll calls⟩

end StreamFile

end BacnetRs.Object
