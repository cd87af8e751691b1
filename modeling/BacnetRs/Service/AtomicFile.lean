/-
  BacnetRs.Service.AtomicFile — requests to read and to write a file
  (`service/mod.rs`).

  Both write their tags as plain octets next to the values.  The tag of a start
  says one octet where four follow, so a walk over the tags takes the second
  octet of every start for the next tag.

    * `rest_of_start`   — what is left once a start has been read back.
    * `never_read_back` — so no request is read back, whatever it asks for.
-/
import BacnetRs.Encoding.PrimitiveCodec

namespace BacnetRs.Service

open BacnetRs.Encoding BacnetRs.Object Checked Octets

/-! ## §1. Requests -/

/-- `FileAccessMethod`. -/
inductive FileAccessMethod where
  | streamAccess (fileStartPosition : Int32) (requestedOctetCount : UInt32)
  | recordAccess (fileStartRecord : Int32) (requestedRecordCount : UInt32)
  deriving Repr, DecidableEq

/-- `AtomicReadFileRequest`. -/
structure AtomicReadFileRequest where
  fileIdentifier : ObjectIdentifier
  accessMethod : FileAccessMethod
  deriving Repr, DecidableEq

/-- `FileWriteAccessMethod`. -/
inductive FileWriteAccessMethod where
  | streamAccess (fileStartPosition : Int32) (fileData : Bytes)
  | recordAccess (fileStartRecord : Int32) (recordCount : UInt32) (fileRecordData : List Bytes)
  deriving Repr, DecidableEq

/-- `AtomicWriteFileRequest`. -/
structure AtomicWriteFileRequest where
  fileIdentifier : ObjectIdentifier
  accessMethod : FileWriteAccessMethod
  deriving Repr, DecidableEq

/-- What both requests open with: the file, the opening tag `access` within bracket 1, and the
start behind the octet that context tag 0 has when one octet follows. -/
def encodeFileStart (file : ObjectIdentifier) (access : UInt8) (start : Int32) :
    Except EncodingError Bytes := do
  let number ← file.toUInt32
  return 0x0C :: beOctets 4 number.toNat ++ [0x1E, access, 0x09]
    ++ beOctets 4 start.toUInt32.toNat

/-- A record behind the tag of an octet string, its length in one octet. -/
def encodeRecord (record : Bytes) : Bytes := 0x65 :: UInt8.ofNat record.length :: record

/-- `AtomicReadFileRequest::encode`. -/
def AtomicReadFileRequest.encode (self : AtomicReadFileRequest) : Except EncodingError Bytes :=
  match self.accessMethod with
  | .streamAccess start count => do
      let front ← encodeFileStart self.fileIdentifier 0x0E start
      return front ++ 0x19 :: beOctets 4 count.toNat ++ [0x0F, 0x1F]
  | .recordAccess start count => do
      let front ← encodeFileStart self.fileIdentifier 0x1E start
      return front ++ 0x19 :: beOctets 4 count.toNat ++ [0x1F, 0x1F]

/-- `AtomicWriteFileRequest::encode`: the records are counted, whatever the request says. -/
def AtomicWriteFileRequest.encode (self : AtomicWriteFileRequest) : Except EncodingError Bytes :=
  match self.accessMethod with
  | .streamAccess start fileData => do
      let front ← encodeFileStart self.fileIdentifier 0x0E start
      return front ++ 0x1E :: fileData ++ [0x1F, 0x0F, 0x1F]
  | .recordAccess start _ records => do
      let front ← encodeFileStart self.fileIdentifier 0x1E start
      return front ++ 0x19 :: beOctets 4 records.length ++ 0x2E :: records.flatMap encodeRecord
        ++ [0x2F, 0x1F, 0x1F]

/-! ## §2. Walks over tags -/

/-- A tag, and the octets that belong to it: none to one that opens or closes. -/
abbrev WireItem := BACnetTag × Bytes

/-- `data` opens with the item, as many octets as its tag declares, and `rest` comes behind. -/
def Crosses (data : Bytes) (item : WireItem) (rest : Bytes) : Prop :=
  ∃ header, IsTag header item.1 item.2.length ∧ data = header ++ (item.2 ++ rest)

/-- The items come one after the other, and `rest` behind them. -/
def Walks : Bytes → List WireItem → Bytes → Prop
  | data, [], rest => data = rest
  | data, item :: items, rest => ∃ next, Crosses data item next ∧ Walks next items rest

/-- The file and the start are read back, and `rest` is left. -/
def StartReadBack (file : ObjectIdentifier) (access : UInt8) (start : Int32)
    (data rest : Bytes) : Prop :=
  ∃ number octets startOctets, file.toUInt32 = .ok number ∧ beNat octets = number.toNat
    ∧ beInt startOctets = start.toInt
    ∧ Walks data [(.context 0, octets), (.opening 1, []), (.opening access, []),
        (.context 0, startOctets)] rest

/-- `encoded` is a walk from which all of a read request is read back. -/
def AtomicReadFileRequest.ReadBack (self : AtomicReadFileRequest) (encoded : Bytes) : Prop :=
  match self.accessMethod with
  | .streamAccess start count =>
      ∃ rest octets, StartReadBack self.fileIdentifier 0 start encoded rest
        ∧ beNat octets = count.toNat
        ∧ Walks rest [(.context 1, octets), (.closing 0, []), (.closing 1, [])] []
  | .recordAccess start count =>
      ∃ rest octets, StartReadBack self.fileIdentifier 1 start encoded rest
        ∧ beNat octets = count.toNat
        ∧ Walks rest [(.context 1, octets), (.closing 1, []), (.closing 1, [])] []

/-- `encoded` is a walk from which all of a write request is read back.  The octets of a stream
stand between two tags as they are. -/
def AtomicWriteFileRequest.ReadBack (self : AtomicWriteFileRequest) (encoded : Bytes) : Prop :=
  match self.accessMethod with
  | .streamAccess start fileData =>
      ∃ rest behind, StartReadBack self.fileIdentifier 0 start encoded rest
        ∧ Walks rest [(.opening 1, [])] (fileData ++ behind)
        ∧ Walks behind [(.closing 1, []), (.closing 0, []), (.closing 1, [])] []
  | .recordAccess start _ records =>
      ∃ rest octets, StartReadBack self.fileIdentifier 1 start encoded rest
        ∧ beNat octets = records.length
        ∧ Walks rest ((.context 1, octets) :: (.opening 2, [])
            :: records.map (fun record => (.application .octetString, record))
            ++ [(.closing 2, []), (.closing 1, []), (.closing 1, [])]) []

/-! ## §3. The start is not read back -/

section Crosses

variable {header content after rest : Bytes} {tag : BACnetTag} {item : WireItem}

/-- What stands in front is the item that is crossed. -/
theorem Crosses.eq (hheader : IsTag header tag content.length)
    (h : Crosses (header ++ (content ++ after)) item rest) :
    item = (tag, content) ∧ rest = after := by
  obtain ⟨tag', content'⟩ := item
  obtain ⟨header', hheader', hsame⟩ := h
  obtain ⟨rfl, hlength, rfl, hbehind⟩ := isTag_unique hheader hheader' hsame
  obtain ⟨rfl, rfl⟩ := List.append_inj hbehind hlength
  exact ⟨rfl, rfl⟩

/-- An octet of zeros is a Null, and one of ones closes. -/
theorem Crosses.not_field {octet : UInt8} {more : Bytes} (hoctet : octet = 0x00 ∨ octet = 0xFF)
    (h : Crosses (octet :: more) item rest) :
    (∀ number, item.1 ≠ .context number) ∧ ∀ number, item.1 ≠ .opening number := by
  obtain ⟨tag, content⟩ := item
  obtain ⟨header, hheader, hsame⟩ := h
  have hread := hheader.decodes (content ++ rest)
  rw [← hsame] at hread
  rcases hoctet with rfl | rfl
  · have hnull : decodeTag (0x00 :: more) = .ok (.application .null, 0, 1) := rfl
    rw [hnull] at hread
    obtain rfl : BACnetTag.application .null = tag := (Prod.mk.inj (Except.ok.inj hread)).1
    constructor
    · intro _ hcontext
      cases hcontext
    · intro _ hopening
      cases hopening
  · cases more with
    | nil => cases hread
    | cons number more =>
        have hclosing : decodeTag (0xFF :: number :: more) = .ok (.closing number, 0, 2) := rfl
        rw [hclosing] at hread
        obtain rfl : BACnetTag.closing number = tag := (Prod.mk.inj (Except.ok.inj hread)).1
        constructor
        · intro _ hcontext
          cases hcontext
        · intro _ hopening
          cases hopening

end Crosses

/-- A number that its first octet says is 0 or -1, and its next octet is like the first. -/
theorem octet_of_beInt {first octet : UInt8} {more : Bytes} (hlength : more.length = 2)
    (h : beInt (first :: octet :: more) = beInt [first]) : octet = 0x00 ∨ octet = 0xFF := by
  have hwhole := beNat_cons first (octet :: more)
  have hrest := beNat_cons octet more
  have hfirst := beNat_cons first []
  have hmore : beNat more < 256 ^ more.length := beNat_lt more
  simp only [List.length_cons, hlength, List.length_nil] at hwhole hrest hfirst hmore
  have hbound := first.toNat_lt
  have hnext := octet.toNat_lt
  have hempty : beNat [] = 0 := rfl
  unfold beInt at h
  simp only [List.length_cons, hlength, List.length_nil] at h
  have hends : octet.toNat = 0 ∨ octet.toNat = 255 := by
    split at h <;> split at h <;> omega
  rcases hends with hzero | hones
  · exact .inl (UInt8.toNat_inj.mp hzero)
  · exact .inr (UInt8.toNat_inj.mp hones)

/-- **What is left once a start has been read back** begins with an octet of the start. -/
theorem rest_of_start {file : ObjectIdentifier} {start : Int32} {number access : UInt8}
    {encoded tail rest : Bytes} (haccess : IsTag [access] (.opening number) 0)
    (hencoded : encodeFileStart file access start = .ok encoded)
    (h : StartReadBack file number start (encoded ++ tail) rest) :
    ∃ octet more, rest = octet :: more ∧ (octet = 0x00 ∨ octet = 0xFF) := by
  simp only [encodeFileStart, bind_eq_ok, pure_eq_ok] at hencoded
  obtain ⟨value, _, rfl⟩ := hencoded
  obtain ⟨_, octets, startOctets, _, _, hstart, h⟩ := h
  obtain ⟨first, second, third, fourth, hoctets⟩ :
      ∃ first second third fourth, beOctets 4 start.toUInt32.toNat
        = [first, second, third, fourth] := ⟨_, _, _, _, rfl⟩
  have hdenotes : beInt [first, second, third, fourth] = start.toInt := by
    rw [← hoctets]
    exact beInt_beOctets (int32_emod start (Nat.le_refl 4)) (by have := start.le_toInt; omega)
      (by have := start.toInt_lt; omega)
  have hlength : (beOctets 4 value.toNat).length = 4 := length_beOctets _ _
  have hfront : 0x0C :: beOctets 4 value.toNat ++ [0x1E, access, 0x09]
        ++ [first, second, third, fourth] ++ tail
      = [0x0C] ++ (beOctets 4 value.toNat ++ ([0x1E] ++ ([] ++ ([access] ++ ([] ++ ([0x09]
        ++ ([first] ++ (second :: third :: fourth :: tail)))))))) := by
    simp
  rw [hoctets, hfront] at h
  -- The file, the two tags that open and one octet of the start are crossed.
  obtain ⟨_, hfile, _, hopening, _, hbracket, _, hfield, rfl⟩ := h
  obtain ⟨_, rfl⟩ := Crosses.eq (by rw [hlength]; rfl) hfile
  obtain ⟨_, rfl⟩ := Crosses.eq (by rfl) hopening
  obtain ⟨_, rfl⟩ := Crosses.eq haccess hbracket
  obtain ⟨hitem, rfl⟩ := Crosses.eq (by rfl) hfield
  obtain rfl : startOctets = [first] := (Prod.mk.inj hitem).2
  exact ⟨second, _, rfl, octet_of_beInt rfl (hdenotes.trans hstart.symm)⟩

/-! ## §4. No request is read back -/

/-- What is left of a start is neither a field nor the tag that opens one. -/
theorem not_walks_behind_start {file : ObjectIdentifier} {start : Int32} {number access : UInt8}
    {front tail rest after : Bytes} {item : WireItem} {items : List WireItem}
    (haccess : IsTag [access] (.opening number) 0)
    (hfront : encodeFileStart file access start = .ok front)
    (hstart : StartReadBack file number start (front ++ tail) rest)
    (hitem : (∃ number, item.1 = .context number) ∨ ∃ number, item.1 = .opening number) :
    ¬ Walks rest (item :: items) after := by
  obtain ⟨octet, more, rfl, hoctet⟩ := rest_of_start haccess hfront hstart
  rintro ⟨next, hcrosses, _⟩
  obtain ⟨hcontext, hopening⟩ := hcrosses.not_field hoctet
  rcases hitem with ⟨number, hnumber⟩ | ⟨number, hnumber⟩
  · exact hcontext number hnumber
  · exact hopening number hnumber

theorem AtomicReadFileRequest.not_readBack {request : AtomicReadFileRequest} {encoded : Bytes}
    (h : request.encode = .ok encoded) : ¬ request.ReadBack encoded := by
  obtain ⟨file, access⟩ := request
  cases access with
  | streamAccess start count =>
      rintro ⟨rest, octets, hstart, _, hwalks⟩
      simp only [AtomicReadFileRequest.encode, bind_eq_ok, pure_eq_ok] at h
      obtain ⟨front, hfront, rfl⟩ := h
      rw [List.append_assoc] at hstart
      exact not_walks_behind_start (by rfl) hfront hstart (.inl ⟨1, rfl⟩) hwalks
  | recordAccess start count =>
      rintro ⟨rest, octets, hstart, _, hwalks⟩
      simp only [AtomicReadFileRequest.encode, bind_eq_ok, pure_eq_ok] at h
      obtain ⟨front, hfront, rfl⟩ := h
      rw [List.append_assoc] at hstart
      exact not_walks_behind_start (by rfl) hfront hstart (.inl ⟨1, rfl⟩) hwalks

theorem AtomicWriteFileRequest.not_readBack {request : AtomicWriteFileRequest} {encoded : Bytes}
    (h : request.encode = .ok encoded) : ¬ request.ReadBack encoded := by
  obtain ⟨file, access⟩ := request
  cases access with
  | streamAccess start fileData =>
      rintro ⟨rest, behind, hstart, hwalks, _⟩
      simp only [AtomicWriteFileRequest.encode, bind_eq_ok, pure_eq_ok] at h
      obtain ⟨front, hfront, rfl⟩ := h
      rw [List.append_assoc] at hstart
      exact not_walks_behind_start (by rfl) hfront hstart (.inr ⟨1, rfl⟩) hwalks
  | recordAccess start count records =>
      rintro ⟨rest, octets, hstart, _, hwalks⟩
      simp only [AtomicWriteFileRequest.encode, bind_eq_ok, pure_eq_ok] at h
      obtain ⟨front, hfront, rfl⟩ := h
      simp only [List.append_assoc] at hstart
      exact not_walks_behind_start (by rfl) hfront hstart (.inl ⟨1, rfl⟩) hwalks

/-- **No request is read back**: whatever the file, the start and the count, the octets or the
records. -/
theorem never_read_back (file : ObjectIdentifier) (reading : FileAccessMethod)
    (writing : FileWriteAccessMethod) :
    (∀ encoded, AtomicReadFileRequest.encode ⟨file, reading⟩ = .ok encoded →
        ¬ AtomicReadFileRequest.ReadBack ⟨file, reading⟩ encoded)
      ∧ ∀ encoded, AtomicWriteFileRequest.encode ⟨file, writing⟩ = .ok encoded →
        ¬ AtomicWriteFileRequest.ReadBack ⟨file, writing⟩ encoded :=
  ⟨fun _ => AtomicReadFileRequest.not_readBack, fun _ => AtomicWriteFileRequest.not_readBack⟩

/-- Ten octets from the third on, of file 1. -/
theorem ten_octets_not_read_back :
    ∃ encoded, AtomicReadFileRequest.encode ⟨⟨.file, 1⟩, .streamAccess 2 10⟩ = .ok encoded
      ∧ ¬ AtomicReadFileRequest.ReadBack ⟨⟨.file, 1⟩, .streamAccess 2 10⟩ encoded :=
  ⟨[0x0C, 0x02, 0x80, 0x00, 0x01, 0x1E, 0x0E, 0x09, 0x00, 0x00, 0x00, 0x02, 0x19, 0x00, 0x00, 0x00,
    0x0A, 0x0F, 0x1F], rfl, AtomicReadFileRequest.not_readBack rfl⟩

-- Behind tags that say four octets the same fields are read back.
example : AtomicReadFileRequest.ReadBack ⟨⟨.file, 1⟩, .streamAccess 2 10⟩
    [0x0C, 0x02, 0x80, 0x00, 0x01, 0x1E, 0x0E, 0x0C, 0x00, 0x00, 0x00, 0x02, 0x1C, 0x00, 0x00, 0x00,
      0x0A, 0x0F, 0x1F] :=
  ⟨_, [0x00, 0x00, 0x00, 0x0A],
    ⟨0x02800001, [0x02, 0x80, 0x00, 0x01], [0x00, 0x00, 0x00, 0x02], rfl, rfl, rfl,
      _, ⟨[0x0C], rfl, rfl⟩, _, ⟨[0x1E], rfl, rfl⟩, _, ⟨[0x0E], rfl, rfl⟩,
      _, ⟨[0x0C], rfl, rfl⟩, rfl⟩,
    rfl, _, ⟨[0x1C], rfl, rfl⟩, _, ⟨[0x0F], rfl, rfl⟩, _, ⟨[0x1F], rfl, rfl⟩, rfl⟩

end BacnetRs.Service
