/-
  BacnetRs.Client.AddressCache — device addresses kept in a file
  (`client/address_cache.rs`).

  A line for each device: its number, its address, the network and the MAC
  address behind that, and what it can take.  Network 0 stands for a device
  that is not behind another network.  What `SocketAddr` is written as and read
  from is the standard library's, here `display` and `parse`:

    * `load_save`       — devices that are saved are loaded.
    * `parseLine_columns` — what a line comes to whose columns can be read.
    * `bindings_iff`    — which lines come to something they should not.
-/
import BacnetRs.Client.Frame
import BacnetRs.Library.Text

namespace BacnetRs.Client

open BacnetRs.Object BacnetRs.Network Text

/-- `CachedDevice`. -/
structure CachedDevice where
  deviceId : UInt32
  target : BacnetTarget
  maxApdu : UInt32
  segmentation : Segmentation
  deriving Repr, DecidableEq

/-- `u32::from_str`. -/
def u32FromStr (text : Text) : Option UInt32 := (fromStrRadix 4294967295 10 text).map .ofNat

/-- `u16::from_str`. -/
def u16FromStr (text : Text) : Option UInt16 := (fromStrRadix 65535 10 text).map .ofNat

namespace AddressCache

/-- `segmentation_to_str`. -/
def segmentationToStr : Segmentation → Text
  | .both => "both".toList
  | .transmit => "transmit".toList
  | .receive => "receive".toList
  | .noSegmentation => "none".toList

/-- `segmentation_from_str`. -/
def segmentationFromStr (text : Text) : Segmentation :=
  if text = "both".toList then .both
  else if text = "transmit".toList then .transmit
  else if text = "receive".toList then .receive
  else .noSegmentation

/-- `parse_hex_bytes`. -/
def parseHexBytes (text : Text) : Option Bytes :=
  if text = "0".toList then some []
  else (text.splitOn ':').mapM (fun byte => (fromStrRadix 255 16 byte).map .ofNat)

/-- `format!("{byte:02x}")`. -/
def hexOctet (byte : UInt8) : Text :=
  [(byte.toNat / 16).digitChar, (byte.toNat % 16).digitChar]

/-- `format_hex_bytes`. -/
def formatHexBytes (bytes : Bytes) : Text :=
  if bytes = [] then "0".toList else [':'].intercalate (bytes.map hexOctet)

variable (display : SocketAddr → Text) (parse : Text → Option SocketAddr)

/-- `parse_line`. -/
def parseLine (line : Text) : Option CachedDevice :=
  let line := trim line
  if line = [] ∨ line.head? = some ';' then none
  else
    match splitWhitespace line with
    | deviceId :: address :: snet :: sadr :: maxApdu :: more => do
        let deviceId ← u32FromStr deviceId
        let address ← parse address
        let snet ← u16FromStr snet
        let maxApdu ← u32FromStr maxApdu
        let segmentation := (more.head?.map segmentationFromStr).getD .noSegmentation
        -- A MAC address that cannot be read is no route.
        let route := if snet ≠ 0 then (parseHexBytes sadr).map (NetworkAddress.mk snet) else none
        return ⟨deviceId, ⟨address, route, some ⟨maxApdu, segmentation⟩⟩, maxApdu, segmentation⟩
    | _ => none

/-- `format_line`. -/
def formatLine (device : CachedDevice) : Text :=
  let (snet, sadr) :=
    match device.target.route with
    | some route => (route.network, formatHexBytes route.address)
    | none => (0, "0".toList)
  [' '].intercalate [Nat.toDigits 10 device.deviceId.toNat, display device.target.address,
    Nat.toDigits 10 snet.toNat, sadr, Nat.toDigits 10 device.maxApdu.toNat,
    segmentationToStr device.segmentation]

/-- `load`, of what `fs::read_to_string` returns. -/
def load (read : Except IoError Text) : Except IoError (List CachedDevice) :=
  read.map (fun contents => (lines contents).filterMap (parseLine parse))

/-- `save`: what is written. -/
def save (devices : List CachedDevice) : Text :=
  devices.flatMap (fun device => formatLine display device ++ ['\n'])

/-! ## §2. One column -/

variable {display parse}

theorem u32FromStr_toDigits (n : UInt32) : u32FromStr (Nat.toDigits 10 n.toNat) = some n := by
  have hmax : n.toNat ≤ 4294967295 := Nat.le_of_lt_succ n.toNat_lt
  unfold u32FromStr
  rw [fromStrRadix_toDigits (by omega) (by omega) hmax, Option.map_some, UInt32.ofNat_toNat]

theorem u16FromStr_toDigits (n : UInt16) : u16FromStr (Nat.toDigits 10 n.toNat) = some n := by
  have hmax : n.toNat ≤ 65535 := Nat.le_of_lt_succ n.toNat_lt
  unfold u16FromStr
  rw [fromStrRadix_toDigits (by omega) (by omega) hmax, Option.map_some, UInt16.ofNat_toNat]

/-- A comment has no number in its first column. -/
theorem u32FromStr_semicolon (field : Text) : u32FromStr (';' :: field) = none := rfl

theorem segmentationFromStr_toStr (segmentation : Segmentation) :
    segmentationFromStr (segmentationToStr segmentation) = segmentation := by
  cases segmentation <;> rfl

theorem isField_segmentation (segmentation : Segmentation) :
    IsField (segmentationToStr segmentation) := by
  cases segmentation
  all_goals exact isField_of_all (by decide) (by decide)

/-- An octet is two digits. -/
theorem mem_hexOctet {byte : UInt8} {c : Char} (h : c ∈ hexOctet byte) :
    ∃ d, d < 16 ∧ c = d.digitChar := by
  have hbyte := byte.toNat_lt
  unfold hexOctet at h
  rw [List.mem_cons, List.mem_singleton] at h
  obtain rfl | rfl := h
  · exact ⟨_, by omega, rfl⟩
  · exact ⟨_, by omega, rfl⟩

theorem colon_not_mem_hexOctet (byte : UInt8) : ':' ∉ hexOctet byte := by
  intro hmem
  obtain ⟨d, hd, hcolon⟩ := mem_hexOctet hmem
  have hread := toDigit_digitChar (Nat.le_refl 16) hd
  rw [← hcolon] at hread
  cases (toDigit_colon 16).symm.trans hread

/-- **An octet is read as it is written.** -/
theorem read_hexOctet (byte : UInt8) :
    (fromStrRadix 255 16 (hexOctet byte)).map UInt8.ofNat = some byte := by
  have hall : ∀ n : Fin 256,
      (fromStrRadix 255 16 (hexOctet (.ofNat n))).map UInt8.ofNat = some (.ofNat n) := by
    decide +kernel
  have hbyte := hall ⟨byte.toNat, byte.toNat_lt⟩
  rwa [UInt8.ofNat_toNat] at hbyte

/-- **A MAC address is read as it is written**, octet by octet. -/
theorem parse_formatHexBytes (bytes : Bytes) :
    parseHexBytes (formatHexBytes bytes) = some bytes := by
  have hread : (bytes.map hexOctet).mapM
      (fun byte => (fromStrRadix 255 16 byte).map UInt8.ofNat) = some bytes := by
    induction bytes with
    | nil => rfl
    | cons byte bytes ih =>
        rw [List.map_cons, List.mapM_cons, read_hexOctet, ih]
        rfl
  cases bytes with
  | nil => rfl
  | cons byte bytes =>
      have hplain : ∀ text ∈ (byte :: bytes).map hexOctet, ':' ∉ text := by
        intro text hmem
        obtain ⟨octet, _, rfl⟩ := List.mem_map.mp hmem
        exact colon_not_mem_hexOctet octet
      have hsplit := List.splitOn_intercalate ':' hplain (List.cons_ne_nil _ _)
      -- "0" stands for no octets; an octet has two digits.
      have hzero : [':'].intercalate ((byte :: bytes).map hexOctet) ≠ "0".toList := by
        intro hzero
        rw [hzero] at hsplit
        have hone : [['0']] = hexOctet byte :: bytes.map hexOctet := hsplit
        have hlength := congrArg List.length (List.cons.inj hone).1
        cases hlength
      unfold parseHexBytes formatHexBytes
      rw [if_neg (List.cons_ne_nil _ _), if_neg hzero, hsplit]
      exact hread

theorem isField_formatHexBytes (bytes : Bytes) : IsField (formatHexBytes bytes) := by
  cases bytes with
  | nil => exact isField_of_all (by decide) (by decide)
  | cons byte bytes =>
      unfold formatHexBytes
      rw [if_neg (List.cons_ne_nil _ _)]
      constructor
      · cases bytes with
        | nil => exact List.cons_ne_nil _ _
        | cons next bytes => exact List.cons_ne_nil _ _
      · intro c hmem
        obtain rfl | ⟨text, htext, hc⟩ := mem_intercalate hmem
        · rfl
        · obtain ⟨octet, _, rfl⟩ := List.mem_map.mp htext
          obtain ⟨d, hd, rfl⟩ := mem_hexOctet hc
          exact isWhitespace_digitChar hd

/-! ## §3. One line -/

/-- The columns of a line up to the last but one, read but for the MAC address. -/
def Columns (parse : Text → Option SocketAddr) (line : Text) (deviceId : UInt32)
    (address : SocketAddr) (snet : UInt16) (sadr : Text) (maxApdu : UInt32) (more : List Text) :
    Prop :=
  ∃ first second third fifth,
    splitWhitespace (trim line) = first :: second :: third :: sadr :: fifth :: more
      ∧ u32FromStr first = some deviceId ∧ parse second = some address
      ∧ u16FromStr third = some snet ∧ u32FromStr fifth = some maxApdu

/-- What comes of the columns. -/
def cached (deviceId : UInt32) (address : SocketAddr) (route : Option NetworkAddress)
    (maxApdu : UInt32) (more : List Text) : CachedDevice :=
  let segmentation := (more.head?.map segmentationFromStr).getD .noSegmentation
  ⟨deviceId, ⟨address, route, some ⟨maxApdu, segmentation⟩⟩, maxApdu, segmentation⟩

variable {line sadr : Text} {deviceId maxApdu : UInt32} {address : SocketAddr} {snet : UInt16}
variable {more : List Text}

/-- **What a line comes to whose columns can be read.** -/
theorem parseLine_columns (h : Columns parse line deviceId address snet sadr maxApdu more) :
    parseLine parse line = some (cached deviceId address
      (if snet ≠ 0 then (parseHexBytes sadr).map (NetworkAddress.mk snet) else none)
      maxApdu more) := by
  obtain ⟨first, second, third, fifth, hsplit, hid, haddress, hsnet, hapdu⟩ := h
  have hline : ¬ (trim line = [] ∨ (trim line).head? = some ';') := by
    rintro (hempty | hcomment)
    · rw [hempty] at hsplit
      cases hsplit
    · -- What begins with a semicolon is no number, so its first field cannot be read.
      cases htrim : trim line with
      | nil =>
          rw [htrim] at hcomment
          cases hcomment
      | cons c rest =>
          rw [htrim] at hcomment
          cases hcomment
          obtain ⟨field, fields, hfields⟩ := splitWhitespace_cons (c := ';') rfl rest
          rw [htrim, hfields] at hsplit
          cases hsplit
          cases (u32FromStr_semicolon field).symm.trans hid
  unfold parseLine
  simp only [if_neg hline, hsplit, hid, haddress, hsnet, hapdu]
  rfl

/-- A line that comes to something has columns that can be read. -/
theorem columns_of_parseLine {device : CachedDevice} (h : parseLine parse line = some device) :
    ∃ deviceId address snet sadr maxApdu more,
      Columns parse line deviceId address snet sadr maxApdu more := by
  unfold parseLine at h
  simp only at h
  split at h
  · cases h
  · split at h
    · next first second third sadr fifth more hsplit =>
        obtain ⟨deviceId, hid, h⟩ := Option.bind_eq_some_iff.mp h
        obtain ⟨address, haddress, h⟩ := Option.bind_eq_some_iff.mp h
        obtain ⟨snet, hsnet, h⟩ := Option.bind_eq_some_iff.mp h
        obtain ⟨maxApdu, hapdu, _⟩ := Option.bind_eq_some_iff.mp h
        exact ⟨deviceId, address, snet, sadr, maxApdu, more, first, second, third, fifth, hsplit,
          hid, haddress, hsnet, hapdu⟩
    · cases h

/-! ## §4. Files -/

/-- A device that a line can hold: its capabilities are its own, and its network is not 0. -/
structure Storable (device : CachedDevice) : Prop where
  capabilities : device.target.capabilities = some ⟨device.maxApdu, device.segmentation⟩
  network : ∀ route, device.target.route = some route → route.network ≠ 0

/-- The address is written as a field, which is read as the address. -/
structure Addressed (display : SocketAddr → Text) (parse : Text → Option SocketAddr)
    (address : SocketAddr) : Prop where
  read : parse (display address) = some address
  field : IsField (display address)

/-- The columns of a line that is written, before they are joined. -/
def columns (display : SocketAddr → Text) (device : CachedDevice) (snet : UInt16) (sadr : Text) :
    List Text :=
  [Nat.toDigits 10 device.deviceId.toNat, display device.target.address,
    Nat.toDigits 10 snet.toNat, sadr, Nat.toDigits 10 device.maxApdu.toNat,
    segmentationToStr device.segmentation]

/-- A line that is written joins columns that are fields. -/
theorem formatLine_eq (device : CachedDevice)
    (haddress : Addressed display parse device.target.address) :
    ∃ snet sadr, formatLine display device = [' '].intercalate (columns display device snet sadr)
      ∧ (∀ field ∈ columns display device snet sadr, IsField field)
      ∧ (device.target.route = none ∧ snet = 0
        ∨ ∃ route, device.target.route = some route ∧ snet = route.network
          ∧ sadr = formatHexBytes route.address) := by
  have hfields : ∀ snet sadr, IsField sadr →
      ∀ field ∈ columns display device snet sadr, IsField field := by
    intro snet sadr hsadr field hmem
    simp only [columns, List.mem_cons, List.not_mem_nil, or_false] at hmem
    obtain rfl | rfl | rfl | rfl | rfl | rfl := hmem
    · exact isField_toDigits (by omega) (by omega) _
    · exact haddress.field
    · exact isField_toDigits (by omega) (by omega) _
    · exact hsadr
    · exact isField_toDigits (by omega) (by omega) _
    · exact isField_segmentation _
  unfold formatLine
  cases hroute : device.target.route with
  | none => exact ⟨0, "0".toList, rfl,
      hfields _ _ (isField_of_all (by decide) (by decide)), .inl ⟨rfl, rfl⟩⟩
  | some route =>
      exact ⟨route.network, formatHexBytes route.address, rfl,
        hfields _ _ (isField_formatHexBytes _), .inr ⟨route, rfl, rfl, rfl⟩⟩

/-- **A device is read as it is written.** -/
theorem parseLine_formatLine {device : CachedDevice} (hdevice : Storable device)
    (haddress : Addressed display parse device.target.address) :
    parseLine parse (formatLine display device) = some device := by
  obtain ⟨snet, sadr, hline, hfields, hroute⟩ := formatLine_eq device haddress
  have htrim : trim (formatLine display device) = formatLine display device := by
    rw [hline]
    exact trim_of_plain_ends (fun c hc => ends_intercalate hfields (.inl hc))
      (fun c hc => ends_intercalate hfields (.inr hc))
  have hcolumns : Columns parse (formatLine display device) device.deviceId device.target.address
      snet sadr device.maxApdu [segmentationToStr device.segmentation] := by
    refine ⟨_, _, _, _, ?_, u32FromStr_toDigits _, haddress.read, u16FromStr_toDigits _,
      u32FromStr_toDigits _⟩
    rw [htrim, hline]
    exact fields_intercalate _ hfields
  rw [parseLine_columns hcolumns]
  have hread : (if snet ≠ 0 then (parseHexBytes sadr).map (NetworkAddress.mk snet) else none)
      = device.target.route := by
    obtain ⟨hnone, rfl⟩ | ⟨route, hsome, rfl, rfl⟩ := hroute
    · rw [hnone]
      rfl
    · rw [if_pos (hdevice.network route hsome), parse_formatHexBytes, hsome]
      rfl
  have hcapabilities := hdevice.capabilities
  obtain ⟨deviceId, ⟨address, route, capabilities⟩, maxApdu, segmentation⟩ := device
  simp only at hread hcapabilities
  rw [hread, hcapabilities]
  show some (CachedDevice.mk deviceId ⟨address, route, some ⟨maxApdu,
    segmentationFromStr (segmentationToStr segmentation)⟩⟩ maxApdu
    (segmentationFromStr (segmentationToStr segmentation))) = _
  rw [segmentationFromStr_toStr]

/-- A line that is written holds no line feed and does not end in a carriage return. -/
theorem formatLine_plain {device : CachedDevice}
    (haddress : Addressed display parse device.target.address) :
    '\n' ∉ formatLine display device ∧ (formatLine display device).getLast? ≠ some '\r' := by
  obtain ⟨snet, sadr, hline, hfields, _⟩ := formatLine_eq device haddress
  rw [hline]
  constructor
  · intro hmem
    obtain hspace | ⟨field, hfield, hfeed⟩ := mem_intercalate hmem
    · cases hspace
    · cases (hfields field hfield).2 _ hfeed
  · intro hlast
    cases ends_intercalate hfields (.inr hlast)

/-- **Devices that are saved are loaded**, in order. -/
theorem load_save {devices : List CachedDevice} (hdevices : ∀ device ∈ devices, Storable device)
    (haddresses : ∀ device ∈ devices, Addressed display parse device.target.address) :
    load parse (.ok (save display devices)) = .ok devices := by
  have hlines : lines (save display devices) = devices.map (formatLine display) := by
    have hplain : ∀ line ∈ devices.map (formatLine display),
        '\n' ∉ line ∧ line.getLast? ≠ some '\r' := by
      intro line hmem
      obtain ⟨device, hdevice, rfl⟩ := List.mem_map.mp hmem
      exact formatLine_plain (haddresses device hdevice)
    rw [← lines_terminated _ hplain, List.flatMap_map]
    rfl
  show Except.ok ((lines (save display devices)).filterMap (parseLine parse)) = _
  rw [hlines, List.filterMap_map]
  have hread : ∀ device ∈ devices,
      (parseLine parse ∘ formatLine display) device = some device := by
    intro device hmem
    exact parseLine_formatLine (hdevices device hmem) (haddresses device hmem)
  rw [List.filterMap_congr hread, List.filterMap_some]

/-- The line is a complete binding: its columns can be read, and so can the MAC address if there
is a network. -/
def Complete (parse : Text → Option SocketAddr) (line : Text) : Prop :=
  ∃ deviceId address snet sadr maxApdu more,
    Columns parse line deviceId address snet sadr maxApdu more
      ∧ (snet ≠ 0 → ∃ bytes, parseHexBytes sadr = some bytes)

/-- There is a network in the line, and all can be read but the MAC address. -/
def Damaged (parse : Text → Option SocketAddr) (line : Text) : Prop :=
  ∃ deviceId address snet sadr maxApdu more,
    Columns parse line deviceId address snet sadr maxApdu more ∧ snet ≠ 0
      ∧ parseHexBytes sadr = none

theorem Columns.unique {deviceId' maxApdu' : UInt32} {address' : SocketAddr} {snet' : UInt16}
    {sadr' : Text} {more' : List Text}
    (h : Columns parse line deviceId address snet sadr maxApdu more)
    (h' : Columns parse line deviceId' address' snet' sadr' maxApdu' more') :
    snet = snet' ∧ sadr = sadr' := by
  obtain ⟨first, second, third, fifth, hsplit, _, _, hsnet, _⟩ := h
  obtain ⟨first', second', third', fifth', hsplit', _, _, hsnet', _⟩ := h'
  cases hsplit.symm.trans hsplit'
  cases hsnet.symm.trans hsnet'
  exact ⟨rfl, rfl⟩

/-- A line with something missing comes to nothing, unless it is damaged. -/
theorem incomplete_comes_to_nothing_iff (parse : Text → Option SocketAddr) (line : Text) :
    (¬ Complete parse line → parseLine parse line = none) ↔ ¬ Damaged parse line := by
  constructor
  · rintro hnothing ⟨deviceId, address, snet, sadr, maxApdu, more, hcolumns, hsnet, hsadr⟩
    have hincomplete : ¬ Complete parse line := by
      rintro ⟨_, _, snet', sadr', _, _, hcolumns', hroute⟩
      obtain ⟨rfl, rfl⟩ := hcolumns.unique hcolumns'
      obtain ⟨bytes, hbytes⟩ := hroute hsnet
      cases hsadr.symm.trans hbytes
    cases (parseLine_columns hcolumns).symm.trans (hnothing hincomplete)
  · intro hdamaged hincomplete
    cases hparse : parseLine parse line with
    | none => rfl
    | some device =>
        obtain ⟨deviceId, address, snet, sadr, maxApdu, more, hcolumns⟩ :=
          columns_of_parseLine hparse
        refine absurd ⟨deviceId, address, snet, sadr, maxApdu, more, hcolumns, ?_⟩ hincomplete
        intro hsnet
        cases hsadr : parseHexBytes sadr with
        | some bytes => exact ⟨bytes, rfl⟩
        | none =>
            exact absurd ⟨deviceId, address, snet, sadr, maxApdu, more, hcolumns, hsnet, hsadr⟩
              hdamaged

/-- **Devices that are saved are loaded, and incomplete lines are not**, but for those that are
damaged. -/
theorem bindings_iff (display : SocketAddr → Text) (parse : Text → Option SocketAddr)
    (devices : List CachedDevice) (contents : Text)
    (hdevices : ∀ device ∈ devices, Storable device)
    (haddresses : ∀ device ∈ devices, Addressed display parse device.target.address) :
    load parse (.ok (save display devices)) = .ok devices
      ∧ ((∀ line ∈ lines contents, ¬ Complete parse line → parseLine parse line = none)
        ↔ ∀ line ∈ lines contents, ¬ Damaged parse line) := by
  refine ⟨load_save hdevices haddresses, ?_⟩
  constructor
  · intro hall line hmem
    exact (incomplete_comes_to_nothing_iff parse line).mp (hall line hmem)
  · intro hall line hmem
    exact (incomplete_comes_to_nothing_iff parse line).mpr (hall line hmem)

/-- A device on this host, and one behind a network. -/
def directDevice : CachedDevice :=
  ⟨4001, ⟨.v4 0x7F000001 47808, none, some ⟨1476, .both⟩⟩, 1476, .both⟩

def routedDevice : CachedDevice :=
  ⟨55555, ⟨.v4 0xC0A80105 47808, some ⟨26001, [0xC0, 0xA8, 0x00, 0x18, 0xBA, 0xC0]⟩,
    some ⟨50, .noSegmentation⟩⟩, 50, .noSegmentation⟩

/-- How the addresses of the two are written. -/
def displayOfTwo (address : SocketAddr) : Text :=
  if address = .v4 0x7F000001 47808 then "127.0.0.1:47808".toList
  else "192.168.1.5:47808".toList

def parseOfTwo (text : Text) : Option SocketAddr :=
  if text = "127.0.0.1:47808".toList then some (.v4 0x7F000001 47808)
  else if text = "192.168.1.5:47808".toList then some (.v4 0xC0A80105 47808)
  else none

theorem addressed_of_two :
    ∀ device ∈ [directDevice, routedDevice],
      Addressed displayOfTwo parseOfTwo device.target.address := by
  intro device hmem
  rw [List.mem_cons, List.mem_singleton] at hmem
  obtain rfl | rfl := hmem
  · exact ⟨by decide +kernel, isField_of_all (by decide +kernel) (by decide +kernel)⟩
  · exact ⟨by decide +kernel, isField_of_all (by decide +kernel) (by decide +kernel)⟩

theorem two_devices_come_back :
    load parseOfTwo (.ok (save displayOfTwo [directDevice, routedDevice]))
        = .ok [directDevice, routedDevice]
      ∧ ((∀ line ∈ lines "not a valid line\n4001 127.0.0.1:47808 0 0 1476 both\n".toList,
          ¬ Complete parseOfTwo line → parseLine parseOfTwo line = none)
        ↔ ∀ line ∈ lines "not a valid line\n4001 127.0.0.1:47808 0 0 1476 both\n".toList,
          ¬ Damaged parseOfTwo line) := by
  refine bindings_iff displayOfTwo parseOfTwo [directDevice, routedDevice] _ ?_ addressed_of_two
  intro device hmem
  rw [List.mem_cons, List.mem_singleton] at hmem
  obtain rfl | rfl := hmem
  · exact ⟨rfl, by intro route hroute; cases hroute⟩
  · refine ⟨rfl, ?_⟩
    intro route hroute
    cases hroute
    decide

/-- A device behind a network, its MAC address damaged, is loaded as one that is not. -/
theorem damaged_route_loaded_as_direct :
    load parseOfTwo (.ok "4001 127.0.0.1:47808 26001 zz 1476 both\n".toList)
        = .ok [directDevice]
      ∧ ¬ ∀ (parse : Text → Option SocketAddr) (line : Text),
          ¬ Complete parse line → parseLine parse line = none := by
  constructor
  · decide +kernel
  · intro hall
    refine (incomplete_comes_to_nothing_iff parseOfTwo
      "4001 127.0.0.1:47808 26001 zz 1476 both".toList).mp (hall _ _) ?_
    refine ⟨4001, .v4 0x7F000001 47808, 26001, "zz".toList, 1476, ["both".toList],
      ⟨"4001".toList, "127.0.0.1:47808".toList, "26001".toList, "1476".toList, ?_, ?_, ?_, ?_, ?_⟩,
      ?_, ?_⟩
    all_goals decide +kernel

end AddressCache

end BacnetRs.Client
