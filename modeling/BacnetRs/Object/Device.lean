/-
  BacnetRs.Object.Device — the Device object (`object/mod.rs`).

  A device describes itself in about twenty properties, of which three are
  written.  Description is the one a device need not have.
-/
import BacnetRs.Object.Trait

namespace BacnetRs.Object

open BacnetRs.Encoding BacnetRs.Property

/-! ## §1. What a device supports -/

/-- `DeviceStatus`. -/
inductive DeviceStatus where
  | operational
  | operationalReadOnly
  | downloadRequired
  | downloadInProgress
  | nonOperational
  | backupInProgress
  deriving Repr, DecidableEq

def DeviceStatus.toUInt32 : DeviceStatus → UInt32
  | .operational => 0
  | .operationalReadOnly => 1
  | .downloadRequired => 2
  | .downloadInProgress => 3
  | .nonOperational => 4
  | .backupInProgress => 5

/-- `ProtocolServicesSupported`. -/
structure ProtocolServicesSupported where
  bits : UInt64
  deriving Repr, DecidableEq

/-- Number of service bits defined by each protocol revision. -/
def protocolServiceBitCount (protocolRevision : UInt8) : Nat :=
  if protocolRevision = 0 then 35
  else if protocolRevision = 1 then 37
  else if protocolRevision ≤ 13 then 40
  else if protocolRevision ≤ 17 then 41
  else if protocolRevision ≤ 19 then 44
  else if protocolRevision ≤ 23 then 47
  else if protocolRevision ≤ 28 then 49
  else 50

namespace ProtocolServicesSupported

/-- The flag at a bit. -/
def flag (bit : UInt64) : UInt64 := (1 : UInt64) <<< bit

/-- Services executed by the hosted object server, by their bits. -/
def hostedObjectServices : ProtocolServicesSupported :=
  ⟨flag 0 ||| flag 12 ||| flag 14 ||| flag 15 ||| flag 16 ||| flag 5 ||| flag 38 ||| flag 26
    ||| flag 34⟩

/-- Only the service bits defined by the advertised revision. -/
def toBoolVecForRevision (self : ProtocolServicesSupported) (protocolRevision : UInt8) :
    List Bool :=
  (List.range (protocolServiceBitCount protocolRevision)).map (fun bit =>
    (self.bits &&& flag bit.toUInt64) != 0)

end ProtocolServicesSupported

/-- Number of standard object-type bits defined by each protocol revision. -/
def protocolObjectTypeBitCount (protocolRevision : UInt8) : Nat :=
  if protocolRevision = 0 then 18
  else if protocolRevision = 1 then 21
  else if protocolRevision ≤ 3 then 23
  else if protocolRevision = 4 then 25
  else if protocolRevision = 5 then 30
  else if protocolRevision ≤ 8 then 31
  else if protocolRevision = 9 then 38
  else if protocolRevision ≤ 12 then 51
  else if protocolRevision = 13 then 53
  else if protocolRevision ≤ 15 then 55
  else if protocolRevision = 16 then 56
  else if protocolRevision = 17 then 57
  else if protocolRevision ≤ 19 then 60
  else if protocolRevision ≤ 23 then 63
  else 65

/-- The Protocol_Object_Types_Supported bit string; a type beyond the revision's bits
is left out. -/
def objectTypesSupportedBitString (objectTypes : List ObjectType) (protocolRevision : UInt8) :
    List Bool :=
  objectTypes.foldl (fun bits objectType => bits.set objectType.value.toNat true)
    (List.replicate (protocolObjectTypeBitCount protocolRevision) false)

/-! ## §2. The object -/

/-- `AddressBinding`. -/
structure AddressBinding where
  deviceIdentifier : ObjectIdentifier
  networkNumber : UInt16
  macAddress : Bytes
  deriving Repr, DecidableEq

/-- `Device`. -/
structure Device where
  identifier : ObjectIdentifier
  objectName : String
  objectType : ObjectType
  systemStatus : DeviceStatus
  vendorName : String
  vendorIdentifier : UInt16
  modelName : String
  firmwareRevision : String
  applicationSoftwareVersion : String
  protocolVersion : UInt8
  protocolRevision : UInt8
  protocolServicesSupported : ProtocolServicesSupported
  objectTypesSupported : List ObjectType
  maxApduLengthAccepted : UInt16
  segmentationSupported : Segmentation
  /-- In milliseconds. -/
  apduTimeout : UInt32
  numberOfApduRetries : UInt8
  deviceAddressBinding : List AddressBinding
  databaseRevision : UInt32
  /-- A description, which a device need not have at all. -/
  description : Option String
  deriving Repr, DecidableEq

/-- The number, where it fits a `u8`. -/
def expectRetries : PropertyValue → Except ObjectError UInt8
  | .unsigned retries =>
      if retries.toNat < 2 ^ 8 then .ok retries.toUInt8 else .error .invalidPropertyType
  | _ => .error .invalidPropertyType

namespace Device

/-- `Device::new`. -/
def new (instance_ : UInt32) (objectName : String) : Device :=
  { identifier := ⟨.device, instance_⟩
    objectName
    objectType := .device
    systemStatus := .operational
    vendorName := "BACnet-RS"
    vendorIdentifier := 999
    modelName := "Rust BACnet Device"
    firmwareRevision := "1.0.0"
    applicationSoftwareVersion := "0.3.1"
    protocolVersion := 1
    protocolRevision := 22
    protocolServicesSupported := .hostedObjectServices
    objectTypesSupported := [.device]
    maxApduLengthAccepted := 1476
    segmentationSupported := .noSegmentation
    apduTimeout := 3000
    numberOfApduRetries := 3
    deviceAddressBinding := []
    databaseRevision := 1
    description := none }

def getProperty (self : Device) (property : PropertyIdentifier) :
    Except ObjectError PropertyValue :=
  match property with
  | .objectIdentifier => .ok (.objectIdentifier self.identifier)
  | .objectName => .ok (.characterString self.objectName)
  | .objectType => .ok (.enumerated self.objectType.value)
  | .systemStatus => .ok (.enumerated self.systemStatus.toUInt32)
  | .description =>
      match self.description with
      | some text => .ok (.characterString text)
      | none => .error .unknownProperty
  | .vendorName => .ok (.characterString self.vendorName)
  | .vendorIdentifier => .ok (.unsigned self.vendorIdentifier.toUInt64)
  | .modelName => .ok (.characterString self.modelName)
  | .firmwareRevision => .ok (.characterString self.firmwareRevision)
  | .applicationSoftwareVersion => .ok (.characterString self.applicationSoftwareVersion)
  | .protocolVersion => .ok (.unsigned self.protocolVersion.toUInt64)
  | .protocolRevision => .ok (.unsigned self.protocolRevision.toUInt64)
  | .protocolServicesSupported =>
      .ok (.bitString (self.protocolServicesSupported.toBoolVecForRevision self.protocolRevision))
  | .protocolObjectTypesSupported =>
      .ok (.bitString (objectTypesSupportedBitString self.objectTypesSupported
        self.protocolRevision))
  | .maxApduLengthAccepted => .ok (.unsigned self.maxApduLengthAccepted.toUInt64)
  | .segmentationSupported => .ok (.enumerated self.segmentationSupported.toUInt32)
  | .apduTimeout => .ok (.unsigned self.apduTimeout.toUInt64)
  | .numberOfApduRetries => .ok (.unsigned self.numberOfApduRetries.toUInt64)
  | .deviceAddressBinding =>
      .ok (.list (self.deviceAddressBinding.map (fun binding => .addressBinding
        ⟨binding.deviceIdentifier, ⟨binding.networkNumber, binding.macAddress⟩⟩)))
  | .databaseRevision => .ok (.unsigned self.databaseRevision.toUInt64)
  | _ => .error .unknownProperty

def setProperty (self : Device) (property : PropertyIdentifier) (value : PropertyValue) :
    Attempt ObjectError Device :=
  match property with
  | .objectName => .store self (fun name => { self with objectName := name }) (expectString value)
  | .apduTimeout =>
      .store self (fun timeout => { self with apduTimeout := timeout }) (expectUnsigned value)
  | .numberOfApduRetries =>
      .store self (fun retries => { self with numberOfApduRetries := retries })
        (expectRetries value)
  | _ => .refused self .propertyNotWritable

def isPropertyWritable (_self : Device) (property : PropertyIdentifier) : Bool :=
  [PropertyIdentifier.objectName, .apduTimeout, .numberOfApduRetries].contains property

def propertyList (self : Device) : List PropertyIdentifier :=
  [PropertyIdentifier.objectIdentifier, .objectName, .objectType]
    ++ (if self.description.isSome then [PropertyIdentifier.description] else [])
    ++ [PropertyIdentifier.systemStatus, .vendorName, .vendorIdentifier, .modelName, .firmwareRevision,
      .applicationSoftwareVersion, .protocolVersion, .protocolRevision,
      .protocolServicesSupported, .protocolObjectTypesSupported, .maxApduLengthAccepted,
      .segmentationSupported, .apduTimeout, .numberOfApduRetries, .deviceAddressBinding,
      .databaseRevision]

/-! ## §3. Its laws -/

theorem expectRetries_eq_ok_iff {value : PropertyValue} {retries : UInt8} :
    expectRetries value = .ok retries ↔ value = .unsigned retries.toUInt64 := by
  cases value with
  | unsigned raw =>
      simp only [expectRetries, PropertyValue.unsigned.injEq]
      constructor
      · intro h
        split at h
        · next hlt =>
            cases h
            apply UInt64.toNat_inj.mp
            rw [UInt8.toNat_toUInt64, UInt64.toNat_toUInt8]
            omega
        · cases h
      · rintro rfl
        have hlt := retries.toNat_lt
        rw [UInt8.toNat_toUInt64, if_pos hlt]
        congr 1
        apply UInt8.toNat_inj.mp
        simp
  | _ => simp [expectRetries]

/-- What a write of a property of a device leaves. -/
inductive Written (s : Device) : PropertyIdentifier → PropertyValue → Device → Prop
  | objectName (name : String) :
      Written s .objectName (.characterString name) { s with objectName := name }
  | apduTimeout (timeout : UInt32) :
      Written s .apduTimeout (.unsigned timeout.toUInt64) { s with apduTimeout := timeout }
  | numberOfApduRetries (retries : UInt8) :
      Written s .numberOfApduRetries (.unsigned retries.toUInt64)
        { s with numberOfApduRetries := retries }

theorem setProperty_eq_ok_iff {s s' : Device} {property : PropertyIdentifier}
    {value : PropertyValue} :
    s.setProperty property value = (s', .ok ()) ↔ s.Written property value s' := by
  constructor
  · intro h
    unfold setProperty at h
    split at h
    · obtain ⟨name, hname, rfl⟩ := Attempt.store_eq_ok_iff.mp h
      rw [expectString_eq_ok_iff.mp hname]
      exact .objectName name
    · obtain ⟨timeout, htimeout, rfl⟩ := Attempt.store_eq_ok_iff.mp h
      rw [expectUnsigned_eq_ok_iff.mp htimeout]
      exact .apduTimeout timeout
    · obtain ⟨retries, hretries, rfl⟩ := Attempt.store_eq_ok_iff.mp h
      rw [expectRetries_eq_ok_iff.mp hretries]
      exact .numberOfApduRetries retries
    · exact absurd h Attempt.refused_ne_ok
  · intro h
    cases h with
    | objectName name => rfl
    | apduTimeout timeout => exact Attempt.store_of_ok (expectUnsigned_eq_ok_iff.mpr rfl)
    | numberOfApduRetries retries => exact Attempt.store_of_ok (expectRetries_eq_ok_iff.mpr rfl)

instance : BacnetObject Device where
  identifier := Device.identifier
  getProperty := getProperty
  setProperty := setProperty
  isPropertyWritable := isPropertyWritable
  propertyList := propertyList

instance : Described Device where

/-- **A device keeps the laws.** -/
instance : LawfulObject Device where
  setProperty_eq := rfl
  atomic := by
    intro o property value priority
    show (setProperty o property value).Atomic o
    unfold setProperty
    split
    · exact Attempt.atomic_store o _ _
    · exact Attempt.atomic_store o _ _
    · exact Attempt.atomic_store o _ _
    · exact Attempt.atomic_refused o _
  readable_iff := by
    intro o property
    show (∃ v, getProperty o property = .ok v) ↔ property ∈ propertyList o ∨ _
    have hunlisted : ¬ Unlisted o property := by simp [Unlisted, Described.analog]
    unfold getProperty propertyList
    split
    case h_5 => cases o.description <;> simp [hunlisted]
    all_goals cases o.description <;> simp_all
  nodup := fun o => by
    show (propertyList o).Nodup
    unfold propertyList
    split
    · decide +kernel
    · decide +kernel
  set_writable := by
    intro o o' property value priority h _
    show isPropertyWritable o property = true
    cases setProperty_eq_ok_iff.mp h <;> rfl
  set_listed := by
    intro o o' property value priority h _ _
    show property ∈ propertyList o
    cases setProperty_eq_ok_iff.mp h <;> simp [propertyList]
  set_of_read := by
    intro o property value hwritable hread _
    have hproperty : property = .objectName ∨ property = .apduTimeout
        ∨ property = .numberOfApduRetries := by
      simpa [BacnetObject.isPropertyWritable, isPropertyWritable] using hwritable
    rcases hproperty with rfl | rfl | rfl
    all_goals cases hread
    · exact ⟨_, setProperty_eq_ok_iff.mpr (.objectName o.objectName)⟩
    · exact ⟨_, setProperty_eq_ok_iff.mpr (.apduTimeout o.apduTimeout)⟩
    · exact ⟨_, setProperty_eq_ok_iff.mpr (.numberOfApduRetries o.numberOfApduRetries)⟩
  readBack := by
    intro o o' property value h _ _ _ _
    show getProperty o' property = .ok (asStored property value)
    cases setProperty_eq_ok_iff.mp h <;> rfl
  frame := by
    intro o o' property value q h _ hq _
    show getProperty o' q = getProperty o q
    unfold getProperty
    cases setProperty_eq_ok_iff.mp h
    all_goals split <;> first | rfl | exact absurd rfl hq

end Device

end BacnetRs.Object
