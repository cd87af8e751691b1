/-
  BacnetRs.Object.Identifier — object and property identifiers (`object/mod.rs`).

  `generate_custom_enum!` gives an enumeration with named variants and two
  open-ended ones, `Custom` and `Reserved`, whose payload only the conversion
  from the underlying integer can build.  The conversion is then a bijection:
  every number is exactly one variant.  Such a type is modelled by its number,
  and a named variant is a named number, which a definition by cases may match on
  as the source matches on the variant.
-/
import BacnetRs.Encoding.Tag

namespace BacnetRs.Object

open BacnetRs.Encoding

/-- `ObjectType`, by its number. -/
structure ObjectType where
  value : UInt32
  deriving Repr, DecidableEq

namespace ObjectType

@[match_pattern] abbrev analogInput : ObjectType := ⟨0⟩
@[match_pattern] abbrev analogOutput : ObjectType := ⟨1⟩
@[match_pattern] abbrev analogValue : ObjectType := ⟨2⟩
@[match_pattern] abbrev binaryInput : ObjectType := ⟨3⟩
@[match_pattern] abbrev binaryOutput : ObjectType := ⟨4⟩
@[match_pattern] abbrev binaryValue : ObjectType := ⟨5⟩
@[match_pattern] abbrev calendar : ObjectType := ⟨6⟩
@[match_pattern] abbrev device : ObjectType := ⟨8⟩
@[match_pattern] abbrev file : ObjectType := ⟨10⟩
@[match_pattern] abbrev multiStateInput : ObjectType := ⟨13⟩
@[match_pattern] abbrev multiStateOutput : ObjectType := ⟨14⟩
@[match_pattern] abbrev notificationClass : ObjectType := ⟨15⟩
@[match_pattern] abbrev schedule : ObjectType := ⟨17⟩
@[match_pattern] abbrev multiStateValue : ObjectType := ⟨19⟩

end ObjectType

/-- `PropertyIdentifier`, by its number. -/
structure PropertyIdentifier where
  value : UInt32
  deriving Repr, DecidableEq

namespace PropertyIdentifier

@[match_pattern] abbrev ackedTransitions : PropertyIdentifier := ⟨0⟩
@[match_pattern] abbrev ackRequired : PropertyIdentifier := ⟨1⟩
@[match_pattern] abbrev activeText : PropertyIdentifier := ⟨4⟩
@[match_pattern] abbrev alarmValue : PropertyIdentifier := ⟨6⟩
@[match_pattern] abbrev alarmValues : PropertyIdentifier := ⟨7⟩
@[match_pattern] abbrev all : PropertyIdentifier := ⟨8⟩
@[match_pattern] abbrev apduTimeout : PropertyIdentifier := ⟨11⟩
@[match_pattern] abbrev applicationSoftwareVersion : PropertyIdentifier := ⟨12⟩
@[match_pattern] abbrev archive : PropertyIdentifier := ⟨13⟩
@[match_pattern] abbrev notificationClass : PropertyIdentifier := ⟨17⟩
@[match_pattern] abbrev covIncrement : PropertyIdentifier := ⟨22⟩
@[match_pattern] abbrev dateList : PropertyIdentifier := ⟨23⟩
@[match_pattern] abbrev daylightSavingsStatus : PropertyIdentifier := ⟨24⟩
@[match_pattern] abbrev deadband : PropertyIdentifier := ⟨25⟩
@[match_pattern] abbrev description : PropertyIdentifier := ⟨28⟩
@[match_pattern] abbrev deviceAddressBinding : PropertyIdentifier := ⟨30⟩
@[match_pattern] abbrev deviceType : PropertyIdentifier := ⟨31⟩
@[match_pattern] abbrev effectivePeriod : PropertyIdentifier := ⟨32⟩
@[match_pattern] abbrev eventEnable : PropertyIdentifier := ⟨35⟩
@[match_pattern] abbrev eventState : PropertyIdentifier := ⟨36⟩
@[match_pattern] abbrev exceptionSchedule : PropertyIdentifier := ⟨38⟩
@[match_pattern] abbrev firmwareRevision : PropertyIdentifier := ⟨44⟩
@[match_pattern] abbrev highLimit : PropertyIdentifier := ⟨45⟩
@[match_pattern] abbrev inactiveText : PropertyIdentifier := ⟨46⟩
@[match_pattern] abbrev limitEnable : PropertyIdentifier := ⟨52⟩
@[match_pattern] abbrev listOfObjectPropertyReferences : PropertyIdentifier := ⟨54⟩
@[match_pattern] abbrev localDate : PropertyIdentifier := ⟨56⟩
@[match_pattern] abbrev localTime : PropertyIdentifier := ⟨57⟩
@[match_pattern] abbrev lowLimit : PropertyIdentifier := ⟨59⟩
@[match_pattern] abbrev maxApduLengthAccepted : PropertyIdentifier := ⟨62⟩
@[match_pattern] abbrev modelName : PropertyIdentifier := ⟨70⟩
@[match_pattern] abbrev notifyType : PropertyIdentifier := ⟨72⟩
@[match_pattern] abbrev numberOfApduRetries : PropertyIdentifier := ⟨73⟩
@[match_pattern] abbrev numberOfStates : PropertyIdentifier := ⟨74⟩
@[match_pattern] abbrev objectIdentifier : PropertyIdentifier := ⟨75⟩
@[match_pattern] abbrev objectList : PropertyIdentifier := ⟨76⟩
@[match_pattern] abbrev objectName : PropertyIdentifier := ⟨77⟩
@[match_pattern] abbrev objectPropertyReference : PropertyIdentifier := ⟨78⟩
@[match_pattern] abbrev objectType : PropertyIdentifier := ⟨79⟩
@[match_pattern] abbrev outOfService : PropertyIdentifier := ⟨81⟩
@[match_pattern] abbrev presentValue : PropertyIdentifier := ⟨85⟩
@[match_pattern] abbrev priority : PropertyIdentifier := ⟨86⟩
@[match_pattern] abbrev priorityArray : PropertyIdentifier := ⟨87⟩
@[match_pattern] abbrev priorityForWriting : PropertyIdentifier := ⟨88⟩
@[match_pattern] abbrev protocolObjectTypesSupported : PropertyIdentifier := ⟨96⟩
@[match_pattern] abbrev protocolServicesSupported : PropertyIdentifier := ⟨97⟩
@[match_pattern] abbrev protocolVersion : PropertyIdentifier := ⟨98⟩
@[match_pattern] abbrev recipientList : PropertyIdentifier := ⟨102⟩
@[match_pattern] abbrev reliability : PropertyIdentifier := ⟨103⟩
@[match_pattern] abbrev relinquishDefault : PropertyIdentifier := ⟨104⟩
@[match_pattern] abbrev segmentationSupported : PropertyIdentifier := ⟨107⟩
@[match_pattern] abbrev stateText : PropertyIdentifier := ⟨110⟩
@[match_pattern] abbrev statusFlags : PropertyIdentifier := ⟨111⟩
@[match_pattern] abbrev systemStatus : PropertyIdentifier := ⟨112⟩
@[match_pattern] abbrev timeDelay : PropertyIdentifier := ⟨113⟩
@[match_pattern] abbrev units : PropertyIdentifier := ⟨117⟩
@[match_pattern] abbrev utcOffset : PropertyIdentifier := ⟨119⟩
@[match_pattern] abbrev vendorIdentifier : PropertyIdentifier := ⟨120⟩
@[match_pattern] abbrev vendorName : PropertyIdentifier := ⟨121⟩
@[match_pattern] abbrev weeklySchedule : PropertyIdentifier := ⟨123⟩
@[match_pattern] abbrev eventTimeStamps : PropertyIdentifier := ⟨130⟩
@[match_pattern] abbrev protocolRevision : PropertyIdentifier := ⟨139⟩
@[match_pattern] abbrev activeCovSubscriptions : PropertyIdentifier := ⟨152⟩
@[match_pattern] abbrev databaseRevision : PropertyIdentifier := ⟨155⟩
@[match_pattern] abbrev scheduleDefault : PropertyIdentifier := ⟨174⟩
@[match_pattern] abbrev eventDetectionEnable : PropertyIdentifier := ⟨353⟩
@[match_pattern] abbrev eventAlgorithmInhibitRef : PropertyIdentifier := ⟨355⟩
@[match_pattern] abbrev timeDelayNormal : PropertyIdentifier := ⟨356⟩
@[match_pattern] abbrev propertyList : PropertyIdentifier := ⟨371⟩
@[match_pattern] abbrev commandTimeArray : PropertyIdentifier := ⟨430⟩
@[match_pattern] abbrev lastCommandTime : PropertyIdentifier := ⟨432⟩
@[match_pattern] abbrev valueSource : PropertyIdentifier := ⟨433⟩
@[match_pattern] abbrev valueSourceArray : PropertyIdentifier := ⟨434⟩

end PropertyIdentifier

/-- An object identifier: a type and an instance. -/
structure ObjectIdentifier where
  objectType : ObjectType
  instanceNumber : UInt32
  deriving Repr, DecidableEq

/-- `ObjectIdentifier::from(u32)`: ten bits of type, twenty-two of instance. -/
def ObjectIdentifier.ofUInt32 (value : UInt32) : ObjectIdentifier :=
  ⟨⟨(value >>> 22) &&& 0x3FF⟩, value &&& 0x3FFFFF⟩

/-- `u32::try_from(ObjectIdentifier)`. -/
def ObjectIdentifier.toUInt32 (id : ObjectIdentifier) : Except EncodingError UInt32 :=
  if id.objectType.value > 0x3FF ∨ id.instanceNumber > 0x3FFFFF then
    .error .valueOutOfRange
  else
    .ok (id.objectType.value <<< 22 ||| (id.instanceNumber &&& 0x3FFFFF))

/-- Ten bits of type and twenty-two of instance: what an identifier is encoded in. -/
def ObjectIdentifier.fits (id : ObjectIdentifier) : Bool :=
  decide (id.objectType.value ≤ 0x3FF ∧ id.instanceNumber ≤ 0x3FFFFF)

/-- What was decoded can be encoded. -/
theorem ObjectIdentifier.fits_ofUInt32 (value : UInt32) :
    (ObjectIdentifier.ofUInt32 value).fits = true := by
  apply decide_eq_true
  constructor
  · show (value >>> 22) &&& 0x3FF ≤ (0x3FF : UInt32)
    rw [UInt32.le_iff_toNat_le, UInt32.toNat_and]
    exact Nat.and_le_right
  · show value &&& 0x3FFFFF ≤ (0x3FFFFF : UInt32)
    rw [UInt32.le_iff_toNat_le, UInt32.toNat_and]
    exact Nat.and_le_right

/-- `Segmentation`: which directions a device segments in. -/
inductive Segmentation where
  | both
  | transmit
  | receive
  | noSegmentation
  deriving Repr, DecidableEq

/-- `Segmentation::try_from`; `none` stands for the configuration error. -/
def Segmentation.tryFrom (value : UInt32) : Option Segmentation :=
  match value.toNat with
  | 0 => some .both
  | 1 => some .transmit
  | 2 => some .receive
  | 3 => some .noSegmentation
  | _ => none

/-- `segmentation as u32`. -/
def Segmentation.toUInt32 : Segmentation → UInt32
  | .both => 0
  | .transmit => 1
  | .receive => 2
  | .noSegmentation => 3

theorem Segmentation.tryFrom_eq_some {value : UInt32} {segmentation : Segmentation} :
    Segmentation.tryFrom value = some segmentation ↔ value = segmentation.toUInt32 := by
  constructor
  · intro h
    unfold Segmentation.tryFrom at h
    split at h
    all_goals first | cases h; exact UInt32.toNat_inj.mp ‹_› | cases h
  · rintro rfl
    cases segmentation <;> rfl

end BacnetRs.Object
