/-
  BacnetRs.Object.Database — what the hosted objects answer when read
  (`object/mod.rs`, `object/database.rs`).

  The services over the database read properties one at a time, and between
  two reads anything may have been written.  What they depend on is therefore
  the function from object and property to the value read at that moment,
  together with the device's own identifier: a view.
-/
import BacnetRs.Property.Value

namespace BacnetRs.Object

open BacnetRs.Property

/-- `ObjectError`. -/
inductive ObjectError where
  | notFound
  | instanceNotFound
  | typeNotSupported
  | propertyNotFound
  | unknownProperty
  | propertyNotWritable
  | propertyIsNotArray
  | invalidArrayIndex
  | optionalFunctionalityNotSupported
  | invalidPropertyType
  | invalidValue (message : String)
  | writeAccessDenied
  | noSpaceToAddListElement
  | noSpaceToWriteProperty
  | invalidTimeStamp
  | invalidConfiguration (message : String)
  deriving Repr, DecidableEq

/-- `FIRST_PROPRIETARY`: property identifiers from here up are the vendors' to define. -/
def firstProprietary : UInt32 := 512

/-- What reading the database finds at one moment. -/
structure DatabaseView where
  /-- `get_device_id`. -/
  deviceId : ObjectIdentifier
  /-- `get_property`. -/
  getProperty : ObjectIdentifier → PropertyIdentifier → Except ObjectError PropertyValue

namespace DatabaseView

/-- `unsigned_property`. -/
def unsignedProperty (database : DatabaseView) (object : ObjectIdentifier)
    (property : PropertyIdentifier) : Except ObjectError UInt64 := do
  match ← database.getProperty object property with
  | .unsigned value => return value
  | _ => throw .invalidPropertyType

end DatabaseView

end BacnetRs.Object
