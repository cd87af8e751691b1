/-
  BacnetRs.Client.Calls — the calls of a client
  (`AsyncBacnetClient` in `client/async_client.rs`, `client/error.rs`).

  A call encodes its request, has the endpoint send it, and reads what comes
  back.  A response to ReadProperty must be about what was asked; a list of
  objects must hold nothing else; and a snapshot of an object is the part of
  the response that is about that object.
-/
import BacnetRs.Client.Endpoint
import BacnetRs.Service.ReadResponse
import BacnetRs.Service.WriteProperty

namespace BacnetRs.Client

open BacnetRs.Encoding BacnetRs.Object BacnetRs.Property BacnetRs.Service
open Checked

/-! ## §1. The end of a call -/

/-- What a `ClientError::Decode` says. -/
inductive Mismatch where
  /-- `ReadProperty response did not match {object:?} {property:?}[{array_index:?}]`. -/
  | didNotMatch (object : ObjectIdentifier) (property : PropertyIdentifier)
      (arrayIndex : Option UInt32)
  /-- `RPM response omitted {object:?}`. -/
  | omitted (object : ObjectIdentifier)
  /-- `Object_List contained {value:?} instead of an object identifier`. -/
  | contained (value : PropertyValue)

/-- The `ClientError` a call ends with: the endpoint's, or one of its own. -/
inductive CallError where
  | endpoint (error : ClientError)
  | encoding (error : EncodingError)
  | decode (mismatch : Mismatch)

/-- What `send_confirmed_request` brings back. -/
abbrev Sender := BacnetTarget → ConfirmedServiceChoice → Bytes → Except ClientError Bytes

/-- `request.encode`, then `send_confirmed_request`. -/
def request (send : Sender) (target : BacnetTarget) (serviceChoice : ConfirmedServiceChoice)
    (encoded : Except EncodingError Bytes) : Checked CallError Bytes := do
  let serviceData ← (ofExcept encoded).mapErr .encoding
  (ofExcept (send target serviceChoice serviceData)).mapErr .endpoint

/-! ## §2. Reading -/

/-- `read_property_response`. -/
def readPropertyResponse (send : Sender) (target : BacnetTarget) (object : ObjectIdentifier)
    (property : PropertyIdentifier) (arrayIndex : Option UInt32) :
    Checked CallError ReadPropertyResponse := do
  let responseData ← request send target .readProperty
    (ReadPropertyRequest.encode ⟨object, property, arrayIndex⟩)
  let response ← (ReadPropertyResponse.decode responseData).mapErr .encoding
  if response.objectIdentifier ≠ object ∨ response.propertyIdentifier ≠ property
      ∨ response.propertyArrayIndex ≠ arrayIndex then
    Checked.fail (.decode (.didNotMatch object property arrayIndex))
  return response

/-- `read_property`. -/
def readProperty (send : Sender) (target : BacnetTarget) (object : ObjectIdentifier)
    (property : PropertyIdentifier) : Checked CallError (List PropertyValue) := do
  let response ← readPropertyResponse send target object property none
  return response.propertyValues

/-- `read_property_at`. -/
def readPropertyAt (send : Sender) (target : BacnetTarget) (object : ObjectIdentifier)
    (property : PropertyIdentifier) (arrayIndex : UInt32) :
    Checked CallError (List PropertyValue) := do
  let response ← readPropertyResponse send target object property (some arrayIndex)
  return response.propertyValues

/-- `read_property_multiple`. -/
def readPropertyMultiple (send : Sender) (target : BacnetTarget)
    (references : ReadPropertyMultipleRequest) : Checked CallError ReadPropertyMultipleResponse := do
  let responseData ← request send target .readPropertyMultiple references.encode
  (ReadPropertyMultipleResponse.decode responseData).mapErr .encoding

/-- `decode_object_list_value`. -/
def decodeObjectListValue : PropertyValue → Checked CallError ObjectIdentifier
  | .objectIdentifier identifier => .ok identifier
  | value => Checked.fail (.decode (.contained value))

/-- `read_object_list`. -/
def readObjectList (send : Sender) (target : BacnetTarget) (deviceId : UInt32) :
    Checked CallError (List ObjectIdentifier) := do
  let values ← readProperty send target ⟨.device, deviceId⟩ .objectList
  values.mapM decodeObjectListValue

/-- `PropertyReadResult`: a property, and what reading it came to. -/
structure PropertyReadResult where
  propertyIdentifier : PropertyIdentifier
  outcome : PropertyResultValue

/-- `property_read_result`. -/
def propertyReadResult (result : PropertyResult) : PropertyReadResult :=
  ⟨result.propertyIdentifier, result.value⟩

/-- `read_all_properties_rpm`. -/
def readAllPropertiesRpm (send : Sender) (target : BacnetTarget) (object : ObjectIdentifier) :
    Checked CallError (List PropertyReadResult) := do
  let response ← readPropertyMultiple send target ⟨[⟨object, [⟨.all, none⟩]⟩]⟩
  let access ← orFail (.decode (.omitted object))
    (response.readAccessResults.find? (fun access => decide (access.objectIdentifier = object)))
  return access.results.map propertyReadResult

/-- `ObjectSnapshot`. -/
structure ObjectSnapshot where
  objectIdentifier : ObjectIdentifier
  properties : List PropertyReadResult

/-- `read_object_properties`. -/
def readObjectProperties (send : Sender) (target : BacnetTarget) (object : ObjectIdentifier) :
    Checked CallError ObjectSnapshot := do
  let properties ← readAllPropertiesRpm send target object
  return ⟨object, properties⟩

/-! ## §3. Writing -/

/-- `WritePropertyRequest::of`. -/
def writeRequestOf (object : ObjectIdentifier) (property : PropertyIdentifier)
    (arrayIndex : Option UInt32) (value : PropertyValue) (priority : Option UInt8) :
    Except EncodingError WritePropertyRequest := do
  let propertyValue ← encodePropertyValue value
  return ⟨object, property.value, arrayIndex, propertyValue, priority⟩

/-- `write`. -/
def write (send : Sender) (target : BacnetTarget) (written : WritePropertyRequest) :
    Checked CallError Unit := do
  let _ ← request send target .writeProperty written.encode
  return ()

/-- `write_property`. -/
def writeProperty (send : Sender) (target : BacnetTarget) (object : ObjectIdentifier)
    (property : PropertyIdentifier) (value : PropertyValue) (priority : Option UInt8) :
    Checked CallError Unit := do
  let written ← (ofExcept (writeRequestOf object property none value priority)).mapErr .encoding
  write send target written

/-- `write_property_at`. -/
def writePropertyAt (send : Sender) (target : BacnetTarget) (object : ObjectIdentifier)
    (property : PropertyIdentifier) (arrayIndex : UInt32) (value : PropertyValue)
    (priority : Option UInt8) : Checked CallError Unit := do
  let written ← (ofExcept (writeRequestOf object property (some arrayIndex) value
    priority)).mapErr .encoding
  write send target written

/-- `write_property_multiple`. -/
def writePropertyMultiple (send : Sender) (target : BacnetTarget)
    (written : WritePropertyMultipleRequest) : Checked CallError Unit := do
  let _ ← request send target .writePropertyMultiple written.encode
  return ()

end BacnetRs.Client
