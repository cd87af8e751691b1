/-
  BacnetRs.Server.ObjectService — the object services a device executes
  (`server/object_service.rs`): what it announces about itself, and the
  subscriptions it takes.

  A subscription is refused when there is nowhere to send notifications or
  nothing to watch, cancelled when the request says neither how nor for how
  long, and otherwise handed to the table.
-/
import BacnetRs.Cov.Subscriptions
import BacnetRs.Object.Database
import BacnetRs.Service.Choice
import BacnetRs.Service.SubscribeCov

namespace BacnetRs.Server

open BacnetRs.Object BacnetRs.Property BacnetRs.Service BacnetRs.Network BacnetRs.Cov

/-! ## §1. What the device announces -/

/-- `max_apdu_length_accepted`; without the property, `usize::MAX`. -/
def maxApduLengthAccepted (database : DatabaseView) : Nat :=
  match database.unsignedProperty database.deviceId .maxApduLengthAccepted with
  | .ok length => length.toNat
  | .error _ => 18446744073709551615

/-- The first of the values `select_array_value` makes of a value read whole. -/
def firstValue : PropertyValue → Option PropertyValue
  | .array values => values.head?
  | .list values => values.head?
  | value => some value

/-- `i_am`. -/
def iAm (database : DatabaseView) : Except ObjectError IAmRequest := do
  let device := database.deviceId
  if device.objectType ≠ .device then
    throw (.invalidConfiguration "object database has no Device object")
  let maxApdu ← database.unsignedProperty device .maxApduLengthAccepted
  let vendor ← database.unsignedProperty device .vendorIdentifier
  let segmentation ←
    match firstValue (← database.getProperty device .segmentationSupported) with
    | some (.enumerated value) =>
        match Segmentation.tryFrom value with
        | some segmentation => pure segmentation
        | none => throw (.invalidConfiguration s!"Unknown segmentation: {value}")
    | some _ => throw .invalidPropertyType
    | none => throw .invalidPropertyType
  -- The numbers must fit the fields of the announcement.
  if 4294967295 < maxApdu then throw .invalidPropertyType
  if 65535 < vendor then throw .invalidPropertyType
  return ⟨device, maxApdu.toUInt32, segmentation, vendor.toUInt16⟩

/-! ## §2. Subscriptions -/

/-- What `subscribe_cov` and `subscribe_cov_property` do once the key is known: cancel,
or subscribe and report a full table. -/
def maintain (subscriptions : CovSubscriptions) (key : SubscriptionKey) (cancellation : Bool)
    (confirmed : Option Bool) (lifetime : Option UInt32) (covIncrement : Option Encoding.F32) :
    Except ObjectError CovSubscriptions :=
  if cancellation then .ok (subscriptions.cancel key).1
  else
    match subscriptions.subscribe
        ⟨key, confirmed.getD false, subscriptions.expiryFor lifetime, covIncrement⟩ with
    | .ok subscriptions => .ok subscriptions
    | .error _ => .error .noSpaceToAddListElement

/-- `subscribe_cov`. -/
def subscribeCov (database : DatabaseView) (subscriptions : CovSubscriptions)
    (request : SubscribeCovRequest) (source : Option SocketAddr) :
    Except ObjectError CovSubscriptions :=
  match source with
  | none => .error (.invalidConfiguration "COV subscription has no source address")
  | some address =>
      -- An object that is not here is refused now, rather than never heard from.
      match database.getProperty request.monitoredObjectIdentifier .presentValue with
      | .error _ => .error .notFound
      | .ok _ =>
          maintain subscriptions
            ⟨request.subscriberProcessIdentifier, request.monitoredObjectIdentifier, none, address⟩
            request.isCancellation request.issueConfirmedNotifications request.lifetime none

/-- `subscribe_cov_property`. -/
def subscribeCovProperty (database : DatabaseView) (subscriptions : CovSubscriptions)
    (request : SubscribeCovPropertyRequest) (source : Option SocketAddr) :
    Except ObjectError CovSubscriptions :=
  match source with
  | none => .error (.invalidConfiguration "COV subscription has no source address")
  | some address =>
      if request.monitoredProperty.propertyArrayIndex.isSome then
        .error .optionalFunctionalityNotSupported
      else
        let property := request.monitoredProperty.propertyIdentifier
        -- What cannot be read cannot be subscribed to.
        match database.getProperty request.monitoredObjectIdentifier property with
        | .error error => .error error
        | .ok _ =>
            maintain subscriptions
              ⟨request.subscriberProcessIdentifier, request.monitoredObjectIdentifier,
                some property, address⟩
              request.isCancellation request.issueConfirmedNotifications request.lifetime
              request.covIncrement

end BacnetRs.Server
