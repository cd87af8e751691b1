/-
  BacnetRs.Network.Host — addresses and time as the standard library has them
  (`std::net::SocketAddr`, `std::time`).

  Readings of the clock and spans of time are nanosecond counts.
-/
import Mathlib.Data.BitVec

namespace BacnetRs.Network

/-- A UDP address. -/
inductive SocketAddr where
  | v4 (ip : UInt32) (port : UInt16)
  | v6 (ip : BitVec 128) (port : UInt16) (flowinfo scopeId : UInt32)
  deriving Repr, DecidableEq

/-- A reading of the clock, in nanoseconds. -/
abbrev Instant := Nat

/-- A span of time, in nanoseconds. -/
abbrev Duration := Nat

namespace Duration

/-- `Duration::MAX`. -/
def max : Duration := 18446744073709551615 * 1000000000 + 999999999

/-- `saturating_mul`. -/
def saturatingMul (span : Duration) (factor : Nat) : Duration := min (span * factor) max

/-- `saturating_add`. -/
def saturatingAdd (x y : Duration) : Duration := min (x + y) max

/-- `Duration::from_millis`. -/
def fromMillis (millis : UInt64) : Duration := millis.toNat * 1000000

end Duration

/-- `Instant::saturating_duration_since`. -/
def Instant.saturatingDurationSince (now earlier : Instant) : Duration := now - earlier

end BacnetRs.Network
