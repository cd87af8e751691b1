/-
  BacnetRs.Object.Trait — what every object type implements (`object/mod.rs`).

  The database holds objects of any type behind one trait (`BacnetObject`).
  What can be said of them alike needs a few facts of the particular object
  (`Described`): the analog or multi-state state it answers from, its local
  override, whether it is commanded.  `LawfulObject` are the laws; an object
  type proves them once, and everything above reads them off.

    * `LawfulObject.readable_iff` — what can be read is what is listed, but for
                            Deadband and Limit_Enable of an analog object that
                            reports and has no limits (`Unlisted`).
    * `LawfulObject.set_writable`, `set_listed` — what is written is declared
                            writable and listed, but for `Undeclared`, `Stray`.
    * `LawfulObject.readBack`, `frame` — what is written is read, and nothing
                            else is moved but what is computed from it.
-/
import BacnetRs.Object.Analog
import BacnetRs.Object.Binary
import BacnetRs.Object.MultiState

namespace BacnetRs.Object

open BacnetRs.Encoding BacnetRs.Property

/-! ## §1. The trait -/

/-- The trait `BacnetObject`. -/
class BacnetObject (ω : Type) where
  identifier : ω → ObjectIdentifier
  getProperty : ω → PropertyIdentifier → Except ObjectError PropertyValue
  setProperty : ω → PropertyIdentifier → PropertyValue → Attempt ObjectError ω
  /-- Objects that are not commandable use their normal setter. -/
  setPropertyWithPriority :
      ω → PropertyIdentifier → PropertyValue → Option UInt8 → Attempt ObjectError ω :=
    fun self property value _ => setProperty self property value
  isPropertyWritable : ω → PropertyIdentifier → Bool
  propertyList : ω → List PropertyIdentifier
  /-- The intrinsic reporting state, when event detection is configured. -/
  intrinsic : ω → Option IntrinsicReporting := fun _ => none
  /-- What is put back through `intrinsic_mut`. -/
  setIntrinsic : ω → IntrinsicReporting → ω := fun self _ => self

/-! ## §2. What an object is -/

/-- The facts of an object that its properties depend on. -/
class Described (ω : Type) where
  /-- The state an analog object answers from. -/
  analog : ω → Option AnalogState := fun _ => none
  /-- The state a binary object answers from. -/
  binary : ω → Option BinaryState := fun _ => none
  /-- The state a multi-state object answers from. -/
  multistate : ω → Option MultistateState := fun _ => none
  /-- What the local override that is held does with writes. -/
  held : ω → Option OverrideWrites := fun _ => none
  /-- Of an output or a value: whether Present_Value is commanded. -/
  commanded : ω → Option Bool := fun _ => none
  /-- What is stored is within what a write may store. -/
  Fits : ω → PropertyIdentifier → Prop := fun _ _ => True

section Facts

variable {ω : Type} [BacnetObject ω] [Described ω]

open Described

/-- Read though not listed: Deadband and Limit_Enable of an analog object with
reporting configured and no limit to compare with. -/
def Unlisted (o : ω) (property : PropertyIdentifier) : Prop :=
  (∃ s, analog o = some s ∧ s.LimitsMissing) ∧ (property = .deadband ∨ property = .limitEnable)

/-- Written though neither declared writable nor listed: Alarm_Values of a multi-state
object without reporting. -/
def Undeclared (o : ω) (property : PropertyIdentifier) : Prop :=
  property = .alarmValues ∧ ∃ s, multistate o = some s ∧ s.alarm = none

/-- Declared writable though it may not be listed: the limits and Deadband of an
analog object. -/
def Stray (o : ω) (property : PropertyIdentifier) : Prop :=
  (analog o).isSome = true ∧ property ∈ [PropertyIdentifier.highLimit, .lowLimit, .deadband]

/-- Present_Value of an object that is commanded through a priority array. -/
def Commandable (o : ω) (property : PropertyIdentifier) : Prop :=
  property = .presentValue ∧ commanded o = some true

/-- What was read may be written back. -/
structure Rewritable (o : ω) (property : PropertyIdentifier) (value : PropertyValue) : Prop where
  /-- No increment below zero, no object that notifies of acknowledgements. -/
  storable : Storable property value
  /-- No override that denies the write. -/
  permitted : property = .presentValue → (commanded o).isSome = true → held o ≠ some .denied
  /-- The state is one of the states. -/
  state : property = .presentValue → ∀ s, multistate o = some s →
    1 ≤ s.effectivePresentValue ∧ s.effectivePresentValue ≤ s.numberOfStates
  fits : Fits o property

end Facts

/-! ## §3. The laws -/

/-- The laws of an object type. -/
class LawfulObject (ω : Type) [BacnetObject ω] [Described ω] : Prop where
  setProperty_eq : ∀ {o : ω} {property value}, BacnetObject.setProperty o property value
    = BacnetObject.setPropertyWithPriority o property value none
  atomic : ∀ {o : ω} {property value priority},
    (BacnetObject.setPropertyWithPriority o property value priority).Atomic o
  readable_iff : ∀ {o : ω} {property},
    (∃ v, BacnetObject.getProperty o property = .ok v)
      ↔ property ∈ BacnetObject.propertyList o ∨ Unlisted o property
  nodup : ∀ o : ω, (BacnetObject.propertyList o).Nodup
  set_writable : ∀ {o o' : ω} {property value priority},
    BacnetObject.setPropertyWithPriority o property value priority = (o', .ok ()) →
    ¬ Undeclared o property → BacnetObject.isPropertyWritable o property = true
  set_listed : ∀ {o o' : ω} {property value priority},
    BacnetObject.setPropertyWithPriority o property value priority = (o', .ok ()) →
    ¬ Undeclared o property → ¬ Stray o property → property ∈ BacnetObject.propertyList o
  set_of_read : ∀ {o : ω} {property value}, BacnetObject.isPropertyWritable o property = true →
    BacnetObject.getProperty o property = .ok value → Rewritable o property value →
    ∃ o', BacnetObject.setProperty o property value = (o', .ok ())
  readBack : ∀ {o o' : ω} {property value},
    BacnetObject.setProperty o property value = (o', .ok ()) → Described.held o = none →
    ¬ Commandable o property → ¬ Undeclared o property → OwnDatatype property value →
    BacnetObject.getProperty o' property = .ok (asStored property value)
  frame : ∀ {o o' : ω} {property value q},
    BacnetObject.setProperty o property value = (o', .ok ()) → ¬ Commandable o property →
    q ≠ property → ¬ ComputedFrom (BacnetObject.intrinsic o) q property →
    BacnetObject.getProperty o' q = BacnetObject.getProperty o q

end BacnetRs.Object
