/-
  BacnetRs.Object.Agreement — what an object declares and what it does
  (`object/mod.rs` and the object types).

  An object says which of its properties it lists and which are written, and
  its setter decides for itself.  Over all types and states:

    * `HostedObject.written_is_declared` — a write that succeeds is of a property
                            declared writable and listed, and what was read of a
                            writable property may be written back.
    * `HostedObject.written_reads_back` — what was written is what is read, and no
                            other property moves but those computed from it.
-/
import BacnetRs.Object.Command

namespace BacnetRs.Object

open BacnetRs.Encoding BacnetRs.Property

namespace HostedObject

variable {o o' : HostedObject} {property : PropertyIdentifier} {value : PropertyValue}

/-! ## §1. Declared and done -/

/-- **What is written was declared writable, and listed.**  The limits and Deadband of
an analog object are written before they are listed.  Back the other way, what is
read of a writable property is taken again if it may be stored. -/
theorem written_is_declared :
    (∀ priority, BacnetObject.setProperty o property value = (o', .ok ())
        ∨ BacnetObject.setPropertyWithPriority o property value priority = (o', .ok ()) →
      ¬ Undeclared o property →
      BacnetObject.isPropertyWritable o property = true
        ∧ (¬ Stray o property → property ∈ BacnetObject.propertyList o))
    ∧ (BacnetObject.isPropertyWritable o property = true →
        BacnetObject.getProperty o property = .ok value → Rewritable o property value →
        ∃ o', BacnetObject.setProperty o property value = (o', .ok ())
          ∧ BacnetObject.setPropertyWithPriority o property value none = (o', .ok ())) := by
  constructor
  · intro priority h hdeclared
    have hset : ∃ p, BacnetObject.setPropertyWithPriority o property value p = (o', .ok ()) := by
      rcases h with h | h
      · rw [LawfulObject.setProperty_eq] at h
        exact ⟨none, h⟩
      · exact ⟨priority, h⟩
    obtain ⟨p, hp⟩ := hset
    exact ⟨LawfulObject.set_writable hp hdeclared, LawfulObject.set_listed hp hdeclared⟩
  · intro hwritable hread hrewritable
    obtain ⟨written, hset⟩ := LawfulObject.set_of_read hwritable hread hrewritable
    refine ⟨written, hset, ?_⟩
    rw [← LawfulObject.setProperty_eq]
    exact hset

/-- The name of a new Analog Value is written, and was declared writable. -/
theorem written_is_declared_objectName :
    BacnetObject.isPropertyWritable (⟨.analogValue, .new 1 "Setpoint"⟩ : HostedObject)
      .objectName = true :=
  ((@written_is_declared ⟨.analogValue, .new 1 "Setpoint"⟩ _ .objectName
    (.characterString "Zone")).1 none (.inl rfl) (fun h => by cases h.1)).1

/-- An Analog Value that reports and has no limits. -/
def reportingSetpoint : HostedObject :=
  ⟨.analogValue, (AnalogValue.new 1 "Setpoint").withIntrinsicReporting 5⟩

/-- A limit is written while it is not listed, and a denying override refuses the
value that was read. -/
theorem written_not_listed :
    (∃ (o o' : HostedObject) (property : PropertyIdentifier) (value : PropertyValue),
      BacnetObject.setProperty o property value = (o', .ok ())
        ∧ property ∉ BacnetObject.propertyList o)
    ∧ ∃ (o : HostedObject) (property : PropertyIdentifier) (value : PropertyValue),
      BacnetObject.isPropertyWritable o property = true
        ∧ BacnetObject.getProperty o property = .ok value
        ∧ ∀ o', BacnetObject.setProperty o property value ≠ (o', .ok ()) := by
  constructor
  · refine ⟨reportingSetpoint, _, .highLimit, .real ⟨0x41200000⟩, rfl, ?_⟩
    decide +kernel
  · let held : AnalogValue := AnalogValue.new 1 "Setpoint"
    refine ⟨⟨.analogValue, { held with state :=
      { held.state with localOverride := some ⟨⟨0⟩, .denied⟩ } }⟩, .presentValue, _, rfl, rfl, ?_⟩
    intro o' h
    cases congrArg Prod.snd h

/-! ## §2. Written and read -/

/-- **What is written is what is read.**  The transition bits of Event_Enable and
Ack_Required are kept as three.  A refused write changes nothing. -/
theorem written_reads_back (hheld : Described.held o = none)
    (hcommandable : ¬ Commandable o property) (hdeclared : ¬ Undeclared o property)
    (hvalue : OwnDatatype property value) :
    (∀ o', BacnetObject.setProperty o property value = (o', .ok ()) →
      BacnetObject.getProperty o' property = .ok (asStored property value)
        ∧ ∀ q, q ≠ property → ¬ ComputedFrom (BacnetObject.intrinsic o) q property →
            BacnetObject.getProperty o' q = BacnetObject.getProperty o q)
    ∧ ∀ o' e, BacnetObject.setProperty o property value = (o', .error e) →
        ∀ q, BacnetObject.getProperty o' q = BacnetObject.getProperty o q := by
  constructor
  · intro o' h
    refine ⟨LawfulObject.readBack h hheld hcommandable hdeclared hvalue, ?_⟩
    intro q hq hcomputed
    exact LawfulObject.frame h hcommandable hq hcomputed
  · intro o' e h q
    rw [LawfulObject.setProperty_eq] at h
    have hatomic := @LawfulObject.atomic HostedObject _ _ _ o property value none e
    rw [h] at hatomic
    have heq : o' = o := hatomic rfl
    rw [heq]

/-- Out_Of_Service of a new Analog Value is switched on. -/
theorem written_reads_back_outOfService :
    ∃ o', BacnetObject.setProperty (⟨.analogValue, .new 1 "Setpoint"⟩ : HostedObject)
          .outOfService (.boolean true) = (o', .ok ())
      ∧ BacnetObject.getProperty o' .outOfService = .ok (.boolean true) := by
  have hvalue : OwnDatatype .outOfService (.boolean true) := by
    constructor <;> simp
  refine ⟨_, rfl, ?_⟩
  exact ((@written_reads_back ⟨.analogValue, .new 1 "Setpoint"⟩ .outOfService (.boolean true)
    rfl (fun h => by cases h.1) (fun h => by cases h.1) hvalue).1 _ rfl).1

/-- A single transition bit written to Event_Enable reads as three. -/
theorem written_reads_otherwise :
    ∃ (o o' : HostedObject) (property : PropertyIdentifier) (value : PropertyValue),
      Described.held o = none ∧ ¬ Commandable o property ∧ OwnDatatype property value
        ∧ BacnetObject.setProperty o property value = (o', .ok ())
        ∧ BacnetObject.getProperty o' property ≠ .ok value := by
  have hvalue : OwnDatatype .eventEnable (.bitString [true]) := by
    constructor <;> simp
  have hcommandable : ¬ Commandable reportingSetpoint .eventEnable := fun h => by cases h.1
  refine ⟨reportingSetpoint, _, .eventEnable, .bitString [true], rfl, hcommandable, hvalue, rfl, ?_⟩
  intro h
  cases h

end HostedObject

end BacnetRs.Object
