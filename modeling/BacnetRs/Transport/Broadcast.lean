/-
  BacnetRs.Transport.Broadcast — a broadcast distribution table in octets
  (`transport/mod.rs`).

  Ten octets an entry: an address, a port, a mask, all of IPv4.  The table that
  was there is gone before the length of what is decoded is looked at:

    * `encode_decodeEntries`, `decodeEntries_encode` — octets and entries, either way round.
    * `tables_and_octets_iff` — and what becomes of the table that was there.
-/
import BacnetRs.Library.Words
import BacnetRs.Transport.Bvll

namespace BacnetRs.Transport

/-- `IpAddr`. -/
inductive IpAddr where
  | v4 (a b c d : UInt8)
  | v6 (bits : BitVec 128)
  deriving Repr, DecidableEq

/-- `BdtEntry`. -/
structure BdtEntry where
  address : IpAddr
  port : UInt16
  mask : IpAddr
  deriving Repr, DecidableEq

/-- `BroadcastManager`. -/
structure BroadcastManager where
  bdt : List BdtEntry
  deriving Repr, DecidableEq

namespace BdtEntry

/-- The octets of a mask; of one that is not of IPv4, the default. -/
def maskOctets : IpAddr → Bytes
  | .v4 a b c d => [a, b, c, d]
  | .v6 _ => [255, 255, 255, 255]

/-- What `encode_bdt` makes of an entry. -/
def encode (entry : BdtEntry) : Bytes :=
  match entry.address with
  | .v4 a b c d =>
      [a, b, c, d] ++ [Octets.highOctet entry.port, Octets.lowOctet entry.port]
        ++ maskOctets entry.mask
  | .v6 _ => []

/-- Address and mask are of IPv4. -/
def IsV4 (entry : BdtEntry) : Prop :=
  (∃ a b c d, entry.address = .v4 a b c d) ∧ ∃ a b c d, entry.mask = .v4 a b c d

end BdtEntry

namespace BroadcastManager

/-- `encode_bdt`. -/
def encodeBdt (self : BroadcastManager) : Bytes := self.bdt.flatMap BdtEntry.encode

/-- The entries that `decode_bdt` makes of pieces of ten octets. -/
def decodeEntries : Bytes → List BdtEntry
  | a :: b :: c :: d :: high :: low :: a' :: b' :: c' :: d' :: rest =>
      ⟨.v4 a b c d, Octets.wordOf high low, .v4 a' b' c' d'⟩ :: decodeEntries rest
  | _ => []

/-- `decode_bdt`: what is returned, and the manager afterwards. -/
def decodeBdt (self : BroadcastManager) (data : Bytes) :
    Except TransportError Unit × BroadcastManager :=
  -- The table is cleared first.
  let cleared : BroadcastManager := { self with bdt := [] }
  if data.length % 10 ≠ 0 then (.error (.invalidBvll "Invalid BDT data length"), cleared)
  else (.ok (), { cleared with bdt := cleared.bdt ++ decodeEntries data })

variable {self : BroadcastManager} {data : Bytes}

theorem encode_entry (a b c d high low a' b' c' d' : UInt8) :
    BdtEntry.encode ⟨.v4 a b c d, Octets.wordOf high low, .v4 a' b' c' d'⟩
      = [a, b, c, d, high, low, a', b', c', d'] := by
  show [a, b, c, d, Octets.highOctet (Octets.wordOf high low),
    Octets.lowOctet (Octets.wordOf high low), a', b', c', d'] = _
  rw [Octets.highOctet_wordOf, Octets.lowOctet_wordOf]

/-- **Octets make entries that make the octets**, piece by piece. -/
theorem encode_decodeEntries (data : Bytes) (h : data.length % 10 = 0) :
    (decodeEntries data).flatMap BdtEntry.encode = data := by
  induction data using decodeEntries.induct with
  | case1 a b c d high low a' b' c' d' rest ih =>
      have hrest : rest.length % 10 = 0 := by
        simp only [List.length_cons] at h
        omega
      rw [decodeEntries, List.flatMap_cons, encode_entry, ih hrest]
      rfl
  | case2 data hshort =>
      match data with
      | [] => rfl
      | a :: b :: c :: d :: high :: low :: a' :: b' :: c' :: d' :: rest =>
          exact absurd rfl (hshort a b c d high low a' b' c' d' rest)
      | [_] | [_, _] | [_, _, _] | [_, _, _, _] | [_, _, _, _, _] | [_, _, _, _, _, _]
      | [_, _, _, _, _, _, _] | [_, _, _, _, _, _, _, _] | [_, _, _, _, _, _, _, _, _] =>
          cases h

/-- **Entries of IPv4 make octets that make the entries**, one by one. -/
theorem decodeEntries_encode (entries : List BdtEntry) (h : ∀ entry ∈ entries, entry.IsV4) :
    (entries.flatMap BdtEntry.encode).length % 10 = 0
      ∧ decodeEntries (entries.flatMap BdtEntry.encode) = entries := by
  induction entries with
  | nil => exact ⟨rfl, rfl⟩
  | cons entry entries ih =>
      obtain ⟨hlength, hentries⟩ := ih fun other hmem => h other (List.mem_cons_of_mem _ hmem)
      obtain ⟨⟨a, b, c, d, haddress⟩, a', b', c', d', hmask⟩ := h entry List.mem_cons_self
      obtain ⟨address, port, mask⟩ := entry
      cases haddress
      cases hmask
      rw [← Octets.wordOf_octets port, List.flatMap_cons, encode_entry]
      constructor
      · rw [List.length_append]
        show (10 + _) % 10 = 0
        omega
      · show _ :: decodeEntries (entries.flatMap BdtEntry.encode) = _
        rw [hentries]

theorem decodeBdt_of_length (h : data.length % 10 = 0) :
    self.decodeBdt data = (.ok (), ⟨decodeEntries data⟩) := if_neg (not_not.mpr h)

theorem decodeBdt_of_not_length (h : data.length % 10 ≠ 0) :
    self.decodeBdt data = (.error (.invalidBvll "Invalid BDT data length"), ⟨[]⟩) := if_pos h

/-- **What is refused leaves the table** if its length is in tens, or there was none; what is taken
is given back, and a table of IPv4 is taken as it is. -/
theorem tables_and_octets_iff (self other : BroadcastManager) (data : Bytes) :
    ((∀ e, (self.decodeBdt data).1 = .error e → (self.decodeBdt data).2 = self)
        ↔ data.length % 10 = 0 ∨ self.bdt = [])
      ∧ ((self.decodeBdt data).1 = .ok () → (self.decodeBdt data).2.encodeBdt = data)
      ∧ ((∀ entry ∈ self.bdt, entry.IsV4) →
        other.decodeBdt self.encodeBdt = (.ok (), self)) := by
  refine ⟨?_, ?_, ?_⟩
  · by_cases h : data.length % 10 = 0
    · rw [decodeBdt_of_length h]
      exact iff_of_true (by intro e herror; cases herror) (.inl h)
    · rw [decodeBdt_of_not_length h]
      constructor
      · intro hleft
        exact .inr (congrArg bdt (hleft _ rfl)).symm
      · rintro (hlength | hempty) e _
        · exact absurd hlength h
        · show ⟨[]⟩ = self
          rw [← hempty]
  · intro htaken
    by_cases h : data.length % 10 = 0
    · rw [decodeBdt_of_length h]
      exact encode_decodeEntries data h
    · rw [decodeBdt_of_not_length h] at htaken
      cases htaken
  · intro hall
    obtain ⟨hlength, hentries⟩ := decodeEntries_encode self.bdt hall
    show other.decodeBdt (self.bdt.flatMap BdtEntry.encode) = _
    rw [decodeBdt_of_length hlength, hentries]

/-- One octet is refused, and the table is gone. -/
theorem one_octet_empties_table :
    (decodeBdt ⟨[⟨.v4 10 0 0 1, 47808, .v4 255 255 255 0⟩]⟩ [0]).2 = ⟨[]⟩
      ∧ ¬ ∀ (self : BroadcastManager) data e,
          (self.decodeBdt data).1 = .error e → (self.decodeBdt data).2 = self := by
  refine ⟨rfl, ?_⟩
  intro hall
  have hkept := hall ⟨[⟨.v4 10 0 0 1, 47808, .v4 255 255 255 0⟩]⟩ [0] _ rfl
  cases hkept

end BroadcastManager

end BacnetRs.Transport
