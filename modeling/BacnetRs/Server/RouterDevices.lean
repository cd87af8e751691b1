/-
  BacnetRs.Server.RouterDevices — the devices behind a router, as the site is
  edited (`RouterDevices` in `server/router.rs`).

  Networks are the router's wiring and are kept apart from the devices on them.
  A device goes in at a MAC address of a network that is there, and a network
  that is taken away takes its devices along.

    * `reachable_sound`     — what holds of the devices after any edits.
    * `reachedBy_exact`     — and which of them a destination reaches.
-/
import BacnetRs.Library.Ascending
import BacnetRs.Library.Attempt
import BacnetRs.Library.Machine
import BacnetRs.Server.Router
import Mathlib.Data.List.Lex
import Mathlib.Data.Prod.Lex

namespace BacnetRs.Server

open BacnetRs.Network

/-! ## §1. The operations -/

/-- How addresses are ordered: by the network, then by the octets of the MAC. -/
def addressOrder (address : NetworkAddress) : ℕ ×ₗ List ℕ :=
  toLex (address.network.toNat, address.address.map UInt8.toNat)

namespace Routes

variable {δ : Type}

/-- `RouterDevices::new`. -/
def new : Routes δ := ⟨[], []⟩

/-- `add_network`. -/
def addNetwork (routes : Routes δ) (network : UInt16) : Attempt ServerError (Routes δ) :=
  if network = 0 ∨ network = globalBroadcast then
    .refused routes (.invalidConfiguration s!"{network} cannot be a routed network number")
  else .done { routes with networks := Ordered.insert UInt16.toNat network routes.networks }

/-- `remove_network`: every device on it goes along. -/
def removeNetwork (routes : Routes δ) (network : UInt16) : Routes δ where
  networks := routes.networks.filter (fun held => held != network)
  devices := routes.devices.filter (fun device => device.1.network != network)

/-- `get` of the devices' map. -/
def deviceAt (routes : Routes δ) (address : NetworkAddress) : Option δ :=
  (routes.devices.find? (fun device => device.1 == address)).map Prod.snd

/-- `insert`: the routes, and the device that was there or what is wrong. -/
def insert (routes : Routes δ) (address : NetworkAddress) (dispatcher : δ) :
    Routes δ × Except ServerError (Option δ) :=
  if address.address = [] then
    (routes, .error (.invalidConfiguration "a routed device needs a MAC address"))
  else if address.network ∉ routes.networks then
    let network := address.network
    (routes, .error (.invalidConfiguration s!"network {network} is not behind this router"))
  else
    ({ routes with
        devices := Ordered.insert (fun device => addressOrder device.1) (address, dispatcher)
          routes.devices },
      .ok (routes.deviceAt address))

/-- `remove`: the routes, and the device that was there. -/
def remove (routes : Routes δ) (address : NetworkAddress) : Routes δ × Option δ :=
  ({ routes with devices := routes.devices.filter (fun device => device.1 != address) },
    routes.deviceAt address)

/-- What is done to the devices behind a router. -/
inductive Edit (δ : Type) where
  | addNetwork (network : UInt16)
  | removeNetwork (network : UInt16)
  | insert (address : NetworkAddress) (dispatcher : δ)
  | remove (address : NetworkAddress)

/-- What an edit leaves. -/
def edited (routes : Routes δ) : Edit δ → Routes δ
  | .addNetwork network => (routes.addNetwork network).1
  | .removeNetwork network => routes.removeNetwork network
  | .insert address dispatcher => (routes.insert address dispatcher).1
  | .remove address => (routes.remove address).1

/-- One edit of a run. -/
def step (routes : Routes δ) (edit : Edit δ) : Option (Routes δ) := some (routes.edited edit)

/-! ## §2. What holds of the devices -/

/-- The networks can be routed to, and each device is at a MAC address of one of them; both
are in order. -/
structure Sound (routes : Routes δ) : Prop where
  networks_ascending : Ordered.Ascending UInt16.toNat routes.networks
  devices_ascending : Ordered.Ascending (fun device => addressOrder device.1) routes.devices
  routable : ∀ network ∈ routes.networks, network ≠ 0 ∧ network ≠ globalBroadcast
  placed : ∀ device ∈ routes.devices,
    device.1.network ∈ routes.networks ∧ device.1.address ≠ []

theorem new_sound : (new : Routes δ).Sound where
  networks_ascending := List.Pairwise.nil
  devices_ascending := List.Pairwise.nil
  routable := by simp [new]
  placed := by simp [new]

theorem addNetwork_sound {routes : Routes δ} (h : routes.Sound) (network : UInt16) :
    (routes.addNetwork network).1.Sound := by
  unfold addNetwork
  by_cases hreserved : network = 0 ∨ network = globalBroadcast
  · rw [if_pos hreserved]
    exact h
  · rw [if_neg hreserved]
    have hmem := fun held =>
      Ordered.mem_insert (b := held) (a := network) h.networks_ascending
    refine ⟨Ordered.ascending_insert h.networks_ascending, h.devices_ascending, ?_, ?_⟩
    · intro held hheld
      rcases (hmem held).mp hheld with rfl | ⟨hbefore, _⟩
      · exact not_or.mp hreserved
      · exact h.routable held hbefore
    · intro device hdevice
      obtain ⟨hnetwork, haddress⟩ := h.placed device hdevice
      refine ⟨(hmem _).mpr ?_, haddress⟩
      by_cases hsame : device.1.network = network
      · exact .inl hsame
      · exact .inr ⟨hnetwork, fun hkey => hsame (UInt16.toNat_inj.mp hkey)⟩

theorem removeNetwork_sound {routes : Routes δ} (h : routes.Sound) (network : UInt16) :
    (routes.removeNetwork network).Sound where
  networks_ascending := Ordered.ascending_filter _ h.networks_ascending
  devices_ascending := Ordered.ascending_filter _ h.devices_ascending
  routable := by
    intro held hheld
    exact h.routable held (List.mem_filter.mp hheld).1
  placed := by
    intro device hdevice
    obtain ⟨hmem, hother⟩ := List.mem_filter.mp hdevice
    obtain ⟨hnetwork, haddress⟩ := h.placed device hmem
    exact ⟨List.mem_filter.mpr ⟨hnetwork, hother⟩, haddress⟩

theorem insert_sound {routes : Routes δ} (h : routes.Sound) (address : NetworkAddress)
    (dispatcher : δ) : (routes.insert address dispatcher).1.Sound := by
  unfold insert
  by_cases hempty : address.address = []
  · rw [if_pos hempty]
    exact h
  · rw [if_neg hempty]
    by_cases hnetwork : address.network ∈ routes.networks
    · rw [if_neg (not_not.mpr hnetwork)]
      refine ⟨h.networks_ascending, Ordered.ascending_insert h.devices_ascending, h.routable, ?_⟩
      intro device hdevice
      rcases (Ordered.mem_insert h.devices_ascending).mp hdevice with rfl | ⟨hbefore, _⟩
      · exact ⟨hnetwork, hempty⟩
      · exact h.placed device hbefore
    · rw [if_pos hnetwork]
      exact h

theorem remove_sound {routes : Routes δ} (h : routes.Sound) (address : NetworkAddress) :
    (routes.remove address).1.Sound where
  networks_ascending := h.networks_ascending
  devices_ascending := Ordered.ascending_filter _ h.devices_ascending
  routable := h.routable
  placed := by
    intro device hdevice
    exact h.placed device (List.mem_filter.mp hdevice).1

/-- **Whatever is edited, the devices stay where they can be routed to.** -/
theorem reachable_sound {routes : Routes δ} (h : Machine.Reachable step new routes) :
    routes.Sound := by
  refine Machine.Reachable.invariant ?_ new_sound h
  intro routes edit next hsound hstep
  cases hstep
  cases edit with
  | addNetwork network => exact addNetwork_sound hsound network
  | removeNetwork network => exact removeNetwork_sound hsound network
  | insert address dispatcher => exact insert_sound hsound address dispatcher
  | remove address => exact remove_sound hsound address

/-! ## §3. What each edit does -/

variable {routes : Routes δ}

/-! ## §4. What a destination reaches -/

/-- The devices are in the order of their networks. -/
theorem Sound.networks_le (h : routes.Sound) :
    routes.devices.Pairwise
      (fun a b => a.1.network.toNat ≤ b.1.network.toNat) := by
  refine h.devices_ascending.imp ?_
  intro a b hlt
  rcases Prod.Lex.toLex_lt_toLex.mp hlt with hless | ⟨heq, _⟩
  · exact Nat.le_of_lt hless
  · exact Nat.le_of_eq heq

/-- The devices on one network are read from the start of its range to the end of it. -/
theorem Sound.on_network (h : routes.Sound) (network : UInt16) :
    (routes.devices.dropWhile (fun device => decide (device.1.network < network))).takeWhile
        (fun device => device.1.network == network)
      = routes.devices.filter (fun device => device.1.network == network) := by
  have hbelow : (fun device : NetworkAddress × δ => decide (device.1.network < network))
      = fun device => decide (device.1.network.toNat < network.toNat) := by
    funext device
    exact decide_eq_decide.mpr UInt16.lt_iff_toNat_lt
  have hgroup : (fun device : NetworkAddress × δ => device.1.network == network)
      = fun device => decide (device.1.network.toNat = network.toNat) := by
    funext device
    rw [Bool.eq_iff_iff, beq_iff_eq, decide_eq_true_eq, UInt16.toNat_inj]
  rw [hbelow, hgroup]
  exact Ordered.takeWhile_dropWhile network.toNat h.networks_le

/-- The device at an address, if there is one. -/
theorem Sound.at_address (h : routes.Sound) (address : NetworkAddress) :
    (routes.devices.find? (fun device => device.1 == address)).toList
      = routes.devices.filter (fun device => device.1 == address) := by
  apply Ordered.toList_find? h.devices_ascending
  intro a _ b _ ha hb
  rw [beq_iff_eq.mp ha, beq_iff_eq.mp hb]

/-- **A destination reaches exactly the devices it names.**  After any edits, every device is
at a MAC address of a network behind the router, which is not a reserved one.  Nothing is
reached on a network that is not there, every device by the global broadcast, all devices of
a network by its number alone, and otherwise the one device at the address, if it is there. -/
theorem reachedBy_exact (h : Machine.Reachable step new routes) :
    (∀ device ∈ routes.devices, device.1.network ∈ routes.networks
      ∧ device.1.network ≠ 0 ∧ device.1.network ≠ 0xFFFF ∧ device.1.address ≠ [])
    ∧ ∀ destination : NetworkAddress,
      (routes.reachedBy destination = none
        ↔ destination.network ≠ 0xFFFF ∧ destination.network ∉ routes.networks)
      ∧ (destination.network = 0xFFFF → routes.reachedBy destination = some routes.devices)
      ∧ (destination.network ≠ 0xFFFF → destination.network ∈ routes.networks →
          (destination.address = [] → routes.reachedBy destination
            = some (routes.devices.filter (fun device => device.1.network == destination.network)))
          ∧ (destination.address ≠ [] → ∃ reached, routes.reachedBy destination = some reached
              ∧ reached.length ≤ 1
              ∧ ∀ device, device ∈ reached ↔ device ∈ routes.devices ∧ device.1 = destination)) := by
  have hsound := reachable_sound h
  constructor
  · intro device hdevice
    obtain ⟨hnetwork, haddress⟩ := hsound.placed device hdevice
    obtain ⟨hzero, hglobal⟩ := hsound.routable _ hnetwork
    exact ⟨hnetwork, hzero, hglobal, haddress⟩
  intro destination
  unfold reachedBy
  -- A global broadcast reaches every device, known network or not.
  by_cases hglobal : destination.network = globalBroadcast
  · rw [if_pos hglobal]
    refine ⟨?_, fun _ => rfl, fun hne => absurd hglobal hne⟩
    exact iff_of_false (by simp) (fun hne => hne.1 hglobal)
  · rw [if_neg hglobal]
    refine ⟨?_, fun heq => absurd heq hglobal, fun _ hnetwork => ?_⟩
    · by_cases hnetwork : destination.network ∈ routes.networks
      · rw [if_neg (not_not.mpr hnetwork)]
        refine iff_of_false ?_ (fun hnot => hnot.2 hnetwork)
        split <;> simp
      · rw [if_pos hnetwork]
        exact iff_of_true rfl ⟨hglobal, hnetwork⟩
    · rw [if_neg (not_not.mpr hnetwork)]
      -- On a known network an empty address reaches all of it, any other at most one device.
      constructor
      · intro hempty
        rw [if_pos hempty, hsound.on_network]
      · intro haddress
        rw [if_neg haddress]
        refine ⟨_, rfl, Option.length_toList_le, ?_⟩
        intro device
        rw [hsound.at_address, List.mem_filter, beq_iff_eq]

/-- Two devices on network 1001 and one on 1002. -/
def siteEdits : List (Edit Nat) :=
  [.addNetwork 1001, .addNetwork 1002, .insert ⟨1001, [2]⟩ 12, .insert ⟨1002, [1]⟩ 21,
    .insert ⟨1001, [1]⟩ 11]

/-- What is sent to network 1001 reaches the two on it. -/
theorem reachedBy_exact_site :
    ∃ routes, Machine.run step new siteEdits = some routes
      ∧ routes.reachedBy ⟨1001, []⟩
        = some (routes.devices.filter (fun device => device.1.network == 1001)) := by
  refine ⟨siteEdits.foldl edited new, rfl, ?_⟩
  have hreachable : Machine.Reachable step new (siteEdits.foldl edited (new : Routes Nat)) :=
    ⟨siteEdits, rfl⟩
  obtain ⟨_, _, hbehind⟩ := (reachedBy_exact hreachable).2 ⟨1001, []⟩
  exact (hbehind (by decide) (by decide +kernel)).1 rfl

end Routes

end BacnetRs.Server
