import TrainingLab.Device.Neighbor
import TrainingLab.Proofs.Lab.RoundTrip

/-
  The neighbors of a device. A neighbor is listed for a link: the local interface, the id of the
  peer and its interface. Which links there are is a relation between the configurations of two
  devices (`OnOneWire`) that does not care which of them asks, so two devices see each other over
  the same links. The order comes from the three maps that are gone through, each of them by
  ascending names or ids.

  Proved:
  * `mem_neighbors_iff`: a neighbor is listed exactly if there is such a link and the listing says
    of the peer what it says of itself (`Sees`).
  * `ascending_links`: the links are in lexicographic order.
  * `mem_links_iff`: which links are listed.
  * `neighbors_exact_symmetric`: all of this, and the listing of the peer.
-/

namespace TrainingLab

open Network

/-! ## Links -/

/-- A local interface, the id of a peer and an interface of the peer. -/
abbrev Link := String × DeviceId × String

namespace Link

/-- Ordered by the local interface, then by the id of the peer, then by its interface. -/
def Before : Link → Link → Prop := Prod.Lex (· < ·) (Prod.Lex (· < ·) (· < ·))

theorem Before.ne {a b : Link} (h : a.Before b) : a ≠ b := by
  rintro rfl
  rcases Prod.lex_def.mp h with h | ⟨_, h⟩
  · exact String.lt_irrefl _ h
  · rcases Prod.lex_def.mp h with h | ⟨_, h⟩ <;> exact String.lt_irrefl _ h

end Link

/-- The link over which a neighbor is seen. -/
def Neighbor.link (n : Neighbor) : Link := (n.localInterface, n.deviceId, n.remoteInterface)

/-- The addresses share their first three octets. -/
def Network.Address.SameNetwork (a b : Address) : Prop :=
  a.first = b.first ∧ a.second = b.second ∧ a.third = b.third

theorem Network.Address.SameNetwork.symm {a b : Address} (h : a.SameNetwork b) :
    b.SameNetwork a :=
  ⟨h.1.symm, h.2.1.symm, h.2.2.symm⟩

namespace Device

/-- The device has the interface, it is up, and its address is the given one. -/
def HasAddress (d : Device) (name : String) (a : Address) : Prop :=
  ∃ i, d.interfaces.find? name = some i ∧ i.up = true ∧ i.address? = some a

/-- Both interfaces are up, with addresses that share their first three octets. -/
def OnOneWire (d : Device) (name : String) (e : Device) (remote : String) : Prop :=
  ∃ a b, d.HasAddress name a ∧ e.HasAddress remote b ∧ a.SameNetwork b

/-- Neither of the two ends of a wire is the first. -/
theorem OnOneWire.symm {d e : Device} {name remote : String} (h : d.OnOneWire name e remote) :
    e.OnOneWire remote d name := by
  obtain ⟨a, b, ha, hb, hnetwork⟩ := h
  exact ⟨b, a, hb, ha, hnetwork.symm⟩

/-! ## Interfaces -/

theorem mem_reachableInterfaces_iff {d : Device} {name : String} {a : Address} :
    (name, a) ∈ d.reachableInterfaces ↔ d.HasAddress name a := by
  rw [reachableInterfaces, List.mem_filterMap]
  constructor
  · rintro ⟨⟨key, i⟩, hentry, hkept⟩
    obtain ⟨hup, hkept⟩ := Option.ite_none_right_eq_some.mp hkept
    obtain ⟨b, hb, heq⟩ := Option.map_eq_some_iff.mp hkept
    cases heq
    exact ⟨i, SortedMap.mem_entries_iff.mp hentry, hup, hb⟩
  · rintro ⟨i, hi, hup, ha⟩
    exact ⟨(name, i), SortedMap.mem_entries_iff.mpr hi, by simp [hup, ha]⟩

/-- The interfaces are gone through in the order of their names. -/
theorem ascending_reachableInterfaces (d : Device) :
    d.reachableInterfaces.Pairwise fun x y => x.1 < y.1 := by
  have hname : ∀ {e : String × Interface} {x : String × Address},
      (if e.2.up then e.2.address?.map fun a => (e.1, a) else none) = some x → x.1 = e.1 := by
    intro e x hx
    obtain ⟨_, hx⟩ := Option.ite_none_right_eq_some.mp hx
    obtain ⟨a, _, rfl⟩ := Option.map_eq_some_iff.mp hx
    rfl
  refine List.pairwise_filterMap.mpr (d.interfaces.sorted.imp ?_)
  intro e e' hbefore x hx x' hx'
  rw [hname hx, hname hx']
  exact compareOfLessAndEq_eq_lt.mp hbefore

/-! ## One peer -/

theorem sharesSubnet_iff {a b : Address} : a.sharesSubnet b = true ↔ a.SameNetwork b := by
  simp only [Address.sharesSubnet, Bool.and_eq_true, beq_iff_eq, and_assoc, Address.SameNetwork]

theorem mem_neighborsOver_iff {name : String} {a : Address} {peer : Device} {n : Neighbor} :
    n ∈ neighborsOver name a peer ↔
      peer.HasAddress n.remoteInterface n.ip ∧ n.ip.SameNetwork a ∧ n.localInterface = name ∧
        n.deviceId = peer.id ∧ n.hostname = peer.name ∧ n.kind = peer.kind := by
  rw [neighborsOver, List.mem_filterMap]
  constructor
  · rintro ⟨⟨remote, ip⟩, hremote, hkept⟩
    obtain ⟨hshares, hkept⟩ := Option.ite_none_right_eq_some.mp hkept
    cases hkept
    exact ⟨mem_reachableInterfaces_iff.mp hremote, sharesSubnet_iff.mp hshares, rfl, rfl, rfl, rfl⟩
  · rintro ⟨hremote, hshares, rfl, hid, hname, hkind⟩
    refine ⟨(n.remoteInterface, n.ip), mem_reachableInterfaces_iff.mpr hremote, ?_⟩
    simp only [sharesSubnet_iff.mpr hshares, if_true, ← hid, ← hname, ← hkind]

/-- Over one local interface, the interfaces of a peer come in the order of their names. -/
theorem ascending_neighborsOver (name : String) (a : Address) (peer : Device) :
    (neighborsOver name a peer).Pairwise fun n m => n.remoteInterface < m.remoteInterface := by
  refine List.pairwise_filterMap.mpr (peer.ascending_reachableInterfaces.imp ?_)
  intro x y hbefore n hn m hm
  obtain ⟨_, hn⟩ := Option.ite_none_right_eq_some.mp hn
  obtain ⟨_, hm⟩ := Option.ite_none_right_eq_some.mp hm
  cases hn
  cases hm
  exact hbefore

end Device

/-! ## The peers -/

namespace Inventory

variable {devices : Inventory}

/-- Entries that put every device at its own id make an inventory in which it stands there. -/
theorem keyed_ofList {entries : List (DeviceId × Device)} (h : (entries.map Prod.fst).Nodup)
    (hids : ∀ e ∈ entries, e.2.id = e.1) : Inventory.Keyed (SortedMap.ofList entries) :=
  fun id d hd => hids (id, d) ((SortedMap.find?_ofList_iff h).mp hd)

theorem Keyed.mem_values_iff (h : devices.Keyed) {d : Device} :
    d ∈ devices.values ↔ devices.find? d.id = some d := by
  rw [SortedMap.values, List.mem_map]
  constructor
  · rintro ⟨⟨id, e⟩, hentry, rfl⟩
    have hfound := SortedMap.mem_entries_iff.mp hentry
    rw [h id e hfound, hfound]
  · exact fun hfound => ⟨(d.id, d), SortedMap.mem_entries_iff.mpr hfound, rfl⟩

/-- Devices that stand under their own ids are gone through in the order of these. -/
theorem Keyed.ascending_values (h : devices.Keyed) :
    devices.values.Pairwise fun d e => d.id < e.id := by
  have hkeys : (devices.values.map Device.id).Pairwise fun a b => compare a b = .lt := by
    rw [Lab.ids_values h]
    exact List.pairwise_map.mpr devices.sorted
  exact (List.pairwise_map.mp hkeys).imp compareOfLessAndEq_eq_lt.mp

end Inventory

namespace Device

variable {devices : Inventory} {d : Device}

/-- Another device has an interface on one wire with one of this device, and what is said of that
    neighbor is what the other device says of itself. -/
def Sees (d : Device) (devices : Inventory) (n : Neighbor) : Prop :=
  ∃ peer a, devices.find? n.deviceId = some peer ∧ n.deviceId ≠ d.id ∧
    d.HasAddress n.localInterface a ∧ peer.HasAddress n.remoteInterface n.ip ∧
    a.SameNetwork n.ip ∧ n.hostname = peer.name ∧ n.kind = peer.kind

theorem mem_neighbors_iff (hk : devices.Keyed) {n : Neighbor} :
    n ∈ d.neighbors devices ↔ d.Sees devices n := by
  simp only [neighbors, List.mem_flatMap, List.mem_filter, bne_iff_ne]
  constructor
  · rintro ⟨⟨name, a⟩, hlocal, peer, ⟨hpeer, hother⟩, hn⟩
    obtain ⟨hremote, hshares, rfl, hid, hname, hkind⟩ := mem_neighborsOver_iff.mp hn
    rw [Sees, hid]
    exact ⟨peer, a, hk.mem_values_iff.mp hpeer, hother, mem_reachableInterfaces_iff.mp hlocal,
      hremote, hshares.symm, hname, hkind⟩
  · rintro ⟨peer, a, hpeer, hother, hlocal, hremote, hshares, hname, hkind⟩
    have hid : n.deviceId = peer.id := (hk _ peer hpeer).symm
    rw [hid] at hpeer hother
    exact ⟨(n.localInterface, a), mem_reachableInterfaces_iff.mpr hlocal, peer,
      ⟨hk.mem_values_iff.mpr hpeer, hother⟩,
      mem_neighborsOver_iff.mpr ⟨hremote, hshares.symm, rfl, hid, hname, hkind⟩⟩

/-- The listing goes by the local interface, then by the peer, then by the peer's interface. -/
theorem ascending_links (hk : devices.Keyed) (d : Device) :
    ((d.neighbors devices).map Neighbor.link).Pairwise Link.Before := by
  refine List.pairwise_map.mpr (List.pairwise_flatMap.mpr ⟨fun (name, a) _ => ?_, ?_⟩)
  · -- over one local interface
    refine List.pairwise_flatMap.mpr ⟨fun peer _ => ?_, ?_⟩
    · refine (ascending_neighborsOver name a peer).imp_of_mem fun hn hm hremote => ?_
      obtain ⟨_, _, hlocal, hid, _⟩ := mem_neighborsOver_iff.mp hn
      obtain ⟨_, _, hlocal', hid', _⟩ := mem_neighborsOver_iff.mp hm
      exact Prod.lex_def.mpr (Or.inr ⟨hlocal.trans hlocal'.symm,
        Prod.lex_def.mpr (Or.inr ⟨hid.trans hid'.symm, hremote⟩)⟩)
    · refine (hk.ascending_values.filter _).imp fun hpeers n hn m hm => ?_
      obtain ⟨_, _, hlocal, hid, _⟩ := mem_neighborsOver_iff.mp hn
      obtain ⟨_, _, hlocal', hid', _⟩ := mem_neighborsOver_iff.mp hm
      refine Prod.lex_def.mpr (Or.inr ⟨hlocal.trans hlocal'.symm, Prod.lex_def.mpr (Or.inl ?_)⟩)
      show n.deviceId < m.deviceId
      rwa [hid, hid']
  · -- over two of them
    refine d.ascending_reachableInterfaces.imp fun hnames n hn m hm => Prod.lex_def.mpr (Or.inl ?_)
    obtain ⟨_, _, hn⟩ := List.mem_flatMap.mp hn
    obtain ⟨_, _, hm⟩ := List.mem_flatMap.mp hm
    show n.localInterface < m.localInterface
    rwa [(mem_neighborsOver_iff.mp hn).2.2.1, (mem_neighborsOver_iff.mp hm).2.2.1]

/-- The links of a device are the wires between its interfaces and those of the others. -/
theorem mem_links_iff (hk : devices.Keyed) {link : Link} :
    link ∈ (d.neighbors devices).map Neighbor.link ↔
      ∃ peer, devices.find? link.2.1 = some peer ∧ link.2.1 ≠ d.id ∧
        d.OnOneWire link.1 peer link.2.2 := by
  rw [List.mem_map]
  constructor
  · rintro ⟨n, hn, rfl⟩
    obtain ⟨peer, a, hpeer, hother, hlocal, hremote, hshares, _⟩ := (mem_neighbors_iff hk).mp hn
    exact ⟨peer, hpeer, hother, a, n.ip, hlocal, hremote, hshares⟩
  · obtain ⟨name, id, remote⟩ := link
    rintro ⟨peer, hpeer, hother, a, b, hlocal, hremote, hshares⟩
    exact ⟨⟨name, id, peer.name, peer.kind, remote, b⟩,
      (mem_neighbors_iff hk).mpr ⟨peer, a, hpeer, hother, hlocal, hremote, hshares, rfl, rfl⟩, rfl⟩

/-- **Neighbor discovery is exact and symmetric.** Among devices that stand under their own ids, a
    device lists a neighbor exactly if some other device has an interface on one wire with one of
    its own: both are up, and their addresses share the first three octets. Hostname, class and
    address are the peer's. No link is listed twice, and the links come by the local interface,
    then by the id of the peer, then by its interface. A device lists a link to a peer exactly if
    the peer lists that link, from its own end. -/
theorem neighbors_exact_symmetric (hk : devices.Keyed) {id : DeviceId}
    (hd : devices.find? id = some d) :
    (∀ n, n ∈ d.neighbors devices ↔ d.Sees devices n) ∧
    ((d.neighbors devices).map Neighbor.link).Nodup ∧
    ((d.neighbors devices).map Neighbor.link).Pairwise Link.Before ∧
    ∀ (name : String) (p : DeviceId) (remote : String),
      (name, p, remote) ∈ (d.neighbors devices).map Neighbor.link ↔
        ∃ peer, devices.find? p = some peer ∧
          (remote, id, name) ∈ (peer.neighbors devices).map Neighbor.link := by
  obtain rfl : d.id = id := hk id d hd
  have hascending := ascending_links hk d
  refine ⟨fun n => mem_neighbors_iff hk, hascending.imp Link.Before.ne, hascending,
    fun name p remote => ?_⟩
  constructor
  · intro h
    obtain ⟨peer, hpeer, hother, hwire⟩ := (mem_links_iff hk).mp h
    have hid : peer.id = p := hk p peer hpeer
    exact ⟨peer, hpeer, (mem_links_iff hk).mpr ⟨d, hd, hid ▸ hother.symm, hwire.symm⟩⟩
  · rintro ⟨peer, hpeer, h⟩
    obtain ⟨e, he, hother, hwire⟩ := (mem_links_iff hk).mp h
    obtain rfl : d = e := Option.some.inj (hd.symm.trans he)
    have hid : peer.id = p := hk p peer hpeer
    exact (mem_links_iff hk).mpr ⟨peer, hpeer, hid ▸ hother.symm, hwire.symm⟩

/-- Three devices on two wires: `r1` sees `r3` over both of its interfaces and `r2` over one, since
    the other interface of `r2` is down; and `r3` sees `r1` over the same two links. -/
theorem neighbors_exact_symmetric_two_wires :
    let up (ip : String) : Interface := { ip, mask := "24" }
    let router (id : DeviceId) (interfaces : List (String × Interface)) : Device :=
      { id, name := id, kind := .router, vendor := .cisco
        interfaces := SortedMap.ofList interfaces }
    let r1 := router "r1" [("e0", up "10.0.0.1"), ("e1", up "10.0.1.1")]
    let r2 := router "r2" [("e0", up "10.0.0.2"), ("e1", (up "10.0.1.2").setUp false)]
    let r3 := router "r3" [("e0", up "10.0.1.3"), ("e1", up "10.0.0.3")]
    let devices : Inventory := SortedMap.ofList [("r1", r1), ("r2", r2), ("r3", r3)]
    devices.Keyed ∧ devices.find? "r1" = some r1 ∧
      (r1.neighbors devices).map Neighbor.link =
        [("e0", "r2", "e0"), ("e0", "r3", "e1"), ("e1", "r3", "e0")] ∧
      ∃ peer, devices.find? "r3" = some peer ∧
        ("e1", "r1", "e0") ∈ (peer.neighbors devices).map Neighbor.link ∧
        ("e0", "r1", "e1") ∈ (peer.neighbors devices).map Neighbor.link := by
  intro up router r1 r2 r3 devices
  have hids : (([("r1", r1), ("r2", r2), ("r3", r3)] : List (DeviceId × Device)).map
      Prod.fst).Nodup := by decide
  have hkeyed : devices.Keyed := Inventory.keyed_ofList hids (by simp [r1, r2, r3, router])
  have hr1 : devices.find? "r1" = some r1 := (SortedMap.find?_ofList_iff hids).mpr (by simp)
  have hlinks : (r1.neighbors devices).map Neighbor.link =
      [("e0", "r2", "e0"), ("e0", "r3", "e1"), ("e1", "r3", "e0")] := by decide
  have hsees := (neighbors_exact_symmetric hkeyed hr1).2.2.2
  obtain ⟨peer, hpeer, hfirst⟩ := (hsees "e0" "r3" "e1").mp (by rw [hlinks]; decide)
  obtain ⟨peer', hpeer', hsecond⟩ := (hsees "e1" "r3" "e0").mp (by rw [hlinks]; decide)
  obtain rfl : peer = peer' := Option.some.inj (hpeer.symm.trans hpeer')
  exact ⟨hkeyed, hr1, hlinks, peer, hpeer, hfirst, hsecond⟩

end Device

end TrainingLab
