import TrainingLab.Dialect.Ios.Command
import TrainingLab.Proofs.Device.Neighbor
import TrainingLab.Proofs.Device.Recall

/-
  Listings without marks. A listing of IOS is made of fixed texts, of numbers and addresses, and of
  texts of the device and its neighbors. Where none of the latter has a mark, no line of the listing
  has one, so none is taken for a prompt.

  Proved:
  * `Device.Unmarked.neighbors`: what a device without marks shows of its neighbors.
  * `unmarked_interfaceBrief`, `unmarked_runningConfig` and so on: one lemma for each listing.
-/

namespace TrainingLab

open Device

/-! ## Texts of a device -/

/-- No text of the interface has a mark. -/
structure Interface.Unmarked (i : Interface) : Prop where
  ip : Text.Unmarked i.ip
  mask : Text.Unmarked i.mask
  zone : ∀ zone, i.zone = some zone → Text.Unmarked zone
  description : ∀ text, i.description = some text → Text.Unmarked text

/-- No text of the device that IOS prints has a mark, and neither has the name of the interface that
    the console is in, which may still be made. -/
structure Device.Unmarked (d : Device) : Prop where
  name : PlainHostname d.name
  interfaces : ∀ name i, d.interfaces.find? name = some i → Text.Unmarked name ∧ i.Unmarked
  vlans : ∀ v name, d.vlans.find? v = some name → Text.Unmarked name
  routes : ∀ r ∈ d.routes, Text.Unmarked r.destination ∧ Text.Unmarked r.nextHop
  frames : ∀ f ∈ d.context, f.kind = .interface → Text.Unmarked f.name

/-- Nothing that a device shows of its neighbors has a mark. -/
def Inventory.Unmarked (devices : Inventory) : Prop :=
  ∀ id peer, devices.find? id = some peer →
    Text.Unmarked peer.id ∧ Text.Unmarked peer.name ∧
      ∀ name i, peer.interfaces.find? name = some i → Text.Unmarked name

/-! ## Listings -/

namespace Interface.Unmarked

variable {i : Interface}

theorem unconfigured : Interface.Unmarked {} := ⟨.fixed rfl, .fixed rfl, nofun, nofun⟩

theorem cidr (h : i.Unmarked) : Text.Unmarked i.cidr := by
  unfold Interface.cidr
  split
  next net _ => exact net.unmarked_toText
  next => exact h.ip

theorem dottedMask (h : i.Unmarked) : Text.Unmarked i.dottedMask := by
  unfold Interface.dottedMask
  split
  next net _ => exact net.mask.unmarked_toText
  next => exact h.mask

end Interface.Unmarked

theorem Interface.unmarked_state (i : Interface) : Text.Unmarked i.state := by
  unfold Interface.state
  split <;> exact .fixed rfl

/-- Nothing that is shown of the neighbor has a mark. -/
structure Neighbor.Unmarked (n : Neighbor) : Prop where
  localInterface : Text.Unmarked n.localInterface
  deviceId : Text.Unmarked n.deviceId
  hostname : Text.Unmarked n.hostname
  remoteInterface : Text.Unmarked n.remoteInterface

namespace Neighbor.Unmarked

variable {n : Neighbor}

theorem mac (h : n.Unmarked) : Text.Unmarked n.mac := by
  have hend : ∀ k, Text.Unmarked (String.ofList (n.deviceId.toList.drop k)) := fun k =>
    Text.unmarked_ofList fun c hc => h.deviceId c (List.mem_of_mem_drop hc)
  have hstart : ∀ k, Text.Unmarked (String.ofList (n.deviceId.toList.take k)) := fun k =>
    Text.unmarked_ofList fun c hc => h.deviceId c (List.mem_of_mem_take hc)
  have hfirst : Text.Unmarked "00" := .fixed rfl
  exact ((((hfirst.append (hend _)).append (.fixed rfl)).append (hstart _)).append
    (.fixed rfl)).append (Network.unmarked_octet _)

theorem arpRow (h : n.Unmarked) : Text.Unmarked n.arpRow := by
  refine Text.unmarked_columns ?_ h.localInterface
  simp only [List.mem_cons, List.not_mem_nil, or_false, forall_eq_or_imp, forall_eq]
  exact ⟨n.ip.unmarked_toText, .fixed rfl, h.mac, .fixed rfl⟩

end Neighbor.Unmarked

theorem DeviceClass.unmarked_name (k : DeviceClass) : Text.Unmarked k.name := by
  cases k <;> exact .fixed rfl

theorem Neighbor.Unmarked.cdpRow {n : Neighbor} (h : n.Unmarked) : Text.Unmarked n.cdpRow := by
  refine Text.unmarked_columns ?_ h.remoteInterface
  simp only [List.mem_cons, List.not_mem_nil, or_false, forall_eq_or_imp, forall_eq]
  exact ⟨h.hostname, h.localInterface, .fixed rfl, .fixed rfl, n.kind.unmarked_name⟩

/-- Neighbors are made of the interfaces of the device and of its peers. -/
theorem Device.Unmarked.neighbors {d : Device} (h : d.Unmarked) {devices : Inventory}
    (hdevices : devices.Unmarked) : ∀ n ∈ d.neighbors devices, n.Unmarked := by
  intro n hn
  obtain ⟨⟨name, address⟩, hreachable, hn⟩ := List.mem_flatMap.mp hn
  obtain ⟨peer, hpeer, hn⟩ := List.mem_flatMap.mp hn
  obtain ⟨⟨id, _⟩, hentry, rfl⟩ := List.mem_map.mp (List.mem_filter.mp hpeer).1
  obtain ⟨hid, hname, hinterfaces⟩ := hdevices id _ (SortedMap.mem_entries_iff.mp hentry)
  obtain ⟨i, hi, _⟩ := mem_reachableInterfaces_iff.mp hreachable
  obtain ⟨⟨j, hj, _⟩, _, hlocal, hdevice, hhost, _⟩ := mem_neighborsOver_iff.mp hn
  exact ⟨hlocal ▸ (h.interfaces name i hi).1, hdevice ▸ hid, hhost ▸ hname, hinterfaces _ j hj⟩

theorem Device.Unmarked.entries {d : Device} (h : d.Unmarked) :
    ∀ e ∈ d.interfaces.entries, Text.Unmarked e.1 ∧ e.2.Unmarked :=
  fun e he => h.interfaces e.1 e.2 (SortedMap.mem_entries_iff.mp he)

theorem Device.Unmarked.connectedNetworks {d : Device} (h : d.Unmarked) :
    ∀ c ∈ d.connectedNetworks, Text.Unmarked c.interface := by
  intro c hc
  obtain ⟨⟨name, i⟩, hentry, hc⟩ := List.mem_filterMap.mp hc
  obtain ⟨_, hc⟩ := Option.ite_none_right_eq_some.mp hc
  obtain ⟨_, _, rfl⟩ := Option.map_eq_some_iff.mp hc
  exact (h.entries _ hentry).1

theorem Device.Unmarked.defaultRoute {d : Device} (h : d.Unmarked) {r : Route}
    (hr : d.defaultRoute? = some r) : Text.Unmarked r.nextHop :=
  (h.routes r (List.mem_of_find?_eq_some hr)).2

namespace Ios

/-- No line has a mark. -/
def Unmarked (lines : List String) : Prop := ∀ line ∈ lines, Text.Unmarked line

namespace Unmarked

variable {lines more : List String} {line : String}

theorem nil : Unmarked [] := List.forall_mem_nil _

theorem cons (hline : Text.Unmarked line) (h : Unmarked lines) : Unmarked (line :: lines) :=
  List.forall_mem_cons.mpr ⟨hline, h⟩

theorem append (h : Unmarked lines) (hmore : Unmarked more) : Unmarked (lines ++ more) :=
  List.forall_mem_append.mpr ⟨h, hmore⟩

theorem singleton (hline : Text.Unmarked line) : Unmarked [line] := cons hline nil

end Unmarked

variable {d : Device}

theorem unmarked_briefColumns {name ip ok method status protocol : String}
    (hname : Text.Unmarked name) (hip : Text.Unmarked ip) (hok : Text.Unmarked ok)
    (hmethod : Text.Unmarked method) (hstatus : Text.Unmarked status)
    (hprotocol : Text.Unmarked protocol) :
    Text.Unmarked (briefColumns name ip ok method status protocol) := by
  refine Text.unmarked_columns ?_ hprotocol
  simp only [List.mem_cons, List.not_mem_nil, or_false, forall_eq_or_imp, forall_eq]
  exact ⟨hname, hip, hok, hmethod, hstatus⟩

theorem unmarked_briefRow {name : String} {i : Interface} (hname : Text.Unmarked name)
    (hi : i.Unmarked) : Text.Unmarked (briefRow name i) := by
  have hup : Text.Unmarked (if i.up then "up" else "administratively down") := by
    split <;> exact .fixed rfl
  unfold briefRow
  by_cases hip : (i.ip == "") = true
  · rw [if_pos hip]
    exact unmarked_briefColumns hname (.fixed rfl) (.fixed rfl) (.fixed rfl) hup i.unmarked_state
  · rw [if_neg hip]
    exact unmarked_briefColumns hname hi.ip (.fixed rfl) (.fixed rfl) hup i.unmarked_state

theorem unmarked_interfaceBrief (h : d.Unmarked) : Unmarked (interfaceBrief d) := by
  refine .cons ?_ (List.forall_mem_map.mpr fun e he => ?_)
  · exact unmarked_briefColumns (.fixed rfl) (.fixed rfl) (.fixed rfl) (.fixed rfl) (.fixed rfl)
      (.fixed rfl)
  · exact unmarked_briefRow (h.entries e he).1 (h.entries e he).2

theorem unmarked_vlanBlock (id : UInt16) {name : String} (hname : Text.Unmarked name) :
    Unmarked (vlanBlock id name) :=
  .cons (.append (.fixed rfl) (Text.unmarked_toString id.toNat))
    (.cons (.append (.fixed rfl) hname) (.singleton (.fixed rfl)))

theorem unmarked_interfaceBlock {name : String} {i : Interface} (hname : Text.Unmarked name)
    (hi : i.Unmarked) : Unmarked (interfaceBlock name i) := by
  have haddress : Text.Unmarked
      (if i.ip == "" then " no ip address" else " ip address " ++ i.ip ++ " " ++ i.dottedMask) := by
    split
    next => exact .fixed rfl
    next =>
      exact ((Text.Unmarked.append (.fixed rfl) hi.ip).append (.fixed rfl)).append hi.dottedMask
  unfold interfaceBlock
  refine ((((((Unmarked.singleton (.append (.fixed rfl) hname)).append ?_).append ?_).append
    ?_).append (.singleton haddress)).append ?_).append (.singleton (.fixed rfl))
  · cases hdescription : i.description with
    | none => exact .nil
    | some text => exact .singleton (.append (.fixed rfl) (hi.description text hdescription))
  · cases i.vlan with
    | none => exact .nil
    | some vlan => exact .singleton (.append (.fixed rfl) (Text.unmarked_toString vlan.toNat))
  · cases hzone : i.zone with
    | none => exact .nil
    | some zone => exact .singleton (.append (.fixed rfl) (hi.zone zone hzone))
  · split
    next => exact .nil
    next => exact .singleton (.fixed rfl)

theorem unmarked_routeLine {r : Route} (hdestination : Text.Unmarked r.destination)
    (hnextHop : Text.Unmarked r.nextHop) : Text.Unmarked (routeLine r) := by
  obtain ⟨hnetwork, hmask⟩ := Network.unmarked_networkAndMask hdestination
  exact (((((Text.Unmarked.append (.fixed rfl) hnetwork).append (.fixed rfl)).append hmask).append
    (.fixed rfl)).append hnextHop)

theorem unmarked_runningConfig (h : d.Unmarked) : Unmarked (runningConfig d) := by
  have hname : Text.Unmarked ("hostname " ++ d.name) := .append (.fixed rfl) h.name.unmarked
  unfold runningConfig
  refine (((Unmarked.append ?_ ?_).append ?_).append ?_).append
    (.cons (.fixed rfl) (.singleton (.fixed rfl)))
  · exact .cons (.fixed rfl) (.cons (.fixed rfl) (.cons (.fixed rfl) (.cons (.fixed rfl)
      (.cons hname (.singleton (.fixed rfl))))))
  · refine List.forall_mem_flatMap.mpr fun e he => ?_
    exact unmarked_vlanBlock e.1 (h.vlans e.1 e.2 (SortedMap.mem_entries_iff.mp he))
  · refine List.forall_mem_flatMap.mpr fun e he => ?_
    exact unmarked_interfaceBlock (h.entries e he).1 (h.entries e he).2
  · refine List.forall_mem_map.mpr fun r hr => ?_
    exact unmarked_routeLine (h.routes r hr).1 (h.routes r hr).2

theorem unmarked_startupConfig (h : d.Unmarked) : Unmarked (startupConfig d) :=
  .cons (.fixed rfl) (.cons (.append (.fixed rfl) h.name.unmarked)
    (.cons (.fixed rfl) (.singleton (.fixed rfl))))

theorem unmarked_interfaceState {name : String} {i : Interface} (hname : Text.Unmarked name)
    (hi : i.Unmarked) : Unmarked (interfaceState name i) := by
  have hup : Text.Unmarked (if i.up then "up" else "administratively down") := by
    split <;> exact .fixed rfl
  unfold interfaceState
  refine (((Unmarked.singleton ?_).append ?_).append ?_).append
    (.cons (.fixed rfl) (.singleton (.fixed rfl)))
  · exact ((((hname.append (.fixed rfl)).append hup).append (.fixed rfl)).append i.unmarked_state)
  · cases hdescription : i.description with
    | none => exact .nil
    | some text => exact .singleton (.append (.fixed rfl) (hi.description text hdescription))
  · split
    next => exact .singleton (.append (.fixed rfl) hi.cidr)
    next => exact .nil

theorem unmarked_interfaceStates (h : d.Unmarked) {name : Option String}
    (hname : ∀ text, name = some text → Text.Unmarked text) :
    Unmarked (interfaceStates d name) := by
  cases name with
  | none =>
    refine List.forall_mem_flatMap.mpr fun e he => ?_
    exact unmarked_interfaceState (h.entries e he).1 (h.entries e he).2
  | some text =>
    dsimp only [interfaceStates]
    split
    next i hi => exact unmarked_interfaceState (hname text rfl) (h.interfaces text i hi).2
    next =>
      exact .singleton ((Text.Unmarked.append (.fixed rfl) (hname text rfl)).append (.fixed rfl))

theorem unmarked_routingTable (h : d.Unmarked) : Unmarked (routingTable d) := by
  unfold routingTable
  refine (Unmarked.append ?_ ?_).append ?_
  · refine .cons (.fixed rfl) (.cons (.fixed rfl) (.cons ?_ (.singleton (.fixed rfl))))
    -- the line of the gateway
    split
    next r hr => exact (Text.Unmarked.append (.fixed rfl) (h.defaultRoute hr)).append (.fixed rfl)
    next => exact .fixed rfl
  · refine List.forall_mem_map.mpr fun r hr => ?_
    have hsource : Text.Unmarked (if r.isDefault then "S*" else "S ") := by
      split <;> exact .fixed rfl
    exact ((((hsource.append (.fixed rfl)).append (h.routes r hr).1).append (.fixed rfl)).append
      (h.routes r hr).2)
  · refine List.forall_mem_flatMap.mpr fun c hc => ?_
    have hname := h.connectedNetworks c hc
    exact Unmarked.cons (((Text.Unmarked.append (.fixed rfl) c.network.unmarked_toText).append
        (.fixed rfl)).append hname)
      (.singleton (((Text.Unmarked.append (.fixed rfl) c.host.unmarked_toText).append
        (.fixed rfl)).append hname))

section Neighbors

variable {devices : Inventory} (h : d.Unmarked) (hdevices : devices.Unmarked)
include h hdevices

theorem unmarked_arpTable : Unmarked (arpTable d devices) := by
  refine .cons (.fixed rfl) (List.forall_mem_map.mpr fun n hn => ?_)
  exact .append (.fixed rfl) (h.neighbors hdevices n hn).arpRow

theorem unmarked_neighborTable : Unmarked (neighborTable d devices) :=
  .cons (.fixed rfl) (List.forall_mem_map.mpr fun n hn => (h.neighbors hdevices n hn).cdpRow)

theorem unmarked_neighborDetails : Unmarked (neighborDetails d devices) := by
  refine List.forall_mem_flatMap.mpr fun n hn => ?_
  have hn := h.neighbors hdevices n hn
  have hports : Text.Unmarked
      ("Interface: " ++ n.localInterface ++ ",  Port ID (outgoing port): " ++ n.remoteInterface) :=
    ((Text.Unmarked.append (.fixed rfl) hn.localInterface).append (.fixed rfl)).append
      hn.remoteInterface
  exact Unmarked.cons (.fixed rfl) (.cons (.append (.fixed rfl) hn.hostname) (.cons (.fixed rfl)
    (.cons (.append (.fixed rfl) n.ip.unmarked_toText)
      (.cons ((Text.Unmarked.append (.fixed rfl) n.kind.unmarked_name).append (.fixed rfl))
        (.cons hports (.singleton (.fixed rfl)))))))

end Neighbors

theorem unmarked_vlanRow (id : UInt16) {name : String} (hname : Text.Unmarked name)
    {ports : List String} (hports : Unmarked ports) : Text.Unmarked (vlanRow id name ports) := by
  refine Text.unmarked_columns ?_ (Text.unmarked_joinWith (.fixed rfl) hports)
  simp only [List.mem_cons, List.not_mem_nil, or_false, forall_eq_or_imp, forall_eq]
  exact ⟨Text.unmarked_toString id.toNat, hname, .fixed rfl⟩

theorem unmarked_vlanTable (h : d.Unmarked) : Unmarked (vlanTable d) := by
  have hports : ∀ p : String × Interface → Bool,
      Unmarked ((d.interfaces.entries.filter p).map Prod.fst) := fun p =>
    List.forall_mem_map.mpr fun e he => (h.entries e (List.mem_filter.mp he).1).1
  unfold vlanTable
  refine (Unmarked.append (.cons (.fixed rfl) (.singleton (.fixed rfl))) ?_).append
    (List.forall_mem_map.mpr fun e he => ?_)
  · split
    next => exact .nil
    next => exact .singleton (unmarked_vlanRow 1 (.fixed rfl) (hports _))
  · have hname := h.vlans e.1 e.2 (SortedMap.mem_entries_iff.mp he)
    refine unmarked_vlanRow e.1 hname ?_
    split
    next => exact hports _
    next => exact hports _

theorem unmarked_pingReply {target : String} (h : Text.Unmarked target) :
    Unmarked (pingReply target) :=
  .cons (.fixed rfl) (.cons ((Text.Unmarked.append (.fixed rfl) h).append (.fixed rfl))
    (.cons (.fixed rfl) (.singleton (.fixed rfl))))

theorem unmarked_hopLine (distance : Nat) {hop : String} (h : Text.Unmarked hop) :
    Text.Unmarked (hopLine distance hop) := by
  have hnumber := Text.unmarked_toString
  exact ((((((((Text.Unmarked.append (.fixed rfl) (hnumber _)).append (.fixed rfl)).append h).append
    (.fixed rfl)).append (hnumber _)).append (.fixed rfl)).append (hnumber _)).append
    (.fixed rfl)).append (hnumber _) |>.append (.fixed rfl)

theorem unmarked_traceReply (h : d.Unmarked) {target : String} (htarget : Text.Unmarked target) :
    Unmarked (traceReply d target) := by
  refine .cons (.append (.fixed rfl) htarget) ?_
  split
  next r hr =>
    exact .cons (unmarked_hopLine 0 (h.defaultRoute hr)) (.singleton (unmarked_hopLine 1 htarget))
  next => exact .singleton (unmarked_hopLine 0 htarget)

theorem unmarked_deleteReply {target : String} (h : Text.Unmarked target) :
    Text.Unmarked (deleteReply target) := by
  unfold deleteReply
  split
  next => exact .fixed rfl
  next => exact (Text.Unmarked.append (.fixed rfl) h).append (.fixed rfl)

end Ios

end TrainingLab
