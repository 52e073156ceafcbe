import TrainingLab.Proofs.Device.Live
import TrainingLab.Proofs.Grammar.Arguments

/-
  Addresses that can be used. Addresses, masks and destinations are kept as texts, and what they
  mean is read off when it is needed; here is what makes sure that there is something to read. An
  interface has no address, or one that makes a network with its mask. The destination of a route
  is the text of a network, in the one form that this network has, and its next hop is an address.

  Proved:
  * `Route.Usable.isDefault_iff`: as destinations have one form, the test for the default route,
    which compares texts, is a test for the length of the prefix.
  * `Usable.editInterface`, `Usable.stage`, `Usable.commit`: what keeps interfaces and routes
    usable, live and staged.
-/

namespace TrainingLab

namespace Network

/-- The text of a network, as the network is written. -/
def IsCanonical (s : String) : Prop := ∃ net, readPrefix? s = some net ∧ net.toText = s

theorem isCanonical_toText {net : Cidr} (h : net.network = net) : IsCanonical net.toText :=
  ⟨net, readPrefix?_toText h, rfl⟩

/-- What can be read is put into its form. -/
theorem isCanonical_canonicalPrefix {s : String} (h : (readPrefix? s).isSome = true) :
    IsCanonical (canonicalPrefix s) := by
  obtain ⟨net, hnet⟩ := Option.isSome_iff_exists.mp h
  have htext : canonicalPrefix s = net.toText := by rw [canonicalPrefix, hnet]
  rw [htext]
  exact isCanonical_toText (network_of_readPrefix? hnet)

/-- A network of length zero takes in every address, and has one form. -/
theorem toText_of_length_zero {net : Cidr} (h : net.network = net) (hzero : net.length = 0) :
    net.toText = "0.0.0.0/0" := by
  have hbound : net.address.toNat < networkSize 0 := net.address.toNat_lt
  have haddress : net.address = Address.ofNat 0 := by
    rw [← h]
    simp only [Cidr.network, hzero, Nat.div_eq_of_lt hbound, Nat.zero_mul]
  rw [Cidr.toText, haddress, hzero]
  decide

/-- What is taken for an address with a prefix is one. -/
theorem isSome_readPrefix?_of_accepts {s : String}
    (h : Grammar.ArgumentKind.cidr.accepts s = true) : (readPrefix? s).isSome = true := by
  rw [Grammar.ArgumentKind.accepts] at h
  rw [readPrefix?]
  cases hsplit : Text.splitFirst? (· == '/') s with
  | none =>
    rw [hsplit] at h
    cases h
  | some parts =>
    obtain ⟨ip, length⟩ := parts
    rw [hsplit, Bool.and_eq_true] at h
    have hread := isSome_readCidr? h.1 h.2
    simpa only [readNetwork?, Option.isSome_map] using hread

end Network

/-! ## Interfaces -/

namespace Interface

/-- There is no address, or one that makes a network with the mask. -/
def Usable (i : Interface) : Prop := (i.ip = "" ∧ i.mask = "") ∨ i.net?.isSome = true

variable {i : Interface}

theorem usable_unconfigured : Usable {} := .inl ⟨rfl, rfl⟩

theorem usable_clearAddress (i : Interface) : i.clearAddress.Usable := .inl ⟨rfl, rfl⟩

theorem usable_setAddress {ip mask : String}
    (hip : (Network.Address.ofText? ip).isSome = true)
    (hmask : (Network.readMask? mask).isSome = true) (i : Interface) :
    (i.setAddress ip mask).Usable :=
  .inr (Network.isSome_readCidr? hip hmask)

theorem usable_setCidr {cidr : String} (h : Grammar.ArgumentKind.cidr.accepts cidr = true)
    (i : Interface) : (i.setCidr cidr).Usable := by
  rw [Grammar.ArgumentKind.accepts] at h
  rw [setCidr]
  cases hsplit : Text.splitFirst? (· == '/') cidr with
  | none =>
    rw [hsplit] at h
    cases h
  | some parts =>
    obtain ⟨ip, length⟩ := parts
    rw [hsplit, Bool.and_eq_true] at h
    exact usable_setAddress h.1 h.2 i

/-- The change leaves usable what was usable. -/
def KeepsUsable (f : Interface → Interface) : Prop := ∀ i, i.Usable → (f i).Usable

theorem keepsUsable_id : KeepsUsable id := fun _ h => h

theorem keepsUsable_setUp (up : Bool) : KeepsUsable fun i => i.setUp up := fun _ h => h

theorem keepsUsable_setVlan (vlan : Option UInt16) : KeepsUsable fun i => i.setVlan vlan :=
  fun _ h => h

theorem keepsUsable_setZone (zone : Option String) : KeepsUsable fun i => i.setZone zone :=
  fun _ h => h

theorem keepsUsable_setDescription (text : Option String) :
    KeepsUsable fun i => i.setDescription text :=
  fun _ h => h

end Interface

/-! ## Routes -/

/-- The destination is a network in its form, and the next hop is an address. -/
structure Route.Usable (r : Route) : Prop where
  destination : Network.IsCanonical r.destination
  nextHop : (Network.Address.ofText? r.nextHop).isSome = true

/-- A route matches every destination exactly when its prefix has the length zero. -/
theorem Route.Usable.isDefault_iff {r : Route} (h : r.Usable) :
    r.isDefault = true ↔ ∃ net, Network.readPrefix? r.destination = some net ∧ net.length = 0 := by
  rw [Route.isDefault, beq_iff_eq]
  constructor
  · intro hdefault
    rw [hdefault]
    exact ⟨⟨⟨0, 0, 0, 0⟩, 0, by decide⟩, by decide, rfl⟩
  · rintro ⟨net, hnet, hzero⟩
    obtain ⟨other, hother, htext⟩ := h.destination
    obtain rfl : net = other := Option.some.inj (hnet.symm.trans hother)
    rw [← htext]
    exact Network.toText_of_length_zero (Network.network_of_readPrefix? hnet) hzero

/-- All routes can be used. -/
def UsableRoutes (routes : List Route) : Prop := ∀ r ∈ routes, r.Usable

theorem UsableRoutes.addTo {routes : List Route} (h : UsableRoutes routes) {r : Route}
    (hr : r.Usable) : UsableRoutes (Route.addTo routes r) := by
  unfold Route.addTo
  split
  next => exact h
  next => exact List.forall_mem_append.mpr ⟨h, List.forall_mem_singleton.mpr hr⟩

theorem UsableRoutes.filter {routes : List Route} (h : UsableRoutes routes) (keep : Route → Bool) :
    UsableRoutes (routes.filter keep) :=
  fun r hr => h r (List.mem_filter.mp hr).1

/-! ## Devices -/

/-- All interfaces of a map can be used. -/
def UsableInterfaces (m : SortedMap String Interface) : Prop :=
  ∀ name i, m.find? name = some i → i.Usable

theorem UsableInterfaces.insert {m : SortedMap String Interface} (h : UsableInterfaces m)
    (name : String) {i : Interface} (hi : i.Usable) : UsableInterfaces (m.insert name i) := by
  intro other j hj
  rw [SortedMap.find?_insert] at hj
  split at hj
  next => exact Option.some.inj hj ▸ hi
  next => exact h other j hj

theorem UsableInterfaces.erase {m : SortedMap String Interface} (h : UsableInterfaces m)
    (name : String) : UsableInterfaces (m.erase name) := by
  intro other j hj
  rw [SortedMap.find?_erase] at hj
  split at hj
  next => cases hj
  next => exact h other j hj

theorem UsableInterfaces.getD {m : SortedMap String Interface} (h : UsableInterfaces m)
    (name : String) : ((m.find? name).getD {}).Usable := by
  cases hfind : m.find? name with
  | none => exact Interface.usable_unconfigured
  | some i => exact h name i hfind

/-- All interfaces and routes of the device can be used, live and staged. -/
structure Usable (d : Device) : Prop where
  interfaces : UsableInterfaces d.interfaces
  routes : UsableRoutes d.routes
  stagedInterfaces : ∀ c, d.candidate = some c → UsableInterfaces c.interfaces
  stagedRoutes : ∀ c routes, d.candidate = some c → c.routes = some routes → UsableRoutes routes

/-- All interfaces and routes of the working copy can be used. -/
structure WorkingCopy.Usable (w : WorkingCopy) : Prop where
  interfaces : UsableInterfaces w.interfaces
  routes : UsableRoutes w.routes

/-- The change leaves usable what was usable. -/
def Change.KeepsUsable : Change → Prop
  | interface _ f => Interface.KeepsUsable f
  | removal _ => True
  | routes f => ∀ routes, UsableRoutes routes → UsableRoutes (f routes)
  | hostname _ => True

theorem WorkingCopy.Usable.apply {w : WorkingCopy} (h : w.Usable) {c : Change}
    (hc : c.KeepsUsable) : (w.apply c).Usable := by
  cases c with
  | interface name f =>
    exact ⟨h.interfaces.insert name (hc _ (h.interfaces.getD name)), h.routes⟩
  | removal name => exact ⟨h.interfaces.erase name, h.routes⟩
  | routes f => exact ⟨h.interfaces, hc _ h.routes⟩
  | hostname name => exact ⟨h.interfaces, h.routes⟩

/-- What lies over a usable working copy leaves it usable if it can be used itself. -/
theorem WorkingCopy.Usable.overlay {w : WorkingCopy} (h : w.Usable) {c : Candidate}
    (hinterfaces : UsableInterfaces c.interfaces)
    (hroutes : ∀ routes, c.routes = some routes → UsableRoutes routes) : (c.overlay w).Usable := by
  refine ⟨fun name i hi => ?_, ?_⟩
  · have hi : (c.overlayInterfaces w.interfaces).find? name = some i := hi
    rw [Candidate.find?_overlayInterfaces, Option.or_eq_some_iff] at hi
    rcases hi with hrecord | ⟨_, hbelow⟩
    · exact hinterfaces name i hrecord
    · split at hbelow
      next => cases hbelow
      next => exact h.interfaces name i hbelow
  · rw [Candidate.overlay]
    cases hc : c.routes with
    | none => exact h.routes
    | some routes => exact hroutes routes hc

namespace Usable

open Device

variable {d d' : Device}

theorem of_same (h : Usable d) (hinterfaces : d'.interfaces = d.interfaces)
    (hroutes : d'.routes = d.routes) (hcandidate : d'.candidate = d.candidate) : Usable d' :=
  ⟨hinterfaces ▸ h.interfaces, hroutes ▸ h.routes, hcandidate ▸ h.stagedInterfaces,
    hcandidate ▸ h.stagedRoutes⟩

theorem of_config (h : Usable d) (hconfig : d'.config = d.config) : Usable d' :=
  h.of_same (eq_of_config Device.interfaces (fun _ => rfl) hconfig)
    (eq_of_config Device.routes (fun _ => rfl) hconfig)
    (eq_of_config Device.candidate (fun _ => rfl) hconfig)

theorem of_forget (h : Usable d) (hsame : d'.forget = d.forget) : Usable d' :=
  h.of_config (config_eq_of_forget hsame)

theorem log (h : Usable d) (text : String) : Usable (d.log text) := h.of_forget rfl

/-! ### Live changes -/

theorem editInterface (h : Usable d) (name : String) {f : Interface → Interface}
    (hf : Interface.KeepsUsable f) : Usable (d.editInterface name f) where
  interfaces := h.interfaces.insert name (hf _ (h.interfaces.getD name))
  routes := h.routes
  stagedInterfaces := h.stagedInterfaces
  stagedRoutes := h.stagedRoutes

theorem eraseInterface (h : Usable d) (name : String) :
    Usable { d with interfaces := d.interfaces.erase name } where
  interfaces := h.interfaces.erase name
  routes := h.routes
  stagedInterfaces := h.stagedInterfaces
  stagedRoutes := h.stagedRoutes

theorem withRoutes (h : Usable d) {routes : List Route} (hroutes : UsableRoutes routes) :
    Usable { d with routes } where
  interfaces := h.interfaces
  routes := hroutes
  stagedInterfaces := h.stagedInterfaces
  stagedRoutes := h.stagedRoutes

/-! ### Staged changes -/

/-- Live and staged configuration are usable exactly when what is live is and what a commit would
    make live. -/
theorem iff_views : Usable d ↔ d.liveView.Usable ∧ d.stagedView.Usable := by
  rw [stagedView_eq_overlay]
  constructor
  · intro h
    refine ⟨⟨h.interfaces, h.routes⟩, ?_⟩
    unfold staging
    cases hc : d.candidate with
    | none => exact .overlay ⟨h.interfaces, h.routes⟩ (fun _ _ hi => nomatch hi) nofun
    | some c =>
      exact .overlay ⟨h.interfaces, h.routes⟩ (h.stagedInterfaces c hc)
        fun routes => h.stagedRoutes c routes hc
  · rintro ⟨hlive, hstaged⟩
    refine ⟨hlive.interfaces, hlive.routes, fun c hc name i hi => ?_, fun c routes hc hroutes => ?_⟩
    · refine hstaged.interfaces name i ?_
      have hfind : (d.staging.overlayInterfaces d.interfaces).find? name = some i := by
        rw [Candidate.find?_overlayInterfaces, staging, hc, Option.getD_some, hi, Option.some_or]
      exact hfind
    · have hsame : (d.staging.overlay d.liveView).routes = routes := by
        rw [Candidate.overlay, staging, hc, Option.getD_some, hroutes, Option.getD_some]
      exact hsame ▸ hstaged.routes

theorem stage (h : Usable d) {c : Change} (hc : c.KeepsUsable) : Usable (d.stage c) := by
  obtain ⟨hlive, hstaged⟩ := iff_views.mp h
  refine iff_views.mpr ⟨?_, ?_⟩
  · rw [liveView_stage]
    exact hlive
  · rw [stagedView_stage]
    exact hstaged.apply hc

theorem discard (h : Usable d) : Usable d.discard where
  interfaces := h.interfaces
  routes := h.routes
  stagedInterfaces := nofun
  stagedRoutes := nofun

theorem commit (h : Usable d) : Usable d.commit.1 := by
  have hstaged := (iff_views.mp h).2
  have hnone : d.commit.1.candidate = none := candidate_commit d
  have hlive : d.commit.1.liveView.Usable := by
    rw [liveView_commit]
    exact hstaged
  refine ⟨hlive.interfaces, hlive.routes, fun c hc => ?_, fun c _ hc => ?_⟩
  · rw [hnone] at hc
    cases hc
  · rw [hnone] at hc
    cases hc

end Usable

end TrainingLab
