import TrainingLab.Proofs.Device.Addressing

/-
  Lists of static routes. A destination is kept as a text, so whether two routes go to the same
  network is a question about texts; where the destinations are canonical it is one about networks.
  What a step can do to a list of routes is said once (`RouteStep`): add a route that is not there,
  or remove some.

  Proved:
  * `addTo_addTo`, `nodup_addTo`, `filter_addTo`: adding a route twice, adding one to a list without
    duplicates, and removing one that was just added.
  * `isTo_iff`: the comparison of texts decides about networks.
  * `Cidr.network_eq_of_sharesNetwork`: addresses in one network have one network.
  * `RouteStep.nodup`: no step makes a duplicate.
-/

namespace TrainingLab

/-! ## Networks of addresses -/

namespace Network

/-- The two addresses lie in one network, under the same mask. -/
def Cidr.SharesNetwork (a b : Cidr) : Prop := a.length = b.length ∧ a.covers b.address = true

theorem Cidr.network_eq_of_sharesNetwork {a b : Cidr} (h : a.SharesNetwork b) :
    a.network = b.network := by
  obtain ⟨hlength, hcovers⟩ := h
  rw [covers, beq_iff_eq, hlength] at hcovers
  simp only [network, hlength, hcovers]

/-- The network of an address is read from the address and the dotted mask. -/
theorem readNetwork?_address (c : Cidr) :
    readNetwork? c.address.toText c.mask.toText = some c.network := by
  have hread : readCidr? c.address.toText c.mask.toText = some c :=
    readCidr?_of_parts c.address.ofText?_toText (readMask?_maskOf c.length_le).1
  rw [readNetwork?, hread, Option.map_some]

/-- A prefix with its mask in any notation is put into the form of its network. -/
theorem canonicalPrefix_address {c : Cidr} {mask : String} (h : readMask? mask = some c.length) :
    canonicalPrefix (c.address.toText ++ "/" ++ mask) = c.network.toText := by
  have hread : readCidr? c.address.toText mask = some c :=
    readCidr?_of_parts c.address.ofText?_toText h
  rw [canonicalPrefix, readPrefix?, splitFirst?_address]
  simp only [readNetwork?, hread, Option.map_some]

/-- The form of a network stays as it is. -/
theorem canonicalPrefix_toText {net : Cidr} (h : net.network = net) :
    canonicalPrefix net.toText = net.toText := by
  rw [canonicalPrefix, readPrefix?_toText h]

end Network

/-! ## Routes -/

namespace Route

variable {routes : List Route} {r : Route}

theorem addTo_of_mem (h : r ∈ routes) : addTo routes r = routes := by
  rw [addTo, if_pos (List.contains_iff_mem.mpr h)]

theorem addTo_of_not_mem (h : r ∉ routes) : addTo routes r = routes ++ [r] := by
  rw [addTo, if_neg fun hmem => h (List.contains_iff_mem.mp hmem)]

theorem mem_of_mem_addTo {s : Route} (h : s ∈ addTo routes r) : s ∈ routes ∨ s = r := by
  by_cases hr : r ∈ routes
  · exact Or.inl (addTo_of_mem hr ▸ h)
  · rw [addTo_of_not_mem hr] at h
    exact (List.mem_append.mp h).imp_right List.mem_singleton.mp

theorem mem_addTo (routes : List Route) (r : Route) : r ∈ addTo routes r := by
  by_cases h : r ∈ routes
  · rwa [addTo_of_mem h]
  · rw [addTo_of_not_mem h]
    exact List.mem_append_right _ (List.mem_singleton_self r)

/-- Adding a route twice is adding it once. -/
theorem addTo_addTo (routes : List Route) (r : Route) :
    addTo (addTo routes r) r = addTo routes r :=
  addTo_of_mem (mem_addTo routes r)

theorem nodup_addTo (h : routes.Nodup) (r : Route) : (addTo routes r).Nodup := by
  by_cases hr : r ∈ routes
  · rwa [addTo_of_mem hr]
  · rw [addTo_of_not_mem hr]
    refine List.nodup_append.mpr ⟨h, List.pairwise_singleton _ r, ?_⟩
    rintro s hs _ hlast rfl
    exact hr (List.mem_singleton.mp hlast ▸ hs)

/-- A route that is removed again might as well not have been added. -/
theorem filter_addTo {keep : Route → Bool} (h : keep r = false) (routes : List Route) :
    (addTo routes r).filter keep = routes.filter keep := by
  by_cases hr : r ∈ routes
  · rw [addTo_of_mem hr]
  · have hnone : [r].filter keep = [] := by rw [List.filter_cons, h, if_neg (by decide)]; rfl
    rw [addTo_of_not_mem hr, List.filter_append, hnone, List.append_nil]

/-- The route goes to the network. -/
def IsTo (r : Route) (net : Network.Cidr) : Prop :=
  Network.readPrefix? r.destination = some net

instance (r : Route) (net : Network.Cidr) : Decidable (r.IsTo net) :=
  inferInstanceAs (Decidable (_ = _))

/-- A route with a canonical destination goes to a network if it has the text of this network. -/
theorem isTo_iff (h : Network.IsCanonical r.destination) {net : Network.Cidr}
    (hnet : net.network = net) : r.IsTo net ↔ r.destination = net.toText := by
  constructor
  · intro hto
    obtain ⟨other, hread, htext⟩ := h
    rw [← htext, Option.some.inj (hread.symm.trans hto)]
  · intro htext
    rw [IsTo, htext]
    exact Network.readPrefix?_toText hnet

end Route

/-- What a step makes of a list of routes. -/
inductive RouteStep (routes : List Route) : List Route → Prop
  | same : RouteStep routes routes
  | added (r : Route) : RouteStep routes (Route.addTo routes r)
  | removed (keep : Route → Bool) : RouteStep routes (routes.filter keep)

theorem RouteStep.nodup {routes routes' : List Route} (h : RouteStep routes routes')
    (hnodup : routes.Nodup) : routes'.Nodup := by
  cases h with
  | same => exact hnodup
  | added r => exact Route.nodup_addTo hnodup r
  | removed keep => exact hnodup.filter keep

end TrainingLab
