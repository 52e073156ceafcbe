import TrainingLab.Proofs.Device.Route
import TrainingLab.Proofs.Dialect.Ios.Standard
import TrainingLab.Proofs.Dialect.Patterns
import TrainingLab.Proofs.Grammar.Arguments
import TrainingLab.Proofs.Grammar.Captures

/-
  What the running configuration of IOS relies on. It puts nothing between quotes, so names have to
  be words and descriptions have to be words with single spaces between them. Addresses and masks
  are listed in one notation, so they have to be in this notation already. All of it is due to where
  the texts come from.

  Proved:
  * `fromLine_of_done`: the texts of a command that the table takes come from the words of the line.
  * `allows_of_fromLine`: no such command makes a device whose configuration cannot be listed.
  * `listable_lines`: neither does a run of lines of any length.
-/

namespace TrainingLab.Ios

open Grammar Device

/-! ## Commands from a line -/

/-- The texts of the command are as the words of a line and the placeholders for them leave them. -/
def Command.FromLine : Command → Prop
  | setHostname name => Text.IsWord name
  | enterInterface name => Text.IsWord name
  | addRoute _ _ nextHop => ∃ a : Network.Address, nextHop = a.toText
  | setAddress ip mask => ∃ net : Network.Cidr, ip = net.address.toText ∧ mask = net.mask.toText
  | setDescription text => ∀ t, text = some t → Text.IsNormal t
  | setZone zone => ∀ z, zone = some z → Text.IsWord z
  | nameVlan name => Text.IsWord name
  | _ => True

/-- Every rule stands for a carried line, or for a command with texts from the line. -/
theorem table_fromLine : ∀ r ∈ table, r.pattern.Regular → ∀ tokens caps, AreWords tokens →
    r.pattern.matches tokens = .full caps →
    (∃ line, r.meaning caps = .carried line) ∨
      ∃ c, r.meaning caps = .command c ∧ c.FromLine := by
  simp only [table, List.forall_mem_cons]
  repeat' apply And.intro
  all_goals try exact List.forall_mem_nil _
  all_goals intro hp tokens caps hwords h
  all_goals first
    | exact Or.inl ⟨_, rfl⟩
    | refine Or.inr ⟨_, rfl, ?_⟩
  all_goals try exact trivial
  -- what is left are the rules that FromLine speaks of, in the order of the table
  · exact isWord_of_captured hp hwords h "name" .word (by decide)
  · have hname := isWord_of_captured hp hwords h "name" .word (by decide)
    refine ⟨hname.1.append ?_, fun hempty => hname.2 (String.append_eq_empty_iff.mp hempty).1⟩
    rcases Pattern.text_mem hp h (by decide) "suffix" with hnone | hsuffix
    · rw [hnone]
      decide
    · exact (hwords _ hsuffix).1
  · exact exists_address
      (unbroken_of_captured hp hwords h "next-hop" .address (by decide)).2
  · have hip := unbroken_of_captured hp hwords h "ip" .address (by decide)
    have hmask := unbroken_of_captured hp hwords h "mask" .mask (by decide)
    exact exists_cidr hip.2 hmask.1 hmask.2
  · rintro _ ⟨⟩
    exact isNormal_of_captured hp hwords h "text" (by decide)
  · rintro _ ⟨⟩
  · rintro _ ⟨⟩
    exact isWord_of_captured hp hwords h "zone" .word (by decide)
  · rintro _ ⟨⟩
  · exact isWord_of_captured hp hwords h "name" .word (by decide)

/-- What the table makes of words, if it is a command, has its texts from these. -/
theorem fromLine_of_done {mode : Mode} {context : List Frame} {tokens : List String}
    {c : Command} (hwords : AreWords tokens)
    (h : dispatch mode context tokens table = .done (.command c)) : c.FromLine :=
  Dialect.command_of_done
    (fun r hr caps hfull => table_fromLine r hr (table_regular r hr) tokens caps hwords hfull) h

/-! ## Configurations that can be listed -/

/-- Nothing in the listing of the interface is lost when it is read. -/
structure ListableInterface (i : Interface) : Prop where
  address : (i.ip = "" ∧ i.mask = "") ∨
    ∃ net : Network.Cidr, i.ip = net.address.toText ∧ i.mask = net.mask.toText
  zone : ∀ zone, i.zone = some zone → Text.IsWord zone
  description : ∀ text, i.description = some text → Text.IsNormal text ∧ text ≠ ""

/-- Nothing in the listing of the route is lost when it is read. -/
def ListableRoute (r : Route) : Prop :=
  ∃ (net : Network.Cidr) (nextHop : Network.Address), net.network = net ∧
    r = { destination := net.toText, nextHop := nextHop.toText }

/-- Nothing in the running configuration is lost when it is read, and the interface being edited
    can be listed too. The hostname counts only where `named` holds: a device may have been created
    with one that is no word. -/
structure Listable (d : Device) (named : Prop := True) : Prop where
  name : named → Text.IsWord d.name
  interfaces : ∀ name i, d.interfaces.find? name = some i →
    Text.IsWord name ∧ ListableInterface i
  vlans : ∀ v name, d.vlans.find? v = some name → Text.IsWord name
  routes : ∀ r ∈ d.routes, ListableRoute r
  distinct : d.routes.Nodup
  frames : ∀ f ∈ d.context, f.kind = .interface → Text.IsWord f.name

theorem nonempty?_eq_some_iff {s : Option String} {text : String} :
    nonempty? s = some text ↔ s = some text ∧ text ≠ "" := by
  rw [nonempty?, Option.filter_eq_some_iff, bne_iff_ne]

theorem isWord_defaultVlanName (v : UInt16) : Text.IsWord (defaultVlanName v) := by
  have hzeros : ∀ n, Text.Unbroken (String.ofList (List.replicate n '0')) := by
    intro n c hc
    rw [String.toList_ofList] at hc
    rw [(List.mem_replicate.mp hc).2]
    decide
  have hstart : Text.Unbroken "VLAN" := by decide
  refine ⟨hstart.append ((hzeros _).append (Text.unbroken_toString v.toNat)), fun hempty => ?_⟩
  exact absurd (String.append_eq_empty_iff.mp hempty).1 (by decide)

namespace ListableInterface

variable {i : Interface}

theorem unconfigured : ListableInterface {} := ⟨Or.inl ⟨rfl, rfl⟩, nofun, nofun⟩

theorem setAddress (h : ListableInterface i) (net : Network.Cidr) :
    ListableInterface (i.setAddress net.address.toText net.mask.toText) :=
  ⟨Or.inr ⟨net, rfl, rfl⟩, h.zone, h.description⟩

theorem clearAddress (h : ListableInterface i) : ListableInterface i.clearAddress :=
  ⟨Or.inl ⟨rfl, rfl⟩, h.zone, h.description⟩

theorem setUp (h : ListableInterface i) (up : Bool) : ListableInterface (i.setUp up) :=
  ⟨h.address, h.zone, h.description⟩

theorem setVlan (h : ListableInterface i) (vlan : Option UInt16) :
    ListableInterface (i.setVlan vlan) :=
  ⟨h.address, h.zone, h.description⟩

theorem setZone (h : ListableInterface i) {zone : Option String}
    (hzone : ∀ z, zone = some z → Text.IsWord z) : ListableInterface (i.setZone zone) :=
  ⟨h.address, fun z hz => hzone z (nonempty?_eq_some_iff.mp hz).1, h.description⟩

theorem setDescription (h : ListableInterface i) {text : Option String}
    (htext : ∀ t, text = some t → Text.IsNormal t) :
    ListableInterface (i.setDescription text) := by
  refine ⟨h.address, h.zone, fun t ht => ?_⟩
  obtain ⟨hsome, hne⟩ := nonempty?_eq_some_iff.mp ht
  exact ⟨htext t hsome, hne⟩

end ListableInterface

/-! ## Lines -/

/-- What can be listed, as a standard. The hostname counts only where `named` holds. -/
def listingStandard (named : Prop) : Standard where
  name n := named → Text.IsWord n
  interface := Text.IsWord
  settings := ListableInterface
  vlan := Text.IsWord
  routes rs := (∀ r ∈ rs, ListableRoute r) ∧ rs.Nodup
  unconfigured := .unconfigured
  clearAddress h := h.clearAddress
  setUp h := h.setUp
  setVlan h := h.setVlan
  defaultVlan := isWord_defaultVlanName
  filter h _ := ⟨fun r hr => h.1 r (List.mem_filter.mp hr).1, h.2.filter _⟩

variable {d : Device} {named : Prop}

theorem listable_iff_meets : Listable d named ↔ (listingStandard named).Meets d :=
  ⟨fun h => ⟨h.name, h.interfaces, h.vlans, ⟨h.routes, h.distinct⟩, h.frames⟩,
    fun h => ⟨h.name, h.interfaces, h.vlans, h.routes.1, h.routes.2, h.frames⟩⟩

/-- Commands with texts from a line put nothing into a configuration that cannot be listed. -/
theorem allows_of_fromLine {c : Command} (hc : c.FromLine) : (listingStandard named).Allows c := by
  cases c with
  | setHostname name => exact fun _ => hc
  | enterInterface name => exact hc
  | addRoute ip mask nextHop =>
    obtain ⟨a, rfl⟩ := hc
    intro net hnet rs hrs
    refine ⟨fun r hr => ?_, Route.nodup_addTo hrs.2 _⟩
    rcases Route.mem_of_mem_addTo hr with hold | rfl
    · exact hrs.1 r hold
    · exact ⟨net, a, Network.network_of_readNetwork? hnet, rfl⟩
  | setAddress ip mask =>
    obtain ⟨net, rfl, rfl⟩ := hc
    exact fun hi => hi.setAddress net
  | setDescription text => exact fun hi => hi.setDescription hc
  | setZone zone => exact fun hi => hi.setZone hc
  | nameVlan name => exact hc
  | _ => exact trivial

/-- Whatever is entered, the configuration can be listed. -/
theorem listable_lines (h : Listable d named) (hfamily : d.family = .cisco)
    (lines : List (Inventory × String)) :
    Listable (d.run (lines.map fun l => (l.1, .line l.2))) named := by
  rw [listable_iff_meets] at h ⊢
  refine Dialect.kept_lines (P := (listingStandard named).Meets) ?_ hfamily h lines
  intro d hfamily h devices line
  exact h.interpret hfamily
    (fun hdone => allows_of_fromLine (fromLine_of_done (areWords_words line) hdone)) devices

end TrainingLab.Ios
