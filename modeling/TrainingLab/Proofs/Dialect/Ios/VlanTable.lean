import TrainingLab.Proofs.Dialect.Ios.Replay
import TrainingLab.Proofs.Text.Columns

/-
  The VLAN table of IOS. It has a row for each VLAN of the database, and one for VLAN 1 in any case.
  The ports in a row are those that are in its VLAN; the row of VLAN 1 is an exception, in which the
  ports without a VLAN and without an address are listed. A port that has been put into VLAN 1 is
  therefore not listed at all.

  The table is read as it is printed: the VLAN of a row is its first word, and its ports are the
  items behind the third one. This takes words for names, which names from a console are.

  Proved:
  * `filter_rowVlan`: a VLAN of the database has one row.
  * `mem_rowPorts_iff`: in which rows a port is listed.
  * `vlan_table`: both for the printed table, after every run of lines, and that a port is in the
    VLAN it has just been put into.
  * `vlan_table_lacks_port`: a port in VLAN 1.
-/

namespace TrainingLab.Ios

open Grammar Device

/-! ## Rows -/

/-- The VLAN that a row of the table is about. -/
def rowVlan? (row : String) : Option String := (Text.words row).head?

/-- The ports that a row lists, behind the id, the name and the status. -/
def rowPorts (row : String) : List String := Text.withoutCommas ((Text.words row).drop 3)

section Row

variable {id v : UInt16} {name : String} {ports : List String}

theorem isWord_vlan (v : UInt16) : Text.IsWord (toString v) :=
  ⟨Text.unbroken_toString v.toNat, Text.toString_ne_empty v.toNat⟩

theorem words_vlanRow (hname : Text.IsWord name) (id : UInt16) (ports : List String) :
    Text.words (vlanRow id name ports) =
      [toString id, name, "active"] ++ Text.words (Text.joinWith ", " ports) := by
  refine Text.words_columns ?_ _
  intro cell hcell
  simp only [List.mem_cons, List.not_mem_nil, or_false] at hcell
  rcases hcell with rfl | rfl | rfl
  · exact isWord_vlan id
  · exact hname
  · exact ⟨by decide, by decide⟩

theorem rowVlan?_vlanRow (hname : Text.IsWord name) :
    rowVlan? (vlanRow id name ports) = some (toString id) := by
  rw [rowVlan?, words_vlanRow hname]
  rfl

theorem rowPorts_vlanRow (hname : Text.IsWord name) (hports : ∀ port ∈ ports, Text.IsWord port) :
    rowPorts (vlanRow id name ports) = ports := by
  rw [rowPorts, words_vlanRow hname]
  exact Text.items_joinWith hports

theorem toString_vlan_inj : toString id = toString v ↔ id = v := by
  have hids : toString id.toNat = toString v.toNat ↔ id.toNat = v.toNat := Text.toString_nat_inj
  rw [← UInt16.toNat_inj, ← hids]
  rfl

end Row

/-! ## The table -/

/-- The heading of the table. -/
def vlanHeading : List String :=
  ["VLAN Name                             Status    Ports",
    "---- -------------------------------- --------- -------------------------------"]

/-- The VLANs that have a row: those of the database, and VLAN 1. -/
def shownVlans (d : Device) : List (UInt16 × String) :=
  (if d.vlans.contains 1 then [] else [(1, "default")]) ++ d.vlans.entries

/-- The ports in the row of a VLAN. -/
def shownPorts (d : Device) (v : UInt16) : List String :=
  if v == 1 then defaultPorts d else accessPorts d v

/-- The rows of the table. -/
def vlanRows (d : Device) : List String :=
  (shownVlans d).map fun (v, name) => vlanRow v name (shownPorts d v)

theorem vlanTable_eq (d : Device) : vlanTable d = vlanHeading ++ vlanRows d := by
  rw [vlanTable, vlanRows, shownVlans, List.map_append, ← List.append_assoc]
  split <;> rfl

variable {d : Device} {port : String} {i : Interface} {v : UInt16}

theorem nodup_shownVlans (d : Device) : ((shownVlans d).map Prod.fst).Nodup := by
  have hkeys : (d.vlans.entries.map Prod.fst).Nodup := SortedMap.nodup_keys d.vlans
  rw [shownVlans]
  split
  next => exact hkeys
  next hone =>
    refine List.nodup_cons.mpr ⟨fun hmem => hone ?_, hkeys⟩
    exact SortedMap.mem_keys_iff.mp hmem

theorem mem_filterPorts_iff {p : String × Interface → Bool} :
    port ∈ (d.interfaces.entries.filter p).map Prod.fst ↔
      ∃ i, d.interfaces.find? port = some i ∧ p (port, i) = true := by
  simp [SortedMap.mem_entries_iff]

theorem mem_accessPorts_iff (hport : d.interfaces.find? port = some i) :
    port ∈ accessPorts d v ↔ i.vlan = some v ∧ isPort port = true := by
  rw [accessPorts, mem_filterPorts_iff]
  simp [hport]

/-- A port that has been put into a VLAN is none of the default ports. -/
theorem not_mem_defaultPorts (hport : d.interfaces.find? port = some i)
    (hvlan : i.vlan = some v) : port ∉ defaultPorts d := by
  rw [defaultPorts, mem_filterPorts_iff]
  simp [hport, hvlan]

/-- The names in the table are words. -/
structure Tabular (d : Device) : Prop where
  ports : ∀ port i, d.interfaces.find? port = some i → Text.IsWord port
  vlans : ∀ v name, d.vlans.find? v = some name → Text.IsWord name

theorem Listable.tabular {named : Prop} (h : Listable d named) : Tabular d :=
  ⟨fun port i hport => (h.interfaces port i hport).1, h.vlans⟩

namespace Tabular

theorem isWord_of_mem_shownVlans (h : Tabular d) :
    ∀ shown ∈ shownVlans d, Text.IsWord shown.2 := by
  intro shown hmem
  rcases List.mem_append.mp hmem with hfirst | hdatabase
  · split at hfirst
    next => cases hfirst
    next =>
      rw [List.mem_singleton.mp hfirst]
      exact ⟨by decide, by decide⟩
  · exact h.vlans shown.1 shown.2 (SortedMap.mem_entries_iff.mp hdatabase)

theorem isWord_of_mem_shownPorts (h : Tabular d) (v : UInt16) :
    ∀ port ∈ shownPorts d v, Text.IsWord port := by
  intro port hmem
  have hlisted : ∃ i, d.interfaces.find? port = some i := by
    rw [shownPorts] at hmem
    split at hmem
    next => exact (mem_filterPorts_iff.mp hmem).imp fun i hi => hi.1
    next => exact (mem_filterPorts_iff.mp hmem).imp fun i hi => hi.1
  obtain ⟨i, hport⟩ := hlisted
  exact h.ports port i hport

/-- A row is read as it was written. -/
theorem exists_of_mem_vlanRows (h : Tabular d) {row : String} (hrow : row ∈ vlanRows d) :
    ∃ w, rowVlan? row = some (toString w) ∧ rowPorts row = shownPorts d w := by
  obtain ⟨⟨w, name⟩, hshown, rfl⟩ := List.mem_map.mp hrow
  have hname : Text.IsWord name := h.isWord_of_mem_shownVlans _ hshown
  exact ⟨w, rowVlan?_vlanRow hname, rowPorts_vlanRow hname (h.isWord_of_mem_shownPorts w)⟩

/-- A VLAN of the database has one row. -/
theorem filter_rowVlan (h : Tabular d) {name : String} (hv : d.vlans.find? v = some name) :
    (vlanRows d).filter (fun row => rowVlan? row == some (toString v)) =
      [vlanRow v name (shownPorts d v)] := by
  have hshown : (v, name) ∈ shownVlans d :=
    List.mem_append_right _ (SortedMap.mem_entries_iff.mpr hv)
  have hreads : ∀ shown ∈ shownVlans d,
      (rowVlan? (vlanRow shown.1 shown.2 (shownPorts d shown.1)) == some (toString v)) =
        (v == shown.1) := by
    intro shown hmem
    rw [rowVlan?_vlanRow (h.isWord_of_mem_shownVlans shown hmem), Bool.eq_iff_iff, beq_iff_eq,
      beq_iff_eq, Option.some.injEq, toString_vlan_inj, eq_comm]
  have hfilter : (shownVlans d).filter (fun shown =>
      rowVlan? (vlanRow shown.1 shown.2 (shownPorts d shown.1)) == some (toString v)) =
      [(v, name)] := by
    rw [List.filter_congr hreads]
    exact SortedMap.filter_key_eq (nodup_shownVlans d) hshown
  rw [vlanRows, List.filter_map]
  exact congrArg (List.map _) hfilter

/-- A port that is in a VLAN is listed in the row of this VLAN, unless it is VLAN 1, and in no other
    row. -/
theorem mem_rowPorts_iff (h : Tabular d) (hport : d.interfaces.find? port = some i)
    (hkind : isPort port = true) (hvlan : i.vlan = some v) {row : String}
    (hrow : row ∈ vlanRows d) :
    port ∈ rowPorts row ↔ rowVlan? row = some (toString v) ∧ v ≠ 1 := by
  obtain ⟨w, hw, hports⟩ := h.exists_of_mem_vlanRows hrow
  rw [hw, hports, Option.some.injEq, toString_vlan_inj, shownPorts]
  split
  next hone =>
    rw [beq_iff_eq] at hone
    refine ⟨fun hmem => absurd hmem (not_mem_defaultPorts hport hvlan), ?_⟩
    rintro ⟨rfl, hother⟩
    exact absurd hone hother
  next hother =>
    rw [beq_iff_eq] at hother
    rw [mem_accessPorts_iff hport, hvlan, Option.some.injEq]
    constructor
    · rintro ⟨rfl, _⟩
      exact ⟨rfl, hother⟩
    · rintro ⟨rfl, _⟩
      exact ⟨rfl, hkind⟩

end Tabular

/-! ## Asking for the table -/

theorem dispatch_showVlans {options : List String} (hoptions : options ∈ [[], ["brief"]]) :
    dispatch .privileged [] ("show" :: "vlan" :: options) table =
      .done (.command .showVlans) := by
  have hall : ∀ options ∈ [[], ["brief"]],
      dispatch .privileged [] ("show" :: "vlan" :: options) table =
        .done (.command .showVlans) := by decide +kernel
  exact hall options hoptions

theorem feed_not_mem_vlanRows (h : Tabular d) : ∀ row ∈ vlanRows d, '\n' ∉ row.toList := by
  refine List.forall_mem_map.mpr fun shown hmem => Text.feed_not_mem_columns ?_ ?_
  · simp only [List.forall_mem_cons]
    exact ⟨Text.feed_not_mem_toString shown.1.toNat,
      (h.isWord_of_mem_shownVlans shown hmem).1.feed_not_mem, by decide, List.forall_mem_nil _⟩
  · exact Text.feed_not_mem_joinWith (by decide) fun port hport =>
      (h.isWord_of_mem_shownPorts shown.1 port hport).1.feed_not_mem

/-- Asked for the VLANs, a device prints the heading and the rows. -/
theorem history_showVlans (h : Tabular d) (hfamily : d.family = .cisco) {options : List String}
    (hoptions : options ∈ [[], ["brief"]]) {line : String}
    (hline : Asks d ("show" :: "vlan" :: options) line) (devices : Inventory) :
    (d.interpret devices line).history =
      (Dialect.echo line d).history ++ vlanHeading ++ vlanRows d := by
  have hlines : ∀ row ∈ vlanTable d, '\n' ∉ row.toList := by
    rw [vlanTable_eq]
    refine List.forall_mem_append.mpr ⟨?_, feed_not_mem_vlanRows h⟩
    decide
  rw [List.append_assoc, ← vlanTable_eq]
  exact history_of_asks hfamily hline (by decide) (by decide) (dispatch_showVlans hoptions)
    vlanTable (fun _ => rfl) devices (fun _ => rfl) hlines

theorem contains_noticeVlan (v : UInt16) (d : Device) :
    (noticeVlan v d).vlans.contains v = true := by
  unfold noticeVlan
  split
  next hthere => exact hthere
  next => rw [SortedMap.contains_insert, if_pos rfl]

/-- An interface is in the VLAN that it has just been put into, and this VLAN exists. -/
theorem vlan_of_setAccessVlan (h : Coherent d) (hfamily : d.family = .cisco)
    (hmode : d.mode = .configInterface) (hv : ValidVlan v) {line : String}
    (hwords : Text.words line = ["switchport", "access", "vlan", toString v])
    (devices : Inventory) :
    ∃ port i, d.frameName? .interface = some port ∧
      (d.interpret devices line).interfaces.find? port = some i ∧ i.vlan = some v ∧
      (d.interpret devices line).vlans.contains v = true := by
  have hecho : Coherent (Dialect.echo line d) := h.keep (.logged d _)
  obtain ⟨port, hcontext, _, _, hset⟩ := hecho.findsInterface hmode
  have hdispatch : dispatch d.mode d.context ["switchport", "access", "vlan", toString v] table =
      .done (.command (.setAccessVlan (toString v))) := by
    rw [hmode, show d.context = [⟨.interface, port⟩] from hcontext]
    exact dispatch_setAccessVlan v
  have hrun := Dialect.interpret_of_command (speaks hfamily) hwords (by decide) (by decide)
    hdispatch devices
  have hcommands : dialect.run = Command.run := rfl
  rw [hrun, hcommands, Command.run, hset _ v (vlanId?_toString hv)]
  let noticed := noticeVlan v (Dialect.echo line d)
  refine ⟨port, ((noticed.interfaces.find? port).getD {}).setVlan (some v),
    frameName?_of_cons hcontext, ?_, rfl, contains_noticeVlan v _⟩
  rw [Device.editInterface, SortedMap.find?_insert, if_pos rfl]

/-! ## Ports in their rows -/

/-- **Ports in the VLAN table of IOS.** Start with a device of the family on which nothing is
    configured, and enter any lines on it. Asked for its VLANs, it then prints the heading and rows.
    For each port that has been put into a VLAN of the database, one row is about this VLAN; the
    port is listed in this row and in no other, unless the VLAN is VLAN 1: then it is listed in none
    at all. A port that is just put into a VLAN is in it, and the VLAN is in the database. -/
theorem vlan_table {d : Device} (hfresh : Unconfigured d) (lines : List (Inventory × String)) :
    let r := d.enterLines lines
    (∀ devices line, ∀ options ∈ [[], ["brief"]], Asks r ("show" :: "vlan" :: options) line →
      ∃ rows, (r.interpret devices line).history =
          (Dialect.echo line r).history ++ vlanHeading ++ rows ∧
        ∀ port i v, r.interfaces.find? port = some i → isPort port = true → i.vlan = some v →
          r.vlans.contains v = true →
          (∃ row, rows.filter (fun row => rowVlan? row == some (toString v)) = [row]) ∧
          ∀ row ∈ rows, port ∈ rowPorts row ↔ rowVlan? row = some (toString v) ∧ v ≠ 1) ∧
    ∀ devices line v, r.mode = .configInterface → ValidVlan v →
      Text.words line = ["switchport", "access", "vlan", toString v] →
      ∃ port i, r.frameName? .interface = some port ∧
        (r.interpret devices line).interfaces.find? port = some i ∧ i.vlan = some v ∧
        (r.interpret devices line).vlans.contains v = true := by
  intro r
  have hfamily : r.family = .cisco := (d.family_run _).trans hfresh.family
  have hunnamed : Listable d False := hfresh.listable_of False.elim
  have hnames : Tabular r := (listable_lines hunnamed hfresh.family lines).tabular
  have hcoherent : Coherent r := coherent_runAll hfresh.coherent hfresh.family _
  refine ⟨fun devices line options hoptions hline => ?_, fun devices line v hmode hv hwords =>
    vlan_of_setAccessVlan hcoherent hfamily hmode hv hwords devices⟩
  refine ⟨vlanRows r, history_showVlans hnames hfamily hoptions hline devices, ?_⟩
  intro port i v hport hkind hvlan hdatabase
  obtain ⟨name, hname⟩ := Option.isSome_iff_exists.mp hdatabase
  exact ⟨⟨_, hnames.filter_rowVlan hname⟩, fun row hrow =>
    hnames.mem_rowPorts_iff hport hkind hvlan hrow⟩

/-- A switch on which nothing is configured. -/
def bareSwitch : Device := { id := "s1", name := "S1", kind := .switch, vendor := .cisco }

/-- The lines that make a VLAN and put a port of the switch into it. -/
def portLines (v : UInt16) : List (Inventory × String) :=
  ["enable", "configure terminal", "vlan " ++ toString v, "interface Gi0/1",
    " switchport access vlan " ++ toString v, "end"].map fun text => (SortedMap.empty, text)

theorem unconfigured_bareSwitch : Unconfigured bareSwitch := ⟨rfl, rfl, rfl, rfl, rfl, rfl, rfl⟩

theorem enterLines_portLines (hv : ValidVlan v) :
    (bareSwitch.enterLines (portLines v)).mode = .privileged ∧
      (bareSwitch.enterLines (portLines v)).interfaces.find? "Gi0/1" = some { vlan := some v } ∧
      (bareSwitch.enterLines (portLines v)).vlans.contains v = true := by
  let privileged := bareSwitch.enter .privileged
  let config := privileged.enter .config
  have hconfigure : Leads ["enable", "configure terminal"] bareSwitch config :=
    (leads_enable rfl rfl).append (leads_configure (d := privileged) rfl rfl)
  obtain ⟨name, hvlan⟩ := leads_enterVlan (d := config) rfl (by decide) hv
  let opened := inVlan config v name
  have hthere : opened.vlans.contains v = true :=
    (SortedMap.contains_insert _ _ _ _).trans (if_pos rfl)
  let put := inInterface opened "Gi0/1" { vlan := some v }
  have hinterface : Leads ["interface " ++ "Gi0/1"] opened (inInterface opened "Gi0/1" {}) :=
    leads_enterInterface (d := opened) rfl (show .configVlan ∈ configModes by decide) (by decide)
  have haccess : Leads [" switchport access vlan " ++ toString v] (inInterface opened "Gi0/1" {})
      put := leads_setAccessVlan (d := opened) rfl hv hthere
  have hleave : Leads ["end"] put ((put.within []).enter .privileged) :=
    leads_leave (d := put) rfl (show .configInterface ∈ configModes by decide)
  have hleads := (((hconfigure.append hvlan).append hinterface).append haccess).append hleave
  have hsame : (bareSwitch.enterLines (portLines v)).forget =
      ((put.within []).enter .privileged).forget := hleads.enterLines rfl
  have hport : put.interfaces.find? "Gi0/1" = some { vlan := some v } :=
    (SortedMap.find?_insert _ _ _ _).trans (if_pos rfl)
  exact ⟨eq_of_forget Device.mode (fun _ => rfl) hsame,
    (eq_of_forget (fun d => d.interfaces.find? "Gi0/1") (fun _ => rfl) hsame).trans hport,
    (eq_of_forget (fun d => d.vlans.contains v) (fun _ => rfl) hsame).trans hthere⟩

/-- A port in VLAN 10 is in the one row of this VLAN. -/
theorem vlan_table_lists_port :
    ∃ rows, ((bareSwitch.enterLines (portLines 10)).interpret SortedMap.empty
          "show vlan brief").history =
        (Dialect.echo "show vlan brief" (bareSwitch.enterLines (portLines 10))).history ++
          vlanHeading ++ rows ∧
      (∃ row, rows.filter (fun row => rowVlan? row == some "10") = [row]) ∧
      ∀ row ∈ rows, "Gi0/1" ∈ rowPorts row ↔ rowVlan? row = some "10" ∧ (10 : UInt16) ≠ 1 := by
  obtain ⟨hmode, hport, hdatabase⟩ := enterLines_portLines (v := 10) ⟨by decide, by decide⟩
  have hasks : Asks (bareSwitch.enterLines (portLines 10)) ["show", "vlan", "brief"]
      "show vlan brief" := .directly hmode (by decide)
  obtain ⟨rows, hprinted, hrows⟩ := (vlan_table unconfigured_bareSwitch (portLines 10)).1
    SortedMap.empty "show vlan brief" ["brief"] (by decide) hasks
  exact ⟨rows, hprinted, hrows "Gi0/1" _ 10 hport (by decide) rfl hdatabase⟩

/-- A port that has been put into VLAN 1 is not in the table, though this VLAN is in the
    database. -/
theorem vlan_table_lacks_port :
    let r := bareSwitch.enterLines (portLines 1)
    r.interfaces.find? "Gi0/1" = some { vlan := some 1 } ∧ isPort "Gi0/1" = true ∧
      r.vlans.contains 1 = true ∧
      ∃ rows, (r.interpret SortedMap.empty "show vlan").history =
          (Dialect.echo "show vlan" r).history ++ vlanHeading ++ rows ∧
        ∀ row ∈ rows, "Gi0/1" ∉ rowPorts row := by
  intro r
  obtain ⟨hmode, hport, hdatabase⟩ := enterLines_portLines (v := 1) ⟨by decide, by decide⟩
  have hunnamed : Listable bareSwitch False := unconfigured_bareSwitch.listable_of False.elim
  have hnames : Tabular r := (listable_lines hunnamed rfl (portLines 1)).tabular
  have hasks : Asks r ["show", "vlan"] "show vlan" := .directly hmode (by decide)
  have hfamily : r.family = .cisco := (bareSwitch.family_run _).trans rfl
  refine ⟨hport, by decide, hdatabase, vlanRows r,
    history_showVlans hnames hfamily (by decide) hasks SortedMap.empty, fun row hrow hlisted => ?_⟩
  exact ((hnames.mem_rowPorts_iff hport (by decide) rfl hrow).mp hlisted).2 rfl

end TrainingLab.Ios
