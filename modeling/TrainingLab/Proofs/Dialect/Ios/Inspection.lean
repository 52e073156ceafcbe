import TrainingLab.Proofs.Device.Reply
import TrainingLab.Proofs.Dialect.Ios.Reading

/-
  Asking for a listing. In the privileged mode the words of an inspection command are a line of
  their own; in the configuration modes they stand behind `do`, and what they do to the console is
  undone afterwards. Either way the line prints the listing of the configuration as it is.

  There are two listings of the neighbors, a table and one block for each of them, and the option
  `detail` chooses. It is a keyword of the pattern, and only placeholders are captured, so the rule
  never learns that it was there.

  Proved:
  * `interpret_of_asks`, `history_of_asks`: a line that asks for a listing prints it, wherever it
    may be asked for.
  * `neighbors_ignore_detail`: the neighbors come as the table, with the option or without it.
  * `neighbors_lack_details`: two routers on one wire, where the blocks are missing.
-/

namespace TrainingLab.Ios

open Grammar Device

variable {d : Device} {tokens : List String} {line : String}

/-! ## Lines that ask for a listing -/

/-- The line asks for what the words ask for in the privileged mode. -/
inductive Asks (d : Device) (tokens : List String) (line : String) : Prop
  | directly (hmode : d.mode = .privileged) (hwords : Text.words line = tokens)
  | behindDo (hmode : d.mode ∈ configModes) (hwords : Text.words line = "do" :: tokens)

/-- The words behind `do` are carried. -/
theorem dispatch_do {mode : Mode} (hmode : mode ∈ configModes) (context : List Frame)
    (htokens : tokens ≠ []) :
    dispatch mode context ("do" :: tokens) table = .done (.carried (Text.joinWith " " tokens)) := by
  have helements : (Pattern.ofText "do <command...>").elements =
      [.keyword "do" false, .rest "command" false] := by decide
  have hm : (Pattern.ofText "do <command...>").matches ("do" :: tokens) =
      .full (SortedMap.empty.insert "command" (Text.joinWith " " tokens)) := by
    rw [Pattern.matches, helements, align_keyword (by decide), align_rest_cons _ _ _ htokens,
      align_nil]
  rw [dispatch_anywhere table_anywhere [], dispatch_fromWord]
  refine of_mem_configModes (P := fun mode => dispatch mode [] ("do" :: tokens)
    (table.dropWhile fun r => !(r.applies mode [] && r.pattern.opensWith (Text.lower "do"))) =
      .done (.carried (Text.joinWith " " tokens))) hmode ?_ ?_ ?_ ?_
  all_goals exact dispatch_cons_of_full (r := Rule.on _ _ _) rfl hm _

/-- A line that asks for a listing prints it, and does nothing else. -/
theorem interpret_of_asks (hfamily : d.family = .cisco) {word : String} {rest : List String}
    (h : Asks d (word :: rest) line) (hmark : word ≠ "?") (hhelp : word ≠ "help") {c : Command}
    (hdispatch : dispatch .privileged [] (word :: rest) table = .done (.command c))
    (listing : Device → List String) (hlisting : ∀ d : Device, listing d.config = listing d)
    (devices : Inventory) (hrun : ∀ d, c.run devices d = d.logAll (listing d)) :
    d.interpret devices line = (Dialect.echo line d).logAll (listing d) := by
  let echoed := Dialect.echo line d
  have hecho : listing echoed = listing d := eq_of_config listing hlisting rfl
  cases h with
  | directly hmode hwords =>
    have hdone : dispatch d.mode d.context (word :: rest) dialect.table = .done (.command c) := by
      rw [hmode]
      exact (dispatch_anywhere table_anywhere []).trans hdispatch
    have hcommand : dialect.run devices c echoed = echoed.logAll (listing echoed) := hrun echoed
    rw [Dialect.interpret_of_command (speaks hfamily) hwords hmark hhelp hdone, hcommand, hecho]
  | behindDo hmode hwords =>
    obtain ⟨help, hinterpret⟩ := speaks hfamily
    have hverdict : dialect.verdict? line d =
        some (.done (.carried (Text.joinWith " " (word :: rest)))) :=
      (dialect.verdict?_of_words d hwords (by decide) (by decide)).trans
        (congrArg some (dispatch_do hmode d.context (List.cons_ne_nil word rest)))
    have htokens : ∀ w ∈ word :: rest, Text.IsWord w := by
      intro w hw
      exact areWords_words line w (hwords ▸ List.mem_cons_of_mem _ hw)
    -- the carried line is run at the top of the privileged mode, where it finds the same listing
    let inner := (echoed.enter .privileged).within []
    have hinner : dialect.run devices c inner = inner.logAll (listing d) := by
      have hsame : listing inner = listing d := eq_of_config listing hlisting rfl
      rw [← hsame]
      exact hrun inner
    have hback : ((inner.logAll (listing d)).enter d.mode).within d.context =
        echoed.logAll (listing d) := by
      rw [logAll_eq, logAll_eq]
      rfl
    rw [hinterpret, Dialect.interpret_of_some hverdict, Dialect.act, Dialect.runCarried,
      Text.words_joinWith htokens, ← hback, ← hinner]
    have hcarried : dispatch dialect.carriedMode [] (word :: rest) dialect.table =
        .done (.command c) := hdispatch
    rw [hcarried]
    rfl

/-- If each text of the listing is one line, these are the lines that come behind the echo. -/
theorem history_of_asks (hfamily : d.family = .cisco) {word : String} {rest : List String}
    (h : Asks d (word :: rest) line) (hmark : word ≠ "?") (hhelp : word ≠ "help") {c : Command}
    (hdispatch : dispatch .privileged [] (word :: rest) table = .done (.command c))
    (listing : Device → List String) (hlisting : ∀ d : Device, listing d.config = listing d)
    (devices : Inventory) (hrun : ∀ d, c.run devices d = d.logAll (listing d))
    (hlines : ∀ text ∈ listing d, '\n' ∉ text.toList) :
    (d.interpret devices line).history = (Dialect.echo line d).history ++ listing d := by
  rw [interpret_of_asks hfamily h hmark hhelp hdispatch listing hlisting devices hrun,
    history_logAll, flatMap_logLines hlines]

/-! ## Neighbors -/

/-- The words that ask for the neighbors found by a protocol. -/
def neighborWords (protocol : String) (options : List String) : List String :=
  "show" :: protocol :: "neighbors" :: options

/-- The option makes no difference to the rule. -/
theorem dispatch_neighbors {protocol : String} (hprotocol : protocol ∈ ["cdp", "lldp"])
    {options : List String} (hoptions : options ∈ [[], ["detail"]]) :
    dispatch .privileged [] (neighborWords protocol options) table =
      .done (.command (.showNeighbors false)) := by
  have hall : ∀ protocol ∈ ["cdp", "lldp"], ∀ options ∈ [[], ["detail"]],
      dispatch .privileged [] (neighborWords protocol options) table =
        .done (.command (.showNeighbors false)) := by decide +kernel
  exact hall protocol hprotocol options hoptions

/-- A line that asks for the neighbors prints the table. -/
theorem interpret_neighbors (hfamily : d.family = .cisco) {protocol : String}
    (hprotocol : protocol ∈ ["cdp", "lldp"]) {options : List String}
    (hoptions : options ∈ [[], ["detail"]])
    (hline : Asks d (neighborWords protocol options) line) (devices : Inventory) :
    d.interpret devices line = (Dialect.echo line d).logAll (neighborTable d devices) :=
  interpret_of_asks hfamily hline (by decide) (by decide)
    (dispatch_neighbors hprotocol hoptions) (fun d => neighborTable d devices) (fun _ => rfl)
    devices fun _ => rfl

/-- Asked for the neighbors, in detail or not, a device prints the heading of the table and one row
    for each neighbor, in the order in which they are discovered. -/
theorem neighbors_ignore_detail (hfamily : d.family = .cisco) {protocol : String}
    (hprotocol : protocol ∈ ["cdp", "lldp"]) {options : List String}
    (hoptions : options ∈ [[], ["detail"]])
    (hline : Asks d (neighborWords protocol options) line) (devices : Inventory) :
    d.interpret devices line =
      (Dialect.echo line d).logAll
        ("Device ID        Local Intrfce     Holdtme    Capability  Platform  Port ID" ::
          (d.neighbors devices).map Neighbor.cdpRow) :=
  interpret_neighbors hfamily hprotocol hoptions hline devices

/-- A router with one interface, at work in the privileged mode. -/
def routerOnWire (id name ip : String) : Device :=
  { id, name, kind := .router, vendor := .cisco, mode := .privileged,
    interfaces := SortedMap.empty.insert "Gi0/0" { ip, mask := "255.255.255.0" } }

/-- Two routers on one wire. -/
def wiredRouters : Inventory :=
  SortedMap.ofList
    [("r1", routerOnWire "r1" "R1" "10.0.0.1"), ("r2", routerOnWire "r2" "R2" "10.0.0.2")]

theorem neighbors_ignore_detail_wired :
    (routerOnWire "r1" "R1" "10.0.0.1").interpret wiredRouters "show cdp neighbors detail" =
      (Dialect.echo "show cdp neighbors detail" (routerOnWire "r1" "R1" "10.0.0.1")).logAll
        ("Device ID        Local Intrfce     Holdtme    Capability  Platform  Port ID" ::
          ((routerOnWire "r1" "R1" "10.0.0.1").neighbors wiredRouters).map Neighbor.cdpRow) :=
  have hline : Asks (routerOnWire "r1" "R1" "10.0.0.1") (neighborWords "cdp" ["detail"])
      "show cdp neighbors detail" := .directly rfl (by decide)
  neighbors_ignore_detail rfl (by decide) (by decide) hline wiredRouters

/-- Asked for details, the first of two routers does not print the block of the other one. -/
theorem neighbors_lack_details :
    (routerOnWire "r1" "R1" "10.0.0.1").interpret wiredRouters "show cdp neighbors detail" ≠
      (Dialect.echo "show cdp neighbors detail" (routerOnWire "r1" "R1" "10.0.0.1")).logAll
        (neighborDetails (routerOnWire "r1" "R1" "10.0.0.1") wiredRouters) := by
  have hline : Asks (routerOnWire "r1" "R1" "10.0.0.1") (neighborWords "cdp" ["detail"])
      "show cdp neighbors detail" := .directly rfl (by decide)
  rw [interpret_neighbors rfl (by decide) (by decide) hline wiredRouters]
  decide +kernel

end TrainingLab.Ios
