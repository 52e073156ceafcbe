import TrainingLab.Session.Basic

/-
  Meta commands: lines behind a colon, which are for the session and not for the device.
-/

namespace TrainingLab

/-- A command for the session. -/
inductive MetaCommand
  | help
  | devices
  | useDevice (id : DeviceId)
  | topology
  | neighbors (table : NeighborTable)
  | complete (line : String)
  | simulate (protocol : Protocol) (destination : Option DeviceId)
  | gui (edit : GuiEdit)
  | objectives
  | docs
  | restart
  | ask (question : String)
  | quiz (topic : String)
  | quit
deriving DecidableEq, Repr

namespace MetaCommand

/-- The help text. -/
def helpText : List String := [
  ":help                        show this help",
  ":devices                     list all devices",
  ":use <device>                open the console of a device",
  ":topology                    show the packet path of the lab",
  ":neighbors [arp|cdp]         neighbor table of the active device",
  ":complete <partial>          complete a command line",
  ":simulate <proto> [device]   simulate a packet from the active device",
  ":gui <edit>                  ip|mask <if> <val>, up|down|toggle <if>, zone <if> [z],",
  "                             desc <if> [text], commit",
  ":objectives                  show the lab objectives",
  ":docs                        show the lab documentation",
  ":restart                     reload the lab",
  ":ask <question>              ask the tutor",
  ":quiz <topic>                generate a quiz",
  ":quit                        leave the console"]

/-- Reads the words of an edit. -/
def readEdit (words : List String) : Except SessionError GuiEdit :=
  match words with
  | ["ip", name, value] => .ok (.interface name (.ip value))
  | ["mask", name, value] => .ok (.interface name (.mask value))
  | ["up", name] => .ok (.interface name (.up true))
  | ["down", name] => .ok (.interface name (.up false))
  | ["toggle", name] => .ok (.interface name .toggle)
  | ["zone", name] => .ok (.interface name (.zone none))
  | ["zone", name, zone] => .ok (.interface name (.zone (some zone)))
  | "desc" :: name :: text => .ok (.interface name (.description (describe text)))
  | "description" :: name :: text => .ok (.interface name (.description (describe text)))
  | ["commit"] => .ok .commit
  | _ => .error (.invalidArguments "gui" (Text.joinWith " " words))
where
  /-- A description from its words, if there are any. -/
  describe (words : List String) : Option String :=
    if words.isEmpty then none else some (Text.joinWith " " words)

/-- Reads a simulation. -/
def readSimulation (protocol : String) (destination : Option DeviceId) :
    Except SessionError MetaCommand :=
  match Protocol.ofName? protocol with
  | some p => .ok (.simulate p destination)
  | none => .error (.lab (.unspecifiedProtocol protocol))

/-- Commands that have arguments. -/
def withArguments : List String := ["use", "neighbors", "simulate", "ask", "quiz"]

/-- Reads a line. The colon may be missing. -/
def read (line : String) : Except SessionError MetaCommand :=
  let body := Text.trimStart line
  let body := match body.toList with
    | ':' :: cs => String.ofList cs
    | _ => body
  match Text.words body with
  | ["help"] => .ok .help
  | ["?"] => .ok .help
  | ["devices"] => .ok .devices
  | ["use", id] => .ok (.useDevice id)
  | ["topology"] => .ok .topology
  | ["neighbors"] => .ok (.neighbors .arp)
  | ["neighbors", "arp"] => .ok (.neighbors .arp)
  | ["neighbors", "cdp"] => .ok (.neighbors .cdp)
  | ["neighbors", "lldp"] => .ok (.neighbors .cdp)
  | "complete" :: _ =>
    -- what follows the command is kept with its blanks
    let start := Text.trimStart body
    .ok (.complete (Text.trimStart (String.ofList (start.toList.drop "complete".length))))
  | ["simulate", protocol] => readSimulation protocol none
  | ["simulate", protocol, destination] => readSimulation protocol (some destination)
  | "gui" :: words => (readEdit words).map .gui
  | ["objectives"] => .ok .objectives
  | ["docs"] => .ok .docs
  | ["restart"] => .ok .restart
  | "ask" :: word :: words => .ok (.ask (Text.joinWith " " (word :: words)))
  | "quiz" :: word :: words => .ok (.quiz (Text.joinWith " " (word :: words)))
  | ["quit"] => .ok .quit
  | ["q"] => .ok .quit
  | ["exit"] => .ok .quit
  | name :: words =>
    if withArguments.contains name then
      .error (.invalidArguments name (Text.joinWith " " words))
    else .error (.unknownMeta name)
  | [] => .error (.unknownMeta "")

end MetaCommand

end TrainingLab
