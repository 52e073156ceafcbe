import TrainingLab.Dialect.Ios.Listing

/-
  The commands of IOS and their effects. A setting below the configuration mode changes the object
  that the console is in.
-/

namespace TrainingLab.Ios

/-- A line that no rule takes, in the exec modes. -/
def unknownCommand : String := "% Unknown command."

/-- A line or a value that is not valid. -/
def invalidInput : String := "% Invalid input detected at '^' marker."

/-- A line that expects more, or a setting without its object. -/
def incompleteCommand : String := "% Incomplete command."

/-- A command of the IOS console. -/
inductive Command
  /-- Prints fixed lines. -/
  | print (lines : List String)
  /-- Accepted without an effect. -/
  | accept
  | exit
  | leave
  | enable
  | disable
  | configure
  | ping (target : Option String)
  | traceroute (target : Option String)
  | showHistory
  | delete (target : String)
  | showInterfaceBrief
  | showRunningConfig
  | showStartupConfig
  | showInterfaces (name : Option String)
  | showRoutes
  | showArp
  | showNeighbors (detailed : Bool)
  | showVlans
  | setHostname (name : String)
  | enterInterface (name : String)
  | enterRouter (process : String)
  | enterVlan (id : String)
  | addRoute (ip mask nextHop : String)
  | removeRoute (ip mask : String) (nextHop : Option String)
  | removeVlan (id : String)
  | setAddress (ip mask : String)
  | clearAddress
  | setUp (up : Bool)
  | setDescription (text : Option String)
  | setAccessVlan (id : String)
  | clearAccessVlan
  | setZone (zone : Option String)
  | nameVlan (name : String)
deriving DecidableEq, Repr

/-- A VLAN id between 1 and 4094. -/
def vlanId? (id : String) : Option UInt16 :=
  (Text.readUInt16? id).filter fun v => decide (1 ≤ v) && decide (v < 4095)

/-- The name a VLAN has until it is given another: its id with at least four digits. -/
def defaultVlanName (id : UInt16) : String := "VLAN" ++ Text.padZero 4 (toString id)

/-- Changes the interface that the console is in. -/
def editInterface (f : Interface → Interface) (d : Device) : Device :=
  match d.frameName? .interface with
  | some name => d.editInterface name f
  | none => d.log incompleteCommand

/-- One level up: from the objects to the configuration mode, and on to the exec modes. -/
def exitMode (d : Device) : Device :=
  match d.mode with
  | .configInterface | .configRouter | .configVlan => (d.within []).enter .config
  | .config => d.enter .privileged
  | .privileged => d.enter .user
  | _ => d

/-- Opens an object in place of any other. -/
def openObject (mode : Mode) (kind : FrameKind) (name : String) (d : Device) : Device :=
  (d.within [⟨kind, name⟩]).enter mode

/-- Adds a route, unless it is there. -/
def addRoute (ip mask nextHop : String) (d : Device) : Device :=
  match Network.readNetwork? ip mask with
  | some net =>
    { d with routes := Route.addTo d.routes { destination := net.toText, nextHop := nextHop } }
  | none => d.log invalidInput

/-- Removes the routes to a network, or only those with the next hop. -/
def removeRoute (ip mask : String) (nextHop : Option String) (d : Device) : Device :=
  match Network.readNetwork? ip mask with
  | some net =>
    { d with
      routes := d.routes.filter fun r =>
        !(r.destination == net.toText && nextHop.all (· == r.nextHop)) }
  | none => d.log invalidInput

/-- Opens a VLAN, creating it if it does not exist. -/
def enterVlan (id : String) (d : Device) : Device :=
  match vlanId? id with
  | some v =>
    let vlans :=
      if d.vlans.contains v then d.vlans else d.vlans.insert v (defaultVlanName v)
    openObject .configVlan .vlan (toString v) { d with vlans }
  | none => d.log invalidInput

/-- Creates a VLAN with a notice, if it does not exist. -/
def noticeVlan (v : UInt16) (d : Device) : Device :=
  if d.vlans.contains v then d
  else
    let noticed := d.log ("% Access VLAN does not exist. Creating vlan " ++ toString v)
    { noticed with vlans := d.vlans.insert v (defaultVlanName v) }

/-- Puts the interface into a VLAN, creating it if it does not exist. -/
def setAccessVlan (id : String) (d : Device) : Device :=
  match vlanId? id with
  | none => d.log invalidInput
  | some v =>
    if (d.frameName? .interface).isNone then d.log incompleteCommand
    else editInterface (fun i => i.setVlan (some v)) (noticeVlan v d)

/-- Names the VLAN that the console is in. -/
def nameVlan (name : String) (d : Device) : Device :=
  match (d.frameName? .vlan).bind Text.readUInt16? with
  | some v => { d with vlans := d.vlans.insert v name }
  | none => d.log incompleteCommand

/-- The answer to the deletion of a file. -/
def deleteReply (target : String) : String :=
  if Text.contains "nvram" target || Text.contains "startup" target then "Erase of nvram: complete"
  else "%Error deleting flash:" ++ target ++ " (No such file or directory)"

/-- The effect of a command. -/
def Command.run (devices : Inventory) (c : Command) (d : Device) : Device :=
  match c with
  | print lines => d.logAll lines
  | accept => d
  | exit => exitMode d
  | leave => if d.mode = .user then d else (d.within []).enter .privileged
  | enable => d.enter .privileged
  | disable => d.enter .user
  | configure =>
    (d.log "Enter configuration commands, one per line.  End with CNTL/Z.").enter .config
  | ping target => d.logAll (pingReply (target.getD "target"))
  | traceroute target => d.logAll (traceReply d (target.getD "target"))
  | showHistory => d.logAll d.enteredCommands
  | delete target => d.log (deleteReply target)
  | showInterfaceBrief => d.logAll (interfaceBrief d)
  | showRunningConfig => d.logAll (runningConfig d)
  | showStartupConfig => d.logAll (startupConfig d)
  | showInterfaces name => d.logAll (interfaceStates d name)
  | showRoutes => d.logAll (routingTable d)
  | showArp => d.logAll (arpTable d devices)
  | showNeighbors detailed =>
    d.logAll (if detailed then neighborDetails d devices else neighborTable d devices)
  | showVlans => d.logAll (vlanTable d)
  | setHostname name => { d with name }
  | enterInterface name =>
    openObject .configInterface .interface name (d.editInterface name id)
  | enterRouter process => openObject .configRouter .routeProtocol process d
  | enterVlan id => Ios.enterVlan id d
  | addRoute ip mask nextHop => Ios.addRoute ip mask nextHop d
  | removeRoute ip mask nextHop => Ios.removeRoute ip mask nextHop d
  | removeVlan id =>
    match Text.readUInt16? id with
    | some v => { d with vlans := d.vlans.erase v }
    | none => d
  | setAddress ip mask => editInterface (fun i => i.setAddress ip mask) d
  | clearAddress => editInterface Interface.clearAddress d
  | setUp up => editInterface (fun i => i.setUp up) d
  | setDescription text => editInterface (fun i => i.setDescription text) d
  | setAccessVlan id => Ios.setAccessVlan id d
  | clearAccessVlan => editInterface (fun i => i.setVlan none) d
  | setZone zone => editInterface (fun i => i.setZone zone) d
  | nameVlan name => Ios.nameVlan name d

end TrainingLab.Ios
