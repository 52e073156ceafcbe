import TrainingLab.Device.Basic

/-
  The prompt of a console. It depends on the family, the hostname, the mode and the edited
  objects. The Junos prompt has a line above it with the level of the hierarchy while editing.
-/

namespace TrainingLab.Device

/-- The path of one frame in the Junos hierarchy. -/
def hierarchyPath (f : Frame) : String :=
  match f.kind with
  | .interface => "interfaces " ++ f.name
  | .zone => "security zones security-zone " ++ f.name
  | .routeProtocol => "protocols " ++ f.name
  | .staticRoute => "routing-options static route " ++ f.name
  | .vlan => "vlans " ++ f.name
  | .policyObject => "security policies policy " ++ f.name
  | .configSection => f.name

/-- The level of the Junos hierarchy, outermost object first. -/
def editBanner (context : List Frame) : String :=
  if context.isEmpty then "[edit]"
  else "[edit " ++ Text.joinWith " " (context.reverse.map hierarchyPath) ++ "]"

/-- The word that FortiOS shows for a frame: the last word of a section, or the object's name. -/
def frameLabel (f : Frame) : String :=
  match f.kind with
  | .configSection => (Text.splitAfterLast ' ' f.name).2
  | _ => f.name

/-- The part of the IOS prompt behind the hostname. -/
def iosMark : Mode → String
  | .user => ">"
  | .privileged => "#"
  | .config => "(config)#"
  | .configInterface => "(config-if)#"
  | .configRouter => "(config-router)#"
  | .configVlan => "(config-vlan)#"
  | .edit => ">"

/-- The prompt of the console. -/
def prompt (d : Device) : String :=
  match d.family with
  | .cisco => d.name ++ iosMark d.mode
  | .juniper =>
    match d.mode with
    | .edit => editBanner d.context ++ "\nroot@" ++ d.name ++ "#"
    | _ => "root@" ++ d.name ++ ">"
  | .paloAlto =>
    match d.mode with
    | .config => "admin@" ++ d.name ++ "#"
    | _ => "admin@" ++ d.name ++ ">"
  | .fortinet =>
    match d.frame? with
    | some f => d.name ++ " (" ++ frameLabel f ++ ") #"
    | none => d.name ++ " #"
  | .cloud => d.name ++ ">"

end TrainingLab.Device
