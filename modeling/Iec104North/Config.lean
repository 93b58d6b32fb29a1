import Iec104North.Values
import Mathlib.Tactic.Linarith

/-!
# The imported configuration

`IEC104Config` as the server reads it, with the redundancy groups, whose
connection slots the server updates, and the monitored south plugins.
-/

namespace Iec104North.Config

open Std
open Iec104North.Values

/-- A slot `RedGroupCon`; it is free while its port is empty. -/
structure RedGroupCon where
  clientIp : String
  port : String := ""
  pathLetter : String := ""
  isActive : Bool := false
deriving DecidableEq, Repr

/--
`IEC104ServerRedGroup`; `allowedClients` are the clients which were added to
its lib60870 group `m_cs104RedGroup`.
-/
structure RedGroup where
  name : String
  index : Nat
  connections : List RedGroupCon
  allowedClients : List String := []
deriving DecidableEq, Repr

/-- `IEC104ServerRedGroup::GetRedGroupCon`, as a position in the group. -/
def getRedGroupCon (group : RedGroup) (ip : String) (port : String := "") :
    Option Nat :=
  group.connections.findIdx? fun connection =>
    connection.clientIp == ip && connection.port == port

/-- `IEC104Config::ConnectionStatus`. -/
inductive ConnectionStatus where
  | started
  | notConnected
deriving DecidableEq, Repr

/-- `IEC104Config::GiStatus`. -/
inductive GiStatus where
  | idle
  | started
  | inProgress
  | failed
  | finished
deriving DecidableEq, Repr

/-- `IEC104Config::SouthPluginMonitor`. -/
structure SouthPluginMonitor where
  assetName : String
  connxStatus : ConnectionStatus := .notConnected
  giStatus : GiStatus := .idle
deriving DecidableEq, Repr

/-- `IEC104Config::Mode`. -/
inductive Mode where
  | connectAlways
  | connectIfSouthConnxStarted
deriving DecidableEq, Repr

/--
`IEC104Config`, with the defaults of its declaration.  `allowedCommands` is 0
for commands without time tag, 1 for commands with time tag and 2 for both; a
`tcpPort` of -1 stands for the default port.
-/
structure IEC104Config where
  redundancyGroups : List RedGroup := []
  maxRedundancyGroups : Nat := 2
  monitoredSouthPlugins : List SouthPluginMonitor := []
  mode : Mode := .connectAlways
  useTls : Bool := false
  tcpPort : Int := -1
  bindOnIp : Bool := false
  ip : String := ""
  k : Int := 12
  w : Int := 8
  t0 : Int := 30
  t1 : Int := 15
  t2 : Int := 10
  t3 : Int := 20
  timeSync : Bool := false
  filterOriginators : Bool := false
  allowedOriginators : ExtTreeMap Int Int := ∅
  allowedCommands : Int := 1
  cmdRecvTimeout : Int := 0
  cmdExecTimeout : Int := 20
  cmdDest : String := ""
  caSize : Int := 2
  ioaSize : Int := 3
  asduSize : Int := 0
  asduQueueSize : Int := 100

namespace IEC104Config

/-- `IEC104Config::GetRedundancyGroup`, as a position in the group list. -/
def getRedundancyGroup (config : IEC104Config) (ip : String) :
    Option Nat :=
  config.redundancyGroups.findIdx? fun group =>
    group.connections.any fun connection => connection.clientIp == ip

/-- `IEC104Config::IsOriginatorAllowed`. -/
def isOriginatorAllowed (config : IEC104Config) (oa : Int) : Bool :=
  if config.filterOriginators then
    config.allowedOriginators.contains oa
  else
    true

/-- `IEC104Config::AllowCmdWithTime`. -/
def allowCmdWithTime (config : IEC104Config) : Bool :=
  config.allowedCommands == 1 || config.allowedCommands == 2

/-- `IEC104Config::AllowCmdWithoutTime`. -/
def allowCmdWithoutTime (config : IEC104Config) : Bool :=
  config.allowedCommands == 0 || config.allowedCommands == 2

/-- The application layer parameters `setJsonConfig` writes to the slave. -/
def appLayerParameters (config : IEC104Config) : AppLayerParameters where
  sizeOfCA := config.caSize
  sizeOfIOA := config.ioaSize
  maxSizeOfASDU := if config.asduSize == 0 then 253 else config.asduSize

/-- Change one slot of one group. -/
def modifySlot (config : IEC104Config) (group slot : Nat)
    (change : RedGroupCon → RedGroupCon) : IEC104Config :=
  { config with
    redundancyGroups := config.redundancyGroups.modify group fun redGroup =>
      { redGroup with
        connections := redGroup.connections.modify slot change } }

/-- The slot at a position, if there is one. -/
def slot? (config : IEC104Config) (group slot : Nat) : Option RedGroupCon :=
  config.redundancyGroups[group]?.bind fun redGroup =>
    redGroup.connections[slot]?

theorem slot?_modifySlot (config : IEC104Config) (group slot : Nat)
    (change : RedGroupCon → RedGroupCon) (other position : Nat) :
    (config.modifySlot group slot change).slot? other position =
      if other = group ∧ position = slot then
        (config.slot? other position).map change
      else
        config.slot? other position := by
  simp only [slot?, modifySlot]
  by_cases sameGroup : other = group
  · subst sameGroup
    rw [List.getElem?_modify_eq]
    cases config.redundancyGroups[other]? with
    | none => simp
    | some redGroup =>
        by_cases sameSlot : position = slot
        · simp [sameSlot]
        · simp [sameSlot, Ne.symm sameSlot]
  · rw [List.getElem?_modify_ne _ _ (Ne.symm sameGroup)]
    simp [sameGroup]

/-- A change which a function does not see is not seen in the list either. -/
private theorem map_modify_of_eq {α β : Type} {change : α → α} {see : α → β}
    (same : ∀ element, see (change element) = see element)
    (elements : List α) (position : Nat) :
    (elements.modify position change).map see = elements.map see := by
  apply List.ext_getElem?
  intro other
  rw [List.getElem?_map, List.getElem?_map, List.getElem?_modify]
  cases elements[other]? with
  | none => rfl
  | some element =>
      by_cases here : position = other
      · simp [here, same]
      · simp [here]

/--
What connection events never change: the index of each group, and the IP and
the path letter of each slot.
-/
def layout (config : IEC104Config) : List (Nat × List (String × String)) :=
  config.redundancyGroups.map fun redGroup =>
    (redGroup.index,
      redGroup.connections.map fun connection =>
        (connection.clientIp, connection.pathLetter))

theorem layout_modifySlot (config : IEC104Config) (group slot : Nat)
    {change : RedGroupCon → RedGroupCon}
    (clientIp : ∀ connection,
      (change connection).clientIp = connection.clientIp)
    (pathLetter : ∀ connection,
      (change connection).pathLetter = connection.pathLetter) :
    (config.modifySlot group slot change).layout = config.layout := by
  apply map_modify_of_eq
  intro redGroup
  simp only [Prod.mk.injEq, true_and]
  apply map_modify_of_eq
  intro connection
  rw [clientIp, pathLetter]

theorem getRedundancyGroup_eq_layout (config : IEC104Config)
    (ip : String) :
    config.getRedundancyGroup ip =
      config.layout.findIdx? fun entry =>
        entry.2.any fun slot => slot.1 == ip := by
  rw [layout, List.findIdx?_map]
  simp only [getRedundancyGroup, Function.comp_def, List.any_map]

theorem slot?_layout (config : IEC104Config) (group slot : Nat) :
    (config.slot? group slot).map
        (fun connection => (connection.clientIp, connection.pathLetter)) =
      config.layout[group]?.bind fun entry => entry.2[slot]? := by
  rw [layout, List.getElem?_map, slot?]
  cases config.redundancyGroups[group]? <;> simp

end IEC104Config

end Iec104North.Config
