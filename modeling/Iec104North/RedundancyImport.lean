import Iec104North.ImportProtocol

/-!
# The clients of a redundancy group

The import fills two lists side by side, the clients lib60870 lets into a group
and the slots of the group.  They are always the same list.  lib60870 takes a
group without allowed clients for one that lets everybody in; such a group also
comes out when connections are listed and none of them is valid.
-/

namespace Iec104North.RedundancyImport

open Iec104North.Library
open Iec104North.Config
open Iec104North.ImportProtocol

/-! ## Elements of the configuration -/

/-- The client of one connection, if it is an object with a valid address. -/
def validClient (connection : Json) : Option String :=
  ((connection.member? "clt_ip").bind Json.asString).filter isValidIPAddress

/-- The connections a group element lists. -/
def connectionsOf (redGroup : Json) : List Json :=
  ((redGroup.member? "connections").bind Json.asArray).getD []

/-- The valid clients of a group element, in order. -/
def validClients (redGroup : Json) : List String :=
  (connectionsOf redGroup).filterMap validClient

/-- The name of a group element, if it is a string. -/
def nameOf (redGroup : Json) : Option String :=
  (redGroup.member? "rg_name").bind Json.asString

/-! ## What the import makes of them -/

/-- The clients of a group are added to both lists. -/
def withClients (group : RedGroup) (clients : List String) : RedGroup :=
  { group with
    allowedClients := group.allowedClients ++ clients
    connections :=
      group.connections ++
        clients.map fun cltIp => { clientIp := cltIp } }

theorem isObject_of_member {value found : Json} {name : String}
    (present : value.member? name = some found) : value.isObject = true := by
  cases value with
  | object members => rfl
  | _ => simp [Json.member?] at present

theorem importRedundancyGroupConnections_eq (connection : Json)
    (group : RedGroup) :
    importRedundancyGroupConnections connection group =
      withClients group (validClient connection).toList := by
  simp only [importRedundancyGroupConnections, validClient]
  cases found : (connection.member? "clt_ip").bind Json.asString with
  | none =>
      split <;> simp [withClients]
  | some cltIp =>
      rcases Option.bind_eq_some_iff.mp found with ⟨member, present, -⟩
      rw [if_pos (isObject_of_member present)]
      dsimp only
      by_cases valid : isValidIPAddress cltIp = true
      · simp [withClients, valid, Option.filter]
      · simp [withClients, valid, Option.filter]

theorem foldl_importRedundancyGroupConnections (connections : List Json)
    (group : RedGroup) :
    connections.foldl
        (fun group connection =>
          importRedundancyGroupConnections connection group)
        group =
      withClients group (connections.filterMap validClient) := by
  induction connections generalizing group with
  | nil => simp [withClients]
  | cons connection rest ih =>
      rw [List.foldl_cons, ih, importRedundancyGroupConnections_eq]
      cases client : validClient connection with
      | none => simp [withClients, client]
      | some cltIp => simp [withClients, client]

/-- The group made of an element with a name. -/
def groupOf (name : String) (index : Nat) (redGroup : Json) : RedGroup :=
  withClients { name := name, index := index, connections := [] }
    (validClients redGroup)

/-- An element with a name gives one more group, any other none. -/
theorem importRedundancyGroup_eq (groups : List RedGroup)
    (redGroup : Json) :
    importRedundancyGroup groups redGroup =
      groups ++
        ((nameOf redGroup).map
          fun name => groupOf name groups.length redGroup).toList := by
  simp only [importRedundancyGroup]
  cases found : nameOf redGroup with
  | none =>
      rw [nameOf] at found
      rw [found]
      split <;> simp
  | some name =>
      rw [nameOf] at found
      rcases Option.bind_eq_some_iff.mp found with ⟨member, present, -⟩
      rw [if_pos (isObject_of_member present), found]
      simp only [groupOf, validClients, connectionsOf]
      cases (redGroup.member? "connections").bind Json.asArray with
      | none => simp [withClients]
      | some connections =>
          dsimp only
          rw [foldl_importRedundancyGroupConnections]
          rfl

theorem foldl_importRedundancyGroup_length (elements : List Json)
    (groups : List RedGroup) :
    (elements.foldl importRedundancyGroup groups).length =
      groups.length + (elements.filterMap nameOf).length := by
  induction elements generalizing groups with
  | nil => simp
  | cons element rest ih =>
      rw [List.foldl_cons, ih, importRedundancyGroup_eq]
      cases name : nameOf element with
      | none => simp [name]
      | some name =>
          simp [name]
          omega

/-- Groups that are there stay as they are. -/
theorem foldl_importRedundancyGroup_prefix (elements : List Json)
    (groups : List RedGroup) :
    groups <+: elements.foldl importRedundancyGroup groups := by
  induction elements generalizing groups with
  | nil => exact List.prefix_refl groups
  | cons element rest ih =>
      rw [List.foldl_cons]
      refine List.IsPrefix.trans ?_ (ih _)
      rw [importRedundancyGroup_eq]
      exact List.prefix_append _ _

/-- The group of an element comes after those of the elements before it. -/
theorem foldl_importRedundancyGroup_getElem? (groups : List RedGroup)
    (before after : List Json) {element : Json} {name : String}
    (named : nameOf element = some name) :
    let position := groups.length + (before.filterMap nameOf).length
    ((before ++ element :: after).foldl importRedundancyGroup
        groups)[position]? =
      some (groupOf name position element) := by
  intro position
  have length := foldl_importRedundancyGroup_length before groups
  rw [List.foldl_append, List.foldl_cons]
  rcases
      foldl_importRedundancyGroup_prefix after
        (importRedundancyGroup (before.foldl importRedundancyGroup groups)
          element) with
    ⟨others, whole⟩
  rw [← whole, importRedundancyGroup_eq, named, length]
  have within :
      position <
        (before.foldl importRedundancyGroup groups ++
          [groupOf name position element]).length := by
    rw [List.length_append, length]
    exact Nat.lt_succ_self position
  rw [Option.map_some, Option.toList_some,
    List.getElem?_append_left within,
    List.getElem?_append_right length.le, length, Nat.sub_self]
  rfl

/-! ## Groups before the first connection -/

/-- Every group has its position as index, and all slots are free. -/
structure Fresh (groups : List RedGroup) : Prop where
  index :
    ∀ {position : Nat} {redGroup : RedGroup},
      groups[position]? = some redGroup → redGroup.index = position
  free :
    ∀ redGroup ∈ groups, ∀ connection ∈ redGroup.connections,
      connection.port = ""

theorem Fresh.nil : Fresh [] where
  index := by simp
  free := by simp

/-- The slots of a new group are free. -/
theorem groupOf_free (name : String) (index : Nat) (redGroup : Json) :
    ∀ connection ∈ (groupOf name index redGroup).connections,
      connection.port = "" := by
  intro connection member
  simp only [groupOf, withClients, List.nil_append, List.mem_map] at member
  rcases member with ⟨clientIp, -, rfl⟩
  rfl

theorem importRedundancyGroup_fresh {groups : List RedGroup}
    (fresh : Fresh groups) (redGroup : Json) :
    Fresh (importRedundancyGroup groups redGroup) := by
  rw [importRedundancyGroup_eq]
  cases nameOf redGroup with
  | none => simpa using fresh
  | some name =>
      simp only [Option.map_some, Option.toList_some]
      constructor
      · intro position other present
        rw [List.getElem?_append] at present
        split at present
        · exact fresh.index present
        · rcases List.getElem?_eq_some_iff.mp present with ⟨within, rfl⟩
          simp only [List.length_singleton] at within
          simp only [List.getElem_singleton, groupOf, withClients]
          omega
      · intro other member
        rcases List.mem_append.mp member with old | new
        · exact fresh.free other old
        · rw [List.mem_singleton.mp new]
          exact groupOf_free name groups.length redGroup

/-- No slot of the groups is active. -/
def Inactive (groups : List RedGroup) : Prop :=
  ∀ redGroup ∈ groups, ∀ connection ∈ redGroup.connections,
    connection.isActive = false

instance (groups : List RedGroup) : Decidable (Inactive groups) :=
  inferInstanceAs (Decidable (∀ redGroup ∈ groups, _))

theorem importRedundancyGroup_inactive {groups : List RedGroup}
    (inactive : Inactive groups) (redGroup : Json) :
    Inactive (importRedundancyGroup groups redGroup) := by
  intro other member connection inGroup
  rw [importRedundancyGroup_eq, List.mem_append] at member
  rcases member with old | new
  · exact inactive other old connection inGroup
  · rw [Option.mem_toList, Option.map_eq_some_iff] at new
    rcases new with ⟨name, -, rfl⟩
    simp only [groupOf, withClients, List.nil_append, List.mem_map] at inGroup
    rcases inGroup with ⟨clientIp, -, rfl⟩
    rfl

theorem importFilter_groups (config : IEC104Config) (filter : Json) :
    (importFilter config filter).redundancyGroups =
      config.redundancyGroups := by
  simp only [importFilter]
  split
  · split
    · split <;> rfl
    · rfl
  · rfl

/-- The application layer leaves the groups. -/
theorem importApplicationLayer_groups (config : IEC104Config)
    (applicationLayer : Json) :
    (importApplicationLayer config applicationLayer).redundancyGroups =
      config.redundancyGroups := by
  have filters :
      ∀ filters : List Json,
        (filters.foldl importFilter config).redundancyGroups =
          config.redundancyGroups := by
    intro filters
    induction filters generalizing config with
    | nil => rfl
    | cons filter rest ih => rw [List.foldl_cons, ih, importFilter_groups]
  simp only [importApplicationLayer]
  split
  · exact filters _
  · rfl

theorem importSouthMonitoring_groups (config : IEC104Config)
    (protocolStack : Json) :
    (importSouthMonitoring config protocolStack).redundancyGroups =
      config.redundancyGroups := by
  simp only [importSouthMonitoring]
  split <;> rfl

/-- The transport layer adds one group after the other. -/
theorem importTransportLayer_groups (config : IEC104Config)
    (transportLayer : Json) :
    ∃ elements,
      (importTransportLayer config transportLayer).redundancyGroups =
        List.foldl importRedundancyGroup config.redundancyGroups
          elements := by
  simp only [importTransportLayer]
  split
  · rename_i elements _
    exact ⟨elements, rfl⟩
  · exact ⟨[], rfl⟩

theorem importProtocolConfig_groups (config : IEC104Config)
    (document : Option Json) :
    ∃ elements,
      (importProtocolConfig config document).redundancyGroups =
        List.foldl importRedundancyGroup config.redundancyGroups
          elements := by
  simp only [importProtocolConfig]
  split
  · exact ⟨[], rfl⟩
  split
  · rw [importSouthMonitoring_groups, importApplicationLayer_groups]
    exact importTransportLayer_groups config _
  · exact ⟨[], rfl⟩

/-- What every added group keeps holds of the groups after the import. -/
theorem importProtocolConfig_induction (property : List RedGroup → Prop)
    (step : ∀ groups redGroup,
      property groups → property (importRedundancyGroup groups redGroup))
    {config : IEC104Config} (start : property config.redundancyGroups)
    (document : Option Json) :
    property (importProtocolConfig config document).redundancyGroups := by
  rcases importProtocolConfig_groups config document with ⟨elements, groups⟩
  rw [groups]
  clear groups
  generalize config.redundancyGroups = groups at start
  induction elements generalizing groups with
  | nil => exact start
  | cons element rest ih => exact ih _ (step groups element start)

/-- The groups are fresh after the import. -/
theorem importProtocolConfig_fresh {config : IEC104Config}
    (fresh : Fresh config.redundancyGroups) (document : Option Json) :
    Fresh (importProtocolConfig config document).redundancyGroups :=
  importProtocolConfig_induction Fresh
    (fun _ redGroup fresh => importRedundancyGroup_fresh fresh redGroup)
    fresh document

/-- No slot is active after the import. -/
theorem importProtocolConfig_inactive {config : IEC104Config}
    (inactive : Inactive config.redundancyGroups) (document : Option Json) :
    Inactive (importProtocolConfig config document).redundancyGroups :=
  importProtocolConfig_induction Inactive
    (fun _ redGroup inactive =>
      importRedundancyGroup_inactive inactive redGroup)
    inactive document

/-! ## Who is let in -/

/-- lib60870 lets a client into a group: it is allowed, or all are. -/
def Admits (group : RedGroup) (ip : String) : Prop :=
  group.allowedClients = [] ∨ ip ∈ group.allowedClients

/-- The addresses a group element lists, valid or not. -/
def listedAddresses (redGroup : Json) : List String :=
  (connectionsOf redGroup).filterMap fun connection =>
    (connection.member? "clt_ip").bind Json.asString

/-- A group lets in the clients its element lists. -/
structure LetsInListed (redGroup : Json) (group : RedGroup) : Prop where
  allowed : group.allowedClients = validClients redGroup
  slots :
    group.connections.map RedGroupCon.clientIp = validClients redGroup
  catchAll : group.allowedClients = [] → connectionsOf redGroup = []
  listed :
    connectionsOf redGroup ≠ [] →
      ∀ ip, Admits group ip → ip ∈ listedAddresses redGroup

theorem validClients_listed (redGroup : Json) :
    ∀ ip ∈ validClients redGroup, ip ∈ listedAddresses redGroup := by
  intro ip member
  rcases List.mem_filterMap.mp member with ⟨connection, inList, valid⟩
  exact
    List.mem_filterMap.mpr
      ⟨connection, inList, (Option.filter_eq_some_iff.mp valid).1⟩

@[simp]
theorem allowedClients_groupOf (name : String) (index : Nat)
    (redGroup : Json) :
    (groupOf name index redGroup).allowedClients =
      validClients redGroup := by
  simp [groupOf, withClients]

@[simp]
theorem clientIps_groupOf (name : String) (index : Nat)
    (redGroup : Json) :
    (groupOf name index redGroup).connections.map RedGroupCon.clientIp =
      validClients redGroup := by
  simp [groupOf, withClients, Function.comp_def]

theorem letsInListed_groupOf_iff (name : String) (index : Nat)
    (redGroup : Json) :
    LetsInListed redGroup (groupOf name index redGroup) ↔
      validClients redGroup ≠ [] ∨ connectionsOf redGroup = [] := by
  constructor
  · intro letsIn
    by_cases someone : validClients redGroup = []
    · exact Or.inr (letsIn.catchAll (by simpa using someone))
    · exact Or.inl someone
  · intro clients
    have nobody :
        validClients redGroup = [] → connectionsOf redGroup = [] :=
      fun none => clients.resolve_left (not_not.mpr none)
    refine ⟨by simp, by simp, by simpa using nobody, ?_⟩
    rintro connected ip (all | allowed)
    · exact (connected (nobody (by simpa using all))).elim
    · exact validClients_listed redGroup ip (by simpa using allowed)

/--
Every element with a name gets a group, and the group lets in the listed
clients unless connections are listed and none of them is valid.
-/
theorem importRedundancyGroups_letsInListed_iff (config : IEC104Config)
    (before after : List Json) {element : Json} {name : String}
    (named : nameOf element = some name) :
    ∃ group,
      (importRedundancyGroups config
              (before ++ element :: after)).redundancyGroups[
            config.redundancyGroups.length +
              (before.filterMap nameOf).length]? =
          some group ∧
        group.name = name ∧
        (LetsInListed element group ↔
          validClients element ≠ [] ∨ connectionsOf element = []) :=
  ⟨_, foldl_importRedundancyGroup_getElem? config.redundancyGroups before
    after named, rfl, letsInListed_groupOf_iff _ _ element⟩

/-- A group with one connection, whose address is not valid. -/
def sampleGroup : Json :=
  .object
    [("rg_name", .string "red-group-1"),
     ("connections",
       .array [.object [("clt_ip", .string "1922.168.2.224")]])]

/-- The only client has no valid address, and everybody is let in. -/
theorem faultyClients_catchAll :
    ∃ group,
      (importRedundancyGroups {} [sampleGroup]).redundancyGroups =
          [group] ∧
        connectionsOf sampleGroup ≠ [] ∧
        Admits group "10.0.0.1" ∧
        "10.0.0.1" ∉ listedAddresses sampleGroup ∧
        ¬ LetsInListed sampleGroup group := by
  have connected : connectionsOf sampleGroup ≠ [] :=
    List.ne_nil_of_length_pos (by decide)
  refine
    ⟨groupOf "red-group-1" 0 sampleGroup, by decide, connected,
      Or.inl (by decide), by decide, ?_⟩
  exact fun letsIn => connected (letsIn.catchAll (by decide))

/-- A group without connections lets everybody in on purpose. -/
theorem importRedundancyGroups_letsInListed_iff_sample :
    ∃ group,
      (importRedundancyGroups {}
              [sampleGroup,
                .object [("rg_name", .string "catch-all")]]).redundancyGroups[
            1]? =
          some group ∧
        group.name = "catch-all" ∧
        (LetsInListed (.object [("rg_name", .string "catch-all")]) group ↔
          validClients (.object [("rg_name", .string "catch-all")]) ≠ [] ∨
            connectionsOf (.object [("rg_name", .string "catch-all")]) =
              []) :=
  importRedundancyGroups_letsInListed_iff {} [sampleGroup] [] (by decide)

end Iec104North.RedundancyImport
