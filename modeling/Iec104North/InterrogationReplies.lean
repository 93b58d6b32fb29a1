import Iec104North.Library.Simulation
import Iec104North.MonitoringData

/-!
# Replies to interrogations

An interrogation reads the table and leaves the server exactly as it was: the
map of a CA is read with `operator[]` only after the CA was found.  All it
sends are replies on the connection it came from.
-/

namespace Iec104North.InterrogationReplies

open Iec104North.Library
open Iec104North.Values
open Iec104North.DataPoints
open Iec104North.Server
open Iec104North.OutstandingCommands
open Iec104North.Commands
open Iec104North.CommandPaths
open Iec104North.LedgerRefinement
open Iec104North.Readings
open Iec104North.Interrogation
open Iec104North.InterrogationResponse
open Iec104North.Connections
open Iec104North.Runs
open Iec104North.TableReads
open Iec104North.MonitoringData

/-! ## The table is only read -/

theorem eq_of_devices {first second : PointTable}
    (same : first.devices = second.devices) : first = second := by
  cases first
  cases second
  subst same
  rfl

/-- Reading the map of a CA that is there changes nothing. -/
theorem touchDevice_of_hasDevice {table : PointTable} {ca : Int}
    (configured : table.HasDevice ca) : table.touchDevice ca = table := by
  have devices :
      (table.touchDevice ca).devices =
        table.devices.insert ca (table.device ca) := rfl
  apply eq_of_devices
  rw [devices]
  apply Std.ExtTreeMap.ext_getElem?
  intro other
  rw [getElem?_insert_int]
  split
  · rename_i equal
    subst equal
    rcases
        Option.isSome_iff_exists.mp
          (Std.ExtTreeMap.mem_iff_isSome_getElem?.mp configured) with
      ⟨device, present⟩
    rw [PointTable.device, present]
    rfl
  · rfl

section Handler

variable (platform : Platform) (server : IEC104Server)
  (connection : Connection) (asdu : Asdu) (qoi : Nat)

theorem sendInterrogationResponse_server {ca : Int}
    (configured : server.exchangeDefinitions.HasDevice ca) :
    (sendInterrogationResponse platform server connection asdu ca qoi).1 =
      server := by
  rw [sendInterrogationResponse, touchDevice_of_hasDevice configured]

/-- The loop of a broadcast answers each CA on its own. -/
theorem respondEach_eq (addresses : List Int)
    (configured :
      ∀ ca ∈ addresses, server.exchangeDefinitions.HasDevice ca) :
    respondEach platform connection asdu qoi server addresses =
      (server,
        addresses.flatMap fun ca =>
          (sendInterrogationResponse platform server connection asdu ca
            qoi).2) := by
  induction addresses with
  | nil => rfl
  | cons ca rest induction =>
      have here :=
        sendInterrogationResponse_server platform server connection asdu qoi
          (configured ca List.mem_cons_self)
      have later :=
        induction fun other member =>
          configured other (List.mem_cons_of_mem ca member)
      rw [respondEach, here, later, List.flatMap_cons]

/-- An interrogation leaves the server as it was. -/
theorem interrogationHandler_server :
    (interrogationHandler platform server connection asdu qoi).1 =
      server := by
  rw [interrogationHandler]
  split
  · rfl
  split
  · rw [respondEach_eq platform server connection asdu qoi _
      fun ca member => (mem_keys_iff _ ca).mp member]
  split
  · rename_i configured
    exact
      sendInterrogationResponse_server platform server connection asdu qoi
        configured
  · rfl

/-! ## Replies -/

/--
A CA an interrogation is answered for: it has a map in the table and is the CA
of the interrogation, unless this is the broadcast address.
-/
structure AnsweredFor (server : IEC104Server) (asdu : Asdu)
    (ca : Int) : Prop where
  configured : server.exchangeDefinitions.HasDevice ca
  own :
    isBroadcastCA asdu.ca server.config.appLayerParameters = false →
      ca = asdu.ca

/--
A reply to an interrogation, on the connection it came from: a refusal, or one
of the messages for a CA.
-/
inductive IsReply (server : IEC104Server) (connection : Connection)
    (asdu : Asdu) : Effect → Prop
  | refusal (cot : CauseOfTransmission)
      (isCot : cot = asdu.cot ∨ cot = Cot.unknownCa) :
      IsReply server connection asdu
        (.sendActCon none connection { asdu with cot := cot } true)
  | actCon (ca : Int) (isFor : AnsweredFor server asdu ca) :
      IsReply server connection asdu
        (.sendActCon none connection { asdu with ca := ca } false)
  | actTerm (ca : Int) (isFor : AnsweredFor server asdu ca) :
      IsReply server connection asdu
        (.sendActTerm none connection { asdu with ca := ca })
  | data (data : DataAsdu) (isFor : AnsweredFor server asdu data.ca)
      (cot : data.cot = Cot.interrogatedByStation)
      (oa : data.oa = asdu.oa) :
      IsReply server connection asdu (.sendData connection data)

theorem responseAsdus_mirror (parameters : AppLayerParameters) (ca : Int)
    (objects : List MonitoringObject) :
    ∀ data ∈ responseAsdus platform parameters asdu ca objects,
      data.cot = Cot.interrogatedByStation ∧
        data.oa = asdu.oa ∧ data.ca = ca := by
  refine forall_packed ⟨rfl, rfl, rfl⟩ ?_ _
  intro data object extended _ before added
  rw [(addInformationObject_eq_some platform parameters added).1]
  exact before

theorem isReply_response {ca : Int} (isFor : AnsweredFor server asdu ca) :
    ∀ effect ∈
        (sendInterrogationResponse platform server connection asdu ca qoi).2,
      IsReply server connection asdu effect := by
  intro effect member
  simp only [sendInterrogationResponse, List.mem_append, List.mem_singleton,
    List.mem_map] at member
  rcases member with (rfl | ⟨data, isResponse, rfl⟩) | rfl
  · exact .actCon ca isFor
  · rcases responseAsdus_mirror platform asdu _ ca _ data isResponse with
      ⟨cot, oa, rfl⟩
    exact .data data isFor cot oa
  · exact .actTerm ca isFor

/-- All an interrogation sends are replies on its own connection. -/
theorem isReply_interrogationHandler :
    ∀ effect ∈
        (interrogationHandler platform server connection asdu qoi).2,
      IsReply server connection asdu effect := by
  intro effect member
  rw [interrogationHandler] at member
  split at member
  · rcases List.mem_singleton.mp member with rfl
    exact .refusal asdu.cot (.inl rfl)
  split at member
  · rename_i isBroadcast
    rw [respondEach_eq platform server connection asdu qoi _
      fun ca isKey => (mem_keys_iff _ ca).mp isKey] at member
    rcases List.mem_flatMap.mp member with ⟨ca, isKey, sent⟩
    have isFor : AnsweredFor server asdu ca :=
      ⟨(mem_keys_iff _ ca).mp isKey, by simp [isBroadcast]⟩
    exact
      isReply_response platform server connection asdu qoi isFor effect sent
  split at member
  · rename_i configured
    exact
      isReply_response platform server connection asdu qoi
        ⟨configured, fun _ => rfl⟩ effect member
  · rcases List.mem_singleton.mp member with rfl
    exact .refusal Cot.unknownCa (.inr rfl)

end Handler

end Iec104North.InterrogationReplies
