import Iec104North.Library.Packing
import Iec104North.Server

/-!
# Interrogation

`sendInterrogationResponse` walks over the points of one common address and
packs their values into ASDUs; `interrogationHandler` calls it for one common
address or, on a broadcast, for each of them.
-/

namespace Iec104North.Interrogation

open Iec104North.AsduTypes
open Iec104North.Library
open Iec104North.Values
open Iec104North.DataPoints
open Iec104North.Server

/--
The group test of `sendInterrogationResponse`: bit `qoi - 20` of
`m_gi_groups`.
-/
def isInGroup (dp : DataPoint) (qoi : Nat) : Bool :=
  dp.giGroups.getLsbD (qoi - 20)

/--
The value switch of `sendInterrogationResponse`.  The variants with time tag
are switched off there, and each case reads the union member of its data type.
-/
def pointObject (dp : DataPoint) : MonitoringObject :=
  ⟨dp.ioa, dp.value, dp.quality, none⟩

/--
The information object of one turn of the loop; `none` when the turn is
skipped.
-/
def responseObject (qoi : Nat) (entry : Option DataPoint) :
    Option MonitoringObject :=
  match entry with
  | none => none
  | some dp =>
      if dp.isMonitoringType then
        if isInGroup dp qoi then some (pointObject dp) else none
      else
        none

/-- `CS101_ASDU_initializeStatic` for the response. -/
def emptyResponse (asdu : Asdu) (ca : Int) : DataAsdu where
  cot := Cot.interrogatedByStation
  oa := asdu.oa
  ca := ca
  objects := []

/-- The ASDUs of the response, the last one only when it has an object. -/
def responseAsdus (platform : Platform) (parameters : AppLayerParameters)
    (asdu : Asdu) (ca : Int) (objects : List MonitoringObject) :
    List DataAsdu :=
  packed (addInformationObject platform parameters) (emptyResponse asdu ca)
    (fun newAsdu => newAsdu.objects.length == 0) objects

/-- `IEC104Server::sendInterrogationResponse`. -/
def sendInterrogationResponse (platform : Platform)
    (server : IEC104Server) (connection : Connection) (asdu : Asdu)
    (ca : Int) (qoi : Nat) : IEC104Server × List Effect :=
  let asduOfCa := { asdu with ca := ca }
  let ld := server.exchangeDefinitions.device ca
  let objects := ld.toList.filterMap fun entry => responseObject qoi entry.2
  let newAsdus :=
    responseAsdus platform server.config.appLayerParameters asdu ca objects
  ({ server with
      exchangeDefinitions := server.exchangeDefinitions.touchDevice ca },
    [.sendActCon none connection asduOfCa false] ++
      newAsdus.map (.sendData connection) ++
      [.sendActTerm none connection asduOfCa])

/-- `isBroadcastCA`. -/
def isBroadcastCA (ca : Int) (parameters : AppLayerParameters) : Bool :=
  (parameters.sizeOfCA == 1 && ca == 0xff) ||
    (parameters.sizeOfCA == 2 && ca == 0xffff)

/-- The loop of `interrogationHandler` over the common addresses. -/
def respondEach (platform : Platform) (connection : Connection)
    (asdu : Asdu) (qoi : Nat) (server : IEC104Server) :
    List Int → IEC104Server × List Effect
  | [] => (server, [])
  | ca :: rest =>
      let response :=
        sendInterrogationResponse platform server connection asdu ca qoi
      let remaining :=
        respondEach platform connection asdu qoi response.1 rest
      (remaining.1, response.2 ++ remaining.2)

/-- `IEC104Server::interrogationHandler`. -/
def interrogationHandler (platform : Platform) (server : IEC104Server)
    (connection : Connection) (asdu : Asdu) (qoi : Nat) :
    IEC104Server × List Effect :=
  if qoi < 20 ∨ 36 < qoi then
    (server, [.sendActCon none connection asdu true])
  else if isBroadcastCA asdu.ca server.config.appLayerParameters then
    respondEach platform connection asdu qoi server
      server.exchangeDefinitions.devices.keys
  else if server.exchangeDefinitions.HasDevice asdu.ca then
    sendInterrogationResponse platform server connection asdu asdu.ca qoi
  else
    (server,
      [.sendActCon none connection { asdu with cot := Cot.unknownCa } true])

end Iec104North.Interrogation
