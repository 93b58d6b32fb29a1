import Iec104North.Server

/-!
# Clock synchronisation

`clockSyncHandler` hands the commanded time to `Hal_setTimeInNs`, in
nanoseconds since the epoch.  The factor it multiplies the milliseconds with is
ten times too large, and from 2028 on the product does not even fit into 64
bits.
-/

namespace Iec104North.ClockSync

open Iec104North.Library
open Iec104North.Values
open Iec104North.Config
open Iec104North.Server

/-- What `clockSyncHandler` does. -/
structure SyncOutcome where
  /-- The argument of the call of `Hal_setTimeInNs`, if there is one. -/
  setTimeInNs : Option Nat
  /-- The time in the answer. -/
  newTime : CP56Time2a
  /-- The command, with the negative flag of the answer. -/
  asdu : Asdu
deriving DecidableEq, Repr

/--
`IEC104Server::clockSyncHandler`; `currentTime` is what `Hal_getTimeInMs` gives
after the clock was set.
-/
def clockSyncHandler (platform : Platform) (server : IEC104Server)
    (asdu : Asdu) (newTime : CP56Time2a) (currentTime : Nat) :
    SyncOutcome :=
  if server.config.timeSync then
    let newSystemTimeInMs := platform.toMsTimestamp newTime
    let nsTime := toUInt64 (newSystemTimeInMs * 10000000)
    { setTimeInNs := some nsTime
      newTime := platform.createFromMsTimestamp currentTime
      asdu := asdu }
  else
    { setTimeInNs := none
      newTime := newTime
      asdu := { asdu with isNegative := true } }

/-! ## Instants -/

/-- The days of a year before a month. -/
def daysBeforeMonth (leap : Bool) : Nat → Nat
  | 1 => 0
  | 2 => 31
  | 3 => 59 + leap.toNat
  | 4 => 90 + leap.toNat
  | 5 => 120 + leap.toNat
  | 6 => 151 + leap.toNat
  | 7 => 181 + leap.toNat
  | 8 => 212 + leap.toNat
  | 9 => 243 + leap.toNat
  | 10 => 273 + leap.toNat
  | 11 => 304 + leap.toNat
  | _ => 334 + leap.toNat

/-- The days from the epoch to a date in the years 2000 to 2099. -/
def daysSinceEpoch (year month day : Nat) : Nat :=
  10957 + 365 * year + (year + 3) / 4 +
    daysBeforeMonth (year % 4 == 0) month + (day - 1)

/-- The milliseconds from the epoch to a UTC time in these years. -/
def msSinceEpoch (time : CP56Time2a) : Nat :=
  ((daysSinceEpoch time.year.toNat time.month.toNat time.dayOfMonth.toNat *
          24 + time.hour.toNat) * 60 + time.minute.toNat) * 60000 +
    time.millisecond.toNat

/-- The fields are those of a time in the years 2000 to 2099. -/
structure IsTime (time : CP56Time2a) : Prop where
  year : time.year.toNat ≤ 99
  hour : time.hour.toNat ≤ 23
  minute : time.minute.toNat ≤ 59
  millisecond : time.millisecond.toNat ≤ 59999

/-- The instant is in the years 2000 to 2099. -/
def InCentury (ms : Nat) : Prop :=
  946684800000 ≤ ms ∧ ms < 4102444800000

theorem daysBeforeMonth_le (leap : Bool) (month : Nat) :
    daysBeforeMonth leap month ≤ 334 + leap.toNat := by
  unfold daysBeforeMonth
  split <;> omega

/-- Every time a `CP56Time2a` can express is an instant of the century. -/
theorem IsTime.inCentury {time : CP56Time2a} (isTime : IsTime time) :
    InCentury (msSinceEpoch time) := by
  have month :=
    daysBeforeMonth_le (time.year.toNat % 4 == 0) time.month.toNat
  have day : time.dayOfMonth.toNat ≤ 31 := by
    have := time.dayOfMonth.isLt
    omega
  have leap :
      (time.year.toNat % 4 == 0).toNat +
          (365 * time.year.toNat + (time.year.toNat + 3) / 4) ≤
        36160 := by
    have year := isTime.year
    cases divides : time.year.toNat % 4 == 0 with
    | true =>
        have zero : time.year.toNat % 4 = 0 := by simpa using divides
        simp only [Bool.toNat_true]
        omega
    | false =>
        simp only [Bool.toNat_false]
        omega
  have hour := isTime.hour
  have minute := isTime.minute
  have millisecond := isTime.millisecond
  simp only [InCentury, msSinceEpoch, daysSinceEpoch]
  omega

/-! ## The time that is set -/

/-- The number of nanoseconds denotes the instant, and reads back as it. -/
def DenotesInstant (ms ns : Nat) : Prop :=
  ns = ms * 1000000 ∧ ns / 1000000 = ms

instance (ms ns : Nat) : Decidable (DenotesInstant ms ns) :=
  inferInstanceAs (Decidable (_ ∧ _))

/-- The number of nanoseconds is another instant and reads back as another. -/
theorem toUInt64_wrongInstant {ms : Nat} (inCentury : InCentury ms) :
    toUInt64 (ms * 10000000) ≠ ms * 1000000 ∧
      toUInt64 (ms * 10000000) / 1000000 ≠ ms := by
  rcases inCentury with ⟨low, high⟩
  have set :
      toUInt64 (ms * 10000000) = ms * 10000000 % 0x10000000000000000 :=
    toUInt64_natCast (ms * 10000000)
  -- The product wraps around at most twice in this century.
  have wraps :
      ms * 10000000 / 0x10000000000000000 = 0 ∨
        ms * 10000000 / 0x10000000000000000 = 1 ∨
        ms * 10000000 / 0x10000000000000000 = 2 := by
    omega
  rw [set]
  rcases wraps with none | once | twice
  · omega
  · omega
  · omega

/-- No clock synchronisation sets the clock to the commanded time. -/
theorem clockSyncHandler_wrongInstant (platform : Platform)
    (server : IEC104Server) (enabled : server.config.timeSync = true)
    (asdu : Asdu) (newTime : CP56Time2a)
    (inCentury : InCentury (platform.toMsTimestamp newTime))
    (currentTime : Nat) :
    ∃ ns,
      (clockSyncHandler platform server asdu newTime
            currentTime).setTimeInNs =
          some ns ∧
        ¬ DenotesInstant (platform.toMsTimestamp newTime) ns ∧
        ns / 1000000 ≠ platform.toMsTimestamp newTime := by
  have wrong := toUInt64_wrongInstant inCentury
  refine
    ⟨toUInt64 (platform.toMsTimestamp newTime * 10000000), ?_, ?_, wrong.2⟩
  · simp only [clockSyncHandler, enabled, if_true]
  · exact fun denotes => wrong.1 denotes.1

/-- A time of the year 2024. -/
def sampleTime : CP56Time2a :=
  ⟨0, 0, false, false, 12, false, 29, 4, 2, 24⟩

/-- `samplePlatform` with the time conversion for these years. -/
def calendarPlatform : Platform :=
  { samplePlatform with toMsTimestamp := msSinceEpoch }

/-- `sampleServer` with time synchronisation. -/
def syncServer : IEC104Server :=
  { sampleServer with config := { sampleServer.config with timeSync := true } }

/-- A clock synchronisation command. -/
def sampleSync : Asdu where
  typeId := AsduTypes.TypeId.C_CS_NA_1.value
  cot := Cot.activation
  isTest := false
  isNegative := false
  oa := 0
  ca := 1
  elements := []

/-- The instant is 1709208000000 ms, the clock is set to 17092080000000 ms. -/
theorem sampleTime_wrongInstant :
    (clockSyncHandler calendarPlatform syncServer sampleSync sampleTime
          0).setTimeInNs =
        some 17092080000000000000 ∧
      ¬ DenotesInstant (calendarPlatform.toMsTimestamp sampleTime)
        17092080000000000000 := by
  decide

theorem clockSyncHandler_wrongInstant_sample :
    ∃ ns,
      (clockSyncHandler calendarPlatform syncServer sampleSync sampleTime
            0).setTimeInNs =
          some ns ∧
        ¬ DenotesInstant (calendarPlatform.toMsTimestamp sampleTime) ns ∧
        ns / 1000000 ≠ calendarPlatform.toMsTimestamp sampleTime :=
  clockSyncHandler_wrongInstant calendarPlatform syncServer rfl sampleSync
    sampleTime
    (IsTime.inCentury ⟨by decide, by decide, by decide, by decide⟩) 0

end Iec104North.ClockSync
