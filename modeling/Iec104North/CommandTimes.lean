import Iec104North.Commands

/-!
# The time window of commands

A command with time tag is accepted when its time differs from the current time
by at most `cmd_recv_timeout` seconds.  `checkTimestamp` compares the low 32
bits of the difference with a product of 32 bits.  A timeout whose product does
not fit refuses some of the times within its window.
-/

namespace Iec104North.CommandTimes

open Iec104North.Library
open Iec104North.Values
open Iec104North.Server
open Iec104North.Commands

/-- The milliseconds between two times. -/
def distance (currentTime commandTime : Nat) : Nat :=
  ((currentTime : Int) - commandTime).natAbs

/-- The window in milliseconds, as the server computes it. -/
def window (server : IEC104Server) : Int :=
  toInt32 (server.config.cmdRecvTimeout * 1000)

/-- The server looks at the low 32 bits of the difference. -/
theorem checkTimestamp_iff (platform : Platform) (server : IEC104Server)
    (timestamp : CP56Time2a) (currentTime : Nat) :
    checkTimestamp platform server timestamp currentTime = true ↔
      (distance currentTime (platform.toMsTimestamp timestamp) : Int) %
          0x100000000 ≤
        window server := by
  have small : window server < 0x80000000 := toInt32_lt _
  rw [← toInt32_between_iff small]
  have difference :
      (if currentTime < platform.toMsTimestamp timestamp then
          toInt32 (platform.toMsTimestamp timestamp - currentTime)
        else
          toInt32 (currentTime - platform.toMsTimestamp timestamp)) =
        toInt32
          (distance currentTime (platform.toMsTimestamp timestamp)) := by
    unfold distance
    split
    · congr 1
      omega
    · congr 1
      omega
  simp only [checkTimestamp, difference, window]
  simp [and_comm]

/--
The comparison with 32 bits gives the same as the exact one: the product fits,
and the times are less than 2^32 milliseconds apart or differ by more than the
window in the low 32 bits, too.
-/
def IsExact (timeout : Int) (difference : Nat) : Prop :=
  timeout ≤ 2147483 ∧
    (difference < 0x100000000 ∨
      timeout * 1000 < (difference : Int) % 0x100000000)

instance (timeout : Int) (difference : Nat) :
    Decidable (IsExact timeout difference) :=
  inferInstanceAs (Decidable (_ ∧ _))

/-- The window of a timeout whose product fits. -/
theorem window_of_fits {server : IEC104Server}
    (enabled : 1 ≤ server.config.cmdRecvTimeout)
    (fits : server.config.cmdRecvTimeout ≤ 2147483) :
    window server = server.config.cmdRecvTimeout * 1000 :=
  toInt32_of_isInt32 ⟨by omega, by omega⟩

/--
The server accepts exactly the times within the window when the comparison is
exact, and as long as the product fits only then.
-/
theorem checkTimestamp_window (platform : Platform)
    (server : IEC104Server) (timestamp : CP56Time2a) (currentTime : Nat)
    (enabled : 1 ≤ server.config.cmdRecvTimeout) :
    (IsExact server.config.cmdRecvTimeout
          (distance currentTime (platform.toMsTimestamp timestamp)) →
        (checkTimestamp platform server timestamp currentTime = true ↔
          distance currentTime (platform.toMsTimestamp timestamp) ≤
            server.config.cmdRecvTimeout * 1000)) ∧
      (server.config.cmdRecvTimeout ≤ 2147483 →
        (checkTimestamp platform server timestamp currentTime = true ↔
          distance currentTime (platform.toMsTimestamp timestamp) ≤
            server.config.cmdRecvTimeout * 1000) →
        IsExact server.config.cmdRecvTimeout
          (distance currentTime (platform.toMsTimestamp timestamp))) := by
  rw [checkTimestamp_iff]
  generalize distance currentTime (platform.toMsTimestamp timestamp) =
    difference
  constructor
  · rintro ⟨fits, low⟩
    rw [window_of_fits enabled fits]
    omega
  · intro fits exact
    refine ⟨fits, ?_⟩
    rw [window_of_fits enabled fits] at exact
    omega

/-- A time tag. -/
def sampleTag : CP56Time2a :=
  ⟨20000, 13, false, false, 22, false, 14, 2, 11, 23⟩

/-- `samplePlatform` with a fixed number of milliseconds for a time tag. -/
def fixedPlatform : Platform :=
  { samplePlatform with toMsTimestamp := fun _ => 1700000000000 }

/-- `sampleServer` with a given `cmd_recv_timeout`. -/
def windowServer (cmdRecvTimeout : Int) : IEC104Server :=
  { sampleServer with
    config := { sampleServer.config with cmdRecvTimeout := cmdRecvTimeout } }

theorem checkTimestamp_window_sample :
    IsExact 10 (distance 1700000010001 1700000000000) ∧
      (checkTimestamp fixedPlatform (windowServer 10) sampleTag
            1700000010001 =
          true ↔
        (distance 1700000010001 1700000000000 : Int) ≤ 10 * 1000) :=
  ⟨by decide,
    (checkTimestamp_window fixedPlatform (windowServer 10) sampleTag
      1700000010001 (by decide)).1 (by decide)⟩

/--
A command that is 2^32 ms old is accepted with a timeout of one second, and one
that is not old at all is refused with a timeout of 2147484 seconds.
-/
theorem checkTimestamp_wrong :
    (checkTimestamp fixedPlatform (windowServer 1) sampleTag
            1704294967296 =
          true ∧
        ¬ (distance 1704294967296 1700000000000 : Int) ≤ 1 * 1000) ∧
      checkTimestamp fixedPlatform (windowServer 2147484) sampleTag
            1700000000000 =
          false ∧
        (distance 1700000000000 1700000000000 : Int) ≤ 2147484 * 1000 := by
  decide

/-- A timeout whose product does not fit refuses a time within its window. -/
theorem exists_refused_within (platform : Platform) (server : IEC104Server)
    (timestamp : CP56Time2a)
    (long : 2147483 < server.config.cmdRecvTimeout) :
    ∃ currentTime,
      currentTime ≤ platform.toMsTimestamp timestamp + 0x80000000 ∧
        distance currentTime (platform.toMsTimestamp timestamp) ≤
          server.config.cmdRecvTimeout * 1000 ∧
        checkTimestamp platform server timestamp currentTime = false := by
  have small : window server < 0x80000000 := toInt32_lt _
  -- the first difference beyond the window that is computed
  refine
    ⟨platform.toMsTimestamp timestamp + (window server + 1).toNat, ?_, ?_,
      ?_⟩
  · omega
  · unfold distance
    omega
  · rw [← Bool.not_eq_true, checkTimestamp_iff]
    unfold distance
    omega

end Iec104North.CommandTimes
