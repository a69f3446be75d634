import Mathlib.Data.BitVec
import NodeBridge.Reasoning.Runs
import NodeBridge.Utils.ConfigSafety
import NodeBridge.Utils.DeviceSettings

/-!
# The serial port

`usb_com_start`: how the port is set up, and the loop that hands every successful `read` to
`forwarder_send`.  Of the line settings in the configuration only the baud rate is looked at.
-/

open Reasoning

namespace NodeBridge

/-! ## Setting up the port -/

-- The values of `<termios.h>` on Linux.
namespace Termios

def b9600 : BitVec 32 := 0x0d
def b19200 : BitVec 32 := 0x0e
def b38400 : BitVec 32 := 0x0f
def b57600 : BitVec 32 := 0x1001
def b115200 : BitVec 32 := 0x1002

def csize : BitVec 32 := 0x30
def cs8 : BitVec 32 := 0x30
def cstopb : BitVec 32 := 0x40
def cread : BitVec 32 := 0x80
def parenb : BitVec 32 := 0x100
def clocal : BitVec 32 := 0x800

end Termios

/-- What `usb_com_start` sets of a `struct termios`; the speeds are kept apart from `c_cflag`. -/
structure Termios where
  cFlag : BitVec 32
  ispeed : BitVec 32
  ospeed : BitVec 32

open Termios in
def getBaudrate (baud : Int) : BitVec 32 :=
  match baud with
  | 9600 => b9600
  | 19200 => b19200
  | 38400 => b38400
  | 57600 => b57600
  | 115200 => b115200
  | _ => b9600

open Termios in
-- The assignments to `tty.c_cflag`, in their order.
def comFlags (cFlag : BitVec 32) : BitVec 32 :=
  (((cFlag ||| (clocal ||| cread)) &&& ~~~parenb) &&& ~~~cstopb) &&& ~~~csize ||| cs8

def comSettings (cfg : UsbCom) (tty : Termios) : Termios where
  cFlag := comFlags tty.cFlag
  ispeed := getBaudrate cfg.baudrate
  ospeed := getBaudrate cfg.baudrate

/-- `usb_com_start` up to its loop, where `opened` is whether `open` succeeds and `tty` what
    `tcgetattr` gives.  None where it returns. -/
def comPort (cfg : UsbCom) (opened : Bool) (tty : Termios) : Except Fault (Option Termios) := do
  let port ← readString cfg.port
  return if port.length = 0 then none else if opened then some (comSettings cfg tty) else none

structure ComReader where
  tty : Termios
  buf : Vector UInt8 100
  sent : List (List UInt8)

/-- What a successful `read(fd, buf, sizeof(buf))` gives. -/
structure ComData where
  bytes : List UInt8
  fits : bytes.length ≤ 100

def comRead (buf : Vector UInt8 100) (data : ComData) : Vector UInt8 100 :=
  Vector.ofFn fun i => data.bytes.getD i buf[i]

-- `forwarder_send(buf, len)`, also for a `len` of 0; an error goes on to the next `read`.
def usbComStep (s : ComReader) : Option ComData → ComReader
  | none => s
  | some data =>
      { s with
        buf := comRead s.buf data
        sent := s.sent ++ [(comRead s.buf data).toList.take data.bytes.length] }

/-- The block is what was read, whatever `buf` held before. -/
theorem comRead_take (buf : Vector UInt8 100) (data : ComData) :
    (comRead buf data).toList.take data.bytes.length = data.bytes := by
  have hfits := data.fits
  apply List.ext_getElem
  · rw [List.length_take, Vector.length_toList]
    omega
  · intro i hi hi'
    simp [comRead, List.getD_eq_getElem?_getD, hi']

theorem usbComStep_tty (s : ComReader) (result : Option ComData) :
    (usbComStep s result).tty = s.tty := by
  cases result with
  | none => rfl
  | some data => rw [usbComStep]

theorem usbComStep_sent (s : ComReader) (result : Option ComData) :
    (usbComStep s result).sent = s.sent ++ (result.map ComData.bytes).toList := by
  cases result with
  | none => exact (List.append_nil _).symm
  | some data => rw [usbComStep, comRead_take]; rfl

end NodeBridge
