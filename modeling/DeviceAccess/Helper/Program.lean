import DeviceAccess.Helper.Client
import DeviceAccess.Helper.Frame

/-!
# Helper programs

A helper program is started once for each request: it gets the request in a frame as its input, and
its output begins with the frame of the answer. What it writes behind that frame and how it ends does
not matter.

Which programs there are and what they write is up to the system, and is a parameter here.
-/

namespace DeviceAccess

open Text

/-- The programs of a system. Starting the one at a path with arguments fails, or gives what it makes
of its input: it breaks off while it is written to, or there is output. -/
structure Programs where
  start : String → List String → Except IoFault (Octets → Except IoFault Octets)

namespace Program

/-- Sends a message to a program and gives its answer. -/
def exchange (programs : Programs) (path : String) (args : List String) (message : Octets) :
    Except IoFault Octets := do
  -- a program that is not there is noticed before the message is looked at
  let outputFor ← programs.start path args
  let frame ← Frame.write message
  let (answer, _) ← Frame.read (← outputFor frame)
  return answer

/-- The way to a helper that is a program. -/
def transport (programs : Programs) (path : String) (args : List String) : Transport Unit :=
  fun message _ => (exchange programs path args message, ())

end Program

end DeviceAccess
