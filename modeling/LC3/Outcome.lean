import LC3.Memory

/-!
# How a step ends

A step of the machine leaves it running, or halts it, or ends in a **fault**:
the program executed an operation without a meaning, shutdown was requested,
a device failed, or the step limit was reached. A fourth end, the crash, is
for a violation inside the machine. The step counter is the only way into it,
after more instructions than any run can execute.
-/

namespace LC3

/-- **Why a run ended other than by halting.** -/
inductive Fault where
  /-- An operation without a meaning, by its code, was executed at an
  address. -/
  | reservedOpcode (code : UInt8) (address : Word)
  /-- Shutdown was requested. -/
  | interrupted
  /-- The keyboard or the console failed. -/
  | device (error : DeviceError)
  /-- The step limit was reached. -/
  | stepLimit (limit : UInt64)
  deriving DecidableEq, Repr

/-- **How a step ends.** -/
inductive Outcome where
  /-- The machine goes on. -/
  | running
  /-- The program halted. -/
  | halted
  /-- The run ended for another reason. -/
  | fault (fault : Fault)
  /-- A part of the machine refused what it was asked. -/
  | crash (violation : Violation)
  deriving DecidableEq, Repr

/-- **The registers and the memory**, all that an instruction works on. -/
structure Core where
  /-- The register file. -/
  registers : Registers
  /-- The memory, with the registers of the keyboard. -/
  memory : Memory
  deriving DecidableEq

end LC3
