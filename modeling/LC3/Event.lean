import LC3.Instruction

/-!
# What a run reports

While the machine runs it reports **events**: that an instruction was
executed, that the keyboard could not be polled, that a word was stored. An
event is data and not text, so that a statement about a run can speak of the
events in it. Most events are also worth a line in a log, at one of five
levels; the ones that record a single access are not, and have no line. An
event is filed under the part of the program that reports it.
-/

namespace LC3

/-- The failure of a device, by the text the device gives. -/
structure DeviceError where
  /-- What the device says. -/
  text : String
  deriving DecidableEq, Repr

/-- **What is reported while the machine runs.** -/
inductive Event where
  /-- The step limit stopped the machine. -/
  | limitReached (limit : UInt64)
  /-- The poll between instructions failed and will not be made again. -/
  | pollAbandoned (error : DeviceError)
  /-- The machine stopped because shutdown was requested. -/
  | interrupted
  /-- An instruction was fetched from an address and is about to take
  effect. -/
  | executed (address : Word) (instruction : Instruction)
  /-- An operation without a meaning stopped the machine. -/
  | reservedOpcode (opcode : Opcode) (address : Word)
  /-- A trap without a routine was skipped. -/
  | unknownTrap (vector : UInt8)
  /-- A read of the keyboard status could not poll the keyboard. -/
  | statusPollFailed (error : DeviceError)
  /-- The input stream of the keyboard has ended. -/
  | endOfInput
  /-- CTRL-C was pressed. -/
  | shutdownRequested
  /-- The registers and the step count were reset. -/
  | registersReset
  /-- A program of so many words was loaded at an origin. -/
  | programLoaded (count : Nat) (origin : Word)
  /-- The program halted after so many instructions. -/
  | programHalted (steps : UInt64)
  /-- Input is read from a stream, since there is no terminal. -/
  | streamInput
  /-- The terminal mode is left alone, since there is no terminal. -/
  | streamMode
  /-- A word was stored by the program. -/
  | stored (address value : Word)
  /-- The keyboard status was read: whether a character was already held for
  the program, whether one is held now, and the keyboard data as they are
  now. -/
  | statusRead (held ready : Bool) (data : Word)
  /-- The keyboard data was read: whether a character was held for the
  program, and the word that was read. -/
  | dataRead (held : Bool) (value : Word)
  deriving DecidableEq

/-- **How much a log line matters**, the gravest first. -/
inductive Level where
  | error
  | warn
  | info
  | debug
  | trace
  deriving DecidableEq, Repr

namespace Level

/-- The place of a level, the gravest first. -/
def rank : Level → Nat
  | error => 1
  | warn => 2
  | info => 3
  | debug => 4
  | trace => 5

/-- The name of a level at the head of a line. -/
def name : Level → String
  | error => "ERROR"
  | warn => "WARN"
  | info => "INFO"
  | debug => "DEBUG"
  | trace => "TRACE"

/-- All levels, the gravest first. -/
def all : List Level := [error, warn, info, debug, trace]

end Level

/-- **The parts of the program** that report events. -/
inductive Part where
  | emulator
  | memory
  | keyboard
  | terminal
  deriving DecidableEq, Repr

/-- The name under which a part files its events. -/
def Part.name : Part → String
  | emulator => "lc3_vm::emulator"
  | memory => "lc3_vm::hardware::memory"
  | keyboard => "lc3_vm::hardware::keyboard"
  | terminal => "lc3_vm::terminal"

namespace Event

/-- The level at which an event is logged, if it is logged at all. -/
def level? : Event → Option Level
  | reservedOpcode .. => some .error
  | pollAbandoned .. | unknownTrap .. | statusPollFailed .. => some .warn
  | limitReached .. | interrupted | shutdownRequested | programHalted .. => some .info
  | endOfInput | registersReset | programLoaded .. | streamInput | streamMode => some .debug
  | executed .. => some .trace
  | stored .. | statusRead .. | dataRead .. => none

/-- Whether an event is logged where the log goes down to a level: the graver
levels are in it too. -/
def reaches (event : Event) (least : Level) : Bool :=
  event.level?.any fun level => level.rank ≤ least.rank

/-- The part of the program that reports an event. -/
def part : Event → Part
  | limitReached .. | pollAbandoned .. | interrupted | executed .. | reservedOpcode ..
  | unknownTrap .. | registersReset | programLoaded .. | programHalted .. | streamInput => .emulator
  | statusPollFailed .. | stored .. | statusRead .. | dataRead .. => .memory
  | endOfInput | shutdownRequested => .keyboard
  | streamMode => .terminal

end Event

end LC3
