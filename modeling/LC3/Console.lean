import LC3.Event

/-!
# Consoles

A console takes bytes and can be asked to make them visible. Writing is all
or nothing to the machine: either every byte was taken, or the console
failed, with some of the bytes taken or none.
-/

namespace LC3

/-- **What a console does.** -/
class Console (ω : Type) where
  /-- Takes all the bytes, or fails. -/
  write : ω → List UInt8 → Except DeviceError Unit × ω
  /-- Makes the bytes visible that were taken. -/
  flush : ω → Except DeviceError Unit × ω

end LC3
