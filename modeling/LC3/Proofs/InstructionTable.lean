import LC3.Console.Collector
import LC3.Keyboard.Scripted
import LC3.Proofs.KeyboardRegisters
import LC3.Proofs.Quiet
import LC3.Proofs.Step

/-!
# The table of instructions

What the thirteen ordinary instructions do is a table: one row for each
operation, with the fields it reads and the registers and the memory it
leaves. This module writes the table with exact numbers. A register is a
number from zero on, a distance is a signed number, an address is their sum,
and only what is stored is cut to a word. Where a row writes, it says for every
register or every cell what is in it afterwards (`Table.replaced`), so that the
table owes nothing to how the machine writes them. A row asks no device by
itself. It reads memory word by word, in the order of the table, and each read
has the effects that reading memory has.

The machine computes with words that wrap around, shifts and masks. That it
does what the table says, `Core.execute_agrees_row`, is a comparison row by
row; what takes its place in the table for the three operations with rows of
their own, traps and the two without a meaning, is `none`.

`System.step_eq_row` puts the row into a whole step: after the checks at the
start of a step nothing can keep the machine from doing what the table says,
but for a step counter that is used up.
-/

namespace LC3

namespace Table

/-- The number in a general register. -/
def number (core : Core) (i : Fin 8) : Int := (core.registers.general.get i).toNat

/-- **All entries are what they were** but one, which is a new one. -/
def replaced {n : Nat} (entries : Vector Word n) (i : Fin n) (w : Word) : Vector Word n :=
  .ofFn fun j => if j = i then w else entries.get j

/-- **The flag of a value:** the sign it has in two's complement. -/
def sign (value : Word) : Flag :=
  if value.signedBits 16 < 0 then .negative
  else if value.signedBits 16 = 0 then .zero
  else .positive

/-- A result is put into a register, and its sign into the flag. The other seven
registers stay, and so does the program counter. -/
def put (core : Core) (dr : Fin 8) (result : Int) : Core :=
  { core with registers :=
      { core.registers with
        general := replaced core.registers.general dr (.wrap result)
        flag := sign (.wrap result) } }

/-- The program goes on at an address. -/
def goTo (core : Core) (address : Int) : Core :=
  { core with registers := { core.registers with pc := .wrap address } }

/-- The word at an address is read, as a number. -/
def load (core : Core) (address : Int) : Dialogue (Int × Core) := do
  let (w, memory) ← core.memory.read (.wrap address)
  return (w.toNat, { core with memory := memory })

/-- A register is stored at an address, and at no other. -/
def store (core : Core) (sr : Fin 8) (address : Int) : Core :=
  { core with memory :=
      ⟨replaced core.memory.cells (Word.wrap address).toFin (core.registers.general.get sr)⟩ }

/-- The way back from a subroutine is left in the last register. -/
def saveReturn (core : Core) : Core :=
  { core with registers :=
      { core.registers with general := replaced core.registers.general (.last 7) core.registers.pc } }

/-- The bit of a branch that names a flag. -/
def signBit : Flag → Nat
  | .negative => 11
  | .zero => 10
  | .positive => 9

/-- The second operand of an arithmetic instruction. -/
def operand (w : Word) (core : Core) : Int :=
  if w.toNat.testBit 5 then w.signedBits 5 else number core (w.register 0)

/-- The number in the bits that two words share. -/
def meet (a b : Int) : Int := ((Word.wrap a).toNat &&& (Word.wrap b).toNat : Nat)

/-- The place that the program counter is at while an instruction takes
effect: the instruction after it. -/
def place (core : Core) : Int := core.registers.pc.toNat

/-- **The row of an instruction**, by its word. There is none for traps and
for the operations without a meaning. -/
def row? (w : Word) : Option (Core → Dialogue Core) :=
  let dr := w.register 9
  let base := w.register 6
  match w.bits 12 4 with
  -- BR
  | 0 => some fun core =>
      if w.toNat.testBit (signBit core.registers.flag) then
        return goTo core (place core + w.signedBits 9)
      else return core
  -- ADD
  | 1 => some fun core => return put core dr (number core base + operand w core)
  -- LD
  | 2 => some fun core => do
      let (value, core) ← load core (place core + w.signedBits 9)
      return put core dr value
  -- ST
  | 3 => some fun core => return store core dr (place core + w.signedBits 9)
  -- JSR and JSRR
  | 4 => some fun core =>
      let core := saveReturn core
      return goTo core
        (if w.toNat.testBit 11 then place core + w.signedBits 11 else number core base)
  -- AND
  | 5 => some fun core => return put core dr (meet (number core base) (operand w core))
  -- LDR
  | 6 => some fun core => do
      let (value, core) ← load core (number core base + w.signedBits 6)
      return put core dr value
  -- STR
  | 7 => some fun core => return store core dr (number core base + w.signedBits 6)
  -- NOT
  | 9 => some fun core => return put core dr (2 ^ 16 - 1 - number core base)
  -- LDI
  | 10 => some fun core => do
      let (address, core) ← load core (place core + w.signedBits 9)
      let (value, core) ← load core address
      return put core dr value
  -- STI
  | 11 => some fun core => do
      let (address, core) ← load core (place core + w.signedBits 9)
      return store core dr address
  -- JMP
  | 12 => some fun core => return goTo core (number core base)
  -- LEA
  | 14 => some fun core => return put core dr (place core + w.signedBits 9)
  | _ => none

/-- Every operation has a row but the two without a meaning and the
traps. -/
theorem exists_row {w : Word} (hw : w.bits 12 4 ∉ [8, 13, 15]) :
    ∃ row, row? w = some row := by
  have hlt := w.bits_lt 12 4
  simp only [List.mem_cons, List.not_mem_nil, or_false, not_or] at hw
  unfold row?
  dsimp only
  split
  case h_14 =>
    simp only [imp_false] at *
    omega
  all_goals exact ⟨_, rfl⟩

end Table

/-! ## Words and numbers

What the table writes with numbers the machine writes with words. `wrap` leads
from one to the other, and for every way of computing a number that the table
has there is a lemma that says which computation with words it is. -/

open Word (wrap wrap_toNat wrap_add)

/-- The flag of a word is its sign in two's complement. -/
theorem Table.sign_eq_ofWord (w : Word) : sign w = .ofWord w := by
  have hlt : w.toNat < 2 ^ 16 := w.toNat_lt
  have hbits : w.bits 0 16 = w.toNat := by
    rw [Word.bits, Nat.pow_zero, Nat.div_one, Nat.mod_eq_of_lt hlt]
  have htop : w >>> 15 = 1 ↔ 2 ^ 15 ≤ w.toNat := by
    rw [← UInt16.toNat_inj, UInt16.toNat_shiftRight]
    show w.toNat >>> 15 = 1 ↔ _
    rw [Nat.shiftRight_eq_div_pow]
    omega
  have hzero : w = 0 ↔ w.toNat = 0 := UInt16.toNat_inj.symm
  unfold sign Flag.ofWord
  rcases Nat.lt_or_ge w.toNat (2 ^ 15) with h | h
  · rw [w.signedBits_of_lt (by decide) (hbits.symm ▸ h), hbits, if_neg (by omega)]
    by_cases h0 : w.toNat = 0
    · rw [if_pos (by omega), if_pos (hzero.2 h0)]
    · rw [if_neg (by omega), if_neg (fun hw => h0 (hzero.1 hw)),
        if_neg (fun hw => absurd (htop.1 hw) (by omega))]
  · rw [w.signedBits_of_le (by decide) (hbits.symm ▸ h), hbits, if_pos (by omega),
      if_neg (fun hw => absurd (hzero.1 hw) (by omega)), if_pos (htop.2 h)]

/-- Setting an entry of a vector is replacing it. -/
theorem Table.replaced_eq_set {n : Nat} (entries : Vector Word n) (i : Fin n) (w : Word) :
    replaced entries i w = entries.set i.val w i.isLt := by
  refine Vector.ext fun j hj => ?_
  rw [replaced, Vector.getElem_ofFn, Vector.getElem_set]
  exact if_congr (Fin.ext_iff.trans eq_comm) rfl rfl

/-- Putting a result is assigning its word. -/
theorem Table.put_eq_assign (core : Core) (dr : Fin 8) (result : Int) :
    put core dr result = core.assign dr (wrap result) := by
  unfold put
  rw [sign_eq_ofWord, replaced_eq_set]
  rfl

/-- Storing a register is writing its word to the memory. -/
theorem Table.store_eq_write (core : Core) (sr : Fin 8) (address : Int) :
    store core sr address
      = { core with memory := core.memory.write (wrap address) (core.registers.get sr) } := by
  unfold store
  rw [replaced_eq_set]
  rfl

/-- Leaving the way back is setting the register that holds it. -/
theorem Table.saveReturn_eq_set (core : Core) :
    saveReturn core
      = { core with registers := core.registers.set Registers.r7 core.registers.pc } := by
  unfold saveReturn
  rw [replaced_eq_set]
  rfl

/-- Going on at an address is jumping to its word. -/
theorem Table.goTo_eq_jump (core : Core) (address : Int) :
    goTo core address = core.jump (wrap address) := rfl

/-- The number in a register stands for the word in it. -/
@[simp] theorem Table.wrap_number (core : Core) (i : Fin 8) :
    wrap (number core i) = core.registers.get i := wrap_toNat _

/-- An address near the program counter. -/
theorem Table.wrap_place_add (core : Core) (n : Int) :
    wrap (place core + n) = core.near (wrap n) := by
  rw [wrap_add, place, wrap_toNat]
  rfl

/-- An address at a distance from a base register. -/
theorem Table.wrap_number_add (core : Core) (i : Fin 8) (n : Int) :
    wrap (number core i + n) = core.beyond i (wrap n) := by
  rw [wrap_add, wrap_number]
  rfl

/-- The second operand is the one that the machine computes with. -/
theorem Table.wrap_operand (w : Word) (core : Core) :
    wrap (operand w core) = core.operand (.ofWord w) := by
  unfold operand Core.operand
  show wrap (if _ then _ else _) = if w.toNat.testBit 5 = true then _ else _
  split
  · rfl
  · exact wrap_toNat _

/-- The complement of a word is what it lacks of all ones. -/
theorem Table.wrap_not_number (core : Core) (i : Fin 8) :
    wrap (2 ^ 16 - 1 - number core i) = ~~~ core.registers.get i := by
  have hlt : (core.registers.get i).toNat < 2 ^ 16 := (core.registers.get i).toNat_lt
  have hcast : (2 ^ 16 - 1 - number core i : Int)
      = ((2 ^ 16 - 1 - (core.registers.get i).toNat : Nat) : Int) := by
    show (2 ^ 16 - 1 - ((core.registers.get i).toNat : Int)) = _
    omega
  rw [hcast, ← UInt16.toNat_inj, Word.toNat_wrap_natCast (by omega), UInt16.toNat_not]
  rfl

/-- The bits that two numbers share are those that their words share. -/
theorem Table.wrap_meet (a b : Int) : wrap (meet a b) = wrap a &&& wrap b := by
  unfold meet
  rw [← UInt16.toNat_inj, Word.toNat_wrap_natCast (Nat.and_lt_two_pow _ (wrap b).toNat_lt)]
  exact (UInt16.toNat_and _ _).symm

/-- **A branch is taken on a sign** exactly if the bit of the flag is among
the three of the instruction. -/
theorem Table.signs_and_bits_eq_zero_iff (w : Word) (flag : Flag) :
    (Instruction.ofWord w).signs &&& flag.bits = 0
      ↔ w.toNat.testBit (signBit flag) = false := by
  have hsigns : (Instruction.ofWord w).signs.toNat = w.bits 9 3 :=
    Word.toNat_wrap_natCast ((w.bits_lt 9 3).trans (by decide))
  obtain ⟨i, hi, hbits, hbit⟩ : ∃ i, i < 3 ∧ flag.bits.toNat = 2 ^ i ∧ signBit flag = i + 9 := by
    cases flag with
    | positive => exact ⟨0, by decide, rfl, rfl⟩
    | zero => exact ⟨1, by decide, rfl, rfl⟩
    | negative => exact ⟨2, by decide, rfl, rfl⟩
  have htest : (w.bits 9 3).testBit i = w.toNat.testBit (i + 9) := by
    rw [Word.bits, Nat.testBit_mod_two_pow, Nat.testBit_div_two_pow, decide_eq_true hi,
      Bool.true_and]
  rw [← UInt16.toNat_inj, UInt16.toNat_and, hsigns, hbits, Nat.and_two_pow, htest, hbit]
  show _ = 0 ↔ _
  cases w.toNat.testBit (i + 9) <;> simp

/-! ## The machine does what the table says

Two dialogues agree if they differ only in what they report. The machine reports
what it stores and the table does not, which is all there is between them. A row
is compared in its parts: what it reads, what it computes, and what it writes in
the end. -/

namespace Core

/-- The operation of a word with a given code. -/
theorem opcode_ofWord {w : Word} {n : Nat} {opcode : Opcode} (h : w.bits 12 4 = n)
    (hn : Opcode.ofCode? (UInt8.ofNat n) = some opcode) :
    (Instruction.ofWord w).opcode = opcode := by
  show (Opcode.ofCode? (UInt8.ofNat (w.bits 12 4))).getD .res = opcode
  rw [h, hn]
  rfl

/-- Reading a number is reading a word. -/
theorem load_bind {β : Type} (core : Core) (address : Int) (f : Int × Core → Dialogue β) :
    Table.load core address >>= f
      = core.read (wrap address) >>= fun (w, core) => f (w.toNat, core) := by
  unfold Table.load Core.read
  rw [bind_assoc, bind_assoc]
  rfl

/-- **A read comes before what follows it**, with the word it finds and the memory and the
devices as it leaves them. -/
theorem hold_load_bind {κ ω β : Type} [Keyboard κ] [Console ω] (core : Core) (address : Int)
    (f : Int × Core → Dialogue β) (k : κ) (c : ω) :
    (Table.load core address >>= f).hold k c
      = (let read := (core.memory.read (wrap address)).hold k c
        ((f (read.value.1.toNat, { core with memory := read.value.2 })).hold read.keyboard
          read.console).after read.exchanges) := by
  rw [load_bind, Core.read, bind_assoc, Dialogue.hold_bind]
  rfl

/-- A result is put where the machine assigns it, if it stands for the same word. -/
theorem agrees_put (core : Core) (dr : Fin 8) {value : Word} {result : Int}
    (h : wrap result = value) :
    (goOn (core.assign dr value)).Agrees ((return Table.put core dr result) >>= goOn) := by
  show goOn _ = goOn _
  rw [Table.put_eq_assign, h]

/-- The program goes on where the machine jumps, if that is the same word. -/
theorem agrees_goTo (core : Core) {target : Word} {address : Int} (h : wrap address = target) :
    (goOn (core.jump target)).Agrees ((return Table.goTo core address) >>= goOn) := by
  show goOn _ = goOn _
  rw [Table.goTo_eq_jump, h]

/-- The machine reports what it stores, and the table does not. -/
theorem agrees_store (core : Core) (sr : Fin 8) {a : Word} {address : Int}
    (h : wrap address = a) :
    (core.store sr a >>= goOn).Agrees ((return Table.store core sr address) >>= goOn) := by
  subst h
  rw [Table.store_eq_write]
  rfl

/-- **What follows a read** is compared for every word that may be read and
whatever the read did to the memory. -/
theorem agrees_load (core : Core) {a : Word} {address : Int} (h : wrap address = a)
    {f : Word × Core → Dialogue (Outcome × Core)} {g : Int × Core → Dialogue Core}
    (hfg : ∀ w core, (f (w, core)).Agrees (g (w.toNat, core) >>= goOn)) :
    (core.read a >>= f).Agrees ((Table.load core address >>= g) >>= goOn) := by
  subst h
  rw [bind_assoc, load_bind]
  exact Dialogue.Agrees.bind _ fun (w, core) => hfg w core

/-- **An instruction does what its row says**, reports apart, and leaves the
machine running. -/
theorem execute_agrees_row {w : Word} {row : Core → Dialogue Core} (h : Table.row? w = some row)
    (config : Config) (address : Word) (core : Core) :
    (core.execute config address (.ofWord w)).Agrees (row core >>= goOn) := by
  unfold Table.row? at h
  dsimp only at h
  split at h
  case h_14 => exact absurd h (by simp)
  all_goals
    obtain rfl := Option.some.inj h
    unfold execute
  case h_1 hcode => -- BR
    rw [opcode_ofWord hcode rfl]
    show Dialogue.Agrees (if (Instruction.ofWord w).signs &&& core.registers.flag.bits = 0
        then goOn core else goOn (core.jump (core.near (wrap (w.signedBits 9)))))
      ((if w.toNat.testBit (Table.signBit core.registers.flag) = true
        then return Table.goTo core (Table.place core + w.signedBits 9) else return core) >>= goOn)
    have hsigns := Table.signs_and_bits_eq_zero_iff w core.registers.flag
    by_cases htaken : w.toNat.testBit (Table.signBit core.registers.flag) = true
    · rw [if_neg (fun h0 => Bool.false_ne_true ((hsigns.1 h0).symm.trans htaken)), if_pos htaken]
      exact agrees_goTo core (Table.wrap_place_add core _)
    · rw [if_pos (hsigns.2 (Bool.eq_false_iff.2 htaken)), if_neg htaken]
      rfl
  case h_2 hcode => -- ADD
    rw [opcode_ofWord hcode rfl]
    refine agrees_put core (w.register 9) ?_
    rw [wrap_add, Table.wrap_number, Table.wrap_operand]
    rfl
  case h_3 hcode => -- LD
    rw [opcode_ofWord hcode rfl]
    exact agrees_load core (Table.wrap_place_add core _)
      fun value core => agrees_put core (w.register 9) (wrap_toNat value)
  case h_4 hcode => -- ST
    rw [opcode_ofWord hcode rfl]
    exact agrees_store core (w.register 9) (Table.wrap_place_add core _)
  case h_5 hcode => -- JSR and JSRR: the way back is saved before the target is computed
    rw [opcode_ofWord hcode rfl]
    dsimp only
    rw [Table.saveReturn_eq_set]
    refine agrees_goTo { core with registers := core.registers.set 7 core.registers.pc } ?_
    show wrap (if _ then _ else _) = if w.toNat.testBit 11 = true then _ else _
    split
    · exact Table.wrap_place_add _ _
    · exact Table.wrap_number _ _
  case h_6 hcode => -- AND
    rw [opcode_ofWord hcode rfl]
    refine agrees_put core (w.register 9) ?_
    rw [Table.wrap_meet, Table.wrap_number, Table.wrap_operand]
    rfl
  case h_7 hcode => -- LDR
    rw [opcode_ofWord hcode rfl]
    exact agrees_load core (Table.wrap_number_add core _ _)
      fun value core => agrees_put core (w.register 9) (wrap_toNat value)
  case h_8 hcode => -- STR
    rw [opcode_ofWord hcode rfl]
    exact agrees_store core (w.register 9) (Table.wrap_number_add core _ _)
  case h_9 hcode => -- NOT
    rw [opcode_ofWord hcode rfl]
    exact agrees_put core (w.register 9) (Table.wrap_not_number core _)
  case h_10 hcode => -- LDI
    rw [opcode_ofWord hcode rfl]
    exact agrees_load core (Table.wrap_place_add core _) fun a core =>
      agrees_load core (wrap_toNat a)
        fun value core => agrees_put core (w.register 9) (wrap_toNat value)
  case h_11 hcode => -- STI
    rw [opcode_ofWord hcode rfl]
    exact agrees_load core (Table.wrap_place_add core _)
      fun a core => agrees_store core (w.register 9) (wrap_toNat a)
  case h_12 hcode => -- JMP
    rw [opcode_ofWord hcode rfl]
    exact agrees_goTo core (Table.wrap_number core _)
  case h_13 hcode => -- LEA
    rw [opcode_ofWord hcode rfl]
    exact agrees_put core (w.register 9) (Table.wrap_place_add core _)

end Core

/-! ## A whole step

A step gets to the row if it is not stopped before: by the limit, by a request
for shutdown, or by a counter that is full. Between those and the row there are
the poll and the fetch. -/

namespace Machine

variable {κ ω : Type} [Keyboard κ] [Console ω]

/-- **A cycle is the row of the word it fetches**, if the step can be
counted. -/
theorem hold_cycle_of_row {m : Machine} (hleft : m.steps ≠ maxCount) {k : κ} {c : ω}
    {fetched : Course κ ω (Word × Memory)}
    (hfetched : (m.core.memory.read m.core.registers.pc).hold k c = fetched)
    {row : Core → Dialogue Core} (hrow : Table.row? fetched.value.1 = some row)
    {done : Course κ ω Core}
    (hdone : (row ⟨{ m.core.registers with pc := wrap (m.core.registers.pc.toNat + 1) },
      fetched.value.2⟩).hold fetched.keyboard fetched.console = done) :
    (m.cycle.hold k c).value = (.running, { m with core := done.value, steps := m.steps + 1 })
      ∧ (m.cycle.hold k c).keyboard = done.keyboard
      ∧ (m.cycle.hold k c).console = done.console := by
  have hnext : { m.core.registers with pc := wrap (m.core.registers.pc.toNat + 1) }
      = m.core.registers.advance := by
    rw [wrap_add, wrap_toNat]
    rfl
  rw [hnext] at hdone
  obtain ⟨hvalue, hkeyboard, hconsole⟩ := (Core.execute_agrees_row hrow m.config
    m.core.registers.pc ⟨m.core.registers.advance, fetched.value.2⟩).course_eq
      fetched.keyboard fetched.console
  rw [Dialogue.hold_bind, hdone] at hvalue hkeyboard hconsole
  rw [hold_cycle hleft, hold_fetch, hfetched]
  dsimp only
  rw [hvalue, hkeyboard, hconsole]
  exact ⟨rfl, rfl, rfl⟩

end Machine

namespace System

variable {κ ω : Type} [Keyboard κ] [Console ω]

/-- **A step of the machine is the row of its instruction.** If the step
passes its checks and the word it fetches is none of a trap and the two
operations without a meaning, the machine goes on, and its registers, its
memory and the devices are what the row makes of them, the program counter
having moved on first. Only a step counter that is used up keeps the
instruction from taking effect. -/
theorem step_eq_row (s : System κ ω) {w : Word} (hlimit : s.machine.limitReached? = none)
    (hrequested : Keyboard.requested s.polled.keyboard = false)
    (hfetch : s.polled.fetched.value.1 = w) (hw : w.bits 12 4 ∉ [8, 13, 15]) :
    ∃ row, Table.row? w = some row ∧
      let next := { s.machine.core.registers with
        pc := .wrap (s.machine.core.registers.pc.toNat + 1) }
      let done := (row ⟨next, s.polled.fetched.value.2⟩).hold s.polled.fetched.keyboard
        s.polled.fetched.console
      (s.machine.steps = Machine.maxCount → s.step.1 = .crash .arithmetic)
        ∧ (s.machine.steps ≠ Machine.maxCount →
          s.step.1 = .running
            ∧ s.step.2.1 = ⟨{ s.polled.machine with
                core := done.value, steps := s.machine.steps + 1 }, done.keyboard, done.console⟩) := by
  obtain ⟨row, hrow⟩ := Table.exists_row hw
  refine ⟨row, hrow, ?_⟩
  obtain ⟨hcore, -, hsteps⟩ := s.polled_machine
  rw [step_eq_cycle hlimit hrequested]
  constructor
  · intro hfull
    show (s.polled.machine.cycle.hold s.polled.keyboard s.polled.console).value.1 = _
    rw [Machine.hold_cycle_of_full (hsteps.trans hfull)]
  · intro hleft
    have hread : (s.polled.machine.core.memory.read s.polled.machine.core.registers.pc).hold
        s.polled.keyboard s.polled.console = s.polled.fetched := rfl
    obtain ⟨hvalue, hkeyboard, hconsole⟩ :=
      Machine.hold_cycle_of_row (hsteps ▸ hleft) hread (hfetch ▸ hrow) rfl
    unfold cycle
    rw [hvalue, hkeyboard, hconsole, hcore, hsteps]
    exact ⟨rfl, rfl⟩

/-- A program that reads the keyboard status through a pointer, at a step that
polls first. -/
def pointerToStatus : System Scripted Collector :=
  ⟨⟨⟨.initial, (Memory.empty.write 0x3000 0xA201).write 0x3002 Memory.statusAddress⟩,
    .default, 4095, false⟩, { queue := [0x61] }, {}⟩

/-- Its memory holds two words and no character. -/
theorem peek_pointerToStatus :
    pointerToStatus.machine.core.memory.peek 0x3000 = 0xA201
      ∧ pointerToStatus.machine.core.memory.peek 0x3002 = 0xFE00
      ∧ pointerToStatus.machine.core.memory.holds = false := by
  show ((Memory.empty.write 0x3000 0xA201).write 0x3002 _).peek 0x3000 = _
    ∧ ((Memory.empty.write 0x3000 0xA201).write 0x3002 _).peek 0x3002 = _
    ∧ (((Memory.empty.write 0x3000 0xA201).write 0x3002 _).peek 0xFE00 == _) = _
  rw [Memory.peek_write_ne _ _ (by decide), Memory.peek_write_self, Memory.peek_write_self,
    Memory.peek_write_ne _ _ (by decide), Memory.peek_write_ne _ _ (by decide), Memory.peek_empty]
  exact ⟨rfl, rfl, rfl⟩

/-- The first instruction is the one that was loaded, and fetching it asks nothing of
the keyboard. -/
theorem fetched_pointerToStatus :
    pointerToStatus.polled.fetched
      = ⟨(0xA201, pointerToStatus.machine.core.memory), { queue := [], latch := some 0x61 }, {},
          []⟩ := by
  have hread : pointerToStatus.machine.core.memory.read 0x3000
      = .done (0xA201, pointerToStatus.machine.core.memory) := by
    rw [Memory.read_eq_done _ (by decide) (by decide), peek_pointerToStatus.1]
  show (pointerToStatus.machine.core.memory.read 0x3000).hold _ _ = _
  rw [hread]
  rfl

/-- **The row of that program:** the pointer is read, and then the status, which takes the
character that the poll had found. -/
theorem hold_row_pointerToStatus {row : Core → Dialogue Core}
    (hrow : Table.row? 0xA201 = some row) {registers : Registers} (hpc : registers.pc = 0x3001) :
    ∃ exchanges, (row ⟨registers, pointerToStatus.machine.core.memory⟩).hold
        ({ queue := [], latch := some 0x61 } : Scripted) ({} : Collector)
      = ⟨Table.put ⟨registers, pointerToStatus.machine.core.memory.hold (some 0x61)⟩ 1 0x8000,
          { queue := [] }, {}, exchanges⟩ := by
  obtain ⟨-, hpointer, hfree⟩ := peek_pointerToStatus
  generalize pointerToStatus.machine.core.memory = memory at hpointer hfree ⊢
  obtain rfl : (fun core => do
      let (address, core) ← Table.load core (Table.place core + Word.signedBits 0xA201 9)
      let (value, core) ← Table.load core address
      return Table.put core 1 value) = row := Option.some.inj hrow
  have haddress : wrap (Table.place ⟨registers, memory⟩ + Word.signedBits 0xA201 9) = 0x3002 := by
    have hdistance : Word.signedBits 0xA201 9 = 1 := by decide
    rw [Table.place, hpc, hdistance, wrap_add, wrap_toNat]
    rfl
  have hread : memory.read 0x3002 = .done (0xFE00, memory) := by
    rw [Memory.read_eq_done _ (by decide) (by decide), hpointer]
  have hstatus : memory.read 0xFE00 = memory.readStatus := rfl
  have harrival : Memory.arrival.hold ({ queue := [], latch := some 0x61 } : Scripted)
      ({} : Collector)
        = ⟨some 0x61, { queue := [] }, {}, [.polled (.ok true), .took (some 0x61)]⟩ := rfl
  have hready : (memory.hold (some 0x61)).peek Memory.statusAddress = 0x8000 :=
    eq_of_beq (memory.holds_hold_some 0x61)
  rw [Core.hold_load_bind, haddress, hread]
  dsimp only [Dialogue.hold_done]
  rw [Core.hold_load_bind, wrap_toNat, hstatus, Memory.hold_readStatus_of_free hfree, harrival]
  dsimp only
  rw [hready]
  exact ⟨_, rfl⟩

/-- The status is ready and goes into R1, which makes the flag negative; the character has
been moved to the data register, and no other cell is changed. -/
theorem step_pointerToStatus :
    pointerToStatus.machine.limitReached? = none
      ∧ Keyboard.requested pointerToStatus.polled.keyboard = false
      ∧ pointerToStatus.polled.fetched.value.1 = 0xA201 ∧ Word.bits 0xA201 12 4 ∉ [8, 13, 15]
      ∧ (let next := pointerToStatus.step.2.1
        let core := next.machine.core
        pointerToStatus.step.1 = .running
          ∧ core.registers = ⟨#v[0, 0x8000, 0, 0, 0, 0, 0, 0], 0x3001, .negative⟩
          ∧ core.memory.peek 0xFE00 = 0x8000 ∧ core.memory.peek 0xFE02 = 0x61
          ∧ (∀ a, a ≠ 0xFE00 → a ≠ 0xFE02 →
            core.memory.peek a = pointerToStatus.machine.core.memory.peek a)
          ∧ next.machine.steps = 4096 ∧ next.keyboard = { queue := [] } ∧ next.console = {}) := by
  have hfetched : pointerToStatus.polled.fetched.value.1 = 0xA201 := by rw [fetched_pointerToStatus]
  obtain ⟨row, hrow, -, hstep⟩ := step_eq_row pointerToStatus rfl rfl hfetched (by decide)
  obtain ⟨houtcome, hnext⟩ := hstep (by decide)
  obtain ⟨exchanges, hdone⟩ := hold_row_pointerToStatus hrow
    (show ({ pointerToStatus.machine.core.registers with
      pc := wrap (pointerToStatus.machine.core.registers.pc.toNat + 1) } : Registers).pc = 0x3001
        from by decide)
  rw [fetched_pointerToStatus, hdone] at hnext
  have hsign : Table.sign (wrap 0x8000) = .negative := by
    rw [Table.sign_eq_ofWord]
    decide
  dsimp only
  rw [hnext]
  refine ⟨rfl, rfl, hfetched, by decide, houtcome, ?_, ?_, ?_, fun a hstatus hdata => ?_, rfl, rfl,
    rfl⟩
  · show Registers.mk _ _ (Table.sign (wrap 0x8000)) = _
    rw [hsign]
    decide
  · exact eq_of_beq (Memory.holds_hold_some _ 0x61)
  · exact Memory.peek_hold_some _ 0x61
  · exact Memory.peek_hold_of_cell _ (some 0x61) hstatus hdata

end System

end LC3
