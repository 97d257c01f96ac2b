import LC3.Proofs.Yields

/-!
# Programs that echo what is typed

A program can ask for a character in two ways. It waits for one, with a trap,
and is stopped once there is none; or it looks at the keyboard status time and
again, and reads the data when a character is there. Each way makes a small
program that writes back what it reads (`waitingEcho` and `pollingEcho`), and
either program echoes every text, however long.

How far a program has come is told by the characters that it wrote, by those
that are unread, and by the number of its instructions that were executed:
three or five of them belong to each character (`Waiting`, `Polling`). The
poll between instructions is made every 4096 steps, at any place in the loop.
It may put a character into the latch of the keyboard, and leaves it unread
(`System.At.polled_offers`), so that no instruction notices.
-/

namespace LC3

open Delivers (Sound unread poll_eq wait_eq)

variable {κ : Type} [Delivers κ] {text printed rest out before : List UInt8}

/-! ## Keyboards with a text

What a keyboard offers is all that the programs depend on, so it is no matter
whether it is a fixed text or a stream that never fails. -/

/-- **A keyboard that offers a text:** it does not fail, shutdown was not
requested, and the text is what is unread. -/
structure Offers (text : List UInt8) (k : κ) : Prop where
  sound : Sound k
  requested : Keyboard.requested k = false
  unread : unread k = text

/-- A wait is answered with the first character. -/
theorem Dialogue.yields_await (b : UInt8) :
    awaitCharacter.Yields (Ready (Offers (b :: rest) : κ → Prop) out) (.ok (some b))
      (Ready (Offers rest) out) := by
  rintro k c ⟨⟨hsound, hrequested, hunread⟩, hwide, hbytes⟩
  obtain ⟨hanswer, hsound', hunread', hrequested'⟩ := wait_eq hsound
  rw [hunread] at hanswer hunread' hrequested'
  rw [hold_awaitCharacter]
  exact ⟨hanswer, ⟨hsound', hrequested'.trans (congrArg (· || false) hrequested), hunread'⟩,
    hwide, hbytes⟩

/-- Without one it is in vain. -/
theorem Dialogue.yields_await_nil :
    awaitCharacter.Yields (Ready (Offers [] : κ → Prop) out) (.ok none)
      (Ready (fun _ => True) out) := by
  rintro k c ⟨⟨hsound, -, hunread⟩, hwide, hbytes⟩
  obtain ⟨hanswer, -⟩ := wait_eq hsound
  rw [hunread] at hanswer
  rw [hold_awaitCharacter]
  exact ⟨hanswer, trivial, hwide, hbytes⟩

namespace Memory

variable {m : Memory}

/-- **The status is read** while no character is held: the first one that is
unread is. -/
theorem yields_readStatus (hfree : m.holds = false) :
    m.readStatus.Yields (Ready (Offers text : κ → Prop) out)
      ((m.hold text.head?).peek statusAddress, m.hold text.head?)
      (Ready (Offers text.tail) out) := by
  rintro k c ⟨⟨hsound, hrequested, hunread⟩, hwide, hbytes⟩
  obtain ⟨hvalue, hconsole, hsound', hunread', hrequested', -⟩ := Delivers.hold_arrival hsound c
  rw [hunread] at hvalue hunread'
  rw [hold_readStatus_of_free hfree]
  dsimp only
  rw [hvalue, hconsole]
  exact ⟨rfl, ⟨hsound', hrequested'.trans hrequested, hunread'⟩, hwide, hbytes⟩

/-- The data is read, and handed out thereby. -/
theorem yields_readData {D : κ → Collector → Prop} :
    m.readData.Yields D (m.peek dataAddress, m.write statusAddress 0) D :=
  (Dialogue.yields_tell _).bind (Dialogue.yields_done _)

variable {origin : Word} {program : List Word}

/-- A program is left where it is by what happens in the keyboard registers,
if it ends below them. -/
theorem Has.hold (h : m.Has origin program)
    (hroom : origin.toNat + program.length ≤ statusAddress.toNat) (character : Option UInt8) :
    (m.hold character).Has origin program := by
  intro i hi
  have hlt : (origin + .ofNat i).toNat < statusAddress.toNat := by
    have := statusAddress.toNat_lt_size
    rw [Machine.toNat_add_ofNat (by omega)]
    omega
  rw [m.peek_hold_of_cell character, h i hi]
  · intro hstatus
    rw [hstatus] at hlt
    exact absurd hlt (Nat.lt_irrefl _)
  · intro hdata
    rw [hdata] at hlt
    exact absurd hlt (by decide)

end Memory

/-! ## Instructions

Only a few instructions are needed for the two programs. Each is followed once,
for all texts and for whatever the console has taken before. -/

namespace Core

variable {config : Config} {address : Word} {core : Core} {i : Instruction}
  {D D' : κ → Collector → Prop}

/-- GETC puts the first character into R0. -/
theorem yields_getC {b : UInt8} :
    (core.execute config address (.ofWord 0xF020)).Yields
      (Ready (Offers (b :: rest) : κ → Prop) out)
      (.running, { core with registers := core.registers.set Registers.r0 b.toUInt16 })
      (Ready (Offers rest) out) :=
  (Dialogue.yields_await b).bind (Dialogue.yields_done _)

/-- Without one it is interrupted. -/
theorem yields_getC_nil :
    (core.execute config address (.ofWord 0xF020)).Yields (Ready (Offers [] : κ → Prop) out)
      (.fault .interrupted, core) (Ready (fun _ => True) out) :=
  Dialogue.yields_await_nil.bind (Dialogue.yields_done _)

/-- OUT writes the character in R0. -/
theorem yields_out {r : Registers} {m : Memory} {b : UInt8}
    (h : r.get Registers.r0 = b.toUInt16) {K : κ → Prop} :
    (execute config address ⟨r, m⟩ (.ofWord 0xF021)).Yields (Ready K out) (.running, ⟨r, m⟩)
      (Ready K (out ++ [b])) := by
  have hlow : (r.get Registers.r0).lowByte = b := by
    rw [h]
    simp [Word.lowByte]
  show (Trap.print ⟨r, m⟩ [(r.get Registers.r0).lowByte] .running).Yields _ _ _
  rw [hlow]
  exact Trap.yields_print ⟨r, m⟩ [b] .running

/-- A branch that is taken. -/
theorem yields_br (hopcode : i.opcode = .br) (h : i.signs &&& core.registers.flag.bits ≠ 0) :
    (core.execute config address i).Yields D
      (.running, ⟨core.registers.jump (core.near i.off9), core.memory⟩) D := by
  unfold execute
  rw [hopcode]
  dsimp only
  rw [if_neg h]
  exact Dialogue.yields_done _

/-- A branch on every sign is taken. -/
theorem yields_br_always (hopcode : i.opcode = .br) (hsigns : i.signs = 7) :
    (core.execute config address i).Yields D
      (.running, ⟨core.registers.jump (core.near i.off9), core.memory⟩) D := by
  refine yields_br hopcode ?_
  rw [hsigns]
  cases core.registers.flag <;> decide

/-- A branch that is not taken. -/
theorem yields_br_not_taken (hopcode : i.opcode = .br)
    (h : i.signs &&& core.registers.flag.bits = 0) :
    (core.execute config address i).Yields D (.running, core) D := by
  unfold execute
  rw [hopcode]
  dsimp only
  rw [if_pos h]
  exact Dialogue.yields_done _

/-- A read of memory leaves the registers. -/
theorem yields_read {a value : Word} {m : Memory}
    (h : (core.memory.read a).Yields D (value, m) D') :
    (core.read a).Yields D (value, ⟨core.registers, m⟩) D' :=
  h.bind (Dialogue.yields_done _)

/-- **An indirect load** through the address in an ordinary cell. -/
theorem yields_ldi (hopcode : i.opcode = .ldi) {a value : Word} {m : Memory}
    (hpointer : core.memory.read (core.near i.off9) = .done (a, core.memory))
    (hread : (core.memory.read a).Yields D (value, m) D') :
    (core.execute config address i).Yields D
      (.running, ⟨core.registers.assign i.dr value, m⟩) D' := by
  have hfirst : (core.read (core.near i.off9)).Yields D (a, core) D := by
    refine yields_read ?_
    rw [hpointer]
    exact Dialogue.yields_done _
  unfold execute
  rw [hopcode]
  exact hfirst.bind ((yields_read hread).bind (Dialogue.yields_done _))

end Core

/-! ## Steps -/

namespace System

variable {s : System κ Collector} {config : Config} {core core' : Core} {n : Nat}

/-- **A poll between instructions** leaves what is unread unread. -/
theorem At.polled_offers (h : s.At config core n (Ready (Offers text) out)) :
    s.polled.machine = s.machine
      ∧ Ready (Offers text) out s.polled.keyboard s.polled.console := by
  obtain ⟨⟨hsound, hrequested, hunread⟩, hwide, hbytes⟩ := h.devices
  obtain ⟨hmachine, halike, hconsole, -⟩ := polled_of_sound hsound
  rw [hconsole]
  exact ⟨hmachine, ⟨halike.sound, halike.requested.trans hrequested,
    halike.unread.trans hunread⟩, hwide, hbytes⟩

/-- So a step is the instruction that is read. -/
theorem At.step_offers (h : s.At config core n (Ready (Offers text) out)) {w : Word}
    {outcome : Outcome} {D : κ → Collector → Prop}
    (hlimit : ∀ limit, config.maxSteps = some limit → n < limit.toNat)
    (hleft : n + 1 < UInt64.size)
    (hread : core.memory.read core.registers.pc = .done (w, core.memory))
    (hexecute : (Core.execute config core.registers.pc
      ⟨core.registers.advance, core.memory⟩ (.ofWord w)).Yields
        (Ready (Offers text) out) (outcome, core') D) :
    s.step.1 = outcome ∧ s.next.At config core' (n + 1) D :=
  h.step hlimit hleft h.polled_offers h.polled_offers.2.keyboard.requested hread hexecute

/-- **How far a program has come** in a system, if that is told by what was
written, what is unread, and how many instructions were executed. -/
def Stands (P : List UInt8 → List UInt8 → Nat → Core → Prop) (config : Config)
    (before : List UInt8) (n : Nat) (s : System κ Collector) : Prop :=
  ∃ printed rest core, P printed rest n core
    ∧ s.At config core n (Ready (Offers rest) (before ++ printed))

end System

/-! ## Waiting -/

/-- **A program that echoes by waiting:** it waits for a character, writes it,
and starts again. -/
def waitingEcho : List Word := [0xF020, 0xF021, 0x0FFD]

/-- **Where it is**, of the three instructions that belong to a character. -/
inductive Waiting (text printed rest : List UInt8) (n : Nat) (core : Core) : Prop where
  /-- It is about to wait. -/
  | asks (htext : printed ++ rest = text) (hn : n = 3 * printed.length)
      (hcore : core.Follows waitingEcho 0)
  /-- A character came. -/
  | prints (b : UInt8) (htext : printed ++ b :: rest = text) (hn : n = 3 * printed.length + 1)
      (hcore : core.Follows waitingEcho 1)
      (hcharacter : core.registers.get Registers.r0 = b.toUInt16)
  /-- The character was written. -/
  | repeats (htext : printed ++ rest = text) (hn : n + 1 = 3 * printed.length)
      (hcore : core.Follows waitingEcho 2)

namespace Waiting

variable {s : System κ Collector} {config : Config} {core : Core} {n : Nat}

/-- What was written is told by the number of instructions. -/
theorem printed_eq (h : Waiting text printed rest n core) :
    printed = text.take ((n + 1) / 3) := by
  cases h with
  | asks htext hn => rw [← htext, List.take_left' (by omega)]
  | prints b htext hn => rw [← htext, List.take_left' (by omega)]
  | repeats htext hn => rw [← htext, List.take_left' (by omega)]

/-- **One step** leads to the next instruction, while characters are left. -/
theorem step (h : Waiting text printed rest n core)
    (hat : s.At config core n (Ready (Offers rest) (before ++ printed)))
    (hlimit : ∀ limit, config.maxSteps = some limit → n < limit.toNat)
    (hleft : n + 1 < UInt64.size) (hn : n < 3 * text.length) :
    s.step.1 = .running ∧ s.next.Stands (Waiting text) config before (n + 1) := by
  cases h with
  | asks htext hcount hcore =>
    cases rest with
    | nil =>
      rw [← htext, List.append_nil] at hn
      exact absurd hcount hn.ne
    | cons b rest =>
      obtain ⟨hrunning, hnext⟩ := hat.step_offers hlimit hleft (hcore.read rfl) Core.yields_getC
      refine ⟨hrunning, printed, rest, _, ?_, hnext⟩
      exact .prints b htext (by omega) (hcore.advance.moved rfl hcore.has)
        (Registers.get_set_self _ _ _)
  | prints b htext hcount hcore hcharacter =>
    obtain ⟨hrunning, hnext⟩ := hat.step_offers hlimit hleft (hcore.read rfl)
      (Core.yields_out ((core.registers.get_advance _).trans hcharacter))
    rw [List.append_assoc] at hnext
    refine ⟨hrunning, printed ++ [b], rest, _, ?_, hnext⟩
    refine .repeats ((List.append_cons printed b rest).symm.trans htext) ?_ hcore.advance
    rw [List.length_append, List.length_singleton]
    omega
  | repeats htext hcount hcore =>
    obtain ⟨hrunning, hnext⟩ :=
      hat.step_offers hlimit hleft (hcore.read rfl) (Core.yields_br_always rfl rfl)
    refine ⟨hrunning, printed, rest, _, ?_, hnext⟩
    exact .asks htext hcount (hcore.advance.jump_near (by decide))

/-- An instruction is always there to be read. -/
theorem exists_read (h : Waiting text printed rest n core) :
    ∃ w, core.memory.read core.registers.pc = .done (w, core.memory) := by
  cases h with
  | asks _ _ hcore => exact ⟨_, hcore.read rfl⟩
  | prints _ _ _ hcore => exact ⟨_, hcore.read rfl⟩
  | repeats _ _ hcore => exact ⟨_, hcore.read rfl⟩

/-- **After the last character** the program waits in vain. -/
theorem step_of_end (h : Waiting text printed rest n core)
    (hat : s.At config core n (Ready (Offers rest) (before ++ printed)))
    (hlimit : ∀ limit, config.maxSteps = some limit → n < limit.toNat)
    (hleft : n + 1 < UInt64.size) (hn : n = 3 * text.length) :
    s.step.1 = .fault .interrupted
      ∧ ∃ core', s.next.At config core' (n + 1) (Ready (fun _ => True) (before ++ text)) := by
  cases h with
  | asks htext hcount hcore =>
    have hlength := congrArg List.length htext
    rw [List.length_append] at hlength
    obtain rfl : rest = [] := List.length_eq_zero_iff.1 (by omega)
    obtain rfl : printed = text := (List.append_nil printed).symm.trans htext
    obtain ⟨hinterrupted, hnext⟩ :=
      hat.step_offers hlimit hleft (hcore.read rfl) Core.yields_getC_nil
    exact ⟨hinterrupted, _, hnext⟩
  | prints b htext hcount =>
    -- the other two instructions are at a count that three does not divide
    omega
  | repeats htext hcount =>
    omega

/-- **Steps** lead through the whole text, as long as they can be counted. -/
theorem after {s : System κ Collector} (h : s.Stands (Waiting text) config before 0)
    (hlimit : ∀ n limit, config.maxSteps = some limit → n < limit.toNat) {last : Nat}
    (hleft : last < UInt64.size) (hlast : last ≤ 3 * text.length) :
    s.RunsFor last ∧ (s.after last).Stands (Waiting text) config before last := by
  refine System.runsFor_of_keeps (fun n hn s hstands => ?_) h
  obtain ⟨printed, rest, core, hwaiting, hat⟩ := hstands
  exact hwaiting.step hat (hlimit n) (by omega) (by omega)

/-- **A run of the program** writes the text and ends when no character is
left, or before if so many instructions cannot be counted. -/
theorem run {s : System κ Collector} (h : s.Stands (Waiting text) config before 0)
    (hlimit : config.maxSteps = none) :
    (3 * text.length + 1 < UInt64.size → s.run.1 = .fault .interrupted
        ∧ s.run.2.1.console.bytes.toList = before ++ text
        ∧ s.run.2.1.machine.steps.toNat = 3 * text.length + 1)
      ∧ (UInt64.size ≤ 3 * text.length + 1 → s.run.1 = .crash .arithmetic
        ∧ s.run.2.1.console.bytes.toList = before ++ text.take (UInt64.size / 3)) := by
  have hnone : ∀ n limit, config.maxSteps = some limit → n < limit.toNat := by
    rw [hlimit]
    exact fun _ => nofun
  constructor
  · intro hcount
    obtain ⟨hruns, printed, rest, core, hwaiting, hat⟩ :=
      after h hnone (Nat.lt_of_succ_lt hcount) le_rfl
    obtain ⟨hinterrupted, core', hend⟩ := hwaiting.step_of_end hat (hnone _) hcount rfl
    obtain ⟨houtcome, hsystem⟩ := System.run_eq_after hruns (by rw [hinterrupted]; exact nofun)
    rw [houtcome, hsystem, System.after_succ']
    exact ⟨hinterrupted, hend.devices.bytes, hend.steps⟩
  · intro hcount
    have hlast : UInt64.size - 1 ≤ 3 * text.length := by omega
    obtain ⟨hruns, printed, rest, core, hwaiting, hat⟩ := after h hnone (by decide) hlast
    obtain ⟨w, hread⟩ := hwaiting.exists_read
    obtain ⟨hcrash, hend⟩ := hat.step_of_full (hnone _) rfl hat.polled_offers
      hat.polled_offers.2.keyboard.requested hread
    obtain ⟨houtcome, hsystem⟩ := System.run_eq_after hruns (by rw [hcrash]; exact nofun)
    rw [houtcome, hsystem, System.after_succ', hend.devices.bytes, hwaiting.printed_eq]
    exact ⟨hcrash, rfl⟩

end Waiting

/-! ## Polling -/

/-- **A program that echoes by polling:** it reads the keyboard status until a
character is there, reads the data, writes it, and starts again. The addresses
of the two registers are behind the instructions. -/
def pollingEcho : List Word := [0xA204, 0x07FE, 0xA003, 0xF021, 0x0FFB, 0xFE00, 0xFE02]

/-- **Where it is**, of the five instructions that belong to a character, or of
the two that it executes over and over when there is none. -/
inductive Polling (text printed rest : List UInt8) (n : Nat) (core : Core) : Prop where
  /-- It is about to read the status. -/
  | asks (htext : printed ++ rest = text)
      (hn : n = 5 * printed.length ∨ rest = [] ∧ 5 * printed.length ≤ n)
      (hcore : core.Follows pollingEcho 0) (hfree : core.memory.holds = false)
  /-- A character is there. -/
  | finds (b : UInt8) (htext : printed ++ b :: rest = text) (hn : n = 5 * printed.length + 1)
      (hcore : core.Follows pollingEcho 1) (hflag : core.registers.flag = .negative)
      (hheld : core.memory.peek Memory.dataAddress = b.toUInt16)
  /-- It was seen to be there. -/
  | fetches (b : UInt8) (htext : printed ++ b :: rest = text) (hn : n = 5 * printed.length + 2)
      (hcore : core.Follows pollingEcho 2)
      (hheld : core.memory.peek Memory.dataAddress = b.toUInt16)
  /-- It was read. -/
  | prints (b : UInt8) (htext : printed ++ b :: rest = text) (hn : n = 5 * printed.length + 3)
      (hcore : core.Follows pollingEcho 3) (hfree : core.memory.holds = false)
      (hcharacter : core.registers.get Registers.r0 = b.toUInt16)
  /-- It was written. -/
  | repeats (htext : printed ++ rest = text) (hn : n + 1 = 5 * printed.length)
      (hcore : core.Follows pollingEcho 4) (hfree : core.memory.holds = false)
  /-- There is none. -/
  | lacks (htext : printed = text) (hrest : rest = []) (hn : 5 * printed.length ≤ n)
      (hcore : core.Follows pollingEcho 1) (hflag : core.registers.flag = .zero)
      (hfree : core.memory.holds = false)

namespace Polling

variable {s : System κ Collector} {config : Config} {core : Core} {n : Nat}

/-- What was written is told by the number of instructions. -/
theorem printed_eq (h : Polling text printed rest n core) :
    printed = text.take ((n + 1) / 5) := by
  cases h with
  | asks htext hn =>
    rw [← htext]
    obtain hn | ⟨rfl, hn⟩ := hn
    · rw [List.take_left' (by omega)]
    · rw [List.append_nil, List.take_of_length_le (by omega)]
  | finds b htext hn => rw [← htext, List.take_left' (by omega)]
  | fetches b htext hn => rw [← htext, List.take_left' (by omega)]
  | prints b htext hn => rw [← htext, List.take_left' (by omega)]
  | repeats htext hn => rw [← htext, List.take_left' (by omega)]
  | lacks htext hrest hn => rw [← htext, List.take_of_length_le (by omega)]

/-- **One step** leads to the next instruction. -/
theorem step (h : Polling text printed rest n core)
    (hat : s.At config core n (Ready (Offers rest) (before ++ printed)))
    (hlimit : ∀ limit, config.maxSteps = some limit → n < limit.toNat)
    (hleft : n + 1 < UInt64.size) :
    s.step.1 = .running ∧ s.next.Stands (Polling text) config before (n + 1) := by
  cases h with
  | asks htext hcount hcore hfree =>
    have hpointer : core.memory.read (Core.near ⟨core.registers.advance, core.memory⟩
        (Instruction.ofWord 0xA204).off9) = .done (Memory.statusAddress, core.memory) :=
      hcore.advance.read_near (j := 5) (by decide) rfl
    obtain ⟨hrunning, hnext⟩ := hat.step_offers hlimit hleft (hcore.read rfl)
      (Core.yields_ldi rfl hpointer (Memory.yields_readStatus hfree))
    have hhas := hcore.has.hold hcore.room rest.head?
    -- the poll of the status decides which way the loop goes
    cases rest with
    | nil =>
      have hlength : 5 * printed.length ≤ n := hcount.elim (·.ge) (·.2)
      refine ⟨hrunning, printed, [], _, ?_, hnext⟩
      refine .lacks ((List.append_nil printed).symm.trans htext) rfl (by omega)
        (hcore.advance.moved rfl hhas) ?_ core.memory.holds_clear
      show Flag.ofWord ((core.memory.write Memory.statusAddress 0).peek _) = .zero
      rw [Memory.peek_write_self]
      rfl
    | cons b rest =>
      have hlength : n = 5 * printed.length := hcount.resolve_right fun h => nomatch h.1
      refine ⟨hrunning, printed, rest, _, ?_, hnext⟩
      refine .finds b htext (by omega) (hcore.advance.moved rfl hhas) ?_
        (core.memory.peek_hold_some b)
      show Flag.ofWord ((core.memory.hold (some b)).peek Memory.statusAddress) = .negative
      rw [eq_of_beq (core.memory.holds_hold_some b)]
      decide
  | finds b htext hcount hcore hflag hheld =>
    have hnot : (Instruction.ofWord 0x07FE).signs &&& core.registers.advance.flag.bits = 0 := by
      show _ &&& core.registers.flag.bits = 0
      rw [hflag]
      decide
    obtain ⟨hrunning, hnext⟩ :=
      hat.step_offers hlimit hleft (hcore.read rfl) (Core.yields_br_not_taken rfl hnot)
    refine ⟨hrunning, printed, rest, _, ?_, hnext⟩
    exact .fetches b htext (by omega) hcore.advance hheld
  | fetches b htext hcount hcore hheld =>
    have hpointer : core.memory.read (Core.near ⟨core.registers.advance, core.memory⟩
        (Instruction.ofWord 0xA003).off9) = .done (Memory.dataAddress, core.memory) :=
      hcore.advance.read_near (j := 6) (by decide) rfl
    obtain ⟨hrunning, hnext⟩ := hat.step_offers hlimit hleft (hcore.read rfl)
      (Core.yields_ldi rfl hpointer Memory.yields_readData)
    refine ⟨hrunning, printed, rest, _, ?_, hnext⟩
    exact .prints b htext (by omega)
      (hcore.advance.moved rfl (hcore.has.hold hcore.room none)) core.memory.holds_clear
      ((Registers.get_assign_self _ _ _).trans hheld)
  | prints b htext hcount hcore hfree hcharacter =>
    obtain ⟨hrunning, hnext⟩ := hat.step_offers hlimit hleft (hcore.read rfl)
      (Core.yields_out ((core.registers.get_advance _).trans hcharacter))
    rw [List.append_assoc] at hnext
    refine ⟨hrunning, printed ++ [b], rest, _, ?_, hnext⟩
    refine .repeats ((List.append_cons printed b rest).symm.trans htext) ?_ hcore.advance hfree
    rw [List.length_append, List.length_singleton]
    omega
  | repeats htext hcount hcore hfree =>
    obtain ⟨hrunning, hnext⟩ :=
      hat.step_offers hlimit hleft (hcore.read rfl) (Core.yields_br_always rfl rfl)
    refine ⟨hrunning, printed, rest, _, ?_, hnext⟩
    exact .asks htext (.inl hcount) (hcore.advance.jump_near (by decide)) hfree
  | lacks htext hrest hcount hcore hflag hfree =>
    have htaken : (Instruction.ofWord 0x07FE).signs &&& core.registers.advance.flag.bits ≠ 0 := by
      show _ &&& core.registers.flag.bits ≠ 0
      rw [hflag]
      decide
    obtain ⟨hrunning, hnext⟩ :=
      hat.step_offers hlimit hleft (hcore.read rfl) (Core.yields_br rfl htaken)
    refine ⟨hrunning, printed, rest, _, ?_, hnext⟩
    refine .asks ?_ (.inr ⟨hrest, by omega⟩) (hcore.advance.jump_near (by decide)) hfree
    rw [hrest, List.append_nil]
    exact htext

/-- **Steps** go on up to the limit. -/
theorem after {s : System κ Collector} (h : s.Stands (Polling text) config before 0)
    {limit : UInt64} (hlimit : config.maxSteps = some limit) :
    s.RunsFor limit.toNat
      ∧ (s.after limit.toNat).Stands (Polling text) config before limit.toNat := by
  have hlt := limit.toNat_lt_size
  refine System.runsFor_of_keeps (fun n hn s hstands => ?_) h
  obtain ⟨printed, rest, core, hpolling, hat⟩ := hstands
  refine hpolling.step hat ?_ (by omega)
  rw [hlimit]
  rintro _ ⟨⟩
  exact hn

/-- **A run of the program** writes as much of the text as the limit leaves
time for. -/
theorem run {s : System κ Collector} (h : s.Stands (Polling text) config before 0)
    {limit : UInt64} (hlimit : config.maxSteps = some limit) :
    s.run.1 = .fault (.stepLimit limit)
      ∧ s.run.2.1.console.bytes.toList = before ++ text.take ((limit.toNat + 1) / 5)
      ∧ s.run.2.1.machine.steps.toNat = limit.toNat := by
  obtain ⟨hruns, printed, rest, core, hpolling, hat⟩ := after h hlimit
  obtain ⟨hreached, hkept⟩ := hat.step_of_limit hlimit le_rfl
  obtain ⟨houtcome, hsystem⟩ := System.run_eq_after hruns (by rw [hreached]; exact nofun)
  rw [houtcome, hsystem, System.after_succ', hkept, hat.devices.bytes, hpolling.printed_eq]
  exact ⟨hreached, rfl, hat.steps⟩

end Polling

/-! ## Sessions -/

namespace System

/-- **A system echoes a text:** with the program that waits it writes the whole
text and is then interrupted, after three instructions for each character and
one more, and it stops with less only if so many instructions cannot be
counted; with the program that polls it writes as much as the step limit leaves
time for, at five instructions for each character. -/
structure Echoes {κ : Type} [Keyboard κ] (s : System κ Collector) (text : List UInt8) :
    Prop where
  waiting : 3 * text.length + 1 < UInt64.size →
    let session := s.obeyAll [.loadImage (Image.encode (0x3000 :: waitingEcho)), .run]
    session.1 = [.loaded (.ok ()), .stopped (.fault .interrupted)]
      ∧ session.2.1.console.bytes.toList = s.console.bytes.toList ++ text
      ∧ session.2.1.machine.steps.toNat = 3 * text.length + 1
  uncounted : UInt64.size ≤ 3 * text.length + 1 →
    let session := s.obeyAll [.loadImage (Image.encode (0x3000 :: waitingEcho)), .run]
    session.1 = [.loaded (.ok ()), .stopped (.crash .arithmetic)]
      ∧ session.2.1.console.bytes.toList
        = s.console.bytes.toList ++ text.take (UInt64.size / 3)
  polling : ∀ limit : UInt64,
    let session := s.obeyAll [.configure { Config.default with maxSteps := some limit },
      .loadImage (Image.encode (0x3000 :: pollingEcho)), .run]
    session.1 = [.done, .loaded (.ok ()), .stopped (.fault (.stepLimit limit))]
      ∧ session.2.1.console.bytes.toList
        = s.console.bytes.toList ++ text.take ((limit.toNat + 1) / 5)
      ∧ (5 * text.length ≤ limit.toNat →
        session.2.1.console.bytes.toList = s.console.bytes.toList ++ text)
      ∧ session.2.1.machine.steps = limit

/-- **A program that was placed** is about to run, and nothing was written
yet. -/
theorem at_placing (s : System κ Collector) (program : List Word)
    (hoffers : Offers text s.keyboard) (hwide : s.console.Wide) :
    let started := s.placing programStart program
    started.At s.machine.config started.machine.core 0
      (Ready (Offers text) (s.console.bytes.toList ++ [])) :=
  ⟨rfl, rfl, rfl, hoffers, hwide, (List.append_nil _).symm⟩

/-- **Every keyboard that offers a text** has it echoed, in a system without a
limit and with no character held. -/
theorem echoes_of_offers (s : System κ Collector) (hoffers : Offers text s.keyboard)
    (hwide : s.console.Wide) (hfree : s.machine.core.memory.holds = false)
    (hlimit : s.machine.config.maxSteps = none) : s.Echoes text := by
  have hroom : programStart.toNat + waitingEcho.length ≤ UInt16.size := by decide
  obtain ⟨hresponses, hsystem⟩ := s.obeyAll_loadImage_run hroom
  have hcore := s.machine.follows_placing waitingEcho (by decide)
  obtain ⟨hcounted, huncounted⟩ := Waiting.run
    ⟨[], text, _, .asks (List.nil_append text) rfl hcore, s.at_placing _ hoffers hwide⟩ hlimit
  constructor
  · intro hcount session
    obtain ⟨houtcome, hbytes, hsteps⟩ := hcounted hcount
    rw [show session.1 = _ from hresponses, show session.2.1 = _ from hsystem, houtcome]
    exact ⟨rfl, hbytes, hsteps⟩
  · intro hcount session
    obtain ⟨houtcome, hbytes⟩ := huncounted hcount
    rw [show session.1 = _ from hresponses, show session.2.1 = _ from hsystem, houtcome]
    exact ⟨rfl, hbytes⟩
  · intro limit session
    -- the limit is set first, so it is the limited system that loads and runs
    let limited : System κ Collector :=
      s.adjust fun m => { m with config := { Config.default with maxSteps := some limit } }
    have hroom : programStart.toNat + pollingEcho.length ≤ UInt16.size := by decide
    obtain ⟨hresponses, hsystem⟩ := limited.obeyAll_loadImage_run hroom
    have hcore := limited.machine.follows_placing pollingEcho (by decide)
    have hfree' : (limited.placing programStart pollingEcho).machine.core.memory.holds = false :=
      (limited.machine.holds_placing (by decide)).trans hfree
    obtain ⟨houtcome, hbytes, hsteps⟩ := Polling.run ⟨[], text, _,
      .asks (List.nil_append text) (.inl rfl) hcore hfree', limited.at_placing _ hoffers hwide⟩ rfl
    rw [houtcome] at hresponses
    have hresponses' : session.1 = _ := congrArg (List.cons Response.done) hresponses
    rw [hresponses', show session.2.1 = _ from hsystem]
    refine ⟨rfl, hbytes, fun hcount => ?_, UInt64.toNat_inj.1 hsteps⟩
    rw [hbytes, List.take_of_length_le (by omega)]
    rfl

/-- **Both ways of reading echo every input.** A new machine with the text typed
on a scripted keyboard echoes it with either program, and so does one with a
stream of that text which does not fail, if the console takes everything. -/
theorem echoes_every_text (text : List UInt8) {c : Collector} (hwide : c.Wide) :
    (⟨.initial, ({ queue := text } : Scripted), c⟩ : System Scripted Collector).Echoes text
      ∧ ∀ steps : List StreamStep, (∀ e, .failure e ∉ steps) → Stream.text steps = text →
        (⟨.initial, ({ steps := steps } : Stream), c⟩ : System Stream Collector).Echoes text := by
  have hfree : Machine.initial.core.memory.holds = false := by
    show (Memory.empty.peek Memory.statusAddress == Memory.ready) = false
    rw [Memory.peek_empty]
    rfl
  refine ⟨echoes_of_offers _ ⟨trivial, rfl, rfl⟩ hwide hfree rfl, fun steps hsound htext => ?_⟩
  exact echoes_of_offers _ ⟨hsound, rfl, htext⟩ hwide hfree rfl

/-- A stream of two characters that is cut off between them, the second of them
zero. -/
def cutOffZero : System Stream Collector :=
  ⟨.initial, { steps := [.byte 0x61, .cutOff, .byte 0, .finish] }, {}⟩

/-- Both are echoed, by waiting in seven steps and by polling in ten. -/
theorem echoes_cutOffZero :
    let waiting : List Command := [.loadImage (Image.encode (0x3000 :: waitingEcho)), .run]
    let polling : List Command := [.configure { Config.default with maxSteps := some 10 },
      .loadImage (Image.encode (0x3000 :: pollingEcho)), .run]
    (cutOffZero.obeyAll waiting).1 = [.loaded (.ok ()), .stopped (.fault .interrupted)]
      ∧ (cutOffZero.obeyAll waiting).2.1.console.bytes.toList = [0x61, 0]
      ∧ (cutOffZero.obeyAll waiting).2.1.machine.steps.toNat = 7
      ∧ (cutOffZero.obeyAll polling).1
        = [.done, .loaded (.ok ()), .stopped (.fault (.stepLimit 10))]
      ∧ (cutOffZero.obeyAll polling).2.1.console.bytes.toList = [0x61, 0] := by
  intro waiting polling
  have hechoes : cutOffZero.Echoes [0x61, 0] :=
    (echoes_every_text [0x61, 0] (c := {}) ⟨rfl, rfl⟩).2 _ (by simp) rfl
  obtain ⟨hresponses, hbytes, hsteps⟩ := hechoes.waiting (by decide)
  obtain ⟨hresponses', -, hbytes', -⟩ := hechoes.polling 10
  exact ⟨hresponses, hbytes, hsteps, hresponses', hbytes' (by decide)⟩

end System

end LC3
