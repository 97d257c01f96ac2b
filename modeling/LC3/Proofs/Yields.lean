import LC3.Proofs.ProgramImages
import LC3.Proofs.StepOutcomes

/-!
# Programs that are followed instruction by instruction

To say what a given program does, its instructions are followed one by one.
What a dialogue ends with is then known, and of the devices it is known what
they are like before and after: `Dialogue.Yields` states both, and composes.
The devices are described by a property of the keyboard and by what the
console has taken (`Ready`).

Where a system stands in its program (`System.At`) is so carried from one step
to the next (`System.At.step`). The word at the program counter is found where
the program was placed (`Memory.Has`, `Core.Follows`), and a poll may be due
before it.
-/

namespace LC3

variable {κ ω α β : Type}

namespace Dialogue

section

variable [Keyboard κ] [Console ω] {D D' D'' : κ → ω → Prop}

/-- **A dialogue yields a value** and leads from devices of one kind to devices
of another. -/
def Yields (D : κ → ω → Prop) (x : Dialogue α) (a : α) (D' : κ → ω → Prop) : Prop :=
  ∀ k c, D k c →
    (x.hold k c).value = a ∧ D' (x.hold k c).keyboard (x.hold k c).console

/-- What is done already leaves the devices as they are. -/
theorem yields_done (a : α) : (done a).Yields D a D := fun _ _ h => ⟨rfl, h⟩

/-- And so does a report. -/
theorem yields_tell (event : Event) : (tell event).Yields D () D := fun _ _ h => ⟨rfl, h⟩

/-- **Known dialogues follow one another.** -/
theorem Yields.bind {x : Dialogue α} {f : α → Dialogue β} {a : α} {b : β}
    (hx : x.Yields D a D') (hf : (f a).Yields D' b D'') : (x >>= f).Yields D b D'' := by
  intro k c h
  obtain ⟨hvalue, hdevices⟩ := hx k c h
  rw [hold_bind, hvalue]
  exact hf _ _ hdevices

end

end Dialogue

/-! ## Devices

The kind of devices is a property of the two together. Here it is one of the
keyboard, which a program chooses as it needs, and what the console has taken,
which only grows. -/

/-- **The devices are ready:** the keyboard has a property, and the console
takes everything and has taken so much. -/
structure Ready (K : κ → Prop) (out : List UInt8) (k : κ) (c : Collector) : Prop where
  keyboard : K k
  wide : c.Wide
  bytes : c.bytes.toList = out

section

variable [Keyboard κ] {K : κ → Prop} {out : List UInt8}

/-- A message is taken. -/
theorem Dialogue.yields_say (message : List UInt8) :
    (say message).Yields (Ready K out) (.ok ()) (Ready K (out ++ message)) := by
  rintro k c ⟨hkeyboard, hwide, hbytes⟩
  obtain ⟨hsame, -⟩ := hold_say message k c
  obtain ⟨hwide', hbytes'⟩ := (say message).hold_wide k hwide
  refine ⟨value_say_of_wide message k hwide, hsame.symm ▸ hkeyboard, hwide', ?_⟩
  rw [hbytes', hbytes, written_say_of_wide message k hwide]

/-- And so is what a trap writes. -/
theorem Trap.yields_print (core : Core) (message : List UInt8) (outcome : Outcome) :
    (print core message outcome).Yields (Ready K out) (outcome, core)
      (Ready K (out ++ message)) :=
  (Dialogue.yields_say message).bind (Dialogue.yields_done _)

end

/-! ## Programs in memory

A program is found below the keyboard registers, where reading a word has no
effect. So fetching its words changes nothing, and a program may be followed as
it was placed. -/

namespace Memory

/-- **A program is found at an address**, word by word. -/
def Has (m : Memory) (origin : Word) (program : List Word) : Prop :=
  ∀ i (h : i < program.length), m.peek (origin + .ofNat i) = program[i]

variable {m : Memory} {origin : Word} {program : List Word}

/-- What follows the first word is found behind it. -/
theorem Has.tail {w : Word} (h : m.Has origin (w :: program)) : m.Has (origin + 1) program := by
  intro i hi
  have hi' := h (i + 1) (Nat.succ_lt_succ hi)
  rw [UInt16.ofNat_add, ← UInt16.add_comm (.ofNat 1), ← UInt16.add_assoc] at hi'
  exact hi'

/-- Below the keyboard registers a read has no effect. -/
theorem read_of_below (m : Memory) {a : Word} (h : a.toNat < statusAddress.toNat) :
    m.read a = .done (m.peek a, m) := by
  refine m.read_eq_done ?_ ?_
  · rintro rfl
    exact absurd h (by decide)
  · rintro rfl
    exact absurd h (by decide)

/-- A word of a program there is read as it is. -/
theorem Has.read (h : m.Has origin program) {i : Nat} (hi : i < program.length) {a : Word}
    (ha : a = origin + .ofNat i) (hbelow : a.toNat < statusAddress.toNat) :
    m.read a = .done (program[i], m) := by
  rw [m.read_of_below hbelow, ha, h i hi]

/-- And so is its first word. -/
theorem Has.read_head {w : Word} (h : m.Has origin (w :: program))
    (hbelow : origin.toNat < statusAddress.toNat) : m.read origin = .done (w, m) :=
  h.read (Nat.zero_lt_succ _) (UInt16.add_zero origin).symm hbelow

end Memory

@[simp]
theorem Registers.get_advance (r : Registers) (i : Fin 8) : r.advance.get i = r.get i := rfl

/-- **A program is followed up to one of its words:** it is in its place below the
keyboard registers, and the program counter is at that word. -/
structure Core.Follows (core : Core) (program : List Word) (i : Nat) : Prop where
  room : programStart.toNat + program.length ≤ Memory.statusAddress.toNat
  has : core.memory.Has programStart program
  pc : core.registers.pc = programStart + .ofNat i

namespace Core.Follows

variable {core core' : Core} {program : List Word} {i j : Nat} {w offset : Word}

/-- That word is read as it is. -/
theorem read (h : core.Follows program i) (hw : program[i]? = some w) :
    core.memory.read core.registers.pc = .done (w, core.memory) := by
  obtain ⟨hi, rfl⟩ := List.getElem?_eq_some_iff.1 hw
  refine h.has.read hi h.pc ?_
  have hroom := h.room
  have := Memory.statusAddress.toNat_lt_size
  rw [h.pc, Machine.toNat_add_ofNat (by omega)]
  omega

/-- Other registers do not matter, nor the rest of memory. -/
theorem moved (h : core.Follows program i) (hpc : core'.registers.pc = core.registers.pc)
    (hhas : core'.memory.Has programStart program) : core'.Follows program i :=
  ⟨h.room, hhas, hpc.trans h.pc⟩

/-- The next word follows. -/
theorem advance (h : core.Follows program i) :
    (⟨core.registers.advance, core.memory⟩ : Core).Follows program (i + 1) := by
  refine ⟨h.room, h.has, ?_⟩
  show core.registers.pc + 1 = _
  rw [h.pc, UInt16.ofNat_add, ← UInt16.add_assoc]
  rfl

/-- An offset leads to another word. -/
theorem near_eq (h : core.Follows program i)
    (htarget : programStart + .ofNat i + offset = programStart + .ofNat j) :
    core.near offset = programStart + .ofNat j := by
  show core.registers.pc + offset = _
  rw [h.pc, htarget]

/-- So a branch goes there. -/
theorem jump_near (h : core.Follows program i)
    (htarget : programStart + .ofNat i + offset = programStart + .ofNat j) :
    (⟨core.registers.jump (core.near offset), core.memory⟩ : Core).Follows program j :=
  ⟨h.room, h.has, h.near_eq htarget⟩

/-- And a load reads that word. -/
theorem read_near (h : core.Follows program i)
    (htarget : programStart + .ofNat i + offset = programStart + .ofNat j)
    (hw : program[j]? = some w) :
    core.memory.read (core.near offset) = .done (w, core.memory) :=
  (h.jump_near htarget).read hw

end Core.Follows

namespace Machine

/-- A program that was placed is found in its place. -/
theorem has_placing (m : Machine) {origin : Word} {program : List Word}
    (h : origin.toNat + program.length ≤ UInt16.size) :
    (m.placing origin program).core.memory.Has origin program :=
  (m.loaded_placing h).inside

/-- And it is followed up to its first word. -/
theorem follows_placing (m : Machine) (program : List Word)
    (hroom : programStart.toNat + program.length ≤ Memory.statusAddress.toNat) :
    (m.placing programStart program).core.Follows program 0 := by
  have := Memory.statusAddress.toNat_lt_size
  exact ⟨hroom, m.has_placing (by omega), rfl⟩

/-- Below the keyboard registers it does not touch them. -/
theorem holds_placing (m : Machine) {origin : Word} {program : List Word}
    (h : origin.toNat + program.length ≤ Memory.statusAddress.toNat) :
    (m.placing origin program).core.memory.holds = m.core.memory.holds := by
  have hlt := Memory.statusAddress.toNat_lt_size
  unfold Memory.holds
  rw [(m.loaded_placing (by omega)).outside]
  intro i hi hstatus
  have hnat := congrArg UInt16.toNat hstatus
  rw [toNat_add_ofNat (by omega)] at hnat
  omega

/-- A limit that lies ahead is not reached. -/
theorem limitReached?_of_lt {m : Machine}
    (h : ∀ limit, m.config.maxSteps = some limit → m.steps.toNat < limit.toNat) :
    m.limitReached? = none := by
  cases hlimit : m.config.maxSteps with
  | none => exact limitReached?_of_none hlimit
  | some limit => rw [limitReached?_eq hlimit, if_neg (Nat.not_le.2 (h limit hlimit))]

end Machine

/-! ## Steps

One step of a program is its instruction, if neither the limit nor a request for
shutdown is in the way and the step can be counted. The poll before it is made
every 4096 steps, and what it leaves of the devices has to be of the same kind. -/

namespace System

variable [Keyboard κ] [Console ω] {D D' : κ → ω → Prop}

/-- **Where a system stands:** its settings, registers and memory, how many
steps it has made, and what is known of its devices. -/
structure At (s : System κ ω) (config : Config) (core : Core) (n : Nat) (D : κ → ω → Prop) :
    Prop where
  config : s.machine.config = config
  core : s.machine.core = core
  steps : s.machine.steps.toNat = n
  devices : D s.keyboard s.console

variable {s : System κ ω} {config : Config} {core core' : Core} {n : Nat} {w : Word}
  {outcome : Outcome}

/-- Between two polls none is made. -/
theorem At.polled (h : s.At config core n D) (hn : n % 4096 ≠ 4095) : s.polled = s := by
  refine polled_of_not_due fun hdue => hn ?_
  have hmod := congrArg UInt64.toNat hdue.1
  rw [UInt64.toNat_mod, h.steps] at hmod
  exact hmod

/-- A step at the limit stops the run. -/
theorem At.step_of_limit (h : s.At config core n D) {limit : UInt64}
    (hlimit : config.maxSteps = some limit) (hn : limit.toNat ≤ n) :
    s.step.1 = .fault (.stepLimit limit) ∧ s.next = s := by
  have hreached : s.machine.limitReached? = some limit := by
    rw [Machine.limitReached?_eq (h.config ▸ hlimit), h.steps, if_pos hn]
  unfold next
  rw [System.step_of_limit hreached]
  exact ⟨rfl, rfl⟩

/-- **A step of which everything is known:** the word at the program counter,
and what the instruction in it yields with the devices as the poll leaves them
that may be due. -/
theorem At.step (h : s.At config core n D)
    (hlimit : ∀ limit, config.maxSteps = some limit → n < limit.toNat)
    (hleft : n + 1 < UInt64.size)
    (hpolled : s.polled.machine = s.machine ∧ D s.polled.keyboard s.polled.console)
    (hrequested : Keyboard.requested s.polled.keyboard = false)
    (hread : core.memory.read core.registers.pc = .done (w, core.memory))
    (hexecute : (Core.execute config core.registers.pc
      ⟨core.registers.advance, core.memory⟩ (.ofWord w)).Yields D (outcome, core') D') :
    s.step.1 = outcome ∧ s.next.At config core' (n + 1) D' := by
  obtain ⟨rfl, rfl, rfl, -⟩ := h
  obtain ⟨hmachine, hdevices⟩ := hpolled
  have hreached : s.machine.limitReached? = none := Machine.limitReached?_of_lt hlimit
  have hfull : s.machine.steps ≠ Machine.maxCount := fun hfull => by
    rw [hfull] at hleft
    exact absurd hleft (by decide)
  obtain ⟨hvalue, hdevices'⟩ := hexecute _ _ hdevices
  unfold next
  rw [step_eq_cycle hreached hrequested, cycle_eq (hmachine ▸ hfull), effect, fetched, hmachine,
    hread]
  dsimp only [Dialogue.hold_done]
  rw [hvalue]
  exact ⟨rfl, rfl, rfl, Machine.toNat_count_add_one hfull, hdevices'⟩

/-- Between two polls the devices are as before. -/
theorem At.step_of_not_due (h : s.At config core n D) (hn : n % 4096 ≠ 4095)
    (hrequested : Keyboard.requested s.keyboard = false)
    (hlimit : ∀ limit, config.maxSteps = some limit → n < limit.toNat)
    (hleft : n + 1 < UInt64.size)
    (hread : core.memory.read core.registers.pc = .done (w, core.memory))
    (hexecute : (Core.execute config core.registers.pc
      ⟨core.registers.advance, core.memory⟩ (.ofWord w)).Yields D (outcome, core') D') :
    s.step.1 = outcome ∧ s.next.At config core' (n + 1) D' := by
  have hpolled := h.polled hn
  refine h.step hlimit hleft ?_ ?_ hread hexecute
  · rw [hpolled]
    exact ⟨rfl, h.devices⟩
  · rw [hpolled]
    exact hrequested

/-- A step that cannot be counted any more stops the run when the instruction
was read. -/
theorem At.step_of_full (h : s.At config core n D)
    (hlimit : ∀ limit, config.maxSteps = some limit → n < limit.toNat)
    (hfull : n + 1 = UInt64.size)
    (hpolled : s.polled.machine = s.machine ∧ D s.polled.keyboard s.polled.console)
    (hrequested : Keyboard.requested s.polled.keyboard = false)
    (hread : core.memory.read core.registers.pc = .done (w, core.memory)) :
    s.step.1 = .crash .arithmetic
      ∧ s.next.At config ⟨core.registers.advance, core.memory⟩ n D := by
  obtain ⟨rfl, rfl, rfl, -⟩ := h
  obtain ⟨hmachine, hdevices⟩ := hpolled
  have hreached : s.machine.limitReached? = none := Machine.limitReached?_of_lt hlimit
  have hsteps : s.machine.steps = Machine.maxCount :=
    UInt64.toNat_inj.1 (Nat.succ.inj hfull)
  unfold next
  rw [step_eq_cycle hreached hrequested, cycle_of_full (hmachine ▸ hsteps), fetched, hmachine,
    hread]
  exact ⟨rfl, rfl, rfl, rfl, hdevices⟩

/-- A program for which there is room is loaded from its image. -/
theorem obey_loadImage_of_room (s : System κ ω) {origin : Word} {program : List Word}
    (h : origin.toNat + program.length ≤ UInt16.size) :
    (s.obey (.loadImage (Image.encode (origin :: program)))).1 = .loaded (.ok ())
      ∧ (s.obey (.loadImage (Image.encode (origin :: program)))).2.1
        = s.placing origin program := by
  have hload : s.act (Machine.loadImage · (Image.encode (origin :: program))) = _ :=
    (s.act_loadImage_of_words (Image.words_encode _)).trans (s.act_load_of_room h)
  unfold obey obeyWith respond
  dsimp only
  rw [hload]
  exact ⟨rfl, rfl⟩

/-- Commands are obeyed one after another, each by the system that the last left. -/
theorem obeyAll_cons (s : System κ ω) (command : Command) (rest : List Command) :
    (s.obeyAll (command :: rest)).1
        = (s.obey command).1 :: ((s.obey command).2.1.obeyAll rest).1
      ∧ (s.obeyAll (command :: rest)).2.1 = ((s.obey command).2.1.obeyAll rest).2.1 :=
  ⟨rfl, rfl⟩

/-- **To load a program and run it** is to run the machine in which it was
placed. -/
theorem obeyAll_loadImage_run (s : System κ ω) {origin : Word} {program : List Word}
    (h : origin.toNat + program.length ≤ UInt16.size) :
    let session := s.obeyAll [.loadImage (Image.encode (origin :: program)), .run]
    session.1 = [.loaded (.ok ()), .stopped (s.placing origin program).run.1]
      ∧ session.2.1 = (s.placing origin program).run.2.1 := by
  intro session
  obtain ⟨hresponse, hsystem⟩ := s.obey_loadImage_of_room h
  obtain ⟨hresponses, hafter⟩ :=
    s.obeyAll_cons (.loadImage (Image.encode (origin :: program))) [.run]
  rw [hsystem] at hresponses hafter
  rw [hresponse] at hresponses
  exact ⟨hresponses, hafter⟩

end System

end LC3
