import LC3.Proofs.Yields

/-!
# Strings stored in memory are printed back

A string is stored with one character in a word or with two, and a word that
is zero ends it. What the two traps print is read off the words again
(`Trap.Packing.characters`), so that nothing may be lost on the way:
`Trap.Packing.pack` is how a text is stored, and printing undoes it
(`Trap.Packing.flatMap_characters_pack`). With two characters in a word the
last one may be alone in its word, and a word of which the high byte is zero
is printed as one character; with a character that is zero the string would
end too early, or be printed shorter than it is.

Printing reads the words like any words, so the string must lie below the
keyboard registers. There a string and its end are read at once
(`Trap.gather_of_has`), and a program of three instructions, with the string
behind it, prints the string whatever its length.
-/

namespace LC3

namespace Word

/-- A character alone in a word is its low byte. -/
theorem toUInt16_eq_ofBytes (b : UInt8) : b.toUInt16 = ofBytes 0 b := by
  simp [ofBytes]

/-- A word whose low byte is not zero is not zero. -/
theorem ofBytes_ne_zero (high : UInt8) {low : UInt8} (h : low ≠ 0) : ofBytes high low ≠ 0 := by
  intro hzero
  have hlow := congrArg lowByte hzero
  rw [lowByte_ofBytes] at hlow
  exact h hlow

end Word

namespace Trap

namespace Packing

/-- **The words that hold a text**, without the one that ends it. -/
def pack : Packing → List UInt8 → List Word
  | single, text => text.map UInt8.toUInt16
  | double, low :: high :: rest => Word.ofBytes high low :: pack double rest
  | double, [low] => [low.toUInt16]
  | double, [] => []

/-- The trap that prints a text which is packed so. -/
def call : Packing → Word
  | single => 0xF022
  | double => 0xF024

/-- A word that holds one character is printed as one, whichever the trap. -/
theorem characters_toUInt16 (packing : Packing) (b : UInt8) :
    packing.characters b.toUInt16 = [b] := by
  rw [Word.toUInt16_eq_ofBytes]
  cases packing with
  | single => simp [characters, Word.lowByte_ofBytes]
  | double => simp [characters, Word.lowByte_ofBytes, Word.highByte_ofBytes]

/-- And a word that holds two as two. -/
theorem characters_ofBytes {high low : UInt8} (h : high ≠ 0) :
    double.characters (Word.ofBytes high low) = [low, high] := by
  simp [characters, Word.lowByte_ofBytes, Word.highByte_ofBytes, h]

/-- **Printing undoes packing.** -/
theorem flatMap_characters_pack (packing : Packing) {text : List UInt8} (h : 0 ∉ text) :
    (packing.pack text).flatMap packing.characters = text := by
  fun_induction pack packing text with
  | case1 text => simp [List.flatMap_map, characters_toUInt16]
  | case2 low high rest ih =>
    -- packing takes two characters at a time, so the induction does
    obtain ⟨hlow, hhigh, hrest⟩ : low ≠ 0 ∧ high ≠ 0 ∧ 0 ∉ rest := by
      simpa [eq_comm] using h
    rw [List.flatMap_cons, characters_ofBytes hhigh, ih hrest]
    rfl
  | case3 low => simp [characters_toUInt16]
  | case4 => rfl

/-- No word of a packed text ends the string. -/
theorem ne_zero_of_mem_pack {packing : Packing} {text : List UInt8} (h : 0 ∉ text) {w : Word}
    (hw : w ∈ packing.pack text) : w ≠ 0 := by
  fun_induction pack packing text with
  | case1 text =>
    obtain ⟨b, hb, rfl⟩ := List.mem_map.1 hw
    rw [Word.toUInt16_eq_ofBytes]
    exact Word.ofBytes_ne_zero 0 fun hzero => h (hzero ▸ hb)
  | case2 low high rest ih =>
    obtain ⟨hlow, hhigh, hrest⟩ : low ≠ 0 ∧ high ≠ 0 ∧ 0 ∉ rest := by
      simpa [eq_comm] using h
    obtain rfl | hw := List.mem_cons.1 hw
    · exact Word.ofBytes_ne_zero high hlow
    · exact ih hrest hw
  | case3 low =>
    rw [List.mem_singleton.1 hw, Word.toUInt16_eq_ofBytes]
    exact Word.ofBytes_ne_zero 0 fun hzero => h (hzero ▸ List.mem_singleton_self low)
  | case4 => exact nomatch hw

end Packing

/-- **A stored string is read** up to its end, if it lies below the keyboard
registers. -/
theorem gather_of_has (packing : Packing) {m : Memory} {a : Word} {words : List Word}
    (hwords : m.Has a (words ++ [0])) (hnonzero : ∀ w ∈ words, w ≠ 0)
    (hbelow : a.toNat + words.length < Memory.statusAddress.toNat) {count : Nat}
    (hcount : words.length < count) (before : List UInt8) :
    gather packing count a m before
      = .done (before.reverse ++ words.flatMap packing.characters, m) := by
  induction words generalizing a count before with
  | nil =>
    obtain ⟨count, rfl⟩ := Nat.exists_eq_add_one.2 hcount
    rw [gather_succ, hwords.read_head hbelow]
    simp
  | cons w rest ih =>
    obtain ⟨count, rfl⟩ := Nat.exists_eq_add_one.2 (Nat.zero_lt_of_lt hcount)
    rw [List.length_cons] at hbelow hcount
    have hnext : (a + 1).toNat = a.toNat + 1 :=
      Machine.toNat_add_ofNat (i := 1) (by have := Memory.statusAddress.toNat_lt_size; omega)
    -- the word is not zero, so the pass goes on at the next address, which does not wrap
    -- around
    rw [gather_succ, hwords.read_head (by omega), Dialogue.done_bind]
    dsimp only
    rw [if_neg (hnonzero w List.mem_cons_self), ih hwords.tail
      (fun w hw => hnonzero w (List.mem_cons_of_mem _ hw)) (by omega)
      (Nat.lt_of_succ_lt_succ hcount)]
    simp

variable {κ : Type} [Keyboard κ] {K : κ → Prop} {out : List UInt8}

/-- **A stored string is printed**, and memory is as before. -/
theorem yields_printString (packing : Packing) {core : Core} {a : Word} {words : List Word}
    (haddress : core.registers.get Registers.r0 = a) (hwords : core.memory.Has a (words ++ [0]))
    (hnonzero : ∀ w ∈ words, w ≠ 0)
    (hbelow : a.toNat + words.length < Memory.statusAddress.toNat) :
    (printString packing core).Yields (Ready K out) (.running, core)
      (Ready K (out ++ words.flatMap packing.characters)) := by
  obtain ⟨r, m⟩ := core
  have hlength : words.length < UInt16.size := by
    have := Memory.statusAddress.toNat_lt_size
    omega
  unfold printString
  dsimp only
  rw [haddress, gather_of_has packing hwords hnonzero hbelow hlength, Dialogue.done_bind]
  exact yields_print ⟨r, m⟩ _ .running

end Trap

/-- **A program that prints a text** which is stored behind it: the address is
put into R0, the trap is called, and the machine halts. -/
def storedString (packing : Trap.Packing) (text : List UInt8) : List Word :=
  0xE002 :: packing.call :: 0xF025 :: (packing.pack text ++ [0])

/-- There are three instructions, the text, and the word that ends it. -/
theorem length_storedString (packing : Trap.Packing) (text : List UInt8) :
    (storedString packing text).length = (packing.pack text).length + 4 := by
  simp [storedString]

namespace Core

variable {κ : Type} [Keyboard κ] {D D' : κ → Collector → Prop} {config : Config}
  {address : Word} {core : Core}

/-- LEA finds the text behind the three instructions. -/
theorem yields_lea {program : List Word} (h : core.Follows program 1) :
    (core.execute config address (.ofWord 0xE002)).Yields D
      (.running, ⟨core.registers.assign Registers.r0 0x3003, core.memory⟩) D := by
  have hnear : core.near (Instruction.ofWord 0xE002).off9 = 0x3003 := h.near_eq (j := 3) (by decide)
  show (goOn (core.assign Registers.r0 (core.near _))).Yields _ _ _
  rw [hnear]
  exact Dialogue.yields_done _

/-- The call prints. -/
theorem yields_call (packing : Trap.Packing) {a : Outcome × Core}
    (h : (Trap.printString packing core).Yields D a D') :
    (core.execute config address (.ofWord packing.call)).Yields D a D' := by
  cases packing with
  | single => exact h
  | double => exact h

/-- HALT without a notice. -/
theorem yields_halt (h : config.haltNotice = false) :
    (core.execute config address (.ofWord 0xF025)).Yields D (.halted, core) D := by
  show (if config.haltNotice = true then _ else _ : Dialogue (Outcome × Core)).Yields _ _ _
  rw [h, if_neg Bool.false_ne_true]
  exact Dialogue.yields_done _

end Core

namespace System

variable {κ : Type} [Keyboard κ]

/-- **The program runs for three steps.** -/
theorem run_storedString (s : System κ Collector) (packing : Trap.Packing) {text : List UInt8}
    (hnonzero : 0 ∉ text)
    (hroom : programStart.toNat + (storedString packing text).length
      ≤ Memory.statusAddress.toNat)
    (hrequested : Keyboard.requested s.keyboard = false) (hwide : s.console.Wide)
    (hnotice : s.machine.config.haltNotice = false)
    (hlimit : ∀ limit, s.machine.config.maxSteps = some limit → 3 ≤ limit.toNat) :
    let started := s.placing programStart (storedString packing text)
    started.run.1 = .halted
      ∧ ∃ core, core.registers.pc = 0x3003 ∧ core.memory = started.machine.core.memory
        ∧ started.run.2.1.At s.machine.config core 3
          (Ready (· = s.keyboard) (s.console.bytes.toList ++ text)) := by
  intro started
  have hcore₀ : started.machine.core.Follows (storedString packing text) 0 :=
    s.machine.follows_placing _ hroom
  have hat₀ : started.At s.machine.config started.machine.core 0
      (Ready (· = s.keyboard) s.console.bytes.toList) := ⟨rfl, rfl, rfl, rfl, hwide, rfl⟩
  generalize started.machine.core = core at hcore₀ hat₀ ⊢
  -- each of the three steps is early, and the keyboard is left alone
  have hlate {n : Nat} (hn : n < 3) (limit : UInt64)
      (h : s.machine.config.maxSteps = some limit) : n < limit.toNat :=
    Nat.lt_of_lt_of_le hn (hlimit limit h)
  have halone {s' : System κ Collector} {core : Core} {n : Nat} {out : List UInt8}
      (hat : s'.At s.machine.config core n (Ready (· = s.keyboard) out)) :
      Keyboard.requested s'.keyboard = false := by
    rw [hat.devices.keyboard]
    exact hrequested
  obtain ⟨hrunning₀, hat₁⟩ := hat₀.step_of_not_due (by decide) (halone hat₀) (hlate (by decide))
    (by decide) (hcore₀.read rfl) (Core.yields_lea hcore₀.advance)
  have hcore₁ : Core.Follows ⟨core.registers.advance.assign Registers.r0 0x3003, core.memory⟩
      (storedString packing text) 1 := hcore₀.advance.moved rfl hcore₀.has
  have hbelow : (0x3003 : Word).toNat + (packing.pack text).length
      < Memory.statusAddress.toNat := by
    rw [length_storedString] at hroom
    change 0x3000 + ((packing.pack text).length + 4) ≤ 0xFE00 at hroom
    show 0x3003 + (packing.pack text).length < 0xFE00
    omega
  have hr0 : (core.registers.advance.assign Registers.r0 0x3003).advance.get Registers.r0
      = 0x3003 := (Registers.get_advance _ _).trans (Registers.get_assign_self _ _ _)
  obtain ⟨hrunning₁, hat₂⟩ := hat₁.step_of_not_due (by decide) (halone hat₁) (hlate (by decide))
    (by decide) (hcore₁.read rfl) (Core.yields_call packing
      (Trap.yields_printString packing hr0 hcore₀.has.tail.tail.tail
        (fun w => Trap.Packing.ne_zero_of_mem_pack hnonzero) hbelow))
  obtain ⟨hhalted, hat₃⟩ := hat₂.step_of_not_due (by decide) (halone hat₂) (hlate (by decide))
    (by decide) (hcore₁.advance.read rfl) (Core.yields_halt hnotice)
  rw [Trap.Packing.flatMap_characters_pack packing hnonzero] at hat₃
  -- two steps leave the machine running, and the third is HALT
  have hruns : started.RunsFor 2 := runsFor_succ.2 ⟨hrunning₀, runsFor_succ.2
    ⟨hrunning₁, fun i hi => absurd hi i.not_lt_zero⟩⟩
  have hstops : (started.after 2).step.1 = .halted := hhalted
  obtain ⟨houtcome, hsystem⟩ := run_eq_after hruns (by rw [hstops]; exact nofun)
  rw [houtcome, hsystem]
  exact ⟨hstops, _, hcore₁.advance.advance.pc, rfl, hat₃⟩

/-- **A stored text is printed back exactly**, in both formats and whatever its
length, if no character is zero and the image ends below the keyboard
registers. The image of the program is loaded into a new machine and run, with
any keyboard on which shutdown is not requested and a console that takes
everything: the machine halts after three steps, the console has taken the text
and nothing else, and memory is as it was loaded. -/
theorem obeyAll_storedString (packing : Trap.Packing) {text : List UInt8} (hnonzero : 0 ∉ text)
    (hbelow : 0x3000 + (storedString packing text).length ≤ 0xFE00) {k : κ}
    (hrequested : Keyboard.requested k = false) {c : Collector} (hwide : c.Wide)
    {config : Config} (hnotice : config.haltNotice = false)
    (hlimit : ∀ limit, config.maxSteps = some limit → 3 ≤ limit.toNat) :
    let s : System κ Collector := ⟨.initial, k, c⟩
    let loading : List Command :=
      [.configure config, .loadImage (Image.encode (0x3000 :: storedString packing text))]
    let session := s.obeyAll (loading ++ [.run])
    session.1 = [.done, .loaded (.ok ()), .stopped .halted]
      ∧ session.2.1.console.bytes.toList = c.bytes.toList ++ text
      ∧ session.2.1.machine.core.registers.pc = 0x3003
      ∧ session.2.1.machine.steps = 3
      ∧ session.2.1.machine.core.memory = (s.obeyAll loading).2.1.machine.core.memory := by
  intro s loading session
  let configured : System κ Collector := ⟨{ Machine.initial with config := config }, k, c⟩
  have hroom : (0x3000 : Word).toNat + (storedString packing text).length ≤ UInt16.size :=
    show 0x3000 + (storedString packing text).length ≤ 0x10000 by omega
  obtain ⟨hresponses, hsystem⟩ := configured.obeyAll_loadImage_run hroom
  have hloaded : (s.obeyAll loading).2.1 = _ := (configured.obey_loadImage_of_room hroom).2
  have hresponses' : session.1 = _ := congrArg (List.cons Response.done) hresponses
  have hsystem' : session.2.1 = _ := hsystem
  obtain ⟨hhalted, core, hpc, hmemory, hat⟩ :=
    configured.run_storedString packing hnonzero hbelow hrequested hwide hnotice hlimit
  rw [hresponses', hsystem', hloaded]
  refine ⟨?_, hat.devices.bytes, ?_, UInt64.toNat_inj.1 hat.steps, ?_⟩
  · exact congrArg (fun outcome => [Response.done, .loaded (.ok ()), .stopped outcome]) hhalted
  · exact (congrArg (·.registers.pc) hat.core).trans hpc
  · exact (congrArg (·.memory) hat.core).trans hmemory

/-- Three characters are packed into two words, the last of them alone in its
word, and printed back. -/
theorem obeyAll_storedString_odd :
    let config : Config := { Config.default with haltNotice := false }
    let s : System Scripted Collector := ⟨.initial, { queue := [] }, {}⟩
    let commands : List Command := [.configure config,
      .loadImage (Image.encode (0x3000 :: storedString .double [0x48, 0x69, 0x21])), .run]
    storedString .double [0x48, 0x69, 0x21] = [0xE002, 0xF024, 0xF025, 0x6948, 0x0021, 0]
      ∧ (s.obeyAll commands).1 = [.done, .loaded (.ok ()), .stopped .halted]
      ∧ (s.obeyAll commands).2.1.console.bytes.toList = [0x48, 0x69, 0x21] := by
  intro config s commands
  have hbelow : 0x3000 + (storedString .double [0x48, 0x69, 0x21]).length ≤ 0xFE00 := by
    simp [length_storedString, Trap.Packing.pack]
  obtain ⟨hresponses, hbytes, -⟩ := obeyAll_storedString .double (by decide) hbelow
    (k := s.keyboard) rfl (c := s.console) ⟨rfl, rfl⟩ (show config.haltNotice = false from rfl)
    nofun
  exact ⟨by decide, hresponses, hbytes⟩

end System

end LC3
