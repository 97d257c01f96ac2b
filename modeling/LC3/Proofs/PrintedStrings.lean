import LC3.Proofs.MemoryPasses
import LC3.Proofs.ProgramImages
import LC3.Proofs.RunAgain

/-!
# What the string traps print

A string is read in one pass from the address in R0 on, and written when the
pass is over. The pass ends with the first word that reads as zero, and no
later than after all addresses: `Trap.exists_hold_gather` says that reading a
string is such a pass, whatever the memory and the keyboard, with the
characters of all words but the zero. So a string without an end is no
exception, and one that runs into the keyboard registers is read there as any
program would read them.

`Trap.perform_printing` puts the pass together with what
`LC3.Proofs.MemoryPasses` says about it, since no pass of 65536 addresses
reads one of them twice, and with a console that accepts everything. What is
written it says in numbers: the remainder of a word when it is divided by 256,
and for packed characters the quotient behind it, if there is one.
-/

namespace LC3

open Exchange (written flushes written_append)

/-! ## The console

A message costs at most one write and always one flush. So what a console that
accepts everything has seen of a message can be written down beforehand, and
what was written and how often it was flushed are read off that. -/

/-- **What a message exchanges** with a console that accepts everything. -/
def Exchange.said (message : List UInt8) : List Exchange :=
  if message.isEmpty then [.flushed (.ok ())]
  else [.wrote message (.ok ()), .flushed (.ok ())]

/-- What was written is the message, also if it is empty and nothing was. -/
@[simp] theorem Exchange.written_said (message : List UInt8) :
    written (said message) = message := by
  cases message with
  | nil => rfl
  | cons b rest => simp [said, written]

/-- A message is flushed once, also if it is empty. -/
@[simp] theorem Exchange.flushes_said (message : List UInt8) : flushes (said message) = 1 := by
  cases message <;> rfl

/-- Flushes are counted one part after another. -/
theorem Exchange.flushes_append (before later : List Exchange) :
    flushes (before ++ later) = flushes before + flushes later :=
  List.countP_append

namespace Dialogue

variable {κ ω α : Type} [Keyboard κ] [Console ω]

/-- **A message is accepted:** it is written, unless there is nothing of it, and
flushed. -/
theorem hold_say_of_acceptsAll (message : List UInt8) (k : κ) {c : ω}
    (h : Console.AcceptsAll c) :
    (say message).hold k c
      = ⟨.ok (), k, (Console.say c message).2, Exchange.said message⟩ := by
  unfold say Console.say Exchange.said
  split
  · unfold hold
    dsimp only
    rw [h.flush.1]
    rfl
  · obtain ⟨hwrite, hnext⟩ := h.write message
    unfold hold
    generalize Console.write c message = answered at hwrite hnext ⊢
    obtain ⟨answer, c'⟩ := answered
    obtain rfl : answer = .ok () := hwrite
    dsimp only at hnext ⊢
    unfold hold
    dsimp only
    rw [hnext.flush.1]
    rfl

/-- What cannot fail flushes nothing. -/
theorem CannotFail.flushes_eq_zero {x : Dialogue α} (h : x.CannotFail) (k : κ) (c : ω) :
    flushes (x.hold k c).exchanges = 0 := by
  induction x generalizing k c with
  | done a => rfl
  | poll next ih =>
    show flushes (_ ++ _ ++ _) = 0
    -- a poll may report events, and none of them is a flush
    rw [Exchange.flushes_append, Exchange.flushes_append, ih _ (h _)]
    simp [flushes, Exchange.isFlush, List.countP_map]
  | take next ih => exact ih _ (h _) _ _
  | wait next ih =>
    obtain ⟨a, -, hfalse⟩ := h.2.1.eq_done
    exact hfalse.elim
  | requested next ih => exact ih _ (h _) _ _
  | write bytes next ih =>
    obtain ⟨a, -, hfalse⟩ := (h.2 Collector.brokenPipe).eq_done
    exact hfalse.elim
  | flush next ih =>
    obtain ⟨a, -, hfalse⟩ := (h.2 Collector.brokenPipe).eq_done
    exact hfalse.elim
  | report event rest ih => exact ih h _ _

end Dialogue

namespace Trap

variable {κ ω : Type} [Keyboard κ] [Console ω]

/-! ## The pass

Reading stops at the first zero. So two things are to be known of the words of a
pass: which of them belong to the string, and that there are no more of them
than addresses. The induction is on the addresses that are left, and the
characters gathered before are carried along, in reverse as the routine holds
them. -/

/-- The first word is read, and unless it is zero the rest of the string behind it. -/
theorem hold_gather_succ (packing : Packing) (count : Nat) (a : Word) (m : Memory)
    (before : List UInt8) (k : κ) (c : ω) :
    (gather packing (count + 1) a m before).hold k c
      = (let first := (m.read a).hold k c
        if first.value.1 = 0 then
          ⟨(before.reverse, first.value.2), first.keyboard, first.console, first.exchanges⟩
        else
          ((gather packing count (a + 1) first.value.2
            ((packing.characters first.value.1).reverse ++ before)).hold first.keyboard
              first.console).after first.exchanges) := by
  rw [gather_succ, Dialogue.hold_bind]
  dsimp only
  split
  · exact Course.after_done _ _ _ _
  · rfl

/-- A zero in the pass is its last word, and before it come those of the string. -/
theorem eq_take_of_zero {pass words : List Word} {ends : Prop} (hwords : 0 ∉ words)
    (hends : pass = words ++ [0] ∨ pass = words ∧ ends) {i : Nat} (h : pass[i]? = some 0) :
    words = pass.take i := by
  obtain rfl | ⟨rfl, -⟩ := hends
  · obtain hlt | hle := Nat.lt_or_ge i words.length
    · rw [List.getElem?_append_left hlt] at h
      exact absurd (List.mem_of_getElem? h) hwords
    · have hlt : i < (words ++ [0]).length := (List.getElem?_eq_some_iff.1 h).1
      obtain rfl : i = words.length := by
        rw [List.length_append, List.length_singleton] at hlt
        exact Nat.le_antisymm (Nat.le_of_lt_succ hlt) hle
      rw [List.take_left]
  · exact absurd (List.mem_of_getElem? h) hwords

/-- **What the string is** follows from the first words that the pass reads: when they go
on to a zero, those before it are all of it. The pass may still be shorter than that as
far as `hreads` says, but then its own last word is a zero among them. -/
theorem eq_of_reads {pass words string : List Word} {ends : Prop} (hwords : 0 ∉ words)
    (hends : pass = words ++ [0] ∨ pass = words ∧ ends)
    (hlong : ends → string.length < pass.length) (hstring : 0 ∉ string)
    (hreads : ∀ i < pass.length, i ≤ string.length → pass[i]? = (string ++ [0])[i]?) :
    words = string := by
  -- a pass that is no longer than the string would end with a zero in the string
  have hlast : string.length < pass.length := by
    obtain hpass | ⟨-, h⟩ := hends
    · by_contra hle
      have hlength : pass.length = words.length + 1 := by simp [hpass]
      have hlt : words.length < string.length := by omega
      have hzero := hreads words.length (by omega) (by omega)
      rw [hpass, List.getElem?_concat_length, List.getElem?_append_left hlt] at hzero
      exact hstring (List.mem_of_getElem? hzero.symm)
    · exact hlong h
  have hzero : pass[string.length]? = some 0 := by
    rw [hreads _ hlast (Nat.le_refl _), List.getElem?_concat_length]
  rw [eq_take_of_zero hwords hends hzero]
  refine List.ext_getElem? fun i => ?_
  obtain hlt | hle := Nat.lt_or_ge i string.length
  · rw [List.getElem?_take_of_lt hlt, hreads i (hlt.trans hlast) (Nat.le_of_lt hlt),
      List.getElem?_append_left hlt]
  · rw [List.getElem?_eq_none hle, List.getElem?_eq_none ((List.length_take_le _ _).trans hle)]

/-- **Reading a string is a pass** over at most `count` addresses. Its words are those
of the string and the zero that ends it, unless there is none among so many. -/
theorem exists_hold_gather (packing : Packing) (count : Nat) (a : Word) (m : Memory)
    (before : List UInt8) (k : κ) (c : ω) :
    ∃ n ≤ count, ∃ words : List Word, 0 ∉ words
      ∧ (let pass := (m.readEach (Word.row a n)).hold k c
        (pass.value.1 = words ++ [0] ∨ pass.value.1 = words ∧ n = count)
          ∧ (gather packing count a m before).hold k c
            = ⟨(before.reverse ++ words.flatMap packing.characters, pass.value.2),
              pass.keyboard, pass.console, pass.exchanges⟩) := by
  induction count generalizing a m before k c with
  | zero =>
    refine ⟨0, le_rfl, [], List.not_mem_nil, .inr ⟨rfl, rfl⟩, ?_⟩
    simp [gather, Memory.readEach]
  | succ count ih =>
    rw [hold_gather_succ]
    generalize hfirst : (m.read a).hold k c = first
    dsimp only
    by_cases hzero : first.value.1 = 0
    · -- the zero is read as well, so the pass is longer than the string
      refine ⟨1, Nat.le_add_left 1 count, [], List.not_mem_nil, ?_⟩
      rw [Word.row_succ, Memory.hold_readEach_cons, hfirst, if_pos hzero]
      refine ⟨.inl (congrArg (· :: []) hzero), ?_⟩
      simp [Memory.readEach]
    · obtain ⟨n, hn, words, hwords, hends, hgather⟩ :=
        ih (a + 1) first.value.2 ((packing.characters first.value.1).reverse ++ before)
          first.keyboard first.console
      refine ⟨n + 1, Nat.succ_le_succ hn, first.value.1 :: words, ?_, ?_⟩
      · simp [hwords, Ne.symm hzero]
      · rw [Word.row_succ, Memory.hold_readEach_cons, hfirst, if_neg hzero, hgather]
        refine ⟨hends.imp (congrArg (List.cons _)) (And.imp (congrArg (List.cons _))
          (congrArg (· + 1))), ?_⟩
        simp [Course.after]

/-! ## The routines

What a routine does after the pass is to print one message and go on. The bytes
of that message are stated as numbers, by division, and not by the two functions
that the routine cuts a word with. -/

/-- The trap that prints strings packed so: PUTS or PUTSP. -/
def Packing.trap : Packing → Trap
  | single => putS
  | double => putSP

/-- Both routines print a string, and differ in how it is packed. -/
theorem perform_trap (packing : Packing) (config : Config) (core : Core) :
    packing.trap.perform config core = printString packing core := by
  cases packing <;> rfl

/-- **The characters in a word, as numbers:** its low byte is what it leaves when it is
divided by 256, and its high byte how often 256 goes into it. -/
theorem toNat_characters (packing : Packing) (w : Word) :
    (packing.characters w).map UInt8.toNat
      = w.toNat % 256
        :: if packing = .double ∧ w.toNat / 256 ≠ 0 then [w.toNat / 256] else [] := by
  have hhigh : w.highByte = 0 ↔ w.toNat / 256 = 0 := by
    rw [← w.toNat_highByte]
    exact UInt8.toNat_inj.symm
  cases packing with
  | single => exact congrArg (· :: []) w.toNat_lowByte
  | double =>
    by_cases h : w.highByte = 0
    · rw [if_neg fun hpacked => hpacked.2 (hhigh.1 h)]
      simp [Packing.characters, h, w.toNat_lowByte]
    · rw [if_pos ⟨rfl, mt hhigh.2 h⟩]
      simp [Packing.characters, h, w.toNat_lowByte, w.toNat_highByte]

/-- The characters of a whole string are those of its words, one word after another. -/
theorem toNat_flatMap_characters (packing : Packing) (words : List Word) :
    (words.flatMap packing.characters).map UInt8.toNat
      = words.flatMap fun w => w.toNat % 256
          :: if packing = .double ∧ w.toNat / 256 ≠ 0 then [w.toNat / 256] else [] := by
  rw [List.map_flatMap]
  exact congrArg words.flatMap (funext (toNat_characters packing))

/-- **A string is printed** when it was read, on a console that accepts everything. -/
theorem hold_printString_of_acceptsAll (packing : Packing) (core : Core) (k : κ) {c : ω}
    (h : Console.AcceptsAll c) :
    (printString packing core).hold k c
      = (let string := (gather packing UInt16.size (core.registers.get Registers.r0)
          core.memory []).hold k c
        ⟨(.running, ⟨core.registers, string.value.2⟩), string.keyboard,
          (Console.say c string.value.1).2,
          string.exchanges ++ Exchange.said string.value.1⟩) := by
  obtain ⟨registers, memory⟩ := core
  have hconsole := (cannotFail_gather packing UInt16.size (registers.get Registers.r0) memory
    []).console_eq k c
  unfold printString
  dsimp only
  rw [Dialogue.hold_bind, hconsole]
  unfold print
  rw [Dialogue.hold_bind, Dialogue.hold_say_of_acceptsAll _ _ h]
  simp [Course.after]

/-- **The two string traps print exactly the string** at the address in R0, and always
end: for all registers and memories, with every keyboard, and on every console that
accepts everything. They read the words one after another like a program, around the
end of the memory and no address twice, up to the first that reads as zero or until all
65536 are read. Of every word before the zero the low byte is written, which is its
remainder by 256, and by the second trap the high byte behind it, its quotient, unless
that is zero; the console is flushed once, and no register is changed. What the pass
reads in the keyboard registers, and what it leaves there, is that of a pass that reads
nothing twice. -/
theorem perform_printing {κ ω : Type} [Keyboard κ] [Console ω] (packing : Packing)
    (config : Config) (core : Core) (k : κ) {c : ω} (h : Console.AcceptsAll c) :
    ∃ n ≤ 65536, ∃ (words : List Word) (text : List UInt8),
      let addresses := Word.row core.registers.general[0] n
      let pass := (core.memory.readEach addresses).hold k c
      let course := (packing.trap.perform config core).hold k c
      addresses.Nodup ∧ 0 ∉ words
        ∧ (pass.value.1 = words ++ [0] ∨ pass.value.1 = words ∧ n = 65536)
        ∧ text.map UInt8.toNat = (words.flatMap fun w => w.toNat % 256
            :: if packing = .double ∧ w.toNat / 256 ≠ 0 then [w.toNat / 256] else [])
        ∧ course.value = (.running, ⟨core.registers, pass.value.2⟩)
        ∧ course.keyboard = pass.keyboard
        ∧ course.console = (Console.say c text).2
        ∧ course.exchanges = pass.exchanges ++ Exchange.said text
        ∧ written course.exchanges = text ∧ flushes course.exchanges = 1
        ∧ core.memory.ReadsOnce k addresses pass := by
  have hcannotFail := cannotFail_gather packing UInt16.size (core.registers.get Registers.r0)
    core.memory []
  have hwritten := hcannotFail.written_eq_nil k c
  have hflushes := hcannotFail.flushes_eq_zero k c
  obtain ⟨n, hn, words, hwords, hends, hgather⟩ :=
    exists_hold_gather packing UInt16.size (core.registers.get Registers.r0) core.memory [] k c
  have hcourse := hold_printString_of_acceptsAll packing core k h
  rw [hgather, List.reverse_nil, List.nil_append] at hcourse
  rw [hgather] at hwritten hflushes
  have hnodup := Word.nodup_row (core.registers.get Registers.r0) hn
  refine ⟨n, hn, words, words.flatMap packing.characters, hnodup, hwords, hends,
    toNat_flatMap_characters packing words, ?_⟩
  rw [perform_trap, hcourse]
  refine ⟨rfl, rfl, rfl, rfl, ?_, ?_, Memory.readsOnce core.memory hnodup k c⟩
  · rw [written_append, hwritten, Exchange.written_said, List.nil_append]
  · rw [Exchange.flushes_append, hflushes, Exchange.flushes_said, Nat.zero_add]

/-- A packed string of one word right before the keyboard status, and nothing else. -/
def stringBeforeStatus : Core :=
  ⟨Registers.initial.set Registers.r0 0xFDFF, Memory.empty.write 0xFDFF 0x6948⟩

/-- A keyboard on which one character was typed. -/
def oneTyped : Scripted := { queue := [0x61] }

/-- Its words are the first, and the status, which is ready since a character is there;
the cell behind the status is empty and ends the string. Two characters are packed into
the first word, and into the status a zero, which is the low byte of a word and so is
printed, and 0x80. -/
theorem perform_printing_stringBeforeStatus :
    Console.AcceptsAll ({} : Collector)
      ∧ (let course := (putSP.perform .default stringBeforeStatus).hold oneTyped ({} : Collector)
        course.value.1 = .running ∧ course.value.2.registers = stringBeforeStatus.registers
          ∧ written course.exchanges = [0x48, 0x69, 0x00, 0x80]
          ∧ flushes course.exchanges = 1) := by
  have haccepts : Console.AcceptsAll ({} : Collector) := Collector.Wide.acceptsAll ⟨rfl, rfl⟩
  obtain ⟨n, -, words, text, -, hwords, hends, htext, hvalue, -, -, -, hwritten, hflushes,
    hreads⟩ :=
    perform_printing .double .default stringBeforeStatus oneTyped haccepts
  have htrap : Packing.double.trap = putSP := rfl
  have haddress : stringBeforeStatus.registers.general[0] = 0xFDFF := rfl
  rw [htrap] at hvalue hwritten hflushes
  rw [haddress] at hends hvalue hreads
  generalize (stringBeforeStatus.memory.readEach (Word.row 0xFDFF n)).hold oneTyped
    ({} : Collector) = pass at hends hvalue hreads
  have hlength := hreads.length_eq
  rw [Word.length_row] at hlength
  -- the three cells from the string on: a word of memory, the status, and an empty cell
  obtain rfl : words = [0x6948, 0x8000] := by
    refine eq_of_reads hwords hends (fun h => by rw [hlength, h]; decide) (by decide)
      fun i hi hle => ?_
    rw [hlength] at hi
    have hplace : (Word.row 0xFDFF n)[i]? = some (0xFDFF + UInt16.ofNat i) := by
      rw [Word.row, List.getElem?_map, List.getElem?_range hi]
      rfl
    rcases i with _ | _ | _ | i
    · rw [hreads.stored 0 0xFDFF hplace (by decide) (by decide)]
      exact congrArg some (Memory.peek_write_self _ _ _)
    · obtain ⟨n, rfl⟩ : ∃ n', n = n' + 2 := ⟨n - 2, by omega⟩
      have hready := hreads.status [0xFDFF] (Word.row 0xFE01 n)
        (by rw [Word.row_succ, Word.row_succ]; rfl)
      exact hready.trans (congrArg some (if_pos (.inr rfl)))
    · rw [hreads.stored 2 0xFE01 hplace (by decide) (by decide)]
      exact congrArg some ((Memory.peek_write_ne _ _ (by decide)).trans (Memory.peek_empty _))
    · exact absurd hle (by simp)
  obtain rfl : text = [0x48, 0x69, 0x00, 0x80] :=
    List.map_injective_iff.2 (fun _ _ => UInt8.toNat_inj.1) (htext.trans (by decide))
  refine ⟨haccepts, congrArg Prod.fst hvalue, ?_, hwritten, hflushes⟩
  exact congrArg (fun value : Outcome × Core => value.2.registers) hvalue

end Trap

end LC3
