import LC3.Console.Collector
import LC3.Proofs.Programs
import LC3.Proofs.TypedCharacters
import LC3.Proofs.Waits

/-!
# The order in which characters are received

A program **receives** a character from a routine that waits for one, or by
reading the keyboard data while a character is held there. The two ways do
not know of each other. A read of the keyboard status may have moved a
character to the data register, and a routine that waits then passes it by:
it is given the first *unread* character, although an earlier one is still
held, and it waits if there is no other.

So characters are received in the order in which they were typed, or not,
according to whether every character that such a routine was given came *in
turn* (`Exchange.InTurn`): none was held then, or the one that was held was
the same. `System.received_isPrefix_iff` states this for any number of steps,
with what a wait is answered and what becomes of the answer;
`System.not_received_isPrefix_pollThenGetC` is a program that polls the
keyboard and then asks for a character, and gets the second one first.
-/

namespace LC3

namespace Exchange

/-- **The character that an exchange gives to the program**, if it gives
one. What is read from the data register counts if a character was held. -/
def received? : Exchange → Option Word
  | waited (.ok (some c)) => some c.toUInt16
  | reported (.dataRead true value) => some value
  | _ => none

/-- The characters that exchanges give to the program, in order. -/
def received (exchanges : List Exchange) : List Word := exchanges.filterMap received?

@[simp] theorem received_nil : received [] = [] := rfl

/-- What is received in two parts is received one part after the other. -/
theorem received_append (before later : List Exchange) :
    received (before ++ later) = received before ++ received later :=
  List.filterMap_append

/-- The character that is held after an exchange, if one was held before or
not. -/
def heldAfter (held : Option Word) : Exchange → Option Word
  | reported (.statusRead _ ready data) => if ready then some data else none
  | reported (.dataRead _ _) => none
  | _ => held

/-- **An exchange passes a held character by** if it gives the program
another one. -/
def PassesBy (held : Option Word) (e : Exchange) : Prop :=
  ∃ h c, held = some h ∧ e = waited (.ok (some c)) ∧ c.toUInt16 ≠ h

/-- **Characters are given in turn** if no exchange passes a held one by. -/
def InTurn (held : Option Word) : List Exchange → Prop
  | [] => True
  | e :: rest => ¬ PassesBy held e ∧ InTurn (heldAfter held e) rest

/-- **Two parts are in turn** if the first is, and the second is from the character that
the first leaves held. -/
theorem inTurn_append (held : Option Word) (before later : List Exchange) :
    InTurn held (before ++ later)
      ↔ InTurn held before ∧ InTurn (before.foldl heldAfter held) later := by
  induction before generalizing held with
  | nil => exact (iff_of_eq (true_and _)).symm
  | cons e rest ih =>
    show ¬ PassesBy held e ∧ InTurn (heldAfter held e) (rest ++ later) ↔ _
    rw [ih, ← and_assoc]
    rfl

/-- An exchange that is no wait passes nothing by. -/
theorem not_passesBy {held : Option Word} {e : Exchange}
    (h : ∀ c, e ≠ waited (.ok (some c))) : ¬ PassesBy held e :=
  fun ⟨_, c, _, he, _⟩ => h c he

/-- Where none is held none is passed by. -/
theorem not_passesBy_none (e : Exchange) : ¬ PassesBy none e :=
  fun ⟨_, _, hheld, _⟩ => nomatch hheld

/-- A single exchange. -/
theorem inTurn_singleton {held : Option Word} {e : Exchange} :
    InTurn held [e] ↔ ¬ PassesBy held e :=
  iff_of_eq (and_true _)

end Exchange

open Exchange (received received_append InTurn inTurn_append heldAfter)

/-- **The characters that are due:** the one that is held, and behind it the
unread ones. -/
def due (m : Memory) (k : Scripted) : List Word := m.held?.toList ++ k.unreadWords

/-- Nothing is stored in the keyboard registers. -/
def SparesRegisters (exchanges : List Exchange) : Prop :=
  ∀ a value, .reported (.stored a value) ∈ exchanges →
    a ≠ Memory.statusAddress ∧ a ≠ Memory.dataAddress

/-- **Exchanges hand out what is due**, if they are in turn, and otherwise
give something else. Either way the held character is known from them. -/
structure HandsOut (m : Memory) (k : Scripted) (exchanges : List Exchange) (m' : Memory)
    (k' : Scripted) : Prop where
  held : exchanges.foldl heldAfter m.held? = m'.held?
  inTurn : InTurn m.held? exchanges → received exchanges ++ due m' k' = due m k
  outOfTurn : ¬ InTurn m.held? exchanges → ¬ received exchanges <+: due m k

/-- A store in the keyboard registers is left out of account. -/
def HandsOutUnlessStored (m : Memory) (k : Scripted) (exchanges : List Exchange) (m' : Memory)
    (k' : Scripted) : Prop :=
  SparesRegisters exchanges → HandsOut m k exchanges m' k'

/-- Where nothing is exchanged nothing is due any less. -/
theorem HandsOut.nil (m : Memory) (k : Scripted) : HandsOut m k [] m k :=
  ⟨rfl, fun _ => rfl, fun h => absurd trivial h⟩

/-- **What is handed out adds up**, in turn or not: once something was given out of
turn, nothing that comes later makes up for it, since it stands at its place in what was
received. -/
theorem HandsOut.append {m m' m'' : Memory} {k k' k'' : Scripted}
    {before later : List Exchange} (h : HandsOut m k before m' k')
    (h' : HandsOut m' k' later m'' k'') : HandsOut m k (before ++ later) m'' k'' where
  held := by
    rw [List.foldl_append, h.held, h'.held]
  inTurn hturn := by
    obtain ⟨hbefore, hlater⟩ := (inTurn_append _ _ _).1 hturn
    rw [h.held] at hlater
    rw [received_append, List.append_assoc, h'.inTurn hlater, h.inTurn hbefore]
  outOfTurn hturn := by
    rw [received_append]
    by_cases hbefore : InTurn m.held? before
    · -- what comes first is as it should be, and is cancelled on both sides
      have hlater : ¬ InTurn m'.held? later := fun hlater =>
        hturn ((inTurn_append _ _ _).2 ⟨hbefore, h.held ▸ hlater⟩)
      rw [← h.inTurn hbefore, List.prefix_append_right_inj]
      exact h'.outOfTurn hlater
    · exact fun hprefix => h.outOfTurn hbefore ((List.prefix_append _ _).trans hprefix)

/-- So it can be shown act by act. -/
theorem composes_handsOutUnlessStored : Dialogue.Composes HandsOutUnlessStored where
  nil m k _ := .nil m k
  append h h' hspares :=
    (h fun a value hmem => hspares a value (List.mem_append_left _ hmem)).append
      (h' fun a value hmem => hspares a value (List.mem_append_right _ hmem))

/-! ## Act by act

A held character is moved from the keyboard to the memory by a read of the
status, and from there to the program by a read of the data. Neither changes
what is due but by what is given. A wait goes to the keyboard directly, and this
is the only place where the order can be lost. -/

/-- Exchanges that are in turn need only hand out what is due. -/
theorem HandsOut.of_inTurn {m m' : Memory} {k k' : Scripted} {exchanges : List Exchange}
    (hheld : exchanges.foldl heldAfter m.held? = m'.held?) (hturn : InTurn m.held? exchanges)
    (hdue : received exchanges ++ due m' k' = due m k) : HandsOut m k exchanges m' k' :=
  ⟨hheld, fun _ => hdue, fun h => absurd hturn h⟩

/-- **An exchange that does not concern the program:** nothing is given,
nothing becomes held, and the keyboard keeps what it has. -/
theorem HandsOut.of_idle {m m' : Memory} {k k' : Scripted} {e : Exchange}
    (hreceived : e.received? = none) (hheld : heldAfter m.held? e = m.held?)
    (hmemory : m'.held? = m.held?) (hunread : k'.unread = k.unread) :
    HandsOut m k [e] m' k' := by
  have hnone : received [e] = [] := List.filterMap_cons_none hreceived
  have hwait : ∀ c, e ≠ .waited (.ok (some c)) := by
    intro c he
    rw [he] at hreceived
    exact Option.some_ne_none _ hreceived
  refine .of_inTurn (hheld.trans hmemory.symm) (Exchange.inTurn_singleton.2
    (Exchange.not_passesBy hwait)) ?_
  unfold due Scripted.unreadWords
  rw [hnone, hmemory, hunread]
  rfl

/-- **A wait gives the first unread character**, past one that is held. -/
theorem handsOut_wait (m : Memory) (k : Scripted) :
    HandsOut m k [.waited (Keyboard.wait k).answer] m (Keyboard.wait k).keyboard := by
  obtain ⟨hanswer, -, hunread⟩ := k.wait_eq
  cases hlist : k.unread with
  | nil =>
    rw [hlist] at hanswer hunread
    rw [hanswer]
    exact .of_idle rfl rfl rfl (hunread.trans hlist.symm)
  | cons c rest =>
    rw [hlist] at hanswer hunread
    rw [hanswer]
    have hdue : due m k = m.held?.toList ++ c.toUInt16 :: rest.map UInt8.toUInt16 := by
      unfold due Scripted.unreadWords
      rw [hlist]
      rfl
    have hdue' : due m (Keyboard.wait k).keyboard
        = m.held?.toList ++ rest.map UInt8.toUInt16 := by
      unfold due Scripted.unreadWords
      rw [hunread]
      rfl
    refine ⟨rfl, fun hturn => ?_, fun hturn => ?_⟩
    · rw [hdue, hdue']
      cases hheld : m.held? with
      | none => rfl
      | some h =>
        -- the character that is held and the one that is given are the same
        have hsame : c.toUInt16 = h := Classical.not_not.1 fun hne =>
          (Exchange.inTurn_singleton.1 hturn) ⟨h, c, hheld, rfl, hne⟩
        rw [← hsame]
        rfl
    · obtain ⟨h, d, hheld, hd, hne⟩ := Classical.not_not.1 fun hno =>
        hturn (Exchange.inTurn_singleton.2 hno)
      cases hd
      rw [hdue, hheld]
      exact fun hprefix => hne (List.cons_prefix_cons.1 hprefix).1

/-- A read of the status gives nothing: what it finds is held, and due as before. -/
theorem handsOut_readStatus {ω : Type} [Console ω] (m : Memory) (k : Scripted) (c : ω) :
    let course := m.readStatus.hold k c
    HandsOut m k course.exchanges course.value.2 course.keyboard := by
  by_cases hholds : m.holds = true
  · rw [Memory.hold_readStatus_of_holds hholds]
    exact .of_idle rfl (Memory.held?_of_holds hholds).symm rfl rfl
  · have hfree := Bool.eq_false_iff.2 hholds
    obtain ⟨hvalue, hunread, hexchanges⟩ := Scripted.hold_arrival k c
    rw [Memory.hold_readStatus_of_free hfree]
    dsimp only
    rw [hexchanges, hvalue]
    have hdue : due m k = k.unreadWords := by
      unfold due
      rw [Memory.held?_of_free hfree]
      rfl
    have hunreadWords : Scripted.unreadWords (Memory.arrival.hold k c).keyboard
        = k.unread.tail.map UInt8.toUInt16 := congrArg (List.map UInt8.toUInt16) hunread
    -- with no character unread, the status is cleared; otherwise the first becomes the
    -- one that is held
    cases hlist : k.unread with
    | nil =>
      rw [hlist] at hunreadWords
      refine .of_inTurn ?_ ⟨Exchange.not_passesBy nofun, Exchange.not_passesBy nofun, trivial⟩ ?_
      · show (if (m.write Memory.statusAddress 0).holds = true then _ else none) = _
        rw [m.holds_clear, if_neg Bool.false_ne_true]
        exact m.held?_clear.symm
      · show (m.write Memory.statusAddress 0).held?.toList ++ _ = _
        rw [hdue, m.held?_clear, hunreadWords]
        unfold Scripted.unreadWords
        rw [hlist]
        rfl
    | cons ch rest =>
      rw [hlist] at hunreadWords
      refine .of_inTurn ?_ ⟨Exchange.not_passesBy nofun, Exchange.not_passesBy nofun,
        Exchange.not_passesBy nofun, trivial⟩ ?_
      · show (if (m.hold (some ch)).holds = true then some _ else none) = _
        rw [m.holds_hold_some, if_pos rfl]
        exact (Memory.held?_of_holds (m.holds_hold_some ch)).symm
      · show (m.hold (some ch)).held?.toList ++ _ = _
        rw [hdue, m.held?_hold_some, hunreadWords]
        unfold Scripted.unreadWords
        rw [hlist]
        rfl

/-- A read of the data gives what is held, if something is. -/
theorem handsOut_readData {ω : Type} [Console ω] (m : Memory) (k : Scripted) (c : ω) :
    let course := m.readData.hold k c
    HandsOut m k course.exchanges course.value.2 course.keyboard := by
  rw [Memory.hold_readData]
  refine .of_inTurn m.held?_clear.symm (Exchange.inTurn_singleton.2
    (Exchange.not_passesBy nofun)) ?_
  unfold due
  rw [m.held?_clear]
  by_cases hholds : m.holds = true
  · rw [Memory.held?_of_holds hholds, hholds]
    rfl
  · have hfree := Bool.eq_false_iff.2 hholds
    rw [Memory.held?_of_free hfree, hfree]
    rfl

/-- **One act** hands out what is due, or something else out of turn. -/
theorem Act.handsOut_perform {ω : Type} [Console ω] (act : Act) (m : Memory) (k : Scripted)
    (c : ω) :
    let course := (act.perform m).hold k c
    HandsOutUnlessStored m k course.exchanges course.value course.keyboard := by
  intro course hspares
  cases act with
  | poll =>
    obtain ⟨-, hevents, hunread, -⟩ := k.poll_eq
    have hcourse : course = _ := hold_poll m k c
    rw [hcourse, hevents]
    exact .of_idle rfl rfl rfl hunread
  | await =>
    obtain ⟨-, hevents, -⟩ := k.wait_eq
    have hcourse : course = _ := hold_await m k c
    rw [hcourse, hevents]
    exact handsOut_wait m k
  | ask => exact .of_idle rfl rfl rfl rfl
  | write bytes => exact .of_idle rfl rfl rfl rfl
  | flush => exact .of_idle rfl rfl rfl rfl
  | read a =>
    have hcourse : course = _ := hold_read m k c a
    obtain ⟨-, h⟩ | ⟨-, h⟩ | h := m.read_cases a
    · rw [hcourse, h]
      exact handsOut_readStatus m k c
    · rw [hcourse, h]
      exact handsOut_readData m k c
    · rw [hcourse, h]
      exact .nil m k
  | store a value =>
    -- a store beside the registers of the keyboard leaves them alone
    obtain ⟨hstatus, hdata⟩ := hspares a value List.mem_cons_self
    exact .of_idle rfl rfl (m.held?_write value hstatus hdata) rfl
  | note event logged =>
    cases event with
    -- these two reports belong to reads, and are told of there
    | statusRead held ready data => exact absurd logged Bool.false_ne_true
    | dataRead held value => exact absurd logged Bool.false_ne_true
    | _ => exact .of_idle rfl rfl rfl rfl

/-! ## Any number of steps

Whether a step waits, and what it is answered, is known from `LC3.Proofs.Waits`.
The poll between instructions may find a character as well, but leaves it
unread. -/

namespace System

variable {ω : Type} [Console ω]

/-- A poll between instructions takes no character. -/
theorem unread_polled (s : System Scripted ω) :
    s.polled.keyboard.unread = s.keyboard.unread := by
  by_cases hdue : s.machine.PollIsDue
  · obtain ⟨-, -, hunread, -⟩ := s.keyboard.poll_eq
    rw [(polled_of_due hdue).1]
    exact hunread
  · rw [polled_of_not_due hdue]

/-- **A step that waits is answered with the first unread character**, and
has it in R0 afterwards. -/
theorem waited_unread {s : System Scripted ω} {answer : Except DeviceError (Option UInt8)}
    (h : .waited answer ∈ s.step.2.2) :
    answer = .ok s.keyboard.unread.head?
      ∧ ∀ character, s.keyboard.unread.head? = some character
        → s.next.machine.core.registers.get Registers.r0 = character.toUInt16 := by
  obtain ⟨htrap, hanswer, hr0⟩ := s.waited_mem_step h
  have hunread : s.polled.fetched.keyboard.unread = s.keyboard.unread :=
    (congrArg Scripted.unread (fetched_keyboard_of_trap htrap)).trans s.unread_polled
  rw [s.polled.fetched.keyboard.wait_eq.1, hunread] at hanswer
  exact ⟨hanswer, fun character hhead => hr0 character (hhead ▸ hanswer)⟩

/-! ## Two programs

The one asks for its characters by the same trap each time and gets them in
order. The other looks at the status first, as a program would that must not
block, and then asks by the trap. -/

/-- A step of GETC with a character unread. -/
theorem step_getC {s : System Scripted ω} {ch : UInt8} {rest : List UInt8}
    (hlimit : s.machine.limitReached? = none) (hdue : ¬ s.machine.PollIsDue)
    (hrequested : s.keyboard.exhausted = false) (hleft : s.machine.steps ≠ Machine.maxCount)
    (hread : s.machine.core.memory.read s.machine.core.registers.pc
      = .done (0xF020, s.machine.core.memory)) (hunread : s.keyboard.unread = ch :: rest) :
    s.step = (.running,
      ⟨{ s.machine with
          core := { s.machine.core with
            registers := s.machine.core.registers.advance.set Registers.r0 ch.toUInt16 }
          steps := s.machine.steps + 1 }, (Keyboard.wait s.keyboard).keyboard, s.console⟩,
      [.asked false, .reported (.executed s.machine.core.registers.pc (.ofWord 0xF020)),
        .waited (.ok (some ch))]) := by
  obtain ⟨hanswer, hevents, -⟩ := s.keyboard.wait_eq
  rw [hunread] at hanswer
  rw [step_of_cell hlimit hdue hrequested hleft hread]
  have hexecute : Core.execute s.machine.config s.machine.core.registers.pc
      ⟨s.machine.core.registers.advance, s.machine.core.memory⟩ (.ofWord 0xF020)
      = Trap.receive ⟨s.machine.core.registers.advance, s.machine.core.memory⟩
          fun _ core => return (.running, core) := rfl
  rw [hexecute]
  unfold Trap.receive
  rw [Dialogue.hold_bind, Dialogue.hold_awaitCharacter, hanswer, hevents]
  rfl

/-- A step of LDI through a pointer to the keyboard status, with a character
unread and none held. -/
theorem step_pollStatus {s : System Scripted ω} {w : Word} {ch : UInt8} {rest : List UInt8}
    (hlimit : s.machine.limitReached? = none) (hdue : ¬ s.machine.PollIsDue)
    (hrequested : s.keyboard.exhausted = false) (hleft : s.machine.steps ≠ Machine.maxCount)
    (hread : s.machine.core.memory.read s.machine.core.registers.pc
      = .done (w, s.machine.core.memory)) (hopcode : (Instruction.ofWord w).opcode = .ldi)
    (hpointer : s.machine.core.memory.read
        (s.machine.core.registers.advance.pc + (Instruction.ofWord w).off9)
      = .done (Memory.statusAddress, s.machine.core.memory))
    (hfree : s.machine.core.memory.holds = false) (hunread : s.keyboard.unread = ch :: rest) :
    s.step = (.running,
      ⟨{ s.machine with
          core := (⟨s.machine.core.registers.advance, s.machine.core.memory.hold (some ch)⟩
            : Core).assign (Instruction.ofWord w).dr Memory.ready
          steps := s.machine.steps + 1 },
        (Memory.arrival.hold s.keyboard s.console).keyboard,
        (Memory.arrival.hold s.keyboard s.console).console⟩,
      [.asked false, .reported (.executed s.machine.core.registers.pc (.ofWord w)),
        .polled (.ok true), .took (some ch),
        .reported (.statusRead false true ch.toUInt16)]) := by
  obtain ⟨hvalue, -, hexchanges⟩ := Scripted.hold_arrival s.keyboard s.console
  rw [hunread] at hvalue hexchanges
  have hexecute : Core.execute s.machine.config s.machine.core.registers.pc
      ⟨s.machine.core.registers.advance, s.machine.core.memory⟩ (.ofWord w)
      = s.machine.core.memory.readStatus >>= fun read =>
          Core.goOn ((⟨s.machine.core.registers.advance, read.2⟩ : Core).assign
            (Instruction.ofWord w).dr read.1) := by
    unfold Core.execute
    rw [hopcode]
    show (s.machine.core.memory.read
      (s.machine.core.registers.advance.pc + (Instruction.ofWord w).off9) >>= _) >>= _ = _
    rw [hpointer]
    show (s.machine.core.memory.readStatus >>= _) >>= _ = _
    rw [bind_assoc]
    rfl
  have hready : (s.machine.core.memory.hold (some ch)).peek Memory.statusAddress
      = Memory.ready := eq_of_beq (Memory.holds_hold_some _ ch)
  rw [step_of_cell hlimit hdue hrequested hleft hread, hexecute, Dialogue.hold_bind,
    Memory.hold_readStatus_of_free hfree]
  dsimp only
  rw [hvalue, hexchanges]
  dsimp only [List.head?_cons]
  rw [hready, Memory.holds_hold_some, Memory.peek_hold_some]
  rfl

/-- A program that asks for two characters. -/
def getCTwice : System Scripted Collector :=
  ⟨.loaded [0xF020, 0xF020], { queue := [0x61, 0x62] }, {}⟩

/-- Both are given in turn. -/
theorem trace_getCTwice :
    getCTwice.trace 2
      = [.asked false, .reported (.executed 0x3000 (.ofWord 0xF020)), .waited (.ok (some 0x61)),
        .asked false, .reported (.executed 0x3001 (.ofWord 0xF020)),
        .waited (.ok (some 0x62))] := by
  have hfirst := step_getC (s := getCTwice) rfl (by decide) rfl (by decide)
    (Machine.read_loaded (i := 0) rfl (by decide) (by decide))
    (show getCTwice.keyboard.unread = 0x61 :: [0x62] from rfl)
  have hsecond := step_getC (s := getCTwice.next) (by rw [next, hfirst]; rfl)
    (by rw [next, hfirst]; decide) (by rw [next, hfirst]; rfl) (by rw [next, hfirst]; decide)
    (by rw [next, hfirst]; exact Machine.read_loaded (i := 1) rfl (by decide) (by decide))
    (show getCTwice.next.keyboard.unread = 0x62 :: [] by rw [next, hfirst]; rfl)
  rw [trace_succ, trace_succ, trace_zero, hsecond, next, hfirst]
  rfl

/-- **A program that polls the keyboard and then asks for a character.** -/
def pollThenGetC : System Scripted Collector :=
  ⟨.loaded [0xA202, 0xF020, 0xF025, Memory.statusAddress], { queue := [0x61, 0x62] }, {}⟩

/-- Its first step finds the first character. -/
theorem step_pollThenGetC :
    pollThenGetC.step = (.running,
      ⟨⟨(⟨Registers.initial.advance, pollThenGetC.machine.core.memory.hold (some 0x61)⟩
          : Core).assign 1 Memory.ready, .default, 1, false⟩, { queue := [0x62] }, {}⟩,
      [.asked false, .reported (.executed 0x3000 (.ofWord 0xA202)), .polled (.ok true),
        .took (some 0x61), .reported (.statusRead false true 0x61)]) :=
  step_pollStatus (s := pollThenGetC) rfl (by decide) rfl (by decide)
    (Machine.read_loaded (i := 0) rfl (by decide) (by decide)) rfl
    (Machine.read_loaded (i := 3) rfl (by decide) (by decide))
    (Machine.holds_loaded (by decide))
    (show pollThenGetC.keyboard.unread = 0x61 :: [0x62] from rfl)

/-- Its second step is given the character behind it. -/
theorem step_next_pollThenGetC :
    pollThenGetC.next.step.2.2
      = [.asked false, .reported (.executed 0x3001 (.ofWord 0xF020)),
        .waited (.ok (some 0x62))] := by
  have hpeek : pollThenGetC.machine.core.memory.peek 0x3001 = 0xF020 :=
    Machine.peek_loaded _ (i := 1) rfl
  have hread : (pollThenGetC.machine.core.memory.hold (some 0x61)).read 0x3001
      = .done (0xF020, pollThenGetC.machine.core.memory.hold (some 0x61)) := by
    rw [Memory.read_eq_done _ (by decide) (by decide),
      Memory.peek_hold_of_cell _ _ (by decide) (by decide), hpeek]
  rw [step_getC (s := pollThenGetC.next) (by rw [next, step_pollThenGetC]; rfl)
    (by rw [next, step_pollThenGetC]; decide) (by rw [next, step_pollThenGetC])
    (by rw [next, step_pollThenGetC]; decide) (by rw [next, step_pollThenGetC]; exact hread)
    (show pollThenGetC.next.keyboard.unread = 0x62 :: [] by rw [next, step_pollThenGetC]; rfl),
    next, step_pollThenGetC]
  rfl

/-! ## The order

Both directions are in `HandsOut`, and the induction over the steps is
`System.relate_trace`. -/

/-- **Characters are received in the order in which they were typed exactly
if none was passed by** that a read of the keyboard status had found. In any
number of steps that store nothing in the keyboard registers, the characters
received are the first of those that were due, if all were given in turn, and
otherwise they are not. A wait is always answered with the first unread
character, which is then in R0; the character that is held plays no part. -/
theorem received_isPrefix_iff (s : System Scripted ω) (n : Nat)
    (hspares : SparesRegisters (s.trace n)) :
    (received (s.trace n) <+: due s.machine.core.memory s.keyboard
        ↔ InTurn s.machine.core.memory.held? (s.trace n))
      ∧ ∀ i, ∀ answer, .waited answer ∈ (s.after i).step.2.2
        → answer = .ok (s.after i).keyboard.unread.head?
          ∧ ∀ character, (s.after i).keyboard.unread.head? = some character
            → (s.after (i + 1)).machine.core.registers.get Registers.r0
              = character.toUInt16 := by
  have h := s.relate_trace composes_handsOutUnlessStored Act.handsOut_perform n hspares
  refine ⟨⟨fun hprefix => ?_, fun hturn => ?_⟩, fun i answer hmem => ?_⟩
  · exact Classical.not_not.1 fun hturn => h.outOfTurn hturn hprefix
  · rw [← h.inTurn hturn]
    exact List.prefix_append _ _
  · rw [after_succ']
    exact waited_unread hmem

/-- Two characters that were asked for are received in order. -/
theorem received_getCTwice :
    SparesRegisters (getCTwice.trace 2) ∧ received (getCTwice.trace 2) = [0x61, 0x62]
      ∧ received (getCTwice.trace 2)
        <+: due getCTwice.machine.core.memory getCTwice.keyboard := by
  have hspares : SparesRegisters (getCTwice.trace 2) := by
    rw [trace_getCTwice]
    intro a value hmem
    simp at hmem
  have hheld : getCTwice.machine.core.memory.held? = none :=
    Memory.held?_of_free (Machine.holds_loaded (by decide))
  refine ⟨hspares, ?_, (received_isPrefix_iff getCTwice 2 hspares).1.2 ?_⟩
  · rw [trace_getCTwice]
    rfl
  · have hnone := Exchange.not_passesBy_none
    rw [trace_getCTwice, hheld]
    exact ⟨hnone _, hnone _, hnone _, hnone _, hnone _, hnone _, trivial⟩

/-- **A character is received before one that was typed earlier** by a program
that polls the keyboard and then asks for a character: the first character is
held when the second is given. -/
theorem not_received_isPrefix_pollThenGetC :
    pollThenGetC.machine.core.memory.held? = none
      ∧ pollThenGetC.keyboard.unreadWords = [0x61, 0x62]
      ∧ SparesRegisters (pollThenGetC.trace 2)
      ∧ (pollThenGetC.after 1).machine.core.memory.held? = some 0x61
      ∧ .waited (.ok (some 0x62)) ∈ (pollThenGetC.after 1).step.2.2
      ∧ received (pollThenGetC.trace 2) = [0x62]
      ∧ ¬ received (pollThenGetC.trace 2) <+: pollThenGetC.keyboard.unreadWords := by
  have htrace : pollThenGetC.trace 2
      = pollThenGetC.step.2.2 ++ (pollThenGetC.next.step.2.2 ++ []) := rfl
  rw [step_pollThenGetC, step_next_pollThenGetC] at htrace
  have hreceived : received (pollThenGetC.trace 2) = [0x62] := by
    rw [htrace]
    rfl
  refine ⟨Memory.held?_of_free (Machine.holds_loaded (by decide)), rfl, ?_, ?_, ?_, hreceived, ?_⟩
  · rw [htrace]
    intro a value hmem
    simp at hmem
  · rw [after_succ, after_zero, next, step_pollThenGetC]
    exact Memory.held?_hold_some _ 0x61
  · rw [after_succ, after_zero, step_next_pollThenGetC]
    exact List.mem_cons_of_mem _ (List.mem_cons_of_mem _ List.mem_cons_self)
  · rw [hreceived]
    exact fun hprefix => absurd (List.cons_prefix_cons.1 hprefix).1 (by decide)

end System

end LC3
