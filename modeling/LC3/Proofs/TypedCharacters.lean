import LC3.Session
import LC3.Keyboard.Scripted
import LC3.Proofs.Acts
import LC3.Proofs.KeyboardRegisters
import LC3.Proofs.Runs

/-!
# No typed character is lost

A character typed on a scripted keyboard waits in the queue, then perhaps in
the latch, and then it is **taken**: by a routine that waits for a character,
or by a read of the keyboard status, which moves it to the data register. The
taken characters and the unread ones, those of the latch and the queue, are
at all times the typed ones, none lost, doubled or out of order.

One act moves at most one character from the unread to the taken
(`Act.moves_perform`), so a step and any number of steps keep the two lists
together the same (`System.relate_trace`). `System.taken_append_unread` states
it for a whole session. What was taken is read off the exchanges: from a
wait, the character it was answered with; from a read of the status, what the
data register contains after it.
-/

namespace LC3

namespace Exchange

/-- **The character that an exchange took** from the keyboard, if it took
one, as the program gets it. A read of the status takes one if none was held
and one is held now. -/
def taken? : Exchange → Option Word
  | waited (.ok (some c)) => some c.toUInt16
  | reported (.statusRead false true data) => some data
  | _ => none

/-- The characters that exchanges took, in order. -/
def taken (exchanges : List Exchange) : List Word := exchanges.filterMap taken?

@[simp] theorem taken_nil : taken [] = [] := rfl

/-- What was taken first comes first. -/
theorem taken_append (before later : List Exchange) :
    taken (before ++ later) = taken before ++ taken later :=
  List.filterMap_append

end Exchange

open Exchange (taken taken_append)

namespace Scripted

/-- **The characters that were not taken yet:** the one that a poll found,
and the queue behind it. -/
def unread (k : Scripted) : List UInt8 := k.latch.toList ++ k.queue

/-- They are compared with the taken ones as words. -/
def unreadWords (k : Scripted) : List Word := k.unread.map UInt8.toUInt16

/-- A poll only moves a character to the latch. -/
theorem poll_eq (k : Scripted) :
    (Keyboard.poll k).answer = .ok (!k.unread.isEmpty)
      ∧ (Keyboard.poll k).events = []
      ∧ (Keyboard.poll k).keyboard.unread = k.unread
      ∧ (Keyboard.poll k).keyboard.latch = k.unread.head? := by
  obtain ⟨queue, latch, exhausted⟩ := k
  cases latch with
  | some c => exact ⟨rfl, rfl, rfl, rfl⟩
  | none =>
    cases queue with
    | nil => exact ⟨rfl, rfl, rfl, rfl⟩
    | cons c rest => exact ⟨rfl, rfl, rfl, rfl⟩

/-- A wait is answered with the first unread character. -/
theorem wait_eq (k : Scripted) :
    (Keyboard.wait k).answer = .ok k.unread.head?
      ∧ (Keyboard.wait k).events = []
      ∧ (Keyboard.wait k).keyboard.unread = k.unread.tail := by
  obtain ⟨queue, latch, exhausted⟩ := k
  cases latch with
  | some c => exact ⟨rfl, rfl, rfl⟩
  | none =>
    cases queue with
    | nil => exact ⟨rfl, rfl, rfl⟩
    | cons c rest => exact ⟨rfl, rfl, rfl⟩

/-- **A character arrives** at the memory if there is an unread one: the
first. -/
theorem hold_arrival {ω : Type} [Console ω] (k : Scripted) (c : ω) :
    (Memory.arrival.hold k c).value = k.unread.head?
      ∧ (Memory.arrival.hold k c).keyboard.unread = k.unread.tail
      ∧ (Memory.arrival.hold k c).exchanges
        = .polled (.ok (!k.unread.isEmpty))
          :: k.unread.head?.toList.map fun character => .took (some character) := by
  obtain ⟨queue, latch, exhausted⟩ := k
  cases latch with
  | some c => exact ⟨rfl, rfl, rfl⟩
  | none =>
    cases queue with
    | nil => exact ⟨rfl, rfl, rfl⟩
    | cons c rest => exact ⟨rfl, rfl, rfl⟩

end Scripted

/-! ## Act by act

The relation is between two moments, not at one: the taken characters with the
unread ones behind them are what was unread before. Such relations compose,
which is why one act is enough. -/

/-- **Exchanges move characters** from the unread ones to the taken ones: the
two lists together stay the same. -/
def Moves (_ : Memory) (k : Scripted) (exchanges : List Exchange) (_ : Memory)
    (k' : Scripted) : Prop :=
  taken exchanges ++ k'.unreadWords = k.unreadWords

/-- First some characters are taken, and then some of those that are left. -/
theorem composes_moves : Dialogue.Composes Moves where
  nil _ _ := rfl
  append {_ _ _ k k' k'' before later} h h' := by
    show taken (before ++ later) ++ k''.unreadWords = k.unreadWords
    rw [taken_append, List.append_assoc, show _ = k'.unreadWords from h']
    exact h

/-- **A read of the status** takes a character only together with its report: if one
arrives, it is reported to be there now and not to have been before. -/
theorem Memory.moves_readStatus {ω : Type} [Console ω] (m : Memory) (k : Scripted) (c : ω) :
    let course := m.readStatus.hold k c
    Moves m k course.exchanges course.value.2 course.keyboard := by
  by_cases hholds : m.holds = true
  · rw [hold_readStatus_of_holds hholds]
    exact rfl
  · obtain ⟨hvalue, hunread, hexchanges⟩ := Scripted.hold_arrival k c
    rw [hold_readStatus_of_free (Bool.eq_false_iff.2 hholds)]
    show taken (_ ++ _) ++ Scripted.unreadWords _ = _
    unfold Scripted.unreadWords
    rw [taken_append, hexchanges, hunread, hvalue]
    cases hlist : k.unread with
    | nil =>
      show taken [.reported (.statusRead false (m.write statusAddress 0).holds _)] ++ [] = []
      rw [holds_clear]
      rfl
    | cons ch rest =>
      show taken [.reported (.statusRead false (m.hold (some ch)).holds _)] ++ _ = _
      rw [holds_hold_some, show (ch :: rest).head? = some ch from rfl, peek_hold_some]
      rfl

/-- **One act** moves at most one character, and loses none. -/
theorem Act.moves_perform {ω : Type} [Console ω] (act : Act) (m : Memory) (k : Scripted)
    (c : ω) :
    let course := (act.perform m).hold k c
    Moves m k course.exchanges course.value course.keyboard := by
  cases act with
  | poll =>
    obtain ⟨-, hevents, hunread, -⟩ := k.poll_eq
    rw [hold_poll, hevents]
    exact congrArg (List.map UInt8.toUInt16) hunread
  | await =>
    obtain ⟨hanswer, hevents, hunread⟩ := k.wait_eq
    rw [hold_await, hevents, hanswer]
    show taken [.waited (.ok k.unread.head?)] ++ Scripted.unreadWords _ = Scripted.unreadWords _
    unfold Scripted.unreadWords
    rw [hunread]
    cases k.unread with
    | nil => rfl
    | cons ch rest => rfl
  | ask => exact rfl
  | write bytes => exact rfl
  | flush => exact rfl
  | read a =>
    rw [hold_read]
    obtain ⟨-, h⟩ | ⟨-, h⟩ | h := m.read_cases a
    · rw [h]
      exact m.moves_readStatus k c
    · rw [h]
      exact rfl
    · rw [h]
      exact rfl
  | store a value => exact rfl
  | note event logged =>
    have hnone : Exchange.taken? (.reported event) = none := by
      cases event with
      | statusRead held ready data => exact absurd logged Bool.false_ne_true
      | _ => rfl
    show List.filterMap _ [_] ++ _ = _
    rw [List.filterMap_cons_none hnone]
    rfl

/-! ## Whole sessions

Typing is the one command that makes the two lists together longer, and it does
so at the end. All other commands let the machine act, or do nothing that the
keyboard could notice. -/

namespace Command

/-- The characters that a command types. -/
def typed : Command → List UInt8
  | type characters => characters
  | _ => []

end Command

namespace System

variable {ω : Type} [Console ω]

/-- Letting the machine act takes and loses no character without a record of
it, if the machine performs acts. -/
theorem taken_respond {α : Type} (s : System Scripted ω) (response : α → Response)
    {dialogue : Machine → Dialogue (α × Machine)} {m : Memory} {memory : α × Machine → Memory}
    (h : (dialogue s.machine).Follows Act.Any m memory) :
    let result := s.respond Array.push #[] response dialogue
    taken result.2.2.toList ++ result.2.1.keyboard.unreadWords = s.keyboard.unreadWords := by
  show taken (List.foldl Array.push #[] _).toList ++ _ = _
  rw [List.foldl_push_eq_append', Array.toList_append, List.nil_append]
  exact h.relate composes_moves (fun act _ => act.moves_perform) s.keyboard s.console

/-- A run moves characters as its steps do. -/
theorem taken_run (s : System Scripted ω) :
    taken s.run.2.2.toList ++ s.run.2.1.keyboard.unreadWords = s.keyboard.unreadWords := by
  obtain ⟨n, -, -, -, hsystem, hexchanges⟩ := s.exists_run_eq_after
  have hlast : taken (lastReport s.run.1 s.run.2.1) = [] := by
    unfold lastReport
    split <;> rfl
  rw [hexchanges, taken_append, hlast, List.append_nil, hsystem]
  exact s.relate_trace composes_moves Act.moves_perform (n + 1)

/-- **A command keeps the taken and the unread characters together**, after
those that it types itself. -/
theorem taken_obey (s : System Scripted ω) (command : Command) :
    taken (s.obey command).2.2.toList ++ (s.obey command).2.1.keyboard.unreadWords
      = s.keyboard.unreadWords ++ command.typed.map UInt8.toUInt16 := by
  cases command with
  | type characters =>
    obtain ⟨machine, ⟨queue, latch, exhausted⟩, console⟩ := s
    show ((latch.toList ++ (queue ++ characters)).map UInt8.toUInt16)
      = (latch.toList ++ queue).map UInt8.toUInt16 ++ characters.map UInt8.toUInt16
    rw [← List.append_assoc, List.map_append]
  | configure | setFlag | setCounter => exact (List.append_nil _).symm
  | setRegister number value =>
    unfold obey obeyWith
    dsimp only
    cases s.machine.core.registers.write number value with
    | ok registers => exact (List.append_nil _).symm
    | error violation => exact (List.append_nil _).symm
  | loadImage image =>
    obtain ⟨memory, h⟩ := s.machine.exists_follows_loadImage image
    exact (s.taken_respond _ h).trans (List.append_nil _).symm
  | load program =>
    obtain ⟨memory, h⟩ := s.machine.exists_follows_load program
    exact (s.taken_respond _ h).trans (List.append_nil _).symm
  | reset =>
    exact (s.taken_respond _ s.machine.follows_reset.unit).trans (List.append_nil _).symm
  | write a value =>
    exact (s.taken_respond _ (s.machine.follows_write a value).unit).trans (List.append_nil _).symm
  | read a =>
    exact (s.taken_respond _ (s.machine.follows_read a)).trans (List.append_nil _).symm
  | step => exact (s.taken_respond _ s.machine.follows_step).trans (List.append_nil _).symm
  | run => exact s.taken_run.trans (List.append_nil _).symm

/-- **No typed character is lost, doubled or out of order.** Whatever a
session does with a scripted keyboard, the characters it took and then the
unread ones are the characters that were unread at its start and then those
that were typed in it. -/
theorem taken_append_unread (s : System Scripted ω) (commands : List Command) :
    taken (s.obeyAll commands).2.2 ++ (s.obeyAll commands).2.1.keyboard.unreadWords
      = s.keyboard.unreadWords ++ (commands.flatMap Command.typed).map UInt8.toUInt16 := by
  induction commands generalizing s with
  | nil => exact (List.append_nil _).symm
  | cons command rest ih =>
    show taken ((s.obey command).2.2.toList ++ ((s.obey command).2.1.obeyAll rest).2.2)
        ++ ((s.obey command).2.1.obeyAll rest).2.1.keyboard.unreadWords = _
    rw [taken_append, List.append_assoc, ih, ← List.append_assoc, taken_obey,
      List.append_assoc, List.flatMap_cons, List.map_append]

end System

end LC3
