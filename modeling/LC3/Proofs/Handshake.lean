import LC3.Console.Collector
import LC3.Proofs.Deliveries
import LC3.Proofs.Programs

/-!
# The handshake of the keyboard registers

The status and the data register hand characters to a program one at a time.
A read of the status takes a character from the keyboard if none is held, and
holds it; a read of the data hands the held character out, and makes room for
the next. Others read the same keyboard meanwhile: the poll between
instructions finds a character and leaves it there, and a trap that waits
takes one that the memory never sees.

What the two registers contain is determined by the **history** of such
accesses (`Handshake`): the status says whether a character was taken and not
fetched since, the data are the last character taken, and the characters
fetched are those taken, each once and in order. One access keeps this
(`Handshake.obey`), unless it stores in one of the registers, and so does any
number of them.
-/

namespace LC3

open Exchange (delivered)
open Memory (statusAddress dataAddress ready)

/-- **A memory with the keyboard** that it shares with others. -/
structure Shared where
  /-- The memory. -/
  memory : Memory
  /-- The keyboard. -/
  keyboard : Scripted

/-- **An access** to one of the two. -/
inductive Access where
  /-- A word is read. -/
  | read (a : Word)
  /-- A word is stored. -/
  | write (a value : Word)
  /-- A program is copied to its origin, if it fits. -/
  | load (origin : Word) (program : List Word)
  /-- Characters are typed. -/
  | type (characters : List UInt8)
  /-- The keyboard is polled. -/
  | poll
  /-- A character is waited for. -/
  | wait
  deriving DecidableEq

/-- **What is recorded of an access.** -/
structure Entry where
  /-- The access. -/
  access : Access
  /-- The keyboard status before it. -/
  status : Word
  /-- The word that was read, if one was. -/
  word : Option Word
  /-- The characters that the keyboard handed out for the read. -/
  taken : List UInt8
  deriving DecidableEq

namespace Access

/-- An address lies within a program at an origin. -/
def Covers (origin : Word) (program : List Word) (a : Word) : Prop :=
  origin.toNat ≤ a.toNat ∧ a.toNat < origin.toNat + program.length

instance (origin : Word) (program : List Word) (a : Word) : Decidable (Covers origin program a) :=
  inferInstanceAs (Decidable (_ ∧ _))

/-- **An access stores nothing** in the keyboard registers. -/
def Spares : Access → Prop
  | write a _ => a ≠ statusAddress ∧ a ≠ dataAddress
  | load origin program => origin.toNat + program.length ≤ UInt16.size →
      ¬ Covers origin program statusAddress ∧ ¬ Covers origin program dataAddress
  | _ => True

instance : DecidablePred Spares := fun access =>
  match access with
  | write _ _ => inferInstanceAs (Decidable (_ ∧ _))
  | load _ _ => inferInstanceAs (Decidable (_ → _))
  | read _ | type _ | poll | wait => inferInstanceAs (Decidable True)

end Access

namespace Shared

/-- **One access**, with its record. -/
def obey (s : Shared) (access : Access) : Entry × Shared :=
  let status := s.memory.peek statusAddress
  match access with
  | .read a =>
    let course := (s.memory.read a).hold s.keyboard ({} : Collector)
    (⟨access, status, some course.value.1, delivered course.exchanges⟩,
      ⟨course.value.2, course.keyboard⟩)
  | .write a value => (⟨access, status, none, []⟩, ⟨s.memory.write a value, s.keyboard⟩)
  | .load origin program =>
    (⟨access, status, none, []⟩,
      match s.memory.load origin program with
      | .ok memory => ⟨memory, s.keyboard⟩
      | .error _ => s)
  | .type characters =>
    (⟨access, status, none, []⟩, ⟨s.memory, Keyboard.type s.keyboard characters⟩)
  | .poll => (⟨access, status, none, []⟩, ⟨s.memory, (Keyboard.poll s.keyboard).keyboard⟩)
  | .wait => (⟨access, status, none, []⟩, ⟨s.memory, (Keyboard.wait s.keyboard).keyboard⟩)

/-- **Accesses one after another**, with their history. -/
def obeyAll (s : Shared) : List Access → List Entry × Shared
  | [] => ([], s)
  | access :: rest =>
    let (entry, s) := s.obey access
    let (history, s) := s.obeyAll rest
    (entry :: history, s)

end Shared

/-! ## What a history says

A history grows at its end. So each notion is stated for a history with one
entry more: what the entry adds to it, and what it leaves as it was. -/

namespace Entry

/-- The characters that a read of the status took from the keyboard. -/
def forStatus (e : Entry) : List UInt8 :=
  if e.access = .read statusAddress then e.taken else []

/-- The word that a read of the data handed out while the status was set. -/
def fetched? (e : Entry) : Option Word :=
  if e.access = .read dataAddress ∧ e.status = ready then e.word else none

/-- The characters that reads of the status took, in order. -/
def characters (history : List Entry) : List UInt8 := history.flatMap forStatus

/-- The words that reads of the data handed out while the status was set, in
order. -/
def fetched (history : List Entry) : List Word := history.filterMap fetched?

/-- **A character is unfetched:** a read of the status took it, and the data
was not read since. -/
def Unfetched (history : List Entry) : Prop :=
  ∃ before e later, history = before ++ e :: later ∧ e.forStatus ≠ []
    ∧ ∀ e' ∈ later, e'.access ≠ .read dataAddress

/-- One entry more adds the character that it took. -/
theorem characters_snoc (history : List Entry) (e : Entry) :
    characters (history ++ [e]) = characters history ++ e.forStatus := by
  unfold characters
  rw [List.flatMap_append, List.flatMap_cons, List.flatMap_nil, List.append_nil]

/-- One entry more adds the word that it handed out. -/
theorem fetched_snoc (history : List Entry) (e : Entry) :
    fetched (history ++ [e]) = fetched history ++ e.fetched?.toList := by
  unfold fetched
  rw [List.filterMap_append]
  cases h : e.fetched? with
  | none => rw [List.filterMap_cons_none h]; rfl
  | some w => rw [List.filterMap_cons_some h]; rfl

/-- Only a read of the data hands out a word. -/
theorem fetched?_of_ne {e : Entry} (h : e.access ≠ .read dataAddress) : e.fetched? = none :=
  if_neg fun ⟨haccess, _⟩ => h haccess

/-- A character that was just taken is unfetched. -/
theorem unfetched_snoc_of_taken {history : List Entry} {e : Entry} (h : e.forStatus ≠ []) :
    Unfetched (history ++ [e]) := ⟨history, e, [], rfl, h, nofun⟩

/-- After a read of the data none is. -/
theorem not_unfetched_snoc {history : List Entry} {e : Entry}
    (h : e.access = .read dataAddress) : ¬ Unfetched (history ++ [e]) := by
  rintro ⟨before, e', later, heq, htaken, hlater⟩
  obtain rfl | ⟨later, last, rfl⟩ := later.eq_nil_or_concat
  · obtain ⟨-, heq⟩ := List.append_inj' heq rfl
    obtain rfl : e = e' := List.head_eq_of_cons_eq heq
    refine htaken (if_neg ?_)
    rw [h]
    decide
  · rw [List.concat_eq_append, ← List.cons_append, ← List.append_assoc] at heq
    obtain ⟨-, heq⟩ := List.append_inj' heq rfl
    obtain rfl : e = last := List.head_eq_of_cons_eq heq
    exact hlater e (by simp) h

/-- Any other access makes no difference. -/
theorem unfetched_snoc_iff {history : List Entry} {e : Entry} (htaken : e.forStatus = [])
    (hdata : e.access ≠ .read dataAddress) : Unfetched (history ++ [e]) ↔ Unfetched history := by
  constructor
  · rintro ⟨before, e', later, heq, htaken', hlater⟩
    obtain rfl | ⟨later, last, rfl⟩ := later.eq_nil_or_concat
    · obtain ⟨-, heq⟩ := List.append_inj' heq rfl
      obtain rfl : e = e' := List.head_eq_of_cons_eq heq
      exact absurd htaken htaken'
    · rw [List.concat_eq_append, ← List.cons_append, ← List.append_assoc] at heq
      obtain ⟨rfl, -⟩ := List.append_inj' heq rfl
      exact ⟨before, e', later, rfl, htaken', fun e' hmem => hlater e' (by simp [hmem])⟩
  · rintro ⟨before, e', later, rfl, htaken', hlater⟩
    refine ⟨before, e', later ++ [e], by simp, htaken', fun e' hmem => ?_⟩
    obtain hmem | hmem := List.mem_append.1 hmem
    · exact hlater e' hmem
    · rw [List.mem_singleton.1 hmem]
      exact hdata

end Entry

open Entry (characters fetched Unfetched characters_snoc fetched_snoc)

/-! ## The invariant

The four statements are kept together, and there are three ways for an access to
do so: it leaves the registers alone, or it takes a character, or it fetches
one. -/

/-- **The registers are what their history says.** -/
structure Handshake (history : List Entry) (m : Memory) : Prop where
  /-- The status is one of two words. -/
  status_cases : m.peek statusAddress = 0 ∨ m.peek statusAddress = ready
  /-- It is set if a character was taken and not fetched since. -/
  status_iff : m.peek statusAddress = ready ↔ Unfetched history
  /-- The data are the last character that was taken. -/
  data_eq : m.peek dataAddress
    = ((characters history).getLast?.map UInt8.toUInt16).getD 0
  /-- The words that were fetched, and then the one that can be, are the
  characters that were taken. -/
  fetched_append : fetched history ++ m.held?.toList
    = (characters history).map UInt8.toUInt16

namespace Handshake

variable {history : List Entry} {m : Memory} {e : Entry}

/-- In an empty memory nothing is held, and nothing has happened. -/
theorem empty : Handshake [] Memory.empty where
  status_cases := .inl (Memory.peek_empty _)
  status_iff := by
    rw [Memory.peek_empty]
    refine ⟨fun h => absurd h (by decide), ?_⟩
    rintro ⟨before, e, later, heq, -⟩
    exact absurd heq.symm (by simp)
  data_eq := Memory.peek_empty _
  fetched_append := by
    unfold Memory.held? Memory.holds
    rw [Memory.peek_empty]
    rfl

/-- An access that takes no character, reads no data and leaves the registers
leaves the handshake as it is. -/
theorem idle (h : Handshake history m) {m' : Memory} (htaken : e.forStatus = [])
    (hdata : e.access ≠ .read dataAddress)
    (hstatus' : m'.peek statusAddress = m.peek statusAddress)
    (hdata' : m'.peek dataAddress = m.peek dataAddress) : Handshake (history ++ [e]) m' := by
  have hheld : m'.held? = m.held? := by
    unfold Memory.held? Memory.holds
    rw [hstatus', hdata']
  have hcharacters : characters (history ++ [e]) = characters history := by
    rw [characters_snoc, htaken, List.append_nil]
  refine ⟨?_, ?_, ?_, ?_⟩
  · rw [hstatus']
    exact h.status_cases
  · rw [hstatus', Entry.unfetched_snoc_iff htaken hdata]
    exact h.status_iff
  · rw [hdata', hcharacters]
    exact h.data_eq
  · rw [hheld, hcharacters, fetched_snoc, Entry.fetched?_of_ne hdata]
    exact (congrArg (· ++ _) (List.append_nil _)).trans h.fetched_append

/-- **A character that is taken is held**, if none was. -/
theorem take (h : Handshake history m) (hfree : m.holds = false) {c : UInt8}
    (htaken : e.forStatus = [c]) (hdata : e.access ≠ .read dataAddress) :
    Handshake (history ++ [e]) (m.hold (some c)) := by
  have hready : (m.hold (some c)).peek statusAddress = ready := eq_of_beq (m.holds_hold_some c)
  -- nothing is held, so all characters taken before are fetched
  have hnothing := h.fetched_append
  rw [Memory.held?_of_free hfree] at hnothing
  refine ⟨.inr hready, ?_, ?_, ?_⟩
  · refine iff_of_true hready (Entry.unfetched_snoc_of_taken ?_)
    rw [htaken]
    exact List.cons_ne_nil _ _
  · rw [characters_snoc, htaken, List.getLast?_concat, Memory.peek_hold_some]
    rfl
  · rw [fetched_snoc, Entry.fetched?_of_ne hdata, Memory.held?_hold_some, characters_snoc, htaken,
      List.map_append, ← hnothing, List.append_assoc, List.append_assoc]
    rfl

/-- **A character that is fetched is held no longer**; if none was, none is
fetched. -/
theorem fetch (h : Handshake history m) (hdata : e.access = .read dataAddress)
    (hstatus : e.status = m.peek statusAddress) (hword : e.word = some (m.peek dataAddress)) :
    Handshake (history ++ [e]) (m.write statusAddress 0) := by
  have hne : statusAddress ≠ dataAddress := by decide
  have htaken : e.forStatus = [] := by
    refine if_neg ?_
    rw [hdata]
    decide
  have hfetched : e.fetched? = m.held? := by
    unfold Entry.fetched? Memory.held? Memory.holds
    rw [hstatus, hword, hdata]
    simp
  have hclear : (m.write statusAddress 0).peek statusAddress = 0 := Memory.peek_write_self _ _ _
  refine ⟨.inl hclear, ?_, ?_, ?_⟩
  · refine iff_of_false ?_ (Entry.not_unfetched_snoc hdata)
    rw [hclear]
    decide
  · rw [characters_snoc, htaken, List.append_nil, Memory.peek_write_ne _ _ hne]
    exact h.data_eq
  · rw [fetched_snoc, hfetched, Memory.held?_clear, characters_snoc, htaken, List.append_nil]
    exact (List.append_nil _).trans h.fetched_append

end Handshake

/-! ## One access

Which of the three ways it is depends on the address alone, but for a read of
the status: that one does nothing if a character is held already, or if there is
none to take. -/

/-- **A read of the status** finds a character held, or takes the first unread
one and holds it, or finds that there is none. -/
theorem Memory.hold_readStatus_cases (m : Memory) (k : Scripted) :
    let course := (m.read statusAddress).hold k ({} : Collector)
    (m.holds = true ∧ course.value = (ready, m) ∧ course.keyboard = k
        ∧ delivered course.exchanges = [])
      ∨ (m.holds = false ∧ k.unread = [] ∧ course.value = (0, m.write statusAddress 0)
        ∧ course.keyboard.unread = [] ∧ delivered course.exchanges = [])
      ∨ ∃ c rest, m.holds = false ∧ k.unread = c :: rest
        ∧ course.value = (ready, m.hold (some c)) ∧ course.keyboard.unread = rest
        ∧ delivered course.exchanges = [c] := by
  have hread : m.read statusAddress = m.readStatus := rfl
  rw [hread]
  cases hholds : m.holds with
  | true =>
    rw [hold_readStatus_of_holds hholds]
    exact .inl ⟨rfl, rfl, rfl, rfl⟩
  | false =>
    obtain ⟨hvalue, hunread, hexchanges⟩ := Scripted.hold_arrival k ({} : Collector)
    rw [hold_readStatus_of_free hholds]
    dsimp only
    rw [hvalue, hunread, Exchange.delivered_append, hexchanges]
    cases k.unread with
    | nil =>
      refine .inr (.inl ⟨rfl, rfl, ?_, rfl, rfl⟩)
      exact congrArg (·, m.write statusAddress 0) (peek_write_self m statusAddress 0)
    | cons c rest =>
      refine .inr (.inr ⟨c, rest, rfl, rfl, ?_, rfl, rfl⟩)
      exact congrArg (·, m.hold (some c)) (eq_of_beq (m.holds_hold_some c))

/-- A program that covers an address of neither register leaves both. -/
theorem Memory.peek_load_of_not_covers {m m' : Memory} {origin : Word} {program : List Word}
    (hload : m.load origin program = .ok m') {a : Word}
    (h : ¬ Access.Covers origin program a) : m'.peek a = m.peek a := by
  unfold load at hload
  dsimp only at hload
  split at hload
  · cases hload
  · cases hload
    rw [peek_place]
    split
    next hle =>
      have hlength : program.length ≤ a.toNat - origin.toNat := by
        unfold Access.Covers at h
        omega
      rw [List.getElem?_eq_none hlength]
      rfl
    next => rfl

/-- A read of the status takes a character exactly if it may be held. -/
theorem Handshake.readStatus {history : List Entry} {s : Shared}
    (h : Handshake history s.memory) :
    Handshake (history ++ [(s.obey (.read statusAddress)).1])
      (s.obey (.read statusAddress)).2.memory := by
  have hne : statusAddress ≠ dataAddress := by decide
  have hdata : Access.read statusAddress ≠ .read dataAddress := fun heq =>
    hne (Access.read.inj heq)
  have hmemory : ∀ {w : Word} {m : Memory},
      ((s.memory.read statusAddress).hold s.keyboard ({} : Collector)).value = (w, m) →
      (s.obey (.read statusAddress)).2.memory = m := fun hvalue => congrArg Prod.snd hvalue
  obtain ⟨-, hvalue, -, htaken⟩ | ⟨hfree, -, hvalue, -, htaken⟩
    | ⟨c, rest, hfree, -, hvalue, -, htaken⟩ := s.memory.hold_readStatus_cases s.keyboard
  · rw [hmemory hvalue]
    exact h.idle htaken hdata rfl rfl
  · -- the status was zero already
    have hzero : s.memory.peek statusAddress = 0 :=
      h.status_cases.resolve_right (ne_of_beq_false hfree)
    rw [hmemory hvalue]
    exact h.idle htaken hdata ((Memory.peek_write_self _ _ _).trans hzero.symm)
      (Memory.peek_write_ne _ _ hne)
  · rw [hmemory hvalue]
    exact h.take hfree htaken hdata

/-- **One access keeps the handshake**, unless it stores in a register. -/
theorem Handshake.obey {history : List Entry} {s : Shared} (h : Handshake history s.memory)
    {access : Access} (hspares : access.Spares) :
    Handshake (history ++ [(s.obey access).1]) (s.obey access).2.memory := by
  cases access with
  | read a =>
    -- a read of either register is a case of its own, and one elsewhere changes nothing
    by_cases hstatus : a = statusAddress
    · subst hstatus
      exact h.readStatus
    · by_cases hdata : a = dataAddress
      · subst hdata
        exact h.fetch rfl rfl rfl
      · have hmemory : (s.obey (.read a)).2.memory = s.memory := by
          unfold Shared.obey
          dsimp only
          rw [Memory.read_eq_done _ hstatus hdata]
          rfl
        rw [hmemory]
        exact h.idle (if_neg fun heq => hstatus (Access.read.inj heq))
          (fun heq => hdata (Access.read.inj heq)) rfl rfl
  | write a value =>
    obtain ⟨hstatus, hdata⟩ := hspares
    exact h.idle rfl nofun (Memory.peek_write_ne _ _ hstatus) (Memory.peek_write_ne _ _ hdata)
  | load origin program =>
    unfold Shared.obey
    dsimp only
    cases hload : s.memory.load origin program with
    | error e => exact h.idle rfl nofun rfl rfl
    | ok memory =>
      have hfits : origin.toNat + program.length ≤ UInt16.size := by
        unfold Memory.load at hload
        dsimp only at hload
        split at hload
        · cases hload
        · have hlt : origin.toNat < UInt16.size := origin.toNat_lt
          omega
      obtain ⟨hstatus, hdata⟩ := hspares hfits
      exact h.idle rfl nofun (Memory.peek_load_of_not_covers hload hstatus)
        (Memory.peek_load_of_not_covers hload hdata)
  | type | poll | wait => exact h.idle rfl nofun rfl rfl

/-! ## Any number of accesses

With one access the history grows at its end, while a list of accesses is obeyed
from its start. So the induction carries the history that was there before. -/

/-- **Accesses one after another keep the handshake**, if none stores in a register. -/
theorem Handshake.obeyAll {history : List Entry} {s : Shared} (h : Handshake history s.memory)
    {accesses : List Access} (hspares : ∀ access ∈ accesses, access.Spares) :
    Handshake (history ++ (s.obeyAll accesses).1) (s.obeyAll accesses).2.memory := by
  induction accesses generalizing history s with
  | nil =>
    rw [show (s.obeyAll []).1 = [] from rfl, List.append_nil]
    exact h
  | cons access rest ih =>
    have hlater := ih (h.obey (hspares access List.mem_cons_self))
      fun access hmem => hspares access (List.mem_cons_of_mem _ hmem)
    rw [List.append_assoc] at hlater
    exact hlater

/-- **The handshake of the keyboard registers.** Whatever was read, stored
elsewhere, loaded, typed, polled and waited for since the memory was empty,
the two registers are what the history says. A read of the status then says
that a character is held exactly if one was held before or one is unread; it
takes the first unread character if none was held, and nothing else. -/
theorem Shared.handshake (k : Scripted) {accesses : List Access}
    (hspares : ∀ access ∈ accesses, access.Spares) :
    let (history, s) := obeyAll ⟨.empty, k⟩ accesses
    let reading := (s.memory.read statusAddress).hold s.keyboard ({} : Collector)
    Handshake history s.memory
      ∧ (reading.value.1 = ready
        ↔ s.memory.peek statusAddress = ready ∨ s.keyboard.unread ≠ [])
      ∧ delivered reading.exchanges
        = (if s.memory.peek statusAddress = ready then [] else s.keyboard.unread.head?.toList)
      ∧ delivered reading.exchanges ++ reading.keyboard.unread = s.keyboard.unread := by
  have hinvariant := Handshake.empty.obeyAll (s := ⟨.empty, k⟩) hspares
  generalize obeyAll ⟨.empty, k⟩ accesses = result at hinvariant ⊢
  obtain ⟨history, s⟩ := result
  refine ⟨hinvariant, ?_⟩
  obtain ⟨hholds, hvalue, hkeyboard, htaken⟩ | ⟨hfree, hunread, hvalue, hkeyboard, htaken⟩
    | ⟨c, rest, hfree, hunread, hvalue, hkeyboard, htaken⟩ :=
      s.memory.hold_readStatus_cases s.keyboard
  · have hready : s.memory.peek statusAddress = ready := eq_of_beq hholds
    rw [hvalue, htaken, hkeyboard, if_pos hready]
    exact ⟨iff_of_true rfl (.inl hready), rfl, rfl⟩
  · have hfree' : s.memory.peek statusAddress ≠ ready := ne_of_beq_false hfree
    rw [hvalue, htaken, hkeyboard, if_neg hfree', hunread]
    refine ⟨iff_of_false (show ¬ (0 : Word) = ready by decide) ?_, rfl, rfl⟩
    rintro (h | h)
    · exact hfree' h
    · exact h rfl
  · have hfree' : s.memory.peek statusAddress ≠ ready := ne_of_beq_false hfree
    rw [hvalue, htaken, hkeyboard, if_neg hfree', hunread]
    exact ⟨iff_of_true rfl (.inr (List.cons_ne_nil _ _)), rfl, rfl⟩

/-- Of two characters one is read through the registers, and a wait takes the
other. -/
def typedThenRead : List Access :=
  [.type [0x61, 0x62], .write 0x4000 7, .load 0x3000 [0xF025, 0], .poll, .read statusAddress,
    .wait, .read statusAddress, .read dataAddress, .read dataAddress]

/-- Nothing of that is stored in a register, so the handshake is kept: the first
character was fetched, and the second went to the wait. -/
theorem Shared.handshake_typedThenRead :
    (∀ access ∈ typedThenRead, access.Spares)
      ∧ Handshake (obeyAll ⟨.empty, { queue := [] }⟩ typedThenRead).1
        (obeyAll ⟨.empty, { queue := [] }⟩ typedThenRead).2.memory := by
  have hspares : ∀ access ∈ typedThenRead, access.Spares := by decide
  exact ⟨hspares, (Shared.handshake { queue := [] } hspares).1⟩

end LC3
