import LC3.Proofs.Deliveries
import LC3.Proofs.LastStored
import Mathlib.Data.List.Nodup

/-!
# Reading every address at most once

A pass over the memory reads one address after another, and what it reads may
depend on what it read before: the status register of the keyboard takes a
character from the keyboard, and the data register gives up the one that is
held. Two cells are touched by this and no other, and if no address is read
twice there are only three ways a pass can go.

Without the status register a pass reads what the memory shows, and at most
clears the status (`Memory.hold_readEach_of_not_mem`). With it, the pass is
such a pass before the status and another one behind it, and the keyboard is
asked in between, if it is asked at all. `Memory.ReadsOnce` lists what follows
for the words, for the memory and for the keyboard; a keyboard enters it only
as the character that is `Keyboard.available?`.
-/

namespace LC3

open Memory (statusAddress dataAddress ready)
open Exchange (delivered delivered_append delivered_reported)
open Dialogue (ends_bind ends_of_forall)

/-! ## Addresses in a row

Addresses go around the end, so a row may begin near the last address. It has no
address twice as long as it is not longer than the memory. -/

namespace Word

/-- **So many addresses in a row**, from one on upwards and around the end. -/
def row (a : Word) (n : Nat) : List Word := (List.range n).map fun i => a + UInt16.ofNat i

/-- No address at all is a row. -/
@[simp] theorem row_zero (a : Word) : row a 0 = [] := rfl

/-- A row is as long as was asked for. -/
@[simp] theorem length_row (a : Word) (n : Nat) : (row a n).length = n := by simp [row]

/-- A longer row has its first address, and then the row from the next one on. -/
theorem row_succ (a : Word) (n : Nat) : row a (n + 1) = a :: row (a + 1) n := by
  simp only [row, List.range_succ_eq_map, List.map_cons, List.map_map]
  refine congrArg₂ List.cons (UInt16.add_zero a) (List.map_congr_left fun i _ => ?_)
  show a + UInt16.ofNat (i + 1) = a + 1 + UInt16.ofNat i
  rw [UInt16.ofNat_add, UInt16.add_comm (UInt16.ofNat i), ← UInt16.add_assoc]
  rfl

/-- **There are as many addresses as words**, so a row of that length or a shorter one
has none twice. -/
theorem nodup_row (a : Word) {n : Nat} (h : n ≤ UInt16.size) : (row a n).Nodup := by
  refine (List.nodup_map_iff_inj_on List.nodup_range).2 fun i hi j hj heq => ?_
  have hi' : i < UInt16.size := (List.mem_range.1 hi).trans_le h
  have hj' : j < UInt16.size := (List.mem_range.1 hj).trans_le h
  have hofNat : UInt16.ofNat i = UInt16.ofNat j := (UInt16.add_right_inj a).1 heq
  rw [← UInt16.toNat_ofNat_of_lt' hi', ← UInt16.toNat_ofNat_of_lt' hj', hofNat]

end Word

/-! ## The character that is available

All that a keyboard contributes to a pass is one character or none. A poll that
fails contributes none, like one that finds nothing; so the statement below does
not need a keyboard that works. -/

/-- **The character a keyboard has**, if a poll finds one. A keyboard whose poll fails
has none. -/
def Keyboard.available? {κ : Type} [Keyboard κ] (k : κ) : Option UInt8 :=
  match (Keyboard.poll k).answer with
  | .ok true => (Keyboard.take (Keyboard.poll k).keyboard).1
  | .ok false | .error _ => none

/-- A poll hands out nothing. -/
theorem Exchange.delivered_polled (events : List Event) (answer : Except DeviceError Bool)
    (later : List Exchange) :
    delivered (events.map .reported ++ [.polled answer] ++ later) = delivered later := by
  rw [delivered_append, delivered_append, delivered_reported]
  rfl

namespace Memory

open Keyboard (available?)

variable {κ ω : Type} [Keyboard κ] [Console ω]

/-- It is the character that arrives, and no other is handed out. -/
theorem hold_arrival (k : κ) (c : ω) :
    (arrival.hold k c).value = available? k
      ∧ (delivered (arrival.hold k c).exchanges).length ≤ 1 := by
  unfold arrival available?
  rw [Dialogue.hold_bind, Dialogue.hold_pollKeyboard, Course.after_value, Course.after_exchanges]
  dsimp only
  rw [Exchange.delivered_polled]
  match (Keyboard.poll k).answer with
  | .ok true => exact ⟨rfl, List.length_filterMap_le _ [_]⟩
  | .ok false => exact ⟨rfl, Nat.zero_le 1⟩
  | .error e => exact ⟨rfl, Nat.zero_le 1⟩

/-! ## Reading the status

A character that is held already keeps the keyboard from being asked. So the
status is ready for either of two reasons, and only for the second the data is
new. -/

/-- **The status says whether there is a character**, held already or available. -/
theorem value_readStatus (m : Memory) (k : κ) (c : ω) :
    (m.readStatus.hold k c).value.1
      = if m.holds = true ∨ (available? k).isSome = true then ready else 0 := by
  cases hholds : m.holds with
  | true =>
    rw [hold_readStatus_of_holds hholds]
    rfl
  | false =>
    rw [hold_readStatus_of_free hholds]
    show (m.hold (arrival.hold k c).value).peek statusAddress = _
    rw [(hold_arrival k c).1]
    cases available? k with
    | none => exact peek_write_self _ _ _
    | some character => exact eq_of_beq (m.holds_hold_some character)

/-- **The data register gets the character** that is available, unless one is held. -/
theorem data_readStatus (m : Memory) (k : κ) (c : ω) :
    (m.readStatus.hold k c).value.2.peek dataAddress
      = if m.holds = false then (available? k).elim (m.peek dataAddress) UInt8.toUInt16
        else m.peek dataAddress := by
  cases hholds : m.holds with
  | true =>
    rw [hold_readStatus_of_holds hholds]
    rfl
  | false =>
    rw [hold_readStatus_of_free hholds]
    show (m.hold (arrival.hold k c).value).peek dataAddress = _
    rw [(hold_arrival k c).1]
    cases available? k with
    | none => exact peek_write_ne m 0 (by decide)
    | some character => exact m.peek_hold_some character

/-- No more than one character is handed out. -/
theorem delivered_readStatus (m : Memory) (k : κ) (c : ω) :
    (delivered (m.readStatus.hold k c).exchanges).length ≤ 1 := by
  cases hholds : m.holds with
  | true =>
    rw [hold_readStatus_of_holds hholds]
    exact Nat.zero_le 1
  | false =>
    rw [hold_readStatus_of_free hholds]
    show (delivered (_ ++ [Exchange.reported _])).length ≤ 1
    rw [delivered_append, List.length_append]
    exact (hold_arrival k c).2

/-! ## A pass

A pass is compared with the memory it started from. As long as the status was
not read, the memory differs from that at most by a status that was cleared
(`Memory.handedOut`), and this is how the state of a pass is carried through it. -/

/-- **Reads one address after another.** -/
def readEach (m : Memory) : List Word → Dialogue (List Word × Memory)
  | [] => return ([], m)
  | a :: rest => do
    let (w, m) ← m.read a
    let (words, m) ← m.readEach rest
    return (w :: words, m)

/-- A pass is its first read and the pass behind it, on the memory and the devices that
the read leaves. -/
theorem hold_readEach_cons (m : Memory) (a : Word) (rest : List Word) (k : κ) (c : ω) :
    (m.readEach (a :: rest)).hold k c
      = (let first := (m.read a).hold k c
        let later := (first.value.2.readEach rest).hold first.keyboard first.console
        ⟨(first.value.1 :: later.value.1, later.value.2), later.keyboard, later.console,
          first.exchanges ++ later.exchanges⟩) := by
  rw [readEach, Dialogue.hold_bind]
  dsimp only
  rw [Dialogue.hold_bind]
  show (Course.after (⟨_, _, _, []⟩ : Course κ ω _) _).after _ = _
  rw [Course.after_done]
  rfl

/-- A pass may be cut anywhere. -/
theorem hold_readEach_append (m : Memory) (before rest : List Word) (k : κ) (c : ω) :
    (m.readEach (before ++ rest)).hold k c
      = (let first := (m.readEach before).hold k c
        let later := (first.value.2.readEach rest).hold first.keyboard first.console
        ⟨(first.value.1 ++ later.value.1, later.value.2), later.keyboard, later.console,
          first.exchanges ++ later.exchanges⟩) := by
  induction before generalizing m k c with
  | nil => rfl
  | cons a before ih =>
    rw [List.cons_append, hold_readEach_cons, hold_readEach_cons]
    dsimp only
    rw [ih]
    simp only [List.cons_append, List.append_assoc]

/-- One word is read for each address. -/
theorem ends_length_readEach (m : Memory) (addresses : List Word) :
    (m.readEach addresses).Ends fun (words, _) => words.length = addresses.length := by
  induction addresses generalizing m with
  | nil => exact rfl
  | cons a rest ih =>
    refine ends_bind.2 (ends_of_forall (fun (w, m') => ?_) _)
    exact ends_bind.2 ((ih m').imp fun (words, m'') h => congrArg (· + 1) h)

/-- **An ordinary cell** is read as it is and left so, wherever it comes in the pass. -/
theorem ends_readEach (m : Memory) (addresses : List Word) {a : Word}
    (hstatus : a ≠ statusAddress) (hdata : a ≠ dataAddress) :
    (m.readEach addresses).Ends fun (words, m') =>
      m'.peek a = m.peek a ∧ ∀ i : Nat, addresses[i]? = some a → words[i]? = some (m.peek a) := by
  induction addresses generalizing m with
  | nil => exact ⟨rfl, nofun⟩
  | cons b rest ih =>
    refine ends_bind.2 ((m.ends_read b hstatus hdata).imp ?_)
    rintro ⟨w, m'⟩ ⟨hcell, hword⟩
    refine ends_bind.2 ((ih m').imp ?_)
    rintro ⟨words, m''⟩ ⟨hcell', hwords⟩
    refine ⟨hcell'.trans hcell, fun i hi => ?_⟩
    cases i with
    | zero => exact congrArg some (hword (Option.some.inj hi))
    | succ i => exact (hwords i hi).trans (congrArg some hcell)

/-- **What is left of the memory** when some addresses were read and the status register
was not among them. -/
def handedOut (m : Memory) (addresses : List Word) : Memory :=
  if dataAddress ∈ addresses then m.write statusAddress 0 else m

/-- A character is held unless the pass has read the data. -/
theorem holds_handedOut (m : Memory) (addresses : List Word) :
    (m.handedOut addresses).holds = true ↔ m.holds = true ∧ dataAddress ∉ addresses := by
  unfold handedOut
  split
  next h => simp [h, holds_clear]
  next h => simp [h]

/-- A pass that does not come to the data leaves the memory. -/
theorem handedOut_of_not_mem {m : Memory} {addresses : List Word} (h : dataAddress ∉ addresses) :
    m.handedOut addresses = m := if_neg h

/-- Once a character is handed out, the data register may be read again in vain. -/
theorem handedOut_clear (m : Memory) (addresses : List Word) :
    (m.write statusAddress 0).handedOut addresses = m.write statusAddress 0 := by
  unfold handedOut
  split
  · refine ext_peek fun a => ?_
    rw [peek_write, peek_write]
    split <;> rfl
  · rfl

/-- **A pass without the status register** reads what the memory shows, and asks nobody. -/
theorem hold_readEach_of_not_mem (m : Memory) {addresses : List Word}
    (h : statusAddress ∉ addresses) (k : κ) (c : ω) :
    ∃ events : List Event, (m.readEach addresses).hold k c
      = ⟨(addresses.map m.peek, m.handedOut addresses), k, c, events.map .reported⟩ := by
  induction addresses generalizing m with
  | nil => exact ⟨[], rfl⟩
  | cons a rest ih =>
    obtain ⟨hne, hrest⟩ := List.ne_and_not_mem_of_not_mem_cons h
    rw [hold_readEach_cons]
    by_cases hdata : a = dataAddress
    · subst hdata
      have hread : m.read dataAddress = m.readData := rfl
      obtain ⟨events, hpass⟩ := ih (m.write statusAddress 0) hrest
      rw [hread, hold_readData]
      dsimp only
      rw [hpass, handedOut_clear]
      -- that the status was cleared shows nowhere in the rest of the pass
      have hwords : rest.map (m.write statusAddress 0).peek = rest.map m.peek :=
        List.map_congr_left fun b hb =>
          peek_write_ne m 0 fun heq => hrest (heq ▸ hb)
      refine ⟨.dataRead m.holds (m.peek dataAddress) :: events, ?_⟩
      rw [hwords, handedOut, if_pos List.mem_cons_self]
      rfl
    · obtain ⟨events, hpass⟩ := ih m hrest
      rw [m.read_eq_done hne.symm hdata, Dialogue.hold_done]
      dsimp only
      rw [hpass]
      refine ⟨events, ?_⟩
      have hleft : m.handedOut (a :: rest) = m.handedOut rest := by
        simp [handedOut, Ne.symm hdata]
      rw [hleft]
      rfl

/-- **A pass goes on** behind addresses among which the status register was not. -/
theorem exists_hold_readEach_append (m : Memory) {before : List Word}
    (h : statusAddress ∉ before) (rest : List Word) (k : κ) (c : ω) :
    ∃ events : List Event, (m.readEach (before ++ rest)).hold k c
      = (let later := ((m.handedOut before).readEach rest).hold k c
        ⟨(before.map m.peek ++ later.value.1, later.value.2), later.keyboard, later.console,
          events.map .reported ++ later.exchanges⟩) := by
  obtain ⟨events, hpass⟩ := m.hold_readEach_of_not_mem h k c
  rw [hold_readEach_append, hpass]
  exact ⟨events, rfl⟩

/-- The first word behind them is the next that is read. -/
theorem getElem?_readEach_append (m : Memory) {before : List Word}
    (h : statusAddress ∉ before) (a : Word) (rest : List Word) (k : κ) (c : ω) :
    ((m.readEach (before ++ a :: rest)).hold k c).value.1[before.length]?
      = some (((m.handedOut before).read a).hold k c).value.1 := by
  obtain ⟨events, hpass⟩ := m.exists_hold_readEach_append h (a :: rest) k c
  rw [hpass, hold_readEach_cons]
  simp

/-! ## A pass that reads nothing twice

Around the status register, the addresses before it and behind it are passes
without it. So every field of the structure is a case of what is known of such
passes and of one read of the status. -/

/-- **What a pass reads and leaves**, from a memory and a keyboard. -/
structure ReadsOnce (m : Memory) (k : κ) (addresses : List Word)
    (pass : Course κ ω (List Word × Memory)) : Prop where
  /-- One word is read for each address. -/
  length_eq : pass.value.1.length = addresses.length
  /-- No cell is changed but the two registers of the keyboard, -/
  peek_eq : ∀ a, a ≠ statusAddress → a ≠ dataAddress → pass.value.2.peek a = m.peek a
  /-- and each of the others is read as it was stored. -/
  stored : ∀ (i : Nat) (a : Word), addresses[i]? = some a → a ≠ statusAddress → a ≠ dataAddress →
    pass.value.1[i]? = some (m.peek a)
  /-- **The status** is ready if a character is held, and was not handed out by this
  pass, or else is available; otherwise it is zero. -/
  status : ∀ before rest, addresses = before ++ statusAddress :: rest →
    pass.value.1[before.length]?
      = some (if (m.holds = true ∧ dataAddress ∉ before) ∨ (available? k).isSome = true
          then 0x8000 else 0)
  /-- **The data** is what is stored, or the character that became available to this
  pass. -/
  data : ∀ before rest, addresses = before ++ dataAddress :: rest →
    pass.value.1[before.length]?
      = some (if statusAddress ∈ before ∧ m.holds = false
          then (available? k).elim (m.peek dataAddress) UInt8.toUInt16
          else m.peek dataAddress)
  /-- The keyboard is not asked if the pass does not come to its status, -/
  unasked : statusAddress ∉ addresses → pass.keyboard = k
  /-- and if it comes to neither register, it reads the memory and leaves it. -/
  undisturbed : statusAddress ∉ addresses → dataAddress ∉ addresses →
    pass.value = (addresses.map m.peek, m)
  /-- **One character at most** is taken from the keyboard. -/
  taken : (delivered pass.exchanges).length ≤ 1

/-- The word of the data register, in a pass that came to the status before. -/
theorem data_readEach (m : Memory) {before middle : List Word}
    (hstatus : statusAddress ∉ before ++ middle) (hdata : dataAddress ∉ before ++ middle)
    (rest : List Word) (k : κ) (c : ω) :
    ((m.readEach (before ++ statusAddress :: (middle ++ dataAddress :: rest))).hold k
        c).value.1[before.length + (middle.length + 1)]?
      = some (if m.holds = false
          then (available? k).elim (m.peek dataAddress) UInt8.toUInt16
          else m.peek dataAddress) := by
  obtain ⟨hbefore, hmiddle⟩ := not_or.1 (mt List.mem_append.2 hstatus)
  obtain ⟨hbefore', hmiddle'⟩ := not_or.1 (mt List.mem_append.2 hdata)
  obtain ⟨events, hpass⟩ :=
    m.exists_hold_readEach_append hbefore (statusAddress :: (middle ++ dataAddress :: rest)) k c
  have hread : m.read statusAddress = m.readStatus := rfl
  rw [hpass, handedOut_of_not_mem hbefore', hold_readEach_cons, hread]
  dsimp only
  rw [List.getElem?_append_right (by simp), List.length_map, Nat.add_sub_cancel_left,
    List.getElem?_cons_succ, getElem?_readEach_append _ hmiddle, handedOut_of_not_mem hmiddle']
  exact congrArg some (m.data_readStatus k c)

/-- **A pass that reads no address twice** goes like this, with every keyboard. -/
theorem readsOnce (m : Memory) {addresses : List Word} (hnodup : addresses.Nodup) (k : κ)
    (c : ω) : m.ReadsOnce k addresses ((m.readEach addresses).hold k c) where
  length_eq := (m.ends_length_readEach addresses).hold k c
  peek_eq a hstatus hdata := ((m.ends_readEach addresses hstatus hdata).hold k c).1
  stored i a hi hstatus hdata := ((m.ends_readEach addresses hstatus hdata).hold k c).2 i hi
  status := by
    rintro before rest rfl
    have hbefore : statusAddress ∉ before :=
      fun hmem => (List.nodup_append.1 hnodup).2.2 _ hmem _ List.mem_cons_self rfl
    rw [getElem?_readEach_append m hbefore]
    show some ((m.handedOut before).readStatus.hold k c).value.1 = _
    rw [value_readStatus]
    exact congrArg some (if_congr (or_congr_left (m.holds_handedOut before)) rfl rfl)
  data := by
    rintro before rest rfl
    have hdata : dataAddress ∉ before :=
      fun hmem => (List.nodup_append.1 hnodup).2.2 _ hmem _ List.mem_cons_self rfl
    by_cases hstatus : statusAddress ∈ before
    · -- the status came first, and nothing was handed out before it
      obtain ⟨before, middle, rfl⟩ := List.append_of_mem hstatus
      have hmiddle : statusAddress ∉ before ++ middle :=
        (List.nodup_middle.1 (List.nodup_append.1 hnodup).1).notMem
      have hdata' : dataAddress ∉ before ++ middle := by
        simp only [List.mem_append, List.mem_cons] at hdata ⊢
        tauto
      rw [List.append_assoc, List.cons_append, List.length_append, List.length_cons,
        m.data_readEach hmiddle hdata']
      simp only [hstatus, true_and]
    · rw [getElem?_readEach_append m hstatus, handedOut_of_not_mem hdata,
        if_neg fun h => hstatus h.1]
      rfl
  unasked h := by
    obtain ⟨events, hpass⟩ := m.hold_readEach_of_not_mem h k c
    rw [hpass]
  undisturbed hstatus hdata := by
    obtain ⟨events, hpass⟩ := m.hold_readEach_of_not_mem hstatus k c
    rw [hpass, handedOut_of_not_mem hdata]
  taken := by
    by_cases hstatus : statusAddress ∈ addresses
    · obtain ⟨before, rest, rfl⟩ := List.append_of_mem hstatus
      have hothers : statusAddress ∉ before ++ rest := (List.nodup_middle.1 hnodup).notMem
      obtain ⟨hbefore, hrest⟩ := not_or.1 (mt List.mem_append.2 hothers)
      obtain ⟨events, hpass⟩ :=
        m.exists_hold_readEach_append hbefore (statusAddress :: rest) k c
      have hread : (m.handedOut before).read statusAddress = (m.handedOut before).readStatus :=
        rfl
      rw [hpass, hold_readEach_cons, hread]
      dsimp only
      -- before the status and behind it there are only reports
      obtain ⟨later, hlater⟩ := hold_readEach_of_not_mem
        ((m.handedOut before).readStatus.hold k c).value.2 hrest
        ((m.handedOut before).readStatus.hold k c).keyboard
        ((m.handedOut before).readStatus.hold k c).console
      rw [hlater, delivered_append, delivered_append, delivered_reported, delivered_reported,
        List.nil_append, List.append_nil]
      exact (m.handedOut before).delivered_readStatus k c
    · obtain ⟨events, hpass⟩ := m.hold_readEach_of_not_mem hstatus k c
      rw [hpass, delivered_reported]
      exact Nat.zero_le 1

end Memory

end LC3
