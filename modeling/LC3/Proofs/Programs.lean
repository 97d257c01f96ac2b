import LC3.Machine

/-!
# Programs in memory

A program that was placed at an address is found there word by word, and the
rest of the memory is as it was. `Machine.loaded` is the machine that runs a
given program from its first word, with nothing else in memory.
-/

namespace LC3

namespace Memory

/-- **A placed program is found in its place:** an address that it covers
shows its word there, and any other address what it showed before. -/
theorem peek_place (m : Memory) (a : Nat) (program : List Word) (b : Word) :
    (m.place a program).peek b
      = if a ≤ b.toNat then program[b.toNat - a]?.getD (m.peek b) else m.peek b := by
  induction program generalizing m a with
  | nil =>
    show m.peek b = if a ≤ b.toNat then m.peek b else m.peek b
    rw [ite_self]
  | cons w rest ih =>
    have hset : (⟨m.cells.setIfInBounds a w⟩ : Memory).peek b
        = if a = b.toNat then w else m.peek b := by
      have hlt : b.toNat < UInt16.size := b.toNat_lt
      show (m.cells.setIfInBounds a w)[b.toNat] = _
      exact Vector.getElem_setIfInBounds hlt
    rw [place, ih, hset]
    by_cases hle : a ≤ b.toNat
    · rw [if_pos hle]
      by_cases heq : a = b.toNat
      · rw [if_neg (by omega), if_pos heq, heq, Nat.sub_self]
        rfl
      · have hsub : b.toNat - a = (b.toNat - (a + 1)) + 1 := by omega
        rw [if_pos (by omega), if_neg heq, hsub, List.getElem?_cons_succ]
    · rw [if_neg hle, if_neg (by omega), if_neg (by omega)]

end Memory

namespace Machine

/-- **A machine that was loaded** with a program at the place where programs
start. -/
def loaded (program : List Word) : Machine :=
  { initial with
    core := { initial.core with memory := Memory.empty.place programStart.toNat program } }

/-- Its words are in their places, and there is nothing else. -/
theorem peek_loaded (program : List Word) {i : Nat} {a : Word}
    (ha : a.toNat = programStart.toNat + i) :
    (loaded program).core.memory.peek a = program[i]?.getD 0 := by
  show (Memory.empty.place programStart.toNat program).peek a = _
  rw [Memory.peek_place, if_pos (by omega), ha, Nat.add_sub_cancel_left, Memory.peek_empty]

/-- A word of it is read without an effect. -/
theorem read_loaded {program : List Word} {i : Nat} {a : Word}
    (ha : a.toNat = programStart.toNat + i) (hstatus : a ≠ Memory.statusAddress)
    (hdata : a ≠ Memory.dataAddress) :
    (loaded program).core.memory.read a
      = .done (program[i]?.getD 0, (loaded program).core.memory) := by
  rw [Memory.read_eq_done _ hstatus hdata, peek_loaded program ha]

/-- Unless the program reaches up to the keyboard registers, no character is
held. -/
theorem holds_loaded {program : List Word}
    (h : programStart.toNat + program.length ≤ Memory.statusAddress.toNat) :
    (loaded program).core.memory.holds = false := by
  have hstatus : Memory.statusAddress.toNat
      = programStart.toNat + (Memory.statusAddress.toNat - programStart.toNat) := rfl
  show ((loaded program).core.memory.peek Memory.statusAddress == Memory.ready) = false
  rw [peek_loaded program hstatus, List.getElem?_eq_none (by omega)]
  rfl

end Machine

end LC3
