import LC3.Proofs.Step

/-!
# Reading the keyboard registers

What a read of each of the two registers exchanges with the keyboard, and
which character the memory holds for the program before and after. `held?`
is that character; it is there exactly while the status register says that
one is (`holds`), and it is what the data register contains.
-/

namespace LC3

namespace Memory

variable {κ ω : Type} [Keyboard κ] [Console ω]

/-- **The character that is held** for the program, as the data register
has it. -/
def held? (m : Memory) : Option Word :=
  if m.holds then some (m.peek dataAddress) else none

/-- With the status set it is the data, -/
theorem held?_of_holds {m : Memory} (h : m.holds = true) : m.held? = some (m.peek dataAddress) :=
  if_pos h

/-- and otherwise there is none. -/
theorem held?_of_free {m : Memory} (h : m.holds = false) : m.held? = none :=
  if_neg (Bool.eq_false_iff.1 h)

/-- A character that is put into the registers is held. -/
theorem holds_hold_some (m : Memory) (c : UInt8) : (m.hold (some c)).holds = true := by
  have hne : dataAddress ≠ statusAddress := by decide
  show (((m.write statusAddress ready).write dataAddress _).peek statusAddress == ready) = true
  rw [peek_write_ne _ _ hne, peek_write_self]
  rfl

/-- The data are that character. -/
theorem peek_hold_some (m : Memory) (c : UInt8) :
    (m.hold (some c)).peek dataAddress = c.toUInt16 :=
  peek_write_self _ _ _

/-- So it is the character that is held now. -/
theorem held?_hold_some (m : Memory) (c : UInt8) :
    (m.hold (some c)).held? = some c.toUInt16 := by
  rw [held?_of_holds (m.holds_hold_some c), peek_hold_some]

/-- With the status cleared none is. -/
theorem holds_clear (m : Memory) : (m.write statusAddress 0).holds = false := by
  show ((m.write statusAddress 0).peek statusAddress == ready) = false
  rw [peek_write_self]
  rfl

/-- A character that was held before is so no longer, though the data still show it. -/
theorem held?_clear (m : Memory) : (m.write statusAddress 0).held? = none :=
  held?_of_free m.holds_clear

/-- Stores elsewhere do not touch it. -/
theorem held?_write (m : Memory) {a : Word} (value : Word) (hstatus : a ≠ statusAddress)
    (hdata : a ≠ dataAddress) : (m.write a value).held? = m.held? := by
  unfold held? holds
  rw [peek_write_ne _ _ hstatus, peek_write_ne _ _ hdata]

/-- The other cells stay what they are whether a character is held or not. -/
theorem peek_hold_of_cell (m : Memory) (character : Option UInt8) {a : Word}
    (hstatus : a ≠ statusAddress) (hdata : a ≠ dataAddress) :
    (m.hold character).peek a = m.peek a := by
  cases character with
  | none => exact peek_write_ne _ _ hstatus.symm
  | some c =>
    show ((m.write statusAddress ready).write dataAddress _).peek a = _
    rw [peek_write_ne _ _ hdata.symm, peek_write_ne _ _ hstatus.symm]

/-! ## The courses of reading

A read of the status asks the keyboard only if it has to. A read of the data
never does: it clears the status behind it, and shows the last character again
if none is held. -/

/-- A character that is held already is not replaced, and the keyboard is
not asked. -/
theorem hold_readStatus_of_holds {m : Memory} (h : m.holds = true) (k : κ) (c : ω) :
    m.readStatus.hold k c
      = ⟨(ready, m), k, c, [.reported (.statusRead true true (m.peek dataAddress))]⟩ := by
  unfold readStatus
  rw [if_pos h]
  rfl

/-- If none is held the keyboard is asked for one. -/
theorem hold_readStatus_of_free {m : Memory} (h : m.holds = false) (k : κ) (c : ω) :
    m.readStatus.hold k c
      = (let arrived := arrival.hold k c
        let m' := m.hold arrived.value
        ⟨(m'.peek statusAddress, m'), arrived.keyboard, arrived.console, arrived.exchanges
          ++ [.reported (.statusRead false m'.holds (m'.peek dataAddress))]⟩) := by
  unfold readStatus
  rw [if_neg (Bool.eq_false_iff.1 h), Dialogue.hold_bind]
  rfl

/-- **The status is one of two words.** -/
theorem readStatus_value (m : Memory) (k : κ) (c : ω) :
    (m.readStatus.hold k c).value.1 = ready ∨ (m.readStatus.hold k c).value.1 = 0 := by
  by_cases hholds : m.holds = true
  · rw [hold_readStatus_of_holds hholds]
    exact .inl rfl
  · rw [hold_readStatus_of_free (Bool.eq_false_iff.2 hholds)]
    show (m.hold (arrival.hold k c).value).peek statusAddress = _
      ∨ (m.hold (arrival.hold k c).value).peek statusAddress = _
    cases (arrival.hold k c).value with
    | none => exact .inr (peek_write_self _ _ _)
    | some ch => exact .inl (eq_of_beq (m.holds_hold_some ch))

/-- Every read of the status is on record. -/
theorem exists_statusRead_mem (m : Memory) (k : κ) (c : ω) :
    ∃ held ready data,
      .reported (.statusRead held ready data) ∈ (m.readStatus.hold k c).exchanges := by
  by_cases hholds : m.holds = true
  · rw [hold_readStatus_of_holds hholds]
    exact ⟨_, _, _, List.mem_cons_self⟩
  · rw [hold_readStatus_of_free (Bool.eq_false_iff.2 hholds)]
    exact ⟨_, _, _, List.mem_append_right _ List.mem_cons_self⟩

/-- Reading the data hands the character out. -/
theorem hold_readData (m : Memory) (k : κ) (c : ω) :
    m.readData.hold k c
      = ⟨(m.peek dataAddress, m.write statusAddress 0), k, c,
          [.reported (.dataRead m.holds (m.peek dataAddress))]⟩ := rfl

/-- **A read is of one of three kinds**, by its address. -/
theorem read_cases (m : Memory) (a : Word) :
    (a = statusAddress ∧ m.read a = m.readStatus)
      ∨ (a = dataAddress ∧ m.read a = m.readData)
      ∨ m.read a = .done (m.peek a, m) := by
  by_cases hstatus : a = statusAddress
  · subst hstatus
    exact .inl ⟨rfl, rfl⟩
  · by_cases hdata : a = dataAddress
    · subst hdata
      exact .inr (.inl ⟨rfl, rfl⟩)
    · exact .inr (.inr (read_eq_done m hstatus hdata))

end Memory

end LC3
