import LC3.Exchange

/-!
# Dialogues without their reports

A report asks nothing, so leaving out all reports of a dialogue changes
neither what it asks of the devices nor where it ends. Two dialogues that are
the same without their reports therefore take the same course with every
keyboard and every console (`Dialogue.Agrees.course_eq`), which is how an
instruction, with the events it reports, is compared with a rule that says
only what the instruction does.
-/

namespace LC3

namespace Dialogue

variable {α β : Type}

/-- **The dialogue without its reports.** -/
def quiet : Dialogue α → Dialogue α
  | done a => done a
  | poll k => poll fun answer => (k answer).quiet
  | take k => take fun answer => (k answer).quiet
  | wait k => wait fun answer => (k answer).quiet
  | requested k => requested fun answer => (k answer).quiet
  | write bytes k => write bytes fun answer => (k answer).quiet
  | flush k => flush fun answer => (k answer).quiet
  | report _ rest => rest.quiet

/-- Reports are left out part by part. -/
theorem quiet_bind (x : Dialogue α) (f : α → Dialogue β) :
    (x >>= f).quiet = x.quiet >>= fun a => (f a).quiet := by
  rw [bind_eq_graft, bind_eq_graft]
  induction x with
  | done a => rfl
  | poll k ih => exact congrArg poll (funext ih)
  | take k ih => exact congrArg take (funext ih)
  | wait k ih => exact congrArg wait (funext ih)
  | requested k ih => exact congrArg requested (funext ih)
  | write bytes k ih => exact congrArg (write bytes) (funext ih)
  | flush k ih => exact congrArg flush (funext ih)
  | report event rest ih => exact ih

/-- **Two dialogues agree** if they are the same without their reports. -/
def Agrees (x y : Dialogue α) : Prop := x.quiet = y.quiet

/-- Agreeing goes both ways, -/
theorem Agrees.symm {x y : Dialogue α} (h : x.Agrees y) : y.Agrees x := Eq.symm h

/-- and on to what agrees with the second. -/
theorem Agrees.trans {x y z : Dialogue α} (h : x.Agrees y) (h' : y.Agrees z) : x.Agrees z :=
  Eq.trans h h'

/-- What follows may be exchanged for what agrees with it. -/
theorem Agrees.bind (x : Dialogue α) {f g : α → Dialogue β} (h : ∀ a, (f a).Agrees (g a)) :
    (x >>= f).Agrees (x >>= g) := by
  unfold Agrees
  rw [quiet_bind, quiet_bind]
  exact congrArg (x.quiet >>= ·) (funext h)

section Course

variable {κ ω : Type} [Keyboard κ] [Console ω]

/-- Leaving out the reports changes neither the value nor the devices. -/
theorem hold_quiet (x : Dialogue α) (k : κ) (c : ω) :
    (x.quiet.hold k c).value = (x.hold k c).value
      ∧ (x.quiet.hold k c).keyboard = (x.hold k c).keyboard
      ∧ (x.quiet.hold k c).console = (x.hold k c).console := by
  induction x generalizing k c with
  | done a => exact ⟨rfl, rfl, rfl⟩
  | poll next ih => exact ih _ _ _
  | take next ih => exact ih _ _ _
  | wait next ih => exact ih _ _ _
  | requested next ih => exact ih _ _ _
  | write bytes next ih => exact ih _ _ _
  | flush next ih => exact ih _ _ _
  | report event rest ih => exact ih _ _

/-- **Dialogues that agree lead to the same place** with every keyboard and
every console. -/
theorem Agrees.course_eq {x y : Dialogue α} (h : x.Agrees y) (k : κ) (c : ω) :
    (x.hold k c).value = (y.hold k c).value
      ∧ (x.hold k c).keyboard = (y.hold k c).keyboard
      ∧ (x.hold k c).console = (y.hold k c).console := by
  obtain ⟨hv, hk, hc⟩ := hold_quiet x k c
  obtain ⟨hv', hk', hc'⟩ := hold_quiet y k c
  unfold Agrees at h
  rw [← hv, ← hk, ← hc, h]
  exact ⟨hv', hk', hc'⟩

end Course

end Dialogue

end LC3
