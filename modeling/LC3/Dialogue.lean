import LC3.Event

/-!
# Dialogues with the keyboard and the console

The machine itself holds registers and memory and no device. Whatever it
does is a **dialogue**: a tree that either is done, with a value, or asks one
question of the keyboard or the console and goes on with the answer, or
reports an event. A dialogue says what the machine does with every answer
the devices could give, so a statement about all keyboards and all consoles
is an induction on the tree, and two devices that answer alike lead to the
same run.

## The questions

The keyboard is asked in four ways. It can be **polled** for a character,
without waiting; a character it found is kept for the program until it is
**taken**; a program that cannot go on without a character **waits** for one,
and gets none only when shutdown was requested instead; and it can be asked
whether shutdown was **requested**. The console is asked to **write** bytes
and to **flush** what was written.
-/

namespace LC3

/-- **A tree of questions to the devices.** -/
inductive Dialogue (α : Type) : Type where
  /-- The end, with a value. -/
  | done (value : α)
  /-- Asks the keyboard whether a character is there. -/
  | poll (next : Except DeviceError Bool → Dialogue α)
  /-- Takes the character that a poll found. -/
  | take (next : Option UInt8 → Dialogue α)
  /-- Waits for a character. -/
  | wait (next : Except DeviceError (Option UInt8) → Dialogue α)
  /-- Asks the keyboard whether shutdown was requested. -/
  | requested (next : Bool → Dialogue α)
  /-- Writes bytes to the console. -/
  | write (bytes : List UInt8) (next : Except DeviceError Unit → Dialogue α)
  /-- Makes what was written visible. -/
  | flush (next : Except DeviceError Unit → Dialogue α)
  /-- Reports an event. -/
  | report (event : Event) (rest : Dialogue α)

namespace Dialogue

variable {α β γ : Type}

/-- Grafts a dialogue onto every end of another. -/
def graft (f : α → Dialogue β) : Dialogue α → Dialogue β
  | done a => f a
  | poll k => poll fun answer => (k answer).graft f
  | take k => take fun answer => (k answer).graft f
  | wait k => wait fun answer => (k answer).graft f
  | requested k => requested fun answer => (k answer).graft f
  | write bytes k => write bytes fun answer => (k answer).graft f
  | flush k => flush fun answer => (k answer).graft f
  | report event rest => report event (rest.graft f)

/-- **One dialogue after another.** A dialogue that is done is followed at
once, so a long computation without a question needs no stack. -/
@[inline]
def bind (x : Dialogue α) (f : α → Dialogue β) : Dialogue β :=
  match x with
  | done a => f a
  | x => x.graft f

instance : Monad Dialogue where
  pure := done
  bind := bind

theorem bind_eq_graft (x : Dialogue α) (f : α → Dialogue β) : x >>= f = x.graft f := by
  cases x <;> rfl

@[simp]
theorem pure_eq_done (a : α) : (pure a : Dialogue α) = done a := rfl

@[simp]
theorem done_bind (a : α) (f : α → Dialogue β) : (done a : Dialogue α) >>= f = f a := rfl

theorem graft_done (x : Dialogue α) : x.graft done = x := by
  induction x with
  | done => rfl
  | poll k ih => exact congrArg poll (funext ih)
  | take k ih => exact congrArg take (funext ih)
  | wait k ih => exact congrArg wait (funext ih)
  | requested k ih => exact congrArg requested (funext ih)
  | write bytes k ih => exact congrArg (write bytes) (funext ih)
  | flush k ih => exact congrArg flush (funext ih)
  | report event rest ih => exact congrArg (report event) ih

theorem graft_graft (x : Dialogue α) (f : α → Dialogue β) (g : β → Dialogue γ) :
    (x.graft f).graft g = x.graft fun a => (f a).graft g := by
  induction x with
  | done => rfl
  | poll k ih => exact congrArg poll (funext ih)
  | take k ih => exact congrArg take (funext ih)
  | wait k ih => exact congrArg wait (funext ih)
  | requested k ih => exact congrArg requested (funext ih)
  | write bytes k ih => exact congrArg (write bytes) (funext ih)
  | flush k ih => exact congrArg flush (funext ih)
  | report event rest ih => exact congrArg (report event) ih

/-- Dialogues follow one another in any grouping. -/
instance : LawfulMonad Dialogue :=
  LawfulMonad.mk' Dialogue
    (fun x => by
      change (x >>= fun a => pure (id a)) = x
      rw [bind_eq_graft]
      exact graft_done x)
    (fun _ _ => rfl)
    (fun x f g => by
      simp only [bind_eq_graft]
      exact graft_graft x f g)

/-! ## Single questions -/

/-- Polls the keyboard. -/
def pollKeyboard : Dialogue (Except DeviceError Bool) := poll done

/-- Takes the character that a poll found. -/
def takeCharacter : Dialogue (Option UInt8) := take done

/-- Waits for a character; none comes once shutdown was requested. -/
def awaitCharacter : Dialogue (Except DeviceError (Option UInt8)) := wait done

/-- Asks whether shutdown was requested. -/
def shutdownRequested : Dialogue Bool := requested done

/-- Reports an event. -/
def tell (event : Event) : Dialogue Unit := report event (done ())

/-- **Writes a message and makes it visible.** No bytes are no write, but a
flush all the same; after a failed write nothing is flushed. -/
def say (message : List UInt8) : Dialogue (Except DeviceError Unit) :=
  if message.isEmpty then flush done
  else write message fun
    | .ok () => flush done
    | .error e => done (.error e)

/-! ## What every end satisfies -/

/-- **Every end of the dialogue satisfies a predicate**, whatever the devices
answer. -/
def Ends (P : α → Prop) : Dialogue α → Prop
  | done a => P a
  | poll k => ∀ answer, (k answer).Ends P
  | take k => ∀ answer, (k answer).Ends P
  | wait k => ∀ answer, (k answer).Ends P
  | requested k => ∀ answer, (k answer).Ends P
  | write _ k => ∀ answer, (k answer).Ends P
  | flush k => ∀ answer, (k answer).Ends P
  | report _ rest => rest.Ends P

theorem ends_bind {P : β → Prop} {x : Dialogue α} {f : α → Dialogue β} :
    (x >>= f).Ends P ↔ x.Ends fun a => (f a).Ends P := by
  rw [bind_eq_graft]
  induction x with
  | done => rfl
  | poll k ih => exact forall_congr' ih
  | take k ih => exact forall_congr' ih
  | wait k ih => exact forall_congr' ih
  | requested k ih => exact forall_congr' ih
  | write bytes k ih => exact forall_congr' ih
  | flush k ih => exact forall_congr' ih
  | report event rest ih => exact ih

theorem Ends.imp {P Q : α → Prop} (h : ∀ a, P a → Q a) {x : Dialogue α} (hx : x.Ends P) :
    x.Ends Q := by
  induction x with
  | done a => exact h a hx
  | poll k ih => exact fun answer => ih answer (hx answer)
  | take k ih => exact fun answer => ih answer (hx answer)
  | wait k ih => exact fun answer => ih answer (hx answer)
  | requested k ih => exact fun answer => ih answer (hx answer)
  | write bytes k ih => exact fun answer => ih answer (hx answer)
  | flush k ih => exact fun answer => ih answer (hx answer)
  | report event rest ih => exact ih hx

theorem ends_of_forall {P : α → Prop} (h : ∀ a, P a) (x : Dialogue α) : x.Ends P := by
  induction x with
  | done a => exact h a
  | poll k ih => exact ih
  | take k ih => exact ih
  | wait k ih => exact ih
  | requested k ih => exact ih
  | write bytes k ih => exact ih
  | flush k ih => exact ih
  | report event rest ih => exact ih

end Dialogue

end LC3
