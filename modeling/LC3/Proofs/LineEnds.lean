import LC3.Console.Collector
import LC3.Console.LineFeed

/-!
# Line ends, however the output is cut

A console that returns the carriage is handed its output in messages, and where
one message ends and the next begins is up to whoever writes. A line feed may be
the first byte of a message, the last one, or all of it, and the console behind
may run out of room anywhere, between the two bytes of a line end too. None of
this shows behind: what arrives there depends on the bytes alone, not on where
they were cut (`LineFeed.translates_whatever_the_cuts`).

The reason is an invariant of the console behind. `Collector.Took` says that it
took what fitted of everything that was meant for it, whether the messages
succeeded or not. A message that is cut short keeps it up, because of the
messages after it nothing fits any more (`Collector.Took.beyond`).
-/

namespace LC3

namespace Collector

/-! ## What fits

Room is given by a bound, or there is no bound. What fits is a beginning of what
was sent, and bytes that do not fit leave no room for any that come later. -/

/-- **As much as there is room for**, if there is a bound. -/
def fitting (capacity : Option Nat) (sent : List UInt8) : List UInt8 :=
  match capacity with
  | none => sent
  | some n => sent.take n

/-- What there is room for is a beginning. -/
theorem fitting_isPrefix (capacity : Option Nat) (sent : List UInt8) :
    fitting capacity sent <+: sent := by
  cases capacity with
  | none => exact List.prefix_refl sent
  | some n => exact List.take_prefix n sent

/-- There is room for all of it. -/
def Fits (capacity : Option Nat) (sent : List UInt8) : Prop :=
  ∀ n ∈ capacity, sent.length ≤ n

instance (capacity : Option Nat) (sent : List UInt8) : Decidable (Fits capacity sent) :=
  inferInstanceAs (Decidable (∀ n ∈ capacity, _))

@[simp] theorem fits_none (sent : List UInt8) : Fits none sent := nofun

@[simp] theorem fits_some (n : Nat) (sent : List UInt8) :
    Fits (some n) sent ↔ sent.length ≤ n := by
  simp [Fits]

/-- Of what fits every beginning does. -/
theorem Fits.left {capacity : Option Nat} {before later : List UInt8}
    (h : Fits capacity (before ++ later)) : Fits capacity before := by
  intro n hn
  have hle := h n hn
  rw [List.length_append] at hle
  exact Nat.le_of_add_right_le hle

/-- **A console took what fitted** of the bytes that were meant for it, from the
first byte it ever took on. -/
structure Took (capacity : Option Nat) (sent : List UInt8) (c : Collector) : Prop where
  bytes : c.bytes.toList = fitting capacity sent
  room : c.room = capacity.map (· - sent.length)

variable {capacity : Option Nat} {sent : List UInt8} {c : Collector}

/-- A new console took nothing. -/
theorem took_new (capacity : Option Nat) (flushFails : Bool) :
    Took capacity [] { room := capacity, flushFails } where
  bytes := by cases capacity <;> simp [fitting]
  room := by cases capacity <;> simp

/-- **Behind what does not fit** nothing fits. -/
theorem Took.beyond (h : c.Took capacity sent) (hfull : ¬ Fits capacity sent)
    (later : List UInt8) : c.Took capacity (sent ++ later) := by
  cases capacity with
  | none => exact absurd (fits_none sent) hfull
  | some n =>
    have hlong : n - sent.length = 0 := by simp at hfull; omega
    have hlonger : n - (sent ++ later).length = 0 := by simp; omega
    -- no room is left, so both lists are cut at the same place
    refine ⟨?_, ?_⟩
    · simp [h.bytes, fitting, List.take_append, hlong]
    · rw [h.room, Option.map_some, Option.map_some, hlong, hlonger]

/-- **A message is taken as far as it fits**, and fails if it does not. -/
theorem Took.write (h : c.Took capacity sent) {message : List UInt8} (hne : message ≠ []) :
    (Console.write c message).2.Took capacity (sent ++ message)
      ∧ (Console.write c message).1
        = if Fits capacity (sent ++ message) then .ok () else .error brokenPipe := by
  have hpos : 0 < message.length := List.length_pos_iff.2 hne
  obtain ⟨bytes, flushes, room, flushFails⟩ := c
  obtain ⟨hbytes, rfl⟩ := h
  dsimp only at hbytes
  cases capacity with
  | none =>
    refine ⟨⟨?_, rfl⟩, (if_pos (fits_none _)).symm⟩
    show (bytes ++ message).toList = sent ++ message
    rw [Array.toList_appendList, hbytes]
    rfl
  | some n =>
    show (Collector.write ⟨bytes, flushes, some (n - sent.length), flushFails⟩ message).2.Took _ _
      ∧ (Collector.write ⟨bytes, flushes, some (n - sent.length), flushFails⟩ message).1 = _
    unfold Collector.write
    dsimp only
    -- a message for which there is no room is cut where the room ends
    by_cases hroom : message.length ≤ n - sent.length
    · have hfits : Fits (some n) (sent ++ message) := by simp; omega
      rw [if_pos hroom, if_pos hfits]
      refine ⟨⟨?_, ?_⟩, rfl⟩
      · simp [hbytes, fitting, List.take_append, List.take_of_length_le hroom]
      · simp [Nat.sub_sub]
    · have hfits : ¬ Fits (some n) (sent ++ message) := by simp; omega
      have hfull : n - (sent ++ message).length = 0 := by simp; omega
      rw [if_neg hroom, if_neg hfits]
      refine ⟨⟨?_, ?_⟩, rfl⟩
      · simp [hbytes, fitting, List.take_append]
      · rw [Option.map_some, hfull]

/-- A flush takes nothing. -/
theorem Took.flush (h : c.Took capacity sent) : (Console.flush c).2.Took capacity sent :=
  ⟨h.bytes, h.room⟩

end Collector

namespace LineFeed

open Collector (Took Fits fitting fitting_isPrefix brokenPipe took_new)

/-! ## What is expanded

Expanding is byte by byte, so it does not depend on where messages are cut. -/

@[simp] theorem expand_nil : expand [] = [] := rfl

/-- **Cutting makes no difference** to what bytes are expanded to. -/
theorem expand_append (before later : List UInt8) :
    expand (before ++ later) = expand before ++ expand later := List.flatMap_append

/-- Every byte leaves something. -/
@[simp] theorem expand_eq_nil_iff {message : List UInt8} : expand message = [] ↔ message = [] := by
  cases message with
  | nil => simp
  | cons b rest => by_cases h : b = 0x0A <;> simp [expand, h]

/-! ## Messages

A message is written to the console behind in pieces, each line end in one of
its own. The first piece that is not taken ends the message, and its error is
the answer. -/

variable {capacity : Option Nat} {sent : List UInt8}

/-- **Pieces are taken as far as they fit**, one behind the other. -/
theorem took_writePieces {c : Collector} (h : c.Took capacity sent) (pieces : List (List UInt8)) :
    (writePieces c pieces).2.Took capacity (sent ++ pieces.flatten)
      ∧ (writePieces c pieces).1
        = if pieces.flatten = [] ∨ Fits capacity (sent ++ pieces.flatten) then .ok ()
          else .error brokenPipe := by
  induction pieces generalizing c sent with
  | nil => exact ⟨by simpa [writePieces] using h, by simp [writePieces]⟩
  | cons piece rest ih =>
    unfold writePieces
    by_cases hempty : piece = []
    · simpa [hempty] using ih h
    · obtain ⟨htook, hanswer⟩ := h.write hempty
      have hisEmpty : piece.isEmpty = false := by simp [hempty]
      rw [hisEmpty, if_neg Bool.false_ne_true]
      by_cases hfits : Fits capacity (sent ++ piece)
      · rw [if_pos hfits] at hanswer
        rw [show Console.write c piece = (.ok (), (Console.write c piece).2) from
          Prod.ext hanswer rfl]
        obtain ⟨hlater, hlast⟩ := ih htook
        dsimp only
        rw [List.append_assoc] at hlater hlast
        refine ⟨hlater, hlast.trans ?_⟩
        by_cases hrest : rest.flatten = [] <;> simp [hrest, hempty, hfits]
      · rw [if_neg hfits] at hanswer
        rw [show Console.write c piece = (.error brokenPipe, (Console.write c piece).2) from
          Prod.ext hanswer rfl]
        -- the later pieces are not written, but of them nothing would fit either
        have hfull : ¬ Fits capacity ((sent ++ piece) ++ rest.flatten) := fun h => hfits h.left
        have htaken := htook.beyond hfits rest.flatten
        dsimp only
        rw [List.append_assoc] at hfull htaken
        exact ⟨htaken, by simp [hempty, hfull]⟩

/-- **A message reaches the console behind as far as it fits.** -/
theorem took_write {c : LineFeed Collector} (h : c.inner.Took capacity (expand sent))
    (message : List UInt8) :
    (c.write message).2.inner.Took capacity (expand (sent ++ message))
      ∧ (c.write message).1
        = if message = [] ∨ Fits capacity (expand (sent ++ message)) then .ok ()
          else .error brokenPipe := by
  have hpieces : (pieces [] message).flatten = expand message := flatten_pieces [] message
  obtain ⟨htook, hanswer⟩ := took_writePieces h (pieces [] message)
  rw [expand_append]
  simp only [hpieces, expand_eq_nil_iff] at htook hanswer
  exact ⟨htook, hanswer⟩

/-! ## Calls -/

/-- **What a console that returns the carriage may be asked.** -/
inductive Call where
  /-- To take a message. -/
  | writeAll (message : List UInt8)
  /-- To take a message and to tell how many of its bytes were taken. -/
  | write (message : List UInt8)
  /-- To make visible what was taken. -/
  | flush

/-- The bytes that a call brings. -/
def Call.bytes : Call → List UInt8
  | writeAll message | write message => message
  | flush => []

/-- Makes a call. The answer is the count, if the call asks for it. -/
def call (c : LineFeed Collector) : Call → Except DeviceError (Option Nat) × LineFeed Collector
  | .writeAll message => let (answer, c) := c.write message; (answer.map fun () => none, c)
  | .write message => let (answer, c) := c.writeCounted message; (answer.map some, c)
  | .flush => let (answer, c) := Console.flush c; (answer.map fun () => none, c)

/-- **The console after some calls**, whatever came of them. -/
def afterCalls (c : LineFeed Collector) (calls : List Call) : LineFeed Collector :=
  calls.foldl (fun c call => (c.call call).2) c

/-- **A call reaches the console behind** as far as its bytes fit, -/
theorem took_call {c : LineFeed Collector} (h : c.inner.Took capacity (expand sent))
    (call : Call) :
    (c.call call).2.inner.Took capacity (expand (sent ++ call.bytes)) := by
  cases call with
  | writeAll message | write message => exact (took_write h message).1
  | flush =>
    rw [show Call.flush.bytes = [] from rfl, List.append_nil]
    exact h.flush

/-- and so does one call after another. -/
theorem took_afterCalls {c : LineFeed Collector} (h : c.inner.Took capacity (expand sent))
    (calls : List Call) :
    (c.afterCalls calls).inner.Took capacity (expand (sent ++ calls.flatMap Call.bytes)) := by
  induction calls generalizing c sent with
  | nil => simpa [afterCalls] using h
  | cons call rest ih =>
    have hrest := ih (took_call h call)
    rw [List.append_assoc] at hrest
    exact hrest

/-- **The translation does not depend on where the output is cut.** Whatever
calls were made of a new console before, after one more the console behind holds
as much of the translation of all the bytes brought as there is room for. A call
with bytes succeeds exactly if the whole translation fits, and then a counted one
tells their number; a call without bytes always succeeds. A flush is handed on,
with its answer, and writes nothing. Hence what is behind a failure is a beginning
of the translation, and other calls with the same bytes leave the same behind. -/
theorem translates_whatever_the_cuts (capacity : Option Nat) (flushFails : Bool)
    (calls : List Call) (call : Call) :
    let start : LineFeed Collector := ⟨{ room := capacity, flushFails }⟩
    let c := start.afterCalls calls
    let (answer, c') := c.call call
    let sent := (calls ++ [call]).flatMap Call.bytes
    c'.inner.bytes.toList = fitting capacity (expand sent)
      ∧ c'.inner.bytes.toList <+: expand sent
      ∧ (match call with
        | .writeAll message => answer
            = if message = [] ∨ Fits capacity (expand sent) then .ok none else .error brokenPipe
        | .write message => answer
            = if message = [] ∨ Fits capacity (expand sent) then .ok (some message.length)
              else .error brokenPipe
        | .flush => (answer, c'.inner)
            = ((Console.flush c.inner).1.map fun () => none, (Console.flush c.inner).2)
              ∧ c'.inner.bytes = c.inner.bytes)
      ∧ ∀ others : List Call, others.flatMap Call.bytes = sent →
        (start.afterCalls others).inner.bytes = c'.inner.bytes := by
  intro start c
  have hstart : start.inner.Took capacity (expand []) := took_new capacity flushFails
  have hbefore : c.inner.Took capacity (expand (calls.flatMap Call.bytes)) :=
    took_afterCalls hstart calls
  have htook := took_call hbefore call
  show _ ∧ _ ∧ _ ∧ _
  rw [List.flatMap_append, List.flatMap_singleton]
  refine ⟨htook.bytes, htook.bytes ▸ fitting_isPrefix _ _, ?_, fun others hothers => ?_⟩
  · cases call with
    | writeAll message =>
      show (c.write message).1.map _ = _
      rw [(took_write hbefore message).2]
      exact apply_ite _ _ _ _
    | write message =>
      show ((c.write message).1.map _).map _ = _
      rw [(took_write hbefore message).2, apply_ite (Except.map _)]
      exact apply_ite _ _ _ _
    | flush => exact ⟨rfl, rfl⟩
  · have hothers' := took_afterCalls hstart others
    rw [List.nil_append, hothers] at hothers'
    exact Array.toList_inj.1 (hothers'.bytes.trans htook.bytes.symm)

/-- A line feed for which only one byte of room is left is cut in two. -/
example :
    (afterCalls ⟨{ room := some 2 }⟩ [.writeAll [0x41, 0x0A]]).inner.bytes.toList
      = [0x41, 0x0D] := by
  decide

end LineFeed

end LC3
