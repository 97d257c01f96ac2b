import Mathlib.Tactic.SplitIfs
import LC3.Console.Collector
import LC3.Keyboard.Scripted
import LC3.Proofs.Programs
import LC3.System

/-!
# Program images in memory

An image is read two bytes at a time, and `pairUp` builds the list of words on
the way. Here the words are named by their places (`Image.wordAt`), so that
what an image asks for can be said without reading it: the `origin` is the word
at place zero, the `body` are the words behind it, and an image `Fits` if it
has whole words, an origin, and no word behind the last address.

Bytes and words go back and forth without a loss, in both directions
(`Image.words_encode`, `Image.encode_of_words`). Hence there is nothing to
choose in how a program is loaded: `System.act_loadImage_exact` says for every
image whether it is refused and why, that a refusal leaves everything as it
was, and which words are found in memory otherwise.
-/

namespace LC3

/-! ## Words and their bytes

Both directions are stated in numbers: a word is 256 times its high byte and its
low byte, and the bytes are the quotient and the remainder. What follows is
arithmetic, and no proof below looks at bits again. -/

namespace Word

/-- The high byte counts 256 times. -/
theorem toNat_ofBytes (high low : UInt8) :
    (ofBytes high low).toNat = 256 * high.toNat + low.toNat := by
  have hhigh : high.toNat < 2 ^ 8 := high.toNat_lt
  have hlow : low.toNat < 2 ^ 8 := low.toNat_lt
  -- a byte keeps all of its bits when it is shifted within a word
  have hshift : (high.toUInt16 <<< 8).toNat = high.toNat <<< 8 := by
    rw [UInt16.toNat_shiftLeft, UInt8.toNat_toUInt16]
    show high.toNat <<< 8 % 2 ^ 16 = _
    rw [Nat.shiftLeft_eq]
    exact Nat.mod_eq_of_lt (by omega)
  unfold ofBytes
  rw [UInt16.toNat_or, hshift, UInt8.toNat_toUInt16, ← Nat.shiftLeft_add_eq_or_of_lt hlow,
    Nat.shiftLeft_eq]
  omega

/-- The same without the word read back as a number. -/
theorem ofBytes_eq_ofNat (high low : UInt8) :
    ofBytes high low = .ofNat (256 * high.toNat + low.toNat) := by
  rw [← toNat_ofBytes, UInt16.ofNat_toNat]

/-- The low byte is the remainder, -/
theorem toNat_lowByte (w : Word) : w.lowByte.toNat = w.toNat % 256 :=
  UInt16.toNat_toUInt8 w

/-- and the high byte the quotient. -/
theorem toNat_highByte (w : Word) : w.highByte.toNat = w.toNat / 256 := by
  have hw : w.toNat < 2 ^ 16 := w.toNat_lt
  unfold highByte
  rw [UInt16.toNat_toUInt8, UInt16.toNat_shiftRight]
  show w.toNat >>> 8 % 2 ^ 8 = _
  rw [Nat.shiftRight_eq_div_pow]
  omega

/-- A word is its bytes. -/
theorem ofBytes_highByte_lowByte (w : Word) : ofBytes w.highByte w.lowByte = w := by
  apply UInt16.toNat_inj.1
  rw [toNat_ofBytes, toNat_highByte, toNat_lowByte]
  omega

/-- Two bytes that were put together come apart again, the high one -/
theorem highByte_ofBytes (high low : UInt8) : (ofBytes high low).highByte = high := by
  have hlow : low.toNat < 2 ^ 8 := low.toNat_lt
  apply UInt8.toNat_inj.1
  rw [toNat_highByte, toNat_ofBytes]
  omega

/-- and the low one. -/
theorem lowByte_ofBytes (high low : UInt8) : (ofBytes high low).lowByte = low := by
  have hlow : low.toNat < 2 ^ 8 := low.toNat_lt
  apply UInt8.toNat_inj.1
  rw [toNat_lowByte, toNat_ofBytes]
  omega

end Word

/-! ## The words of an image

A byte beyond the end would count as zero (`Image.wordAt`), but no such byte is
read: of an image of even length all places below half the length are whole
words. -/

namespace Image

/-- **The word at a place of an image:** two bytes, the high one first. -/
def wordAt (image : List UInt8) (i : Nat) : Word :=
  .ofNat (256 * (image.getD (2 * i) 0).toNat + (image.getD (2 * i + 1) 0).toNat)

/-- The address that an image goes to, its first word. -/
def origin (image : List UInt8) : Word := wordAt image 0

/-- The number of words behind the origin. -/
def extent (image : List UInt8) : Nat := image.length / 2 - 1

/-- The words behind the origin. -/
def body (image : List UInt8) : List Word :=
  (List.range (extent image)).map fun i => wordAt image (i + 1)

/-- Without a pair there is one byte at most. -/
theorem length_le_one {image : List UInt8}
    (h : ∀ high low rest, image = high :: low :: rest → False) : image.length ≤ 1 := by
  match image with
  | [] => exact Nat.zero_le 1
  | [_] => exact Nat.le_refl 1
  | high :: low :: rest => exact (h high low rest rfl).elim

/-- Reading pairs of bytes reads the words, one place after another. -/
theorem pairUp_eq (before : List Word) (image : List UInt8) :
    pairUp before image
      = before.reverse ++ (List.range (image.length / 2)).map (wordAt image) := by
  induction before, image using pairUp.induct with
  | case1 before high low rest ih =>
    have hlength : (high :: low :: rest).length / 2 = rest.length / 2 + 1 := by
      show (rest.length + 2) / 2 = _
      omega
    -- two bytes off the front move every word one place
    have hlater : wordAt (high :: low :: rest) ∘ Nat.succ = wordAt rest := by
      funext i
      show wordAt (high :: low :: rest) (i + 1) = wordAt rest i
      unfold wordAt
      rfl
    rw [pairUp, ih, hlength, List.range_succ_eq_map, List.map_cons, List.map_map, hlater,
      List.reverse_cons, List.append_assoc, Word.ofBytes_eq_ofNat]
    rfl
  | case2 image before hshort =>
    have hlength : image.length / 2 = 0 := by
      have hle := length_le_one hshort
      omega
    rw [pairUp, hlength, List.range_zero, List.map_nil, List.append_nil]
    exact hshort

/-- The words of an image with its last word whole. -/
theorem words_eq_ok {image : List UInt8} (heven : image.length % 2 = 0) :
    words image = .ok ((List.range (image.length / 2)).map (wordAt image)) := by
  unfold words
  rw [if_pos heven, pairUp_eq]
  rfl

/-- An image with a word in it is the origin and what goes there. -/
theorem words_eq_cons {image : List UInt8} (heven : image.length % 2 = 0) (hne : image ≠ []) :
    words image = .ok (origin image :: body image) := by
  have hpos : 0 < image.length := List.length_pos_iff.2 hne
  have hcount : image.length / 2 = extent image + 1 := by
    unfold extent
    omega
  rw [words_eq_ok heven, hcount, List.range_succ_eq_map, List.map_cons, List.map_map]
  rfl

/-- There are as many words behind the origin as the extent says, -/
theorem length_body (image : List UInt8) : (body image).length = extent image := by
  unfold body
  rw [List.length_map, List.length_range]

/-- and they are at the places that follow the first. -/
theorem getElem_body {image : List UInt8} {i : Nat} (h : i < (body image).length) :
    (body image)[i] = wordAt image (i + 1) := by
  simp [body]

/-! ## Words and bytes go back and forth

The inductions follow the reading of pairs, with the words read so far as they
are accumulated, in reverse. -/

/-- The first word is the first two bytes. -/
theorem encode_cons (w : Word) (program : List Word) :
    encode (w :: program) = w.highByte :: w.lowByte :: encode program := rfl

/-- An image is two bytes for each word. -/
theorem length_encode (program : List Word) :
    (encode program).length = 2 * program.length := by
  induction program with
  | nil => rfl
  | cons w rest ih =>
    rw [encode_cons, List.length_cons, List.length_cons, List.length_cons, ih]
    omega

/-- An encoded program is read back behind whatever was read before. -/
theorem pairUp_encode (before program : List Word) :
    pairUp before (encode program) = before.reverse ++ program := by
  induction program generalizing before with
  | nil => exact (List.append_nil _).symm
  | cons w rest ih =>
    rw [encode_cons, pairUp, Word.ofBytes_highByte_lowByte, ih, List.reverse_cons,
      List.append_assoc]
    rfl

/-- **The words of an encoded program** are the program. -/
theorem words_encode (program : List Word) : words (encode program) = .ok program := by
  have heven : (encode program).length % 2 = 0 := by
    rw [length_encode]
    exact Nat.mul_mod_right 2 _
  unfold words
  rw [if_pos heven, pairUp_encode]
  rfl

/-- What was read of an even number of bytes is encoded as these bytes. -/
theorem encode_pairUp (before : List Word) {image : List UInt8}
    (heven : image.length % 2 = 0) :
    encode (pairUp before image) = encode before.reverse ++ image := by
  induction before, image using pairUp.induct with
  | case1 before high low rest ih =>
    have heven' : rest.length % 2 = 0 := by
      have hlength : (rest.length + 2) % 2 = 0 := heven
      omega
    rw [pairUp, ih heven', List.reverse_cons]
    unfold encode
    rw [List.flatMap_append, List.append_assoc, List.flatMap_singleton, Word.highByte_ofBytes,
      Word.lowByte_ofBytes]
    rfl
  | case2 image before hshort =>
    -- one byte alone is excluded, since the length is even
    have hnil : image = [] := by
      have hle := length_le_one hshort
      exact List.eq_nil_of_length_eq_zero (by omega)
    rw [hnil, pairUp, List.append_nil]
    exact nofun

/-- **The words of an image, encoded,** are the image. -/
theorem encode_of_words {image : List UInt8} {program : List Word}
    (h : words image = .ok program) : encode program = image := by
  by_cases heven : image.length % 2 = 0
  · have hwords : words image = .ok (pairUp [] image) := if_pos heven
    rw [← Except.ok.inj (hwords.symm.trans h)]
    exact encode_pairUp [] heven
  · exact nomatch (show words image = .error _ from if_neg heven).symm.trans h

/-- **An image that can be loaded:** whole words, an origin, and no word
behind the last address. -/
structure Fits (image : List UInt8) : Prop where
  even : image.length % 2 = 0
  headed : image ≠ []
  room : (origin image).toNat + extent image ≤ UInt16.size

end Image

/-! ## What loading leaves

The places of a program are told apart by the distance to its origin. A program
that fits does not go around the last address, so the distance of a place is its
number in the program. -/

namespace Machine

/-- The machine with a program at an address, about to run. -/
def placing (m : Machine) (origin : Word) (program : List Word) : Machine :=
  { m with
    core := ⟨.initial, m.core.memory.place origin.toNat program⟩
    steps := 0 }

/-- **A machine that was loaded** with a program at an address: the program is
in its place and the rest of the memory as before, the registers are as before
any program runs, nothing was counted, and the settings are as before. -/
structure Loaded (m : Machine) (origin : Word) (program : List Word) (m' : Machine) : Prop where
  inside : ∀ i (h : i < program.length),
    m'.core.memory.peek (origin + .ofNat i) = program[i]
  outside : ∀ a, (∀ i < program.length, a ≠ origin + .ofNat i) →
    m'.core.memory.peek a = m.core.memory.peek a
  general : ∀ r, m'.core.registers.get r = 0
  counter : m'.core.registers.pc = 0x3000
  flag : m'.core.registers.flag = .zero
  steps : m'.steps = 0
  config : m'.config = m.config
  pollFailed : m'.pollFailed = m.pollFailed

/-- Below the last address the sum of two words is the sum of their numbers. -/
theorem toNat_add_ofNat {a : Word} {i : Nat} (h : a.toNat + i < UInt16.size) :
    (a + .ofNat i).toNat = a.toNat + i := by
  have hi : (UInt16.ofNat i).toNat = i := UInt16.toNat_ofNat_of_lt' (by omega)
  rw [UInt16.toNat_add, hi]
  exact Nat.mod_eq_of_lt h

/-- A program that fits is loaded by placing it. -/
theorem loaded_placing (m : Machine) {origin : Word} {program : List Word}
    (h : origin.toNat + program.length ≤ UInt16.size) :
    m.Loaded origin program (m.placing origin program) where
  inside i hi := by
    show (m.core.memory.place origin.toNat program).peek _ = _
    rw [Memory.peek_place, toNat_add_ofNat (by omega), if_pos (Nat.le_add_right _ _),
      Nat.add_sub_cancel_left, List.getElem?_eq_getElem hi]
    rfl
  outside a ha := by
    show (m.core.memory.place origin.toNat program).peek a = _
    rw [Memory.peek_place]
    -- an address outside lies before the origin or behind the last word
    by_cases hle : origin.toNat ≤ a.toNat
    · have hbehind : program.length ≤ a.toNat - origin.toNat := by
        refine Nat.le_of_not_lt fun hlt => ha _ hlt (UInt16.toNat_inj.1 ?_)
        have hsum : origin.toNat + (a.toNat - origin.toNat) < UInt16.size := by omega
        rw [toNat_add_ofNat hsum]
        omega
      rw [if_pos hle, List.getElem?_eq_none hbehind]
      rfl
    · rw [if_neg hle]
  general r := by
    show (Vector.replicate 8 (0 : Word))[r.val] = 0
    exact Vector.getElem_replicate _
  counter := rfl
  flag := rfl
  steps := rfl
  config := rfl
  pollFailed := rfl

end Machine

/-! ## The act of loading

Everything is checked before anything is changed. So a refusal needs no undoing,
and the system after it is the system before, keyboard and console included. -/

namespace System

open Image (wordAt origin extent body Fits)

variable {κ ω : Type} [Keyboard κ] [Console ω]

/-- The system whose machine has a program at an address, about to run. -/
def placing (s : System κ ω) (origin : Word) (program : List Word) : System κ ω :=
  { s with machine := s.machine.placing origin program }

/-- A program for which there is room is placed, and the registers are reset. -/
theorem act_load_of_room (s : System κ ω) {origin : Word} {program : List Word}
    (h : origin.toNat + program.length ≤ UInt16.size) :
    s.act (Machine.load · (origin :: program))
      = (.ok (), s.placing origin program,
          [.reported .registersReset, .reported (.programLoaded program.length origin)]) := by
  have hroom : s.machine.core.memory.load origin program
      = .ok (s.machine.core.memory.place origin.toNat program) := if_neg (by omega)
  unfold act Machine.load
  dsimp only
  rw [hroom]
  rfl

/-- A program for which there is no room is refused, with the room that there is. -/
theorem act_load_of_no_room (s : System κ ω) {origin : Word} {program : List Word}
    (h : UInt16.size < origin.toNat + program.length) :
    s.act (Machine.load · (origin :: program))
      = (.error (.tooLong origin program.length (UInt16.size - origin.toNat)), s, []) := by
  have hroom : s.machine.core.memory.load origin program
      = .error (.tooLong origin program.length (UInt16.size - origin.toNat)) :=
    if_pos (by have := origin.toNat_lt_size; omega)
  unfold act Machine.load
  dsimp only
  rw [hroom]
  rfl

/-- Loading an image is loading its words. -/
theorem act_loadImage_of_words (s : System κ ω) {image : List UInt8} {program : List Word}
    (h : Image.words image = .ok program) :
    s.act (Machine.loadImage · image) = s.act (Machine.load · program) := by
  unfold act Machine.loadImage
  rw [h]

/-- **What loading an image does:** it refuses the image and does nothing, for
the first of three reasons, or it places the program. -/
theorem act_loadImage (s : System κ ω) (image : List UInt8) :
    s.act (Machine.loadImage · image)
      = if image.length % 2 = 1 then (.error (.oddBytes image.length), s, [])
        else if image = [] then (.error .missingOrigin, s, [])
        else if UInt16.size < (origin image).toNat + extent image then
          (.error (.tooLong (origin image) (extent image)
            (UInt16.size - (origin image).toNat)), s, [])
        else
          (.ok (), s.placing (origin image) (body image),
            [.reported .registersReset,
              .reported (.programLoaded (extent image) (origin image))]) := by
  split
  next hodd =>
    have hwords : Image.words image = .error (.oddBytes image.length) := if_neg (by omega)
    unfold act Machine.loadImage
    rw [hwords]
    rfl
  next hodd =>
    have heven : image.length % 2 = 0 := by omega
    split
    next hnil =>
      rw [hnil]
      rfl
    next hne =>
      rw [s.act_loadImage_of_words (Image.words_eq_cons heven hne), ← Image.length_body]
      split
      next hlong => exact s.act_load_of_no_room hlong
      next hroom => exact s.act_load_of_room (by omega)

/-- An image that fits is loaded. -/
theorem act_loadImage_of_fits (s : System κ ω) {image : List UInt8} (h : Fits image) :
    s.act (Machine.loadImage · image)
      = (.ok (), s.placing (origin image) (body image),
          [.reported .registersReset,
            .reported (.programLoaded (extent image) (origin image))]) := by
  rw [act_loadImage, if_neg (by have := h.even; omega), if_neg h.headed,
    if_neg (by have := h.room; omega)]

/-- Only an image that fits is loaded. -/
theorem fits_of_act_loadImage {s : System κ ω} {image : List UInt8}
    (h : (s.act (Machine.loadImage · image)).1 = .ok ()) : Fits image := by
  rw [act_loadImage] at h
  split at h
  next => exact nomatch h
  next hodd =>
    split at h
    next => exact nomatch h
    next hne =>
      split at h
      next => exact nomatch h
      next hroom => exact ⟨by omega, hne, by omega⟩

/-- A loaded image can be read off the memory again. -/
theorem encode_of_loaded {image : List UInt8} (h : Fits image) {m m' : Machine}
    (hloaded : m.Loaded (origin image) (body image) m') :
    Image.encode (origin image :: (List.range (extent image)).map fun i =>
      m'.core.memory.peek (origin image + .ofNat i)) = image := by
  have hbody : (List.range (extent image)).map (fun i =>
      m'.core.memory.peek (origin image + .ofNat i)) = body image := by
    refine List.map_congr_left fun i hi => ?_
    have hlt : i < (body image).length := by
      rw [Image.length_body]
      exact List.mem_range.1 hi
    rw [hloaded.inside i hlt, Image.getElem_body]
  rw [hbody]
  exact Image.encode_of_words (Image.words_eq_cons h.even h.headed)

/-- **Loading is exact and atomic.** An image is refused if its last word is
not whole, else if there is no word, else if it does not fit between its origin
and the last address; a refusal changes nothing. An image that is not refused
is in its place, word by word, with nothing else in memory changed and the
registers and the step count reset, and from its place the image can be read
again. So a program that fits is found in memory when its encoding was loaded,
and to load the encoding of a program is to load the program. -/
theorem act_loadImage_exact (s : System κ ω) :
    (∀ image,
      let result := s.act (Machine.loadImage · image)
      result.1 = (if image.length % 2 = 1 then .error (.oddBytes image.length)
          else if image = [] then .error .missingOrigin
          else if UInt16.size < (origin image).toNat + extent image then
            .error (.tooLong (origin image) (extent image)
              (UInt16.size - (origin image).toNat))
          else .ok ())
        ∧ (result.1 ≠ .ok () → result.2.1 = s)
        ∧ (result.1 = .ok () →
          s.machine.Loaded (origin image) (body image) result.2.1.machine
            ∧ result.2.1.keyboard = s.keyboard
            ∧ result.2.1.console = s.console
            ∧ Image.encode (origin image :: (List.range (extent image)).map fun i =>
                result.2.1.machine.core.memory.peek (origin image + .ofNat i)) = image))
      ∧ (∀ (a : Word) (program : List Word), a.toNat + program.length ≤ UInt16.size →
        let result := s.act (Machine.loadImage · (Image.encode (a :: program)))
        result.1 = .ok () ∧ s.machine.Loaded a program result.2.1.machine)
      ∧ ∀ program, s.act (Machine.loadImage · (Image.encode program))
          = s.act (Machine.load · program) := by
  refine ⟨fun image => ⟨?_, ?_, ?_⟩, fun a program hroom => ?_, fun program => ?_⟩
  · rw [act_loadImage, apply_ite Prod.fst, apply_ite Prod.fst, apply_ite Prod.fst]
  · rw [act_loadImage]
    split_ifs with hodd hnil hlong
    · exact fun _ => rfl
    · exact fun _ => rfl
    · exact fun _ => rfl
    · exact fun h => absurd rfl h
  · intro hok
    -- an answer without an error means that none of the three checks refused
    have hfits := fits_of_act_loadImage hok
    have hloaded : s.machine.Loaded (origin image) (body image) _ :=
      s.machine.loaded_placing (by
        rw [Image.length_body]
        exact hfits.room)
    rw [s.act_loadImage_of_fits hfits]
    exact ⟨hloaded, rfl, rfl, encode_of_loaded hfits hloaded⟩
  · intro result
    have hresult : result = _ := (s.act_loadImage_of_words (Image.words_encode _)).trans
      (s.act_load_of_room hroom)
    rw [hresult]
    exact ⟨rfl, s.machine.loaded_placing hroom⟩
  · exact s.act_loadImage_of_words (Image.words_encode program)

/-- One word goes to the last address, and a second is refused. -/
theorem act_loadImage_lastAddress :
    let s : System Scripted Collector := ⟨.initial, ⟨[], none, false⟩, {}⟩
    let result := s.act (Machine.loadImage · [0xFF, 0xFF, 0xF0, 0x25])
    let refused := s.act (Machine.loadImage · [0xFF, 0xFF, 0xF0, 0x25, 0x00, 0x00])
    (result.1 = .ok () ∧ s.machine.Loaded 0xFFFF [0xF025] result.2.1.machine)
      ∧ refused.1 = .error (.tooLong 0xFFFF 2 1) ∧ refused.2.1 = s := by
  intro s result refused
  obtain ⟨himages, hencoded, -⟩ := s.act_loadImage_exact
  obtain ⟨hanswer, hkept, -⟩ := himages [0xFF, 0xFF, 0xF0, 0x25, 0x00, 0x00]
  have hrefused : refused.1 = .error (.tooLong 0xFFFF 2 1) := hanswer
  refine ⟨hencoded 0xFFFF [0xF025] (by decide), hrefused, hkept ?_⟩
  rw [hrefused]
  exact nofun

end System

end LC3
