import Highlighting.Ansi.Fragment
import Highlighting.Proofs.Ansi.Parameters
import Highlighting.Proofs.Result

/-!
# Painted lines at a prompt

A prompt shows a line by way of a decoder. All that is asked of the decoder is that it is faithful:
it takes every brief rendition in without showing anything of it, and shows every other character
once, save for those that start a sequence or a fragment of no width themselves. Then a painted line
is shown as the line that it was, by induction on what it is made of.

The decoder that there is here is one of these. It reads a line character by character. What it
reads in a sequence are its parameters, one after the other, and all of them are numbers. They
change the style of the fragments to come, and what these show does not depend on it.

## Main definitions

* `Fragment.IsOrdinary` -- a character that is a fragment of its own.
* `Fragment.Faithful` -- what is asked of a decoder.

## Main statements

* `Fragment.Faithful.shown_painted` -- a painted line is shown as the line that it was.
* `Fragment.faithful_decoder` -- a faithful decoder.
-/
namespace Highlighting.Fragment

open Ansi

/-- The character is a fragment of its own: it starts no sequence and no fragment of no width. -/
structure IsOrdinary (c : Char) : Prop where
  not_zeroWidth : c.toNat ≠ 1
  not_escape : c.toNat ≠ 27
  not_control : c.toNat ≠ 0x9b

instance (c : Char) : Decidable (IsOrdinary c) :=
  decidable_of_iff (c.toNat ≠ 1 ∧ c.toNat ≠ 27 ∧ c.toNat ≠ 0x9b)
    ⟨fun h => ⟨h.1, h.2.1, h.2.2⟩, fun h => ⟨h.1, h.2, h.3⟩⟩

/-! ## Faithful decoders -/

/-- The characters that a decoder shows of a line, if it can be shown. -/
def shown {ε : Type} (decode : Text → Except ε (List Fragment)) (line : Text) : Except ε Text :=
  (decode line).map (·.flatMap Fragment.text)

/-- What is asked of a decoder: it takes a brief rendition in and shows nothing of it, and it shows
an ordinary character once, in front of what it shows of the rest of the line. -/
structure Faithful (decode : Decoder) : Prop where
  nil : shown decode [] = .ok []
  ordinary : ∀ {c : Char} (rest : Text), IsOrdinary c →
    shown decode (c :: rest) = (shown decode rest).map (c :: ·)
  rendition : ∀ {s : Text} (rest : Text), IsBriefRendition s →
    shown decode (s ++ rest) = shown decode rest

/-- **A painted line is shown as the line that it was**, whatever faithful decoder shows it. -/
theorem Faithful.shown_painted {decode : Decoder} (h : Faithful decode) {t out : Text}
    (hpainted : Painted t out) (ht : ∀ c ∈ t, IsOrdinary c) : shown decode out = .ok t := by
  induction hpainted with
  | nil => exact h.nil
  | plain c _ ih =>
    rw [List.forall_mem_cons] at ht
    rw [h.ordinary _ ht.1, ih ht.2]
    rfl
  | rendition hs _ ih =>
    rw [h.rendition _ hs]
    exact ih ht

/-! ## Reading a line character by character -/

theorem map_before (out : List Fragment) (rest : Except NumberFault (List Fragment)) :
    (before out rest).map (·.flatMap Fragment.text) =
      (rest.map (·.flatMap Fragment.text)).map (out.flatMap Fragment.text ++ ·) := by
  cases rest with
  | error e => rfl
  | ok fragments => simp [before, Except.map]

/-- The style in force does not matter to where the decoder is next and to what it shows. -/
theorem plainStep_congr (style style' : String) (c : Char) :
    (plainStep style c).1 = (plainStep style' c).1 ∧
      (plainStep style c).2.flatMap Fragment.text =
        (plainStep style' c).2.flatMap Fragment.text := by
  unfold plainStep
  split
  · exact ⟨rfl, rfl⟩
  split <;> exact ⟨rfl, rfl⟩

/-- **What is shown does not depend on the style in force.** -/
theorem shown_decode_congr (r r' : Rendition) (mode : Mode) (t : Text) :
    shown (decode mode r) t = shown (decode mode r') t := by
  unfold shown
  induction t generalizing mode r r' with
  | nil => simp [decode]
  | cons c t ih =>
    have hplain : (before (plainStep r.words c).2 (decode (plainStep r.words c).1 r t)).map
          (·.flatMap Fragment.text) =
        (before (plainStep r'.words c).2 (decode (plainStep r'.words c).1 r' t)).map
          (·.flatMap Fragment.text) := by
      obtain ⟨hmode, hout⟩ := plainStep_congr r.words r'.words c
      rw [map_before, map_before, hmode, hout, ih r r']
    cases mode with
    | text =>
      simp only [decode]
      split
      · exact ih r r' _
      · exact hplain
    | afterZeroWidth => exact hplain
    | zeroWidth read =>
      simp only [decode]
      split
      · rw [map_before, map_before, ih r r']
      · exact ih r r' _
    | escape =>
      simp only [decode]
      split
      · exact ih r r' _
      · exact ih r r' _
    | control digits parameters =>
      simp only [decode]
      split
      · exact ih r r' _
      cases parameterOf digits with
      | error e => rfl
      | ok n =>
        dsimp only
        split
        · exact ih r r' _
        split
        · exact ih _ _ _
        split
        · rw [map_before, map_before, ih r r', List.flatMap_replicate, List.flatMap_replicate]
        · exact ih r r' _

/-! ## Reading renditions -/

@[simp] theorem before_nil (rest : Except NumberFault (List Fragment)) : before [] rest = rest := by
  cases rest <;> rfl

/-- The parameter that brief digits stand for. -/
def parameter (p : Text) : Nat :=
  min (decimalOf p) maxParameter

theorem parameterOf_reverse {p : Text} (h : Brief p) :
    parameterOf p.reverse = .ok (parameter p) := by
  by_cases hnil : p = []
  · subst hnil
    rfl
  · rw [parameterOf, if_neg (by simpa using hnil), List.reverse_reverse, h.readNumber_eq hnil]
    rfl

section Steps
variable (r : Rendition) (rest : Text)

/-- A character that is a fragment of its own is shown in the style in force. -/
theorem decode_plain {c : Char} (hc : IsOrdinary c) :
    decode .text r (c :: rest) = before [⟨r.words, [c]⟩] (decode .text r rest) := by
  simp [decode, plainStep, hc.not_zeroWidth, hc.not_escape, hc.not_control]

/-- A sequence begins with an escape character and a bracket. -/
theorem decode_opening : decode .text r (esc :: '[' :: rest) = decode (.control [] []) r rest := by
  have hescape : esc.toNat = 27 := rfl
  simp [decode, plainStep, hescape]

/-- Digits belong to the parameter that is read. -/
theorem decode_digits {p : Text} (hp : ∀ c ∈ p, c.isDigit = true) (digits : Text)
    (parameters : List Nat) : decode (.control digits parameters) r (p ++ rest) =
      decode (.control (p.reverse ++ digits) parameters) r rest := by
  induction p generalizing digits with
  | nil => rfl
  | cons c p ih =>
    have hc : Unicode.isDigit c = true := by
      rw [Unicode.isDigit, isDecimal_of_isDigit (hp c List.mem_cons_self), Bool.true_or]
    rw [List.cons_append, decode]
    simp only [hc, if_true]
    rw [ih fun d hd => hp d (List.mem_cons_of_mem c hd), List.reverse_cons, List.append_assoc]
    rfl

/-- A semicolon ends a parameter. -/
theorem decode_semicolon {p : Text} (hp : Brief p) (parameters : List Nat) :
    decode (.control p.reverse parameters) r (';' :: rest) =
      decode (.control [] (parameter p :: parameters)) r rest := by
  have hdigit : Unicode.isDigit ';' = false := by decide
  simp [decode, hdigit, parameterOf_reverse hp]

/-- The final character ends the last parameter, and all of them together change the style. -/
theorem decode_final {p : Text} (hp : Brief p) (parameters : List Nat) :
    decode (.control p.reverse parameters) r ('m' :: rest) =
      decode .text (r.applyCodes (parameter p :: parameters).reverse) rest := by
  have hdigit : Unicode.isDigit 'm' = false := by decide
  simp [decode, hdigit, parameterOf_reverse hp]

/-- **The parameters of a sequence are read**, up to its final character. -/
theorem decode_parameters {ps : List Text} (hne : ps ≠ []) (hbrief : ∀ p ∈ ps, Brief p)
    (parameters : List Nat) :
    decode (.control [] parameters) r (joinParameters ps ++ 'm' :: rest) =
      decode .text (r.applyCodes (parameters.reverse ++ ps.map parameter)) rest := by
  induction ps generalizing parameters with
  | nil => exact absurd rfl hne
  | cons p ps ih =>
    have hp := hbrief p List.mem_cons_self
    cases ps with
    | nil =>
      rw [joinParameters_singleton, decode_digits r _ hp.isDigit, List.append_nil,
        decode_final r rest hp, List.reverse_cons, List.map_singleton]
    | cons q ps =>
      have hrest := ih (List.cons_ne_nil q ps) fun p hp => hbrief p (List.mem_cons_of_mem _ hp)
      rw [joinParameters_cons, List.append_assoc, List.cons_append,
        decode_digits r _ hp.isDigit, List.append_nil, decode_semicolon r _ hp, hrest,
        List.reverse_cons, List.append_assoc, List.singleton_append, ← List.map_cons]

/-- A brief rendition changes the style and is not shown. -/
theorem decode_rendition {s : Text} (hs : IsBriefRendition s) :
    ∃ codes, decode .text r (s ++ rest) = decode .text (r.applyCodes codes) rest := by
  obtain ⟨ps, hne, hbrief, rfl⟩ := hs
  refine ⟨ps.map parameter, ?_⟩
  rw [formatEscape_append, decode_opening, decode_parameters r rest hne hbrief, List.reverse_nil,
    List.nil_append]

end Steps

/-- **The decoder is faithful.** -/
theorem faithful_decoder : Faithful decoder := by
  have hshown (line : Text) : shown decoder line =
      (shown (decode .text .plain) line).mapError .number := by
    rw [shown, shown, decoder, ofLine]
    cases decode .text .plain line <;> rfl
  refine ⟨rfl, fun rest hc => ?_, fun rest hs => ?_⟩
  · rw [hshown, hshown, shown, decode_plain _ _ hc, map_before, ← shown]
    cases shown (decode .text .plain) rest <;> rfl
  · obtain ⟨codes, hstep⟩ := decode_rendition .plain rest hs
    rw [hshown, hshown, shown, hstep, ← shown, shown_decode_congr _ .plain]

end Highlighting.Fragment
