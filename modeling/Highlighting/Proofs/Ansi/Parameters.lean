import Highlighting.Palette
import Highlighting.Proofs.Ansi.Insertion
import Highlighting.Proofs.Ansi.Rendition
import Highlighting.Text.Number

/-!
# Renditions of a few digits

A sequence that selects the rendition has parameters between semicolons, each a row of digits. How
many digits there may be is not the concern of those who put such sequences into a text, but it is
that of a decoder, which reads a parameter as a number. Parameters of four digits at most are read
by every decoder there is here. A text that such sequences were put into is spelled out character by
character and sequence by sequence, and a decoder works its way through it in the same steps.

## Main definitions

* `Ansi.Brief`, `Ansi.IsBriefRendition` -- a parameter of a few digits, and a sequence of them.
* `Ansi.SelectsBriefly` -- such sequences in a row.
* `Ansi.Painted` -- a text with such sequences put between its characters.
-/
namespace Highlighting

namespace Ansi

/-! ## Brief parameters -/

/-- The parameter has four digits at most. There may be none. -/
structure Brief (p : Text) : Prop where
  length_le : p.length ≤ 4
  isDigit : ∀ c ∈ p, c.isDigit = true

theorem isDecimal_of_isDigit {c : Char} (h : c.isDigit = true) : Unicode.isDecimal c = true := by
  have hbounds : 48 ≤ c.toNat ∧ c.toNat ≤ 57 := Char.isDigit_iff_toNat.mp h
  rw [Unicode.isDecimal, if_pos (show c.toNat < 128 by omega), h]

/-- **A brief parameter is read**, unless it has no digits at all. -/
theorem Brief.readNumber_eq {p : Text} (h : Brief p) (hne : p ≠ []) :
    readNumber p = .ok (decimalOf p) := by
  have hall : p.takeWhile Unicode.isDecimal = p :=
    List.takeWhile_eq_self_iff.mpr fun c hc => isDecimal_of_isDigit (h.isDigit c hc)
  have hlength := h.length_le
  have hlimit : ¬ digitLimit < p.length := by
    rw [digitLimit]
    omega
  simp [readNumber, hall, hlimit, hne]

/-- Parameters with semicolons between them. -/
def joinParameters (ps : List Text) : Text :=
  [';'].intercalate ps

theorem joinParameters_singleton (p : Text) : joinParameters [p] = p := by
  simp [joinParameters]

theorem joinParameters_cons (p q : Text) (ps : List Text) :
    joinParameters (p :: q :: ps) = p ++ ';' :: joinParameters (q :: ps) := by
  simp [joinParameters, List.intercalate_cons_cons]

/-- The characters of joined parameters. -/
theorem isDigit_or_of_mem_joinParameters {ps : List Text} (hbrief : ∀ p ∈ ps, Brief p) {c : Char}
    (hc : c ∈ joinParameters ps) : c.isDigit = true ∨ c = ';' := by
  induction ps with
  | nil => simp [joinParameters] at hc
  | cons p ps ih =>
    have hp := hbrief p List.mem_cons_self
    cases ps with
    | nil =>
      rw [joinParameters_singleton] at hc
      exact .inl (hp.isDigit c hc)
    | cons q ps =>
      rw [joinParameters_cons, List.mem_append, List.mem_cons] at hc
      rcases hc with hc | hc | hc
      · exact .inl (hp.isDigit c hc)
      · exact .inr hc
      · exact ih (fun p hp => hbrief p (List.mem_cons_of_mem _ hp)) hc

/-- Joined parameters are told apart again. -/
theorem splitOn_joinParameters {ps : List Text} (hne : ps ≠ []) (hbrief : ∀ p ∈ ps, Brief p) :
    (joinParameters ps).splitOn ';' = ps :=
  List.splitOn_intercalate ';'
    (fun p hp hmem => absurd ((hbrief p hp).isDigit ';' hmem) (by decide)) hne

/-- A sequence and what stands behind it, character by character up to the parameters. -/
theorem formatEscape_append (parameters rest : Text) :
    formatEscape parameters ++ rest = esc :: '[' :: (parameters ++ 'm' :: rest) := by
  simp [formatEscape]

/-- The sequence selects the rendition by brief parameters. -/
def IsBriefRendition (s : Text) : Prop :=
  ∃ ps : List Text, ps ≠ [] ∧ (∀ p ∈ ps, Brief p) ∧ s = formatEscape (joinParameters ps)

theorem IsBriefRendition.isRendition {s : Text} (h : IsBriefRendition s) :
    isRendition s = true := by
  obtain ⟨ps, -, hbrief, rfl⟩ := h
  exact isRendition_iff.mpr
    ⟨joinParameters ps, rfl, fun c hc => isDigit_or_of_mem_joinParameters hbrief hc⟩

/-- Its characters are not below the one that it begins with. -/
theorem IsBriefRendition.toNat_esc_le {s : Text} (h : IsBriefRendition s) {c : Char} (hc : c ∈ s) :
    esc.toNat ≤ c.toNat := by
  obtain ⟨ps, -, hbrief, rfl⟩ := h
  simp only [formatEscape, List.cons_append, List.nil_append, List.mem_cons, List.mem_append,
    List.not_mem_nil, or_false] at hc
  rcases hc with rfl | rfl | hc | rfl
  · exact Nat.le_refl _
  · decide
  · rcases isDigit_or_of_mem_joinParameters hbrief hc with hdigit | rfl
    · exact Nat.le_trans (by decide : esc.toNat ≤ 48) (Char.isDigit_iff_toNat.mp hdigit).1
    · decide
  · decide

/-- What stands between separators is part of the text and holds none. -/
theorem mem_of_mem_splitOn {sep : Char} {t p : Text} (hp : p ∈ t.splitOn sep) {c : Char}
    (hc : c ∈ p) : c ∈ t ∧ c ≠ sep := by
  induction t generalizing p with
  | nil =>
    rw [List.splitOn_nil, List.mem_singleton] at hp
    simp [hp] at hc
  | cons d t ih =>
    rw [List.splitOn_cons_eq_if_modifyHead] at hp
    by_cases hd : d = sep
    · rw [if_pos (by simpa using hd), List.mem_cons] at hp
      rcases hp with rfl | hp
      · simp at hc
      · exact (ih hp hc).imp_left (List.mem_cons_of_mem d)
    · rw [if_neg (by simpa using hd)] at hp
      cases hsplit : t.splitOn sep with
      | nil => exact absurd hsplit (List.splitOn_ne_nil _ _)
      | cons q qs =>
        simp only [hsplit, List.modifyHead_cons, List.mem_cons] at hp ih
        rcases hp with rfl | hp
        · rcases List.mem_cons.mp hc with rfl | hc
          · exact ⟨List.mem_cons_self, hd⟩
          · exact (ih (.inl rfl) hc).imp_left (List.mem_cons_of_mem d)
        · exact (ih (.inr hp) hc).imp_left (List.mem_cons_of_mem d)

/-- A sequence selects the rendition by brief parameters if it selects it at all, and nothing that
stands between semicolons is too long. -/
theorem isBriefRendition_iff {s : Text} : IsBriefRendition s ↔ isRendition s = true ∧
    ∀ p ∈ ((s.drop 2).dropLast).splitOn ';', p.length ≤ 4 := by
  constructor
  · intro h
    refine ⟨h.isRendition, ?_⟩
    obtain ⟨ps, hne, hbrief, rfl⟩ := h
    have hbody : ((formatEscape (joinParameters ps)).drop 2).dropLast = joinParameters ps := by
      simp [formatEscape]
    rw [hbody, splitOn_joinParameters hne hbrief]
    exact fun p hp => (hbrief p hp).length_le
  · rintro ⟨hselects, hlength⟩
    obtain ⟨parameters, rfl, hdigits⟩ := isRendition_iff.mp hselects
    have hbody : ((esc :: '[' :: (parameters ++ ['m'])).drop 2).dropLast = parameters := by simp
    rw [hbody] at hlength
    refine ⟨parameters.splitOn ';', List.splitOn_ne_nil _ _, fun p hp => ⟨hlength p hp, ?_⟩, ?_⟩
    · intro c hc
      have hmem := mem_of_mem_splitOn hp hc
      exact (hdigits c hmem.1).resolve_right hmem.2
    · rw [joinParameters, List.intercalate_splitOn]
      rfl

instance (s : Text) : Decidable (IsBriefRendition s) := decidable_of_iff _ isBriefRendition_iff.symm

/-! ## Brief renditions in a row -/

/-- The text is made of sequences in a row that each select the rendition by brief parameters. -/
def SelectsBriefly (t : Text) : Prop :=
  ∃ ss : List Text, (∀ s ∈ ss, IsBriefRendition s) ∧ t = ss.flatten

theorem SelectsBriefly.nil : SelectsBriefly [] :=
  ⟨[], by simp, rfl⟩

theorem IsBriefRendition.selectsBriefly {s : Text} (h : IsBriefRendition s) : SelectsBriefly s :=
  ⟨[s], by simpa using h, by simp⟩

/-! ## Painted texts -/

/-- The text `out` is `t` with brief renditions put between its characters. -/
inductive Painted : (t out : Text) → Prop where
  | nil : Painted [] []
  | plain {t out : Text} (c : Char) (h : Painted t out) : Painted (c :: t) (c :: out)
  | rendition {t out s : Text} (hs : IsBriefRendition s) (h : Painted t out) :
      Painted t (s ++ out)

namespace Painted
variable {t out : Text}

/-- Nothing need be put in. -/
theorem refl (t : Text) : Painted t t := by
  induction t with
  | nil => exact .nil
  | cons c t ih => exact .plain c ih

/-- A painted text behind another. -/
theorem append {t' out' : Text} (h : Painted t out) (h' : Painted t' out') :
    Painted (t ++ t') (out ++ out') := by
  induction h with
  | nil => exact h'
  | plain c _ ih => exact .plain c ih
  | @rendition t out s hs _ ih =>
    rw [List.append_assoc]
    exact .rendition hs ih

/-- Renditions in a row may be put before a text. -/
theorem put {s : Text} (hs : SelectsBriefly s) (h : Painted t out) : Painted t (s ++ out) := by
  obtain ⟨ss, hss, rfl⟩ := hs
  induction ss with
  | nil => exact h
  | cons s ss ih =>
    have hrest := ih fun s' hs' => hss s' (List.mem_cons_of_mem s hs')
    rw [List.flatten_cons, List.append_assoc]
    exact .rendition (hss s List.mem_cons_self) hrest

/-- **A text without sequences is painted by patches that select renditions briefly.** -/
theorem of_patched {allowed : Text → Prop} (hfree : Free t) (h : Patched allowed t out)
    (hallowed : ∀ s, allowed s → SelectsBriefly s) : Painted t out := by
  obtain ⟨ps, rfl, horiginal, hput⟩ := h
  rw [hfree.lexemes_eq] at horiginal
  clear hfree
  induction ps generalizing t with
  | nil =>
    cases t with
    | nil => exact .nil
    | cons c t => cases horiginal
  | cons p ps ih =>
    have hrest (s : Text) (hs : .put s ∈ ps) : allowed s := hput s (List.mem_cons_of_mem p hs)
    cases p with
    | put s => exact (ih horiginal hrest).put (hallowed s (hput s List.mem_cons_self))
    | kept l =>
      cases t with
      | nil => cases horiginal
      | cons c t =>
        obtain ⟨rfl, htail⟩ := List.cons.inj (show l :: Patch.original ps = _ from horiginal)
        exact .plain c (ih htail hrest)

/-- What holds of the characters of a text, and of those of brief renditions, holds of all
characters of a painted text. -/
theorem forall_mem {P : Char → Prop} (h : Painted t out) (ht : ∀ c ∈ t, P c)
    (hs : ∀ s, IsBriefRendition s → ∀ c ∈ s, P c) : ∀ c ∈ out, P c := by
  induction h with
  | nil => exact ht
  | plain c _ ih =>
    rw [List.forall_mem_cons] at ht ⊢
    exact ⟨ht.1, ih ht.2⟩
  | rendition hrendition _ ih =>
    intro c hc
    rcases List.mem_append.mp hc with hc | hc
    · exact hs _ hrendition c hc
    · exact ih ht c hc

end Painted

end Ansi

end Highlighting
