import Highlighting.Proofs.Regex.Lexing
import Highlighting.Proofs.Result

/-!
# How constructs are written

A construct that opens a group begins with a bracket, and more is known of a look-behind and of
flags for the whole pattern. A construct that cannot be read is at fault at some place of the
pattern. There is one exception: the bounds of a quantifier in braces are numbers, and a number is
not read if it has too many digits, or if it is too large.

For each part of the reader it is told at once what it gives and that it fails with a fault only.

## Main definitions

* `Gives` -- what a reading gives has a property, and a failure of it is a fault of the pattern.
* `Construct.Begins` -- a text begins with what a construct is written with.
* `IsBound` -- digits are a bound of a quantifier in braces.
* `TooLarge` -- what is wrong with digits as a number.

## Main statements

* `Construct.begins_of_read` -- a construct that is read is written so.
* `Construct.read_eq_error` -- a construct that cannot be read is at fault, or a bound is too large.
-/
namespace Highlighting

/-- What a reading gives has a property, and if it fails, it does so with a fault of the pattern. -/
def Gives {α : Type} (P : α → Prop) : Reading α → Prop
  | .ok a => P a
  | .error e => ∃ f, e = .fault f

/-- A reading that fails does so with a fault of the pattern. -/
abbrev Faulty {α : Type} (x : Reading α) : Prop := Gives (fun _ => True) x

theorem faultBefore_eq_fault (rest : Text) (offset : Nat) (what : Malformed) :
    ∃ f, faultBefore rest offset what = .fault f := by
  unfold faultBefore
  split <;> exact ⟨_, rfl⟩

namespace Gives
variable {α β : Type} {P Q : α → Prop} {R : β → Prop}

theorem ok {a : α} (h : P a) : Gives P (.ok a) := h

theorem error {rest : Text} {offset : Nat} {what : Malformed} :
    Gives P (.error (faultBefore rest offset what)) :=
  faultBefore_eq_fault rest offset what

theorem mono {x : Reading α} (hx : Gives P x) (h : ∀ a, P a → Q a) : Gives Q x := by
  cases x with
  | error e => exact hx
  | ok a => exact h a hx

/-- One reading after another. -/
theorem bind {x : Reading α} {f : α → Reading β} (hx : Gives P x) (hf : ∀ a, P a → Gives R (f a)) :
    Gives R (x >>= f) := by
  cases x with
  | error e => exact hx
  | ok a => exact hf a hx

/-- What is read is worked up. -/
theorem map {x : Reading α} {f : α → β} (hx : Gives P x) (hf : ∀ a, P a → R (f a)) :
    Gives R (x.map f) := by
  cases x with
  | error e => exact hx
  | ok a => exact hf a hx

theorem ite {p : Prop} [Decidable p] {x y : Reading α} (hx : p → Gives P x) (hy : ¬ p → Gives P y) :
    Gives P (if p then x else y) := by
  by_cases hp : p
  · rw [if_pos hp]
    exact hx hp
  · rw [if_neg hp]
    exact hy hp

theorem of_eq_ok {x : Reading α} {a : α} (h : Gives P x) (hx : x = .ok a) : P a := by
  subst hx
  exact h

theorem of_eq_error {x : Reading α} {e : CompileError} (h : Gives P x) (hx : x = .error e) :
    ∃ f, e = .fault f := by
  subst hx
  exact h

end Gives

/-! ## Names and escapes -/

theorem faulty_readName (closing : Char) (what : String) (t : Text) :
    Faulty (readName closing what t) := by
  unfold readName
  split
  · exact .ite (fun _ => .error) fun _ => .ok trivial
  · exact .ite (fun _ => .error) fun _ => .error

theorem faulty_readGroupName (closing : Char) (t : Text) : Faulty (readGroupName closing t) :=
  (faulty_readName closing _ t).bind fun _ _ => .ite (fun _ => .ok trivial) fun _ => .error

theorem faulty_readHexEscape (letter : Char) (count : Nat) (t : Text) :
    Faulty (readHexEscape letter count t) :=
  .ite (fun _ => .error) fun _ => .ite (fun _ => .error) fun _ => .ok trivial

theorem faulty_readNamedEscape (t : Text) : Faulty (readNamedEscape t) := by
  unfold readNamedEscape
  split
  · refine (faulty_readName _ _ _).bind fun (name, rest) _ => ?_
    dsimp only
    split
    · exact .ok trivial
    · exact .error
  · exact .error

theorem faulty_octalValue (digits rest : Text) : Faulty (octalValue digits rest) :=
  .ite (fun _ => .error) fun _ => .ok trivial

theorem faulty_readOtherEscape (c : Char) (rest : Text) : Faulty (readOtherEscape c rest) :=
  .ite (fun _ => .error) fun _ => .ok trivial

theorem faulty_readClassEscape (c : Char) (rest : Text) : Faulty (readClassEscape c rest) := by
  unfold readClassEscape
  cases controlEscape? c with
  | some n => exact .ok trivial
  | none =>
    cases categoryEscape? c with
    | some item => exact .ok trivial
    | none =>
      cases hexEscapeLength? c with
      | some count => exact (faulty_readHexEscape c count rest).bind fun _ _ => .ok trivial
      | none =>
        refine .ite (fun _ => ?_) fun _ => .ite (fun _ => ?_) fun _ => ?_
        · exact (faulty_readNamedEscape rest).bind fun _ _ => .ok trivial
        · exact (faulty_octalValue _ _).bind fun _ _ => .ok trivial
        · exact (faulty_readOtherEscape c rest).bind fun _ _ => .ok trivial

/-! ## Character classes -/

theorem faulty_readMember (tok : Token) (rest : Text) : Faulty (readMember tok rest) := by
  cases tok with
  | escaped c => exact faulty_readClassEscape c rest
  | plain c => exact .ok trivial

theorem faulty_readAfterMember {again : List ClassItem → Lexer (List ClassItem)}
    (hagain : ∀ items t, Faulty (again items t)) (opened : Nat) (first : Token) (item : ClassItem)
    (items : List ClassItem) (rest : Text) :
    Faulty (readAfterMember opened first item items again rest) := by
  unfold readAfterMember
  split
  · split
    · exact .error
    · next last rest' _ =>
      refine .ite (fun _ => .ok trivial) fun _ => (faulty_readMember last rest').bind fun p _ => ?_
      split
      · exact .ite (fun _ => .error) fun _ => hagain _ _
      · exact .error
  · exact hagain _ _

theorem faulty_readMembers (opened fuel : Nat) (items : List ClassItem) (t : Text) :
    Faulty (readMembers opened fuel items t) := by
  induction fuel generalizing items t with
  | zero => exact .error
  | succ fuel ih =>
    cases htok : nextToken t with
    | none =>
      rw [readMembers, htok]
      exact .error
    | some p =>
      rw [readMembers_succ opened fuel items htok]
      exact .ite (fun _ => .ok trivial) fun _ => (faulty_readMember _ _).bind fun p _ =>
        faulty_readAfterMember ih opened _ p.1 items p.2

theorem faulty_readSet (t : Text) : Faulty (readSet t) :=
  (faulty_readMembers _ _ _ _).bind fun _ _ => .ok trivial

/-! ## Constructs -/

namespace Construct

/-- A text begins with what a construct is written with that opens a group or sets flags for the
whole pattern. -/
def Begins (t : Text) : Construct → Prop
  | opening (.behind negated) => ['(', '?', '<', if negated then '!' else '='] <+: t
  | opening _ => ['('] <+: t
  | globalModes on => ∃ letters, '(' :: '?' :: letters ++ [')'] <+: t ∧
      letters.all (fun c => (InlineFlag.ofChar? c).isSome) = true ∧
      ∀ f ∈ on, ∃ c ∈ letters, InlineFlag.ofChar? c = some f
  | _ => True

theorem Begins.bracket {t : Text} {o : Opening} (h : (opening o).Begins t) : ['('] <+: t := by
  cases o with
  | behind negated => exact List.IsPrefix.trans (by simp) h
  | _ => exact h

/-- The construct neither opens a group nor sets flags for the whole pattern. -/
def IsPlain : Construct → Prop
  | opening _ => False
  | globalModes _ => False
  | _ => True

theorem IsPlain.begins {c : Construct} (h : c.IsPlain) (t : Text) : c.Begins t := by
  cases c with
  | opening o => cases h
  | globalModes on => cases h
  | _ => trivial

end Construct

theorem gives_readDigitEscape (c : Char) (t : Text) :
    Gives (fun p => p.1.IsPlain) (readDigitEscape c t) := by
  rcases t with _ | ⟨d, _ | ⟨e, after⟩⟩
  · exact .ok trivial
  · exact .ite (fun _ => .ok trivial) fun _ => .ok trivial
  · refine .ite (fun _ => (faulty_octalValue _ _).bind fun _ _ => .ok trivial) fun _ => ?_
    exact .ite (fun _ => .ok trivial) fun _ => .ok trivial

theorem gives_readEscape (c : Char) (rest : Text) :
    Gives (fun p => p.1.IsPlain) (readEscape c rest) := by
  unfold readEscape
  cases categoryEscape? c with
  | some item => exact .ok trivial
  | none =>
    dsimp only
    split
    · exact .ok trivial
    · exact .ok trivial
    · exact .ok trivial
    · exact .ok trivial
    · cases controlEscape? c with
      | some n => exact .ok trivial
      | none =>
        cases hexEscapeLength? c with
        | some count => exact (faulty_readHexEscape c count rest).bind fun _ _ => .ok trivial
        | none =>
          refine .ite (fun _ => ?_) fun _ => .ite (fun _ => .ok trivial) fun _ =>
            .ite (fun _ => ?_) fun _ => ?_
          · exact (faulty_readNamedEscape rest).bind fun _ _ => .ok trivial
          · have hdigit := gives_readDigitEscape c rest
            rcases rest with _ | ⟨d, _ | ⟨e, after⟩⟩ <;> exact hdigit
          · exact (faulty_readOtherEscape c rest).bind fun _ _ => .ok trivial

theorem faulty_readFlagsOff (fuel : Nat) (on off : List InlineFlag) (tok : Token) (rest : Text) :
    Faulty (readFlagsOff fuel on off tok rest) := by
  induction fuel generalizing off tok rest with
  | zero => exact .error
  | succ fuel ih =>
    unfold readFlagsOff
    split
    · exact .error
    · split
      · exact .error
      · refine .ite (fun _ => .error) fun _ => ?_
        split
        · exact .error
        · exact .ite (fun _ => .error) fun _ => .ite (fun _ => .error) fun _ => .ok trivial
        · exact ih _ _ _

/-- Flags are those that were read before and those of the letters up to the bracket or colon. -/
theorem gives_readFlags (fuel : Nat) (on : List InlineFlag) (c : Char) (rest : Text) :
    Gives (fun p => (∃ on off, p.1 = .opening (.modes on off)) ∨ ∃ on' letters,
        p.1 = .globalModes on' ∧ letters ++ [')'] <+: c :: rest ∧
        letters.all (fun d => (InlineFlag.ofChar? d).isSome) = true ∧
        ∀ f ∈ on', f ∈ on ∨ ∃ d ∈ letters, InlineFlag.ofChar? d = some f)
      (readFlags fuel on c rest) := by
  induction fuel generalizing on c rest with
  | zero => exact .error
  | succ fuel ih =>
    unfold readFlags
    refine .ite (fun _ => .ite (fun _ => .error) fun _ => ?_) fun _ => .ite (fun hclose => ?_)
      fun _ => .ite (fun _ => .ite (fun _ => .error) fun _ => .ok (.inl ⟨_, _, rfl⟩)) fun _ => ?_
    · split
      · exact .error
      · exact (faulty_readFlagsOff _ _ _ _ _).bind fun _ _ => .ok (.inl ⟨_, _, rfl⟩)
    · exact .ok (.inr ⟨on, [], rfl, by simp [hclose], rfl, fun f hf => .inl hf⟩)
    · split
      · exact .error
      · next f hf =>
        refine .ite (fun _ => .error) fun _ => .ite (fun _ => .error) fun _ => ?_
        split
        · exact .error
        · exact .error
        · next d rest' htok =>
          refine (ih (f :: on) d rest').mono fun p hp => hp.imp_right ?_
          rintro ⟨on', letters, hp, hprefix, hflags, hletters⟩
          obtain rfl : rest = d :: rest' := (nextToken_eq_some_iff.mp htok).1
          refine ⟨on', c :: letters, hp, (List.prefix_cons_inj c).mpr hprefix,
            by simp only [List.all_cons, hf, Option.isSome_some, hflags, Bool.and_self],
            fun g hg => ?_⟩
          rcases hletters g hg with hg | ⟨e, he, hg⟩
          · rcases List.mem_cons.mp hg with rfl | hg
            · exact .inr ⟨c, List.mem_cons_self, hf⟩
            · exact .inl hg
          · exact .inr ⟨e, List.mem_cons_of_mem c he, hg⟩

theorem faulty_readReference (t : Text) : Faulty (readReference t) := by
  refine (faulty_readName _ _ t).bind fun (name, rest) _ => .ite (fun _ => .ok trivial) fun _ => ?_
  split
  · exact .error
  · exact .error
  · exact .ok trivial

theorem gives_readNamedExtension (t : Text) : Gives
    (fun p => (∃ name, p.1 = .opening (.named name)) ∨ p.1.IsPlain) (readNamedExtension t) := by
  unfold readNamedExtension
  split
  · exact (faulty_readGroupName _ _).bind fun _ _ => .ok (.inl ⟨_, rfl⟩)
  · exact (faulty_readGroupName _ _).bind fun _ _ => .ok (.inr trivial)
  · split <;> exact .error

theorem gives_readLookbehind (t : Text) : Gives
    (fun p => ∃ negated rest, p.1 = .opening (.behind negated) ∧
      t = (if negated then '!' else '=') :: rest) (readLookbehind t) := by
  unfold readLookbehind
  split
  · exact .error
  · next htok => exact .ok ⟨false, _, rfl, (nextToken_eq_some_iff.mp htok).1⟩
  · next htok => exact .ok ⟨true, _, rfl, (nextToken_eq_some_iff.mp htok).1⟩
  · exact .error

theorem gives_readComment (opened : Nat) (t : Text) :
    Gives (fun p => p.1.IsPlain) (readComment opened t) := by
  unfold readComment
  split
  · exact .ok trivial
  · exact .error

theorem gives_readAfterSign (opened : Nat) (c : Char) (rest : Text) :
    Gives (fun p => p.1.Begins ('(' :: '?' :: c :: rest)) (readAfterSign opened c rest) := by
  have hbracket : ['('] <+: '(' :: '?' :: c :: rest := by simp
  unfold readAfterSign
  split
  · refine (gives_readNamedExtension rest).mono fun p hp => ?_
    rcases hp with ⟨name, hp⟩ | hp
    · rw [hp]
      exact hbracket
    · exact hp.begins _
  · exact .ok hbracket
  · exact (gives_readComment opened rest).mono fun p hp => hp.begins _
  · exact .ok hbracket
  · exact .ok hbracket
  · refine (gives_readLookbehind rest).mono fun p hp => ?_
    obtain ⟨negated, rest, hp, rfl⟩ := hp
    rw [hp]
    exact ⟨rest, rfl⟩
  · exact (faulty_readReference rest).bind fun _ _ => .ok hbracket
  · exact .ok hbracket
  · refine .ite (fun _ => (gives_readFlags _ _ _ _).mono fun p hp => ?_) fun _ => .error
    rcases hp with ⟨on, off, hp⟩ | ⟨on, letters, hp, hprefix, hflags, hletters⟩
    · rw [hp]
      exact hbracket
    · rw [hp]
      refine ⟨letters, by simpa using hprefix, hflags, fun f hf => ?_⟩
      exact (hletters f hf).resolve_left List.not_mem_nil

theorem gives_readExtension (opened : Nat) (t : Text) :
    Gives (fun p => p.1.Begins ('(' :: '?' :: t)) (readExtension opened t) := by
  rw [readExtension_eq]
  split
  · exact .error
  · exact .error
  · next c rest htok =>
    obtain rfl : t = c :: rest := (nextToken_eq_some_iff.mp htok).1
    exact gives_readAfterSign _ _ _

/-! ## Quantifiers in braces -/

/-- Digits are one of the bounds that a quantifier in braces is written with. -/
inductive IsBound (digits : Text) : (quantifier : Text) → Prop where
  | only : IsBound digits ('\x7b' :: digits ++ ['\x7d'])
  | least (high : Text) (hhigh : high.all Char.isDigit = true) :
      IsBound digits ('\x7b' :: digits ++ ',' :: high ++ ['\x7d'])
  | most (low : Text) (hlow : low.all Char.isDigit = true) :
      IsBound digits ('\x7b' :: low ++ ',' :: digits ++ ['\x7d'])

/-- What is wrong with digits as a number. -/
inductive TooLarge (digits : Text) : CompileError → Prop where
  | many (hmany : digitLimit < digits.length) : TooLarge digits (.tooManyDigits digits.length)
  | large (hfew : digits.length ≤ digitLimit) (hlarge : repeatLimit ≤ numberOf 10 digits) :
      TooLarge digits .repetitionTooLarge

theorem readBound_eq_error {digits rest : Text} {e : CompileError}
    (h : readBound digits rest = .error e) : (∃ f, e = .fault f) ∨ TooLarge digits e := by
  have hbefore {e' : CompileError} (he' : TooLarge digits e') (h : e = errorBefore rest e') :
      (∃ f, e = .fault f) ∨ TooLarge digits e := by
    unfold errorBefore at h
    split at h
    · exact .inl ⟨_, h⟩
    · exact .inr (h ▸ he')
  unfold readBound at h
  split at h
  · cases h
  split at h
  · next hmany =>
    cases h
    exact hbefore (.many hmany) rfl
  · next hfew =>
    split at h
    · next hlarge =>
      cases h
      exact hbefore (.large (by omega) hlarge) rfl
    · cases h

theorem readBoundsOf_eq_error {length : Nat} {low high rest : Text} {e : CompileError}
    (h : readBoundsOf length low high rest = .error e) :
    (∃ f, e = .fault f) ∨ TooLarge low e ∨ TooLarge high e := by
  unfold readBoundsOf at h
  rcases bind_eq_error_iff.mp h with hlow | ⟨least, -, h⟩
  · exact (readBound_eq_error hlow).imp_right .inl
  rcases bind_eq_error_iff.mp h with hhigh | ⟨most, -, h⟩
  · exact (readBound_eq_error hhigh).imp_right .inr
  cases most with
  | none => cases h
  | some most =>
    dsimp only at h
    split at h
    · cases h
      exact .inl (faultBefore_eq_fault ..)
    · cases h

/-- The digits of bounds, as they stand in the text. -/
theorem splitBounds_eq {t low high rest : Text} (h : splitBounds t = (low, high, rest)) :
    low.all Char.isDigit = true ∧ high.all Char.isDigit = true ∧
      (t = low ++ rest ∧ high = low ∨ t = low ++ ',' :: high ++ rest) := by
  have hsplit := List.takeWhile_append_dropWhile (p := Char.isDigit) (l := t)
  have hlow := List.all_takeWhile (p := Char.isDigit) (l := t)
  unfold splitBounds at h
  dsimp only at h
  split at h
  · next r hr =>
    cases h
    have hsplit' := List.takeWhile_append_dropWhile (p := Char.isDigit) (l := r)
    refine ⟨hlow, List.all_takeWhile, .inr ?_⟩
    rw [List.append_assoc, List.cons_append, hsplit', ← hr, hsplit]
  · cases h
    exact ⟨hlow, hlow, .inl ⟨hsplit.symm, rfl⟩⟩

theorem readBraced_eq_error {t : Text} {e : CompileError} (h : readBraced t = .error e) :
    (∃ f, e = .fault f) ∨ ∃ digits quantifier, digits.all Char.isDigit = true ∧
      IsBound digits quantifier ∧ quantifier <+: '\x7b' :: t ∧ TooLarge digits e := by
  unfold readBraced at h
  split at h
  · cases h
  · dsimp only at h
    split at h
    · next rest hrest =>
      obtain ⟨hlow, hhigh, ht⟩ := splitBounds_eq (Prod.ext rfl (Prod.ext rfl hrest) :
        splitBounds t = ((splitBounds t).1, (splitBounds t).2.1, '\x7d' :: rest))
      generalize (splitBounds t).1 = low at h hlow ht
      generalize (splitBounds t).2.1 = high at h hhigh ht
      refine (readBoundsOf_eq_error h).imp_right fun hlarge => ?_
      rcases ht with ⟨rfl, rfl⟩ | rfl
      · refine ⟨high, _, hhigh, .only, ⟨rest, by simp⟩, hlarge.elim id id⟩
      · rcases hlarge with hlarge | hlarge
        · exact ⟨low, _, hlow, .least high hhigh, ⟨rest, by simp⟩, hlarge⟩
        · exact ⟨high, _, hhigh, .most low hlow, ⟨rest, by simp⟩, hlarge⟩
    · cases h

/-- What begins with a brace neither opens a group nor sets flags for the whole pattern. -/
theorem isPlain_of_readBraced {t rest : Text} {c : Construct} (h : readBraced t = .ok (c, rest)) :
    c.IsPlain := by
  unfold readBraced at h
  split at h
  · cases h
    trivial
  · dsimp only at h
    split at h
    · unfold readBoundsOf at h
      obtain ⟨least, -, h⟩ := Reading.bind_eq_ok_iff.mp h
      obtain ⟨most, -, h⟩ := Reading.bind_eq_ok_iff.mp h
      cases most with
      | none =>
        cases h
        trivial
      | some most =>
        dsimp only at h
        split at h <;> cases h
        trivial
    · cases h
      trivial

namespace Construct

theorem gives_readPlain {verbose : Bool} {c : Char} (hc : c ≠ '\x7b') (rest : Text) :
    Gives (fun p => p.1.Begins (c :: rest)) (readPlain verbose c rest) := by
  unfold readPlain
  refine .ite (fun _ => .ok trivial) fun _ => .ite (fun _ => .ok trivial) fun _ => ?_
  split
  case h_3 => exact (faulty_readSet rest).map fun _ _ => trivial
  case h_7 => exact absurd rfl hc
  case h_11 =>
    split
    · exact gives_readExtension _ _
    · exact .ok ⟨rest, rfl⟩
  all_goals exact .ok trivial

theorem readPlain_brace (verbose : Bool) (rest : Text) :
    readPlain verbose '\x7b' rest = readBraced rest := by
  cases verbose <;> rfl

/-- **A construct that is read is written so.** -/
theorem begins_of_read {verbose : Bool} {t rest : Text} {c : Construct}
    (h : read verbose t = .ok (c, rest)) : c.Begins t := by
  rw [read_eq] at h
  split at h
  · cases h
  · next d rest' htok => exact ((gives_readEscape d rest').of_eq_ok h).begins t
  · next d rest' htok =>
    obtain rfl : t = d :: rest' := (nextToken_eq_some_iff.mp htok).1
    by_cases hd : d = '\x7b'
    · subst hd
      exact (isPlain_of_readBraced (readPlain_brace verbose rest' ▸ h)).begins _
    · exact (gives_readPlain hd rest').of_eq_ok h

/-- **A construct that cannot be read is at fault**, unless it is a quantifier in braces one of
whose bounds is too large. -/
theorem read_eq_error {verbose : Bool} {t : Text} {e : CompileError}
    (h : read verbose t = .error e) :
    (∃ f, e = .fault f) ∨ ∃ digits quantifier, digits.all Char.isDigit = true ∧
      IsBound digits quantifier ∧ quantifier <+: t ∧ TooLarge digits e := by
  rw [read_eq] at h
  split at h
  · cases h
    exact .inl (faultBefore_eq_fault ..)
  · next d rest htok => exact .inl ((gives_readEscape d rest).of_eq_error h)
  · next d rest htok =>
    obtain rfl : t = d :: rest := (nextToken_eq_some_iff.mp htok).1
    by_cases hd : d = '\x7b'
    · subst hd
      exact readBraced_eq_error (readPlain_brace verbose rest ▸ h)
    · exact .inl ((gives_readPlain hd rest).of_eq_error h)

end Construct

end Highlighting
