import Highlighting.Regex.Construct

/-!
# Reading before more text

A construct that is read at the start of a text is read there as well when more text is put
behind, as long as what decides where it ends is still in view: either something is left of the
text that holds a closing bracket, or the text behind begins with one. A closing bracket is no
digit, no brace and no sign of a quantifier, so no lookahead passes over it.

One construct has no end of its own: where white space is skipped, a comment goes on to the end
of the line, and at the end of the pattern it would take in whatever is put behind.

The parts of the reader bound their work by the length of the text, and their errors tell where
the text ends, so what is compared is always two readings: that of a text, and that of the text
with more behind.

## Main definitions

* `Guarded` -- a closing bracket is in view.
* `Lexer.Carries` -- what one part of the reader takes, another one takes before more text.
-/
namespace Highlighting

/-- A closing bracket is left, or it comes next. -/
def Guarded (rest more : Text) : Prop := ')' ∈ rest ++ more.take 1

namespace Guarded
variable {rest rest' more : Text}

theorem mono (h : Guarded rest more) (hsuffix : rest <:+ rest') : Guarded rest' more := by
  obtain ⟨used, rfl⟩ := hsuffix
  unfold Guarded at h ⊢
  rw [List.append_assoc]
  exact List.mem_append_right used h

/-- With nothing left, the bracket comes next. -/
theorem of_nil (h : Guarded [] more) : ∃ more', more = ')' :: more' := by
  cases more with
  | nil => simp [Guarded] at h
  | cons c more =>
    simp only [Guarded, List.nil_append, List.take_succ_cons, List.take_zero,
      List.mem_singleton] at h
    exact ⟨more, by rw [h]⟩

/-- What is not in front of the rest and is no closing bracket does not come next. -/
theorem head?_ne {c : Char} (h : Guarded rest more) (hc : c ≠ ')') (hrest : rest.head? ≠ some c) :
    (rest ++ more).head? ≠ some c := by
  cases rest with
  | nil =>
    obtain ⟨more, rfl⟩ := h.of_nil
    simpa using hc.symm
  | cons d rest => exact hrest

/-- Characters that are no closing brackets may be passed over. -/
theorem dropWhile {p : Char → Bool} (hp : p ')' = false) (h : Guarded rest more) :
    Guarded (rest.dropWhile p) more := by
  have h : ')' ∈ rest.takeWhile p ++ (rest.dropWhile p ++ more.take 1) := by
    rw [← List.append_assoc, List.takeWhile_append_dropWhile]
    exact h
  refine (List.mem_append.mp h).resolve_left fun htake => ?_
  have := List.all_takeWhile (p := p) (l := rest)
  rw [List.all_eq_true] at this
  exact absurd (this _ htake) (by simp [hp])

end Guarded

/-- A sequence of readings succeeds where both do. -/
theorem Reading.bind_eq_ok_iff {α β : Type} {x : Reading α} {f : α → Reading β} {b : β} :
    (x >>= f) = .ok b ↔ ∃ a, x = .ok a ∧ f a = .ok b := by
  cases x with
  | ok a => simp [bind, Except.bind]
  | error e => simp [bind, Except.bind]

/-- A part of the reader that takes something off the start of a text. -/
abbrev Lexer (α : Type) := Text → Reading (α × Text)

namespace Lexer

/-- What `read` takes off a text, `read'` takes off it before more text. -/
structure Carries {α : Type} (read read' : Lexer α) : Prop where
  suffix : ∀ {t a rest}, read t = .ok (a, rest) → rest <:+ t
  append : ∀ {t a rest}, read t = .ok (a, rest) → ∀ {more}, Guarded rest more →
    read' (t ++ more) = .ok (a, rest ++ more)

/-- What a part of the reader takes does not depend on the text behind. -/
abbrev Local {α : Type} (read : Lexer α) : Prop := Carries read read

namespace Carries
variable {α β : Type}

/-- One part after another. -/
theorem bind {read read' : Lexer α} {next next' : α × Text → Reading (β × Text)}
    (hread : Carries read read')
    (hnext : ∀ a, Carries (fun rest => next (a, rest)) fun rest => next' (a, rest)) :
    Carries (fun t => read t >>= next) fun t => read' t >>= next' := by
  constructor
  · intro t b rest h
    obtain ⟨⟨a, rest'⟩, hr, hn⟩ := Reading.bind_eq_ok_iff.mp h
    exact ((hnext a).suffix hn).trans (hread.suffix hr)
  · intro t b rest h more hguard
    obtain ⟨⟨a, rest'⟩, hr, hn⟩ := Reading.bind_eq_ok_iff.mp h
    refine Reading.bind_eq_ok_iff.mpr ⟨(a, rest' ++ more), ?_, (hnext a).append hn hguard⟩
    exact hread.append hr (hguard.mono ((hnext a).suffix hn))

/-- Nothing is taken. -/
theorem pure (a : α) : Local fun t => .ok (a, t) := by
  constructor
  · intro t b rest h
    cases h
    exact List.suffix_refl _
  · intro t b rest h more _
    cases h
    rfl

/-- What is taken is worked up. -/
theorem map {read read' : Lexer α} (f : α → β) (h : Carries read read') :
    Carries (fun t => read t >>= fun p => .ok (f p.1, p.2))
      fun t => read' t >>= fun p => .ok (f p.1, p.2) :=
  h.bind fun a => pure (f a)

/-- A reading that fails is carried over to any other. -/
theorem error {fault : Text → CompileError} {read' : Lexer α} :
    Carries (fun t => .error (fault t)) read' :=
  ⟨fun h => (by cases h), fun h => (by cases h)⟩

/-- Another form of the same reading. -/
theorem congr {read read' : Lexer α} (h : Local read) (heq : ∀ t, read' t = read t) :
    Local read' := by
  obtain rfl : read' = read := funext heq
  exact h

/-- One of two ways, chosen without a look at the text. -/
theorem ite {p : Prop} [Decidable p] {yes yes' no no' : Lexer α} (hyes : p → Carries yes yes')
    (hno : ¬ p → Carries no no') :
    Carries (fun t => if p then yes t else no t) fun t => if p then yes' t else no' t := by
  by_cases hp : p
  · simpa only [if_pos hp] using hyes hp
  · simpa only [if_neg hp] using hno hp

/-- One of two ways, chosen by the next character. -/
theorem lookahead {read read' yes yes' : Lexer α} (no no' : Lexer α) {c : Char} (hc : c ≠ ')')
    (hyes : Carries yes yes') (hno : Carries no no')
    (hread : ∀ t, read (c :: t) = yes t) (hread' : ∀ t, read' (c :: t) = yes' t)
    (hother : ∀ t, t.head? ≠ some c → read t = no t)
    (hother' : ∀ t, t.head? ≠ some c → read' t = no' t) : Carries read read' := by
  have hcases (t : Text) : t.head? ≠ some c ∨ ∃ t', t = c :: t' := by
    cases t with
    | nil => exact .inl nofun
    | cons d t =>
      by_cases hd : d = c
      · exact .inr ⟨t, by rw [hd]⟩
      · exact .inl (by simpa using hd)
  constructor
  · intro t a rest h
    rcases hcases t with ht | ⟨t, rfl⟩
    · exact hno.suffix (hother t ht ▸ h)
    · exact (hyes.suffix (hread t ▸ h)).trans (List.suffix_cons c t)
  · intro t a rest h more hguard
    rcases hcases t with ht | ⟨t, rfl⟩
    · have h := hother t ht ▸ h
      rw [hother' _ ((hguard.mono (hno.suffix h)).head?_ne hc ht)]
      exact hno.append h hguard
    · rw [List.cons_append, hread']
      exact hyes.append (hread t ▸ h) hguard

/-- A reading whose work is bounded by the length of the text. -/
theorem bounded {read : Nat → Nat → Lexer α}
    (h : ∀ o o' n n', n ≤ n' → Carries (read o n) (read o' n')) (opened : Text → Nat) :
    Local fun t => read (opened t) (t.length + 1) t := by
  constructor
  · intro t a rest hr
    exact (h _ (opened t) _ _ (Nat.le_refl _)).suffix hr
  · intro t a rest hr more hguard
    have hle : t.length + 1 ≤ (t ++ more).length + 1 := by simp
    exact (h _ (opened (t ++ more)) _ _ hle).append hr hguard

end Carries

end Lexer

open Lexer (Carries Local)

/-! ## Tokens -/

/-- A character that neither ends a text as a backslash nor begins an escape is no backslash. -/
theorem ne_backslash {c : Char} {rest : Text} (hlone : c = '\\' → rest = [] → False)
    (hpair : ∀ d after, c = '\\' → rest = d :: after → False) : c ≠ '\\' := by
  rintro rfl
  cases rest with
  | nil => exact hlone rfl rfl
  | cons d after => exact hpair d after rfl rfl

/-- A token is an escape, or it is no backslash. -/
theorem nextToken_eq_some_iff {t rest : Text} {tok : Token} :
    nextToken t = some (tok, rest) ↔ t = tok.text ++ rest ∧ tok ≠ .plain '\\' := by
  unfold nextToken
  constructor
  · intro h
    split at h
    · cases h
    · cases h
    · cases h
      exact ⟨rfl, nofun⟩
    · next c rest hlone hpair =>
      cases h
      refine ⟨rfl, fun heq => ne_backslash hlone hpair ?_⟩
      exact Token.plain.inj heq
  · rintro ⟨rfl, hplain⟩
    cases tok with
    | escaped c => rfl
    | plain c =>
      have hc : c ≠ '\\' := fun h => hplain (by rw [h])
      simp only [Token.text, List.cons_append, List.nil_append]
      split
      · next heq => cases heq
      · next heq => cases heq; exact absurd rfl hc
      · next heq => cases heq; exact absurd rfl hc
      · next heq => cases heq; rfl

theorem nextToken_append {t rest : Text} {tok : Token} (h : nextToken t = some (tok, rest))
    (more : Text) : nextToken (t ++ more) = some (tok, rest ++ more) := by
  obtain ⟨rfl, hplain⟩ := nextToken_eq_some_iff.mp h
  exact nextToken_eq_some_iff.mpr ⟨List.append_assoc _ _ _, hplain⟩

theorem suffix_of_nextToken {t rest : Text} {tok : Token} (h : nextToken t = some (tok, rest)) :
    rest <:+ t :=
  ⟨tok.text, (nextToken_eq_some_iff.mp h).1.symm⟩

/-- The first token of a text is that before more text. -/
theorem Lexer.Carries.token {α : Type} {read read' : Lexer α} {next next' : Token → Lexer α}
    (hnext : ∀ tok, Carries (next tok) (next' tok))
    (hread : ∀ t tok rest, nextToken t = some (tok, rest) → read t = next tok rest)
    (hread' : ∀ t tok rest, nextToken t = some (tok, rest) → read' t = next' tok rest)
    (hnone : ∀ t a rest, nextToken t = none → read t ≠ .ok (a, rest)) : Carries read read' := by
  constructor
  · intro t a rest h
    cases htok : nextToken t with
    | none => exact absurd h (hnone t a rest htok)
    | some p =>
      obtain ⟨tok, rest'⟩ := p
      exact ((hnext tok).suffix (hread t tok rest' htok ▸ h)).trans (suffix_of_nextToken htok)
  · intro t a rest h more hguard
    cases htok : nextToken t with
    | none => exact absurd h (hnone t a rest htok)
    | some p =>
      obtain ⟨tok, rest'⟩ := p
      rw [hread' _ tok (rest' ++ more) (nextToken_append htok more)]
      exact (hnext tok).append (hread t tok rest' htok ▸ h) hguard

theorem splitAtToken_cons {stop c : Char} (hc : c ≠ '\\') (t : Text) :
    splitAtToken stop (c :: t) =
      if c = stop then ([], t, true)
      else match splitAtToken stop t with
        | (name, after, found) => (c :: name, after, found) :=
  splitAtToken.eq_4 stop c t (fun h _ => hc h) (fun _ _ h _ => hc h)

/-- Where a token is found, it is found before more text too. -/
theorem splitAtToken_found {stop : Char} {t name rest : Text}
    (h : splitAtToken stop t = (name, rest, true)) :
    rest <:+ t ∧ ∀ more, splitAtToken stop (t ++ more) = (name, rest ++ more, true) := by
  fun_induction splitAtToken stop t generalizing name with
  | case1 => cases h
  | case2 => cases h
  | case3 c rest' name' after found heq ih =>
    cases h
    obtain ⟨hsuffix, happend⟩ := ih heq
    refine ⟨hsuffix.trans (List.suffix_append ['\\', c] rest'), fun more => ?_⟩
    rw [List.cons_append, List.cons_append, splitAtToken, happend]
  | case4 rest' hlone hpair =>
    cases h
    refine ⟨List.suffix_cons _ _, fun more => ?_⟩
    rw [List.cons_append, splitAtToken_cons (ne_backslash hlone hpair), if_pos rfl]
  | case5 c rest' hlone hpair hne name' after found heq ih =>
    cases h
    obtain ⟨hsuffix, happend⟩ := ih heq
    refine ⟨hsuffix.trans (List.suffix_cons _ _), fun more => ?_⟩
    rw [List.cons_append, splitAtToken_cons (ne_backslash hlone hpair), if_neg hne, happend]

/-- What stands before a token, and the token with it. -/
theorem Lexer.Carries.upTo {α : Type} {read read' : Lexer α} (stop : Char)
    {next next' : Text → Lexer α} (hnext : ∀ name, Carries (next name) (next' name))
    (hread : ∀ t name rest, splitAtToken stop t = (name, rest, true) → read t = next name rest)
    (hread' : ∀ t name rest, splitAtToken stop t = (name, rest, true) → read' t = next' name rest)
    (hnone : ∀ t name after, splitAtToken stop t = (name, after, false) →
      ∀ a rest, read t ≠ .ok (a, rest)) : Carries read read' := by
  constructor
  · intro t a rest h
    rcases hsplit : splitAtToken stop t with ⟨name, after, _ | _⟩
    · exact absurd h (hnone t name after hsplit a rest)
    · rw [hread t name after hsplit] at h
      exact ((hnext name).suffix h).trans (splitAtToken_found hsplit).1
  · intro t a rest h more hguard
    rcases hsplit : splitAtToken stop t with ⟨name, after, _ | _⟩
    · exact absurd h (hnone t name after hsplit a rest)
    · rw [hread t name after hsplit] at h
      rw [hread' _ name (after ++ more) ((splitAtToken_found hsplit).2 more)]
      exact (hnext name).append h hguard

/-! ## Digits -/

/-- Digits at the start of a text, where the text goes on with a closing bracket. -/
theorem takeUpTo_append {p : Char → Bool} (hp : p ')' = false) {n : Nat} {t more : Text}
    (hguard : Guarded (t.drop (takeUpTo n p t).length) more) :
    takeUpTo n p (t ++ more) = takeUpTo n p t := by
  unfold takeUpTo at hguard ⊢
  induction n generalizing t with
  | zero => simp
  | succ n ih =>
    cases t with
    | nil =>
      obtain ⟨more, rfl⟩ := Guarded.of_nil hguard
      simp [hp]
    | cons c t =>
      simp only [List.cons_append, List.take_succ_cons, List.takeWhile_cons] at hguard ⊢
      split
      · next hc =>
        rw [hc] at hguard
        rw [ih hguard]
      · rfl

/-- As many digits as are asked for are there before more text too. -/
theorem takeUpTo_append_of_length {p : Char → Bool} {n : Nat} {t : Text}
    (hlen : (takeUpTo n p t).length = n) (more : Text) :
    takeUpTo n p (t ++ more) = takeUpTo n p t := by
  unfold takeUpTo at hlen ⊢
  have hn : n ≤ t.length := by
    have := (List.takeWhile_sublist p (l := t.take n)).length_le
    rw [List.length_take] at this
    omega
  rw [List.take_append_of_le_length hn]

theorem length_takeUpTo_le_length (n : Nat) (p : Char → Bool) (t : Text) :
    (takeUpTo n p t).length ≤ t.length :=
  ((List.takeWhile_sublist _).trans (List.take_sublist _ _)).length_le

/-- Characters of a kind at the start of a text, where a closing bracket is not of the kind. -/
theorem takeWhile_append {p : Char → Bool} (hp : p ')' = false) {t more : Text}
    (hguard : Guarded t more) :
    (t ++ more).takeWhile p = t.takeWhile p ∧ (t ++ more).dropWhile p = t.dropWhile p ++ more := by
  replace hguard := hguard.dropWhile hp
  induction t with
  | nil =>
    obtain ⟨more, rfl⟩ := hguard.of_nil
    simp [hp]
  | cons c t ih =>
    simp only [List.cons_append, List.takeWhile_cons, List.dropWhile_cons] at hguard ⊢
    split
    · next hc =>
      rw [if_pos hc] at hguard
      obtain ⟨htake, hdrop⟩ := ih hguard
      exact ⟨by rw [htake], hdrop⟩
    · exact ⟨rfl, rfl⟩

/-! ## Names and escapes -/

theorem local_readName (closing : Char) (what : String) : Local (readName closing what) := by
  refine .upTo closing (fun name => .ite (p := name = []) (fun _ => .error) fun _ => .pure name)
    (fun t name rest h => by rw [readName, h]) (fun t name rest h => by rw [readName, h]) ?_
  intro t name after h a rest
  rw [readName, h]
  dsimp only
  split <;> nofun

theorem local_readGroupName (closing : Char) : Local (readGroupName closing) := by
  change Local fun t => readGroupName closing t
  unfold readGroupName
  exact (local_readName closing _).bind fun name => .ite (fun _ => .pure _) fun _ => .error

theorem local_readHexEscape (letter : Char) (n : Nat) : Local (readHexEscape letter n) := by
  constructor
  · intro t a rest h
    unfold readHexEscape at h
    dsimp only at h
    split at h
    · cases h
    · split at h <;> cases h
      exact List.drop_suffix _ _
  · intro t a rest h more _
    unfold readHexEscape at h
    dsimp only at h
    split at h
    · cases h
    · next hlen =>
      split at h
      · cases h
      · next hmax =>
        cases h
        unfold readHexEscape
        dsimp only
        rw [takeUpTo_append_of_length (Decidable.not_not.mp hlen), if_neg hlen, if_neg hmax,
          List.drop_append_of_le_length (length_takeUpTo_le_length n isHex t)]

theorem local_readNamedEscape : Local readNamedEscape := by
  have hother (t : Text) (ht : t.head? ≠ some '\x7b') :
      readNamedEscape t = .error (faultBefore t 0 .missingBrace) := by
    unfold readNamedEscape
    split
    · exact absurd rfl ht
    · rfl
  refine .lookahead (fun t => .error _) _ (by decide) ?_ .error (fun _ => rfl) (fun _ => rfl)
    hother hother
  refine (local_readName '\x7d' "character name").bind fun name => ?_
  dsimp only
  cases Unicode.named? name with
  | none => exact .error
  | some n => exact .pure n

theorem local_readOtherEscape (c : Char) : Local (readOtherEscape c) :=
  .ite (fun _ => .error) fun _ => .pure _

/-- What an octal escape takes. -/
theorem local_octal {α : Type} (n : Nat) {next : Text → Lexer α}
    (hnext : ∀ digits, Local (next digits)) :
    Local fun t => next (takeUpTo n isOctal t) (t.drop (takeUpTo n isOctal t).length) := by
  constructor
  · intro t a rest h
    exact ((hnext _).suffix h).trans (List.drop_suffix _ _)
  · intro t a rest h more hguard
    rw [takeUpTo_append (by decide) (hguard.mono ((hnext _).suffix h)),
      List.drop_append_of_le_length (length_takeUpTo_le_length n isOctal t)]
    exact (hnext _).append h hguard

theorem local_octalValue {α : Type} (digits : Text) (f : Nat → α) :
    Local fun rest => octalValue digits rest >>= fun n => .ok (f n, rest) := by
  unfold octalValue
  dsimp only
  by_cases hlarge : 0o377 < numberOf 8 digits
  · simp only [if_pos hlarge]
    exact .error
  · simp only [if_neg hlarge]
    exact .pure _

theorem local_readClassEscape (c : Char) : Local (readClassEscape c) := by
  change Local fun t => readClassEscape c t
  unfold readClassEscape
  cases controlEscape? c with
  | some n => exact .pure _
  | none =>
    cases categoryEscape? c with
    | some item => exact .pure _
    | none =>
      cases hexEscapeLength? c with
      | some count => exact (local_readHexEscape c count).bind fun n => .pure _
      | none =>
        refine .ite (fun _ => ?_) fun _ => .ite (fun _ => ?_) fun _ => ?_
        · exact local_readNamedEscape.bind fun n => .pure _
        · exact @local_octal ClassItem 2
            (fun digits rest => octalValue (c :: digits) rest >>= fun n => .ok (.code n, rest))
            fun digits => local_octalValue (c :: digits) ClassItem.code
        · exact (local_readOtherEscape c).bind fun n => .pure _

/-! ## Character classes -/

theorem local_readMember (tok : Token) : Local (readMember tok) := by
  cases tok with
  | escaped c => exact local_readClassEscape c
  | plain c => exact .pure _

/-- What the token after a dash does: it ends the class, or it ends a range, and more members
follow. -/
def readAfterDash (first : Token) (item : ClassItem) (items : List ClassItem)
    (again : List ClassItem → Lexer (List ClassItem)) (last : Token) :
    Lexer (List ClassItem) := fun rest =>
  if last = .plain ']' then .ok ((.code 45 :: item :: items).reverse, rest)
  else readMember last rest >>= fun p =>
    match item, p.1 with
    | .code a, .code b =>
      if b < a then
        .error (faultBefore p.2 (first.length + 1 + last.length) (.badRange first.text last.text))
      else again (.span a b :: items) p.2
    | _, _ =>
      .error (faultBefore p.2 (first.length + 1 + last.length) (.badRange first.text last.text))

/-- What follows a member of a class. -/
def readAfterMember (opened : Nat) (first : Token) (item : ClassItem) (items : List ClassItem)
    (again : List ClassItem → Lexer (List ClassItem)) : Lexer (List ClassItem) := fun rest =>
  match rest with
  | '-' :: afterDash =>
    match nextToken afterDash with
    | none => .error (faultBefore afterDash opened .unterminatedSet)
    | some (last, rest) => readAfterDash first item items again last rest
  | _ => again (item :: items) rest

section
variable {opened : Nat} {first : Token} {item : ClassItem} {items : List ClassItem}
  {again : List ClassItem → Lexer (List ClassItem)}

theorem readAfterMember_dash {afterDash : Text} :
    readAfterMember opened first item items again ('-' :: afterDash) =
      match nextToken afterDash with
      | none => .error (faultBefore afterDash opened .unterminatedSet)
      | some (last, rest) => readAfterDash first item items again last rest :=
  rfl

theorem readAfterMember_of_ne {t : Text} (ht : t.head? ≠ some '-') :
    readAfterMember opened first item items again t = again (item :: items) t := by
  unfold readAfterMember
  split
  · exact absurd rfl ht
  · rfl

end

theorem readMembers_succ (opened fuel : Nat) (items : List ClassItem) {t rest : Text}
    {first : Token} (h : nextToken t = some (first, rest)) :
    readMembers opened (fuel + 1) items t =
      if first = .plain ']' ∧ items ≠ [] then .ok (items.reverse, rest)
      else readMember first rest >>= fun p =>
        readAfterMember opened first p.1 items (readMembers opened fuel) p.2 := by
  rw [readMembers, h]
  dsimp only
  congr 1
  congr 1
  funext p
  obtain ⟨item, rest⟩ := p
  dsimp only
  split
  · next afterDash =>
    rw [readAfterMember_dash]
    cases nextToken afterDash with
    | none => rfl
    | some q =>
      obtain ⟨last, rest⟩ := q
      by_cases hclose : last = .plain ']'
      · subst hclose
        rfl
      · refine Eq.trans ?_ (if_neg hclose).symm
        split
        · next heq => cases heq
        · next heq => cases heq; exact absurd rfl hclose
        · next heq => cases heq; rfl
  · next hdash =>
    refine (readAfterMember_of_ne fun hhead => ?_).symm
    obtain ⟨afterDash, heq⟩ := List.head?_eq_some_iff.mp hhead
    exact hdash afterDash heq

section Members
variable {again again' : List ClassItem → Lexer (List ClassItem)}

theorem carries_readAfterDash (hagain : ∀ items, Carries (again items) (again' items))
    (first : Token) (item : ClassItem) (items : List ClassItem) (last : Token) :
    Carries (readAfterDash first item items again last)
      (readAfterDash first item items again' last) := by
  refine .ite (fun _ => .pure _) fun _ => (local_readMember last).bind fun bound => ?_
  cases item with
  | code a =>
    cases bound with
    | code b => exact .ite (fun _ => .error) fun _ => hagain _
    | span | category => exact .error
  | span | category => exact .error

theorem carries_readAfterMember (hagain : ∀ items, Carries (again items) (again' items))
    (opened opened' : Nat) (first : Token) (item : ClassItem) (items : List ClassItem) :
    Carries (readAfterMember opened first item items again)
      (readAfterMember opened' first item items again') := by
  refine .lookahead _ _ (by decide : '-' ≠ ')') ?_ (hagain (item :: items)) (fun _ => rfl)
    (fun _ => rfl) (fun _ => readAfterMember_of_ne) fun _ => readAfterMember_of_ne
  exact .token (carries_readAfterDash hagain first item items)
    (fun t tok rest h => by simp only [readAfterMember, h])
    (fun t tok rest h => by simp only [readAfterMember, h])
    (fun t a rest h => by simp only [readAfterMember, h]; nofun)

end Members

/-- The members of a class end in its bracket, so a longer bound on their number does not
matter. -/
theorem carries_readMembers (items : List ClassItem) (opened opened' fuel fuel' : Nat)
    (hfuel : fuel ≤ fuel') :
    Carries (readMembers opened fuel items) (readMembers opened' fuel' items) := by
  induction fuel generalizing fuel' items with
  | zero => exact .error
  | succ fuel ih =>
    obtain ⟨fuel', rfl⟩ : ∃ n, fuel' = n + 1 := ⟨fuel' - 1, by omega⟩
    have ih (items : List ClassItem) := ih items fuel' (by omega)
    refine .token (fun first => .ite (fun _ => .pure _) fun _ => (local_readMember first).bind
        fun item => carries_readAfterMember ih opened opened' first item items)
      (fun t tok rest h => readMembers_succ opened fuel items h)
      (fun t tok rest h => readMembers_succ opened' fuel' items h)
      (fun t a rest h => by rw [readMembers, h]; nofun)

theorem local_readSet : Local readSet := by
  have hmembers (negated : Bool) (opened : Text → Nat) : Local fun body =>
      readMembers (opened body) (body.length + 1) [] body >>= fun p =>
        .ok (Atom.ofItems negated p.1, p.2) :=
    (Carries.bounded (carries_readMembers []) opened).map (Atom.ofItems negated)
  have hother (t : Text) (ht : t.head? ≠ some '^') :
      readSet t = readMembers (t.length + 1) (t.length + 1) [] t >>= fun p =>
        .ok (Atom.ofItems false p.1, p.2) := by
    unfold readSet
    dsimp only
    split
    · exact absurd rfl ht
    · rfl
  exact .lookahead _ _ (by decide) (hmembers true fun body => body.length + 2)
    (hmembers false fun t => t.length + 1) (fun _ => rfl) (fun _ => rfl) hother hother

/-! ## Constructs -/

/-- An escape that begins with a digit other than zero: an octal escape or a reference. -/
def readDigitEscape (c : Char) : Lexer Construct
  | d :: e :: after =>
    if isOctal c && isOctal d && isOctal e then
      octalValue [c, d, e] after >>= fun n => .ok (.atom (.literal false n), after)
    else if d.isDigit then .ok (.numbered (numberOf 10 [c, d]) 3, e :: after)
    else .ok (.numbered (numberOf 10 [c]) 2, d :: e :: after)
  | [d] =>
    if d.isDigit then .ok (.numbered (numberOf 10 [c, d]) 3, [])
    else .ok (.numbered (numberOf 10 [c]) 2, [d])
  | [] => .ok (.numbered (numberOf 10 [c]) 2, [])

theorem isOctal_eq_false {c : Char} (h : c.isDigit = false) : isOctal c = false := by
  simp only [Char.isDigit, isOctal, Char.le_def, Bool.and_eq_false_iff,
    decide_eq_false_iff_not] at h ⊢
  rcases h with h | h
  · exact .inl h
  · refine .inr fun hle => h (UInt32.le_trans hle ?_)
    decide

theorem local_readDigitEscape (c : Char) : Local (readDigitEscape c) := by
  constructor
  · intro t a rest h
    rcases t with _ | ⟨d, _ | ⟨e, after⟩⟩
    · cases h
      exact List.suffix_refl _
    · rw [readDigitEscape] at h
      split at h <;> cases h
      · exact List.nil_suffix
      · exact List.suffix_refl _
    · rw [readDigitEscape] at h
      split at h
      · exact ((local_octalValue _ _).suffix h).trans (List.suffix_append [d, e] after)
      · split at h <;> cases h
        · exact List.suffix_cons _ _
        · exact List.suffix_refl _
  · intro t a rest h more hguard
    rcases t with _ | ⟨d, _ | ⟨e, after⟩⟩
    · cases h
      obtain ⟨more, rfl⟩ := hguard.of_nil
      cases more <;> simp [readDigitEscape, show isOctal ')' = false from rfl]
    · rw [readDigitEscape] at h
      split at h
      · next hd =>
        cases h
        obtain ⟨more, rfl⟩ := hguard.of_nil
        simp [readDigitEscape, hd, show isOctal ')' = false from rfl]
      · next hd =>
        cases h
        have hd : d.isDigit = false := by simpa using hd
        cases more <;> simp [readDigitEscape, hd, isOctal_eq_false hd]
    · rw [readDigitEscape] at h
      rw [List.cons_append, List.cons_append, readDigitEscape]
      split at h
      · next hoctal =>
        rw [if_pos hoctal]
        exact (local_octalValue [c, d, e] fun n => Construct.atom (.literal false n)).append h hguard
      · next hoctal =>
        rw [if_neg hoctal]
        split at h <;> cases h
        · next hd => rw [if_pos hd]; rfl
        · next hd => rw [if_neg hd]; rfl

theorem local_readEscape (c : Char) : Local (readEscape c) := by
  change Local fun t => readEscape c t
  unfold readEscape
  cases categoryEscape? c with
  | some item => exact .pure _
  | none =>
    dsimp only
    split
    · exact .pure _
    · exact .pure _
    · exact .pure _
    · exact .pure _
    · cases controlEscape? c with
      | some n => exact .pure _
      | none =>
        cases hexEscapeLength? c with
        | some n => exact (local_readHexEscape c n).map fun n => Construct.atom (.literal false n)
        | none =>
          refine .ite (fun _ => ?_) fun _ => .ite (fun _ => ?_) fun _ => .ite (fun _ => ?_) fun _ => ?_
          · exact local_readNamedEscape.map fun n => Construct.atom (.literal false n)
          · exact @local_octal Construct 2
              (fun digits rest => .ok (.atom (.literal false (numberOf 8 (c :: digits))), rest))
              fun digits => .pure _
          · exact (local_readDigitEscape c).congr fun t => by
              rcases t with _ | ⟨d, _ | ⟨e, after⟩⟩ <;> rfl
          · exact (local_readOtherEscape c).map fun n => Construct.atom (.literal false n)

/-- The digits of two bounds, and the text after them. -/
def splitBounds (t : Text) : Text × Text × Text :=
  let low := t.takeWhile Char.isDigit
  (low, match t.dropWhile Char.isDigit with
    | ',' :: r => (r.takeWhile Char.isDigit, r.dropWhile Char.isDigit)
    | r => (low, r))

theorem suffix_splitBounds (t : Text) : (splitBounds t).2.2 <:+ t := by
  unfold splitBounds
  dsimp only
  have hdrop := List.dropWhile_suffix Char.isDigit (l := t)
  split
  · next r heq =>
    rw [heq] at hdrop
    exact ((List.dropWhile_suffix _).trans (List.suffix_cons ',' r)).trans hdrop
  · exact hdrop

theorem splitBounds_append {t more : Text} (hguard : Guarded t more) :
    Guarded (splitBounds t).2.2 more ∧ splitBounds (t ++ more) =
      ((splitBounds t).1, (splitBounds t).2.1, (splitBounds t).2.2 ++ more) := by
  obtain ⟨htake, hdrop⟩ := takeWhile_append (p := Char.isDigit) rfl hguard
  have hafter := hguard.dropWhile (p := Char.isDigit) rfl
  unfold splitBounds
  dsimp only
  rw [htake, hdrop]
  cases hrest : t.dropWhile Char.isDigit with
  | nil =>
    rw [hrest] at hafter
    obtain ⟨more, rfl⟩ := hafter.of_nil
    exact ⟨hafter, rfl⟩
  | cons c r =>
    rw [hrest] at hafter
    by_cases hc : c = ','
    · subst hc
      have hr : Guarded r more := by
        simpa [Guarded] using hafter
      obtain ⟨htake, hdrop⟩ := takeWhile_append (p := Char.isDigit) rfl hr
      simp only [List.cons_append, htake, hdrop]
      exact ⟨hr.dropWhile rfl, trivial⟩
    · rw [List.cons_append]
      split
      · next heq => cases heq; exact absurd rfl hc
      · split
        · next heq => cases heq; exact absurd rfl hc
        · exact ⟨hafter, rfl⟩

/-- The quantifier of two bounds. -/
def readBoundsOf (length : Nat) (low high : Text) : Lexer Construct := fun rest =>
  readBound low rest >>= fun least =>
    readBound high rest >>= fun most =>
      match most with
      | none => .ok (.quantifier (least.getD 0) none, rest)
      | some most =>
        if most < least.getD 0 then .error (faultBefore rest length .leastAboveMost)
        else .ok (.quantifier (least.getD 0) (some most), rest)

theorem carries_readBound {α : Type} (digits : Text) {next next' : Option Nat → Lexer α}
    (hnext : ∀ bound, Carries (next bound) (next' bound)) :
    Carries (fun rest => readBound digits rest >>= fun bound => next bound rest)
      fun rest => readBound digits rest >>= fun bound => next' bound rest := by
  unfold readBound
  by_cases hnil : digits = []
  · simp only [if_pos hnil]
    exact hnext none
  · by_cases hmany : digitLimit < digits.length
    · simp only [if_neg hnil, if_pos hmany]
      exact .error
    · by_cases hlarge : repeatLimit ≤ numberOf 10 digits
      · simp only [if_neg hnil, if_neg hmany, if_pos hlarge]
        exact .error
      · simp only [if_neg hnil, if_neg hmany, if_neg hlarge]
        exact hnext (some _)

theorem carries_readBoundsOf (length length' : Nat) (low high : Text) :
    Carries (readBoundsOf length low high) (readBoundsOf length' low high) := by
  refine carries_readBound low fun least => carries_readBound high fun most => ?_
  cases most with
  | none => exact .pure _
  | some most => exact .ite (fun _ => .error) fun _ => .pure _

/-- A quantifier in braces, or a brace that stands for itself. -/
def readBraced : Lexer Construct := fun t =>
  if t.head? = some '\x7d' then .ok (.literal '\x7b', t)
  else
    let (low, high, rest) := splitBounds t
    match rest with
    | '\x7d' :: rest => readBoundsOf (t.length - rest.length) low high rest
    | _ => .ok (.literal '\x7b', t)

/-- The bounds once their digits are split off. -/
theorem bounds_bind_eq (t low high afterHigh : Text) :
    ((match t, afterHigh with
      | '\x7d' :: _, _ => pure none
      | _, '\x7d' :: rest => do
        let least := (← readBound low rest).getD 0
        match ← readBound high rest with
        | none => return some (least, none, rest)
        | some most =>
          if most < least then
            throw (faultBefore rest (t.length - rest.length) .leastAboveMost)
          return some (least, some most, rest)
      | _, _ => pure none : Reading (Option (Nat × Option Nat × Text))) >>= fun bounds =>
    match bounds with
    | some (least, most, rest) => .ok (Construct.quantifier least most, rest)
    | none => .ok (Construct.literal '\x7b', t)) =
      if t.head? = some '\x7d' then .ok (.literal '\x7b', t)
      else match afterHigh with
        | '\x7d' :: rest => readBoundsOf (t.length - rest.length) low high rest
        | _ => .ok (.literal '\x7b', t) := by
  split
  · rfl
  · next rest hhead =>
    have hhead : t.head? ≠ some '\x7d' := by
      intro h
      obtain ⟨tail, rfl⟩ := List.head?_eq_some_iff.mp h
      exact hhead tail rfl
    rw [if_neg hhead]
    simp only [readBoundsOf]
    cases readBound low rest with
    | error e => rfl
    | ok least =>
      simp only [bind, Except.bind, pure, Except.pure]
      cases readBound high rest with
      | error e => rfl
      | ok most =>
        cases most with
        | none => rfl
        | some most =>
          by_cases hle : most < least.getD 0
          · simp only [if_pos hle]
            rfl
          · simp only [if_neg hle]
  · next hhead hbrace =>
    have hhead : t.head? ≠ some '\x7d' := by
      intro h
      obtain ⟨tail, rfl⟩ := List.head?_eq_some_iff.mp h
      exact hhead tail rfl
    rw [if_neg hhead]
    split
    · exact absurd rfl (hbrace _)
    · rfl

theorem readBounds_bind_eq (t : Text) : (readBounds t >>= fun bounds =>
    match bounds with
    | some (least, most, rest) => .ok (Construct.quantifier least most, rest)
    | none => .ok (Construct.literal '\x7b', t)) = readBraced t := by
  unfold readBounds readBraced splitBounds
  exact bounds_bind_eq t _ _ _

theorem local_readBraced : Local readBraced := by
  constructor
  · intro t a rest h
    unfold readBraced at h
    split at h
    · cases h
      exact List.suffix_refl _
    · dsimp only at h
      split at h
      · next rest' heq =>
        have hsuffix := suffix_splitBounds t
        rw [heq] at hsuffix
        have h := (carries_readBoundsOf _ 0 _ _).suffix h
        exact (h.trans (List.suffix_cons _ rest')).trans hsuffix
      · cases h
        exact List.suffix_refl _
  · intro t a rest h more hguard
    unfold readBraced at h
    split at h
    · next hhead =>
      cases h
      have hhead' : (t ++ more).head? = some '\x7d' := by
        simp [hhead]
      rw [readBraced, if_pos hhead']
    · next hhead =>
      dsimp only at h
      -- What is left is the text behind the brace, or behind its partner.
      have hsuffix := suffix_splitBounds t
      have hunfold (hguard : Guarded t more) : readBraced (t ++ more) =
          match (splitBounds t).2.2 ++ more with
          | '\x7d' :: rest =>
            readBoundsOf ((t ++ more).length - rest.length) (splitBounds t).1 (splitBounds t).2.1 rest
          | _ => .ok (.literal '\x7b', t ++ more) := by
        rw [readBraced, if_neg (hguard.head?_ne (by decide) hhead), (splitBounds_append hguard).2]
      split at h
      · next rest' heq =>
        rw [heq] at hsuffix
        have hcarries := carries_readBoundsOf (t.length - rest'.length)
          ((t ++ more).length - (rest' ++ more).length) (splitBounds t).1 (splitBounds t).2.1
        have hrest := (hcarries.suffix h).trans (List.suffix_cons '\x7d' rest')
        rw [hunfold (hguard.mono (hrest.trans hsuffix)), heq]
        exact hcarries.append h hguard
      · next hbrace =>
        cases h
        rw [hunfold hguard]
        have hafter := (splitBounds_append hguard).1
        cases hrest : (splitBounds t).2.2 with
        | nil =>
          rw [hrest] at hafter
          obtain ⟨more, rfl⟩ := hafter.of_nil
          rfl
        | cons c r =>
          rw [List.cons_append]
          split
          · next heq =>
            cases heq
            exact absurd hrest (hbrace r)
          · rfl

/-- Flags to turn off end in a colon, so a longer bound on their number does not matter. -/
theorem readFlagsOff_append {fuel fuel' : Nat} {on off on' off' : List InlineFlag} {tok : Token}
    {t rest : Text} (hfuel : fuel ≤ fuel')
    (h : readFlagsOff fuel on off tok t = .ok (on', off', rest)) :
    rest <:+ t ∧ ∀ more, readFlagsOff fuel' on off tok (t ++ more) =
      .ok (on', off', rest ++ more) := by
  induction fuel generalizing fuel' off tok t with
  | zero => cases h
  | succ fuel ih =>
    obtain ⟨fuel', rfl⟩ : ∃ n, fuel' = n + 1 := ⟨fuel' - 1, by omega⟩
    have ih := @ih fuel'
    unfold readFlagsOff at h
    split at h
    · cases h
    · split at h
      · cases h
      · next c f hf =>
        split at h
        · cases h
        · next htype =>
          split at h
          · cases h
          · next t₁ htok =>
            dsimp only at h
            split at h
            · cases h
            · next hglobal =>
              split at h
              · cases h
              · next hboth =>
                cases h
                refine ⟨suffix_of_nextToken htok, fun more => ?_⟩
                unfold readFlagsOff
                simp only [hf, if_neg htype, nextToken_append htok, if_neg hglobal, if_neg hboth]
          · next tok₁ t₁ hcolon htok =>
            obtain ⟨hsuffix, happend⟩ := ih (by omega) h
            refine ⟨hsuffix.trans (suffix_of_nextToken htok), fun more => ?_⟩
            unfold readFlagsOff
            simp only [hf, if_neg htype, nextToken_append htok]
            exact happend more

/-- What follows a dash among flags. -/
def readFlagsBehindDash (on : List InlineFlag) (tok : Token) : Lexer Construct := fun rest =>
  readFlagsOff (rest.length + 1) on [] tok rest >>= fun p =>
    .ok (.opening (.modes p.1 p.2.1), p.2.2)

theorem local_readFlagsBehindDash (on : List InlineFlag) (tok : Token) :
    Local (readFlagsBehindDash on tok) := by
  have hle (t more : Text) : t.length + 1 ≤ (t ++ more).length + 1 := by simp
  constructor
  · intro t a rest h
    obtain ⟨p, hoff, h⟩ := Reading.bind_eq_ok_iff.mp h
    cases h
    exact (readFlagsOff_append (Nat.le_refl _) hoff).1
  · intro t a rest h more _
    obtain ⟨p, hoff, h⟩ := Reading.bind_eq_ok_iff.mp h
    cases h
    rw [readFlagsBehindDash, (readFlagsOff_append (hle t more) hoff).2]
    rfl

/-- What the token behind a flag begins. -/
def readFlagsBehind (again : Char → Lexer Construct) : Token → Lexer Construct
  | .escaped _ => fun rest => .error (faultBefore rest 2 .missingColonOrClose)
  | .plain d => again d

/-- Flags end in a colon, a bracket or a dash, so a longer bound on their number does not matter. -/
theorem carries_readFlags {fuel fuel' : Nat} (hfuel : fuel ≤ fuel') (on : List InlineFlag)
    (c : Char) :
    Carries (readFlags fuel on c) (readFlags fuel' on c) := by
  induction fuel generalizing fuel' on c with
  | zero => exact .error
  | succ fuel ih =>
    obtain ⟨fuel', rfl⟩ : ∃ n, fuel' = n + 1 := ⟨fuel' - 1, by omega⟩
    change Carries (fun t => readFlags (fuel + 1) on c t) fun t => readFlags (fuel' + 1) on c t
    unfold readFlags
    refine .ite (fun _ => .ite (fun _ => .error) fun _ => ?_) fun _ => .ite (fun _ => .pure _)
      fun _ => .ite (fun _ => .ite (fun _ => .error) fun _ => .pure _) fun _ => ?_
    · exact .token (local_readFlagsBehindDash on) (fun t tok rest h => by rw [h]; rfl)
        (fun t tok rest h => by rw [h]; rfl) fun t a rest h => by rw [h]; nofun
    · cases InlineFlag.ofChar? c with
      | none => exact .error
      | some f =>
        refine .ite (fun _ => .error) fun _ => .ite (fun _ => .error) fun _ => ?_
        have hbehind (tok : Token) : Carries (readFlagsBehind (readFlags fuel (f :: on)) tok)
            (readFlagsBehind (readFlags fuel' (f :: on)) tok) := by
          cases tok with
          | escaped d => exact .error
          | plain d => exact ih (by omega) (f :: on) d
        exact .token hbehind (fun t tok rest h => by rw [h]; cases tok <;> rfl)
          (fun t tok rest h => by rw [h]; cases tok <;> rfl) fun t a rest h => by rw [h]; nofun

theorem local_readFlags (on : List InlineFlag) (c : Char) :
    Local fun t => readFlags (t.length + 1) on c t :=
  @Carries.bounded _ (fun _ n => readFlags n on c)
    (fun _ _ _ _ hle => carries_readFlags hle on c) fun _ => 0

theorem local_readReference : Local readReference := by
  change Local fun t => readReference t
  unfold readReference
  refine (local_readName ')' "group name").bind fun name => ?_
  refine .ite (p := Unicode.isIdentifier name = true) (fun _ => .pure _) fun _ => ?_
  cases looseNumber? name with
  | none => exact .error
  | some n =>
    cases n with
    | zero => exact .error
    | succ n => exact .pure _

/-- What follows a bracket, a question mark and the letter of named groups. -/
def readNamedExtension : Lexer Construct := fun t =>
  match t with
  | '<' :: rest => do
    let (name, rest) ← readGroupName '>' rest
    return (.opening (.named name), rest)
  | '=' :: rest => do
    let (name, rest) ← readGroupName ')' rest
    return (.named name, rest)
  | rest =>
    match nextToken rest with
    | none => throw (faultBefore rest 0 .unexpectedEnd)
    | some (tok, rest) =>
      throw (faultBefore rest (tok.length + 2) (.unknownExtension ('P' :: tok.text)))

theorem local_readNamedExtension : Local readNamedExtension := by
  have hname := (local_readGroupName '>').map fun name => Construct.opening (.named name)
  have hreference := (local_readGroupName ')').map Construct.named
  constructor
  · intro t a rest h
    unfold readNamedExtension at h
    split at h
    · exact (hname.suffix h).trans (List.suffix_cons _ _)
    · exact (hreference.suffix h).trans (List.suffix_cons _ _)
    · split at h <;> cases h
  · intro t a rest h more hguard
    unfold readNamedExtension at h
    split at h
    · exact hname.append h hguard
    · exact hreference.append h hguard
    · split at h <;> cases h

/-- What follows a bracket, a question mark and a sign for a look-behind. -/
def readLookbehind : Lexer Construct := fun t =>
  match nextToken t with
  | none => throw (faultBefore t 0 .unexpectedEnd)
  | some (.plain '=', rest) => return (.opening (.behind false), rest)
  | some (.plain '!', rest) => return (.opening (.behind true), rest)
  | some (tok, rest) =>
    throw (faultBefore rest (tok.length + 2) (.unknownExtension ('<' :: tok.text)))

theorem local_readLookbehind : Local readLookbehind := by
  constructor
  · intro t a rest h
    unfold readLookbehind at h
    split at h
    · cases h
    · next htok => cases h; exact suffix_of_nextToken htok
    · next htok => cases h; exact suffix_of_nextToken htok
    · cases h
  · intro t a rest h more _
    unfold readLookbehind at h
    split at h
    · cases h
    · next htok => cases h; rw [readLookbehind, nextToken_append htok]; rfl
    · next htok => cases h; rw [readLookbehind, nextToken_append htok]; rfl
    · cases h

/-- A comment up to its bracket. -/
def readComment (opened : Nat) : Lexer Construct := fun t =>
  match splitAtToken ')' t with
  | (_, rest, true) => return (.blank, rest)
  | (_, rest, false) => throw (faultBefore rest opened .unterminatedComment)

theorem carries_readComment (opened opened' : Nat) :
    Carries (readComment opened) (readComment opened') :=
  .upTo ')' (fun _ => .pure Construct.blank) (fun t name rest h => by rw [readComment, h]; rfl)
    (fun t name rest h => by rw [readComment, h]; rfl)
    (fun t name after h a rest => by rw [readComment, h]; nofun)

/-- The rest of what follows a bracket and a question mark. -/
def readAfterSign (opened : Nat) (c : Char) : Lexer Construct := fun rest =>
  match c with
  | 'P' => readNamedExtension rest
  | ':' => return (.opening .plain, rest)
  | '#' => readComment opened rest
  | '=' => return (.opening (.ahead false), rest)
  | '!' => return (.opening (.ahead true), rest)
  | '<' => readLookbehind rest
  | '(' => do
    let (ref, rest) ← readReference rest
    return (.opening (.conditional ref), rest)
  | '>' => return (.opening .atomic, rest)
  | c =>
    if (InlineFlag.ofChar? c).isSome || c = '-' then readFlags (rest.length + 1) [] c rest
    else throw (faultBefore rest 2 (.unknownExtension [c]))

theorem readExtension_eq (opened : Nat) (t : Text) : readExtension opened t =
    match nextToken t with
    | none => .error (faultBefore t 0 .unexpectedEnd)
    | some (.escaped c, rest) => .error (faultBefore rest 3 (.unknownExtension ['\\', c]))
    | some (.plain c, rest) => readAfterSign opened c rest := by
  unfold readExtension
  split
  all_goals simp only [*]
  all_goals first
    | rfl
    | simp only [readAfterSign]

theorem carries_readAfterSign (opened opened' : Nat) (c : Char) :
    Carries (readAfterSign opened c) (readAfterSign opened' c) := by
  unfold readAfterSign
  split
  · exact local_readNamedExtension
  · exact .pure _
  · exact carries_readComment opened opened'
  · exact .pure _
  · exact .pure _
  · exact local_readLookbehind
  · exact local_readReference.map fun ref => Construct.opening (.conditional ref)
  · exact .pure _
  · exact .ite (fun _ => local_readFlags [] _) fun _ => .error

/-- What the token behind a bracket and a question mark begins. -/
def readSign (opened : Nat) : Token → Lexer Construct
  | .escaped c => fun rest => .error (faultBefore rest 3 (.unknownExtension ['\\', c]))
  | .plain c => readAfterSign opened c

theorem carries_readExtension (opened opened' : Nat) :
    Carries (readExtension opened) (readExtension opened') := by
  have hsign (opened : Nat) (t : Text) (tok : Token) (rest : Text)
      (h : nextToken t = some (tok, rest)) : readExtension opened t = readSign opened tok rest := by
    rw [readExtension_eq, h]
    cases tok <;> rfl
  have hcarries (tok : Token) : Carries (readSign opened tok) (readSign opened' tok) := by
    cases tok with
    | escaped c => exact .error
    | plain c => exact carries_readAfterSign opened opened' c
  exact .token hcarries (hsign opened) (hsign opened') fun t a rest h => by
    rw [readExtension_eq, h]; nofun

/-- A comment up to the end of the line, where there is one. -/
theorem splitAtToken_not_found {stop : Char} {t name rest : Text}
    (h : splitAtToken stop t = (name, rest, false)) : rest = [] ∨ rest = ['\\'] := by
  fun_induction splitAtToken stop t generalizing name with
  | case1 => cases h; exact .inl rfl
  | case2 => cases h; exact .inr rfl
  | case3 c rest' name' after found heq ih => cases h; exact ih heq
  | case4 => cases h
  | case5 c rest' hlone hpair hne name' after found heq ih => cases h; exact ih heq

namespace Construct

/-- The construct that begins with a character other than a backslash. -/
def readPlain (verbose : Bool) (c : Char) : Lexer Construct := fun rest =>
  if verbose && Unicode.isAsciiBlank c then .ok (blank, rest)
  else if verbose && c == '#' then .ok (blank, (splitAtToken '\n' rest).2.1)
  else
    match c with
    | '|' => .ok (bar, rest)
    | ')' => .ok (closing, rest)
    | '[' => (readSet rest).map fun (a, rest) => (atom a, rest)
    | '?' => .ok (quantifier 0 (some 1), rest)
    | '*' => .ok (quantifier 0 none, rest)
    | '+' => .ok (quantifier 1 none, rest)
    | '\x7b' => readBraced rest
    | '.' => .ok (atom .dot, rest)
    | '^' => .ok (place .caret, rest)
    | '$' => .ok (place .dollar, rest)
    | '(' =>
      match rest with
      | '?' :: rest' => readExtension (rest.length + 1) rest'
      | _ => .ok (opening .capture, rest)
    | _ => .ok (literal c, rest)

theorem read_eq (verbose : Bool) (t : Text) : read verbose t =
    match nextToken t with
    | none => .error (faultBefore t 0 .unexpectedEnd)
    | some (.escaped c, rest) => readEscape c rest
    | some (.plain c, rest) => readPlain verbose c rest := by
  unfold read
  cases htok : nextToken t with
  | none => rfl
  | some p =>
    obtain ⟨tok, rest⟩ := p
    have ht := (nextToken_eq_some_iff.mp htok).1
    cases tok with
    | escaped c => rfl
    | plain c =>
      subst ht
      unfold readPlain
      simp only [Token.text, List.cons_append, List.nil_append, List.length_cons]
      congr 2
      split
      case h_7 => exact readBounds_bind_eq rest
      case h_12 => simp only
      all_goals rfl

theorem suffix_splitAtToken (stop : Char) (t : Text) : (splitAtToken stop t).2.1 <:+ t := by
  fun_induction splitAtToken stop t with
  | case1 => exact List.suffix_refl _
  | case2 => exact List.suffix_refl _
  | case3 c rest name after found heq ih =>
    rw [heq] at ih
    exact ih.trans (List.suffix_append ['\\', c] rest)
  | case4 => exact List.suffix_cons _ _
  | case5 c rest hlone hpair hne name after found heq ih =>
    rw [heq] at ih
    exact ih.trans (List.suffix_cons _ _)

theorem local_readGroup : Local fun rest => match rest with
    | '?' :: rest' => readExtension (rest.length + 1) rest'
    | _ => .ok (opening .capture, rest) := by
  have hother (t : Text) (ht : t.head? ≠ some '?') : (match t with
      | '?' :: rest' => readExtension (t.length + 1) rest'
      | _ => .ok (opening .capture, t)) = .ok (opening .capture, t) := by
    split
    · exact absurd rfl ht
    · rfl
  have hextension : Local fun t => readExtension (t.length + 2) t := by
    constructor
    · intro t a rest h
      exact (carries_readExtension _ 0).suffix h
    · intro t a rest h more hguard
      exact (carries_readExtension _ _).append h hguard
  exact .lookahead _ _ (by decide) hextension (.pure _) (fun _ => rfl) (fun _ => rfl) hother hother

theorem readPlain_comment (rest : Text) :
    readPlain true '#' rest = .ok (blank, (splitAtToken '\n' rest).2.1) := by
  unfold readPlain
  rw [if_neg (by decide), if_pos (by decide)]

/-- A character either begins a comment to the end of the line or it does not. -/
theorem comment_or_not (verbose : Bool) (c : Char) :
    (verbose = true ∧ c = '#') ∨ (verbose && c == '#') = false := by
  cases verbose with
  | false => exact .inr rfl
  | true =>
    by_cases hc : c = '#'
    · exact .inl ⟨rfl, hc⟩
    · exact .inr (by simpa using hc)

/-- Whatever is no comment to the end of the line is read before more text too. -/
theorem local_readPlain {verbose : Bool} {c : Char} (h : (verbose && c == '#') = false) :
    Local (readPlain verbose c) := by
  unfold readPlain
  refine .ite (fun _ => .pure _) fun _ => .ite (fun h' => by simp [h] at h') fun _ => ?_
  split
  · exact .pure _
  · exact .pure _
  · exact local_readSet.map Construct.atom
  · exact .pure _
  · exact .pure _
  · exact .pure _
  · exact local_readBraced
  · exact .pure _
  · exact .pure _
  · exact .pure _
  · exact local_readGroup
  · exact .pure _

/-- A construct takes at least one character. -/
theorem suffix_of_read {verbose : Bool} {t rest : Text} {c : Construct}
    (h : read verbose t = .ok (c, rest)) : rest <:+ t ∧ rest.length < t.length := by
  have hshorter {tok : Token} {rest' : Text} (htok : nextToken t = some (tok, rest'))
      (hrest : rest <:+ rest') : rest <:+ t ∧ rest.length < t.length := by
    refine ⟨hrest.trans (suffix_of_nextToken htok), ?_⟩
    have hlen := hrest.length_le
    rw [(nextToken_eq_some_iff.mp htok).1, List.length_append]
    cases tok with
    | plain | escaped =>
      simp only [Token.text, List.length_cons, List.length_nil]
      omega
  rw [read_eq] at h
  split at h
  · cases h
  · next d rest' htok => exact hshorter htok ((local_readEscape d).suffix h)
  · next d rest' htok =>
    rcases comment_or_not verbose d with ⟨rfl, rfl⟩ | hcomment
    · rw [readPlain_comment] at h
      cases h
      exact hshorter htok (suffix_splitAtToken '\n' rest')
    · exact hshorter htok ((local_readPlain hcomment).suffix h)

/-- The text begins with a comment up to the end of the line, and no line ends. -/
def runsOn (verbose : Bool) (t : Text) : Bool :=
  verbose &&
    match t with
    | '#' :: rest => !(splitAtToken '\n' rest).2.2
    | _ => false

theorem runsOn_eq_true_iff {verbose : Bool} {t : Text} : runsOn verbose t = true ↔
    verbose = true ∧ ∃ rest, t = '#' :: rest ∧ (splitAtToken '\n' rest).2.2 = false := by
  unfold runsOn
  rw [Bool.and_eq_true]
  refine and_congr_right fun _ => ?_
  split
  · simp
  · next h => simpa using fun rest ht => absurd ht (h rest)

/-- A bracket behind a comment that runs on is part of it. -/
theorem runsOn_append {verbose : Bool} {t : Text} (h : runsOn verbose t = true) :
    runsOn verbose (t ++ [')']) = true := by
  have hnot_found {t : Text} (h : (splitAtToken '\n' t).2.2 = false) :
      (splitAtToken '\n' (t ++ [')'])).2.2 = false := by
    fun_induction splitAtToken '\n' t with
    | case1 => decide
    | case2 => decide
    | case3 c rest name after found heq ih =>
      rw [heq] at ih
      rw [List.cons_append, List.cons_append, splitAtToken]
      exact ih h
    | case4 => cases h
    | case5 c rest hlone hpair hne name after found heq ih =>
      rw [heq] at ih
      rw [List.cons_append, splitAtToken_cons (ne_backslash hlone hpair), if_neg hne]
      exact ih h
  obtain ⟨hverbose, rest, rfl, hfound⟩ := runsOn_eq_true_iff.mp h
  exact runsOn_eq_true_iff.mpr ⟨hverbose, rest ++ [')'], rfl, hnot_found hfound⟩

/-- What is left of a comment that runs on. -/
theorem read_of_runsOn {verbose : Bool} {t : Text} (h : runsOn verbose t = true) :
    ∃ rest, read verbose t = .ok (blank, rest) ∧ (rest = [] ∨ rest = ['\\']) := by
  obtain ⟨rfl, rest, rfl, hfound⟩ := runsOn_eq_true_iff.mp h
  rcases hsplit : splitAtToken '\n' rest with ⟨name, after, found⟩
  rw [hsplit] at hfound
  obtain rfl : found = false := hfound
  refine ⟨after, ?_, splitAtToken_not_found hsplit⟩
  rw [read_eq, show nextToken ('#' :: rest) = some (.plain '#', rest) from rfl]
  dsimp only
  rw [readPlain_comment, hsplit]

/-- A comment behind which something is left does not run on. -/
theorem runsOn_eq_false {verbose : Bool} {t rest : Text} {c : Construct}
    (h : read verbose t = .ok (c, rest))
    (hline : verbose = true → c = blank → rest ≠ [] ∧ rest ≠ ['\\']) : runsOn verbose t = false := by
  rw [Bool.eq_false_iff]
  intro hruns
  obtain ⟨rest', hread, hrest⟩ := read_of_runsOn hruns
  rw [hread] at h
  cases h
  have hend := hline (runsOn_eq_true_iff.mp hruns).1 rfl
  rcases hrest with rfl | rfl
  · exact hend.1 rfl
  · exact hend.2 rfl

/-- **A construct is read before more text as it is read alone**, as long as a closing bracket is
in view and it is no comment that runs on. -/
theorem read_append {verbose : Bool} {t rest : Text} {c : Construct}
    (h : read verbose t = .ok (c, rest)) {more : Text} (hguard : Guarded rest more)
    (hcomment : runsOn verbose t = false) : read verbose (t ++ more) = .ok (c, rest ++ more) := by
  rw [read_eq] at h ⊢
  split at h
  · cases h
  · next d rest' htok =>
    rw [nextToken_append htok]
    exact (local_readEscape d).append h hguard
  · next d rest' htok =>
    rw [nextToken_append htok]
    dsimp only at h ⊢
    rcases comment_or_not verbose d with ⟨rfl, rfl⟩ | hsign
    · obtain rfl : t = '#' :: rest' := (nextToken_eq_some_iff.mp htok).1
      rcases hsplit : splitAtToken '\n' rest' with ⟨name, after, found⟩
      rw [readPlain_comment, hsplit] at h
      cases h
      have hfound : found = true := by simpa [runsOn, hsplit] using hcomment
      rw [readPlain_comment, (splitAtToken_found (hfound ▸ hsplit)).2]
    · exact (local_readPlain hsign).append h hguard

end Construct

end Highlighting
