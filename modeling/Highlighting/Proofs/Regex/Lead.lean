import Highlighting.Proofs.Regex.Parts
import Highlighting.Proofs.Unicode.Case

/-!
# The first character of a match

A search passes over the positions whose character cannot be the first one of a match. What it looks
for is told from the expression: a plain character that the expression begins with, those that its
alternatives begin with, or a class. A class is compared with characters as they stand, though the
expression compares their lower-case forms. That makes no difference where no member of the class
has another case, and where the class is read in ASCII or in Unicode as the whole pattern is.

## Main definitions

* `Folding.Moves` -- a code point has another case, between whatever bounds it lies.
-/
namespace Highlighting

/-! ## Classes without case -/

namespace Folding

/-- The code point has another case under the folding, between whatever bounds it lies. -/
def Moves (f : Folding) (n : Nat) : Prop :=
  ∀ first last, first ≤ n → n ≤ last → f.concerns first last = true

theorem moves_ascii {n : Nat} (h : 65 ≤ n ∧ n ≤ 90 ∨ 97 ≤ n ∧ n ≤ 122) : ascii.Moves n := by
  intro first last hfirst hlast
  simp only [concerns, Bool.or_eq_true, decide_eq_true_eq]
  omega

/-- What does not move has itself for a lower-case form. -/
theorem code_eq_of_not_moves {f : Folding} {n : Nat} (h : ¬ f.Moves n) : f.code n = n := by
  cases f with
  | exact => rfl
  | ascii =>
    change Unicode.asciiLowerCode n = n
    unfold Unicode.asciiLowerCode
    split
    · next hn => exact absurd (moves_ascii (.inl hn)) h
    · rfl
  | unicode =>
    by_contra hne
    exact h (Unicode.cased_of_lowerCode_ne hne).1

theorem mem_variants_self (f : Folding) (n : Nat) : n ∈ f.variants n := by
  cases f with
  | exact => exact List.mem_singleton_self n
  | ascii =>
    unfold variants
    dsimp only
    split <;> exact List.mem_cons_self
  | unicode => exact List.mem_cons_self

/-- A code point that equals another one has another case. -/
theorem eq_or_moves_of_mem_variants {f : Folding} {n m : Nat} (h : m ∈ f.variants (f.code n)) :
    m = n ∨ f.Moves m := by
  cases f with
  | exact => exact .inl (List.mem_singleton.mp h)
  | ascii =>
    change m ∈ ascii.variants (Unicode.asciiLowerCode n) at h
    unfold variants Unicode.asciiLowerCode at h
    dsimp only at h
    by_cases hn : 65 ≤ n ∧ n ≤ 90
    · right
      rw [if_pos hn, if_pos (by omega), List.mem_cons, List.mem_singleton] at h
      exact moves_ascii (by omega)
    · rw [if_neg hn] at h
      split at h
      · rw [List.mem_cons, List.mem_singleton] at h
        exact .inr (moves_ascii (by omega))
      · exact .inl (List.mem_singleton.mp h)
  | unicode =>
    obtain ⟨l, hl, hm⟩ := List.mem_flatMap.mp h
    rcases List.mem_cons.mp hm with rfl | hm
    · rcases List.mem_cons.mp hl with rfl | hl
      · by_cases hstays : Unicode.lowerCode n = n
        · exact .inl hstays
        · exact .inr (Unicode.cased_of_lowerCode_ne hstays).2
      · exact .inr (Unicode.cased_of_mem_foldMates hl).2
    · exact .inr (Unicode.cased_of_mem_lowerOrigins hm).1

/-- The lower-case form of a character is a character. -/
theorem toNat_ofNat_code (f : Folding) (c : Char) :
    (Char.ofNat (f.code c.toNat)).toNat = f.code c.toNat := by
  cases f with
  | exact => exact congrArg Char.toNat (Char.ofNat_toNat c)
  | ascii =>
    change (Char.ofNat (Unicode.asciiLowerCode c.toNat)).toNat = Unicode.asciiLowerCode c.toNat
    unfold Unicode.asciiLowerCode
    split
    · exact Unicode.toNat_ofNat_of_valid (.inl (by omega))
    · rw [Char.ofNat_toNat]
  | unicode => exact Unicode.toNat_ofNat_lowerCode c

end Folding

/-- An ASCII letter is of the same categories in both cases. -/
theorem Category.holds_ofNat_add {n : Nat} (h : 65 ≤ n ∧ n ≤ 90) (ascii : Bool) (kind : Category) :
    kind.holds ascii (Char.ofNat (n + 32)) = kind.holds ascii (Char.ofNat n) := by
  have hall : ∀ i < 26, ∀ ascii : Bool, ∀ kind ∈ [digit, space, word],
      kind.holds ascii (Char.ofNat (65 + i + 32)) = kind.holds ascii (Char.ofNat (65 + i)) := by
    decide +kernel
  obtain ⟨i, rfl⟩ : ∃ i, n = 65 + i := ⟨n - 65, by omega⟩
  exact hall i (by omega) ascii kind (by cases kind <;> simp)

/-- A character is of the same categories as its lower-case form, unless letters are compared in
Unicode and categories are cut down to ASCII. -/
theorem Category.holds_code {f : Folding} {ascii : Bool} (hf : f = .unicode → ascii = false)
    (c : Char) (kind : Category) :
    kind.holds ascii (Char.ofNat (f.code c.toNat)) = kind.holds ascii c := by
  cases f with
  | exact => exact congrArg (kind.holds ascii ·) (Char.ofNat_toNat c)
  | ascii =>
    change kind.holds ascii (Char.ofNat (Unicode.asciiLowerCode c.toNat)) = _
    unfold Unicode.asciiLowerCode
    split
    · next hc => rw [holds_ofNat_add hc, Char.ofNat_toNat]
    · rw [Char.ofNat_toNat]
  | unicode =>
    obtain rfl := hf rfl
    change kind.holds false (Char.ofNat (Unicode.lowerCode c.toNat)) = _
    rcases Unicode.lowerCode_cases c.toNat with hstays | ⟨r, hr, hc, hm⟩ | ⟨hascii, hm⟩
    · rw [hstays, Char.ofNat_toNat]
    · rw [← Unicode.toNat_ofNat_lowerCode] at hm
      cases kind with
      | digit =>
        obtain ⟨hdigit, hdigit'⟩ := Unicode.isDecimal_of_image hr hm hc
        exact hdigit'.trans hdigit.symm
      | space =>
        obtain ⟨hblank, hblank'⟩ := Unicode.isBlank_of_image hr hm
        exact hblank'.trans hblank.symm
      | word => exact Unicode.isWordChar_of_image hr hm hc
    · rw [hm, holds_ofNat_add hascii, Char.ofNat_toNat]

/-- A member without case holds the characters that it holds as they stand. -/
theorem ClassItem.holds_code {f : Folding} {ascii : Bool} (hf : f = .unicode → ascii = false)
    {item : ClassItem} (hitem : item.blurs f = false) (c : Char) :
    item.holds f ascii (Char.ofNat (f.code c.toNat)) = item.holds .exact ascii c := by
  have hcode := f.toNat_ofNat_code c
  cases item with
  | code n =>
    have hn : ¬ f.Moves n := by
      intro hmoves
      have hcase : (code n).hasCase f = true := hmoves n n (Nat.le_refl _) (Nat.le_refl _)
      simp [blurs, hcase] at hitem
    have hsame : n ∈ f.variants (f.code c.toNat) ↔ n = c.toNat := by
      refine ⟨fun hmem => (Folding.eq_or_moves_of_mem_variants hmem).resolve_right hn, ?_⟩
      rintro rfl
      rw [Folding.code_eq_of_not_moves hn]
      exact f.mem_variants_self _
    unfold holds
    dsimp only
    rw [hcode, Bool.eq_iff_iff]
    split
    · rw [beq_iff_eq, beq_iff_eq]
      constructor
      · rintro rfl
        exact (hsame.mp (f.mem_variants_self _)).symm
      · rintro rfl
        exact Folding.code_eq_of_not_moves hn
    · simpa [Folding.variants] using hsame
  | span first last =>
    by_cases hexact : f = .exact
    · subst hexact
      exact congrArg ((span first last).holds .exact ascii ·) (Char.ofNat_toNat c)
    · simp only [blurs, hasCase, Bool.or_eq_false_iff, Bool.and_eq_false_iff, bne_eq_false_iff_eq,
        hexact, false_or, decide_eq_false_iff_not] at hitem
      obtain ⟨hcase, habove⟩ := hitem
      have hinside (m : Nat) (hm : first ≤ m ∧ m ≤ min last foldLimit) : ¬ f.Moves m := fun hmoves => by
        rw [hmoves first last hm.1 (by omega)] at hcase
        cases hcase
      have hsame : (∃ m ∈ f.variants (f.code c.toNat), first ≤ m ∧ m ≤ min last foldLimit) ↔
          first ≤ c.toNat ∧ c.toNat ≤ min last foldLimit := by
        constructor
        · rintro ⟨m, hmem, hm⟩
          obtain rfl := (Folding.eq_or_moves_of_mem_variants hmem).resolve_right (hinside m hm)
          exact hm
        · intro hc
          refine ⟨c.toNat, ?_, hc⟩
          rw [Folding.code_eq_of_not_moves (hinside _ hc)]
          exact f.mem_variants_self _
      unfold holds
      simp only [hcode, decide_eq_false habove, Bool.false_and, Bool.or_false]
      rw [Bool.eq_iff_iff, List.any_eq_true]
      simpa [Folding.variants] using hsame
  | category kind negated => exact congrArg (· != negated) (Category.holds_code hf c kind)

namespace CharTest

/-- What a search looks for in place of a condition holds where the condition does. -/
theorem holds_of_lead? {ascii : Bool} {t t' : CharTest} (ht : t.InType ascii)
    (h : t.lead? ascii = some t') {c : Char} (hc : t.holds c = true) : t'.holds c = true := by
  cases t with
  | any => cases h
  | notNewline => cases h
  | literal f negated n =>
    cases f <;> cases negated <;> cases h
    exact hc
  | set f a negated items =>
    obtain ⟨rfl, hf⟩ := ht
    unfold lead? at h
    dsimp only at h
    split at h
    · cases h
    · next hblurs =>
      cases h
      rw [Bool.not_eq_true, List.any_eq_false] at hblurs
      have hmembers : items.any (ClassItem.holds f a (Char.ofNat (f.code c.toNat))) =
          items.any (ClassItem.holds .exact a (Char.ofNat (Folding.exact.code c.toNat))) := by
        rw [Bool.eq_iff_iff, List.any_eq_true, List.any_eq_true]
        refine exists_congr fun item => and_congr_right fun hitem => ?_
        rw [ClassItem.holds_code hf (Bool.eq_false_iff.mpr (hblurs item hitem)) c]
        exact iff_of_eq (congrArg (ClassItem.holds .exact a · item = true) (Char.ofNat_toNat c).symm)
      unfold holds at hc ⊢
      dsimp only at hc ⊢
      rwa [← hmembers]

/-- A class of code points holds each of them as it stands. -/
theorem holds_codes {ascii : Bool} {ns : List Nat} {n : Nat} (hn : n ∈ ns) {c : Char}
    (hc : (literal .exact false n).holds c = true) :
    (set .exact ascii false (ns.map .code)).holds c = true := by
  have heq : c.toNat = n := by simpa [holds, Folding.code, Folding.mates] using hc
  have hitem : ClassItem.holds .exact ascii (Char.ofNat (Folding.exact.code c.toNat)) (.code n) =
    true := by
    rw [Folding.code, Char.ofNat_toNat, ClassItem.holds]
    split <;> simp [heq, Folding.variants]
  unfold holds
  simp only [Bool.bne_false, List.any_eq_true]
  exact ⟨.code n, List.mem_map_of_mem hn, hitem⟩

theorem eq_of_exactCode? {t : CharTest} {n : Nat} (h : t.exactCode? = some n) :
    t = literal .exact false n := by
  unfold exactCode? at h
  split at h
  · cases h
    rfl
  · cases h

theorem holdsAt_iff {s : Subject} {pos : Nat} {t : CharTest} :
    t.holdsAt s pos = true ↔ ∃ c, s[pos]? = some c ∧ t.holds c = true := by
  unfold holdsAt
  split
  · next c hc => simp [hc]
  · next hc => simp [hc]

end CharTest

/-! ## How an expression begins -/

namespace Regex
variable {s : Subject}

theorem opener_char_eq_code_iff {test : CharTest} {n : Nat} :
    (char test).opener = .code n ↔ test = .literal .exact false n := by
  unfold opener
  split <;> simp_all

theorem opener_char_ne_nothing (test : CharTest) : (char test).opener ≠ .nothing := by
  unfold opener
  split <;> simp_all

/-- A match begins with the character that the expression begins with. Where that takes none, the
rest is matched at the same position. -/
theorem opener_of_matched (r : Regex) {re : Bool} {next : Option CharTest} {k : Rest}
    {st t : MatchState} (h : r.run s re next k st = .matched t) :
    (r.opener = .nothing → ∃ u : MatchState, u.pos = st.pos ∧ k u = .matched t) ∧
      ∀ n, r.opener = .code n → (CharTest.literal .exact false n).holdsAt s st.pos = true := by
  induction r generalizing re next k st with
  | empty => exact ⟨fun _ => ⟨st, rfl, h⟩, fun n hn => by simp [opener] at hn⟩
  | char test =>
    rw [run] at h
    split at h
    · next hholds =>
      exact ⟨fun hr => absurd hr (opener_char_ne_nothing test),
        fun n hn => opener_char_eq_code_iff.mp hn ▸ hholds⟩
    · cases h
  | seq r₁ r₂ ih₁ ih₂ =>
    rw [run] at h
    obtain ⟨hnothing, hcode⟩ := ih₁ h
    unfold opener
    split
    · next hfirst =>
      obtain ⟨u, hu, h⟩ := hnothing hfirst
      exact hu ▸ ih₂ h
    · next hfirst => exact ⟨fun hr => absurd hr hfirst, hcode⟩
  | capture g r ih =>
    rw [run] at h
    obtain ⟨hnothing, hcode⟩ := ih h
    refine ⟨fun hr => ?_, hcode⟩
    obtain ⟨u, hu, h⟩ := hnothing hr
    exact ⟨{ u with marks := u.marks.closed g u.pos }, hu, h⟩
  | _ => simp [opener]

/-- A match begins with a character that meets the condition with which the expression begins. -/
theorem firstTest_of_matched (r : Regex) {after : Option CharTest} {test : CharTest}
    (hr : r.firstTest? after = some test) {re : Bool} {next : Option CharTest} {k : Rest}
    {st t : MatchState} (h : r.run s re next k st = .matched t) :
    test.holdsAt s st.pos = true ∨
      after = some test ∧ ∃ u : MatchState, u.pos = st.pos ∧ k u = .matched t := by
  induction r generalizing after re next k st with
  | empty => exact .inr ⟨hr, st, rfl, h⟩
  | char test' =>
    cases hr
    rw [run] at h
    split at h
    · next hholds => exact .inl hholds
    · cases h
  | seq r₁ r₂ ih₁ ih₂ =>
    rw [run] at h
    rcases ih₁ hr h with hholds | ⟨hsecond, u, hu, h⟩
    · exact .inl hholds
    · exact hu ▸ ih₂ hsecond h
  | _ => cases hr

/-- A match of alternatives begins with a character with which one of them begins. -/
theorem branchCodes_of_matched (r : Regex) {ns : List Nat} (hr : r.branchCodes? = some ns)
    {re : Bool} {next : Option CharTest} {k : Rest} {st t : MatchState}
    (h : r.run s re next k st = .matched t) :
    ∃ n ∈ ns, (CharTest.literal .exact false n).holdsAt s st.pos = true := by
  induction r generalizing ns re next k st with
  | never => cases h
  | alt r₁ r₂ _ ih₂ =>
    unfold branchCodes? at hr
    split at hr
    · next n ns' hfirst hothers =>
      cases hr
      obtain ⟨test, htest, hcode⟩ := Option.bind_eq_some_iff.mp hfirst
      obtain rfl := CharTest.eq_of_exactCode? hcode
      have hsecond {u : MatchState} (hu : u.pos = st.pos) (h : r₂.run s re next k u = .matched t) :
          ∃ n' ∈ n :: ns', (CharTest.literal .exact false n').holdsAt s st.pos = true := by
        obtain ⟨n', hn', hholds⟩ := ih₂ hothers h
        exact ⟨n', List.mem_cons_of_mem _ hn', hu ▸ hholds⟩
      rw [run] at h
      split at h
      · exact hsecond rfl h
      · rcases Attempt.orElse_eq_matched_iff.mp h with h | ⟨noted, m, -, h⟩
        · rcases firstTest_of_matched r₁ htest h with hholds | ⟨hnone, -⟩
          · exact ⟨n, List.mem_cons_self, hholds⟩
          · cases hnone
        · exact hsecond (by rfl) h
    · cases hr
  | _ => cases hr

/-- A match begins with a character of the class that a search looks for. -/
theorem leadClass_of_matched (r : Regex) {ascii : Bool} (htype : r.InType ascii) {test : CharTest}
    (hr : r.leadClass? ascii = some test) {re : Bool} {next : Option CharTest} {k : Rest}
    {st t : MatchState} (h : r.run s re next k st = .matched t) : test.holdsAt s st.pos = true := by
  induction r generalizing re next k st with
  | char test' =>
    rw [run] at h
    split at h
    · next hholds =>
      obtain ⟨c, hc, hholds⟩ := CharTest.holdsAt_iff.mp hholds
      exact CharTest.holdsAt_iff.mpr ⟨c, hc, CharTest.holds_of_lead? htype hr hholds⟩
    · cases h
  | seq r₁ r₂ ih₁ _ =>
    rw [run] at h
    exact ih₁ htype.1 hr h
  | capture g r ih =>
    rw [run] at h
    have hbody := ih htype.2 hr h
    exact hbody
  | alt r₁ r₂ _ _ =>
    obtain ⟨ns, hns, rfl⟩ := Option.map_eq_some_iff.mp hr
    obtain ⟨n, hn, hholds⟩ := branchCodes_of_matched _ hns h
    obtain ⟨c, hc, hholds⟩ := CharTest.holdsAt_iff.mp hholds
    exact CharTest.holdsAt_iff.mpr ⟨c, hc, CharTest.holds_codes hn hholds⟩
  | _ => cases hr

/-- **A match begins with a character that a search looks for**, if no class is read otherwise than
the whole pattern. -/
theorem lead_of_matchAt {r : Regex} {ascii : Bool} (htype : r.InType ascii) {test : CharTest}
    (hr : r.lead? ascii = some test) {pos : Nat} {t : MatchState}
    (h : r.matchAt s pos = .matched t) : test.holdsAt s pos = true := by
  unfold lead? at hr
  split at hr
  · next n hn =>
    cases hr
    exact (opener_of_matched r h).2 n hn
  · exact leadClass_of_matched r htype hr h

end Regex

end Highlighting
