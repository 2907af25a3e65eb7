import Highlighting.Proofs.Ansi.Lexemes

/-!
# The rendition in force

A character of a text is shown in the rendition that the last sequence before it has selected.
A text made of such sequences leaves behind the last of them, whatever was in force before it.

## Main definitions

* `Ansi.Selects` -- sequences in a row that each select the rendition.
* `Ansi.rendered`, `Ansi.lastRendition` -- the last sequence that selects the rendition.
* `Ansi.shown` -- the visible characters of a text, each with the last such sequence before it.
-/
namespace Highlighting.Ansi

/-! ## Selecting the rendition -/

/-- The form of a sequence that selects the rendition. -/
theorem isRendition_iff {s : Text} : isRendition s = true ↔
    ∃ parameters : Text, s = esc :: '[' :: (parameters ++ ['m']) ∧
      ∀ c ∈ parameters, c.isDigit = true ∨ c = ';' := by
  constructor
  · intro h
    unfold isRendition at h
    split at h
    · next c rest =>
      rw [Bool.and_eq_true, beq_iff_eq, beq_iff_eq] at h
      obtain ⟨rfl, hrest⟩ := h
      refine ⟨rest.takeWhile isRenditionParameter, ?_, fun d hd => ?_⟩
      · rw [← hrest, List.takeWhile_append_dropWhile]
      · simpa [isRenditionParameter] using List.mem_takeWhile_imp hd
    · cases h
  · rintro ⟨parameters, rfl, h⟩
    have hdrop : (parameters ++ ['m']).dropWhile isRenditionParameter = ['m'] := by
      rw [List.dropWhile_append_of_pos fun c hc => by simpa [isRenditionParameter] using h c hc]
      rfl
    simp [isRendition, hdrop]

/-- A sequence that selects the rendition is a control sequence. -/
theorem isSequence_of_isRendition {s : Text} (h : isRendition s = true) : IsSequence s := by
  obtain ⟨parameters, rfl, hparameters⟩ := isRendition_iff.mp h
  have hparameter {c : Char} (hc : c.isDigit = true ∨ c = ';') : isParameter c = true := by
    rcases hc with hc | rfl
    · rw [isParameter_iff]
      simp only [Char.isDigit, Bool.and_eq_true, decide_eq_true_eq, UInt32.le_iff_toNat_le] at hc
      exact ⟨hc.1, Nat.le_trans hc.2 (by decide)⟩
    · decide
  have hbody : Body (parameters ++ ['m']) parameters [] 'm' :=
    ⟨rfl, fun c hc => hparameter (hparameters c hc), fun c hc => absurd hc List.not_mem_nil,
      by decide⟩
  have hread := body?_append hbody []
  rw [List.append_nil] at hread
  simp [IsSequence, sequenceAt?, hread]

/-- Nothing is selected by sequences none of which selects a rendition. -/
theorem renditions_eq_nil_iff {ss : List Text} :
    renditions ss = [] ↔ ss.filter isRendition = [] := by
  rw [renditions, List.flatten_eq_nil_iff, List.eq_nil_iff_forall_not_mem]
  refine forall_congr' fun s => ⟨fun h hs => ?_, fun h hs => absurd hs h⟩
  have hselects := (List.mem_filter.mp hs).2
  rw [h hs] at hselects
  cases hselects

/-- The text is made of sequences in a row that each select the rendition. -/
def Selects (t : Text) : Prop := ∃ ss : List Text, (∀ s ∈ ss, isRendition s = true) ∧ t = ss.flatten

theorem Selects.whole {t : Text} (h : Selects t) : Whole t := by
  obtain ⟨ss, hss, rfl⟩ := h
  exact ⟨ss, fun s hs => isSequence_of_isRendition (hss s hs), rfl⟩

/-- The renditions that a run selects. -/
theorem Selects.renditions (ss : List Text) : Selects (Ansi.renditions ss) :=
  ⟨_, fun _ hs => (List.mem_filter.mp hs).2, rfl⟩

/-! ## The rendition behind lexemes -/

/-- The last sequence that selects the rendition, behind lexemes. -/
def rendered (current : Option Text) : List Lexeme → Option Text
  | [] => current
  | .plain _ :: ls => rendered current ls
  | .sequence s :: ls => rendered (if isRendition s then some s else current) ls

/-- The visible characters among lexemes, each with the last sequence before it that selects the
rendition. -/
def shownFrom (current : Option Text) : List Lexeme → List (Char × Option Text)
  | [] => []
  | .plain c :: ls => (c, current) :: shownFrom current ls
  | .sequence s :: ls => shownFrom (if isRendition s then some s else current) ls

/-- The visible characters of a text, each with the last sequence before it that selects the
rendition. -/
def shown (t : Text) : List (Char × Option Text) :=
  shownFrom none (lexemes t)

/-- The last sequence of a text that selects the rendition. -/
def lastRendition (t : Text) : Option Text :=
  rendered none (lexemes t)

theorem rendered_append (current : Option Text) (ls ls' : List Lexeme) :
    rendered current (ls ++ ls') = rendered (rendered current ls) ls' := by
  induction ls generalizing current with
  | nil => rfl
  | cons l ls ih => cases l <;> exact ih _

theorem shownFrom_append (current : Option Text) (ls ls' : List Lexeme) :
    shownFrom current (ls ++ ls') =
      shownFrom current ls ++ shownFrom (rendered current ls) ls' := by
  induction ls generalizing current with
  | nil => rfl
  | cons l ls ih =>
    cases l with
    | plain c => exact congrArg _ (ih _)
    | sequence s => exact ih _

/-- The characters that are shown are those that are visible. -/
theorem map_fst_shown (t : Text) : (shown t).map (·.1) = strip t := by
  have h (ls : List Lexeme) (current : Option Text) :
      (shownFrom current ls).map (·.1) = ls.filterMap Lexeme.visible? := by
    induction ls generalizing current with
    | nil => rfl
    | cons l ls ih =>
      cases l with
      | plain c => exact congrArg (c :: ·) (ih current)
      | sequence s => exact ih _
  rw [shown, h, strip_eq_filterMap]

/-! ## What stands in the text -/

theorem rendered_eq_or (current : Option Text) (ls : List Lexeme) :
    rendered current ls = (rendered none ls).or current := by
  induction ls generalizing current with
  | nil => rfl
  | cons l ls ih =>
    cases l with
    | plain c => exact ih current
    | sequence s =>
      change rendered _ ls = (rendered _ ls).or current
      rw [ih, ih (if isRendition s = true then some s else none)]
      cases isRendition s <;> cases rendered none ls <;> rfl

theorem lastRendition_append {s : Text} (h : isRendition s = true) (u v : Text) :
    lastRendition (u ++ (s ++ v)) = (lastRendition v).or (some s) := by
  have hs := isSequence_of_isRendition h
  have hwhole : Whole s := ⟨[s], by simpa using hs, by simp⟩
  obtain ⟨tail, htail, -, -⟩ := hs.eq_cons
  rw [lastRendition, hwhole.lexemes_insert (by simp [htail]), rendered_append, rendered_append,
    rendered_eq_or, ← List.append_nil s, hs.lexemes_append, lexemes_nil]
  simp [rendered, h, lastRendition]

/-- The last sequence that selects the rendition stands in the text, with none behind it. -/
theorem lastRendition_eq_some_iff {t s : Text} : lastRendition t = some s ↔
    isRendition s = true ∧ ∃ u v, t = u ++ (s ++ v) ∧ lastRendition v = none := by
  constructor
  · intro h
    induction t using lexeme_induction with
    | nil => cases h
    | sequence s' rest hs ih =>
      rw [lastRendition, hs.lexemes_append] at h
      change rendered (if isRendition s' then some s' else none) (lexemes rest) = some s at h
      rw [rendered_eq_or] at h
      cases hrest : rendered none (lexemes rest) with
      | some s'' =>
        rw [hrest] at h
        obtain ⟨hselects, u, v, rfl, hv⟩ := ih (hrest.trans h)
        exact ⟨hselects, s' ++ u, v, (List.append_assoc _ _ _).symm, hv⟩
      | none =>
        rw [hrest, Option.none_or] at h
        split at h
        · next hselects =>
          cases h
          exact ⟨hselects, [], rest, rfl, hrest⟩
        · cases h
    | plain c rest hc ih =>
      rw [lastRendition, lexemes_cons hc] at h
      obtain ⟨hselects, u, v, rfl, hv⟩ := ih h
      exact ⟨hselects, c :: u, v, rfl, hv⟩
  · rintro ⟨hs, u, v, rfl, hv⟩
    rw [lastRendition_append hs, hv]
    rfl

theorem lastRendition_eq_none_iff {t : Text} : lastRendition t = none ↔
    ∀ u s v, isRendition s = true → t ≠ u ++ (s ++ v) := by
  constructor
  · rintro h u s v hs rfl
    rw [lastRendition_append hs] at h
    cases hv : lastRendition v <;> simp [hv] at h
  · intro h
    by_contra hsome
    obtain ⟨s, hs⟩ := Option.ne_none_iff_exists'.mp hsome
    obtain ⟨hselects, u, v, ht, -⟩ := lastRendition_eq_some_iff.mp hs
    exact h u s v hselects ht

/-- A character is shown if it stands outside of sequences. What stands before it selects the
rendition. -/
theorem getElem?_shown {t : Text} {i : Nat} {c : Char} {before : Option Text} :
    (shown t)[i]? = some (c, before) ↔ ∃ u v, t = u ++ c :: v ∧
      lexemes t = lexemes u ++ .plain c :: lexemes v ∧ before = lastRendition u ∧
      (strip u).length = i := by
  have hsplit (ls : List Lexeme) (current : Option Text) (i : Nat)
      (h : (shownFrom current ls)[i]? = some (c, before)) :
      ∃ us vs, ls = us ++ .plain c :: vs ∧ before = rendered current us ∧
        (us.filterMap Lexeme.visible?).length = i := by
    induction ls generalizing current i with
    | nil => simp [shownFrom] at h
    | cons l ls ih =>
      cases l with
      | plain d =>
        cases i with
        | zero =>
          cases h
          exact ⟨[], ls, rfl, rfl, rfl⟩
        | succ i =>
          obtain ⟨us, vs, rfl, hbefore, hi⟩ := ih current i h
          exact ⟨.plain d :: us, vs, rfl, hbefore, congrArg (· + 1) hi⟩
      | sequence s =>
        obtain ⟨us, vs, rfl, hbefore, hi⟩ := ih _ i h
        exact ⟨.sequence s :: us, vs, rfl, hbefore, hi⟩
  constructor
  · intro h
    obtain ⟨us, vs, ht, hbefore, hi⟩ := hsplit _ _ _ h
    have hus := lexemes_of_append ht
    rw [← List.singleton_append, ← List.append_assoc] at ht
    have hvs := (lexemes_of_append ht).2
    refine ⟨us.flatMap Lexeme.text, vs.flatMap Lexeme.text, ?_, ?_, ?_, ?_⟩
    · rw [← flatMap_lexemes t, ht]
      simp [Lexeme.text]
    · rw [ht, hus.1, hvs]
      simp
    · rw [lastRendition, hus.1, hbefore]
    · rw [strip_eq_filterMap, hus.1, hi]
  · rintro ⟨u, v, -, hlexemes, rfl, rfl⟩
    have hlength : (shownFrom none (lexemes u)).length = (strip u).length := by
      rw [← map_fst_shown, List.length_map, shown]
    rw [shown, hlexemes, shownFrom_append, ← hlength, List.getElem?_append_right (Nat.le_refl _),
      Nat.sub_self]
    rfl

/-! ## What sequences and characters show -/

section Plain
variable (current : Option Text) (t : Text)

theorem rendered_plain : rendered current (t.map .plain) = current := by
  induction t with
  | nil => rfl
  | cons c t ih => exact ih

theorem shownFrom_plain : shownFrom current (t.map .plain) = t.map fun c => (c, current) := by
  induction t with
  | nil => rfl
  | cons c t ih => exact congrArg ((c, current) :: ·) ih

end Plain

theorem shownFrom_sequences (current : Option Text) (ss : List Text) :
    shownFrom current (ss.map .sequence) = [] := by
  induction ss generalizing current with
  | nil => rfl
  | cons s ss ih => exact ih _

theorem rendered_sequences (current : Option Text) (ss : List Text) :
    rendered current (ss.map .sequence) = ((ss.filter isRendition).getLast?).or current := by
  induction ss generalizing current with
  | nil => rfl
  | cons s ss ih =>
    change rendered _ (ss.map .sequence) = _
    rw [ih, List.filter_cons]
    cases isRendition s with
    | true =>
      simp only [if_true]
      rw [List.getLast?_cons]
      cases (ss.filter isRendition).getLast? <;> rfl
    | false => rfl

namespace Selects
variable {t : Text}

/-- The lexemes of sequences in a row. -/
theorem lexemes_eq (h : Selects t) : ∃ ss : List Text, (∀ s ∈ ss, isRendition s = true) ∧
    t = ss.flatten ∧ lexemes t = ss.map .sequence := by
  obtain ⟨ss, hss, rfl⟩ := h
  have := Whole.lexemes_flatten_append (fun s hs => isSequence_of_isRendition (hss s hs)) []
  rw [List.append_nil, lexemes_nil, List.append_nil] at this
  exact ⟨ss, hss, rfl, this⟩

/-- Nothing of it is shown. -/
theorem shownFrom_eq_nil (h : Selects t) (current : Option Text) :
    shownFrom current (lexemes t) = [] := by
  obtain ⟨ss, -, -, hlexemes⟩ := h.lexemes_eq
  rw [hlexemes, shownFrom_sequences]

/-- **It leaves its last sequence behind**, whatever was selected before. -/
theorem rendered_eq (h : Selects t) (hne : t ≠ []) (current : Option Text) :
    rendered current (lexemes t) = lastRendition t := by
  obtain ⟨ss, hss, rfl, hlexemes⟩ := h.lexemes_eq
  have hne : ss ≠ [] := fun hnil => hne (by rw [hnil]; rfl)
  rw [lastRendition, hlexemes, rendered_sequences, rendered_sequences,
    List.filter_eq_self.mpr hss, List.getLast?_eq_some_getLast hne]
  rfl

end Selects

/-- The escape that is active behind a run leaves what the run leaves. -/
theorem rendered_activeAfter (active : Text) (ss : List Text) :
    rendered (lastRendition active) (ss.map .sequence) = lastRendition (activeAfter active ss) := by
  unfold activeAfter
  rw [rendered_sequences]
  split
  · next hnil =>
    rw [renditions_eq_nil_iff.mp hnil]
    rfl
  · next hne =>
    have hselected : ss.filter isRendition ≠ [] := renditions_eq_nil_iff.not.mp hne
    have hall : ∀ s ∈ ss.filter isRendition, IsSequence s := fun s hs =>
      isSequence_of_isRendition (List.mem_filter.mp hs).2
    have hlexemes := Whole.lexemes_flatten_append hall []
    rw [List.append_nil, lexemes_nil, List.append_nil] at hlexemes
    have hlast : lastRendition (renditions ss) = (ss.filter isRendition).getLast? := by
      rw [lastRendition, renditions, hlexemes, rendered_sequences, List.filter_filter]
      simp
    rw [hlast, List.getLast?_eq_some_getLast hselected]
    rfl

end Highlighting.Ansi
