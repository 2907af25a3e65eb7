import Highlighting.Unicode.Blank
import Highlighting.Unicode.Case
import Highlighting.Unicode.Numeric

/-!
# What lower-casing moves

A code point that is not its own lower-case form, and every code point that is the lower-case form
of another one or has mates in a folding class, has another case between whatever bounds it lies.
Lower-casing moves no digit and no white space, and no word character to another kind.

All this can be told from the runs of the table, without a look at the single code points of most
runs. A check of a run says which of its properties the table is searched for, so that the search
is one of short rows.

## Main definitions

* `CaseRun.move`, `CaseRun.members` -- where a run moves its code points, and which they are.
* `Cased` -- a code point has another case, between whatever bounds it lies.
* `Ranges.covers`, `Ranges.misses` -- a whole range is in a list of ranges, or outside of it.
-/
namespace Highlighting.Unicode

/-! ## Runs -/

namespace CaseRun

/-- Where a run moves a code point that it holds. -/
def move (r : CaseRun) (n : Nat) : Nat := (n + r.offset).toNat

/-- The code points that a run holds. -/
def members (r : CaseRun) : List Nat :=
  (List.range ((r.last - r.first) / r.step + 1)).map fun i => r.first + r.step * i

theorem image?_eq_some_iff {r : CaseRun} {n m : Nat} : r.image? n = some m ↔
    (r.first ≤ n ∧ n ≤ r.last ∧ (n - r.first) % r.step = 0) ∧ r.move n = m := by
  unfold image? move
  split
  · next h => simp [h]
  · next h => simp [h]

variable {r : CaseRun} {n m : Nat}

theorem mem_members (h : r.image? n = some m) : n ∈ r.members := by
  obtain ⟨⟨hfirst, hlast, hstep⟩, -⟩ := image?_eq_some_iff.mp h
  have hdiv := Nat.div_add_mod (n - r.first) r.step
  refine List.mem_map.mpr ⟨(n - r.first) / r.step, List.mem_range.mpr ?_, by omega⟩
  exact Nat.lt_succ_of_le (Nat.div_le_div_right (by omega))

/-- A run has a code point between bounds if it moves one that lies there. -/
theorem meets_of_image (h : r.image? n = some m) {first last : Nat} (hfirst : first ≤ n)
    (hlast : n ≤ last) : r.meets first last = true := by
  obtain ⟨⟨hfirst', hlast', hstep⟩, -⟩ := image?_eq_some_iff.mp h
  have hdiv := Nat.div_add_mod (n - r.first) r.step
  have hleast : (first - r.first + (r.step - 1)) / r.step * r.step ≤ n - r.first := by
    rcases Nat.eq_zero_or_pos r.step with hzero | hpos
    · simp [hzero]
    · have hrounds : (first - r.first + (r.step - 1)) / r.step ≤ (n - r.first) / r.step := by
        have hlt : first - r.first + (r.step - 1) < r.step * ((n - r.first) / r.step + 1) := by
          rw [Nat.mul_add, Nat.mul_one]
          omega
        exact Nat.le_of_lt_succ (Nat.div_lt_of_lt_mul hlt)
      calc (first - r.first + (r.step - 1)) / r.step * r.step
          ≤ (n - r.first) / r.step * r.step := Nat.mul_le_mul_right _ hrounds
        _ ≤ n - r.first := Nat.div_mul_le_self _ _
  unfold meets
  dsimp only
  rw [decide_eq_true_eq, Nat.le_min]
  omega

/-- What a run moves lies between the images of its ends. -/
theorem move_bounds (h : r.image? n = some m) : r.move r.first ≤ m ∧ m ≤ r.move r.last := by
  obtain ⟨⟨hfirst, hlast, -⟩, rfl⟩ := image?_eq_some_iff.mp h
  unfold move
  omega

/-- Another run holds all code points that a run moves to. -/
def mapsInto (r u : CaseRun) : Bool :=
  Nat.blt 0 (r.move r.first) && Nat.ble u.first (r.move r.first) && Nat.ble (r.move r.last) u.last
    && Nat.beq ((r.move r.first - u.first) % u.step) 0 && Nat.beq (r.step % u.step) 0

theorem image?_of_mapsInto {u : CaseRun} (hu : r.mapsInto u = true) (h : r.image? n = some m) :
    u.image? m = some (u.move m) := by
  obtain ⟨hfirst', hlast'⟩ := move_bounds h
  obtain ⟨⟨hfirst, hlast, hstep⟩, rfl⟩ := image?_eq_some_iff.mp h
  simp only [mapsInto, Bool.and_eq_true, Nat.blt_eq, Nat.ble_eq, Nat.beq_eq] at hu
  obtain ⟨⟨⟨⟨hpositive, hufirst⟩, hulast⟩, hustart⟩, hustep⟩ := hu
  refine image?_eq_some_iff.mpr ⟨⟨by omega, by omega, ?_⟩, rfl⟩
  have hmoved : r.move n - u.first = r.move r.first - u.first + (n - r.first) := by
    unfold move at *
    omega
  rw [hmoved]
  have hrounds : u.step ∣ n - r.first :=
    Nat.dvd_trans (Nat.dvd_of_mod_eq_zero hustep) (Nat.dvd_of_mod_eq_zero hstep)
  exact Nat.mod_eq_zero_of_dvd (Nat.dvd_add (Nat.dvd_of_mod_eq_zero hustart) hrounds)

end CaseRun

/-! ## Code points with another case -/

/-- The code point has another case, between whatever bounds it lies. -/
def Cased (n : Nat) : Prop :=
  ∀ first last, first ≤ n → n ≤ last → hasCaseBetween first last = true

/-- The code point has an upper-case form. -/
def hasUpper (n : Nat) : Bool :=
  (Nat.ble 97 n && Nat.ble n 122) || upperRuns.any (fun r => (r.image? n).isSome)
    || upperExpansions.any (fun e => Nat.beq e.1 n)

theorem cased_of_hasUpper {n : Nat} (h : hasUpper n = true) : Cased n := by
  intro first last hfirst hlast
  simp only [hasUpper, Bool.or_eq_true, Bool.and_eq_true, Nat.ble_eq, List.any_eq_true, Nat.beq_eq,
    Option.isSome_iff_exists] at h
  simp only [hasCaseBetween, Bool.or_eq_true, List.any_eq_true, Bool.and_eq_true, decide_eq_true_eq]
  rcases h with (hascii | ⟨r, hr, m, hm⟩) | ⟨e, he, rfl⟩
  · have himage : (CaseRun.mk 97 122 1 (-32)).image? n = some (n + (-32 : Int)).toNat :=
      CaseRun.image?_eq_some_iff.mpr ⟨⟨hascii.1, hascii.2, Nat.mod_one _⟩, rfl⟩
    exact .inl (.inl (.inl (.inr (CaseRun.meets_of_image himage hfirst hlast))))
  · exact .inl (.inr ⟨r, hr, CaseRun.meets_of_image hm hfirst hlast⟩)
  · exact .inr ⟨e, he, hfirst, hlast⟩

/-- What the runs of the table move to has an upper-case form. -/
theorem hasUpper_lowerRuns : (lowerRuns.all fun r =>
    upperRuns.any r.mapsInto || r.members.all fun n => hasUpper (r.move n)) = true := by
  decide +kernel

theorem cased_of_image {r : CaseRun} (hr : r ∈ lowerRuns) {n m : Nat} (h : r.image? n = some m) :
    Cased n ∧ Cased m := by
  refine ⟨fun first last hfirst hlast => ?_, cased_of_hasUpper ?_⟩
  · simp only [hasCaseBetween, Bool.or_eq_true, List.any_eq_true]
    exact .inl (.inl (.inr ⟨r, hr, CaseRun.meets_of_image h hfirst hlast⟩))
  · have hrun := List.all_eq_true.mp hasUpper_lowerRuns r hr
    rw [Bool.or_eq_true, List.any_eq_true, List.all_eq_true] at hrun
    rcases hrun with ⟨u, hu, hmaps⟩ | hmembers
    · simp only [hasUpper, Bool.or_eq_true, List.any_eq_true]
      exact .inl (.inr ⟨u, hu, by rw [CaseRun.image?_of_mapsInto hmaps h]; rfl⟩)
    · rw [← (CaseRun.image?_eq_some_iff.mp h).2]
      exact hmembers n (CaseRun.mem_members h)

theorem cased_of_ascii {n : Nat} (h : 65 ≤ n ∧ n ≤ 90) : Cased n ∧ Cased (n + 32) := by
  refine ⟨fun first last hfirst hlast => ?_, cased_of_hasUpper ?_⟩
  · have himage : (CaseRun.mk 65 90 1 32).image? n = some (n + (32 : Int)).toNat :=
      CaseRun.image?_eq_some_iff.mpr ⟨⟨h.1, h.2, Nat.mod_one _⟩, rfl⟩
    simp only [hasCaseBetween, Bool.or_eq_true]
    exact .inl (.inl (.inl (.inl (CaseRun.meets_of_image himage hfirst hlast))))
  · simp only [hasUpper, Bool.or_eq_true, Bool.and_eq_true, Nat.ble_eq]
    exact .inl (.inl ⟨by omega, by omega⟩)

/-- How a code point is lower-cased: it stays, or a run moves it, or it is an ASCII letter. -/
theorem lowerCode_cases (n : Nat) : lowerCode n = n ∨
    (∃ r ∈ lowerRuns, 128 ≤ n ∧ r.image? n = some (lowerCode n)) ∨
    (65 ≤ n ∧ n ≤ 90) ∧ lowerCode n = n + 32 := by
  unfold lowerCode
  split
  · unfold asciiLowerCode
    split
    · next h => exact .inr (.inr ⟨h, rfl⟩)
    · exact .inl rfl
  · next hn =>
    cases hmoved : lowerRuns.findSome? (·.image? n) with
    | none => exact .inl rfl
    | some m =>
      obtain ⟨r, hr, hm⟩ := List.exists_of_findSome?_eq_some hmoved
      exact .inr (.inl ⟨r, hr, by omega, hm⟩)

/-- A code point that is moved has another case, and so has its lower-case form. -/
theorem cased_of_lowerCode_ne {n : Nat} (h : lowerCode n ≠ n) : Cased n ∧ Cased (lowerCode n) := by
  rcases lowerCode_cases n with hstays | ⟨r, hr, -, hm⟩ | ⟨hascii, hm⟩
  · exact absurd hstays h
  · exact cased_of_image hr hm
  · rw [hm]
    exact cased_of_ascii hascii

theorem hasUpper_foldClasses : (foldClasses.all fun mates => mates.all hasUpper) = true := by
  decide +kernel

/-- A code point with mates has another case, and so have these. -/
theorem cased_of_mem_foldMates {n m : Nat} (h : m ∈ foldMates n) : Cased n ∧ Cased m := by
  unfold foldMates at h
  split at h
  · next mates hfound =>
    have hmates := List.all_eq_true.mp (List.all_eq_true.mp hasUpper_foldClasses mates
      (List.mem_of_find?_eq_some hfound))
    have hn : n ∈ mates := by simpa using List.find?_some hfound
    exact ⟨cased_of_hasUpper (hmates n hn), cased_of_hasUpper (hmates m (List.mem_filter.mp h).1)⟩
  · exact absurd h List.not_mem_nil

/-- So has a code point that is the lower-case form of another one. -/
theorem cased_of_mem_lowerOrigins {n m : Nat} (h : n ∈ lowerOrigins m) : Cased n ∧ Cased m := by
  rcases List.mem_append.mp h with h | h
  · split at h
    · next hm =>
      obtain rfl := List.mem_singleton.mp h
      have hcased := cased_of_ascii (n := m - 32) (by omega)
      rwa [show m - 32 + 32 = m by omega] at hcased
    · exact absurd h List.not_mem_nil
  · obtain ⟨r, hr, horigin⟩ := List.mem_filterMap.mp h
    unfold CaseRun.origin? at horigin
    dsimp only at horigin
    split at horigin
    · next himage =>
      cases horigin
      exact cased_of_image hr himage
    · cases horigin

/-! ## Kinds of characters -/

namespace Ranges

/-- One range of the list holds all code points between two bounds. -/
def covers (rs : Ranges) (first last : Nat) : Bool :=
  rs.any fun r => Nat.ble r.1 first && Nat.ble last r.2

/-- No range of the list holds a code point between two bounds. -/
def misses (rs : Ranges) (first last : Nat) : Bool :=
  rs.all fun r => Nat.blt r.2 first || Nat.blt last r.1

variable {rs : Ranges} {first last n : Nat}

theorem contains_of_covers (h : rs.covers first last = true) (hfirst : first ≤ n)
    (hlast : n ≤ last) :
    rs.contains n = true := by
  obtain ⟨r, hr, hbounds⟩ := List.any_eq_true.mp h
  rw [Bool.and_eq_true, Nat.ble_eq, Nat.ble_eq] at hbounds
  exact contains_iff.mpr ⟨r, hr, by omega, by omega⟩

theorem contains_of_misses (h : rs.misses first last = true) (hfirst : first ≤ n)
    (hlast : n ≤ last) :
    rs.contains n = false := by
  rw [Bool.eq_false_iff]
  intro hcontains
  obtain ⟨r, hr, hbounds⟩ := contains_iff.mp hcontains
  have hmiss := List.all_eq_true.mp h r hr
  rw [Bool.or_eq_true, Nat.blt_eq, Nat.blt_eq] at hmiss
  omega

/-- A list of ranges holds all code points of a run and all that the run moves them to. -/
def coversRun (rs : Ranges) (r : CaseRun) : Bool :=
  rs.covers r.first r.last && rs.covers (r.move r.first) (r.move r.last)

/-- A list of ranges holds no code point of a run and none that the run moves one to. -/
def missesRun (rs : Ranges) (r : CaseRun) : Bool :=
  rs.misses r.first r.last && rs.misses (r.move r.first) (r.move r.last)

variable {r : CaseRun} {m : Nat}

theorem contains_of_coversRun (h : rs.coversRun r = true) (hm : r.image? n = some m) :
    rs.contains n = true ∧ rs.contains m = true := by
  obtain ⟨hfirst', hlast'⟩ := CaseRun.move_bounds hm
  obtain ⟨⟨hfirst, hlast, -⟩, -⟩ := CaseRun.image?_eq_some_iff.mp hm
  rw [coversRun, Bool.and_eq_true] at h
  exact ⟨contains_of_covers h.1 hfirst hlast, contains_of_covers h.2 hfirst' hlast'⟩

theorem contains_of_missesRun (h : rs.missesRun r = true) (hm : r.image? n = some m) :
    rs.contains n = false ∧ rs.contains m = false := by
  obtain ⟨hfirst', hlast'⟩ := CaseRun.move_bounds hm
  obtain ⟨⟨hfirst, hlast, -⟩, -⟩ := CaseRun.image?_eq_some_iff.mp hm
  rw [missesRun, Bool.and_eq_true] at h
  exact ⟨contains_of_misses h.1 hfirst hlast, contains_of_misses h.2 hfirst' hlast'⟩

end Ranges

/-- No run moves a code point to one that is no character. -/
theorem isValidChar_lowerRuns : (lowerRuns.all fun r => Nat.blt (r.move r.last) 0xD800 ||
    Nat.blt 0xDFFF (r.move r.first) && Nat.blt (r.move r.last) 0x110000) = true := by
  decide +kernel

/-- No run has to do with digits or with white space. -/
theorem digits_lowerRuns : (lowerRuns.all fun r =>
    decimal.missesRun r && blank.missesRun r && Nat.blt 57 (r.move r.first)) = true := by
  decide +kernel

/-- Each run above ASCII keeps to letters, or to numbers, or to other characters. The others are
short. -/
theorem words_lowerRuns : (lowerRuns.all fun r =>
    Nat.ble 128 (r.move r.first) && (alphabetic.coversRun r || numeric.coversRun r ||
      alphabetic.missesRun r && numeric.missesRun r) ||
    r.members.all fun n => isWordChar (Char.ofNat (r.move n)) == isWordChar (Char.ofNat n)) =
    true := by
  decide +kernel

theorem toNat_ofNat_of_valid {n : Nat} (h : n.isValidChar) : (Char.ofNat n).toNat = n := by
  rw [Char.ofNat, dif_pos h]
  rfl

/-- The lower-case form of a character is a character. -/
theorem toNat_ofNat_lowerCode (c : Char) :
    (Char.ofNat (lowerCode c.toNat)).toNat = lowerCode c.toNat := by
  rcases lowerCode_cases c.toNat with hstays | ⟨r, hr, -, hm⟩ | ⟨hascii, hm⟩
  · rw [hstays, Char.ofNat_toNat]
  · have hvalid := List.all_eq_true.mp isValidChar_lowerRuns r hr
    rw [Bool.or_eq_true, Bool.and_eq_true, Nat.blt_eq, Nat.blt_eq, Nat.blt_eq] at hvalid
    obtain ⟨hfirst, hlast⟩ := CaseRun.move_bounds hm
    refine toNat_ofNat_of_valid ?_
    unfold Nat.isValidChar
    omega
  · refine toNat_ofNat_of_valid ?_
    unfold Nat.isValidChar
    omega

theorem isWordChar_of_le {c : Char} (h : 128 ≤ c.toNat) :
    isWordChar c = (alphabetic.contains c.toNat || numeric.contains c.toNat) := by
  rw [isWordChar, if_neg (by omega)]

section Kinds
variable {r : CaseRun} (hr : r ∈ lowerRuns) {c d : Char} (hd : r.image? c.toNat = some d.toNat)
include hr hd

/-- A run moves word characters to word characters, and others to others. -/
theorem isWordChar_of_image (hc : 128 ≤ c.toNat) : isWordChar d = isWordChar c := by
  have hrun := List.all_eq_true.mp words_lowerRuns r hr
  rw [Bool.or_eq_true, Bool.and_eq_true] at hrun
  rcases hrun with ⟨habove, hkind⟩ | hmembers
  · have hd' : 128 ≤ d.toNat :=
      Nat.le_trans (Nat.le_of_ble_eq_true habove) (CaseRun.move_bounds hd).1
    rw [isWordChar_of_le hc, isWordChar_of_le hd']
    rw [Bool.or_eq_true, Bool.or_eq_true, Bool.and_eq_true] at hkind
    rcases hkind with (hletters | hnumbers) | ⟨hletters, hnumbers⟩
    · obtain ⟨hc', hd'⟩ := Ranges.contains_of_coversRun hletters hd
      rw [hc', hd', Bool.true_or, Bool.true_or]
    · obtain ⟨hc', hd'⟩ := Ranges.contains_of_coversRun hnumbers hd
      rw [hc', hd', Bool.or_true, Bool.or_true]
    · obtain ⟨hc', hd'⟩ := Ranges.contains_of_missesRun hletters hd
      obtain ⟨hc'', hd''⟩ := Ranges.contains_of_missesRun hnumbers hd
      rw [hc', hd', hc'', hd'']
  · have hsame := List.all_eq_true.mp hmembers c.toNat (CaseRun.mem_members hd)
    rwa [beq_iff_eq, (CaseRun.image?_eq_some_iff.mp hd).2, Char.ofNat_toNat, Char.ofNat_toNat]
      at hsame

/-- A run moves no digit, and nothing to a digit. -/
theorem isDecimal_of_image (hc : 128 ≤ c.toNat) : isDecimal c = false ∧ isDecimal d = false := by
  have hrun := List.all_eq_true.mp digits_lowerRuns r hr
  rw [Bool.and_eq_true, Bool.and_eq_true, Nat.blt_eq] at hrun
  obtain ⟨hc', hd'⟩ := Ranges.contains_of_missesRun hrun.1.1 hd
  have hlow := (CaseRun.move_bounds hd).1
  refine ⟨by rw [isDecimal, if_neg (by omega), hc'], ?_⟩
  unfold isDecimal
  split
  · have h9 : ¬ d.toNat ≤ 57 := by omega
    rw [Char.isDigit]
    exact Bool.and_eq_false_imp.mpr fun _ => decide_eq_false h9
  · exact hd'

/-- A run moves no white space, and nothing to white space. -/
theorem isBlank_of_image : isBlank c = false ∧ isBlank d = false := by
  have hrun := List.all_eq_true.mp digits_lowerRuns r hr
  rw [Bool.and_eq_true, Bool.and_eq_true] at hrun
  exact Ranges.contains_of_missesRun hrun.1.2 hd

end Kinds

end Highlighting.Unicode
