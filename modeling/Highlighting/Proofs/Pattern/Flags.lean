import Highlighting.Pattern
import Highlighting.Proofs.Result
import Mathlib.Algebra.BigOperators.Group.List.Basic
import Mathlib.Algebra.GroupWithZero.Nat
import Mathlib.Data.List.Sublists
import Mathlib.Data.Set.List

/-!
# Flags and their value

Letters are read one after the other, and the first that is at fault ends this. What was read before
it are letters of different flags. So letters are read to the end exactly if each names a flag and
none occurs twice.

Each flag has a place of its own in the value of some flags, and the bit at its place is set exactly
if the flag is among them. So the value tells which flags there are. It does not tell their order or
how often they occur, and so it is the sum of the bits where no flag occurs twice.

The modes under which a pattern is read are told by the flags as well, one for each letter.

## Main definitions

* `Flag.place` -- the place of a flag's bit.
* `Flag.letters` -- the letters that name flags.

## Main statements

* `Flag.value_eq_iff` -- the value tells which flags there are.
* `Flag.parse_eq_ok_iff`, `Flag.exists_of_parse_eq_error` -- what letters are read as.
* `Pattern.flagValue_folds` -- what the value of letters is, and how reading them fails.
* `Pattern.modes_eq_ok_iff` -- what modes flags ask for.
-/
namespace Highlighting

namespace Flag
variable {fs gs seen : List Flag} {ls : List String}

/-! ## The value -/

/-- The place of the bit of a flag. -/
def place : Flag → Nat
  | ascii => 8
  | ignoreCase => 1
  | multiline => 3
  | dotAll => 4
  | verbose => 6

theorem bit_eq_two_pow (f : Flag) : f.bit = 2 ^ f.place := by
  cases f <;> rfl

theorem place_injective : Function.Injective place := by
  intro f g h
  cases f <;> cases g <;> first | rfl | cases h

/-- A bit that is set was set before, or it is the bit of one of the flags. -/
theorem testBit_foldl (n i : Nat) :
    (fs.foldl (fun n f => n ||| f.bit) n).testBit i = (n.testBit i || fs.any (·.place = i)) := by
  induction fs generalizing n with
  | nil => simp
  | cons f fs ih =>
    rw [List.foldl_cons, ih, Nat.testBit_or, bit_eq_two_pow, Nat.testBit_two_pow, List.any_cons,
      Bool.or_assoc]

theorem testBit_value_iff {i : Nat} : (value fs).testBit i = true ↔ ∃ f ∈ fs, f.place = i := by
  simp [value, testBit_foldl]

/-- **The bit of a flag is set exactly if the flag is there.** -/
theorem mem_iff_testBit_value {f : Flag} : f ∈ fs ↔ (value fs).testBit f.place = true := by
  rw [testBit_value_iff]
  exact ⟨fun h => ⟨f, h, rfl⟩, fun ⟨g, hg, h⟩ => place_injective h ▸ hg⟩

/-- **The value tells which flags there are**, and no more. -/
theorem value_eq_iff : value fs = value gs ↔ ∀ f, f ∈ fs ↔ f ∈ gs := by
  constructor
  · intro h f
    rw [mem_iff_testBit_value, mem_iff_testBit_value, h]
  · intro h
    refine Nat.eq_of_testBit_eq fun i => Bool.eq_iff_iff.mpr ?_
    rw [testBit_value_iff, testBit_value_iff]
    simp only [h]

/-- Flags that occur once have the same value exactly in any order. -/
theorem value_eq_iff_perm (hfs : fs.Nodup) (hgs : gs.Nodup) : value fs = value gs ↔ fs.Perm gs := by
  rw [value_eq_iff, List.perm_ext_iff_of_nodup hfs hgs]

/-- The value of flags that stand in the order of all flags, each once, is the sum of their bits. -/
theorem value_of_sublist (h : fs.Sublist all) : value fs = (fs.map bit).sum := by
  have hsum : ∀ fs ∈ all.sublists, value fs = (fs.map bit).sum := by decide
  exact hsum fs (List.mem_sublists.mpr h)

theorem mem_all (f : Flag) : f ∈ all := by
  cases f <;> decide

/-- **The value of flags is the sum of the bits of those that are there**, each counted once. -/
theorem value_eq_sum : value fs = ((all.filter (· ∈ fs)).map bit).sum := by
  rw [← value_of_sublist List.filter_sublist, value_eq_iff]
  simp [mem_all]

/-! ## Reading letters -/

/-- The letters that name flags. -/
def letters : List String := ["a", "i", "m", "s", "x"]

theorem letter_mem (f : Flag) : f.letter ∈ letters := by
  cases f <;> decide

theorem letter_injective : Function.Injective letter := by
  intro f g h
  have hletter : ofLetter? f.letter = ofLetter? g.letter := congrArg ofLetter? h
  simpa using hletter

theorem mem_letters_iff {s : String} : s ∈ letters ↔ ∃ f : Flag, f.letter = s := by
  constructor
  · intro h
    have hall : letters = all.map letter := rfl
    obtain ⟨f, -, hf⟩ := List.mem_map.mp (hall ▸ h)
    exact ⟨f, hf⟩
  · rintro ⟨f, rfl⟩
    exact letter_mem f

theorem ofLetter?_eq_none_iff {s : String} : ofLetter? s = none ↔ s ∉ letters := by
  rw [mem_letters_iff]
  cases h : ofLetter? s with
  | none =>
    simp only [true_iff, not_exists]
    rintro f rfl
    simp at h
  | some f => simpa using ⟨f, letter_of_ofLetter? h⟩

/-- Letters are those of different flags exactly if each names a flag and none occurs twice. -/
theorem exists_map_letter_iff :
    (∃ fs : List Flag, ls = fs.map letter ∧ fs.Nodup) ↔ (∀ s ∈ ls, s ∈ letters) ∧ ls.Nodup := by
  constructor
  · rintro ⟨fs, rfl, hnodup⟩
    exact ⟨List.forall_mem_map.mpr fun f _ => letter_mem f, hnodup.map letter_injective⟩
  · rintro ⟨hknown, hnodup⟩
    have hrange : ls ∈ Set.range (List.map letter) := by
      rw [Set.range_list_map]
      exact fun s hs => mem_letters_iff.mp (hknown s hs)
    obtain ⟨fs, rfl⟩ := hrange
    exact ⟨fs, rfl, hnodup.of_map⟩

/-- The letter of a flag is read, unless it occurs before. -/
theorem parseAfter_letter_cons {f : Flag} : parseAfter seen (f.letter :: ls) =
    if f ∈ seen then .error (.duplicate f.letter)
    else (parseAfter (f :: seen) ls).map (f :: ·) := by
  rw [parseAfter, ofLetter?_letter]

/-- Letters behind others are read to the end exactly if they are those of different flags, which
do not occur before. -/
theorem parseAfter_eq_ok_iff :
    parseAfter seen ls = .ok fs ↔ ls = fs.map letter ∧ fs.Nodup ∧ ∀ f ∈ fs, f ∉ seen := by
  constructor
  · intro h
    induction ls generalizing seen fs with
    | nil =>
      cases h
      exact ⟨rfl, List.nodup_nil, nofun⟩
    | cons s ls ih =>
      rw [parseAfter] at h
      split at h
      · cases h
      · next f hs =>
        split at h
        · cases h
        · next hnew =>
          obtain ⟨gs, hgs, rfl⟩ := map_eq_ok_iff.mp h
          obtain ⟨rfl, hnodup, hfresh⟩ := ih hgs
          have hf : f ∉ gs := fun hmem => hfresh f hmem List.mem_cons_self
          refine ⟨by rw [List.map_cons, letter_of_ofLetter? hs], List.nodup_cons.mpr ⟨hf, hnodup⟩,
            List.forall_mem_cons.mpr ⟨hnew, fun g hg hmem => ?_⟩⟩
          exact hfresh g hg (List.mem_cons_of_mem _ hmem)
  · rintro ⟨rfl, hnodup, hfresh⟩
    induction fs generalizing seen with
    | nil => rfl
    | cons f fs ih =>
      obtain ⟨hf, hnodup⟩ := List.nodup_cons.mp hnodup
      obtain ⟨hnew, hfresh⟩ := List.forall_mem_cons.mp hfresh
      have hrest : ∀ g ∈ fs, g ∉ f :: seen := fun g hg =>
        List.not_mem_cons_of_ne_of_not_mem (ne_of_mem_of_not_mem hg hf) (hfresh g hg)
      rw [List.map_cons, parseAfter_letter_cons, if_neg hnew, ih hnodup hrest]
      rfl

/-- Where letters behind others are not read to the end, those of different flags are read first,
which do not occur before. The next letter names no flag, or it occurs before or among these. -/
theorem exists_of_parseAfter_eq_error {fault : Fault} (h : parseAfter seen ls = .error fault) :
    ∃ (fs : List Flag) (s : String) (behind : List String),
      ls = fs.map letter ++ s :: behind ∧ fs.Nodup ∧ (∀ f ∈ fs, f ∉ seen) ∧
      ((s ∉ letters ∧ fault = .unsupported s) ∨
        ∃ f : Flag, f.letter = s ∧ (f ∈ fs ∨ f ∈ seen) ∧ fault = .duplicate s) := by
  induction ls generalizing seen with
  | nil => cases h
  | cons s ls ih =>
    rw [parseAfter] at h
    split at h
    · next hs =>
      cases h
      exact ⟨[], s, ls, rfl, List.nodup_nil, nofun, .inl ⟨ofLetter?_eq_none_iff.mp hs, rfl⟩⟩
    · next f hs =>
      obtain rfl := letter_of_ofLetter? hs
      split at h
      · next hseen =>
        cases h
        exact ⟨[], f.letter, ls, rfl, List.nodup_nil, nofun, .inr ⟨f, rfl, .inr hseen, rfl⟩⟩
      · next hnew =>
        obtain ⟨fs, s, behind, rfl, hnodup, hfresh, hfault⟩ := ih (map_eq_error_iff.mp h)
        have hf : f ∉ fs := fun hmem => hfresh f hmem List.mem_cons_self
        refine ⟨f :: fs, s, behind, rfl, List.nodup_cons.mpr ⟨hf, hnodup⟩,
          List.forall_mem_cons.mpr ⟨hnew, fun g hg hmem => ?_⟩, hfault.imp_right ?_⟩
        · exact hfresh g hg (List.mem_cons_of_mem _ hmem)
        · rintro ⟨g, hg, hmem, hfault⟩
          refine ⟨g, hg, ?_, hfault⟩
          rw [List.mem_cons] at hmem ⊢
          tauto

/-- **Letters are read to the end** exactly if they are those of different flags. -/
theorem parse_eq_ok_iff : parse ls = .ok fs ↔ ls = fs.map letter ∧ fs.Nodup := by
  rw [parse, parseAfter_eq_ok_iff]
  simp

/-- **The first letter at fault ends the reading.** It names no flag or occurs before, and what
stands before it is at no fault. -/
theorem exists_of_parse_eq_error {fault : Fault} (h : parse ls = .error fault) :
    ∃ before s behind, ls = before ++ s :: behind ∧ (∀ t ∈ before, t ∈ letters) ∧ before.Nodup ∧
      (s ∉ letters ∨ s ∈ before) ∧
      fault = if s ∈ letters then .duplicate s else .unsupported s := by
  obtain ⟨fs, s, behind, rfl, hnodup, -, hfault⟩ := exists_of_parseAfter_eq_error h
  obtain ⟨hknown, hbefore⟩ := exists_map_letter_iff.mp ⟨fs, rfl, hnodup⟩
  refine ⟨fs.map letter, s, behind, rfl, hknown, hbefore, ?_⟩
  rcases hfault with ⟨hs, rfl⟩ | ⟨f, rfl, hf, rfl⟩
  · exact ⟨.inl hs, (if_neg hs).symm⟩
  · have hmem : f ∈ fs := by simpa using hf
    exact ⟨.inr (List.mem_map_of_mem hmem), (if_pos (letter_mem f)).symm⟩

end Flag

namespace Pattern
variable {pattern : Option Text} {letters : List String}

theorem flagValue_eq_ok_iff {n : Nat} : flagValue pattern letters = .ok n ↔
    ∃ fs : List Flag, letters = fs.map Flag.letter ∧ fs.Nodup ∧ Flag.value fs = n := by
  simp only [← and_assoc, ← Flag.parse_eq_ok_iff]
  rw [flagValue]
  cases Flag.parse letters <;> simp

/-- **The letters of flags are folded into their value.** They have one exactly if each is the
letter of a flag and none occurs twice. It is the sum of the bits of the flags, so it is the same in
any order, and letters that have the same value are the same in some order. Otherwise the error
names the first letter that is unknown or occurs before, as a letter that is not supported in the
first case and as one that is there twice in the second. -/
theorem flagValue_folds (pattern : Option Text) (letters : List String) :
    (Succeeds (flagValue pattern letters) ↔
      (∀ s ∈ letters, s ∈ Flag.letters) ∧ letters.Nodup) ∧
    (∀ n, flagValue pattern letters = .ok n →
      n = ((Flag.all.filter (·.letter ∈ letters)).map Flag.bit).sum ∧
      (∀ pattern' letters', letters'.Perm letters → flagValue pattern' letters' = .ok n) ∧
      ∀ pattern' letters' n', flagValue pattern' letters' = .ok n' →
        (n' = n ↔ letters'.Perm letters)) ∧
    ∀ e, flagValue pattern letters = .error e → ∃ e' before s behind, e = .pattern e' ∧
      letters = before ++ s :: behind ∧ (∀ t ∈ before, t ∈ Flag.letters) ∧ before.Nodup ∧
      (s ∉ Flag.letters ∨ s ∈ before) ∧ e'.flag? = some s ∧ e'.pattern? = pattern ∧
      e'.message = (if s ∈ Flag.letters then "Duplicate" else "Unsupported") ++ " flag '" ++ s ++
        "' for pattern " ++ PatternError.shownPattern pattern := by
  refine ⟨?_, fun n h => ?_, fun e h => ?_⟩
  · rw [← Flag.exists_map_letter_iff]
    simp only [Succeeds, flagValue_eq_ok_iff]
    constructor
    · rintro ⟨n, fs, hletters, hnodup, -⟩
      exact ⟨fs, hletters, hnodup⟩
    · rintro ⟨fs, hletters, hnodup⟩
      exact ⟨_, fs, hletters, hnodup, rfl⟩
  · obtain ⟨fs, rfl, hnodup, rfl⟩ := flagValue_eq_ok_iff.mp h
    refine ⟨?_, fun pattern' letters' hperm => ?_, fun pattern' letters' n' h' => ?_⟩
    · rw [Flag.value_eq_sum]
      simp only [List.mem_map_of_injective Flag.letter_injective]
    · obtain ⟨hknown, hdistinct⟩ := Flag.exists_map_letter_iff.mp ⟨fs, rfl, hnodup⟩
      obtain ⟨gs, rfl, hnodup'⟩ := Flag.exists_map_letter_iff.mpr
        ⟨fun s hs => hknown s (hperm.mem_iff.mp hs), hperm.nodup_iff.mpr hdistinct⟩
      have hgs : gs.Perm fs := (List.map_perm_map_iff Flag.letter_injective).mp hperm
      exact flagValue_eq_ok_iff.mpr
        ⟨gs, rfl, hnodup', (Flag.value_eq_iff_perm hnodup' hnodup).mpr hgs⟩
    · obtain ⟨gs, rfl, hnodup', rfl⟩ := flagValue_eq_ok_iff.mp h'
      rw [Flag.value_eq_iff_perm hnodup' hnodup, List.map_perm_map_iff Flag.letter_injective]
  · rw [flagValue] at h
    split at h
    · cases h
    · next fault hfault =>
      cases h
      obtain ⟨before, s, behind, hletters, hknown, hnodup, hs, rfl⟩ :=
        Flag.exists_of_parse_eq_error hfault
      refine ⟨_, before, s, behind, rfl, hletters, hknown, hnodup, hs, ?_⟩
      split <;> exact ⟨rfl, rfl, rfl⟩

/-! ## The modes that flags ask for -/

section Modes
variable {source : Text} {flags : String} {modes : Modes}

theorem modes_eq_ok_iff : Pattern.modes source flags = .ok modes ↔
    ∃ fs : List Flag, flags.toList.map String.singleton = fs.map Flag.letter ∧ fs.Nodup ∧
      Modes.ofFlags fs = modes := by
  simp only [← and_assoc, ← Flag.parse_eq_ok_iff]
  rw [Pattern.modes]
  cases Flag.parse (flags.toList.map String.singleton) <;> simp

theorem modes_eq_error {e : Failure} (h : Pattern.modes source flags = .error e) :
    ∃ f, e = .pattern (.flags f (some source)) := by
  unfold Pattern.modes at h
  split at h
  · cases h
  · cases h
    exact ⟨_, rfl⟩

/-- Flags ask for the same modes whatever the pattern is. They do not ask for Unicode, nor for a
template. -/
theorem modes_of_eq_ok (h : Pattern.modes source flags = .ok modes) :
    (∀ source', Pattern.modes source' flags = .ok modes) ∧ modes.unicode = false ∧
      modes.template = false := by
  obtain ⟨fs, hfs, hnodup, rfl⟩ := modes_eq_ok_iff.mp h
  exact ⟨fun _ => modes_eq_ok_iff.mpr ⟨fs, hfs, hnodup, rfl⟩, rfl, rfl⟩

/-- The modes of a pattern depend on its flags alone. -/
theorem modes_unique {source' : Text} {modes' : Modes}
    (h : Pattern.modes source flags = .ok modes) (h' : Pattern.modes source' flags = .ok modes') :
    modes = modes' :=
  Except.ok.inj (((modes_of_eq_ok h).1 source').symm.trans h')

/-- A flag is among some exactly if its letter is among theirs. -/
theorem contains_letter {fs : List Flag}
    (h : flags.toList.map String.singleton = fs.map Flag.letter) {f : Flag} {c : Char}
    (hc : f.letter = String.singleton c) : fs.contains f = flags.toList.contains c := by
  have hsingleton : Function.Injective String.singleton := fun c d h => by
    simpa using congrArg String.toList h
  rw [Bool.eq_iff_iff, List.contains_iff_mem, List.contains_iff_mem,
    ← List.mem_map_of_injective hsingleton, ← List.mem_map_of_injective Flag.letter_injective, h, hc]

theorem ascii_of_modes (h : Pattern.modes source flags = .ok modes) :
    modes.ascii = flags.toList.contains 'a' := by
  obtain ⟨fs, hfs, -, rfl⟩ := modes_eq_ok_iff.mp h
  exact contains_letter (f := .ascii) hfs rfl

theorem verbose_of_modes (h : Pattern.modes source flags = .ok modes) :
    modes.verbose = flags.toList.contains 'x' := by
  obtain ⟨fs, hfs, -, rfl⟩ := modes_eq_ok_iff.mp h
  exact contains_letter (f := .verbose) hfs rfl

/-- White space is skipped only where a flag asks for it. -/
theorem mem_flags_of_verbose (h : Pattern.modes source flags = .ok modes)
    (hverbose : modes.verbose = true) : 'x' ∈ flags.toList := by
  rwa [verbose_of_modes h, List.contains_iff_mem] at hverbose

end Modes

end Pattern

end Highlighting
