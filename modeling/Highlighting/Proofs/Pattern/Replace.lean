import Mathlib.Algebra.Ring.Int.Defs
import Highlighting.Proofs.Pattern.Scan
import Highlighting.Proofs.Result

/-!
# Replacing the matches of a subject

Replacing goes through a subject once. It copies what lies between the matches, puts in what a
callback gives for each match as soon as it is found, and copies what is left. It keeps two
positions: that of the next search, which steps over a character behind an empty match, and that
from which it copies, which does not. As the matches lie one behind the other, every character of
the subject lies in one match or in one part between matches, and in no other.

A callback may have effects of its own, so replacing is described for any monad. It calls back once
for each match, from left to right, and has no other effect.

## Main definitions

* `Pattern.rewriteM` -- the matches of a subject replaced one by one, while they are looked for.
* `Text.interleaved` -- texts put between others.
* `Pattern.gaps` -- where the parts of a subject before, between and behind matches begin and end.
-/
namespace Highlighting

/-- Texts with others put between them in turn. -/
def Text.interleaved : List Text → List Text → Text
  | t :: ts, u :: us => t ++ u ++ interleaved ts us
  | ts, [] => ts.flatten
  | [], us => us.flatten

namespace Pattern

section Rewriting
variable {μ : Type → Type} [Monad μ] [MonadExceptOf Failure μ]

/-- A subject from a position on, in which the matches behind a cursor, at most so many, are
replaced one by one, while they are looked for. -/
def rewriteFrom (p : Pattern) (s : Text) (f : Match → μ Text) : (fuel : Nat) → Cursor → Nat → μ Text
  | 0, _, last => pure (s.drop last)
  | fuel + 1, c, last =>
    match p.advance s c with
    | .error e => throw e
    | .ok (none, _) => pure (s.drop last)
    | .ok (some m, c) => do
      let new ← f m
      let rest ← rewriteFrom p s f fuel c m.stop.toNat
      return s.slice last m.start.toNat ++ new ++ rest

/-- A subject with its matches replaced one by one, while they are looked for. -/
def rewriteM (p : Pattern) (s : Text) (f : Match → μ Text) : μ Text :=
  p.rewriteFrom s f (s.length + 2) .start 0

end Rewriting

/-- Where the parts of a subject before, between and behind matches begin and end, from a position
on. -/
def gapsFrom (s : Text) (last : Nat) (ms : List Match) : List (Nat × Nat) :=
  (last :: ms.map (·.stop.toNat)).zip (ms.map (·.start.toNat) ++ [s.length])

/-- Where the parts of a subject before, between and behind matches begin and end. -/
def gaps (s : Text) (ms : List Match) : List (Nat × Nat) := gapsFrom s 0 ms

/-- A subject from a position on with texts in place of its matches. -/
def withTextsFrom (s : Text) (last : Nat) (ms : List Match) (news : List Text) : Text :=
  Text.interleaved ((gapsFrom s last ms).map fun g => s.slice g.1 g.2) news

/-- A subject with texts in place of its matches. -/
def withTexts (s : Text) (ms : List Match) (news : List Text) : Text :=
  withTextsFrom s 0 ms news

section Texts
variable {s : Text} {last : Nat} {ms : List Match}

theorem withTextsFrom_nil (s : Text) (last : Nat) : withTextsFrom s last [] [] = s.drop last := by
  rw [← Text.slice_length_eq_drop]
  exact List.append_nil _

theorem withTextsFrom_cons (s : Text) (last : Nat) (m : Match) (ms : List Match) (new : Text)
    (news : List Text) : withTextsFrom s last (m :: ms) (new :: news) =
      s.slice last m.start.toNat ++ new ++ withTextsFrom s m.stop.toNat ms news := rfl

/-- The texts of matches that lie one behind the other are what is left between the gaps. -/
theorem withTextsFrom_full (h : Spaced s last ms) :
    withTextsFrom s last ms (ms.map (·.full)) = s.drop last := by
  induction h with
  | nil => exact withTextsFrom_nil s _
  | cons hlast hle hstart hstop hfull hlength _ ih =>
    rw [List.map_cons, withTextsFrom_cons, hstart, hstop, Int.toNat_natCast, Int.toNat_natCast, ih,
      hfull, Text.slice_append_slice hlast hle, ← Text.slice_length_eq_drop,
      Text.slice_append_slice (Nat.le_trans hlast hle) hlength, Text.slice_length_eq_drop]

/-- No gap ends before it begins, or behind the subject. -/
theorem le_of_mem_gapsFrom (h : Spaced s last ms) (hlast : last ≤ s.length) :
    ∀ g ∈ gapsFrom s last ms, g.1 ≤ g.2 ∧ g.2 ≤ s.length := by
  induction h with
  | nil =>
    intro g hg
    obtain rfl : g = (_, s.length) := List.mem_singleton.mp hg
    exact ⟨hlast, Nat.le_refl _⟩
  | @cons last start stop m rest hle hle' hstart hstop _ hlength _ ih =>
    intro g hg
    change g ∈ (last, m.start.toNat) :: gapsFrom s m.stop.toNat rest at hg
    rw [hstart, hstop, Int.toNat_natCast, Int.toNat_natCast] at hg
    rcases List.mem_cons.mp hg with rfl | hg
    · exact ⟨hle, Nat.le_trans hle' hlength⟩
    · exact ih hlength g hg

/-- Putting in other texts changes the length by the differences of their lengths. -/
theorem length_withTextsFrom (h : Spaced s last ms) (hlast : last ≤ s.length) (f : Match → Text) :
    ((withTextsFrom s last ms (ms.map f)).length : Int) = (s.length - last : Int) +
      (ms.map fun m => ((f m).length - m.full.length : Int)).sum := by
  induction h with
  | nil =>
    rw [List.map_nil, withTextsFrom_nil, List.length_drop, List.map_nil, List.sum_nil]
    omega
  | cons hle hle' hstart hstop hfull hlength _ ih =>
    have ih := ih hlength
    rw [List.map_cons, withTextsFrom_cons, List.map_cons, List.sum_cons, hstart, hstop, hfull,
      Int.toNat_natCast, Int.toNat_natCast, List.length_append, List.length_append,
      Text.length_slice hlength, Text.length_slice (Nat.le_trans hle' hlength)]
    omega

end Texts

/-! ## The loop and the scan -/

variable {p : Pattern} {s : Text}

/-- **Replacing while matches are looked for** calls back once for each match of the scan, in their
order, and puts the answers in place of them. -/
theorem rewriteFrom_eq_map {μ : Type → Type} [Monad μ] [LawfulMonad μ] [MonadExceptOf Failure μ]
    (f : Match → μ Text) {fuel : Nat} {c : Cursor} {last : Nat}
    (h : (p.scanFrom s fuel c).failure = none) : p.rewriteFrom s f fuel c last =
      withTextsFrom s last (p.scanFrom s fuel c).found <$> (p.scanFrom s fuel c).found.mapM f := by
  induction fuel generalizing c last with
  | zero => simp [rewriteFrom, scanFrom, Scan.none, withTextsFrom_nil]
  | succ fuel ih =>
    unfold scanFrom at h ⊢
    unfold rewriteFrom
    rcases hadvance : p.advance s c with e | ⟨_ | m, c'⟩
    · rw [hadvance] at h
      cases h
    · simp [Scan.none, withTextsFrom_nil]
    · rw [hadvance] at h
      dsimp only
      rw [ih h]
      simp [Scan.cons, withTextsFrom_cons]

/-- With a callback that may fail, replacing goes on to the first failure, be it of the callback or
of a search. -/
theorem rewriteFrom_eq_splice (f : Match → Except Failure Text) (fuel : Nat) (c : Cursor)
    (last : Nat) : p.rewriteFrom s f fuel c last = do
      let parts ← (p.scanFrom s fuel c).found.mapM fun m => (f m).map (m, ·)
      match (p.scanFrom s fuel c).failure with
      | some e => throw e
      | none => return splice s last parts := by
  induction fuel generalizing c last with
  | zero => rfl
  | succ fuel ih =>
    unfold scanFrom rewriteFrom
    rcases hadvance : p.advance s c with e | ⟨_ | m, c'⟩
    · rfl
    · rfl
    · dsimp only
      rw [ih c' m.stop.toNat, Scan.cons, List.mapM_cons]
      cases f m with
      | error e => rfl
      | ok new =>
        cases (p.scanFrom s fuel c').found.mapM fun m => (f m).map (m, ·) with
        | error e => rfl
        | ok parts =>
          cases (p.scanFrom s fuel c').failure with
          | some e => rfl
          | none => rfl

theorem replaceM_eq_rewriteM (f : Match → Except Failure Text) :
    p.replaceM s f = p.rewriteM s f :=
  (rewriteFrom_eq_splice f _ _ 0).symm

/-- **Replacing rewrites the matches and nothing else.** The subject is copied up to the first
match, between matches, and behind the last one, and for each match stands what the callback gives
for it. The callback is called once for each match, from left to right, and whatever effects it has,
there are no others. No part that is copied ends before it begins, and with the matches these parts
make up the subject, so the length changes by what the callback adds to each match. Where a search
for a match fails, replacing fails as well. -/
theorem replace_rewrites (p : Pattern) (s : Text) :
    (∀ f, p.replaceM s f = p.rewriteM s f) ∧
    (∀ ms, p.allMatches s = .ok ms →
      (∀ (μ : Type → Type) [Monad μ] [LawfulMonad μ] [MonadExceptOf Failure μ] (f : Match → μ Text),
        p.rewriteM s f = withTexts s ms <$> ms.mapM f) ∧
      (∀ f, p.replace s f = .ok (withTexts s ms (ms.map f))) ∧
      withTexts s ms (ms.map (·.full)) = s ∧
      (∀ g ∈ gaps s ms, g.1 ≤ g.2 ∧ g.2 ≤ s.length) ∧
      ∀ f, ((withTexts s ms (ms.map f)).length : Int) =
        s.length + (ms.map fun m => ((f m).length - m.full.length : Int)).sum) ∧
    ∀ e, p.allMatches s = .error e → ∀ f, p.replace s f = .error e := by
  refine ⟨replaceM_eq_rewriteM, fun ms hms => ?_, fun e he f => ?_⟩
  · obtain ⟨hfailure, rfl⟩ : (p.scan s).failure = none ∧ (p.scan s).found = ms := by
      unfold allMatches Scan.toExcept at hms
      split at hms
      · cases hms
      · next hfailure => exact ⟨hfailure, Except.ok.inj hms⟩
    have hspaced := scan_spaced p s
    have hrewrite (μ : Type → Type) [Monad μ] [LawfulMonad μ] [MonadExceptOf Failure μ]
        (f : Match → μ Text) :
        p.rewriteM s f = withTexts s (p.scan s).found <$> (p.scan s).found.mapM f :=
      rewriteFrom_eq_map f hfailure
    refine ⟨hrewrite, fun f => ?_, withTextsFrom_full hspaced,
      le_of_mem_gapsFrom hspaced (Nat.zero_le _), fun f => ?_⟩
    · have hpure : (p.scan s).found.mapM (fun m => (Except.ok (f m) : Except Failure Text)) =
          .ok ((p.scan s).found.map f) := List.mapM_pure
      rw [replace, replaceM_eq_rewriteM, hrewrite, hpure]
      rfl
    · rw [withTexts, length_withTextsFrom hspaced (Nat.zero_le _) f]
      simp
  · have hfailure : (p.scan s).failure = some e := by
      unfold allMatches Scan.toExcept at he
      split at he
      · next hfailure => exact (Except.error.inj he) ▸ hfailure
      · cases he
    have hpure : (p.scan s).found.mapM (fun m => (Except.ok (f m)).map (m, ·)) =
        (.ok ((p.scan s).found.map fun m => (m, f m)) : Except Failure _) := List.mapM_pure
    unfold replace replaceM
    dsimp only
    rw [hpure, hfailure]
    rfl

/-- A dash for any number of letters, for one, is put for two letters, right behind them, and at the
end. -/
theorem replace_rewrites_letters : ∃ p ms, Pattern.compile "a*".toList "" = .ok p ∧
    p.allMatches "aab".toList = .ok ms ∧
    p.replace "aab".toList (fun _ => ['-']) = .ok "--b-".toList ∧
    withTexts "aab".toList ms (ms.map fun _ => ['-']) = "--b-".toList ∧
    p.rewriteM "aab".toList (fun m => (modify (· ++ [m]) >>= fun _ => pure ['-'] :
        StateT (List Match) (Except Failure) Text)) =
      withTexts "aab".toList ms <$> ms.mapM fun m => modify (· ++ [m]) >>= fun _ => pure ['-'] := by
  obtain ⟨p, hcompile, hrun⟩ := bind_eq_ok_iff.mp (show
    (Pattern.compile "a*".toList "" >>= fun p => .ok ((p.allMatches "aab".toList).isOk,
        p.replace "aab".toList fun _ => ['-'])) = .ok (true, .ok "--b-".toList) by decide +kernel)
  obtain ⟨hfound, hreplace⟩ : _ ∧ _ := by simpa only [Except.ok.injEq, Prod.mk.injEq] using hrun
  cases hms : p.allMatches "aab".toList with
  | error e =>
    rw [hms] at hfound
    cases hfound
  | ok ms =>
    obtain ⟨hrewrite, htexts, -⟩ := (replace_rewrites p "aab".toList).2.1 ms hms
    refine ⟨p, ms, hcompile, hms, hreplace, ?_, hrewrite _ _⟩
    rw [htexts] at hreplace
    exact Except.ok.inj hreplace

end Pattern

end Highlighting
