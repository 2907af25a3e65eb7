import Highlighting.Scanner
import Highlighting.Proofs.Pattern.Scan
import Highlighting.Proofs.Result

/-!
# Calls on scanners

A scanner that is asked for the matches of one subject again and again answers with those that a
scan of the subject finds, in order, and behind the last one with nothing, for ever. It starts over
after a reset, and as soon as it has been asked for another subject, whether there was a match or
not. Scanners of one pattern know nothing of each other.

A search can fail, and then the call that asked for it changes no scanner. So a call that fails
counts for nothing: whoever asks for the old subject behind it goes on from where he was.

## Main definitions

* `Scan.answer` -- the matches of a scan one by one, and what is answered behind them.
* `Cursor.InRange` -- the cursors that a scanner can have.
* `Scanner.asked` -- the calls for a subject since a scanner started over with it.
* `Scanner.Behind` -- how many matches of a subject a scanner has behind it.
* `Pattern.thread` -- matches looked for with cursors that are handed on.
-/
namespace Highlighting

/-- The answer to the call of a number when the matches of a scan are asked for one by one: the
match of that number, and behind the last one nothing, or the failure that ended the scan. -/
def Scan.answer (s : Scan) (k : Nat) : Scanner.Answer :=
  match s.found[k]?, s.failure with
  | some m, _ => .ok (some m)
  | .none, some e => .error e
  | .none, .none => .ok .none

namespace Scan

@[simp] theorem answer_none : none.answer = fun _ => .ok Option.none := by
  funext k
  simp [answer, none]

@[simp] theorem answer_failed (e : Failure) : answer ⟨[], some e⟩ = fun _ => .error e := by
  funext k
  simp [answer]

@[simp] theorem answer_cons_zero (m : Match) (s : Scan) : (s.cons m).answer 0 = .ok (some m) := by
  simp [answer, cons]

@[simp] theorem answer_cons_succ (m : Match) (s : Scan) (k : Nat) :
    (s.cons m).answer (k + 1) = s.answer k := by
  simp [answer, cons]

/-- Where a scan does not fail, its matches are answered in order, and then nothing, for ever. -/
theorem answer_of_toExcept {s : Scan} {ms : List Match} (h : s.toExcept = .ok ms) (k : Nat) :
    s.answer k = .ok ms[k]? := by
  obtain ⟨found, failure⟩ := s
  cases failure with
  | some e => cases h
  | none =>
    obtain rfl : found = ms := Except.ok.inj h
    cases hk : found[k]? <;> simp [answer, hk]

end Scan

namespace Cursor
variable {c : Cursor} {s : Text}

/-- A cursor that a scanner can have: it follows no subject yet, or it stands at a position of its
subject, or one behind its end. -/
def InRange (c : Cursor) : Prop :=
  c = .start ∨ ∃ (s : Text) (n : Nat), c = ⟨some s, n⟩ ∧ n ≤ s.length + 1

theorem on_of_subject (h : c.subject = some s) : c.on s = c := by
  simp [on, follows, h]

theorem on_of_ne (h : c.subject ≠ some s) : c.on s = ⟨some s, 0⟩ := by
  simp [on, follows, h]

@[simp] theorem on_on (c : Cursor) (s : Text) : (c.on s).on s = c.on s := by
  by_cases h : c.subject = some s
  · rw [on_of_subject h, on_of_subject h]
  · rw [on_of_ne h, on_of_subject rfl]

/-- From the start of a subject or a position in it a search begins at a position in the subject, or
one behind its end. -/
theorem InRange.on (h : c.InRange) (s : Text) :
    ∃ n : Nat, c.on s = ⟨some s, n⟩ ∧ n ≤ s.length + 1 := by
  by_cases hs : c.subject = some s
  · rcases h with rfl | ⟨s', n, rfl, hn⟩
    · cases hs
    · cases hs
      exact ⟨n, on_of_subject rfl, hn⟩
  · exact ⟨0, on_of_ne hs, Nat.zero_le _⟩

end Cursor

namespace Pattern
variable {p : Pattern} {s : Text} {c c' : Cursor} {m : Match}

@[simp] theorem advance_on (p : Pattern) (s : Text) (c : Cursor) :
    p.advance s (c.on s) = p.advance s c := by
  simp [advance]

@[simp] theorem scanFrom_on (p : Pattern) (s : Text) (fuel : Nat) (c : Cursor) :
    p.scanFrom s fuel (c.on s) = p.scanFrom s fuel c := by
  cases fuel <;> simp [scanFrom]

theorem cursor_of_advance_none (h : p.advance s c = .ok (none, c')) : c' = c.on s := by
  unfold advance at h
  dsimp only at h
  split at h <;> simp_all

/-- **A match moves the cursor on**, within the subject or one behind its end. -/
theorem cursor_of_advance_some {pos : Nat} (hindex : (c.on s).index = pos)
    (h : p.advance s c = .ok (some m, c')) :
    ∃ n : Nat, c' = ⟨some s, n⟩ ∧ pos < n ∧ n ≤ s.length + 1 := by
  unfold advance at h
  dsimp only at h
  rw [hindex] at h
  split at h
  · cases h
  · cases h
  · next hsearch =>
    cases h
    obtain ⟨-, start, stop, hpos, hle, hstart, hstop, -, hlength⟩ := search_eq_ok_some hsearch
    by_cases hempty : start < stop
    · refine ⟨stop, ?_, by omega, by omega⟩
      rw [next, hstart, hstop, if_pos (by omega)]
    · refine ⟨stop + 1, ?_, by omega, by omega⟩
      rw [next, hstart, hstop, if_neg (by omega)]
      rfl

/-- Matches of subjects looked for one after the other, each from the cursor that the call before it
handed on. A call that fails hands none on, so the next one takes the same cursor. -/
def thread (p : Pattern) : Cursor → List Text → List Scanner.Answer
  | _, [] => []
  | c, s :: rest =>
    match p.advance s c with
    | .ok (found, c') => .ok found :: thread p c' rest
    | .error e => .error e :: thread p c rest

end Pattern

namespace Scanner
variable {sc sc' : Scanner} {s : Text} {m : Match} {e : Failure}

/-! ## One call -/

/-- What a call for a match does: it fails and changes nothing, it finds nothing and leaves the
cursor where the search began, or it finds a match and moves the cursor behind it. -/
theorem advance_cases (h : sc.cursor.InRange) (s : Text) :
    (∃ e, sc.advance s = (.error e, sc)) ∨
    sc.advance s = (.ok none, { sc with cursor := sc.cursor.on s }) ∨
    ∃ (m : Match) (pos n : Nat), (sc.cursor.on s).index = pos ∧ pos < n ∧ n ≤ s.length + 1 ∧
      sc.advance s = (.ok (some m), { sc with cursor := ⟨some s, n⟩ }) := by
  obtain ⟨pos, hon, -⟩ := h.on s
  have hindex : (sc.cursor.on s).index = pos := by rw [hon]
  unfold advance
  rcases hadvance : sc.pattern.advance s sc.cursor with e | ⟨_ | m, c'⟩
  · exact .inl ⟨e, rfl⟩
  · rw [Pattern.cursor_of_advance_none hadvance]
    exact .inr (.inl rfl)
  · obtain ⟨n, rfl, hlt, hle⟩ := Pattern.cursor_of_advance_some hindex hadvance
    exact .inr (.inr ⟨m, pos, n, hindex, hlt, hle, rfl⟩)

/-- **A call keeps the cursor in range.** -/
theorem inRange_serve (h : sc.cursor.InRange) (call : Call) : (sc.serve call).2.cursor.InRange := by
  cases call with
  | reset => exact .inl rfl
  | advance s =>
    change (sc.advance s).2.cursor.InRange
    rcases advance_cases h s with ⟨e, heq⟩ | heq | ⟨m, pos, n, -, -, hn, heq⟩
    · rw [heq]
      exact h
    · rw [heq]
      exact .inr ⟨s, (h.on s).choose, (h.on s).choose_spec⟩
    · rw [heq]
      exact .inr ⟨s, n, rfl, hn⟩

@[simp] theorem pattern_serve (sc : Scanner) (call : Call) :
    (sc.serve call).2.pattern = sc.pattern := by
  cases call with
  | reset => rfl
  | advance s =>
    simp only [serve, advance]
    split <;> rfl

/-! ## Runs -/

@[simp] theorem run_nil (sc : Scanner) : sc.run [] = ([], sc) := rfl

@[simp] theorem run_cons (sc : Scanner) (call : Call) (calls : List Call) :
    sc.run (call :: calls) =
      ((sc.serve call).1 :: ((sc.serve call).2.run calls).1, ((sc.serve call).2.run calls).2) := rfl

/-- **The cursor stays in range.** -/
theorem inRange_run (h : sc.cursor.InRange) (calls : List Call) :
    (sc.run calls).2.cursor.InRange := by
  induction calls generalizing sc with
  | nil => exact h
  | cons call calls ih => exact ih (inRange_serve h call)

@[simp] theorem pattern_run (sc : Scanner) (calls : List Call) :
    (sc.run calls).2.pattern = sc.pattern := by
  induction calls generalizing sc with
  | nil => rfl
  | cons call calls ih => simp [ih]

/-- A scan makes the calls of a scanner. -/
theorem scanFrom_succ (sc : Scanner) (s : Text) (fuel : Nat) :
    sc.pattern.scanFrom s (fuel + 1) sc.cursor =
      match sc.advance s with
      | (.error e, _) => ⟨[], some e⟩
      | (.ok none, _) => .none
      | (.ok (some m), sc') => (sc.pattern.scanFrom s fuel sc'.cursor).cons m := by
  rw [Pattern.scanFrom, advance]
  rcases sc.pattern.advance s sc.cursor with e | ⟨_ | m, c⟩ <;> rfl

/-- **Calls for the matches of one subject** are answered as a scan from the cursor on finds them.
The bound on the scan is out of reach. -/
theorem answers_eq_map {pos fuel : Nat} (hindex : (sc.cursor.on s).index = pos)
    (hrange : sc.cursor.InRange) (hfuel : s.length + 1 < pos + fuel) (n : Nat) :
    (sc.run (List.replicate n (.advance s))).1 =
      (List.range n).map (sc.pattern.scanFrom s fuel sc.cursor).answer := by
  -- A match moves the position on, so the bound is kept with the fuel that is left. Where nothing is
  -- found, or the search fails, the scanner stays, and so does the scan that the next call is told by.
  induction n generalizing sc pos fuel with
  | zero => rfl
  | succ n ih =>
    obtain ⟨pos', hon, hle⟩ := hrange.on s
    obtain rfl : pos = pos' := by
      rw [hon] at hindex
      exact Int.ofNat_inj.mp hindex.symm
    obtain ⟨fuel, rfl⟩ : ∃ f, fuel = f + 1 := ⟨fuel - 1, by omega⟩
    rw [List.replicate_succ, run_cons, List.range_succ_eq_map, List.map_cons, List.map_map]
    have hscan := scanFrom_succ sc s fuel
    rcases advance_cases hrange s with ⟨e, heq⟩ | heq | ⟨m, q, stop, hq, hlt, hstop, heq⟩
    · rw [heq] at hscan
      have ih := ih hindex hrange hfuel
      rw [hscan] at ih ⊢
      simp [serve, heq, ih, Function.comp_def]
    · rw [heq] at hscan
      have hstays : ((sc.advance s).2.cursor.on s).index = pos := by simp [heq, hindex]
      have ih := ih hstays (inRange_serve hrange (.advance s)) hfuel
      rw [heq, Pattern.scanFrom_on, hscan] at ih
      rw [hscan]
      simp [serve, heq, ih, Function.comp_def]
    · rw [heq] at hscan
      have hmoves : ((sc.advance s).2.cursor.on s).index = stop := by
        simp [heq, Cursor.on, Cursor.follows]
      have hfuel : s.length + 1 < stop + fuel := by omega
      have ih := ih hmoves (inRange_serve hrange (.advance s)) hfuel
      rw [heq] at ih
      rw [hscan]
      simp [serve, heq, ih, Function.comp_def]

/-! ## Where a scanner starts over -/

/-- How many calls for a subject there were since the scanner started over with it, after one more
call and its answer. A reset makes it start over, and so does a call for another subject, unless it
fails. -/
def Call.asked (s : Text) (k : Nat) : Call → Answer → Nat
  | .reset, _ => 0
  | .advance s', answer =>
    if s' = s then k + 1
    else
      match answer with
      | .ok _ => 0
      | .error _ => k

section Asked
variable {s' : Text} (k : Nat)

theorem Call.asked_self (answer : Answer) : (Call.advance s).asked s k answer = k + 1 := by
  simp [Call.asked]

theorem Call.asked_ok (h : s' ≠ s) (found : Option Match) :
    (Call.advance s').asked s k (.ok found) = 0 := by
  simp [Call.asked, h]

theorem Call.asked_error (h : s' ≠ s) (e : Failure) :
    (Call.advance s').asked s k (.error e) = k := by
  simp [Call.asked, h]

end Asked

/-- How many calls for a subject there were, in calls with their answers, since the scanner started
over with it. -/
def asked (s : Text) (calls : List (Call × Answer)) : Nat :=
  calls.foldl (fun k (call, answer) => call.asked s k answer) 0

/-- Calls for the matches of a subject will be answered with those that a scan of it finds, from the
match of that number on. -/
def Behind (sc : Scanner) (s : Text) (k : Nat) : Prop :=
  ∀ n, (sc.run (List.replicate n (.advance s))).1 =
    (List.range n).map fun i => (sc.pattern.scan s).answer (k + i)

/-- A scanner that does not follow a subject starts over with it. -/
theorem behind_zero (hrange : sc.cursor.InRange) (h : sc.cursor.subject ≠ some s) :
    sc.Behind s 0 := by
  have hon := Cursor.on_of_ne h
  have hindex : (sc.cursor.on s).index = (0 : Nat) := by rw [hon]; rfl
  have hscan : sc.pattern.scanFrom s (s.length + 2) sc.cursor = sc.pattern.scan s := by
    rw [← Pattern.scanFrom_on, hon, Pattern.scan, ← Pattern.scanFrom_on sc.pattern s _ .start]
    rfl
  have hfuel : s.length + 1 < 0 + (s.length + 2) := by omega
  intro n
  rw [answers_eq_map hindex hrange hfuel, hscan]
  simp

namespace Behind
variable {k : Nat}

/-- The next call is answered with the match of that number. -/
theorem answer_eq (h : sc.Behind s k) : (sc.advance s).1 = (sc.pattern.scan s).answer k := by
  simpa [serve] using h 1

/-- Behind one more call for the subject comes the next match. -/
theorem advance (h : sc.Behind s k) : (sc.advance s).2.Behind s (k + 1) := by
  intro n
  have hpattern := pattern_serve sc (.advance s)
  have hall := h (n + 1)
  rw [List.replicate_succ, run_cons, List.range_succ_eq_map, List.map_cons, List.map_map] at hall
  change (sc.advance s).2.pattern = sc.pattern at hpattern
  rw [hpattern]
  refine (List.cons.inj hall).2.trans (List.map_congr_left fun i _ => ?_)
  exact congrArg _ (Nat.add_left_comm k i 1 |>.trans (Nat.add_comm _ _))

/-- **A call moves a scanner on to the next match, makes it start over, or leaves it.** -/
theorem serve (hrange : sc.cursor.InRange) (h : sc.Behind s k) (call : Call) :
    (sc.serve call).2.Behind s (call.asked s k (sc.serve call).1) := by
  have hrange' := inRange_serve hrange call
  cases call with
  | reset => exact behind_zero hrange' nofun
  | advance s' =>
    by_cases hs : s' = s
    · rw [hs, Call.asked_self]
      exact h.advance
    · have hserve : sc.serve (.advance s') = sc.advance s' := rfl
      rw [hserve] at hrange' ⊢
      rcases advance_cases hrange s' with ⟨e, heq⟩ | heq | ⟨m, pos, n, -, -, -, heq⟩
      · rw [heq, Call.asked_error k hs]
        exact h
      · obtain ⟨n, hon, -⟩ := hrange.on s'
        rw [heq] at hrange' ⊢
        rw [Call.asked_ok k hs]
        exact behind_zero hrange' (by simpa [hon] using hs)
      · rw [heq] at hrange' ⊢
        rw [Call.asked_ok k hs]
        exact behind_zero hrange' (by simpa using hs)

/-- So do calls one after the other. -/
theorem run (hrange : sc.cursor.InRange) (h : sc.Behind s k) (calls : List Call) :
    (sc.run calls).2.Behind s
      ((calls.zip (sc.run calls).1).foldl (fun k (call, answer) => call.asked s k answer) k) := by
  induction calls generalizing sc k with
  | nil => exact h
  | cons call calls ih => exact ih (inRange_serve hrange call) (h.serve hrange call)

end Behind

/-! ## Several scanners -/

section Several
variable {ι : Type} [DecidableEq ι]

/-- What belongs to one of several scanners. -/
def ofScanner {α : Type} (i : ι) (xs : List (ι × α)) : List α :=
  xs.filterMap fun x => if x.1 = i then some x.2 else none

/-- **Scanners do not disturb each other**: each answers as it would without calls on others. -/
theorem ofScanner_runAll (scs : ι → Scanner) (calls : List (ι × Call)) (i : ι) :
    ofScanner i (runAll scs calls).1 = ((scs i).run (ofScanner i calls)).1 ∧
      (runAll scs calls).2 i = ((scs i).run (ofScanner i calls)).2 := by
  induction calls generalizing scs with
  | nil => exact ⟨rfl, rfl⟩
  | cons call calls ih =>
    obtain ⟨j, call⟩ := call
    have ih := ih fun k => if k = j then ((scs j).serve call).2 else scs k
    by_cases hij : j = i
    · subst hij
      simpa [ofScanner, runAll] using ih
    · have hji : i ≠ j := fun h => hij h.symm
      simpa [ofScanner, runAll, hij, hji] using ih

end Several

/-- Cursors that are handed on move as that of a scanner does. -/
theorem thread_eq_run (p : Pattern) (c : Cursor) (subjects : List Text) :
    p.thread c subjects = (run ⟨p, c⟩ (subjects.map .advance)).1 := by
  induction subjects generalizing c with
  | nil => rfl
  | cons s rest ih =>
    rw [Pattern.thread, List.map_cons, run_cons, serve, advance]
    cases hadvance : p.advance s c with
    | error e => exact congrArg (_ :: ·) (ih c)
    | ok found => exact congrArg (_ :: ·) (ih found.2)

/-! ## Histories -/

/-- **The scanners of a pattern, whatever is asked of them in whatever order.**

* A scanner follows no subject yet, or it stands at a position of one, or one behind its end.
* It answers as if no other scanner had been called.
* Since it started over with a subject, calls for its matches are answered by those that a scan
  finds, in order, and then by nothing, for ever, or by the failure that ends the scan.
* A match moves it on, and nothing found leaves it as it is, save that it goes to the start of a
  subject that it did not follow. A call that fails leaves it as it is.
* A cursor that is handed on from call to call finds what a scanner finds. -/
theorem runAll_scans (p : Pattern) {ι : Type} [DecidableEq ι] (calls : List (ι × Call)) (i : ι) :
    let history := ofScanner i calls
    let answers := ofScanner i (runAll (fun _ => p.scanner) calls).1
    let sc := (runAll (fun _ => p.scanner) calls).2 i
    sc.cursor.InRange ∧
    answers = (p.scanner.run history).1 ∧
    (∀ s : Text, (sc.advance s).1 = (p.scan s).answer (asked s (history.zip answers)) ∧
      ∀ ms, p.allMatches s = .ok ms →
        (sc.advance s).1 = .ok ms[asked s (history.zip answers)]?) ∧
    (∀ s : Text, match sc.advance s with
      | (.ok (some _), sc') =>
        sc'.subject = some s ∧ 0 < sc'.index ∧ (sc.subject = some s → sc.index < sc'.index)
      | (.ok none, sc') =>
        (sc.subject = some s → sc' = sc) ∧ (sc.subject ≠ some s → sc'.cursor = ⟨some s, 0⟩)
      | (.error _, sc') => sc' = sc) ∧
    ∀ subjects : List Text,
      p.thread .start subjects = (p.scanner.run (subjects.map .advance)).1 := by
  intro history answers sc
  obtain ⟨hanswers, hsc⟩ := ofScanner_runAll (fun _ => p.scanner) calls i
  have hanswers : answers = (p.scanner.run history).1 := hanswers
  have hsc : sc = (p.scanner.run history).2 := hsc
  have hrange : sc.cursor.InRange := hsc ▸ inRange_run (.inl rfl) history
  refine ⟨hrange, hanswers, fun s => ?_, fun s => ?_, thread_eq_run p .start⟩
  · have hanswer : (sc.advance s).1 = (p.scan s).answer (asked s (history.zip answers)) := by
      have hstart : p.scanner.Behind s 0 := behind_zero (.inl rfl) nofun
      rw [hsc, hanswers, (hstart.run (.inl rfl) history).answer_eq, pattern_run]
      rfl
    exact ⟨hanswer, fun ms hms => hanswer.trans (Scan.answer_of_toExcept hms _)⟩
  · rcases advance_cases hrange s with ⟨e, heq⟩ | heq | ⟨m, pos, stop, hpos, hlt, -, heq⟩
    · rw [heq]
    · rw [heq]
      refine ⟨fun hs => ?_, Cursor.on_of_ne⟩
      rw [Cursor.on_of_subject hs]
    · rw [heq]
      refine ⟨rfl, show (0 : Int) < (stop : Int) by omega, fun hs => ?_⟩
      rw [Cursor.on_of_subject hs] at hpos
      show sc.cursor.index < (stop : Int)
      omega

/-- Of two scanners one, for instance, starts over with a subject after it has found nothing in
another one. Behind one more call it has the second letter before it, whatever the other one is
asked. -/
theorem runAll_scans_letters : ∃ p ms, Pattern.compile "a".toList "" = .ok p ∧
    p.allMatches "aa".toList = .ok ms ∧ ms.map (·.start) = [0, 1] ∧
    ∃ calls : List (Bool × Call), calls = [(true, .advance "aa".toList),
        (false, .advance "aa".toList), (true, .advance "b".toList), (true, .advance "aa".toList),
        (false, .reset)] ∧
      asked "aa".toList ((ofScanner true calls).zip
        (ofScanner true (runAll (fun _ => p.scanner) calls).1)) = 1 ∧
      (((runAll (fun _ => p.scanner) calls).2 true).advance "aa".toList).1 = .ok ms[1]? := by
  obtain ⟨p, hcompile, hrun⟩ := bind_eq_ok_iff.mp (show
    (Pattern.compile "a".toList "" >>= fun p => .ok (
        (p.allMatches "aa".toList).map fun ms => ms.map (·.start),
        asked "aa".toList ((ofScanner true [(true, .advance "aa".toList),
          (false, .advance "aa".toList), (true, .advance "b".toList), (true, .advance "aa".toList),
          (false, .reset)]).zip (ofScanner true (runAll (fun _ => p.scanner)
            [(true, .advance "aa".toList), (false, .advance "aa".toList),
              (true, .advance "b".toList), (true, .advance "aa".toList), (false, .reset)]).1)))) =
      .ok (.ok [0, 1], 1) by decide +kernel)
  obtain ⟨hstarts, hasked⟩ : _ ∧ _ := by simpa only [Except.ok.injEq, Prod.mk.injEq] using hrun
  cases hms : p.allMatches "aa".toList with
  | error e =>
    rw [hms] at hstarts
    cases hstarts
  | ok ms =>
    rw [hms] at hstarts
    have hnext (calls : List (Bool × Call)) :=
      ((runAll_scans p calls true).2.2.1 "aa".toList).2 ms hms
    refine ⟨p, ms, hcompile, hms, Except.ok.inj hstarts, _, rfl, hasked, ?_⟩
    rw [hnext, hasked]

/-- **A call that fails does not make a scanner start over.** It has found the first of two matches
of a subject, is asked for those of another one, where the search fails, and goes on with the second
match of the first subject. -/
theorem not_restarted_by_failure : ∃ p, Pattern.compile "((x)|y|z)*+".toList "" = .ok p ∧
    (p.allMatches "y".toList).map (·.map (·.start)) = .ok [0, 1] ∧
    (p.scanner.run [.advance "y".toList, .advance "xyz".toList, .advance "y".toList]).1.map
      (·.map (·.map (·.start))) = [.ok (some 0), .error .reversedGroup, .ok (some 1)] ∧
    ¬ ∀ (calls : List Call) (s s' : Text) (n : Nat), s' ≠ s →
      (p.scanner.run (calls ++ .advance s' :: List.replicate n (.advance s))).1 =
        (p.scanner.run (calls ++ [.advance s'])).1 ++ (List.range n).map (p.scan s).answer := by
  obtain ⟨p, hcompile, hrun⟩ := bind_eq_ok_iff.mp (show
    (Pattern.compile "((x)|y|z)*+".toList "" >>= fun p => .ok (
        (p.allMatches "y".toList).map (·.map (·.start)),
        (p.scanner.run [.advance "y".toList, .advance "xyz".toList, .advance "y".toList]).1.map
          (·.map (·.map (·.start))),
        ((p.scanner.run [.advance "y".toList, .advance "xyz".toList]).1 ++
          (List.range 1).map (p.scan "y".toList).answer).map (·.map (·.map (·.start))))) =
      .ok (.ok [0, 1], [.ok (some 0), .error .reversedGroup, .ok (some 1)],
        [.ok (some 0), .error .reversedGroup, .ok (some 0)]) by decide +kernel)
  obtain ⟨hmatches, hanswers, hexpected⟩ : _ ∧ _ ∧ _ := by
    simpa only [Except.ok.injEq, Prod.mk.injEq] using hrun
  refine ⟨p, hcompile, hmatches, hanswers, fun h => ?_⟩
  have hblock : (p.scanner.run [.advance "y".toList, .advance "xyz".toList,
      .advance "y".toList]).1 = (p.scanner.run [.advance "y".toList, .advance "xyz".toList]).1 ++
        (List.range 1).map (p.scan "y".toList).answer :=
    h [.advance "y".toList] "y".toList "xyz".toList 1 (by decide)
  rw [← hblock] at hexpected
  exact absurd (hanswers.symm.trans hexpected) (by decide)

end Scanner

end Highlighting
