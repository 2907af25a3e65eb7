import Highlighting.Proofs.Pattern.Scan
import Highlighting.Proofs.Result

/-!
# A match locates its text

A match says where it starts and what it covers, and of every group with some text, what the group
captured and how far from the start. The positions that a group has marked lie in the subject, so
its text is found there again, also where it was captured before the match starts or behind its end.
The groups stand in the order of their numbers, each once.

## Main definitions

* `Marks.TookText` -- a group took part with some text.

## Main statements

* `Pattern.search_locates` -- what a search finds is where the match says it is.
* `Pattern.offset_nonneg_of_search` -- no group has text before the match unless something looks
  behind.
-/
namespace Highlighting

/-- The group took part, with some text. -/
def Marks.TookText (m : Marks) (group : Nat) : Prop :=
  ∃ a b, m.span? group = some (a, b) ∧ a < b

instance (m : Marks) (group : Nat) : Decidable (m.TookText group) :=
  match h : m.span? group with
  | some (a, b) =>
    decidable_of_iff (a < b) ⟨fun hlt => ⟨a, b, h, hlt⟩, by
      rintro ⟨a', b', hspan, hlt⟩
      cases h.symm.trans hspan
      exact hlt⟩
  | none => isFalse (by
      rintro ⟨a, b, hspan, -⟩
      cases h.symm.trans hspan)

/-- The ends of a span are marks. -/
theorem Marks.Between.span {first last : Nat} {m : Marks} (h : m.Between first last)
    {group a b : Nat} (hspan : m.span? group = some (a, b)) : first ≤ a ∧ b ≤ last := by
  obtain ⟨hstart, hstop, -⟩ := span?_eq_some_iff.mp hspan
  exact ⟨(h _ a hstart).1, (h _ b hstop).2⟩

namespace Pattern
variable {p : Pattern} {s source : Text} {flags : String} {pos : Int} {m : Match}

/-! ## What is captured -/

/-- A capture is the text between the marks of its group, from the start of the match on. -/
theorem exists_span_of_mem_captures {start : Nat} {marks : Marks} {c : Capture}
    (hc : c ∈ p.captures s start marks) :
    ∃ n a b, (c.name, n) ∈ p.groupIndex ∧ marks.span? n = some (a, b) ∧ a < b ∧
      c.value = s.slice a b ∧ c.offset = (a : Int) - start := by
  obtain ⟨⟨name, n⟩, hmem, hsome⟩ := List.mem_filterMap.mp hc
  dsimp only at hsome
  split at hsome
  · next a b hspan =>
    split at hsome
    · next hlt =>
      cases hsome
      exact ⟨n, a, b, hmem, hspan, hlt, rfl, rfl⟩
    · cases hsome
  · cases hsome

/-- The names of the captures are those of the groups that took part with some text. -/
theorem names_captures (p : Pattern) (s : Text) (start : Nat) (marks : Marks) :
    (p.captures s start marks).map (·.name) =
      (p.groupIndex.filter fun g => marks.TookText g.2).map (·.1) := by
  unfold captures
  generalize p.groupIndex = index
  induction index with
  | nil => rfl
  | cons g index ih =>
    obtain ⟨name, n⟩ := g
    by_cases htook : marks.TookText n
    · obtain ⟨a, b, hspan, hlt⟩ := htook
      rw [List.filter_cons_of_pos (by simpa using ⟨a, b, hspan, hlt⟩), List.map_cons, ← ih,
        List.filterMap_cons_some (b := ⟨name, s.slice a b, (a : Int) - start⟩)]
      · rfl
      · dsimp only
        rw [hspan]
        exact if_pos hlt
    · rw [List.filter_cons_of_neg (by simpa using htook), ← ih, List.filterMap_cons_none]
      dsimp only
      split
      · next a b hspan => exact if_neg fun hlt => htook ⟨a, b, hspan, hlt⟩
      · rfl

/-- A capture whose marks lie in the subject is found there again. -/
theorem slice_of_mem_captures {start : Nat} {marks : Marks} {c : Capture} {first : Nat}
    (hmarks : marks.Between first s.length) (hc : c ∈ p.captures s start marks) :
    ∃ n a b : Nat, (c.name, n) ∈ p.groupIndex ∧ marks.span? n = some (a, b) ∧ first ≤ a ∧ a < b ∧
      b ≤ s.length ∧ (start : Int) + c.offset = a ∧ (start : Int) + c.stop = b ∧
      s.slice a b = c.value := by
  obtain ⟨n, a, b, hmem, hspan, hlt, hvalue, hoffset⟩ := exists_span_of_mem_captures hc
  obtain ⟨hfirst, hlast⟩ := hmarks.span hspan
  have hlength : c.value.length = b - a := by
    rw [hvalue, Text.length_slice hlast]
  refine ⟨n, a, b, hmem, hspan, hfirst, hlt, hlast, ?_, ?_, hvalue.symm⟩
  · omega
  · unfold Capture.stop
    omega

/-! ## What a search finds -/

/-- **What a search finds is where the match says it is.** The match starts at the position of the
search or behind it, ends in the subject and covers the part between. Its groups are the named
groups that took part with some text, in the order of their numbers, each with the text between its
marks, and this text is found in the subject from the group's offset on. -/
theorem search_locates (hp : compile source flags = .ok p) (h : p.search s pos = .ok (some m)) :
    max pos 0 ≤ m.start ∧ m.start ≤ m.stop ∧ m.stop ≤ s.length ∧
      m.full = s.slice m.start.toNat m.stop.toNat ∧
      p.groupIndex.Pairwise (fun g g' => g.2 < g'.2) ∧ p.groupNames.Nodup ∧
      (∃ st, p.program.regex.matchAt s.toArray m.start.toNat = .matched st ∧
        m.groups.map (·.name) = (p.groupIndex.filter fun g => st.marks.TookText g.2).map (·.1) ∧
        ∀ c ∈ m.groups, ∃ n a b : Nat, (c.name, n) ∈ p.groupIndex ∧
          st.marks.span? n = some (a, b) ∧ m.start + c.offset = a ∧ m.start + c.stop = b) ∧
      ∀ c ∈ m.groups, 0 ≤ m.start + c.offset ∧ m.start + c.stop ≤ s.length ∧
        s.slice (m.start + c.offset).toNat (m.start + c.stop).toNat = c.value := by
  obtain ⟨modes, -, hprogram⟩ := compile_eq_ok hp
  obtain ⟨⟨start, st, hmatch, -, hm⟩, first, stop, hpos, hle, hfirst, hstop, hfull, hlast⟩ :=
    search_eq_ok_some (search_toNat h)
  have hstart : m.start = start := by rw [hm]; rfl
  obtain rfl : first = start := by omega
  have hmarks : st.marks.Between 0 s.length := by
    have hsize : s.toArray.size = s.length := List.size_toArray
    exact hsize ▸ Regex.between_of_matchAt (fun _ => rfl) (Nat.zero_le _) (by omega) hmatch
  have hlocated (c : Capture) (hc : c ∈ m.groups) := slice_of_mem_captures hmarks
    (show c ∈ p.captures s first st.marks by rw [hm] at hc; exact hc)
  refine ⟨by omega, by omega, by omega, ?_, (Regex.names_of_compile hprogram).1,
    (Regex.groups_of_compile hprogram).2, ⟨st, ?_, ?_, fun c hc => ?_⟩, fun c hc => ?_⟩
  · rw [hfull, hstart, hstop, Int.toNat_natCast, Int.toNat_natCast]
  · rw [hstart, Int.toNat_natCast]
    exact hmatch
  · rw [hm]
    exact names_captures p s first st.marks
  · obtain ⟨n, a, b, hmem, hspan, -, -, -, hoffset, hend, -⟩ := hlocated c hc
    rw [hstart]
    exact ⟨n, a, b, hmem, hspan, hoffset, hend⟩
  · obtain ⟨n, a, b, -, -, -, -, hb, hoffset, hend, hslice⟩ := hlocated c hc
    rw [hstart, hoffset, hend, Int.toNat_natCast, Int.toNat_natCast]
    exact ⟨by omega, by omega, hslice⟩

/-- Two letters of which the last is kept, between one that is looked back at and one that is looked
ahead to: the one lies before the match, the other behind it. -/
theorem search_locates_around : ∃ p m,
    compile "(?<=(?P<b>a))(?:(?P<r>[xy]))+(?=(?P<f>z))".toList "" = .ok p ∧
      p.search "axyz".toList (-3) = .ok (some m) ∧
      m = ⟨"xy".toList, 1, [⟨"b", ['a'], -1⟩, ⟨"r", ['y'], 1⟩, ⟨"f", ['z'], 2⟩]⟩ ∧
      ∀ c ∈ m.groups, 0 ≤ m.start + c.offset ∧ m.start + c.stop ≤ 4 ∧
        Text.slice "axyz".toList (m.start + c.offset).toNat (m.start + c.stop).toNat = c.value := by
  obtain ⟨p, hcompile, h⟩ := bind_eq_ok_iff.mp (show
    (compile "(?<=(?P<b>a))(?:(?P<r>[xy]))+(?=(?P<f>z))".toList "" >>=
        fun p => p.search "axyz".toList (-3)) =
      .ok (some ⟨"xy".toList, 1, [⟨"b", ['a'], -1⟩, ⟨"r", ['y'], 1⟩, ⟨"f", ['z'], 2⟩]⟩) by
    decide +kernel)
  obtain ⟨-, -, -, -, -, -, -, hlocated⟩ := search_locates hcompile h
  exact ⟨p, _, hcompile, h, rfl, hlocated⟩

/-- **No group has text before the match**, unless the pattern looks behind. -/
theorem offset_nonneg_of_search (hbehind : p.program.regex.looksBehind = false)
    (h : p.search s pos = .ok (some m)) {c : Capture} (hc : c ∈ m.groups) : 0 ≤ c.offset := by
  obtain ⟨⟨start, st, hmatch, -, hm⟩, first, stop, -, hle, hfirst, -, -, hlast⟩ :=
    search_eq_ok_some (search_toNat h)
  have hstart : m.start = start := by rw [hm]; rfl
  have hmarks : st.marks.Between start s.length := by
    have hsize : s.toArray.size = s.length := List.size_toArray
    exact hsize ▸ Regex.between_of_matchAt (by simp [hbehind]) (Nat.le_refl _) (by omega) hmatch
  obtain ⟨n, a, b, -, -, ha, -, -, hoffset, -⟩ := slice_of_mem_captures hmarks
    (show c ∈ p.captures s start st.marks by rw [hm] at hc; exact hc)
  omega

end Pattern

end Highlighting
