import Highlighting.Grammar.Circle
import Mathlib.Data.List.Perm.Subperm
import Mathlib.Logic.Relation

/-!
# Names without circles

A search that meets no circle leaves the names in an order in which the targets of each name
stand behind it. The invariant is on the names searched so far, and it is carried along the path:
no name of the path has been searched to its end, so a target is either found on the path, which
ends the search, or put in the order in front of what it needs.

Names that stand in such an order do not refer to each other in a circle. A search that does meet
a circle meets a name that leads back to itself, for every name of the path leads to where the
search is.

## Main definitions

* `Circle.Ordered` -- names in an order in which the targets of each stand behind it.
* `Circle.Leads` -- a name refers to another, by way of further names or at once.
-/
namespace Highlighting.Circle

/-- Names in an order in which the targets of each stand behind it. -/
inductive Ordered (targets : String → List String) : List String → Prop where
  | nil : Ordered targets []
  | cons {name : String} {done : List String} (hnew : name ∉ done)
      (htargets : ∀ t ∈ targets name, t ∈ done) (hdone : Ordered targets done) :
      Ordered targets (name :: done)

theorem Ordered.nodup {targets : String → List String} {order : List String}
    (h : Ordered targets order) : order.Nodup := by
  induction h with
  | nil => exact List.nodup_nil
  | cons hnew _ _ ih => exact List.nodup_cons.mpr ⟨hnew, ih⟩

/-- What a search does to the names searched so far: more of them are put in front, none that
stands on the path, and they stay in order. -/
structure Extends (targets : String → List String) (names path done done' : List String) :
    Prop where
  ordered : Ordered targets done'
  suffix : done <:+ done'
  unfinished : ∀ n ∈ path, n ∉ done'
  known : ∀ n ∈ done', n ∈ names

namespace Extends
variable {targets : String → List String} {names path done done' done'' : List String}

theorem trans (h : Extends targets names path done done')
    (h' : Extends targets names path done' done'') : Extends targets names path done done'' :=
  ⟨h'.ordered, h.suffix.trans h'.suffix, h'.unfinished, h'.known⟩

theorem refl (h : Extends targets names path done done') :
    Extends targets names path done' done' :=
  ⟨h.ordered, List.suffix_refl _, h.unfinished, h.known⟩

/-- **Names are searched one after another**, if each of them is searched to its end. -/
theorem foldlM {visit : List String → String → Outcome} {ts : List String}
    (hvisit : ∀ t ∈ ts, ∀ {done done'}, Extends targets names path done done →
      visit done t = .ok done' → Extends targets names path done done' ∧ t ∈ done')
    (hstart : Extends targets names path done done) (h : ts.foldlM visit done = .ok done') :
    Extends targets names path done done' ∧ ∀ t ∈ ts, t ∈ done' := by
  induction ts generalizing done with
  | nil =>
    cases h
    exact ⟨hstart, fun t ht => absurd ht List.not_mem_nil⟩
  | cons t ts ih =>
    rw [List.foldlM_cons] at h
    cases hone : visit done t with
    | error e => simp [hone, bind, Except.bind] at h
    | ok done₁ =>
      rw [hone] at h
      obtain ⟨hext, hmem⟩ := hvisit t List.mem_cons_self hstart hone
      obtain ⟨hrest, hmems⟩ := ih (fun t' ht' => hvisit t' (List.mem_cons_of_mem _ ht')) hext.refl h
      refine ⟨hext.trans hrest, fun t' ht' => ?_⟩
      rcases List.mem_cons.mp ht' with rfl | ht'
      · exact hrest.suffix.subset hmem
      · exact hmems t' ht'

end Extends

/-- **A name that a search meets no circle from is searched to its end**: it comes into the
order, with everything it needs behind it. The path is too short for the depth to run out. -/
theorem visit_extends {targets : String → List String} {names : List String}
    (htargets : ∀ n ∈ names, ∀ t ∈ targets n, t ∈ names) {depth : Nat}
    {path done done' : List String} {name : String} (hname : name ∈ names) (hpath : path.Nodup)
    (hsub : ∀ n ∈ path, n ∈ names) (hdepth : depth + path.length = names.length + 1)
    (hstart : Extends targets names path done done)
    (h : visit targets depth path done name = .ok done') :
    Extends targets names path done done' ∧ name ∈ done' := by
  induction depth generalizing path done done' name with
  | zero =>
    have := (hpath.subperm hsub).length_le
    omega
  | succ depth ih =>
    unfold visit at h
    split at h
    · cases h
    · next hnew =>
      split at h
      · next hdone =>
        cases h
        exact ⟨hstart, hdone⟩
      · next hdone =>
        cases hfold : (targets name).foldlM
            (fun done => visit targets depth (name :: path) done) done with
        | error e => simp [hfold, bind, Except.bind] at h
        | ok done₁ =>
          have hstart' : Extends targets names (name :: path) done done := by
            refine ⟨hstart.ordered, hstart.suffix, fun n hn => ?_, hstart.known⟩
            rcases List.mem_cons.mp hn with rfl | hn
            · exact hdone
            · exact hstart.unfinished n hn
          obtain ⟨hext, hmems⟩ := hstart'.foldlM (fun t ht {_ _} hstart h =>
            ih (htargets name hname t ht) (List.nodup_cons.mpr ⟨hnew, hpath⟩)
              (List.forall_mem_cons.mpr ⟨hname, hsub⟩) (by simp; omega) hstart h) hfold
          simp only [hfold, bind, Except.bind, pure, Except.pure, Except.ok.injEq] at h
          subst h
          refine ⟨⟨.cons (hext.unfinished name List.mem_cons_self) hmems hext.ordered,
            hext.suffix.trans (List.suffix_cons _ _), fun n hn hmem => ?_,
            List.forall_mem_cons.mpr ⟨hname, hext.known⟩⟩, List.mem_cons_self⟩
          rcases List.mem_cons.mp hmem with rfl | hmem
          · exact hnew hn
          · exact hext.unfinished n (List.mem_cons_of_mem _ hn) hmem

/-- **Names without a circle can be put in an order** in which the targets of each stand behind
it. -/
theorem exists_ordered {targets : String → List String} {names : List String}
    (htargets : ∀ n ∈ names, ∀ t ∈ targets n, t ∈ names) (h : find? targets names = none) :
    ∃ order, Ordered targets order ∧ (∀ n ∈ names, n ∈ order) ∧ order.length ≤ names.length := by
  unfold find? at h
  split at h
  · cases h
  · next order hsearch =>
    have hstart : Extends targets names [] [] [] :=
      ⟨.nil, List.suffix_refl _, fun n hn => absurd hn List.not_mem_nil,
        fun n hn => absurd hn List.not_mem_nil⟩
    obtain ⟨hext, hmems⟩ := hstart.foldlM (fun t ht {_ _} hstart h =>
      visit_extends htargets ht List.nodup_nil (fun n hn => absurd hn List.not_mem_nil) (by simp)
        hstart h) hsearch
    exact ⟨order, hext.ordered, hmems,
      (hext.ordered.nodup.subperm hext.known).length_le⟩

/-! ## Ways back -/

/-- A name refers to another, by way of further names or at once. -/
abbrev Leads (targets : String → List String) : String → String → Prop :=
  Relation.TransGen fun a b => b ∈ targets a

theorem Ordered.mem_of_mem_targets {targets : String → List String} {order : List String}
    (h : Ordered targets order) {a b : String} (ha : a ∈ order) (hb : b ∈ targets a) :
    b ∈ order := by
  induction h with
  | nil => exact absurd ha List.not_mem_nil
  | cons hnew htargets hdone ih =>
    rcases List.mem_cons.mp ha with rfl | ha
    · exact List.mem_cons_of_mem _ (htargets b hb)
    · exact List.mem_cons_of_mem _ (ih ha)

/-- What names of an order lead to stands in the order. -/
theorem Ordered.mem_of_leads {targets : String → List String} {order : List String}
    (h : Ordered targets order) {a b : String} (ha : a ∈ order) (hleads : Leads targets a b) :
    b ∈ order := by
  induction hleads with
  | single hb => exact h.mem_of_mem_targets ha hb
  | tail _ hb ih => exact h.mem_of_mem_targets ih hb

/-- **No name of an order leads back to itself.** -/
theorem Ordered.not_leads_self {targets : String → List String} {order : List String}
    (h : Ordered targets order) {a : String} (ha : a ∈ order) : ¬ Leads targets a a := by
  induction h with
  | nil => exact absurd ha List.not_mem_nil
  | @cons name done hnew htargets hdone ih =>
    intro hleads
    rcases List.mem_cons.mp ha with rfl | ha
    · -- The first step goes behind the name, and nothing leads out of what stands there.
      have hmem : a ∈ done := by
        rcases Relation.TransGen.head'_iff.mp hleads with ⟨t, ht, hrest⟩
        rcases Relation.reflTransGen_iff_eq_or_transGen.mp hrest with rfl | hrest
        · exact htargets _ ht
        · exact hdone.mem_of_leads (htargets t ht) hrest
      exact hnew hmem
    · exact ih ha hleads

theorem exists_of_foldlM_eq_error {visit : List String → String → Outcome} {ts done : List String}
    {c : String × List String} (h : ts.foldlM visit done = .error c) :
    ∃ t ∈ ts, ∃ done', visit done' t = .error c := by
  induction ts generalizing done with
  | nil => cases h
  | cons t ts ih =>
    rw [List.foldlM_cons] at h
    cases hone : visit done t with
    | error e =>
      rw [hone] at h
      cases h
      exact ⟨t, List.mem_cons_self, done, hone⟩
    | ok done₁ =>
      rw [hone] at h
      obtain ⟨t', ht', hvisit⟩ := ih h
      exact ⟨t', List.mem_cons_of_mem _ ht', hvisit⟩

/-- A search that meets a circle meets a name that leads back to itself: all names of the path
lead to the one that is searched. -/
theorem leads_self_of_visit {targets : String → List String} {depth : Nat} {path done : List String}
    {name : String} {c : String × List String} (hpath : ∀ n ∈ path, Leads targets n name)
    (h : visit targets depth path done name = .error c) : Leads targets c.1 c.1 := by
  induction depth generalizing path done name with
  | zero => cases h
  | succ depth ih =>
    unfold visit at h
    by_cases hmem : name ∈ path
    · rw [if_pos hmem] at h
      cases h
      exact hpath name hmem
    · rw [if_neg hmem] at h
      by_cases hdone : name ∈ done
      · rw [if_pos hdone] at h
        cases h
      · rw [if_neg hdone] at h
        cases hfold : (targets name).foldlM
            (fun done => visit targets depth (name :: path) done) done with
        | ok done₁ =>
          rw [hfold] at h
          cases h
        | error c' =>
          rw [hfold] at h
          cases h
          obtain ⟨t, ht, done', hvisit⟩ := exists_of_foldlM_eq_error hfold
          refine ih ?_ hvisit
          intro n hn
          rcases List.mem_cons.mp hn with rfl | hn
          · exact .single ht
          · exact (hpath n hn).tail ht

/-- **No circle is met exactly if no name leads back to itself**, among names that refer only to
each other. -/
theorem find?_eq_none_iff {targets : String → List String} {names : List String}
    (htargets : ∀ n ∈ names, ∀ t ∈ targets n, t ∈ names) (hnone : ∀ n, n ∉ names → targets n = []) :
    find? targets names = none ↔ ∀ n, ¬ Leads targets n n := by
  constructor
  · intro h n hleads
    obtain ⟨order, hordered, hmem, -⟩ := exists_ordered htargets h
    by_cases hn : n ∈ names
    · exact hordered.not_leads_self (hmem n hn) hleads
    · obtain ⟨t, ht, -⟩ := Relation.TransGen.head'_iff.mp hleads
      rw [hnone n hn] at ht
      exact absurd ht List.not_mem_nil
  · intro h
    unfold find?
    split
    · next c hsearch =>
      obtain ⟨t, -, done, hvisit⟩ := exists_of_foldlM_eq_error hsearch
      exact absurd (leads_self_of_visit (fun n hn => absurd hn List.not_mem_nil) hvisit) (h c.1)
    · rfl

end Highlighting.Circle
