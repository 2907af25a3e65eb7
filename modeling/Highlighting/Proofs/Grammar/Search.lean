import Highlighting.Proofs.Grammar.Acceptance
import Mathlib.Data.List.Chain

/-!
# The search for circles as it runs

The search from a name goes into the names it refers to, one after the other, and is through with
the name when it is through with all of them. It can be watched: made with a note of each name that
is gone into and of each that is gone through, it ends as it does without. Here what happens is also
told without a bound on the depth, as a run in which each name is gone into and gone through, so
that a run is finite by being one. The bound of the function is never met, for the names of a path
differ, so the notes are those of just this run.

No name is gone into twice. A name that is met again lies on the path, which ends the search, or is
gone through, which passes over it. So nothing happens twice in a run. And where a name of the path
is met, the path from that name on leads back to it: each name of a path refers to the next.

## Main definitions

* `Circle.Event` -- what happens to a name in a search.
* `Circle.watch`, `Circle.watched` -- the search, with a note of what happens.
* `Circle.Searches` -- a run of the search, with what happens in it.
* `Circle.Closes` -- some names lead from the first of them back to it.

## Main statements

* `Circle.watched_fst` -- the search that is watched ends as the search does.
* `Circle.Searches.once` -- nothing happens twice in a run.
* `Grammar.checkRematch_reports_circles` -- circles of rules are reported as they are.
-/
namespace Highlighting

namespace Circle

/-- What happens to a name in a search. -/
inductive Event where
  /-- The search goes into what the name refers to. -/
  | goesInto (name : String)
  /-- The search is through with all that the name refers to. -/
  | goesThrough (name : String)
deriving DecidableEq, Repr

/-! ## Watching the search -/

/-- A search that is watched: it may end with a circle, and what happens is noted in order. -/
abbrev Watched := ExceptT (String × List String) (StateM (List Event))

/-- Note what happens. -/
def note (e : Event) : Watched Unit := modify (· ++ [e])

/-- Search from a name as `visit` does, with a note of what happens. -/
def watch (targets : String → List String) :
    (depth : Nat) → (path done : List String) → (name : String) → Watched (List String)
  | 0, _, done, _ => return done
  | depth + 1, path, done, name =>
    if name ∈ path then throw (name, wayBack path name)
    else if name ∈ done then return done
    else do
      note (.goesInto name)
      let done ← (targets name).foldlM (fun done => watch targets depth (name :: path) done) done
      note (.goesThrough name)
      return name :: done

/-- Search from each of some names as `search` does: what that ends with, and what happens. -/
def watched (targets : String → List String) (names : List String) : Outcome × List Event :=
  (names.foldlM (fun done name => watch targets (names.length + 1) [] done name) []).run.run []

/-- What is noted in a part of a search goes behind the notes before it, and the rest goes on from
what the part ends with. -/
theorem run_bind {α β : Type} (x : Watched α) (k : α → Watched β) (before : List Event) :
    (x >>= k).run.run before = match x.run.run before with
      | (.ok a, events) => (k a).run.run events
      | (.error c, events) => (.error c, events) := by
  rw [ExceptT.run_bind, StateT.run_bind]
  rcases x.run.run before with ⟨c | a, events⟩ <;> rfl

theorem run_note (e : Event) (before : List Event) :
    (note e).run.run before = (.ok (), before ++ [e]) := rfl

section New
variable {targets : String → List String} {path done : List String} {name : String}

/-- A new name is noted before what it refers to, and once more behind if no circle was met. -/
theorem run_watch_new (hpath : name ∉ path) (hdone : name ∉ done) (depth : Nat)
    (before : List Event) :
    (watch targets (depth + 1) path done name).run.run before =
      match ((targets name).foldlM (fun done name' => watch targets depth (name :: path) done name')
          done).run.run (before ++ [.goesInto name]) with
      | (.ok done', events) => (.ok (name :: done'), events ++ [.goesThrough name])
      | (.error c, events) => (.error c, events) := by
  rw [watch, if_neg hpath, if_neg hdone, run_bind, run_note]
  dsimp only
  rw [run_bind]
  cases ((targets name).foldlM (fun done name' => watch targets depth (name :: path) done name')
      done).run.run (before ++ [.goesInto name]) with
  | mk out events => cases out <;> rfl

end New

/-- A search in turn ends as it does without notes, if each part does. -/
theorem run_foldlM_fst {f : List String → String → Watched (List String)}
    {g : List String → String → Outcome}
    (hfg : ∀ done t before, ((f done t).run.run before).1 = g done t)
    (ts done : List String) (before : List Event) :
    ((ts.foldlM f done).run.run before).1 = ts.foldlM g done := by
  induction ts generalizing done before with
  | nil => rfl
  | cons t ts ih =>
    rw [List.foldlM_cons, List.foldlM_cons, run_bind, ← hfg done t before]
    cases (f done t).run.run before with
    | mk out events =>
      cases out with
      | ok done' => exact ih done' events
      | error c => rfl

/-- **The search that is watched ends as the search does**, from each name. -/
theorem run_watch_fst (targets : String → List String) (depth : Nat) (path done : List String)
    (name : String) (before : List Event) :
    ((watch targets depth path done name).run.run before).1 =
      visit targets depth path done name := by
  induction depth generalizing path done name before with
  | zero => rfl
  | succ depth ih =>
    by_cases hpath : name ∈ path
    · rw [watch, visit, if_pos hpath, if_pos hpath]
      rfl
    by_cases hdone : name ∈ done
    · rw [watch, visit, if_neg hpath, if_neg hpath, if_pos hdone, if_pos hdone]
      rfl
    have hinside := run_foldlM_fst (fun done name' before => ih (name :: path) done name' before)
      (targets name) done (before ++ [.goesInto name])
    rw [run_watch_new hpath hdone, visit, if_neg hpath, if_neg hdone, ← hinside]
    cases ((targets name).foldlM (fun done name' => watch targets depth (name :: path) done name')
        done).run.run (before ++ [.goesInto name]) with
    | mk out events => cases out <;> rfl

/-- **The search that is watched ends as the search does.** -/
theorem watched_fst (targets : String → List String) (names : List String) :
    (watched targets names).1 = search targets names :=
  run_foldlM_fst (fun done name before => run_watch_fst targets _ [] done name before) names [] []

/-! ## Runs -/

/-- The search from each of some names in turn, behind a path and with some names gone through
already: what happens in it, in order, and what it ends with. -/
inductive Searches (targets : String → List String) :
    (path done names : List String) → List Event → Outcome → Prop where
  | nil {path done : List String} : Searches targets path done [] [] (.ok done)
  /-- A name of the path is met again. -/
  | circle {path done names : List String} {name : String} (hpath : name ∈ path) :
      Searches targets path done (name :: names) [] (.error (name, wayBack path name))
  /-- A name is passed over that was gone through before. -/
  | known {path done names : List String} {name : String} {events : List Event} {out : Outcome}
      (hpath : name ∉ path) (hdone : name ∈ done)
      (hrest : Searches targets path done names events out) :
      Searches targets path done (name :: names) events out
  /-- A name is gone through, and the others follow. -/
  | through {path done done' names : List String} {name : String} {inside events : List Event}
      {out : Outcome} (hpath : name ∉ path) (hdone : name ∉ done)
      (hinside : Searches targets (name :: path) done (targets name) inside (.ok done'))
      (hrest : Searches targets path (name :: done') names events out) :
      Searches targets path done (name :: names)
        (.goesInto name :: inside ++ .goesThrough name :: events) out
  /-- A circle is met behind a name. -/
  | stopped {path done names : List String} {name : String} {inside : List Event}
      {c : String × List String} (hpath : name ∉ path) (hdone : name ∉ done)
      (hinside : Searches targets (name :: path) done (targets name) inside (.error c)) :
      Searches targets path done (name :: names) (.goesInto name :: inside) (.error c)

namespace Searches
variable {targets : String → List String} {path done names : List String} {events : List Event}
  {out : Outcome}

/-- **There is one run at most.** -/
theorem unique (h : Searches targets path done names events out) {events' : List Event}
    {out' : Outcome} (h' : Searches targets path done names events' out') :
    events' = events ∧ out' = out := by
  induction h generalizing events' out' with
  | nil =>
    cases h'
    exact ⟨rfl, rfl⟩
  | circle hpath =>
    cases h' with
    | circle => exact ⟨rfl, rfl⟩
    | known hpath' | through hpath' | stopped hpath' => exact absurd hpath hpath'
  | known hpath hdone hrest ih =>
    cases h' with
    | circle hpath' => exact absurd hpath' hpath
    | known _ _ hrest' => exact ih hrest'
    | through _ hdone' | stopped _ hdone' => exact absurd hdone hdone'
  | through hpath hdone hinside hrest ihinside ihrest =>
    cases h' with
    | circle hpath' => exact absurd hpath' hpath
    | known _ hdone' => exact absurd hdone' hdone
    | through _ _ hinside' hrest' =>
      obtain ⟨rfl, hout⟩ := ihinside hinside'
      cases hout
      obtain ⟨rfl, rfl⟩ := ihrest hrest'
      exact ⟨rfl, rfl⟩
    | stopped _ _ hinside' =>
      obtain ⟨-, hout⟩ := ihinside hinside'
      cases hout
  | stopped hpath hdone hinside ih =>
    cases h' with
    | circle hpath' => exact absurd hpath' hpath
    | known _ hdone' => exact absurd hdone' hdone
    | through _ _ hinside' _ =>
      obtain ⟨-, hout⟩ := ih hinside'
      cases hout
    | stopped _ _ hinside' =>
      obtain ⟨rfl, hout⟩ := ih hinside'
      cases hout
      exact ⟨rfl, rfl⟩

end Searches

/-! ## The function makes the run -/

/-- **The search makes its run to the end**, and notes what happens in it: a path holds different
names, so it is too short for the depth to run out. -/
theorem searches_foldlM {targets : String → List String} {all : List String}
    (htargets : ∀ n ∈ all, ∀ t ∈ targets n, t ∈ all) {depth : Nat} {path done names : List String}
    (hnames : ∀ n ∈ names, n ∈ all) (hpath : path.Nodup) (hsub : ∀ n ∈ path, n ∈ all)
    (hdepth : depth + path.length = all.length + 1) :
    ∃ events out, Searches targets path done names events out ∧ ∀ before,
      (names.foldlM (fun done name => watch targets depth path done name) done).run.run before =
        (out, before ++ events) := by
  induction depth generalizing path done names with
  | zero =>
    have := (hpath.subperm hsub).length_le
    omega
  | succ depth ih =>
    induction names generalizing done with
    | nil => exact ⟨[], _, .nil, fun before => by rw [List.append_nil]; rfl⟩
    | cons name names ihnames =>
      obtain ⟨hname, hnames⟩ := List.forall_mem_cons.mp hnames
      have ihnames (done : List String) := @ihnames done hnames
      simp only [List.foldlM_cons, run_bind]
      by_cases hmem : name ∈ path
      · refine ⟨[], _, .circle hmem, fun before => ?_⟩
        rw [watch, if_pos hmem, List.append_nil]
        rfl
      by_cases hdone : name ∈ done
      · obtain ⟨events, out, hrest, hnotes⟩ := ihnames done
        refine ⟨events, out, .known hmem hdone hrest, fun before => ?_⟩
        rw [watch, if_neg hmem, if_pos hdone]
        exact hnotes before
      obtain ⟨inside, out, hinside, hnotes⟩ := @ih (name :: path) done (targets name)
        (htargets name hname) (List.nodup_cons.mpr ⟨hmem, hpath⟩)
        (List.forall_mem_cons.mpr ⟨hname, hsub⟩) (by rw [List.length_cons]; omega)
      simp only [run_watch_new hmem hdone, hnotes]
      cases out with
      | error c => exact ⟨_, _, .stopped hmem hdone hinside, fun before => by simp⟩
      | ok done' =>
        obtain ⟨events, out, hrest, hnotes⟩ := ihnames (name :: done')
        refine ⟨_, out, .through hmem hdone hinside hrest, fun before => ?_⟩
        dsimp only
        rw [hnotes]
        simp

/-- What is noted is what happens in the run. -/
theorem searches_watched (targets : String → List String) (names : List String)
    (htargets : ∀ n ∈ names, ∀ t ∈ targets n, t ∈ names) :
    Searches targets [] [] names (watched targets names).2 (watched targets names).1 := by
  obtain ⟨events, out, hruns, hnotes⟩ := @searches_foldlM targets names htargets
    (names.length + 1) [] [] names (fun n hn => hn) List.nodup_nil
    (fun n hn => absurd hn List.not_mem_nil) rfl
  rw [watched, hnotes, List.nil_append]
  exact hruns

/-! ## Nothing happens twice -/

/-- What a run does with the names that it goes into. -/
structure Once (path done names : List String) (events : List Event) (out : Outcome) : Prop where
  nodup : events.Nodup
  /-- A name is gone into only if it is new. -/
  fresh : ∀ n, .goesInto n ∈ events → n ∉ path ∧ n ∉ done
  /-- A name is gone through only if it was gone into. -/
  entered : ∀ n, .goesThrough n ∈ events → .goesInto n ∈ events
  /-- Where no circle is met, all names are gone through, and so are those that were gone into. -/
  finished : ∀ done', out = .ok done' → (∀ n ∈ names, n ∈ done') ∧ done ⊆ done' ∧
    ∀ n, .goesInto n ∈ events → n ∈ done'

namespace Once
variable {path done done' names inner : List String} {name : String} {events inside : List Event}
  {out : Outcome}

/-- A name that is gone into comes before all that happens behind it. -/
theorem nodup_cons (h : Once (name :: path) done inner inside out) :
    (Event.goesInto name :: inside).Nodup :=
  List.nodup_cons.mpr ⟨fun hmem => (h.fresh name hmem).1 List.mem_cons_self, h.nodup⟩

/-- **A name that is gone through is not met in the rest** as a new one. -/
theorem through (hpath : name ∉ path) (hdone : name ∉ done)
    (hinside : Once (name :: path) done inner inside (.ok done'))
    (hrest : Once path (name :: done') names events out) :
    Once path done (name :: names)
      (.goesInto name :: inside ++ .goesThrough name :: events) out where
  nodup := by
    obtain ⟨-, hsub, hgone⟩ := hinside.finished done' rfl
    have hnew : ∀ n, .goesInto n ∈ events → n ≠ name ∧ n ∉ done' := by
      intro n hn
      simpa using (hrest.fresh n hn).2
    have hbehind : (Event.goesThrough name :: events).Nodup :=
      List.nodup_cons.mpr ⟨fun hmem => (hnew name (hrest.entered name hmem)).1 rfl, hrest.nodup⟩
    refine List.nodup_append'.mpr ⟨hinside.nodup_cons, hbehind, ?_⟩
    -- What happened inside happened to the name or to one that was gone through with it.
    have hold : ∀ n, Event.goesInto n ∈ Event.goesInto name :: inside → n = name ∨ n ∈ done' := by
      intro n hn
      rcases List.mem_cons.mp hn with heq | hn
      · exact .inl (Event.goesInto.inj heq)
      · exact .inr (hgone n hn)
    intro event hmem hmem'
    cases event with
    | goesInto n =>
      have hn := hnew n (by simpa using hmem')
      exact (hold n hmem).elim hn.1 hn.2
    | goesThrough n =>
      have hmem : Event.goesThrough n ∈ inside := by simpa using hmem
      have hinto := hinside.entered n hmem
      rcases List.mem_cons.mp hmem' with heq | hmem'
      · exact (hinside.fresh n hinto).1 (Event.goesThrough.inj heq ▸ List.mem_cons_self)
      · exact (hnew n (hrest.entered n hmem')).2 (hgone n hinto)
  fresh := by
    intro n hn
    obtain ⟨-, hsub, -⟩ := hinside.finished done' rfl
    rcases List.mem_append.mp hn with hn | hn
    · rcases List.mem_cons.mp hn with heq | hn
      · exact Event.goesInto.inj heq ▸ ⟨hpath, hdone⟩
      · have hn := hinside.fresh n hn
        exact ⟨fun hmem => hn.1 (List.mem_cons_of_mem _ hmem), hn.2⟩
    · have hn := hrest.fresh n (by simpa using hn)
      exact ⟨hn.1, fun hmem => hn.2 (List.mem_cons_of_mem _ (hsub hmem))⟩
  entered := by
    intro n hn
    rcases List.mem_append.mp hn with hn | hn
    · have hn : Event.goesThrough n ∈ inside := by simpa using hn
      exact List.mem_append_left _ (List.mem_cons_of_mem _ (hinside.entered n hn))
    · rcases List.mem_cons.mp hn with heq | hn
      · exact Event.goesThrough.inj heq ▸ List.mem_append_left _ List.mem_cons_self
      · exact List.mem_append_right _ (List.mem_cons_of_mem _ (hrest.entered n hn))
  finished := by
    intro done'' hout
    obtain ⟨-, hsub, hgone⟩ := hinside.finished done' rfl
    obtain ⟨hnames, hsub', hgone'⟩ := hrest.finished done'' hout
    obtain ⟨hname, hsub'⟩ := List.cons_subset.mp hsub'
    refine ⟨List.forall_mem_cons.mpr ⟨hname, hnames⟩, fun n hn => hsub' (hsub hn), fun n hn => ?_⟩
    rcases List.mem_append.mp hn with hn | hn
    · rcases List.mem_cons.mp hn with heq | hn
      · exact Event.goesInto.inj heq ▸ hname
      · exact hsub' (hgone n hn)
    · exact hgone' n (by simpa using hn)

/-- So is one behind which a circle is met. -/
theorem stopped {c : String × List String} (hpath : name ∉ path) (hdone : name ∉ done)
    (hinside : Once (name :: path) done inner inside (.error c)) :
    Once path done (name :: names) (.goesInto name :: inside) (.error c) where
  nodup := hinside.nodup_cons
  fresh := by
    intro n hn
    rcases List.mem_cons.mp hn with heq | hn
    · exact Event.goesInto.inj heq ▸ ⟨hpath, hdone⟩
    · have hn := hinside.fresh n hn
      exact ⟨fun hmem => hn.1 (List.mem_cons_of_mem _ hmem), hn.2⟩
  entered := by
    intro n hn
    exact List.mem_cons_of_mem _ (hinside.entered n (by simpa using hn))
  finished := nofun

end Once

/-- **Nothing happens twice in a run.** -/
theorem Searches.once {targets : String → List String} {path done names : List String}
    {events : List Event} {out : Outcome} (h : Searches targets path done names events out) :
    Once path done names events out := by
  induction h with
  | nil => exact ⟨List.nodup_nil, by simp, by simp, by rintro done' ⟨⟩; simp⟩
  | circle hpath => exact ⟨List.nodup_nil, by simp, by simp, nofun⟩
  | known hpath hdone hrest ih =>
    refine ⟨ih.nodup, ih.fresh, ih.entered, fun done' hout => ?_⟩
    obtain ⟨hnames, hsub, hgone⟩ := ih.finished done' hout
    exact ⟨List.forall_mem_cons.mpr ⟨hsub hdone, hnames⟩, hsub, hgone⟩
  | through hpath hdone _ _ ihinside ihrest => exact ihinside.through hpath hdone ihrest
  | stopped hpath hdone _ ih => exact ih.stopped hpath hdone

/-! ## What is met is a circle -/

/-- Names of which each refers to the next, and the last to the first. They differ. -/
structure Closes (targets : String → List String) (first : String) (others : List String) :
    Prop where
  nodup : (first :: others).Nodup
  refers : (first :: others ++ [first]).IsChain fun a b => b ∈ targets a

/-- The way back to a name of a path is a circle, if each name of the path refers to the one in
front of it and the first to that name. -/
theorem exists_closes_wayBack {targets : String → List String} {path : List String} {name : String}
    (hmem : name ∈ path) (hpath : path.Nodup)
    (hrefers : (name :: path).IsChain fun a b => a ∈ targets b) :
    ∃ others, wayBack path name = others ++ [name] ∧ Closes targets name others := by
  obtain ⟨before, behind, hsplit, hnew⟩ := List.eq_append_cons_of_mem hmem
  have htake : path.takeWhile (· != name) = before := by
    have hbefore : ∀ n ∈ before, (n != name) = true := by
      simpa using fun n hn => ne_of_mem_of_not_mem hn hnew
    rw [hsplit, List.takeWhile_append_of_pos hbefore]
    simp
  refine ⟨before.reverse, by rw [wayBack, htake], ?_, ?_⟩
  · rw [hsplit, List.nodup_append'] at hpath
    rw [List.nodup_cons, List.mem_reverse, List.nodup_reverse]
    exact ⟨hnew, hpath.1⟩
  · have hback : (name :: before ++ [name]).IsChain fun a b => a ∈ targets b := by
      refine hrefers.infix ⟨[], behind, ?_⟩
      simp [hsplit]
    have hreverse : (name :: before ++ [name]).reverse = name :: before.reverse ++ [name] := by simp
    rw [← hreverse, List.isChain_reverse]
    exact hback

/-- **A circle that is met is one**, and the way round is given from the name that was met twice. -/
theorem Searches.exists_closes {targets : String → List String} {path done names : List String}
    {events : List Event} {out : Outcome} (h : Searches targets path done names events out)
    (hpath : path.Nodup) (hrefers : ∀ n ∈ names, (n :: path).IsChain fun a b => a ∈ targets b)
    {first : String} {way : List String} (hout : out = .error (first, way)) :
    ∃ others, way = others ++ [first] ∧ Closes targets first others := by
  induction h with
  | nil => cases hout
  | circle hmem =>
    cases hout
    exact exists_closes_wayBack hmem hpath (hrefers _ List.mem_cons_self)
  | known _ _ _ ih => exact ih hpath (fun n hn => hrefers n (List.mem_cons_of_mem _ hn)) hout
  | through _ _ _ _ _ ih => exact ih hpath (fun n hn => hrefers n (List.mem_cons_of_mem _ hn)) hout
  | stopped hnew _ _ ih =>
    refine ih (List.nodup_cons.mpr ⟨hnew, hpath⟩) (fun n hn => ?_) hout
    exact List.isChain_cons_cons.mpr ⟨hn, hrefers _ List.mem_cons_self⟩

end Circle

namespace Grammar

/-- **Circles of rules are reported as they are.** The search for them ends, and when it is watched
it makes the one run that there is, in which nothing happens twice, so what a rule names is gone
through once at most. Siblings that exist pass the check exactly if no rule is named by itself, by
way of others or at once. Otherwise the error is about a rule, and its message leads from that rule
to itself again, by way of different rules, each of which names the next. -/
theorem checkRematch_reports_circles {rules : List Rule} (hdistinct : (rules.map (·.name)).Nodup)
    (hknown : ∀ r ∈ rules, ∀ t ∈ r.rematch, ∃ s ∈ rules, s.name = t) :
    (∃ events out, Circle.watched (targetsOf rules) (rules.map (·.name)) = (out, events) ∧
      out = Circle.search (targetsOf rules) (rules.map (·.name)) ∧
      Circle.Searches (targetsOf rules) [] [] (rules.map (·.name)) events out ∧
      (∀ events' out', Circle.Searches (targetsOf rules) [] [] (rules.map (·.name)) events' out' →
        events' = events ∧ out' = out) ∧
      events.Nodup ∧
      checkRematch rules = match out with
        | .ok _ => .ok ()
        | .error (first, way) => .error (.grammar (.cycle first way))) ∧
    (checkRematch rules = .ok () ↔ ∀ a, ¬ Relation.TransGen (Rule.Rematches rules) a a) ∧
    ∀ e, checkRematch rules = .error e → ∃ e' first others, e = .grammar e' ∧
      e'.rule? = some (.text first) ∧
      e'.message = "Rematch cycle: " ++ " -> ".intercalate (first :: others ++ [first]) ∧
      (first :: others).Nodup ∧
      (first :: others ++ [first]).IsChain (Rule.Rematches rules) := by
  have hruns := Circle.searches_watched (targetsOf rules) (rules.map (·.name))
    fun _ _ _ => mem_names_of_mem_targetsOf hknown
  rw [Circle.watched_fst] at hruns
  have hcheck : checkRematch rules =
      match Circle.search (targetsOf rules) (rules.map (·.name)) with
      | .ok _ => .ok ()
      | .error (first, way) => .error (.grammar (.cycle first way)) := by
    unfold checkRematch Circle.find?
    dsimp only
    rw [unknownTarget?_eq_none_iff.mpr hknown]
    cases Circle.search (targetsOf rules) (rules.map (·.name)) <;> rfl
  refine ⟨⟨_, _, Prod.ext (Circle.watched_fst _ _) rfl, rfl, hruns, fun _ _ h => hruns.unique h,
    hruns.once.nodup, hcheck⟩, ?_, ?_⟩
  · rw [checkRematch_eq_ok_iff hdistinct, and_iff_right hknown]
  · intro e he
    cases hout : Circle.search (targetsOf rules) (rules.map (·.name)) with
    | ok done =>
      rw [hcheck, hout] at he
      cases he
    | error c =>
      obtain ⟨first, way⟩ := c
      rw [hcheck, hout] at he
      cases he
      obtain ⟨others, rfl, hcloses⟩ := hruns.exists_closes List.nodup_nil (by simp) hout
      exact ⟨_, first, others, rfl, rfl, rfl, hcloses.nodup,
        targetsOf_eq_rematches hdistinct ▸ hcloses.refers⟩

/-- Two rules that share a sibling, and two that name each other, where the first rule leads to. -/
def roundabout : List Rule :=
  [⟨"start", "a".toList, none, [], ["left", "right"], none, by decide, by decide⟩,
   ⟨"left", "b".toList, none, [], ["end"], none, by decide, by decide⟩,
   ⟨"right", "c".toList, none, [], ["end", "round"], none, by decide, by decide⟩,
   ⟨"end", "d".toList, none, [], [], none, by decide, by decide⟩,
   ⟨"round", "e".toList, none, [], ["about"], none, by decide, by decide⟩,
   ⟨"about", "f".toList, none, [], ["end", "round"], none, by decide, by decide⟩]

/-- So is the circle of two rules, which the search comes to by way of others. The sibling that is
shared is no circle, and it is gone into once. -/
theorem checkRematch_reports_circles_roundabout :
    (roundabout.map (·.name)).Nodup ∧
    (∀ r ∈ roundabout, ∀ t ∈ r.rematch, ∃ s ∈ roundabout, s.name = t) ∧
    (∃ events, Circle.watched (targetsOf roundabout) (roundabout.map (·.name)) =
        (.error ("round", ["about", "round"]), events) ∧ events.Nodup) ∧
    ∃ a, Relation.TransGen (Rule.Rematches roundabout) a a := by
  have hdistinct : (roundabout.map (·.name)).Nodup := by decide
  have hknown : ∀ r ∈ roundabout, ∀ t ∈ r.rematch, ∃ s ∈ roundabout, s.name = t := by decide
  have hcheck : checkRematch roundabout =
      .error (.grammar (.cycle "round" ["about", "round"])) := by decide +kernel
  obtain ⟨⟨events, out, hwatched, -, -, -, hnodup, hout⟩, hiff, -⟩ :=
    checkRematch_reports_circles hdistinct hknown
  refine ⟨hdistinct, hknown, ⟨events, ?_, hnodup⟩, ?_⟩
  · rw [hcheck] at hout
    cases out with
    | ok done => cases hout
    | error c =>
      obtain ⟨first, way⟩ := c
      cases hout
      exact hwatched
  · by_contra hnone
    rw [hiff.mpr (not_exists.mp hnone)] at hcheck
    cases hcheck

end Grammar

end Highlighting
