import Highlighting.Proofs.Grammar.Acceptance
import Highlighting.Proofs.Grammar.Semantics
import Mathlib.Algebra.Order.BigOperators.Group.Finset

/-!
# How deep calls are nested

Coloring by the rules themselves replaces a token by its rule, and inside of the token it colors
by the rule's handler and by the siblings that the rule names. The text need not get shorter on
the way, since a token may be the whole text and a transform may make it longer. Still the
recursion ends, because no call is nested in a call of the same rule at the same level: within a
level each call is one of a sibling named by the call around it, which never leads back, and a
handler is a level of its own, from which no call leads out.

## Main definitions

* `levelAt` -- the level that handlers lead to.
* `Nested` -- calls that may be open at a time.
* `Around` -- calls that may be open around a call of a rule.
-/
namespace Highlighting

/-! ## Calls that may be open -/

/-- The level that the handlers of the rules named lead to, the last name first. -/
def levelAt (tree : List Rule) : List String → List Rule
  | [] => tree
  | name :: path =>
    match (levelAt tree path).find? (·.name == name) with
    | some r => r.handler
    | none => []

/-- Calls that may be open at a time: they are different, each is of a rule of its level, and
their levels lie inside of each other, no deeper than allowed. -/
structure Nested (tree : List Rule) (maxDepth : Int) (calls : List Call) : Prop where
  nodup : calls.Nodup
  mem : ∀ c ∈ calls, c.name ∈ (levelAt tree c.path).map (·.name)
  inside : ∃ path : List String, (path.length : Int) ≤ maxDepth ∧ ∀ c ∈ calls, c.path <:+ path

namespace Nested
variable {tree : List Rule} {maxDepth : Int} {calls : List Call}

/-- **No more calls are open than the levels entered have rules.** -/
theorem length_le (h : Nested tree maxDepth calls) :
    calls.length ≤ ∑ path ∈ (calls.map Call.path).toFinset, (levelAt tree path).length := by
  have hpaths : calls.toFinset.image Call.path = (calls.map Call.path).toFinset := by
    ext path
    simp
  have hlevel (path : List String) :
      (calls.toFinset.filter fun c => c.path = path).card ≤ (levelAt tree path).length := by
    have hsub : (calls.toFinset.filter fun c => c.path = path).image Call.name ⊆
        ((levelAt tree path).map (·.name)).toFinset := by
      intro name hname
      obtain ⟨c, hc, rfl⟩ := Finset.mem_image.mp hname
      obtain ⟨hmem, rfl⟩ := Finset.mem_filter.mp hc
      exact List.mem_toFinset.mpr (h.mem c (List.mem_toFinset.mp hmem))
    have hinj : Set.InjOn Call.name (calls.toFinset.filter fun c => c.path = path) := by
      rintro ⟨p, n⟩ hc ⟨p', n'⟩ hc' hname
      obtain ⟨-, rfl⟩ := Finset.mem_filter.mp (Finset.mem_coe.mp hc)
      obtain ⟨-, hp⟩ := Finset.mem_filter.mp (Finset.mem_coe.mp hc')
      simp_all
    calc (calls.toFinset.filter fun c => c.path = path).card
        = ((calls.toFinset.filter fun c => c.path = path).image Call.name).card :=
          (Finset.card_image_of_injOn hinj).symm
      _ ≤ ((levelAt tree path).map (·.name)).toFinset.card := Finset.card_le_card hsub
      _ ≤ (levelAt tree path).length := by
          simpa using List.toFinset_card_le ((levelAt tree path).map (·.name))
  calc calls.length = calls.toFinset.card := (List.toFinset_card_of_nodup h.nodup).symm
    _ = ∑ path ∈ calls.toFinset.image Call.path,
          (calls.toFinset.filter fun c => c.path = path).card :=
        Finset.card_eq_sum_card_image Call.path calls.toFinset
    _ ≤ ∑ path ∈ (calls.map Call.path).toFinset, (levelAt tree path).length := by
        rw [hpaths]
        exact Finset.sum_le_sum fun path _ => hlevel path

/-- **No more levels are entered than handlers may be nested**, besides the first one. -/
theorem card_paths_le (h : Nested tree maxDepth calls) :
    ((calls.map Call.path).toFinset.card : Int) ≤ maxDepth + 1 := by
  obtain ⟨path, hlength, hinside⟩ := h.inside
  -- Levels inside of each other differ in depth.
  have hsuffix : ∀ p ∈ (calls.map Call.path).toFinset, p <:+ path := by
    intro p hp
    obtain ⟨c, hc, rfl⟩ := List.mem_map.mp (List.mem_toFinset.mp hp)
    exact hinside c hc
  have hinj : Set.InjOn List.length ((calls.map Call.path).toFinset : Set (List String)) := by
    intro p hp q hq heq
    have hp := hsuffix p (Finset.mem_coe.mp hp)
    have hq := hsuffix q (Finset.mem_coe.mp hq)
    exact (List.suffix_of_suffix_length_le hp hq heq.le).eq_of_length heq
  have hsub : (calls.map Call.path).toFinset.image List.length ⊆
    Finset.range (path.length + 1) := by
    intro n hn
    obtain ⟨p, hp, rfl⟩ := Finset.mem_image.mp hn
    exact Finset.mem_range.mpr (Nat.lt_succ_of_le (hsuffix p hp).length_le)
  have hcard := Finset.card_le_card hsub
  rw [Finset.card_image_of_injOn hinj, Finset.card_range] at hcard
  omega

end Nested

/-! ## One more call -/

/-- Calls that may be open around a call of a rule of a level: the rules of those of the same level
lead to it. -/
structure Around (tree : List Rule) (maxDepth : Int) (level : List Rule) (path : List String)
    (calls : List Call) (name : String) : Prop where
  nested : Nested tree maxDepth calls
  inside : ∀ c ∈ calls, c.path <:+ path
  leads : ∀ c ∈ calls, c.path = path → Relation.TransGen (Rule.Rematches level) c.name name

section Opening
variable {flags : String} {tree : List Rule} {maxDepth : Int} {level : List Rule}
  {path : List String} {calls : List Call} {r : Rule}

/-- **One more call may be open**, since the rule does not lead back to itself. -/
theorem Around.nested_cons (h : Around tree maxDepth level path calls r.name)
    (hpath : levelAt tree path = level) (hlevel : LevelWellFormed flags maxDepth path.length level)
    (hr : r ∈ level) : Nested tree maxDepth (⟨path, r.name⟩ :: calls) := by
  constructor
  · refine List.nodup_cons.mpr ⟨?_, h.nested.nodup⟩
    intro hmem
    exact hlevel.acyclic r.name (h.leads _ hmem rfl)
  · refine List.forall_mem_cons.mpr ⟨?_, h.nested.mem⟩
    rw [hpath]
    exact List.mem_map_of_mem hr
  · exact ⟨path, hlevel.shallow, List.forall_mem_cons.mpr ⟨List.suffix_refl _, h.inside⟩⟩

/-- No call of the rule's handler is open yet. -/
theorem Around.handler (h : Around tree maxDepth level path calls r.name)
    (hnested : Nested tree maxDepth (⟨path, r.name⟩ :: calls)) (name : String) :
    Around tree maxDepth r.handler (r.name :: path) (⟨path, r.name⟩ :: calls) name := by
  have hinside : ∀ c ∈ (⟨path, r.name⟩ : Call) :: calls, c.path <:+ path :=
    List.forall_mem_cons.mpr ⟨List.suffix_refl _, h.inside⟩
  refine ⟨hnested, ?_, ?_⟩
  · intro c hc
    exact (hinside c hc).trans (List.suffix_cons _ _)
  · intro c hc heq
    have hle := (hinside c hc).length_le
    rw [heq, List.length_cons] at hle
    omega

/-- The rule leads to the siblings that it names. -/
theorem Around.sibling (h : Around tree maxDepth level path calls r.name)
    (hnested : Nested tree maxDepth (⟨path, r.name⟩ :: calls)) (hr : r ∈ level) {name : String}
    (hname : name ∈ r.rematch) :
    Around tree maxDepth level path (⟨path, r.name⟩ :: calls) name := by
  have hstep : Rule.Rematches level r.name name := ⟨r, hr, rfl, hname⟩
  refine ⟨hnested, List.forall_mem_cons.mpr ⟨List.suffix_refl _, h.inside⟩, ?_⟩
  intro c hc heq
  rcases List.mem_cons.mp hc with rfl | hc
  · exact .single hstep
  · exact (h.leads c hc heq).tail hstep

theorem name_mem_rematch_of_mem_siblings {s : Rule} (h : s ∈ siblings level r) :
    s.name ∈ r.rematch := by
  obtain ⟨t, ht, hfind⟩ := List.mem_filterMap.mp h
  have hname : s.name = t := by simpa using List.find?_some hfind
  rwa [hname]

theorem levelAt_cons (hpath : levelAt tree path = level) (hdistinct : (level.map (·.name)).Nodup)
    (hr : r ∈ level) : levelAt tree (r.name :: path) = r.handler := by
  obtain ⟨s, hs⟩ := Option.isSome_iff_exists.mp
    (List.find?_isSome.mpr ⟨r, hr, by simp⟩ : (level.find? (·.name == r.name)).isSome)
  have hname : s.name = r.name := by simpa using List.find?_some hs
  rw [levelAt, hpath, hs, List.inj_on_of_nodup_map hdistinct (List.mem_of_find?_eq_some hs) hr hname]

/-- What is asked of open calls around a call of a rule holds again around the calls inside. -/
theorem admits_around (flags : String) (tree : List Rule) (maxDepth : Int) :
    Admits (Nested tree maxDepth) fun level path calls r =>
      r ∈ level ∧ levelAt tree path = level ∧ WellFormedBelow flags maxDepth path.length level ∧
        Around tree maxDepth level path calls r.name := by
  constructor
  · rintro level path calls r ⟨hr, hpath, hbelow, haround⟩
    exact haround.nested_cons hpath (Grammar.wellFormedBelow_iff.mp hbelow).1 hr
  · rintro level path calls r ⟨hr, hpath, hbelow, haround⟩ s hs
    obtain ⟨hlevel, hhandlers⟩ := Grammar.wellFormedBelow_iff.mp hbelow
    have hnested := haround.nested_cons hpath hlevel hr
    refine ⟨hs, levelAt_cons hpath hlevel.distinct hr, ?_, haround.handler hnested s.name⟩
    simpa using hhandlers r hr (List.ne_nil_of_mem hs)
  · rintro level path calls r ⟨hr, hpath, hbelow, haround⟩ s hs
    have hnested := haround.nested_cons hpath (Grammar.wellFormedBelow_iff.mp hbelow).1 hr
    exact ⟨Grammar.mem_of_mem_siblings hs, hpath, hbelow,
      haround.sibling hnested hr (name_mem_rematch_of_mem_siblings hs)⟩

end Opening

namespace Grammar

/-- **Coloring a text ends, and calls are nested no deeper than the rules allow.** For every
accepted set of rules, every text and every escape, coloring by the rules themselves ends with the
grammar's result. Of the calls that are open at a time no two are of the same rule at the same
level. So there are no more of them than the levels that they are of have rules, and these are no
more than handlers may be nested, and the first one. -/
theorem calls_nested {rules : RuleSet} {flags : String} {maxDepth : Int} {g : Grammar}
    (hcompile : compile rules flags maxDepth = .ok g) (text escape : Text) :
    ∃ n, ∀ fuel, n ≤ fuel → ∃ log,
      (Spec.color flags capturedToken fuel rules.rules rules.rules [] [] text escape).run.run [] =
        some (g.substitute text escape, log) ∧
      ∀ calls ∈ log, calls.Nodup ∧
        (∀ c ∈ calls, c.name ∈ (levelAt rules.rules c.path).map (·.name)) ∧
        calls.length ≤ ∑ path ∈ (calls.map Call.path).toFinset, (levelAt rules.rules path).length ∧
        ((calls.map Call.path).toFinset.card : Int) ≤ maxDepth + 1 := by
  have hwell : rules.WellFormed flags maxDepth := succeeds_compile_iff.mp ⟨g, hcompile⟩
  have hdepth : (0 : Int) ≤ maxDepth := (wellFormedBelow_iff.mp hwell.below).1.shallow
  have hnone : Nested rules.rules maxDepth [] :=
    ⟨List.nodup_nil, by simp, ⟨[], by simpa using hdepth, by simp⟩⟩
  have hbelow : WellFormedBelow flags maxDepth ([] : List String).length rules.rules := by
    simpa using hwell.below
  have haround (name : String) : Around rules.rules maxDepth rules.rules [] [] name :=
    ⟨hnone, by simp, by simp⟩
  obtain ⟨n, hn⟩ := (built_of_compile hcompile).yields_color
    (admits_around flags rules.rules maxDepth) (fun _ _ _ _ _ _ => rfl)
    (fun r hr => ⟨hr, rfl, hbelow, haround r.name⟩) text escape
  refine ⟨n, fun fuel hfuel => ?_⟩
  obtain ⟨log, hrun, hlog⟩ := hn fuel hfuel []
  rw [List.append_nil] at hrun
  refine ⟨log, hrun, ?_⟩
  intro calls hcalls
  have hnested := hlog calls hcalls
  exact ⟨hnested.nodup, hnested.mem, hnested.length_le, hnested.card_paths_le⟩

/-- So it ends, for one, for a pair, inside of which words are searched for, and syllables and
vowels inside of these. -/
theorem calls_nested_pair : ∃ n, ∀ fuel, n ≤ fuel → ∃ log,
    (Spec.color "ms" capturedToken fuel nested.rules nested.rules [] [] "ab=1".toList
      "\x1b[0m".toList).run.run [] =
      some (.ok "\x1b[4m\x1b[1m\x1b[2ma\x1b[1mb\x1b[4m=1\x1b[0m".toList, log) ∧
    ∀ calls ∈ log, calls.Nodup ∧ ((calls.map Call.path).toFinset.card : Int) ≤ 17 := by
  obtain ⟨g, hcompile, hresult⟩ := bind_eq_ok_iff.mp (show
    (compile nested "ms" 16 >>= fun g => g.substitute "ab=1".toList "\x1b[0m".toList) =
      .ok "\x1b[4m\x1b[1m\x1b[2ma\x1b[1mb\x1b[4m=1\x1b[0m".toList by decide +kernel)
  obtain ⟨n, hn⟩ := calls_nested hcompile "ab=1".toList "\x1b[0m".toList
  rw [hresult] at hn
  refine ⟨n, fun fuel hfuel => ?_⟩
  obtain ⟨log, hrun, hlog⟩ := hn fuel hfuel
  refine ⟨log, hrun, ?_⟩
  intro calls hcalls
  obtain ⟨hnodup, -, -, hcard⟩ := hlog calls hcalls
  exact ⟨hnodup, hcard⟩

end Grammar

end Highlighting
