import Highlighting.Proofs.Grammar.Built

/-!
# The tokens of a text

Coloring a text can be told apart from finding its tokens. The tokens of a text form a tree: what
lies between the tokens is plain, and inside of a token are the tokens that the rule's handler
or its siblings find there. A rule with both is colored in two stages, and the second one finds
its tokens in the text that the first one has colored.

A grammar colors a text as its tokens are painted. If every group of the rules is closed by the
bracket behind its pattern, the tokens of a text and the plain parts between them make up the
text.

## Main definitions

* `Tokens`, `Tokens.text`, `Tokens.paint` -- tokens in a row, their text, and the text colored.
* `Alternation.tokens` -- the tokens that an alternation finds in a text.
* `Delivers` -- a computation has a result of some kind, unless a search is refused.
-/
namespace Highlighting

/-! ## Rows of tokens -/

/-- Tokens in a row, with what lies between them. -/
inductive Tokens where
  | nil
  /-- Text outside of tokens. -/
  | plain (t : Text) (rest : Tokens)
  /-- A token of a style, with the tokens inside of it. -/
  | token (style : Text) (inside rest : Tokens)
  /-- A token that is colored in two stages: the tokens that the first stage finds in it, and those
  that the second stage finds in the text that the first one has colored. -/
  | staged (style : Text) (first second rest : Tokens)
deriving DecidableEq

namespace Tokens

/-- The text in which the tokens were found. -/
def text : Tokens → Text
  | nil => []
  | plain t rest => t ++ rest.text
  | token _ inside rest => inside.text ++ rest.text
  | staged _ first _ rest => first.text ++ rest.text

/-- The text with its tokens colored. -/
def paint (escape : Text) : Tokens → Text
  | nil => []
  | plain t rest => t ++ rest.paint escape
  | token style inside rest =>
    wrap style (inside.paint (restored style escape)) escape ++ rest.paint escape
  | staged style _ second rest =>
    wrap style (second.paint (restored style escape)) escape ++ rest.paint escape

/-- One row behind another. -/
def append : Tokens → Tokens → Tokens
  | nil, row => row
  | plain t rest, row => plain t (rest.append row)
  | token style inside rest, row => token style inside (rest.append row)
  | staged style first second rest, row => staged style first second (rest.append row)

@[simp] theorem text_append (row row' : Tokens) :
    (row.append row').text = row.text ++ row'.text := by
  induction row with
  | nil => rfl
  | plain t rest ih => simp [append, text, ih]
  | token style inside rest _ ih => simp [append, text, ih]
  | staged style first second rest _ _ ih => simp [append, text, ih]

@[simp] theorem paint_append (escape : Text) (row row' : Tokens) :
    (row.append row').paint escape = row.paint escape ++ row'.paint escape := by
  induction row with
  | nil => rfl
  | plain t rest ih => simp [append, paint, ih]
  | token style inside rest _ ih => simp [append, paint, ih]
  | staged style first second rest _ _ ih => simp [append, paint, ih]

/-- A row in a subject from a position on: the tokens of every match in its place, and what lies
between the matches. -/
def splice (subject : Text) : (last : Nat) → List (Match × Tokens) → Tokens
  | last, [] => plain (subject.drop last) nil
  | last, (m, row) :: rest =>
    plain (subject.slice last m.start.toNat) (row.append (splice subject m.stop.toNat rest))

theorem paint_splice (subject escape : Text) (last : Nat) (parts : List (Match × Tokens)) :
    (splice subject last parts).paint escape =
      Pattern.splice subject last (parts.map fun (m, row) => (m, row.paint escape)) := by
  induction parts generalizing last with
  | nil => simp [splice, paint, Pattern.splice]
  | cons part parts ih => simp [splice, paint, Pattern.splice, ih]

/-- The matches and what lies between them make up the subject. -/
theorem text_splice {subject : Text} {last : Nat} {parts : List (Match × Tokens)}
    (hspaced : Spaced subject last (parts.map (·.1))) (hlast : last ≤ subject.length)
    (htext : ∀ part ∈ parts, part.2.text = part.1.full) :
    (splice subject last parts).text = subject.drop last := by
  induction parts generalizing last with
  | nil => simp [splice, text]
  | cons part parts ih =>
    rw [List.map_cons] at hspaced
    cases hspaced with
    | @cons last start stop m rest hle hle' hstart hstop hfull hlength hrest =>
      have ih := ih hrest hlength fun part hpart => htext part (List.mem_cons_of_mem _ hpart)
      simp only [splice, text, text_append, htext part List.mem_cons_self, hfull, hstart, hstop,
        Int.toNat_natCast, ih]
      rw [← Text.slice_length_eq_drop, ← Text.slice_length_eq_drop, ← List.append_assoc,
        Text.slice_append_slice hle hle', Text.slice_append_slice (Nat.le_trans hle hle') hlength]

end Tokens

/-! ## Finding tokens -/

/-- What is gathered for the matches of a subject, put together. -/
def Pattern.gatherM {β : Type} (p : Pattern) (subject : Text) (join : List (Match × β) → β)
    (f : Match → Except Failure β) : Except Failure β := do
  let scan := p.scan subject
  let parts ← scan.found.mapM fun m => (f m).map (m, ·)
  match scan.failure with
  | some e => throw e
  | none => return join parts

/-- The row of tokens in a subject, given those of each match. -/
def Pattern.tokensM (p : Pattern) (subject : Text) (f : Match → Except Failure Tokens) :
    Except Failure Tokens := do
  let scan := p.scan subject
  let parts ← scan.found.mapM fun m => (f m).map (m, ·)
  match scan.failure with
  | some e => throw e
  | none => return Tokens.splice subject 0 parts

mutual

/-- The token of a node's rule, with the tokens inside of it. -/
def Node.tokens : Node → (chars escape : Text) → Except Failure Tokens
  | .mk rule handler rematch, chars, escape => do
    let inner := restored rule.escape escape
    let first ← tokensInside handler chars inner
    let second ← tokensInside rematch (first.paint inner) inner
    return if handler.isNone then .token rule.escape second .nil
      else if rematch.isNone then .token rule.escape first .nil
      else .staged rule.escape first second .nil

/-- The tokens of a text, if there is an alternation for it. -/
def tokensInside : Option (Alternation Node) → (text escape : Text) → Except Failure Tokens
  | none, text, _ => .ok (.plain text .nil)
  | some a, text, escape => a.tokens text escape

/-- The tokens that an alternation finds in a text, where an escape is in force around it. A match
of no text gives none. -/
def Alternation.tokens : Alternation Node → (text escape : Text) → Except Failure Tokens
  | ⟨pattern, nodes⟩, text, escape =>
    pattern.tokensM text fun m =>
      if m.full = [] then .ok .nil
      else do
        let (name, capture) ← resolve (nodes.map Node.name) m
        tokensNamed nodes name capture.value escape

/-- The token of the node of a name. -/
def tokensNamed : List Node → (name : String) → (chars escape : Text) → Except Failure Tokens
  | [], _, chars, _ => .ok (.plain chars .nil)
  | n :: rest, name, chars, escape =>
    if n.name = name then n.tokens chars escape else tokensNamed rest name chars escape

end

/-! ## Coloring is painting -/

theorem mapM_map_eq {α β : Type} {f : Match → Except Failure α} {f' : Match → Except Failure β}
    {g : β → α} {ms : List Match} (h : ∀ m ∈ ms, f m = (f' m).map g) :
    (ms.mapM fun m => (f m).map (m, ·)) =
      (ms.mapM fun m => (f' m).map (m, ·)).map (List.map fun (m, row) => (m, g row)) := by
  induction ms with
  | nil => rfl
  | cons m ms ih =>
    rw [List.mapM_cons, List.mapM_cons, h m List.mem_cons_self,
      ih fun m' hm' => h m' (List.mem_cons_of_mem _ hm')]
    cases f' m with
    | error e => rfl
    | ok row =>
      cases ms.mapM fun m => (f' m).map (m, ·) with
      | error e => rfl
      | ok parts => rfl

/-- A subject with its matches replaced is told by what is gathered for the matches, if it is told
by each for its match. -/
theorem Pattern.replaceM_eq_map {β : Type} {p : Pattern} {subject : Text}
    (join : List (Match × β) → β) {g : β → Text}
    (hjoin : ∀ parts, splice subject 0 (parts.map fun (m, row) => (m, g row)) = g (join parts))
    {f : Match → Except Failure Text} {f' : Match → Except Failure β}
    (h : ∀ m, f m = (f' m).map g) :
    p.replaceM subject f = (p.gatherM subject join f').map g := by
  unfold replaceM gatherM
  dsimp only
  rw [mapM_map_eq fun m _ => h m]
  cases (p.scan subject).found.mapM fun m => (f' m).map (m, ·) with
  | error e => rfl
  | ok parts =>
    cases (p.scan subject).failure with
    | some e => rfl
    | none => exact congrArg Except.ok (hjoin parts)

theorem Node.render_eq_map {rule : Rule} {handler rematch : Option (Alternation Node)}
    (hrule : rule.transform = none)
    (hhandler : ∀ t e, recolor handler t e = (tokensInside handler t e).map (Tokens.paint e))
    (hrematch : ∀ t e, recolor rematch t e = (tokensInside rematch t e).map (Tokens.paint e))
    (chars escape : Text) :
    (mk rule handler rematch).render chars escape =
      ((mk rule handler rematch).tokens chars escape).map (Tokens.paint escape) := by
  have htransformed : rule.transformed chars = .ok chars := by rw [Rule.transformed, hrule]
  unfold render tokens
  dsimp only
  rw [htransformed]
  change (recolor handler chars _ >>= _) = _
  rw [hhandler]
  cases tokensInside handler chars (restored rule.escape escape) with
  | error e => rfl
  | ok first =>
    change (recolor rematch (first.paint _) _ >>= _) =
      ((tokensInside rematch (first.paint _) _) >>= _).map _
    rw [hrematch]
    cases hsecond : tokensInside rematch (first.paint (restored rule.escape escape))
        (restored rule.escape escape) with
    | error e => rfl
    | ok second =>
      change Except.ok _ = Except.ok _
      cases handler with
      | none => simp [Tokens.paint]
      | some a =>
        cases rematch with
        | none =>
          cases hsecond
          simp [Tokens.paint]
        | some b => simp [Tokens.paint]

theorem renderNamed_eq_map {nodes : List Node} {escape : Text}
    (h : ∀ n ∈ nodes, ∀ chars,
      n.render chars escape = (n.tokens chars escape).map (Tokens.paint escape))
    (name : String) (chars : Text) :
    renderNamed nodes name chars escape =
      (tokensNamed nodes name chars escape).map (Tokens.paint escape) := by
  induction nodes with
  | nil => simp [renderNamed, tokensNamed, Except.map, Tokens.paint]
  | cons n nodes ih =>
    unfold renderNamed tokensNamed
    split
    · exact h n List.mem_cons_self chars
    · exact ih fun n' hn' => h n' (List.mem_cons_of_mem _ hn')

/-- **Coloring a text is painting its tokens**, if no rule has a transform. -/
theorem Alternation.Built.substitute_eq_map {flags : String} {level rules : List Rule}
    {a : Alternation Node} (h : a.Built flags level rules)
    (htransform : ∀ r, InTree level r → r.transform = none) (text escape : Text) :
    a.substitute text escape = (a.tokens text escape).map (Tokens.paint escape) := by
  induction h generalizing text escape with
  | @mk level rules pattern nodes _ hlevel _ _ _ hnodes _ _ _ _ ihhandlers ihrematches =>
    have hmem : ∀ n ∈ nodes, n.rule ∈ level := fun n hn =>
      hlevel _ (hnodes ▸ List.mem_map_of_mem hn)
    have hnode : ∀ n ∈ nodes, ∀ chars escape,
        n.render chars escape = (n.tokens chars escape).map (Tokens.paint escape) := by
      intro n hn
      have hhandler := ihhandlers n hn
      have hrematch := ihrematches n hn
      have hin := hmem n hn
      obtain ⟨rule, handler, rematch⟩ := n
      refine Node.render_eq_map (htransform _ (.here hin)) (fun t e => ?_) fun t e => ?_
      · cases handler with
        | none => simp [recolor, tokensInside, Except.map, Tokens.paint]
        | some a => exact hhandler a rfl (fun r hr => htransform r (.inside hin hr)) t e
      · cases rematch with
        | none => simp [recolor, tokensInside, Except.map, Tokens.paint]
        | some a => exact hrematch a rfl htransform t e
    unfold substitute tokens
    refine Pattern.replaceM_eq_map (Tokens.splice text 0)
      (fun parts => (Tokens.paint_splice text escape 0 parts).symm) fun m => ?_
    split
    · rfl
    · cases resolve (nodes.map Node.name) m with
      | error e => rfl
      | ok found => exact renderNamed_eq_map (fun n hn chars => hnode n hn chars escape) _ _

/-! ## The tokens make up the text -/

/-- A computation has a result of some kind, unless a search is refused because a group ends
before it starts. -/
inductive Delivers {α : Type} (refused : Prop) (P : α → Prop) : Except Failure α → Prop where
  | ok {a : α} (h : P a) : Delivers refused P (.ok a)
  | reversed (h : refused) : Delivers refused P (.error .reversedGroup)

namespace Delivers
variable {α β : Type} {refused refused' : Prop} {P : α → Prop} {Q : β → Prop}

theorem mono {x : Except Failure α} {P' : α → Prop} (h : Delivers refused P x)
    (hrefused : refused → refused') (hP : ∀ a, P a → P' a) : Delivers refused' P' x := by
  cases h with
  | ok h => exact .ok (hP _ h)
  | reversed h => exact .reversed (hrefused h)

theorem bind {x : Except Failure α} {f : α → Except Failure β} (h : Delivers refused P x)
    (hf : ∀ a, P a → Delivers refused Q (f a)) : Delivers refused Q (x >>= f) := by
  cases h with
  | ok h => exact hf _ h
  | reversed h => exact .reversed h

theorem map {x : Except Failure α} {f : α → β} (h : Delivers refused P x)
    (hf : ∀ a, P a → Q (f a)) : Delivers refused Q (x.map f) := by
  cases h with
  | ok h => exact .ok (hf _ h)
  | reversed h => exact .reversed h

theorem of_eq_ok {x : Except Failure α} {a : α} (h : Delivers refused P x) (hx : x = .ok a) :
    P a := by
  cases h with
  | ok h =>
    cases hx
    exact h
  | reversed => cases hx

/-- Where no search is refused there is a result. -/
theorem exists_eq_ok {x : Except Failure α} (h : Delivers refused P x) (hrefused : ¬ refused) :
    ∃ a, x = .ok a ∧ P a := by
  cases h with
  | ok h => exact ⟨_, rfl, h⟩
  | reversed h => exact absurd h hrefused

/-- The result may be remembered. -/
theorem remember {x : Except Failure α} (h : Delivers refused P x) :
    Delivers refused (fun a => x = .ok a ∧ P a) x := by
  cases h with
  | ok h => exact .ok ⟨rfl, h⟩
  | reversed h => exact .reversed h

/-- One computation after another. -/
theorem mapM {f : α → Except Failure β} {R : α → β → Prop} {xs : List α}
    (h : ∀ x ∈ xs, Delivers refused (R x) (f x)) :
    Delivers refused (fun ys => List.Forall₂ R xs ys) (xs.mapM f) := by
  induction xs with
  | nil => exact .ok .nil
  | cons x xs ih =>
    rw [List.mapM_cons]
    exact (h x List.mem_cons_self).bind fun y hy =>
      (ih fun x' hx' => h x' (List.mem_cons_of_mem _ hx')).bind fun ys hys => .ok (.cons hy hys)

end Delivers

/-- A search for a pattern of an alternation, or of one inside of its tokens, may be refused. -/
inductive Alternation.MayReverse : Alternation Node → Prop where
  | here {a : Alternation Node} (h : a.pattern.program.regex.mayReverse = true) : MayReverse a
  | inside {a b : Alternation Node} {n : Node} (hn : n ∈ a.nodes)
      (hb : n.handler = some b ∨ n.rematch = some b) (h : MayReverse b) : MayReverse a

namespace Tokens

/-- The tokens have styles of some kind, and a second stage works on what the first one has
colored. `stages` says whether there may be any. -/
def Fits (styles : Text → Prop) (stages : Prop) : (escape : Text) → Tokens → Prop
  | _, nil => True
  | escape, plain _ rest => rest.Fits styles stages escape
  | escape, token style inside rest =>
    styles style ∧ inside.Fits styles stages (restored style escape) ∧
      rest.Fits styles stages escape
  | escape, staged style first second rest =>
    stages ∧ styles style ∧ second.text = first.paint (restored style escape) ∧
      first.Fits styles stages (restored style escape) ∧
      second.Fits styles stages (restored style escape) ∧ rest.Fits styles stages escape

variable {styles styles' : Text → Prop} {stages stages' : Prop}

theorem Fits.mono {escape : Text} {row : Tokens} (h : row.Fits styles stages escape)
    (hstyles : ∀ s, styles s → styles' s) (hstages : stages → stages') :
    row.Fits styles' stages' escape := by
  induction row generalizing escape with
  | nil => trivial
  | plain t rest ih => exact ih h
  | token style inside rest ihinside ihrest =>
    exact ⟨hstyles _ h.1, ihinside h.2.1, ihrest h.2.2⟩
  | staged style first second rest ihfirst ihsecond ihrest =>
    obtain ⟨hs, hstyle, htext, hfirst, hsecond, hrest⟩ := h
    exact ⟨hstages hs, hstyles _ hstyle, htext, ihfirst hfirst, ihsecond hsecond, ihrest hrest⟩

theorem Fits.append {escape : Text} {row row' : Tokens} (h : row.Fits styles stages escape)
    (h' : row'.Fits styles stages escape) : (row.append row').Fits styles stages escape := by
  induction row with
  | nil => exact h'
  | plain t rest ih => exact ih h
  | token style inside rest _ ihrest => exact ⟨h.1, h.2.1, ihrest h.2.2⟩
  | staged style first second rest _ _ ihrest =>
    obtain ⟨hs, hstyle, htext, hfirst, hsecond, hrest⟩ := h
    exact ⟨hs, hstyle, htext, hfirst, hsecond, ihrest hrest⟩

theorem fits_splice {subject escape : Text} (last : Nat) {parts : List (Match × Tokens)}
    (h : ∀ part ∈ parts, part.2.Fits styles stages escape) :
    (splice subject last parts).Fits styles stages escape := by
  induction parts generalizing last with
  | nil => trivial
  | cons part parts ih =>
    exact (h part List.mem_cons_self).append
      (ih _ fun part hpart => h part (List.mem_cons_of_mem _ hpart))

end Tokens

/-! ## What an alternation delivers -/

section Delivering
variable {styles : Text → Prop} {refused stages : Prop}

/-- The token of one of some nodes. -/
theorem tokensNamed_delivers {P : Tokens → Prop} {nodes : List Node} {name : String}
    {chars escape : Text} (hname : name ∈ nodes.map Node.name)
    (h : ∀ n ∈ nodes, Delivers refused P (n.tokens chars escape)) :
    Delivers refused P (tokensNamed nodes name chars escape) := by
  induction nodes with
  | nil => exact absurd hname List.not_mem_nil
  | cons n nodes ih =>
    unfold tokensNamed
    split
    · exact h n List.mem_cons_self
    · next hne =>
      refine ih ?_ fun n' hn' => h n' (List.mem_cons_of_mem _ hn')
      rw [List.map_cons, List.mem_cons] at hname
      exact hname.resolve_left (Ne.symm hne)

/-- The token of a node has the text of the token, whatever is found inside. -/
theorem Node.tokens_delivers {rule : Rule} {handler rematch : Option (Alternation Node)}
    (hstyle : styles rule.escape) (hstages : handler ≠ none → rematch ≠ none → stages)
    (hhandler : ∀ t e, Delivers refused (fun row => row.text = t ∧ row.Fits styles stages e)
      (tokensInside handler t e))
    (hrematch : ∀ t e, Delivers refused (fun row => row.text = t ∧ row.Fits styles stages e)
      (tokensInside rematch t e)) (chars escape : Text) :
    Delivers refused (fun row => row.text = chars ∧ row.Fits styles stages escape)
      ((mk rule handler rematch).tokens chars escape) := by
  unfold tokens
  dsimp only
  cases handler with
  | none =>
    refine (hrematch _ _).bind fun second hsecond => ?_
    refine .ok ⟨?_, hstyle, hsecond.2, trivial⟩
    simpa [Tokens.text, Tokens.paint] using hsecond.1
  | some a =>
    refine (hhandler chars _).bind fun first hfirst => ?_
    refine (hrematch _ _).bind fun second hsecond => ?_
    cases rematch with
    | none =>
      refine .ok ⟨?_, hstyle, hfirst.2, trivial⟩
      simpa [Tokens.text] using hfirst.1
    | some b =>
      refine .ok ⟨?_, hstages (by simp) (by simp), hstyle, hsecond.1, hfirst.2, hsecond.2, trivial⟩
      simpa [Tokens.text] using hfirst.1

/-- The matches of a compiled pattern have tokens, and these make up the subject. -/
theorem Pattern.tokensM_delivers {p : Pattern} {source : Text} {flags : String}
    (hp : compile source flags = .ok p) (hrefused : p.program.regex.mayReverse = true → refused)
    {subject escape : Text} {f : Match → Except Failure Tokens}
    (h : ∀ m ∈ (p.scan subject).found, Delivers refused
      (fun row => row.text = m.full ∧ row.Fits styles stages escape) (f m)) :
    Delivers refused (fun row => row.text = subject ∧ row.Fits styles stages escape)
      (p.tokensM subject f) := by
  unfold tokensM
  dsimp only
  let Fitting (m : Match) (part : Match × Tokens) : Prop :=
    part.1 = m ∧ part.2.text = m.full ∧ part.2.Fits styles stages escape
  have hparts := Delivers.mapM (f := fun m => (f m).map (m, ·)) (R := Fitting) fun m hm =>
    (h m hm).map (Q := Fitting m) fun row hrow => ⟨rfl, hrow⟩
  refine hparts.bind fun parts hparts => ?_
  have hfound : parts.map (·.1) = (p.scan subject).found ∧ ∀ part ∈ parts,
      part.2.text = part.1.full ∧ part.2.Fits styles stages escape := by
    clear h
    generalize (p.scan subject).found = ms at hparts ⊢
    induction hparts with
    | nil => exact ⟨rfl, fun part hpart => absurd hpart List.not_mem_nil⟩
    | @cons m part ms parts hpart _ ih =>
      obtain ⟨rfl, hpart⟩ := hpart
      exact ⟨by rw [List.map_cons, ih.1], List.forall_mem_cons.mpr ⟨hpart, ih.2⟩⟩
  cases hfailure : (p.scan subject).failure with
  | some e =>
    obtain ⟨rfl, hreverse⟩ := scan_failure hp hfailure
    exact .reversed (hrefused hreverse)
  | none =>
    exact .ok ⟨Tokens.text_splice (hfound.1 ▸ p.scan_spaced subject) (Nat.zero_le _)
      fun part hpart => (hfound.2 part hpart).1,
      Tokens.fits_splice 0 fun part hpart => (hfound.2 part hpart).2⟩

end Delivering

/-- The style is that of a rule of the tree. -/
def StyleOf (rules : List Rule) (s : Text) : Prop := ∃ r, InTree rules r ∧ r.escape = s

/-- A rule of the tree has both a handler and siblings for the inside of its tokens. -/
def HasStages (rules : List Rule) : Prop :=
  ∃ r, InTree rules r ∧ r.handler ≠ [] ∧ r.rematch ≠ []

theorem StyleOf.handler {rules : List Rule} {r : Rule} (hr : r ∈ rules) {s : Text}
    (h : StyleOf r.handler s) : StyleOf rules s := by
  obtain ⟨r', hr', rfl⟩ := h
  exact ⟨r', .inside hr hr', rfl⟩

theorem HasStages.handler {rules : List Rule} {r : Rule} (hr : r ∈ rules)
    (h : HasStages r.handler) : HasStages rules := by
  obtain ⟨r', hr', hboth⟩ := h
  exact ⟨r', .inside hr hr', hboth⟩

/-- **The tokens that an alternation finds in a text, and what lies between them, make up the
text**, if no pattern runs into the bracket behind it. -/
theorem Alternation.Built.tokens_delivers {flags : String} {level rules : List Rule}
    {a : Alternation Node} (h : a.Built flags level rules) (hclose : BracketsClose flags level)
    (text escape : Text) :
    Delivers a.MayReverse
      (fun row => row.text = text ∧ row.Fits (StyleOf level) (HasStages level) escape)
      (a.tokens text escape) := by
  obtain ⟨bs, hbs, hnames⟩ := h.chooses hclose
  induction h generalizing text escape bs with
  | @mk level rules pattern nodes _ hlevel _ _ hpattern hnodes hhandler hrematch hhandlers hrematches
      ihhandlers ihrematches =>
    have hnode : ∀ n ∈ nodes, ∀ chars, Delivers (MayReverse ⟨pattern, nodes⟩)
        (fun row => row.text = chars ∧ row.Fits (StyleOf level) (HasStages level) escape)
        (n.tokens chars escape) := by
      intro n hn chars
      have hin : n.rule ∈ level := hlevel _ (hnodes ▸ List.mem_map_of_mem hn)
      have hhandler := hhandler n hn
      have hrematch := hrematch n hn
      have hhandlers := hhandlers n hn
      have hrematches := hrematches n hn
      have ihhandlers := ihhandlers n hn
      have ihrematches := ihrematches n hn
      have hreverse (b : Alternation Node) (hb : n.handler = some b ∨ n.rematch = some b)
          (h : b.MayReverse) : MayReverse ⟨pattern, nodes⟩ := .inside hn hb h
      obtain ⟨rule, handler, rematch⟩ := n
      refine Node.tokens_delivers ⟨_, .here hin, rfl⟩
        (fun hh hr => ⟨_, .here hin, fun hnil => hh (hhandler.mpr hnil),
          fun hnil => hr (hrematch.mpr hnil)⟩)
        (fun t e => ?_) (fun t e => ?_) chars escape
      · cases handler with
        | none => exact .ok ⟨by simp [Tokens.text], trivial⟩
        | some b =>
          obtain ⟨bs', hbs', hnames'⟩ := (hhandlers b rfl).chooses (hclose.handler hin)
          exact (ihhandlers b rfl (hclose.handler hin) t e bs' hbs' hnames').mono
            (hreverse b (.inl rfl)) fun row hrow => ⟨hrow.1, hrow.2.mono
              (fun s hs => hs.handler hin) fun hs => hs.handler hin⟩
      · cases rematch with
        | none => exact .ok ⟨by simp [Tokens.text], trivial⟩
        | some b =>
          obtain ⟨bs', hbs', hnames'⟩ := (hrematches b rfl).chooses hclose
          exact (ihrematches b rfl hclose t e bs' hbs' hnames').mono (hreverse b (.inr rfl))
            fun row hrow => hrow
    unfold tokens
    refine Pattern.tokensM_delivers hpattern (fun h => .here h) fun m hm => ?_
    split
    · next hempty => exact .ok ⟨by rw [hempty]; rfl, trivial⟩
    · next hfull =>
      obtain ⟨b, hb, hresolve⟩ := hbs.resolve_eq (Pattern.finds_of_mem_scan hm) hfull
      rw [hnames] at hresolve
      rw [hresolve]
      exact tokensNamed_delivers (hnames ▸ List.mem_map_of_mem hb) fun n hn => hnode n hn _

end Highlighting
