import Highlighting.Command.Run
import Highlighting.Proofs.Console.Shown
import Highlighting.Proofs.Unicode.Case

/-!
# Inputs of the command

The command reads its inputs one after the other, the files that are named or else the standard
input, and writes each as a console shows it before it reads the next. So what is written when an
input cannot be read are the inputs before it, and nothing is written after that. An error of the
operating system is reported in one line, since a path is quoted in its message; bytes that stand
for no text leave the command unhandled.

## Main definitions

* `Command.inputs` -- the inputs of a call, each read or not.
* `Command.writeInputs` -- inputs are written up to the first that cannot be read.
* `Command.Outcome.left` -- what is left of a call: its ending and the standard streams.

## Main statements

* `Command.baseOf_of_refused` -- a base without surrogates is one wherever output goes.
* `Command.run_writes_inputs` -- what a call writes, and how it ends.
-/
namespace Highlighting

/-! ## Messages of one line -/

theorem newline_notMem_hex (width n : Nat) : '\n' ∉ Text.hex width n := by
  have hdigits : '\n' ∉ Nat.toDigits 16 n := by
    have hdigit (d : Nat) : '\n' ≠ d.digitChar := (Nat.digitChar_ne '\n' rfl).symm
    induction n using Nat.strong_induction_on with
    | _ n ih =>
      rw [Nat.toDigits_eq_if (by decide)]
      by_cases hsmall : n < 16
      · simp [hsmall, hdigit]
      · rw [if_neg hsmall, List.mem_append, List.mem_singleton]
        have hrest := ih (n / 16) (by omega)
        simp [hrest, hdigit]
  simpa [Text.hex, Text.hexDigits] using hdigits

/-- No newline stands in quotes. -/
theorem newline_notMem_quoted (t : Text) : '\n' ∉ t.quoted := by
  have hmark : '\n' ≠ Quoted.mark t := by
    rw [Quoted.mark]
    split <;> decide
  have hchar (c : Char) : '\n' ∉ Quoted.char (Quoted.mark t) c := by
    unfold Quoted.char
    by_cases hquote : c = Quoted.mark t ∨ c = '\\'
    · rw [if_pos hquote]
      rcases hquote with rfl | rfl
      · simp [hmark]
      · decide
    rw [if_neg hquote]
    split
    · decide
    split
    · decide
    · next hnewline =>
      split
      · decide
      split
      · simpa [eq_comm] using hnewline
      · unfold Quoted.codePoint
        split
        · simp [newline_notMem_hex]
        split <;> simp [newline_notMem_hex]
  simp [Text.quoted, hmark, hchar]

/-- The path that an error of the system is about. -/
def SystemError.path? : SystemError → Option Text
  | noSuchFile p | notADirectory p | isADirectory p | fileExists p | nameTooLong p => some p
  | other _ => none

/-- What is wrong with a path is told in one line. -/
theorem SystemError.newline_notMem_message {e : SystemError} {path : Text}
    (h : e.path? = some path) : '\n' ∉ e.message.toList := by
  have hquoted {words : String} (hwords : '\n' ∉ words.toList) (p : Text) :
      '\n' ∉ (words ++ String.ofList p.quoted).toList := by
    rw [String.toList_append, String.toList_ofList, List.mem_append]
    exact fun hmem => hmem.elim hwords (newline_notMem_quoted p)
  cases e with
  | other m => cases h
  | _ p => exact hquoted (by decide) p

namespace Files
variable {fs : Files} {path : Text} {e : SystemError}

/-! ## Reading files -/

theorem path?_of_step {place : Place} {name : Text} (h : fs.step path place name = .error e) :
    e.path? = some path := by
  cases place with
  | file bytes =>
    cases h
    rfl
  | directory names =>
    rw [step] at h
    split at h
    · cases h
    split at h
    · cases h
    split at h
    · cases h
      rfl
    split at h
    · cases h
    · cases h
    · cases h
      rfl

theorem path?_of_foldlM {names : PathNames} {place : Place}
    (h : names.foldlM (fs.step path) place = .error e) : e.path? = some path := by
  induction names generalizing place with
  | nil => cases h
  | cons name names ih =>
    rw [List.foldlM_cons] at h
    cases hstep : fs.step path place name with
    | error e' =>
      rw [hstep] at h
      cases h
      exact path?_of_step hstep
    | ok place' =>
      rw [hstep] at h
      exact ih h

/-- A file that cannot be read for a reason of the system is told by its path. -/
theorem path?_of_readBytes (h : fs.readBytes path = .error e) : e.path? = some path := by
  rw [readBytes] at h
  cases hfind : fs.find path with
  | error e' =>
    rw [hfind] at h
    cases h
    rw [find, follow] at hfind
    split at hfind
    · cases hfind
      rfl
    split at hfind
    · cases hfind
      rfl
    · exact path?_of_foldlM hfind
  | ok place =>
    rw [hfind] at h
    cases place with
    | file bytes => cases h
    | directory names =>
      cases h
      rfl

end Files

/-- What came of reading an input: a text in which only newlines end lines, an error of the system
that is told in one line, or bytes that stand for no text. -/
inductive ReadAttempt : Except Failure Text → Prop where
  | read {t : Text} (h : '\r' ∉ t) : ReadAttempt (.ok t)
  | system {e : SystemError} (h : '\n' ∉ e.message.toList) : ReadAttempt (.error (.system e))
  | undecodable (e : Undecodable) : ReadAttempt (.error (.undecodable e))

namespace Files

theorem readAttempt_textOf (bytes : List Nat) : ReadAttempt (textOf bytes) := by
  rw [textOf]
  cases Utf8.decode bytes with
  | ok t => exact .read (Text.return_not_mem_unifyNewlines t)
  | error e => exact .undecodable e

/-- A file whose path holds no null character. -/
theorem readAttempt_readText (fs : Files) {path : Text} (hpath : Char.ofNat 0 ∉ path) :
    ReadAttempt (fs.readText path) := by
  have hcheck : checkPath path = .ok () := by
    rw [checkPath, if_neg (by simpa using hpath)]
  rw [readText, hcheck]
  cases hread : fs.readBytes path with
  | ok bytes => exact readAttempt_textOf bytes
  | error e => exact .system (SystemError.newline_notMem_message (path?_of_readBytes hread))

end Files

namespace Act
variable {α β : Type} (f : α → Act β) (effects : List Effect)

@[simp] theorem mk_ok_bind (a : α) :
    ((⟨.ok a, effects⟩ : Act α) >>= f) = ⟨(f a).result, effects ++ (f a).effects⟩ := rfl

@[simp] theorem mk_error_bind (e : Failure) :
    ((⟨.error e, effects⟩ : Act α) >>= f) = ⟨.error e, effects⟩ := rfl

/-- A call whose records go nowhere has no effects. -/
@[simp] theorem ofLogged_nowhere (x : Logged α) : ofLogged .nowhere x = ⟨x.result, []⟩ := rfl

end Act

/-! ## Bases -/

namespace Surrogates

theorem char?_eq_some_iff {n : Nat} {c : Char} : char? n = some c ↔ n = c.toNat := by
  rw [char?]
  constructor
  · intro h
    by_cases hvalid : n.isValidChar
    · rw [if_pos hvalid, Option.some.injEq] at h
      rw [← h, Unicode.toNat_ofNat_of_valid hvalid]
    · rw [if_neg hvalid] at h
      cases h
  · rintro rfl
    have hvalid : c.toNat.isValidChar := c.valid
    rw [if_pos hvalid, Char.ofNat_toNat]

/-- A character is no half of a pair. -/
theorem isHigh_toNat (c : Char) : isHigh c.toNat = false := by
  have hvalid : c.toNat.isValidChar := c.valid
  unfold Nat.isValidChar at hvalid
  simp only [isHigh, Bool.and_eq_false_iff, decide_eq_false_iff_not]
  omega

/-- **A text is written as it is**, wherever it goes: its code points have no surrogates among them.
-/
theorem textOf?_map_toNat (s : Surrogates) (t : Text) : s.textOf? (t.map Char.toNat) = some t := by
  induction t with
  | nil => rfl
  | cons c t ih =>
    have hc : char? c.toNat = some c := char?_eq_some_iff.mpr rfl
    cases t with
    | nil => simp [textOf?, hc]
    | cons d t =>
      rw [List.map_cons] at ih
      simp [textOf?, hc, isHigh_toNat, ih]

/-- Where surrogates are refused nothing but the code points of a text can be written. -/
theorem eq_map_toNat_of_textOf?_refused {codes : List Nat} {t : Text}
    (h : refused.textOf? codes = some t) : codes = t.map Char.toNat := by
  induction codes generalizing t with
  | nil =>
    cases h
    rfl
  | cons n codes ih =>
    cases codes with
    | nil =>
      obtain ⟨c, hc, rfl⟩ := Option.map_eq_some_iff.mp h
      rw [char?_eq_some_iff.mp hc]
      rfl
    | cons m codes =>
      simp only [textOf?, reduceCtorEq, false_and, if_false] at h
      obtain ⟨c, hc, h⟩ := Option.bind_eq_some_iff.mp h
      obtain ⟨u, hu, rfl⟩ := Option.map_eq_some_iff.mp h
      rw [ih hu, char?_eq_some_iff.mp hc, List.map_cons]

end Surrogates

namespace Command

/-- **A base without surrogates is one wherever output goes.** -/
theorem baseOf_of_refused {restores : Bool} {given base : Option Text}
    (h : baseOf .refused restores given = .ok base) (s : Surrogates) :
    baseOf s restores given = .ok base := by
  cases given with
  | none => exact h
  | some t =>
    unfold baseOf at h ⊢
    dsimp only at h ⊢
    by_cases hascii : t.all (fun c => c.toNat < 128) = true
    · rw [if_pos hascii] at h ⊢
      cases hdecode : Escaped.decode t with
      | error e =>
        rw [hdecode] at h
        cases h
      | ok codes =>
        rw [hdecode] at h
        -- What becomes of surrogates does not matter where the base is not written.
        cases restores with
        | false => exact h
        | true =>
          cases htext : Surrogates.refused.textOf? codes with
          | none => simp [htext] at h
          | some u =>
            rw [Surrogates.eq_map_toNat_of_textOf?_refused htext] at h ⊢
            simpa [Surrogates.textOf?_map_toNat] using h
    · rw [if_neg hascii] at h ⊢
      exact h

/-! ## Writing inputs -/

/-- The inputs of a call, each read or not: the files that are named, or else the standard
input. -/
def inputs (s : Surroundings) (o : Options) : List (Except Failure Text) :=
  if o.files = [] then [Files.textOf s.input] else o.files.map s.files.readText

/-- Inputs are written as they are shown, up to the first that cannot be read. -/
def writeInputs (shown : Text → Text) : List (Except Failure Text) → Act Unit
  | [] => ⟨.ok (), []⟩
  | .ok t :: rest =>
    let later := writeInputs shown rest
    ⟨later.result, .print (shown t) :: later.effects⟩
  | .error e :: _ => ⟨.error e, []⟩

/-- Texts before other inputs are all written. -/
theorem writeInputs_append (shown : Text → Text) (ts : List Text)
    (rest : List (Except Failure Text)) : writeInputs shown (ts.map .ok ++ rest) =
      ⟨(writeInputs shown rest).result,
        (ts.map fun t => .print (shown t)) ++ (writeInputs shown rest).effects⟩ := by
  induction ts with
  | nil => rfl
  | cons t ts ih =>
    rw [List.map_cons, List.cons_append, writeInputs, ih, List.map_cons, List.cons_append]

section Writing
variable {c : Console} {shown : Text → Text}
  (hshown : ∀ t, (c.colorize t none).result = .ok (shown t))
include hshown

theorem write_eq (t : Text) : write .nowhere c t = ⟨.ok (), [.print (shown t)]⟩ := by
  simp [write, hshown, Act.does]

theorem ofResult_bind_write (input : Except Failure Text) :
    (Act.ofResult input >>= write .nowhere c) = writeInputs shown [input] := by
  cases input with
  | error e => simp [Act.ofResult, writeInputs]
  | ok t => simp [Act.ofResult, writeInputs, write_eq hshown]

/-- Files are written like inputs, since printing leaves them as they are. -/
theorem writeFiles_eq (fs : Files) (paths : List Text) :
    writeFiles .nowhere c fs paths = writeInputs shown (paths.map fs.readText) := by
  induction paths with
  | nil => rfl
  | cons path paths ih =>
    have hfile : writeFile .nowhere c fs path = writeInputs shown [fs.readText path] :=
      ofResult_bind_write hshown _
    rw [writeFiles, hfile, List.map_cons]
    cases fs.readText path with
    | error e => rfl
    | ok t =>
      -- What was printed is no part of the files that are read next.
      have hafter : fs.after [.print (shown t)] = fs := rfl
      simp only [writeInputs, Files.followed, Act.bind, hafter, ih]
      rfl

/-- Without records the command writes its inputs and does nothing else. -/
theorem runWith_eq (s : Surroundings) {o : Options} {base : Option Text}
    (hbase : baseOf s.surrogates (restores s o) o.base = .ok base) (hpalette : o.palette = false)
    (hinteractive : o.interactive = false) (hlogging : o.logging = false)
    (hassemble : (Console.assemble none base .standard (enabled s o)).result = .ok c) :
    runWith s o = finish [] (writeInputs shown (inputs s o)) .empty := by
  have hsink : s.files.openLog (.choose o.logging o.logFile) = ⟨.ok .nowhere, []⟩ := by
    rw [hlogging]
    rfl
  have hstart : start s o base = ⟨.ok (.nowhere, c), []⟩ := by
    rw [start, hsink]
    -- Both sides are compared for any console, not for the one with the stock grammar.
    generalize Console.assemble none base .standard (enabled s o) = assembled at hassemble
    obtain ⟨result, records⟩ := assembled
    cases hassemble
    rfl
  have hwork : work s o .nowhere c = (writeInputs shown (inputs s o), .empty) := by
    rw [work, hpalette, hinteractive, inputs]
    by_cases hfiles : o.files = []
    · simp [hfiles, ofResult_bind_write hshown]
    · simp [hfiles, writeFiles_eq hshown]
  rw [runWith, hbase]
  dsimp only
  rw [hstart]
  change finish [] (work s o .nowhere c).1 (work s o .nowhere c).2 = _
  rw [hwork]

end Writing

/-! ## What is left of a call -/

/-- What is left of a call: how it ended, and the texts on the standard output and on the standard
error stream. -/
def Outcome.left (out : Outcome) : Except Failure Nat × Text × Text :=
  (out.ending, Effect.printed out.effects, Effect.complained out.effects)

section Finishing
variable (shown : Text → Text) (ts : List Text)

theorem printed_map_print :
    Effect.printed (ts.map fun t => .print (shown t)) = ts.flatMap shown := by
  simp [Effect.printed, List.flatMap_map]

theorem complained_map_print : Effect.complained (ts.map fun t => .print (shown t)) = [] := by
  simp [Effect.complained]

/-- Once all inputs are read the command has done its work. -/
theorem left_finish_texts : (finish [] (writeInputs shown (ts.map .ok)) .empty).left =
    (.ok 0, ts.flatMap shown, []) := by
  have hwritten := writeInputs_append shown ts []
  rw [List.append_nil] at hwritten
  rw [hwritten]
  simp [finish, writeInputs, Outcome.left, printed_map_print, complained_map_print]

/-- If an input cannot be read, the texts before it are left, and the failure is reported or leaves
the command. -/
theorem left_finish_failure (e : Failure) (rest : List (Except Failure Text)) :
    (finish [] (writeInputs shown (ts.map .ok ++ .error e :: rest)) .empty).left =
      if isReported e then (.ok 1, ts.flatMap shown, (Usage.report e.message).toList)
      else (.error e, ts.flatMap shown, []) := by
  rw [writeInputs_append]
  by_cases he : isReported e = true
  · simp only [finish, writeInputs, Outcome.left, he, if_true, List.nil_append, List.append_nil,
      Effect.printed_append, Effect.complained_append, printed_map_print, complained_map_print]
    simp [Effect.printed, Effect.complained]
  · simp [finish, writeInputs, Outcome.left, he, printed_map_print, complained_map_print]

end Finishing

/-- Inputs are all texts, or there is a first one that is none. -/
theorem texts_or_failure (attempts : List (Except Failure Text)) :
    (∃ ts : List Text, attempts = ts.map .ok) ∨
      ∃ (ts : List Text) (e : Failure) (rest : List (Except Failure Text)),
        attempts = ts.map .ok ++ .error e :: rest := by
  induction attempts with
  | nil => exact .inl ⟨[], rfl⟩
  | cons attempt attempts ih =>
    cases attempt with
    | error e => exact .inr ⟨[], e, attempts, rfl⟩
    | ok t =>
      rcases ih with ⟨ts, rfl⟩ | ⟨ts, e, rest, rfl⟩
      · exact .inl ⟨t :: ts, rfl⟩
      · exact .inr ⟨t :: ts, e, rest, rfl⟩

/-- If no path holds a null character, every input is a text or fails in one of two ways. -/
theorem readAttempt_of_mem_inputs {s : Surroundings} {o : Options}
    (hpaths : ∀ path ∈ o.files, Char.ofNat 0 ∉ path) : ∀ input ∈ inputs s o, ReadAttempt input := by
  intro input hinput
  rw [inputs] at hinput
  by_cases hfiles : o.files = []
  · rw [if_pos hfiles, List.mem_singleton] at hinput
    exact hinput ▸ Files.readAttempt_textOf s.input
  · rw [if_neg hfiles] at hinput
    obtain ⟨path, hpath, rfl⟩ := List.mem_map.mp hinput
    exact s.files.readAttempt_readText (hpaths path hpath)

/-- **The command writes its inputs up to the first that cannot be read.** For a call that neither
shows the palette nor prompts nor keeps records, and whose base can be written where output is
colored, so that no escape in it stands for a surrogate, there is a console by which every text is
shown, or left as it is if no color is asked for. If all inputs are read, what they show is written
in order, and the call ends with status zero. An error of the system ends it with status one and one
line on the error stream, and bytes that stand for no text leave the command; in both cases the
inputs before are written, each by itself, and none behind. There is no other way for an input to
fail, so status zero and an empty error stream mean that all inputs were read. -/
theorem run_writes_inputs (s : Surroundings) {words : List Text} {o : Options} {base : Option Text}
    (hparse : Options.parse words = .ok o)
    (hbase : baseOf .refused (restores s o) o.base = .ok base) (hpalette : o.palette = false)
    (hinteractive : o.interactive = false) (hlogging : o.logging = false)
    (hpaths : ∀ path ∈ o.files, Char.ofNat 0 ∉ path) :
    ∃ (c : Console) (shown : Text → Text),
      (Console.assemble none base .standard (enabled s o)).result = .ok c ∧
      (∀ t, (c.colorize t none).result = .ok (shown t)) ∧
      (o.noColor = true → ∀ t, shown t = t) ∧
      (∀ ts : List Text, inputs s o = ts.map .ok →
        (run s words).left = (.ok 0, ts.flatMap shown, [])) ∧
      (∀ (ts : List Text) e rest, inputs s o = ts.map .ok ++ .error (.system e) :: rest →
        (run s words).left = (.ok 1, ts.flatMap shown, (Usage.report e.message).toList) ∧
          '\n' ∉ e.message.toList) ∧
      (∀ (ts : List Text) e rest, inputs s o = ts.map .ok ++ .error (.undecodable e) :: rest →
        (run s words).left = (.error (.undecodable e), ts.flatMap shown, [])) ∧
      (∀ input ∈ inputs s o, ReadAttempt input) ∧
      ((run s words).left.1 = .ok 0 ∧ (run s words).left.2.2 = [] ↔
        ∀ input ∈ inputs s o, ∃ t, input = .ok t) := by
  obtain ⟨c, shown, hassemble, hshown, hplain⟩ := Console.exists_colorize_stock base (enabled s o)
  have hrun : run s words = finish [] (writeInputs shown (inputs s o)) .empty := by
    rw [run, hparse]
    exact runWith_eq hshown s (baseOf_of_refused hbase _) hpalette hinteractive hlogging hassemble
  have hattempts := readAttempt_of_mem_inputs (s := s) hpaths
  refine ⟨c, shown, hassemble, hshown, ?_, ?_, ?_, ?_, hattempts, ?_⟩
  · intro hcolor
    exact hplain (by simp [enabled, Options.color?, hcolor])
  · intro ts hinputs
    rw [hrun, hinputs, left_finish_texts]
  · intro ts e rest hinputs
    refine ⟨by rw [hrun, hinputs, left_finish_failure]; rfl, ?_⟩
    have hattempt := hattempts (.error (.system e)) (by simp [hinputs])
    cases hattempt with
    | system hline => exact hline
  · intro ts e rest hinputs
    rw [hrun, hinputs, left_finish_failure]
    rfl
  · rcases texts_or_failure (inputs s o) with ⟨ts, hinputs⟩ | ⟨ts, e, rest, hinputs⟩
    · rw [hrun, hinputs, left_finish_texts]
      simp
    · have hread : ¬ ∀ input ∈ inputs s o, ∃ t, input = .ok t := by
        intro hall
        obtain ⟨t, ht⟩ := hall (.error e) (by simp [hinputs])
        cases ht
      refine ⟨fun h => absurd h ?_, fun h => absurd h hread⟩
      rw [hrun, hinputs, left_finish_failure]
      by_cases he : isReported e = true
      · simp [he]
      · simp [he]

/-- A working directory with a file of two lines, a file of one, and a directory. -/
def sampleSurroundings : Surroundings where
  files := ⟨[], [([['a']], .file [120, 13, 10, 49]), ([['b']], .file [121]), ([['d']], .directory)]⟩
  input := []
  environment := ⟨[]⟩
  terminal := false
  typing := ⟨[], .closed⟩
  decoder := Fragment.decoder
  surrogates := .refused

/-- The words that give a base and name both files, the directory, and a file once more. -/
def sampleWords : List Text :=
  ["--force-color".toList, "--base=\\x1b[1m".toList, ['a'], ['b'], ['d'], ['a']]

/-- Of two files, a directory and one of the files once more, for one, the two files before the
directory are written, with the base that the escape stands for. -/
theorem run_writes_inputs_sample : ∃ (c : Console) (shown : Text → Text),
    (Console.assemble none (some "\x1b[1m".toList) .standard true).result = .ok c ∧
      (∀ t, (c.colorize t none).result = .ok (shown t)) ∧
      (run sampleSurroundings sampleWords).left = (.ok 1, shown "x\n1".toList ++ shown ['y'],
        "hilite: [Errno 21] Is a directory: 'd'\n".toList) := by
  let o : Options :=
    { Options.default with
      files := [['a'], ['b'], ['d'], ['a']], base := some "\\x1b[1m".toList, forceColor := true }
  have hparse : Options.parse sampleWords = .ok o := by decide +kernel
  have hinputs : inputs sampleSurroundings o = ["x\n1".toList, ['y']].map .ok ++
      .error (.system (.isADirectory ['d'])) :: [.ok "x\n1".toList] := by
    decide +kernel
  have hreport : (Usage.report (SystemError.isADirectory ['d']).message).toList =
      "hilite: [Errno 21] Is a directory: 'd'\n".toList := by
    decide
  have hbase : baseOf .refused (restores sampleSurroundings o) o.base =
      .ok (some "\x1b[1m".toList) := by
    decide +kernel
  have henabled : enabled sampleSurroundings o = true := rfl
  obtain ⟨c, shown, hassemble, hshown, -, -, hsystem, -⟩ :=
    run_writes_inputs sampleSurroundings hparse hbase rfl rfl rfl (by decide)
  rw [henabled] at hassemble
  refine ⟨c, shown, hassemble, hshown, ?_⟩
  rw [(hsystem _ _ _ hinputs).1, hreport, List.flatMap_cons, List.flatMap_cons, List.flatMap_nil,
    List.append_nil]

end Command

end Highlighting
