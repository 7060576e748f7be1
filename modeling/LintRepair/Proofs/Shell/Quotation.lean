import LintRepair.Shell.Builtin
import LintRepair.Shell.Grammar
import Mathlib.Data.List.TakeWhile

/-!
A text in quotes, as it is printed for the shell to read again, is read as one word that stands for
the text itself: nothing in it is filled in and nothing ends it.
-/
namespace LintRepair.Shell
open Reader

variable {α β : Type} {inner : Inner} {fuel : Nat} {d e : Draft} {s t : Source} {c : Char}
  {cs more rest : List Char}

section Steps

theorem run_bind {x : Reader α} {f : α → Reader β} {a : α} (h : x.run s = .ok (a, t)) :
    (x >>= f).run s = (f a).run t := by
  rw [StateT.run_bind, h]
  rfl

theorem run_join (first : ∀ more, s.rest ≠ '\\' :: more) : join.run s = .ok ((), s) := by
  have after : join.run s = .ok ((), unbroken s) := rfl
  rw [after, unbroken]
  split
  · exact absurd ‹_› (first _)
  · rfl

theorem run_drop : drop.run s = .ok ((), { s with rest := s.rest.tail }) := rfl

theorem run_get : (get : Reader Source).run s = .ok (s, s) := rfl

theorem run_newLine : newLine.run s = .ok ((), { s with line := s.line + 1 }) := rfl

theorem run_atMark : (atMark none).run s = .ok (false, s) := rfl

/-- The text behind a character, lines being counted. -/
def Source.behind (s : Source) (c : Char) (cs : List Char) : Source :=
  { s with rest := cs, line := s.line + if c = '\n' then 1 else 0 }

theorem run_wordRest (text : s.rest = c :: cs) (whole : d.layer.mode = .single ∨ c ≠ '\\')
    (inside : (d.layer.mode = .plain && d.layer.opens = 0 && isSeparator c) = false)
    (other : c ≠ '\n')
    (read : (character inner false d c).run (s.behind c cs) = .ok (e, s.behind c cs)) :
    (wordRest inner none (fuel + 1) d).run s = (wordRest inner none fuel e).run (s.behind c cs) := by
  have here : ({ s with rest := s.rest.tail } : Source) = s.behind c cs := by
    simp [Source.behind, other, text]
  have step : (do
        drop
        wordRest inner none fuel (← character inner false d c) : Reader Draft).run s =
      (wordRest inner none fuel e).run (s.behind c cs) := by
    rw [run_bind run_drop, here, run_bind read]
  rw [wordRest]
  dsimp only
  split
  · rename_i single
    rw [run_bind (run_join ?_), run_bind run_get, text]
    · dsimp only
      rw [if_neg other, if_neg (by simp [inside])]
      exact step
    · rintro more same
      rw [text] at same
      exact whole.elim single fun ne => ne (List.cons.inj same).1
  · rw [run_bind run_get, text]
    dsimp only
    rw [if_neg other, if_neg (by simp [inside])]
    exact step

theorem run_wordRest_lineEnd (text : s.rest = '\n' :: cs) (single : d.layer.mode = .single) :
    (wordRest inner none (fuel + 1) d).run s =
      (wordRest inner none fuel (d.putPlain '\n')).run (s.behind '\n' cs) := by
  rw [wordRest]
  dsimp only
  rw [if_neg (by simp [single]), run_bind run_get, text]
  dsimp only
  rw [if_pos rfl, if_neg (by simp [single]), run_bind run_drop, run_bind run_newLine,
    run_bind run_atMark, if_neg Bool.false_ne_true]
  simp only [Source.behind, text, List.tail_cons, if_pos]

/-- Between single quotes every character but the closing quote stands for itself. -/
theorem run_single (single : d.layer.mode = .single) (other : c ≠ '\'') (text : s.rest = c :: cs) :
    (wordRest inner none (fuel + 1) d).run s =
      (wordRest inner none fuel (d.put c true)).run (s.behind c cs) := by
  have put (c : Char) : d.putPlain c = d.put c true := by simp [Draft.putPlain, single]
  by_cases lineEnd : c = '\n'
  · rw [lineEnd] at text ⊢
    rw [run_wordRest_lineEnd text single, put]
  · refine run_wordRest text (.inl single) (by simp [single]) lineEnd ?_
    unfold character
    dsimp only
    rw [if_pos single, if_neg other, put]
    rfl

/-- Between double quotes a single quote stands for itself. -/
theorem run_quote_double (double : d.layer.mode = .double) (text : s.rest = '\'' :: cs) :
    (wordRest inner none (fuel + 1) d).run s =
      (wordRest inner none fuel (d.put '\'' true)).run (s.behind '\'' cs) := by
  have put : d.putPlain '\'' = d.put '\'' true := by simp [Draft.putPlain, double]
  refine run_wordRest text (.inr (by decide)) (by simp [double]) (by decide) ?_
  unfold character
  dsimp only
  rw [if_neg (by simp [double])]
  change (pure (if d.layer.mode = .plain then _ else _) : Reader Draft).run _ = _
  rw [if_neg (by simp [double]), put]
  rfl

theorem run_singleQuote (inner : Inner) (fuel : Nat)
    (mode : d.layer.mode = .plain ∨ d.layer.mode = .single)
    (text : s.rest = '\'' :: cs) :
    (wordRest inner none (fuel + 1) d).run s =
      (wordRest inner none fuel (d.singleQuote false)).run (s.behind '\'' cs) := by
  have separates : isSeparator '\'' = false := by decide
  refine run_wordRest text (.inr (by decide)) (by simp [separates]) (by decide) ?_
  unfold character
  dsimp only
  rcases mode with plain | single
  · rw [if_neg (by simp [plain]), if_pos plain]
    rfl
  · rw [if_pos single]
    rfl

theorem run_doubleQuote (inner : Inner) (fuel : Nat)
    (mode : d.layer.mode = .plain ∨ d.layer.mode = .double)
    (text : s.rest = '"' :: cs) :
    (wordRest inner none (fuel + 1) d).run s =
      (wordRest inner none fuel (d.doubleQuote false)).run (s.behind '"' cs) := by
  have separates : isSeparator '"' = false := by decide
  have other : d.layer.mode ≠ .single ∧ d.layer.mode ≠ .sum := by
    rcases mode with same | same <;> simp [same]
  refine run_wordRest text (.inr (by decide)) (by simp [separates]) (by decide) ?_
  unfold character
  dsimp only
  rw [if_neg other.1, if_neg other.2]
  rfl

end Steps

/-- The draft holds a text, all of it quoted. -/
structure Draft.Holds (d : Draft) (cs : List Char) : Prop where
  parts : ∀ p ∈ d.parts, p = .quote ∨ ∃ t, p = .text t true
  quoted : d.text ≠ [] → d.isQuoted = true
  text : d.parts.reverse.flatMap Part.literal ++ d.text.reverse = cs

theorem Draft.Holds.flushed (h : d.Holds cs) : d.flushed.Holds cs ∧ d.flushed.text = [] := by
  unfold Draft.flushed
  split
  · rename_i empty
    exact ⟨h, List.isEmpty_iff.mp empty⟩
  · rename_i filled
    have quoted := h.quoted (by simpa using filled)
    refine ⟨⟨fun p mem => ?_, fun ne => absurd rfl ne, ?_⟩, rfl⟩
    · rcases List.mem_cons.mp mem with rfl | old
      · exact .inr ⟨_, by rw [quoted]⟩
      · exact h.parts p old
    · rw [← h.text]
      simp [Part.literal]

theorem Draft.Holds.put (h : d.Holds cs) (c : Char) : (d.put c true).Holds (cs ++ [c]) := by
  unfold Draft.put
  split
  · rename_i quoted
    refine ⟨h.parts, fun _ => quoted, ?_⟩
    rw [← h.text]
    simp
  · obtain ⟨held, empty⟩ := h.flushed
    refine ⟨held.parts, fun _ => rfl, ?_⟩
    rw [← held.text, empty]
    simp

theorem Draft.Holds.quote (h : d.Holds cs) : (d.add .quote).Holds cs := by
  obtain ⟨held, empty⟩ := h.flushed
  refine ⟨fun p mem => ?_, fun ne => absurd empty ne, ?_⟩
  · rcases List.mem_cons.mp mem with rfl | old
    · exact .inl rfl
    · exact held.parts p old
  · rw [← held.text]
    simp [Draft.add, Part.literal]

theorem Draft.Holds.of_same (h : d.Holds cs) (parts : e.parts = d.parts) (text : e.text = d.text)
    (isQuoted : e.isQuoted = d.isQuoted) : e.Holds cs :=
  ⟨parts ▸ h.parts, text ▸ isQuoted ▸ h.quoted, by rw [parts, text, h.text]⟩

theorem Draft.Holds.singleQuote (h : d.Holds cs) : (d.singleQuote false).Holds cs := by
  unfold Draft.singleQuote
  dsimp only
  split
  · exact Draft.Holds.quote (h.of_same rfl rfl rfl)
  · rw [if_neg (by simp)]
    exact Draft.Holds.quote (h.of_same rfl rfl rfl)

theorem Draft.Holds.doubleQuote (h : d.Holds cs) : (d.doubleQuote false).Holds cs := by
  unfold Draft.doubleQuote
  dsimp only
  split
  · exact Draft.Holds.quote (h.of_same rfl rfl rfl)
  · rw [if_neg (by simp)]
    exact Draft.Holds.quote (h.of_same rfl rfl rfl)

theorem layer_flushed (d : Draft) : d.flushed.layer = d.layer := by
  unfold Draft.flushed
  split <;> rfl

theorem hasQuotes_flushed (d : Draft) : d.flushed.hasQuotes = d.hasQuotes := by
  unfold Draft.flushed
  split <;> rfl

theorem layer_put (d : Draft) (c : Char) : (d.put c true).layer = d.layer := by
  unfold Draft.put
  split
  · rfl
  · exact layer_flushed d

theorem layer_add (d : Draft) (p : Part) : (d.add p).layer = d.layer := layer_flushed d

section Opening
variable (plain : d.layer = {})
include plain

theorem layer_singleQuote : (d.singleQuote false).layer = { mode := .single } := by
  unfold Draft.singleQuote
  dsimp only
  rw [if_pos (by rw [plain])]
  exact (layer_add _ _).trans (by rw [plain])

theorem layer_doubleQuote :
    (d.doubleQuote false).layer = { mode := .double, isDouble := true } := by
  unfold Draft.doubleQuote
  dsimp only
  rw [if_pos (by rw [plain])]
  exact (layer_add _ _).trans (by rw [plain]; rfl)

end Opening

theorem singleQuote_of_single (single : d.layer = { mode := .single }) :
    (d.singleQuote false).layer = {} ∧ (d.singleQuote false).hasQuotes = true := by
  unfold Draft.singleQuote
  dsimp only
  rw [if_neg (by simp [single]), if_neg (by simp)]
  exact ⟨(layer_add _ _).trans (by rw [single]; rfl), hasQuotes_flushed _⟩

theorem doubleQuote_of_double (double : d.layer = { mode := .double, isDouble := true }) :
    (d.doubleQuote false).layer = {} ∧ (d.doubleQuote false).hasQuotes = true := by
  unfold Draft.doubleQuote
  dsimp only
  rw [if_neg (by simp [double]), if_neg (by simp)]
  exact ⟨(layer_add _ _).trans (by rw [double]; rfl), hasQuotes_flushed _⟩

/-- Outside all quotes, a piece of a script adds a text to a word that goes on behind it. -/
def Adds (piece text : List Char) : Prop :=
  ∀ (inner : Inner) (fuel : Nat) (d : Draft) (s : Source) (rest held : List Char),
    d.layer = {} → d.Holds held → s.rest = piece ++ rest →
    ∃ e t, (wordRest inner none (piece.length + fuel) d).run s =
        (wordRest inner none fuel e).run t ∧
      e.layer = {} ∧ e.hasQuotes = true ∧ e.Holds (held ++ text) ∧ t.rest = rest

theorem Adds.append {piece piece' text text' : List Char} (first : Adds piece text)
    (second : Adds piece' text') : Adds (piece ++ piece') (text ++ text') := by
  intro inner fuel d s rest held plain holds shape
  rw [List.append_assoc] at shape
  obtain ⟨e, t, run, plain', -, holds', shape'⟩ :=
    first inner (piece'.length + fuel) d s _ held plain holds shape
  obtain ⟨e', t', run', plain'', quoted, holds'', shape''⟩ :=
    second inner fuel e t rest _ plain' holds' shape'
  refine ⟨e', t', ?_, plain'', quoted, ?_, shape''⟩
  · rw [List.length_append, Nat.add_assoc, run, run']
  · rwa [← List.append_assoc]

/-- What stands between quotation marks is added character by character. -/
theorem run_inside (inner : Inner) {mode : Layer} {text : List Char}
    (each : ∀ c ∈ text, ∀ (fuel : Nat) (d : Draft) (s : Source) (cs : List Char), d.layer = mode →
      s.rest = c :: cs → (wordRest inner none (fuel + 1) d).run s =
        (wordRest inner none fuel (d.put c true)).run (s.behind c cs))
    (fuel : Nat) {held : List Char} (layer : d.layer = mode) (holds : d.Holds held)
    (shape : s.rest = text ++ rest) :
    ∃ e t, (wordRest inner none (text.length + fuel) d).run s =
        (wordRest inner none fuel e).run t ∧
      e.layer = mode ∧ e.Holds (held ++ text) ∧ t.rest = rest := by
  induction text generalizing d s held with
  | nil =>
    refine ⟨d, s, ?_, layer, ?_, shape⟩
    · rw [List.length_nil, Nat.zero_add]
    · rwa [List.append_nil]
  | cons c text ih =>
    obtain ⟨e, t, run, layer', holds', shape'⟩ :=
      ih (fun c mem => each c (.tail _ mem)) ((layer_put d c).trans layer) (holds.put c)
        (s := s.behind c (text ++ rest)) rfl
    refine ⟨e, t, ?_, layer', ?_, shape'⟩
    · rw [List.length_cons, Nat.add_right_comm, each c (.head _) _ d s (text ++ rest) layer shape,
        run]
    · rwa [List.append_cons]

theorem adds_single {text : List Char} (plain : ∀ c ∈ text, c ≠ '\'') :
    Adds ('\'' :: text ++ ['\'']) text := by
  intro inner fuel d s rest held layer holds shape
  have opened := run_singleQuote inner (text.length + (fuel + 1)) (d := d)
    (.inl (by rw [layer])) (shape.trans (by simp : _ = '\'' :: (text ++ '\'' :: rest)))
  obtain ⟨e, t, run, single, holds', shape'⟩ := run_inside inner
    (fun c mem fuel d s cs layer text => run_single (by rw [layer]) (plain c mem) text)
    (fuel + 1) (layer_singleQuote layer) holds.singleQuote
    (s := s.behind '\'' (text ++ '\'' :: rest)) rfl
  have closed := run_singleQuote inner fuel (d := e)
    (.inr (by rw [single])) shape'
  obtain ⟨layer', quoted⟩ := singleQuote_of_single single
  refine ⟨_, t.behind '\'' rest, ?_, layer', quoted, holds'.singleQuote, rfl⟩
  rw [← closed, ← run, ← opened]
  congr 2
  simp
  omega

theorem adds_double (n : Nat) :
    Adds ('"' :: List.replicate n '\'' ++ ['"']) (List.replicate n '\'') := by
  generalize marks : List.replicate n '\'' = text
  intro inner fuel d s rest held layer holds shape
  have opened := run_doubleQuote inner (text.length + (fuel + 1)) (d := d)
    (.inl (by rw [layer])) (shape.trans (by simp : _ = '"' :: (text ++ '"' :: rest)))
  obtain ⟨e, t, run, double, holds', shape'⟩ := run_inside inner
    (fun c mem fuel d s cs layer text => by
      obtain rfl := List.eq_of_mem_replicate (marks ▸ mem)
      exact run_quote_double (by rw [layer]) text)
    (fuel + 1) (layer_doubleQuote layer) holds.doubleQuote
    (s := s.behind '"' (text ++ '"' :: rest)) rfl
  have closed := run_doubleQuote inner fuel (d := e)
    (.inr (by rw [double])) shape'
  obtain ⟨layer', quoted⟩ := doubleQuote_of_double double
  refine ⟨_, t.behind '"' rest, ?_, layer', quoted, holds'.doubleQuote, rfl⟩
  rw [← closed, ← run, ← opened]
  congr 2
  simp
  omega

/-- What is printed between quotes is added, one run of plain text and quotation marks after the
other. -/
theorem adds_quotedText (fuel : Nat) (enough : cs.length < fuel) : Adds (quotedText fuel cs) cs := by
  induction fuel generalizing cs with
  | zero => cases enough
  | succ fuel ih =>
    have plain : Adds _ (cs.takeWhile (· ≠ '\'')) :=
      adds_single fun c mem => by simpa using List.mem_takeWhile_imp mem
    have whole := List.takeWhile_append_dropWhile (p := (· ≠ '\'')) (l := cs)
    have first (left : cs.dropWhile (· ≠ '\'') ≠ []) :
        (cs.dropWhile (· ≠ '\'')).head left = '\'' := by
      simpa using List.head_dropWhile_not (· ≠ '\'') left
    rw [quotedText]
    dsimp only
    generalize cs.takeWhile (· ≠ '\'') = front at plain whole ⊢
    generalize cs.dropWhile (· ≠ '\'') = rest at whole first ⊢
    split
    · rename_i empty
      rw [← whole, List.isEmpty_iff.mp empty, List.append_nil]
      exact plain
    rename_i left
    have marks := adds_double (rest.takeWhile (· = '\'')).length
    rw [← List.eq_replicate_of_mem fun c mem => by simpa using List.mem_takeWhile_imp mem] at marks
    have shorter : (rest.dropWhile (· = '\'')).length < rest.length := by
      obtain ⟨c, tail, rfl⟩ := List.exists_cons_of_ne_nil (mt List.isEmpty_iff.mpr left)
      obtain rfl : c = '\'' := first (List.cons_ne_nil _ _)
      rw [List.dropWhile_cons_of_pos (by rfl)]
      exact Nat.lt_succ_of_le (List.dropWhile_suffix _).length_le
    have whole' := List.takeWhile_append_dropWhile (p := (· = '\'')) (l := rest)
    have upto := plain.append marks
    rw [← whole]
    rw [← whole, List.length_append] at enough
    generalize rest.takeWhile (· = '\'') = quotes at whole' upto ⊢
    generalize rest.dropWhile (· = '\'') = more at whole' shorter ⊢
    rw [← whole', ← List.append_assoc front]
    split
    · rename_i empty
      rw [List.isEmpty_iff.mp empty, List.append_nil, List.append_nil]
      exact upto
    · exact upto.append (ih (by omega))

theorem joinWords_of_quoted {ps : List Part} (flag : Bool)
    (parts : ∀ p ∈ ps, p = .quote ∨ ∃ t, p = .text t true) : joinWords flag ps = ps := by
  induction ps generalizing flag with
  | nil => cases flag <;> rfl
  | cons p ps ih =>
    have rest (flag : Bool) := ih flag fun p mem => parts p (.tail _ mem)
    rcases parts p (.head _) with rfl | ⟨t, rfl⟩
    · rw [joinWords, rest]
      rintro w behind - rfl
      simpa using parts (.parameter "@" .value false w) (.tail _ (.head _))
    · cases flag <;> exact congrArg _ (rest _)

theorem run_wordRest_end (plain : d.layer = {})
    (ends : ∀ c more, s.rest = c :: more → c = '\n' ∨ isSeparator c = true) :
    (wordRest inner none (fuel + 1) d).run s = .ok (d, s) := by
  have whole (more : List Char) : s.rest ≠ '\\' :: more := by
    intro same
    rcases ends _ _ same with h | h
    · exact absurd h (by decide)
    · exact absurd h (by decide)
  rw [wordRest]
  dsimp only
  rw [if_pos (by simp [plain]), run_bind (run_join whole), run_bind run_get]
  rcases shape : s.rest with _ | ⟨c, more⟩
  · rfl
  · dsimp only
    split
    · rw [if_pos (by simp [plain])]
      rfl
    · rename_i other
      rw [if_pos (by simp [plain, (ends c more shape).resolve_left other])]
      rfl

theorem run_checkEnd (plain : d.layer = {}) : (checkEnd false d).run s = .ok ((), s) := by
  unfold checkEnd
  rw [if_neg (by simp [plain]), if_neg (by simp [plain]), if_neg (by simp [plain])]
  rfl

/-- A text in quotes with the end of a word behind it is read as one word, which stands for the text
and has nothing in it to be filled in. -/
theorem wordToken_inQuotes (inner : Inner) (text : String)
    (shape : s.rest = (inQuotes text).toList ++ rest)
    (ends : ∀ c more, rest = c :: more → c = '\n' ∨ isSeparator c = true) :
    ∃ t, (wordToken inner).run s = .ok (.word, t) ∧ t.rest = rest ∧ t.isQuoted = true ∧
      literal t.word = text ∧ ∀ p ∈ t.word, p = .quote ∨ ∃ cs, p = .text cs true := by
  have enough : text.toList.length < text.length + 1 := by
    rw [String.length_toList]
    exact Nat.lt_succ_self _
  have adds := adds_quotedText (text.length + 1) enough
  rw [inQuotes, String.toList_ofList] at shape
  obtain ⟨d, t, run, plain, quoted, holds, shape'⟩ :=
    adds inner (rest.length + 1) {} s rest [] rfl ⟨nofun, fun ne => absurd rfl ne, rfl⟩ shape
  have whole : (wordRest inner none (s.rest.length + 1) {}).run s = .ok (d, t) := by
    rw [shape, List.length_append, Nat.add_assoc, run, run_wordRest_end plain (shape' ▸ ends)]
  have parts : ∀ p ∈ d.flushed.parts.reverse, p = .quote ∨ ∃ cs, p = .text cs true :=
    fun p mem => holds.flushed.1.parts p (List.mem_reverse.mp mem)
  have word : d.toWord = d.flushed.parts.reverse := joinWords_of_quoted false parts
  refine ⟨{ t with word := d.toWord, isQuoted := d.hasQuotes }, ?_, shape', quoted, ?_, ?_⟩
  · rw [wordToken, run_bind run_get, run_bind whole, run_bind (run_checkEnd plain),
      run_bind run_get, quoted]
    split
    · rename_i same
      cases same
    · rfl
  · have text := holds.flushed.1.text
    rw [holds.flushed.2, List.reverse_nil, List.append_nil, List.nil_append] at text
    rw [literal, word, text, String.ofList_toList]
  · rw [word]
    exact parts

end LintRepair.Shell
