import Mathlib.Control.Basic
import Mathlib.Data.List.DropRight

/-!
# Text that is processed line by line

A pass over a list goes from front to back, replaces each element, carries a state, and may fail
(`List.mapAccumLM` in `Except`).  What holds of one step holds of the pass: a step that finds its
own result unchanged makes a pass that does (`Pass.again`), a view that the step keeps is kept
(`Pass.map_eq`), and `Pass.getElem?` gives the element `i` of the result.  A state that only marked
elements set is the one that the nearest of them set (`foldl_mark`).

The first field of a line ends at the first separator (`head_splitOn`), and its last field begins
after the last one (`getLast_splitOn`).

`splitLines` takes a text apart at the characters that end a line.  Lines that contain none of them
come back from the text in which each is ended by one (`splitLines_flatMap`).

`editLines` is what a stream editor does: each line is replaced or deleted, and keeps its end.  A
second run changes nothing if and only if the editor leaves every line of the result alone
(`editLines_again_iff`).

`words` are the longest parts of a text without a blank.  A loop that skips blanks and then reads
up to the next one finds them one by one (`words_eq`).
-/

namespace Lines

/-! ### Passes -/

section Pass

variable {σ α β γ ε : Type} {step : σ → α → Except ε (σ × β)} {s t : σ} {as : List α} {bs : List β}

/-- The pass over `as` from the state `s` gives `bs` and ends in the state `t`. -/
def Pass (step : σ → α → Except ε (σ × β)) (s : σ) (as : List α) (t : σ) (bs : List β) : Prop :=
  List.mapAccumLM step s as = .ok (t, bs)

/-- A step of `Except` that succeeds, and then the rest. -/
theorem bind_eq_ok {x : Except ε α} {f : α → Except ε β} {b : β} :
    x >>= f = .ok b ↔ ∃ a, x = .ok a ∧ f a = .ok b := by
  rcases x with error | a
  · constructor
    · exact fun h => nomatch h
    · rintro ⟨a, h, _⟩
      exact nomatch h
  · constructor
    · exact fun h => ⟨a, rfl, h⟩
    · rintro ⟨a', h, hf⟩
      cases h
      exact hf

theorem pass_nil_iff : Pass step s [] t bs ↔ t = s ∧ bs = [] := by
  rw [Pass, List.mapAccumLM]
  constructor
  · intro h
    cases h
    exact ⟨rfl, rfl⟩
  · rintro ⟨rfl, rfl⟩
    rfl

theorem pass_cons_iff {a : α} :
    Pass step s (a :: as) t bs
      ↔ ∃ s' b bs', step s a = .ok (s', b) ∧ Pass step s' as t bs' ∧ bs = b :: bs' := by
  rw [Pass, List.mapAccumLM, bind_eq_ok]
  constructor
  · rintro ⟨⟨s', b⟩, hstep, hrest⟩
    obtain ⟨⟨t', bs'⟩, hpass, hresult⟩ := bind_eq_ok.mp hrest
    cases hresult
    exact ⟨s', b, bs', hstep, hpass, rfl⟩
  · rintro ⟨s', b, bs', hstep, hpass, rfl⟩
    exact ⟨(s', b), hstep, bind_eq_ok.mpr ⟨(t, bs'), hpass, rfl⟩⟩

/-- **A pass keeps the number of the elements.** -/
theorem Pass.length_eq (h : Pass step s as t bs) : bs.length = as.length := by
  induction as generalizing s bs with
  | nil => rw [(pass_nil_iff.mp h).2, List.length_nil, List.length_nil]
  | cons a as ih =>
    obtain ⟨s', b, bs', _, hpass, rfl⟩ := pass_cons_iff.mp h
    rw [List.length_cons, List.length_cons, ih hpass]

/-- **A view that every step keeps** is kept by the pass. -/
theorem Pass.map_eq {f : α → γ} {g : β → γ} (h : Pass step s as t bs)
    (hstep : ∀ {s a s' b}, step s a = .ok (s', b) → g b = f a) : bs.map g = as.map f := by
  induction as generalizing s bs with
  | nil => rw [(pass_nil_iff.mp h).2, List.map_nil, List.map_nil]
  | cons a as ih =>
    obtain ⟨s', b, bs', hone, hpass, rfl⟩ := pass_cons_iff.mp h
    rw [List.map_cons, List.map_cons, hstep hone, ih hpass]

/-- **A second pass** changes nothing if a second step changes nothing. -/
theorem Pass.again {step : σ → α → Except ε (σ × α)} {bs : List α} (h : Pass step s as t bs)
    (hstep : ∀ {s a s' b}, step s a = .ok (s', b) → step s b = .ok (s', b)) :
    Pass step s bs t bs := by
  induction as generalizing s bs with
  | nil =>
    obtain ⟨rfl, rfl⟩ := pass_nil_iff.mp h
    exact h
  | cons a as ih =>
    obtain ⟨s', b, bs', hone, hpass, rfl⟩ := pass_cons_iff.mp h
    exact pass_cons_iff.mpr ⟨s', b, bs', hstep hone, ih hpass, rfl⟩

/-- **The element `i` of the result** is what the step makes of the element `i` in the state that
the elements before it left. -/
theorem Pass.getElem? {next : σ → α → σ} {i : ℕ} {a : α} (h : Pass step s as t bs)
    (hnext : ∀ {s a s' b}, step s a = .ok (s', b) → s' = next s a) (ha : as[i]? = some a) :
    ∃ s' b, bs[i]? = some b ∧ step ((as.take i).foldl next s) a = .ok (s', b) := by
  induction as generalizing s bs i with
  | nil => exact nomatch ha
  | cons a' as ih =>
    obtain ⟨s', b, bs', hone, hpass, rfl⟩ := pass_cons_iff.mp h
    rcases i with _ | i
    · rw [List.getElem?_cons_zero, Option.some_inj] at ha
      subst ha
      exact ⟨s', b, List.getElem?_cons_zero, hone⟩
    · rw [List.getElem?_cons_succ] at ha
      rw [List.getElem?_cons_succ, List.take_succ_cons, List.foldl_cons, ← hnext hone]
      exact ih hpass ha

/-- **A state that only marked elements set** is the one that the nearest of them set. -/
theorem foldl_mark (p : α → Bool) (f : α → σ) (s : σ) (as : List α) :
    as.foldl (fun s a => if p a then f a else s) s = ((as.reverse.find? p).map f).getD s := by
  induction as using List.reverseRecOn with
  | nil => rfl
  | append_singleton as a ih =>
    rw [List.foldl_concat, List.reverse_append, List.reverse_singleton, List.singleton_append,
      List.find?_cons, ih]
    rcases p a
    · rfl
    · rfl

end Pass

/-! ### Fields -/

section Fields

variable {α : Type} [BEq α] [LawfulBEq α] {sep : α} {field rest : List α}

theorem takeWhile_of_not_mem (h : sep ∉ field) : field.takeWhile (· != sep) = field := by
  apply List.takeWhile_eq_self_iff.mpr
  intro c hc
  exact bne_iff_ne.mpr fun heq => h (heq ▸ hc)

theorem takeWhile_append_sep (h : sep ∉ field) :
    (field ++ sep :: rest).takeWhile (· != sep) = field := by
  rw [List.takeWhile_append_of_pos, List.takeWhile_cons_of_neg, List.append_nil]
  · rw [bne_self_eq_false]
    exact Bool.false_ne_true
  · intro c hc
    exact bne_iff_ne.mpr fun heq => h (heq ▸ hc)

theorem sep_not_mem_takeWhile (sep : α) (text : List α) : sep ∉ text.takeWhile (· != sep) := by
  intro h
  have hne : (sep != sep) = true := List.mem_takeWhile_imp (p := fun c => c != sep) h
  rw [bne_self_eq_false] at hne
  exact Bool.false_ne_true hne

/-- **The first field** is the text before the first separator. -/
theorem head_splitOn (sep : α) (text : List α) :
    (text.splitOn sep).head (List.splitOn_ne_nil sep text) = text.takeWhile (· != sep) := by
  by_cases hmem : sep ∈ text
  · obtain ⟨field, rest, rfl, hfield⟩ := List.eq_append_cons_of_mem hmem
    have hsplit : (field ++ sep :: rest).splitOn sep = field :: rest.splitOn sep :=
      List.splitOn_append_cons_self_of_not_mem hfield rest
    simp only [hsplit, List.head_cons, takeWhile_append_sep hfield]
  · have hsplit : text.splitOn sep = [text] := List.splitOn_eq_singleton hmem
    simp only [hsplit, List.head_cons, takeWhile_of_not_mem hmem]

/-- **The last field** is the text after the last separator. -/
theorem getLast_splitOn (sep : α) (text : List α) :
    (text.splitOn sep).getLast (List.splitOn_ne_nil sep text) = text.rtakeWhile (· != sep) := by
  rw [List.rtakeWhile]
  by_cases hmem : sep ∈ text
  · obtain ⟨field, rest, hreverse, hfield⟩ :=
      List.eq_append_cons_of_mem (List.mem_reverse.mpr hmem)
    have htext : text = rest.reverse ++ sep :: field.reverse := by
      rw [← List.reverse_reverse text, hreverse, List.reverse_append, List.reverse_cons,
        List.append_assoc, List.singleton_append]
    have hlast : field.reverse.splitOn sep = [field.reverse] :=
      List.splitOn_eq_singleton fun h => hfield (List.mem_reverse.mp h)
    have hsplit : text.splitOn sep = rest.reverse.splitOn sep ++ [field.reverse] := by
      rw [htext, List.splitOn_append_cons_self, hlast]
    simp only [hsplit, List.getLast_concat, hreverse, takeWhile_append_sep hfield]
  · have hsplit : text.splitOn sep = [text] := List.splitOn_eq_singleton hmem
    have hreverse : sep ∉ text.reverse := fun h => hmem (List.mem_reverse.mp h)
    simp only [hsplit, List.getLast_singleton, takeWhile_of_not_mem hreverse, List.reverse_reverse]

end Fields

/-! ### Texts -/

section Texts

variable {α : Type} {isEnd : α → Bool} {text : List α} {lines : List (List α)}

/-- The lines of a text, each ended by one of the characters of `isEnd` or by the end of the
text. -/
def splitLines (isEnd : α → Bool) : List α → List (List α)
  | [] => []
  | c :: text =>
    if isEnd c then [] :: splitLines isEnd text
    else
      match splitLines isEnd text with
      | [] => [[c]]
      | line :: lines => (c :: line) :: lines

/-- **No line** contains what ends a line. -/
theorem isEnd_of_mem_splitLines (text : List α) :
    ∀ line ∈ splitLines isEnd text, ∀ c ∈ line, isEnd c = false := by
  induction text with
  | nil => exact fun line hline => absurd hline List.not_mem_nil
  | cons c text ih =>
    intro line hline
    rw [splitLines] at hline
    by_cases hc : isEnd c = true
    · rw [if_pos hc] at hline
      rcases List.mem_cons.mp hline with rfl | hrest
      · exact fun d hd => absurd hd List.not_mem_nil
      · exact ih line hrest
    · rw [if_neg hc] at hline
      have hfirst : isEnd c = false := Bool.not_eq_true _ ▸ hc
      cases hsplit : splitLines isEnd text with
      | nil =>
        rw [hsplit] at hline
        obtain rfl := List.mem_singleton.mp hline
        intro d hd
        obtain rfl := List.mem_singleton.mp hd
        exact hfirst
      | cons line' lines =>
        rw [hsplit] at hline ih
        rcases List.mem_cons.mp hline with rfl | hrest
        · intro d hd
          rcases List.mem_cons.mp hd with rfl | hd
          · exact hfirst
          · exact ih line' List.mem_cons_self d hd
        · exact ih line (List.mem_cons_of_mem _ hrest)

/-- The first line of a text. -/
theorem splitLines_append {line : List α} {c : α} (hline : ∀ d ∈ line, isEnd d = false)
    (hc : isEnd c = true) (text : List α) :
    splitLines isEnd (line ++ c :: text) = line :: splitLines isEnd text := by
  induction line with
  | nil => rw [List.nil_append, splitLines, if_pos hc]
  | cons d line ih =>
    have hd : isEnd d = false := hline d List.mem_cons_self
    have hrest := ih fun e he => hline e (List.mem_cons_of_mem _ he)
    rw [List.cons_append, splitLines, if_neg (by rw [hd]; exact Bool.false_ne_true), hrest]

/-- **Lines come back** from the text in which each is ended by the same character. -/
theorem splitLines_flatMap {c : α} (hc : isEnd c = true)
    (hlines : ∀ line ∈ lines, ∀ d ∈ line, isEnd d = false) :
    splitLines isEnd (lines.flatMap fun line => line ++ [c]) = lines := by
  induction lines with
  | nil => rfl
  | cons line lines ih =>
    have hrest := ih fun line' hline' => hlines line' (List.mem_cons_of_mem _ hline')
    rw [List.flatMap_cons, List.append_assoc, List.singleton_append,
      splitLines_append (hlines line List.mem_cons_self) hc, hrest]

end Texts

/-! ### Edits -/

section Edits

variable {α : Type} {isEnd : α → Bool} {f : List α → Option (List α)} {text : List α}
  {lines : List (List α × List α)}

/-- The lines of a text, each with what ends it; the end of the text is nothing. -/
def endedLines (isEnd : α → Bool) : List α → List (List α × List α)
  | [] => []
  | c :: text =>
    if isEnd c then ([], [c]) :: endedLines isEnd text
    else
      match endedLines isEnd text with
      | [] => [([c], [])]
      | (line, stop) :: lines => (c :: line, stop) :: lines

/-- The text of lines with their ends. -/
def joinLines (lines : List (List α × List α)) : List α := lines.flatMap fun l => l.1 ++ l.2

/-- What an editor makes of a line with its end; `none` where it deletes the line. -/
def editLine (f : List α → Option (List α)) (l : List α × List α) : Option (List α × List α) :=
  (f l.1).map fun line => (line, l.2)

/-- Edit a text line by line. -/
def editLines (isEnd : α → Bool) (f : List α → Option (List α)) (text : List α) : List α :=
  joinLines ((endedLines isEnd text).filterMap (editLine f))

/-- Every line has an end, except that the last one may have none if it is not empty. -/
def WellEnded (isEnd : α → Bool) : List (List α × List α) → Prop
  | [] => True
  | (line, stop) :: lines =>
    (∀ c ∈ line, isEnd c = false)
      ∧ ((∃ c, stop = [c] ∧ isEnd c = true) ∧ WellEnded isEnd lines
        ∨ stop = [] ∧ line ≠ [] ∧ lines = [])

/-- The editor puts no end into a line, and empties no line. -/
structure KeepsLines (isEnd : α → Bool) (f : List α → Option (List α)) : Prop where
  plain : ∀ line line', f line = some line' → (∀ c ∈ line, isEnd c = false) →
    ∀ c ∈ line', isEnd c = false
  nonempty : ∀ line line', f line = some line' → line ≠ [] → line' ≠ []

theorem joinLines_endedLines (text : List α) : joinLines (endedLines isEnd text) = text := by
  induction text with
  | nil => rfl
  | cons c text ih =>
    rw [endedLines]
    split_ifs
    · rw [joinLines, List.flatMap_cons, ← joinLines, ih]
      rfl
    · cases hlines : endedLines isEnd text with
      | nil =>
        rw [hlines] at ih
        rw [← ih]
        rfl
      | cons l lines =>
        rw [hlines] at ih
        rw [← ih]
        rfl

theorem wellEnded_endedLines (text : List α) : WellEnded isEnd (endedLines isEnd text) := by
  induction text with
  | nil => trivial
  | cons c text ih =>
    rw [endedLines]
    split_ifs with hc
    · exact ⟨fun d hd => absurd hd List.not_mem_nil, Or.inl ⟨⟨c, rfl, hc⟩, ih⟩⟩
    · have hplain : isEnd c = false := Bool.eq_false_iff.mpr hc
      cases hlines : endedLines isEnd text with
      | nil =>
        refine ⟨fun d hd => ?_, Or.inr ⟨rfl, List.cons_ne_nil _ _, rfl⟩⟩
        rw [List.mem_singleton.mp hd]
        exact hplain
      | cons l lines =>
        obtain ⟨line, stop⟩ := l
        rw [hlines] at ih
        obtain ⟨hline, hrest⟩ := ih
        refine ⟨fun d hd => ?_, ?_⟩
        · rcases List.mem_cons.mp hd with rfl | hd
          · exact hplain
          · exact hline d hd
        · rcases hrest with hended | ⟨hstop, -, hlast⟩
          · exact Or.inl hended
          · exact Or.inr ⟨hstop, List.cons_ne_nil _ _, hlast⟩

/-- A line in front of a text. -/
theorem endedLines_append {line : List α} {c : α} (hline : ∀ d ∈ line, isEnd d = false)
    (hc : isEnd c = true) (text : List α) :
    endedLines isEnd (line ++ c :: text) = (line, [c]) :: endedLines isEnd text := by
  induction line with
  | nil => rw [List.nil_append, endedLines, if_pos hc]
  | cons d line ih =>
    have hrest := ih fun e he => hline e (List.mem_cons_of_mem _ he)
    rw [List.cons_append, endedLines, hline d List.mem_cons_self, if_neg Bool.false_ne_true, hrest]

/-- A last line without an end. -/
theorem endedLines_of_plain {line : List α} (hline : ∀ d ∈ line, isEnd d = false)
    (hnonempty : line ≠ []) : endedLines isEnd line = [(line, [])] := by
  induction line with
  | nil => exact absurd rfl hnonempty
  | cons d line ih =>
    rw [endedLines, hline d List.mem_cons_self, if_neg Bool.false_ne_true]
    rcases line with _ | ⟨e, line⟩
    · rfl
    · rw [ih (fun e he => hline e (List.mem_cons_of_mem _ he)) (List.cons_ne_nil _ _)]

/-- **Lines with their ends** come back from their text. -/
theorem endedLines_joinLines (h : WellEnded isEnd lines) :
    endedLines isEnd (joinLines lines) = lines := by
  induction lines with
  | nil => rfl
  | cons l lines ih =>
    obtain ⟨line, stop⟩ := l
    obtain ⟨hline, ⟨⟨c, rfl, hc⟩, hlines⟩ | ⟨rfl, hnonempty, rfl⟩⟩ := h
    · rw [joinLines, List.flatMap_cons, ← joinLines, List.append_assoc, List.singleton_append,
        endedLines_append hline hc, ih hlines]
    · rw [joinLines, List.flatMap_cons, List.flatMap_nil, List.append_nil, List.append_nil,
        endedLines_of_plain hline hnonempty]

/-- Without their ends they are the lines of `splitLines`. -/
theorem map_fst_endedLines (text : List α) :
    (endedLines isEnd text).map Prod.fst = splitLines isEnd text := by
  induction text with
  | nil => rfl
  | cons c text ih =>
    rw [endedLines, splitLines, ← ih]
    split_ifs
    · rfl
    · cases endedLines isEnd text with
      | nil => rfl
      | cons l lines => rfl

theorem WellEnded.filterMap_editLine (hf : KeepsLines isEnd f) (h : WellEnded isEnd lines) :
    WellEnded isEnd (lines.filterMap (editLine f)) := by
  induction lines with
  | nil => trivial
  | cons l lines ih =>
    obtain ⟨line, stop⟩ := l
    obtain ⟨hline, hrest⟩ := h
    have hlines : WellEnded isEnd (lines.filterMap (editLine f)) := by
      rcases hrest with ⟨-, hlines⟩ | ⟨-, -, rfl⟩
      · exact ih hlines
      · trivial
    cases hedit : f line with
    | none =>
      have hnone : editLine f (line, stop) = none := by rw [editLine, hedit, Option.map_none]
      rw [List.filterMap_cons_none hnone]
      exact hlines
    | some line' =>
      have hsome : editLine f (line, stop) = some (line', stop) := by
        rw [editLine, hedit, Option.map_some]
      rw [List.filterMap_cons_some hsome]
      refine ⟨hf.plain line line' hedit hline, ?_⟩
      rcases hrest with ⟨hstop, -⟩ | ⟨hstop, hnonempty, rfl⟩
      · exact Or.inl ⟨hstop, hlines⟩
      · exact Or.inr ⟨hstop, hf.nonempty line line' hedit hnonempty, rfl⟩

/-- The lines of an edited text are the edited lines. -/
theorem endedLines_editLines (hf : KeepsLines isEnd f) (text : List α) :
    endedLines isEnd (editLines isEnd f text)
      = (endedLines isEnd text).filterMap (editLine f) :=
  endedLines_joinLines ((wellEnded_endedLines text).filterMap_editLine hf)

/-- A line of an edited text is what the editor has made of a line. -/
theorem exists_of_mem_editLines (hf : KeepsLines isEnd f) {line : List α}
    (h : line ∈ splitLines isEnd (editLines isEnd f text)) :
    ∃ line' ∈ splitLines isEnd text, f line' = some line := by
  rw [← map_fst_endedLines, endedLines_editLines hf, List.mem_map] at h
  obtain ⟨l, hl, rfl⟩ := h
  obtain ⟨l', hl', hedit⟩ := List.mem_filterMap.mp hl
  obtain ⟨line, hline, rfl⟩ := Option.map_eq_some_iff.mp hedit
  refine ⟨l'.1, ?_, hline⟩
  rw [← map_fst_endedLines]
  exact List.mem_map_of_mem hl'

/-- What goes through a list and finds nothing to change leaves every member alone. -/
theorem filterMap_eq_self_iff {β : Type} {g : β → Option β} {l : List β} :
    l.filterMap g = l ↔ ∀ b ∈ l, g b = some b := by
  induction l with
  | nil => simp
  | cons b l ih =>
    rw [List.forall_mem_cons, ← ih]
    cases hb : g b with
    | none =>
      rw [List.filterMap_cons_none hb]
      have hlength := List.length_filterMap_le g l
      constructor
      · intro h
        rw [h, List.length_cons] at hlength
        omega
      · exact fun h => nomatch h.1
    | some b' =>
      rw [List.filterMap_cons_some hb, List.cons.injEq, Option.some_inj]

/-- **A second run of an editor** changes nothing if and only if it leaves every line of the result
alone. -/
theorem editLines_again_iff (hf : KeepsLines isEnd f) :
    editLines isEnd f (editLines isEnd f text) = editLines isEnd f text
      ↔ ∀ line ∈ splitLines isEnd (editLines isEnd f text), f line = some line := by
  have hwell : WellEnded isEnd (endedLines isEnd (editLines isEnd f text)) :=
    wellEnded_endedLines _
  have hlines : editLines isEnd f (editLines isEnd f text) = editLines isEnd f text
      ↔ (endedLines isEnd (editLines isEnd f text)).filterMap (editLine f)
        = endedLines isEnd (editLines isEnd f text) := by
    constructor
    · intro h
      rw [← endedLines_joinLines (hwell.filterMap_editLine hf), ← editLines, h]
    · intro h
      rw [editLines, h, joinLines_endedLines]
  rw [hlines, filterMap_eq_self_iff, ← map_fst_endedLines, List.forall_mem_map]
  refine forall₂_congr fun l _ => ?_
  rw [editLine]
  constructor
  · intro h
    obtain ⟨line, hline, heq⟩ := Option.map_eq_some_iff.mp h
    rw [hline, ← heq]
  · intro h
    rw [h, Option.map_some]

/-! An editor that deletes no line and keeps the length of every line. -/

variable {g : List α → List α}

theorem editLines_some (text : List α) :
    editLines isEnd (fun line => some (g line)) text
      = joinLines ((endedLines isEnd text).map fun l => (g l.1, l.2)) := by
  rw [editLines, ← List.filterMap_eq_map]
  rfl

theorem joinLines_cons (line stop : List α) (lines : List (List α × List α)) :
    joinLines ((line, stop) :: lines) = line ++ (stop ++ joinLines lines) := by
  rw [joinLines, List.flatMap_cons, ← joinLines, List.append_assoc]

/-- It keeps the length of the text. -/
theorem length_editLines (hg : ∀ line, (g line).length = line.length) (text : List α) :
    (editLines isEnd (fun line => some (g line)) text).length = text.length := by
  have hlines (lines : List (List α × List α)) :
      (joinLines (lines.map fun l => (g l.1, l.2))).length = (joinLines lines).length := by
    induction lines with
    | nil => rfl
    | cons l lines ih =>
      rw [List.map_cons, joinLines_cons, joinLines_cons, List.length_append, List.length_append,
        List.length_append, List.length_append, ih, hg]
  rw [editLines_some, hlines, joinLines_endedLines]

/-- **Where it leaves a character of a line alone**, the text has this character. -/
theorem getElem?_editLines (hg : ∀ line, (g line).length = line.length) {i : ℕ}
    (h : ∀ before l after k, text = before ++ (l ++ after) → i = before.length + k →
      k < l.length → (g l)[k]? = l[k]?) :
    (editLines isEnd (fun line => some (g line)) text)[i]? = text[i]? := by
  have hlines : ∀ (lines : List (List α × List α)) (i : ℕ),
      (∀ before l after k, joinLines lines = before ++ (l ++ after) →
        i = before.length + k → k < l.length → (g l)[k]? = l[k]?) →
      (joinLines (lines.map fun l => (g l.1, l.2)))[i]? = (joinLines lines)[i]? := by
    intro lines
    induction lines with
    | nil => exact fun _ _ => rfl
    | cons l lines ih =>
      obtain ⟨line, stop⟩ := l
      intro i h
      rw [List.map_cons, joinLines_cons, joinLines_cons]
      rcases Nat.lt_or_ge i line.length with hin | hbehind
      · rw [List.getElem?_append_left (by rw [hg]; exact hin), List.getElem?_append_left hin]
        exact h [] line _ i (joinLines_cons line stop lines) (Nat.zero_add i).symm hin
      · rw [List.getElem?_append_right (by rw [hg]; exact hbehind),
          List.getElem?_append_right hbehind, hg]
        rcases Nat.lt_or_ge (i - line.length) stop.length with hstop | hlater
        · rw [List.getElem?_append_left hstop, List.getElem?_append_left hstop]
        · rw [List.getElem?_append_right hlater, List.getElem?_append_right hlater]
          -- It is in a later line.
          apply ih
          intro before line' after k htext hk hlt
          refine h (line ++ (stop ++ before)) line' after k ?_ ?_ hlt
          · rw [joinLines_cons, htext, List.append_assoc, List.append_assoc]
          · rw [List.length_append, List.length_append]
            omega
  have htext : joinLines (endedLines isEnd text) = text := joinLines_endedLines text
  rw [editLines_some, hlines _ i (by rw [htext]; exact h), htext]

end Edits

/-! ### Words -/

section Words

variable {α : Type} {isBlank : α → Bool} {text : List α}

/-- The words of a text: its longest parts without a blank. -/
def words (isBlank : α → Bool) (text : List α) : List (List α) :=
  (text.splitOnP isBlank).filter fun word => !word.isEmpty

theorem words_nil : words isBlank [] = [] := by
  rw [words, List.splitOnP_nil]
  rfl

/-- A blank in front belongs to no word. -/
theorem words_cons_of_blank {c : α} (hc : isBlank c = true) (text : List α) :
    words isBlank (c :: text) = words isBlank text := by
  have hsplit : (c :: text).splitOnP isBlank = [] :: text.splitOnP isBlank := by
    rw [List.splitOnP_cons_eq_if_modifyHead, if_pos hc]
  rw [words, hsplit]
  rfl

theorem words_dropWhile (text : List α) :
    words isBlank (text.dropWhile isBlank) = words isBlank text := by
  induction text with
  | nil => rfl
  | cons c text ih =>
    by_cases hc : isBlank c = true
    · rw [List.dropWhile_cons_of_pos hc, ih, words_cons_of_blank hc]
    · rw [List.dropWhile_cons_of_neg hc]

/-- A word in front is the first one. -/
theorem words_append {word : List α} (hword : word ≠ [])
    (hplain : ∀ c ∈ word, isBlank c = false) (hrest : ∀ c ∈ text.head?, isBlank c = true) :
    words isBlank (word ++ text) = word :: words isBlank text := by
  have hfilter (rest : List (List α)) : ((word :: rest).filter fun word => !word.isEmpty)
      = word :: rest.filter fun word => !word.isEmpty := by
    apply List.filter_cons_of_pos
    rw [Bool.not_eq_true', List.isEmpty_eq_false_iff]
    exact hword
  rcases text with _ | ⟨c, text⟩
  · rw [List.append_nil, words, List.splitOnP_eq_singleton hplain, hfilter, words_nil,
      List.filter_nil]
  · have hc : isBlank c = true := hrest c rfl
    rw [words_cons_of_blank hc, words, List.splitOnP_append_cons_of_forall_mem hplain c hc,
      hfilter, words]

/-- **One turn of a loop that reads words**: skip the blanks, and read up to the next one. -/
theorem words_eq (text : List α) :
    words isBlank text
      = if text.dropWhile isBlank = [] then []
        else ((text.dropWhile isBlank).takeWhile fun c => !isBlank c)
          :: words isBlank ((text.dropWhile isBlank).dropWhile fun c => !isBlank c) := by
  rw [← words_dropWhile text]
  by_cases hnil : text.dropWhile isBlank = []
  · rw [if_pos hnil, hnil, words_nil]
  · rw [if_neg hnil]
    have hhead : isBlank ((text.dropWhile isBlank).head hnil) = false :=
      List.head_dropWhile_not isBlank hnil
    generalize text.dropWhile isBlank = rest at hnil hhead ⊢
    have hsplit := List.takeWhile_append_dropWhile (p := fun c => !isBlank c) (l := rest)
    calc words isBlank rest
        = words isBlank ((rest.takeWhile fun c => !isBlank c)
            ++ rest.dropWhile fun c => !isBlank c) := by rw [hsplit]
      _ = _ := ?_
    apply words_append
    · intro htake
      rcases rest with _ | ⟨c, rest⟩
      · exact hnil rfl
      · rw [List.head_cons] at hhead
        rw [List.takeWhile_cons_of_pos (by rw [hhead]; rfl)] at htake
        exact List.cons_ne_nil _ _ htake
    · intro c hc
      have hplain := List.mem_takeWhile_imp hc
      simpa using hplain
    · intro c hc
      have hstop := List.head?_dropWhile_not (fun c => !isBlank c) rest
      rw [Option.mem_def.mp hc] at hstop
      simpa using hstop

end Words

end Lines
