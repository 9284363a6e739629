import OnePlus9.Manifest.UpdateSha1sums

/-!
# The hashes of the manifest

A line of the manifest is blank, a comment, or an entry.  Where `update` completes, it changes the
entries whose nearest comment above contains ` - `, and no other line: such an entry becomes its
text before the first `|`, a `|`, and the SHA-1 of its destination file (`update_laws`).  As the
text before the first `|` is all that `update` and `cleanup` read of an entry, a second `update`
changes nothing and `cleanup` gives what it gives without the `update`.

Both follow from one step of the loop (`updateLine_again`, `cleanupLine_of_updateLine`) by the rules
of a pass.  The variable `needSHA1` is what the nearest comment above says (`needSHA1_eq`).
-/

namespace OnePlus9.UpdateSha1sums

open Lines Sha1

variable {tree : FileTree} {line line' : Line} {lines lines' : List Line}
  {needSHA1 needSHA1' : Option Bool}

/-! ### Lines -/

def IsComment (line : Line) : Prop := line.head? = some '#'

def IsEntry (line : Line) : Prop := line ≠ [] ∧ ¬IsComment line

/-- The comment asks for the hashes of the entries below it. -/
def AsksForSHA1 (comment : Line) : Prop := " - ".toList <:+: comment

instance : DecidablePred IsComment := fun line => inferInstanceAs (Decidable (line.head? = _))

instance : DecidablePred IsEntry := fun line => inferInstanceAs (Decidable (line ≠ [] ∧ _))

instance : DecidablePred AsksForSHA1 := fun _ => inferInstanceAs (Decidable (_ <:+: _))

/-- The nearest comment above the line `i`. -/
def precedingComment (lines : List Line) (i : ℕ) : Option Line :=
  (lines.take i).reverse.find? fun line => decide (IsComment line)

/-- What an entry says beside the hash. -/
def text (line : Line) : Line := line.takeWhile (· != '|')

/-- The destination that an entry names: after the source, before the attributes, without a `-`. -/
def destination (line : Line) : Line :=
  let field := ((text line).takeWhile (· != ';')).rtakeWhile (· != ':')
  if field.head? = some '-' then field.tail else field

/-! ### A line -/

theorem IsEntry.length_ne_zero (h : IsEntry line) : line.length ≠ 0 :=
  fun hlength => h.1 (List.length_eq_zero_iff.mp hlength)

theorem dropSHA1_eq (line : Line) : dropSHA1 line = text line := head_splitOn '|' line

theorem not_mem_text (line : Line) : '|' ∉ text line := sep_not_mem_takeWhile '|' line

theorem text_append (line rest : Line) : text (text line ++ '|' :: rest) = text line :=
  takeWhile_append_sep (not_mem_text line)

theorem isEntry_append {rest : Line} (h : IsEntry line) (htext : text line ≠ []) :
    IsEntry (text line ++ '|' :: rest) := by
  refine ⟨List.append_ne_nil_of_left_ne_nil htext _, ?_⟩
  intro hcomment
  apply h.2
  rcases line with _ | ⟨c, line⟩
  · exact absurd rfl h.1
  · have hc : (c != '|') = true := by
      by_contra hc
      exact htext (List.takeWhile_cons_of_neg hc)
    rw [IsComment, text, List.takeWhile_cons_of_pos (p := fun c => c != '|') hc] at hcomment
    exact hcomment

theorem filePath_eq_ok {path : Line} (h : filePath (text line) = .ok path) :
    path = destination line ∧ text line ≠ [] := by
  simp only [filePath, head_splitOn, getLast_splitOn] at h
  rw [destination]
  constructor
  · rcases hfield : ((text line).takeWhile (· != ';')).rtakeWhile (· != ':') with _ | ⟨c, field⟩
    · rw [hfield] at h
      exact nomatch h
    · rw [hfield] at h
      split at h
      · exact nomatch h
      · rename_i heq
        cases heq
        cases h
        rfl
      · rename_i hdash
        have hhead : ¬(c :: field).head? = some '-' := by
          intro hhead
          rw [List.head?_cons, Option.some_inj] at hhead
          exact hdash field (hhead ▸ rfl)
        rw [if_neg hhead]
        exact (Except.ok.inj h).symm
  · intro hnil
    rw [hnil, List.takeWhile_nil, List.rtakeWhile_nil] at h
    exact nomatch h

/-- What `addSHA1` does where it completes. -/
theorem addSHA1_eq_ok (h : addSHA1 tree (text line) = .ok line') :
    text line ≠ [] ∧ ∃ content, tree (join vendorPath (destination line)) = some content
      ∧ line' = text line ++ '|' :: (sha1 content).hexdigest := by
  obtain ⟨path, hpath, hopen⟩ := bind_eq_ok.mp h
  obtain ⟨rfl, htext⟩ := filePath_eq_ok hpath
  refine ⟨htext, ?_⟩
  rcases hcontent : tree (join vendorPath (destination line)) with _ | content
  · simp only [hcontent] at hopen
    exact nomatch hopen
  · simp only [hcontent] at hopen
    exact ⟨content, rfl, (Except.ok.inj hopen).symm⟩

/-! ### One step of the loop -/

theorem updateLine_comment (h : IsComment line) :
    updateLine tree needSHA1 line = .ok (some (decide (AsksForSHA1 line)), line) := by
  have hne : line.length ≠ 0 := by
    intro hlength
    rw [List.length_eq_zero_iff.mp hlength] at h
    exact nomatch h
  have hhead : line.head? = some '#' := h
  unfold updateLine
  rw [if_neg hne, if_pos hhead]
  rfl

theorem updateLine_entry (h : IsEntry line) :
    updateLine tree needSHA1 line = match needSHA1 with
      | none => .error .unboundLocalError
      | some false => .ok (some false, line)
      | some true => do return (some true, ← addSHA1 tree (text line)) := by
  have hhead : ¬line.head? = some '#' := h.2
  unfold updateLine
  rw [if_neg h.length_ne_zero, if_neg hhead, dropSHA1_eq]
  rcases needSHA1 with _ | _ | _
  · rfl
  · rfl
  · rfl

/-- **What one step can do** where it completes. -/
theorem updateLine_cases (h : updateLine tree needSHA1 line = .ok (needSHA1', line')) :
    line = [] ∧ needSHA1' = needSHA1 ∧ line' = line
      ∨ IsComment line ∧ needSHA1' = some (decide (AsksForSHA1 line)) ∧ line' = line
      ∨ IsEntry line ∧ needSHA1 = some false ∧ needSHA1' = needSHA1 ∧ line' = line
      ∨ IsEntry line ∧ needSHA1 = some true ∧ needSHA1' = needSHA1
        ∧ addSHA1 tree (text line) = .ok line' := by
  by_cases hnil : line = []
  · subst hnil
    cases h
    exact Or.inl ⟨rfl, rfl, rfl⟩
  · by_cases hcomment : IsComment line
    · rw [updateLine_comment hcomment] at h
      cases h
      exact Or.inr (Or.inl ⟨hcomment, rfl, rfl⟩)
    · have hentry : IsEntry line := ⟨hnil, hcomment⟩
      rw [updateLine_entry hentry] at h
      rcases needSHA1 with _ | _ | _
      · exact nomatch h
      · cases h
        exact Or.inr (Or.inr (Or.inl ⟨hentry, rfl, rfl, rfl⟩))
      · obtain ⟨line'', hadd, hresult⟩ := bind_eq_ok.mp h
        cases hresult
        exact Or.inr (Or.inr (Or.inr ⟨hentry, rfl, rfl, hadd⟩))

/-- **A second step changes nothing.**  The text of the entry is the same, and it is not empty. -/
theorem updateLine_again (h : updateLine tree needSHA1 line = .ok (needSHA1', line')) :
    updateLine tree needSHA1 line' = .ok (needSHA1', line') := by
  rcases updateLine_cases h with ⟨_, _, hline⟩ | ⟨_, _, hline⟩ | ⟨_, _, _, hline⟩
    | ⟨hentry, rfl, rfl, hadd⟩
  · rw [hline] at h ⊢
    exact h
  · rw [hline] at h ⊢
    exact h
  · rw [hline] at h ⊢
    exact h
  · obtain ⟨htext, content, _, hline⟩ := addSHA1_eq_ok hadd
    have hentry' : IsEntry line' := hline ▸ isEntry_append hentry htext
    have htext' : text line' = text line := hline ▸ text_append line _
    rw [updateLine_entry hentry', htext', hadd]
    rfl

/-- `cleanup` leaves the text of an entry. -/
theorem cleanupLine_entry (h : IsEntry line) : cleanupLine line = text line := by
  have hhead : ¬line.head? = some '#' := h.2
  rw [cleanupLine]
  by_cases hmem : '|' ∈ line
  · rw [if_neg, dropSHA1_eq]
    rintro (hlength | hcomment | hnot)
    · exact h.length_ne_zero hlength
    · exact hhead hcomment
    · exact hnot hmem
  · rw [if_pos (Or.inr (Or.inr hmem))]
    exact (takeWhile_of_not_mem hmem).symm

theorem cleanupLine_of_updateLine (h : updateLine tree needSHA1 line = .ok (needSHA1', line')) :
    cleanupLine line' = cleanupLine line := by
  rcases updateLine_cases h with ⟨_, _, rfl⟩ | ⟨_, _, rfl⟩ | ⟨_, _, _, rfl⟩ | ⟨hentry, _, _, hadd⟩
  · rfl
  · rfl
  · rfl
  · obtain ⟨htext, content, _, rfl⟩ := addSHA1_eq_ok hadd
    rw [cleanupLine_entry hentry, cleanupLine_entry (isEntry_append hentry htext), text_append]

/-! ### `needSHA1` -/

/-- The variable after a line. -/
def nextNeedSHA1 (needSHA1 : Option Bool) (line : Line) : Option Bool :=
  if decide (IsComment line) then some (decide (AsksForSHA1 line)) else needSHA1

theorem updateLine_needSHA1 (h : updateLine tree needSHA1 line = .ok (needSHA1', line')) :
    needSHA1' = nextNeedSHA1 needSHA1 line := by
  rw [nextNeedSHA1]
  rcases updateLine_cases h with ⟨rfl, rfl, _⟩ | ⟨hcomment, rfl, _⟩ | ⟨hentry, _, rfl, _⟩
    | ⟨hentry, _, rfl, _⟩
  · rfl
  · rw [if_pos (decide_eq_true hcomment)]
  · rw [if_neg (by rw [decide_eq_true_iff]; exact hentry.2)]
  · rw [if_neg (by rw [decide_eq_true_iff]; exact hentry.2)]

/-- **Before the line `i`** the variable is what the nearest comment above says. -/
theorem needSHA1_eq (lines : List Line) (i : ℕ) :
    (lines.take i).foldl nextNeedSHA1 none
      = (precedingComment lines i).map fun comment => decide (AsksForSHA1 comment) := by
  have hmark := foldl_mark (fun line => decide (IsComment line))
    (fun comment => some (decide (AsksForSHA1 comment))) none (lines.take i)
  rw [precedingComment]
  refine hmark.trans ?_
  rcases (lines.take i).reverse.find? fun line => decide (IsComment line) with _ | comment
  · rfl
  · rfl

/-! ### The passes -/

theorem update_eq_ok : update tree lines = .ok lines'
    ↔ ∃ needSHA1, Pass (updateLine tree) none lines needSHA1 lines' := by
  rw [update]
  constructor
  · intro h
    rcases hpass : lines.mapAccumLM (updateLine tree) none with error | ⟨needSHA1, result⟩
    · rw [hpass] at h
      exact nomatch h
    · rw [hpass] at h
      cases h
      exact ⟨needSHA1, hpass⟩
  · rintro ⟨needSHA1, hpass⟩
    rw [show lines.mapAccumLM (updateLine tree) none = .ok (needSHA1, lines') from hpass]
    rfl

/-- **A line of the result** is what the step makes of the line, with what the nearest comment above
says. -/
theorem update_getElem? {i : ℕ} (h : update tree lines = .ok lines')
    (hline : lines[i]? = some line) :
    ∃ needSHA1' line', lines'[i]? = some line'
      ∧ updateLine tree ((precedingComment lines i).map fun comment => decide (AsksForSHA1 comment))
          line = .ok (needSHA1', line') := by
  obtain ⟨_, hpass⟩ := update_eq_ok.mp h
  rw [← needSHA1_eq]
  exact hpass.getElem? updateLine_needSHA1 hline

theorem update_again (h : update tree lines = .ok lines') : update tree lines' = .ok lines' := by
  obtain ⟨needSHA1, hpass⟩ := update_eq_ok.mp h
  exact update_eq_ok.mpr ⟨needSHA1, hpass.again updateLine_again⟩

theorem cleanup_update (h : update tree lines = .ok lines') : cleanup lines' = cleanup lines := by
  obtain ⟨_, hpass⟩ := update_eq_ok.mp h
  exact hpass.map_eq cleanupLine_of_updateLine

theorem length_update (h : update tree lines = .ok lines') : lines'.length = lines.length := by
  obtain ⟨_, hpass⟩ := update_eq_ok.mp h
  exact hpass.length_eq

/-- The line `i` is not one whose hash `update` sets: it is blank, a comment, or an entry whose
nearest comment above does not ask for it. -/
def IsKept (lines : List Line) (i : ℕ) (line : Line) : Prop :=
  line = [] ∨ IsComment line
    ∨ ∃ comment, precedingComment lines i = some comment ∧ ¬AsksForSHA1 comment

theorem update_kept {i : ℕ} (h : update tree lines = .ok lines') (hline : lines[i]? = some line)
    (hkept : IsKept lines i line) : lines'[i]? = some line := by
  obtain ⟨needSHA1', line', hline', hstep⟩ := update_getElem? h hline
  rw [hline']
  rcases updateLine_cases hstep with ⟨_, _, rfl⟩ | ⟨_, _, rfl⟩ | ⟨_, _, _, rfl⟩
    | ⟨hentry, hasks, _, _⟩
  · rfl
  · rfl
  · rfl
  · rcases hkept with hnil | hcomment | ⟨comment, hcomment, hnot⟩
    · exact absurd hnil hentry.1
    · exact absurd hcomment hentry.2
    · rw [hcomment, Option.map_some, Option.some_inj, decide_eq_true_iff] at hasks
      exact absurd hasks hnot

theorem update_hashed {i : ℕ} (h : update tree lines = .ok lines') (hline : lines[i]? = some line)
    (hkept : ¬IsKept lines i line) :
    ∃ content, tree (join vendorPath (destination line)) = some content
      ∧ lines'[i]? = some (text line ++ '|' :: (sha1 content).hexdigest) := by
  obtain ⟨needSHA1', line', hline', hstep⟩ := update_getElem? h hline
  rcases updateLine_cases hstep with ⟨hnil, _, _⟩ | ⟨hcomment, _, _⟩ | ⟨_, hasks, _, _⟩
    | ⟨_, _, _, hadd⟩
  · exact absurd (Or.inl hnil) hkept
  · exact absurd (Or.inr (Or.inl hcomment)) hkept
  · obtain ⟨comment, hcomment, hfalse⟩ := Option.map_eq_some_iff.mp hasks
    have hnot : ¬AsksForSHA1 comment := of_decide_eq_false hfalse
    exact absurd (Or.inr (Or.inr ⟨comment, hcomment, hnot⟩)) hkept
  · obtain ⟨_, content, hcontent, hresult⟩ := addSHA1_eq_ok hadd
    exact ⟨content, hcontent, hresult ▸ hline'⟩

/-- **A line that `update` hashed** has two fields, and the second is 40 hexadecimal digits. -/
theorem fields_of_update_hashed {i : ℕ} (h : update tree lines = .ok lines')
    (hline : lines[i]? = some line) (hkept : ¬IsKept lines i line) :
    ∃ line' hash, lines'[i]? = some line' ∧ line'.splitOn '|' = [text line, hash]
      ∧ hash.length = 40 ∧ ∀ c ∈ hash, Numeral.isDigit 16 c = true := by
  obtain ⟨content, _, hline'⟩ := update_hashed h hline hkept
  have hdigit : ∀ c ∈ (sha1 content).hexdigest, Numeral.isDigit 16 c = true :=
    fun c => Digest.isDigit_of_mem_hexdigest
  have hnot : '|' ∉ (sha1 content).hexdigest := by
    intro hmem
    have hbar : Numeral.isDigit 16 '|' = true := hdigit '|' hmem
    exact absurd hbar (by decide)
  refine ⟨_, (sha1 content).hexdigest, hline', ?_, Digest.length_hexdigest _, hdigit⟩
  rw [List.splitOn_append_cons_self_of_not_mem (not_mem_text line),
    List.splitOn_eq_singleton hnot]

/-! ### The laws of `update` -/

/-- **The laws of `update`**, where it completes.  A second `update` changes nothing, `cleanup`
gives what it gives without the `update`, and the lines keep their number and order.  A blank line,
a comment and an entry whose nearest comment above does not contain ` - ` stay as they are, and
every other entry becomes its text, a `|`, and the SHA-1 of its destination file. -/
theorem update_laws (h : update tree lines = .ok lines') :
    update tree lines' = .ok lines' ∧ cleanup lines' = cleanup lines
      ∧ lines'.length = lines.length
      ∧ (∀ i line, lines[i]? = some line → IsKept lines i line → lines'[i]? = some line)
      ∧ ∀ i line, lines[i]? = some line → ¬IsKept lines i line →
        ∃ content, tree (join vendorPath (destination line)) = some content
          ∧ lines'[i]? = some (text line ++ '|' :: (sha1 content).hexdigest) := by
  refine ⟨update_again h, cleanup_update h, length_update h, ?_, ?_⟩
  · intro i line hline hkept
    exact update_kept h hline hkept
  · intro i line hline hkept
    exact update_hashed h hline hkept

/-! #### A manifest with two sections -/

def sampleTree : FileTree := fun path =>
  if path = "../../../vendor/oneplus/oneplus9/proprietary/lib/b.so".toList then
    some [0x61, 0x62, 0x63]
  else none

def sampleLines : List Line :=
  ["# Audio - from OOS".toList, "-vendor/lib/a.so:lib/b.so;SYMLINK|0123".toList, [],
    "# Camera".toList, "etc/c.xml|4567".toList]

def sampleResult : List Line :=
  ["# Audio - from OOS".toList,
    "-vendor/lib/a.so:lib/b.so;SYMLINK|a9993e364706816aba3e25717850c26c9cd0d89d".toList, [],
    "# Camera".toList, "etc/c.xml|4567".toList]

theorem update_laws_sample :
    update sampleTree sampleLines = .ok sampleResult
      ∧ update sampleTree sampleResult = .ok sampleResult
      ∧ cleanup sampleResult = cleanup sampleLines := by
  have hupdate : update sampleTree sampleLines = .ok sampleResult := by decide +kernel
  exact ⟨hupdate, (update_laws hupdate).1, (update_laws hupdate).2.1⟩

end OnePlus9.UpdateSha1sums
