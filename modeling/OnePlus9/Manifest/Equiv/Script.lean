import OnePlus9.Manifest.Equiv.UpdateSha1sums

/-!
# The manifest as a file

The script reads the manifest into a list of lines, changes the list, and writes it back.  What it
has written it reads back as the same lines (`readLines_writeLines`), with one exception: an empty
file becomes a file with one blank line.  So the laws of `update` and `cleanup` are laws of the file
(`script_laws`).
-/

namespace OnePlus9.UpdateSha1sums

open Lines Sha1

variable {tree : FileTree} {line line' : Line} {lines lines' : List Line} {file file' : List Char}

/-! ### Reading what was written -/

/-- A line that can be written and read back. -/
def OneLine (line : Line) : Prop := ∀ c ∈ line, isLineBoundary c = false

/-- The lines that are read back: there is at least one. -/
def atLeastOne (lines : List Line) : List Line := if lines = [] then [[]] else lines

theorem oneLine_of_mem_readLines (h : line ∈ readLines file) : OneLine line :=
  isEnd_of_mem_splitLines (universalNewlines file) line h

/-- A text without carriage returns stays as it is. -/
theorem universalNewlines_of_not_mem (h : '\r' ∉ file) : universalNewlines file = file := by
  induction file using universalNewlines.induct with
  | case1 => rfl
  | case2 file ih => exact absurd List.mem_cons_self h
  | case3 file _ ih => exact absurd List.mem_cons_self h
  | case4 c file hcr _ ih =>
    rw [universalNewlines, ih fun hmem => h (List.mem_cons_of_mem _ hmem)]
    · exact hcr
    · intro hc
      exact absurd (hc ▸ List.mem_cons_self) h

theorem writeLines_eq (hne : lines ≠ []) :
    writeLines lines = lines.flatMap fun line => line ++ ['\n'] := by
  rw [writeLines]
  induction lines with
  | nil => exact absurd rfl hne
  | cons line lines ih =>
    cases lines with
    | nil => simp
    | cons line' lines =>
      have hrest := ih (List.cons_ne_nil _ _)
      rw [List.flatMap_cons, ← hrest, List.intercalate_cons_cons, List.append_assoc,
        List.append_assoc]

theorem writeLines_atLeastOne (lines : List Line) :
    writeLines (atLeastOne lines) = writeLines lines := by
  rw [atLeastOne]
  split_ifs with hnil
  · rw [hnil]
    rfl
  · rfl

/-- **Lines that were written** are read back. -/
theorem readLines_writeLines (h : ∀ line ∈ lines, OneLine line) :
    readLines (writeLines lines) = atLeastOne lines := by
  by_cases hnil : lines = []
  · rw [hnil]
    rfl
  · have hboundary : isLineBoundary '\n' = true := by decide
    have hreturn : '\r' ∉ lines.flatMap fun line => line ++ ['\n'] := by
      intro hmem
      obtain ⟨line, hline, hc⟩ := List.mem_flatMap.mp hmem
      rcases List.mem_append.mp hc with hin | hlast
      · exact absurd (h line hline '\r' hin) (by decide)
      · exact absurd (List.mem_singleton.mp hlast) (by decide)
    rw [readLines, writeLines_eq hnil, universalNewlines_of_not_mem hreturn,
      splitLines_flatMap hboundary h, atLeastOne, if_neg hnil]

/-! ### What is written -/

theorem OneLine.text (h : OneLine line) : OneLine (text line) :=
  fun c hc => h c ((List.takeWhile_subset _) hc)

theorem oneLine_cleanupLine (h : OneLine line) : OneLine (cleanupLine line) := by
  rw [cleanupLine]
  split_ifs
  · exact h
  · rw [dropSHA1_eq]
    exact h.text

/-- No hexadecimal digit ends a line. -/
theorem not_isLineBoundary_of_isDigit {c : Char} (h : Numeral.isDigit 16 c = true) :
    isLineBoundary c = false := by
  by_contra hc
  rw [Bool.not_eq_false, isLineBoundary, decide_eq_true_iff] at hc
  have hnone : ['\n', '\r', '\x0b', '\x0c', '\x1c', '\x1d', '\x1e', '\u0085', '\u2028',
      '\u2029'].any (Numeral.isDigit 16) = false := by decide
  exact List.any_eq_false.mp hnone c hc h

theorem oneLine_of_update (h : update tree lines = .ok lines')
    (hlines : ∀ line ∈ lines, OneLine line) : ∀ line' ∈ lines', OneLine line' := by
  intro line' hline'
  obtain ⟨i, hi⟩ := List.getElem?_of_mem hline'
  have hlt : i < lines.length := by
    rw [← length_update h]
    exact (List.getElem?_eq_some_iff.mp hi).1
  have hone : OneLine lines[i] := hlines _ (List.getElem_mem hlt)
  obtain ⟨needSHA1', line'', hline'', hstep⟩ := update_getElem? h (List.getElem?_eq_getElem hlt)
  obtain rfl : line' = line'' := Option.some.inj (hi.symm.trans hline'')
  rcases updateLine_cases hstep with ⟨_, _, hsame⟩ | ⟨_, _, hsame⟩ | ⟨_, _, _, hsame⟩
    | ⟨_, _, _, hadd⟩
  · rw [hsame]
    exact hone
  · rw [hsame]
    exact hone
  · rw [hsame]
    exact hone
  · obtain ⟨-, content, -, hresult⟩ := addSHA1_eq_ok hadd
    rw [hresult]
    intro c hc
    rcases List.mem_append.mp hc with htext | hhash
    · exact hone.text c htext
    · rcases List.mem_cons.mp hhash with rfl | hdigit
      · decide
      · exact not_isLineBoundary_of_isDigit (Digest.isDigit_of_mem_hexdigest hdigit)

theorem oneLine_of_cleanup (hlines : ∀ line ∈ lines, OneLine line) :
    ∀ line' ∈ cleanup lines, OneLine line' := by
  intro line' hline'
  obtain ⟨line, hline, rfl⟩ := List.mem_map.mp hline'
  exact oneLine_cleanupLine (hlines line hline)

/-! ### One more blank line -/

theorem update_atLeastOne (h : update tree lines = .ok lines') :
    update tree (atLeastOne lines) = .ok (atLeastOne lines') := by
  have hlength := length_update h
  rw [atLeastOne, atLeastOne]
  by_cases hnil : lines = []
  · rw [if_pos hnil, if_pos (List.length_eq_zero_iff.mp (by rw [hlength, hnil]; rfl))]
    rfl
  · rw [if_neg hnil, if_neg fun hnil' => hnil (List.length_eq_zero_iff.mp (by
      rw [← hlength, hnil']; rfl))]
    exact h

theorem cleanup_atLeastOne (lines : List Line) :
    cleanup (atLeastOne lines) = atLeastOne (cleanup lines) := by
  by_cases hnil : lines = []
  · rw [hnil]
    rfl
  · have hne : cleanup lines ≠ [] := fun h => hnil (List.map_eq_nil_iff.mp h)
    rw [atLeastOne, if_neg hnil, atLeastOne, if_neg hne]

theorem cleanupLine_cleanupLine (line : Line) :
    cleanupLine (cleanupLine line) = cleanupLine line := by
  by_cases hentry : IsEntry line
  · rw [cleanupLine_entry hentry, cleanupLine, if_pos (Or.inr (Or.inr (not_mem_text line)))]
  · have hsame : cleanupLine line = line := by
      rw [cleanupLine, if_pos]
      by_cases hnil : line = []
      · exact Or.inl (List.length_eq_zero_iff.mpr hnil)
      · refine Or.inr (Or.inl ?_)
        by_contra hcomment
        exact hentry ⟨hnil, hcomment⟩
    rw [hsame, hsame]

theorem cleanup_cleanup (lines : List Line) : cleanup (cleanup lines) = cleanup lines := by
  rw [cleanup, cleanup, List.map_map]
  exact List.map_congr_left fun line _ => cleanupLine_cleanupLine line

/-! ### The script -/

theorem script_cleanup (tree : FileTree) (name : Line) (file : List Char) :
    script tree [name, "-c".toList] file = .ok (writeLines (cleanup (readLines file))) := by
  unfold script
  exact if_pos ⟨rfl, rfl⟩

theorem script_update (tree : FileTree) (name : Line) (file : List Char) :
    script tree [name] file = writeLines <$> update tree (readLines file) := by
  unfold script
  exact if_neg fun h => absurd (show 1 = 2 from h.1) (by decide)

theorem readLines_cleanup (file : List Char) :
    readLines (writeLines (cleanup (readLines file))) = atLeastOne (cleanup (readLines file)) :=
  readLines_writeLines (oneLine_of_cleanup fun _ => oneLine_of_mem_readLines)

/-- **The laws of the script**, where it completes: a second run leaves the file as the first one
did, and `-c` after it what `-c` alone leaves.  A second `-c` changes nothing either.  The lines
that were written are read back, but for an empty list of them, which is written as a blank line. -/
theorem script_laws (name : Line) (h : script tree [name] file = .ok file') :
    script tree [name] file' = .ok file'
      ∧ script tree [name, "-c".toList] file' = script tree [name, "-c".toList] file
      ∧ (∃ clean, script tree [name, "-c".toList] file = .ok clean
        ∧ script tree [name, "-c".toList] clean = .ok clean
        ∧ readLines clean = atLeastOne (cleanup (readLines file)))
      ∧ ∃ lines', update tree (readLines file) = .ok lines' ∧ file' = writeLines lines'
        ∧ readLines file' = atLeastOne lines' := by
  rw [script_update] at h
  rcases hupdate : update tree (readLines file) with error | lines'
  · rw [hupdate] at h
    exact absurd h (by rintro ⟨⟩)
  · rw [hupdate] at h
    obtain rfl : writeLines lines' = file' := Except.ok.inj h
    have hread : readLines (writeLines lines') = atLeastOne lines' :=
      readLines_writeLines (oneLine_of_update hupdate fun _ => oneLine_of_mem_readLines)
    refine ⟨?_, ?_, ⟨writeLines (cleanup (readLines file)), script_cleanup tree name file, ?_,
      readLines_cleanup file⟩, lines', rfl, rfl, hread⟩
    · rw [script_update, hread, update_atLeastOne (update_again hupdate)]
      exact congrArg Except.ok (writeLines_atLeastOne lines')
    · rw [script_cleanup, script_cleanup, hread, cleanup_atLeastOne, cleanup_update hupdate,
        writeLines_atLeastOne]
    · rw [script_cleanup, readLines_cleanup, cleanup_atLeastOne, cleanup_cleanup,
        writeLines_atLeastOne]

/-- A manifest that was written on another system. -/
theorem script_laws_sample :
    ∃ file' lines', script sampleTree ["update-sha1sums.py".toList]
        "# Audio - from OOS\r\n-vendor/lib/a.so:lib/b.so;SYMLINK|0123".toList = .ok file'
      ∧ script sampleTree ["update-sha1sums.py".toList] file' = .ok file'
      ∧ file' = writeLines lines' ∧ readLines file' = atLeastOne lines' := by
  have hscript : script sampleTree ["update-sha1sums.py".toList]
      "# Audio - from OOS\r\n-vendor/lib/a.so:lib/b.so;SYMLINK|0123".toList
        = .ok ("# Audio - from OOS\n-vendor/lib/a.so:lib/b.so;SYMLINK|".toList
          ++ "a9993e364706816aba3e25717850c26c9cd0d89d\n".toList) := by decide +kernel
  obtain ⟨hagain, -, -, lines', -, hwritten, hread⟩ := script_laws _ hscript
  exact ⟨_, lines', hscript, hagain, hwritten, hread⟩

end OnePlus9.UpdateSha1sums
