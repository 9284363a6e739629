import OnePlus9.Extract.ExtractFiles

/-!
# The changes that `blob_fixup` makes

A blob that was fixed up may be fixed up again, when the script takes the blobs from an earlier
extraction.  Deleting lines, replacing all matches and adding a line that is missing are done once
and for all.  A replacement of the first match of each line goes on to the next match, so that the
two texts that are fixed up so stay as they are if and only if no match is left
(`blobFixup_again_iff`).

The paths in the audio library become shorter, and are filled up with zeros: `redirect` keeps the
size of the file, and every byte outside of the paths (`redirect_keeps`).
-/

namespace OnePlus9.ExtractFiles

open Substitution Lines

variable {address pattern : Pattern UInt8} {new blob : Blob} {tools : Tools} {name : String}

/-! ### Addressed lines -/

/-- An editor of the addressed lines that takes its characters from the line and a replacement. -/
theorem keepsLines_addressed {edit : Blob → Blob} (hplain : new.any isNewline = false)
    (hmem : ∀ line c, c ∈ edit line → c ∈ new ∨ c ∈ line)
    (hnonempty : ∀ line, line ≠ [] → edit line ≠ []) :
    KeepsLines isNewline fun line => some (if occurs address line then edit line else line) where
  plain := by
    intro line line' hedit hline c hc
    obtain rfl := Option.some.inj hedit
    split_ifs at hc
    · rcases hmem line c hc with hc | hc
      · exact Bool.eq_false_iff.mpr (List.any_eq_false.mp hplain c hc)
      · exact hline c hc
    · exact hline c hc
  nonempty := by
    intro line line' hedit hline
    obtain rfl := Option.some.inj hedit
    split_ifs
    · exact hnonempty line hline
    · exact hline

/-! ### The first match of each line -/

/-- **A second replacement of first matches** changes nothing if and only if no addressed line has
a match left. -/
theorem sedFirst_again_iff (hplain : new.any isNewline = false) (hnonempty : new ≠ [])
    (hpattern : pattern ≠ []) (hnew : begins pattern new = false) :
    sedFirst address pattern new (sedFirst address pattern new blob)
        = sedFirst address pattern new blob
      ↔ ∀ line ∈ splitLines isNewline (sedFirst address pattern new blob),
        occurs address line = true → occurs pattern line = false := by
  have hkeeps : KeepsLines isNewline fun line =>
      some (if occurs address line then substFirst pattern new line else line) :=
    keepsLines_addressed hplain (fun _ _ hc => mem_substFirst hc) fun _ =>
      substFirst_ne_nil hnonempty
  rw [sedFirst, editLines_again_iff hkeeps]
  refine forall₂_congr fun line _ => ?_
  rw [Option.some_inj]
  split_ifs with haddress
  · rw [substFirst_eq_self_iff hpattern hnew]
    exact ⟨fun h _ => h, fun h => h haddress⟩
  · exact ⟨fun _ h => absurd h haddress, fun _ => rfl⟩

/-! ### All matches, and deleted lines -/

/-- **All matches** are replaced once and for all, if no match can begin in a replacement or run
into one. -/
theorem sedAll_again {p : UInt8 → Bool} {x : UInt8} {rest : Blob}
    (hplain : (x :: rest).any isNewline = false) (hbegin : (x :: rest).any p = false)
    (hrun : (pattern.any fun q => q x) = false) (address : Pattern UInt8) (blob : Blob) :
    sedAll address (p :: pattern) (x :: rest) (sedAll address (p :: pattern) (x :: rest) blob)
      = sedAll address (p :: pattern) (x :: rest) blob := by
  have hkeeps : KeepsLines isNewline fun line =>
      some (if occurs address line then substAll (p :: pattern) (x :: rest) 0 line else line) :=
    keepsLines_addressed hplain (fun _ _ hc => mem_substAll hc) fun _ =>
      substAll_ne_nil (List.cons_ne_nil x rest)
  rw [sedAll, editLines_again_iff hkeeps]
  intro line hline
  obtain ⟨line', -, hedit⟩ := exists_of_mem_editLines hkeeps hline
  rw [← Option.some.inj hedit]
  by_cases haddress : occurs address line' = true
  · have hnone := occurs_substAll hbegin hrun 0 line'
    rw [if_pos haddress, substAll_of_not_occurs hnone, ite_self]
  · rw [if_neg haddress, if_neg haddress]

/-- **Deleted lines** are gone. -/
theorem sedDelete_again (addresses : List (Pattern UInt8)) (blob : Blob) :
    sedDelete addresses (sedDelete addresses blob) = sedDelete addresses blob := by
  have hkeeps : KeepsLines isNewline fun line =>
      if addresses.any fun address => occurs address line then none else some line := by
    constructor
    all_goals
      intro line line' hedit h
      split_ifs at hedit
      rw [← Option.some.inj hedit]
      exact h
  rw [sedDelete, editLines_again_iff hkeeps]
  intro line hline
  obtain ⟨line', -, hedit⟩ := exists_of_mem_editLines hkeeps hline
  split_ifs at hedit with hany
  rw [← Option.some.inj hedit, if_neg hany]

/-- **The added line** is there. -/
theorem gettid_gettid (blob : Blob) : gettid (gettid blob) = gettid blob := by
  rw [gettid]
  apply if_pos
  rw [gettid]
  split_ifs with hgrep
  · exact hgrep
  · apply (occurs_iff _ _).mpr
    refine ⟨blob.length, ?_, ?_⟩
    · rw [List.length_append]
      exact Nat.le_add_right _ _
    · rw [List.drop_left]
      decide

/-! ### The texts -/

/-- The blobs that are fixed up with `sed` and `grep` alone. -/
def textBlobs : List String :=
  ["odm/etc/camera/CameraHWConfiguration.config",
    "odm/overlay/prj_11/odm/etc/camera/CameraHWConfiguration.config",
    "product/etc/sysconfig/com.android.hotwordenrollment.common.util.xml",
    "vendor/etc/media_codecs.xml", "vendor/etc/media_codecs_lahaina.xml",
    "vendor/etc/media_codecs_lahaina_vendor.xml",
    "vendor/etc/media_lahaina/video_system_specs.json",
    "vendor/etc/seccomp_policy/atfwd@2.0.policy"]

/-- No line has a first match left to replace. -/
structure LeavesNothing (name : String) (fixed : Blob) : Prop where
  myProduct : name = "product/etc/sysconfig/com.android.hotwordenrollment.common.util.xml" →
    ∀ line ∈ splitLines isNewline fixed, occurs (regex "my_product") line = false
  maxRetry : name = "vendor/etc/media_lahaina/video_system_specs.json" →
    ∀ line ∈ splitLines isNewline fixed,
      occurs (regex "max_retry_alloc_output_timeout") line = true →
        occurs (regex "1000") line = false

theorem systemCamera_systemCamera (blob : Blob) :
    systemCamera (systemCamera blob) = systemCamera blob :=
  sedAll_again (by decide) (by decide) (by decide) _ blob

theorem mediaCodecs_mediaCodecs (blob : Blob) :
    mediaCodecs (mediaCodecs blob) = mediaCodecs blob := sedDelete_again _ blob

theorem myProduct_myProduct_iff (blob : Blob) :
    myProduct (myProduct blob) = myProduct blob
      ↔ ∀ line ∈ splitLines isNewline (myProduct blob),
        occurs (regex "my_product") line = false := by
  have hagain : myProduct (myProduct blob) = myProduct blob ↔ _ :=
    sedFirst_again_iff (by decide) (by decide) (by decide) (by decide)
  rw [hagain]
  refine forall₂_congr fun line _ => ⟨fun h => h ?_, fun h _ => h⟩
  cases line <;> rfl

theorem maxRetry_maxRetry_iff (blob : Blob) :
    maxRetry (maxRetry blob) = maxRetry blob
      ↔ ∀ line ∈ splitLines isNewline (maxRetry blob),
        occurs (regex "max_retry_alloc_output_timeout") line = true →
          occurs (regex "1000") line = false :=
  sedFirst_again_iff (by decide) (by decide) (by decide) (by decide)

theorem blobFixup_of_fixup {fix : Blob → Blob} (h : fixup tools name = some fix) (blob : Blob) :
    blobFixup tools name (some blob) = (0, some (fix blob)) := by
  rw [blobFixup, h]
  rfl

/-- The other texts have nothing to leave. -/
theorem leavesNothing_of_ne
    (hproduct : name ≠ "product/etc/sysconfig/com.android.hotwordenrollment.common.util.xml")
    (hspecs : name ≠ "vendor/etc/media_lahaina/video_system_specs.json") (fixed : Blob) :
    LeavesNothing name fixed where
  myProduct h := absurd h hproduct
  maxRetry h := absurd h hspecs

/-- **A text that was fixed up** is left as it is by another fix-up, if and only if no line of the
two that lose a first match has one left. -/
theorem blobFixup_again_iff (tools : Tools) (hname : name ∈ textBlobs) (blob : Blob) :
    ∃ fixed, blobFixup tools name (some blob) = (0, some fixed)
      ∧ (blobFixup tools name (some fixed) = (0, some fixed) ↔ LeavesNothing name fixed) := by
  -- It is enough to look at the branch.
  have hbranch (fix : Blob → Blob) (hfix : fixup tools name = some fix)
      (hagain : fix (fix blob) = fix blob ↔ LeavesNothing name (fix blob)) :
      ∃ fixed, blobFixup tools name (some blob) = (0, some fixed)
        ∧ (blobFixup tools name (some fixed) = (0, some fixed) ↔ LeavesNothing name fixed) := by
    refine ⟨fix blob, blobFixup_of_fixup hfix blob, ?_⟩
    rw [blobFixup_of_fixup hfix, ← hagain, Prod.mk.injEq, Option.some_inj, eq_self, true_and]
  have hdone (fix : Blob → Blob) (hfix : fixup tools name = some fix)
      (hagain : fix (fix blob) = fix blob)
      (hproduct : name ≠ "product/etc/sysconfig/com.android.hotwordenrollment.common.util.xml")
      (hspecs : name ≠ "vendor/etc/media_lahaina/video_system_specs.json") :
      ∃ fixed, blobFixup tools name (some blob) = (0, some fixed)
        ∧ (blobFixup tools name (some fixed) = (0, some fixed) ↔ LeavesNothing name fixed) :=
    hbranch fix hfix ⟨fun _ => leavesNothing_of_ne hproduct hspecs _, fun _ => hagain⟩
  simp only [textBlobs, List.mem_cons, List.not_mem_nil, or_false] at hname
  rcases hname with rfl | rfl | rfl | rfl | rfl | rfl | rfl | rfl
  · exact hdone _ rfl (systemCamera_systemCamera blob) (by decide) (by decide)
  · exact hdone _ rfl (systemCamera_systemCamera blob) (by decide) (by decide)
  · refine hbranch _ rfl ((myProduct_myProduct_iff blob).trans ⟨fun h => ⟨fun _ => h, ?_⟩, ?_⟩)
    · exact fun h => absurd h (by decide)
    · exact fun h => h.myProduct rfl
  · exact hdone _ rfl (mediaCodecs_mediaCodecs blob) (by decide) (by decide)
  · exact hdone _ rfl (mediaCodecs_mediaCodecs blob) (by decide) (by decide)
  · exact hdone _ rfl (mediaCodecs_mediaCodecs blob) (by decide) (by decide)
  · refine hbranch _ rfl ((maxRetry_maxRetry_iff blob).trans ⟨fun h => ⟨?_, fun _ => h⟩, ?_⟩)
    · exact fun h => absurd h (by decide)
    · exact fun h => h.maxRetry rfl
  · exact hdone _ rfl (gettid_gettid blob) (by decide) (by decide)

/-- A line with two matches is fixed up twice. -/
example : myProduct (bytes "my_product my_product") = bytes "product my_product"
    ∧ myProduct (bytes "product my_product") = bytes "product product" := by decide

/-- Tools that leave shared objects alone. -/
def idleTools : Tools where
  replaceNeeded _ _ blob := blob
  addNeeded _ blob := blob
  sigscan _ _ blob := blob

/-- A table of codecs that is left out stays out. -/
theorem blobFixup_again_mediaCodecs :
    ∃ fixed, blobFixup idleTools "vendor/etc/media_codecs.xml"
        (some (bytes "media_codecs_google_c2\nmedia_codecs_c2\n")) = (0, some fixed)
      ∧ blobFixup idleTools "vendor/etc/media_codecs.xml" (some fixed) = (0, some fixed) := by
  obtain ⟨fixed, hfirst, hagain⟩ := blobFixup_again_iff idleTools
    (by decide : "vendor/etc/media_codecs.xml" ∈ textBlobs)
    (bytes "media_codecs_google_c2\nmedia_codecs_c2\n")
  exact ⟨fixed, hfirst, hagain.mpr (leavesNothing_of_ne (by decide) (by decide) fixed)⟩

/-! ### The audio library -/

/-- The new path takes the place of the old one. -/
theorem length_vendorPath (library : LibraryName) :
    (bytes "/odm/lib/" ++ bytes library.name ++ bytes ".so" ++ [0, 0, 0]).length
      = (vendorPath library).length := by
  have hodm : (bytes "/odm/lib/").length = 9 := by decide
  have hso : (bytes ".so").length = 3 := by decide
  have hvendor : (bytes "/vendor/lib/").length = 12 := by decide
  have hend : (bytes "so").length = 2 := by decide
  simp only [vendorPath, regex, literal, dot, List.length_append, List.length_map,
    List.length_cons, List.length_nil, hodm, hso, hvendor, hend]
  omega

/-- **A redirected library** keeps its size, and every byte of it that is in no match of the old
path keeps its place and its value. -/
theorem redirect_keeps (library : LibraryName) (blob : Blob) :
    (redirect library blob).length = blob.length
      ∧ ∀ i, (∀ j ≤ i, i < j + (vendorPath library).length →
          begins (vendorPath library) (blob.drop j) = false) →
        (redirect library blob)[i]? = blob[i]? := by
  have hlength (line : Blob) :
      (if occurs [] line then substFirst (vendorPath library)
          (bytes "/odm/lib/" ++ bytes library.name ++ bytes ".so" ++ [0, 0, 0]) line
        else line).length = line.length := by
    split_ifs
    · exact length_substFirst (length_vendorPath library)
    · rfl
  refine ⟨length_editLines hlength blob, fun i hi => ?_⟩
  apply getElem?_editLines hlength
  rintro before line after k htext rfl hk
  split_ifs
  · apply getElem?_substFirst (length_vendorPath library)
    intro j hj hlt
    -- A match in the line would be one in the file.
    have hfile := hi (before.length + j) (by omega) (by omega)
    have hdrop : blob.drop (before.length + j) = line.drop j ++ after := by
      rw [htext, ← List.drop_drop, List.drop_left, List.drop_append_of_le_length (by omega)]
    rw [hdrop, Bool.eq_false_iff] at hfile
    exact Bool.eq_false_iff.mpr fun hline => hfile (begins_append hline after)
  · rfl

end OnePlus9.ExtractFiles
