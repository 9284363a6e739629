import OnePlus9.Extract.ExtractFiles

/-!
# The arguments of `extract-files.sh`

`Argument` is the grammar of the arguments, and `words` how each is written.  A list of words comes
from at most one list of arguments (`words_injective`), and reading it gives each variable what the
arguments say together, whatever their order (`meaning`).  The only words that are not read are
those that end in an `-s` without a name (`shellVariables_spec`).
-/

namespace OnePlus9.ExtractFiles

/-- The words that are no source. -/
def optionWords : List String := ["-n", "--no-cleanup", "-k", "--kang", "-s", "--section"]

/-- An argument, with the word that it begins with where there are two. -/
inductive Argument where
  | noCleanup (short : Bool)
  | kang (short : Bool)
  | sectionName (short : Bool) (name : String)
  | source (path : String) (h : path ∉ optionWords)
  deriving DecidableEq

namespace Argument

/-- The words of an argument. -/
@[simp] def words : Argument → List String
  | noCleanup short => [if short then "-n" else "--no-cleanup"]
  | kang short => [if short then "-k" else "--kang"]
  | sectionName short name => [if short then "-s" else "--section", name]
  | source path _ => [path]

/-- Whether the vendor folder stays as it is. -/
@[simp] def keepsVendor : Argument → Bool
  | noCleanup _ | sectionName .. => true
  | _ => false

@[simp] def isKang : Argument → Bool
  | kang _ => true
  | _ => false

@[simp] def sectionName? : Argument → Option String
  | sectionName _ name => some name
  | _ => none

@[simp] def source? : Argument → Option String
  | source path _ => some path
  | _ => none

end Argument

/-- What the arguments say together. -/
def meaning (v : Variables) (arguments : List Argument) : Variables where
  CLEAN_VENDOR := v.CLEAN_VENDOR && !arguments.any Argument.keepsVendor
  KANG := if arguments.any Argument.isKang then "--kang" else v.KANG
  SECTION := (arguments.filterMap Argument.sectionName?).getLast?.getD v.SECTION
  SRC := (arguments.filterMap Argument.source?).getLast?.getD v.SRC

variable {v : Variables} {args : List String} {arguments : List Argument}

/-! ### Reading what is written -/

/-- The first argument sets its variables, and the others may set them again. -/
theorem meaning_cons (v : Variables) (argument : Argument) (arguments : List Argument) :
    meaning v (argument :: arguments) = meaning (meaning v [argument]) arguments := by
  have hlast (xs : List String) (x d : String) :
      (x :: xs).getLast?.getD d = xs.getLast?.getD x := by
    rw [List.getLast?_cons, Option.getD_some]
  cases argument with
  | noCleanup short => simp [meaning]
  | kang short => simp [meaning]
  | sectionName short name => simp [meaning, hlast]
  | source path h => simp [meaning, hlast]

/-- The loop takes the words of one argument. -/
theorem readArguments_append (v : Variables) (argument : Argument) (args : List String) :
    readArguments v (argument.words ++ args) = readArguments (meaning v [argument]) args := by
  rw [readArguments.eq_def]
  cases argument with
  | noCleanup short => cases short <;> simp [meaning]
  | kang short => cases short <;> simp [meaning]
  | sectionName short name => cases short <;> simp [meaning]
  | source path h =>
    simp only [optionWords, List.mem_cons, List.not_mem_nil, or_false, not_or] at h
    simp [meaning, h]

/-- **Written arguments** are read. -/
theorem readArguments_words (v : Variables) (arguments : List Argument) (args : List String) :
    readArguments v (arguments.flatMap Argument.words ++ args)
      = readArguments (meaning v arguments) args := by
  induction arguments generalizing v with
  | nil => simp [meaning]
  | cons argument arguments ih =>
    rw [List.flatMap_cons, List.append_assoc, readArguments_append, ih, ← meaning_cons]

/-! ### Every list of words -/

/-- The last word asks for a section and has no name. -/
def Dangling (args : List String) : Prop :=
  ∃ arguments word, word ∈ ["-s", "--section"]
    ∧ args = (arguments : List Argument).flatMap Argument.words ++ [word]

/-- One word that begins an argument without another word. -/
theorem exists_argument {word : String} (h : word ∉ ["-s", "--section"]) :
    ∃ argument : Argument, argument.words = [word] := by
  by_cases hoption : word ∈ optionWords
  · simp only [optionWords, List.mem_cons, List.not_mem_nil, or_false, not_or] at hoption h
    rcases hoption with rfl | rfl | rfl | rfl | rfl | rfl
    · exact ⟨.noCleanup true, rfl⟩
    · exact ⟨.noCleanup false, rfl⟩
    · exact ⟨.kang true, rfl⟩
    · exact ⟨.kang false, rfl⟩
    · exact absurd rfl h.1
    · exact absurd rfl h.2
  · exact ⟨.source word hoption, rfl⟩

/-- **Every list of words** is that of some arguments, unless its end is dangling. -/
theorem exists_arguments (args : List String) :
    (∃ arguments : List Argument, args = arguments.flatMap Argument.words) ∨ Dangling args := by
  induction hlength : args.length using Nat.strong_induction_on generalizing args with
  | _ n ih =>
    -- What is left after the first argument is shorter.
    have hrest (argument : Argument) (hne : 0 < argument.words.length) (rest : List String)
        (hargs : args = argument.words ++ rest) :
        (∃ arguments : List Argument, args = arguments.flatMap Argument.words)
          ∨ Dangling args := by
      have hshorter : rest.length < n := by
        rw [← hlength, hargs, List.length_append]
        omega
      rcases ih rest.length hshorter rest rfl with ⟨arguments, rfl⟩ | ⟨arguments, word, hword, rfl⟩
      · exact Or.inl ⟨argument :: arguments, by rw [hargs, List.flatMap_cons]⟩
      · refine Or.inr ⟨argument :: arguments, word, hword, ?_⟩
        rw [hargs, List.flatMap_cons, List.append_assoc]
    rcases args with _ | ⟨word, args⟩
    · exact Or.inl ⟨[], rfl⟩
    · by_cases hsection : word ∈ ["-s", "--section"]
      · rcases args with _ | ⟨name, args⟩
        · exact Or.inr ⟨[], word, hsection, rfl⟩
        · simp only [List.mem_cons, List.not_mem_nil, or_false] at hsection
          rcases hsection with rfl | rfl
          · exact hrest (.sectionName true name) (Nat.succ_pos _) args rfl
          · exact hrest (.sectionName false name) (Nat.succ_pos _) args rfl
      · obtain ⟨argument, hwords⟩ := exists_argument hsection
        refine hrest argument ?_ args ?_
        · rw [hwords]
          exact Nat.succ_pos _
        · rw [hwords]
          rfl

theorem readArguments_of_dangling (h : Dangling args) : readArguments v args = none := by
  obtain ⟨arguments, word, hword, rfl⟩ := h
  simp only [List.mem_cons, List.not_mem_nil, or_false] at hword
  rw [readArguments_words]
  rcases hword with rfl | rfl
  · rfl
  · rfl

/-! ### Only one way -/

/-- The argument at the front of a list of words, and the words behind it. -/
def firstArgument : List String → Option (Argument × List String)
  | [] => none
  | word :: args =>
    if word = "-n" then some (.noCleanup true, args)
    else if word = "--no-cleanup" then some (.noCleanup false, args)
    else if word = "-k" then some (.kang true, args)
    else if word = "--kang" then some (.kang false, args)
    else if word = "-s" then args.head?.map fun name => (.sectionName true name, args.tail)
    else if word = "--section" then args.head?.map fun name => (.sectionName false name, args.tail)
    else if h : word ∈ optionWords then none
    else some (.source word h, args)

theorem firstArgument_append (argument : Argument) (args : List String) :
    firstArgument (argument.words ++ args) = some (argument, args) := by
  cases argument with
  | noCleanup short => cases short <;> simp [firstArgument]
  | kang short => cases short <;> simp [firstArgument]
  | sectionName short name => cases short <;> simp [firstArgument]
  | source path h =>
    have hother := h
    simp only [optionWords, List.mem_cons, List.not_mem_nil, or_false, not_or] at hother
    simp [firstArgument, h, hother]

/-- **Arguments can be told** from their words. -/
theorem words_injective {arguments arguments' : List Argument}
    (h : arguments.flatMap Argument.words = arguments'.flatMap Argument.words) :
    arguments = arguments' := by
  induction arguments generalizing arguments' with
  | nil =>
    rcases arguments' with _ | ⟨argument', arguments'⟩
    · rfl
    · have hfirst := firstArgument_append argument' (arguments'.flatMap Argument.words)
      rw [← List.flatMap_cons, ← h] at hfirst
      exact nomatch hfirst
  | cons argument arguments ih =>
    have hfirst := firstArgument_append argument (arguments.flatMap Argument.words)
    rw [← List.flatMap_cons, h] at hfirst
    rcases arguments' with _ | ⟨argument', arguments'⟩
    · exact nomatch hfirst
    · rw [List.flatMap_cons, firstArgument_append, Option.some_inj, Prod.mk.injEq] at hfirst
      obtain ⟨rfl, hrest⟩ := hfirst
      rw [ih hrest.symm]

/-! ### The script's variables -/

/-- **The reader of the arguments.**  The variables are those of some words if and only if these are
the words of arguments with this meaning, which are then the only ones; the source is `adb` if
neither the last source nor the environment says another.  Words that are not read have a dangling
end. -/
theorem shellVariables_spec (SRC : String) (args : List String) :
    (∀ v, shellVariables SRC args = some v
      ↔ ∃! arguments : List Argument, args = arguments.flatMap Argument.words
        ∧ v.CLEAN_VENDOR = !arguments.any Argument.keepsVendor
        ∧ v.KANG = (if arguments.any Argument.isKang then "--kang" else "")
        ∧ v.SECTION = (arguments.filterMap Argument.sectionName?).getLast?.getD ""
        ∧ v.SRC = (if (arguments.filterMap Argument.source?).getLast?.getD SRC = "" then "adb"
          else (arguments.filterMap Argument.source?).getLast?.getD SRC))
      ∧ (shellVariables SRC args = none ↔ Dangling args) := by
  have hread (arguments : List Argument) :
      shellVariables SRC (arguments.flatMap Argument.words)
        = some (let v := meaning ⟨true, "", "", SRC⟩ arguments
          if v.SRC = "" then { v with SRC := "adb" } else v) := by
    have hwords := readArguments_words ⟨true, "", "", SRC⟩ arguments []
    rw [List.append_nil] at hwords
    rw [shellVariables, hwords, readArguments, Option.map_some]
  constructor
  · intro v
    constructor
    · intro h
      rcases exists_arguments args with ⟨arguments, rfl⟩ | hdangling
      · refine ⟨arguments, ⟨rfl, ?_⟩, fun other hother => (words_injective hother.1).symm⟩
        rw [hread] at h
        obtain rfl := Option.some.inj h
        dsimp only [meaning]
        split_ifs with hsrc <;> simp
      · rw [shellVariables, readArguments_of_dangling hdangling] at h
        exact nomatch h
    · rintro ⟨arguments, ⟨rfl, hclean, hkang, hsection, hsource⟩, -⟩
      rw [hread]
      obtain ⟨CLEAN_VENDOR, KANG, SECTION, SRC'⟩ := v
      dsimp only at hclean hkang hsection hsource
      subst hclean hkang hsection hsource
      dsimp only [meaning]
      split_ifs with hsrc <;> simp
  · constructor
    · intro h
      rcases exists_arguments args with ⟨arguments, rfl⟩ | hdangling
      · rw [hread] at h
        exact nomatch h
      · exact hdangling
    · intro h
      rw [shellVariables, readArguments_of_dangling h, Option.map_none]

end OnePlus9.ExtractFiles
