import OnePlus9.Library.Lines
import OnePlus9.Sensors.Equiv.Routing
import OnePlus9.Sensors.Loader

/-!
# The sub-HALs of the configuration files

`configured` are the names in the two configuration files: the words of the texts, one file after
the other, whatever blanks stand around them.  The loader goes through exactly these
(`loadSubHals_eq`), so that `mSubHalList` consists of those of them that load, in order, and the
index of a sub-HAL is the number of names before its own that load.

By this index the framework gets at the sensors: a handle is advertised if and only if a sensor of a
configured library has it, and a request with this handle calls the sub-HAL of this library
(`reaches_configured`).
-/

namespace OnePlus9

namespace VendorImage

variable (image : VendorImage)

/-- The names in the configuration files, in order. -/
def configured : List String :=
  HalProxy.kMultiHalConfigFiles.flatMap fun configFile =>
    ((image.ifstream configFile).elim [] (Lines.words isSpace)).map String.ofList

/-- The name with these names before it loads a sub-HAL. -/
def Configured (before : List String) (name : String) (subHal : SubHalWrapper) : Prop :=
  (before ++ [name]) <+: image.configured ∧ image.loadSubHal name = some subHal

/-- The index of the sub-HAL of a name. -/
def indexAfter (before : List String) : ℕ := (before.filterMap image.loadSubHal).length

/-! ### The loop -/

/-- One extraction takes the first word. -/
theorem words_eq_extract (stream : List Char) :
    (Lines.words isSpace stream).map String.ofList
      = (extract stream).elim [] fun (word, rest) =>
          word :: (Lines.words isSpace rest).map String.ofList := by
  rw [Lines.words_eq, extract]
  by_cases hnil : stream.dropWhile isSpace = []
  · rw [if_pos hnil, if_pos hnil]
    rfl
  · rw [if_neg hnil, if_neg hnil]
    rfl

/-- An extraction shortens the stream. -/
theorem length_lt_of_extract {stream rest : List Char} {word : String}
    (h : extract stream = some (word, rest)) : rest.length < stream.length := by
  unfold extract at h
  dsimp only at h
  split_ifs at h with hnil
  obtain ⟨-, rfl⟩ := Prod.mk.inj (Option.some.inj h)
  have hle : (stream.dropWhile isSpace).length ≤ stream.length :=
    (List.dropWhile_suffix isSpace).length_le
  have hhead := List.head_dropWhile_not isSpace hnil
  generalize stream.dropWhile isSpace = blankless at hnil hle hhead ⊢
  rcases blankless with _ | ⟨c, blankless⟩
  · exact absurd rfl hnil
  · rw [List.head_cons] at hhead
    rw [List.dropWhile_cons_of_pos (by rw [hhead]; rfl)]
    have hrest := (List.dropWhile_suffix (l := blankless) fun c => !isSpace c).length_le
    rw [List.length_cons] at hle
    omega

/-- **The loop** takes the words that load, one after the other. -/
theorem loadSubHals_eq {fuel : ℕ} {stream : List Char} (hfuel : stream.length ≤ fuel)
    (mSubHalList : List SubHalWrapper) :
    image.loadSubHals fuel stream mSubHalList
      = mSubHalList
        ++ ((Lines.words isSpace stream).map String.ofList).filterMap image.loadSubHal := by
  induction fuel generalizing stream mSubHalList with
  | zero =>
    obtain rfl := List.eq_nil_of_length_eq_zero (Nat.le_zero.mp hfuel)
    rw [loadSubHals, Lines.words_nil, List.map_nil, List.filterMap_nil, List.append_nil]
  | succ fuel ih =>
    rw [loadSubHals, words_eq_extract]
    cases hextract : extract stream with
    | none => simp
    | some extracted =>
      obtain ⟨word, rest⟩ := extracted
      have hshorter := length_lt_of_extract hextract
      have hrest : rest.length ≤ fuel := by omega
      simp only [Option.elim_some]
      cases hload : image.loadSubHal word with
      | none => simp only [ih hrest, List.filterMap_cons_none hload]
      | some subHal =>
        simp only [ih hrest, List.filterMap_cons_some hload, List.append_assoc,
          List.singleton_append]

theorem initializeSubHalListFromConfigFile_eq (configFile : String)
    (mSubHalList : List SubHalWrapper) :
    image.initializeSubHalListFromConfigFile configFile mSubHalList
      = mSubHalList
        ++ (((image.ifstream configFile).elim [] (Lines.words isSpace)).map
            String.ofList).filterMap image.loadSubHal := by
  rw [initializeSubHalListFromConfigFile]
  cases image.ifstream configFile with
  | none => simp
  | some text => exact image.loadSubHals_eq (Nat.le_refl _) mSubHalList

/-- All files: the names that load. -/
theorem foldl_initializeSubHalList (configFiles : List String)
    (mSubHalList : List SubHalWrapper) :
    configFiles.foldl (fun mSubHalList configFile =>
        image.initializeSubHalListFromConfigFile configFile mSubHalList) mSubHalList
      = mSubHalList ++ (configFiles.flatMap fun configFile =>
          ((image.ifstream configFile).elim [] (Lines.words isSpace)).map
            String.ofList).filterMap image.loadSubHal := by
  induction configFiles generalizing mSubHalList with
  | nil => simp
  | cons configFile configFiles ih =>
    rw [List.foldl_cons, ih, initializeSubHalListFromConfigFile_eq, List.flatMap_cons,
      List.filterMap_append, List.append_assoc]

/-! ### Indices -/

/-- **The index of a sub-HAL** counts the names before its own that load. -/
theorem getElem?_filterMap_configured {i : ℕ} {subHal : SubHalWrapper} :
    (image.configured.filterMap image.loadSubHal)[i]? = some subHal
      ↔ ∃ before name, image.Configured before name subHal ∧ image.indexAfter before = i := by
  unfold Configured indexAfter
  generalize image.configured = names
  constructor
  · intro h
    induction names generalizing i with
    | nil => exact absurd h (by simp)
    | cons name names ih =>
      cases hload : image.loadSubHal name with
      | none =>
        rw [List.filterMap_cons_none hload] at h
        obtain ⟨before, name', ⟨hbefore, hload'⟩, hi⟩ := ih h
        refine ⟨name :: before, name', ⟨?_, hload'⟩, ?_⟩
        · exact (List.cons_prefix_cons).mpr ⟨rfl, hbefore⟩
        · rw [List.filterMap_cons_none hload, hi]
      | some subHal' =>
        rw [List.filterMap_cons_some hload] at h
        rcases i with _ | i
        · rw [List.getElem?_cons_zero] at h
          obtain rfl := Option.some.inj h
          exact ⟨[], name, ⟨(List.cons_prefix_cons).mpr ⟨rfl, List.nil_prefix⟩, hload⟩, rfl⟩
        · rw [List.getElem?_cons_succ] at h
          obtain ⟨before, name', ⟨hbefore, hload'⟩, hi⟩ := ih h
          refine ⟨name :: before, name', ⟨?_, hload'⟩, ?_⟩
          · exact (List.cons_prefix_cons).mpr ⟨rfl, hbefore⟩
          · rw [List.filterMap_cons_some hload, List.length_cons, hi]
  · rintro ⟨before, name, ⟨⟨after, rfl⟩, hload⟩, rfl⟩
    rw [List.filterMap_append, List.filterMap_append, List.filterMap_cons_some hload,
      List.filterMap_nil, List.append_assoc, List.getElem?_append_right (Nat.le_refl _),
      Nat.sub_self]
    rfl

end VendorImage

/-! ### The proxy -/

namespace HalProxy

variable {ε : Type*} {image : VendorImage}

theorem constructFromConfigFiles_eq (image : VendorImage) :
    (constructFromConfigFiles image : HalProxy ε)
      = construct (image.configured.filterMap image.loadSubHal) := by
  rw [constructFromConfigFiles, image.foldl_initializeSubHalList, List.nil_append]
  rfl

/-- **The sub-HALs of the service** are those of the names in the configuration files that load, in
order.  The handles that the proxy advertises are those of their sensors, tagged with the number of
names before the library's own that load, and a request with such a handle calls the sub-HAL of this
library and no other, with the library's own handle. -/
theorem reaches_configured (image : VendorImage)
    (hlen : (image.configured.filterMap image.loadSubHal).length ≤ 128) :
    (constructFromConfigFiles image : HalProxy ε).mSubHalList
        = image.configured.filterMap image.loadSubHal
      ∧ (∀ k, k ∈ (constructFromConfigFiles image : HalProxy ε).handles
        ↔ ∃ before name subHal sensor, image.Configured before name subHal
          ∧ sensor ∈ subHal.getSensorsList ∧ subHalIndexIsClear sensor.sensorHandle = true
          ∧ k = setSubHalIndex sensor.sensorHandle (image.indexAfter before))
      ∧ ∀ before name subHal h (request : SensorRequest), image.Configured before name subHal →
        subHalIndexIsClear h = true →
        request.passesGate (constructFromConfigFiles image : HalProxy ε) = true →
        ∃ result p', request.send (setSubHalIndex h (image.indexAfter before))
            (constructFromConfigFiles image : HalProxy ε) = some (result, p')
          ∧ p'.calls = (constructFromConfigFiles image : HalProxy ε).calls.modify
            (image.indexAfter before) (· ++ [request.call h]) := by
  rw [constructFromConfigFiles_eq]
  refine ⟨rfl, ?_, ?_⟩
  · intro k
    rw [mem_handles_construct]
    constructor
    · rintro ⟨i, h, ⟨subHal, sensor, hget, hsensor, rfl⟩, hclear, rfl⟩
      obtain ⟨before, name, hconfigured, rfl⟩ := image.getElem?_filterMap_configured.mp hget
      exact ⟨before, name, subHal, sensor, hconfigured, hsensor, hclear, rfl⟩
    · rintro ⟨before, name, subHal, sensor, hconfigured, hsensor, hclear, rfl⟩
      have hget := image.getElem?_filterMap_configured.mpr ⟨before, name, hconfigured, rfl⟩
      exact ⟨_, _, ⟨subHal, sensor, hget, hsensor, rfl⟩, hclear, rfl⟩
  · intro before name subHal h request hconfigured hclear hgate
    have hget := image.getElem?_filterMap_configured.mpr ⟨before, name, hconfigured, rfl⟩
    obtain ⟨hi, -⟩ := List.getElem?_eq_some_iff.mp hget
    exact request.send_setSubHalIndex hlen hi hclear hgate

/-- The configuration file of the repository, on a device that lacks the vendor's libraries. -/
def onlyOwnLibrary : VendorImage where
  ifstream file :=
    if file = "/vendor/etc/sensors/hals.conf" then
      some "sensors.oneplus9.so\nsensors.oplus.so\nsensors.ssc.so\n".toList
    else none
  dlopen file :=
    if file = "/vendor/lib64/hw/sensors.oneplus9.so" then
      some ⟨none, some (0x200100, .sensorsSubHal .construct)⟩
    else none
  lp64 := true
  SUB_HAL_2_0_VERSION := 0x200000
  SUB_HAL_2_1_VERSION := 0x200100

theorem configured_onlyOwnLibrary :
    onlyOwnLibrary.configured = ["sensors.oneplus9.so", "sensors.oplus.so", "sensors.ssc.so"] := by
  simp only [VendorImage.configured, kMultiHalConfigFiles, onlyOwnLibrary, List.flatMap_cons,
    List.flatMap_nil, if_true, Option.elim_some]
  decide

theorem loadSubHal_onlyOwnLibrary :
    onlyOwnLibrary.loadSubHal "sensors.oneplus9.so" = some ⟨.sensorsSubHal .construct, []⟩
      ∧ onlyOwnLibrary.loadSubHal "sensors.oplus.so" = none
      ∧ onlyOwnLibrary.loadSubHal "sensors.ssc.so" = none := by
  have hdlopen (file : String) : onlyOwnLibrary.dlopen file
      = if file = "/vendor/lib64/hw/sensors.oneplus9.so" then
          some ⟨none, some (0x200100, .sensorsSubHal .construct)⟩ else none := rfl
  have hlocations : onlyOwnLibrary.kSubHalShareObjectLocations
      = ["", "/vendor/lib64/hw/", "/odm/lib64/hw/"] := rfl
  have hversion : onlyOwnLibrary.SUB_HAL_2_1_VERSION = 0x200100 := rfl
  refine ⟨?_, ?_, ?_⟩
  all_goals
    simp [VendorImage.loadSubHal, VendorImage.getHandleForSubHalSharedObject, hlocations, hdlopen,
      hversion]

/-- The repository's own library is the only sub-HAL then, and its first sensor has the handle 1. -/
theorem reaches_configured_onlyOwnLibrary :
    ∃ result p', (SensorRequest.activate true).send 1
        (constructFromConfigFiles onlyOwnLibrary : HalProxy Event) = some (result, p')
      ∧ p'.calls = [[.activate 1 true]] := by
  obtain ⟨hown, hoplus, hssc⟩ := loadSubHal_onlyOwnLibrary
  have hloaded : onlyOwnLibrary.configured.filterMap onlyOwnLibrary.loadSubHal
      = [⟨.sensorsSubHal .construct, []⟩] := by
    rw [configured_onlyOwnLibrary, List.filterMap_cons_some hown, List.filterMap_cons_none hoplus,
      List.filterMap_cons_none hssc, List.filterMap_nil]
  obtain ⟨hlist, -, hroute⟩ := reaches_configured (ε := Event) onlyOwnLibrary (by
    rw [hloaded]
    decide)
  have hfirst : onlyOwnLibrary.Configured [] "sensors.oneplus9.so"
      ⟨.sensorsSubHal .construct, []⟩ := by
    refine ⟨?_, hown⟩
    rw [configured_onlyOwnLibrary]
    exact List.cons_prefix_cons.mpr ⟨rfl, List.nil_prefix⟩
  obtain ⟨result, p', hsend, hcalls⟩ := hroute [] "sensors.oneplus9.so" _ 1 (.activate true) hfirst
    (by decide) rfl
  refine ⟨result, p', hsend, ?_⟩
  rw [hcalls, calls, hlist, hloaded]
  rfl

end HalProxy

end OnePlus9
