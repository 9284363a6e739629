import OnePlus9.Sensors.HalProxy

/-!
# Loading the sub-HALs (`HalProxy.cpp`)

The service's proxy takes its sub-HALs from shared objects: two configuration files name libraries,
separated by blanks, and each library is opened in the first directory that has it, asked for one of
the two entry points, and taken if the sub-HAL that it hands out has the version of this entry
point.  A file or a library that cannot be used is reported and skipped.

What `std::ifstream`, `dlopen` and `dlsym` find is the `VendorImage`.  A library that is named twice
hands out the same object twice.  Here each entry of `mSubHalList` has its own copy.
-/

namespace OnePlus9

/-- An opened shared object: for each entry point that `dlsym` finds in it, the version that a call
of it stores and the sub-HAL that the call returns. -/
structure SharedObject where
  sensorsHalGetSubHal : Option (UInt32 × SubHal)
  sensorsHalGetSubHal_2_1 : Option (UInt32 × SubHal)

/-- The files of the device, and the constants of the multi-HAL headers. -/
structure VendorImage where
  /-- The text of a file; `none` if it cannot be opened. -/
  ifstream : String → Option (List Char)
  /-- `dlopen` with `RTLD_NOW`. -/
  dlopen : String → Option SharedObject
  /-- Whether `__LP64__` is defined. -/
  lp64 : Bool
  SUB_HAL_2_0_VERSION : UInt32
  SUB_HAL_2_1_VERSION : UInt32

/-- What `std::ctype<char>` classifies as `space` in the default locale. -/
def isSpace (c : Char) : Bool :=
  c = ' ' || c = '\t' || c = '\n' || c = '\x0b' || c = '\x0c' || c = '\r'

/-- `stream >> word`: the word and what is left of the stream; `none` if the extraction fails, since
nothing but blanks is left. -/
def extract (stream : List Char) : Option (String × List Char) :=
  let rest := stream.dropWhile isSpace
  if rest = [] then none
  else some (String.ofList (rest.takeWhile fun c => !isSpace c),
    rest.dropWhile fun c => !isSpace c)

namespace VendorImage

variable (image : VendorImage)

/-- `kSubHalShareObjectLocations`: the default locations, then two directories. -/
def kSubHalShareObjectLocations : List String :=
  "" :: if image.lp64 then ["/vendor/lib64/hw/", "/odm/lib64/hw/"]
    else ["/vendor/lib/hw/", "/odm/lib/hw/"]

/-- `getHandleForSubHalSharedObject`: the first location in which the library opens. -/
def getHandleForSubHalSharedObject (filename : String) : Option SharedObject :=
  image.kSubHalShareObjectLocations.findSome? fun dir => image.dlopen (dir ++ filename)

/-- The loop body of `initializeSubHalListFromConfigFile`: the sub-HAL of a library, if it is
taken.  The entry point of 2.1 is asked only if there is none of 2.0. -/
def loadSubHal (subHalLibraryFile : String) : Option SubHalWrapper :=
  match image.getHandleForSubHalSharedObject subHalLibraryFile with
  | none => none
  | some handle =>
    match handle.sensorsHalGetSubHal with
    | some (version, subHal) =>
      if version ≠ image.SUB_HAL_2_0_VERSION then none else some ⟨subHal, []⟩
    | none =>
      match handle.sensorsHalGetSubHal_2_1 with
      | none => none
      | some (version, subHal) =>
        if version ≠ image.SUB_HAL_2_1_VERSION then none else some ⟨subHal, []⟩

/-- The loop of `initializeSubHalListFromConfigFile`.  Each turn takes at least one character off
the stream, whose length is thus enough `fuel`. -/
def loadSubHals : ℕ → List Char → List SubHalWrapper → List SubHalWrapper
  | 0, _, mSubHalList => mSubHalList
  | fuel + 1, subHalConfigStream, mSubHalList =>
    match extract subHalConfigStream with
    | none => mSubHalList
    | some (subHalLibraryFile, subHalConfigStream) =>
      match image.loadSubHal subHalLibraryFile with
      | none => loadSubHals fuel subHalConfigStream mSubHalList
      | some subHal => loadSubHals fuel subHalConfigStream (mSubHalList ++ [subHal])

def initializeSubHalListFromConfigFile (configFileName : String)
    (mSubHalList : List SubHalWrapper) : List SubHalWrapper :=
  match image.ifstream configFileName with
  | none => mSubHalList
  | some text => image.loadSubHals text.length text mSubHalList

end VendorImage

namespace HalProxy

variable {ε : Type*}

def kMultiHalConfigFiles : List String :=
  ["/vendor/etc/sensors/hals.conf", "/odm/etc/sensors/hals.conf"]

/-- The constructor without arguments: the proxy of the service. -/
def constructFromConfigFiles (image : VendorImage) : HalProxy ε :=
  construct (kMultiHalConfigFiles.foldl
    (fun mSubHalList configFile => image.initializeSubHalListFromConfigFile configFile mSubHalList)
    [])

end HalProxy

end OnePlus9
