import OnePlus9.Library.Lines
import OnePlus9.Library.Substitution

/-!
# Extracting the blobs (`extract-files.sh`)

The script reads its arguments into shell variables, and `blob_fixup` changes some of the blobs that
the helper of the build tree takes from a device: a few texts with `sed` and `grep`, and shared
objects with `sed` and two programs of the build tree, which are a parameter (`Tools`).

`sed` and `grep` are those of the C locale, where every byte is a character; the script itself
leaves the locale to its caller.  All regular expressions here are sequences of plain characters and
dots, so that a `Pattern` is enough.
-/

namespace OnePlus9.ExtractFiles

open Substitution

/-! ### The arguments -/

/-- The shell variables that the arguments set. -/
structure Variables where
  CLEAN_VENDOR : Bool
  KANG : String
  SECTION : String
  SRC : String
  deriving DecidableEq

/-- The loop over the arguments; `none` if `shift` fails, since there is nothing left to shift, and
`set -e` ends the script. -/
def readArguments (v : Variables) : List String → Option Variables
  | [] => some v
  | arg :: args =>
    if arg = "-n" ∨ arg = "--no-cleanup" then
      readArguments { v with CLEAN_VENDOR := false } args
    else if arg = "-k" ∨ arg = "--kang" then readArguments { v with KANG := "--kang" } args
    else if arg = "-s" ∨ arg = "--section" then
      match args with
      | [] => none
      | name :: args => readArguments { v with SECTION := name, CLEAN_VENDOR := false } args
    else readArguments { v with SRC := arg } args

/-- The variables after the arguments were read.  `SRC` may come from the environment. -/
def shellVariables (SRC : String) (args : List String) : Option Variables :=
  (readArguments ⟨true, "", "", SRC⟩ args).map fun v =>
    if v.SRC = "" then { v with SRC := "adb" } else v

/-! ### `sed` and `grep` -/

/-- What a file contains. -/
abbrev Blob := List UInt8

/-- The bytes of a text, whose characters are ASCII. -/
def bytes (text : String) : Blob := text.toList.map fun c => c.toNat.toUInt8

def isNewline (c : UInt8) : Bool := c == 10

/-- A regular expression without special characters. -/
def regex (text : String) : Pattern UInt8 := literal (bytes text)

/-- The regular expression `.` of `sed` -/
def dot : Pattern UInt8 := [fun c => !isNewline c]

/-- The regular expression `.` of `grep`, which takes the zero bytes of a binary file for ends of
lines -/
def grepDot : Pattern UInt8 := [fun c => !isNewline c && c != 0]

/-- `sed -i "/address/ s/pattern/new/"`; an empty `address` is that of every line. -/
def sedFirst (address pattern : Pattern UInt8) (new : Blob) : Blob → Blob :=
  Lines.editLines isNewline fun line =>
    some (if occurs address line then substFirst pattern new line else line)

/-- `sed -i "/address/ s/pattern/new/g"` -/
def sedAll (address pattern : Pattern UInt8) (new : Blob) : Blob → Blob :=
  Lines.editLines isNewline fun line =>
    some (if occurs address line then substAll pattern new 0 line else line)

/-- `sed -Ei "/address|address|.../d"` -/
def sedDelete (addresses : List (Pattern UInt8)) : Blob → Blob :=
  Lines.editLines isNewline fun line =>
    if addresses.any fun address => occurs address line then none else some line

/-- `grep -q`.  No pattern here admits the end of a line, so that a line has a match if the file
has one. -/
def grep (pattern : Pattern UInt8) (blob : Blob) : Bool := occurs pattern blob

/-! ### `blob_fixup` -/

/-- The programs that change shared objects. -/
structure Tools where
  /-- `"${PATCHELF}" --replace-needed` -/
  replaceNeeded : String → String → Blob → Blob
  /-- `"${PATCHELF}" --add-needed` -/
  addNeeded : String → Blob → Blob
  /-- `"${SIGSCAN}" -p pattern -P replacement -f` -/
  sigscan : String → String → Blob → Blob

/-- `sed -i "/SystemCamera = / s/1;/0;/g"` -/
def systemCamera : Blob → Blob := sedAll (regex "SystemCamera = ") (regex "1;") (bytes "0;")

/-- `sed -i "s/my_product/product/"` -/
def myProduct : Blob → Blob := sedFirst [] (regex "my_product") (bytes "product")

/-- `sed -Ei "/media_codecs_(google_audio|google_c2|google_telephony|vendor_audio)/d"` -/
def mediaCodecs : Blob → Blob :=
  sedDelete [regex "media_codecs_google_audio", regex "media_codecs_google_c2",
    regex "media_codecs_google_telephony", regex "media_codecs_vendor_audio"]

/-- `sed -i "/max_retry_alloc_output_timeout/ s/1000/0/"` -/
def maxRetry : Blob → Blob :=
  sedFirst (regex "max_retry_alloc_output_timeout") (regex "1000") (bytes "0")

/-- `grep -q "gettid: 1" "${2}" || echo "gettid: 1" >> "${2}"` -/
def gettid (blob : Blob) : Blob :=
  if grep (regex "gettid: 1") blob then blob else blob ++ bytes "gettid: 1\n"

/-- Characters that stand for themselves on both sides of an `s` command. -/
def isPlain (c : Char) : Bool := c.isAlphanum || c == '_' || c == '-'

/-- The name of a shared library, without the `.so`. -/
structure LibraryName where
  name : String
  plain : name.toList.all isPlain = true

def liba2dpoffload : LibraryName := ⟨"liba2dpoffload", by decide⟩

def libssrec : LibraryName := ⟨"libssrec", by decide⟩

/-- The path of a vendor library as a regular expression, in which the dot is not quoted. -/
def vendorPath (library : LibraryName) : Pattern UInt8 :=
  regex "/vendor/lib/" ++ regex library.name ++ dot ++ regex "so"

/-- `sed -i "s/\/vendor\/lib\/….so/\/odm\/lib\/….so\x00\x00\x00/"` -/
def redirect (library : LibraryName) : Blob → Blob :=
  sedFirst [] (vendorPath library)
    (bytes "/odm/lib/" ++ bytes library.name ++ bytes ".so" ++ [0, 0, 0])

/-- `grep -q "libcrypto_shim.so" "${2}" || "${PATCHELF}" --add-needed "libcrypto_shim.so" "${2}"` -/
def cryptoShim (tools : Tools) (blob : Blob) : Blob :=
  if grep (regex "libcrypto_shim" ++ grepDot ++ regex "so") blob then blob
  else tools.addNeeded "libcrypto_shim.so" blob

/-- The branches of `blob_fixup`. -/
def fixup (tools : Tools) : String → Option (Blob → Blob)
  | "odm/etc/camera/CameraHWConfiguration.config" => some systemCamera
  | "odm/lib/liblvimfs_wrapper.so" | "odm/lib64/libCOppLceTonemapAPI.so"
  | "odm/lib64/libaps_frame_registration.so" | "vendor/lib64/libalsc.so" =>
    some (tools.replaceNeeded "libstdc++.so" "libstdc++_vendor.so")
  | "odm/lib64/libAlgoProcess.so" =>
    some (tools.replaceNeeded "android.hardware.graphics.common-V1-ndk_platform.so"
      "android.hardware.graphics.common-V5-ndk.so")
  | "odm/lib64/mediadrm/libwvdrmengine.so" | "odm/lib64/libwvhidl.so" => some (cryptoShim tools)
  | "odm/overlay/prj_11/odm/etc/camera/CameraHWConfiguration.config" => some systemCamera
  | "product/etc/sysconfig/com.android.hotwordenrollment.common.util.xml" => some myProduct
  | "vendor/etc/media_codecs.xml" | "vendor/etc/media_codecs_lahaina.xml"
  | "vendor/etc/media_codecs_lahaina_vendor.xml" => some mediaCodecs
  | "vendor/etc/media_lahaina/video_system_specs.json" => some maxRetry
  | "vendor/etc/seccomp_policy/atfwd@2.0.policy" => some gettid
  | "vendor/lib/hw/audio.primary.lahaina.so" =>
    some fun blob => tools.replaceNeeded "libgui1_vendor.so" "libgui_vendor.so"
      (redirect libssrec (redirect liba2dpoffload blob))
  | "vendor/lib/libextcamera_client.so" =>
    some (tools.replaceNeeded "libgui1_vendor.so" "libgui_vendor.so")
  | "vendor/lib64/hw/com.qti.chi.override.so" =>
    some (tools.sigscan "45 B8 05 94" "1F 20 03 D5")
  | "vendor/lib64/vendor.qti.hardware.camera.postproc@1.0-service-impl.so" =>
    some (tools.sigscan "23 0B 00 94" "1F 20 03 D5")
  | _ => none

/-- `blob_fixup`: the status of the function, and what it leaves in the file.  The file is `none`
if `$2` is empty, as in `blob_fixup_dry`; then every branch returns before it does anything. -/
def blobFixup (tools : Tools) (name : String) (file : Option Blob) : ℕ × Option Blob :=
  match fixup tools name with
  | none => (1, file)
  | some fix => (0, file.map fix)

end OnePlus9.ExtractFiles
