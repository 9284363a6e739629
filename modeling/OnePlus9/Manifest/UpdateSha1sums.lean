import OnePlus9.Library.Lines
import OnePlus9.Library.Sha1
import Mathlib.Data.List.Infix

/-!
# Hashes of the blob manifest (`update-sha1sums.py`)

The manifest `proprietary-files.txt` has a line for each blob, `source:destination;attributes|hash`,
where only the destination is always there and a leading `-` is not part of it.  `update` puts in
the hashes of the blobs below the comments that contain ` - `, and `cleanup` drops all hashes.

Both go through the list of lines and replace a line in place after it was read.  The vendor tree is
a parameter (`FileTree`).
-/

namespace OnePlus9.UpdateSha1sums

open Sha1

/-- A line of the manifest, without its end. -/
abbrev Line := List Char

/-- What the files contain; `none` where a file cannot be opened or read. -/
abbrev FileTree := Line → Option (List UInt8)

/-- What `update` raises. -/
inductive PyError where
  | unboundLocalError
  | indexError
  | osError (path : Line)
  deriving DecidableEq, Repr

def device : Line := "oneplus9".toList
def vendor : Line := "oneplus".toList

def vendorPath : Line :=
  "../../../vendor/".toList ++ vendor ++ '/' :: device ++ "/proprietary".toList

/-- `os.path.join` of two parts. -/
def join (path filePath : Line) : Line :=
  if filePath.head? = some '/' then filePath
  else if path = [] ∨ path.getLast? = some '/' then path ++ filePath
  else path ++ '/' :: filePath

/-- `line.split('|')[0]` -/
def dropSHA1 (line : Line) : Line := (line.splitOn '|').head (List.splitOn_ne_nil _ _)

/-! ### `cleanup` -/

/-- The body of the loop of `cleanup`. -/
def cleanupLine (line : Line) : Line :=
  -- Skip empty or commented lines
  if line.length = 0 ∨ line.head? = some '#' ∨ '|' ∉ line then line else dropSHA1 line

def cleanup (lines : List Line) : List Line := lines.map cleanupLine

/-! ### `update` -/

/-- The path of the blob in the vendor tree. -/
def filePath (line : Line) : Except PyError Line :=
  let destination := (line.splitOn ';').head (List.splitOn_ne_nil _ _)
  let destination := (destination.splitOn ':').getLast (List.splitOn_ne_nil _ _)
  match destination with
  | [] => .error .indexError
  | '-' :: destination => .ok destination
  | destination => .ok destination

/-- `'%s|%s' % (line, hash)` -/
def addSHA1 (tree : FileTree) (line : Line) : Except PyError Line := do
  let path := join vendorPath (← filePath line)
  match tree path with
  | none => .error (.osError path)
  | some content => .ok (line ++ '|' :: (sha1 content).hexdigest)

/-- The body of the loop of `update`.  `needSHA1` is a variable of the function, unbound (`none`)
before the first comment. -/
def updateLine (tree : FileTree) (needSHA1 : Option Bool) (line : Line) :
    Except PyError (Option Bool × Line) :=
  -- Skip empty lines
  if line.length = 0 then .ok (needSHA1, line)
  -- Check if we need to set SHA1 hash for the next files
  else if line.head? = some '#' then .ok (some (decide (" - ".toList <:+: line)), line)
  else
    match needSHA1 with
    | none => .error .unboundLocalError
    | some false => .ok (needSHA1, line)
    | some true => do
      -- Remove existing SHA1 hash
      let line ← addSHA1 tree (dropSHA1 line)
      return (needSHA1, line)

def update (tree : FileTree) (lines : List Line) : Except PyError (List Line) :=
  Prod.snd <$> lines.mapAccumLM (updateLine tree) none

/-! ### The script -/

/-- What a file opened with mode `'r'` makes of the ends of the lines. -/
def universalNewlines : List Char → List Char
  | [] => []
  | '\r' :: '\n' :: text => '\n' :: universalNewlines text
  | '\r' :: text => '\n' :: universalNewlines text
  | c :: text => c :: universalNewlines text

/-- Where `splitlines` ends a line.  It takes a carriage return with a line feed for one end, but
there is no carriage return left here. -/
def isLineBoundary (c : Char) : Bool :=
  c ∈ ['\n', '\r', '\x0b', '\x0c', '\x1c', '\x1d', '\x1e', '\u0085', '\u2028', '\u2029']

/-- `f.read().splitlines()` -/
def readLines (text : List Char) : List Line :=
  Lines.splitLines isLineBoundary (universalNewlines text)

/-- `'\n'.join(lines) + '\n'` -/
def writeLines (lines : List Line) : List Char := ['\n'].intercalate lines ++ ['\n']

/-- What the script leaves in `proprietary-files.txt`.  Where `update` raises an exception the file
is not opened for writing. -/
def script (tree : FileTree) (argv : List Line) (text : List Char) : Except PyError (List Char) :=
  let lines := readLines text
  if argv.length = 2 ∧ argv[1]? = some "-c".toList then .ok (writeLines (cleanup lines))
  else writeLines <$> update tree lines

end OnePlus9.UpdateSha1sums
