/-!
# The index of a repository

The file that lists what is tracked: a mark, a version, the number of entries, the entries in ascending order of their paths, and a checksum. Of an entry only its path matters here; the rest has fixed sizes and is written as bytes that stand for nothing.
-/

namespace GuardedPlan

inductive IndexFault where
  | tooSmall
  | badMark (mark : List UInt8)
  | badVersion (version : Nat)
  | unknownExtension (name : List UInt8)
  | damaged
  | notFile
deriving DecidableEq, Repr

/-- The fault in words, for the index at a path. -/
def IndexFault.message (path : String) : IndexFault → String
  | tooSmall => "fatal: " ++ path ++ ": index file smaller than expected"
  | badMark mark =>
    let digits (byte : UInt8) : List Char :=
      let digits := Nat.toDigits 16 byte.toNat
      List.replicate (2 - digits.length) '0' ++ digits
    "error: bad signature 0x" ++ String.ofList (mark.reverse.flatMap digits) ++ "\nfatal: index file corrupt"
  | badVersion version => "error: bad index version " ++ toString version ++ "\nfatal: index file corrupt"
  | unknownExtension name =>
    "error: index uses " ++ String.ofList (name.map fun byte => Char.ofNat byte.toNat) ++
      " extension, which we do not understand\nfatal: index file corrupt"
  | damaged => "fatal: index file corrupt"
  | notFile => "fatal: " ++ path ++ ": unable to map index file: No such device"

namespace Index

def mark : List UInt8 := [0x44, 0x49, 0x52, 0x43]

/-- The four bytes of a number, the highest first. -/
def word (n : Nat) : List UInt8 :=
  [(n / Nat.pow 2 24).toUInt8, (n / Nat.pow 2 16).toUInt8, (n / Nat.pow 2 8).toUInt8, n.toUInt8]

/-- The number that bytes write, the highest first. -/
def number (bytes : List UInt8) : Nat :=
  bytes.foldl (fun n byte => n * 256 + byte.toNat) 0

/-- The bytes of an entry before its path. -/
def entryHead : Nat := 62

/-- How many zeros follow the path of an entry, so that entries have sizes that are multiples of eight. -/
def padding (pathBytes : Nat) : Nat :=
  8 - (entryHead + pathBytes) % 8

def encodeEntry (path : String) : List UInt8 :=
  let bytes := path.toUTF8.toList
  List.replicate 24 0 ++ word 0x81A4 ++ List.replicate 12 0 ++ List.replicate 20 0xFF ++
    [(min bytes.length 0xFFF / 256).toUInt8, (min bytes.length 0xFFF).toUInt8] ++ bytes ++
    List.replicate (padding bytes.length) 0

def encode (paths : List String) : ByteArray :=
  ⟨(mark ++ word 2 ++ word paths.length ++ paths.flatMap encodeEntry ++ List.replicate 20 0xFF).toArray⟩

def checksumBytes : Nat := 20

/-- Checks what follows the entries: extensions of which those whose names start with a capital may be passed over. -/
def checkExtensions : Nat → List UInt8 → Except IndexFault Unit
  | 0, _ => .ok ()
  | fuel + 1, bytes =>
    if bytes.length < checksumBytes + 8 then .ok ()
    else if (bytes.take 1).all fun byte => 65 ≤ byte && byte ≤ 90 then
      checkExtensions fuel (bytes.drop (8 + number ((bytes.drop 4).take 4)))
    else .error (.unknownExtension ((bytes.take 4).takeWhile (· ≠ 0)))

def decodeEntries : Nat → List UInt8 → Except IndexFault (List String)
  | 0, bytes => (checkExtensions bytes.length bytes).map fun _ => []
  | count + 1, bytes =>
    let path := (bytes.drop entryHead).takeWhile (· ≠ 0)
    if path.isEmpty then .error .damaged
    else
      match String.fromUTF8? ⟨path.toArray⟩ with
      | some text =>
        (decodeEntries count (bytes.drop (entryHead + path.length + padding path.length))).map (text :: ·)
      | none => .error .damaged

def decode (content : ByteArray) : Except IndexFault (List String) :=
  let bytes := content.toList
  if bytes.length < 32 then .error .tooSmall
  else if bytes.take 4 ≠ mark then .error (.badMark (bytes.take 4))
  else
    let version := number ((bytes.drop 4).take 4)
    if version < 2 ∨ 4 < version then .error (.badVersion version)
    else decodeEntries (number ((bytes.drop 8).take 4)) (bytes.drop 12)

end Index

end GuardedPlan
