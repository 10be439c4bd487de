import GuardedPlan.Text.Decoded

/-!
# Bytes as characters

A shell knows no characters, only bytes. Here a byte is written as the character with its number, so that names, values and lines can be taken apart like any other text. Texts come in through `ofText` and `ofContent` and go out through `toText` and `toContent`.
-/

namespace GuardedPlan.Shell.Bytes

def ofContent (content : ByteArray) : String :=
  String.ofList (content.toList.map fun byte => Char.ofNat byte.toNat)

def ofText (text : String) : String :=
  ofContent text.toUTF8

def toContent (bytes : String) : ByteArray :=
  ⟨(bytes.toList.map fun c => c.toNat.toUInt8).toArray⟩

def toText (bytes : String) : String :=
  Text.decoded (toContent bytes)

end GuardedPlan.Shell.Bytes
