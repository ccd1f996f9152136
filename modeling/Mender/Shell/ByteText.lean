import Mender.Disk

/-!
# Texts of bytes

The shell and its utilities know no characters but bytes. Their texts have one
character for each byte, whose code is the byte; texts from outside come in by
their bytes in UTF-8.
-/

namespace Mender.Shell

namespace ByteText

def ofBytes (bytes : Bytes) : String := String.ofList (bytes.map fun b => Char.ofNat b.toNat)

def bytesOf (cs : List Char) : Bytes := cs.map fun c => UInt8.ofNat c.toNat

def toBytes (text : String) : Bytes := bytesOf text.toList

/-- The bytes of a text from outside. -/
def ofText (text : String) : String := ofBytes (Utf8.encode text)

/-- The path that a text of bytes spells. -/
def toPath (text : String) : Path := ⟨toBytes text⟩

/-- A path as a text of bytes. -/
def ofPath (path : Path) : String := ofBytes path.bytes

/-- The path to a location, as a text of bytes. -/
def ofLocation (l : Location) : String := ofPath l.path

/-- The names in a directory, none if it cannot be listed. -/
def namesIn (disk : Disk) (directory : String) : List String :=
  ((disk.names (toPath directory)).toOption.getD []).map ofPath

end ByteText

scoped instance : Coe String Path := ⟨ByteText.toPath⟩

end Mender.Shell
