import GattPeer.Text.Digit
import GattPeer.Text.Printable

/-!
# Quoted text

How texts and byte strings are written inside log records. The quotation mark is the single one,
unless the text holds single marks and no double ones. The mark and the backslash are escaped by a
backslash; line feed, carriage return and tabulator have letters; every other character that does
not stand for itself is written by its code point, in the shortest of the three lengths. A byte
string in a buffer differs in one point: its single marks are escaped whatever the quotation mark.
-/

namespace GattPeer.Text

/-- The quotation mark for a text. -/
def quoteMark (cs : List Char) : Char :=
  if cs.contains '\'' && !cs.contains '"' then '"' else '\''

/-- One character of a quoted text, in which a mark is escaped; `standsForItself` tells which
characters need no code point. -/
def quoteChar (standsForItself : Char → Bool) (escaped c : Char) : List Char :=
  if c == escaped || c == '\\' then ['\\', c]
  else if c == '\n' then ['\\', 'n']
  else if c == '\r' then ['\\', 'r']
  else if c == '\t' then ['\\', 't']
  else if standsForItself c then [c]
  else if c.toNat < 0x100 then '\\' :: 'x' :: hexFixed 2 c.toNat
  else if c.toNat < 0x10000 then '\\' :: 'u' :: hexFixed 4 c.toNat
  else '\\' :: 'U' :: hexFixed 8 c.toNat

def quoteWith (standsForItself : Char → Bool) (mark escaped : Char) (cs : List Char) : List Char :=
  mark :: cs.flatMap (quoteChar standsForItself escaped) ++ [mark]

/-- A text between quotation marks; printable characters stand for themselves. -/
def quote (s : String) : String :=
  let mark := quoteMark s.toList
  String.ofList (quoteWith isPrintable mark mark s.toList)

/-- The printable characters of ASCII. -/
def isPlain (c : Char) : Bool := 0x20 ≤ c.toNat && c.toNat < 0x7f

def charsOfBytes (data : List UInt8) : List Char := data.map fun b ↦ Char.ofNat b.toNat

/-- A byte string between quotation marks, with the letter `b` before them; printable ASCII stands
for itself. -/
def quoteBytes (data : List UInt8) : String :=
  let mark := quoteMark (charsOfBytes data)
  String.ofList ('b' :: quoteWith isPlain mark mark (charsOfBytes data))

/-- A byte string in a buffer, in which single marks are always escaped. -/
def quoteBuffer (data : List UInt8) : String :=
  let mark := quoteMark (charsOfBytes data)
  "bytearray(" ++ String.ofList ('b' :: quoteWith isPlain mark '\'' (charsOfBytes data)) ++ ")"

end GattPeer.Text
