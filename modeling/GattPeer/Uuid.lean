import GattPeer.Failure
import GattPeer.Text.Blank
import GattPeer.Text.Digit

/-!
# UUIDs

Attribute types are 128-bit numbers. They are read from texts of many spellings: the 16-bit and
32-bit forms are completed by the Bluetooth base, prefixes, braces and dashes are dropped, and what
remains is a hexadecimal numeral of 32 characters. They are written in one: 32 lower-case digits in
five groups.

`parse` stands for `normalize_uuid_str` of the library bleak, and for the class of UUIDs in which it
normalizes. The theorems use two facts of it. What is written reads back, so a normal form is read
as itself: `Uuid.parse_text` in `Uuid/RoundTrip`. And the short forms and the letters of either case
are read as the UUID that they spell: `Uuid.Spells.parse` in `Proofs/Uuid/Spelling`.
-/

namespace GattPeer

/-- The type of an attribute, a 128-bit number. -/
structure Uuid where
  /-- The number. -/
  number : BitVec 128
  deriving DecidableEq, Repr

namespace Uuid

/-! ## Reading -/

/-- What completes a 16-bit or 32-bit UUID. -/
def baseTail : List Char := "-0000-1000-8000-00805f9b34fb".toList

/-- Completes the forms of four and eight characters. -/
def complete (cs : List Char) : List Char :=
  if cs.length = 4 then "0000".toList ++ cs ++ baseTail
  else if cs.length = 8 then cs ++ baseTail
  else cs

/-- Removes a word wherever it stands, from left to right; `skip` characters of an occurrence are
still to be dropped. -/
def removeWord (word : List Char) (skip : Nat) : List Char → List Char
  | [] => []
  | c :: cs =>
    if 0 < skip then removeWord word (skip - 1) cs
    else if word.isPrefixOf (c :: cs) then removeWord word (word.length - 1) cs
    else c :: removeWord word 0 cs

def isBrace (c : Char) : Bool := c == '\x7b' || c == '\x7d'

/-- The characters that carry the number: without prefixes, braces at the ends, and dashes. -/
def digits (s : String) : List Char :=
  -- The two words go one after the other, and neither is looked for again.
  let cs := removeWord "uuid:".toList 0 (removeWord "urn:".toList 0 (complete s.toList))
  (((cs.dropWhile isBrace).reverse.dropWhile isBrace).reverse).filter (· != '-')

/-- A character of a numeral in ASCII: digits of other scripts become ASCII digits and other blanks
become spaces. A character without such a form stays, and is no digit. -/
def plain (c : Char) : Char :=
  if c.toNat < 127 then c
  else if Text.isBlank c then ' '
  else match Text.decimalValue? c with
    | some d => Text.hexDigit d
    | none => c

/-- The value of hexadecimal digits with single underscores between them, after a start `n`;
`afterDigit` tells whether the character before was a digit. -/
def digitsValue? (n : Nat) (afterDigit : Bool) : List Char → Option Nat
  | [] => if afterDigit then some n else none
  | c :: cs =>
    if c == '_' then if afterDigit then digitsValue? n false cs else none
    else match Text.hexValue? c with
      | some d => digitsValue? (n * 16 + d) true cs
      | none => none

/-- Drops the marker of a hexadecimal numeral, and one underscore after it. -/
def dropMarker : List Char → List Char
  | '0' :: 'x' :: '_' :: cs | '0' :: 'X' :: '_' :: cs => cs
  | '0' :: 'x' :: cs | '0' :: 'X' :: cs => cs
  | cs => cs

/-- The value of a hexadecimal numeral, which may have blanks around it, a plus sign, the marker
`0x` and single underscores between its digits. -/
def numeralValue? (cs : List Char) : Option Nat :=
  let cs := Text.trimBlanks (cs.map plain)
  let cs := match cs with
    | '+' :: cs => cs
    | cs => cs
  digitsValue? 0 false (dropMarker cs)

def parse (s : String) : Except Failure Uuid :=
  let cs := digits s
  if cs.length ≠ 32 then .error .uuidLength
  else match numeralValue? cs with
    | some n => .ok ⟨BitVec.ofNat 128 n⟩
    | none => .error (.uuidDigits (String.ofList cs))

/-! ## Writing -/

/-- The characters of a UUID: groups of 8, 4, 4, 4 and 12 digits. -/
def chars (u : Uuid) : List Char :=
  let cs := Text.hexFixed 32 u.number.toNat
  cs.take 8 ++ '-' :: (cs.drop 8).take 4 ++ '-' :: (cs.drop 12).take 4
    ++ '-' :: (cs.drop 16).take 4 ++ '-' :: cs.drop 20

def text (u : Uuid) : String := String.ofList u.chars

end Uuid

end GattPeer
