/-!
# Type signatures

A signature is a sequence of complete types. A complete type is one character; the character of an
array and the complete type of its items; or complete types between brackets, round for a structure
and curly for an entry of a mapping.

This stands for the parser of the library dbus-fast. Only `Value.writtenVariant` uses it, and the
theorems use nothing of it.
-/

namespace GattPeer.Signature

/-- The characters up to the end of a complete type, within so many brackets that are open. -/
def untilClosed (depth : Nat) : List Char → List Char
  | [] => []
  | c :: cs =>
    if c = 'a' then c :: untilClosed depth cs
    else if c = '(' ∨ c = '\x7b' then c :: untilClosed (depth + 1) cs
    else
      let depth := if c = ')' ∨ c = '\x7d' then depth - 1 else depth
      c :: if depth = 0 then [] else untilClosed depth cs

/-- The first complete type of a signature. -/
def firstType (signature : String) : String := .ofList (untilClosed 0 signature.toList)

end GattPeer.Signature
