import GattPeer.Decimal.Shortest
import GattPeer.Signature
import GattPeer.Text.Quoted
import GattPeer.Value

/-!
# Values in log records

`Value.written` is a value as log records quote it. `Value.shown` differs from it on texts alone,
which it gives without quotation marks; it is the reason of an error reply, and a variant shows its
value that way.

`writtenVariant` stands for the text that the library dbus-fast gives to its variants. The theorems
carry texts of values along as they are and use nothing of it.
-/

namespace GattPeer.Value

/-- Texts joined by a comma and a blank. -/
def commaSeparated (parts : List String) : String := ", ".intercalate parts

/-- A variant as log records quote it, around the text of its value. Of a signature of several
complete types only the first is quoted. -/
def writtenVariant (signature content : String) : String :=
  "<dbus_fast.signature.Variant ('" ++ Signature.firstType signature ++ "', " ++ content ++ ")>"

mutual

/-- A value as log records quote it. -/
def written : Value → String
  | .none => "None"
  | .bool value => if value then "True" else "False"
  | .int value => value.repr
  | .real bits => (Decimal.Double.ofBits bits).shortestText
  | .text value => Text.quote value
  | .bytes data => Text.quoteBytes data
  | .buffer data => Text.quoteBuffer data
  | .list items => "[" ++ commaSeparated (writtenItems items) ++ "]"
  | .tuple items =>
    "(" ++ commaSeparated (writtenItems items) ++ (if items.length = 1 then ",)" else ")")
  | .map entries | .pairs entries => "\x7b" ++ commaSeparated (writtenEntries entries) ++ "\x7d"
  | .variant signature (.text value) => writtenVariant signature value
  | .variant signature value => writtenVariant signature (written value)

/-- The items of a list or tuple, each as log records quote it. -/
def writtenItems : List Value → List String
  | [] => []
  | item :: items => written item :: writtenItems items

/-- The entries of a mapping, each as its key and value with a colon between them. -/
def writtenEntries : List (Value × Value) → List String
  | [] => []
  | (key, value) :: entries => (written key ++ ": " ++ written value) :: writtenEntries entries

end

/-- A value as it is shown by itself: a text without quotation marks. -/
def shown : Value → String
  | .text value => value
  | value => value.written

end GattPeer.Value
