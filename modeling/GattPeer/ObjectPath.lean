/-!
# Object paths

A path is a sequence of segments between slashes. A namespace holds the paths that begin with its
segments; slashes at its end do not count. The tests work on the characters of a path, as the bus
does, and `segments` is the view on which the laws about them are stated.
-/

namespace GattPeer.ObjectPath

/-- The segments of a path: what stands before, between and after its slashes. -/
def segments : List Char → List (List Char)
  | [] => [[]]
  | c :: cs =>
    if c = '/' then [] :: segments cs
    else match segments cs with
      | [] => [[c]]
      | s :: ss => (c :: s) :: ss

/-- A path without the slashes at its end. -/
def dropSlashes (cs : List Char) : List Char := (cs.reverse.dropWhile (· == '/')).reverse

/-- What stands after the last slash. -/
def lastSegment (cs : List Char) : List Char := (cs.reverse.takeWhile (· != '/')).reverse

/-- A segment without one line feed at its end, which no test of a segment counts. -/
def dropLineFeed (cs : List Char) : List Char :=
  if cs.getLast? = some '\n' then cs.dropLast else cs

/-- Whether a path is a namespace itself or lies below it. The empty namespace holds every path. -/
def isWithin (path space : String) : Bool :=
  let space := dropSlashes space.toList
  space.isEmpty || path.toList == space || (space ++ ['/']).isPrefixOf path.toList

/-! ## Paths that a message can carry

`isValid` stands for the test that the library dbus-fast makes of the path of each message. The
theorems take it as a condition on the path and do not look into it. They use of it only that the
path of the message bus itself passes, which is `isValid_bus`. -/

/-- Whether a character may stand in a segment of a path that a message carries. -/
def isElementChar (c : Char) : Bool := c.isAlphanum || c == '_'

/-- Whether a segment is one that a message can carry. -/
def isElement (segment : List Char) : Bool :=
  let cs := dropLineFeed segment
  !cs.isEmpty && cs.all isElementChar

/-- Whether a message can carry a path: the root, or a slash before each of its elements. -/
def isValid (path : String) : Bool :=
  match path.toList with
  | '/' :: cs => cs.isEmpty || (segments cs).all isElement
  | _ => false

@[simp]
theorem isValid_bus : isValid "/org/freedesktop/DBus" = true := by decide +kernel

end GattPeer.ObjectPath
