import GattPeer.Text.UpperTable

/-!
# Upper case

The full upper-case mapping, under which a character may become a sequence of several.
-/

namespace GattPeer.Text

/-- Whether a code point lies in a run. -/
def CaseRun.contains (r : CaseRun) (n : Nat) : Bool :=
  r.first ≤ n && n ≤ r.last && (n - r.first) % r.step == 0

def upperChar (c : Char) : List Char :=
  let n := c.toNat
  match upperRuns.find? (·.contains n) with
  | some r => [Char.ofNat (n + r.shift).toNat]
  | none =>
    match upperSequences.lookup n with
    | some ns => ns.map Char.ofNat
    | none => [c]

def upper (s : String) : String := String.ofList (s.toList.flatMap upperChar)

end GattPeer.Text
