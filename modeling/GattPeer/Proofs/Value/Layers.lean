import GattPeer.Value

/-!
# Variant layers

A variant labels a value with a type signature, and a labelled value can be labelled again. Two
views leave the labels out: what a value holds beneath its outer layers (`Holds`), and the value
without any layer at any depth (`bare`). Two values have the same bare value if and only if they
differ in nothing but their layers.
-/

namespace GattPeer.Value

variable {value core : Value}

/-! ## Outer layers -/

/-- A value holds another one, which is no variant, beneath any number of layers. -/
inductive Holds : Value → Value → Prop
  /-- What is no variant holds itself. -/
  | bare {core : Value} (h : ∀ signature inner, core ≠ .variant signature inner) : Holds core core
  /-- A variant holds what the value in it holds. -/
  | layer {value core : Value} (signature : String) (h : Holds value core) :
    Holds (.variant signature value) core

theorem holds_unwrap (value : Value) : value.Holds value.unwrap := by
  fun_induction unwrap value with
  | case1 signature value ih => exact .layer signature ih
  | case2 value hbare => exact .bare hbare

theorem unwrap_eq_iff : value.unwrap = core ↔ value.Holds core := by
  constructor
  · rintro rfl
    exact holds_unwrap value
  · intro h
    induction h with
    | @bare core hbare =>
      cases core with
      | variant signature inner => exact absurd rfl (hbare signature inner)
      | _ => rfl
    | layer _ _ ih => exact ih

/-! ## Layers at any depth -/

mutual

/-- A value without the layers around it and inside it. -/
def bare : Value → Value
  | .variant _ value => bare value
  | .list items => .list (bareItems items)
  | .tuple items => .tuple (bareItems items)
  | .map entries => .map (bareEntries entries)
  | .pairs entries => .pairs (bareEntries entries)
  | value => value

/-- The items of a list or tuple, each without its layers. -/
def bareItems : List Value → List Value
  | [] => []
  | item :: items => bare item :: bareItems items

/-- The entries of a mapping, keys and values without their layers. -/
def bareEntries : List (Value × Value) → List (Value × Value)
  | [] => []
  | (key, value) :: entries => (bare key, bare value) :: bareEntries entries

end

@[simp] theorem bareItems_eq_map (items : List Value) : bareItems items = items.map bare := by
  induction items with
  | nil => rfl
  | cons item items ih => rw [bareItems, ih, List.map_cons]

@[simp] theorem bareEntries_eq_map (entries : List (Value × Value)) :
    bareEntries entries = entries.map (Prod.map bare bare) := by
  induction entries with
  | nil => rfl
  | cons entry entries ih =>
    rw [bareEntries, ih, List.map_cons]
    rfl

@[simp] theorem bare_variant (signature : String) (value : Value) :
    (variant signature value).bare = value.bare := by
  rw [bare]

@[simp] theorem bare_list (items : List Value) : (list items).bare = .list (items.map bare) := by
  rw [bare, bareItems_eq_map]

@[simp] theorem bare_tuple (items : List Value) :
    (tuple items).bare = .tuple (items.map bare) := by
  rw [bare, bareItems_eq_map]

@[simp] theorem bare_map (entries : List (Value × Value)) :
    (map entries).bare = .map (entries.map (Prod.map bare bare)) := by
  rw [bare, bareEntries_eq_map]

@[simp] theorem bare_pairs (entries : List (Value × Value)) :
    (pairs entries).bare = .pairs (entries.map (Prod.map bare bare)) := by
  rw [bare, bareEntries_eq_map]

@[simp] theorem bare_unwrap (value : Value) : value.unwrap.bare = value.bare := by
  fun_induction unwrap value with
  | case1 signature value ih => rw [ih, bare_variant]
  | case2 value => rfl

theorem unwrap_bare (value : Value) : value.bare.unwrap = value.unwrap.bare := by
  fun_induction unwrap value with
  | case1 signature value ih => rw [bare_variant, ih]
  | case2 value hbare =>
    cases value with
    | variant signature inner => exact absurd rfl (hbare signature inner)
    | _ => simp [bare, unwrap]

mutual

theorem bare_bare : ∀ value : Value, value.bare.bare = value.bare
  | .variant _ value => by rw [bare, bare_bare value]
  | .list items => by rw [bare, bare, bareItems_bareItems items]
  | .tuple items => by rw [bare, bare, bareItems_bareItems items]
  | .map entries => by rw [bare, bare, bareEntries_bareEntries entries]
  | .pairs entries => by rw [bare, bare, bareEntries_bareEntries entries]
  | .none | .bool _ | .int _ | .real _ | .text _ | .bytes _ | .buffer _ => rfl

theorem bareItems_bareItems : ∀ items : List Value, bareItems (bareItems items) = bareItems items
  | [] => rfl
  | item :: items => by rw [bareItems, bareItems, bare_bare item, bareItems_bareItems items]

theorem bareEntries_bareEntries :
    ∀ entries : List (Value × Value), bareEntries (bareEntries entries) = bareEntries entries
  | [] => rfl
  | (key, value) :: entries => by
    rw [bareEntries, bareEntries, bare_bare key, bare_bare value, bareEntries_bareEntries entries]

end

end GattPeer.Value
