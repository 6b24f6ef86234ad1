import ErieCanalNet.Go.Map
import ErieCanalNet.Go.Strings

/-!
# JSON texts

`encoding/json`: the compact text of a value, as `Marshal` writes it. The members of an object are
in the order they are given in: the fields of a struct as declared, the keys of a map sorted.

A slice or map is determined by the encodings of its elements (`ofSlice_eq_iff`, `ofMap_eq_iff`).
-/

namespace Go

/-- `null`, numbers that are not negative, strings, slices, and structs or maps. -/
inductive Json
  | null
  | num (n : Nat)
  | str (s : String)
  | arr (elems : List Json)
  | obj (members : List (String × Json))

namespace Json

/-- The text of a rune in a string, with HTML escaping. -/
def escapeRune (c : Char) : List Char :=
  if c = '"' ∨ c = '\\' then ['\\', c]
  else if c = '\n' then ['\\', 'n']
  else if c = '\r' then ['\\', 'r']
  else if c = '\t' then ['\\', 't']
  else if c.toNat < 0x20 ∨ c = '<' ∨ c = '>' ∨ c = '&' then
    ['\\', 'u', '0', '0', Nat.digitChar (c.toNat / 16), Nat.digitChar (c.toNat % 16)]
  else if c = Char.ofNat 0x2028 ∨ c = Char.ofNat 0x2029 then
    ['\\', 'u', '2', '0', '2', Nat.digitChar (c.toNat % 16)]
  else [c]

def quote (s : String) : List Char := '"' :: s.toList.flatMap escapeRune ++ ['"']

mutual

def chars : Json → List Char
  | .null => ['n', 'u', 'l', 'l']
  | .num n => (toString n).toList
  | .str s => quote s
  | .arr [] => ['[', ']']
  | .arr (j :: js) => '[' :: (chars j ++ elemsTail js)
  | .obj [] => ['\x7b', '\x7d']
  | .obj ((k, j) :: ms) => '\x7b' :: (quote k ++ ':' :: (chars j ++ membersTail ms))

/-- What follows the first element. -/
def elemsTail : List Json → List Char
  | [] => [']']
  | j :: js => ',' :: (chars j ++ elemsTail js)

/-- What follows the first member. -/
def membersTail : List (String × Json) → List Char
  | [] => ['\x7d']
  | (k, j) :: ms => ',' :: (quote k ++ ':' :: (chars j ++ membersTail ms))

end

/-- `json.Marshal`. -/
def text (j : Json) : String := String.ofList j.chars

section

variable {V : Type} (value : V → Json)

/-- The encoding of a pointer. -/
def ofPtr : Option V → Json
  | none => .null
  | some v => value v

/-- The encoding of a slice that is `nil` when it is empty. -/
def ofSlice (l : List V) : Json := if l.isEmpty then .null else .arr (l.map value)

/-- The encoding of a map that is `nil` when it is empty. -/
def ofMap (m : Dict V) : Json :=
  if m.isEmpty then .null else .obj (m.toList.map fun entry => (entry.1, value entry.2))

end

/-! ## Slices and maps -/

section

variable {V V' : Type} {value : V → Json} {value' : V' → Json}

theorem ofSlice_eq_iff {l : List V} {l' : List V'} :
    ofSlice value l = ofSlice value' l' ↔ l.map value = l'.map value' := by
  cases l with
  | nil => cases l' <;> simp [ofSlice]
  | cons => cases l' <;> simp [ofSlice]

theorem ofMap_eq_iff {m : Dict V} {m' : Dict V'} : ofMap value m = ofMap value' m' ↔
    m.map (fun _ => value) = m'.map fun _ => value' := by
  have hlist : ∀ {V : Type} {value : V → Json} {m : Dict V}, ofMap value m =
      if (m.map fun _ => value).toList = [] then .null else .obj (m.map fun _ => value).toList := by
    intro V value m
    rw [ofMap, Std.ExtTreeMap.toList_map]
    simp only [List.map_eq_nil_iff, Std.ExtTreeMap.toList_eq_nil_iff, ← Std.ExtTreeMap.isEmpty_iff]
  rw [hlist, hlist, ← Std.ExtTreeMap.toList_inj]
  cases (m.map fun _ => value).toList with
  | nil => cases (m'.map fun _ => value').toList <;> simp
  | cons => cases (m'.map fun _ => value').toList <;> simp

end

end Json

end Go
