import ErieCanalNet.Go.Json

/-!
# Reading JSON texts

`print` lays a value out in a style: in one line, as `json.Marshal` does (`print_compact`), or in
indented lines, as `json.MarshalIndent` does. `decode` is a recursive descent parser of RFC 8259,
for texts whose numbers are not negative and have no fraction.

`decode_print`: the parser gives back every value, in every style that puts nothing but white space
between the tokens. So a text has one value (`text_inj`).
-/

namespace Go.Json

/-! ## Styles -/

/-- What stands between the tokens: before an element or a closing bracket of a depth, and behind a
colon. -/
structure Style where
  newline : Nat → List Char
  colon : List Char

/-- `json.Marshal`. -/
def compact : Style := ⟨fun _ => [], []⟩

/-- `json.MarshalIndent` without a prefix, each depth indented by one blank. -/
def indented : Style := ⟨fun depth => '\n' :: List.replicate depth ' ', [' ']⟩

mutual

def print (style : Style) (depth : Nat) : Json → List Char
  | .null => ['n', 'u', 'l', 'l']
  | .num n => (toString n).toList
  | .str s => quote s
  | .arr [] => ['[', ']']
  | .arr (j :: js) =>
    '[' :: (style.newline (depth + 1) ++ (print style (depth + 1) j ++ printElems style depth js))
  | .obj [] => ['\x7b', '\x7d']
  | .obj ((k, j) :: ms) =>
    '\x7b' :: (style.newline (depth + 1) ++ (quote k ++ ':' :: (style.colon ++
      (print style (depth + 1) j ++ printMembers style depth ms))))

/-- What follows the first element. -/
def printElems (style : Style) (depth : Nat) : List Json → List Char
  | [] => style.newline depth ++ [']']
  | j :: js =>
    ',' :: (style.newline (depth + 1) ++ (print style (depth + 1) j ++ printElems style depth js))

/-- What follows the first member. -/
def printMembers (style : Style) (depth : Nat) : List (String × Json) → List Char
  | [] => style.newline depth ++ ['\x7d']
  | (k, j) :: ms =>
    ',' :: (style.newline (depth + 1) ++ (quote k ++ ':' :: (style.colon ++
      (print style (depth + 1) j ++ printMembers style depth ms))))

end

/-- `json.MarshalIndent(v, "", " ")`. -/
def indent (j : Json) : String := String.ofList (j.print indented 0)

mutual

theorem print_compact (depth : Nat) : ∀ j : Json, j.print compact depth = j.chars
  | .null => by rw [print, chars]
  | .num n => by rw [print, chars]
  | .str s => by rw [print, chars]
  | .arr [] => by rw [print, chars]
  | .arr (j :: js) => by
    rw [print, chars, print_compact _ j, printElems_compact depth js]
    rfl
  | .obj [] => by rw [print, chars]
  | .obj ((k, j) :: ms) => by
    rw [print, chars, print_compact _ j, printMembers_compact depth ms]
    rfl

theorem printElems_compact (depth : Nat) : ∀ js : List Json,
    printElems compact depth js = elemsTail js
  | [] => by rw [printElems, elemsTail]; rfl
  | j :: js => by
    rw [printElems, elemsTail, print_compact _ j, printElems_compact depth js]
    rfl

theorem printMembers_compact (depth : Nat) : ∀ ms : List (String × Json),
    printMembers compact depth ms = membersTail ms
  | [] => by rw [printMembers, membersTail]; rfl
  | (k, j) :: ms => by
    rw [printMembers, membersTail, print_compact _ j, printMembers_compact depth ms]
    rfl

end

/-! ## The parser -/

def isSpace (c : Char) : Bool := c = ' ' || c = '\n' || c = '\r' || c = '\t'

def skipSpace (cs : List Char) : List Char := cs.dropWhile isSpace

/-- What follows a token of one rune. -/
def expect (c : Char) (cs : List Char) : Option (List Char) :=
  match skipSpace cs with
  | x :: r => if x = c then some r else none
  | [] => none

def hexDigit (c : Char) : Option Nat :=
  if c.isDigit then some (c.toNat - 48)
  else if 97 ≤ c.toNat ∧ c.toNat ≤ 102 then some (c.toNat - 87)
  else if 65 ≤ c.toNat ∧ c.toNat ≤ 70 then some (c.toNat - 55)
  else none

/-- The rune of a two-character escape. -/
def escaped (c : Char) : Option Char :=
  if c = '"' ∨ c = '\\' ∨ c = '/' then some c
  else if c = 'b' then some (Char.ofNat 8)
  else if c = 'f' then some (Char.ofNat 12)
  else if c = 'n' then some '\n'
  else if c = 'r' then some '\r'
  else if c = 't' then some '\t'
  else none

/-- The first rune of the text of a string. Half a surrogate pair is no rune. -/
def readRune : List Char → Option (Char × List Char)
  | '\\' :: 'u' :: a :: b :: c :: d :: r => do
    let n := (((← hexDigit a) * 16 + (← hexDigit b)) * 16 + (← hexDigit c)) * 16 + (← hexDigit d)
    guard n.isValidChar
    return (Char.ofNat n, r)
  | '\\' :: c :: r => (escaped c).map fun c => (c, r)
  | c :: r => if c.toNat < 0x20 ∨ c = '\\' then none else some (c, r)
  | [] => none

/-- The runes of a string up to its closing quote, and what follows it. -/
def readString : Nat → List Char → Option (List Char × List Char)
  | 0, _ => none
  | n + 1, cs =>
    if cs.head? = some '"' then some ([], cs.tail)
    else do
      let (c, r) ← readRune cs
      let (s, r) ← readString n r
      return (c :: s, r)

/-- A string with its quotes. -/
def readQuoted (n : Nat) (cs : List Char) : Option (String × List Char) := do
  let r ← expect '"' cs
  let (s, r) ← readString n r
  return (String.ofList s, r)

mutual

/-- A value and what follows it; the fuel is the length of the text. -/
def readValue : Nat → List Char → Option (Json × List Char)
  | 0, _ => none
  | n + 1, cs =>
    match skipSpace cs with
    | [] => none
    | c :: r =>
      if c = 'n' then if r.take 3 = ['u', 'l', 'l'] then some (.null, r.drop 3) else none
      else if c = '"' then (readString n r).map fun (s, r) => (.str (String.ofList s), r)
      else if c = '[' then
        match expect ']' r with
        | some r => some (.arr [], r)
        | none => do
          let (j, r) ← readValue n r
          let (js, r) ← readElems n r
          return (.arr (j :: js), r)
      else if c = '\x7b' then
        match expect '\x7d' r with
        | some r => some (.obj [], r)
        | none => do
          let (k, r) ← readQuoted n r
          let r ← expect ':' r
          let (j, r) ← readValue n r
          let (ms, r) ← readMembers n r
          return (.obj ((k, j) :: ms), r)
      else if c.isDigit then
        some (.num (Nat.ofDigitChars 10 ((c :: r).takeWhile Char.isDigit) 0),
          (c :: r).dropWhile Char.isDigit)
      else none

/-- The elements behind the first one. -/
def readElems : Nat → List Char → Option (List Json × List Char)
  | 0, _ => none
  | n + 1, cs =>
    match expect ']' cs with
    | some r => some ([], r)
    | none => do
      let r ← expect ',' cs
      let (j, r) ← readValue n r
      let (js, r) ← readElems n r
      return (j :: js, r)

/-- The members behind the first one. -/
def readMembers : Nat → List Char → Option (List (String × Json) × List Char)
  | 0, _ => none
  | n + 1, cs =>
    match expect '\x7d' cs with
    | some r => some ([], r)
    | none => do
      let r ← expect ',' cs
      let (k, r) ← readQuoted n r
      let r ← expect ':' r
      let (j, r) ← readValue n r
      let (ms, r) ← readMembers n r
      return ((k, j) :: ms, r)

end

/-- The value of a text. -/
def decode (text : String) : Option Json := do
  let (j, r) ← readValue (text.toList.length + 1) text.toList
  guard (skipSpace r = [])
  return j

/-! ## White space -/

def Spaces (ws : List Char) : Prop := ∀ c ∈ ws, isSpace c = true

/-- A style that puts nothing but white space between the tokens. -/
structure Style.Spaced (style : Style) : Prop where
  newline : ∀ depth, Spaces (style.newline depth)
  colon : Spaces style.colon

theorem spaced_compact : compact.Spaced := ⟨fun _ => List.forall_mem_nil _, List.forall_mem_nil _⟩

theorem spaced_indented : indented.Spaced where
  newline depth := by
    simp only [Spaces, indented, List.forall_mem_cons]
    exact ⟨by decide, fun c hc => by rw [List.eq_of_mem_replicate hc]; decide⟩
  colon := by simp [Spaces, indented, isSpace]

theorem skipSpace_append {ws cs : List Char} (h : Spaces ws) :
    skipSpace (ws ++ cs) = skipSpace cs := by
  rw [skipSpace, List.dropWhile_append_of_pos h, skipSpace]

theorem skipSpace_cons {c : Char} {cs : List Char} (h : isSpace c = false) :
    skipSpace (c :: cs) = c :: cs := by
  rw [skipSpace, List.dropWhile_cons_of_neg (by simp [h])]

theorem expect_append {ws cs : List Char} (h : Spaces ws) (c : Char) :
    expect c (ws ++ cs) = expect c cs := by
  rw [expect, expect, skipSpace_append h]

theorem expect_cons {c x : Char} {cs : List Char} (h : isSpace x = false) :
    expect c (x :: cs) = if x = c then some cs else none := by
  rw [expect, skipSpace_cons h]

/-! ## Strings -/

theorem hexDigit_digitChar : ∀ d < 16, hexDigit (Nat.digitChar d) = some d := by decide

theorem readRune_hex {a b c d n : Nat} (ha : a < 16) (hb : b < 16) (hc : c < 16) (hd : d < 16)
    (hn : ((a * 16 + b) * 16 + c) * 16 + d = n) (hv : n.isValidChar) (r : List Char) :
    readRune ('\\' :: 'u' :: Nat.digitChar a :: Nat.digitChar b :: Nat.digitChar c ::
      Nat.digitChar d :: r) = some (Char.ofNat n, r) := by
  subst hn
  have hguard : (guard (Nat.isValidChar (((a * 16 + b) * 16 + c) * 16 + d)) : Option Unit) =
      some () := if_pos hv
  rw [readRune, hexDigit_digitChar a ha, hexDigit_digitChar b hb, hexDigit_digitChar c hc,
    hexDigit_digitChar d hd]
  show (guard _ >>= fun _ => some (Char.ofNat _, r)) = _
  rw [hguard]
  rfl

theorem readRune_escapeRune (c : Char) (r : List Char) :
    readRune (escapeRune c ++ r) = some (c, r) := by
  unfold escapeRune
  split
  · rename_i h
    cases h with
    | inl h => rw [h]; rfl
    | inr h => rw [h]; rfl
  split
  · rename_i h
    rw [h]
    rfl
  split
  · rename_i h
    rw [h]
    rfl
  split
  · rename_i h
    rw [h]
    rfl
  split
  · rename_i h
    have hlt : c.toNat < 256 := by
      rcases h with h | rfl | rfl | rfl
      · omega
      all_goals decide
    have hrune := readRune_hex (a := 0) (b := 0) (c := c.toNat / 16) (d := c.toNat % 16)
      (n := c.toNat) (by omega) (by omega) (by omega) (by omega) (by omega) c.valid r
    rw [Char.ofNat_toNat] at hrune
    exact hrune
  split
  · rename_i h
    cases h with
    | inl h => rw [h]; rfl
    | inr h => rw [h]; rfl
  · rename_i h _ _ _ hctrl _
    rw [not_or] at h hctrl
    have hne : c ≠ '\\' := h.2
    simp only [List.cons_append, List.nil_append]
    unfold readRune
    split <;> simp_all

theorem escapeRune_ne_quote (c : Char) {r t : List Char} : escapeRune c ++ t ≠ '"' :: r := by
  unfold escapeRune
  split
  · simp
  split
  · simp
  split
  · simp
  split
  · simp
  split
  · simp
  split
  · simp
  · rename_i h _ _ _ _ _
    rw [not_or] at h
    simp [h.1]

theorem readString_escape : ∀ {s : List Char} {n : Nat} (r : List Char), s.length < n →
    readString n (s.flatMap escapeRune ++ '"' :: r) = some (s, r)
  | [], n + 1, r, _ => rfl
  | c :: s, n + 1, r, h => by
    have hhead : ((c :: s).flatMap escapeRune ++ '"' :: r).head? ≠ some '"' := by
      intro hq
      obtain ⟨t, ht⟩ := List.head?_eq_some_iff.1 hq
      rw [List.flatMap_cons, List.append_assoc] at ht
      exact escapeRune_ne_quote c ht
    have hs : s.length < n := by simpa using h
    rw [readString, if_neg hhead, List.flatMap_cons, List.append_assoc, readRune_escapeRune]
    simp [readString_escape r hs]

theorem length_le_escape (s : List Char) : s.length ≤ (s.flatMap escapeRune).length := by
  induction s with
  | nil => exact Nat.le_refl _
  | cons c s ih =>
    have hc : 0 < (escapeRune c).length := by
      unfold escapeRune
      repeat' split
      all_goals simp
    rw [List.flatMap_cons, List.length_append, List.length_cons]
    omega

theorem length_quote (s : String) : s.toList.length + 2 ≤ (quote s).length := by
  have h := length_le_escape s.toList
  simp only [quote, List.length_cons, List.length_append, List.length_nil]
  omega

theorem readQuoted_quote {ws : List Char} (h : Spaces ws) {s : String} {n : Nat} (r : List Char)
    (hn : (quote s).length ≤ n) : readQuoted n (ws ++ (quote s ++ r)) = some (s, r) := by
  have hlen := length_quote s
  rw [readQuoted, expect_append h, quote, List.cons_append, List.cons_append,
    expect_cons (by decide), if_pos rfl]
  simp [readString_escape r (show s.toList.length < n by omega), String.ofList_toList]

/-! ## Values -/

theorem of_isDigit {c : Char} (h : c.isDigit = true) : isSpace c = false ∧ c ≠ ']' := by
  simp only [isSpace, Bool.or_eq_false_iff, decide_eq_false_iff_not]
  refine ⟨⟨⟨⟨?_, ?_⟩, ?_⟩, ?_⟩, ?_⟩ <;> (rintro rfl; revert h; decide)

/-- The first rune of a value. -/
theorem exists_print (style : Style) (depth : Nat) (j : Json) :
    ∃ c cs, j.print style depth = c :: cs ∧ isSpace c = false ∧ c ≠ ']' := by
  match j with
  | .null => exact ⟨_, _, by rw [print], by decide, by decide⟩
  | .num n =>
    cases hd : (toString n).toList with
    | nil => exact (toString_ne_empty n (String.toList_inj.1 hd)).elim
    | cons c cs =>
      have hc : c.isDigit = true := isDigit_of_mem_toString (hd ▸ List.mem_cons_self)
      exact ⟨c, cs, by rw [print, hd], of_isDigit hc⟩
  | .str s => exact ⟨_, _, by rw [print, quote]; rfl, by decide, by decide⟩
  | .arr [] => exact ⟨_, _, by rw [print], by decide, by decide⟩
  | .arr (j :: js) => exact ⟨_, _, by rw [print], by decide, by decide⟩
  | .obj [] => exact ⟨_, _, by rw [print], by decide, by decide⟩
  | .obj ((k, j) :: ms) => exact ⟨_, _, by rw [print], by decide, by decide⟩

section

variable {style : Style}

theorem expect_print {ws : List Char} (h : Spaces ws) (depth : Nat) (j : Json) (r : List Char) :
    expect ']' (ws ++ (j.print style depth ++ r)) = none := by
  obtain ⟨c, cs, hj, hc, hne⟩ := exists_print style depth j
  rw [expect_append h, hj, List.cons_append, expect_cons hc, if_neg hne]

/-- What may follow a value: a number goes on at a digit. -/
def Stops (r : List Char) : Prop := ∀ c ∈ r.head?, c.isDigit = false

theorem stops_space {ws r : List Char} (h : Spaces ws) (hr : Stops r) : Stops (ws ++ r) := by
  cases ws with
  | nil => exact hr
  | cons c ws =>
    have hc := h c (.head _)
    simp only [isSpace, Bool.or_eq_true, decide_eq_true_eq] at hc
    simp only [Stops, List.cons_append, List.head?_cons, Option.mem_some_iff, forall_eq']
    rcases hc with ((rfl | rfl) | rfl) | rfl <;> decide

theorem stops_printElems (hs : style.Spaced) (depth : Nat) (js : List Json) (r : List Char) :
    Stops (printElems style depth js ++ r) := by
  cases js with
  | nil =>
    rw [printElems, List.append_assoc]
    exact stops_space (hs.newline depth) (by simp [Stops])
  | cons j js => simp [printElems, Stops]

theorem stops_printMembers (hs : style.Spaced) (depth : Nat) (ms : List (String × Json))
    (r : List Char) : Stops (printMembers style depth ms ++ r) := by
  cases ms with
  | nil =>
    rw [printMembers, List.append_assoc]
    exact stops_space (hs.newline depth) (by simp [Stops])
  | cons m ms => simp [printMembers, Stops]

theorem readValue_num (m n : Nat) {ws r : List Char} (hws : Spaces ws) (hr : Stops r) :
    readValue (n + 1) (ws ++ ((toString m).toList ++ r)) = some (.num m, r) := by
  have hdigits : ∀ c ∈ (toString m).toList, c.isDigit = true := fun _ => isDigit_of_mem_toString
  have htake : ((toString m).toList ++ r).takeWhile Char.isDigit = (toString m).toList := by
    rw [List.takeWhile_append_of_pos hdigits]
    cases r with
    | nil => simp
    | cons c r => simp [hr c rfl]
  have hdrop : ((toString m).toList ++ r).dropWhile Char.isDigit = r := by
    rw [List.dropWhile_append_of_pos hdigits]
    cases r with
    | nil => rfl
    | cons c r => rw [List.dropWhile_cons_of_neg (by simp [hr c rfl])]
  obtain ⟨c, cs, hc, hspace, -⟩ := exists_print compact 0 (.num m)
  rw [print] at hc
  have hdigit : c.isDigit = true := hdigits c (hc ▸ List.mem_cons_self)
  have hne : c ≠ 'n' ∧ c ≠ '"' ∧ c ≠ '[' ∧ c ≠ '\x7b' := by
    refine ⟨?_, ?_, ?_, ?_⟩ <;> (rintro rfl; revert hdigit; decide)
  rw [readValue, skipSpace_append hws, hc, List.cons_append, skipSpace_cons hspace]
  rw [hc, List.cons_append] at htake hdrop
  simp only [hne, if_false, hdigit, if_true, htake, hdrop]
  rw [← hc, toList_toString, Nat.ofDigitChars_ten_toDigits]

mutual

/-- **The parser gives a value back**, and what follows it. -/
theorem readValue_print (hs : style.Spaced) : ∀ (j : Json) (depth n : Nat) {ws r : List Char},
    Spaces ws → Stops r → (j.print style depth).length < n →
    readValue n (ws ++ (j.print style depth ++ r)) = some (j, r)
  | .null, depth, n + 1, ws, r, hws, _, _ => by
    rw [print, readValue, skipSpace_append hws]
    rfl
  | .num m, depth, n + 1, ws, r, hws, hr, _ => by
    rw [print]
    exact readValue_num m n hws hr
  | .str s, depth, n + 1, ws, r, hws, _, hn => by
    have hlen := length_quote s
    rw [print] at hn ⊢
    rw [readValue, skipSpace_append hws, quote, List.cons_append, List.cons_append,
      skipSpace_cons (by decide)]
    simp [readString_escape r (show s.toList.length < n by omega), String.ofList_toList]
  | .arr [], depth, n + 1, ws, r, hws, _, _ => by
    rw [print, readValue, skipSpace_append hws]
    rfl
  | .arr (j :: js), depth, n + 1, ws, r, hws, _, hn => by
    simp only [print, List.length_cons, List.length_append] at hn
    have hj := readValue_print hs j (depth + 1) n (hs.newline (depth + 1))
      (stops_printElems hs depth js r) (by omega)
    have hjs := readElems_print hs js depth n r (by omega)
    rw [print, readValue, skipSpace_append hws]
    simp only [List.cons_append, List.append_assoc,
      skipSpace_cons (show isSpace '[' = false by decide), Char.reduceEq, if_false, if_true,
      expect_print (hs.newline _), Option.bind_eq_bind, Option.bind_some, hj, hjs]
    rfl
  | .obj [], depth, n + 1, ws, r, hws, _, _ => by
    rw [print, readValue, skipSpace_append hws]
    rfl
  | .obj ((k, j) :: ms), depth, n + 1, ws, r, hws, _, hn => by
    simp only [print, List.length_cons, List.length_append] at hn
    have hk := readQuoted_quote (hs.newline (depth + 1)) (n := n) (s := k)
      (':' :: (style.colon ++ (j.print style (depth + 1) ++ (printMembers style depth ms ++ r))))
      (by omega)
    have hj := readValue_print hs j (depth + 1) n hs.colon
      (stops_printMembers hs depth ms r) (by omega)
    have hms := readMembers_print hs ms depth n r (by omega)
    have hbrace : expect '\x7d' (style.newline (depth + 1) ++ (quote k ++ ':' :: (style.colon ++
        (j.print style (depth + 1) ++ (printMembers style depth ms ++ r))))) = none := by
      rw [expect_append (hs.newline _), quote]
      rfl
    have hcolon : expect ':' (':' :: (style.colon ++ (j.print style (depth + 1) ++
        (printMembers style depth ms ++ r)))) = some (style.colon ++
          (j.print style (depth + 1) ++ (printMembers style depth ms ++ r))) := rfl
    rw [print, readValue, skipSpace_append hws]
    simp only [List.cons_append, List.append_assoc,
      skipSpace_cons (show isSpace '\x7b' = false by decide), Char.reduceEq, if_false, if_true,
      hbrace, hk, Option.bind_eq_bind, Option.bind_some, hcolon, hj, hms]
    rfl

theorem readElems_print (hs : style.Spaced) : ∀ (js : List Json) (depth n : Nat) (r : List Char),
    (printElems style depth js).length ≤ n →
    readElems n (printElems style depth js ++ r) = some (js, r)
  | [], depth, n, r, hn => by
    rw [printElems] at hn ⊢
    obtain ⟨n, rfl⟩ : ∃ m, n = m + 1 := ⟨n - 1, by simp at hn; omega⟩
    rw [readElems, List.append_assoc, expect_append (hs.newline depth)]
    rfl
  | j :: js, depth, n, r, hn => by
    simp only [printElems, List.length_cons, List.length_append] at hn
    obtain ⟨n, rfl⟩ : ∃ m, n = m + 1 := ⟨n - 1, by omega⟩
    have hpos : 0 < (printElems style depth js).length := by cases js <;> simp [printElems]
    have hj := readValue_print hs j (depth + 1) n (hs.newline (depth + 1))
      (stops_printElems hs depth js r) (by omega)
    have hjs := readElems_print hs js depth n r (by omega)
    rw [printElems, readElems]
    simp only [List.cons_append, List.append_assoc, expect_cons (show isSpace ',' = false by decide),
      Char.reduceEq, if_false, if_true, Option.bind_eq_bind, Option.bind_some, hj, hjs]
    rfl

theorem readMembers_print (hs : style.Spaced) : ∀ (ms : List (String × Json)) (depth n : Nat)
    (r : List Char), (printMembers style depth ms).length ≤ n →
    readMembers n (printMembers style depth ms ++ r) = some (ms, r)
  | [], depth, n, r, hn => by
    rw [printMembers] at hn ⊢
    obtain ⟨n, rfl⟩ : ∃ m, n = m + 1 := ⟨n - 1, by simp at hn; omega⟩
    rw [readMembers, List.append_assoc, expect_append (hs.newline depth)]
    rfl
  | (k, j) :: ms, depth, n, r, hn => by
    simp only [printMembers, List.length_cons, List.length_append] at hn
    obtain ⟨n, rfl⟩ : ∃ m, n = m + 1 := ⟨n - 1, by omega⟩
    have hk := readQuoted_quote (hs.newline (depth + 1)) (n := n) (s := k)
      (':' :: (style.colon ++ (j.print style (depth + 1) ++ (printMembers style depth ms ++ r))))
      (by omega)
    have hj := readValue_print hs j (depth + 1) n hs.colon
      (stops_printMembers hs depth ms r) (by omega)
    have hms := readMembers_print hs ms depth n r (by omega)
    have hcolon : expect ':' (':' :: (style.colon ++ (j.print style (depth + 1) ++
        (printMembers style depth ms ++ r)))) = some (style.colon ++
          (j.print style (depth + 1) ++ (printMembers style depth ms ++ r))) := rfl
    rw [printMembers, readMembers]
    simp only [List.cons_append, List.append_assoc, expect_cons (show isSpace ',' = false by decide),
      Char.reduceEq, if_false, if_true, Option.bind_eq_bind, Option.bind_some, hk, hcolon, hj, hms]
    rfl

end

/-- **Every text of a value decodes to it.** -/
theorem decode_print (hs : style.Spaced) (j : Json) :
    decode (String.ofList (j.print style 0)) = some j := by
  have hend : Stops [] := by simp [Stops]
  have h := readValue_print hs j 0 ((j.print style 0).length + 1) (List.forall_mem_nil _) hend
    (by omega)
  rw [List.nil_append, List.append_nil] at h
  rw [decode, String.toList_ofList, h]
  rfl

end

theorem decode_text (j : Json) : decode j.text = some j := by
  rw [text, ← print_compact 0, decode_print spaced_compact]

/-- **A text has one value**, the one the parser reads. -/
theorem text_inj {j j' : Json} (h : j.text = j'.text) : j = j' := by
  have hread : some j = some j' := by rw [← decode_text j, h, decode_text j']
  exact Option.some.inj hread

theorem decode_indent (j : Json) : decode j.indent = some j := decode_print spaced_indented j

end Go.Json
