import Mathlib.Algebra.Group.Nat.Defs
import Mathlib.Data.List.Basic

/-!
# Strings of the Go standard library

`strings.Split`, `strings.FieldsFunc`, `strings.EqualFold`, `strings.ToLower`, `strings.Contains`
and `strconv.ParseUint` over the characters of a string; `fmt`'s `%s` and `%d` are `++` and
`toString`. The lemmas are those a codec built on them needs:

* `split_eq_singleton`, `split_cons`: a text without the separator splits into itself, and one
  that starts with such a text has it as its first piece; `split_intercalate`: joined pieces come
  apart again;
* `fieldsFunc_cons`, `fieldsFunc_last`: the first field of a text is read up to its separator,
  and a text without separators is one field;
* `parseUint_toString`: a printed number that fits parses back.
-/

namespace Go

/-- `strings.Split(s, sep)` for a separator of one character. -/
def split (s : String) (sep : Char) : List String :=
  (s.toList.splitOn sep).map String.ofList

/-- `strings.FieldsFunc(s, p)`: the maximal runs of characters outside `p`, no run empty. -/
def fieldsFunc (s : String) (p : Char → Bool) : List String :=
  ((s.toList.splitOnP p).filter fun f => !f.isEmpty).map String.ofList

/-- `strings.EqualFold(s, t)` on ASCII texts: equality up to case. -/
def equalFold (s t : String) : Bool :=
  s.toList.map Char.toLower == t.toList.map Char.toLower

/-- `unicode.ToLower`. Of the letters outside ASCII these two have an ASCII lower case; the others
are left alone. -/
def lowerRune (c : Char) : Char :=
  if c = 'İ' then 'i' else if c = '\u212a' then 'k' else c.toLower

/-- `strings.ToLower`. -/
def toLower (s : String) : String := String.ofList (s.toList.map lowerRune)

/-- `strings.Contains(s, c)` for a pattern of one character. -/
def contains (s : String) (c : Char) : Bool := s.toList.contains c

/-- `strings.HasPrefix(s, p)`. -/
def hasPrefix (s p : String) : Bool := p.toList.isPrefixOf s.toList

/-- `strings.HasSuffix(s, p)`. -/
def hasSuffix (s p : String) : Bool := p.toList.isSuffixOf s.toList

/-- A match of the pattern `:\d+$`. -/
def endsInPort (s : String) : Bool :=
  let rev := s.toList.reverse
  !(rev.takeWhile Char.isDigit).isEmpty && (rev.dropWhile Char.isDigit).head? == some ':'

/-! ## Splitting -/

theorem split_eq_singleton {s : String} {sep : Char} (h : sep ∉ s.toList) : split s sep = [s] := by
  have hs : s.toList.splitOn sep = [s.toList] := by
    rw [List.splitOn_eq_splitOnP]
    exact List.splitOnP_eq_singleton fun c hc => by
      simp only [beq_eq_false_iff_ne]; rintro rfl; exact h hc
  simp [split, hs]

theorem split_append_sep (s t : String) (sep : Char) :
    split (s ++ String.singleton sep ++ t) sep = split s sep ++ split t sep := by
  have h := List.splitOnP_append_cons (p := (· == sep)) s.toList t.toList (beq_self_eq_true sep)
  simp [split, List.splitOn_eq_splitOnP, h]

/-- A text without the separator, then the separator, is the first piece. -/
theorem split_cons {s t : String} {sep : Char} (h : sep ∉ s.toList) :
    split (s ++ String.singleton sep ++ t) sep = s :: split t sep := by
  rw [split_append_sep, split_eq_singleton h]
  rfl

/-- Splitting undoes joining, for pieces without the separator. -/
theorem split_intercalate {sep : Char} {pieces : List String} (hne : pieces ≠ [])
    (h : ∀ s ∈ pieces, sep ∉ s.toList) :
    split ((String.singleton sep).intercalate pieces) sep = pieces := by
  rw [split, String.toList_intercalate, String.toList_singleton, List.splitOn_intercalate]
  · simp
  · simpa using h
  · simpa using hne

/-- The last piece of a split has no separator. -/
theorem notMem_getLast_split (s : String) (sep : Char) (h : split s sep ≠ []) :
    sep ∉ ((split s sep).getLast h).toList := by
  suffices hp : ∀ l : List Char, ∀ w ∈ l.splitOn sep, sep ∉ w by
    obtain ⟨w, hw, he⟩ := List.mem_map.1 (List.getLast_mem h)
    rw [← he]
    simpa using hp _ w hw
  intro l
  rw [List.splitOn_eq_splitOnP]
  induction l with
  | nil => simp
  | cons c l ih =>
    rw [List.splitOnP_cons_eq_if_modifyHead]
    split
    · simpa using ih
    · rename_i hc
      cases hl : l.splitOnP (· == sep) with
      | nil => exact absurd hl (List.splitOnP_ne_nil _ _)
      | cons w ws =>
        rw [hl] at ih
        simp only [List.modifyHead_cons, List.mem_cons, forall_eq_or_imp] at ih ⊢
        refine ⟨fun hm => ?_, ih.2⟩
        rcases hm with rfl | hm
        · simp at hc
        · exact ih.1 hm

theorem fieldsFunc_last {s : String} {p : Char → Bool} (hne : s ≠ "")
    (h : ∀ c ∈ s.toList, p c = false) : fieldsFunc s p = [s] := by
  have hne' : s.toList ≠ [] := fun he => hne (String.toList_inj.1 (by simpa using he))
  simp [fieldsFunc, List.splitOnP_eq_singleton h, hne']

/-- A non-empty text outside `p`, then a separator, is the first field. -/
theorem fieldsFunc_cons {s t : String} {sep : Char} {p : Char → Bool} (hne : s ≠ "")
    (h : ∀ c ∈ s.toList, p c = false) (hsep : p sep = true) :
    fieldsFunc (s ++ String.singleton sep ++ t) p = s :: fieldsFunc t p := by
  have hne' : s.toList ≠ [] := fun he => hne (String.toList_inj.1 (by simpa using he))
  simp [fieldsFunc, List.splitOnP_append_cons_of_forall_mem h sep hsep, hne']

/-- A capital letter moves up by 32, every other character stays. -/
theorem toLower_char (c : Char) :
    (65 ≤ c.toNat ∧ c.toNat ≤ 90 ∧ c.toLower.toNat = c.toNat + 32) ∨
      (¬ (65 ≤ c.toNat ∧ c.toNat ≤ 90) ∧ c.toLower = c) := by
  unfold Char.toLower
  split
  · rename_i hu
    have hlt : c.toNat < 2 ^ 32 := c.val.toNat_lt
    simp [UInt32.le_iff_toNat_le] at hu
    refine .inl ⟨hu.1, hu.2, ?_⟩
    simp
    omega
  · rename_i hu
    simp only [ge_iff_le, UInt32.le_iff_toNat_le] at hu
    exact .inr ⟨hu, rfl⟩

theorem toLower_eq_dot {c : Char} (h : c.toLower = '.') : c = '.' := by
  rcases toLower_char c with ⟨hlo, -, hn⟩ | ⟨-, hc⟩
  · rw [h] at hn
    simp at hn
    omega
  · rwa [hc] at h

theorem lowerRune_lowerRune (c : Char) : lowerRune (lowerRune c) = lowerRune c := by
  by_cases h1 : c = 'İ'
  · subst h1; decide
  by_cases h2 : c = '\u212a'
  · subst h2; decide
  have hc : lowerRune c = c.toLower := by simp [lowerRune, h1, h2]
  rcases toLower_char c with ⟨hlo, hhi, hn⟩ | ⟨-, hs⟩
  · have hsmall : ∀ d : Char, d.toNat = c.toNat + 32 → lowerRune d = d := by
      intro d hd
      rcases toLower_char d with ⟨-, hd', -⟩ | ⟨-, hd'⟩
      · omega
      · have h3 : d ≠ 'İ' := by rintro rfl; simp at hd; omega
        have h4 : d ≠ '\u212a' := by rintro rfl; simp at hd; omega
        simp [lowerRune, h3, h4, hd']
    rw [hc, hsmall _ hn]
  · rw [hc, hs, hc, hs]

theorem toLower_toLower (s : String) : toLower (toLower s) = toLower s := by
  simp [toLower, List.map_map, Function.comp_def, lowerRune_lowerRune]

/-- Lower-casing keeps a character that is its own lower case. -/
theorem mem_toLower {s : String} {c : Char} (hc : lowerRune c = c) (h : c ∈ s.toList) :
    c ∈ (toLower s).toList := by
  rw [toLower, String.toList_ofList]
  exact List.mem_map.2 ⟨c, h, hc⟩

theorem dot_mem_of_equalFold {s t : String} (h : equalFold s t = true) (hd : '.' ∈ t.toList) :
    '.' ∈ s.toList := by
  have hs : '.' ∈ s.toList.map Char.toLower := by
    rw [equalFold, beq_iff_eq] at h
    exact h ▸ List.mem_map.2 ⟨'.', hd, rfl⟩
  obtain ⟨c, hc, hl⟩ := List.mem_map.1 hs
  exact toLower_eq_dot hl ▸ hc

/-- A text is cut in one way only after its characters in `p`. -/
theorem append_inj_of_span {p : Char → Bool} {l l' r r' : List Char} (hl : ∀ c ∈ l, p c = true)
    (hl' : ∀ c ∈ l', p c = true) (hr : ∀ c ∈ r.head?, p c = false)
    (hr' : ∀ c ∈ r'.head?, p c = false) (h : l ++ r = l' ++ r') : l = l' ∧ r = r' := by
  have stop : ∀ {r : List Char}, (∀ c ∈ r.head?, p c = false) → r.takeWhile p = [] := by
    intro r hr
    cases r with
    | nil => rfl
    | cons c r => simp [hr c rfl]
  have hll : l = l' := by
    have ht := congrArg (List.takeWhile p) h
    rwa [List.takeWhile_append_of_pos hl, List.takeWhile_append_of_pos hl', stop hr, stop hr',
      List.append_nil, List.append_nil] at ht
  subst hll
  exact ⟨rfl, List.append_cancel_left h⟩

theorem append_cons_inj {sep : Char} {l l' r r' : List Char} (hl : sep ∉ l) (hl' : sep ∉ l')
    (h : l ++ sep :: r = l' ++ sep :: r') : l = l' ∧ r = r' := by
  have hne : ∀ {l : List Char}, sep ∉ l → ∀ c ∈ l, (c != sep) = true := fun hl c hc =>
    bne_iff_ne.2 fun he => hl (he ▸ hc)
  obtain ⟨h1, h2⟩ := append_inj_of_span (hne hl) (hne hl') (by simp) (by simp) h
  exact ⟨h1, List.tail_eq_of_cons_eq h2⟩

/-- Two texts joined by a separator that the first of them lacks determine both. -/
theorem append_sep_inj {a b a' b' t : String} {sep : Char} (ha : sep ∉ a.toList)
    (ha' : sep ∉ a'.toList) (ht : t.toList = [sep]) (h : a ++ t ++ b = a' ++ t ++ b') :
    a = a' ∧ b = b' := by
  have hl : a.toList ++ sep :: b.toList = a'.toList ++ sep :: b'.toList := by
    simpa [String.toList_append, ht] using congrArg String.toList h
  obtain ⟨h1, h2⟩ := append_cons_inj ha ha' hl
  exact ⟨String.toList_inj.1 h1, String.toList_inj.1 h2⟩

/-- Two texts joined by a separator that the second of them lacks determine both. -/
theorem append_sep_inj_right {a b a' b' t : String} {sep : Char} (hb : sep ∉ b.toList)
    (hb' : sep ∉ b'.toList) (ht : t.toList = [sep]) (h : a ++ t ++ b = a' ++ t ++ b') :
    a = a' ∧ b = b' := by
  have hl : b.toList.reverse ++ sep :: a.toList.reverse =
      b'.toList.reverse ++ sep :: a'.toList.reverse := by
    simpa [String.toList_append, ht] using congrArg (fun s => s.toList.reverse) h
  obtain ⟨h1, h2⟩ := append_cons_inj (by simpa using hb) (by simpa using hb') hl
  exact ⟨String.toList_inj.1 (List.reverse_inj.1 h2), String.toList_inj.1 (List.reverse_inj.1 h1)⟩

/-! ## Numbers -/

/-- The error kinds of `strconv`. -/
inductive NumError
  | errSyntax
  | errRange
deriving DecidableEq, Repr

/-- The digit loop of `strconv.ParseUint` in base 10: a value past `maxVal` ends it at once. -/
def parseUintLoop (maxVal : Nat) : List Char → Nat → Nat × Option NumError
  | [], n => (n, none)
  | c :: cs, n =>
    if c.isDigit then
      let n1 := 10 * n + (c.toNat - '0'.toNat)
      if maxVal < n1 then (maxVal, some .errRange) else parseUintLoop maxVal cs n1
    else (0, some .errSyntax)

/-- `strconv.ParseUint(s, 10, bitSize)`: the value and the error. -/
def parseUint (s : String) (bitSize : Nat) : Nat × Option NumError :=
  if s.isEmpty then (0, some .errSyntax) else parseUintLoop (2 ^ bitSize - 1) s.toList 0

theorem le_ofDigitChars (cs : List Char) (n : Nat) : n ≤ Nat.ofDigitChars 10 cs n := by
  rw [Nat.ofDigitChars_eq_ofDigitChars_zero]
  have : 1 * n ≤ 10 ^ cs.length * n := Nat.mul_le_mul_right _ (Nat.one_le_pow _ _ (by decide))
  omega

theorem parseUintLoop_digits {maxVal : Nat} : ∀ (cs : List Char) (n : Nat),
    (∀ c ∈ cs, c.isDigit = true) → Nat.ofDigitChars 10 cs n ≤ maxVal →
    parseUintLoop maxVal cs n = (Nat.ofDigitChars 10 cs n, none)
  | [], _, _, _ => by simp [parseUintLoop]
  | c :: cs, n, hd, hle => by
    rw [Nat.ofDigitChars_cons] at hle ⊢
    have hle' := le_ofDigitChars cs (10 * n + (c.toNat - '0'.toNat))
    rw [parseUintLoop, if_pos (hd c (.head _)), if_neg (by omega)]
    exact parseUintLoop_digits cs _ (fun c hc => hd c (.tail _ hc)) hle

theorem toList_toString (n : Nat) : (toString n).toList = Nat.toDigits 10 n := Nat.toList_repr

theorem isDigit_of_mem_toString {n : Nat} {c : Char} (h : c ∈ (toString n).toList) :
    c.isDigit = true := by
  rw [toList_toString] at h
  exact Nat.isDigit_of_mem_toDigits (by decide) (by decide) h

theorem notMem_toString {sep : Char} (h : sep.isDigit = false) (n : Nat) :
    sep ∉ (toString n).toList := fun hm => by
  rw [isDigit_of_mem_toString hm] at h
  cases h

theorem toString_ne_empty (n : Nat) : toString n ≠ "" := fun h => by
  have := congrArg String.toList h
  rw [toList_toString] at this
  exact Nat.toDigits_ne_nil this

theorem toString_inj {m n : Nat} : toString m = toString n ↔ m = n := by
  refine ⟨fun h => ?_, congrArg _⟩
  have hd := congrArg (fun s => Nat.ofDigitChars 10 s.toList 0) h
  simpa [toList_toString] using hd

/-- **A number printed with `%d`** that fits in `bitSize` bits parses back. -/
theorem parseUint_toString {n bitSize : Nat} (h : n < 2 ^ bitSize) :
    parseUint (toString n) bitSize = (n, none) := by
  have he : (toString n).isEmpty = false := by
    simp
  rw [parseUint, he, if_neg (by simp), toList_toString, parseUintLoop_digits]
  · rw [Nat.ofDigitChars_ten_toDigits]
  · exact fun c hc => Nat.isDigit_of_mem_toDigits (by decide) (by decide) hc
  · rw [Nat.ofDigitChars_ten_toDigits]; omega

/-! ## Signed numbers -/

theorem notMem_toString_int {c : Char} (hdigit : c.isDigit = false) (hminus : c ≠ '-') (z : Int) :
    c ∉ (toString z).toList := by
  cases z with
  | ofNat n => exact notMem_toString hdigit n
  | negSucc n =>
    have htext : toString (Int.negSucc n) = "-" ++ toString (n + 1) := rfl
    rw [htext, String.toList_append, List.mem_append]
    intro h
    rcases h with h | h
    · exact hminus (by simpa using h)
    · exact notMem_toString hdigit _ h

theorem toString_int_inj {y z : Int} : toString y = toString z ↔ y = z := by
  refine ⟨fun h => ?_, congrArg _⟩
  have hminus : ∀ n m : Nat, toString (n : Int) ≠ toString (Int.negSucc m) := fun n m he => by
    have htext : toString (Int.negSucc m) = "-" ++ toString (m + 1) := rfl
    have hmem : '-' ∈ (toString (n : Int)).toList := by
      rw [he, htext, String.toList_append]
      exact List.mem_append_left _ (by decide)
    exact notMem_toString (by decide) n hmem
  cases y with
  | ofNat n =>
    cases z with
    | ofNat m => exact congrArg _ (toString_inj.1 h)
    | negSucc m => exact absurd h (hminus n m)
  | negSucc n =>
    cases z with
    | ofNat m => exact absurd h.symm (hminus m n)
    | negSucc m =>
      have htext : "-" ++ toString (n + 1) = "-" ++ toString (m + 1) := h
      have hnat := toString_inj.1 (String.append_right_inj _ |>.1 htext)
      rw [Nat.succ.inj hnat]

theorem parseUint_toString_int {z : Int} {bitSize : Nat} (h0 : 0 ≤ z)
    (h : z.toNat < 2 ^ bitSize) :
    parseUint (toString z) bitSize = (z.toNat, none) := by
  obtain ⟨n, rfl⟩ := Int.eq_ofNat_of_zero_le h0
  rw [Int.toNat_natCast] at h ⊢
  exact parseUint_toString h

/-! ## Ends of texts -/

theorem hasSuffix_iff {s p : String} : hasSuffix s p = true ↔ ∃ t, s = t ++ p := by
  rw [hasSuffix, List.isSuffixOf_iff_suffix]
  constructor
  · intro h
    obtain ⟨l, hl⟩ := h
    exact ⟨String.ofList l, by simp [← String.toList_inj, ← hl]⟩
  · intro h
    obtain ⟨t, rfl⟩ := h
    exact ⟨t.toList, by simp⟩

/-- A text with a port after it. -/
theorem endsInPort_append (s : String) (n : Nat) :
    endsInPort (s ++ ":" ++ toString n) = true := by
  have hdig : ∀ x ∈ (toString n).toList.reverse, x.isDigit = true := fun x hx =>
    isDigit_of_mem_toString (List.mem_reverse.1 hx)
  have hrev : (s ++ ":" ++ toString n).toList.reverse =
      (toString n).toList.reverse ++ ':' :: s.toList.reverse := by simp [String.toList_append]
  rw [endsInPort, hrev, List.dropWhile_append_of_pos hdig, List.takeWhile_append_of_pos hdig]
  simp

example : parseUint "4294967296" 32 = (4294967295, some .errRange) := by decide

end Go
