import Mathlib.Algebra.Group.Nat.Defs

/-!
# `time.ParseDuration`

A duration is a sign and a list of decimal numbers with units, in nanoseconds. The digits after
a point are scaled in `float64`; that product is the parameter `fraction` of `parseDuration`.
-/

namespace Go

/-- `unitMap`, in nanoseconds. -/
def unitMap : String → Option Nat
  | "ns" => some 1
  | "us" | "µs" | "μs" => some 1000
  | "ms" => some 1000000
  | "s" => some 1000000000
  | "m" => some 60000000000
  | "h" => some 3600000000000
  | _ => none

/-- `leadingInt`: the leading digits and what follows them; `none` is an overflow. -/
def leadingInt : Nat → List Char → Option (Nat × List Char)
  | x, [] => some (x, [])
  | x, c :: cs =>
    if c.isDigit then
      if 2 ^ 63 / 10 < x then none
      else
        let x' := x * 10 + (c.toNat - '0'.toNat)
        if 2 ^ 63 < x' then none else leadingInt x' cs
    else some (x, c :: cs)

/-- `leadingFraction`: the digits that fit, the power of ten they are scaled by, and what follows;
digits past an overflow are dropped. -/
def leadingFraction : Nat → Nat → Bool → List Char → Nat × Nat × List Char
  | x, scale, _, [] => (x, scale, [])
  | x, scale, overflow, c :: cs =>
    if c.isDigit then
      let y := x * 10 + (c.toNat - '0'.toNat)
      if overflow || (2 ^ 63 - 1) / 10 < x || 2 ^ 63 < y then leadingFraction x scale true cs
      else leadingFraction y (scale * 10) false cs
    else (x, scale, c :: cs)

variable (fraction : Nat → Nat → Nat → Nat)

/-- One number with its unit: the value and the rest of the text.
`fraction f unit scale` is `uint64(float64(f) * (float64(unit) / scale))`. -/
def parseUnit (s : List Char) : Option (Nat × List Char) := do
  let c ← s.head?
  if !(c == '.' || c.isDigit) then none
  let (v, s₁) ← leadingInt 0 s
  let pre := s₁.length != s.length
  let (f, scale, s₂, post) :=
    match s₁ with
    | '.' :: cs =>
      let (f, scale, s₂) := leadingFraction 0 1 false cs
      (f, scale, s₂, s₂.length != cs.length)
    | _ => (0, 1, s₁, false)
  if !pre && !post then none
  let (u, s₃) := s₂.span fun c => !(c == '.' || c.isDigit)
  if u.isEmpty then none
  let unit ← unitMap (String.ofList u)
  if 2 ^ 63 / unit < v then none
  let v := if 0 < f then (v * unit + fraction f unit scale) % 2 ^ 64 else v * unit
  if 2 ^ 63 < v then none
  return (v, s₃)

/-- The loop over the numbers. Each one takes a character, so that the length of the text bounds
the rounds. -/
def parseUnits : Nat → List Char → Nat → Option Nat
  | _, [], d => some d
  | 0, _ :: _, _ => none
  | rounds + 1, s, d => do
    let (v, s) ← parseUnit fraction s
    let d := (d + v) % 2 ^ 64
    if 2 ^ 63 < d then none
    parseUnits rounds s d

/-- `time.ParseDuration`, in nanoseconds; `none` is any of its errors. -/
def parseDuration (s : String) : Option Int :=
  let (neg, s) :=
    match s.toList with
    | '-' :: cs => (true, cs)
    | '+' :: cs => (false, cs)
    | cs => (false, cs)
  if s = ['0'] then some 0
  else if s = [] then none
  else
    match parseUnits fraction s.length s 0 with
    | none => none
    | some d => if neg then some (-d) else if 2 ^ 63 - 1 < d then none else some d

example : parseDuration (fun f unit scale => f * unit / scale) "1m30.5s" = some 90500000000 := by
  decide +kernel

end Go
