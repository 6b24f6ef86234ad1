import ErieCanalNet.Go.Strings
import ErieCanalNet.Lib.Bytes

/-!
# `net.IP`, `net.ParseIP` and `IP.String`

An IP is sixteen bytes, an IPv4 address in its v4-mapped form. `parseIP` follows the standard
library: the first `.` or `:` of the text decides between the dotted and the colon form;
a dotted octet has no leading zero; a colon form has at most one ellipsis and may end in a
dotted form.
-/

namespace Go

open Lib

/-- `net.IP` in its 16-byte form. -/
structure IP where
  bytes : List Byte
  len : bytes.length = 16
deriving DecidableEq

/-- `net.IP` of sixteen bytes, if there are sixteen. -/
def IP.ofBytes (bs : List Byte) : Option IP :=
  if h : bs.length = 16 then some ⟨bs, h⟩ else none

/-- The twelve leading bytes of a v4-mapped address. -/
def v4InV6Prefix : List Byte := List.replicate 10 0 ++ [0xff, 0xff]

/-- `net.IPv4(a, b, c, d)`. -/
def ipv4 (a b c d : Byte) : IP := ⟨v4InV6Prefix ++ [a, b, c, d], rfl⟩

/-- `IP.To4`: the four address bytes of a v4-mapped address. -/
def IP.to4 (ip : IP) : Option (List Byte) :=
  if ip.bytes.take 12 = v4InV6Prefix then some (ip.bytes.drop 12) else none

/-! ## Parsing -/

/-- One decimal octet: no leading zero, at most 255. -/
def parseOctet (s : List Char) : Option (Byte × List Char) :=
  let ds := s.takeWhile Char.isDigit
  let n := Nat.ofDigitChars 10 ds 0
  if ds.isEmpty || 0xFF < n || (1 < ds.length && ds.head? == some '0') then none
  else some (BitVec.ofNat 8 n, s.dropWhile Char.isDigit)

/-- `n` further octets, each after a dot, up to the end of the text. -/
def parseDotOctets : Nat → List Char → Option (List Byte)
  | 0, [] => some []
  | n + 1, '.' :: s => do
    let (b, s) ← parseOctet s
    let bs ← parseDotOctets n s
    return b :: bs
  | _, _ => none

/-- The four bytes of a dotted address. -/
def parseIPv4Bytes (s : List Char) : Option (List Byte) := do
  let (b, s) ← parseOctet s
  let bs ← parseDotOctets 3 s
  return b :: bs

def parseIPv4 (s : List Char) : Option IP := do
  let bs ← parseIPv4Bytes s
  IP.ofBytes (v4InV6Prefix ++ bs)

def isHex (c : Char) : Bool :=
  c.isDigit || ('a' ≤ c && c ≤ 'f') || ('A' ≤ c && c ≤ 'F')

def hexVal (c : Char) : Nat :=
  if c.isDigit then c.toNat - 48 else if 'a' ≤ c then c.toNat - 87 else c.toNat - 55

/-- The group loop of `parseIPv6`, one round per hex group: the bytes read, the position of the
ellipsis and the text left. -/
def parseIPv6Loop : Nat → List Byte → Option Nat → List Char →
    Option (List Byte × Option Nat × List Char)
  | 0, ip, ellipsis, s => some (ip, ellipsis, s)
  | fuel + 1, ip, ellipsis, s =>
    let hs := s.takeWhile isHex
    let rest := s.dropWhile isHex
    let n := hs.foldl (fun n c => 16 * n + hexVal c) 0
    if hs.isEmpty || 0xFFFF < n then none
    else if rest.head? = some '.' then
      -- a trailing dotted form: only in the last four bytes, unless an ellipsis makes room
      if ellipsis = none ∧ ip.length ≠ 12 then none
      else if 16 < ip.length + 4 then none
      else (parseIPv4Bytes s).map fun bs => (ip ++ bs, ellipsis, [])
    else
      let ip := ip ++ [BitVec.ofNat 8 (n / 256), BitVec.ofNat 8 n]
      match rest with
      | [] => some (ip, ellipsis, [])
      | ':' :: [] => none
      | ':' :: ':' :: s =>
        if ellipsis.isSome then none
        else if s.isEmpty then some (ip, some ip.length, [])
        else parseIPv6Loop fuel ip (some ip.length) s
      | ':' :: s => parseIPv6Loop fuel ip ellipsis s
      | _ => none

def parseIPv6 (s : List Char) : Option IP :=
  match s with
  | [':', ':'] => IP.ofBytes (List.replicate 16 0)
  | _ =>
    let start := match s with
      | ':' :: ':' :: s => parseIPv6Loop 8 [] (some 0) s
      | _ => parseIPv6Loop 8 [] none s
    match start with
    | some (ip, ellipsis, []) =>
      if ip.length < 16 then
        -- the ellipsis stands for the bytes that are missing
        match ellipsis with
        | none => none
        | some e => IP.ofBytes (ip.take e ++ List.replicate (16 - ip.length) 0 ++ ip.drop e)
      else if ellipsis.isSome then none
      else IP.ofBytes ip
    | _ => none

/-- `net.ParseIP(s)`. -/
def parseIP (s : String) : Option IP :=
  match s.toList.find? (fun c => c == '.' || c == ':') with
  | some '.' => parseIPv4 s.toList
  | some ':' => parseIPv6 s.toList
  | _ => none

/-! ## Printing -/

/-- The eight groups of an address. -/
def IP.groups (ip : IP) : List Nat :=
  (List.range 8).map fun i =>
    (ip.bytes.getD (2 * i) 0).toNat * 256 + (ip.bytes.getD (2 * i + 1) 0).toNat

/-- The first of the longest runs of two zero groups or more: where it starts, and its length, which
is 0 if there is none. -/
def zeroRun (groups : List Nat) : Nat × Nat :=
  (List.range 8).foldl (fun (start, len) i =>
    let l := ((groups.drop i).takeWhile (· == 0)).length
    if 2 ≤ l ∧ len < l then (i, l) else (start, len)) (0, 0)

def joinHex (groups : List Nat) : String :=
  ":".intercalate (groups.map fun n => String.ofList (Nat.toDigits 16 n))

/-- `IP.String`. -/
def IP.string (ip : IP) : String :=
  match ip.to4 with
  | some bs => ".".intercalate (bs.map fun b => toString b.toNat)
  | none =>
    match zeroRun ip.groups with
    | (_, 0) => joinHex ip.groups
    | (start, len) =>
      joinHex (ip.groups.take start) ++ "::" ++ joinHex (ip.groups.drop (start + len))

example : (ipv4 10 244 1 1).string = "10.244.1.1" := by decide
example : (parseIP "fe80:0:0:0:0:0:0:1").map IP.string = some "fe80::1" := by decide +kernel

example : parseIP "10.244.1.1" = some (ipv4 10 244 1 1) := by decide
example : parseIP "::ffff:10.0.0.1" = some (ipv4 10 0 0 1) := by decide
example : parseIP "10.0.0.01" = none := by decide

/-! ## The texts of addresses

A dotted text comes from one IPv4 address only (`string_inj`), and from no other
(`dot_notMem_string`). -/

theorem exists_ipv4 {ip : IP} (h : ip.to4.isSome = true) : ∃ a b c d, ip = ipv4 a b c d := by
  obtain ⟨bytes, hlen⟩ := ip
  rw [IP.to4] at h
  split at h
  · rename_i htake
    have hdrop : (bytes.drop 12).length = 4 := by rw [List.length_drop, hlen]
    obtain ⟨a, b, c, d, habcd⟩ := List.length_eq_four.1 hdrop
    refine ⟨a, b, c, d, ?_⟩
    have hb : bytes = v4InV6Prefix ++ [a, b, c, d] := by
      rw [← htake, ← habcd, List.take_append_drop]
    subst hb
    rfl
  · cases h

theorem string_ipv4 (a b c d : Byte) : (ipv4 a b c d).string =
    toString a.toNat ++ "." ++ (toString b.toNat ++ "." ++ (toString c.toNat ++ "." ++
      toString d.toNat)) := by
  have h4 : (ipv4 a b c d).to4 = some [a, b, c, d] := rfl
  rw [IP.string, h4]
  simp [String.intercalate_cons_cons, String.append_assoc]

theorem string_inj {ip ip' : IP} (h : ip.to4.isSome = true) (h' : ip'.to4.isSome = true) :
    ip.string = ip'.string ↔ ip = ip' := by
  refine ⟨fun he => ?_, congrArg _⟩
  obtain ⟨a, b, c, d, rfl⟩ := exists_ipv4 h
  obtain ⟨a', b', c', d', rfl⟩ := exists_ipv4 h'
  have hsep : ∀ n : Nat, '.' ∉ (toString n).toList := notMem_toString (by decide)
  rw [string_ipv4, string_ipv4] at he
  obtain ⟨ha, he⟩ := append_sep_inj (hsep _) (hsep _) rfl he
  obtain ⟨hb, he⟩ := append_sep_inj (hsep _) (hsep _) rfl he
  obtain ⟨hc, hd⟩ := append_sep_inj (hsep _) (hsep _) rfl he
  rw [BitVec.toNat_inj.1 (toString_inj.1 ha), BitVec.toNat_inj.1 (toString_inj.1 hb),
    BitVec.toNat_inj.1 (toString_inj.1 hc), BitVec.toNat_inj.1 (toString_inj.1 hd)]

theorem dot_mem_string {ip : IP} (h : ip.to4.isSome = true) : '.' ∈ ip.string.toList := by
  obtain ⟨a, b, c, d, rfl⟩ := exists_ipv4 h
  simp [string_ipv4, String.toList_append]

/-- The text of an IPv4 address does not seem to end in a port. -/
theorem endsInPort_string {ip : IP} (h : ip.to4.isSome = true) : endsInPort ip.string = false := by
  obtain ⟨a, b, c, d, rfl⟩ := exists_ipv4 h
  have hdig : ∀ x ∈ (toString d.toNat).toList.reverse, x.isDigit = true := fun x hx =>
    isDigit_of_mem_toString (List.mem_reverse.1 hx)
  have hrev : (ipv4 a b c d).string.toList.reverse = (toString d.toNat).toList.reverse ++ '.' ::
      (toString a.toNat ++ "." ++ (toString b.toNat ++ "." ++
        toString c.toNat)).toList.reverse := by
    rw [string_ipv4]
    simp [String.toList_append]
  rw [endsInPort, hrev, List.dropWhile_append_of_pos hdig]
  simp

theorem notMem_toDigits {c : Char} (hc : ∀ k < 16, c ≠ Nat.digitChar k) (n : Nat) :
    c ∉ Nat.toDigits 16 n := by
  induction n using Nat.strongRecOn with
  | _ n ih =>
    rw [Nat.toDigits_eq_if (by decide)]
    split
    · rename_i hn
      simpa using hc n hn
    · rw [List.mem_append, List.mem_singleton]
      intro h
      rcases h with h | h
      · exact ih _ (Nat.div_lt_self (by omega) (by decide)) h
      · exact hc _ (Nat.mod_lt _ (by decide)) h

theorem dot_notMem_joinHex (groups : List Nat) : '.' ∉ (joinHex groups).toList := by
  have hdigits : ∀ n, '.' ∉ Nat.toDigits 16 n := notMem_toDigits (by decide)
  induction groups with
  | nil => decide
  | cons n groups ih =>
    cases groups with
    | nil => simpa [joinHex] using hdigits n
    | cons n' groups =>
      have h : joinHex (n :: n' :: groups) =
          String.ofList (Nat.toDigits 16 n) ++ ":" ++ joinHex (n' :: groups) := by
        rw [joinHex, List.map_cons, List.map_cons, String.intercalate_cons_cons]
        simp [joinHex]
      rw [h, String.toList_append, String.toList_append, List.mem_append, List.mem_append]
      rintro ((h | h) | h)
      · exact hdigits n (by simpa using h)
      · revert h; decide
      · exact ih h

theorem dot_notMem_string {ip : IP} (h : ip.to4 = none) : '.' ∉ ip.string.toList := by
  rw [IP.string, h]
  dsimp only
  split
  · exact dot_notMem_joinHex _
  · rw [String.toList_append, String.toList_append, List.mem_append, List.mem_append]
    rintro ((h | h) | h)
    · exact dot_notMem_joinHex _ h
    · revert h; decide
    · exact dot_notMem_joinHex _ h

end Go
