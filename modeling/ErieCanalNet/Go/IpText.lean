import ErieCanalNet.Go.Net

/-!
# The texts of IP addresses

A text comes from one address only (`IP.string_injective`): its pieces between the colons give back
the groups before and after the run of zero groups that `::` stands for.
-/

namespace Go

open Lib

/-! ## Hex digits -/

theorem hexVal_digitChar {k : Nat} (hk : k < 16) : hexVal (Nat.digitChar k) = k := by
  revert k
  decide

/-- The digits of a number read back. -/
theorem foldl_hexVal_toDigits (n : Nat) :
    (Nat.toDigits 16 n).foldl (fun n c => 16 * n + hexVal c) 0 = n := by
  induction n using Nat.strongRecOn with
  | _ n ih =>
    rw [Nat.toDigits_eq_if (by decide)]
    split
    · rename_i hn
      simp [hexVal_digitChar hn]
    · rw [List.foldl_append, ih _ (Nat.div_lt_self (by omega) (by decide)), List.foldl_cons,
        List.foldl_nil, hexVal_digitChar (Nat.mod_lt _ (by decide))]
      omega

/-- The text of a group. -/
def hexText (n : Nat) : String := String.ofList (Nat.toDigits 16 n)

theorem hexText_inj {m n : Nat} (h : hexText m = hexText n) : m = n := by
  have hdigits : Nat.toDigits 16 m = Nat.toDigits 16 n := by
    simpa [hexText] using congrArg String.toList h
  rw [← foldl_hexVal_toDigits m, hdigits, foldl_hexVal_toDigits]

theorem hexText_ne_empty (n : Nat) : hexText n ≠ "" := by
  intro h
  have hnil : Nat.toDigits 16 n = [] := by simpa [hexText] using congrArg String.toList h
  rw [Nat.toDigits_eq_if (by decide)] at hnil
  split at hnil <;> simp at hnil

theorem colon_notMem_hexText (n : Nat) : ':' ∉ (hexText n).toList := by
  have h := notMem_toDigits (c := ':') (by decide) n
  simpa [hexText] using h

theorem forall_mem_hexText (groups : List Nat) :
    ∀ s ∈ groups.map hexText, decide (s ≠ "") = true := fun s hs => by
  obtain ⟨n, -, rfl⟩ := List.mem_map.1 hs
  exact decide_eq_true (hexText_ne_empty n)

theorem takeWhile_hexText (groups : List Nat) :
    (groups.map hexText).takeWhile (· ≠ "") = groups.map hexText := by
  have h : (groups.map hexText ++ []).takeWhile (· ≠ "") = _ :=
    List.takeWhile_append_of_pos (forall_mem_hexText groups)
  simpa using h

theorem dropWhile_hexText (groups : List Nat) : (groups.map hexText).dropWhile (· ≠ "") = [] := by
  have h : (groups.map hexText ++ []).dropWhile (· ≠ "") = _ :=
    List.dropWhile_append_of_pos (forall_mem_hexText groups)
  simpa using h

/-! ## The pieces of a text -/

theorem split_joinHex (groups : List Nat) :
    split (joinHex groups) ':' = if groups = [] then [""] else groups.map hexText := by
  split
  · rename_i h
    subst h
    decide
  · rename_i h
    refine split_intercalate (by simpa using h) fun s hs => ?_
    obtain ⟨n, -, rfl⟩ := List.mem_map.1 hs
    exact colon_notMem_hexText n

theorem filter_split_joinHex (groups : List Nat) :
    (split (joinHex groups) ':').filter (· ≠ "") = groups.map hexText := by
  rw [split_joinHex]
  split
  · rename_i h
    subst h
    decide
  · exact List.filter_eq_self.2 (forall_mem_hexText groups)

/-- The pieces before the first empty one. -/
theorem span_split_joinHex (groups : List Nat) (rest : List String) :
    ((split (joinHex groups) ':' ++ "" :: rest).takeWhile (· ≠ "") = groups.map hexText) ∧
      ((split (joinHex groups) ':' ++ "" :: rest).dropWhile (· ≠ "")).filter (· ≠ "") =
        rest.filter (· ≠ "") := by
  rw [split_joinHex]
  split
  · rename_i h
    subst h
    simp
  · rw [List.takeWhile_append_of_pos (forall_mem_hexText groups),
      List.dropWhile_append_of_pos (forall_mem_hexText groups)]
    simp

/-! ## The run of zero groups -/

/-- What the run found is: groups that are zero. -/
theorem zeroRun_zero (groups : List Nat) :
    (groups.drop (zeroRun groups).1).take (zeroRun groups).2 =
      List.replicate (zeroRun groups).2 0 := by
  unfold zeroRun
  suffices h : ∀ (l : List Nat) (run : Nat × Nat),
      (groups.drop run.1).take run.2 = List.replicate run.2 0 →
        let run' := l.foldl (fun (run : Nat × Nat) i =>
          let l := ((groups.drop i).takeWhile (· == 0)).length
          if 2 ≤ l ∧ run.2 < l then (i, l) else run) run
        (groups.drop run'.1).take run'.2 = List.replicate run'.2 0 from
    h (List.range 8) (0, 0) (by simp)
  intro l
  induction l with
  | nil => exact fun run h => h
  | cons i l ih =>
    intro run h
    refine ih _ ?_
    dsimp only
    split
    · have htake := List.takeWhile_prefix (l := groups.drop i) (fun n => n == 0)
      rw [← List.prefix_iff_eq_take.1 htake]
      exact List.eq_replicate_iff.2 ⟨rfl, fun n hn => by
        simpa using List.all_eq_true.1 List.all_takeWhile n hn⟩
    · exact h

/-- The groups before and after the run that `::` stands for. -/
def IP.parts (ip : IP) : List Nat × List Nat :=
  match zeroRun ip.groups with
  | (_, 0) => (ip.groups, [])
  | (start, len) => (ip.groups.take start, ip.groups.drop (start + len))

theorem length_groups (ip : IP) : ip.groups.length = 8 := by simp [IP.groups]

theorem groups_eq_parts (ip : IP) : ip.groups = ip.parts.1 ++
    List.replicate (8 - ip.parts.1.length - ip.parts.2.length) 0 ++ ip.parts.2 := by
  have hlen := length_groups ip
  have hzero := zeroRun_zero ip.groups
  rcases hrun : zeroRun ip.groups with ⟨start, _ | len⟩
  · simp [IP.parts, hrun, hlen]
  · rw [hrun] at hzero
    have hle := congrArg List.length hzero
    simp only [List.length_take, List.length_drop, List.length_replicate, hlen] at hle
    have hmid : 8 - (ip.groups.take start).length - (ip.groups.drop (start + (len + 1))).length =
        len + 1 := by
      simp only [List.length_take, List.length_drop, hlen]
      omega
    simp only [IP.parts, hrun, hmid]
    rw [← hzero, List.append_assoc, ← List.drop_drop, List.take_append_drop, List.take_append_drop]

theorem split_around (s t : String) :
    split (s ++ "::" ++ t) ':' = split s ':' ++ "" :: split t ':' := by
  have htext : s ++ "::" ++ t = s ++ String.singleton ':' ++ ("" ++ String.singleton ':' ++ t) := by
    simp [← String.toList_inj, String.toList_append]
  rw [htext, split_append_sep, split_append_sep]
  rfl

/-- **The parts of an address** can be read off its text. -/
theorem parts_of_string {ip : IP} (h : ip.to4 = none) :
    (split ip.string ':').takeWhile (· ≠ "") = ip.parts.1.map hexText ∧
      ((split ip.string ':').dropWhile (· ≠ "")).filter (· ≠ "") = ip.parts.2.map hexText := by
  rcases hrun : zeroRun ip.groups with ⟨start, _ | len⟩
  · have hne : ip.groups ≠ [] := fun he => by
      have hlen := length_groups ip
      rw [he] at hlen
      cases hlen
    have htext : split ip.string ':' = ip.groups.map hexText := by
      simp only [IP.string, h, hrun]
      rw [split_joinHex, if_neg hne]
    have hparts : ip.parts = (ip.groups, []) := by simp only [IP.parts, hrun]
    rw [htext, hparts, takeWhile_hexText, dropWhile_hexText]
    exact ⟨rfl, rfl⟩
  · have htext : split ip.string ':' = split (joinHex (ip.groups.take start)) ':' ++
        "" :: split (joinHex (ip.groups.drop (start + (len + 1)))) ':' := by
      simp only [IP.string, h, hrun]
      rw [split_around]
    have hparts : ip.parts = (ip.groups.take start, ip.groups.drop (start + (len + 1))) := by
      simp only [IP.parts, hrun]
    rw [htext, hparts, ← filter_split_joinHex (ip.groups.drop (start + (len + 1)))]
    exact span_split_joinHex _ _

/-! ## Injectivity -/

theorem groups_inj {ip ip' : IP} (h : ip.groups = ip'.groups) : ip = ip' := by
  obtain ⟨bytes, hlen⟩ := ip
  obtain ⟨bytes', hlen'⟩ := ip'
  suffices hb : bytes = bytes' by
    subst hb
    rfl
  have hgroup : ∀ i < 8, (bytes.getD (2 * i) 0).toNat * 256 + (bytes.getD (2 * i + 1) 0).toNat =
      (bytes'.getD (2 * i) 0).toNat * 256 + (bytes'.getD (2 * i + 1) 0).toNat := fun i hi =>
    List.map_inj_left.1 h i (List.mem_range.2 hi)
  have hbyte : ∀ k < 16, bytes.getD k 0 = bytes'.getD k 0 := fun k hk => by
    have hg := hgroup (k / 2) (by omega)
    have hlt := (bytes.getD (2 * (k / 2) + 1) 0).isLt
    have hlt' := (bytes'.getD (2 * (k / 2) + 1) 0).isLt
    apply BitVec.eq_of_toNat_eq
    rcases Nat.mod_two_eq_zero_or_one k with hmod | hmod
    · have hk2 : 2 * (k / 2) = k := by omega
      rw [hk2] at hg hlt hlt'
      omega
    · have hk2 : 2 * (k / 2) + 1 = k := by omega
      rw [hk2] at hg hlt hlt'
      omega
  refine List.ext_getElem (hlen.trans hlen'.symm) fun k hk hk' => ?_
  have hk16 := hbyte k (hlen ▸ hk)
  simpa [List.getD, hk, hk'] using hk16

/-- **A text comes from one address only.** -/
theorem IP.string_injective {ip ip' : IP} : ip.string = ip'.string ↔ ip = ip' := by
  refine ⟨fun he => ?_, congrArg _⟩
  cases h : ip.to4 with
  | some bs =>
    have hv4 : ip.to4.isSome = true := by rw [h]; rfl
    cases h' : ip'.to4 with
    | some bs' => exact (string_inj hv4 (by rw [h']; rfl)).1 he
    | none => exact absurd (he ▸ dot_mem_string hv4) (dot_notMem_string h')
  | none =>
    cases h' : ip'.to4 with
    | some bs' =>
      have hv4 : ip'.to4.isSome = true := by rw [h']; rfl
      exact absurd (he ▸ dot_mem_string hv4) (dot_notMem_string h)
    | none =>
      obtain ⟨h1, h2⟩ := parts_of_string h
      obtain ⟨h1', h2'⟩ := parts_of_string h'
      rw [he] at h1 h2
      have hinj : Function.Injective (List.map hexText) :=
        List.map_injective_iff.2 fun m n => hexText_inj
      have hparts1 : ip.parts.1 = ip'.parts.1 := hinj (h1.symm.trans h1')
      have hparts2 : ip.parts.2 = ip'.parts.2 := hinj (h2.symm.trans h2')
      apply groups_inj
      rw [groups_eq_parts ip, groups_eq_parts ip', hparts1, hparts2]

end Go
