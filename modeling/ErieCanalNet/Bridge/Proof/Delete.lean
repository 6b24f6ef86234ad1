import ErieCanalNet.Bridge.Sync
import ErieCanalNet.Lib.Dns
import ErieCanalNet.Mesh.Outbound

/-!
# Deleting the records of a name

`UpdateDNSResolveEntry` packs the name with a final dot, `DeleteDNSResolveEntry` without one. The
library refuses a name that is not fully qualified, so that the deletion of an ordinary hostname
leaves the table as it is: it undoes the update exactly when the update did nothing, or the name
came with its final dot or is empty (`delete_undoes_iff`).
-/

namespace Bridge

open Lib

/-- What is assumed of `dns.PackDomainName`: it writes the wire encoding of the fully qualified
names and nothing for the empty text, and reports an error for any other text that is not fully
qualified or has an empty label. -/
structure PacksQualified (pack : List Byte → Option (List Byte)) : Prop where
  wire : ∀ n : Dns.Name, pack (Dns.fqdn n.labels) = some n.wire
  empty : pack [] = some []
  unqualified : ∀ s ≠ [], ¬ Dns.FullyQualified s → pack s = none
  emptyLabel : ∀ s ls, Dns.splitLabels s [] = some ls → [] ∈ ls → s ≠ [46] → pack s = none

/-- The keys of a hostname. -/
def KeyOfHost (pack : List Byte → Option (List Byte)) (hostname : List Byte) (q : DnsQuery) : Prop :=
  ∃ packed, pack (Dns.qualify hostname) = some packed ∧
    (q = queryKey typeA packed ∨ q = queryKey typeAAAA packed)

/-- The hostname is gone from the table, and every other record is as it was. -/
structure Undone (pack : List Byte → Option (List Byte)) (hostname : List Byte)
    (table table' : ResolveTable) : Prop where
  gone : ∀ q, KeyOfHost pack hostname q → table' q = none
  others : ∀ q, ¬ KeyOfHost pack hostname q → table' q = table q

variable {pack : List Byte → Option (List Byte)} {ok : BitVec 16 → Bool} {hostname : List Byte}
  {bridgeIPInt ttl : BitVec 32} {table : ResolveTable}

theorem updateDNSResolveEntry_of_none (h : pack (hostname ++ [46]) = none) :
    updateDNSResolveEntry pack ok bridgeIPInt hostname ttl table = table := by
  simp only [updateDNSResolveEntry, h, List.foldl_cons, List.foldl_nil]

theorem deleteDNSResolveEntry_of_none (h : pack hostname = none) :
    deleteDNSResolveEntry pack ok hostname table = table := by
  simp only [deleteDNSResolveEntry, h, List.foldl_cons, List.foldl_nil]

/-- A deletion that packs its name removes the two records. -/
theorem deleteDNSResolveEntry_of_some {packed : List Byte} (h : pack hostname = some packed) :
    deleteDNSResolveEntry pack (fun _ => true) hostname table = Function.update
      (Function.update table (queryKey typeA packed) none) (queryKey typeAAAA packed) none := by
  simp only [deleteDNSResolveEntry, h, List.foldl_cons, List.foldl_nil, if_true]

/-- The update packs a name that is already qualified with two dots at its end. -/
theorem PacksQualified.append_dot (hp : PacksQualified pack) (h : Dns.FullyQualified hostname) :
    pack (hostname ++ [46]) = none := by
  obtain ⟨hne, hsome⟩ := h
  obtain ⟨ls, hls⟩ := Option.isSome_iff_exists.1 hsome
  exact hp.emptyLabel _ _ (Dns.splitLabels_append_dot hls) (by simp) fun he =>
    hne (by simpa using he)

/-- The deletion removes what it finds under the keys of the hostname. -/
theorem undone_of_delete {table' : ResolveTable} {packed : List Byte}
    (hkey : ∀ q, KeyOfHost pack hostname q ↔ q = queryKey typeA packed ∨ q = queryKey typeAAAA packed)
    (hothers : ∀ q, ¬ KeyOfHost pack hostname q → table' q = table q) :
    Undone pack hostname table (Function.update
      (Function.update table' (queryKey typeA packed) none) (queryKey typeAAAA packed) none) := by
  constructor
  · intro q hq
    rcases (hkey q).1 hq with rfl | rfl
    · rw [Function.update_apply, Function.update_self, ite_self]
    · rw [Function.update_self]
  · intro q hq
    have hne := hq
    rw [hkey, not_or] at hne
    rw [Function.update_of_ne hne.2, Function.update_of_ne hne.1, hothers q hq]

/-- The empty text and the root have the same keys. -/
theorem queryKey_root (qType : BitVec 16) : queryKey qType [0] = queryKey qType [] := rfl

theorem PacksQualified.root (hp : PacksQualified pack) : pack [46] = some [0] :=
  hp.wire ⟨[], List.forall_mem_nil _, List.forall_mem_nil _, List.forall_mem_nil _, by decide⟩

/-- **The deletion undoes the update exactly when** the hostname is empty or already qualified, or
does not pack, so that the update wrote nothing. -/
theorem delete_undoes_iff (hp : PacksQualified pack) (bridgeIPInt : BitVec 32)
    (hostname : List Byte) (ttl : BitVec 32) (table : ResolveTable) :
    Undone pack hostname table (deleteDNSResolveEntry pack (fun _ => true) hostname
        (updateDNSResolveEntry pack (fun _ => true) bridgeIPInt hostname ttl table)) ↔
      hostname = [] ∨ Dns.FullyQualified hostname ∨ pack (hostname ++ [46]) = none := by
  by_cases hempty : hostname = []
  · refine iff_of_true ?_ (.inl hempty)
    subst hempty
    have hkey : ∀ q, KeyOfHost pack [] q ↔ q = queryKey typeA [] ∨ q = queryKey typeAAAA [] := by
      intro q
      simp only [KeyOfHost, show Dns.qualify [] = [46] from rfl, hp.root, Option.some.injEq,
        exists_eq_left', queryKey_root]
    rw [deleteDNSResolveEntry_of_some hp.empty]
    refine undone_of_delete hkey fun q hq => ?_
    rw [hkey, not_or] at hq
    simp only [updateDNSResolveEntry, List.nil_append, hp.root, queryKey_root, List.foldl_cons,
      List.foldl_nil, if_true, Function.update_of_ne hq.2, Function.update_of_ne hq.1]
  by_cases hq : Dns.FullyQualified hostname
  · refine iff_of_true ?_ (.inr (.inl hq))
    rw [updateDNSResolveEntry_of_none (hp.append_dot hq)]
    cases hpack : pack hostname with
    | none =>
      rw [deleteDNSResolveEntry_of_none hpack]
      refine ⟨?_, fun _ _ => rfl⟩
      rintro q ⟨packed, hpacked, -⟩
      rw [Dns.qualify, if_pos hq, hpack] at hpacked
      cases hpacked
    | some packed =>
      rw [deleteDNSResolveEntry_of_some hpack]
      refine undone_of_delete (fun q => ?_) fun _ _ => rfl
      simp [KeyOfHost, Dns.qualify, if_pos hq, hpack]
  · rw [deleteDNSResolveEntry_of_none (hp.unqualified _ hempty hq)]
    cases hpack : pack (hostname ++ [46]) with
    | none =>
      refine iff_of_true ?_ (.inr (.inr rfl))
      rw [updateDNSResolveEntry_of_none hpack]
      refine ⟨?_, fun _ _ => rfl⟩
      rintro q ⟨packed, hpacked, -⟩
      rw [Dns.qualify, if_neg hq, hpack] at hpacked
      cases hpacked
    | some packed =>
      refine iff_of_false ?_ (by simp [hempty, hq])
      intro hundone
      have hgone := hundone.gone (queryKey typeAAAA packed)
        ⟨packed, by rw [Dns.qualify, if_neg hq, hpack], .inr rfl⟩
      simp only [updateDNSResolveEntry, hpack, List.foldl_cons, List.foldl_nil, if_true,
        Function.update_self] at hgone
      cases hgone

/-- The packing of names, and of the empty text. -/
def packText (s : List Byte) : Option (List Byte) :=
  if s = [] then some [] else Dns.packDomainName s

theorem packsQualified_packText : PacksQualified packText where
  wire n := by
    rw [packText, if_neg (by simp [Dns.fqdn]), Dns.packDomainName_fqdn]
  empty := rfl
  unqualified s hne hs := by
    have hnone : Dns.splitLabels s [] = none := by
      cases hsplit : Dns.splitLabels s [] with
      | none => rfl
      | some ls => exact absurd ⟨hne, by rw [hsplit]; rfl⟩ hs
    have hdot : s ≠ [46] := by
      rintro rfl
      exact hs (by decide)
    rw [packText, if_neg hne, Dns.packDomainName, if_neg hdot, hnone]
  emptyLabel s ls hls hempty hdot := by
    have hinvalid : ¬ ((∀ l ∈ ls, l ≠ [] ∧ l.length ≤ 63) ∧ (Dns.wire ls).length ≤ 255) :=
      fun hvalid => (hvalid.1 [] hempty).1 rfl
    have hne : s ≠ [] := by
      rintro rfl
      obtain rfl := Option.some.inj hls
      cases hempty
    rw [packText, if_neg hne, Dns.packDomainName, if_neg hdot, hls]
    exact if_neg hinvalid

/-- A name that came with its final dot is removed. -/
theorem delete_undoes_qualified :
    Undone packText (bytesOf "web.default.") (fun _ => none)
      (deleteDNSResolveEntry packText (fun _ => true) (bytesOf "web.default.")
        (updateDNSResolveEntry packText (fun _ => true) 0x0af40001 (bytesOf "web.default.") 60
          fun _ => none)) :=
  (delete_undoes_iff packsQualified_packText _ _ _ _).2 (.inr (.inl (by decide +kernel)))

/-- The service `web` of the namespace `default`. -/
def webService : Mesh.MeshService :=
  { ns := "default", name := "web", port := 80, protocol := "http" }

/-- The hostname `web.default` stays in the table. -/
theorem delete_keeps_web :
    "web.default" ∈ Policy.getHostnamesForService "cluster.local" webService false ∧
    ¬ Undone packText (bytesOf "web.default") (fun _ => none)
      (deleteDNSResolveEntry packText (fun _ => true) (bytesOf "web.default")
        (updateDNSResolveEntry packText (fun _ => true) 0x0af40001 (bytesOf "web.default") 60
          fun _ => none)) := by
  refine ⟨by decide, fun hundone => ?_⟩
  have hgone := hundone.gone (queryKey typeA (Dns.wire [bytesOf "web", bytesOf "default"]))
    ⟨_, by decide +kernel, .inl rfl⟩
  revert hgone
  decide +kernel

end Bridge
