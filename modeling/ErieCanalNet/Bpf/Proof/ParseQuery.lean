import ErieCanalNet.Bpf.DnsProxy
import ErieCanalNet.Lib.Dns

/-!
# The table writer and the query parser agree

The Go side writes keys made of packed names; the XDP program makes a key of the bytes up to the
first zero. A lookup finds a record exactly when the question is the wire encoding of a
registered name with type A or AAAA and class IN (`findRecord_isSome_iff`).

* `parseQuery_of_zero`, `parseQuery_of_noZero`: what the loop of `parse_query` computes;
* `padName_wire`, `padName_inj`: the padded key determines a name without zeros;
* `registered_isSome`: the keys of the table.
-/

namespace Bpf

open Bridge Lib

/-! ## The loop -/

theorem parseQueryLoop_of_zero {body rest : List Byte} (hz : ∀ b ∈ body, b ≠ 0) {i : Nat}
    (hi : body.length < i) (name : List Byte) :
    parseQueryLoop i (body ++ 0 :: rest) name =
      (questionKey (name ++ body) rest, ((name ++ body).length : Int) + 5) := by
  induction body generalizing i name with
  | nil =>
    obtain ⟨i, rfl⟩ : ∃ n, i = n + 1 := ⟨i - 1, by omega⟩
    simp only [List.nil_append, List.append_nil, parseQueryLoop, if_true, Prod.mk.injEq, true_and]
    omega
  | cons b body ih =>
    obtain ⟨i, rfl⟩ : ∃ n, i = n + 1 := ⟨i - 1, by omega⟩
    rw [List.cons_append, parseQueryLoop, if_neg (hz b (.head _)),
      ih (fun c hc => hz c (.tail _ hc)) (by simp only [List.length_cons] at hi; omega)]
    simp

theorem parseQueryLoop_of_noZero {i : Nat} {cursor : List Byte} (hz : ∀ b ∈ cursor.take i, b ≠ 0)
    (name : List Byte) : (parseQueryLoop i cursor name).2 = -1 := by
  induction i generalizing cursor name with
  | zero => rfl
  | succ i ih =>
    cases cursor with
    | nil => rfl
    | cons b cursor =>
      rw [List.take_succ_cons] at hz
      rw [parseQueryLoop, if_neg (hz b (.head _))]
      exact ih (fun c hc => hz c (.tail _ hc)) _

/-- A question whose name ends within the bound. -/
theorem parseQuery_of_zero {body rest : List Byte} (hz : ∀ b ∈ body, b ≠ 0)
    (hlen : body.length < maxDNSNameLength) :
    parseQuery (body ++ 0 :: rest) = (questionKey body rest, (body.length : Int) + 5) := by
  rw [parseQuery, parseQueryLoop_of_zero hz hlen]
  rfl

/-- Without a zero within the bound there is no question. -/
theorem parseQuery_of_noZero {query : List Byte}
    (hz : ∀ b ∈ query.take maxDNSNameLength, b ≠ 0) : (parseQuery query).2 = -1 :=
  parseQueryLoop_of_noZero hz _

/-- Every query is of one of the two kinds. -/
theorem zero_or_noZero (query : List Byte) :
    (∃ body rest, query = body ++ 0 :: rest ∧ (∀ b ∈ body, b ≠ 0) ∧
      body.length < maxDNSNameLength) ∨ ∀ b ∈ query.take maxDNSNameLength, b ≠ 0 := by
  by_cases h : (0 : Byte) ∈ query.take maxDNSNameLength
  · obtain ⟨body, rest, htake, hbody⟩ := List.eq_append_cons_of_mem h
    refine .inl ⟨body, rest ++ query.drop maxDNSNameLength, ?_, fun b hb h0 => hbody (h0 ▸ hb), ?_⟩
    · rw [← List.cons_append, ← List.append_assoc, ← htake, List.take_append_drop]
    · have := congrArg List.length htake
      simp only [List.length_take, List.length_append, List.length_cons] at this
      omega
  · exact .inr fun b hb h0 => h (h0 ▸ hb)

/-! ## Keys -/

theorem takeWhile_zero {body rest : List Byte} (hz : ∀ b ∈ body, b ≠ 0) :
    (body ++ 0 :: rest).takeWhile (· ≠ 0) = body := by
  rw [List.takeWhile_append_of_pos (by simpa using hz)]
  simp

/-- A text up to its first zero is determined by it. -/
theorem zero_prefix_iff {w x body rest : List Byte} (hw : ∀ b ∈ w, b ≠ 0)
    (hz : ∀ b ∈ body, b ≠ 0) : w ++ 0 :: x <+: body ++ 0 :: rest ↔ body = w ∧ x <+: rest := by
  constructor
  · rintro ⟨r, h⟩
    rw [List.append_assoc, List.cons_append] at h
    have hbody := congrArg (List.takeWhile (· ≠ 0)) h
    rw [takeWhile_zero hw, takeWhile_zero hz] at hbody
    subst hbody
    exact ⟨rfl, r, by simpa using h⟩
  · rintro ⟨rfl, r, rfl⟩
    exact ⟨r, by simp⟩

theorem takeWhile_padName {name : List Byte} (hz : ∀ b ∈ name, b ≠ 0) :
    (padName name).takeWhile (· ≠ 0) = name := by
  rw [padName, List.takeWhile_append_of_pos (by simpa using hz)]
  cases maxDNSNameLength - name.length <;> simp [List.replicate_succ]

/-- Padding loses nothing of a name without zeros. -/
theorem padName_inj {a b : List Byte} (ha : ∀ x ∈ a, x ≠ 0) (hb : ∀ x ∈ b, x ≠ 0) :
    padName a = padName b ↔ a = b :=
  ⟨fun h => by rw [← takeWhile_padName ha, h, takeWhile_padName hb], congrArg _⟩

theorem length_labelsWire_lt (n : Dns.Name) :
    (Dns.labelsWire n.labels).length < maxDNSNameLength := by
  have hlen := n.length_le
  simp only [Dns.wire, List.length_append, List.length_singleton] at hlen
  simp only [maxDNSNameLength]
  omega

/-- The final zero of a packed name is the first byte of the padding. -/
theorem padName_wire (n : Dns.Name) : padName n.wire = padName (Dns.labelsWire n.labels) := by
  have hlen := length_labelsWire_lt n
  obtain ⟨k, hk⟩ : ∃ k, maxDNSNameLength - (Dns.labelsWire n.labels).length = k + 1 :=
    ⟨maxDNSNameLength - (Dns.labelsWire n.labels).length - 1, by omega⟩
  rw [padName, padName, hk, Dns.Name.wire, Dns.wire, List.length_append, List.length_singleton,
    ← Nat.sub_sub, hk, List.replicate_succ, List.append_assoc]
  rfl

theorem typeAndClass_be16 (t c : BitVec 16) (rest : List Byte) :
    typeAndClass (Dns.be16 t ++ Dns.be16 c ++ rest) = (t, c) := by
  simp [Dns.be16, typeAndClass]

/-- A type and class other than zero stand right after the name. -/
theorem eq_be16_of_typeAndClass {rest : List Byte} {t c : BitVec 16} (hc : c ≠ 0)
    (h : typeAndClass rest = (t, c)) : Dns.be16 t ++ Dns.be16 c <+: rest := by
  unfold typeAndClass at h
  split at h
  · rename_i t0 t1 c0 c1 rest
    obtain ⟨rfl, rfl⟩ := Prod.mk.inj h
    refine ⟨rest, ?_⟩
    simp [Dns.be16]
  · exact absurd (Prod.mk.inj h).2.symm hc

/-! ## The table -/

/-- `dns.PackDomainName` writes the wire encoding of the fully qualified names. -/
def PacksWire (pack : List Byte → Option (List Byte)) : Prop :=
  ∀ n : Dns.Name, pack (Dns.fqdn n.labels) = some n.wire

/-- The table after the names, each with a time to live, were registered by the bridge. -/
def registered (pack : List Byte → Option (List Byte)) (bridgeIPInt : BitVec 32)
    (hosts : List (Dns.Name × BitVec 32)) : ResolveTable :=
  hosts.foldl (fun table h =>
    updateDNSResolveEntry pack (fun _ => true) bridgeIPInt (Dns.text h.1.labels) h.2 table)
    fun _ => none

/-- A name has a key for each of the two types. -/
def IsKeyOf (n : Dns.Name) (q : DnsQuery) : Prop :=
  ∃ t ∈ [typeA, typeAAAA], q = queryKey t n.wire

theorem updateDNSResolveEntry_isSome {pack : List Byte → Option (List Byte)} (hp : PacksWire pack)
    {bridgeIPInt ttl : BitVec 32} {n : Dns.Name} {table : ResolveTable} {q : DnsQuery} :
    (updateDNSResolveEntry pack (fun _ => true) bridgeIPInt (Dns.text n.labels) ttl table
      q).isSome ↔ (table q).isSome ∨ IsKeyOf n q := by
  have hpack : pack (Dns.text n.labels ++ [46]) = some n.wire := hp n
  simp only [updateDNSResolveEntry, List.foldl_cons, List.foldl_nil, hpack, if_true, IsKeyOf,
    List.mem_cons, List.not_mem_nil, or_false, exists_eq_or_imp, exists_eq_left]
  by_cases h28 : q = queryKey typeAAAA n.wire
  · simp [h28]
  · rw [Function.update_of_ne h28]
    by_cases h1 : q = queryKey typeA n.wire
    · simp [h1]
    · rw [Function.update_of_ne h1]
      simp [h1, h28]

/-- **The keys of the table are those of the registered names.** -/
theorem registered_isSome {pack : List Byte → Option (List Byte)} (hp : PacksWire pack)
    {bridgeIPInt : BitVec 32} {hosts : List (Dns.Name × BitVec 32)} {q : DnsQuery} :
    (registered pack bridgeIPInt hosts q).isSome ↔ ∃ h ∈ hosts, IsKeyOf h.1 q := by
  suffices hfold : ∀ table : ResolveTable,
      ((hosts.foldl (fun table h => updateDNSResolveEntry pack (fun _ => true) bridgeIPInt
        (Dns.text h.1.labels) h.2 table) table) q).isSome ↔
        (table q).isSome ∨ ∃ h ∈ hosts, IsKeyOf h.1 q by
    rw [registered, hfold]
    simp
  induction hosts with
  | nil => simp
  | cons h hosts ih =>
    intro table
    rw [List.foldl_cons, ih, updateDNSResolveEntry_isSome hp]
    simp only [List.mem_cons, exists_eq_or_imp, or_assoc]

/-! ## Agreement -/

/-- `parse_query` followed by `match_a_records`, as the program runs them. -/
def findRecord (resdb : ResolveTable) (query : List Byte) : Option ARecord :=
  let (q, queryLength) := parseQuery query
  if queryLength < 1 then none else matchARecords resdb q

theorem findRecord_of_zero {resdb : ResolveTable} {body rest : List Byte}
    (hz : ∀ b ∈ body, b ≠ 0) (hlen : body.length < maxDNSNameLength) :
    findRecord resdb (body ++ 0 :: rest) = resdb (questionKey body rest) := by
  rw [findRecord, parseQuery_of_zero hz hlen]
  exact if_neg (by omega)

/-- The key of a question is a name's key exactly when the question is that name's. -/
theorem isKeyOf_questionKey {n : Dns.Name} {body rest : List Byte} (hz : ∀ b ∈ body, b ≠ 0) :
    IsKeyOf n (questionKey body rest) ↔
      ∃ t ∈ [typeA, typeAAAA], body = Dns.labelsWire n.labels ∧
        Dns.be16 t ++ Dns.be16 classINET <+: rest := by
  refine exists_congr fun t => and_congr_right fun _ => ?_
  have hclass : classINET ≠ 0 := by decide
  constructor
  · intro h
    have hname : padName body = padName n.wire := congrArg DnsQuery.name h
    rw [padName_wire, padName_inj hz n.ne_zero] at hname
    have htc : typeAndClass rest = (t, classINET) :=
      Prod.ext (congrArg DnsQuery.qtype h) (congrArg DnsQuery.qclass h)
    exact ⟨hname, eq_be16_of_typeAndClass hclass htc⟩
  · rintro ⟨rfl, r, rfl⟩
    rw [questionKey, typeAndClass_be16, queryKey, padName_wire]

/-- **The two sides agree on keys**: a lookup finds a record exactly when the question is the
wire encoding of a registered name, with type A or AAAA and class IN. -/
theorem findRecord_isSome_iff {pack : List Byte → Option (List Byte)} (hp : PacksWire pack)
    (bridgeIPInt : BitVec 32) (hosts : List (Dns.Name × BitVec 32)) (query : List Byte) :
    (findRecord (registered pack bridgeIPInt hosts) query).isSome ↔
      ∃ h ∈ hosts, ∃ t ∈ [typeA, typeAAAA],
        h.1.wire ++ Dns.be16 t ++ Dns.be16 classINET <+: query := by
  rcases zero_or_noZero query with ⟨body, rest, rfl, hz, hlen⟩ | hno
  · rw [findRecord_of_zero hz hlen, registered_isSome hp]
    refine exists_congr fun h => and_congr_right fun _ => ?_
    rw [isKeyOf_questionKey hz]
    refine exists_congr fun t => and_congr_right fun _ => ?_
    rw [← zero_prefix_iff h.1.ne_zero hz, Dns.Name.wire, Dns.wire]
    simp
  · have hnone : findRecord (registered pack bridgeIPInt hosts) query = none := by
      have hlt : (parseQuery query).2 < 1 := by rw [parseQuery_of_noZero hno]; decide
      exact if_pos hlt
    rw [hnone]
    constructor
    · exact fun h => absurd h (by simp)
    · -- the encoding of a name has a zero within the bound
      rintro ⟨h, -, t, -, hpre⟩
      have hname : h.1.wire <+: query :=
        ((List.prefix_append _ _).trans (List.prefix_append _ _)).trans hpre
      have hwire : h.1.wire <+: query.take maxDNSNameLength :=
        List.prefix_take_iff.2 ⟨hname, Nat.le_trans h.1.length_le (by decide)⟩
      exact absurd rfl (hno 0 (hwire.subset (by simp [Dns.Name.wire, Dns.wire])))

/-- The name `web.default`. -/
def webDefault : Dns.Name where
  labels := [[119, 101, 98], [100, 101, 102, 97, 117, 108, 116]]
  nonempty := by decide
  short := by decide
  noZero := by decide
  length_le := by decide

theorem findRecord_web_default :
    (findRecord (registered Dns.packDomainName 0 [(webDefault, 60)])
      (webDefault.wire ++ [0, 28, 0, 1])).isSome :=
  (findRecord_isSome_iff Dns.packDomainName_fqdn 0 _ _).2
    ⟨(webDefault, 60), .head _, typeAAAA, by decide, by decide⟩

end Bpf
