import ErieCanalNet.Lib.Packet

/-!
# DNS names and messages (RFC 1035)

A name is a list of labels; `wire` is its encoding in a message and `fqdn` its text, with a dot
after each label. `packDomainName` reads the text back (`packDomainName_fqdn`).

`decode` is a reference decoder of messages: it follows the four counts of the header, resolves
compression pointers, and accepts a message only if the sections fill it exactly.
`decodeName_wire`: an uncompressed name decodes to its labels.
-/

namespace Dns

open Lib

/-! ## Names -/

/-- The labels, each after its length. -/
def labelsWire : List (List Byte) → List Byte
  | [] => []
  | l :: ls => BitVec.ofNat 8 l.length :: (l ++ labelsWire ls)

/-- The wire encoding of a name. -/
def wire (ls : List (List Byte)) : List Byte := labelsWire ls ++ [0]

/-- A name: non-empty labels of at most 63 bytes, none of them zero, and at most 255 bytes on
the wire. -/
structure Name where
  labels : List (List Byte)
  nonempty : ∀ l ∈ labels, l ≠ []
  short : ∀ l ∈ labels, l.length ≤ 63
  noZero : ∀ l ∈ labels, ∀ b ∈ l, b ≠ 0
  length_le : (wire labels).length ≤ 255

def Name.wire (n : Name) : List Byte := Dns.wire n.labels

/-- A label's length byte says its length. -/
theorem toNat_length_byte {l : List Byte} (h : l.length ≤ 63) :
    (BitVec.ofNat 8 l.length).toNat = l.length := by
  rw [BitVec.toNat_ofNat]
  omega

theorem length_byte_ne_zero {l : List Byte} (hne : l ≠ []) (h : l.length ≤ 63) :
    BitVec.ofNat 8 l.length ≠ 0 := by
  intro h0
  have := toNat_length_byte h
  rw [h0] at this
  have hpos := List.length_pos_iff.2 hne
  simp at this
  omega

theorem ne_zero_of_mem_labelsWire {ls : List (List Byte)} (hne : ∀ l ∈ ls, l ≠ [])
    (hshort : ∀ l ∈ ls, l.length ≤ 63) (hzero : ∀ l ∈ ls, ∀ b ∈ l, b ≠ 0) :
    ∀ b ∈ labelsWire ls, b ≠ 0 := by
  induction ls with
  | nil => simp [labelsWire]
  | cons l ls ih =>
    intro b hb
    simp only [labelsWire, List.mem_cons, List.mem_append] at hb
    rcases hb with rfl | hb | hb
    · exact length_byte_ne_zero (hne l (.head _)) (hshort l (.head _))
    · exact hzero l (.head _) b hb
    · exact ih (fun l' h => hne l' (.tail _ h)) (fun l' h => hshort l' (.tail _ h))
        (fun l' h => hzero l' (.tail _ h)) b hb

/-- Before its final byte the encoding of a name has no zero. -/
theorem Name.ne_zero (n : Name) : ∀ b ∈ labelsWire n.labels, b ≠ 0 :=
  ne_zero_of_mem_labelsWire n.nonempty n.short n.noZero

theorem length_labelsWire_le (ls : List (List Byte)) : ls.length ≤ (labelsWire ls).length := by
  induction ls with
  | nil => simp [labelsWire]
  | cons l ls ih => simp only [labelsWire, List.length_cons, List.length_append]; omega

/-! ## Text -/

/-- A byte of a label in text: dots and backslashes are escaped. -/
def escape (b : Byte) : List Byte := if b = 46 ∨ b = 92 then [92, b] else [b]

/-- The text of a name, with a dot between the labels. -/
def text : List (List Byte) → List Byte
  | [] => []
  | [l] => l.flatMap escape
  | l :: l' :: ls => l.flatMap escape ++ 46 :: text (l' :: ls)

/-- The fully qualified text of a name. -/
def fqdn (ls : List (List Byte)) : List Byte := text ls ++ [46]

/-- Split a fully qualified text at its dots, less the escaped ones. -/
def splitLabels : List Byte → List Byte → Option (List (List Byte))
  | [], cur => if cur = [] then some [] else none
  | b :: rest, cur =>
    if b = 46 then (splitLabels rest []).map (cur :: ·)
    else if b = 92 then
      match rest with
      | [] => none
      | c :: rest => splitLabels rest (cur ++ [c])
    else splitLabels rest (cur ++ [b])

/-- The wire encoding of a text, if it is the fully qualified text of a name. -/
def packDomainName (s : List Byte) : Option (List Byte) :=
  if s = [46] then some [0]
  else match splitLabels s [] with
    | none => none
    | some ls =>
      if (∀ l ∈ ls, l ≠ [] ∧ l.length ≤ 63) ∧ (wire ls).length ≤ 255 then some (wire ls) else none

/-- The text ends with a dot that is not escaped. -/
def FullyQualified (s : List Byte) : Prop := s ≠ [] ∧ (splitLabels s []).isSome

instance (s : List Byte) : Decidable (FullyQualified s) := inferInstanceAs (Decidable (_ ∧ _))

/-- The fully qualified form of a text. -/
def qualify (s : List Byte) : List Byte := if FullyQualified s then s else s ++ [46]

theorem splitLabels_dot (rest cur : List Byte) :
    splitLabels (46 :: rest) cur = (splitLabels rest []).map (cur :: ·) := by
  rw [splitLabels.eq_def]
  rfl

/-- A second dot at the end makes an empty label. -/
theorem splitLabels_append_dot {s cur : List Byte} {ls : List (List Byte)}
    (h : splitLabels s cur = some ls) : splitLabels (s ++ [46]) cur = some (ls ++ [[]]) := by
  fun_induction splitLabels s cur generalizing ls with
  | case1 =>
    obtain rfl := Option.some.inj h
    rfl
  | case2 => cases h
  | case3 rest cur ih =>
    obtain ⟨ls', hls', rfl⟩ := Option.map_eq_some_iff.1 h
    rw [List.cons_append, splitLabels_dot, ih hls']
    rfl
  | case4 => cases h
  | case5 cur c rest hdot ih =>
    rw [← ih h, List.cons_append, List.cons_append, splitLabels.eq_def]
    rfl
  | case6 b rest cur hdot hslash ih =>
    rw [← ih h, List.cons_append, splitLabels.eq_def]
    exact (if_neg hdot).trans (if_neg hslash)

theorem splitLabels_escape (b : Byte) (rest cur : List Byte) :
    splitLabels (escape b ++ rest) cur = splitLabels rest (cur ++ [b]) := by
  unfold escape
  split
  · rw [List.cons_append, splitLabels.eq_def]
    rfl
  · rename_i hb
    rw [not_or] at hb
    rw [List.cons_append, splitLabels.eq_def]
    exact (if_neg hb.1).trans (if_neg hb.2)

theorem splitLabels_label (l rest cur : List Byte) :
    splitLabels (l.flatMap escape ++ rest) cur = splitLabels rest (cur ++ l) := by
  induction l generalizing cur with
  | nil => simp
  | cons b l ih =>
    rw [List.flatMap_cons, List.append_assoc, splitLabels_escape, ih, List.append_assoc]
    rfl

theorem splitLabels_fqdn (l : List Byte) (ls : List (List Byte)) :
    splitLabels (fqdn (l :: ls)) [] = some (l :: ls) := by
  induction ls generalizing l with
  | nil =>
    rw [fqdn, text, splitLabels_label, splitLabels_dot]
    rfl
  | cons l' ls ih =>
    have hrest : splitLabels (text (l' :: ls) ++ [46]) [] = some (l' :: ls) := ih l'
    rw [fqdn, text, List.append_assoc, splitLabels_label, List.cons_append, splitLabels_dot, hrest]
    rfl

/-- Without a final dot the last label does not end. -/
theorem splitLabels_text {l : List Byte} {ls : List (List Byte)} (h : ∀ l' ∈ l :: ls, l' ≠ []) :
    splitLabels (text (l :: ls)) [] = none := by
  induction ls generalizing l with
  | nil =>
    have hlabel := splitLabels_label l [] []
    rw [List.append_nil, List.nil_append] at hlabel
    rw [text, hlabel, splitLabels, if_neg (h l (.head _))]
  | cons l' ls ih =>
    rw [text, splitLabels_label, splitLabels_dot, ih fun l'' hl => h l'' (.tail _ hl)]
    rfl

theorem not_fullyQualified_text (n : Name) : ¬ FullyQualified (text n.labels) := by
  rintro ⟨hne, hsome⟩
  cases hlabels : n.labels with
  | nil => rw [hlabels] at hne; exact hne rfl
  | cons l ls =>
    rw [hlabels, splitLabels_text fun l' hl => n.nonempty l' (hlabels ▸ hl)] at hsome
    cases hsome

theorem fqdn_cons_ne (l : List Byte) (ls : List (List Byte)) (hne : l ≠ []) :
    fqdn (l :: ls) ≠ [46] := by
  intro h
  have := splitLabels_fqdn l ls
  rw [h] at this
  simp [splitLabels] at this
  exact hne this.1

/-- **Packing the text of a name gives its wire encoding.** -/
theorem Name.text_ne_nil (n : Name) (h : n.labels ≠ []) : text n.labels ≠ [] := by
  obtain ⟨l, ls, hl⟩ := List.exists_cons_of_ne_nil h
  have hne : l ≠ [] := n.nonempty l (hl ▸ List.mem_cons_self)
  intro hnil
  exact fqdn_cons_ne l ls hne (by rw [fqdn, ← hl, hnil]; rfl)

theorem packDomainName_fqdn (n : Name) : packDomainName (fqdn n.labels) = some n.wire := by
  rcases hl : n.labels with _ | ⟨l, ls⟩
  · simp [packDomainName, fqdn, text, Name.wire, hl, wire, labelsWire]
  · have hvalid : (∀ l' ∈ l :: ls, l' ≠ [] ∧ l'.length ≤ 63) ∧ (wire (l :: ls)).length ≤ 255 :=
      hl ▸ ⟨fun l' h => ⟨n.nonempty l' h, n.short l' h⟩, n.length_le⟩
    rw [packDomainName, if_neg (fqdn_cons_ne l ls (hvalid.1 l (.head _)).1), splitLabels_fqdn,
      Name.wire, hl]
    exact if_pos hvalid

/-! ## Messages -/

/-- The bytes of a 16-bit number in network order. -/
def be16 (x : BitVec 16) : List Byte := [byteOf x 1, byteOf x 0]

/-- The bytes of a 32-bit number in network order. -/
def be32 (x : BitVec 32) : List Byte := [byteOf x 3, byteOf x 2, byteOf x 1, byteOf x 0]

/-- A 16-bit number of a message, in network order. -/
def be16At (msg : List Byte) (i : Nat) : BitVec 16 := le16 (byteAt msg (i + 1)) (byteAt msg i)

def be32At (msg : List Byte) (i : Nat) : BitVec 32 :=
  le32 (byteAt msg (i + 3)) (byteAt msg (i + 2)) (byteAt msg (i + 1)) (byteAt msg i)

/-- More steps than a name of 255 bytes has labels and pointers. -/
def maxNameSteps : Nat := 256

/-- The labels of the name at an offset and the offset after it. A compression pointer has to
point back. -/
def decodeName (msg : List Byte) : Nat → Nat → Option (List (List Byte) × Nat)
  | 0, _ => none
  | steps + 1, off =>
    match msg[off]? with
    | none => none
    | some b =>
      if b = 0 then some ([], off + 1)
      else if b.toNat < 64 then
        if off + 1 + b.toNat ≤ msg.length then
          (decodeName msg steps (off + 1 + b.toNat)).map fun r =>
            ((msg.drop (off + 1)).take b.toNat :: r.1, r.2)
        else none
      else if 192 ≤ b.toNat then
        match msg[off + 1]? with
        | none => none
        | some b' =>
          let target := (b.toNat - 192) * 256 + b'.toNat
          if target < off then (decodeName msg steps target).map fun r => (r.1, off + 2) else none
      else none

/-- A name of at most 255 bytes. -/
def readName (msg : List Byte) (off : Nat) : Option (List (List Byte) × Nat) :=
  (decodeName msg maxNameSteps off).filter fun r => (wire r.1).length ≤ 255

structure Question where
  name : List (List Byte)
  qtype : BitVec 16
  qclass : BitVec 16
deriving DecidableEq, Repr

structure ResourceRecord where
  name : List (List Byte)
  rtype : BitVec 16
  rclass : BitVec 16
  ttl : BitVec 32
  rdata : List Byte
deriving DecidableEq, Repr

def readQuestion (msg : List Byte) (off : Nat) : Option (Question × Nat) := do
  let (name, off) ← readName msg off
  if off + 4 ≤ msg.length then
    some ({ name, qtype := be16At msg off, qclass := be16At msg (off + 2) }, off + 4)
  else none

def readRecord (msg : List Byte) (off : Nat) : Option (ResourceRecord × Nat) := do
  let (name, off) ← readName msg off
  let rdlength := (be16At msg (off + 8)).toNat
  if off + 10 + rdlength ≤ msg.length then
    some ({ name, rtype := be16At msg off, rclass := be16At msg (off + 2),
            ttl := be32At msg (off + 4), rdata := (msg.drop (off + 10)).take rdlength },
      off + 10 + rdlength)
  else none

/-- `n` items, one after the other. -/
def readMany {α : Type} (read : Nat → Option (α × Nat)) : Nat → Nat → Option (List α × Nat)
  | 0, off => some ([], off)
  | n + 1, off => do
    let (a, off) ← read off
    let (as, off) ← readMany read n off
    return (a :: as, off)

structure Message where
  questions : List Question
  answers : List ResourceRecord
  authority : List ResourceRecord
  additional : List ResourceRecord
deriving DecidableEq, Repr

def headerLength : Nat := 12

def qdcount (msg : List Byte) : Nat := (be16At msg 4).toNat
def ancount (msg : List Byte) : Nat := (be16At msg 6).toNat
def nscount (msg : List Byte) : Nat := (be16At msg 8).toNat
def arcount (msg : List Byte) : Nat := (be16At msg 10).toNat

/-- The sections of a message, which fill it exactly. -/
def decode (msg : List Byte) : Option Message :=
  if msg.length < headerLength then none
  else do
    let (questions, off) ← readMany (readQuestion msg) (qdcount msg) headerLength
    let (answers, off) ← readMany (readRecord msg) (ancount msg) off
    let (authority, off) ← readMany (readRecord msg) (nscount msg) off
    let (additional, off) ← readMany (readRecord msg) (arcount msg) off
    if off = msg.length then some { questions, answers, authority, additional } else none

theorem getElem?_of_drop {msg t : List Byte} {off : Nat} {b : Byte} (h : msg.drop off = b :: t) :
    msg[off]? = some b := by
  have h0 : (msg.drop off)[0]? = msg[off + 0]? := List.getElem?_drop
  rw [h] at h0
  exact h0.symm

theorem wire_cons (l : List Byte) (ls : List (List Byte)) :
    wire (l :: ls) = BitVec.ofNat 8 l.length :: (l ++ wire ls) := by
  simp [wire, labelsWire]

/-- **An uncompressed name decodes to its labels**, wherever it stands in a message. -/
theorem decodeName_wire {msg : List Byte} {ls : List (List Byte)} {off steps : Nat}
    (hvalid : ∀ l ∈ ls, l ≠ [] ∧ l.length ≤ 63) (hpre : wire ls <+: msg.drop off)
    (hsteps : ls.length < steps) :
    decodeName msg steps off = some (ls, off + (wire ls).length) := by
  induction ls generalizing off steps with
  | nil =>
    obtain ⟨steps, rfl⟩ : ∃ n, steps = n + 1 := ⟨steps - 1, by omega⟩
    obtain ⟨t, ht⟩ := hpre
    rw [decodeName, getElem?_of_drop ht.symm]
    rfl
  | cons l ls ih =>
    obtain ⟨steps, rfl⟩ : ∃ n, steps = n + 1 := ⟨steps - 1, by omega⟩
    obtain ⟨hne, hshort⟩ := hvalid l (.head _)
    obtain ⟨t, ht⟩ := hpre
    rw [wire_cons, List.cons_append, List.append_assoc] at ht
    have hlen := toNat_length_byte hshort
    have htail : msg.drop (off + 1) = l ++ (wire ls ++ t) := by
      rw [← List.drop_drop, ← ht]
      rfl
    have hrest : msg.drop (off + 1 + l.length) = wire ls ++ t := by
      rw [← List.drop_drop, htail, List.drop_left]
    have hin : off + 1 + l.length ≤ msg.length := by
      have := congrArg List.length htail
      simp only [List.length_drop, List.length_append, wire, List.length_singleton] at this
      omega
    rw [decodeName, getElem?_of_drop ht.symm]
    simp only [if_neg (length_byte_ne_zero hne hshort), hlen, if_pos (show l.length < 64 by omega),
      if_pos hin]
    rw [ih (fun l' h => hvalid l' (.tail _ h)) ⟨t, hrest.symm⟩
      (by simp only [List.length_cons] at hsteps; omega)]
    simp only [Option.map_some, htail, List.take_left, wire_cons, List.length_cons,
      List.length_append]
    congr 2
    omega

theorem Name.length_labels_lt (n : Name) : n.labels.length < 255 := by
  have h1 := n.length_le
  have h2 := length_labelsWire_le n.labels
  simp only [Dns.wire, List.length_append, List.length_singleton] at h1
  omega

theorem Name.decodeName {msg : List Byte} {off steps : Nat} (n : Name)
    (h : n.wire <+: msg.drop off) (hsteps : 255 ≤ steps) :
    Dns.decodeName msg steps off = some (n.labels, off + n.wire.length) :=
  decodeName_wire (fun l hl => ⟨n.nonempty l hl, n.short l hl⟩) h
    (Nat.lt_of_lt_of_le n.length_labels_lt hsteps)

theorem Name.readName_of_decodeName {msg : List Byte} {off off' : Nat} (n : Name)
    (h : Dns.decodeName msg maxNameSteps off = some (n.labels, off')) :
    readName msg off = some (n.labels, off') := by
  rw [readName, h, Option.filter_some, if_pos (by simpa using n.length_le)]

/-- A name decodes wherever its encoding stands. -/
theorem Name.readName {msg : List Byte} {off : Nat} (n : Name) (h : n.wire <+: msg.drop off) :
    Dns.readName msg off = some (n.labels, off + n.wire.length) :=
  n.readName_of_decodeName (n.decodeName h (by decide))

/-- A compression pointer stands for the name it points back to. -/
theorem Name.readName_pointer {msg r : List Byte} {off : Nat} {b b' : Byte} (n : Name)
    (h : msg.drop off = b :: b' :: r) (hptr : 192 ≤ b.toNat)
    (hback : (b.toNat - 192) * 256 + b'.toNat < off)
    (hname : n.wire <+: msg.drop ((b.toNat - 192) * 256 + b'.toNat)) :
    Dns.readName msg off = some (n.labels, off + 2) := by
  have h1 : msg.drop (off + 1) = b' :: r := by
    rw [← List.drop_drop, h]
    rfl
  have hzero : ¬ b = 0 := by
    rintro rfl
    exact absurd hptr (by decide)
  apply n.readName_of_decodeName
  rw [maxNameSteps, Dns.decodeName, getElem?_of_drop h]
  simp only [if_neg hzero, if_neg (show ¬ b.toNat < 64 by omega), if_pos hptr, getElem?_of_drop h1,
    if_pos hback]
  rw [n.decodeName hname (by decide)]
  rfl

/-! ## Sections -/

theorem be16At_of_drop {msg r : List Byte} {off : Nat} {x : BitVec 16}
    (h : msg.drop off = be16 x ++ r) : be16At msg off = x := by
  have h0 : byteAt msg off = byteOf x 1 := by rw [← Nat.add_zero off, ← byteAt_drop, h]; rfl
  have h1 : byteAt msg (off + 1) = byteOf x 0 := by rw [← byteAt_drop, h]; rfl
  rw [be16At, h0, h1, le16_byteOf]

/-- A question right after its name. -/
theorem readQuestion_of_drop {msg r : List Byte} {off : Nat} {n : Name} {t c : BitVec 16}
    (h : msg.drop off = n.wire ++ be16 t ++ be16 c ++ r) :
    readQuestion msg off =
      some ({ name := n.labels, qtype := t, qclass := c }, off + n.wire.length + 4) := by
  have hpre : n.wire <+: msg.drop off := ⟨be16 t ++ be16 c ++ r, by rw [h]; simp⟩
  have hdrop : msg.drop (off + n.wire.length) = be16 t ++ (be16 c ++ r) := by
    rw [← List.drop_drop, h, List.append_assoc, List.append_assoc, List.drop_left]
  have hdrop2 : msg.drop (off + n.wire.length + 2) = be16 c ++ r := by
    rw [← List.drop_drop, hdrop]
    rfl
  have hlen : off + n.wire.length + 4 ≤ msg.length := by
    have := congrArg List.length hdrop
    simp only [List.length_drop, List.length_append, be16, List.length_cons,
      List.length_nil] at this
    omega
  rw [readQuestion, n.readName hpre]
  simp only [Option.bind_eq_bind, Option.bind_some, if_pos hlen, be16At_of_drop hdrop,
    be16At_of_drop hdrop2]

/-- A question is read after its name. -/
theorem decodeName_of_readQuestion {msg : List Byte} {off off' : Nat} {q : Question}
    (h : readQuestion msg off = some (q, off')) :
    ∃ name after, decodeName msg maxNameSteps off = some (name, after) ∧
      after + 4 ≤ msg.length := by
  rw [readQuestion, readName] at h
  cases hd : decodeName msg maxNameSteps off with
  | none => simp [hd] at h
  | some x =>
    refine ⟨x.1, x.2, rfl, ?_⟩
    by_contra hshort
    rw [hd, Option.filter_some] at h
    split at h
    · simp [hshort] at h
    · simp at h

/-- A record right after its name. -/
theorem readRecord_of_drop {msg r rdata ttl : List Byte} {name : List (List Byte)} {off off' : Nat}
    {t c len : BitVec 16} (hname : readName msg off = some (name, off'))
    (h : msg.drop off' = be16 t ++ (be16 c ++ (ttl ++ (be16 len ++ (rdata ++ r)))))
    (httl : ttl.length = 4) (hlen : rdata.length = len.toNat) :
    readRecord msg off =
      some ({ name, rtype := t, rclass := c, ttl := be32At msg (off' + 4), rdata },
        off' + 10 + rdata.length) := by
  have h2 : msg.drop (off' + 2) = be16 c ++ (ttl ++ (be16 len ++ (rdata ++ r))) := by
    rw [← List.drop_drop, h]
    rfl
  have h4 : msg.drop (off' + 4) = ttl ++ (be16 len ++ (rdata ++ r)) := by
    rw [← List.drop_drop, h]
    rfl
  have h8 : msg.drop (off' + 8) = be16 len ++ (rdata ++ r) := by
    rw [show off' + 8 = off' + 4 + ttl.length by omega, ← List.drop_drop, h4, List.drop_left]
  have h10 : msg.drop (off' + 10) = rdata ++ r := by
    rw [show off' + 10 = off' + 8 + 2 by omega, ← List.drop_drop, h8]
    rfl
  have hin : off' + 10 + rdata.length ≤ msg.length := by
    have h8len := congrArg List.length h8
    simp only [List.length_drop, List.length_append, be16, List.length_cons, List.length_nil]
      at h8len
    omega
  rw [readRecord, hname]
  simp only [Option.bind_eq_bind, Option.bind_some, be16At_of_drop h, be16At_of_drop h2,
    be16At_of_drop h8, ← hlen, if_pos hin, h10, List.take_left]

/-- Nothing is read at the end of a message. -/
theorem readRecord_end (msg : List Byte) : readRecord msg msg.length = none := by
  have hname : decodeName msg maxNameSteps msg.length = none := by
    rw [maxNameSteps, decodeName]
    simp
  rw [readRecord, readName, hname]
  rfl

theorem readMany_one {α : Type} {read : Nat → Option (α × Nat)} {off off' : Nat} {a : α}
    (h : read off = some (a, off')) : readMany read 1 off = some ([a], off') := by
  simp [readMany, h]

/-- A name read from a part of a message is read from the message. -/
theorem decodeName_append {msg t : List Byte} {steps off : Nat} {r : List (List Byte) × Nat}
    (h : decodeName msg steps off = some r) : decodeName (msg ++ t) steps off = some r := by
  induction steps generalizing off r with
  | zero => simp [decodeName] at h
  | succ steps ih =>
    rw [decodeName] at h ⊢
    cases hb : msg[off]? with
    | none => simp [hb] at h
    | some b =>
      obtain ⟨hoff, -⟩ := List.getElem?_eq_some_iff.1 hb
      rw [List.getElem?_append_left hoff, hb]
      simp only [hb] at h ⊢
      split at h
      · rename_i hzero
        rw [if_pos hzero, h]
      rename_i hzero
      rw [if_neg hzero]
      split at h
      · -- a label: its bytes are inside the shorter message
        rename_i hlabel
        rw [if_pos hlabel]
        split at h
        · rename_i hin
          obtain ⟨r', hr', rfl⟩ := Option.map_eq_some_iff.1 h
          rw [if_pos (by rw [List.length_append]; omega), ih hr', Option.map_some,
            List.drop_append_of_le_length (by omega),
            List.take_append_of_le_length (by rw [List.length_drop]; omega)]
        · simp at h
      rename_i hlabel
      rw [if_neg hlabel]
      split at h
      · -- a pointer: its second byte is, and it points back
        rename_i hptr
        rw [if_pos hptr]
        cases hb' : msg[off + 1]? with
        | none => simp [hb'] at h
        | some b' =>
          obtain ⟨hoff', -⟩ := List.getElem?_eq_some_iff.1 hb'
          rw [List.getElem?_append_left hoff', hb']
          simp only [hb'] at h ⊢
          split at h
          · rename_i htarget
            obtain ⟨r', hr', rfl⟩ := Option.map_eq_some_iff.1 h
            rw [if_pos htarget, ih hr', Option.map_some]
          · simp at h
      · simp at h

/-- The sections of a message that decodes. -/
theorem decode_eq_some {msg : List Byte} {m : Message} :
    decode msg = some m ↔ headerLength ≤ msg.length ∧ ∃ o₁ o₂ o₃,
      readMany (readQuestion msg) (qdcount msg) headerLength = some (m.questions, o₁) ∧
      readMany (readRecord msg) (ancount msg) o₁ = some (m.answers, o₂) ∧
      readMany (readRecord msg) (nscount msg) o₂ = some (m.authority, o₃) ∧
      readMany (readRecord msg) (arcount msg) o₃ = some (m.additional, msg.length) := by
  obtain ⟨qs, ans, auth, add⟩ := m
  unfold decode
  constructor
  · intro h
    split at h
    · simp at h
    rename_i hlen
    simp only [Option.bind_eq_bind, Option.bind_eq_some_iff] at h
    obtain ⟨⟨qs', o₁⟩, h1, ⟨ans', o₂⟩, h2, ⟨auth', o₃⟩, h3, ⟨add', o₄⟩, h4, h5⟩ := h
    split at h5
    · rename_i hoff
      obtain ⟨rfl, rfl, rfl, rfl⟩ : qs' = qs ∧ ans' = ans ∧ auth' = auth ∧ add' = add := by
        simpa using h5
      exact ⟨by omega, o₁, o₂, o₃, h1, h2, h3, by rw [← hoff, h4]⟩
    · simp at h5
  · rintro ⟨hlen, o₁, o₂, o₃, h1, h2, h3, h4⟩
    simp only [if_neg (show ¬ msg.length < headerLength by omega), h1, h2, h3, h4,
      Option.bind_eq_bind, Option.bind_some, if_true]

end Dns
