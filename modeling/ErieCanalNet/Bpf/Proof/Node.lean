import ErieCanalNet.Bpf.Proof.Frame
import ErieCanalNet.Bridge.Proof.Node

/-!
# What a node answers

The XDP program on the maps of a node that has been through any sequence of jobs, restarts and
evictions. A query is answered when a job listed the DNS endpoint it is for, and a job wrote a
record of its name, each without an end since (`node_answers_iff`): a name that no service has any
more is answered all the same, and one whose write failed is not answered while the server has it.
-/

namespace Bpf

open Bridge Lib

/-- The program on a node. -/
def xdpEnv (node : Node) (adjustTailOk : Bool) (fill : Nat → Byte)
    (csumDiff : List Byte → BitVec 32) : XdpEnv where
  resdb := node.resolves.resdb
  endpt := node.endpoints.endpt
  adjustTailOk := adjustTailOk
  fill := fill
  csumDiff := csumDiff

/-- What the program takes for a standard query over UDP and IPv4. -/
structure IsQuery (frame : List Byte) : Prop where
  long : queryOff ≤ frame.length
  ethType : read16 frame 12 = bswap16 0x0800
  protocol : byteAt frame 23 = 17
  port : read16 frame 36 = bswap16 53
  standardQuery : byteAt frame 44 &&& 0xf8 = 0

/-- The frame asks for the records of the type of a name. -/
def Asks (frame : List Byte) (n : Dns.Name) (t : BitVec 16) : Prop :=
  n.wire ++ Dns.be16 t ++ Dns.be16 classINET <+: frame.drop queryOff

variable {env : XdpEnv} {frame body rest : List Byte} {clusterIP : Addr} {a : ARecord}

theorem adjustTailOk_of_tx (hm : MatchedQuery env frame clusterIP body rest a)
    (htx : (ecnetDnsProxy env frame).1 = .tx) : env.adjustTailOk = true := by
  by_contra hno
  rw [ecnetDnsProxy_of_matched hm, respondTo] at htx
  simp [adjustTail, hno] at htx

/-- The key of a question is the name's exactly when the question is the name's. -/
theorem questionKey_eq_iff {n : Dns.Name} {t : BitVec 16} (hz : ∀ b ∈ body, b ≠ 0) :
    questionKey body rest = queryKey t n.wire ↔
      n.wire ++ Dns.be16 t ++ Dns.be16 classINET <+: body ++ 0 :: rest := by
  have hclass : classINET ≠ 0 := by decide
  have hwire : n.wire ++ Dns.be16 t ++ Dns.be16 classINET =
      Dns.labelsWire n.labels ++ 0 :: (Dns.be16 t ++ Dns.be16 classINET) := by
    simp [Dns.Name.wire, Dns.wire]
  rw [hwire, zero_prefix_iff n.ne_zero hz]
  constructor
  · intro h
    have hname : padName body = padName n.wire := congrArg DnsQuery.name h
    rw [padName_wire, padName_inj hz n.ne_zero] at hname
    have htc : typeAndClass rest = (t, classINET) :=
      Prod.ext (congrArg DnsQuery.qtype h) (congrArg DnsQuery.qclass h)
    exact ⟨hname, eq_be16_of_typeAndClass hclass htc⟩
  · rintro ⟨rfl, r, rfl⟩
    rw [questionKey, typeAndClass_be16, queryKey, padName_wire]

/-- A reply to a question that is inside the frame. -/
theorem exists_replyWith (hm : MatchedQuery env frame clusterIP body rest a)
    (htx : (ecnetDnsProxy env frame).1 = .tx)
    (hin : queryOff + (body.length + 5) ≤ frame.length) :
    ∃ (l : Layout) (ipCheck udpCheck : Block 2), frame = l.bytes ∧
      (ecnetDnsProxy env frame).2 = (l.replyWith clusterIP a ipCheck udpCheck).bytes := by
  obtain ⟨l, hl, hquestion, hreply⟩ := exists_layout_reply hm htx
  have hframe := take_bytes l (frame.drop (queryOff + (body.length + 5)))
  rw [hquestion, hl, List.take_append_of_le_length hin, List.take_append_drop] at hframe
  rw [hreply, l.reply_eq]
  exact ⟨{ l with rest := frame.drop (queryOff + (body.length + 5)) }, _, _, hframe, rfl⟩

section

variable {pack : List Byte → Option (List Byte)} {bridgeIPInt : BitVec 32}
  {events : List NodeEvent} {node : Node} {adjustTailOk : Bool} {fill : Nat → Byte}
  {csumDiff : List Byte → BitVec 32}

/-- A record that a job wrote is one of a name. -/
theorem exists_name_of_recorded (hp : PacksQualified pack) (hnamed : ∀ e ∈ events, e.Named)
    {q : DnsQuery} (h : Recorded pack bridgeIPInt q events) :
    ∃ (n : Dns.Name) (t : BitVec 16), q = queryKey t n.wire := by
  obtain ⟨before, e, after, rfl, ⟨job, rfl, hostname, hr, -, packed, hpack, t, -, -, rfl⟩, -⟩ := h
  obtain ⟨n, -, hn⟩ := hnamed (.job job) (by simp) hostname hr
  have hwire : pack (Dns.text n.labels ++ [46]) = some n.wire := hp.wire n
  rw [← hn] at hwire
  obtain rfl : n.wire = packed := Option.some.inj (hwire.symm.trans hpack)
  exact ⟨n, t, rfl⟩

/-- What the program has found on a node. -/
theorem matched_of_reaches (hp : PacksQualified pack)
    (h : Node.Reaches pack bridgeIPInt events node) (hnamed : ∀ e ∈ events, e.Named)
    (hm : MatchedQuery (xdpEnv node adjustTailOk fill csumDiff) frame clusterIP body rest a) :
    a = bridgeRecord bridgeIPInt ∧ Served (read32 frame 30) clusterIP events ∧
      ∃ n t, Asks frame n t ∧ Recorded pack bridgeIPInt (queryKey t n.wire) events := by
  obtain ⟨hquery, hz, -, hrec⟩ := hm.record
  obtain rfl := record_of_reaches hp h hnamed hrec
  have hreg := (resdb_of_reaches hp h hnamed _).1 hrec
  obtain ⟨n, t, hkey⟩ := exists_name_of_recorded hp hnamed hreg
  refine ⟨rfl, (endpt_of_reaches h _ _).1 hm.endpoint, n, t, ?_, hkey ▸ hreg⟩
  rw [Asks, hquery]
  exact (questionKey_eq_iff hz).1 hkey

theorem exists_matched_of_recorded (hp : PacksQualified pack)
    (h : Node.Reaches pack bridgeIPInt events node) (hnamed : ∀ e ∈ events, e.Named)
    (hq : IsQuery frame) (hserved : Served (read32 frame 30) clusterIP events) {n : Dns.Name}
    {t : BitVec 16} (hasks : Asks frame n t)
    (hreg : Recorded pack bridgeIPInt (queryKey t n.wire) events) :
    ∃ rest, MatchedQuery (xdpEnv node adjustTailOk fill csumDiff) frame clusterIP
      (Dns.labelsWire n.labels) rest (bridgeRecord bridgeIPInt) := by
  obtain ⟨r, hr⟩ := hasks
  have hquery : frame.drop queryOff =
      Dns.labelsWire n.labels ++ 0 :: (Dns.be16 t ++ Dns.be16 classINET ++ r) := by
    rw [← hr]
    simp [Dns.Name.wire, Dns.wire]
  have hkey : questionKey (Dns.labelsWire n.labels) (Dns.be16 t ++ Dns.be16 classINET ++ r) =
      queryKey t n.wire :=
    (questionKey_eq_iff n.ne_zero).2 (hquery ▸ ⟨r, hr⟩)
  refine ⟨_, hq.long, hq.ethType, hq.protocol, (endpt_of_reaches h _ _).2 hserved, hq.port,
    hq.standardQuery, hquery, n.ne_zero, length_labelsWire_lt n, ?_⟩
  rw [hkey]
  exact (resdb_of_reaches hp h hnamed _).2 hreg

/-- The question of a name is inside the frame. -/
theorem question_in_frame (hm : MatchedQuery env frame clusterIP body rest a) {n : Dns.Name}
    {t : BitVec 16} (hasks : Asks frame n t) : queryOff + (body.length + 5) ≤ frame.length := by
  obtain ⟨hquery, hz, -, -⟩ := hm.record
  have hlong := hm.long
  have hlen := hasks.length_le
  rw [Asks, hquery] at hasks
  have hwire : n.wire ++ Dns.be16 t ++ Dns.be16 classINET =
      Dns.labelsWire n.labels ++ 0 :: (Dns.be16 t ++ Dns.be16 classINET) := by
    simp [Dns.Name.wire, Dns.wire]
  rw [hwire] at hasks hlen
  obtain ⟨rfl, -⟩ := (zero_prefix_iff n.ne_zero hz).1 hasks
  simp only [List.length_append, List.length_cons, Dns.be16, List.length_nil, List.length_drop]
    at hlen
  omega

/-- **What a node answers**, and what it answers with. -/
theorem node_answers_iff (hp : PacksQualified pack) (h : Node.Reaches pack bridgeIPInt events node)
    (hnamed : ∀ e ∈ events, e.Named) (adjustTailOk : Bool) (fill : Nat → Byte)
    (csumDiff : List Byte → BitVec 32) (frame : List Byte) :
    ((ecnetDnsProxy (xdpEnv node adjustTailOk fill csumDiff) frame).1 = .tx ↔
      adjustTailOk = true ∧ IsQuery frame ∧ (∃ cip, Served (read32 frame 30) cip events) ∧
        ∃ n t, Asks frame n t ∧ Recorded pack bridgeIPInt (queryKey t n.wire) events) ∧
    ((ecnetDnsProxy (xdpEnv node adjustTailOk fill csumDiff) frame).1 = .tx →
      ∃ (l : Layout) (cip : Addr) (ipCheck udpCheck : Block 2), frame = l.bytes ∧
        Served (read32 frame 30) cip events ∧
        (ecnetDnsProxy (xdpEnv node adjustTailOk fill csumDiff) frame).2 =
          (l.replyWith cip (bridgeRecord bridgeIPInt) ipCheck udpCheck).bytes) := by
  refine ⟨⟨fun htx => ?_, ?_⟩, fun htx => ?_⟩
  · obtain ⟨cip, body, rest, a, hm⟩ := exists_matched htx
    obtain ⟨-, hserved, hname⟩ := matched_of_reaches hp h hnamed hm
    exact ⟨adjustTailOk_of_tx hm htx,
      ⟨hm.long, hm.ethType, hm.protocol, hm.port, hm.standardQuery⟩, ⟨cip, hserved⟩, hname⟩
  · rintro ⟨hok, hq, ⟨cip, hserved⟩, n, t, hasks, hreg⟩
    obtain ⟨rest, hm⟩ := exists_matched_of_recorded hp h hnamed hq hserved hasks hreg
    exact ecnetDnsProxy_of_adjustTail hm hok
  · obtain ⟨cip, body, rest, a, hm⟩ := exists_matched htx
    obtain ⟨rfl, hserved, n, t, hasks, -⟩ := matched_of_reaches hp h hnamed hm
    obtain ⟨l, ipCheck, udpCheck, hl, hreply⟩ :=
      exists_replyWith hm htx (question_in_frame hm hasks)
    exact ⟨l, cip, ipCheck, udpCheck, hl, hserved, hreply⟩

end

/-- A job with the cluster DNS at 10.0.0.2 and one route for the hostnames. -/
def dnsJob (hostnames : List String) : BridgeNodeWatcherJob where
  dns := ⟨"kube-system", "kube-dns", 53, "udp"⟩
  kubeController := dnsClient "10.0.0.2"
  policy := ⟨AList.singleton 80 [⟨hostnames⟩]⟩
  endpointOrder := .asIs
  resolveOrder := .asIs
  updateOk := fun _ _ => true
  deleteOk := fun _ _ => true

/-- `web.default` comes and goes. -/
def webGone : List NodeEvent := [.job (dnsJob ["web.default"]), .job (dnsJob [])]

theorem resolvable_dnsJob {hostnames : List String} {hostname : String} :
    Resolvable (dnsJob hostnames).policy hostname ↔
      hostname ∈ hostnames ∧ ':' ∉ hostname.toList := by
  simp [Resolvable, dnsJob, AList.singleton_entries]

theorem named_webGone : ∀ e ∈ webGone, e.Named := by
  have hjob : ∀ hostnames : List String, (∀ hostname ∈ hostnames, hostname = "web.default") →
      (NodeEvent.job (dnsJob hostnames)).Named := by
    intro hostnames hall hostname hr
    obtain rfl := hall hostname (resolvable_dnsJob.1 hr).1
    exact ⟨webDefault, by decide, by decide +kernel⟩
  simp only [webGone, List.forall_mem_cons]
  exact ⟨hjob _ (by simp), hjob _ (by simp), List.forall_mem_nil _⟩

/-- The name of a service that is gone is answered. -/
theorem node_answers_gone :
    ∃ node, Node.Reaches packText 0x0af40001 webGone node ∧
      (∀ hostname, ¬ Resolvable (dnsJob []).policy hostname) ∧
      (ecnetDnsProxy (xdpEnv node true (fun _ => 0) (fun _ => 0))
        (queryFrame 0 (webQuestion []))).1 = .tx := by
  obtain ⟨node, hnode⟩ : ∃ node, Node.Reaches packText 0x0af40001 webGone node :=
    ⟨_, run_of_foldlM rfl⟩
  have hlists : (dnsJob []).Lists (le32 10 0 0 2) (le32 10 96 0 10) :=
    ⟨_, _, rfl, rfl, ⟨"10.0.0.2", by decide, by decide⟩, by decide⟩
  have hwrites : (dnsJob ["web.default"]).env packText 0x0af40001 |>.Writes "web.default"
      (queryKey typeA webDefault.wire) :=
    ⟨webDefault.wire, by decide +kernel, typeA, .head _, rfl, rfl⟩
  have hresolvable : Resolvable (dnsJob ["web.default"]).policy "web.default" :=
    resolvable_dnsJob.2 ⟨.head _, by decide⟩
  refine ⟨node, hnode, fun hostname hr => ?_, (node_answers_iff packsQualified_packText hnode
    named_webGone true _ _ _).1.2 ⟨rfl, ?_, ⟨le32 10 96 0 10, ?_⟩, webDefault, typeA, ?_, ?_⟩⟩
  · cases (resolvable_dnsJob.1 hr).1
  · exact ⟨by decide, by decide, by decide, by decide, by decide⟩
  · exact ⟨[.job (dnsJob ["web.default"])], _, [], rfl, ⟨_, rfl, hlists⟩, List.forall_mem_nil _⟩
  · exact List.prefix_rfl
  · refine ⟨[], _, [.job (dnsJob [])], rfl, ⟨_, rfl, "web.default", hresolvable, not_since_nil,
      hwrites⟩, ?_⟩
    simp [NodeEvent.EndsRecord]

end Bpf
