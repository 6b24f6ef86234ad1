import ErieCanalNet.Bpf.Proof.Node
import ErieCanalNet.Bpf.Proof.Redirects
import ErieCanalNet.Ctrl.Proof.Planes
import ErieCanalNet.Proxy.Proof.Serves

/-!
# From a name to its endpoints

The way of a request on a node, over all the parts that take a hand in it:

* the bridge has run its job on the cluster, so that the XDP program answers a query for the name
  of a service with the address of the bridge (`Bpf.exists_matched_of_recorded`);
* a process of a pod that is neither root nor the proxy connects to that address, on another port
  than the proxy's; it is redirected to the proxy, and the proxy reads the port it asked for
  (`Bpf.connectEnds_of_pod`, `Bpf.origDst_of_pod`);
* the proxy has loaded what the control plane published for the cluster, and sends the request to an
  endpoint of a service with that name and that port (`handleRequest_loaded`).

`named_request` puts it together: each part gets what the one before it returned.
-/

namespace Proxy

open Ctrl Go K8s Lib Mesh
open Bridge (BridgeNodeWatcherJob Node NodeEvent PacksQualified bytesOf bridgeRecord queryKey typeA)
open Bpf (Asks IsQuery Layout PodConnection Sockopt bpfSock connectCtx connectEnds ecnetDnsProxy
  ecnetSockConnect4 ecnetSockopt4 origDst soOriginalDst xdpEnv)
open Policy (getHostnamesForService getOutboundMeshTrafficPolicy isTCP)

/-! ## The address in a reply -/

/-- The address of the answer, with which a reply ends. -/
def answerAddr (reply : List Byte) : Bridge.Addr := read32 reply (reply.length - 4)

theorem answerAddr_replyWith (l : Layout) (cip : Bridge.Addr) (a : Bridge.ARecord)
    (ipCheck udpCheck : Block 2) :
    answerAddr (l.replyWith cip a ipCheck udpCheck).bytes = a.addr := by
  obtain ⟨front, hfront⟩ : ∃ front, (l.replyWith cip a ipCheck udpCheck).bytes =
      front ++ bytes32 a.addr :=
    ⟨_, Layout.bytes_append_rest { l.replyWith cip a ipCheck udpCheck with
      rest := bytes32 a.addr } (Dns.be16 0xc00c ++ (Dns.be16 typeA ++ (Dns.be16 Bridge.classINET ++
        (Dns.be32 a.ttl ++ Dns.be16 4))))⟩
  have hlen : (front ++ bytes32 a.addr).length - 4 = front.length := by simp [bytes32]
  rw [answerAddr, hfront, hlen, read32_append_bytes32]

/-! ## Names of services -/

theorem isTCP_of_http {protocol : String} (h : kindOf protocol = .http) :
    isTCP protocol = false := by
  by_contra htcp
  simp only [isTCP, Bool.not_eq_false, Bool.or_eq_true, beq_iff_eq] at htcp
  rcases htcp with rfl | rfl
  · exact absurd h (by decide)
  · exact absurd h (by decide)

/-! ## The path -/

section

variable {pack : List Byte → Option (List Byte)} {bridgeIPInt : BitVec 32}
  {events : List NodeEvent} {node : Node} {job : BridgeNodeWatcherJob}

/-- **A name of a service** is answered with the address of the bridge, on a node whose last job
was run on the cluster. -/
theorem named_answered {trustDomain : String} {c : Cluster} (hp : PacksQualified pack)
    (hnode : Node.Reaches pack bridgeIPInt (events ++ [.job job]) node)
    (hnamed : ∀ e ∈ events ++ [.job job], e.Named)
    (hlossless : ∀ e ∈ events ++ [.job job], e.Lossless)
    (hpolicy : job.policy = bridgePolicy (getOutboundMeshTrafficPolicy trustDomain c.toMeshCatalog))
    {m : MeshService} (hm : m ∈ c.listMeshServices) (hhttp : kindOf m.protocol = .http)
    {hostname : String} (hname : hostname ∈ namesFor trustDomain m) {n : Dns.Name}
    (hn : bytesOf hostname = Dns.text n.labels) (fill : Nat → Byte)
    (csumDiff : List Byte → BitVec 32) {frame : List Byte} (hq : IsQuery frame)
    (hlists : ∃ cip, job.Lists (read32 frame 30) cip) (hasks : Asks frame n typeA) :
    (ecnetDnsProxy (xdpEnv node true fill csumDiff) frame).1 = .tx ∧
      answerAddr (ecnetDnsProxy (xdpEnv node true fill csumDiff) frame).2 =
        bswap32 bridgeIPInt := by
  obtain ⟨cip, hlists⟩ := hlists
  have hserved : Bridge.Served (read32 frame 30) cip (events ++ [.job job]) :=
    since_concat.2 (.inl ⟨job, rfl, hlists⟩)
  have hr : Bridge.Resolvable job.policy hostname := by
    rw [hpolicy]
    exact resolvable_bridgePolicy.2 ⟨m, hm, isTCP_of_http hhttp, hname⟩
  have hreg := Bridge.recorded_of_lossless hp bridgeIPInt hlossless
    (List.mem_append_right _ (.head _)) hr hn (.head _)
  obtain ⟨rest, hmatched⟩ := Bpf.exists_matched_of_recorded hp hnode hnamed hq hserved hasks hreg
  have htx := Bpf.ecnetDnsProxy_of_adjustTail hmatched rfl
  obtain ⟨l, ipCheck, udpCheck, -, hreply⟩ :=
    Bpf.exists_replyWith hmatched htx (Bpf.question_in_frame hmatched hasks)
  exact ⟨htx, by rw [hreply, answerAddr_replyWith]; rfl⟩

end

/-- A request of a pod: it asks the cluster DNS for a name of a service, connects to the address
it gets, and sends a request for the name; the connection has been accepted, and the process that
has it asks where it was to go. -/
structure PodRequest (trustDomain : String) (c : Cluster) (job : BridgeNodeWatcherJob) (node : Node)
    (progs : Bpf.Config) where
  service : MeshService
  first : MeshService
  hostname : String
  name : Dns.Name
  fill : Nat → Byte
  csumDiff : List Byte → BitVec 32
  frame : List Byte
  hostEvents : List Bpf.Event
  host : Bpf.State
  uidGid : BitVec 64
  here : Bpf.Endpoint
  ctx : Sockopt
  head : RequestHead
  mem : service ∈ c.listMeshServices
  http : kindOf service.protocol = .http
  isFirst : c.listMeshServices.find? (fun m => m.port = service.port) = some first
  firstHttp : kindOf first.protocol = .http
  port : service.port.toBitVec ≠ progs.proxyPort
  isName : hostname ∈ namesFor trustDomain service
  text : bytesOf hostname = Dns.text name.labels
  query : IsQuery frame
  endpoint : ∃ cip, job.Lists (read32 frame 30) cip
  asks : Asks frame name typeA
  connection : PodConnection progs hostEvents host uidGid here
    ⟨answerAddr (ecnetDnsProxy (xdpEnv node true fill csumDiff) frame).2, service.port.toBitVec⟩
  optname : ctx.optname = soOriginalDst
  socket : ctx.sk = bpfSock (connectEnds progs uidGid here
    ⟨answerAddr (ecnetDnsProxy (xdpEnv node true fill csumDiff) frame).2,
      service.port.toBitVec⟩).server here
  buffer : 16 ≤ ctx.optval.length
  hostHeader : hostOfRequest head = hostname

namespace PodRequest

variable {trustDomain : String} {c : Cluster} {job : BridgeNodeWatcherJob} {node : Node}
  {progs : Bpf.Config}

/-- What becomes of the query. -/
def reply (r : PodRequest trustDomain c job node progs) : Bpf.XdpAction × List Byte :=
  ecnetDnsProxy (xdpEnv node true r.fill r.csumDiff) r.frame

/-- Where the pod connects to. -/
def asked (r : PodRequest trustDomain c job node progs) : Bpf.Endpoint :=
  ⟨answerAddr r.reply.2, r.service.port.toBitVec⟩

/-- What the proxy reads as the destination. -/
def destination (r : PodRequest trustDomain c job node progs) : Bpf.Endpoint :=
  origDst (ecnetSockopt4 r.host.maps.pairDest r.ctx).2.optval

end PodRequest

section

variable {pack : List Byte → Option (List Byte)} {bridgeIPInt : BitVec 32}
  {events : List NodeEvent} {node : Node} {job : BridgeNodeWatcherJob}

/-- The service is one of those that have the name and the port. -/
theorem PodRequest.exists_last {trustDomain : String} {c : Cluster} {progs : Bpf.Config}
    (r : PodRequest trustDomain c job node progs) :
    ∃ m, (hosting trustDomain c.listMeshServices r.service.port r.hostname).getLast? = some m := by
  have hmem : r.service ∈ hosting trustDomain c.listMeshServices r.service.port r.hostname :=
    List.mem_filter.2 ⟨r.mem, decide_eq_true ⟨rfl, r.http, (mem_namesFor.1 r.isName).1⟩⟩
  exact Option.isSome_iff_exists.1 (List.getLast?_isSome.2 (List.ne_nil_of_mem hmem))

/-- **From a name to its endpoints**: the query is answered with the address of the bridge, the
connection goes to the proxy, the proxy learns the port, and the request goes to endpoints of a
service that has the name and the port; it goes to one if the last of these services has a target
with a weight. -/
theorem named_request (env : Env) (cfg : Configurator) (c : Cluster)
    (hchain : deciding (setSidecarChain env cfg {}).chains "outbound-http" = httpModules)
    (hbars : ∀ m ∈ c.listMeshServices, '|' ∉ (matchProtocol m.protocol).toList)
    (hun : Unshared c.listMeshServices)
    (hready : ∀ name ∈ namesOf c.listMeshServices, getUpstreamEndpoints c.toMeshCatalog name ≠ [] ∧
      Balanceable (fillTable c.toMeshCatalog c.listMeshServices name none))
    (strict : Bool) (order : RangeOrder) (ts version : String) (hp : PacksQualified pack)
    (hnode : Node.Reaches pack bridgeIPInt (events ++ [.job job]) node)
    (hnamed : ∀ e ∈ events ++ [.job job], e.Named)
    (hlossless : ∀ e ∈ events ++ [.job job], e.Lossless)
    (hpolicy : job.policy =
      bridgePolicy (getOutboundMeshTrafficPolicy env.trustDomain c.toMeshCatalog))
    (progs : Bpf.Config) (hbridge : progs.bridgeIP = bridgeIPInt)
    (hloopback : bswap32 bridgeIPInt &&& 0xff ≠ 0x7f) :
    ∃ conf config, run env cfg c.toMeshCatalog = some conf ∧
      solveConfig strict order (conf.marshalIndent ts version) = some config ∧
      ∀ r : PodRequest env.trustDomain c job node progs,
        r.reply.1 = .tx ∧ answerAddr r.reply.2 = bswap32 bridgeIPInt ∧
        (∀ cookie sess,
          (ecnetSockConnect4 progs r.uidGid cookie true (connectCtx r.asked) sess).ctx.dest =
            ⟨bswap32 bridgeIPInt, progs.proxyPort⟩) ∧
        r.destination = r.asked ∧
        ∃ m, (hosting env.trustDomain c.listMeshServices r.service.port r.hostname).getLast? =
            some m ∧
          ∀ (rt : Runtime) (call : Nat) (address : String),
            ∃ answer, outboundRequest rt config call r.destination.port.toNat address r.head =
                some answer ∧
              (∀ a ∈ answer.2.sent, ∃ m ∈ c.listMeshServices, m.port = r.service.port ∧
                r.hostname ∈ getHostnamesForService env.trustDomain m false ∧
                ∃ m' ∈ rulePeers c.listMeshServices m,
                  EndpointOf c.toMeshCatalog c.listMeshServices m'.clusterName a.target) ∧
              (takesAll rt r.head = true →
                (answer.2.sent ≠ [] ↔ ∃ (name : String) (weight : UInt32),
                  (targetsOf c.toMeshCatalog (rulePeers c.listMeshServices m))[name]? =
                    some weight ∧ weight ≠ 0)) := by
  have hv := c.nameValid
  obtain ⟨config, hsolve, hloaded, hchains⟩ :=
    loaded_published env cfg strict order ts version hv hbars hun
  rw [← hchains] at hchain
  refine ⟨_, config, run_eq env cfg hv, hsolve, fun r => ?_⟩
  obtain ⟨htx, haddr⟩ := named_answered hp hnode hnamed hlossless hpolicy r.mem r.http r.isName
    r.text r.fill r.csumDiff r.query r.endpoint r.asks
  have hasked : r.asked.ip = bswap32 progs.bridgeIP :=
    haddr.trans (congrArg bswap32 hbridge.symm)
  have hends := Bpf.connectEnds_of_pod r.connection hasked (haddr ▸ hloopback) r.port
  have hdst : r.destination = r.asked :=
    Bpf.origDst_of_pod r.connection hasked (haddr ▸ hloopback) r.port r.optname r.socket r.buffer
  obtain ⟨m, hlast⟩ := r.exists_last
  have hm₀ := List.mem_of_find?_eq_some r.isFirst
  have hport : r.first.port = r.service.port := by simpa using List.find?_some r.isFirst
  refine ⟨htx, haddr, fun cookie sess => ?_, hdst, m, hlast, fun rt call address =>
    ⟨handleRequest rt config call
    (loadedMatch env.trustDomain c.toMeshCatalog c.listMeshServices r.first) r.head, ?_, ?_,
    fun htakes => ?_⟩⟩
  · rw [Bpf.dest_ecnetSockConnect4 r.uidGid r.here r.asked, show connectEnds _ _ _ r.asked = _ from
      hends, ← haddr]
  · rw [hdst]
    exact outboundRequest_loaded hloaded hv r.isFirst r.firstHttp hchain rt call address r.head
  · have htargets := handleRequest_loaded hloaded hv hm₀ r.firstHttp rt call r.head
    rwa [hport, r.hostHeader] at htargets
  · rw [← r.hostHeader, ← hport] at hlast
    exact handleRequest_sent_iff_of_last hm₀ r.firstHttp hlast htakes hloaded hv hready call

end

/-- The job of a node in the cluster of one import. -/
def webJob : BridgeNodeWatcherJob :=
  { Bpf.dnsJob [] with
    policy := bridgePolicy
      (getOutboundMeshTrafficPolicy "cluster.local" webCluster.toMeshCatalog) }

theorem named_webJob : (NodeEvent.job webJob).Named := by
  intro hostname hr
  obtain ⟨m, hm, -, hname⟩ := resolvable_bridgePolicy.1 hr
  have hweb : m = ⟨"default", "web", 80, 8080, "http", "c"⟩ := by
    have hm' : m ∈ webCluster.listMeshServices := hm
    rw [listMeshServices_webCluster] at hm'
    exact List.mem_singleton.1 hm'
  have hnames : namesFor "cluster.local" ⟨"default", "web", 80, 8080, "http", "c"⟩ =
      ["web.default", "web.default.svc", "web.default.svc.cluster",
        "web.default.svc.cluster.local"] := by decide +kernel
  have hall : ∀ labels : List (List Byte),
      ((∀ l ∈ labels, l ≠ []) ∧ (∀ l ∈ labels, l.length ≤ 63) ∧
        (∀ l ∈ labels, ∀ b ∈ l, b ≠ 0) ∧ (Dns.wire labels).length ≤ 255) →
      ∃ n : Dns.Name, n.labels = labels :=
    fun labels h => ⟨⟨labels, h.1, h.2.1, h.2.2.1, h.2.2.2⟩, rfl⟩
  rw [hweb, hnames] at hname
  have hlabels : ∃ labels : List (List Byte), (labels ≠ [] ∧ bytesOf hostname = Dns.text labels) ∧
      (∀ l ∈ labels, l ≠ []) ∧ (∀ l ∈ labels, l.length ≤ 63) ∧
        (∀ l ∈ labels, ∀ b ∈ l, b ≠ 0) ∧ (Dns.wire labels).length ≤ 255 := by
    simp only [List.mem_cons, List.not_mem_nil, or_false] at hname
    rcases hname with rfl | rfl | rfl | rfl
    · exact ⟨[bytesOf "web", bytesOf "default"], by decide +kernel⟩
    · exact ⟨[bytesOf "web", bytesOf "default", bytesOf "svc"], by decide +kernel⟩
    · exact ⟨[bytesOf "web", bytesOf "default", bytesOf "svc", bytesOf "cluster"],
        by decide +kernel⟩
    · exact ⟨[bytesOf "web", bytesOf "default", bytesOf "svc", bytesOf "cluster",
        bytesOf "local"], by decide +kernel⟩
  obtain ⟨labels, htext, hvalid⟩ := hlabels
  obtain ⟨n, rfl⟩ := hall labels hvalid
  exact ⟨n, htext⟩

/-- The pod asks for `web.default` and connects to port 80 of the address it gets. -/
theorem exists_webRequest {node : Node}
    (hnode : Node.Reaches Bridge.packText 183763201 [.job webJob] node) :
    ∃ r : PodRequest "cluster.local" webCluster webJob node {},
      r.service = ⟨"default", "web", 80, 8080, "http", "c"⟩ ∧ r.hostname = "web.default" := by
  have hlossless : ∀ e ∈ ([] : List NodeEvent) ++ [.job webJob], e.Lossless := by
    simp [NodeEvent.Lossless, webJob, Bpf.dnsJob]
  have hmem : (⟨"default", "web", 80, 8080, "http", "c"⟩ : MeshService) ∈
      webCluster.listMeshServices := by
    rw [listMeshServices_webCluster]
    exact .head _
  have hname : "web.default" ∈ namesFor "cluster.local"
      ⟨"default", "web", 80, 8080, "http", "c"⟩ := by decide +kernel
  have htext : bytesOf "web.default" = Dns.text Bpf.webDefault.labels := by decide +kernel
  have hquery : IsQuery (Bpf.queryFrame 0 (Bpf.webQuestion [])) :=
    ⟨by decide, by decide, by decide, by decide, by decide⟩
  have hlists : ∃ cip, webJob.Lists
      (read32 (Bpf.queryFrame 0 (Bpf.webQuestion [])) 30) cip :=
    ⟨le32 10 96 0 10, _, _, rfl, rfl, ⟨"10.0.0.2", by decide, by decide⟩, by decide⟩
  have hreaches : Node.Reaches Bridge.packText 183763201 ([] ++ [.job webJob]) node := hnode
  obtain ⟨-, haddr⟩ := named_answered (c := webCluster) Bridge.packsQualified_packText hreaches
    (by simpa using named_webJob) hlossless rfl hmem (by decide) hname htext (fun _ => 0)
    (fun _ => 0) hquery hlists List.prefix_rfl
  rw [show bswap32 183763201 = le32 10 244 1 1 by decide] at haddr
  obtain ⟨host, hhost, hconn⟩ := Bpf.reaches_of_eval
    (f := fun s => s.conns ⟨Bpf.podEnd, Bpf.proxyEnd⟩)
    (a := some { asked := Bpf.webEnd, client := some 1, progress := .accepted (some 2) })
    (by decide : (Bpf.podConnects.foldlM (Bpf.step {}) Bpf.State.init).map _ = _)
  have hends : connectEnds {} 1000 Bpf.podEnd Bpf.webEnd = ⟨Bpf.podEnd, Bpf.proxyEnd⟩ := by decide
  have hconnection : PodConnection {} Bpf.podConnects host 1000 Bpf.podEnd Bpf.webEnd :=
    { reaches := hhost
      lossless := by simp [Bpf.podConnects, Bpf.Event.Lossless]
      notRoot := by decide
      notProxy := by decide
      connected := ⟨1, [], _, _, rfl, rfl, by simp⟩
      accepted := ⟨_, 2, hends ▸ hconn, rfl⟩ }
  refine ⟨⟨⟨"default", "web", 80, 8080, "http", "c"⟩, ⟨"default", "web", 80, 8080, "http", "c"⟩,
    "web.default", Bpf.webDefault, fun _ => 0, fun _ => 0, Bpf.queryFrame 0 (Bpf.webQuestion []),
    Bpf.podConnects, host, 1000, Bpf.podEnd, Bpf.askOrigDst ⟨Bpf.podEnd, Bpf.proxyEnd⟩,
    getRoot "web.default", hmem, by decide, ?_, by decide, by decide, hname, htext, hquery, hlists,
    List.prefix_rfl, ?_, rfl, ?_, by decide, by decide +kernel⟩, rfl, rfl⟩
  · rw [listMeshServices_webCluster]
    rfl
  · rw [haddr]
    exact hconnection
  · rw [haddr]
    decide

/-- `web.default` in the cluster of one import. -/
theorem named_request_web :
    ∃ conf config node, run (.asIs "cluster.local") chartConfig webCluster.toMeshCatalog = some conf ∧
      solveConfig true .asIs (conf.marshalIndent "" "1") = some config ∧
      ∃ r : PodRequest "cluster.local" webCluster webJob node {}, r.reply.1 = .tx ∧
        ∀ (rt : Runtime) (call : Nat) (address : String), takesAll rt r.head = true →
          ∃ answer, outboundRequest rt config call r.destination.port.toNat address r.head =
            some answer ∧ answer.2.sent ≠ [] := by
  obtain ⟨node, hnode⟩ : ∃ node,
      Node.Reaches Bridge.packText 183763201 ([] ++ [.job webJob]) node :=
    ⟨_, run_of_foldlM rfl⟩
  obtain ⟨r, hservice, hhostname⟩ := exists_webRequest hnode
  obtain ⟨conf, config, hrun, hsolve, h⟩ := named_request (.asIs "cluster.local") chartConfig
    webCluster deciding_chartConfig.1 noBars_webCluster unshared_webCluster ready_webCluster true
    .asIs "" "1" Bridge.packsQualified_packText hnode (by simpa using named_webJob)
    (by simp [NodeEvent.Lossless, webJob, Bpf.dnsJob]) rfl {} rfl (by decide)
  obtain ⟨htx, -, -, -, m, hlast, hanswers⟩ := h r
  rw [hservice, hhostname, listMeshServices_webCluster] at hlast
  obtain rfl := Option.some.inj ((show (hosting "cluster.local"
    [⟨"default", "web", 80, 8080, "http", "c"⟩] 80 "web.default").getLast? =
      some ⟨"default", "web", 80, 8080, "http", "c"⟩ by decide +kernel).symm.trans hlast)
  refine ⟨conf, config, node, hrun, hsolve, r, htx, fun rt call address htakes => ?_⟩
  obtain ⟨answer, hanswer, -, hsent⟩ := hanswers rt call address
  exact ⟨answer, hanswer, (hsent htakes).2
    ⟨"default/web|8080", 100, by decide +kernel, by decide⟩⟩

end Proxy
