import ErieCanalNet.Mesh.Outbound

/-!
# The names the policy is joined by

Services are found again by texts: the FQDN, the cluster name, the name of a traffic match and the
hostnames. For names the API server admits each of these texts determines what it was printed
from: `fqdn_inj`, `clusterName_inj`, `outboundTrafficMatchName_inj`, and for hostnames, where two
services on one port could shadow each other, `eq_of_shared_hostname`.
-/

namespace Mesh

open Go K8s Policy

/-- The names of a service as the API server admits them: the namespace a label, the name of
letters, digits, dashes and dots. -/
structure NameValid (m : MeshService) : Prop where
  ns : isDNS1123Label m.ns = true
  ne : m.name ≠ ""
  name : ∀ c ∈ m.name.toList, c = '.' ∨ isNameChar c = true

theorem NameValid.notMem_ns {m : MeshService} (h : NameValid m) {c : Char}
    (hc : isNameChar c = false) : c ∉ m.ns.toList := fun hm => by
  rw [label_char h.ns c hm] at hc
  cases hc

theorem NameValid.notMem_name {m : MeshService} (h : NameValid m) {c : Char} (hdot : c ≠ '.')
    (hc : isNameChar c = false) : c ∉ m.name.toList := fun hm => by
  rcases h.name c hm with he | hn
  · exact hdot he
  · rw [hn] at hc
    cases hc

/-! ## FQDNs and cluster names -/

theorem fqdn_inj {m m' : MeshService} (h : NameValid m) (h' : NameValid m') :
    m.fqdn = m'.fqdn ↔ m.name = m'.name ∧ m.ns = m'.ns := by
  refine ⟨fun he => ?_, fun ⟨hn, hs⟩ => by rw [MeshService.fqdn, MeshService.fqdn, hn, hs]⟩
  have hcut : m.name ++ "." ++ m.ns = m'.name ++ "." ++ m'.ns := (String.append_left_inj _).1 he
  exact append_sep_inj_right (h.notMem_ns (by decide)) (h'.notMem_ns (by decide)) rfl hcut

/-- The namespace and the name are not empty, and free of the separators of the texts a service is
found by. -/
structure Separable (m : MeshService) : Prop where
  ns_ne : m.ns ≠ ""
  name_ne : m.name ≠ ""
  ns : ∀ c ∈ m.ns.toList, c ≠ '/' ∧ c ≠ '|' ∧ c ≠ '_'
  name : ∀ c ∈ m.name.toList, c ≠ '/' ∧ c ≠ '|' ∧ c ≠ '_'

theorem NameValid.separable {m : MeshService} (h : NameValid m) : Separable m := by
  have hsep : ∀ c, c = '.' ∨ isNameChar c = true → c ≠ '/' ∧ c ≠ '|' ∧ c ≠ '_' := by
    intro c hc
    refine ⟨?_, ?_, ?_⟩ <;> rintro rfl <;> revert hc <;> decide
  exact ⟨label_ne_empty h.ns, h.ne, fun c hc => hsep c (.inr (label_char h.ns c hc)),
    fun c hc => hsep c (h.name c hc)⟩

theorem Separable.clusterToMeshSvc {m : MeshService} (h : Separable m) :
    clusterToMeshSvc m.clusterName =
      .ok { ns := m.ns, name := m.name, targetPort := m.targetPort } := by
  have hsep : ∀ c : Char, c ≠ '/' ∧ c ≠ '|' ∧ c ≠ '_' → isClusterSep c = false := by
    rintro c ⟨hslash, hbar, -⟩
    simp [isClusterSep, hslash, hbar]
  exact clusterToMeshSvc_clusterName h.ns_ne h.name_ne (fun c hc => hsep c (h.ns c hc))
    (fun c hc => hsep c (h.name c hc))

theorem Separable.clusterName_inj {m m' : MeshService} (h : Separable m) (h' : Separable m') :
    m.clusterName = m'.clusterName ↔
      m.ns = m'.ns ∧ m.name = m'.name ∧ m.targetPort = m'.targetPort := by
  constructor
  · intro he
    have hd := h.clusterToMeshSvc
    rw [he, h'.clusterToMeshSvc] at hd
    simpa [eq_comm] using hd
  · rintro ⟨hns, hname, htp⟩
    simp only [MeshService.clusterName, hns, hname, htp]

theorem NameValid.clusterToMeshSvc {m : MeshService} (h : NameValid m) :
    clusterToMeshSvc m.clusterName =
      .ok { ns := m.ns, name := m.name, targetPort := m.targetPort } := h.separable.clusterToMeshSvc

theorem clusterName_inj {m m' : MeshService} (h : NameValid m) (h' : NameValid m') :
    m.clusterName = m'.clusterName ↔
      m.ns = m'.ns ∧ m.name = m'.name ∧ m.targetPort = m'.targetPort :=
  h.separable.clusterName_inj h'.separable

/-! ## Traffic matches -/

theorem outboundTrafficMatchName_inj {m m' : MeshService} (h : NameValid m) (h' : NameValid m') :
    m.outboundTrafficMatchName = m'.outboundTrafficMatchName ↔
      m.ns = m'.ns ∧ m.name = m'.name ∧ m.port = m'.port ∧ m.protocol = m'.protocol := by
  have shape : ∀ m : MeshService, m.outboundTrafficMatchName = "outbound_" ++
      (m.ns ++ "/" ++ (m.name ++ "_" ++ (toString m.port.toNat ++ "_" ++ m.protocol))) := by
    intro m
    simp only [MeshService.outboundTrafficMatchName, String.append_assoc]
  constructor
  · intro he
    rw [shape, shape, String.append_right_inj] at he
    obtain ⟨hns, he⟩ :=
      append_sep_inj (h.notMem_ns (by decide)) (h'.notMem_ns (by decide)) rfl he
    obtain ⟨hname, he⟩ := append_sep_inj (h.notMem_name (by decide) (by decide))
      (h'.notMem_name (by decide) (by decide)) rfl he
    obtain ⟨hport, hproto⟩ := append_sep_inj (notMem_toString (by decide) _)
      (notMem_toString (by decide) _) rfl he
    exact ⟨hns, hname, UInt16.toNat_inj.1 (toString_inj.1 hport), hproto⟩
  · rintro ⟨hns, hname, hport, hproto⟩
    simp only [MeshService.outboundTrafficMatchName, hns, hname, hport, hproto]

theorem outboundTrafficMatchName_ne_http (m : MeshService) :
    m.outboundTrafficMatchName ≠ "http" := by
  intro h
  have hhead := congrArg (fun s => s.toList.head?) h
  simp [MeshService.outboundTrafficMatchName, String.toList_append] at hhead

/-! ## Hostnames -/

/-- The name of a service: a label, or the label of a pod and the label of its headless service. -/
def LabelName (name : String) : Prop :=
  isDNS1123Label name = true ∨ ∃ pod svc, isDNS1123Label pod = true ∧ isDNS1123Label svc = true ∧
    name = pod ++ "." ++ svc

theorem LabelName.nameValid {m : MeshService} (h : LabelName m.name)
    (hns : isDNS1123Label m.ns = true) : NameValid m where
  ns := hns
  ne := by
    rcases h with h | ⟨pod, svc, -, -, he⟩
    · exact label_ne_empty h
    · rw [he]
      simp
  name := by
    intro c hc
    rcases h with h | ⟨pod, svc, hpod, hsvc, he⟩
    · exact .inr (label_char h c hc)
    · rw [he, String.toList_append, String.toList_append, List.mem_append, List.mem_append] at hc
      rcases hc with (hc | hc) | hc
      · exact .inr (label_char hpod c hc)
      · exact .inl (List.mem_singleton.1 hc)
      · exact .inr (label_char hsvc c hc)

/-- A text that is empty or goes on with a port or a segment. -/
def HostTail (cs : List Char) : Prop := cs = [] ∨ (∃ r, cs = ':' :: r) ∨ ∃ r, cs = '.' :: r

theorem HostTail.head {cs : List Char} (h : HostTail cs) : ∀ c ∈ cs.head?, isNameChar c = false := by
  rcases h with rfl | ⟨r, rfl⟩ | ⟨r, rfl⟩
  · simp
  · simp only [List.head?_cons, Option.mem_some, forall_eq']
    decide
  · simp only [List.head?_cons, Option.mem_some, forall_eq']
    decide

theorem mem_trustHostnames {port h : String} : ∀ {base : String} {segs : List String},
    h ∈ trustHostnames port base segs → ∃ t, h.toList = base.toList ++ '.' :: t
  | base, [], hm => by simp [trustHostnames] at hm
  | base, seg :: segs, hm => by
    rw [trustHostnames] at hm
    split at hm
    · exact mem_trustHostnames hm
    · simp only [List.mem_cons] at hm
      rcases hm with rfl | rfl | hm
      · exact ⟨seg.toList, by simp [String.toList_append]⟩
      · exact ⟨seg.toList ++ ':' :: port.toList, by simp [String.toList_append]⟩
      · obtain ⟨t, ht⟩ := mem_trustHostnames hm
        exact ⟨seg.toList ++ '.' :: t, by simp [ht, String.toList_append]⟩

/-- What follows the name and the namespace in a hostname: a port, or `svc` and what is below it. -/
def HostRest (t : List Char) : Prop :=
  t = [] ∨ (∃ r, t = ':' :: r) ∨ ∃ r, t = '.' :: ("svc".toList ++ r) ∧ HostTail r

theorem HostRest.hostTail {t : List Char} (h : HostRest t) : HostTail t := by
  rcases h with rfl | hr | ⟨r, rfl, -⟩
  · exact .inl rfl
  · exact .inr (.inl hr)
  · exact .inr (.inr ⟨_, rfl⟩)

theorem hostname_shape {trustDomain h : String} {m : MeshService}
    (hm : h ∈ getHostnamesForService trustDomain m false) :
    ∃ t, HostRest t ∧ h.toList = m.name.toList ++ '.' :: (m.ns.toList ++ t) := by
  simp only [getHostnamesForService, List.mem_append, List.mem_cons, List.not_mem_nil, or_false,
    Bool.false_eq_true, if_false, false_or] at hm
  have hsvc : ".svc".toList = '.' :: "svc".toList := by decide
  rcases hm with (rfl | rfl | rfl | rfl) | hm
  · exact ⟨[], .inl rfl, by simp [String.toList_append]⟩
  · exact ⟨':' :: (toString m.port.toNat).toList, .inr (.inl ⟨_, rfl⟩), by
      simp [String.toList_append]⟩
  · exact ⟨_, .inr (.inr ⟨[], rfl, .inl rfl⟩), by simp [String.toList_append]⟩
  · exact ⟨_, .inr (.inr ⟨':' :: (toString m.port.toNat).toList, rfl, .inr (.inl ⟨_, rfl⟩)⟩), by
      simp [String.toList_append]⟩
  · obtain ⟨t, ht⟩ := mem_trustHostnames hm
    exact ⟨_, .inr (.inr ⟨'.' :: t, rfl, .inr (.inr ⟨_, rfl⟩)⟩), by
      simp [ht, String.toList_append]⟩

/-- A label is cut from a text in one way only. -/
theorem label_cut {a a' : String} {r r' : List Char} (ha : isDNS1123Label a = true)
    (ha' : isDNS1123Label a' = true) (hr : HostTail r) (hr' : HostTail r')
    (h : a.toList ++ r = a'.toList ++ r') : a = a' ∧ r = r' := by
  obtain ⟨h1, h2⟩ := append_inj_of_span (label_char ha) (label_char ha') hr.head hr'.head h
  exact ⟨String.toList_inj.1 h1, h2⟩

theorem dot_hostTail (r : List Char) : HostTail ('.' :: r) := .inr (.inr ⟨r, rfl⟩)

/-- A one-label name does not share a hostname with a two-label name outside the namespace `svc`:
the third label of its hostnames is `svc`. -/
theorem not_shared_of_pod {a b pod svc ns : String} {t t' : List Char}
    (ha : isDNS1123Label a = true) (hb : isDNS1123Label b = true)
    (hpod : isDNS1123Label pod = true) (hsvc : isDNS1123Label svc = true)
    (hns : isDNS1123Label ns = true) (hne : ns ≠ "svc") (ht : HostRest t) (ht' : HostRest t')
    (h : a.toList ++ '.' :: (b.toList ++ t) =
      pod.toList ++ '.' :: (svc.toList ++ '.' :: (ns.toList ++ t'))) : False := by
  obtain ⟨-, h⟩ := label_cut ha hpod (dot_hostTail _) (dot_hostTail _) h
  obtain ⟨-, h⟩ := label_cut hb hsvc ht.hostTail (dot_hostTail _) (List.tail_eq_of_cons_eq h)
  rcases ht with rfl | ⟨r, rfl⟩ | ⟨r, rfl, hr⟩
  · cases h
  · simp at h
  · obtain ⟨he, -⟩ := label_cut (a := "svc") (by decide) hns hr ht'.hostTail
      (List.tail_eq_of_cons_eq h)
    exact hne he.symm

/-- **Services that share a hostname are one service**, their port and protocol apart. -/
theorem eq_of_shared_hostname {trustDomain h : String} {m m' : MeshService}
    (hns : isDNS1123Label m.ns = true) (hns' : isDNS1123Label m'.ns = true)
    (hsvc : m.ns ≠ "svc") (hsvc' : m'.ns ≠ "svc") (hname : LabelName m.name)
    (hname' : LabelName m'.name) (hm : h ∈ getHostnamesForService trustDomain m false)
    (hm' : h ∈ getHostnamesForService trustDomain m' false) :
    m.name = m'.name ∧ m.ns = m'.ns := by
  obtain ⟨t, ht, hh⟩ := hostname_shape hm
  obtain ⟨t', ht', hh'⟩ := hostname_shape hm'
  rw [hh] at hh'
  rcases hname with ha | ⟨pod, svc, hpod, hsv, he⟩
  · rcases hname' with ha' | ⟨pod', svc', hpod', hsv', he'⟩
    · obtain ⟨h1, h2⟩ := label_cut ha ha' (dot_hostTail _) (dot_hostTail _) hh'
      exact ⟨h1, (label_cut hns hns' ht.hostTail ht'.hostTail (List.tail_eq_of_cons_eq h2)).1⟩
    · rw [he'] at hh'
      simp only [String.toList_append, List.append_assoc] at hh'
      exact (not_shared_of_pod ha hns hpod' hsv' hns' hsvc' ht ht' hh').elim
  · rw [he] at hh'
    simp only [String.toList_append, List.append_assoc] at hh'
    rcases hname' with ha' | ⟨pod', svc', hpod', hsv', he'⟩
    · exact (not_shared_of_pod ha' hns' hpod hsv hns hsvc ht' ht hh'.symm).elim
    · rw [he'] at hh'
      simp only [String.toList_append, List.append_assoc] at hh'
      obtain ⟨h1, h2⟩ := label_cut hpod hpod' (dot_hostTail _) (dot_hostTail _) hh'
      obtain ⟨h3, h4⟩ :=
        label_cut hsv hsv' (dot_hostTail _) (dot_hostTail _) (List.tail_eq_of_cons_eq h2)
      obtain ⟨h5, -⟩ :=
        label_cut hns hns' ht.hostTail ht'.hostTail (List.tail_eq_of_cons_eq h4)
      exact ⟨by rw [he, he', h1, h3], h5⟩

end Mesh
