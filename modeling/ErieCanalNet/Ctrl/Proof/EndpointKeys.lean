import ErieCanalNet.Lib.Table
import ErieCanalNet.Go.IpText
import ErieCanalNet.Ctrl.PipyConf

/-!
# The keys of endpoints

The endpoints of a cluster are kept by the text of their address and port. A text that already ends
in a colon and digits is taken to hold a port: so is that of many IPv6 addresses, whose last group
is then read as one. The keys serve exactly the lists of endpoints where this does no harm
(`KeysServe`).
-/

namespace Ctrl

open Go Lib

theorem colon_notMem_toString (n : Nat) : ':' ∉ (toString n).toList :=
  notMem_toString (by decide) n

/-! ## Endpoints and their keys -/

/-- An endpoint of a cluster, with what is kept of it. -/
structure ZoneEndpoint where
  ip : IP
  port : UInt16
  wze : WeightedZoneEndpoint

/-- Added one after the other. -/
def weightedEndpoints (endpoints : List ZoneEndpoint) : WeightedEndpoints :=
  endpoints.foldl (fun wes e => addWeightedZoneEndpoint wes e.ip.string e.port e.wze.weight
    e.wze.cluster e.wze.lbType e.wze.contextPath) ∅

namespace ZoneEndpoint

def key (e : ZoneEndpoint) : String := hostPort e.ip.string e.port

/-- The text of a port, as a key ends. -/
def portText (e : ZoneEndpoint) : String := ":" ++ toString e.port.toNat

def SameAddr (e e' : ZoneEndpoint) : Prop := e.ip = e'.ip ∧ e.port = e'.port

theorem key_of_endsInPort {e : ZoneEndpoint} (h : endsInPort e.ip.string = true) :
    e.key = e.ip.string := if_pos h

theorem key_of_not_endsInPort {e : ZoneEndpoint} (h : ¬endsInPort e.ip.string = true) :
    e.key = e.ip.string ++ ":" ++ toString e.port.toNat := if_neg h

/-- A text ends in one port only. -/
theorem port_eq_of_hasSuffix {e e' : ZoneEndpoint} {s : String} (h : hasSuffix s e.portText = true)
    (h' : hasSuffix s e'.portText = true) : e.port = e'.port := by
  obtain ⟨t, rfl⟩ := hasSuffix_iff.1 h
  obtain ⟨t', ht⟩ := hasSuffix_iff.1 h'
  rw [portText, portText, ← String.append_assoc, ← String.append_assoc] at ht
  have hport := (append_sep_inj_right (colon_notMem_toString _) (colon_notMem_toString _) rfl ht).2
  exact UInt16.toNat_inj.1 (toString_inj.1 hport)

end ZoneEndpoint

open ZoneEndpoint

/-- What the keys are for. -/
structure KeysServe (endpoints : List ZoneEndpoint) : Prop where
  key_inj : ∀ e ∈ endpoints, ∀ e' ∈ endpoints, e.key = e'.key → e.SameAddr e'
  key_port : ∀ e ∈ endpoints, hasSuffix e.key e.portText = true
  /-- One entry for each endpoint, with what was added for it. -/
  entries : endpoints.Pairwise (fun e e' => ¬e.SameAddr e') →
    (weightedEndpoints endpoints).size = endpoints.length ∧
      ∀ e ∈ endpoints, (weightedEndpoints endpoints)[e.key]? = some e.wze

/-- An address whose text ends in a port ends in that of its endpoint, and is not what another
endpoint is kept by. -/
structure PortsApart (endpoints : List ZoneEndpoint) : Prop where
  own : ∀ e ∈ endpoints, endsInPort e.ip.string = true → hasSuffix e.ip.string e.portText = true
  apart : ∀ e ∈ endpoints, ∀ e' ∈ endpoints, ¬endsInPort e'.ip.string = true →
    e.ip.string ≠ e'.ip.string ++ ":" ++ toString e'.port.toNat

theorem PortsApart.key_inj {endpoints : List ZoneEndpoint} (h : PortsApart endpoints)
    {e e' : ZoneEndpoint} (he : e ∈ endpoints) (he' : e' ∈ endpoints) (hkey : e.key = e'.key) :
    e.SameAddr e' := by
  by_cases hport : endsInPort e.ip.string = true
  · rw [key_of_endsInPort hport] at hkey
    by_cases hport' : endsInPort e'.ip.string = true
    · rw [key_of_endsInPort hport'] at hkey
      have hsuffix := h.own e he hport
      rw [hkey] at hsuffix
      exact ⟨IP.string_injective.1 hkey, port_eq_of_hasSuffix hsuffix (h.own e' he' hport')⟩
    · rw [key_of_not_endsInPort hport'] at hkey
      exact absurd hkey (h.apart e he e' he' hport')
  · rw [key_of_not_endsInPort hport] at hkey
    by_cases hport' : endsInPort e'.ip.string = true
    · rw [key_of_endsInPort hport'] at hkey
      exact absurd hkey.symm (h.apart e' he' e he hport)
    · rw [key_of_not_endsInPort hport'] at hkey
      obtain ⟨hip, htext⟩ :=
        append_sep_inj_right (colon_notMem_toString _) (colon_notMem_toString _) rfl hkey
      exact ⟨IP.string_injective.1 hip, UInt16.toNat_inj.1 (toString_inj.1 htext)⟩

theorem PortsApart.keysServe {endpoints : List ZoneEndpoint} (h : PortsApart endpoints) :
    KeysServe endpoints := by
  refine ⟨fun e he e' he' => h.key_inj he he', fun e he => ?_, fun hdistinct => ?_⟩
  · by_cases hport : endsInPort e.ip.string = true
    · rw [key_of_endsInPort hport]
      exact h.own e he hport
    · rw [key_of_not_endsInPort hport]
      exact hasSuffix_iff.2 ⟨e.ip.string, by rw [portText, String.append_assoc]⟩
  · have hkeys : endpoints.Pairwise fun e e' => e.key ≠ e'.key :=
      hdistinct.imp_of_mem fun he he' hne hkey => hne (h.key_inj he he' hkey)
    exact ⟨size_foldl_insert_pairwise key wze hkeys, fun e he =>
      getElem?_foldl_insert_pairwise key wze hkeys he⟩

theorem KeysServe.portsApart {endpoints : List ZoneEndpoint} (h : KeysServe endpoints) :
    PortsApart endpoints := by
  refine ⟨fun e he hport => ?_, fun e he e' he' hport' htext => ?_⟩
  · rw [← key_of_endsInPort hport]
    exact h.key_port e he
  · have hport : endsInPort e.ip.string = true := by
      rw [htext]
      exact endsInPort_append _ _
    have hkey : e.key = e'.key := by
      rw [key_of_endsInPort hport, key_of_not_endsInPort hport', htext]
    have hip := (h.key_inj e he e' he' hkey).1
    exact hport' (hip ▸ hport)

/-- **Endpoints of different addresses and ports** are kept apart, each under a key that ends in its
port, if and only if the addresses that seem to end in a port do no harm. -/
theorem endpoint_keys_iff (endpoints : List ZoneEndpoint) :
    KeysServe endpoints ↔ PortsApart endpoints :=
  ⟨KeysServe.portsApart, PortsApart.keysServe⟩

/-- `fd00::1`. -/
def fd00 : IP := ⟨0xfd :: List.replicate 14 0 ++ [1], rfl⟩

def fd00Endpoints : List ZoneEndpoint :=
  [⟨fd00, 80, ⟨100, "east", "", "/"⟩⟩, ⟨fd00, 81, ⟨100, "west", "", "/"⟩⟩]

/-- The last group of `fd00::1` is taken for a port: its endpoints share one entry, whose key ends
in the port of neither. -/
theorem not_endpoint_keys :
    fd00Endpoints.Pairwise (fun e e' => ¬e.SameAddr e') ∧ ¬KeysServe fd00Endpoints ∧
      fd00Endpoints.map key = ["fd00::1", "fd00::1"] ∧
        (weightedEndpoints fd00Endpoints).toList = [("fd00::1", ⟨100, "west", "", "/"⟩)] := by
  have hkeys : fd00Endpoints.map key = ["fd00::1", "fd00::1"] := by decide +kernel
  refine ⟨?_, fun h => ?_, hkeys, by decide +kernel⟩
  · simp [fd00Endpoints, SameAddr]
  · have hport := h.key_port _ (.head _)
    revert hport
    decide +kernel

end Ctrl
