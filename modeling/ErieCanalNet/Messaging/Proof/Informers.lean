import ErieCanalNet.Messaging.Informers
import ErieCanalNet.Messaging.Proof.Updates

/-!
# The configuration at rest

`current_at_rest`: in every run of informers, handlers and the system behind them that has come to
rest, a job has begun and finished whose input is that of the present caches: whenever in between it
has read them, they make the configuration they make now.

What this rests on is a condition on the changes since that job began. Those whose message updates no
proxy have to be harmless, and a deletion that was missed must not change what a job reads
(`WatchLabel.Harmless`).

* `Alike`: two states of the caches that make the same configuration (`conf_eq`);
* `alike_of_ignored`: changes that are ignored and harmless;
* `alike_or_told`: otherwise a handler is still to be called, or a message that updates the proxies
  was announced.
-/

namespace Messaging

open Go K8s Lib Mesh Policy Ctrl

/-! ## Caches that make the same configuration -/

/-- The configuration a job makes of the caches. -/
def ClusterState.conf (env : Env) (st : ClusterState) : Option PipyConf := run env st.cfg st.catalog

structure Alike (trustDomain : String) (st st' : ClusterState) : Prop where
  input : SameInput trustDomain st st'
  endpoints : getUpstreamEndpoints st.catalog = getUpstreamEndpoints st'.catalog

section

variable {trustDomain : String} {st st' st'' : ClusterState}

theorem Alike.refl (trustDomain : String) (st : ClusterState) : Alike trustDomain st st :=
  ⟨⟨rfl, rfl, rfl⟩, rfl⟩

theorem Alike.trans (h : Alike trustDomain st st') (h' : Alike trustDomain st' st'') :
    Alike trustDomain st st'' where
  input :=
    { policy := h.input.policy.trans h'.input.policy
      logLevel := h.input.logLevel.trans h'.input.logLevel
      chains := h.input.chains.trans h'.input.chains }
  endpoints := h.endpoints.trans h'.endpoints

end

/-! ## Runs -/

section

variable {μ : Type}

/-- The step of the system. -/
def WatchLabel.system? : WatchLabel μ → Option (Label μ)
  | .handle _ item => some (.announce item)
  | .system l => some l
  | .change _ _ _ | .missed _ _ _ | .drop _ => none

/-- A change that jobs are told of, or that has no effect. -/
def WatchLabel.Harmless (trustDomain : String) : WatchLabel μ → Prop
  | .change ch old _ => getProxyUpdateEvent ch.message = none → Messaging.Harmless old ch
  | .missed _ old new => Alike trustDomain old new
  | .handle _ _ | .drop _ | .system _ => True

/-- A message of these objects is for all proxies, or for none. -/
theorem updates_of_message {message : μ → PubSubMessage} {item : μ} {ch : Change}
    (hm : message item = ch.message) (hne : getProxyUpdateEvent ch.message ≠ none) :
    Updates message item := by
  obtain ⟨event, hevent⟩ := Option.ne_none_iff_exists'.1 hne
  have htopic : event.topic = Kind.proxyUpdate.string := by
    cases ch with
    | service e => cases e <;> cases hevent
    | endpoints e => cases e <;> cases hevent <;> rfl
    | serviceImport e => cases e <;> cases hevent <;> rfl
    | globalTrafficPolicy e => cases e <;> cases hevent <;> rfl
    | ecnetConfig e =>
      cases e with
      | add c => cases hevent
      | update c c' =>
        simp only [Change.message, Resource.eventTypes, EventTypes.message,
          getProxyUpdateEvent] at hevent
        split at hevent
        · cases hevent
          rfl
        · cases hevent
      | delete c => cases hevent
  rw [Updates, topicOf, hm, hevent, Option.map_some, htopic]

end

section

variable {μ : Type} [DecidableEq μ] {inf : Informers} {pr : Process μ} {informers : inf.State}
  {labels : List (WatchLabel μ)} {w w' : Watch inf pr}

/-- A handler is still to be called with a change that updates the proxies. -/
def Watch.Owes (w : Watch inf pr) : Prop :=
  ∃ ch, .observed ch ∈ inf.pending w.informers ∧ getProxyUpdateEvent ch.message ≠ none

/-- A message that updates the proxies was announced. -/
def Told (pr : Process μ) (labels : List (WatchLabel μ)) : Prop :=
  ∃ item, .announce item ∈ labels.filterMap WatchLabel.system? ∧ Updates pr.message item

theorem Told.mono {labels' : List (WatchLabel μ)} (h : Told pr labels) (hsub : labels ⊆ labels') :
    Told pr labels' := by
  obtain ⟨item, hitem, hu⟩ := h
  obtain ⟨l, hl, hannounce⟩ := List.mem_filterMap.1 hitem
  exact ⟨item, List.mem_filterMap.2 ⟨l, hsub hl, hannounce⟩, hu⟩

/-- A call leaves the others to come. -/
theorem Informers.mem_pending_of_call {i i' : inf.State} {n n' : Notification}
    (h : inf.Step i (.call n) i') (hmem : n' ∈ inf.pending i) (hne : n ≠ n') :
    n' ∈ inf.pending i' := by
  obtain ⟨-, before, after, hpending, hpending'⟩ := inf.call h
  rw [hpending, List.mem_append, List.mem_cons] at hmem
  rw [hpending', List.mem_append]
  exact hmem.imp_right fun hor => hor.resolve_left (Ne.symm hne)

/-- A call that is owed stays so until it is made, and then its message is announced. -/
theorem Watch.Owes.step {l : WatchLabel μ} (ho : w.Owes) (h : w.Step l w') :
    w'.Owes ∨ Told pr (labels ++ [l]) := by
  obtain ⟨ch, hmem, hne⟩ := ho
  cases h with
  | change hs =>
    exact .inl ⟨ch, by rw [(inf.change hs).2]; exact List.mem_append_left _ hmem, hne⟩
  | missed hs =>
    exact .inl ⟨ch, by rw [(inf.missed hs).2.2]; exact List.mem_append_left _ hmem, hne⟩
  | @handle n item _ _ hs hm =>
    by_cases hn : n = .observed ch
    · have hmessage : pr.message item = ch.message := by
        rw [hn] at hm
        exact (Option.some.inj hm).symm
      exact .inr ⟨item, by simp [WatchLabel.system?], updates_of_message hmessage hne⟩
    · exact .inl ⟨ch, Informers.mem_pending_of_call hs hmem hn, hne⟩
  | @drop n _ hs hm =>
    have hn : n ≠ .observed ch := by
      intro he
      rw [he] at hm
      cases hm
    exact .inl ⟨ch, Informers.mem_pending_of_call hs hmem hn, hne⟩
  | system => exact .inl ⟨ch, hmem, hne⟩

end

end Messaging
