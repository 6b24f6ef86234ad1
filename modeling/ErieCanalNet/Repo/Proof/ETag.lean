import ErieCanalNet.Lib.Run
import ErieCanalNet.Repo.Publish

/-!
# The ETag and the repo

The ETag of the proxy stands for a configuration that the repo serves. A failed publish deletes
the codebase and keeps the ETag, so the two fall apart; they stay together along runs in which
a publishing job with an ETag has all its requests served, or none of them takes effect, and no
read of a codebase is answered with an error status (`published_of_safe`).

* `run_batch_ok`: a batch that reports no error has committed its file;
* `publish_cases`: a publish keeps the ETag, or commits the configuration of the new one.
-/

namespace Repo

open Go Lib

/-! ## Property and condition -/

section
variable {σ Conf : Type} (codec : ConfCodec Conf) (server : RepoServer σ) (base : String)

/-- **The ETag stands for the repo**: if it is the hash of a configuration, the proxy's codebase
exists and its committed `config.json` is a configuration of that hash. -/
def Published (st : PublishState σ) : Prop :=
  st.etag ≠ 0 → (∃ conf, codec.hash conf pluginSetVersion = some st.etag) →
    (server.codebase st.repo (proxyCodebase base)).isSome ∧
    ∃ conf ts v, codec.hash conf pluginSetVersion = some st.etag ∧
      server.file st.repo (pathIn (proxyCodebase base) ecnetCodebaseConfig) =
        some (codec.marshalIndent conf ts v)

end

/-- The request has no effect on the repo. -/
def Outcome.NoEffect : Outcome → Prop
  | .refused _ _ | .unreachable => True
  | .ok | .lost => False

/-- No read of a codebase is answered with an error status in place of the server's answer. -/
def ReadsTruthful (outcome : Nat → Request → Outcome) : Prop :=
  ∀ i n status h, outcome i (.getRepo n) ≠ .refused status h

/-- A job that keeps ETag and repo together: reads are truthful, and unless the ETag is unset or
there is nothing to publish, every request is served or none takes effect. -/
structure Job.Safe {σ Conf : Type} (codec : ConfCodec Conf) (st : PublishState σ)
    (job : Job Conf) : Prop where
  reads : ReadsTruthful job.outcome
  requests : st.etag = 0 ∨ (∀ h, codec.hash job.conf pluginSetVersion = some h → h = st.etag) ∨
    (∀ i r, job.outcome i r = .ok) ∨ ∀ i r, (job.outcome i r).NoEffect

/-! ## Single requests -/

/-- A version that `commit` can read. -/
def Decimal (v : String) : Prop := ∃ k, parseUint v 64 = (k, none)

theorem decimal_toString {k : Nat} (h : k < 2 ^ 64) : Decimal (toString k) :=
  ⟨k, parseUint_toString h⟩

/-- The codebase exists, with a version that can be committed, and serves the file. -/
def Committed {σ : Type} (server : RepoServer σ) (repo : σ) (n f : String) (x : List Byte) :
    Prop :=
  ∃ c, server.codebase repo n = some c ∧ Decimal c.version ∧
    server.file repo (pathIn n f) = some x

section
variable {σ : Type} {server : RepoServer σ} {outcome : Nat → Request → Outcome} {s s' : σ × Nat}
  {n f v : String} {x : List Byte} {b : Bool} {c : Codebase}

theorem run_submit_ok {req : Request} {refused : Nat → RepoError}
    (h : Prog.run (respond server outcome) (submit req refused) s = (some (b, none), s')) :
    b = true ∧ s'.1 = (server.handle s.1 req).2 := by
  simp only [submit, Prog.run_send_bind, respond] at h
  cases ho : outcome s.2 req with
  | ok =>
    simp only [ho] at h
    split at h
    · simp only [Prog.run_pure, Prod.mk.injEq, Option.some.injEq, and_true] at h
      exact ⟨h.1.symm, by rw [← h.2]⟩
    · simp at h
  | refused status hf => simp [ho, hf] at h
  | unreachable => simp [ho] at h
  | lost => simp [ho] at h

theorem run_readCodebase_ok (ht : ReadsTruthful outcome) {c : Option Codebase}
    (h : Prog.run (respond server outcome) (readCodebase n) s = (some (b, c, none), s')) :
    b = true ∧ c = server.codebase s.1 n ∧ s'.1 = s.1 := by
  simp only [readCodebase, Prog.run_send_bind, respond] at h
  cases ho : outcome s.2 (.getRepo n) with
  | ok =>
    simp only [ho, Prog.run_pure, Prod.mk.injEq, Option.some.injEq, and_true] at h
    obtain ⟨⟨rfl, rfl⟩, rfl⟩ := h
    refine ⟨rfl, ?_, server.get_state s.1 n⟩
    cases hc : server.codebase s.1 n with
    | none => rw [if_neg (server.get_missing hc)]
    | some c => rw [server.get_found hc]; rfl
  | refused status hf => exact absurd ho (ht _ _ _ _)
  | unreachable => simp [ho] at h
  | lost => simp [ho] at h

theorem isCreated_of_not_isSuccess {status : Nat} (h : isSuccess status = false) :
    isCreated status = false := by
  simp only [isSuccess, Bool.and_eq_false_iff, decide_eq_false_iff_not] at h
  simp only [isCreated, Bool.or_eq_false_iff, beq_eq_false_iff_ne]
  omega

/-- A codebase that was missing and is created without an error is read back. -/
theorem run_createCodebase_ok (ht : ReadsTruthful outcome) (hn : 1 < n.utf8ByteSize)
    (hmiss : server.codebase s.1 n = none) {c : Option Codebase}
    (h : Prog.run (respond server outcome) (createCodebase v n) s = (some (b, c, none), s')) :
    b = true ∧ c.isSome ∧ c = server.codebase s'.1 n := by
  simp only [createCodebase, Prog.run_send_bind, respond] at h
  obtain ⟨hst, hpost⟩ := server.post_missing { version := v } hmiss
  cases ho : outcome s.2 (.postRepo n { version := v }) with
  | ok =>
    simp only [ho, hst, if_true, getCodebase, if_pos hn] at h
    obtain ⟨hb, hc, hs⟩ := run_readCodebase_ok ht h
    rw [hs]
    exact ⟨hb, by rw [hc]; exact hpost ▸ rfl, hc⟩
  | refused status hf => simp [ho, isCreated_of_not_isSuccess hf] at h
  | unreachable => simp [ho] at h
  | lost => simp [ho] at h

theorem run_upsertFile_ok (hc : server.codebase s.1 n = some c)
    (h : Prog.run (respond server outcome) (upsertFile (pathIn n f) x) s =
      (some (b, none), s')) :
    b = true ∧ server.codebase s'.1 n = some c ∧ server.staged s'.1 (pathIn n f) = some x := by
  obtain ⟨hb, hs⟩ := run_submit_ok h
  rw [hs]
  exact ⟨hb, (server.upsert_found f _ x hc).2⟩

/-- A commit without an error leaves a codebase that serves what was staged. -/
theorem run_commit_ok (hc : server.codebase s.1 n = some c)
    (hx : server.staged s.1 (pathIn n f) = some x)
    (h : Prog.run (respond server outcome) (commit n v) s = (some (b, none), s')) :
    b = true ∧ Committed server s'.1 n f x := by
  unfold commit at h
  split at h
  · simp at h
  · rename_i k _
    obtain ⟨hb, hs⟩ := run_submit_ok h
    obtain ⟨-, ⟨c', hc', hv⟩, hfile⟩ := server.commit_found (s := s.1)
      { version := toString ((k + 1) % 2 ^ 64) } hc
    rw [hs]
    refine ⟨hb, c', hc', ?_, hfile f x hx⟩
    rw [hv]
    exact decimal_toString (Nat.mod_lt _ (by decide))

/-! ## Batches and derivation -/

/-- The batch of one file. -/
def oneFile (n f : String) (x : List Byte) : Batch :=
  { basepath := n, items := [{ filename := f, content := x }] }

theorem fullPath_oneFile (n f : String) (x : List Byte) :
    ({ filename := f, content := x } : BatchItem).fullPath n = pathIn n f := by
  simp [BatchItem.fullPath, pathIn]

/-- Uploading and committing one file either commits it or returns an error. -/
theorem run_commitBatch {r : Option (Bool × Option RepoError)}
    (hc : server.codebase s.1 n = some c)
    (h : Prog.run (respond server outcome) (commitBatch (oneFile n f x) v) s = (some r, s')) :
    (r = none ∧ Committed server s'.1 n f x) ∨ ∃ b e, r = some (b, some e) := by
  obtain ⟨r₁, s₁, hitems, h⟩ := Prog.run_bind_eq_some.1 h
  simp only [oneFile, batchItems, Bool.false_eq_true, if_false, fullPath_oneFile] at hitems
  obtain ⟨⟨b, err⟩, s₂, hup, hitems⟩ := Prog.run_bind_eq_some.1 hitems
  cases err with
  | some e =>
    obtain ⟨rfl, rfl⟩ : some (b, some e) = r₁ ∧ s₂ = s₁ := by simpa using hitems
    exact .inr ⟨b, e, by simpa using congrArg Prod.fst h.symm⟩
  | none =>
    obtain ⟨rfl, hc₂, hx⟩ := run_upsertFile_ok hc hup
    obtain ⟨rfl, rfl⟩ : none = r₁ ∧ s₂ = s₁ := by simpa using hitems
    obtain ⟨⟨b, err⟩, s₃, hcommit, h⟩ := Prog.run_bind_eq_some.1 h
    cases err with
    | some e => exact .inr ⟨b, e, by simpa using congrArg Prod.fst h.symm⟩
    | none =>
      obtain ⟨rfl, hdone⟩ := run_commit_ok hc₂ hx hcommit
      obtain ⟨rfl, rfl⟩ : none = r ∧ s₃ = s' := by simpa using h
      exact .inl ⟨rfl, hdone⟩

/-- **A batch without an error has committed its file**, if reads are truthful. -/
theorem run_batch_ok (ht : ReadsTruthful outcome) (hn : 1 < n.utf8ByteSize)
    (h : Prog.run (respond server outcome) (batch v [oneFile n f x]) s = (some (b, none), s')) :
    Committed server s'.1 n f x := by
  obtain ⟨r, s₁, hone, h⟩ := Prog.run_bind_eq_some.1 (show Prog.run _ (batchLoop v _) s = _ from h)
  have hdone : ∀ {w s₂ c}, server.codebase s₂.1 n = some c →
      Prog.run (respond server outcome) (commitBatch (oneFile n f x) w) s₂ = (some r, s₁) →
      Committed server s'.1 n f x := by
    intro w s₂ c hc hcb
    rcases run_commitBatch hc hcb with ⟨rfl, hd⟩ | ⟨b', e, rfl⟩
    · obtain ⟨-, rfl⟩ : _ ∧ s₁ = s' := by simpa [batchLoop] using h
      exact hd
    · simp at h
  obtain ⟨⟨b₁, c₁, err₁⟩, s₂, hread, hone⟩ := Prog.run_bind_eq_some.1 hone
  cases err₁ with
  | some e =>
    obtain ⟨rfl, rfl⟩ : some (b₁, some e) = r ∧ s₂ = s₁ := by simpa using hone
    simp at h
  | none =>
    obtain ⟨-, hc₁, hs₂⟩ := run_readCodebase_ok ht hread
    cases c₁ with
    | some c₁ => exact hdone (hs₂ ▸ hc₁.symm) hone
    | none =>
      obtain ⟨⟨b₂, c₂, err₂⟩, s₃, hcreate, hone⟩ := Prog.run_bind_eq_some.1 hone
      cases err₂ with
      | some e =>
        cases c₂ with
        | none =>
          obtain ⟨rfl, rfl⟩ : some (b₂, some e) = r ∧ s₃ = s₁ := by simpa using hone
          simp at h
        | some c₂ =>
          obtain ⟨rfl, rfl⟩ : some (b₂, some e) = r ∧ s₃ = s₁ := by simpa using hone
          simp at h
      | none =>
        obtain ⟨rfl, hsome, hc₂⟩ :=
          run_createCodebase_ok ht hn (by rw [hs₂]; exact hc₁.symm) hcreate
        obtain ⟨c₂, rfl⟩ := Option.isSome_iff_exists.1 hsome
        exact hdone hc₂.symm hone

theorem run_commit_true
    (h : Prog.run (respond server outcome) (commit n v) s = (some (b, none), s')) : b = true := by
  unfold commit at h
  split at h
  · simp at h
  · exact (run_submit_ok h).1

/-- A derivation without an error reports success. -/
theorem run_deriveCodebase_true (ht : ReadsTruthful outcome) {base : String} {version : UInt64}
    (h : Prog.run (respond server outcome) (deriveCodebase n base version) s =
      (some (b, none), s')) : b = true := by
  obtain ⟨⟨b₁, c₁, err₁⟩, s₁, hread, h⟩ := Prog.run_bind_eq_some.1 h
  cases err₁ with
  | some e => simp at h
  | none =>
    obtain ⟨rfl, -, -⟩ := run_readCodebase_ok ht hread
    cases c₁ with
    | some c₁ => simpa using (congrArg Prod.fst h).symm
    | none =>
      obtain ⟨⟨b₂, c₂, err₂⟩, s₂, -, h⟩ := Prog.run_bind_eq_some.1 h
      cases err₂ with
      | some e => simp at h
      | none =>
        cases c₂ with
        | none => simp at h
        | some c₂ => exact run_commit_true h

/-! ## When every request is served -/

variable (hok : ∀ i r, outcome i r = .ok)
include hok

theorem run_submit_served {req : Request} {refused : Nat → RepoError}
    (hst : isSuccess (server.handle s.1 req).1.1 = true) :
    Prog.run (respond server outcome) (submit req refused) s =
      (some (true, none), ((server.handle s.1 req).2, s.2 + 1)) := by
  simp [submit, respond, hok, hst]

theorem run_readCodebase_served (hc : server.codebase s.1 n = some c) :
    Prog.run (respond server outcome) (readCodebase n) s =
      (some (true, some c, none), (s.1, s.2 + 1)) := by
  simp [readCodebase, respond, hok, server.get_found hc, server.get_state]

theorem run_deriveCodebase_served {base : String} {version : UInt64}
    (hc : server.codebase s.1 n = some c) :
    Prog.run (respond server outcome) (deriveCodebase n base version) s =
      (some (true, none), (s.1, s.2 + 1)) := by
  rw [deriveCodebase, isCodebaseExists, Prog.run_bind_of_some (run_readCodebase_served hok hc)]
  rfl

theorem run_upsertFile_served (hc : server.codebase s.1 n = some c) :
    ∃ s₁, Prog.run (respond server outcome) (upsertFile (pathIn n f) x) s =
      (some (true, none), s₁) ∧ server.codebase s₁.1 n = some c := by
  obtain ⟨hst, hc₁, -⟩ := server.upsert_found f
    (if hasSuffix (pathIn n f) ".json" then "application/json" else "text/plain") x hc
  exact ⟨_, run_submit_served hok hst, hc₁⟩

theorem run_commit_served (hc : server.codebase s.1 n = some c) (hv : Decimal v) :
    ∃ s₁, Prog.run (respond server outcome) (commit n v) s = (some (true, none), s₁) := by
  obtain ⟨k, hk⟩ := hv
  rw [commit, hk]
  exact ⟨_, run_submit_served hok (server.commit_found _ hc).1⟩

/-- A batch to a codebase that exists succeeds. -/
theorem run_batch_served (hc : server.codebase s.1 n = some c) (hv : Decimal c.version) :
    ∃ s', Prog.run (respond server outcome) (batch v [oneFile n f x]) s =
      (some (true, none), s') := by
  obtain ⟨s₁, hup, hc₁⟩ := run_upsertFile_served (f := f) (x := x) (s := (s.1, s.2 + 1)) hok hc
  obtain ⟨s₂, hcommit⟩ := run_commit_served hok hc₁ hv
  have hitems : Prog.run (respond server outcome) (batchItems n (oneFile n f x).items)
      (s.1, s.2 + 1) = (some none, s₁) := by
    rw [oneFile, batchItems, if_neg Bool.false_ne_true, fullPath_oneFile,
      Prog.run_bind_of_some hup]
    rfl
  have hone : Prog.run (respond server outcome) (batchOne v (oneFile n f x)) s =
      (some none, s₂) := by
    rw [batchOne, isCodebaseExists, oneFile,
      Prog.run_bind_of_some (run_readCodebase_served hok hc)]
    show Prog.run _ (commitBatch (oneFile n f x) c.version) _ = _
    rw [commitBatch, show (oneFile n f x).basepath = n from rfl, Prog.run_bind_of_some hitems]
    show Prog.run _ (commit n c.version >>= _) _ = _
    rw [Prog.run_bind_of_some hcommit]
    rfl
  refine ⟨s₂, ?_⟩
  rw [batch, List.isEmpty_cons, if_neg Bool.false_ne_true, batchLoop,
    Prog.run_bind_of_some hone]
  rfl

end

/-! ## Publishing -/

theorem one_lt_proxyCodebase (base : String) : 1 < (proxyCodebase base).utf8ByteSize := by
  rw [proxyCodebase, String.utf8ByteSize_append]
  have : "/proxy.bridge.ecnet".utf8ByteSize = 19 := by decide
  omega

section
variable {σ Conf : Type} {codec : ConfCodec Conf} {server : RepoServer σ} {base : String}
  {outcome : Nat → Request → Outcome} {etag etag' : UInt64} {conf : Conf} {ts : Nat}
  {pluginSetV : List Byte} {s s' : σ × Nat}

/-- The configuration of an ETag is committed. -/
def EtagCommitted (codec : ConfCodec Conf) (server : RepoServer σ) (base : String)
    (etag : UInt64) (repo : σ) : Prop :=
  ∃ conf ts v, codec.hash conf pluginSetVersion = some etag ∧
    Committed server repo (proxyCodebase base) ecnetCodebaseConfig
      (codec.marshalIndent conf ts v)

/-- **A publish keeps the ETag, or commits the configuration of the new one.** -/
theorem publish_cases (ht : ReadsTruthful outcome)
    (h : Prog.run (respond server outcome)
      (publishSidecarConf codec base etag conf ts pluginSetVersion) s = (some etag', s')) :
    etag' = etag ∨ EtagCommitted codec server base etag' s'.1 := by
  unfold publishSidecarConf at h
  cases hh : codec.hash conf pluginSetVersion with
  | none =>
    simp only [hh, Prog.run_pure, Prod.mk.injEq, Option.some.injEq] at h
    exact .inl h.1.symm
  | some codebaseCurV =>
    simp only [hh] at h
    split at h
    · simp only [Prog.run_pure, Prod.mk.injEq, Option.some.injEq] at h
      exact .inl h.1.symm
    · obtain ⟨⟨success, err⟩, s₁, hderive, h⟩ := Prog.run_bind_eq_some.1 h
      obtain ⟨err₂, s₂, hbatch, h⟩ := Prog.run_bind_eq_some.1 h
      cases err₂ with
      | some e =>
        obtain ⟨_, _, _, h⟩ := Prog.run_bind_eq_some.1 h
        simp only [Prog.run_pure, Prod.mk.injEq, Option.some.injEq] at h
        exact .inl h.1.symm
      | none =>
        obtain ⟨rfl, rfl⟩ : codebaseCurV = etag' ∧ s₂ = s' := by simpa using h
        cases success with
        | false =>
          obtain ⟨rfl, rfl⟩ : err = none ∧ s₁ = s₂ := by simpa using hbatch
          exact absurd (run_deriveCodebase_true ht hderive) (by simp)
        | true =>
          obtain ⟨⟨b, err₃⟩, s₃, hb, hbatch⟩ := Prog.run_bind_eq_some.1 hbatch
          obtain ⟨rfl, rfl⟩ : err₃ = none ∧ s₃ = s₂ := by simpa using hbatch
          exact .inr ⟨conf, ts, _, hh, run_batch_ok ht (one_lt_proxyCodebase base) hb⟩

/-- A publish to a codebase that exists succeeds when every request is served. -/
theorem publish_served {h : UInt64} {c : Codebase} (hok : ∀ i r, outcome i r = .ok)
    (hh : codec.hash conf pluginSetVersion = some h) (hne : h ≠ etag)
    (hc : server.codebase s.1 (proxyCodebase base) = some c) (hv : Decimal c.version) :
    ∃ s', Prog.run (respond server outcome)
      (publishSidecarConf codec base etag conf ts pluginSetVersion) s = (some h, s') := by
  obtain ⟨s', hbatch⟩ := run_batch_served (v := toString (h - 1).toNat) (f := ecnetCodebaseConfig)
    (x := codec.marshalIndent conf ts (toString h.toNat)) (s := (s.1, s.2 + 1)) hok hc hv
  have hupload : Prog.run (respond server outcome)
      (uploadConf codec (proxyCodebase base) h conf ts) (s.1, s.2 + 1) = (some none, s') := by
    rw [uploadConf]
    exact Prog.run_bind_of_some hbatch
  refine ⟨s', ?_⟩
  rw [publishSidecarConf, hh]
  simp only [if_neg hne]
  rw [Prog.run_bind_of_some (run_deriveCodebase_served hok hc)]
  exact Prog.run_bind_of_some hupload

/-- With nothing to publish the repo is left alone. -/
theorem publish_skips
    (hskip : ∀ h, codec.hash conf pluginSetVersion = some h → h = etag)
    (h : Prog.run (respond server outcome)
      (publishSidecarConf codec base etag conf ts pluginSetVersion) s = (some etag', s')) :
    s'.1 = s.1 := by
  unfold publishSidecarConf at h
  cases hh : codec.hash conf pluginSetVersion with
  | none =>
    simp only [hh, Prog.run_pure, Prod.mk.injEq] at h
    rw [← h.2]
  | some v =>
    simp only [hh, if_pos (hskip v hh), Prog.run_pure, Prod.mk.injEq] at h
    rw [← h.2]

theorem respond_noEffect (hno : ∀ i r, (outcome i r).NoEffect) (s : σ × Nat) (req : Request) :
    (respond server outcome s req).2.1 = s.1 := by
  have := hno s.2 req
  unfold respond
  cases ho : outcome s.2 req <;> simp_all [Outcome.NoEffect]

/-- Requests without effect leave the repo alone. -/
theorem publish_noEffect (hno : ∀ i r, (outcome i r).NoEffect)
    (h : Prog.run (respond server outcome)
      (publishSidecarConf codec base etag conf ts pluginSetVersion) s = (some etag', s')) :
    s'.1 = s.1 := by
  have hkeep : (Prog.run (respond server outcome)
      (publishSidecarConf codec base etag conf ts pluginSetVersion) s).2.1 = s.1 :=
    Prog.run_keeps (R := fun a b : σ × Nat => b.1 = a.1) (fun _ => rfl)
      (fun h₁ h₂ => h₂.trans h₁) (respond_noEffect hno) _ s
  rwa [h] at hkeep

/-! ## Runs -/

/-- What runs keep: an ETag that is set has its configuration committed. -/
def EtagInv (codec : ConfCodec Conf) (server : RepoServer σ) (base : String)
    (st : PublishState σ) : Prop :=
  st.etag ≠ 0 → EtagCommitted codec server base st.etag st.repo

theorem EtagInv.published {st : PublishState σ} (h : EtagInv codec server base st) :
    Published codec server base st := by
  intro hne _
  obtain ⟨conf, ts, v, hh, c, hc, -, hfile⟩ := h hne
  exact ⟨by rw [hc]; rfl, conf, ts, v, hh, hfile⟩

/-- A safe job keeps ETag and repo together. -/
theorem etagInv_step {st st' : PublishState σ} {job : Job Conf}
    (hinv : EtagInv codec server base st) (hsafe : job.Safe codec st)
    (h : runJob codec server base st job = some st') : EtagInv codec server base st' := by
  obtain ⟨etag', s', hrun, rfl⟩ : ∃ etag' s', Prog.run (respond server job.outcome)
      (publishSidecarConf codec base st.etag job.conf job.ts pluginSetVersion) (st.repo, 0) =
        (some etag', s') ∧ st' = { etag := etag', repo := s'.1 } := by
    unfold runJob at h
    rcases hr : Prog.run (respond server job.outcome)
      (publishSidecarConf codec base st.etag job.conf job.ts pluginSetVersion) (st.repo, 0)
      with ⟨_ | etag', s'⟩
    · simp [hr] at h
    · exact ⟨etag', s', rfl, by simpa [hr] using h.symm⟩
  rcases publish_cases hsafe.reads hrun with rfl | hdone
  · -- the ETag did not change: the repo still has to serve it
    intro hne
    by_cases hskip : ∀ h, codec.hash job.conf pluginSetVersion = some h → h = st.etag
    · exact publish_skips hskip hrun ▸ hinv hne
    · rcases hsafe.requests with h0 | hskip' | hok | hno
      · exact absurd h0 hne
      · exact absurd hskip' hskip
      · -- a publish whose requests are all served sets the new ETag
        obtain ⟨v, hh, hv⟩ : ∃ v, codec.hash job.conf pluginSetVersion = some v ∧ v ≠ st.etag := by
          simpa using hskip
        obtain ⟨_, _, _, _, c, hc, hdec, _⟩ := hinv hne
        obtain ⟨s'', hserved⟩ : ∃ s'', Prog.run (respond server job.outcome)
            (publishSidecarConf codec base st.etag job.conf job.ts pluginSetVersion)
            (st.repo, 0) = (some v, s'') := publish_served hok hh hv hc hdec
        exact absurd (by simpa using (congrArg Prod.fst (hserved.symm.trans hrun))) hv
      · exact publish_noEffect hno hrun ▸ hinv hne
  · exact fun _ => hdone

/-- **Along every run of safe jobs the ETag stands for the repo.** -/
theorem published_of_safe {repo : σ} {jobs : List (Job Conf)} {st : PublishState σ}
    (h : Run (fun st job st' => job.Safe codec st ∧ runJob codec server base st job = some st')
      { etag := 0, repo } jobs st) : Published codec server base st := by
  have hinv : EtagInv codec server base st :=
    Run.invariant (fun h0 => absurd rfl h0) (fun hi hs => etagInv_step hi hs.1 hs.2) h
  exact hinv.published

end

/-! ## A repo in memory -/

structure MemRepo where
  codebase : String → Option Codebase
  file : String → Option (List Byte)
  staged : String → Option (List Byte)

/-- A path lies in a codebase. -/
def isIn (codebaseName path : String) : Bool := hasPrefix path (codebaseName ++ "/")

theorem isIn_pathIn (n f : String) : isIn n (pathIn n f) = true := by
  simp [isIn, pathIn, hasPrefix]

def MemRepo.handle (r : MemRepo) : Request → (Nat × Codebase) × MemRepo
  | .getRepo n =>
    match r.codebase n with
    | some c => ((200, c), r)
    | none => ((404, { version := "" }), r)
  | .postRepo n b =>
    ((201, b), { r with codebase := fun m => if m = n then some b else r.codebase m })
  | .patchRepo n b =>
    match r.codebase n with
    | none => ((404, { version := "" }), r)
    | some c =>
      let c := { c with version := b.version }
      ((200, c),
        { codebase := fun m => if m = n then some c else r.codebase m
          file := fun p => if isIn n p then (r.staged p).or (r.file p) else r.file p
          staged := fun p => if isIn n p then none else r.staged p })
  | .deleteRepo n =>
    ((204, { version := "" }),
      { codebase := fun m => if m = n then none else r.codebase m
        file := fun p => if isIn n p then none else r.file p
        staged := fun p => if isIn n p then none else r.staged p })
  | .postFile path _ x =>
    ((201, { version := "" }),
      { r with staged := fun p => if p = path then some x else r.staged p })
  | .deleteFile path =>
    ((204, { version := "" }),
      { r with staged := fun p => if p = path then none else r.staged p
               file := fun p => if p = path then none else r.file p })

def memServer : RepoServer MemRepo where
  handle := MemRepo.handle
  codebase := MemRepo.codebase
  file := MemRepo.file
  staged := MemRepo.staged
  get_state s n := by simp only [MemRepo.handle]; split <;> rfl
  get_found h := by simp [MemRepo.handle, h]
  get_missing h := by simp [MemRepo.handle, h]
  post_missing b _ := by simp [MemRepo.handle, isCreated]
  upsert_found f t x h := by simp [MemRepo.handle, isSuccess, h]
  commit_found b h := by simp +contextual [MemRepo.handle, h, isSuccess, isIn_pathIn]

def MemRepo.empty : MemRepo := ⟨fun _ => none, fun _ => none, fun _ => none⟩

/-- Configurations of one byte, stamped with nothing. -/
def byteCodec : ConfCodec Byte where
  marshal conf := some [conf]
  marshalIndent conf _ _ := [conf]

/-- A job whose requests are all served. -/
def servedJob (conf : Byte) : Job Byte := { conf, ts := 0, outcome := fun _ _ => .ok }

/-- A job whose upload is answered with an error. -/
def failedUpload (conf : Byte) : Job Byte where
  conf := conf
  ts := 0
  outcome := fun _ req => match req with
    | .postFile _ _ _ => .refused 500 rfl
    | _ => .ok

theorem safe_servedJob (conf : Byte) (st : PublishState MemRepo) :
    (servedJob conf).Safe byteCodec st :=
  ⟨fun _ _ _ _ => by simp [servedJob], .inr (.inr (.inl fun _ _ => rfl))⟩

/-- The second configuration takes the place of the first, and its ETag that of the first. -/
theorem published_after_two_jobs : ∃ st,
    Run (fun st job st' => job.Safe byteCodec st ∧ runJob byteCodec memServer "" st job = some st')
      { etag := 0, repo := .empty } [servedJob 1, servedJob 2] st ∧
      byteCodec.hash 2 pluginSetVersion = some st.etag ∧ st.etag ≠ 0 ∧
      Published byteCodec memServer "" st := by
  obtain ⟨st₁, h₁⟩ : ∃ st, runJob byteCodec memServer "" { etag := 0, repo := .empty }
      (servedJob 1) = some st := ⟨_, rfl⟩
  obtain ⟨st₂, h₂, heval⟩ : ∃ st, runJob byteCodec memServer "" st₁ (servedJob 2) = some st ∧
      byteCodec.hash 2 pluginSetVersion = some st.etag ∧ st.etag ≠ 0 := by
    obtain rfl := Option.some.inj h₁
    exact ⟨_, rfl, by decide, by decide⟩
  have hrun : Run (fun st job st' => job.Safe byteCodec st ∧ runJob byteCodec memServer "" st job =
      some st') { etag := 0, repo := MemRepo.empty } [servedJob 1, servedJob 2] st₂ :=
    .snoc (.snoc .nil ⟨safe_servedJob 1 _, h₁⟩) ⟨safe_servedJob 2 _, h₂⟩
  exact ⟨st₂, hrun, heval.1, heval.2, published_of_safe hrun⟩

/-- A failed upload of a second configuration deletes the first and keeps its ETag. -/
theorem not_published_after_failed_upload : ∃ st,
    Run (fun st job st' => runJob byteCodec memServer "" st job = some st')
      { etag := 0, repo := .empty } [servedJob 1, failedUpload 2] st ∧
      ¬ Published byteCodec memServer "" st := by
  refine ⟨_, .snoc (.snoc .nil rfl) rfl, fun h => ?_⟩
  have := (h (by decide) ⟨1, by decide⟩).1
  revert this
  decide

end Repo
