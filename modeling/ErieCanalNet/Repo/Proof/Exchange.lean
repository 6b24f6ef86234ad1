import Mathlib.Data.List.Chain
import ErieCanalNet.Repo.Client

/-!
# What a success of the repo client means

The log of a conversation with the repo says what was asked and answered. A `Batch` that reports
success has worked through its batches (`Completed`), and a `DeriveCodebase` does not crash and has
found or derived its codebase, exactly when every read right after a creation finds the codebase:
a status other than 200 reads as no codebase and no error (`batch_success_iff`,
`deriveCodebase_safe_iff`).

* `exec_submit`, `exec_readCodebase`: the conversations of single requests;
* `exec_batchItems`, `exec_commitBatch`, `exec_batchOne`, `exec_batchLoop`: those of a batch, each
  with its results.
-/

namespace Repo

open Go Lib

abbrev Log := List (Request × Response)

/-! ## Answers -/

def Response.Succeeded : Response → Prop
  | .transportError => False
  | .answer status _ => isSuccess status = true

def Response.Created : Response → Prop
  | .transportError => False
  | .answer status _ => isCreated status = true

/-- The codebase an answer to a read brings. -/
def Response.codebase : Response → Option Codebase
  | .transportError => none
  | .answer status body => if status = 200 then some body else none

/-- The server has answered, with a status. -/
def Response.Answered : Response → Prop
  | .transportError => False
  | .answer _ _ => True

/-- A read right after a creation finds the codebase, unless it gets no answer at all. -/
def ReadsBack (x y : Request × Response) : Prop :=
  ∀ n body m, x.1 = .postRepo n body → x.2.Created → y.1 = .getRepo m → y.2.Answered →
    y.2.codebase.isSome

/-- No request creates a codebase. -/
def NoPost (log : Log) : Prop := ∀ x ∈ log, ∀ n body, x.1 ≠ .postRepo n body

theorem NoPost.cons {x : Request × Response} {log : Log} (hx : ∀ n body, x.1 ≠ .postRepo n body)
    (h : NoPost log) : NoPost (x :: log) := List.forall_mem_cons.2 ⟨hx, h⟩

theorem NoPost.append {l₁ l₂ : Log} (h₁ : NoPost l₁) (h₂ : NoPost l₂) : NoPost (l₁ ++ l₂) :=
  List.forall_mem_append.2 ⟨h₁, h₂⟩

/-- Only a creation is followed by a read that has to find something. -/
theorem isChain_cons_of_ne {x : Request × Response} {log : Log}
    (hx : ∀ n body, x.1 ≠ .postRepo n body) :
    (x :: log).IsChain ReadsBack ↔ log.IsChain ReadsBack := by
  cases log with
  | nil => simp
  | cons y log =>
    rw [List.isChain_cons_cons]
    exact and_iff_right fun n body _ hpost => absurd hpost (hx n body)

theorem isChain_cons_getRepo {m : String} {resp : Response} {log : Log} :
    ((Request.getRepo m, resp) :: log).IsChain ReadsBack ↔ log.IsChain ReadsBack :=
  isChain_cons_of_ne fun _ _ h => by cases h

/-- A read that found nothing, an accepted creation, and the read after it. -/
theorem isChain_creation {name name' m : String} {body : Codebase} {resp₁ resp₂ resp₃ : Response}
    {rest : Log} (h : resp₂.Created) :
    ((Request.getRepo name, resp₁) :: (.postRepo name' body, resp₂) :: (.getRepo m, resp₃) ::
        rest).IsChain ReadsBack ↔
      (resp₃.Answered → resp₃.codebase.isSome) ∧ rest.IsChain ReadsBack := by
  rw [isChain_cons_getRepo, List.isChain_cons_cons, isChain_cons_getRepo]
  refine and_congr_left fun _ => ⟨fun hreads => hreads _ _ _ rfl h rfl, fun hfound => ?_⟩
  exact fun _ _ _ _ _ _ hanswered => hfound hanswered

theorem NoPost.isChain_append {l₁ l₂ : Log} (h : NoPost l₁) :
    (l₁ ++ l₂).IsChain ReadsBack ↔ l₂.IsChain ReadsBack := by
  induction l₁ with
  | nil => rfl
  | cons x l₁ ih =>
    obtain ⟨hx, h⟩ := List.forall_mem_cons.1 h
    rw [List.cons_append, isChain_cons_of_ne hx, ih h]

theorem NoPost.isChain {log : Log} (h : NoPost log) : log.IsChain ReadsBack := by
  rw [← List.append_nil log, h.isChain_append]
  exact .nil

/-! ## Single requests -/

theorem exec_readCodebase {name : String} {log : Log}
    {r : Option (Bool × Option Codebase × Option RepoError)}
    (h : Prog.Exec (readCodebase name) log r) :
    ∃ resp, log = [(.getRepo name, resp)] ∧
      ((resp = .transportError ∧ r = some (false, none, some .transport)) ∨
        (resp.Answered ∧ r = some (true, resp.codebase, none))) := by
  obtain ⟨resp, rest, rfl, hrest⟩ := Prog.exec_send_bind.1 h
  cases resp with
  | transportError =>
    obtain ⟨rfl, rfl⟩ := Prog.exec_pure.1 hrest
    exact ⟨_, rfl, .inl ⟨rfl, rfl⟩⟩
  | answer status body =>
    obtain ⟨rfl, rfl⟩ := Prog.exec_pure.1 hrest
    exact ⟨_, rfl, .inr ⟨trivial, rfl⟩⟩

theorem exec_submit {req : Request} {refused : Nat → RepoError} {log : Log}
    {r : Option (Bool × Option RepoError)} (h : Prog.Exec (submit req refused) log r) :
    ∃ resp, log = [(req, resp)] ∧
      ((resp.Succeeded ∧ r = some (true, none)) ∨ ∃ e, r = some (false, some e)) := by
  obtain ⟨resp, rest, rfl, hrest⟩ := Prog.exec_send_bind.1 h
  cases resp with
  | transportError =>
    obtain ⟨rfl, rfl⟩ := Prog.exec_pure.1 hrest
    exact ⟨_, rfl, .inr ⟨_, rfl⟩⟩
  | answer status body =>
    dsimp only at hrest
    split at hrest
    · rename_i hsuccess
      obtain ⟨rfl, rfl⟩ := Prog.exec_pure.1 hrest
      exact ⟨_, rfl, .inl ⟨hsuccess, rfl⟩⟩
    · obtain ⟨rfl, rfl⟩ := Prog.exec_pure.1 hrest
      exact ⟨_, rfl, .inr ⟨_, rfl⟩⟩

theorem safe_submit (req : Request) (refused : Nat → RepoError) :
    Prog.Safe (submit req refused) := by
  intro log h
  obtain ⟨resp, -, ⟨-, hr⟩ | ⟨e, hr⟩⟩ := exec_submit h <;> cases hr

theorem safe_readCodebase (name : String) : Prog.Safe (readCodebase name) := by
  intro log h
  obtain ⟨resp, -, ⟨-, hr⟩ | ⟨-, hr⟩⟩ := exec_readCodebase h <;> cases hr

/-- A commit asks nothing if it cannot read the version. -/
theorem exec_commit {name version : String} {log : Log} {r : Option (Bool × Option RepoError)}
    (h : Prog.Exec (commit name version) log r) :
    NoPost log ∧ ((∃ body resp, log = [(.patchRepo name body, resp)] ∧ resp.Succeeded ∧
      r = some (true, none)) ∨ ∃ e, r = some (false, some e)) := by
  unfold commit at h
  split at h
  · obtain ⟨rfl, rfl⟩ := Prog.exec_pure.1 h
    exact ⟨List.forall_mem_nil _, .inr ⟨_, rfl⟩⟩
  · obtain ⟨resp, rfl, hr⟩ := exec_submit h
    refine ⟨fun x hx => ?_, ?_⟩
    · rw [List.mem_singleton.1 hx]
      exact fun _ _ h => by cases h
    · rcases hr with ⟨hs, rfl⟩ | he
      · exact .inl ⟨_, resp, rfl, hs, rfl⟩
      · exact .inr he

theorem safe_commit (name version : String) : Prog.Safe (commit name version) := by
  intro log h
  obtain ⟨-, ⟨-, -, -, -, hr⟩ | ⟨e, hr⟩⟩ := exec_commit h <;> cases hr

/-! ## Batches -/

/-- The request for an item. -/
def BatchItem.request (item : BatchItem) (basepath : String) : Request :=
  let path := item.fullPath basepath
  if item.obsolete then .deleteFile path
  else .postFile path (if hasSuffix path ".json" then "application/json" else "text/plain")
    item.content

/-- Every item was asked for, and every one that is not obsolete with success. -/
def ItemsDone (basepath : String) : List BatchItem → Log → Prop
  | [], log => log = []
  | item :: items, log => ∃ resp rest, log = (item.request basepath, resp) :: rest ∧
      (item.obsolete = false → resp.Succeeded) ∧ ItemsDone basepath items rest

/-- The name a codebase is read back under. -/
def readBackName (name : String) : String := if 1 < name.utf8ByteSize then name else ""

/-- The codebase existed, or was created and read back. -/
inductive Opened (version name : String) : Log → Codebase → Prop
  | found {resp : Response} {c : Codebase} (h : resp.codebase = some c) :
      Opened version name [(.getRepo name, resp)] c
  | created {resp₁ resp₂ resp₃ : Response} {c : Codebase} (h₁ : resp₁.codebase = none)
      (h₂ : resp₂.Created) (h₃ : resp₃.codebase = some c) :
      Opened version name [(.getRepo name, resp₁), (.postRepo name { version }, resp₂),
        (.getRepo (readBackName name), resp₃)] c

/-- The codebase of the batch was opened, its items were uploaded, and it was committed. -/
def BatchDone (version : String) (batch : Batch) (log : Log) : Prop :=
  ∃ l₁ l₂ c body resp, log = l₁ ++ (l₂ ++ [(.patchRepo batch.basepath body, resp)]) ∧
    Opened version batch.basepath l₁ c ∧ ItemsDone batch.basepath batch.items l₂ ∧ resp.Succeeded

/-- **The batches were worked through**, one after the other. -/
def Completed (version : String) : List Batch → Log → Prop
  | [], log => log = []
  | batch :: batches, log => ∃ l₁ l₂, log = l₁ ++ l₂ ∧ BatchDone version batch l₁ ∧
      Completed version batches l₂

theorem exec_batchItems {basepath : String} : ∀ {items : List BatchItem} {log : Log}
    {r : Option (Option (Bool × Option RepoError))},
    Prog.Exec (batchItems basepath items) log r →
      NoPost log ∧ ((ItemsDone basepath items log ∧ r = some none) ∨
        ∃ e, r = some (some (false, some e)))
  | [], log, r, h => by
    obtain ⟨rfl, rfl⟩ := Prog.exec_pure.1 h
    exact ⟨List.forall_mem_nil _, .inl ⟨rfl, rfl⟩⟩
  | item :: items, log, r, h => by
    unfold batchItems at h
    split at h
    · -- an answer to a deletion is not looked at
      rename_i hobsolete
      have hreq : item.request basepath = .deleteFile (item.fullPath basepath) := if_pos hobsolete
      obtain ⟨a, l₁, l₂, rfl, h₁, h₂⟩ := (safe_submit _ _).exec_bind.1 h
      obtain ⟨resp, rfl, -⟩ := exec_submit h₁
      obtain ⟨hpost, hr⟩ := exec_batchItems h₂
      have hskip : item.obsolete = false → resp.Succeeded := by
        rw [hobsolete]
        exact fun hf => by cases hf
      refine ⟨.cons (fun _ _ h => by cases h) hpost, hr.imp_left fun ⟨hdone, hnone⟩ => ?_⟩
      exact ⟨⟨resp, l₂, by rw [hreq]; rfl, hskip, hdone⟩, hnone⟩
    · rename_i hobsolete
      have hreq : item.request basepath = .postFile (item.fullPath basepath)
          (if hasSuffix (item.fullPath basepath) ".json" then "application/json" else "text/plain")
          item.content := if_neg hobsolete
      obtain ⟨a, l₁, l₂, rfl, h₁, h₂⟩ := (safe_submit _ _).exec_bind.1 h
      obtain ⟨resp, rfl, ⟨hs, ha⟩ | ⟨e, ha⟩⟩ := exec_submit h₁
      · obtain rfl := Option.some.inj ha
        obtain ⟨hpost, hr⟩ := exec_batchItems h₂
        refine ⟨.cons (fun _ _ h => by cases h) hpost, hr.imp_left fun ⟨hdone, hnone⟩ => ?_⟩
        exact ⟨⟨resp, l₂, by rw [hreq]; rfl, fun _ => hs, hdone⟩, hnone⟩
      · obtain rfl := Option.some.inj ha
        obtain ⟨rfl, rfl⟩ := Prog.exec_pure.1 h₂
        exact ⟨.cons (fun _ _ h => by cases h) (List.forall_mem_nil _), .inr ⟨e, rfl⟩⟩

theorem safe_batchItems (basepath : String) (items : List BatchItem) :
    Prog.Safe (batchItems basepath items) := by
  intro log h
  obtain ⟨-, ⟨-, hr⟩ | ⟨e, hr⟩⟩ := exec_batchItems h <;> cases hr

theorem exec_commitBatch {batch : Batch} {v : String} {log : Log}
    {r : Option (Option (Bool × Option RepoError))} (h : Prog.Exec (commitBatch batch v) log r) :
    NoPost log ∧ ((∃ l body resp, log = l ++ [(.patchRepo batch.basepath body, resp)] ∧
      ItemsDone batch.basepath batch.items l ∧ resp.Succeeded ∧ r = some none) ∨
        ∃ e, r = some (some (false, some e))) := by
  obtain ⟨a, l₁, l₂, rfl, h₁, h₂⟩ := (safe_batchItems _ _).exec_bind.1 h
  obtain ⟨hpost, ⟨hitems, ha⟩ | ⟨e, ha⟩⟩ := exec_batchItems h₁
  · obtain rfl := Option.some.inj ha
    obtain ⟨a, l₃, l₄, rfl, h₃, h₄⟩ := (safe_commit _ _).exec_bind.1 h₂
    obtain ⟨hpost', ⟨body, resp, rfl, hs, ha⟩ | ⟨e, ha⟩⟩ := exec_commit h₃
    · obtain rfl := Option.some.inj ha
      obtain ⟨rfl, rfl⟩ := Prog.exec_pure.1 h₄
      exact ⟨hpost.append hpost', .inl ⟨l₁, body, resp, rfl, hitems, hs, rfl⟩⟩
    · obtain rfl := Option.some.inj ha
      obtain ⟨rfl, rfl⟩ := Prog.exec_pure.1 h₄
      rw [List.append_nil]
      exact ⟨hpost.append hpost', .inr ⟨e, rfl⟩⟩
  · obtain rfl := Option.some.inj ha
    obtain ⟨rfl, rfl⟩ := Prog.exec_pure.1 h₂
    rw [List.append_nil]
    exact ⟨hpost, .inr ⟨e, rfl⟩⟩

/-- A creation, with what it returns when it is refused. -/
def create (name : String) (body : Codebase) (refused : Nat → Bool × RepoError) :
    RepoM (Bool × Option Codebase × Option RepoError) := do
  match ← Prog.send (.postRepo name body) with
  | .transportError => return (false, none, some .transport)
  | .answer status _ =>
    if isCreated status then getCodebase name
    else return ((refused status).1, none, some (refused status).2)

theorem createCodebase_eq (version name : String) : createCodebase version name =
    create name { version } fun status => (false, .creating name status) := rfl

theorem deriveCodebase'_eq (name base : String) (version : UInt64) :
    deriveCodebase' name base version = create name { version := toString version.toNat, base }
      fun status => (true, .deriveFrom name base status) := rfl

/-- A creation that was accepted is read back. -/
theorem exec_create {name : String} {body : Codebase} {refused : Nat → Bool × RepoError} {log : Log}
    {r : Option (Bool × Option Codebase × Option RepoError)}
    (h : Prog.Exec (create name body refused) log r) :
    ∃ resp, (∃ b e, (b = false ∨ ∃ status, (refused status).1 = b) ∧
        log = [(.postRepo name body, resp)] ∧ r = some (b, none, some e)) ∨
      (resp.Created ∧ ∃ resp', log = [(.postRepo name body, resp),
        (.getRepo (readBackName name), resp')] ∧
        ((resp' = .transportError ∧ r = some (false, none, some .transport)) ∨
          (resp'.Answered ∧ r = some (true, resp'.codebase, none)))) := by
  obtain ⟨resp, rest, rfl, hrest⟩ := Prog.exec_send_bind.1 h
  cases resp with
  | transportError =>
    obtain ⟨rfl, rfl⟩ := Prog.exec_pure.1 hrest
    exact ⟨_, .inl ⟨_, _, .inl rfl, rfl, rfl⟩⟩
  | answer status text =>
    dsimp only at hrest
    split at hrest
    · rename_i hcreated
      obtain ⟨resp', rfl, hr⟩ := exec_readCodebase hrest
      exact ⟨.answer status text, .inr ⟨hcreated, resp', rfl, hr⟩⟩
    · obtain ⟨rfl, rfl⟩ := Prog.exec_pure.1 hrest
      exact ⟨_, .inl ⟨_, _, .inr ⟨status, rfl⟩, rfl, rfl⟩⟩

theorem safe_create (name : String) (body : Codebase) (refused : Nat → Bool × RepoError) :
    Prog.Safe (create name body refused) := by
  intro log h
  obtain ⟨resp, ⟨b, e, -, -, hr⟩ | ⟨-, resp', -, ⟨-, hr⟩ | ⟨-, hr⟩⟩⟩ := exec_create h <;> cases hr

/-- **What one batch can do**: it is done; it reports an error; or it reports success although the
codebase it created was not found. -/
theorem exec_batchOne {version : String} {batch : Batch} {log : Log}
    {r : Option (Option (Bool × Option RepoError))}
    (h : Prog.Exec (batchOne version batch) log r) :
    (BatchDone version batch log ∧ r = some none) ∨
      (log.IsChain ReadsBack ∧ ∃ e, r = some (some (false, some e))) ∨
      (¬ log.IsChain ReadsBack ∧ r = some (some (true, none))) := by
  obtain ⟨a, l₁, l₂, rfl, h₁, h₂⟩ := (safe_readCodebase _).exec_bind.1 h
  obtain ⟨resp, rfl, ⟨-, ha⟩ | ⟨-, ha⟩⟩ := exec_readCodebase h₁
  · obtain rfl := Option.some.inj ha
    obtain ⟨rfl, rfl⟩ := Prog.exec_pure.1 h₂
    exact .inr (.inl ⟨.singleton _, _, rfl⟩)
  obtain rfl := Option.some.inj ha
  cases hfound : resp.codebase with
  | some c =>
    simp only [hfound] at h₂
    obtain ⟨hpost, ⟨l, body, resp', rfl, hitems, hs, hr⟩ | herr⟩ := exec_commitBatch h₂
    · exact .inl ⟨⟨_, l, c, body, resp', rfl, .found hfound, hitems, hs⟩, hr⟩
    · exact .inr (.inl ⟨isChain_cons_getRepo.2 hpost.isChain, herr⟩)
  | none =>
    simp only [hfound] at h₂
    rw [createCodebase_eq] at h₂
    obtain ⟨a, l₃, l₄, rfl, h₃, h₄⟩ := (safe_create _ _ _).exec_bind.1 h₂
    obtain ⟨resp₂, ⟨b, e, hb, rfl, ha⟩ | ⟨hcreated, resp₃, rfl, ⟨rfl, ha⟩ | ⟨hanswered, ha⟩⟩⟩ :=
      exec_create h₃
    · obtain rfl : b = false := by
        rcases hb with rfl | ⟨-, rfl⟩
        · rfl
        · rfl
      obtain rfl := Option.some.inj ha
      obtain ⟨rfl, rfl⟩ := Prog.exec_pure.1 h₄
      exact .inr (.inl ⟨isChain_cons_getRepo.2 (.singleton _), _, rfl⟩)
    · obtain rfl := Option.some.inj ha
      obtain ⟨rfl, rfl⟩ := Prog.exec_pure.1 h₄
      exact .inr (.inl ⟨(isChain_creation hcreated).2 ⟨False.elim, .nil⟩, _, rfl⟩)
    · obtain rfl := Option.some.inj ha
      cases hback : resp₃.codebase with
      | none =>
        simp only [hback] at h₄
        obtain ⟨rfl, rfl⟩ := Prog.exec_pure.1 h₄
        refine .inr (.inr ⟨fun hchain => ?_, rfl⟩)
        have hsome := ((isChain_creation hcreated).1 hchain).1 hanswered
        rw [hback] at hsome
        cases hsome
      | some c =>
        simp only [hback] at h₄
        obtain ⟨hpost, ⟨l, body, resp', rfl, hitems, hs, hr⟩ | herr⟩ := exec_commitBatch h₄
        · exact .inl ⟨⟨_, l, c, body, resp', rfl, .created hfound hcreated hback, hitems, hs⟩, hr⟩
        · refine .inr (.inl ⟨(isChain_creation hcreated).2 ⟨fun _ => ?_, hpost.isChain⟩, herr⟩)
          rw [hback]
          rfl

theorem noPost_itemsDone {basepath : String} : ∀ {items : List BatchItem} {log : Log},
    ItemsDone basepath items log → NoPost log
  | [], log, h => by
    obtain rfl : log = [] := h
    exact List.forall_mem_nil _
  | item :: items, log, h => by
    obtain ⟨resp, rest, rfl, -, hrest⟩ := h
    refine .cons (fun n body he => ?_) (noPost_itemsDone hrest)
    simp only [BatchItem.request] at he
    split at he <;> cases he

/-- A batch that is done reads back what it created, and ends with its commit. -/
theorem BatchDone.isChain_append {version : String} {batch : Batch} {l₁ l₂ : Log}
    (h : BatchDone version batch l₁) :
    (l₁ ++ l₂).IsChain ReadsBack ↔ l₂.IsChain ReadsBack := by
  obtain ⟨opened, l, c, body, resp, rfl, hopened, hitems, -⟩ := h
  have hrest : ((l ++ [(Request.patchRepo batch.basepath body, resp)]) ++ l₂).IsChain ReadsBack ↔
      l₂.IsChain ReadsBack := by
    refine ((noPost_itemsDone hitems).append (.cons (fun _ _ h => ?_) ?_)).isChain_append
    · cases h
    · exact List.forall_mem_nil _
  cases hopened with
  | found h =>
    rw [List.append_assoc, ← hrest]
    exact isChain_cons_getRepo
  | created h₁ h₂ h₃ =>
    rw [List.append_assoc, ← hrest]
    refine (isChain_creation h₂).trans (and_iff_right fun _ => ?_)
    rw [h₃]
    rfl

theorem Completed.isChain {version : String} : ∀ {batches : List Batch} {log : Log},
    Completed version batches log → log.IsChain ReadsBack
  | [], log, h => by
    obtain rfl : log = [] := h
    exact .nil
  | batch :: batches, log, h => by
    obtain ⟨l₁, l₂, rfl, hdone, hrest⟩ := h
    exact hdone.isChain_append.2 hrest.isChain

theorem safe_batchOne (version : String) (batch : Batch) : Prog.Safe (batchOne version batch) := by
  intro log h
  obtain ⟨-, hr⟩ | ⟨-, e, hr⟩ | ⟨-, hr⟩ := exec_batchOne h <;> cases hr

/-- **What the loop can do.** -/
theorem exec_batchLoop {version : String} : ∀ {batches : List Batch} {log : Log}
    {r : Option (Bool × Option RepoError)}, Prog.Exec (batchLoop version batches) log r →
      (Completed version batches log ∧ r = some (true, none)) ∨
        (log.IsChain ReadsBack ∧ ∃ e, r = some (false, some e)) ∨
        (¬ log.IsChain ReadsBack ∧ r = some (true, none))
  | [], log, r, h => by
    obtain ⟨rfl, rfl⟩ := Prog.exec_pure.1 h
    exact .inl ⟨rfl, rfl⟩
  | batch :: batches, log, r, h => by
    obtain ⟨a, l₁, l₂, rfl, h₁, h₂⟩ := (safe_batchOne _ _).exec_bind.1 h
    obtain ⟨hdone, ha⟩ | ⟨hchain, e, ha⟩ | ⟨hunread, ha⟩ := exec_batchOne h₁
    · obtain rfl := Option.some.inj ha
      obtain ⟨hrest, hr⟩ | herr | hunread := exec_batchLoop h₂
      · exact .inl ⟨⟨l₁, l₂, rfl, hdone, hrest⟩, hr⟩
      · exact .inr (.inl ⟨hdone.isChain_append.2 herr.1, herr.2⟩)
      · exact .inr (.inr ⟨fun hchain => hunread.1 (hdone.isChain_append.1 hchain), hunread.2⟩)
    · obtain rfl := Option.some.inj ha
      obtain ⟨rfl, rfl⟩ := Prog.exec_pure.1 h₂
      rw [List.append_nil]
      exact .inr (.inl ⟨hchain, e, rfl⟩)
    · obtain rfl := Option.some.inj ha
      obtain ⟨rfl, rfl⟩ := Prog.exec_pure.1 h₂
      rw [List.append_nil]
      exact .inr (.inr ⟨hunread, rfl⟩)

/-- **A success of `Batch` means that the batches were worked through exactly when** every read right
after a creation finds the codebase. -/
theorem batch_success_iff (version : String) (batches : List Batch) (resps : Nat → Response) :
    ((Prog.converse resps (batch version batches)).1 = some (true, none) →
        Completed version batches (Prog.converse resps (batch version batches)).2) ↔
      (Prog.converse resps (batch version batches)).2.IsChain ReadsBack := by
  have hexec := Prog.exec_converse resps (batch version batches)
  generalize (Prog.converse resps (batch version batches)).1 = r at hexec ⊢
  generalize (Prog.converse resps (batch version batches)).2 = log at hexec ⊢
  unfold batch at hexec
  split at hexec
  · obtain ⟨rfl, rfl⟩ := Prog.exec_pure.1 hexec
    exact iff_of_true (fun h => by cases h) .nil
  · obtain ⟨hdone, rfl⟩ | ⟨hchain, e, rfl⟩ | ⟨hunread, rfl⟩ := exec_batchLoop hexec
    · exact iff_of_true (fun _ => hdone) hdone.isChain
    · exact iff_of_true (fun h => by cases h) hchain
    · exact iff_of_false (fun h => hunread (h rfl).isChain) hunread

/-- A batch of one file. -/
def confBatch : Batch := { basepath := "/ecnet", items := [{ filename := "a.json", content := [] }] }

/-- The codebase is created, and the read after that fails: success, and nothing was uploaded. -/
theorem batch_success_unread :
    (Prog.converse (fun i => .answer ([404, 201, 500].getD i 200) { version := "1" })
      (batch "1" [confBatch])).1 = some (true, none) ∧
    ¬ Completed "1" [confBatch]
      (Prog.converse (fun i => .answer ([404, 201, 500].getD i 200) { version := "1" })
        (batch "1" [confBatch])).2 := by
  refine ⟨by decide, fun h => ?_⟩
  have hcreated : Response.Created (.answer 201 { version := "1" }) := rfl
  have hfound := ((isChain_creation hcreated).1 h.isChain).1 trivial
  cases hfound

/-! ## Derivation -/

/-- The codebase already existed. -/
def Existed (name : String) (log : Log) : Prop :=
  ∃ resp, log = [(.getRepo name, resp)] ∧ resp.codebase.isSome

/-- The codebase was derived from its base, read back and committed. -/
def Derived (name base : String) (log : Log) : Prop :=
  ∃ resp₁ derived resp₂ resp₃ body resp₄, log = [(.getRepo name, resp₁),
      (.postRepo name derived, resp₂), (.getRepo (readBackName name), resp₃),
      (.patchRepo name body, resp₄)] ∧
    resp₁.codebase = none ∧ derived.base = base ∧ resp₂.Created ∧ resp₃.codebase.isSome ∧
    resp₄.Succeeded

/-- **What a derivation can do**: it succeeds, it reports an error, or it crashes on the codebase
that was not read back. -/
theorem exec_deriveCodebase {name base : String} {version : UInt64} {log : Log}
    {r : Option (Bool × Option RepoError)}
    (h : Prog.Exec (deriveCodebase name base version) log r) :
    ((Existed name log ∨ Derived name base log) ∧ log.IsChain ReadsBack ∧ r = some (true, none)) ∨
      (log.IsChain ReadsBack ∧ ∃ b e, r = some (b, some e)) ∨
      (¬ log.IsChain ReadsBack ∧ r = none) := by
  obtain ⟨a, l₁, l₂, rfl, h₁, h₂⟩ := (safe_readCodebase _).exec_bind.1 h
  obtain ⟨resp, rfl, ⟨-, ha⟩ | ⟨-, ha⟩⟩ := exec_readCodebase h₁
  · obtain rfl := Option.some.inj ha
    obtain ⟨rfl, rfl⟩ := Prog.exec_pure.1 h₂
    exact .inr (.inl ⟨.singleton _, _, _, rfl⟩)
  obtain rfl := Option.some.inj ha
  cases hfound : resp.codebase with
  | some c =>
    simp only [hfound] at h₂
    obtain ⟨rfl, rfl⟩ := Prog.exec_pure.1 h₂
    exact .inl ⟨.inl ⟨resp, rfl, by rw [hfound]; rfl⟩, .singleton _, rfl⟩
  | none =>
    simp only [hfound] at h₂
    rw [deriveCodebase'_eq] at h₂
    obtain ⟨a, l₃, l₄, rfl, h₃, h₄⟩ := (safe_create _ _ _).exec_bind.1 h₂
    obtain ⟨resp₂, ⟨b, e, -, rfl, ha⟩ | ⟨hcreated, resp₃, rfl, ⟨rfl, ha⟩ | ⟨hanswered, ha⟩⟩⟩ :=
      exec_create h₃
    · obtain rfl := Option.some.inj ha
      obtain ⟨rfl, rfl⟩ := Prog.exec_pure.1 h₄
      exact .inr (.inl ⟨isChain_cons_getRepo.2 (.singleton _), _, _, rfl⟩)
    · obtain rfl := Option.some.inj ha
      obtain ⟨rfl, rfl⟩ := Prog.exec_pure.1 h₄
      exact .inr (.inl ⟨(isChain_creation hcreated).2 ⟨False.elim, .nil⟩, _, _, rfl⟩)
    · obtain rfl := Option.some.inj ha
      cases hback : resp₃.codebase with
      | none =>
        simp only [hback] at h₄
        cases h₄
        refine .inr (.inr ⟨fun hchain => ?_, rfl⟩)
        have hsome := ((isChain_creation hcreated).1 hchain).1 hanswered
        rw [hback] at hsome
        cases hsome
      | some c =>
        simp only [hback] at h₄
        have hsome : resp₃.codebase.isSome := by
          rw [hback]
          rfl
        obtain ⟨hpost, ⟨body, resp₄, rfl, hs, hr⟩ | ⟨e, hr⟩⟩ := exec_commit h₄
        · exact .inl ⟨.inr ⟨_, _, resp₂, resp₃, body, resp₄, rfl, hfound, rfl, hcreated, hsome,
            hs⟩, (isChain_creation hcreated).2 ⟨fun _ => hsome, hpost.isChain⟩, hr⟩
        · exact .inr (.inl ⟨(isChain_creation hcreated).2 ⟨fun _ => hsome, hpost.isChain⟩, _, _,
            hr⟩)

/-- **A derivation does not crash, and its success means what it says, exactly when** the read right
after the derivation finds the codebase. -/
theorem deriveCodebase_safe_iff (name base : String) (version : UInt64) (resps : Nat → Response) :
    ((Prog.converse resps (deriveCodebase name base version)).1 ≠ none ∧
      ((Prog.converse resps (deriveCodebase name base version)).1 = some (true, none) →
        Existed name (Prog.converse resps (deriveCodebase name base version)).2 ∨
          Derived name base (Prog.converse resps (deriveCodebase name base version)).2)) ↔
      (Prog.converse resps (deriveCodebase name base version)).2.IsChain ReadsBack := by
  have hexec := Prog.exec_converse resps (deriveCodebase name base version)
  generalize (Prog.converse resps (deriveCodebase name base version)).1 = r at hexec ⊢
  generalize (Prog.converse resps (deriveCodebase name base version)).2 = log at hexec ⊢
  obtain ⟨hdone, hchain, rfl⟩ | ⟨hchain, b, e, rfl⟩ | ⟨hunread, rfl⟩ := exec_deriveCodebase hexec
  · exact iff_of_true ⟨Option.some_ne_none _, fun _ => hdone⟩ hchain
  · exact iff_of_true ⟨Option.some_ne_none _, fun h => by cases h⟩ hchain
  · exact iff_of_false (fun h => h.1 rfl) hunread

/-- The derivation is accepted, and the read after that finds nothing: a nil dereference. -/
theorem deriveCodebase_unread :
    (Prog.converse (fun i => .answer ([404, 201].getD i 404) { version := "1" })
      (deriveCodebase "/ecnet/proxy" "/base/proxy" 1)).1 = none := by
  decide

end Repo
