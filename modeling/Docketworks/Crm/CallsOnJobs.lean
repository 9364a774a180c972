import Docketworks.Crm.ClassificationRuns

/-!
# Calls on jobs of their company

A call is put on a job of its own company.  Either may get another company later: the call by an import, a
rematch or a merge, the job by `update_job` or a merge.

* `Book.OnOwnJobs` — every call on a job has that job's company.
* `Book.OnOwnJobs.change` — so it stays under every change of the phone book, `…rematch` under a rematch.
* `KeepsJobs` — what an import and an update of a job have to leave alone.
* `calls_on_own_jobs` — then it holds along every run.

**Design.**  The company of a job is read through the table, so a call on a job that is gone does not count
as being on one of its own company.
-/

namespace Docketworks.Crm

open Library

variable {b b' : Book} {numbers : List String} {call call' : PhoneCallRecord}

/-- The call is on no job, or on one of its company. -/
def Book.OnOwnJob (b : Book) (call : PhoneCallRecord) : Prop :=
  ∀ jobId ∈ call.job, (b.jobs.find? jobId).map Job.company = some call.company

instance (b : Book) (call : PhoneCallRecord) : Decidable (b.OnOwnJob call) :=
  inferInstanceAs (Decidable (∀ jobId ∈ call.job, _))

/-- Every call that is on a job has its company. -/
def Book.OnOwnJobs (b : Book) : Prop := ∀ call ∈ b.phoneCalls.rows, b.OnOwnJob call

instance (b : Book) : Decidable b.OnOwnJobs :=
  inferInstanceAs (Decidable (∀ call ∈ b.phoneCalls.rows, b.OnOwnJob call))

/-! ## Changes that leave companies of calls and jobs alone -/

/-- Jobs are as they were, and every call is one that was there, by its company and job. -/
structure Book.KeepsAssignments (b b' : Book) : Prop where
  jobs : b'.jobs = b.jobs
  calls : ∀ call' ∈ b'.phoneCalls.rows, ∃ call ∈ b.phoneCalls.rows,
    call'.company = call.company ∧ call'.job = call.job

lemma Book.OnOwnJob.congr (h : b.OnOwnJob call) (hjobs : b'.jobs = b.jobs)
    (hcompany : call'.company = call.company) (hjob : call'.job = call.job) : b'.OnOwnJob call' := by
  intro jobId hjobId
  rw [hjob] at hjobId
  rw [hjobs, hcompany]
  exact h jobId hjobId

lemma Book.OnOwnJobs.keeps (hb : b.OnOwnJobs) (h : b.KeepsAssignments b') : b'.OnOwnJobs := by
  intro call' hcall'
  obtain ⟨call, hcall, hcompany, hjob⟩ := h.calls call' hcall'
  exact (hb call hcall).congr h.jobs hcompany hjob

lemma keepsAssignments_of_map {f : PhoneCallRecord → PhoneCallRecord} (hjobs : b'.jobs = b.jobs)
    (hcalls : b'.phoneCalls.rows = b.phoneCalls.rows.map f)
    (h : ∀ call, (f call).company = call.company ∧ (f call).job = call.job) : b.KeepsAssignments b' := by
  refine ⟨hjobs, fun call' hcall' => ?_⟩
  rw [hcalls] at hcall'
  obtain ⟨call, hcall, rfl⟩ := List.mem_map.mp hcall'
  exact ⟨call, hcall, h call⟩

lemma keepsAssignments_of_eq (hjobs : b'.jobs = b.jobs) (hcalls : b'.phoneCalls = b.phoneCalls) :
    b.KeepsAssignments b' :=
  ⟨hjobs, fun call hcall => ⟨call, hcalls ▸ hcall, rfl, rfl⟩⟩

lemma jobs_of_methodChanges {Q : Prop} (h : MethodChanges Q numbers b b') : b'.jobs = b.jobs := by
  induction h with
  | refl => rfl
  | tail _ hchange ih =>
      refine Eq.trans ?_ ih
      cases hchange <;> rfl

lemma keepsAssignments_of_methodChanges {Q : Prop} (h : MethodChanges Q numbers b b') :
    b.KeepsAssignments b' :=
  keepsAssignments_of_eq (jobs_of_methodChanges h) (phoneCalls_of_methodChanges h)

/-! ## Changes that move them -/

lemma Book.OnOwnJobs.rematch (hb : b.OnOwnJobs) : (rematchCallsForNumbers numbers b).OnOwnJobs := by
  intro call' hcall'
  rw [rows_rematch] at hcall'
  obtain ⟨call, hcall, rfl⟩ := List.mem_map.mp hcall'
  unfold Book.rematchOne
  split
  · unfold rematched
    dsimp only
    split
    · exact hb call hcall
    · intro jobId hjobId
      obtain ⟨hjob, hkept⟩ := Option.filter_eq_some_iff.mp hjobId
      obtain ⟨job, hfound, -⟩ := Option.map_eq_some_iff.mp (hb call hcall jobId hjob)
      change (b.jobs.find? jobId).map Job.company = _
      rw [hfound, Option.bind_some, decide_eq_true_eq] at hkept
      rw [hfound, Option.map_some, hkept]
  · exact hb call hcall

lemma Book.OnOwnJobs.moveCompanyRecords {source destination : ℕ} (hb : b.OnOwnJobs) :
    (b.moveCompanyRecords source destination).OnOwnJobs := by
  intro call' hcall'
  unfold Book.moveCompanyRecords at hcall' ⊢
  obtain ⟨call, hcall, rfl⟩ := List.mem_map.mp hcall'
  intro jobId hjobId
  obtain ⟨job, hfound, hcompany⟩ := Option.map_eq_some_iff.mp (hb call hcall jobId hjobId)
  rw [Table.find?_modify, hfound, Option.map_some, Option.map_some, hcompany]

lemma Book.OnOwnJobs.reassignCompanyFkRecords {source destination : ℕ} {mid : Book} (hb : b.OnOwnJobs)
    (h : b.KeepsAssignments mid) : (mid.reassignCompanyFkRecords source destination).OnOwnJobs := by
  unfold Book.reassignCompanyFkRecords
  exact ((hb.keeps h).keeps (keepsAssignments_of_eq rfl rfl)).moveCompanyRecords

lemma Book.OnOwnJobs.withoutCompany {company : ℕ} (hb : b.OnOwnJobs)
    (hjobs : ∀ job ∈ b.jobs.rows, job.company ≠ some company) : (b.withoutCompany company).OnOwnJobs := by
  intro call' hcall'
  obtain ⟨call, hcall, rfl⟩ := List.mem_map.mp hcall'
  intro jobId hjobId
  obtain ⟨job, hfound, hcompany⟩ := Option.map_eq_some_iff.mp (hb call hcall jobId hjobId)
  have hother : call.company ≠ some company := hcompany ▸ hjobs job (Table.mem_of_find? hfound)
  have hkept : call.company.filter (· ≠ company) = call.company := by
    cases hread : call.company with
    | none => rfl
    | some other => exact Option.filter_some_pos (by simpa [hread] using hother)
  change (b.jobs.find? jobId).map Job.company = some (call.company.filter (· ≠ company))
  rw [hfound, Option.map_some, hcompany, hkept]

lemma Book.OnOwnJobs.change {change : BookChange} (hb : b.OnOwnJobs)
    (h : change.call.run b = .ok (numbers, b')) : b'.OnOwnJobs := by
  cases change with
  | saveContactMethod data methodId =>
      exact hb.keeps (keepsAssignments_of_methodChanges (run_saveContactMethod h).changes)
  | deleteContactMethod methodId =>
      exact hb.keeps (keepsAssignments_of_methodChanges (run_deleteContactMethod h).changes)
  | createPersonForCompany company phone =>
      have hnew : (b.withNewPerson company).OnOwnJobs := hb.keeps (keepsAssignments_of_eq rfl rfl)
      exact hnew.keeps (keepsAssignments_of_methodChanges (run_createPersonForCompany h).changes)
  | putCompanyLink person company =>
      obtain ⟨-, rfl⟩ := run_putCompanyLink h
      exact hb.keeps (keepsAssignments_of_eq rfl rfl)
  | archivePerson person =>
      obtain ⟨-, rfl⟩ := run_archivePerson h
      exact hb.keeps (keepsAssignments_of_eq rfl rfl)
  | removeCompanyLink person company =>
      obtain ⟨-, -, rfl | rfl⟩ := run_removeCompanyLink h <;>
        exact hb.keeps (keepsAssignments_of_eq rfl rfl)
  | createEndpoint number isActive =>
      obtain ⟨endpoint, hchange⟩ := run_createEndpoint h
      obtain rfl := hchange.left
      exact hb.keeps (keepsAssignments_of_eq rfl rfl)
  | updateEndpoint endpointId number isActive =>
      obtain ⟨endpoint, hchange⟩ := run_updateEndpoint h
      obtain rfl := hchange.left
      exact hb.keeps (keepsAssignments_of_eq rfl rfl)
  | destroyEndpoint endpointId =>
      obtain ⟨endpoint, -, -, rfl⟩ := run_destroyEndpoint h
      exact hb.keeps (keepsAssignments_of_map rfl rfl fun _ => ⟨rfl, rfl⟩)
  | createCompany allowJobs phone =>
      refine Book.OnOwnJobs.keeps (hb.keeps ?_) (keepsAssignments_of_methodChanges
        (run_createCompany h).changes)
      exact keepsAssignments_of_eq rfl rfl
  | discardCompany company =>
      obtain ⟨hjobs, -, rfl⟩ := run_discardCompany h
      exact hb.withoutCompany hjobs
  | updateCompany company allowJobs phone =>
      obtain ⟨row, -, hchange⟩ := run_updateCompany h
      refine Book.OnOwnJobs.keeps (hb.keeps ?_) (keepsAssignments_of_methodChanges hchange.changes)
      exact keepsAssignments_of_eq rfl rfl
  | setCompanyFields company archived phones =>
      obtain ⟨row, -, hchanges⟩ := run_setCompanyFields h
      refine Book.OnOwnJobs.keeps (hb.keeps ?_) (keepsAssignments_of_methodChanges hchanges)
      exact keepsAssignments_of_eq rfl rfl
  | mergeCompanies source destination =>
      obtain ⟨-, -, old, into, -, -, rfl⟩ := run_mergeCompanies h
      exact hb.reassignCompanyFkRecords (keepsAssignments_of_eq rfl rfl)
  | resolvePendingMerge company mergedInto =>
      obtain ⟨-, rfl | ⟨row, -, -, -, rfl | ⟨destination, -, -, rfl⟩⟩⟩ := run_resolvePendingMerge h
      · exact hb
      · exact hb.keeps (keepsAssignments_of_eq rfl rfl)
      · exact hb.reassignCompanyFkRecords (keepsAssignments_of_eq rfl rfl)
  | mergePeople source destination =>
      obtain ⟨-, -, isActive, rfl⟩ := run_mergePeople h
      exact hb.keeps (keepsAssignments_of_map rfl rfl fun _ => ⟨rfl, rfl⟩)
  | assignPhoneNumber number company person isPrimary =>
      obtain ⟨-, mid, hchange, rfl⟩ := run_assignPhoneNumber h
      exact (hb.keeps (keepsAssignments_of_methodChanges hchange.changes)).rematch

/-! ## Edits of calls and jobs -/

lemma Book.OnOwnJobs.calls {calls : Table PhoneCallRecord.providerCallId} (hb : b.OnOwnJobs)
    (h : ∀ call' ∈ calls.rows, call' ∈ b.phoneCalls.rows ∨ b.OnOwnJob call') :
    Book.OnOwnJobs { b with phoneCalls := calls } := by
  intro call' hcall'
  rcases h call' hcall' with hold | hnew
  · exact (hb call' hold).congr rfl rfl rfl
  · exact hnew.congr rfl rfl rfl

lemma Book.OnOwnJobs.updateJob {jobId : ℕ} {job : Job} {company : Option ℕ} (hb : b.OnOwnJobs)
    (hjob : b.jobs.find? jobId = some job)
    (h : ∀ call ∈ b.phoneCalls.rows, call.job = some jobId → company = call.company) :
    Book.OnOwnJobs { b with jobs := b.jobs.put { job with company } } := by
  have hkey : job.id = jobId := Table.key_of_find? hjob
  let updated : Job := { job with company }
  intro call hcall linked hlinked
  change ((b.jobs.put updated).find? linked).map Job.company = some call.company
  by_cases hsame : linked = updated.id
  · have hstored : b.jobs.find? updated.id = some job := (congrArg b.jobs.find? hkey).trans hjob
    rw [hsame, Table.find?_put_self hstored, Option.map_some, ← h call hcall]
    rw [← hkey, ← hsame]
    exact hlinked
  · rw [Table.find?_put_of_ne hsame]
    exact hb call hcall linked hlinked

/-- An import of a call that is on a job finds its company again, and a job with calls keeps its company. -/
def KeepsJobs (s : System) : Step → Prop
  | .importCall payload => isCallPayload payload = true → ∀ read ∈ s.importing,
      ∀ call ∈ s.book.phoneCalls.find? payload.providerCallId, call.job.isSome = true →
        ((read.phoneMatcher none).classify payload.origin payload.destination).company = call.company
  | .updateJob jobId company => ∀ call ∈ s.book.phoneCalls.rows, call.job = some jobId →
      company = call.company
  | _ => True

instance (s : System) (step : Step) : Decidable (KeepsJobs s step) :=
  match step with
  | .change _ | .rematch _ | .beginImport | .importCall _ | .linkCall _ _ | .unlinkCall _ | .updateJob _ _ => by
      unfold KeepsJobs
      infer_instance

lemma onOwnJobs_step {s s' : System} {step : Step} (hs : s.book.OnOwnJobs) (hkeeps : KeepsJobs s step)
    (h : crm s step = some s') : s'.book.OnOwnJobs := by
  cases step with
  | change change =>
      simp only [crm] at h
      split at h
      · rename_i hrun
        obtain rfl := Option.some.inj h
        exact hs.change hrun
      · cases h
  | rematch position =>
      obtain ⟨numbers, -, rfl⟩ := Option.map_eq_some_iff.mp h
      exact hs.rematch
  | beginImport =>
      obtain rfl := Option.some.inj h
      exact hs
  | importCall payload =>
      simp only [crm] at h
      split at h
      · rename_i hpayload
        obtain ⟨read, hread, hafter⟩ := Option.bind_eq_some_iff.mp h
        obtain ⟨book, hrun, rfl⟩ := System.after_eq_some hafter
        obtain ⟨call, -, -, -, hclassified, hjob, rfl⟩ := run_upsertCallRecord hrun
        refine hs.calls fun other hother => ?_
        obtain rfl | ⟨hother, -⟩ := Table.mem_upsert.mp hother
        · refine .inr fun jobId hjobId => ?_
          rw [hjob] at hjobId
          obtain ⟨stored, hstored, hon⟩ := Option.bind_eq_some_iff.mp hjobId
          have hcompany := hkeeps hpayload read hread stored hstored (by rw [hon]; rfl)
          rw [hs stored (Table.mem_of_find? hstored) jobId hon, hclassified, hcompany]
        · exact .inl hother
      · obtain rfl := Option.some.inj h
        exact hs
  | linkCall callId jobId =>
      obtain ⟨book, hrun, rfl⟩ := System.after_eq_some h
      obtain ⟨call, job, hcall, hjob, hsame, rfl⟩ := run_linkPhoneCallToJob hrun
      refine hs.calls fun other hother => ?_
      obtain ⟨hother, -⟩ | ⟨rfl, -⟩ := Table.mem_put.mp hother
      · exact .inl hother
      · refine .inr fun linked hlinked => ?_
        obtain rfl := Option.some.inj hlinked
        rw [Table.key_of_find? hjob, hjob, Option.map_some, hsame]
  | unlinkCall callId =>
      obtain ⟨book, hrun, rfl⟩ := System.after_eq_some h
      obtain ⟨call, hcall, rfl⟩ := run_unlinkPhoneCallJob hrun
      refine hs.calls fun other hother => ?_
      obtain ⟨hother, -⟩ | ⟨rfl, -⟩ := Table.mem_put.mp hother
      · exact .inl hother
      · exact .inr (by rintro _ ⟨⟩)
  | updateJob jobId company =>
      obtain ⟨book, hrun, rfl⟩ := System.after_eq_some h
      obtain ⟨job, hjob, rfl⟩ := run_updateJobCompany hrun
      exact hs.updateJob hjob hkeeps

/-- **A call and its job belong to one company**, in every state of a run in which no import gives a call
that is on a job another company, and no update does so to a job that calls are on. -/
theorem calls_on_own_jobs {s t : System} {steps : List Step} (hs : s.book.OnOwnJobs)
    (hkeeps : crm.AllMeet KeepsJobs s steps) (hrun : crm.run s steps = some t) : t.book.OnOwnJobs :=
  Machine.run_keeps_of_meet (I := fun s => s.book.OnOwnJobs)
    (fun _ _ _ hs hkeeps hstep => onOwnJobs_step hs hkeeps hstep) hs hkeeps hrun

/-! ### A call of one company, and a job of it -/

section Examples

/-- Two companies, a call from a number of the first, and a job of the first. -/
def calledJob : System where
  book :=
    { companies := ⟨[⟨1, true, false, none⟩, ⟨2, true, false, none⟩], by decide⟩
      people := .empty
      links := .empty
      contactMethods := ⟨[⟨1, .company 1, .phone, "021 000 000", true⟩], by decide⟩
      phoneEndpoints := oneCaller.book.phoneEndpoints
      phoneCalls := ⟨[{ direction := .inbound, ourNumber := some "+6495550000"
                        externalNumber := some "+6421000000", originEndpoint := none
                        destinationEndpoint := some 1, company := some 1, person := none
                        providerCallId := "main:1", origin := some "+6421000000"
                        destination := some "+6495550000", job := none }], by decide⟩
      jobs := ⟨[⟨7, some 1⟩], by decide⟩ }
  pending := []
  importing := none

/-- The call is put on the job, the companies are merged, the call is imported again, and its number goes. -/
theorem calls_on_own_jobs_merged :
    ∃ t, crm.run calledJob [.linkCall "main:1" 7, .change (.mergeCompanies 1 2), .beginImport,
        .importCall ⟨"main:1", true, some "021 000000", some "09 5550000"⟩,
        .change (.deleteContactMethod 1), .rematch 0] = some t ∧ t.book.OnOwnJobs := by
  let steps : List Step := [.linkCall "main:1" 7, .change (.mergeCompanies 1 2), .beginImport,
    .importCall ⟨"main:1", true, some "021 000000", some "09 5550000"⟩,
    .change (.deleteContactMethod 1), .rematch 0]
  have hall : calledJob.book.OnOwnJobs ∧ (crm.run calledJob steps).isSome = true ∧
      crm.AllMeet KeepsJobs calledJob steps := by
    decide +kernel
  obtain ⟨hstart, hends, hkeeps⟩ := hall
  obtain ⟨t, hrun⟩ := Option.isSome_iff_exists.mp hends
  exact ⟨t, hrun, calls_on_own_jobs hstart hkeeps hrun⟩

/-- **A job moves away from its calls**, and an import moves a call away from its job; the rematch that comes
after the import finds the call classified and leaves it there. -/
theorem job_moves_away_from_its_calls :
    calledJob.book.OnOwnJobs ∧
    (∃ t, crm.run calledJob [.linkCall "main:1" 7, .updateJob 7 (some 2)] = some t ∧ ¬t.book.OnOwnJobs) ∧
    ∃ t, crm.run calledJob [.linkCall "main:1" 7, .change (.deleteContactMethod 1), .beginImport,
        .importCall ⟨"main:1", true, some "021 000000", some "09 5550000"⟩, .rematch 0] = some t ∧
      t.pending = [] ∧ ¬t.book.OnOwnJobs := by
  have hall : calledJob.book.OnOwnJobs ∧
      (crm.run calledJob [.linkCall "main:1" 7, .updateJob 7 (some 2)]).any
        (fun t => ¬t.book.OnOwnJobs) = true ∧
      (crm.run calledJob [.linkCall "main:1" 7, .change (.deleteContactMethod 1), .beginImport,
        .importCall ⟨"main:1", true, some "021 000000", some "09 5550000"⟩, .rematch 0]).any
        (fun t => t.pending = [] ∧ ¬t.book.OnOwnJobs) = true := by
    decide +kernel
  obtain ⟨hstart, hupdated, himported⟩ := hall
  obtain ⟨t, ht, hbroken⟩ := (Option.any_eq_true _ _).mp hupdated
  obtain ⟨u, hu, hlost⟩ := (Option.any_eq_true _ _).mp himported
  exact ⟨hstart, ⟨t, ht, of_decide_eq_true hbroken⟩, u, hu, of_decide_eq_true hlost⟩

end Examples

end Docketworks.Crm
