import Docketworks.Core.Errors
import Docketworks.Library.Decimal
import Docketworks.Library.Machine
import Docketworks.Library.Table

/-!
# Labour subtypes and the rates of a job

`apps/job/models/labour.py`, the labour-subtype services of `apps/job/services/job_service.py` and
the rates a new job is given in `apps/job/models/job.py`, as transactions that interleave.

A transaction is one request.  It moves a statement at a time, each statement sees what is committed
when it runs, and what it has written is seen by nobody until it commits.  It waits for three kinds
of locks: the row of a labour subtype under `select_for_update`, the row of a job under the same, and
the job table, where `LOCK TABLE … IN SHARE ROW EXCLUSIVE MODE` waits for every insert and delete that
has not committed, and they wait for it.

* `advance db others phase` — what a transaction's next statement does beside the others in flight.
* `step` — one step of the system.

**Design.**  The columns of a job that no statement here reads are left out, and so are its cost sets.
`update_job_labour_rates` writes the amounts of rates that are there, and is one step.  A refused
statement rolls its transaction back; so does anything else that goes wrong in one, at any point.
-/

namespace Docketworks

open Library

namespace Labour

/-! ## The rows -/

/-- A configurable category of labour. -/
structure LabourSubtype where
  id : ℕ
  name : String
  displayOrder : ℕ
  isActive : Bool
  isWorkshop : Bool
  countsForScheduling : Bool
  defaultChargeOutRate : ℚ
deriving DecidableEq

structure Job where
  id : ℕ
  company : ℕ
deriving DecidableEq

structure JobLabourRate where
  job : ℕ
  labourSubtype : ℕ
  chargeOutRate : ℚ
deriving DecidableEq

/-- `unique_job_labour_subtype`. -/
def JobLabourRate.key (rate : JobLabourRate) : ℕ × ℕ := (rate.job, rate.labourSubtype)

/-- A person and the subtype new time lines of hers are booked on. -/
structure Staff where
  id : ℕ
  defaultLabourSubtype : ℕ
deriving DecidableEq

/-- What is committed. -/
structure Tables where
  subtypes : Table LabourSubtype.id
  jobs : Table Job.id
  rates : Table JobLabourRate.key
  staff : Table Staff.id
  /-- `CompanyDefaults.shop_company_id`. -/
  shopCompany : ℕ

/-- A validated write payload: a field that is absent is not written. -/
structure LabourSubtypeWriteData where
  name : Option String := none
  displayOrder : Option ℕ := none
  isActive : Option Bool := none
  isWorkshop : Option Bool := none
  countsForScheduling : Option Bool := none
  defaultChargeOutRate : Option ℚ := none
deriving DecidableEq

/-- The supplied fields on a subtype. -/
def LabourSubtype.withData (subtype : LabourSubtype) (data : LabourSubtypeWriteData) :
    LabourSubtype :=
  { subtype with
    name := data.name.getD subtype.name
    displayOrder := data.displayOrder.getD subtype.displayOrder
    isActive := data.isActive.getD subtype.isActive
    isWorkshop := data.isWorkshop.getD subtype.isWorkshop
    countsForScheduling := data.countsForScheduling.getD subtype.countsForScheduling
    defaultChargeOutRate := data.defaultChargeOutRate.getD subtype.defaultChargeOutRate }

/-- `LabourSubtype(**data)`: the model's defaults for what is absent. -/
def LabourSubtype.ofData (id : ℕ) (data : LabourSubtypeWriteData) :
    Except Refusal LabourSubtype :=
  match data.defaultChargeOutRate with
  | none => .error (.validation "default_charge_out_rate: This field cannot be null.")
  | some rate =>
      .ok (LabourSubtype.withData ⟨id, "", 0, true, false, false, rate⟩ data)

/-! ## The statements -/

/-- Another subtype has the name. -/
def nameTaken (db : Tables) (subtype : LabourSubtype) : Prop :=
  ∃ other ∈ db.subtypes.rows, other.id ≠ subtype.id ∧ other.name = subtype.name

instance (db : Tables) (subtype : LabourSubtype) : Decidable (nameTaken db subtype) :=
  inferInstanceAs (Decidable (∃ _ ∈ _, _))

/-- `subtype.full_clean()`. -/
def fullClean (db : Tables) (subtype : LabourSubtype) : Except Refusal Unit := do
  if subtype.name = "" then
    throw (.validation "name: This field cannot be blank.")
  if 100 < subtype.name.length then
    throw (.validation "name: Ensure this value has at most 100 characters.")
  if ¬Fits 10 2 subtype.defaultChargeOutRate then
    throw (.validation "default_charge_out_rate: Ensure that there are no more than 10 digits.")
  if nameTaken db subtype then
    throw (.validation "name: Labour subtype with this Name already exists.")
  if subtype.defaultChargeOutRate < 0 then
    throw (.validation "Constraint “laboursubtype_default_rate_non_negative” is violated.")

/-- The guard of a deactivation: nobody's new time lines go to the subtype. -/
def checkDependents (db : Tables) (subtype : LabourSubtype) (data : LabourSubtypeWriteData) :
    Except Refusal Unit :=
  if subtype.isActive ∧ data.isActive = some false ∧
      (db.staff.rows.filter fun person => person.defaultLabourSubtype = subtype.id) ≠ [] then
    .error (.value "%(dependent)s staff default to '%(name)s'; reassign them before deactivating it.")
  else .ok ()

def LabourSubtype.inPool (isWs : Bool) (subtype : LabourSubtype) : Bool :=
  subtype.isActive && subtype.isWorkshop == isWs

/-- The update takes the subtype out of a pool. -/
def leavesPool (isWs : Bool) (before after : LabourSubtype) : Bool :=
  before.inPool isWs && !after.inPool isWs

/-- `others`: the pool has another member. -/
def hasOthers (db : Tables) (isWs : Bool) (pk : ℕ) : Prop :=
  ∃ other ∈ db.subtypes.rows, other.inPool isWs = true ∧ other.id ≠ pk

instance (db : Tables) (isWs : Bool) (pk : ℕ) : Decidable (hasOthers db isWs pk) :=
  inferInstanceAs (Decidable (∃ _ ∈ _, _))

/-- The guard of the pools: neither is left without an active subtype. -/
def checkPools (db : Tables) (subtype : LabourSubtype) (data : LabourSubtypeWriteData) :
    Except Refusal Unit :=
  let after := subtype.withData data
  if leavesPool true subtype after ∧ ¬hasOthers db true subtype.id then
    .error (.value ("'%(name)s' is the only active Workshop subtype; " ++
      "creating jobs, updating from Xero and importing quotes all need one."))
  else if leavesPool false subtype after ∧ ¬hasOthers db false subtype.id then
    .error (.value ("'%(name)s' is the only active non-workshop subtype; " ++
      "creating jobs, updating from Xero and importing quotes all need one."))
  else .ok ()

/-- The rate a subtype has on a job that is given it: shop jobs bill no revenue. -/
def seedRate (db : Tables) (job : Job) (subtype : LabourSubtype) : JobLabourRate where
  job := job.id
  labourSubtype := subtype.id
  chargeOutRate := if job.company = db.shopCompany then 0 else subtype.defaultChargeOutRate

def newJobRates (db : Tables) (job : Job) : List JobLabourRate :=
  (db.subtypes.rows.filter LabourSubtype.isActive).map (seedRate db job)

def existingJobIds (db : Tables) (subtype : ℕ) : List ℕ :=
  (db.rates.rows.filter fun rate => rate.labourSubtype = subtype).map JobLabourRate.job

/-- The rows the other jobs are given. -/
def missingRates (db : Tables) (subtype : LabourSubtype) (existing : List ℕ) :
    List JobLabourRate :=
  (db.jobs.rows.filter fun job => job.id ∉ existing).map fun job => seedRate db job subtype

/-- The job has a rate for the subtype. -/
def HasRate (rates : Table JobLabourRate.key) (job subtype : ℕ) : Prop :=
  (rates.find? (job, subtype)).isSome

instance (rates : Table JobLabourRate.key) (job subtype : ℕ) : Decidable (HasRate rates job subtype) :=
  inferInstanceAs (Decidable (_ = true))

/-- `bulk_create(ignore_conflicts=True)`. -/
def addRates (rates : Table JobLabourRate.key) (rows : List JobLabourRate) :
    Table JobLabourRate.key :=
  rows.foldl (fun rates row => (rates.insert? row).getD rates) rates

/-! ## Transactions -/

/-- What a client can ask for, as a transaction of several statements. -/
inductive Op where
  | createJob (job : Job)
  | deleteJob (id : ℕ)
  | createLabourSubtype (id : ℕ) (data : LabourSubtypeWriteData)
  | updateLabourSubtype (pk : ℕ) (data : LabourSubtypeWriteData)
deriving DecidableEq

/-- Where a transaction is: the statement it has made last, and what it has read and written. -/
inductive Phase where
  | begun (op : Op)
  | jobInserted (job : Job)
  /-- The active subtypes were read, and their rates inserted. -/
  | jobPriced (job : Job) (rates : List JobLabourRate)
  | jobHeld (id : ℕ)
  | jobDeleted (id : ℕ)
  | subtypeHeld (row : LabourSubtype) (data : LabourSubtypeWriteData)
  | subtypeFree (row : LabourSubtype) (data : LabourSubtypeWriteData)
  | subtypeChecked (row : LabourSubtype) (data : LabourSubtypeWriteData)
  /-- The subtype is saved, over the row it had if it is not new. -/
  | subtypeSaved (before : Option LabourSubtype) (row : LabourSubtype)
  | jobsLocked (before : Option LabourSubtype) (row : LabourSubtype)
  | surveyed (before : Option LabourSubtype) (row : LabourSubtype) (existing : List ℕ)
  | seeded (before : Option LabourSubtype) (row : LabourSubtype) (rates : List JobLabourRate)
deriving DecidableEq

namespace Phase

/-- It has inserted or deleted a job. -/
def writesJobs : Phase → Bool
  | .jobInserted _ | .jobPriced .. | .jobDeleted _ => true
  | _ => false

/-- It holds the job table. -/
def locksJobs : Phase → Bool
  | .jobsLocked .. | .surveyed .. | .seeded .. => true
  | _ => false

/-- The job whose row it holds. -/
def heldJob : Phase → Option ℕ
  | .jobHeld id | .jobDeleted id => some id
  | _ => none

/-- The subtype as it was before the transaction, whose row it holds. -/
def heldSubtype : Phase → Option LabourSubtype
  | .subtypeHeld row _ | .subtypeFree row _ | .subtypeChecked row _ => some row
  | .subtypeSaved before _ | .jobsLocked before _ | .surveyed before _ _ | .seeded before _ _ => before
  | _ => none

end Phase

/-- What a statement comes to. -/
inductive Outcome where
  /-- Another transaction holds a lock. -/
  | wait
  | next (phase : Phase)
  | commit (db : Tables)
  | refuse (why : Refusal)

/-- The subtype is active now and was not before. -/
def activates (before : Option LabourSubtype) (row : LabourSubtype) : Bool :=
  row.isActive && !before.any LabourSubtype.isActive

/-- The subtype's row reaches the table: inserted where it is new, else replaced. -/
def saveSubtype (subtypes : Table LabourSubtype.id) (before : Option LabourSubtype)
    (row : LabourSubtype) : Option (Table LabourSubtype.id) :=
  match before with
  | none => subtypes.insert? row
  | some _ => some (subtypes.put row)

/-- The commit of a written subtype; its name is unique among the committed ones. -/
def commitSubtype (db : Tables) (before : Option LabourSubtype) (row : LabourSubtype)
    (rates : List JobLabourRate) : Outcome :=
  if nameTaken db row then .refuse (.database "job_laboursubtype_name_key")
  else
    match saveSubtype db.subtypes before row with
    | none => .refuse (.database "job_laboursubtype_pkey")
    | some subtypes => .commit { db with subtypes := subtypes, rates := addRates db.rates rates }

def commitJob (db : Tables) (job : Job) (rates : List JobLabourRate) : Outcome :=
  match db.jobs.insert? job, rates.foldlM Table.insert? db.rates with
  | some jobs, some rates => .commit { db with jobs := jobs, rates := rates }
  | _, _ => .refuse (.database "job_job_pkey")

/-- A guard's answer: on to the next phase, or out. -/
def proceed (answer : Except Refusal Unit) (phase : Phase) : Outcome :=
  match answer with
  | .ok _ => .next phase
  | .error why => .refuse why

/-- A transaction's next statement, beside the phases of the others in flight. -/
def advance (db : Tables) (others : List Phase) : Phase → Outcome
  | .begun (.createJob job) =>
      if others.any Phase.locksJobs then .wait else .next (.jobInserted job)
  | .jobInserted job => .next (.jobPriced job (newJobRates db job))
  | .jobPriced job rates =>
      -- the foreign key of a rate waits for whoever is updating the subtype
      if others.any (fun other => other.heldSubtype.any fun row =>
        rates.any (·.labourSubtype = row.id)) then .wait
      else commitJob db job rates
  | .begun (.deleteJob id) =>
      if others.any (fun other => other.heldJob = some id) then .wait
      else if (db.jobs.find? id).isSome then .next (.jobHeld id)
      else .refuse (.doesNotExist "Job")
  | .jobHeld id => if others.any Phase.locksJobs then .wait else .next (.jobDeleted id)
  | .jobDeleted id =>
      .commit { db with jobs := db.jobs.erase id, rates := db.rates.filter fun rate => rate.job ≠ id }
  | .begun (.createLabourSubtype id data) =>
      match LabourSubtype.ofData id data with
      | .error why => .refuse why
      | .ok row => proceed (fullClean db row) (.subtypeSaved none row)
  | .begun (.updateLabourSubtype pk data) =>
      if others.any (fun other => other.heldSubtype.any fun row => row.id = pk) then .wait
      else
        match db.subtypes.find? pk with
        | none => .refuse (.doesNotExist "LabourSubtype")
        | some row => .next (.subtypeHeld row data)
  | .subtypeHeld row data => proceed (checkDependents db row data) (.subtypeFree row data)
  | .subtypeFree row data => proceed (checkPools db row data) (.subtypeChecked row data)
  | .subtypeChecked row data =>
      proceed (fullClean db (row.withData data)) (.subtypeSaved (some row) (row.withData data))
  | .subtypeSaved before row =>
      if activates before row then
        if others.any (fun other => other.writesJobs || other.locksJobs) then .wait
        else .next (.jobsLocked before row)
      else commitSubtype db before row []
  | .jobsLocked before row => .next (.surveyed before row (existingJobIds db row.id))
  | .surveyed before row existing =>
      let rates := missingRates db row existing
      if ∀ job ∈ db.jobs.rows, HasRate (addRates db.rates rates) job.id row.id then
        .next (.seeded before row rates)
      else .refuse (.value ("Failed to satisfy active labour-subtype rate-row invariant " ++
        "for subtype '%(name)s'. Missing example job ids: %(missing)s"))
  | .seeded before row rates =>
      -- the foreign key of a new rate waits for whoever is deleting the job
      if others.any (fun other => other.heldJob.any fun id => rates.any (·.job = id)) then .wait
      else commitSubtype db before row rates

/-! ## The system -/

structure OpenTransaction where
  id : ℕ
  phase : Phase
deriving DecidableEq

structure State where
  db : Tables
  inFlight : Table OpenTransaction.id

/-- A step of the system. -/
inductive Act where
  | start (tx : ℕ) (op : Op)
  | next (tx : ℕ)
  /-- A transaction is given up: an error beside the guards, a lost connection, a deadlock. -/
  | rollback (tx : ℕ)
  /-- `update_job_labour_rates`: new amounts on rates of the job. -/
  | updateJobLabourRates (job : ℕ) (entries : List (ℕ × ℚ))
  | assignSubtype (staff subtype : ℕ)
deriving DecidableEq

/-- The phases of the other transactions. -/
def State.others (s : State) (tx : ℕ) : List Phase :=
  (s.inFlight.rows.filter fun other => other.id ≠ tx).map OpenTransaction.phase

/-- The amount the last entry for its subtype gives a rate. -/
def applyEntries (job : ℕ) (entries : List (ℕ × ℚ)) (rate : JobLabourRate) : JobLabourRate :=
  if rate.job = job then
    { rate with
      chargeOutRate := ((entries.reverse.find? fun entry => entry.1 = rate.labourSubtype).map
        Prod.snd).getD rate.chargeOutRate }
  else rate

/-- New amounts on stored rates; the keys stay. -/
def setAmounts (rates : Table JobLabourRate.key) (job : ℕ) (entries : List (ℕ × ℚ)) :
    Table JobLabourRate.key where
  rows := rates.rows.map (applyEntries job entries)
  nodup := by
    have hkey : JobLabourRate.key ∘ applyEntries job entries = JobLabourRate.key := by
      funext rate
      unfold Function.comp applyEntries JobLabourRate.key
      split <;> rfl
    rw [List.map_map, hkey]
    exact rates.nodup

def step : Machine State Act
  | s, .start tx op =>
      (s.inFlight.insert? ⟨tx, .begun op⟩).map fun inFlight => { s with inFlight := inFlight }
  | s, .next tx =>
      match s.inFlight.find? tx with
      | none => none
      | some current =>
          match advance s.db (s.others tx) current.phase with
          | .wait => none
          | .next phase => some { s with inFlight := s.inFlight.put ⟨tx, phase⟩ }
          | .commit db => some ⟨db, s.inFlight.erase tx⟩
          | .refuse _ => some { s with inFlight := s.inFlight.erase tx }
  | s, .rollback tx => some { s with inFlight := s.inFlight.erase tx }
  | s, .updateJobLabourRates job entries =>
      if ∀ entry ∈ entries, HasRate s.db.rates job entry.1 ∧ 0 ≤ entry.2 then
        some { s with db := { s.db with rates := setAmounts s.db.rates job entries } }
      else none
  | s, .assignSubtype staff subtype =>
      some { s with db := { s.db with staff := s.db.staff.put ⟨staff, subtype⟩ } }

end Labour

end Docketworks
