import Docketworks.Job.CostLine

/-!
# Saving cost lines and keeping the summaries

The writes of `apps/job/models/costing.py`.  A cost set stores the three totals of its lines.
Saving or deleting a line does not add them up again: it records the change the line makes, at
the set it was stored on and at the set it is stored on now.  `recalculateSummary` is the full
recalculation.

* `CostLine.save`, `CostLine.delete` — with `lockSummaryOwners`, `assignEntrySeq`,
  `saveValidated` and `storedContribution` as the source has them.
* `CostSet.recordLineChange` — the incremental update of both owners.
* `CostSet.totals`, `CostSet.recalculateSummary` — the totals of the ledger, and the update that
  writes them where the summary does not already hold them.
* `CostingOp`, `Costing.step` — the operations a client can ask for.

**Design.**  `UPDATE … SET` under `update_fields` writes the named columns of the stored row and
leaves the rest, so a save takes the in-memory line and the columns it names, and reads the
stored row back.  The `updated_at` stamps and the locks have no counterpart: nothing modelled
reads the one, and calls are served one after another.
-/

namespace Docketworks

open Library

/-! ## The ledger's totals -/

namespace CostSet

/-- `_TOTALS_SQL`: the sums over the lines of one set; hours count for time lines only. -/
def totals (lines : Table CostLine.id) (costSet : ℕ) : Summary where
  cost := lines.sum fun line => if line.costSet = costSet then line.quantity * line.unitCost else 0
  rev := lines.sum fun line => if line.costSet = costSet then line.quantity * line.unitRev else 0
  hours := lines.sum fun line =>
    if line.costSet = costSet then if line.kind = .time then line.quantity else 0 else 0

/-- Add a line's figures, with a sign, where the line belongs to the owner. -/
def addSigned (owner : ℕ) (acc : Summary) (signed : Option CostLine × ℚ) : Summary :=
  match signed with
  | (some line, sign) =>
      if line.costSet = owner then
        { cost := acc.cost + sign * line.totalCost
          rev := acc.rev + sign * line.totalRev
          hours := if line.kind = .time then acc.hours + sign * line.quantity else acc.hours }
      else acc
  | (none, _) => acc

/-- The change a line makes at one owner: the line as it was stored comes off, the line as it is
stored now goes on, each where it belongs to this owner. -/
def lineChange (before after : Option CostLine) (owner : ℕ) : Summary :=
  [(before, -1), (after, 1)].foldl (addSigned owner) ⟨0, 0, 0⟩

/-- The owners of a line before and after, each once. -/
def owners (before after : Option CostLine) : List ℕ :=
  ((before.toList ++ after.toList).map CostLine.costSet).dedup

def addToSummary (owner : ℕ) (change : Summary) (db : Costing) : Costing :=
  match db.costSets.find? owner with
  | some set =>
      { db with costSets := db.costSets.put { set with summary := set.summary.plus change } }
  | none => db

/-- Maintain both owners; an owner whose figures do not change is not written. -/
def recordLineChange (before after : Option CostLine) : CostingCall Unit :=
  (owners before after).forM fun owner =>
    let change := lineChange before after owner
    .when (¬(change.cost = 0 ∧ change.rev = 0 ∧ change.hours = 0))
      (.write (addToSummary owner change))

/-- Write the totals where the summary does not hold them; whether it did not. -/
def recalculateSummary (id : ℕ) : CostingCall Bool := do
  let db ← Transaction.read (fun db => db)
  let set ← Transaction.orRefuse (db.costSets.find? id) (.doesNotExist "CostSet")
  let sums := totals db.lines id
  if set.summary = sums then
    pure false
  else
    .write fun db => { db with costSets := db.costSets.put { set with summary := sums } }
    pure true

/-- A new, empty set of a job. -/
def create (set : CostSet) : CostingCall Unit := do
  let db ← Transaction.read (fun db => db)
  .require ((db.jobs.find? set.job).isSome) (.database "job")
  .require (∀ other ∈ db.costSets.rows,
    ¬(other.job = set.job ∧ other.kind = set.kind ∧ other.rev = set.rev))
    (.database "unique_job_kind_rev")
  let costSets ← Transaction.orRefuse
    (db.costSets.insert? { set with summary := ⟨0, 0, 0⟩ }) (.database "job_costset_pkey")
  .write fun db => { db with costSets := costSets }

end CostSet

/-! ## Saving a line -/

namespace CostLine

/-- The columns `update_fields` can name. -/
inductive Column where
  | costSet
  | kind
  | desc
  | quantity
  | unitCost
  | unitRev
  | extRefs
  | payload
  | accountingDate
  | approved
  | staff
  | entrySeq
  | xeroPayItem
  | labourSubtype
  | managedBy
  | updatedAt
deriving DecidableEq, Repr

/-- The stored row with the named columns taken from the in-memory line. -/
def withColumns (stored self : CostLine) (columns : List Column) : CostLine where
  id := stored.id
  costSet := if .costSet ∈ columns then self.costSet else stored.costSet
  kind := if .kind ∈ columns then self.kind else stored.kind
  desc := if .desc ∈ columns then self.desc else stored.desc
  quantity := if .quantity ∈ columns then self.quantity else stored.quantity
  unitCost := if .unitCost ∈ columns then self.unitCost else stored.unitCost
  unitRev := if .unitRev ∈ columns then self.unitRev else stored.unitRev
  extRefs := if .extRefs ∈ columns then self.extRefs else stored.extRefs
  payload := if .payload ∈ columns then self.payload else stored.payload
  accountingDate := if .accountingDate ∈ columns then self.accountingDate else stored.accountingDate
  approved := if .approved ∈ columns then self.approved else stored.approved
  staff := if .staff ∈ columns then self.staff else stored.staff
  entrySeq := if .entrySeq ∈ columns then self.entrySeq else stored.entrySeq
  xeroPayItem := if .xeroPayItem ∈ columns then self.xeroPayItem else stored.xeroPayItem
  labourSubtype := if .labourSubtype ∈ columns then self.labourSubtype else stored.labourSubtype
  managedBy := if .managedBy ∈ columns then self.managedBy else stored.managedBy

/-- `_FLAG_FIELDS`: a save of only these changes no figure. -/
def flagFields : List Column := [.approved, .updatedAt]

/-- The stored line, as its set's summary counts it. -/
def storedContribution (self : CostLine) : CostingCall (Option CostLine) :=
  .read fun db => db.lines.find? self.id

/-- The stored line under the locks of both owners' jobs.  The line's own set has to be there. -/
def lockSummaryOwners (self : CostLine) : CostingCall (Option CostLine) := do
  let _ ← self.theCostSet
  self.storedContribution

/-- An actual time entry carries a number within its person's day. -/
def actualTimeEntryRequiresSequence (self : CostLine) : CostingCall Bool := do
  if self.kind = .time then
    let owner ← self.theCostSet
    pure (owner.kind = .actual)
  else
    pure false

/-- Whether the person or the day differs from the stored line's. -/
def sequenceGroupChanged (self : CostLine) (adding : Bool) : CostingCall Bool := do
  if adding then
    pure true
  else
    let stored ← self.storedContribution
    let previous ← Transaction.orRefuse stored (.doesNotExist "CostLine")
    pure (previous.staff ≠ self.staff ∨ previous.accountingDate ≠ self.accountingDate)

/-- The highest number among the other time lines of the same person and day. -/
def previousMax (self : CostLine) (lines : Table CostLine.id) : ℕ :=
  (lines.rows.filterMap fun line =>
    if line.kind = .time ∧ line.staff = self.staff ∧ line.accountingDate = self.accountingDate ∧
        line.id ≠ self.id then line.entrySeq else none).foldr max 0

/-- A number is due where there is none, or where the person or the day changed. -/
def shouldAssign (self : CostLine) (adding : Bool) : CostingCall Bool :=
  if self.entrySeq = none then pure true else self.sequenceGroupChanged adding

/-- Number an actual time entry that is due one. -/
def assignEntrySeq (self : CostLine) (adding : Bool) : CostingCall CostLine := do
  let requiresSequence ← self.actualTimeEntryRequiresSequence
  if requiresSequence = true ∧ self.staff ≠ none then
    let due ← self.shouldAssign adding
    if due then
      let lines ← Transaction.read Costing.lines
      pure { self with entrySeq := some (self.previousMax lines + 1) }
    else
      pure self
  else
    pure self

/-- The row write behind `super().save`: a new line is inserted, a stored one updated, and
`update_fields` on a row that is gone is an error. -/
def writeRow (self : CostLine) (adding : Bool) (updateFields : Option (List Column)) :
    CostingCall Unit := do
  let db ← Transaction.read (fun db => db)
  match (if adding then none else db.lines.find? self.id), updateFields with
  | some stored, some columns =>
      .write fun db => { db with lines := db.lines.put (stored.withColumns self columns) }
  | some _, none => .write fun db => { db with lines := db.lines.put self }
  | none, some [] => pure ()
  | none, some _ => .refuse (.database "Save with update_fields did not affect any rows.")
  | none, none =>
      let lines ← Transaction.orRefuse (db.lines.insert? self) (.database "job_costline_pkey")
      .write fun db => { db with lines := lines }

/-- No revenue and no billable time on a shop job; then the full checks and the write. -/
def saveValidated (self : CostLine) (adding : Bool) (updateFields : Option (List Column)) :
    CostingCall Unit := do
  let job ← self.theJob
  .require (job.shopJob → self.unitRev = 0) (.validation
    ("Shop jobs cannot have revenue. Got unit_rev=%(unit_rev)s " ++
      "for job '%(job_name)s' (job_number=%(job_number)s)"))
  .require (job.shopJob → self.kind = .time →
      ((self.payload.get? "is_billable").getD (.bool false)).truthy = false) (.validation
    ("Shop job time entries cannot be billable. " ++
      "Job '%(job_name)s' (job_number=%(job_number)s)"))
  self.fullClean
  self.writeRow adding updateFields

/-- Save a line: `adding` for one not stored yet.  A save of flags alone writes them and nothing
else; every other save records what it changes at the owners. -/
def save (self : CostLine) (adding : Bool) (updateFields : Option (List Column)) :
    CostingCall Unit := do
  if updateFields.any (fun columns => columns ⊆ flagFields) then
    self.writeRow adding updateFields
  else
    let requiresSequence ← self.actualTimeEntryRequiresSequence
    let before ← self.lockSummaryOwners
    let line ← self.assignEntrySeq adding
    let columns := updateFields.map fun columns =>
      if requiresSequence then .entrySeq :: columns else columns
    line.saveValidated adding columns
    let after ← line.storedContribution
    .require (after.isSome) (.doesNotExist "The saved cost line no longer exists")
    CostSet.recordLineChange before after

/-- Delete a line and take it off its owner's summary. -/
def delete (self : CostLine) : CostingCall Unit := do
  let before ← self.lockSummaryOwners
  .write fun db => { db with lines := db.lines.erase self.id }
  CostSet.recordLineChange before none

end CostLine

/-! ## The operations -/

/-- What a client of the costing models can ask for. -/
inductive CostingOp where
  /-- `CostSet.objects.create`. -/
  | createCostSet (set : CostSet)
  /-- `CostLine.objects.create`, and `save` on a line built in memory. -/
  | createLine (line : CostLine)
  /-- `save` on a loaded line, with whatever its fields are by then. -/
  | saveLine (line : CostLine) (updateFields : Option (List CostLine.Column))
  | deleteLine (line : CostLine)
  | recalculateSummary (costSet : ℕ)

/-- One operation on the costing tables. -/
def Costing.step : CostingOp → CostingCall Unit
  | .createCostSet set => set.create
  | .createLine line => line.save true none
  | .saveLine line updateFields => line.save false updateFields
  | .deleteLine line => line.delete
  | .recalculateSummary costSet => do
      let _ ← CostSet.recalculateSummary costSet
      pure ()

end Docketworks
