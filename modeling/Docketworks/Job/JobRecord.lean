import Mathlib.Logic.Function.Basic
import Docketworks.Job.QuoteCopy
import Docketworks.Kanban.Models
import Docketworks.Library.Column

/-!
# Saving a job

The columns of a job, what a save writes of them, and the event it records
(`apps/job/models/job.py`, `apps/job/models/job_event.py`).

* `JobField`, `JobField.Value` — the columns, each with what it holds.
* `detectFieldChanges`, `applyChangeSideEffects`, `inferEventType` — the parts of a save.
* `JobRow.save` — `Job.save` over a row that exists: the columns written and the event.
* `Saved.over` — the row it leaves.
* `value_over` — a column is the object's where the caller saves it, and otherwise what it was.

**Design.**  A row is a value for every column.  An event keeps the values themselves, where the source
keeps their JSON.  Its texts (`detail`) and its author are left out, and so are the assigned staff and the
number of the job.  Priorities are exact.
-/

namespace Docketworks

open Library Kanban

inductive SpeedQualityTradeoff where
  | fast
  | normal
  | quality
  deriving DecidableEq

inductive RDTIType where
  | nonRd
  | coreRd
  | supportingRd
  deriving DecidableEq

namespace JobRecord

/-! ## The columns -/

/-- The columns of a job besides its id. -/
inductive JobField where
  | name | company | orderNumber | person | jobNumber | description | quoteAcceptanceDate | deliveryDate
  | completedAt | status | rejectedFlag | rdtiType | pricingMethodology | priceCap | speedQualityTradeoff
  | jobIsValid | paid | foremanSignedOff | timesheetsCollected | materialsChecked | customerCalled
  | released | fullyInvoiced | createdAt | updatedAt | complexJob | isUrgent | notes | createdBy
  | latestEstimate | latestQuote | latestActual | priority | minPeople | maxPeople | xeroProjectId
  | xeroDefaultTaskId | xeroLastModified | xeroLastSynced | defaultXeroPayItem
  deriving DecidableEq

inductive ColumnKind where
  | text | optionalText | flag | key | optionalKey | count | real | money | day | instant | optionalInstant
  | status | methodology | tradeoff | rdti

abbrev ColumnKind.Value : ColumnKind → Type
  | .text => String
  | .optionalText => Option String
  | .flag => Bool
  | .key => ℕ
  | .optionalKey => Option ℕ
  | .count => ℤ
  | .real => ℚ
  | .money => Option (Column 10 2)
  | .day => Option ℤ
  | .instant => ℤ
  | .optionalInstant => Option ℤ
  | .status => JobStatus
  | .methodology => PricingMethodology
  | .tradeoff => SpeedQualityTradeoff
  | .rdti => Option RDTIType

instance ColumnKind.decidableEq : (kind : ColumnKind) → DecidableEq kind.Value
  | .text => inferInstanceAs (DecidableEq String)
  | .optionalText => inferInstanceAs (DecidableEq (Option String))
  | .flag => inferInstanceAs (DecidableEq Bool)
  | .key => inferInstanceAs (DecidableEq ℕ)
  | .optionalKey => inferInstanceAs (DecidableEq (Option ℕ))
  | .count => inferInstanceAs (DecidableEq ℤ)
  | .real => inferInstanceAs (DecidableEq ℚ)
  | .money => inferInstanceAs (DecidableEq (Option (Column 10 2)))
  | .day => inferInstanceAs (DecidableEq (Option ℤ))
  | .instant => inferInstanceAs (DecidableEq ℤ)
  | .optionalInstant => inferInstanceAs (DecidableEq (Option ℤ))
  | .status => inferInstanceAs (DecidableEq JobStatus)
  | .methodology => inferInstanceAs (DecidableEq PricingMethodology)
  | .tradeoff => inferInstanceAs (DecidableEq SpeedQualityTradeoff)
  | .rdti => inferInstanceAs (DecidableEq (Option RDTIType))

namespace JobField

abbrev kind : JobField → ColumnKind
  | name => .text
  | company | person => .optionalKey
  | orderNumber | description | notes | xeroProjectId | xeroDefaultTaskId => .optionalText
  | jobNumber | createdBy | latestEstimate | latestQuote | latestActual | defaultXeroPayItem => .key
  | quoteAcceptanceDate | completedAt | xeroLastModified | xeroLastSynced => .optionalInstant
  | deliveryDate => .day
  | status => .status
  | rejectedFlag | jobIsValid | paid | foremanSignedOff | timesheetsCollected | materialsChecked
  | customerCalled | released | fullyInvoiced | complexJob | isUrgent => .flag
  | rdtiType => .rdti
  | pricingMethodology => .methodology
  | priceCap => .money
  | speedQualityTradeoff => .tradeoff
  | createdAt | updatedAt => .instant
  | priority => .real
  | minPeople | maxPeople => .count

/-- What the column holds. -/
abbrev Value (field : JobField) : Type := field.kind.Value

/-- Every column. -/
def all : List JobField :=
  [name, company, orderNumber, person, jobNumber, description, quoteAcceptanceDate, deliveryDate,
    completedAt, status, rejectedFlag, rdtiType, pricingMethodology, priceCap, speedQualityTradeoff,
    jobIsValid, paid, foremanSignedOff, timesheetsCollected, materialsChecked, customerCalled,
    released, fullyInvoiced, createdAt, updatedAt, complexJob, isUrgent, notes, createdBy,
    latestEstimate, latestQuote, latestActual, priority, minPeople, maxPeople, xeroProjectId,
    xeroDefaultTaskId, xeroLastModified, xeroLastSynced, defaultXeroPayItem]

lemma mem_all (field : JobField) : field ∈ all := by cases field <;> decide

/-- `UNTRACKED_FIELDS`. -/
def untracked : List JobField :=
  [createdAt, updatedAt, jobNumber, createdBy, latestEstimate, latestQuote, latestActual, fullyInvoiced,
    jobIsValid, xeroProjectId, xeroDefaultTaskId, xeroLastModified, xeroLastSynced, completedAt]

end JobField

/-- One column with a value. -/
abbrev Cell : Type := (field : JobField) × field.Value

structure JobRow where
  id : ℕ
  value : (field : JobField) → field.Value

def JobRow.set (row : JobRow) (cell : Cell) : JobRow :=
  { row with value := Function.update row.value cell.1 cell.2 }

def JobRow.cell (row : JobRow) (field : JobField) : Cell := ⟨field, row.value field⟩

/-! ## Events -/

/-- `JobEvent.event_type`: those of job changes, and the others by name. -/
inductive JobEventType where
  | jobCreated | statusChanged | quoteAccepted | jobRejected | jobUpdated | companyChanged | personChanged
  | notesUpdated | deliveryDateChanged | pricingChanged | priorityChanged | paymentReceived
  | paymentUpdated | completionChecklistUpdated | urgentFlagged | urgentCleared
  | other (name : String)
  deriving DecidableEq

/-- A row of the event table. -/
structure JobEvent where
  job : ℕ
  timestamp : ℤ
  eventType : JobEventType
  deltaBefore : List Cell
  deltaAfter : List Cell
  schemaVersion : ℕ
  changeId : Option ℕ
  /-- `delta_meta.fields`. -/
  deltaFields : Option (List JobField)

/-- What the cells hold in a column. -/
def cellValue? (field : JobField) : List Cell → Option field.Value
  | [] => none
  | cell :: cells => if h : cell.1 = field then some (h ▸ cell.2) else cellValue? field cells

/-! ## Detecting changes -/

/-- The columns of `_detect_field_changes`. -/
def detectFieldChanges (original self : JobRow) (updateFields : Option (List JobField))
    (trackPriority : Bool) : List JobField :=
  JobField.all.filter fun field =>
    !JobField.untracked.contains field && (field ≠ .priority || trackPriority) &&
      updateFields.all (fun fields => fields.contains field) && original.value field ≠ self.value field

def handleBooleanChange (trueEvent falseEvent : JobEventType) (old new : Bool) : Option JobEventType :=
  if new && !old then some trueEvent else if old && !new then some falseEvent else none

def handleTextFieldChange (event : JobEventType) (old new : Option String) : Option JobEventType :=
  if old.any (· ≠ "") || new.any (· ≠ "") then some event else none

def handleQuoteAcceptanceChange : Option ℤ → Option ℤ → Option JobEventType
  | none, some _ => some .quoteAccepted
  | some _, none => some .jobUpdated
  | _, _ => none

/-- The event type of `_FIELD_HANDLERS`, or of the generic change. -/
def fieldHandler : (field : JobField) → field.Value → field.Value → Option JobEventType
  | .status, _, _ => some .statusChanged
  | .company, _, _ => some .companyChanged
  | .person, _, _ => some .personChanged
  | .description, old, new => handleTextFieldChange .jobUpdated old new
  | .notes, old, new => handleTextFieldChange .notesUpdated old new
  | .deliveryDate, _, _ => some .deliveryDateChanged
  | .quoteAcceptanceDate, old, new => handleQuoteAcceptanceChange old new
  | .pricingMethodology, _, _ | .priceCap, _, _ => some .pricingChanged
  | .priority, _, _ => some .priorityChanged
  | .paid, old, new => handleBooleanChange .paymentReceived .paymentUpdated old new
  | .rejectedFlag, old, new => handleBooleanChange .jobRejected .jobUpdated old new
  | .foremanSignedOff, old, new | .timesheetsCollected, old, new | .materialsChecked, old, new
  | .customerCalled, old, new | .released, old, new =>
      handleBooleanChange .completionChecklistUpdated .completionChecklistUpdated old new
  | .complexJob, old, new => handleBooleanChange .jobUpdated .jobUpdated old new
  | .isUrgent, old, new => handleBooleanChange .urgentFlagged .urgentCleared old new
  | _, _, _ => some .jobUpdated

/-- `event_types` of a batch of changes. -/
def eventTypes (original self : JobRow) (changed : List JobField) : List JobEventType :=
  changed.filterMap fun field => fieldHandler field (original.value field) (self.value field)

def inferEventType (types : List JobEventType) (changed : List JobField) (self : JobRow) : JobEventType :=
  if changed.contains .rejectedFlag && self.value .rejectedFlag && changed.contains .status &&
      decide (self.value .status = .archived) then .jobRejected
  else if types.contains .statusChanged then .statusChanged
  else match types with
    | [type] => type
    | _ => .jobUpdated

/-! ## Saving -/

/-- The keyword arguments of a save that end up in its event. -/
structure Enrichment where
  schemaVersion : ℕ := 0
  changeId : Option ℕ := none
  /-- `delta_meta["fields"]`. -/
  deltaFields : Option (List JobField) := none
  eventTypeOverride : Option JobEventType := none
  /-- `old_position` and `new_position` of `priority_position`. -/
  priorityPosition : Option (ℕ × ℕ) := none

def isCompletedStatus (status : JobStatus) : Bool := status = .recentlyCompleted || status = .archived

/-- `_apply_change_side_effects`: the object, and the columns set besides. -/
def applyChangeSideEffects (self : JobRow) (changed : List JobField) (maxPriority : ℚ) (now : ℤ) :
    JobRow × List JobField :=
  let urgent := changed.contains .isUrgent && self.value .isUrgent
  let self := if urgent then self.set ⟨.priority, maxPriority + 200⟩ else self
  let mutated := if urgent then [.priority] else []
  if changed.contains .status then
    if isCompletedStatus (self.value .status) && (self.value .completedAt).isNone then
      (self.set ⟨.completedAt, some now⟩, .completedAt :: mutated)
    else if !isCompletedStatus (self.value .status) && (self.value .completedAt).isSome then
      (self.set ⟨.completedAt, none⟩, .completedAt :: mutated)
    else (self, mutated)
  else (self, mutated)

/-- The object a save writes, and the columns set besides: there are none without a change. -/
def JobRow.withSideEffects (self : JobRow) (changed : List JobField) (maxPriority : ℚ) (now : ℤ) :
    JobRow × List JobField :=
  if changed = [] then (self, []) else applyChangeSideEffects self changed maxPriority now

/-- `update_fields` with the freshness stamp. -/
def withUpdatedAt (fields : List JobField) : List JobField :=
  if fields ≠ [] && !fields.contains .updatedAt then fields ++ [.updatedAt] else fields

/-- `_record_change_event`: a drag that leaves the rank where it was records nothing. -/
def recordChangeEvent (original self : JobRow) (changed : List JobField) (enrichment : Enrichment)
    (now : ℤ) : Option JobEvent :=
  let eventType := enrichment.eventTypeOverride.getD
    (inferEventType (eventTypes original self changed) changed self)
  if eventType = .priorityChanged && enrichment.priorityPosition.any (fun (old, new) => old = new) then none
  else some {
    job := self.id
    timestamp := now
    eventType
    deltaBefore := changed.map original.cell
    deltaAfter := changed.map self.cell
    schemaVersion := enrichment.schemaVersion
    changeId := enrichment.changeId
    deltaFields := enrichment.deltaFields.map fun fields => fields.filter fun field => changed.contains field }

/-- What a save writes: the columns of `fields`, or all of them, from the object, and the event. -/
structure Saved where
  fields : Option (List JobField)
  self : JobRow
  event : Option JobEvent

/-- `Job.save` over a row that exists; `original` is the row it reads first. -/
def JobRow.save (self original : JobRow) (updateFields : Option (List JobField)) (enrichment : Enrichment)
    (maxPriority : ℚ) (now : ℤ) : Saved :=
  let updateFields := updateFields.map withUpdatedAt
  let changed := detectFieldChanges original self updateFields enrichment.priorityPosition.isSome
  let written := self.withSideEffects changed maxPriority now
  { fields := updateFields.map fun fields => fields ++ written.2
    self := written.1.set ⟨.updatedAt, now⟩
    event := if changed = [] then none else recordChangeEvent original self changed enrichment now }

/-- The row a save leaves where it found `row`. -/
def Saved.over (saved : Saved) (row : JobRow) : JobRow where
  id := row.id
  value field :=
    if saved.fields.all fun fields => fields.contains field then saved.self.value field else row.value field

/-! ## What a save leaves -/

section Save

variable {original self : JobRow} {updateFields : Option (List JobField)} {enrichment : Enrichment}
  {changed : List JobField} {top : ℚ} {now : ℤ}

@[simp] lemma id_set (row : JobRow) (cell : Cell) : (row.set cell).id = row.id := rfl

lemma value_set_of_ne {row : JobRow} {cell : Cell} {field : JobField} (h : field ≠ cell.1) :
    (row.set cell).value field = row.value field :=
  Function.update_of_ne h _ _

@[simp] lemma value_set_self {row : JobRow} {field : JobField} {value : field.Value} :
    (row.set ⟨field, value⟩).value field = value :=
  Function.update_self field value row.value

lemma mem_detectFieldChanges {trackPriority : Bool} {field : JobField}
    (htracked : field ∉ JobField.untracked) (hpriority : field ≠ .priority) :
    field ∈ detectFieldChanges original self updateFields trackPriority ↔
      (updateFields.all fun fields => fields.contains field) = true ∧
        original.value field ≠ self.value field := by
  unfold detectFieldChanges
  rw [List.mem_filter]
  simp [JobField.mem_all, htracked, hpriority]

/-- The side effects of a change leave every column but the priority of a job turned urgent and the
completion instant of a job moved. -/
lemma withSideEffects_value {field : JobField}
    (hpriority : field = .priority → JobField.isUrgent ∉ changed)
    (hcompleted : field = .completedAt → JobField.status ∉ changed) :
    (self.withSideEffects changed top now).1.value field = self.value field ∧
      field ∉ (self.withSideEffects changed top now).2 := by
  unfold JobRow.withSideEffects
  split
  · exact ⟨rfl, List.not_mem_nil⟩
  · unfold applyChangeSideEffects
    have hcompleted' : changed.contains .status = true → field ≠ .completedAt :=
      fun hmem heq => hcompleted heq (List.contains_iff_mem.mp hmem)
    cases hurgent : changed.contains .isUrgent && self.value .isUrgent with
    | true =>
        have hne : field ≠ .priority := fun heq =>
          hpriority heq (List.contains_iff_mem.mp (Bool.and_eq_true_iff.mp hurgent).1)
        simp only [if_true]
        split
        · rename_i hstatus
          have hne' := hcompleted' hstatus
          split
          · simp [JobRow.set, hne, hne']
          · split <;> simp [JobRow.set, hne, hne']
        · simp [JobRow.set, hne]
    | false =>
        simp only [Bool.false_eq_true, if_false]
        split
        · rename_i hstatus
          have hne' := hcompleted' hstatus
          split
          · simp [JobRow.set, hne']
          · split <;> simp [JobRow.set, hne']
        · simp

/-- What a save that means to set the `named` columns may change. -/
def setBy (named : List JobField) : List JobField :=
  named ++ [.updatedAt] ++ (if JobField.status ∈ named then [.completedAt, .priority] else []) ++
    (if JobField.isUrgent ∈ named then [.priority] else [])

lemma contains_withUpdatedAt {fields : List JobField} {field : JobField} (hupdated : field ≠ .updatedAt) :
    (withUpdatedAt fields).contains field = fields.contains field := by
  unfold withUpdatedAt
  split
  · simp [hupdated]
  · rfl

lemma all_contains_withUpdatedAt {field : JobField} (hupdated : field ≠ .updatedAt) :
    ((updateFields.map withUpdatedAt).all fun fields => fields.contains field) =
      updateFields.all fun fields => fields.contains field := by
  cases updateFields with
  | none => rfl
  | some fields => exact contains_withUpdatedAt hupdated

lemma value_over {row : JobRow} {field : JobField} (hupdated : field ≠ .updatedAt)
    (hpriority : field = .priority → JobField.isUrgent ∉ detectFieldChanges original self
      (updateFields.map withUpdatedAt) enrichment.priorityPosition.isSome)
    (hcompleted : field = .completedAt → JobField.status ∉ detectFieldChanges original self
      (updateFields.map withUpdatedAt) enrichment.priorityPosition.isSome) :
    ((self.save original updateFields enrichment top now).over row).value field =
      if updateFields.all fun fields => fields.contains field then self.value field
      else row.value field := by
  have hself : (self.save original updateFields enrichment top now).self.value field = self.value field :=
    (value_set_of_ne hupdated).trans (withSideEffects_value hpriority hcompleted).1
  have hfields : ((self.save original updateFields enrichment top now).fields.all
      fun fields => fields.contains field) = updateFields.all fun fields => fields.contains field := by
    cases updateFields with
    | none => rfl
    | some fields =>
        refine Eq.trans ?_ (contains_withUpdatedAt hupdated)
        have hmutated := (@withSideEffects_value self _ top now field hpriority hcompleted).2
        simp only [JobRow.save, Option.map_some, Option.all_some, List.contains_eq_mem, List.mem_append,
          Option.map_some] at hmutated ⊢
        simp [hmutated]
  unfold Saved.over
  dsimp only
  rw [hfields, hself]

/-- **The frame of a save.**  Where every other column it writes comes from the row it lands on, a save
changes the columns it means to set and what follows from them. -/
lemma value_over_of_not_set {row : JobRow} {named : List JobField} {field : JobField}
    (hfield : field ∉ setBy named)
    (hrest : ∀ other, other ∉ named → other ≠ .updatedAt →
      (updateFields.all fun fields => fields.contains other) = true →
        self.value other = row.value other ∧ original.value other = row.value other) :
    ((self.save original updateFields enrichment top now).over row).value field = row.value field := by
  simp only [setBy, List.mem_append, not_or, List.mem_singleton] at hfield
  obtain ⟨⟨⟨hnamed, hupdated⟩, hstatus⟩, hurgent⟩ := hfield
  have hchanged : ∀ other ∈ detectFieldChanges original self (updateFields.map withUpdatedAt)
      enrichment.priorityPosition.isSome, other ∈ named := by
    intro other hother
    by_contra hnot
    obtain ⟨-, htest⟩ := List.mem_filter.mp hother
    simp only [Bool.and_eq_true, decide_eq_true_eq, Bool.not_eq_true', List.contains_eq_mem,
      decide_eq_false_iff_not] at htest
    have hne : other ≠ .updatedAt := by
      rintro rfl
      exact htest.1.1.1 (by decide)
    have hall : (updateFields.all fun fields => fields.contains other) = true := by
      rw [← all_contains_withUpdatedAt hne]
      simpa using htest.1.2
    obtain ⟨hself, horiginal⟩ := hrest other hnot hne hall
    exact htest.2 (horiginal.trans hself.symm)
  rw [value_over hupdated]
  · split
    · rename_i hall
      exact (hrest field hnamed hupdated hall).1
    · rfl
  · rintro rfl hmem
    rw [if_pos (hchanged _ hmem)] at hurgent
    exact hurgent List.mem_cons_self
  · rintro rfl hmem
    rw [if_pos (hchanged _ hmem)] at hstatus
    exact hstatus List.mem_cons_self

end Save

end JobRecord

end Docketworks
