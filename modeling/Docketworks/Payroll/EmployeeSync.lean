import Docketworks.Core.Errors
import Docketworks.Core.Text
import Mathlib.Algebra.Order.Ring.Rat

/-!
# Linking staff with payroll employees

How `sync_staff` links the people of a restored database with the employees of the connected
organisation (`apps/timesheet/services/payroll_employee_sync.py`).

* `Staff`, `StaffTable` — the staff rows, whose employee ids are unique.
* `indexEmployees`, `matchStaffToEmployee` — the employee a person is matched with.
* `partition` — the batch split into the linked, the matched and the unmatched.
* `syncStaff` — the renames, the links and the creations, each written when its turn comes.

**Design.**  A call or a save that is made is noted in `writes` and is not taken back.  The calls on
payroll themselves succeed; what a new employee is called by is the provider's choice.
-/

namespace Docketworks

namespace EmployeeSync

/-! ## The two sides -/

structure PayrollEmployeeRef where
  externalId : ℕ
  firstName : String
  lastName : String
  email : Option String
  jobTitle : Option String
deriving DecidableEq, Repr

/-- The columns of a person that the sync reads. -/
structure Staff where
  id : String
  firstName : String
  lastName : String
  officeEmail : Option String
  payrollEmail : Option String
  wageRate : ℚ
  baseWageRate : ℚ
  /-- `hours_mon` to `hours_sun`. -/
  hours : List (Option ℚ)
  employmentStartDate : ℤ
  dateLeft : Option ℤ
  xeroUserId : Option ℕ
  xeroTenantId : Option String
deriving DecidableEq, Repr

/-- The person is linked in this organisation. -/
def Staff.LinkedIn (staff : Staff) (tenant : String) : Prop :=
  staff.xeroUserId.isSome ∧ staff.xeroTenantId = some tenant

instance (staff : Staff) (tenant : String) : Decidable (staff.LinkedIn tenant) :=
  inferInstanceAs (Decidable (_ ∧ _))

/-- `Staff.xero_user_id` is unique. -/
def UniqueLinks (rows : List Staff) : Prop :=
  ∀ a ∈ rows, ∀ b ∈ rows, a.xeroUserId.isSome → a.xeroUserId = b.xeroUserId → a.id = b.id

instance (rows : List Staff) : Decidable (UniqueLinks rows) :=
  inferInstanceAs (Decidable (∀ _ ∈ _, _))

structure StaffTable where
  rows : List Staff
  unique_ids : ∀ a ∈ rows, ∀ b ∈ rows, a.id = b.id → a = b
  unique_links : UniqueLinks rows

/-- The rows with one person's two link columns changed. -/
def relinked (rows : List Staff) (staffId : String) (employeeId : ℕ) (tenant : String) : List Staff :=
  rows.map fun row =>
    if row.id = staffId then { row with xeroUserId := some employeeId, xeroTenantId := some tenant }
    else row

lemma relinked_unique_ids {rows : List Staff} (h : ∀ a ∈ rows, ∀ b ∈ rows, a.id = b.id → a = b)
    (staffId : String) (employeeId : ℕ) (tenant : String) :
    ∀ a ∈ relinked rows staffId employeeId tenant, ∀ b ∈ relinked rows staffId employeeId tenant,
      a.id = b.id → a = b := by
  have hid : ∀ row : Staff, (if row.id = staffId then
      { row with xeroUserId := some employeeId, xeroTenantId := some tenant } else row).id = row.id :=
    fun row => by split <;> rfl
  unfold relinked
  simp only [List.mem_map]
  rintro - ⟨a, ha, rfl⟩ - ⟨b, hb, rfl⟩ heq
  rw [hid, hid] at heq
  rw [h a ha b hb heq]

/-- The employer's address on the company's defaults. -/
structure CompanyDefaults where
  addressLine1 : Option String
  addressLine2 : Option String
  suburb : Option String
  city : Option String
  postCode : Option String
  country : Option String
deriving DecidableEq, Repr

/-- What was written, here or in payroll. -/
inductive Write where
  | renamed (employeeId : ℕ)
  | linked (staffId : String)
  | created (employeeId : ℕ)
deriving DecidableEq, Repr

structure World where
  staff : StaffTable
  employees : List PayrollEmployeeRef
  company : CompanyDefaults
  writes : List Write

/-! ## Matching -/

/-- `clean_string`: stripped and cut; nothing for an empty text. -/
def cleanString (value : Option String) (maxLength : Option ℕ) : Option String :=
  match value with
  | none => none
  | some value =>
      let cleaned := pythonStrip value
      if cleaned = "" then none
      else match maxLength with
        | none => some cleaned
        | some n => some (String.ofList (cleaned.toList.take n))

structure EmployeeRecord where
  employeeId : ℕ
  firstName : String
  lastName : String
  email : Option String
  staffId : Option String
deriving DecidableEq, Repr

def isUuidChar (c : Char) : Bool :=
  c.isDigit || ('a' ≤ c && c ≤ 'f') || ('A' ≤ c && c ≤ 'F') || c = '-'

/-- `STAFF_UUID_PATTERN`: the 36 characters in brackets at the end, before a last line break. -/
def staffUuid (jobTitle : String) : Option String :=
  let reversed := jobTitle.toList.reverse
  let reversed := if reversed.head? = some '\n' then reversed.tail else reversed
  let uuid := (reversed.drop 1).take 36
  if reversed.head? = some ']' ∧ reversed[37]? = some '[' ∧ uuid.all isUuidChar then
    some (String.ofList uuid.reverse)
  else none

def serializeEmployee (employee : PayrollEmployeeRef) : EmployeeRecord :=
  let email := (pythonStrip (employee.email.getD "")).toLower
  { employeeId := employee.externalId
    firstName := pythonStrip employee.firstName
    lastName := pythonStrip employee.lastName
    email := if email = "" then none else some email
    staffId := (staffUuid (employee.jobTitle.getD "")).map String.toLower }

/-- The employees' records; a key finds the first that has it. -/
structure EmployeeIndex where
  records : List EmployeeRecord
deriving DecidableEq, Repr

def EmployeeIndex.byStaffId (index : EmployeeIndex) (staffId : String) : Option EmployeeRecord :=
  index.records.find? fun record => record.staffId = some staffId

def EmployeeIndex.byEmail (index : EmployeeIndex) (email : String) : Option EmployeeRecord :=
  index.records.find? fun record => record.email = some email

def EmployeeIndex.byName (index : EmployeeIndex) (first last : String) : Option EmployeeRecord :=
  index.records.find? fun record => (record.firstName ≠ "" || record.lastName ≠ "") &&
    record.firstName.toLower = first && record.lastName.toLower = last

def indexEmployees (employees : List PayrollEmployeeRef) : EmployeeIndex :=
  ⟨employees.map serializeEmployee⟩

/-- `match_staff_to_employee`: by the UUID in the job title, by either address, by name. -/
def matchStaffToEmployee (staff : Staff) (index : EmployeeIndex) : Option EmployeeRecord :=
  let byAddress (address : Option String) : Option EmployeeRecord :=
    (address.filter (· ≠ "")).bind fun address => index.byEmail (pythonStrip address).toLower
  let first := (pythonStrip staff.firstName).toLower
  let last := (pythonStrip staff.lastName).toLower
  index.byStaffId staff.id.toLower
    |>.or (byAddress staff.officeEmail)
    |>.or (byAddress staff.payrollEmail)
    |>.or (if first = "" ∧ last = "" then none else index.byName first last)

/-! ## Summaries -/

structure StaffSummary where
  staffId : String
  officeEmail : Option String
  firstName : String
  lastName : String
deriving DecidableEq, Repr

structure LinkSummary where
  staff : StaffSummary
  xeroEmployeeId : Option ℕ
  xeroEmail : Option String
  xeroName : Option String
deriving DecidableEq, Repr

structure SyncStaffResult where
  linked : List LinkSummary
  created : List LinkSummary
  alreadyLinked : List StaffSummary
  unmatched : List StaffSummary
deriving DecidableEq, Repr

def staffSummary (staff : Staff) : StaffSummary :=
  ⟨staff.id, staff.officeEmail, staff.firstName, staff.lastName⟩

def linkSummary (staff : Staff) (employeeId : Option ℕ) (found : Option EmployeeRecord) : LinkSummary :=
  ⟨staffSummary staff, employeeId, found.bind EmployeeRecord.email,
    found.map fun record => pythonStrip (record.firstName ++ " " ++ record.lastName)⟩

/-! ## What creation asks for -/

structure PayrollAddress where
  addressLine1 : String
  addressLine2 : Option String
  suburb : Option String
  city : String
  postCode : String
  countryName : String
deriving DecidableEq, Repr

/-- Everything a provider needs to create an employee; the made-up tax number and bank account are those
of the position in the batch. -/
structure NewPayrollEmployee where
  staffId : String
  firstName : String
  lastName : String
  email : String
  jobTitle : String
  startDate : ℤ
  endDate : Option ℤ
  address : PayrollAddress
  hoursPerWeek : List ℚ
  hourlyRate : ℚ
  batchPosition : ℕ
deriving DecidableEq, Repr

def requiredAddressField (value : Option String) (name : String) : Except Refusal String :=
  match value.filter (· ≠ "") with
  | some value => .ok value
  | none => .error (.value ("CompanyDefaults." ++ name ++
      " is not set, and a payroll employee cannot be created without a full employer address."))

def companyAddress (company : CompanyDefaults) : Except Refusal PayrollAddress := do
  let addressLine1 ← requiredAddressField company.addressLine1 "address_line1"
  let city ← requiredAddressField company.city "city"
  let postCode ← requiredAddressField company.postCode "post_code"
  let countryName ← requiredAddressField company.country "country"
  pure ⟨addressLine1, company.addressLine2, company.suburb, city, postCode, countryName⟩

/-- `hours_per_week`: refused where a weekday has none. -/
def hoursPerWeek (staff : Staff) : Except Refusal (List ℚ) :=
  if staff.hours.all Option.isSome then .ok (staff.hours.map (·.getD 0))
  else .error (.value "Staff missing hours")

def creationRefusals (staff : Staff) : List String :=
  (if cleanString staff.firstName none = none ∨ cleanString staff.lastName none = none then
    ["missing first or last name"] else []) ++
  (if cleanString staff.officeEmail none = none ∧ cleanString staff.payrollEmail none = none then
    ["missing email"] else []) ++
  (if staff.baseWageRate ≤ 0 then ["base_wage_rate"] else []) ++
  match hoursPerWeek staff with
  | .error _ => ["missing hours"]
  | .ok hours => if hours.any (0 < ·) then [] else ["no working days (all weekday hours are zero)"]

/-- `_assert_creatable`: the whole batch is refused for one unusable row. -/
def assertCreatable (staffMembers : List Staff) : Except Refusal Unit :=
  if staffMembers.all fun staff => creationRefusals staff = [] then .ok ()
  else .error (.value "staff cannot be created as payroll employees")

def employeeSpec (staff : Staff) (address : PayrollAddress) (batchPosition : ℕ) :
    Except Refusal NewPayrollEmployee :=
  match cleanString staff.firstName (some 35), cleanString staff.lastName (some 35),
      (cleanString staff.officeEmail (some 255)).or (cleanString staff.payrollEmail (some 255)) with
  | some firstName, some lastName, some email => do
      let hours ← hoursPerWeek staff
      pure ⟨staff.id, firstName, lastName, email, "Workshop Worker [" ++ staff.id ++ "]",
        staff.employmentStartDate, staff.dateLeft, address, hours, staff.baseWageRate, batchPosition⟩
  | _, _, _ => .error (.value "Staff has no usable name or email")

/-! ## The batch -/

structure Parts where
  alreadyLinked : List StaffSummary
  matched : List (Staff × EmployeeRecord)
  unmatched : List Staff
deriving DecidableEq, Repr

/-- The people `sync_staff` creates employees for. -/
def Parts.toCreate (parts : Parts) (allowCreate : Bool) : List Staff :=
  if allowCreate then parts.unmatched else []

/-- `_partition`, from what is split already: an employee that two people match is refused. -/
def partition (index : EmployeeIndex) (tenant : String) : List Staff → Parts → Except Refusal Parts
  | [], parts => .ok parts
  | staff :: rest, parts =>
      if staff.LinkedIn tenant then
        partition index tenant rest
          { parts with alreadyLinked := parts.alreadyLinked ++ [staffSummary staff] }
      else match matchStaffToEmployee staff index with
        | none => partition index tenant rest { parts with unmatched := parts.unmatched ++ [staff] }
        | some found =>
            if parts.matched.any fun claim => claim.2.employeeId = found.employeeId then
              .error (.value "both match payroll employee")
            else partition index tenant rest { parts with matched := parts.matched ++ [(staff, found)] }

/-! ## The writes -/

def World.note (world : World) (write : Write) : World :=
  { world with writes := world.writes ++ [write] }

def updatePayrollEmployeeName (employeeId : ℕ) (firstName lastName : String) (world : World) : World :=
  let employees := world.employees.map fun employee =>
    if employee.externalId = employeeId then { employee with firstName, lastName } else employee
  { world with employees }.note (.renamed employeeId)

/-- `link_staff`: refused by the database where another row holds the employee. -/
def linkStaff (staff : Staff) (employeeId : ℕ) (tenant : String) (world : World) :
    Except Refusal World :=
  if staff.id ∉ world.staff.rows.map Staff.id then
    .error (.database "Save with update_fields did not affect any rows.")
  else if h : UniqueLinks (relinked world.staff.rows staff.id employeeId tenant) then
    .ok ({ world with staff := ⟨relinked world.staff.rows staff.id employeeId tenant,
      relinked_unique_ids world.staff.unique_ids _ _ _, h⟩ }.note (.linked staff.id))
  else .error (.database "Staff.xero_user_id")

/-- The employees a provider creates: under an id that no employee and no person has. -/
structure Provider where
  create : World → NewPayrollEmployee → PayrollEmployeeRef
  fresh : ∀ world spec, ∀ row ∈ world.staff.rows, row.xeroUserId ≠ some (create world spec).externalId

def linkMatched (tenant : String) : List (Staff × EmployeeRecord) → World →
    Except Refusal (List LinkSummary) × World
  | [], world => (.ok [], world)
  | (staff, found) :: rest, world =>
      let renamed := updatePayrollEmployeeName found.employeeId staff.firstName staff.lastName world
      match linkStaff staff found.employeeId tenant renamed with
      | .error e => (.error e, renamed)
      | .ok world =>
          let (linked, world) := linkMatched tenant rest world
          (linked.map (linkSummary staff (some found.employeeId) (some found) :: ·), world)

def createUnmatched (provider : Provider) (tenant : String) (address : PayrollAddress) :
    ℕ → List Staff → World → Except Refusal (List LinkSummary) × World
  | _, [], world => (.ok [], world)
  | position, staff :: rest, world =>
      match employeeSpec staff address position with
      | .error e => (.error e, world)
      | .ok spec =>
          let employee := provider.create world spec
          let hired := { world with employees := world.employees ++ [employee] }.note
            (.created employee.externalId)
          match linkStaff staff employee.externalId tenant hired with
          | .error e => (.error e, hired)
          | .ok world =>
              let (created, world) := createUnmatched provider tenant address (position + 1) rest world
              (created.map (linkSummary staff (some employee.externalId)
                (some (serializeEmployee employee)) :: ·), world)

/-- `syncable_staff`: current staff with a wage rate. -/
def syncableStaff (world : World) : List Staff :=
  world.staff.rows.filter fun staff => staff.dateLeft = none ∧ 0 < staff.wageRate

/-- `sync_staff`, once the batch is split. -/
def syncParts (provider : Provider) (tenant : String) (dryRun allowCreate : Bool) (parts : Parts)
    (world : World) : Except Refusal SyncStaffResult × World :=
  let toCreate := parts.toCreate allowCreate
  let unmatched := if allowCreate then [] else parts.unmatched.map staffSummary
  match assertCreatable toCreate with
  | .error e => (.error e, world)
  | .ok () =>
      if dryRun then
        (.ok ⟨parts.matched.map fun (staff, found) => linkSummary staff (some found.employeeId) (some found),
          toCreate.map fun staff => linkSummary staff none none, parts.alreadyLinked, unmatched⟩, world)
      else match linkMatched tenant parts.matched world with
        | (.error e, world) => (.error e, world)
        | (.ok linked, world) =>
            if toCreate = [] then (.ok ⟨linked, [], parts.alreadyLinked, unmatched⟩, world)
            else match companyAddress world.company with
              | .error e => (.error e, world)
              | .ok address =>
                  match createUnmatched provider tenant address 1 toCreate world with
                  | (.error e, world) => (.error e, world)
                  | (.ok created, world) =>
                      (.ok ⟨linked, created, parts.alreadyLinked, unmatched⟩, world)

def syncStaff (provider : Provider) (staffMembers : Option (List Staff)) (tenant : String)
    (dryRun allowCreate : Bool) (world : World) : Except Refusal SyncStaffResult × World :=
  let staffMembers := staffMembers.getD (syncableStaff world)
  if staffMembers = [] then (.ok ⟨[], [], [], []⟩, world)
  else match partition (indexEmployees world.employees) tenant staffMembers ⟨[], [], []⟩ with
    | .error e => (.error e, world)
    | .ok parts => syncParts provider tenant dryRun allowCreate parts world

end EmployeeSync

end Docketworks
