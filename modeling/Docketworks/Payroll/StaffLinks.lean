import Docketworks.Payroll.EmployeeSync
import Mathlib.Algebra.GroupWithZero.Nat
import Mathlib.Algebra.Order.BigOperators.Group.List
import Mathlib.Algebra.Order.Group.Nat
import Mathlib.Data.List.Nodup

/-!
# Whether the sync links one to one

When `syncStaff` links its whole batch or refuses before its first write.  The employees that people
linked before hold are in the index as all others are, so a person can be matched with one of them.

* `Touches` — what a write of the sync may change.
* `FreeFor` — no matched employee is held by another person, unless that one is relinked before.
* `linkMatched_of_free`, `linkMatched_of_held` — the links are written exactly then.
* `sync_links_or_refuses_iff` — the sync links one to one or refuses first exactly then, and when the
  employer's address is there for those it creates.
-/

namespace Docketworks

namespace EmployeeSync

/-! ## What a write changes -/

/-- A row of the person is linked with an employee of the organisation. -/
def Linked (world : World) (tenant : String) (staffId : String) : Prop :=
  ∃ row ∈ world.staff.rows, row.id = staffId ∧ row.xeroTenantId = some tenant ∧
    ∃ employee ∈ world.employees, row.xeroUserId = some employee.externalId

/-- The people of `staffIds` are linked and the employees of `employeeIds` may be renamed; everything else
stays. -/
structure Touches (tenant : String) (staffIds : List String) (employeeIds : List ℕ)
    (world world' : World) : Prop where
  ids : world'.staff.rows.map Staff.id = world.staff.rows.map Staff.id
  rows : ∀ row ∈ world.staff.rows, row.id ∉ staffIds → row ∈ world'.staff.rows
  linked : ∀ staffId ∈ staffIds, Linked world' tenant staffId
  employees : ∀ employee ∈ world.employees, employee.externalId ∉ employeeIds →
    employee ∈ world'.employees
  existing : ∀ employee ∈ world.employees, ∃ employee' ∈ world'.employees,
    employee'.externalId = employee.externalId
  company : world'.company = world.company

section Touching

variable {tenant : String} {world world' world'' : World} {staffIds staffIds' : List String}
  {employeeIds employeeIds' : List ℕ} {staff : Staff} {found : EmployeeRecord}
  {rows remaining : List Staff} {employee : ℕ} {matched : List (Staff × EmployeeRecord)}

lemma Touches.refl (tenant : String) (world : World) : Touches tenant [] [] world world where
  ids := rfl
  rows _ h _ := h
  linked _ h := absurd h List.not_mem_nil
  employees _ h _ := h
  existing employee h := ⟨employee, h, rfl⟩
  company := rfl

lemma Touches.trans (h : Touches tenant staffIds employeeIds world world')
    (h' : Touches tenant staffIds' employeeIds' world' world'') :
    Touches tenant (staffIds ++ staffIds') (employeeIds ++ employeeIds') world world'' where
  ids := h'.ids.trans h.ids
  rows row hrow hout := by
    rw [List.mem_append, not_or] at hout
    exact h'.rows row (h.rows row hrow hout.1) hout.2
  linked staffId hid := by
    by_cases hlater : staffId ∈ staffIds'
    · exact h'.linked staffId hlater
    · obtain ⟨row, hrow, rfl, htenant, employee, hemployee, hlink⟩ :=
        h.linked staffId ((List.mem_append.mp hid).resolve_right hlater)
      obtain ⟨employee', hemployee', hsame⟩ := h'.existing employee hemployee
      exact ⟨row, h'.rows row hrow hlater, rfl, htenant, employee', hemployee', hsame ▸ hlink⟩
  employees employee hemployee hout := by
    rw [List.mem_append, not_or] at hout
    exact h'.employees employee (h.employees employee hemployee hout.1) hout.2
  existing employee hemployee := by
    obtain ⟨employee', hemployee', hsame⟩ := h.existing employee hemployee
    obtain ⟨employee'', hemployee'', hsame'⟩ := h'.existing employee' hemployee'
    exact ⟨employee'', hemployee'', hsame'.trans hsame⟩
  company := h'.company.trans h.company

/-! ## Links -/

/-- A person holds the employee. -/
def Holds (rows : List Staff) (employee : ℕ) (staffId : String) : Prop :=
  ∃ row ∈ rows, row.xeroUserId = some employee ∧ row.id = staffId

lemma map_id_relinked (staffId : String) :
    (relinked rows staffId employee tenant).map Staff.id = rows.map Staff.id := by
  unfold relinked
  rw [List.map_map]
  refine List.map_congr_left fun row _ => ?_
  simp only [Function.comp_apply]
  split <;> rfl

lemma mem_relinked_of_ne {row : Staff} (h : row ∈ rows) {staffId : String} (hne : row.id ≠ staffId) :
    row ∈ relinked rows staffId employee tenant :=
  List.mem_map.mpr ⟨row, h, if_neg hne⟩

lemma mem_relinked_of_eq {row : Staff} (h : row ∈ rows) :
    { row with xeroUserId := some employee, xeroTenantId := some tenant } ∈
      relinked rows row.id employee tenant :=
  List.mem_map.mpr ⟨row, h, if_pos rfl⟩

lemma holds_relinked {employee' : ℕ} {staffId k : String} (hne : employee' ≠ employee) :
    Holds (relinked rows staffId employee tenant) employee' k ↔ k ≠ staffId ∧ Holds rows employee' k := by
  constructor
  · rintro ⟨row, hrow, hlink, rfl⟩
    obtain ⟨row, hmem, rfl⟩ := List.mem_map.mp hrow
    split at hlink
    · exact absurd (Option.some.inj hlink).symm hne
    next hid =>
      rw [if_neg hid]
      exact ⟨hid, row, hmem, hlink, rfl⟩
  · rintro ⟨hk, row, hrow, hlink, rfl⟩
    exact ⟨row, mem_relinked_of_ne hrow hk, hlink, rfl⟩

lemma uniqueLinks_relinked_iff (h : UniqueLinks rows) {staffId : String}
    (hrow : staffId ∈ rows.map Staff.id) :
    UniqueLinks (relinked rows staffId employee tenant) ↔ ∀ k, Holds rows employee k → k = staffId := by
  constructor
  · rintro hunique k ⟨row, hmem, hlink, rfl⟩
    by_contra hne
    obtain ⟨target, htarget, rfl⟩ := List.mem_map.mp hrow
    exact hne (hunique _ (mem_relinked_of_eq htarget) row (mem_relinked_of_ne hmem hne) rfl
      hlink.symm).symm
  · intro hfree a' ha' b' hb'
    obtain ⟨a, ha, rfl⟩ := List.mem_map.mp ha'
    obtain ⟨b, hb, rfl⟩ := List.mem_map.mp hb'
    split <;> split
    · rename_i hida hidb
      exact fun _ _ => hida.trans hidb.symm
    · rename_i hida hidb
      exact fun _ heq => absurd (hfree b.id ⟨b, hb, heq.symm, rfl⟩) hidb
    · rename_i hida hidb
      exact fun _ heq => absurd (hfree a.id ⟨a, ha, heq, rfl⟩) hida
    · exact h a ha b hb

lemma linkStaff_of_free (hrow : staff.id ∈ world.staff.rows.map Staff.id)
    (hfree : ∀ k, Holds world.staff.rows employee k → k = staff.id)
    (hemployee : ∃ ref ∈ world.employees, ref.externalId = employee) :
    ∃ world', linkStaff staff employee tenant world = .ok world' ∧
      Touches tenant [staff.id] [] world world' ∧
      world'.staff.rows = relinked world.staff.rows staff.id employee tenant ∧
      world'.writes = world.writes ++ [.linked staff.id] := by
  have hunique := (@uniqueLinks_relinked_iff tenant _ _ world.staff.unique_links _ hrow).mpr hfree
  refine ⟨{ world with staff := ⟨relinked world.staff.rows staff.id employee tenant,
    relinked_unique_ids world.staff.unique_ids _ _ _, hunique⟩ }.note (.linked staff.id), ?_,
    ⟨map_id_relinked _, fun row hmem hout => ?_, ?_, fun _ h _ => h,
    fun ref href => ⟨ref, href, rfl⟩, rfl⟩, rfl, rfl⟩
  · unfold linkStaff
    rw [if_neg (not_not.mpr hrow), dif_pos hunique]
  · exact mem_relinked_of_ne hmem (List.mem_singleton.not.mp hout)
  · intro staffId hid
    obtain rfl := List.mem_singleton.mp hid
    obtain ⟨target, htarget, hid⟩ := List.mem_map.mp hrow
    obtain ⟨ref, href, rfl⟩ := hemployee
    have hmem := @mem_relinked_of_eq tenant _ ref.externalId _ htarget
    rw [hid] at hmem
    exact ⟨_, hmem, rfl, rfl, ref, href, rfl⟩

lemma linkStaff_of_held {k : String} (hheld : Holds world.staff.rows employee k) (hne : k ≠ staff.id)
    (hrow : staff.id ∈ world.staff.rows.map Staff.id) :
    linkStaff staff employee tenant world = .error (.database "Staff.xero_user_id") := by
  have hunique : ¬ UniqueLinks (relinked world.staff.rows staff.id employee tenant) := fun hunique =>
    hne ((uniqueLinks_relinked_iff world.staff.unique_links hrow).mp hunique k hheld)
  unfold linkStaff
  rw [if_neg (not_not.mpr hrow), dif_neg hunique]

/-! ## The matched -/

/-- No matched employee is held by another person, unless that one is relinked before. -/
def FreeFor : List Staff → List (Staff × EmployeeRecord) → Prop
  | _, [] => True
  | rows, (staff, found) :: rest =>
      (∀ k, Holds rows found.employeeId k → k = staff.id) ∧
        FreeFor (rows.filter fun row => row.id ≠ staff.id) rest

lemma touches_updatePayrollEmployeeName {first last : String} :
    Touches tenant [] [employee] world (updatePayrollEmployeeName employee first last world) where
  ids := rfl
  rows _ h _ := h
  linked _ h := absurd h List.not_mem_nil
  employees ref href hout :=
    List.mem_map.mpr ⟨ref, href, if_neg (List.mem_singleton.not.mp hout)⟩
  existing ref href := by
    refine ⟨_, List.mem_map.mpr ⟨ref, href, rfl⟩, ?_⟩
    split <;> rfl
  company := rfl

lemma holds_filter {employee' : ℕ} {staffId k : String} :
    Holds (rows.filter fun row => row.id ≠ staffId) employee' k ↔ k ≠ staffId ∧ Holds rows employee' k := by
  unfold Holds
  simp only [List.mem_filter, decide_eq_true_eq]
  constructor
  · rintro ⟨row, ⟨hrow, hne⟩, hlink, rfl⟩
    exact ⟨hne, row, hrow, hlink, rfl⟩
  · rintro ⟨hne, row, hrow, hlink, rfl⟩
    exact ⟨row, ⟨hrow, hne⟩, hlink, rfl⟩

lemma linkMatched_cons_of_free (hrow : staff.id ∈ world.staff.rows.map Staff.id)
    (hfree : ∀ k, Holds world.staff.rows found.employeeId k → k = staff.id)
    (hemployee : ∃ ref ∈ world.employees, ref.externalId = found.employeeId) :
    ∃ world', linkMatched tenant ((staff, found) :: matched) world =
        ((linkMatched tenant matched world').1.map (linkSummary staff (some found.employeeId) (some found) :: ·),
          (linkMatched tenant matched world').2) ∧
      Touches tenant [staff.id] [found.employeeId] world world' ∧
      world'.staff.rows = relinked world.staff.rows staff.id found.employeeId tenant ∧
      world.writes.length < world'.writes.length := by
  have hrename := @touches_updatePayrollEmployeeName tenant world found.employeeId staff.firstName
    staff.lastName
  obtain ⟨ref, href, heq⟩ := hemployee
  obtain ⟨ref', href', heq'⟩ := hrename.existing ref href
  obtain ⟨world', hlink, htouch, hrows, hwrites⟩ := @linkStaff_of_free tenant
    (updatePayrollEmployeeName found.employeeId staff.firstName staff.lastName world) _ _
    hrow hfree ⟨ref', href', heq'.trans heq⟩
  refine ⟨world', ?_, hrename.trans htouch, hrows, ?_⟩
  · simp only [linkMatched, hlink]
  · rw [hwrites]
    simp only [updatePayrollEmployeeName, World.note, List.length_append, List.length_singleton]
    omega

lemma linkMatched_cons_of_held (hrow : staff.id ∈ world.staff.rows.map Staff.id)
    (hheld : ¬ ∀ k, Holds world.staff.rows found.employeeId k → k = staff.id) :
    ∃ e world', linkMatched tenant ((staff, found) :: matched) world = (.error e, world') ∧
      world.writes.length < world'.writes.length := by
  push Not at hheld
  obtain ⟨k, hheld, hne⟩ := hheld
  have hlink := @linkStaff_of_held tenant
    (updatePayrollEmployeeName found.employeeId staff.firstName staff.lastName world) staff _ _ hheld hne hrow
  refine ⟨.database "Staff.xero_user_id",
    updatePayrollEmployeeName found.employeeId staff.firstName staff.lastName world,
    by simp only [linkMatched, hlink], ?_⟩
  simp only [updatePayrollEmployeeName, World.note, List.length_append, List.length_singleton]
  omega

/-- `remaining` holds what is still to be relinked as the stored rows do. -/
def Agrees (rows remaining : List Staff) (matched : List (Staff × EmployeeRecord)) : Prop :=
  ∀ claim ∈ matched, ∀ k, Holds rows claim.2.employeeId k ↔ Holds remaining claim.2.employeeId k

lemma Agrees.tail (h : Agrees rows remaining ((staff, found) :: matched))
    (hother : ∀ claim ∈ matched, claim.2.employeeId ≠ found.employeeId) :
    Agrees (relinked rows staff.id found.employeeId tenant)
      (remaining.filter fun row => row.id ≠ staff.id) matched := by
  intro claim hclaim k
  rw [holds_relinked (hother claim hclaim), holds_filter, h claim (List.mem_cons_of_mem _ hclaim)]

/-- What the matched are, where the batch is stored and the index read. -/
structure Matchable (world : World) (matched : List (Staff × EmployeeRecord)) : Prop where
  stored : ∀ claim ∈ matched, claim.1.id ∈ world.staff.rows.map Staff.id
  existing : ∀ claim ∈ matched, ∃ ref ∈ world.employees, ref.externalId = claim.2.employeeId
  once : (matched.map fun claim => claim.2.employeeId).Nodup

lemma Matchable.tail (h : Matchable world ((staff, found) :: matched))
    (htouch : Touches tenant staffIds employeeIds world world') : Matchable world' matched where
  stored claim hclaim := htouch.ids ▸ h.stored claim (List.mem_cons_of_mem _ hclaim)
  existing claim hclaim := by
    obtain ⟨ref, href, heq⟩ := h.existing claim (List.mem_cons_of_mem _ hclaim)
    obtain ⟨ref', href', heq'⟩ := htouch.existing ref href
    exact ⟨ref', href', heq'.trans heq⟩
  once := (List.nodup_cons.mp h.once).2

lemma Matchable.ne (h : Matchable world ((staff, found) :: matched)) :
    ∀ claim ∈ matched, claim.2.employeeId ≠ found.employeeId := fun claim hclaim heq =>
  (List.nodup_cons.mp h.once).1 (List.mem_map.mpr ⟨claim, hclaim, heq⟩)

/-- **Free employees are all linked.** -/
lemma linkMatched_of_free (hmatchable : Matchable world matched)
    (hagrees : Agrees world.staff.rows remaining matched) (hfree : FreeFor remaining matched) :
    ∃ linked world', linkMatched tenant matched world = (.ok linked, world') ∧
      Touches tenant (matched.map fun claim => claim.1.id) (matched.map fun claim => claim.2.employeeId)
        world world' ∧
      (matched ≠ [] → world.writes.length < world'.writes.length) := by
  induction matched generalizing world remaining with
  | nil => exact ⟨[], world, rfl, .refl tenant world, fun h => absurd rfl h⟩
  | cons claim matched ih =>
      obtain ⟨staff, found⟩ := claim
      obtain ⟨hhead, hrest⟩ := hfree
      obtain ⟨world', hrun, htouch, hrows, hwrites⟩ := @linkMatched_cons_of_free tenant _ _ _
        matched (hmatchable.stored _ List.mem_cons_self)
        (fun k hk => hhead k ((hagrees _ List.mem_cons_self k).mp hk))
        (hmatchable.existing _ List.mem_cons_self)
      obtain ⟨linked, world'', hlinked, htouch', hwrites'⟩ := ih (hmatchable.tail htouch)
        (hrows ▸ hagrees.tail hmatchable.ne) hrest
      refine ⟨_, world'', by rw [hrun, hlinked]; rfl, htouch.trans htouch', fun _ => ?_⟩
      rcases matched with _ | ⟨next, matched⟩
      · obtain rfl : world' = world'' := (Prod.mk.inj hlinked).2
        exact hwrites
      · exact hwrites.trans (hwrites' (List.cons_ne_nil _ _))

/-- **A held employee ends the run** after a write. -/
lemma linkMatched_of_held (hmatchable : Matchable world matched)
    (hagrees : Agrees world.staff.rows remaining matched) (hheld : ¬ FreeFor remaining matched) :
    ∃ e world', linkMatched tenant matched world = (.error e, world') ∧
      world.writes.length < world'.writes.length := by
  induction matched generalizing world remaining with
  | nil => exact absurd trivial hheld
  | cons claim matched ih =>
      obtain ⟨staff, found⟩ := claim
      have hrow := hmatchable.stored _ List.mem_cons_self
      by_cases hhead : ∀ k, Holds world.staff.rows found.employeeId k → k = staff.id
      · obtain ⟨world', hrun, htouch, hrows, hwrites⟩ := @linkMatched_cons_of_free tenant _ _ _
          matched hrow hhead (hmatchable.existing _ List.mem_cons_self)
        have hrest : ¬ FreeFor (remaining.filter fun row => row.id ≠ staff.id) matched := fun hrest =>
          hheld ⟨fun k hk => hhead k ((hagrees _ List.mem_cons_self k).mpr hk), hrest⟩
        obtain ⟨e, world'', hfail, hwrites'⟩ := ih (hmatchable.tail htouch)
          (hrows ▸ hagrees.tail hmatchable.ne) hrest
        exact ⟨e, world'', by rw [hrun, hfail]; rfl, hwrites.trans hwrites'⟩
      · exact linkMatched_cons_of_held hrow hhead

lemma FreeFor.not_holds {k : String} (hfree : FreeFor remaining matched)
    (hholds : Holds remaining employee k) (hout : ∀ claim ∈ matched, claim.1.id ≠ k) :
    employee ∉ matched.map fun claim => claim.2.employeeId := by
  induction matched generalizing remaining with
  | nil => exact List.not_mem_nil
  | cons claim matched ih =>
      obtain ⟨staff, found⟩ := claim
      have hne := (hout _ List.mem_cons_self).symm
      rw [List.map_cons, List.mem_cons, not_or]
      refine ⟨fun heq => hne (hfree.1 k (heq ▸ hholds)), ih hfree.2 (holds_filter.mpr ⟨hne, hholds⟩)
        fun other hother => hout other (List.mem_cons_of_mem _ hother)⟩

end Touching

/-! ## The created -/

lemma cleanString_isSome {value : Option String} (h : cleanString value none ≠ none) (n : ℕ) :
    ∃ cleaned, cleanString value (some n) = some cleaned := by
  rcases value with _ | value
  · exact absurd rfl h
  unfold cleanString at h ⊢
  simp only at h ⊢
  split at h
  · exact absurd rfl h
  next hne =>
    rw [if_neg hne]
    exact ⟨_, rfl⟩

lemma employeeSpec_of_creatable {staff : Staff} (h : creationRefusals staff = [])
    (address : PayrollAddress) (position : ℕ) : ∃ spec, employeeSpec staff address position = .ok spec := by
  unfold creationRefusals at h
  simp only [List.append_eq_nil_iff] at h
  obtain ⟨⟨⟨hnames, hemail⟩, -⟩, hhours⟩ := h
  have hnames : cleanString staff.firstName none ≠ none ∧ cleanString staff.lastName none ≠ none := by
    simpa using hnames
  have hemail : ¬(cleanString staff.officeEmail none = none ∧ cleanString staff.payrollEmail none = none) := by
    simpa using hemail
  obtain ⟨first, hfirst⟩ := cleanString_isSome hnames.1 35
  obtain ⟨last, hlast⟩ := cleanString_isSome hnames.2 35
  obtain ⟨email, hmail⟩ : ∃ email, (cleanString staff.officeEmail (some 255)).or
      (cleanString staff.payrollEmail (some 255)) = some email := by
    by_cases hoffice : cleanString staff.officeEmail none = none
    · obtain ⟨payroll, hpayroll⟩ := cleanString_isSome (fun hnone => hemail ⟨hoffice, hnone⟩) 255
      rw [hpayroll]
      rcases cleanString staff.officeEmail (some 255) with _ | office
      · exact ⟨payroll, rfl⟩
      · exact ⟨office, rfl⟩
    · obtain ⟨office, hoffice⟩ := cleanString_isSome hoffice 255
      exact ⟨office, by rw [hoffice]; rfl⟩
  unfold employeeSpec
  simp only [hfirst, hlast, hmail]
  rcases hrun : hoursPerWeek staff with _ | hours
  · rw [hrun] at hhours
    cases hhours
  · exact ⟨_, rfl⟩

lemma of_assertCreatable {staffMembers : List Staff} (h : assertCreatable staffMembers = .ok ()) :
    ∀ staff ∈ staffMembers, creationRefusals staff = [] := by
  unfold assertCreatable at h
  split at h
  next hall => simpa using hall
  · cases h

/-- **The creatable are all created** and linked. -/
lemma createUnmatched_of_creatable {provider : Provider} {tenant : String} {address : PayrollAddress}
    {staffMembers : List Staff} {world : World} {position : ℕ}
    (hcreatable : ∀ staff ∈ staffMembers, creationRefusals staff = [])
    (hstored : ∀ staff ∈ staffMembers, staff.id ∈ world.staff.rows.map Staff.id) :
    ∃ created world', createUnmatched provider tenant address position staffMembers world =
        (.ok created, world') ∧ Touches tenant (staffMembers.map Staff.id) [] world world' := by
  induction staffMembers generalizing world position with
  | nil => exact ⟨[], world, rfl, .refl tenant world⟩
  | cons staff staffMembers ih =>
      obtain ⟨spec, hspec⟩ := employeeSpec_of_creatable (hcreatable staff List.mem_cons_self) address position
      let employee := provider.create world spec
      let hired := { world with employees := world.employees ++ [employee] }.note
        (.created employee.externalId)
      have hhire : Touches tenant [] [] world hired :=
        ⟨rfl, fun _ h _ => h, fun _ h => absurd h List.not_mem_nil,
          fun _ h _ => List.mem_append_left _ h, fun ref h => ⟨ref, List.mem_append_left _ h, rfl⟩, rfl⟩
      -- nobody holds the new employee
      have hfree : ∀ k, Holds hired.staff.rows employee.externalId k → k = staff.id := by
        rintro k ⟨row, hrow, hlink, -⟩
        exact absurd hlink (provider.fresh world spec row hrow)
      obtain ⟨world', hlink, htouch, -, -⟩ := @linkStaff_of_free tenant hired _ _
        (hstored staff List.mem_cons_self) hfree
        ⟨employee, List.mem_append_right _ (List.mem_singleton_self _), rfl⟩
      have hboth := hhire.trans htouch
      obtain ⟨created, world'', hrun, htouch'⟩ := @ih world' (position + 1)
        (fun other hother => hcreatable other (List.mem_cons_of_mem _ hother))
        (fun other hother => hboth.ids ▸ hstored other (List.mem_cons_of_mem _ hother))
      refine ⟨linkSummary staff (some employee.externalId) (some (serializeEmployee employee)) :: created,
        world'', ?_, hboth.trans htouch'⟩
      simp only [createUnmatched, hspec]
      rw [show linkStaff staff (provider.create world spec).externalId tenant _ = .ok world' from hlink]
      simp only [hrun]
      rfl

/-! ## The parts of a batch -/

/-- What is split so far, of the people `seen`. -/
structure Splits (index : EmployeeIndex) (tenant : String) (seen : List Staff) (parts : Parts) : Prop where
  every : ∀ staff ∈ seen, staff.LinkedIn tenant ∨ (∃ found, (staff, found) ∈ parts.matched) ∨
    staff ∈ parts.unmatched
  matched : ∀ claim ∈ parts.matched, claim.1 ∈ seen ∧ ¬ claim.1.LinkedIn tenant ∧
    matchStaffToEmployee claim.1 index = some claim.2
  unmatched : ∀ staff ∈ parts.unmatched, staff ∈ seen ∧ ¬ staff.LinkedIn tenant ∧
    matchStaffToEmployee staff index = none
  once : (parts.matched.map fun claim => claim.2.employeeId).Nodup

section Splitting

variable {index : EmployeeIndex} {tenant : String} {seen rest : List Staff} {parts parts' : Parts}
  {staff : Staff}

lemma Splits.andLinked (h : Splits index tenant seen parts) (hlinked : staff.LinkedIn tenant)
    (summaries : List StaffSummary) :
    Splits index tenant (seen ++ [staff]) { parts with alreadyLinked := summaries } where
  every other hother := by
    rcases List.mem_append.mp hother with hother | hother
    · exact h.every other hother
    · obtain rfl := List.mem_singleton.mp hother
      exact .inl hlinked
  matched claim hclaim := (h.matched claim hclaim).imp_left (List.mem_append_left _)
  unmatched other hother := (h.unmatched other hother).imp_left (List.mem_append_left _)
  once := h.once

lemma Splits.andUnmatched (h : Splits index tenant seen parts) (hlinked : ¬ staff.LinkedIn tenant)
    (hnone : matchStaffToEmployee staff index = none) :
    Splits index tenant (seen ++ [staff]) { parts with unmatched := parts.unmatched ++ [staff] } where
  every other hother := by
    rcases List.mem_append.mp hother with hother | hother
    · exact (h.every other hother).imp_right (.imp_right (List.mem_append_left _))
    · obtain rfl := List.mem_singleton.mp hother
      exact .inr (.inr (List.mem_append_right _ List.mem_cons_self))
  matched claim hclaim := (h.matched claim hclaim).imp_left (List.mem_append_left _)
  unmatched other hother := by
    rcases List.mem_append.mp hother with hother | hother
    · exact (h.unmatched other hother).imp_left (List.mem_append_left _)
    · obtain rfl := List.mem_singleton.mp hother
      exact ⟨List.mem_append_right _ List.mem_cons_self, hlinked, hnone⟩
  once := h.once

lemma Splits.andMatched {found : EmployeeRecord} (h : Splits index tenant seen parts)
    (hlinked : ¬ staff.LinkedIn tenant) (hfound : matchStaffToEmployee staff index = some found)
    (hunclaimed : ∀ claim ∈ parts.matched, claim.2.employeeId ≠ found.employeeId) :
    Splits index tenant (seen ++ [staff]) { parts with matched := parts.matched ++ [(staff, found)] } where
  every other hother := by
    rcases List.mem_append.mp hother with hother | hother
    · exact (h.every other hother).imp_right
        (.imp_left fun ⟨found, hfound⟩ => ⟨found, List.mem_append_left _ hfound⟩)
    · obtain rfl := List.mem_singleton.mp hother
      exact .inr (.inl ⟨found, List.mem_append_right _ List.mem_cons_self⟩)
  matched claim hclaim := by
    rcases List.mem_append.mp hclaim with hclaim | hclaim
    · exact (h.matched claim hclaim).imp_left (List.mem_append_left _)
    · obtain rfl := List.mem_singleton.mp hclaim
      exact ⟨List.mem_append_right _ List.mem_cons_self, hlinked, hfound⟩
  unmatched other hother := (h.unmatched other hother).imp_left (List.mem_append_left _)
  once := by
    rw [List.map_append, List.nodup_append]
    refine ⟨h.once, List.nodup_singleton _, fun employeeId hmem other hother => ?_⟩
    obtain rfl := List.mem_singleton.mp hother
    obtain ⟨claim, hclaim, rfl⟩ := List.mem_map.mp hmem
    exact hunclaimed claim hclaim

lemma splits_of_partition (h : Splits index tenant seen parts)
    (hrun : partition index tenant rest parts = .ok parts') : Splits index tenant (seen ++ rest) parts' := by
  induction rest generalizing seen parts with
  | nil =>
      obtain rfl := Except.ok.inj hrun
      rwa [List.append_nil]
  | cons staff rest ih =>
      rw [List.append_cons]
      unfold partition at hrun
      split at hrun
      · rename_i hlinked
        exact ih (h.andLinked hlinked _) hrun
      rename_i hlinked
      split at hrun
      · rename_i hnone
        exact ih (h.andUnmatched hlinked hnone) hrun
      · rename_i found hfound
        split at hrun
        · cases hrun
        · rename_i hclaimed
          refine ih (h.andMatched hlinked hfound fun claim hclaim heq => hclaimed ?_) hrun
          exact List.any_eq_true.mpr ⟨claim, hclaim, decide_eq_true heq⟩

end Splitting

lemma exists_of_match {staff : Staff} {employees : List PayrollEmployeeRef} {found : EmployeeRecord}
    (h : matchStaffToEmployee staff (indexEmployees employees) = some found) :
    ∃ ref ∈ employees, ref.externalId = found.employeeId := by
  have hmem : found ∈ (indexEmployees employees).records := by
    unfold matchStaffToEmployee at h
    simp only [Option.or_eq_some_iff] at h
    have haddress : ∀ {address : Option String}, ((address.filter (· ≠ "")).bind fun address =>
        (indexEmployees employees).byEmail (pythonStrip address).toLower) = some found →
        found ∈ (indexEmployees employees).records := by
      intro address h
      obtain ⟨_, -, h⟩ := Option.bind_eq_some_iff.mp h
      exact List.mem_of_find?_eq_some h
    rcases h with ((h | ⟨-, h⟩) | ⟨-, h⟩) | ⟨-, h⟩
    · exact List.mem_of_find?_eq_some h
    · exact haddress h
    · exact haddress h
    · split at h
      · cases h
      · exact List.mem_of_find?_eq_some h
  obtain ⟨ref, href, rfl⟩ := List.mem_map.mp hmem
  exact ⟨ref, href, rfl⟩

/-! ## The sync -/

/-- Whoever the batch names is linked, was linked before, or is left unmatched where none are created; no
employee has two people; and the people linked before, and their employees, are as they were. -/
structure LinksOneToOne (tenant : String) (allowCreate : Bool) (batch : List Staff)
    (world world' : World) : Prop where
  every : ∀ staff ∈ batch, staff.LinkedIn tenant ∨ Linked world' tenant staff.id ∨
    allowCreate = false ∧ matchStaffToEmployee staff (indexEmployees world.employees) = none
  oneToOne : UniqueLinks world'.staff.rows
  kept : ∀ row ∈ world.staff.rows, row.LinkedIn tenant → row ∈ world'.staff.rows ∧
    ∀ ref ∈ world.employees, row.xeroUserId = some ref.externalId → ref ∈ world'.employees

/-- The sync raised, or only looked, and nothing is written; or it linked one to one. -/
def LinksOrRefuses (tenant : String) (dryRun allowCreate : Bool) (batch : List Staff) (world : World)
    (outcome : Except Refusal SyncStaffResult × World) : Prop :=
  match outcome with
  | (.error _, world') => world' = world
  | (.ok _, world') =>
      if dryRun then world' = world else LinksOneToOne tenant allowCreate batch world world'

/-- No employee that is matched is held by another person, unless that one is relinked before; and where
employees are created after others were linked, the employer's address is complete. -/
def PartsFree (allowCreate : Bool) (parts : Parts) (world : World) : Prop :=
  FreeFor world.staff.rows parts.matched ∧
    (parts.matched = [] ∨ parts.toCreate allowCreate = [] ∨ (companyAddress world.company).isOk)

section Sync

variable {provider : Provider} {tenant : String} {dryRun allowCreate : Bool} {batch : List Staff}
  {world : World} {parts : Parts}

lemma Splits.matchable (h : Splits (indexEmployees world.employees) tenant batch parts)
    (hstored : ∀ staff ∈ batch, staff ∈ world.staff.rows) : Matchable world parts.matched where
  stored claim hclaim := List.mem_map_of_mem (hstored _ (h.matched claim hclaim).1)
  existing claim hclaim := exists_of_match (h.matched claim hclaim).2.2
  once := h.once

lemma ne_of_linkedIn {row staff : Staff} (hrow : row ∈ world.staff.rows) (hlinked : row.LinkedIn tenant)
    (hstaff : staff ∈ world.staff.rows) (hout : ¬ staff.LinkedIn tenant) : staff.id ≠ row.id := fun heq =>
  hout (world.staff.unique_ids staff hstaff row hrow heq ▸ hlinked)

lemma linksOneToOne_of_touches {world' : World}
    (h : Splits (indexEmployees world.employees) tenant batch parts)
    (hstored : ∀ staff ∈ batch, staff ∈ world.staff.rows) (hfree : FreeFor world.staff.rows parts.matched)
    (htouch : Touches tenant ((parts.matched.map fun claim => claim.1.id) ++
      (parts.toCreate allowCreate).map Staff.id) (parts.matched.map fun claim => claim.2.employeeId)
      world world') : LinksOneToOne tenant allowCreate batch world world' where
  every staff hstaff := by
    rcases h.every staff hstaff with hlinked | ⟨found, hmatched⟩ | hunmatched
    · exact .inl hlinked
    · exact .inr (.inl (htouch.linked _ (List.mem_append_left _ (List.mem_map.mpr ⟨_, hmatched, rfl⟩))))
    · rcases allowCreate with _ | _
      · exact .inr (.inr ⟨rfl, (h.unmatched staff hunmatched).2.2⟩)
      · exact .inr (.inl (htouch.linked _ (List.mem_append_right _ (List.mem_map_of_mem hunmatched))))
  oneToOne := world'.staff.unique_links
  kept row hrow hlinked := by
    have hmatched : ∀ claim ∈ parts.matched, claim.1.id ≠ row.id := fun claim hclaim =>
      ne_of_linkedIn hrow hlinked (hstored _ (h.matched claim hclaim).1) (h.matched claim hclaim).2.1
    refine ⟨htouch.rows row hrow fun hin => ?_, fun ref href hlink => ?_⟩
    · rcases List.mem_append.mp hin with hin | hin
      · obtain ⟨claim, hclaim, heq⟩ := List.mem_map.mp hin
        exact hmatched claim hclaim heq
      · obtain ⟨staff, hstaff, heq⟩ := List.mem_map.mp hin
        have hunmatched : staff ∈ parts.unmatched := by
          unfold Parts.toCreate at hstaff
          split at hstaff
          · exact hstaff
          · exact absurd hstaff List.not_mem_nil
        obtain ⟨hseen, hout, -⟩ := h.unmatched staff hunmatched
        exact ne_of_linkedIn hrow hlinked (hstored staff hseen) hout heq
    · exact htouch.employees ref href (hfree.not_holds ⟨row, hrow, hlink, rfl⟩ hmatched)

/-- **The parts of a batch** that may be created are synced as `LinksOrRefuses` says exactly when they are
free. -/
lemma syncParts_iff (h : Splits (indexEmployees world.employees) tenant batch parts)
    (hstored : ∀ staff ∈ batch, staff ∈ world.staff.rows)
    (hcreatable : assertCreatable (parts.toCreate allowCreate) = .ok ()) :
    LinksOrRefuses tenant false allowCreate batch world
      (syncParts provider tenant false allowCreate parts world) ↔ PartsFree allowCreate parts world := by
  have hagrees : Agrees world.staff.rows world.staff.rows parts.matched := fun _ _ _ => Iff.rfl
  have hwritten : ∀ {world' : World}, world.writes.length < world'.writes.length → world' ≠ world :=
    fun hlt heq => (lt_irrefl _ (heq ▸ hlt))
  unfold syncParts PartsFree
  simp only [hcreatable, Bool.false_eq_true, if_false]
  by_cases hfree : FreeFor world.staff.rows parts.matched
  · obtain ⟨linked, world', hrun, htouch, hwrites⟩ :=
      @linkMatched_of_free tenant _ _ _ (h.matchable hstored) hagrees hfree
    simp only [hrun, hfree, true_and, htouch.company]
    by_cases hnone : parts.toCreate allowCreate = []
    · simp only [hnone, if_true, true_or, or_true, iff_true]
      refine linksOneToOne_of_touches h hstored hfree ?_
      rw [hnone, List.map_nil, List.append_nil]
      exact htouch
    simp only [hnone, if_false, false_or]
    rcases haddress : companyAddress world.company with e | address
    · -- the address is read when the matched are linked
      simp only [Except.isOk, Except.toBool, Bool.false_eq_true, or_false]
      refine ⟨fun heq => by_contra fun hne => hwritten (hwrites hne) heq, fun hnil => ?_⟩
      rw [hnil] at hrun
      exact (Prod.mk.inj hrun).2.symm
    · simp only [Except.isOk, Except.toBool, or_true, iff_true]
      have hids : ∀ staff ∈ parts.toCreate allowCreate, staff.id ∈ world'.staff.rows.map Staff.id := by
        intro staff hstaff
        unfold Parts.toCreate at hstaff
        split at hstaff
        · rw [htouch.ids]
          exact List.mem_map_of_mem (hstored _ (h.unmatched staff hstaff).1)
        · exact absurd hstaff List.not_mem_nil
      obtain ⟨created, world'', hcreate, htouch'⟩ := @createUnmatched_of_creatable provider
        tenant address _ _ 1 (of_assertCreatable hcreatable) hids
      simp only [hcreate]
      refine linksOneToOne_of_touches h hstored hfree ?_
      simpa using htouch.trans htouch'
  · obtain ⟨e, world', hrun, hwrites⟩ :=
      @linkMatched_of_held tenant _ _ _ (h.matchable hstored) hagrees hfree
    simp only [hrun, hfree, false_and, iff_false]
    exact hwritten hwrites

/-- The sync only looks; or, if the batch splits and its unmatched may be created, its parts are free. -/
def SyncsFreely (tenant : String) (dryRun allowCreate : Bool) (batch : List Staff) (world : World) : Prop :=
  dryRun = true ∨ ∀ parts, partition (indexEmployees world.employees) tenant batch ⟨[], [], []⟩ = .ok parts →
    assertCreatable (parts.toCreate allowCreate) = .ok () → PartsFree allowCreate parts world

/-- **`sync_staff` links one to one or refuses first** exactly when no employee it would rename is held by a
person it does not relink before, and the employer's address is there for those it creates after others
were linked. -/
theorem sync_links_or_refuses_iff {staffMembers : Option (List Staff)}
    (hstored : ∀ members, staffMembers = some members → ∀ staff ∈ members, staff ∈ world.staff.rows) :
    LinksOrRefuses tenant dryRun allowCreate (staffMembers.getD (syncableStaff world)) world
        (syncStaff provider staffMembers tenant dryRun allowCreate world) ↔
      SyncsFreely tenant dryRun allowCreate (staffMembers.getD (syncableStaff world)) world := by
  have hstored : ∀ staff ∈ staffMembers.getD (syncableStaff world), staff ∈ world.staff.rows := by
    rcases staffMembers with _ | members
    · exact fun staff hstaff => (List.mem_filter.mp hstaff).1
    · exact hstored members rfl
  generalize hbatch : staffMembers.getD (syncableStaff world) = batch at hstored ⊢
  unfold syncStaff SyncsFreely
  simp only [hbatch]
  by_cases hnil : batch = []
  · subst hnil
    rw [if_pos rfl]
    refine iff_of_true ?_ (.inr fun parts hparts _ => ?_)
    · rcases dryRun with _ | _
      · exact ⟨fun _ h => absurd h List.not_mem_nil, world.staff.unique_links,
          fun row hrow _ => ⟨hrow, fun _ href _ => href⟩⟩
      · rfl
    · obtain rfl := Except.ok.inj hparts
      exact ⟨trivial, .inl rfl⟩
  rw [if_neg hnil]
  rcases hparts : partition (indexEmployees world.employees) tenant batch ⟨[], [], []⟩ with e | parts
  · exact iff_of_true rfl (.inr fun _ h => by cases h)
  have hsplits : Splits (indexEmployees world.employees) tenant batch parts :=
    @splits_of_partition _ _ [] _ ⟨[], [], []⟩ _ ⟨fun _ h => absurd h List.not_mem_nil,
      fun _ h => absurd h List.not_mem_nil, fun _ h => absurd h List.not_mem_nil, List.nodup_nil⟩ hparts
  rcases hcreatable : assertCreatable (parts.toCreate allowCreate) with e | u
  · refine iff_of_true ?_ (.inr fun other hother hok => ?_)
    · unfold syncParts
      simp only [hcreatable]
      rfl
    · obtain rfl := Except.ok.inj hother
      rw [hcreatable] at hok
      cases hok
  rcases dryRun with _ | _
  · refine (syncParts_iff hsplits hstored hcreatable).trans ⟨fun hfree => ?_, fun h => ?_⟩
    · refine .inr fun other hother _ => ?_
      obtain rfl := Except.ok.inj hother
      exact hfree
    · exact (h.resolve_left (by decide)) parts rfl hcreatable
  · refine iff_of_true ?_ (.inl rfl)
    unfold syncParts
    simp only [hcreatable, if_true]
    rfl

end Sync

/-! ## A person linked before -/

/-- Employees numbered after everybody's. -/
def numbered : Provider where
  create world spec :=
    { externalId := (world.staff.rows.filterMap Staff.xeroUserId).sum + 1
      firstName := spec.firstName
      lastName := spec.lastName
      email := some spec.email
      jobTitle := some spec.jobTitle }
  fresh world spec row hrow heq := by
    have hle := List.le_sum_of_mem (List.mem_filterMap.mpr ⟨row, hrow, heq⟩)
    simp only at hle
    omega

def person (id first : String) (employee : Option ℕ) (tenant : Option String) : Staff where
  id := id
  firstName := first
  lastName := "H"
  officeEmail := none
  payrollEmail := some (first ++ "@h")
  wageRate := 30
  baseWageRate := 25
  hours := List.replicate 7 (some 8)
  employmentStartDate := 0
  dateLeft := none
  xeroUserId := employee
  xeroTenantId := tenant

/-- Ann is linked with the employee whose mailbox in payroll is still the one Bob took over. -/
def annAndBob : World where
  staff :=
    { rows := [person "a" "ann" (some 1) (some "org"), person "b" "bob" none none]
      unique_ids := by decide +kernel
      unique_links := by decide +kernel }
  employees := [⟨1, "ann", "H", some "bob@h", none⟩]
  company := ⟨some "1 Quay", none, none, some "Nelson", some "7010", some "NZ"⟩
  writes := []

/-- Ann's employee is renamed after Bob, and the link is refused. -/
theorem linked_employee_renamed :
    (syncStaff numbered (some [person "b" "bob" none none]) "org" false true annAndBob).1 =
        .error (.database "Staff.xero_user_id") ∧
      (syncStaff numbered (some [person "b" "bob" none none]) "org" false true annAndBob).2.employees =
        [⟨1, "bob", "H", some "bob@h", none⟩] ∧
      ¬ LinksOrRefuses "org" false true [person "b" "bob" none none] annAndBob
        (syncStaff numbered (some [person "b" "bob" none none]) "org" false true annAndBob) := by
  have hrun : (syncStaff numbered (some [person "b" "bob" none none]) "org" false true annAndBob).1 =
      .error (.database "Staff.xero_user_id") := by decide +kernel
  have hnames : (syncStaff numbered (some [person "b" "bob" none none]) "org" false true annAndBob).2.employees =
      [⟨1, "bob", "H", some "bob@h", none⟩] := by decide +kernel
  refine ⟨hrun, hnames, fun h => ?_⟩
  generalize syncStaff numbered (some [person "b" "bob" none none]) "org" false true annAndBob = outcome
    at hrun hnames h
  obtain ⟨result, world'⟩ := outcome
  obtain rfl : result = _ := hrun
  obtain rfl : world' = annAndBob := h
  revert hnames
  decide +kernel

/-- The whole staff at once, where Bob has no employee and is given one. -/
theorem sync_links_or_refuses_with_a_creation :
    ∃ world : World, SyncsFreely "org" false true (syncableStaff world) world ∧
      LinksOrRefuses "org" false true (syncableStaff world) world
        (syncStaff numbered none "org" false true world) := by
  let world : World := { annAndBob with employees := [⟨1, "ann", "H", none, none⟩] }
  have hfree : SyncsFreely "org" false true (syncableStaff world) world := by
    refine .inr fun parts hparts _ => ?_
    have hmatched : parts.matched = [] := by
      have hdecided : (partition (indexEmployees world.employees) "org" (syncableStaff world) ⟨[], [], []⟩).map
          Parts.matched = .ok [] := by decide +kernel
      rw [hparts] at hdecided
      exact Except.ok.inj hdecided
    unfold PartsFree
    rw [hmatched]
    exact ⟨trivial, .inl rfl⟩
  exact ⟨world, hfree, (@sync_links_or_refuses_iff _ _ _ _ _ none (fun _ h => by cases h)).mpr hfree⟩

end EmployeeSync

end Docketworks
