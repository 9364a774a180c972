import Mathlib.Algebra.BigOperators.Group.Finset.Basic
import Mathlib.Data.Multiset.Sort
import Mathlib.Order.Monotone.Defs
import Mathlib.Data.Int.ConditionallyCompleteOrder
import Docketworks.Accounting.StatusReplay
import Docketworks.Core.Calendar
import Docketworks.Library.Table

/-!
# The sales pipeline report

`SalesPipelineService` of `apps/accounting/services/sales_pipeline_service.py`.

* `EventLog`, `LocalTime`, `LatestChoice` — the event table in the order of its timestamps, the local days,
  and what the database answers for the latest event of a job.
* `relevantJobIds`, `fetchEvents` — the narrowed fetch.  `everyEvent` — every event up to the end.
* `scoreboardJob`, `snapshotJob`, `velocityJob`, `funnelJob`, `trendJob` — what one job adds to a section.
* `buildScoreboard`, `buildSnapshot`, `buildVelocity`, `buildFunnel`, `buildTrend` — the sections.

**Design.**  Figures are exact.  Jobs are looked at one by one, and what they add is kept without their
order, so the jobs listed in the snapshot are too.  A warning is told apart from silence and not collected.
-/

namespace Docketworks.Accounting

open Library JobRecord

/-! ## What the report reads -/

/-- `CostSet.summary`. -/
structure PipelineSummary where
  hours : Option ℚ
  rev : Option ℚ
  deriving DecidableEq

/-- A job with the summaries of its latest quote and estimate. -/
structure PipelineJob where
  id : ℕ
  jobNumber : ℕ
  name : String
  companyName : String
  latestQuote : Option PipelineSummary
  latestEstimate : Option PipelineSummary
  deriving DecidableEq

/-- The event table, in the order of the timestamps. -/
structure EventLog where
  rows : List PipelineEvent
  ordered : rows.Pairwise fun a b => a.timestamp ≤ b.timestamp

/-- The local days of the business. -/
structure LocalTime where
  startOfDay : ℤ → ℤ
  endOfDay : ℤ → ℤ
  dateOf : ℤ → ℤ
  start_mono : Monotone startOfDay
  end_mono : Monotone endOfDay
  start_le_end : ∀ day, startOfDay day ≤ endOfDay day

/-- The first of the events by descending timestamp: any of the latest ones. -/
structure LatestChoice where
  pick : List PipelineEvent → Option PipelineEvent
  isSome_pick : ∀ events, (pick events).isSome = !events.isEmpty
  mem_pick : ∀ events event, pick events = some event → event ∈ events
  le_pick : ∀ events event, pick events = some event → ∀ other ∈ events, other.timestamp ≤ event.timestamp

/-- The arguments of the report. -/
structure PipelinePeriod where
  startDate : ℤ
  endDate : ℤ
  rollingWindowWeeks : ℕ
  trendWeeks : ℕ

/-- `PIPELINE_STATUSES`. -/
def isPipelineStatus (status : Option String) : Bool :=
  status = some "draft" || status = some "awaiting_approval"

/-- `APPROVED_STATUSES`. -/
def isApprovedStatus (status : Option String) : Bool :=
  status = some "approved" || status = some "in_progress"

/-- `RELEVANT_EVENT_TYPES`. -/
def isRelevantType : JobEventType → Bool
  | .statusChanged | .quoteAccepted | .jobRejected | .jobCreated => true
  | _ => false

/-- `(delta_after or {}).get("status")`. -/
def PipelineEvent.statusAfter (event : PipelineEvent) : Option String := event.status.join

/-! ## Days -/

def weekStart (day : ℤ) : ℤ := day - (day + 3) % 7

/-- `_working_days_between`, over a calendar of holidays. -/
def workingDaysBetween (isHoliday : ℤ → Bool) (start finish : ℤ) : ℕ :=
  ((List.range (finish - start + 1).toNat).map fun i : ℕ => start + (i : ℤ)).countP fun day =>
    isWeekday day && !isHoliday day

section Report

variable (time : LocalTime) (log : EventLog) (period : PipelinePeriod)

/-! ## Fetching -/

/-- The cut-off of the report. -/
def cutoff : ℤ := time.endOfDay period.endDate

/-- `_compute_fetch_start_dt`. -/
def computeFetchStart : ℤ :=
  time.startOfDay (min period.startDate (weekStart period.endDate - 7 * ((period.trendWeeks : ℤ) - 1)))

/-- The events of a kind, of a job, up to the cut-off. -/
def eventsOfJob (p : PipelineEvent → Bool) (job : ℕ) : List PipelineEvent :=
  log.rows.filter fun event =>
    p event && decide (event.job = some job) && decide (event.timestamp ≤ cutoff time period)

/-- The types the report consumes. -/
def isRelevant (event : PipelineEvent) : Bool := isRelevantType event.eventType

/-- The job has a relevant event from the fetch start to the cut-off. -/
def isInWindow (job : ℕ) : Bool :=
  (eventsOfJob time log period isRelevant job).any fun event =>
    computeFetchStart time period ≤ event.timestamp

/-- `_pipeline_stage_job_ids_as_of` names the job. -/
def isPipelineStageJob (latest : LatestChoice) (job : ℕ) : Bool :=
  (latest.pick (eventsOfJob time log period isRelevant job)).any fun event =>
    isPipelineStatus event.statusAfter

def jobIds (events : List PipelineEvent) : Finset ℕ := (events.filterMap PipelineEvent.job).toFinset

/-- What the sections are computed from: the jobs of `events_by_job`, and the events of each. -/
structure FetchedEvents where
  ids : Finset ℕ
  events : ℕ → List PipelineEvent

def relevantJobIds (latest : LatestChoice) : Finset ℕ :=
  (jobIds log.rows).filter fun job =>
    isInWindow time log period job || isPipelineStageJob time log period latest job

def fetchEvents (latest : LatestChoice) : FetchedEvents where
  ids := relevantJobIds time log period latest
  events := eventsOfJob time log period isRelevant

/-- Every event of every job up to the cut-off. -/
def everyEvent : FetchedEvents where
  ids := jobIds (log.rows.filter fun event => event.timestamp ≤ cutoff time period)
  events := eventsOfJob time log period fun _ => true

/-! ## Reading the events of a job -/

/-- A `status_changed` into approved work, or an accepted quote. -/
def approves (event : PipelineEvent) : Bool :=
  decide (event.eventType = .quoteAccepted) ||
    decide (event.eventType = .statusChanged) && isApprovedStatus event.statusAfter

def qualifyingApprovalEvent (events : List PipelineEvent) (periodStart periodEnd : ℤ) :
    Option PipelineEvent :=
  (events.takeWhile fun event => event.timestamp < periodStart || event.timestamp ≤ periodEnd).find?
    fun event => !decide (event.timestamp < periodStart) && approves event

/-- A `status_changed` to the status. -/
def changesTo (status : String) (event : PipelineEvent) : Bool :=
  decide (event.eventType = .statusChanged) && decide (event.statusAfter = some status)

def earliestStatusChangeTo (events : List PipelineEvent) (status : String) : Option PipelineEvent :=
  events.find? (changesTo status)

def earliestEventOfType (events : List PipelineEvent) (type : JobEventType) : Option PipelineEvent :=
  events.find? fun event => event.eventType = type

/-- `_had_event_before`, with what it asks of the event. -/
def hadEventBefore (events : List PipelineEvent) (p : PipelineEvent → Bool) (before : ℤ) : Bool :=
  (events.takeWhile fun event => event.timestamp < before).any p

def lastStatusChangeInto (events : List PipelineEvent) (status : String) (until_ : ℤ) :
    Option PipelineEvent :=
  ((events.takeWhile fun event => event.timestamp ≤ until_).filter (changesTo status)).getLast?

/-- The instant lies in the period. -/
def within (periodStart periodEnd : ℤ) (event : PipelineEvent) : Bool :=
  periodStart ≤ event.timestamp && event.timestamp ≤ periodEnd

/-- The earlier of two events, the first where they are equal. -/
def earlier : Option PipelineEvent → Option PipelineEvent → Option PipelineEvent
  | some a, some b => some (if b.timestamp < a.timestamp then b else a)
  | some a, none => some a
  | none, b => b

/-! ## Hours and values -/

/-- `_resolve_quote_hours`. -/
def PipelineJob.quoteHours (job : PipelineJob) : Option ℚ := job.latestQuote.bind PipelineSummary.hours

/-- `_resolve_estimate_hours`. -/
def PipelineJob.estimateHours (job : PipelineJob) : Option ℚ :=
  job.latestEstimate.bind PipelineSummary.hours

/-- `_resolve_hours_quote_first`. -/
def PipelineJob.hoursQuoteFirst (job : PipelineJob) : Option ℚ := job.quoteHours.or job.estimateHours

/-! ## What a job adds -/

/-- A job adds nothing to a section, is warned about, or is counted. -/
inductive Addition (α : Type) where
  | nothing
  | warned
  | counted (a : α)

/-- What is counted. -/
def Addition.toMultiset {α : Type} : Addition α → Multiset α
  | counted a => {a}
  | _ => 0

structure ScoredJob where
  hours : ℚ
  instantly : Bool
  directly : Bool
  deriving DecidableEq

/-- `INSTANT_APPROVAL_THRESHOLD`, in the unit of the timestamps. -/
def instantApprovalThreshold : ℤ := 3600000000

def scoreboardJob (jobs : Table PipelineJob.id) (events : List PipelineEvent) (id : ℕ) :
    Addition ScoredJob :=
  let periodStart := time.startOfDay period.startDate
  let periodEnd := time.endOfDay period.endDate
  match qualifyingApprovalEvent events periodStart periodEnd, jobs.find? id with
  | some approval, some job =>
      match job.hoursQuoteFirst with
      | none => .warned
      | some hours => .counted {
          hours
          instantly := (earliestEventOfType events .jobCreated).any fun creation =>
            approval.timestamp - creation.timestamp ≤ instantApprovalThreshold
          directly := !hadEventBefore events (changesTo "awaiting_approval") approval.timestamp &&
            !hadEventBefore events (fun event => event.eventType = .quoteAccepted) approval.timestamp }
  | _, _ => .nothing

structure SnapshotJob where
  status : Option String
  id : ℕ
  jobNumber : ℕ
  name : String
  companyName : String
  hours : ℚ
  value : ℚ
  daysInStage : ℤ
  deriving DecidableEq

def snapshotJob (jobs : Table PipelineJob.id) (events : List PipelineEvent) (id : ℕ) :
    Addition SnapshotJob :=
  match earliestEventOfType events .jobCreated with
  | none => .warned
  | some creation =>
      if creation.statusAfter = none then .warned
      else
        let replayed := replayStatusAsOf events (cutoff time period)
        match isPipelineStatus replayed, jobs.find? id with
        | true, some job =>
            match (if replayed = some "draft" then job.estimateHours else job.quoteHours) with
            | none => .warned
            | some hours =>
                let value := (if replayed = some "draft" then job.latestEstimate else job.latestQuote).bind
                  PipelineSummary.rev
                let entered := ((replayed.bind fun status =>
                  lastStatusChangeInto events status (cutoff time period)).getD creation).timestamp
                .counted {
                  status := replayed, id := job.id, jobNumber := job.jobNumber, name := job.name
                  companyName := job.companyName, hours, value := value.getD 0
                  daysInStage := max 0 (period.endDate - time.dateOf entered) }
        | _, _ => .nothing

/-- The samples of a job: days from the draft to the quote, to its resolution, and to the approval. -/
structure VelocitySamples where
  draftToQuote : Option ℤ
  quoteToResolved : Option ℤ
  createdToApproved : Option ℤ
  deriving DecidableEq

/-- The local days from one event to another, at least none. -/
def daysBetween (first last : PipelineEvent) : ℤ :=
  max (time.dateOf last.timestamp - time.dateOf first.timestamp) 0

/-- The days from the creation to the approval, if it comes in the period. -/
def createdToApproved (events : List PipelineEvent) (periodStart periodEnd : ℤ) : Option ℤ :=
  match earliestEventOfType events .jobCreated,
      earlier (earliestStatusChangeTo events "approved") (earliestEventOfType events .quoteAccepted) with
  | some creation, some approval =>
      if within periodStart periodEnd approval then some (daysBetween time creation approval) else none
  | _, _ => none

def velocityJob (events : List PipelineEvent) : Addition VelocitySamples :=
  let periodStart := time.startOfDay period.startDate
  let periodEnd := time.endOfDay period.endDate
  let creation := earliestEventOfType events .jobCreated
  let firstToAwaiting := earliestStatusChangeTo events "awaiting_approval"
  let firstApproved := earliestStatusChangeTo events "approved"
  let firstQuoteAccepted := earliestEventOfType events .quoteAccepted
  let firstRejected := earliestEventOfType events .jobRejected
  let relevantInPeriod := [firstToAwaiting, firstApproved, firstQuoteAccepted, firstRejected].any fun event =>
    event.any (within periodStart periodEnd)
  if relevantInPeriod && (creation.bind PipelineEvent.statusAfter).isNone then .warned
  else .counted {
    draftToQuote := match creation, firstToAwaiting with
      | some creation, some awaiting =>
          if within periodStart periodEnd awaiting then some (daysBetween time creation awaiting) else none
      | _, _ => none
    quoteToResolved := firstToAwaiting.bind fun awaiting =>
      let later (event : Option PipelineEvent) := event.filter fun event =>
        awaiting.timestamp < event.timestamp
      (earlier (earlier (later firstApproved) (later firstQuoteAccepted)) (later firstRejected)).bind
        fun resolution =>
          if within periodStart periodEnd resolution then some (daysBetween time awaiting resolution)
          else none
    createdToApproved := createdToApproved time events periodStart periodEnd }

inductive FunnelBucket where
  | accepted | rejected | waiting | direct | stillDraft
  deriving DecidableEq

def funnelJob (jobs : Table PipelineJob.id) (events : List PipelineEvent) (id : ℕ) :
    Addition (FunnelBucket × ℚ) :=
  let periodStart := time.startOfDay period.startDate
  let periodEnd := time.endOfDay period.endDate
  match (earliestEventOfType events .jobCreated).filter fun creation => creation.statusAfter.isSome with
  | none => if events.head?.any (within periodStart periodEnd) then .warned else .nothing
  | some creation =>
      match within periodStart periodEnd creation, jobs.find? id with
      | true, some job =>
          let had (p : PipelineEvent → Bool) := events.any fun event =>
            p event && decide (event.timestamp ≤ periodEnd)
          let hadQuoteAccepted := had fun event => event.eventType = .quoteAccepted
          let quoteStageReached := had (changesTo "awaiting_approval") || hadQuoteAccepted
          let hadApproval := hadQuoteAccepted || had fun event =>
            decide (event.eventType = .statusChanged) && isApprovedStatus event.statusAfter
          match (if quoteStageReached then job.quoteHours else job.estimateHours) with
          | none => .warned
          | some hours =>
              let replayed := replayStatusAsOf events periodEnd
              if had fun event => event.eventType = .jobRejected then .counted (.rejected, hours)
              else if hadApproval then .counted (if quoteStageReached then .accepted else .direct, hours)
              else if replayed = some "awaiting_approval" then .counted (.waiting, hours)
              else if replayed = some "draft" then .counted (.stillDraft, hours)
              else .nothing
      | _, _ => .nothing

/-- What a job adds to a week of the trend. -/
structure TrendSamples where
  approvedHours : ℚ
  rejectedHours : ℚ
  velocity : Option ℤ
  pipelineHours : ℚ
  deriving DecidableEq

def trendJob (jobs : Table PipelineJob.id) (events : List PipelineEvent) (id : ℕ) (weekStart weekEnd : ℤ) :
    TrendSamples :=
  let periodStart := time.startOfDay weekStart
  let periodEnd := time.endOfDay weekEnd
  let job := jobs.find? id
  let replayed := replayStatusAsOf events periodEnd
  { approvedHours := if (qualifyingApprovalEvent events periodStart periodEnd).isSome then
      (job.bind PipelineJob.hoursQuoteFirst).getD 0 else 0
    rejectedHours := if events.any fun event =>
        decide (event.eventType = .jobRejected) && within periodStart periodEnd event then
      (job.bind PipelineJob.hoursQuoteFirst).getD 0 else 0
    velocity := createdToApproved time events periodStart periodEnd
    pipelineHours := if ((earliestEventOfType events .jobCreated).bind PipelineEvent.statusAfter).any (· ≠ "")
        && isPipelineStatus replayed then
      (job.bind fun job => if replayed = some "draft" then job.estimateHours else job.quoteHours).getD 0
      else 0 }

end Report

/-! ## The sections -/

/-- A ratio, where there is something to divide by. -/
def ratioOver (numerator denominator : ℚ) : Option ℚ :=
  if 0 < denominator then some (numerator / denominator) else none

inductive SizeBucket where
  | small | medium | large
  deriving DecidableEq

def sizeBucketFor (hours : ℚ) : SizeBucket :=
  if 0 ≤ hours && hours < 8 then .small
  else if 8 ≤ hours && hours < 40 then .medium
  else .large

structure BucketFigures where
  count : ℕ
  hours : ℚ
  hoursPerWorkingDay : Option ℚ
  deriving DecidableEq

/-- `_build_scoreboard`. -/
structure Scoreboard where
  approvedHoursTotal : ℚ
  approvedHoursPerWorkingDay : Option ℚ
  approvedJobsCount : ℕ
  directHours : ℚ
  directJobsCount : ℕ
  workingDays : ℕ
  targetHoursForPeriod : ℚ
  paceVsTarget : Option ℚ
  bySizeBucket : List (SizeBucket × BucketFigures × Option ℚ)
  byFunnelPath : List (Bool × BucketFigures)
  deriving DecidableEq

structure StageFigures where
  count : ℕ
  hoursTotal : ℚ
  valueTotal : ℚ
  avgDaysInStage : ℚ
  jobs : Multiset SnapshotJob
  deriving DecidableEq

/-- `_build_snapshot`. -/
structure Snapshot where
  draft : StageFigures
  awaitingApproval : StageFigures
  deriving DecidableEq

/-- `_stats`. -/
structure VelocityStats where
  medianDays : Option ℚ
  p80Days : Option ℤ
  sampleSize : ℕ
  deriving DecidableEq

/-- `_build_velocity`. -/
structure Velocity where
  draftToQuoteSent : VelocityStats
  quoteSentToResolved : VelocityStats
  createdToApproved : VelocityStats
  deriving DecidableEq

structure TrendWeek where
  weekStart : ℤ
  weekEnd : ℤ
  approvedHours : ℚ
  approvedHoursPerWorkingDay : ℚ
  acceptanceRateByHours : Option ℚ
  pipelineHoursAtWeekEnd : ℚ
  medianVelocityDays : Option ℚ
  workingDays : ℕ
  deriving DecidableEq

/-- `_build_trend`. -/
structure Trend where
  weeks : List TrendWeek
  rollingAverage : List (ℤ × ℚ)
  deriving DecidableEq

structure PipelineReport where
  scoreboard : Scoreboard
  pipelineSnapshot : Snapshot
  velocity : Velocity
  conversionFunnel : List (FunnelBucket × ℕ × ℚ)
  trend : Trend
  deriving DecidableEq

def median (days : Multiset ℤ) : Option ℚ :=
  let ordered := days.sort (· ≤ ·)
  let middle := ordered.length / 2
  if ordered.length % 2 = 1 then ordered[middle]?.map fun day => (day : ℚ)
  else do
    let low ← ordered[middle - 1]?
    let high ← ordered[middle]?
    some (((low + high : ℤ) : ℚ) / 2)

/-- `_stats`: the index is `0.8 * (n - 1)`, rounded. -/
def stats (days : Multiset ℤ) : VelocityStats where
  medianDays := median days
  p80Days := (days.sort (· ≤ ·))[min (days.card - 1) ((8 * (days.card - 1) + 5) / 10)]?
  sampleSize := days.card

section Sections

variable (time : LocalTime) (isHoliday : ℤ → Bool) (target : ℚ) (period : PipelinePeriod)
  (jobs : Table PipelineJob.id) (fetched : FetchedEvents)

/-- What the jobs add, all together. -/
def additions {α : Type} (add : List PipelineEvent → ℕ → Addition α) : Multiset α :=
  ∑ id ∈ fetched.ids, (add (fetched.events id) id).toMultiset

def bucketFigures (rows : Multiset ScoredJob) (workingDays : ℕ) : BucketFigures where
  count := rows.card
  hours := (rows.map ScoredJob.hours).sum
  hoursPerWorkingDay := ratioOver (rows.map ScoredJob.hours).sum workingDays

def buildScoreboard : Scoreboard :=
  let rows := additions fetched (scoreboardJob time period jobs)
  let total := (rows.map ScoredJob.hours).sum
  let direct := rows.filter fun row => row.directly
  let workingDays := workingDaysBetween isHoliday period.startDate period.endDate
  { approvedHoursTotal := total
    approvedHoursPerWorkingDay := ratioOver total workingDays
    approvedJobsCount := rows.card
    directHours := (direct.map ScoredJob.hours).sum
    directJobsCount := direct.card
    workingDays
    targetHoursForPeriod := target * workingDays
    paceVsTarget := ratioOver total (target * workingDays)
    bySizeBucket := [SizeBucket.small, .medium, .large].map fun bucket =>
      let figures := bucketFigures (rows.filter fun row => sizeBucketFor row.hours = bucket) workingDays
      (bucket, figures, ratioOver figures.hours total)
    byFunnelPath := [true, false].map fun path =>
      (path, bucketFigures (rows.filter fun row => row.instantly = path) workingDays) }

def stageFigures (rows : Multiset SnapshotJob) (status : String) : StageFigures :=
  let rows := rows.filter fun row => row.status = some status
  { count := rows.card
    hoursTotal := (rows.map SnapshotJob.hours).sum
    valueTotal := (rows.map SnapshotJob.value).sum
    avgDaysInStage := ((rows.map SnapshotJob.daysInStage).sum : ℚ) / rows.card
    jobs := rows }

def buildSnapshot : Snapshot :=
  let rows := additions fetched (snapshotJob time period jobs)
  ⟨stageFigures rows "draft", stageFigures rows "awaiting_approval"⟩

def velocitySamples (column : VelocitySamples → Option ℤ) (events : List PipelineEvent) : Multiset ℤ :=
  match velocityJob time period events with
  | .counted samples => (column samples).elim 0 fun days => {days}
  | _ => 0

def buildVelocity : Velocity :=
  let samples (column : VelocitySamples → Option ℤ) : Multiset ℤ :=
    ∑ id ∈ fetched.ids, velocitySamples time period column (fetched.events id)
  { draftToQuoteSent := stats (samples VelocitySamples.draftToQuote)
    quoteSentToResolved := stats (samples VelocitySamples.quoteToResolved)
    createdToApproved := stats (samples VelocitySamples.createdToApproved) }

def buildFunnel : List (FunnelBucket × ℕ × ℚ) :=
  let rows := additions fetched (funnelJob time period jobs)
  [FunnelBucket.accepted, .rejected, .waiting, .direct, .stillDraft].map fun bucket =>
    let rows := rows.filter fun row => row.1 = bucket
    (bucket, rows.card, (rows.map Prod.snd).sum)

def buildTrendWeek (weekStart weekEnd : ℤ) : TrendWeek :=
  let total (column : TrendSamples → ℚ) : ℚ :=
    ∑ id ∈ fetched.ids, column (trendJob time jobs (fetched.events id) id weekStart weekEnd)
  let velocity : Multiset ℤ := ∑ id ∈ fetched.ids,
    ((trendJob time jobs (fetched.events id) id weekStart weekEnd).velocity.elim 0 fun days => {days})
  let approved := total TrendSamples.approvedHours
  let workingDays := workingDaysBetween isHoliday weekStart weekEnd
  { weekStart, weekEnd
    approvedHours := approved
    approvedHoursPerWorkingDay := (ratioOver approved workingDays).getD 0
    acceptanceRateByHours := ratioOver approved (approved + total TrendSamples.rejectedHours)
    pipelineHoursAtWeekEnd := total TrendSamples.pipelineHours
    medianVelocityDays := median velocity
    workingDays }

def trendWeekStart (i : ℕ) : ℤ := weekStart period.endDate - 7 * ((period.trendWeeks : ℤ) - 1 - i)

def buildTrend : Trend :=
  let weeks := (List.range period.trendWeeks).map fun i =>
    buildTrendWeek time isHoliday jobs fetched (trendWeekStart period i)
      (min (trendWeekStart period i + 6) period.endDate)
  { weeks
    rollingAverage := weeks.mapIdx fun i week =>
      let window := ((weeks.map TrendWeek.approvedHours).take (i + 1)).drop (i + 1 - period.rollingWindowWeeks)
      (week.weekStart, window.sum / window.length) }

/-- The sections of `get_report`. -/
def getReport : PipelineReport where
  scoreboard := buildScoreboard time isHoliday target period jobs fetched
  pipelineSnapshot := buildSnapshot time period jobs fetched
  velocity := buildVelocity time period fetched
  conversionFunnel := buildFunnel time period jobs fetched
  trend := buildTrend time isHoliday period jobs fetched

end Sections

end Docketworks.Accounting
