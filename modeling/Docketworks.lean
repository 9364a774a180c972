import Docketworks.Accounting.EventReplay
import Docketworks.Accounting.FinishJob
import Docketworks.Accounting.FullyInvoiced
import Docketworks.Accounting.InvoiceMirrorRuns
import Docketworks.Accounting.KpiDays
import Docketworks.Accounting.ReconciliationSums
import Docketworks.Accounting.SalesForecast
import Docketworks.Accounting.WipRuns
import Docketworks.Accounting.PipelineFetch
import Docketworks.Company.IdentityGroups
import Docketworks.Crm.CallsOnJobs
import Docketworks.Crm.NumberOwnership
import Docketworks.Frontend.AutosaveRuns
import Docketworks.Frontend.DraftRuns
import Docketworks.Frontend.OptimisticRuns
import Docketworks.Job.CostSummary
import Docketworks.Job.DeltaRejections
import Docketworks.Job.JobDeletion
import Docketworks.Job.LabourRuns
import Docketworks.Job.LatestRuns
import Docketworks.Job.PassRuns
import Docketworks.Job.QuoteRevisions
import Docketworks.Kanban.FeedRuns
import Docketworks.Kanban.ReorderRuns
import Docketworks.Payroll.PayTerms
import Docketworks.Payroll.PostingStatus
import Docketworks.Payroll.RunDocuments
import Docketworks.Payroll.StaffLinks
import Docketworks.Purchasing.IssueRuns
import Docketworks.Purchasing.OrderMirrorRuns
import Docketworks.Purchasing.OrderStatus
import Docketworks.Purchasing.ReversalRuns
import Docketworks.Purchasing.StocktakePosting
import Docketworks.Purchasing.SupplierRuns
import Docketworks.Purchasing.WholeReceipts
import Docketworks.Quoting.CatalogueRuns
import Docketworks.Quoting.MappingRuns
import Docketworks.Timesheet.BreakTimes
import Docketworks.Timesheet.DayLockRuns
import Docketworks.Timesheet.EmploymentDays
import Docketworks.Timesheet.SequenceRuns
import Docketworks.Timesheet.UnallocatedWindows
import Docketworks.Timesheet.WorkingPattern
import Docketworks.Xero.BatchSync
import Docketworks.Xero.MergeRuns
import Docketworks.Xero.StockPushRuns
import Docketworks.Xero.SyncRuns
import Docketworks.Library.FreePoints
import Docketworks.Timesheet.Placement
import Docketworks.Timesheet.StepOver
import Docketworks.Timesheet.SubmittedRows
import Docketworks.Library.Lease
import Docketworks.Xero.SyncLock
import Docketworks.Xero.SyncLockRuns
import Docketworks.Library.Joined
import Docketworks.Job.ChecksumInput
import Docketworks.Core.Numerals
import Docketworks.Job.UpToDate
import Docketworks.Quoting.ScraperRuns
import Docketworks.Library.Mirroring
import Docketworks.Xero.DocumentLines
import Docketworks.Payroll.LeaveMatched
import Docketworks.Timesheet.FillFigures
import Docketworks.Timesheet.EntrySplit
import Docketworks.Job.UndoChange
import Docketworks.Kanban.Rebalance
import Docketworks.Purchasing.InventoryAudit
import Docketworks.Purchasing.LedgerHistory
import Docketworks.Xero.MirrorHistory
