import BatchAdmin.Main
import BatchAdmin.Proofs.Engine.Overlap
import BatchAdmin.Proofs.Engine.Succession
import BatchAdmin.Proofs.Engine.Stopping
import BatchAdmin.Proofs.Engine.Overwriting
import BatchAdmin.Proofs.Engine.Schedule
import BatchAdmin.Proofs.Regex.Rows
import BatchAdmin.Proofs.Regex.Classes
import BatchAdmin.Proofs.Regex.Sets
import BatchAdmin.Proofs.Glob.Signs
import BatchAdmin.Proofs.Glob.Pieces
import BatchAdmin.Proofs.Glob.Writing
import BatchAdmin.Proofs.Glob.Compiling
import BatchAdmin.Proofs.Glob.Reading
import BatchAdmin.Proofs.Glob.Classes
import BatchAdmin.Proofs.Publishing.Calls
import BatchAdmin.Proofs.Publishing.Delivery
import BatchAdmin.Proofs.Publishing.Reports
import BatchAdmin.Proofs.Staging.Contents
import BatchAdmin.Proofs.Staging.Confinement
import BatchAdmin.Proofs.Staging.Intake
import BatchAdmin.Proofs.Staging.Steps
import BatchAdmin.Proofs.Staging.Races
import BatchAdmin.Proofs.Staging.Uploads
import BatchAdmin.Proofs.Web.Walks
import BatchAdmin.Proofs.Web.SelfLinks
import BatchAdmin.Proofs.Staging.Listing
import BatchAdmin.Proofs.Staging.Folders
import BatchAdmin.Proofs.Staging.Reuse
import BatchAdmin.Proofs.Staging.Sweeps
import BatchAdmin.Proofs.Staging.Leads
import BatchAdmin.Proofs.Staging.Deletes
import BatchAdmin.Proofs.Staging.Clearing
import BatchAdmin.Proofs.Staging.Traffic
import BatchAdmin.Proofs.Staging.Removals
import BatchAdmin.Proofs.Staging.Outcomes
import BatchAdmin.Proofs.Publishing.Daybook
import BatchAdmin.Proofs.Publishing.Workflow
import BatchAdmin.Proofs.Paging.Neighbours
import BatchAdmin.Proofs.Paging.Alignment
import BatchAdmin.Proofs.JobDesk.Views
import BatchAdmin.Proofs.JobDesk.Histories
import BatchAdmin.Proofs.Engine.Headway
import BatchAdmin.Proofs.Engine.LifeCycle
import BatchAdmin.Proofs.Engine.Openings
import BatchAdmin.Proofs.JobDesk.Decisions
import BatchAdmin.Proofs.Engine.RunNumbers
import BatchAdmin.Proofs.JobDesk.StopAll
import BatchAdmin.Proofs.Job.Parameters
import BatchAdmin.Proofs.Web.Launches
import BatchAdmin.Proofs.Web.FileLinks
import BatchAdmin.Proofs.Web.Spelling
import BatchAdmin.Proofs.Engine.Polling
import BatchAdmin.Proofs.Progress.Averages
import BatchAdmin.Proofs.Progress.Estimates
import BatchAdmin.Proofs.Progress.Statistics
import BatchAdmin.Proofs.Engine.Refusals
import BatchAdmin.Proofs.Web.Forms
import BatchAdmin.Proofs.Web.Uploads
import BatchAdmin.Proofs.Gateway.Events
import BatchAdmin.Proofs.Gateway.Orders
import BatchAdmin.Proofs.Web.Sessions
