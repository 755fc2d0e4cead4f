import AddonPicker.Config.Document
import AddonPicker.Json.Reader
import AddonPicker.Rehearsal.DialogScene
import AddonPicker.Rehearsal.PageScene
import AddonPicker.Rehearsal.RunScene
import AddonPicker.Rehearsal.SelectionScene
import AddonPicker.Resolution.Catalogue
import AddonPicker.Proofs.Resolution.Demand
import AddonPicker.Proofs.Resolution.FirstOccurrence
import AddonPicker.Proofs.Resolution.Ledger
import AddonPicker.Proofs.Resolution.Outcome
import AddonPicker.Proofs.Resolution.Closure
import AddonPicker.Proofs.Resolution.Backlinks
import AddonPicker.Proofs.Run.LifeCycle
import AddonPicker.Proofs.Dialog.Answer
import AddonPicker.Proofs.Dialog.Outcome
import AddonPicker.Proofs.Run.Abort
import AddonPicker.Proofs.Selection.Merged
import AddonPicker.Proofs.Dialog.Aside
import AddonPicker.Proofs.Resolution.Warnings
import AddonPicker.Proofs.Run.Informed
import AddonPicker.Proofs.Selection.Accounted
import AddonPicker.Proofs.Dialog.Opening
import AddonPicker.Proofs.Dialog.Aftermath
import AddonPicker.Proofs.Resolution.Order
import AddonPicker.Proofs.Resolution.Again
import AddonPicker.Proofs.Selection.Flags
import AddonPicker.Proofs.Dialog.Marked
import AddonPicker.Proofs.Dialog.Lasting
import AddonPicker.Proofs.Dialog.Guard
import AddonPicker.Proofs.Dialog.Commit
import AddonPicker.Proofs.Dialog.Heard
import AddonPicker.Proofs.Dialog.Copies
import AddonPicker.Proofs.Dialog.Cancelled
import AddonPicker.Proofs.Selection.Replay
import AddonPicker.Proofs.Dialog.Button
import AddonPicker.Proofs.Resolution.Distance
import AddonPicker.Proofs.Resolution.Exchange
import AddonPicker.Proofs.Run.Lookups
import AddonPicker.Proofs.Run.Credit
import AddonPicker.Proofs.Selection.Recording
import AddonPicker.Proofs.Selection.Requirers
import AddonPicker.Proofs.Dialog.Subject
import AddonPicker.Proofs.Dialog.Merges
import AddonPicker.Proofs.Dialog.Credit
import AddonPicker.Proofs.Dialog.Accounted
import AddonPicker.Proofs.Resolution.FirstDemand
import AddonPicker.Proofs.Selection.Presented
import AddonPicker.Proofs.Resolution.Ordinary
import AddonPicker.Proofs.Resolution.Termination
import AddonPicker.Proofs.Run.Failure
import AddonPicker.Proofs.Catalog.Fields
import AddonPicker.Proofs.Catalog.RoundTrip
import AddonPicker.Proofs.Text.Utf8
import AddonPicker.Proofs.Config.Loading
import AddonPicker.Proofs.Dialog.SearchBar
import AddonPicker.Proofs.Base64
import AddonPicker.Proofs.Dialog.Geometry
import AddonPicker.Proofs.Dialog.Closing
import AddonPicker.Proofs.Log.Line
import AddonPicker.Proofs.Run.AbortAnswer
