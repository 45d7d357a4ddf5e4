import EventRules.Main
import EventRules.Registry.Codec
import EventRules.Proofs.Dispatch.Entity
import EventRules.Proofs.Dispatch.Group
import EventRules.Proofs.Dispatch.Isolation
import EventRules.Proofs.Dispatch.ReadBack
import EventRules.Proofs.Registry.Shelves
import EventRules.Proofs.Dispatch.Independence
import EventRules.Proofs.Dispatch.Resave
import EventRules.Proofs.Visibility.Hidden
import EventRules.Proofs.Dispatch.Offered
import EventRules.Proofs.Dispatch.Members
import EventRules.Proofs.Rule.Codec
import EventRules.Proofs.Condition.Missing
import EventRules.Proofs.Number.Written
import EventRules.Proofs.Json.Writer
import EventRules.Proofs.Trigger
import EventRules.Proofs.Calendar.Civil
import EventRules.Proofs.Calendar.Stamp
import EventRules.Proofs.Condition.Sameness
import EventRules.Proofs.Notify.Session
import EventRules.Proofs.Condition.Order
import EventRules.Proofs.Dispatch.Mentions
import EventRules.Proofs.Calendar.LocalDay
import EventRules.Proofs.Loading.Failures
import EventRules.Proofs.Registry.EditDistance
import EventRules.Proofs.Registry.Repeats
import EventRules.Proofs.Notify.EnvReference
import EventRules.Proofs.Value.Date
