import ConsumerChannel.Channel.FromFile
import ConsumerChannel.Log.Sinks
import ConsumerChannel.Proofs.Collapse
import ConsumerChannel.Proofs.Delivery
import ConsumerChannel.Proofs.Destruction
import ConsumerChannel.Proofs.Frames
import ConsumerChannel.Proofs.Stopping
import ConsumerChannel.Rehearsal.Drills
import ConsumerChannel.Rehearsal.Play
import ConsumerChannel.Rehearsal.TransportDrill
import ConsumerChannel.Rehearsal.Witness
import ConsumerChannel.Proofs.Conduct
import ConsumerChannel.Proofs.Silence
import ConsumerChannel.Proofs.Resumption
import ConsumerChannel.Proofs.Accounting
import ConsumerChannel.Proofs.Winding
import ConsumerChannel.Proofs.Contention
import ConsumerChannel.Proofs.Verdicts
import ConsumerChannel.Proofs.Custody
import ConsumerChannel.Proofs.WireText
import ConsumerChannel.Proofs.Subscribing
import ConsumerChannel.Proofs.Raising
import ConsumerChannel.Proofs.Secrecy
import ConsumerChannel.Proofs.Slashes
import ConsumerChannel.Proofs.Replies
import ConsumerChannel.Proofs.Halting
import ConsumerChannel.Proofs.Attribution
import ConsumerChannel.Proofs.Culprits
import ConsumerChannel.Proofs.Grammar
import ConsumerChannel.Proofs.Placeholders
import ConsumerChannel.Proofs.Masking
import ConsumerChannel.Proofs.NumericFields
import ConsumerChannel.Proofs.Waiting
import ConsumerChannel.Proofs.Grouping
import ConsumerChannel.Proofs.Payloads
import ConsumerChannel.Proofs.Overriding
import ConsumerChannel.Proofs.Committing
import ConsumerChannel.Proofs.Crediting
import ConsumerChannel.Proofs.LogLines
