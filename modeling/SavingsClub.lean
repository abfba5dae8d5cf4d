import SavingsClub.Client
import SavingsClub.Database.Batch
import SavingsClub.Database.Records
import SavingsClub.Http.Service
import SavingsClub.Json.Writer
import SavingsClub.Locks
import SavingsClub.Memory
import SavingsClub.Proofs.Custody
import SavingsClub.Proofs.Lockstep
import SavingsClub.Proofs.Record
import SavingsClub.Proofs.Entry
import SavingsClub.Proofs.Chronicle
import SavingsClub.Proofs.Audit
import SavingsClub.Proofs.Fairness
import SavingsClub.Proofs.Replay
import SavingsClub.Proofs.Commit
import SavingsClub.Proofs.Authority
import SavingsClub.Proofs.Separation
import SavingsClub.Proofs.Escrow
import SavingsClub.Proofs.Timing
import SavingsClub.Proofs.Booking
import SavingsClub.Proofs.Journal
import SavingsClub.Proofs.Integrity
import SavingsClub.Proofs.Bookkeeping
import SavingsClub.Proofs.Recordkeeping
import SavingsClub.Proofs.Contribution
import SavingsClub.Proofs.Closing
import SavingsClub.Proofs.Founding
import SavingsClub.Proofs.Order
import SavingsClub.Proofs.Batching
import SavingsClub.Proofs.Exclusion
import SavingsClub.Proofs.Supply
import SavingsClub.Proofs.Identity
import SavingsClub.Proofs.Admission
import SavingsClub.Proofs.Spelling
import SavingsClub.Proofs.Refinement
