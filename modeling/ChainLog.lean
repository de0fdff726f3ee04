import ChainLog.Chain.Lemmas
import ChainLog.Decimal.Reading
import ChainLog.Main
import ChainLog.Session.Run
import ChainLog.Uuid.Fresh
import ChainLog.Proofs.AppendHalves
import ChainLog.Proofs.LinkedChain
import ChainLog.Proofs.SoundStore
import ChainLog.Proofs.DraftAppend
import ChainLog.Proofs.Overwriting
import ChainLog.Proofs.Interleaving
import ChainLog.Proofs.ChainInvariant
import ChainLog.Proofs.Paging
import ChainLog.Proofs.WindowReading
import ChainLog.Proofs.ChainReading
import ChainLog.Proofs.Contention
import ChainLog.Proofs.AtomicAppend
import ChainLog.Proofs.ConcurrentReaders
import ChainLog.Proofs.ExactVerification
import ChainLog.Proofs.Ledger
import ChainLog.Proofs.LedgerOfStore
import ChainLog.Proofs.LedgerRefinement
import ChainLog.Proofs.Linearization
import ChainLog.Proofs.TipExtension
import ChainLog.Proofs.Ancestry
import ChainLog.Proofs.IndependentChains
import ChainLog.Proofs.Sealing
import ChainLog.Proofs.SealedReading
import ChainLog.Proofs.PayloadBlindness
import ChainLog.Proofs.AppendOnly
import ChainLog.Proofs.JustifiedRefusals
import ChainLog.Proofs.FinalForks
import ChainLog.Proofs.IncrementalSync
import ChainLog.Proofs.FailedDrafts
import ChainLog.Proofs.InvisiblePaging
import ChainLog.Proofs.CanonicalText
import ChainLog.Proofs.ChainOwners
import ChainLog.Proofs.ExactCalendar
import ChainLog.Proofs.TimestampText
import ChainLog.Proofs.FaithfulInspection
import ChainLog.Proofs.ExactTimestamps
import ChainLog.Proofs.IdentifierFields
import ChainLog.Proofs.TextOrder
import ChainLog.Proofs.IdentifierOrder
import ChainLog.Proofs.TimestampOrder
import ChainLog.Proofs.ListingOrder
import ChainLog.Proofs.NumeralGrammar
import ChainLog.Proofs.IdentifierSpellings
import ChainLog.Proofs.PageSizeSetting
import ChainLog.Proofs.AcceptedPageSizes
import ChainLog.Proofs.AuditTrail
import ChainLog.Proofs.Rounding
import ChainLog.Proofs.CountingUp
import ChainLog.Proofs.BoundedReading
