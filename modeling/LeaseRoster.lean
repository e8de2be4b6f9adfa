import LeaseRoster.Feed.Formats
import LeaseRoster.JsonText
import LeaseRoster.Main
import LeaseRoster.Schedule.Session
import LeaseRoster.Schedule.Watching
import LeaseRoster.Record.DurationParts
import LeaseRoster.Proofs.RegistrySurvivors
import LeaseRoster.Proofs.UpdateRuns
import LeaseRoster.Proofs.ConsumerRuns
import LeaseRoster.Proofs.PurgePositions
import LeaseRoster.Proofs.PurgedPastClients
import LeaseRoster.Proofs.ServerRuns
import LeaseRoster.Proofs.SplitSnapshots
import LeaseRoster.Proofs.FeedLines
import LeaseRoster.Proofs.AcceptedEpochs
import LeaseRoster.Proofs.PurgeTurns
import LeaseRoster.Proofs.StartupFaults
import LeaseRoster.Proofs.StaticAddresses
import LeaseRoster.Proofs.WatchedFile
import LeaseRoster.Proofs.RespelledRuns
import LeaseRoster.Proofs.PastClientTables
import LeaseRoster.Proofs.PurgedTables
import LeaseRoster.Proofs.EnrichedBatches
import LeaseRoster.Proofs.ExportRuns
import LeaseRoster.Proofs.PoolSizes
import LeaseRoster.Proofs.AddressTexts
import LeaseRoster.Proofs.CoherentPools
import LeaseRoster.Proofs.ClientLinks
import LeaseRoster.Proofs.FixedHosts
import LeaseRoster.Proofs.ConfiguredNames
import LeaseRoster.Proofs.ComparedAddresses
import LeaseRoster.Proofs.StoredOrder
import LeaseRoster.Proofs.ExactCounts
import LeaseRoster.Proofs.SummedDurations
import LeaseRoster.Proofs.BriefDurations
import LeaseRoster.Proofs.RegisteredFormats
import LeaseRoster.Proofs.RemainingTimes
import LeaseRoster.Proofs.SavingSteps
import LeaseRoster.Proofs.NetmaskTexts
import LeaseRoster.Proofs.CanonicalMacs
