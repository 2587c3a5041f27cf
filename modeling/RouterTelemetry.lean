import RouterTelemetry.Main
import RouterTelemetry.Proofs.Exchange
import RouterTelemetry.Proofs.FetchPlan
import RouterTelemetry.Proofs.RequestOrder
import RouterTelemetry.Proofs.Composition
import RouterTelemetry.Proofs.CookieSyntax
import RouterTelemetry.Proofs.SessionHistory
import RouterTelemetry.Proofs.Publication
import RouterTelemetry.Proofs.Replay
import RouterTelemetry.Proofs.ExporterHistory
import RouterTelemetry.Proofs.QuietCollection
import RouterTelemetry.Proofs.LastCycle
import RouterTelemetry.Proofs.KeyOrder
import RouterTelemetry.Proofs.Admission
import RouterTelemetry.Proofs.ProjectedKeys
import RouterTelemetry.Proofs.SeriesIdentity
import RouterTelemetry.Proofs.ExpositionLines
import RouterTelemetry.Proofs.PublishedLines
import RouterTelemetry.Proofs.LiteralSpelling
import RouterTelemetry.Proofs.QuotedText
import RouterTelemetry.Proofs.QuotedLiteral
import RouterTelemetry.Proofs.ExactScaling
import RouterTelemetry.Proofs.LiteralAgreement
import RouterTelemetry.Proofs.Interleaving
import RouterTelemetry.Proofs.CycleBlocks
import RouterTelemetry.Proofs.AnsweredText
import RouterTelemetry.Proofs.Results
import RouterTelemetry.Proofs.WrittenRoute
import RouterTelemetry.Proofs.OwnPath
import RouterTelemetry.Proofs.JsonTree
import RouterTelemetry.Proofs.StringReading
import RouterTelemetry.Proofs.HeadReading
import RouterTelemetry.Proofs.TreeReading
import RouterTelemetry.Proofs.TreeSkimming
import RouterTelemetry.Proofs.TreeFormats
import RouterTelemetry.Proofs.RecordMembers
import RouterTelemetry.Proofs.SoundTree
import RouterTelemetry.Proofs.LawfulPages
import RouterTelemetry.Proofs.MeasureTolerance
import RouterTelemetry.Proofs.SiteVisits
import RouterTelemetry.Proofs.PairedRuns
import RouterTelemetry.Proofs.Secrets
import RouterTelemetry.Proofs.MemberOrder
import RouterTelemetry.Proofs.TreeVariants
import RouterTelemetry.Proofs.NearestRounding
import RouterTelemetry.Proofs.NearestDouble
import RouterTelemetry.Proofs.ShortestDigits
import RouterTelemetry.Proofs.WrittenValue
import RouterTelemetry.Proofs.ExpositionReading
import RouterTelemetry.Proofs.RecoveredSeries
import RouterTelemetry.Proofs.QuantityAgreement
import RouterTelemetry.Proofs.WellShaped
import RouterTelemetry.Proofs.FiniteDoubles
import RouterTelemetry.Proofs.FiniteNumbers
import RouterTelemetry.Proofs.InputEnds
import RouterTelemetry.Proofs.MeasureOrigin
import RouterTelemetry.Proofs.ProjectedValues
import RouterTelemetry.Proofs.FiniteSamples
import RouterTelemetry.Proofs.SeparatedText
import RouterTelemetry.Proofs.EncodedLabels
import RouterTelemetry.Proofs.PercentForm
import RouterTelemetry.Proofs.ResolvedPath
import RouterTelemetry.Proofs.WrittenAddresses
import RouterTelemetry.Proofs.WrittenHosts
import RouterTelemetry.Proofs.NormalUrls
import RouterTelemetry.Proofs.WrittenUrls
import RouterTelemetry.Proofs.RequestAddresses
import RouterTelemetry.Proofs.ScriptRuns
import RouterTelemetry.Proofs.OwnSamples
import RouterTelemetry.Proofs.RequiredPages
import RouterTelemetry.Proofs.GroupsApart
import RouterTelemetry.Proofs.Figures
import RouterTelemetry.Proofs.FigureTraces
import RouterTelemetry.Proofs.LocalFigures
import RouterTelemetry.Proofs.ReportedFigures
import RouterTelemetry.Proofs.MeasureSigns
import RouterTelemetry.Proofs.LocalNetwork
import RouterTelemetry.Proofs.TriedProbes
import RouterTelemetry.Proofs.ReceivedChannels
import RouterTelemetry.Proofs.SkimmedReadings
import RouterTelemetry.Proofs.NamedValues
import RouterTelemetry.Proofs.WrittenVariables
import RouterTelemetry.Proofs.EffectiveSettings
import RouterTelemetry.Proofs.FileVariables
import RouterTelemetry.Proofs.SettingPlaces
import RouterTelemetry.Proofs.DistinctKeys
import RouterTelemetry.Proofs.SettingKeys
import RouterTelemetry.Proofs.StrongestSource
import RouterTelemetry.Proofs.NumberedVariables
import RouterTelemetry.Proofs.SettingForms
import RouterTelemetry.Proofs.OverridableSettings
import RouterTelemetry.Proofs.CarriedCookies
import RouterTelemetry.Proofs.PasswordForm
import RouterTelemetry.Proofs.SampleHistory
