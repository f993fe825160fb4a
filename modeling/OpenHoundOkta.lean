import OpenHoundOkta.Library.Generators
import OpenHoundOkta.Library.SortedSets
import OpenHoundOkta.Library.PythonText
import OpenHoundOkta.Library.Json
import OpenHoundOkta.Library.Urls
import OpenHoundOkta.Library.WrittenUrls
import OpenHoundOkta.Library.ReadUrls
import OpenHoundOkta.Tables
import OpenHoundOkta.OpenGraph
import OpenHoundOkta.Transforms
import OpenHoundOkta.Lookup
import OpenHoundOkta.RoleAssignments
import OpenHoundOkta.RoleEdges
import OpenHoundOkta.RoleTargets
import OpenHoundOkta.RoleScope
import OpenHoundOkta.RoleMonotonicity
import OpenHoundOkta.AdminTargets
import OpenHoundOkta.ResourceSets
import OpenHoundOkta.ResourceReferences
import OpenHoundOkta.ResourceLinks
import OpenHoundOkta.ResourceForms
import OpenHoundOkta.OrnConfinement
import OpenHoundOkta.SamlRoutes
import OpenHoundOkta.Library.KeyedRows
import OpenHoundOkta.SamlServiceProviders
import OpenHoundOkta.AccountBinding
import OpenHoundOkta.BearerAuth
import OpenHoundOkta.BearerRotation
import OpenHoundOkta.TokenFreshness
import OpenHoundOkta.RefreshCooldown
import OpenHoundOkta.OutagePause
import OpenHoundOkta.Library.Holders
import OpenHoundOkta.SendRequest
import OpenHoundOkta.SlotConservation
import OpenHoundOkta.FamilyPacing
import OpenHoundOkta.WindowBudget
import OpenHoundOkta.Library.PythonNumbers
import OpenHoundOkta.Library.DigitTexts
import OpenHoundOkta.Library.EmailDates
import OpenHoundOkta.FloatThrottle
import OpenHoundOkta.HeaderPoisoning
import OpenHoundOkta.HeaderOrder
import OpenHoundOkta.RoleTotality
import OpenHoundOkta.AppSettings
import OpenHoundOkta.FactorStreams
import OpenHoundOkta.FactorCoverage
import OpenHoundOkta.SamlApplicationRows
import OpenHoundOkta.Library.PrefixCodes
import OpenHoundOkta.Library.JsonStrings
import OpenHoundOkta.SamlInboundRows
import OpenHoundOkta.SamlReferences
import OpenHoundOkta.TrustedIssuerIdentity
import OpenHoundOkta.Library.Accumulators
import OpenHoundOkta.Library.RecencyCaches
import OpenHoundOkta.UserContextCache
import OpenHoundOkta.AccessDeniedBreaker
import OpenHoundOkta.ApplicationGrants
import OpenHoundOkta.GroupListing
import OpenHoundOkta.TelemetryBudget
import OpenHoundOkta.HybridTargets
import OpenHoundOkta.HybridTargetValues
import OpenHoundOkta.Library.CanonicalJson
import OpenHoundOkta.GroupAssignments
import OpenHoundOkta.TelemetryMeasurements
import OpenHoundOkta.TelemetryTotals
import OpenHoundOkta.TelemetryConservation
import OpenHoundOkta.ExportQueue
import OpenHoundOkta.TelemetryCategories
import OpenHoundOkta.ExportCompleteness
import OpenHoundOkta.ExportOrder
import OpenHoundOkta.ExportBudget
import OpenHoundOkta.InboundIdentity
import OpenHoundOkta.SamlAssertions
import OpenHoundOkta.AssertionSoundness
import OpenHoundOkta.BaseUrlOrigin
import OpenHoundOkta.BaseUrlRequests
import OpenHoundOkta.RetryDelay
import OpenHoundOkta.RetryLoop
import OpenHoundOkta.SendTurns
import OpenHoundOkta.RetryOutcomes
import OpenHoundOkta.RetryTermination
import OpenHoundOkta.PacedCalls
import OpenHoundOkta.RetryReports
import OpenHoundOkta.TransientBound
import OpenHoundOkta.Library.StreamLoops
import OpenHoundOkta.OinValidators
import OpenHoundOkta.MiroRoutes
import OpenHoundOkta.Library.FormatStrings
import OpenHoundOkta.RouteProfiles
import OpenHoundOkta.OinRouteCatalog
import OpenHoundOkta.DerivedRoutes
import OpenHoundOkta.Library.Histograms
import OpenHoundOkta.LatencyQuantiles
import OpenHoundOkta.ClaimMappingLookup
import OpenHoundOkta.TelemetryRecords
import OpenHoundOkta.TelemetryBoundary
import OpenHoundOkta.EntraEnrichment
import OpenHoundOkta.Library.Globs
import OpenHoundOkta.EndpointFamilies
import OpenHoundOkta.RequestTemplates
import OpenHoundOkta.AssignmentEdges
import OpenHoundOkta.TrimmedAssignments
import OpenHoundOkta.Library.TypedGraphs
import OpenHoundOkta.SamlGraph
import OpenHoundOkta.SamlCompleteness
import OpenHoundOkta.SamlNames
import OpenHoundOkta.CollectorStreams
import OpenHoundOkta.StreamModels
import OpenHoundOkta.CollectorFailures
import OpenHoundOkta.RoleCollection
import OpenHoundOkta.SecretRedaction
import OpenHoundOkta.OrganizationContainment
import OpenHoundOkta.ParentColumns
import OpenHoundOkta.ObjectGuids
