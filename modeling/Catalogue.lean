import Catalogue.Client
import Catalogue.Expr.Field
import Catalogue.Proofs.SessionLaw
import Catalogue.Search
import Catalogue.Settings.Load
import Catalogue.Proofs.SessionTrace
import Catalogue.Proofs.SessionSlice
import Catalogue.Proofs.CompileMeaning
import Catalogue.Proofs.FormReading
import Catalogue.Proofs.QueryRows
import Catalogue.Proofs.QueryReading
import Catalogue.Proofs.PlainPath
import Catalogue.Proofs.PredicateReading
import Catalogue.Proofs.QueryDecoding
import Catalogue.Proofs.SessionCancel
import Catalogue.Proofs.FilterRows
import Catalogue.Proofs.QueryMeaning
import Catalogue.Proofs.CompileGrammar
import Catalogue.Proofs.CompileShape
import Catalogue.Proofs.CompileRewriting
import Catalogue.Proofs.SessionBound
import Catalogue.Proofs.QueryEntries
import Catalogue.Proofs.SessionLimit
import Catalogue.Proofs.QueryFormat
import Catalogue.Proofs.JsonDocument
import Catalogue.Proofs.CodecRereading
import Catalogue.Proofs.RecordRereading
import Catalogue.Proofs.ResourceRereading
import Catalogue.Proofs.RecordProjection
import Catalogue.Proofs.ResourceProjection
import Catalogue.Proofs.PredicateMeaning
import Catalogue.Proofs.ExprAddress
import Catalogue.Proofs.CompileFaults
import Catalogue.Proofs.CompileBlame
import Catalogue.Proofs.TypedFilters
import Catalogue.Proofs.CamelCase
import Catalogue.Proofs.CompileSpelling
import Catalogue.Proofs.QueryCalls
import Catalogue.Proofs.SortKeys
import Catalogue.Proofs.SessionLazy
import Catalogue.Proofs.ClientAnswers
import Catalogue.Proofs.ClientFailures
import Catalogue.Proofs.UrlHost
import Catalogue.Proofs.UrlStem
import Catalogue.Proofs.BaseUrl
import Catalogue.Proofs.KeptReading
import Catalogue.Proofs.RecordInsertion
import Catalogue.Proofs.OrFalseReading
import Catalogue.Proofs.LayerMerging
import Catalogue.Proofs.SettingsSources
