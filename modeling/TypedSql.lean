import TypedSql.Json.Printer
import TypedSql.Main
import TypedSql.Proofs.Catalog.Agreement
import TypedSql.Proofs.Catalog.MySql.Classification
import TypedSql.Proofs.Catalog.MySql.Completeness
import TypedSql.Proofs.Catalog.MySql.ForeignKeyRows
import TypedSql.Proofs.Catalog.MySql.IndexRows
import TypedSql.Proofs.Catalog.MySql.Isolation
import TypedSql.Proofs.Catalog.MySql.PairedKeys
import TypedSql.Proofs.Catalog.MySql.Questions
import TypedSql.Proofs.Catalog.MySql.RoundTrips
import TypedSql.Proofs.Catalog.MySql.TableOrder
import TypedSql.Proofs.Catalog.MySql.Uniqueness
import TypedSql.Proofs.Catalog.Preparations
import TypedSql.Proofs.Catalog.Soundness
import TypedSql.Proofs.Dialect
import TypedSql.Proofs.Directive.ColumnList
import TypedSql.Proofs.Directive.History
import TypedSql.Proofs.Directive.Registry
import TypedSql.Proofs.Generator.Coverage
import TypedSql.Proofs.Generator.Exposure
import TypedSql.Proofs.Generator.Interchange
import TypedSql.Proofs.Generator.Outcome
import TypedSql.Proofs.Generator.RegisteredDrivers
import TypedSql.Proofs.Markup.Attributes
import TypedSql.Proofs.Statement.Acceptance
import TypedSql.Proofs.Statement.Comments
import TypedSql.Proofs.Statement.Failure
import TypedSql.Proofs.Statement.Independence
import TypedSql.Proofs.Statement.LeadingNoise
import TypedSql.Proofs.Statement.Meaning
import TypedSql.Proofs.Statement.TableExpressions
import TypedSql.Proofs.Template.Identity
import TypedSql.Proofs.TypeMap
import TypedSql.Schema.Assertion
