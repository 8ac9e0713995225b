import VCardKit.Config.Load
import VCardKit.Decimal.Numeral
import VCardKit.Html.Fragment
import VCardKit.Property.Construction
import VCardKit.Store.Reading
import VCardKit.TaggedValue.Slot
import VCardKit.Proofs.Text.Delimited
import VCardKit.Proofs.TaggedValue.TextForm
import VCardKit.Proofs.Parameters.Entries
import VCardKit.Proofs.Parameters.Multimap
import VCardKit.Proofs.Parameters.Run
import VCardKit.Proofs.Parameters.DeclaredType
import VCardKit.Proofs.Property.Agent
import VCardKit.Proofs.Property.TextForm
import VCardKit.Proofs.Registry.Standard
import VCardKit.Proofs.Reading.Outcomes
import VCardKit.Proofs.TaggedValue.Slot
import VCardKit.Proofs.Property.AnyContent
import VCardKit.Proofs.Property.Transfer
import VCardKit.Proofs.Property.Gender
import VCardKit.Proofs.Property.SingleText
import VCardKit.Proofs.Registry.Run
import VCardKit.Proofs.Text.Ascii
import VCardKit.Proofs.Registry.Dispatch
import VCardKit.Proofs.Property.ContentLine
import VCardKit.Proofs.Html.Element
import VCardKit.Proofs.Html.Reflow
import VCardKit.Proofs.Html.Hidden
import VCardKit.Proofs.Xml.Foreign
import VCardKit.Proofs.Property.FailedRead
import VCardKit.Proofs.Property.History
import VCardKit.Proofs.Property.GenderParts
import VCardKit.Proofs.Property.AgentRun
import VCardKit.Proofs.Reading.PageOutcomes
import VCardKit.Proofs.Property.WrittenParameters
import VCardKit.Proofs.Text.WireForm
import VCardKit.Proofs.Property.CardRequest
import VCardKit.Proofs.Reading.NestedCards
import VCardKit.Proofs.Text.Splitting
import VCardKit.Proofs.Parameters.Equality
import VCardKit.Proofs.Parameters.Validation
import VCardKit.Proofs.Parameters.Names
import VCardKit.Proofs.Property.Rank
import VCardKit.Proofs.Parameters.RankSetters
import VCardKit.Proofs.Property.PreferenceOrder
import VCardKit.Proofs.Html.Parts
import VCardKit.Proofs.Html.Seam
import VCardKit.Proofs.Xml.Growth
import VCardKit.Proofs.Property.XmlWriting
import VCardKit.Proofs.Config.Precedence
import VCardKit.Proofs.Config.Outcomes
