import VCard.Card
import VCard.Cli
import VCard.Codec.Basic
import VCard.Codec.Html
import VCard.Codec.Json
import VCard.Codec.Prepare
import VCard.Codec.Table
import VCard.Codec.Text
import VCard.Codec.Xml
import VCard.Charset.Codec
import VCard.Charset.DoubleByte
import VCard.Charset.Asian
import VCard.Charset.Tables.Jis
import VCard.Charset.Tables.Jis2004
import VCard.Charset.Tables.Gbk
import VCard.Charset.Tables.Uhc
import VCard.Charset.Tables.Big5
import VCard.Charset.Escape
import VCard.Charset.Fault
import VCard.Charset.Idna
import VCard.Charset.Lookup
import VCard.Charset.Nameprep
import VCard.Charset.Punycode
import VCard.Charset.Registry
import VCard.Charset.SingleByte
import VCard.Charset.Unicode
import VCard.Collection
import VCard.ConfigFile
import VCard.ContentLine.Caret
import VCard.ContentLine.Fold
import VCard.ContentLine.Grammar
import VCard.ContentLine.Logical
import VCard.DataType
import VCard.DataUri
import VCard.Encoding.Base64
import VCard.Encoding.Percent
import VCard.Encoding.QuotedPrintable
import VCard.Encoding.Text
import VCard.Encoding.Utf8
import VCard.Error
import VCard.Geo
import VCard.HCard.Element
import VCard.HCard.Read
import VCard.Html.Entity
import VCard.Html.Names
import VCard.Html.Parse
import VCard.JCard.Read
import VCard.JCard.Values
import VCard.JCard.Write
import VCard.Json.Model
import VCard.Json.Read
import VCard.Json.Value
import VCard.Json.Write
import VCard.Main
import VCard.MediaType
import VCard.Number.Binary
import VCard.Number.Fixed
import VCard.Number.Read
import VCard.Number.Shortest
import VCard.Params
import VCard.Pattern
import VCard.Phone.Card
import VCard.Phone.Number
import VCard.Phone.Plan
import VCard.Phone.Plans.NorthAmerica
import VCard.Phone.Plans.LatinAmerica
import VCard.Phone.Plans.WesternEurope
import VCard.Phone.Plans.NorthernEurope
import VCard.Phone.Plans.EasternEurope
import VCard.Phone.Plans.Asia
import VCard.Phone.Plans.Africa
import VCard.Phone.Plans.Oceania
import VCard.Phone.Directory
import VCard.Settings
import VCard.Text.Blank
import VCard.Text.Case
import VCard.Text.Category
import VCard.Text.Digit
import VCard.Text.Escape
import VCard.Text.Literal
import VCard.Time.Civil
import VCard.Time.Offset
import VCard.Time.Partial
import VCard.Time.Zone
import VCard.Toml
import VCard.Toml.Value
import VCard.Url
import VCard.Url.Host
import VCard.Validation
import VCard.Vcf.Read
import VCard.Vcf.Write
import VCard.Version
import VCard.Warning
import VCard.XCard.Read
import VCard.XCard.Write
import VCard.Xml.Char
import VCard.Xml.Scan
import VCard.Xml.Declaration
import VCard.Xml.Entity
import VCard.Xml.Dtd
import VCard.Xml.Node
import VCard.Xml.Tag
import VCard.Xml.Parse
import VCard.Proofs.Params
import VCard.Proofs.OneOf
import VCard.Proofs.Text.Case
import VCard.Proofs.Params.Edit
import VCard.Proofs.HCard.Read
import VCard.Proofs.Html.Tree
import VCard.Proofs.Encoding.Base64
import VCard.Proofs.Vcf.Binary
import VCard.Proofs.Text.Escape
import VCard.Proofs.Codec.Structured
import VCard.Proofs.Codec.Index
import VCard.Proofs.Codec.Preference
import VCard.Proofs.ContentLine.Parse
import VCard.Proofs.ContentLine.Unfold
import VCard.Proofs.ContentLine.Codec
import VCard.Proofs.ContentLine.Folding
import VCard.Proofs.Vcf.Read
import VCard.Proofs.Vcf.Write
import VCard.Proofs.Vcf.RoundTrip
import VCard.Proofs.Vcf.Quiet
import VCard.Proofs.Vcf.Single
import VCard.Proofs.Vcf.Plain
import VCard.Proofs.Vcf.Labels
import VCard.Proofs.Vcf.Embedded
import VCard.Proofs.Vcf.Step
import VCard.Proofs.Vcf.Nesting
import VCard.Proofs.Vcf.Framing
import VCard.Proofs.Vcf.Writing
import VCard.Proofs.Vcf.LineLength
import VCard.Proofs.Encoding.QuotedPrintable
import VCard.Proofs.Vcf.QuotedPrintable
import VCard.Proofs.Json.Text
import VCard.Proofs.Codec.Names
import VCard.Proofs.JCard.RoundTrip
import VCard.Proofs.XCard.Grouping
import VCard.Proofs.XCard.RoundTrip
import VCard.Proofs.Time.Digits
import VCard.Proofs.Time.Offset
import VCard.Proofs.Time.Partial
import VCard.Proofs.Time.Calendar
import VCard.Proofs.Time.Stamp
import VCard.Proofs.Vcf.Temporal
