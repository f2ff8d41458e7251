import SampleData.SortedMap
import SampleData.Decimal.Text
import SampleData.Json.Reader
import SampleData.Json.Printer
import SampleData.Text.Pieces
import SampleData.Random.Keystream
import SampleData.Random.Seed
import SampleData.Random.Choice
import SampleData.Random.Real
import SampleData.Checksum
import SampleData.Mask
import SampleData.Slot
import SampleData.Locale.Profile
import SampleData.Store
import SampleData.Assets.Shipped
import SampleData.Text.Quoted
import SampleData.Text.WhiteSpace
import SampleData.Toml.Reader
import SampleData.Digest.Md5
import SampleData.Digest.Sha1
import SampleData.Digest.Sha256
import SampleData.Digest.Sha512
import SampleData.Calendar.Layout
import SampleData.Provider.Personal
import SampleData.Provider.Element
import SampleData.Provider.Address
import SampleData.Provider.Business
import SampleData.Provider.Datetime
import SampleData.Provider.Prose
import SampleData.Provider.Food
import SampleData.Provider.Science
import SampleData.Provider.Code
import SampleData.Provider.Internet
import SampleData.Provider.Numbers
import SampleData.Provider.Network
import SampleData.Provider.Transport
import SampleData.Provider.Development
import SampleData.Provider.Files
import SampleData.Provider.Hardware
import SampleData.Provider.ClothingSizes
import SampleData.Facade.Session
import SampleData.Main
import SampleData.Proofs.Store.History
import SampleData.Proofs.Random.Bounds
import SampleData.Proofs.Personal.StoredAge
import SampleData.Proofs.Facade.Calls
import SampleData.Proofs.Facade.Documents
import SampleData.Proofs.Simulation
import SampleData.Proofs.Provider.Alone
import SampleData.Proofs.Facade.Script
import SampleData.Proofs.Facade.Scripted
import SampleData.Proofs.Facade.Apart
import SampleData.Proofs.Facade.Exchanges
import SampleData.Proofs.Session.Refinement
import SampleData.Proofs.Random.Draws
import SampleData.Proofs.Success
import SampleData.Proofs.Decimal.Shortest
import SampleData.Proofs.Json.Numerals
import SampleData.Proofs.Json.Grammar
import SampleData.Proofs.Json.RoundTrip
import SampleData.Proofs.Personal.RecordAges
import SampleData.Proofs.Provider.Locales
import SampleData.Proofs.Facade.Runs
import SampleData.Proofs.Facade.Names
import SampleData.Proofs.Facade.Registration
import SampleData.Proofs.Provider.Supply
import SampleData.Proofs.Calendar.Layouts
import SampleData.Proofs.DigitTexts
import SampleData.Proofs.Provider.Admission
import SampleData.Proofs.Personal.Admission
import SampleData.Proofs.Provider.Equipped
import SampleData.Proofs.Assets.Complete
import SampleData.Proofs.Facade.Unfailing
import SampleData.Proofs.Checksum.CheckDigits
import SampleData.Proofs.Checksum.ErrorDetection
import SampleData.Proofs.Provider.Sieve
import SampleData.Proofs.Facade.Refusals
import SampleData.Proofs.Random.Reached
import SampleData.Proofs.Random.Streams
import SampleData.Proofs.Mask.Language
import SampleData.Proofs.Checksum.Groups
import SampleData.Proofs.Checksum.Identifiers
import SampleData.Proofs.Address.Templates
import SampleData.Proofs.Calendar.Drawn
import SampleData.Proofs.Locale.Transliteration
import SampleData.Proofs.Provider.Ranges
import SampleData.Proofs.Text.Fields
import SampleData.Proofs.Provider.Elements
import SampleData.Proofs.Random.Samples
import SampleData.Proofs.Answers
import SampleData.Proofs.Facade.Snippets
import SampleData.Proofs.Provider.Rejections
import SampleData.Proofs.Mask.Renaming
import SampleData.Proofs.Bundle.Readers
import SampleData.Proofs.Store.Walks
import SampleData.Proofs.Store.Containment
import SampleData.Proofs.Successive
import SampleData.Proofs.Facade.Entropy
import SampleData.Proofs.CommandLine.Words
import SampleData.Proofs.CommandLine.Configuration
import SampleData.Proofs.CommandLine.Printed
import SampleData.Proofs.Bundle.Paths
import SampleData.Proofs.Provider.BookNumbers
import SampleData.Proofs.Provider.Ratings
