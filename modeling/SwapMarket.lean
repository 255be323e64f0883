import SwapMarket.Address
import SwapMarket.Api.Answer
import SwapMarket.Api.Call
import SwapMarket.Api.Market
import SwapMarket.Api.Route
import SwapMarket.Binary64.Basic
import SwapMarket.Binary64.Digits
import SwapMarket.Binary64.Wide
import SwapMarket.Board.Basic
import SwapMarket.Board.Build
import SwapMarket.Board.Producer
import SwapMarket.Board.SeedSync
import SwapMarket.Board.Snapshot
import SwapMarket.Board.Status
import SwapMarket.Calendar
import SwapMarket.Coin.Catalogue
import SwapMarket.Coin.Entry
import SwapMarket.Decimal.Basic
import SwapMarket.Decimal.Division
import SwapMarket.Decimal.Reader
import SwapMarket.Decimal.TenPlaces
import SwapMarket.Disk
import SwapMarket.Domain.Label
import SwapMarket.Domain.Mapping
import SwapMarket.Domain.Name
import SwapMarket.Domain.Punycode
import SwapMarket.Fault
import SwapMarket.Geo.Csv
import SwapMarket.Geo.Database
import SwapMarket.Item
import SwapMarket.Json.Basic
import SwapMarket.Json.Decode
import SwapMarket.Json.Printer
import SwapMarket.Json.Reader
import SwapMarket.Json.Token
import SwapMarket.Market.Amount
import SwapMarket.Market.DayPrices
import SwapMarket.Market.LastTrade
import SwapMarket.Market.Orderbook
import SwapMarket.Market.Quotes
import SwapMarket.Market.Record
import SwapMarket.Market.Summary
import SwapMarket.Market.Volume
import SwapMarket.Pair
import SwapMarket.Path
import SwapMarket.Proofs.Api.Market
import SwapMarket.Proofs.Api.Published
import SwapMarket.Proofs.Binary64.Shortest
import SwapMarket.Proofs.Board.Books
import SwapMarket.Proofs.Board.Calls
import SwapMarket.Proofs.Board.CarriedFigures
import SwapMarket.Proofs.Board.CoinPrices
import SwapMarket.Proofs.Board.Dependencies
import SwapMarket.Proofs.Board.Figures
import SwapMarket.Proofs.Board.Inputs
import SwapMarket.Proofs.Board.Interleaving
import SwapMarket.Proofs.Board.ItemFile
import SwapMarket.Proofs.Board.Loads
import SwapMarket.Proofs.Board.Reach
import SwapMarket.Proofs.Board.Refresh
import SwapMarket.Proofs.Board.Restart
import SwapMarket.Proofs.Board.Round
import SwapMarket.Proofs.Board.RoundOrder
import SwapMarket.Proofs.Board.ServiceFaults
import SwapMarket.Proofs.Board.SoundSnapshots
import SwapMarket.Proofs.Board.TimeRange
import SwapMarket.Proofs.Board.Timing
import SwapMarket.Proofs.Board.Tokens
import SwapMarket.Proofs.Board.Windows
import SwapMarket.Proofs.Coin.MarketOrder
import SwapMarket.Proofs.Coin.Orientation
import SwapMarket.Proofs.Coin.PriceIds
import SwapMarket.Proofs.Decimal.Canonical
import SwapMarket.Proofs.Decimal.InverseChange
import SwapMarket.Proofs.Decimal.InverseOrder
import SwapMarket.Proofs.Decimal.InverseTwice
import SwapMarket.Proofs.Decimal.Order
import SwapMarket.Proofs.Decimal.Product
import SwapMarket.Proofs.Decimal.Published
import SwapMarket.Proofs.Decimal.Quotient
import SwapMarket.Proofs.Decimal.Sum
import SwapMarket.Proofs.Decimal.Within
import SwapMarket.Proofs.Disk
import SwapMarket.Proofs.FileText
import SwapMarket.Proofs.Geo.Lookup
import SwapMarket.Proofs.Geo.MappedForm
import SwapMarket.Proofs.Greatest
import SwapMarket.Proofs.Json.Pretty
import SwapMarket.Proofs.Json.Scan
import SwapMarket.Proofs.Json.Sorted
import SwapMarket.Proofs.Market.Books
import SwapMarket.Proofs.Market.Candidates
import SwapMarket.Proofs.Market.CountedOnce
import SwapMarket.Proofs.Market.Counts
import SwapMarket.Proofs.Market.ExactFigures
import SwapMarket.Proofs.Market.Faultless
import SwapMarket.Proofs.Market.Figures
import SwapMarket.Proofs.Market.FlippedMarket
import SwapMarket.Proofs.Market.Inverse
import SwapMarket.Proofs.Market.InverseBook
import SwapMarket.Proofs.Market.InverseChange
import SwapMarket.Proofs.Market.InversePrice
import SwapMarket.Proofs.Market.InverseRange
import SwapMarket.Proofs.Market.InverseTwice
import SwapMarket.Proofs.Market.LastTrades
import SwapMarket.Proofs.Market.LatestSwap
import SwapMarket.Proofs.Market.OtherSide
import SwapMarket.Proofs.Market.PriceRange
import SwapMarket.Proofs.Market.ProjectedBook
import SwapMarket.Proofs.Market.Quotes
import SwapMarket.Proofs.Market.Record
import SwapMarket.Proofs.Market.RepeatedFigures
import SwapMarket.Proofs.Market.Sized
import SwapMarket.Proofs.Market.Totals
import SwapMarket.Proofs.Pair
import SwapMarket.Proofs.Pair.Variants
import SwapMarket.Proofs.Path
import SwapMarket.Proofs.Reference.CoinPrices
import SwapMarket.Proofs.Reference.Rates
import SwapMarket.Proofs.Replica.History
import SwapMarket.Proofs.Replica.LastFinished
import SwapMarket.Proofs.Replica.Parts
import SwapMarket.Proofs.Replica.Undisturbed
import SwapMarket.Proofs.Run
import SwapMarket.Proofs.Schedule.Depth
import SwapMarket.Proofs.Schedule.Levels
import SwapMarket.Proofs.Settings.Completed
import SwapMarket.Proofs.Settings.Lines
import SwapMarket.Proofs.Sorting
import SwapMarket.Proofs.Swap.Merge
import SwapMarket.Proofs.Swap.MergeParts
import SwapMarket.Proofs.Swap.Trade
import SwapMarket.Proofs.Table
import SwapMarket.Proofs.Text.Form
import SwapMarket.Proofs.Text.Trimmed
import SwapMarket.Reference.CoinPrices
import SwapMarket.Reference.Rates
import SwapMarket.Reference.SpotPrices
import SwapMarket.Replica.Query
import SwapMarket.Replica.Store
import SwapMarket.Replica.Value
import SwapMarket.Schedule.Due
import SwapMarket.Schedule.Levels
import SwapMarket.Service.Network
import SwapMarket.Service.Status
import SwapMarket.Settings.Basic
import SwapMarket.Settings.Environment
import SwapMarket.Settings.Shipped
import SwapMarket.Swap.Basic
import SwapMarket.Swap.Merge
import SwapMarket.Swap.Trade
import SwapMarket.Table
import SwapMarket.Text.Blank
import SwapMarket.Text.Composite
import SwapMarket.Text.Composition
import SwapMarket.Text.Cut
import SwapMarket.Text.Direction
import SwapMarket.Text.Integer
import SwapMarket.Text.Joining
import SwapMarket.Text.Mark
import SwapMarket.Text.Percent
import SwapMarket.Text.Runs
import SwapMarket.Text.UpperCase
import SwapMarket.Text.Utf8
import SwapMarket.Url.Basic
import SwapMarket.Url.Host
import SwapMarket.Url.Path
import SwapMarket.Url.Reader
