import TradeWire.Account.Basic
import TradeWire.Account.Execution
import TradeWire.Catalog.AccountTag
import TradeWire.Catalog.Feature
import TradeWire.Catalog.Message
import TradeWire.Catalog.Notice
import TradeWire.Catalog.Tick
import TradeWire.Client.Basic
import TradeWire.Client.Command
import TradeWire.Client.Outcome
import TradeWire.Decimal.Double
import TradeWire.Decimal.Shortest
import TradeWire.Decimal.Written
import TradeWire.Delivery.Basic
import TradeWire.Delivery.Consumer
import TradeWire.Delivery.Receiver
import TradeWire.Event.Basic
import TradeWire.Instrument.Contract
import TradeWire.Instrument.Details
import TradeWire.Market.Bar
import TradeWire.Market.Depth
import TradeWire.Market.Scanner
import TradeWire.Market.Tick
import TradeWire.Message.Account
import TradeWire.Message.Basic
import TradeWire.Message.History
import TradeWire.Message.Instrument
import TradeWire.Message.Interpret
import TradeWire.Message.Market
import TradeWire.Message.Order
import TradeWire.Message.OrderReport
import TradeWire.Message.Service
import TradeWire.Order.Attributes
import TradeWire.Order.Basic
import TradeWire.Order.Condition
import TradeWire.Order.Strategy
import TradeWire.Record.Call
import TradeWire.Record.Catalogue
import TradeWire.Record.Datum
import TradeWire.Record.Holder
import TradeWire.Record.TagValue
import TradeWire.Request.Account
import TradeWire.Request.Basic
import TradeWire.Request.Call
import TradeWire.Request.Draft
import TradeWire.Request.History
import TradeWire.Request.Instrument
import TradeWire.Request.MarketData
import TradeWire.Request.OpenOrders
import TradeWire.Request.PlaceOrder
import TradeWire.Request.Plan
import TradeWire.Request.Reference
import TradeWire.Request.Service
import TradeWire.Session.Basic
import TradeWire.Session.Connection
import TradeWire.Session.Handshake
import TradeWire.Session.Settings
import TradeWire.Text.Blank
import TradeWire.Text.Digit
import TradeWire.Text.Numeral
import TradeWire.Text.Printable
import TradeWire.Text.Quoted
import TradeWire.Text.Uppercase
import TradeWire.Text.Utf8
import TradeWire.Wire.Field
import TradeWire.Wire.Frame
import TradeWire.Wire.Move
import TradeWire.Wire.Number
import TradeWire.Wire.Reading
import TradeWire.Proofs.Delivery.Reception
import TradeWire.Proofs.Delivery.Stopping
import TradeWire.Proofs.Decimal.Rounding
import TradeWire.Proofs.Wire.Doubles
import TradeWire.Proofs.Wire.Reading
import TradeWire.Proofs.Wire.Measuring
import TradeWire.Proofs.Message.Overflow
import TradeWire.Proofs.Message.Interpretation
import TradeWire.Proofs.Delivery.Consumption
import TradeWire.Proofs.Request.Plan
import TradeWire.Proofs.Order.Placing
import TradeWire.Proofs.Message.Telling
import TradeWire.Proofs.Delivery.Pipeline
import TradeWire.Proofs.Session.Handover
import TradeWire.Proofs.Wire.Payload
import TradeWire.Proofs.Request.Outcome
import TradeWire.Proofs.Request.Calls
import TradeWire.Proofs.Request.Arguments
import TradeWire.Proofs.Request.Growth
import TradeWire.Proofs.Request.Newer
import TradeWire.Proofs.Message.Locality
import TradeWire.Proofs.Order.Conditions
import TradeWire.Proofs.Order.Segments
import TradeWire.Proofs.Order.UniqueReading
import TradeWire.Proofs.Delivery.Callbacks
import TradeWire.Proofs.Message.Malformed
import TradeWire.Proofs.Message.Counts
import TradeWire.Proofs.Session.Reachable
import TradeWire.Proofs.Session.Independence
import TradeWire.Proofs.Session.Answer
import TradeWire.Proofs.Request.FirstMessage
import TradeWire.Proofs.Session.Connecting
import TradeWire.Proofs.Session.Version
import TradeWire.Proofs.Wire.Change
import TradeWire.Proofs.Wire.Splitting
import TradeWire.Proofs.Record.Apart
import TradeWire.Proofs.Request.Change
import TradeWire.Proofs.Order.Change
import TradeWire.Proofs.Request.OneText
import TradeWire.Proofs.Frame.Exactness
import TradeWire.Proofs.Request.IdField
import TradeWire.Proofs.Request.LeftOut
import TradeWire.Proofs.Request.Writable
import TradeWire.Proofs.Request.Settled
import TradeWire.Proofs.Session.Loading
import TradeWire.Proofs.Wire.Moves
