import TradeWire.Record.Holder

/-!
# Ticks

Single price observations and what is known about them.
-/

namespace TradeWire

/-- Attributes of a price tick. -/
structure TickAttributes where
  canAutoExecute : Bool := false
  pastLimit : Bool := false
  preOpen : Bool := false

instance : Inhabited TickAttributes := ⟨{}⟩

instance : Holder TickAttributes where
  kind := "TickAttrib"
  attributes := [
    .of "can_auto_execute" (·.canAutoExecute) fun s v => { s with canAutoExecute := v },
    .of "past_limit" (·.pastLimit) fun s v => { s with pastLimit := v },
    .of "pre_open" (·.preOpen) fun s v => { s with preOpen := v }]

/-- Attributes of a bid and ask tick. -/
structure BidAskAttributes where
  bidPastLow : Bool := false
  askPastHigh : Bool := false

instance : Inhabited BidAskAttributes := ⟨{}⟩

instance : Holder BidAskAttributes where
  kind := "TickAttribBidAsk"
  attributes := [
    .of "bid_past_low" (·.bidPastLow) fun s v => { s with bidPastLow := v },
    .of "ask_past_high" (·.askPastHigh) fun s v => { s with askPastHigh := v }]

/-- Attributes of a trade tick. -/
structure LastAttributes where
  pastLimit : Bool := false
  unreported : Bool := false

instance : Inhabited LastAttributes := ⟨{}⟩

instance : Holder LastAttributes where
  kind := "TickAttribLast"
  attributes := [
    .of "past_limit" (·.pastLimit) fun s v => { s with pastLimit := v },
    .of "unreported" (·.unreported) fun s v => { s with unreported := v }]

/-- A past price. -/
structure HistoricalTick where
  time : Int := 0
  price : Number := Number.zero
  size : Int := 0

instance : Inhabited HistoricalTick := ⟨{}⟩

instance : Holder HistoricalTick where
  kind := "HistoricalTick"
  attributes := [
    .of "time" (·.time) fun s v => { s with time := v },
    .of "price" (·.price) fun s v => { s with price := v },
    .of "size" (·.size) fun s v => { s with size := v }]

/-- A past bid and ask. -/
structure HistoricalBidAsk where
  time : Int := 0
  attributes : BidAskAttributes := {}
  priceBid : Number := Number.zero
  priceAsk : Number := Number.zero
  sizeBid : Int := 0
  sizeAsk : Int := 0

instance : Inhabited HistoricalBidAsk := ⟨{}⟩

instance : Holder HistoricalBidAsk where
  kind := "HistoricalTickBidAsk"
  attributes := [
    .of "time" (·.time) fun s v => { s with time := v },
    .of "tick_attrib_bid_ask" (·.attributes) fun s v => { s with attributes := v },
    .of "price_bid" (·.priceBid) fun s v => { s with priceBid := v },
    .of "price_ask" (·.priceAsk) fun s v => { s with priceAsk := v },
    .of "size_bid" (·.sizeBid) fun s v => { s with sizeBid := v },
    .of "size_ask" (·.sizeAsk) fun s v => { s with sizeAsk := v }]

/-- A past trade. -/
structure HistoricalTrade where
  time : Int := 0
  attributes : LastAttributes := {}
  price : Number := Number.zero
  size : Int := 0
  exchange : Label := Label.blank
  specialConditions : Label := Label.blank

instance : Inhabited HistoricalTrade := ⟨{}⟩

instance : Holder HistoricalTrade where
  kind := "HistoricalTickLast"
  attributes := [
    .of "time" (·.time) fun s v => { s with time := v },
    .of "tick_attrib_last" (·.attributes) fun s v => { s with attributes := v },
    .of "price" (·.price) fun s v => { s with price := v },
    .of "size" (·.size) fun s v => { s with size := v },
    .of "exchange" (·.exchange) fun s v => { s with exchange := v },
    .of "special_conditions" (·.specialConditions) fun s v => { s with specialConditions := v }]

end TradeWire
