import TradeWire.Record.Holder

/-!
# Market depth

The exchanges that offer market depth, the parts of a composite exchange, and price steps.
-/

namespace TradeWire

/-- An exchange that offers market depth for a kind of security. -/
structure DepthExchange where
  exchange : Label := Label.blank
  secType : Label := Label.blank
  listingExchange : Label := Label.blank
  serviceDataType : Label := Label.blank
  aggregateGroup : Int := unsetInt

instance : Inhabited DepthExchange := ⟨{}⟩

instance : Holder DepthExchange where
  kind := "DepthMktDataDescription"
  attributes := [
    .of "exchange" (·.exchange) fun s v => { s with exchange := v },
    .of "sec_type" (·.secType) fun s v => { s with secType := v },
    .of "listing_exch" (·.listingExchange) fun s v => { s with listingExchange := v },
    .of "service_data_type" (·.serviceDataType) fun s v => { s with serviceDataType := v },
    .of "agg_group" (·.aggregateGroup) fun s v => { s with aggregateGroup := v }]

/-- An exchange within a composite exchange, by its bit in a mask. -/
structure SmartComponent where
  bitNumber : Int := 0
  exchange : Label := Label.blank
  exchangeLetter : Label := Label.blank

instance : Inhabited SmartComponent := ⟨{}⟩

instance : Holder SmartComponent where
  kind := "SmartComponent"
  attributes := [
    .of "bit_number" (·.bitNumber) fun s v => { s with bitNumber := v },
    .of "exchange" (·.exchange) fun s v => { s with exchange := v },
    .of "exchange_letter" (·.exchangeLetter) fun s v => { s with exchangeLetter := v }]

/-- The price step from some price on. -/
structure PriceIncrement where
  lowEdge : Number := Number.zero
  increment : Number := Number.zero

instance : Inhabited PriceIncrement := ⟨{}⟩

instance : Holder PriceIncrement where
  kind := "PriceIncrement"
  attributes := [
    .of "low_edge" (·.lowEdge) fun s v => { s with lowEdge := v },
    .of "increment" (·.increment) fun s v => { s with increment := v }]

end TradeWire
