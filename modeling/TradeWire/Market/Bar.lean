import TradeWire.Record.Holder

/-!
# Bars

Price bars over a stretch of time, and the entries of a price histogram.
-/

namespace TradeWire

/-- A historical price bar. -/
structure Bar where
  date : Label := Label.blank
  opening : Number := Number.zero
  high : Number := Number.zero
  low : Number := Number.zero
  closing : Number := Number.zero
  volume : Int := 0
  barCount : Int := 0
  average : Number := Number.zero

instance : Inhabited Bar := ⟨{}⟩

instance : Holder Bar where
  kind := "BarData"
  attributes := [
    .of "date" (·.date) fun s v => { s with date := v },
    .of "open" (·.opening) fun s v => { s with opening := v },
    .of "high" (·.high) fun s v => { s with high := v },
    .of "low" (·.low) fun s v => { s with low := v },
    .of "close" (·.closing) fun s v => { s with closing := v },
    .of "volume" (·.volume) fun s v => { s with volume := v },
    .of "bar_count" (·.barCount) fun s v => { s with barCount := v },
    .of "average" (·.average) fun s v => { s with average := v }]

/-- A five second bar. -/
structure RealTimeBar where
  time : Int := 0
  endTime : Int := -1
  opening : Number := Number.zero
  high : Number := Number.zero
  low : Number := Number.zero
  closing : Number := Number.zero
  volume : Int := 0
  wap : Number := Number.zero
  count : Int := 0

instance : Inhabited RealTimeBar := ⟨{}⟩

instance : Holder RealTimeBar where
  kind := "RealTimeBar"
  attributes := [
    .of "time" (·.time) fun s v => { s with time := v },
    .of "end_time" (·.endTime) fun s v => { s with endTime := v },
    .of "open" (·.opening) fun s v => { s with opening := v },
    .of "high" (·.high) fun s v => { s with high := v },
    .of "low" (·.low) fun s v => { s with low := v },
    .of "close" (·.closing) fun s v => { s with closing := v },
    .of "volume" (·.volume) fun s v => { s with volume := v },
    .of "wap" (·.wap) fun s v => { s with wap := v },
    .of "count" (·.count) fun s v => { s with count := v }]

/-- How often a price was traded. -/
structure HistogramEntry where
  price : Number := Number.zero
  count : Int := 0

instance : Inhabited HistogramEntry := ⟨{}⟩

instance : Holder HistogramEntry where
  kind := "HistogramData"
  attributes := [
    .of "price" (·.price) fun s v => { s with price := v },
    .of "count" (·.count) fun s v => { s with count := v }]

end TradeWire
