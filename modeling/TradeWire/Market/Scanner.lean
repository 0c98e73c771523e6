import TradeWire.Instrument.Details

/-!
# Market scanners

The parameters of a scanner subscription and the rows that it delivers.
-/

namespace TradeWire

/-- What a market scanner looks for. -/
structure ScannerSubscription where
  numberOfRows : Int := -1
  instrument : Label := Label.blank
  locationCode : Label := Label.blank
  scanCode : Label := Label.blank
  abovePrice : Number := Number.unset
  belowPrice : Number := Number.unset
  aboveVolume : Int := unsetInt
  marketCapAbove : Number := Number.unset
  marketCapBelow : Number := Number.unset
  moodyRatingAbove : Label := Label.blank
  moodyRatingBelow : Label := Label.blank
  spRatingAbove : Label := Label.blank
  spRatingBelow : Label := Label.blank
  maturityDateAbove : Label := Label.blank
  maturityDateBelow : Label := Label.blank
  couponRateAbove : Number := Number.unset
  couponRateBelow : Number := Number.unset
  excludeConvertible : Bool := false
  averageOptionVolumeAbove : Int := unsetInt
  settingPairs : Label := Label.blank
  stockTypeFilter : Label := Label.blank

instance : Inhabited ScannerSubscription := ⟨{}⟩

instance : Holder ScannerSubscription where
  kind := "ScannerSubscription"
  attributes := [
    .of "number_of_rows" (·.numberOfRows) fun s v => { s with numberOfRows := v },
    .of "instrument" (·.instrument) fun s v => { s with instrument := v },
    .of "location_code" (·.locationCode) fun s v => { s with locationCode := v },
    .of "scan_code" (·.scanCode) fun s v => { s with scanCode := v },
    .of "above_price" (·.abovePrice) fun s v => { s with abovePrice := v },
    .of "below_price" (·.belowPrice) fun s v => { s with belowPrice := v },
    .of "above_volume" (·.aboveVolume) fun s v => { s with aboveVolume := v },
    .of "market_cap_above" (·.marketCapAbove) fun s v => { s with marketCapAbove := v },
    .of "market_cap_below" (·.marketCapBelow) fun s v => { s with marketCapBelow := v },
    .of "moody_rating_above" (·.moodyRatingAbove) fun s v => { s with moodyRatingAbove := v },
    .of "moody_rating_below" (·.moodyRatingBelow) fun s v => { s with moodyRatingBelow := v },
    .of "sp_rating_above" (·.spRatingAbove) fun s v => { s with spRatingAbove := v },
    .of "sp_rating_below" (·.spRatingBelow) fun s v => { s with spRatingBelow := v },
    .of "maturity_date_above" (·.maturityDateAbove) fun s v => { s with maturityDateAbove := v },
    .of "maturity_date_below" (·.maturityDateBelow) fun s v => { s with maturityDateBelow := v },
    .of "coupon_rate_above" (·.couponRateAbove) fun s v => { s with couponRateAbove := v },
    .of "coupon_rate_below" (·.couponRateBelow) fun s v => { s with couponRateBelow := v },
    .of "exclude_convertible" (·.excludeConvertible) fun s v => { s with excludeConvertible := v },
    .of "average_option_volume_above" (·.averageOptionVolumeAbove)
      fun s v => { s with averageOptionVolumeAbove := v },
    .of "scanner_setting_pairs" (·.settingPairs) fun s v => { s with settingPairs := v },
    .of "stock_type_filter" (·.stockTypeFilter) fun s v => { s with stockTypeFilter := v }]

/-- One row of a scanner. -/
structure ScannerRow where
  details : ContractDetails := {}
  rank : Int := 0
  distance : Label := Label.blank
  benchmark : Label := Label.blank
  projection : Label := Label.blank
  legs : Label := Label.blank

instance : Inhabited ScannerRow := ⟨{}⟩

instance : Holder ScannerRow where
  kind := "ScanData"
  attributes := [
    .of "contract" (·.details) fun s v => { s with details := v },
    .of "rank" (·.rank) fun s v => { s with rank := v },
    .of "distance" (·.distance) fun s v => { s with distance := v },
    .of "benchmark" (·.benchmark) fun s v => { s with benchmark := v },
    .of "projection" (·.projection) fun s v => { s with projection := v },
    .of "legs" (·.legs) fun s v => { s with legs := v }]

end TradeWire
