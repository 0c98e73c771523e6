import TradeWire.Market.Scanner
import TradeWire.Request.Instrument

/-!
# Requests for reference data

Contract details, searches for instruments, market scanners, fundamental data, and news.
-/

namespace TradeWire.Plan

/-! ## Contract details -/

/-- Exchanges at which a contract is routed to the best place. -/
def isRouted (exchange : Label) : Bool := exchange == some "BEST" || exchange == some "SMART"

/-- The exchange with the primary one attached to it, where both make sense together. -/
def attachedExchange (c : Contract) : Field :=
  if c.primaryExchange.isGiven && isRouted c.exchange then
    .text (c.exchange.getD "" ++ ":" ++ c.primaryExchange.getD "")
  else c.exchange.field

def contractDetails (id : Int) (contract : Contract) : Plan where
  kind := .reqContractData
  subject := id
  checks := [
    .needs Feature.secIdType id " It does not support secIdType and secId parameters."
      (contract.secIdType.isGiven || contract.secId.isGiven),
    .needs Feature.tradingClass id
      " It does not support tradingClass parameter in reqContractDetails."
      contract.tradingClass.isGiven,
    .needs Feature.linking id
      " It does not support primaryExchange parameter in reqContractDetails."
      contract.primaryExchange.isGiven]
  steps := [
    .always [.int 8],
    .since Feature.contractDataChain [.int id],
    .always [.int contract.contractId, contract.symbol.field, contract.secType.field,
      contract.lastTradeDate.field, contract.strike.field, contract.right.field,
      contract.multiplier.field],
    .since Feature.primaryexch [contract.exchange.field, contract.primaryExchange.field],
    .between Feature.linking Feature.primaryexch [attachedExchange contract],
    .before Feature.linking [contract.exchange.field],
    .always [contract.currency.field, contract.localSymbol.field],
    .since Feature.tradingClass [contract.tradingClass.field],
    .always [.flag contract.includeExpired],
    .since Feature.secIdType [contract.secIdType.field, contract.secId.field]]

/-! ## Searches -/

def matchingSymbols (id : Int) (pattern : Label) : Plan where
  kind := .reqMatchingSymbols
  subject := id
  checks := [.needs Feature.reqMatchingSymbols id
    " It does not support matching symbols request."]
  steps := [.always [.int id, pattern.field]]

def optionParameters (id : Int) (symbol exchange secType : Label) (contractId : Int) : Plan where
  kind := .reqSecDefOptParams
  subject := id
  checks := [.needs Feature.secDefOptParamsReq id
    " It does not support security definition option request."]
  steps := [.always [.int id, symbol.field, exchange.field, secType.field, .int contractId]]

def familyCodes : Plan where
  kind := .reqFamilyCodes
  checks := [.needs Feature.reqFamilyCodes noId " It does not support family codes request."]
  steps := []

def softDollarTiers (id : Int) : Plan where
  kind := .reqSoftDollarTiers
  subject := id
  steps := [.always [.int id]]

/-! ## Scanners -/

def scannerParameters : Plan where
  kind := .reqScannerParameters
  steps := [.always [.int 1]]

def scannerSubscription (id : Int) (s : ScannerSubscription)
    (options filters : Option (List TagValue)) : Plan where
  kind := .reqScannerSubscription
  subject := id
  checks := [.needs Feature.scannerGenericOpts id
    " It does not support API scanner subscription generic filter options"
    (!(filters.getD []).isEmpty)]
  steps := [
    .before Feature.scannerGenericOpts [.int 4],
    .always [.int id, .int s.numberOfRows, s.instrument.field, s.locationCode.field,
      s.scanCode.field, s.abovePrice.field, s.belowPrice.field, .int s.aboveVolume,
      s.marketCapAbove.field, s.marketCapBelow.field, s.moodyRatingAbove.field,
      s.moodyRatingBelow.field, s.spRatingAbove.field, s.spRatingBelow.field,
      s.maturityDateAbove.field, s.maturityDateBelow.field, s.couponRateAbove.field,
      s.couponRateBelow.field, .flag s.excludeConvertible, .int s.averageOptionVolumeAbove,
      s.settingPairs.field, s.stockTypeFilter.field],
    .since Feature.scannerGenericOpts [joinedField filters],
    .since Feature.linking [joinedField options]]

def cancelScanner (id : Int) : Plan where
  kind := .cancelScannerSubscription
  subject := id
  steps := [.always [.int 1, .int id]]

/-! ## Fundamental data -/

def fundamentalData (id : Int) (contract : Contract) (report : Label)
    (options : Option (List TagValue)) : Plan where
  kind := .reqFundamentalData
  subject := id
  checks := [
    .needs Feature.fundamentalData id " It does not support fundamental data request.",
    .needs Feature.tradingClass id " It does not support conId parameter in reqFundamentalData."
      (0 < contract.contractId)]
  steps := [
    .always [.int 2, .int id],
    .since Feature.tradingClass [.int contract.contractId],
    .always [contract.symbol.field, contract.secType.field, contract.exchange.field,
      contract.primaryExchange.field, contract.currency.field, contract.localSymbol.field,
      report.field],
    .since Feature.linking [countField (options.getD []), joinedField options]]

def cancelFundamentalData (id : Int) : Plan where
  kind := .cancelFundamentalData
  subject := id
  checks := [.needs Feature.fundamentalData id
    " It does not support fundamental data request."]
  steps := [.always [.int 1, .int id]]

/-! ## News -/

def newsBulletins (all : Bool) : Plan where
  kind := .reqNewsBulletins
  steps := [.always [.int 1, .flag all]]

def cancelNewsBulletins : Plan where
  kind := .cancelNewsBulletins
  steps := [.always [.int 1]]

def newsProviders : Plan where
  kind := .reqNewsProviders
  checks := [.needs Feature.reqNewsProviders noId
    " It does not support news providers request."]
  steps := []

def newsArticle (id : Int) (provider article : Label) (options : Option (List TagValue)) :
    Plan where
  kind := .reqNewsArticle
  subject := id
  checks := [.needs Feature.reqNewsArticle id " It does not support news article request."]
  steps := [
    .always [.int id, provider.field, article.field],
    .since Feature.newsQueryOrigins [joinedField options]]

def historicalNews (id contractId : Int) (providers start stop : Label) (limit : Int)
    (options : Option (List TagValue)) : Plan where
  kind := .reqHistoricalNews
  subject := id
  checks := [.needs Feature.reqHistoricalNews id " It does not support historical news request."]
  steps := [
    .always [.int id, .int contractId, providers.field, start.field, stop.field, .int limit],
    .since Feature.newsQueryOrigins [joinedField options]]

end TradeWire.Plan
