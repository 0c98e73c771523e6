import TradeWire.Catalog.Message
import TradeWire.Catalog.Notice
import TradeWire.Message.Account
import TradeWire.Message.History
import TradeWire.Message.Instrument
import TradeWire.Message.Order
import TradeWire.Message.Service

/-!
# Interpreting messages

A payload becomes the events that the application is told. Messages that are empty or of an unknown
kind are ignored, and one that cannot be read is reported as a problem. A number that cannot be
converted is no problem of reading: it ends the interpretation with a failure.
-/

namespace TradeWire

/-- How a kind of message is read at a server version. -/
def Incoming.handler (version : Int) : Incoming → Handler
  | .tickPrice => .whole (Message.tickPrice version)
  | .tickSize => .whole Message.tickSize
  | .orderStatus => .measured (Message.orderStatus version)
  | .errMsg => .whole Message.problem
  | .openOrder => .measured (Message.openOrder version)
  | .acctValue => .whole Message.accountValue
  | .portfolioValue => .measured (Message.portfolioValue version)
  | .acctUpdateTime => .whole Message.accountTime
  | .nextValidId => .whole Message.nextValidId
  | .contractData => .whole (Message.contractDetails version)
  | .executionData => .measured (Message.executionDetails version)
  | .marketDepth => .whole Message.marketDepth
  | .marketDepthL2 => .whole (Message.marketDepthByMaker version)
  | .newsBulletins => .whole Message.newsBulletin
  | .managedAccts => .whole Message.managedAccounts
  | .receiveFa => .whole Message.advisorData
  | .historicalData => .rows (Message.historicalBars version)
  | .bondContractData => .whole (Message.bondDetails version)
  | .scannerParameters => .whole Message.scannerParameters
  | .scannerData => .rows Message.scannerRows
  | .tickOptionComputation => .whole Message.tickOptionComputation
  | .tickGeneric => .whole Message.tickGeneric
  | .tickString => .whole Message.tickString
  | .tickEfp => .whole Message.tickEfp
  | .currentTime => .whole Message.currentTime
  | .realTimeBars => .whole Message.realTimeBar
  | .fundamentalData => .whole Message.fundamentalData
  | .contractDataEnd => .whole Message.contractDetailsEnd
  | .openOrderEnd => .whole Message.openOrderEnd
  | .acctDownloadEnd => .whole Message.accountDownloadEnd
  | .executionDataEnd => .whole Message.executionDetailsEnd
  | .deltaNeutralValidation => .whole Message.deltaNeutralValidation
  | .tickSnapshotEnd => .whole Message.tickSnapshotEnd
  | .marketDataType => .whole Message.marketDataType
  | .commissionReport => .whole Message.commissionReport
  | .positionData => .measured (Message.positionHeld version)
  | .positionEnd => .whole Message.positionEnd
  | .accountSummary => .whole Message.accountSummary
  | .accountSummaryEnd => .whole Message.accountSummaryEnd
  | .verifyMessageApi => .whole Message.verifyMessage
  | .verifyCompleted => .whole Message.verifyCompleted
  | .displayGroupList => .whole Message.displayGroupList
  | .displayGroupUpdated => .whole Message.displayGroupUpdated
  | .verifyAndAuthMessageApi => .whole Message.verifyAndAuthMessage
  | .verifyAndAuthCompleted => .whole Message.verifyAndAuthCompleted
  | .positionMulti => .whole Message.positionMulti
  | .positionMultiEnd => .whole Message.positionMultiEnd
  | .accountUpdateMulti => .whole Message.accountUpdateMulti
  | .accountUpdateMultiEnd => .whole Message.accountUpdateMultiEnd
  | .securityDefinitionOptionParameter => .whole Message.optionParameters
  | .securityDefinitionOptionParameterEnd => .whole Message.optionParametersEnd
  | .softDollarTiers => .whole Message.softDollarTiers
  | .familyCodes => .whole Message.familyCodes
  | .symbolSamples => .whole Message.symbolSamples
  | .mktDepthExchanges => .whole (Message.depthExchanges version)
  | .tickReqParams => .whole Message.tickParameters
  | .smartComponents => .whole Message.smartComponents
  | .newsArticle => .whole Message.newsArticle
  | .tickNews => .whole Message.tickNews
  | .newsProviders => .whole Message.newsProviders
  | .historicalNews => .whole Message.historicalNews
  | .historicalNewsEnd => .whole Message.historicalNewsEnd
  | .headTimestamp => .whole Message.headTimestamp
  | .histogramData => .whole Message.histogram
  | .historicalDataUpdate => .whole Message.historicalBarUpdate
  | .rerouteMktDataReq => .whole Message.rerouteMarketData
  | .rerouteMktDepthReq => .whole Message.rerouteMarketDepth
  | .marketRule => .whole Message.marketRule
  | .pnl => .whole (Message.pnl version)
  | .pnlSingle => .whole (Message.pnlSingle version)
  | .historicalTicks => .whole Message.historicalTicks
  | .historicalTicksBidAsk => .whole Message.historicalTicksBidAsk
  | .historicalTicksLast => .whole Message.historicalTrades
  | .tickByTick => .whole Message.tickByTick
  | .orderBound => .whole Message.orderBound
  | .completedOrder => .measured (Message.completedOrder version)
  | .completedOrdersEnd => .whole Message.completedOrdersEnd

/-- What comes of a message. -/
structure Interpretation where
  events : List Event := []
  failure? : Option Double.ConversionError := none
  /-- How many fields were read. -/
  fieldsRead : Nat := 0

namespace Interpretation

/-- What is told of a message that cannot be read. -/
def problem (text : String) : Event :=
  .error noId Notice.badMessage.code (Notice.badMessage.text (". " ++ text))

/-- What comes of the events of a message and the fault that ended it, with the cursor then. -/
def ofRun : (List Event × Option Fault) × Cursor → Interpretation
  | ((events, none), c) => ⟨events, none, c.position⟩
  | ((events, some (.conversion error)), c) => ⟨events, some error, c.position⟩
  | ((events, some fault), c) => ⟨events ++ [problem fault.message], none, c.position⟩

end Interpretation

/-- Interprets the fields of a message. -/
def interpretFields (version : Int) (c : Cursor) : Interpretation :=
  if c.rest.isEmpty then {}
  else match Reading.int.start c with
    | (.error fault, c) => .ofRun (([], some fault), c)
    | (.ok number, c) =>
      match Incoming.ofNumber? number with
      | none => { fieldsRead := c.position }
      | some kind => .ofRun ((kind.handler version).run c)

/-- Interprets a payload from a server of some version. -/
def interpret (version : Int) (payload : Bytes) : Interpretation :=
  interpretFields version (.ofPayload payload)

end TradeWire
