import TradeWire.Account.Execution
import TradeWire.Request.Plan

/-!
# Requests about accounts

Account values, positions, profit and loss, fills, and what financial advisors manage.
-/

namespace TradeWire.Plan

/-! ## Account values -/

def accountUpdates (subscribe : Bool) (account : Label) : Plan where
  kind := .reqAcctData
  steps := [.always [.int 2, .flag subscribe, account.field]]

def accountSummary (id : Int) (group tags : Label) : Plan where
  kind := .reqAccountSummary
  subject := id
  checks := [.needs Feature.accountSummary id " It does not support account summary requests."]
  steps := [.always [.int 1, .int id, group.field, tags.field]]

def cancelAccountSummary (id : Int) : Plan where
  kind := .cancelAccountSummary
  subject := id
  checks := [.needs Feature.accountSummary id
    " It does not support account summary cancellation."]
  steps := [.always [.int 1, .int id]]

def accountUpdatesMulti (id : Int) (account model : Label) (ledgerAndValue : Bool) : Plan where
  kind := .reqAccountUpdatesMulti
  subject := id
  checks := [.needs Feature.modelsSupport id
    " It does not support account updates multi request."]
  steps := [.always [.int 1, .int id, account.field, model.field, .flag ledgerAndValue]]

def cancelAccountUpdatesMulti (id : Int) : Plan where
  kind := .cancelAccountUpdatesMulti
  subject := id
  checks := [.needs Feature.modelsSupport id
    " It does not support account updates multi cancellation."]
  steps := [.always [.int 1, .int id]]

/-! ## Positions -/

def positions : Plan where
  kind := .reqPositions
  checks := [.needs Feature.positions noId " It does not support positions request."]
  steps := [.always [.int 1]]

def cancelPositions : Plan where
  kind := .cancelPositions
  checks := [.needs Feature.positions noId " It does not support positions cancellation."]
  steps := [.always [.int 1]]

def positionsMulti (id : Int) (account model : Label) : Plan where
  kind := .reqPositionsMulti
  subject := id
  checks := [.needs Feature.modelsSupport id " It does not support positions multi request."]
  steps := [.always [.int 1, .int id, account.field, model.field]]

def cancelPositionsMulti (id : Int) : Plan where
  kind := .cancelPositionsMulti
  subject := id
  checks := [.needs Feature.modelsSupport id
    " It does not support positions multi cancellation."]
  steps := [.always [.int 1, .int id]]

/-! ## Profit and loss -/

def needsPnl (id : Int) : Check := .needs Feature.pnl id " It does not support PnL request."

def pnl (id : Int) (account model : Label) : Plan where
  kind := .reqPnl
  subject := id
  checks := [needsPnl id]
  steps := [.always [.int id, account.field, model.field]]

def cancelPnl (id : Int) : Plan where
  kind := .cancelPnl
  subject := id
  checks := [needsPnl id]
  steps := [.always [.int id]]

def pnlSingle (id : Int) (account model : Label) (contractId : Int) : Plan where
  kind := .reqPnlSingle
  subject := id
  checks := [needsPnl id]
  steps := [.always [.int id, account.field, model.field, .int contractId]]

def cancelPnlSingle (id : Int) : Plan where
  kind := .cancelPnlSingle
  subject := id
  checks := [needsPnl id]
  steps := [.always [.int id]]

/-! ## Fills -/

def executions (id : Int) (filter : ExecutionFilter) : Plan where
  kind := .reqExecutions
  subject := id
  steps := [
    .always [.int 3],
    .since Feature.executionDataChain [.int id],
    .always [.int filter.clientId, filter.account.field, filter.time.field, filter.symbol.field,
      filter.secType.field, filter.exchange.field, filter.side.field]]

/-! ## Financial advisors -/

def managedAccounts : Plan where
  kind := .reqManagedAccts
  steps := [.always [.int 1]]

/-- Asks for one part of an advisor's configuration. -/
def advisorData (part : Int) : Plan where
  kind := .reqFa
  steps := [.always [.int 1, .int part]]

def replaceAdvisorData (id : Int) (part : Int) (content : Label) : Plan where
  kind := .replaceFa
  subject := id
  steps := [
    .always [.int 1, .int part, content.field],
    .since Feature.replaceFaEnd [.int id]]

end TradeWire.Plan
