import TradeWire.Text.Uppercase

/-!
# Tags of account summaries

The tags that an account summary can be asked for, among them the ledger tags for cash balances.
-/

namespace TradeWire

namespace AccountTag

/-- The tags that every account has. -/
def standard : List String := [
  "AccountType", "NetLiquidation", "TotalCashValue", "SettledCash", "AccruedCash", "BuyingPower",
  "EquityWithLoanValue", "PreviousEquityWithLoanValue", "GrossPositionValue", "RegTEquity",
  "RegTMargin", "SMA", "InitMarginReq", "MaintMarginReq", "AvailableFunds", "ExcessLiquidity",
  "Cushion", "FullInitMarginReq", "FullMaintMarginReq", "FullAvailableFunds", "FullExcessLiquidity",
  "LookAheadNextChange", "LookAheadInitMarginReq", "LookAheadMaintMarginReq",
  "LookAheadAvailableFunds", "LookAheadExcessLiquidity", "HighestSeverity", "DayTradesRemaining",
  "Leverage"]

/-- All standard tags in one text. -/
def all : String := ",".intercalate standard

/-- All cash balances in the base currency. -/
def ledger : String := "$LEDGER"

/-- All cash balances in every currency. -/
def ledgerAll : String := "$LEDGER:ALL"

/-- All cash balances in one currency, which is written in upper case. -/
def ledgerOf (currency : String) : String := ledger ++ ":" ++ Text.uppercase currency

end AccountTag

end TradeWire
