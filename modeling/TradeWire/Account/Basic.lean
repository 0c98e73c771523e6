import TradeWire.Record.Holder

/-!
# Account records

Commission reports, families of accounts, soft dollar tiers and news providers.
-/

namespace TradeWire

/-- A tier of commissions that pay for services. -/
structure SoftDollarTier where
  name : Label := Label.blank
  value : Label := Label.blank
  displayName : Label := Label.blank

instance : Inhabited SoftDollarTier := ⟨{}⟩

instance : Holder SoftDollarTier where
  kind := "SoftDollarTier"
  attributes := [
    .of "name" (·.name) fun s v => { s with name := v },
    .of "val" (·.value) fun s v => { s with value := v },
    .of "display_name" (·.displayName) fun s v => { s with displayName := v }]

/-- The family that an account belongs to. -/
structure FamilyCode where
  accountId : Label := Label.blank
  familyCode : Label := Label.blank

instance : Inhabited FamilyCode := ⟨{}⟩

instance : Holder FamilyCode where
  kind := "FamilyCode"
  attributes := [
    .of "account_id" (·.accountId) fun s v => { s with accountId := v },
    .of "family_code" (·.familyCode) fun s v => { s with familyCode := v }]

/-- What a fill cost. -/
structure CommissionReport where
  executionId : Label := Label.blank
  commission : Number := Number.zero
  currency : Label := Label.blank
  realizedPnl : Number := Number.zero
  yieldRate : Number := Number.zero
  yieldRedemptionDate : Int := 0

instance : Inhabited CommissionReport := ⟨{}⟩

instance : Holder CommissionReport where
  kind := "CommissionReport"
  attributes := [
    .of "exec_id" (·.executionId) fun s v => { s with executionId := v },
    .of "commission" (·.commission) fun s v => { s with commission := v },
    .of "currency" (·.currency) fun s v => { s with currency := v },
    .of "realized_pnl" (·.realizedPnl) fun s v => { s with realizedPnl := v },
    .of "yield_" (·.yieldRate) fun s v => { s with yieldRate := v },
    .of "yield_redemption_date" (·.yieldRedemptionDate)
      fun s v => { s with yieldRedemptionDate := v }]

/-- A source of news. -/
structure NewsProvider where
  code : Label := Label.blank
  name : Label := Label.blank

instance : Inhabited NewsProvider := ⟨{}⟩

instance : Holder NewsProvider where
  kind := "NewsProvider"
  attributes := [
    .of "code" (·.code) fun s v => { s with code := v },
    .of "name" (·.name) fun s v => { s with name := v }]

end TradeWire
