import TradeWire.Proofs.Message.Malformed
import TradeWire.Proofs.Message.OrderLists

/-!
# Counts are honoured

Every section of a message that begins with a number holds just as many records
(`counts_are_honoured`). The records that are announced are read in order and told, no fewer and no
more; where the fields do not hold them, the message ends in one report. No count makes a message be
read for long, since every record takes fields.
-/

namespace TradeWire

/-! ## The sections of messages -/

/-- The counted sections of a kind of message. In symbol samples they are nested: there is one
inside of the sample at each place. -/
def Incoming.sections (version : Int) (place : Nat) : Incoming → List Section
  | .mktDepthExchanges => [Message.depthExchangeSection version]
  | .smartComponents => [Message.smartComponentSection]
  | .softDollarTiers => [Message.softDollarTierSection]
  | .familyCodes => [Message.familyCodeSection]
  | .contractData => [Message.secIdSection version]
  | .bondContractData => [Message.bondSecIdSection version]
  | .securityDefinitionOptionParameter => [Message.expirationSection, Message.strikeSection]
  | .symbolSamples => [Message.symbolSampleSection, Message.derivativeSection place]
  | .marketRule => [Message.priceIncrementSection]
  | .historicalData => [Message.barSection version]
  | .historicalTicks => [Message.tickSection]
  | .historicalTicksBidAsk => [Message.bidAskSection]
  | .historicalTicksLast => [Message.tradeSection]
  | .histogramData => [Message.histogramSection]
  | .scannerData => [Message.scannerSection]
  | .newsProviders => [Message.newsProviderSection]
  | .openOrder => ReportList.all.map (.ofOpen version)
  | .completedOrder => ReportList.all.map (.ofCompleted version)
  | _ => []

theorem heldBy_handler {version : Int} {place : Nat} {kind : Incoming} {s : Section}
    (member : s ∈ kind.sections version place) : s.HeldBy (kind.handler version) := by
  cases kind with
  | openOrder =>
    obtain ⟨l, listed, rfl⟩ := List.mem_map.mp member
    exact Section.heldBy_openOrder listed version
  | completedOrder =>
    obtain ⟨l, listed, rfl⟩ := List.mem_map.mp member
    exact Section.heldBy_completedOrder listed version
  | securityDefinitionOptionParameter =>
    obtain rfl | rfl := List.mem_pair.mp member
    · exact Message.heldBy_optionParameters.1
    · exact Message.heldBy_optionParameters.2
  | symbolSamples =>
    obtain rfl | rfl := List.mem_pair.mp member
    · exact Message.heldBy_symbolSamples
    · exact Message.heldBy_symbolSamples_derivatives place
  | mktDepthExchanges =>
    exact List.mem_singleton.mp member ▸ Message.heldBy_depthExchanges version
  | smartComponents => exact List.mem_singleton.mp member ▸ Message.heldBy_smartComponents
  | softDollarTiers => exact List.mem_singleton.mp member ▸ Message.heldBy_softDollarTiers
  | familyCodes => exact List.mem_singleton.mp member ▸ Message.heldBy_familyCodes
  | contractData => exact List.mem_singleton.mp member ▸ Message.heldBy_contractDetails version
  | bondContractData => exact List.mem_singleton.mp member ▸ Message.heldBy_bondDetails version
  | marketRule => exact List.mem_singleton.mp member ▸ Message.heldBy_marketRule
  | historicalData => exact List.mem_singleton.mp member ▸ Message.heldBy_historicalBars version
  | historicalTicks => exact List.mem_singleton.mp member ▸ Message.heldBy_historicalTicks
  | historicalTicksBidAsk =>
    exact List.mem_singleton.mp member ▸ Message.heldBy_historicalTicksBidAsk
  | historicalTicksLast => exact List.mem_singleton.mp member ▸ Message.heldBy_historicalTrades
  | histogramData => exact List.mem_singleton.mp member ▸ Message.heldBy_histogram
  | scannerData => exact List.mem_singleton.mp member ▸ Message.heldBy_scannerRows
  | newsProviders => exact List.mem_singleton.mp member ▸ Message.heldBy_newsProviders
  | _ => cases member

theorem width_pos {version : Int} {place : Nat} {kind : Incoming} {s : Section}
    (member : s ∈ kind.sections version place) : 0 < s.width := by
  have report : ∀ l ∈ ReportList.all, 0 < l.width := by
    simp only [ReportList.all, List.forall_mem_cons]
    refine ⟨by decide, by decide, by decide, by decide, by decide, List.forall_mem_nil _⟩
  cases kind with
  | openOrder =>
    obtain ⟨l, listed, rfl⟩ := List.mem_map.mp member
    exact report l listed
  | completedOrder =>
    obtain ⟨l, listed, rfl⟩ := List.mem_map.mp member
    exact report l listed
  | securityDefinitionOptionParameter | symbolSamples =>
    obtain rfl | rfl := List.mem_pair.mp member <;> exact Nat.succ_pos _
  | mktDepthExchanges =>
    obtain rfl := List.mem_singleton.mp member
    show 0 < if _ then 5 else 3
    split_ifs <;> exact Nat.succ_pos _
  | historicalData =>
    obtain rfl := List.mem_singleton.mp member
    show 0 < if _ then 9 else 8
    split_ifs <;> exact Nat.succ_pos _
  | smartComponents | softDollarTiers | familyCodes | contractData | bondContractData
  | marketRule | historicalTicks | historicalTicksBidAsk | historicalTicksLast | histogramData
  | scannerData | newsProviders =>
    obtain rfl := List.mem_singleton.mp member
    exact Nat.succ_pos _
  | _ => cases member

/-! ## Payloads -/

def kindOf? (payload : Bytes) : Option Incoming :=
  (messageNumber? payload).bind Incoming.ofNumber?

def body (payload : Bytes) : Cursor := ⟨1, (splitFields payload).tail⟩

theorem heard_eq {payload : Bytes} {kind : Incoming} (known : kindOf? payload = some kind)
    (version : Int) : heard version payload = ((kind.handler version).run (body payload)).1 := by
  unfold kindOf? messageNumber? at known
  unfold heard body
  cases split : splitFields payload with
  | nil =>
    rw [split] at known
    cases known
  | cons token fields =>
    rw [split] at known
    obtain ⟨number, found, kind_eq⟩ := Option.bind_eq_some_iff.mp known
    rw [heardFields]
    simp only [List.head?_cons, Option.bind_some] at found
    simp only [found, kind_eq, List.tail_cons]

theorem error_notMem_told {version : Int} {kind : Incoming} {c : Cursor} {told : List Event}
    {fault : Fault} (ended : ((kind.handler version).run c).1 = (told, some fault))
    (id code : Int) (text : String) : .error id code text ∉ told := by
  have told_of := told_of_handler ended
  split at told_of
  · intro member
    have name :=
      Handler.forall_mem_of_breaksOff (Message.name_historicalBars version) told_of _ member
    exact absurd name (by simp [Event.name])
  · intro member
    have name := Handler.forall_mem_of_breaksOff Message.name_scannerRows told_of _ member
    exact absurd name (by simp [Event.name])
  · rw [told_of]
    exact List.not_mem_nil

namespace Section

variable (s : Section) (version : Int) (payload : Bytes)

/-- The section is in the message: what stands in front of its number can be read, the number is
`n`, and its records would be read by `item` from `first` on. -/
def Announces (n : Int) (item : Reading s.Item) (first : Cursor) : Prop :=
  ∃ here, s.lead.start (body payload) = (.ok (some item), here) ∧
    Reading.int.start here = (.ok n, first)

def IsLeftOut : Prop := ∃ left, s.lead.start (body payload) = (.ok none, left)

/-- The message ends at a record that cannot be read, with one report under code 508. No more
records were read before it than there are fields for. -/
def BreaksOff (n : Int) (item : Reading s.Item) (first : Cursor) : Prop :=
  ∃ records last fault left, item.InOrder first records last ∧ records.length < n.toNat ∧
    records.length * s.width ≤ first.remaining ∧ records.length ≤ first.remaining ∧
    item.start last = (.error fault, left) ∧ (interpret version payload).failure? = none ∧
    ∃ told, (interpret version payload).events =
        told ++ [.error (-1) 508 ("Bad message. " ++ fault.message)] ∧
      ∀ id code text, .error id code text ∉ told

/-- The number of a section is honoured in a message. -/
structure HonouredIn : Prop where
  /-- If no problem is reported, the records that are announced have been read, and are told. -/
  exact : (interpret version payload).failure? = none →
    (∀ id code text, .error id code text ∉ (interpret version payload).events) →
    s.IsLeftOut payload ∨ ∃ n item first, s.Announces payload n item first ∧
      ∃ records last, item.InOrder first records last ∧ records.length = n.toNat ∧
        s.carries (interpret version payload).events records
  /-- Where the fields do not hold as many records, the message breaks off. -/
  short : ∀ n item first, s.Announces payload n item first →
    (∀ records last, item.InOrder first records last → records.length ≠ n.toNat) →
    s.BreaksOff version payload n item first
  /-- No fields hold more records than there is room for. -/
  long : ∀ n item first, s.Announces payload n item first →
    first.remaining < n.toNat * s.width → s.BreaksOff version payload n item first

variable {s version payload} {kind : Incoming} (known : kindOf? payload = some kind)
  (held : s.HeldBy (kind.handler version))

/-- As many records as are announced can be read, or there is a first one that cannot. -/
theorem start_listOf_of_announces {n : Int} {item : Reading s.Item} {first here : Cursor}
    (number : Reading.int.start here = (.ok n, first)) :
    (∃ records last, (Reading.listOf item).start here = (.ok records, last) ∧
      item.InOrder first records last ∧ records.length = n.toNat) ∨
    ∃ records last fault left, (Reading.listOf item).start here = (.error fault, left) ∧
      item.InOrder first records last ∧ records.length < n.toNat ∧
      item.start last = (.error fault, left) := by
  have ends := Reading.start_times item n.toNat first
  rw [Reading.listOf, Reading.start_bind, number]
  simp only [Reading.counted]
  generalize (item.times n.toNat).start first = result at ends ⊢
  rcases result with ⟨fault | records, left⟩
  · obtain ⟨records, last, read, few, stopped⟩ := ends
    exact .inr ⟨records, last, fault, left, rfl, read, few, stopped⟩
  · exact .inl ⟨records, left, rfl, ends⟩

theorem events_of_fault (known : kindOf? payload = some kind) {fault : Fault} {left : Cursor}
    (stopped : (kind.handler version).reading.start (body payload) = (.error fault, left))
    (unconverted : ∀ error, fault ≠ .conversion error) :
    (interpret version payload).failure? = none ∧
      ∃ told, (interpret version payload).events =
          told ++ [.error (-1) 508 ("Bad message. " ++ fault.message)] ∧
        ∀ id code text, .error id code text ∉ told := by
  obtain ⟨failure, events⟩ := interpret_eq version payload
  have run := (kind.handler version).run_eq (body payload)
  rw [stopped] at run
  obtain ⟨told, ended⟩ := run
  have heard : heard version payload = (told, some fault) := by rw [heard_eq known, ended]
  rw [heard, report_of_unreadable unconverted] at events
  rw [heard] at failure
  refine ⟨?_, told, events, error_notMem_told (congrArg Prod.fst ended)⟩
  cases fault with
  | field error => exact failure
  | unknownCondition kind => exact failure
  | conversion error => exact absurd rfl (unconverted error)

theorem reading_of_silent (known : kindOf? payload = some kind)
    (complete : (interpret version payload).failure? = none)
    (silent : ∀ id code text, .error id code text ∉ (interpret version payload).events) :
    ∃ left, (kind.handler version).reading.start (body payload) =
      (.ok (interpret version payload).events, left) := by
  rcases ended : (kind.handler version).reading.start (body payload) with ⟨fault | events, left⟩
  · by_cases conversion : ∃ error, fault = .conversion error
    · obtain ⟨error, rfl⟩ := conversion
      have run := (kind.handler version).run_eq (body payload)
      rw [ended] at run
      obtain ⟨told, stopped⟩ := run
      rw [(interpret_eq version payload).1, heard_eq known, stopped] at complete
      cases complete
    · obtain ⟨-, told, events, -⟩ :=
        events_of_fault known ended fun error same => conversion ⟨error, same⟩
      rw [events] at silent
      exact absurd (List.mem_append_right told (List.mem_singleton.mpr rfl)) (silent _ _ _)
  · have run := (kind.handler version).run_eq (body payload)
    rw [ended] at run
    have heard : heard version payload = (events, none) := by rw [heard_eq known, run]
    have told := (interpret_eq version payload).2
    rw [heard] at told
    rw [told]
    exact ⟨left, congrArg (fun all => (Except.ok all, left)) (List.append_nil events).symm⟩

include known held

theorem exact_of_heldBy (complete : (interpret version payload).failure? = none)
    (silent : ∀ id code text, .error id code text ∉ (interpret version payload).events) :
    s.IsLeftOut payload ∨ ∃ n item first, s.Announces payload n item first ∧
      ∃ records last, item.InOrder first records last ∧ records.length = n.toNat ∧
        s.carries (interpret version payload).events records := by
  obtain ⟨left, read⟩ := reading_of_silent known complete silent
  rcases front : s.lead.start (body payload) with ⟨fault | _ | item, here⟩
  · obtain ⟨fault, left, stopped⟩ := held.unreadable front
    cases read.symm.trans stopped
  · exact .inl ⟨here, front⟩
  · have unbroken {fault : Fault} {there : Cursor}
        (stopped : (Reading.listOf item).start here = (.error fault, there)) : False := by
      obtain ⟨left, broken⟩ := held.broken front stopped
      cases read.symm.trans broken
    rcases number : Reading.int.start here with ⟨fault | n, first⟩
    · refine absurd ?_ (@unbroken fault first)
      rw [Reading.listOf, Reading.start_bind, number]
    · rcases start_listOf_of_announces number with ⟨records, last, all, order, length⟩ | ends
      · exact .inr ⟨n, item, first, ⟨here, front, number⟩, records, last, order, length,
          held.carried front all read⟩
      · obtain ⟨records, last, fault, left, stopped, -⟩ := ends
        exact (unbroken stopped).elim

theorem breaksOff_of_heldBy {n : Int} {item : Reading s.Item} {first : Cursor}
    (positive : 0 < s.width) (announced : s.Announces payload n item first)
    (short : ∀ records last, item.InOrder first records last → records.length ≠ n.toNat) :
    s.BreaksOff version payload n item first := by
  obtain ⟨here, front, number⟩ := announced
  rcases start_listOf_of_announces number with ⟨records, last, -, order, length⟩ | ends
  · exact absurd length (short records last order)
  · obtain ⟨records, last, fault, left, stopped, order, few, unread⟩ := ends
    obtain ⟨there, broken⟩ := held.broken front stopped
    have unconverted (error : Double.ConversionError) : fault ≠ .conversion error := by
      rintro rfl
      exact item.start_ne_conversion last error (congrArg Prod.fst unread)
    have spent := order.spends (s.spends _ _ _ front item rfl)
    have room : records.length * s.width ≤ first.remaining :=
      (Nat.le_add_left ..).trans spent
    have fields := (Nat.le_mul_of_pos_right records.length positive).trans room
    exact ⟨records, last, fault, left, order, few, room, fields, unread,
      events_of_fault known broken unconverted⟩

end Section

/-- **Counts are honoured.** If a message is interpreted and no problem of it is told, each of its
counted sections holds as many records as its number says, none if the number is negative: they have
been read in order, and they are what is told. If the fields behind the number do not hold as many
records, however many these are, the message ends in one report at the first record that cannot be
read, and no more records have been read by then than there are fields. -/
theorem counts_are_honoured (version : Int) (payload : Bytes) {kind : Incoming}
    (known : kindOf? payload = some kind) (place : Nat) {s : Section}
    (member : s ∈ kind.sections version place) : s.HonouredIn version payload := by
  have held := heldBy_handler member
  have positive := width_pos member
  have breaksOff {n : Int} {item : Reading s.Item} {first : Cursor} :=
    @Section.breaksOff_of_heldBy s version payload kind known held n item first positive
  refine ⟨Section.exact_of_heldBy known held, fun _ _ _ => breaksOff, ?_⟩
  intro n item first announced long
  refine breaksOff announced fun records last order length => ?_
  obtain ⟨here, front, -⟩ := announced
  have spent := order.spends (s.spends _ _ _ front item rfl)
  rw [length] at spent
  omega

/-- News providers behind an empty number, which stands for as many as an integer can say. -/
def endlessProviders : Bytes := ["85", "", "first", "The first"].flatMap Field.terminated

/-- One provider is read, and then no more. -/
theorem counts_are_honoured_endlessProviders :
    kindOf? endlessProviders = some .newsProviders ∧
      Message.newsProviderSection ∈ Incoming.newsProviders.sections 151 0 ∧
      Message.newsProviderSection.HonouredIn 151 endlessProviders ∧
      Message.newsProviderSection.BreaksOff 151 endlessProviders (2 ^ 31 - 1)
        Message.newsProvider ⟨2, ["first", "The first"]⟩ := by
  have known : kindOf? endlessProviders = some .newsProviders := by decide +kernel
  have member : Message.newsProviderSection ∈ Incoming.newsProviders.sections 151 0 := .head _
  have honoured := counts_are_honoured 151 endlessProviders known 0 member
  have fields : (splitFields endlessProviders).tail = ["", "first", "The first"] := by
    decide +kernel
  have announced : Message.newsProviderSection.Announces endlessProviders (2 ^ 31 - 1)
      Message.newsProvider ⟨2, ["first", "The first"]⟩ := by
    refine ⟨⟨1, ["", "first", "The first"]⟩, ?_, rfl⟩
    rw [body, fields]
    rfl
  exact ⟨known, member, honoured, honoured.long _ _ _ announced (by decide)⟩

end TradeWire
