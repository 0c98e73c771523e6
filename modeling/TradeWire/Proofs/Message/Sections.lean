import TradeWire.Message.Interpret
import TradeWire.Proofs.Message.Gathered
import TradeWire.Proofs.Wire.Counted

/-!
# Counted sections of messages

A counted section is a part of a message in which a number says how many records follow. `Section`
says where it stands, by what is read in front of its number, how its records are read, and where
they are told. `Section.HeldBy` says that a handler reads its messages so; it is shown here for all
counted sections but those of the reports of orders.
-/

namespace TradeWire

/-! ## Places in front of a list -/

namespace Reading

variable {α β γ : Type}

theorem size_start (r : Reading α) (c : Cursor) : (r.start c).2.size = c.size := by
  induction r generalizing c with
  | done value => rfl
  | unreadable error => rfl
  | unknownCondition kind => rfl
  | take next ih =>
    rw [start]
    cases fields : c.rest with
    | nil => rfl
    | cons token rest =>
      refine (ih c.position token ⟨c.position + 1, rest⟩).trans ?_
      simp only [Cursor.size, Cursor.remaining, fields, List.length_cons]
      omega

def ofSlot : Slot → Reading Unit
  | .int => do let _ ← int
  | .double => do let _ ← double
  | .text => do let _ ← next

def places : List Slot → Reading Unit
  | [] => pure ()
  | slot :: slots => do ofSlot slot; places slots

theorem takes_ofSlot (slot : Slot) : Takes [slot] (ofSlot slot) := by
  cases slot with
  | int => exact takes_map takes_int _
  | double => exact takes_map takes_double _
  | text => exact takes_map takes_next _

theorem takes_places (slots : List Slot) : Takes slots (places slots) := by
  induction slots with
  | nil => exact takes_pure ()
  | cons slot slots ih => exact takes_cons (takes_ofSlot slot) fun _ => ih

theorem places_append (first second : List Slot) :
    places (first ++ second) = places first >>= fun _ => places second := by
  induction first with
  | nil => rfl
  | cons slot slots ih =>
    rw [List.cons_append, places, ih]
    exact (bind_assoc _ _ _).symm

theorem Takes.start_ok {slots : List Slot} {r : Reading α} {r' : Reading β} (h : Takes slots r)
    (h' : Takes slots r') {c left : Cursor} {value : α} (ended : r.start c = (.ok value, left)) :
    ∃ other, r'.start c = (.ok other, left) := by
  have behind := h c
  have behind' := h' c
  have size := size_start r c
  have size' := size_start r' c
  rw [ended] at behind size
  rcases other : r'.start c with ⟨fault | value', left'⟩ <;> rw [other] at behind' size'
  · rw [behind] at behind'
    cases behind'
  · have rest : left.rest = left'.rest := Option.some.inj (behind.symm.trans behind')
    have position : left.position = left'.position := by
      have total := size.trans size'.symm
      simp only [Cursor.size, Cursor.remaining, rest] at total
      omega
    obtain ⟨first, fields⟩ := left
    obtain ⟨first', fields'⟩ := left'
    obtain rfl : first = first' := position
    obtain rfl : fields = fields' := rest
    exact ⟨value', rfl⟩

variable {carries : β → List α → Prop} {lead : Reading (Option (Reading α))}

theorem hasList_takes {slots : List Slot} {r : Reading γ} (h : Takes slots r)
    {more : γ → Reading β} (hm : ∀ value, HasList (more value).start lead.start carries) :
    HasList (r >>= more).start (places slots >>= fun _ => lead).start carries := by
  rw [start_bind_eq, start_bind_eq]
  refine .after (fun front => ?_) fun {c fault here} stopped => ?_
  · obtain ⟨value, read⟩ := (takes_places slots).start_ok h front
    exact ⟨value, read, hm value⟩
  · rcases first : r.start c with ⟨other | value, left⟩
    · exact ⟨other, left, rfl⟩
    · obtain ⟨taken, read⟩ := h.start_ok (takes_places slots) first
      cases stopped.symm.trans read

theorem hasList_takes_append {first second : List Slot} {r : Reading γ} (h : Takes first r)
    {more : γ → Reading β}
    (hm : ∀ value, HasList (more value).start (places second >>= fun _ => lead).start carries) :
    HasList (r >>= more).start (places (first ++ second) >>= fun _ => lead).start carries := by
  rw [places_append]
  have split : (places first >>= fun _ => places second) >>= (fun _ => lead) =
      places first >>= fun _ => places second >>= fun _ => lead := bind_assoc _ _ _
  rw [split]
  exact hasList_takes h hm

theorem hasList_takes_cons {slot : Slot} {slots : List Slot} {r : Reading γ} (h : Takes [slot] r)
    {more : γ → Reading β}
    (hm : ∀ value, HasList (more value).start (places slots >>= fun _ => lead).start carries) :
    HasList (r >>= more).start (places (slot :: slots) >>= fun _ => lead).start carries :=
  hasList_takes_append h hm

end Reading

/-! ## Handlers as readings -/

namespace Rows

theorem tell_eq (rows : Rows) (count : Nat) (c : Cursor) :
    match (rows.row.times count).start c with
    | (.ok events, left) => rows.tell count c = ((events ++ [rows.last], none), left)
    | (.error fault, left) => ∃ told, rows.tell count c = ((told, some fault), left) := by
  induction count generalizing c with
  | zero => rfl
  | succ count ih =>
    rw [Reading.times, Reading.start_bind, tell]
    rcases rows.row.start c with ⟨fault | event, here⟩
    · exact ⟨[], rfl⟩
    · simp only [Reading.start_bind]
      have others := ih here
      generalize (rows.row.times count).start here = result at others ⊢
      rcases result with ⟨fault | events, there⟩
      · obtain ⟨told, ended⟩ := others
        exact ⟨event :: told, by rw [ended]⟩
      · simp only at others
        rw [others]
        rfl

end Rows

namespace Handler

/-- The reading that a handler tells the value of, as a whole or row by row. -/
def reading : Handler → Measuring (List Event)
  | .whole read => liftM read
  | .measured read => read
  | .rows header => liftM (do
      let rows ← header
      let events ← rows.row.times rows.count.toNat
      return events ++ [rows.last])

/-- A handler tells all of a message that its reading comes to the end of, and meets the fault that
its reading meets. -/
theorem run_eq (handler : Handler) (c : Cursor) :
    match handler.reading.start c with
    | (.ok events, left) => handler.run c = ((events, none), left)
    | (.error fault, left) => ∃ told, handler.run c = ((told, some fault), left) := by
  cases handler with
  | whole read =>
    rw [reading, Measuring.start_lift, run]
    rcases read.start c with ⟨fault | events, left⟩
    · exact ⟨[], rfl⟩
    · rfl
  | measured read =>
    rw [reading, run]
    rcases read.start c with ⟨fault | events, left⟩
    · exact ⟨[], rfl⟩
    · rfl
  | rows header =>
    rw [reading, Measuring.start_lift, run, Reading.start_bind]
    rcases header.start c with ⟨fault | rows, here⟩
    · exact ⟨[], rfl⟩
    · simp only [Reading.start_bind]
      have told := rows.tell_eq rows.count.toNat here
      generalize (rows.row.times rows.count.toNat).start here = result at told ⊢
      rcases result with ⟨fault | events, left⟩
      · exact told
      · exact told

end Handler

/-! ## Sections -/

/-- A counted section of messages: what is read in front of its number, which says how a record is
read or that the section is not there; how many fields a record takes at least; and where the
records are told. -/
structure Section where
  Item : Type
  width : Nat
  lead : Measuring (Option (Reading Item))
  carries : List Event → List Item → Prop
  spends : lead.Yields fun item? => ∀ item ∈ item?, Reading.Spends width item

namespace Section

/-- A section behind fields without quantities. -/
def behind {α : Type} (width : Nat) (lead : Reading (Option (Reading α)))
    (carries : List Event → List α → Prop)
    (spends : lead.Yields fun item? => ∀ item ∈ item?, Reading.Spends width item) : Section where
  Item := α
  width := width
  lead := liftM lead
  carries := carries
  spends c value left ended := spends c value left ((Measuring.start_lift lead c).symm.trans ended)

/-- A handler reads and tells the section. -/
def HeldBy (s : Section) (handler : Handler) : Prop :=
  HasList handler.reading.start s.lead.start s.carries

variable {α : Type} {width : Nat} {lead : Reading (Option (Reading α))}
  {carries : List Event → List α → Prop}
  {spends : lead.Yields fun item? => ∀ item ∈ item?, Reading.Spends width item}

theorem heldBy_whole {read : Reading (List Event)} (h : HasList read.start lead.start carries) :
    (behind width lead carries spends).HeldBy (.whole read) := by
  have whole : (Handler.whole read).reading.start = read.start := Measuring.start_lift_eq read
  have front : (behind width lead carries spends).lead.start = lead.start :=
    Measuring.start_lift_eq lead
  rw [HeldBy, whole, front]
  exact h

theorem yields_some {item : Reading α} (h : item.Spends width) :
    (pure (some item) : Reading (Option (Reading α))).Yields
      fun item? => ∀ item ∈ item?, Reading.Spends width item :=
  Reading.yields_pure fun _ same => Option.some.inj same ▸ h

theorem yields_none :
    (pure none : Reading (Option (Reading α))).Yields
      fun item? => ∀ item ∈ item?, Reading.Spends width item :=
  Reading.yields_pure nofun

end Section

namespace Message

open Reading Section

/-! ## Records -/

theorem spends_skip : Spends 1 skip :=
  spends_map (spends_map spends_next fun first => [first]) fun _ => ()

theorem spends_pair : Spends 2 pair :=
  spends_cons spends_next fun _ => spends_map spends_next _

theorem spends_listOf {α : Type} (item : Reading α) : Spends 1 (listOf item) :=
  spends_cons spends_int fun _ => spends_zero _

theorem spends_newsProvider : Spends 2 newsProvider :=
  spends_cons spends_text fun _ => spends_map spends_text _

theorem spends_familyCode : Spends 2 familyCode :=
  spends_cons spends_text fun _ => spends_map spends_text _

theorem spends_softDollarTier : Spends 3 softDollarTier :=
  spends_cons spends_text fun _ => spends_cons spends_text fun _ => spends_map spends_text _

theorem spends_smartComponent : Spends 3 smartComponent :=
  spends_cons spends_int fun _ => spends_cons spends_text fun _ => spends_map spends_text _

theorem spends_depthExchange (version : Int) :
    Spends (if Feature.serviceDataType ≤ version then 5 else 3) (depthExchange version) := by
  unfold depthExchange
  split_ifs
  · refine spends_cons spends_text fun _ => spends_cons spends_text fun _ => ?_
    refine spends_cons spends_text fun _ => spends_cons spends_text fun _ => ?_
    exact spends_map spends_int _
  · refine spends_cons spends_text fun _ => spends_cons spends_text fun _ => ?_
    exact spends_map spends_flag _

theorem spends_symbolSample : Spends 6 symbolSample := by
  refine spends_cons spends_int fun _ => spends_cons spends_text fun _ => ?_
  refine spends_cons spends_text fun _ => spends_cons spends_text fun _ => ?_
  exact spends_cons spends_text fun _ => spends_map (spends_listOf next) _

theorem spends_priceIncrement : Spends 2 priceIncrement :=
  spends_cons spends_number fun _ => spends_map spends_number _

theorem spends_histogramEntry : Spends 2 histogramEntry :=
  spends_cons spends_number fun _ => spends_map spends_long _

theorem spends_historicalTick : Spends 4 historicalTick := by
  refine spends_cons spends_long fun _ => spends_cons spends_skip fun _ => ?_
  exact spends_cons spends_number fun _ => spends_map spends_int _

theorem spends_historicalBidAsk : Spends 6 historicalBidAsk := by
  refine spends_cons spends_long fun _ => spends_cons spends_int fun _ => ?_
  refine spends_cons spends_number fun _ => spends_cons spends_number fun _ => ?_
  exact spends_cons spends_int fun _ => spends_map spends_int _

theorem spends_historicalTrade : Spends 6 historicalTrade := by
  refine spends_cons spends_long fun _ => spends_cons spends_int fun _ => ?_
  refine spends_cons spends_number fun _ => spends_cons spends_int fun _ => ?_
  exact spends_cons spends_text fun _ => spends_map spends_text _

theorem spends_historicalBar (version : Int) :
    Spends (if isEarlyBar version then 9 else 8) (historicalBar version) := by
  unfold historicalBar
  split_ifs with early
  · refine spends_cons spends_text fun _ => spends_cons spends_number fun _ => ?_
    refine spends_cons spends_number fun _ => spends_cons spends_number fun _ => ?_
    refine spends_cons spends_number fun _ => spends_cons spends_int fun _ => ?_
    refine spends_cons spends_number fun _ => ?_
    rw [early]
    exact spends_cons spends_skip fun _ => spends_map spends_int _
  · refine spends_cons spends_text fun _ => spends_cons spends_number fun _ => ?_
    refine spends_cons spends_number fun _ => spends_cons spends_number fun _ => ?_
    refine spends_cons spends_number fun _ => spends_cons spends_long fun _ => ?_
    refine spends_cons spends_number fun _ => spends_of_next _ fun _ => ?_
    exact spends_map spends_int _

theorem spends_scannerRow (own : Int) : Spends 14 (scannerRow own) := by
  refine spends_cons spends_int fun _ => spends_of_next _ fun _ => ?_
  refine spends_cons spends_text fun _ => spends_cons spends_text fun _ => ?_
  refine spends_cons spends_text fun _ => spends_cons spends_number fun _ => ?_
  refine spends_cons spends_text fun _ => spends_cons spends_text fun _ => ?_
  refine spends_cons spends_text fun _ => spends_cons spends_text fun _ => ?_
  refine spends_cons spends_text fun _ => spends_cons spends_text fun _ => ?_
  refine spends_cons spends_text fun _ => spends_cons spends_text fun _ => ?_
  exact spends_cons spends_text fun _ => spends_of_next _ fun _ => spends_zero _

end Message

/-! ## Lists that one event tells -/

/-- One event is told, and it tells the records. -/
def OneEvent {α : Type} (tells : Event → List α → Prop) (events : List Event)
    (records : List α) : Prop :=
  ∃ event, events = [event] ∧ tells event records

namespace Section

open Reading

variable {α : Type} {width : Nat} {item : Reading α}

def first (h : item.Spends width) (tells : Event → List α → Prop) : Section :=
  behind width (return some item) (OneEvent tells) (yields_some h)

def behindId (h : item.Spends width) (tells : Event → List α → Prop) : Section :=
  behind width (do let _ ← int; return some item) (OneEvent tells)
    (yields_bind fun _ => yields_some h)

variable {h : item.Spends width} {tells : Event → List α → Prop}

theorem heldBy_first {rest : List α → Reading (List Event)}
    (told : ∀ records, (rest records).Yields (OneEvent tells · records)) :
    (first h tells).HeldBy (.whole (listOf item >>= rest)) := heldBy_whole (hasList_listOf told)

theorem heldBy_behindId {rest : Int → List α → Reading (List Event)}
    (told : ∀ id records, (rest id records).Yields (OneEvent tells · records)) :
    (behindId h tells).HeldBy (.whole (int >>= fun id => listOf item >>= rest id)) :=
  heldBy_whole (hasList_bind int fun id => hasList_listOf (told id))

end Section

namespace Message

open Reading Section

def newsProviderSection : Section :=
  .first spends_newsProvider fun event records => event = .newsProviders records

def familyCodeSection : Section :=
  .first spends_familyCode fun event records => event = .familyCodes records

def depthExchangeSection (version : Int) : Section :=
  .first (spends_depthExchange version) fun event records => event = .depthExchanges records

def softDollarTierSection : Section :=
  .behindId spends_softDollarTier fun event records => ∃ id, event = .softDollarTiers id records

def priceIncrementSection : Section :=
  .behindId spends_priceIncrement fun event records => ∃ id, event = .marketRule id records

def histogramSection : Section :=
  .behindId spends_histogramEntry fun event records => ∃ id, event = .histogram id records

def tickSection : Section :=
  .behindId spends_historicalTick fun event records =>
    ∃ id isDone, event = .historicalTicks id records isDone

def bidAskSection : Section :=
  .behindId spends_historicalBidAsk fun event records =>
    ∃ id isDone, event = .historicalTicksBidAsk id records isDone

def tradeSection : Section :=
  .behindId spends_historicalTrade fun event records =>
    ∃ id isDone, event = .historicalTrades id records isDone

/-- Of the components with a bit number, the last one is told. -/
def smartComponentSection : Section :=
  .behindId spends_smartComponent fun event records =>
    ∃ id table, event = .smartComponents id table ∧
      IsTableOf (records.map fun component => (component.bitNumber, component)) table

def symbolSampleSection : Section :=
  .behindId spends_symbolSample fun event records => ∃ id, event = .symbolSamples id records

theorem heldBy_newsProviders : newsProviderSection.HeldBy (.whole newsProviders) :=
  heldBy_first fun _ => yields_pure ⟨_, rfl, rfl⟩

theorem heldBy_familyCodes : familyCodeSection.HeldBy (.whole familyCodes) :=
  heldBy_first fun _ => yields_pure ⟨_, rfl, rfl⟩

theorem heldBy_depthExchanges (version : Int) :
    (depthExchangeSection version).HeldBy (.whole (depthExchanges version)) :=
  heldBy_first fun _ => yields_pure ⟨_, rfl, rfl⟩

theorem heldBy_softDollarTiers : softDollarTierSection.HeldBy (.whole softDollarTiers) :=
  heldBy_behindId fun _ _ => yields_pure ⟨_, rfl, _, rfl⟩

theorem heldBy_marketRule : priceIncrementSection.HeldBy (.whole marketRule) :=
  heldBy_behindId fun _ _ => yields_pure ⟨_, rfl, _, rfl⟩

theorem heldBy_histogram : histogramSection.HeldBy (.whole histogram) :=
  heldBy_behindId fun _ _ => yields_pure ⟨_, rfl, _, rfl⟩

theorem heldBy_historicalTicks : tickSection.HeldBy (.whole historicalTicks) :=
  heldBy_behindId fun _ _ => yields_bind fun _ => yields_pure ⟨_, rfl, _, _, rfl⟩

theorem heldBy_historicalTicksBidAsk : bidAskSection.HeldBy (.whole historicalTicksBidAsk) :=
  heldBy_behindId fun _ _ => yields_bind fun _ => yields_pure ⟨_, rfl, _, _, rfl⟩

theorem heldBy_historicalTrades : tradeSection.HeldBy (.whole historicalTrades) :=
  heldBy_behindId fun _ _ => yields_bind fun _ => yields_pure ⟨_, rfl, _, _, rfl⟩

theorem heldBy_smartComponents : smartComponentSection.HeldBy (.whole smartComponents) :=
  heldBy_behindId fun _ _ => yields_pure ⟨_, rfl, _, _, rfl, isTableOf_lastByKey _⟩

theorem heldBy_symbolSamples : symbolSampleSection.HeldBy (.whole symbolSamples) :=
  heldBy_behindId fun _ _ => yields_pure ⟨_, rfl, _, rfl⟩

/-! ## Sets -/

def optionSlots : List Slot := [.int, .text, .int, .text, .text]

def expirationSection : Section :=
  .behind 1 (do places optionSlots; return some next)
    (OneEvent fun event records => ∃ id exchange underlyingId tradingClass multiplier expirations
      strikes, event = .optionParameters id exchange underlyingId tradingClass multiplier
        expirations strikes ∧ IsSetOf (· == ·) records expirations)
    (yields_bind fun _ => yields_some spends_next)

def strikeSection : Section :=
  .behind 1 (do places optionSlots; let _ ← listOf next; return some double)
    (OneEvent fun event records => ∃ id exchange underlyingId tradingClass multiplier expirations
      strikes, event = .optionParameters id exchange underlyingId tradingClass multiplier
        expirations strikes ∧ IsSetOf Double.same records strikes)
    (yields_bind fun _ => yields_bind fun _ => yields_some spends_double)

theorem heldBy_optionParameters :
    expirationSection.HeldBy (.whole optionParameters) ∧
      strikeSection.HeldBy (.whole optionParameters) := by
  constructor
  · refine heldBy_whole ?_
    refine hasList_takes_cons takes_int fun _ => hasList_takes_cons takes_next fun _ => ?_
    refine hasList_takes_cons takes_int fun _ => hasList_takes_cons takes_next fun _ => ?_
    refine hasList_takes_cons takes_next fun _ => hasList_listOf fun records => ?_
    refine yields_bind fun _ => yields_pure ⟨_, rfl, _, _, _, _, _, _, _, rfl, ?_⟩
    exact isSetOf_distinctBy _ records
  · refine heldBy_whole ?_
    refine hasList_takes_cons takes_int fun _ => hasList_takes_cons takes_next fun _ => ?_
    refine hasList_takes_cons takes_int fun _ => hasList_takes_cons takes_next fun _ => ?_
    refine hasList_takes_cons takes_next fun _ => hasList_bind _ fun _ => ?_
    refine hasList_listOf fun records => yields_pure ⟨_, rfl, _, _, _, _, _, _, _, rfl, ?_⟩
    exact isSetOf_distinctBy _ records

/-! ## Lists inside of records -/

/-- The kinds of derivatives of the sample at a place, which are told with it. -/
def derivativeSection (place : Nat) : Section :=
  .behind 1
    (do
      let _ ← int
      let count ← int
      if place < count.toNat then
        let _ ← symbolSample.times place
        places [.int, .text, .text, .text, .text]
        return some next
      else return none)
    (OneEvent fun event records => ∃ id samples, event = .symbolSamples id samples ∧
      ∃ sample, samples[place]? = some sample ∧ sample.derivativeSecTypes = some records)
    (yields_bind fun _ => yields_bind fun count => by
      split_ifs
      · exact yields_bind fun _ => yields_bind fun _ => yields_some spends_next
      · exact yields_none)

theorem hasList_derivatives : HasList symbolSample.start
    (places [.int, .text, .text, .text, .text] >>= fun _ => pure (some next)).start
    fun sample records => sample.derivativeSecTypes = some records := by
  refine hasList_takes_cons takes_int fun _ => hasList_takes_cons takes_text fun _ => ?_
  refine hasList_takes_cons takes_text fun _ => hasList_takes_cons takes_text fun _ => ?_
  exact hasList_takes_cons takes_text fun _ => hasList_listOf fun _ => yields_pure rfl

theorem heldBy_symbolSamples_derivatives (place : Nat) :
    (derivativeSection place).HeldBy (.whole symbolSamples) := by
  refine heldBy_whole (hasList_bind int fun id => ?_)
  have split : (listOf symbolSample >>= fun samples => pure [Event.symbolSamples id samples]) =
      int >>= fun count => symbolSample.times count.toNat >>= fun samples =>
        pure [Event.symbolSamples id samples] := LawfulMonad.bind_assoc _ _ _
  rw [split]
  refine hasList_bind int fun count => ?_
  split_ifs with inside
  · -- the samples before the place, the one at it, and those behind it
    obtain ⟨behind, many⟩ := Nat.exists_eq_add_of_lt inside
    rw [show count.toNat = place + (behind + 1) by omega, times_add]
    simp only [times, LawfulMonad.bind_assoc, LawfulMonad.pure_bind]
    rw [start_bind_eq, start_bind_eq]
    refine .after (fun {c before here} read => ⟨before, read, ?_⟩) fun stopped => ⟨_, _, stopped⟩
    have length : before.length = place := by
      have many := start_times symbolSample place c
      rw [read] at many
      exact many.2
    refine hasList_then hasList_derivatives fun sample records same => ?_
    refine yields_bind fun others => yields_pure ⟨_, rfl, id, _, rfl, sample, ?_, same⟩
    rw [List.getElem?_append_right length.le, length, Nat.sub_self]
    rfl
  · exact hasList_none _

/-! ## Contract details -/

theorem takes_flag : Takes [.int] flag := takes_converted fun token => by
  simp only [Slot.accepts, intOf?]
  split_ifs
  · rfl
  · exact Option.isSome_map.symm

open Slot (only)

/-- The places of contract details behind their version, before the sec ids. -/
def detailsSlots (version own : Int) : List Slot :=
  List.flatten [only (3 ≤ own) [.int], [.text, .text, .text, .double], List.replicate 6 .text,
    [.int, .double], only (Feature.mdSizeMultiplier ≤ version) [.int], [.text, .text, .text, .int],
    only (4 ≤ own) [.int], only (5 ≤ own) [.text], only (5 ≤ own) [.text],
    only (6 ≤ own) [.text], only (6 ≤ own) [.text], only (6 ≤ own) [.text],
    only (6 ≤ own) [.text], only (6 ≤ own) [.text], only (6 ≤ own) [.text],
    only (6 ≤ own) [.text], only (8 ≤ own) [.text], only (8 ≤ own) [.double]]

def secIdSection (version : Int) : Section :=
  .behind 2
    (do
      let own ← int
      places (detailsSlots version own)
      if 7 ≤ own then return some pair else return none)
    (OneEvent fun event records => ∃ id details, event = .contractDetails id details ∧
      details.secIdList = some records)
    (yields_bind fun own => yields_bind fun _ => by
      split_ifs
      · exact yields_some spends_pair
      · exact yields_none)

theorem secIdList_withLastTradeDate (field : String) (details : ContractDetails) :
    (withLastTradeDate field details).secIdList = details.secIdList := by
  unfold withLastTradeDate
  split <;> rfl

theorem heldBy_contractDetails (version : Int) :
    (secIdSection version).HeldBy (.whole (contractDetails version)) := by
  refine heldBy_whole (hasList_bind int fun own => ?_)
  simp only [detailsSlots, List.flatten_cons, List.flatten_nil, List.cons_append, List.nil_append,
    List.replicate]
  refine hasList_takes_append (takes_onlyIf takes_int _ _) fun _ => ?_
  refine hasList_takes_cons takes_text fun _ => hasList_takes_cons takes_text fun _ => ?_
  refine hasList_takes_cons takes_next fun _ => hasList_takes_cons takes_number fun _ => ?_
  iterate 6 refine hasList_takes_cons takes_text fun _ => ?_
  refine hasList_takes_cons takes_int fun _ => hasList_takes_cons takes_number fun _ => ?_
  refine hasList_takes_append (takes_onlyIf takes_int _ _) fun _ => ?_
  iterate 3 refine hasList_takes_cons takes_text fun _ => ?_
  refine hasList_takes_cons takes_int fun _ => ?_
  refine hasList_takes_append (takes_onlyIf takes_int _ _) fun _ => ?_
  iterate 10 refine hasList_takes_append (takes_onlyIf takes_text _ _) fun _ => ?_
  refine hasList_takes_append (takes_onlyIf takes_number _ _) fun _ => ?_
  split_ifs with listed
  · rw [onlyIf, if_pos (decide_eq_true listed)]
    refine hasList_listOf fun records => ?_
    repeat refine yields_bind fun _ => ?_
    refine yields_pure ⟨_, rfl, _, _, rfl, ?_⟩
    rw [secIdList_withLastTradeDate]
  · exact hasList_none _

/-- The places of bond details behind their version, before the sec ids. -/
def bondSlots (version own : Int) : List Slot :=
  List.flatten [only (3 ≤ own) [.int], [.text, .text, .text, .double, .text, .text, .text, .text,
    .text, .int, .int, .int, .text, .text, .text, .text, .text, .int, .double],
    only (Feature.mdSizeMultiplier ≤ version) [.int], [.text, .text], only (2 ≤ own) [.text],
    only (2 ≤ own) [.text], only (2 ≤ own) [.int], only (2 ≤ own) [.text], only (4 ≤ own) [.text],
    only (6 ≤ own) [.text], only (6 ≤ own) [.double]]

def bondSecIdSection (version : Int) : Section :=
  .behind 2
    (do
      let own ← int
      places (bondSlots version own)
      if 5 ≤ own then return some pair else return none)
    (OneEvent fun event records => ∃ id details, event = .bondContractDetails id details ∧
      details.secIdList = some records)
    (yields_bind fun own => yields_bind fun _ => by
      split_ifs
      · exact yields_some spends_pair
      · exact yields_none)

theorem secIdList_withMaturity (field : String) (details : ContractDetails) :
    (withMaturity field details).secIdList = details.secIdList := by
  unfold withMaturity
  split <;> rfl

theorem heldBy_bondDetails (version : Int) :
    (bondSecIdSection version).HeldBy (.whole (bondDetails version)) := by
  refine heldBy_whole (hasList_bind int fun own => ?_)
  simp only [bondSlots, List.flatten_cons, List.flatten_nil, List.cons_append, List.nil_append]
  refine hasList_takes_append (takes_onlyIf takes_int _ _) fun _ => ?_
  iterate 3 refine hasList_takes_cons takes_text fun _ => ?_
  refine hasList_takes_cons takes_number fun _ => hasList_takes_cons takes_next fun _ => ?_
  iterate 4 refine hasList_takes_cons takes_text fun _ => ?_
  iterate 3 refine hasList_takes_cons takes_flag fun _ => ?_
  iterate 5 refine hasList_takes_cons takes_text fun _ => ?_
  refine hasList_takes_cons takes_int fun _ => hasList_takes_cons takes_number fun _ => ?_
  refine hasList_takes_append (takes_onlyIf takes_int _ _) fun _ => ?_
  refine hasList_takes_cons takes_text fun _ => hasList_takes_cons takes_text fun _ => ?_
  iterate 2 refine hasList_takes_append (takes_onlyIf takes_text _ _) fun _ => ?_
  refine hasList_takes_append (takes_onlyIf takes_flag _ _) fun _ => ?_
  iterate 3 refine hasList_takes_append (takes_onlyIf takes_text _ _) fun _ => ?_
  refine hasList_takes_append (takes_onlyIf takes_number _ _) fun _ => ?_
  split_ifs with listed
  · rw [onlyIf, if_pos (decide_eq_true listed)]
    refine hasList_listOf fun records => ?_
    repeat refine yields_bind fun _ => ?_
    refine yields_pure ⟨_, rfl, _, _, rfl, ?_⟩
    rw [secIdList_withMaturity]
  · exact hasList_none _

/-! ## Rows -/

/-- Bars are told one by one, and then their end. -/
def barSection (version : Int) : Section :=
  .behind (if isEarlyBar version then 9 else 8)
    (do
      onlyIf (isEarlyBar version) () skip
      places [.int, .text, .text]
      return some (historicalBar version))
    (fun events records => ∃ id first last,
      events = records.map (.historicalBar id) ++ [.historicalBarsEnd id first last])
    (yields_bind fun _ => yields_bind fun _ => yields_some (spends_historicalBar version))

theorem heldBy_historicalBars (version : Int) :
    (barSection version).HeldBy (.rows (historicalBars version)) := by
  have rows : (Handler.rows (historicalBars version)).reading =
      (Handler.whole (do
        onlyIf (isEarlyBar version) () skip
        let id ← int
        let first ← next
        let last ← next
        let bars ← listOf (historicalBar version)
        return bars.map (.historicalBar id) ++ [.historicalBarsEnd id first last])).reading := by
    simp only [Handler.reading, historicalBars, listOf, counted, times_map,
      LawfulMonad.bind_assoc, LawfulMonad.pure_bind]
  rw [HeldBy, rows]
  refine heldBy_whole (hasList_bind _ fun _ => hasList_takes_cons takes_int fun id => ?_)
  refine hasList_takes_cons takes_next fun first => hasList_takes_cons takes_next fun last => ?_
  exact hasList_listOf fun _ => yields_pure ⟨id, first, last, rfl⟩

/-- The rows of a scanner are told one by one, and then their end. -/
def scannerSection : Section :=
  .behind 14
    (do
      let own ← int
      let _ ← int
      return some (scannerRow own))
    (fun events records => ∃ id, events = records.map (.scannerRow id) ++ [.scannerEnd id])
    (yields_bind fun own => yields_bind fun _ => yields_some (spends_scannerRow own))

theorem heldBy_scannerRows : scannerSection.HeldBy (.rows scannerRows) := by
  have rows : (Handler.rows scannerRows).reading =
      (Handler.whole (do
        let own ← int
        let id ← int
        let found ← listOf (scannerRow own)
        return found.map (.scannerRow id) ++ [.scannerEnd id])).reading := by
    simp only [Handler.reading, scannerRows, listOf, counted, times_map,
      LawfulMonad.bind_assoc, LawfulMonad.pure_bind]
  rw [HeldBy, rows]
  refine heldBy_whole (hasList_bind int fun _ => hasList_bind int fun id => ?_)
  exact hasList_listOf fun _ => yields_pure ⟨id, rfl⟩

end Message

end TradeWire
