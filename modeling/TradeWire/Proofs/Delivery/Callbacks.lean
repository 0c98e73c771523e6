import TradeWire.Proofs.Delivery.Pipeline

/-!
# Callbacks that raise

A callback that raises is passed over and makes no other difference. Main statement: a consumer does
the same whichever callbacks raise, less the events that they would have told
(`consume_isolated`). It takes the same deliveries, stops for the same reason, and its owner learns
of the end at the same place.

One delivery after another, what is heard is a part of what there is to hear, and nothing that
follows depends on it (`consume_eq_without`).
-/

namespace TradeWire

def Occurrence.isAudible (raising : List String) : Occurrence → Bool
  | .told event => !raising.contains event.name
  | .ended => true

namespace Consumption

variable (raising : List String)

def without (c : Consumption) : Consumption :=
  { c with occurrences := c.occurrences.filter (Occurrence.isAudible raising) }

theorem filter_told (events : List Event) :
    (events.map Occurrence.told).filter (Occurrence.isAudible raising) =
      (audible raising events).map .told := by
  rw [List.filter_map]
  rfl

theorem without_prepend (events : List Event) (c : Consumption) :
    (c.prepend events).without raising = (c.without raising).prepend (audible raising events) := by
  simp only [prepend, without, List.filter_append, filter_told]

theorem events_without (c : Consumption) :
    (c.without raising).events = audible raising c.events := by
  unfold without events audible
  rw [List.filterMap_filter, List.filter_filterMap]
  congr 1
  funext occurrence
  cases occurrence with
  | ended => rfl
  | told event => rfl

theorem hasEnded_without (c : Consumption) : (c.without raising).hasEnded = c.hasEnded := by
  unfold without hasEnded
  rw [Bool.eq_iff_iff, List.any_eq_true, List.any_eq_true]
  constructor
  · rintro ⟨occurrence, member, ended⟩
    exact ⟨occurrence, List.mem_of_mem_filter member, ended⟩
  · rintro ⟨occurrence, member, ended⟩
    refine ⟨occurrence, List.mem_filter.mpr ⟨member, ?_⟩, ended⟩
    cases occurrence with
    | ended => rfl
    | told event => cases ended

theorem completed_without (unread : List (List Bytes)) (events : List Event) :
    (completed [] unread events).without raising =
      completed raising unread (audible raising events) := by
  simp only [without, completed, audible_nil, List.filter_append, filter_told]
  rw [List.filter_cons_of_pos (show Occurrence.isAudible raising .ended = true from rfl),
    filter_told]

end Consumption

/-! ## Two runs -/

/-- A consumer with callbacks that raise does what it does without, less what they would have
told. -/
theorem consume_eq_without (version : Int) (raising : List String)
    (deliveries : List (List Bytes)) :
    consume version raising deliveries = (consume version [] deliveries).without raising := by
  induction deliveries with
  | nil => rfl
  | cons parts rest ih =>
    rw [consume, consume]
    rcases Delivery.ofParts parts with failure | _ | bytes | ⟨code, text⟩ | _
    · rfl
    · exact ih
    · simp only [audible_nil]
      cases (interpret version bytes).failure? with
      | some error => simp only [Consumption.without, Consumption.filter_told]
      | none => simp only [Consumption.without_prepend, ih]
    · simp only [audible_nil, Consumption.without_prepend, ih]
    · exact (Consumption.completed_without raising rest []).symm

/-! ## Ends -/

/-- Parts that begin with the mark that nothing follows. -/
def IsMark (parts : List Bytes) : Prop := parts.head? = some Delivery.finishedMark

theorem ofParts_of_isMark {parts : List Bytes} (mark : IsMark parts) :
    Delivery.ofParts parts = .ok (some .finished) := by
  cases parts with
  | nil => cases mark
  | cons first rest =>
    obtain rfl : first = Delivery.finishedMark := Option.some.inj mark
    rw [Delivery.ofParts.eq_def]
    exact (if_neg (by decide)).trans ((if_neg (by decide)).trans (if_pos rfl))

/-- A consumer has come to the mark that nothing follows, or has failed before it. -/
def Settled (raising : List String) (c : Consumption) : Prop :=
  (∃ events, c = completed raising c.unread events) ∨
    ∃ failure, c.failure? = some failure ∧ c.hasEnded = false

theorem Settled.prepend {raising : List String} {c : Consumption} (h : Settled raising c)
    (events : List Event) : Settled raising (c.prepend events) := by
  rcases h with ⟨told, ended⟩ | ⟨failure, failed, early⟩
  · refine .inl ⟨events ++ told, ?_⟩
    rw [ended]
    simp only [Consumption.prepend, completed, List.map_append, List.append_assoc]
  · refine .inr ⟨failure, failed, ?_⟩
    rw [hasEnded_prepend]
    exact early

theorem settled_consume (version : Int) (raising : List String) {deliveries : List (List Bytes)}
    (ends : ∃ parts ∈ deliveries, IsMark parts) :
    Settled raising (consume version raising deliveries) := by
  induction deliveries with
  | nil =>
    obtain ⟨parts, member, -⟩ := ends
    cases member
  | cons parts rest ih =>
    rw [consume]
    cases met : Delivery.ofParts parts with
    | error failure => exact .inr ⟨failure, rfl, rfl⟩
    | ok delivery? =>
      by_cases last : delivery? = some .finished
      · rw [last]
        exact .inl ⟨[], rfl⟩
      -- the mark is among the other deliveries
      have later : Settled raising (consume version raising rest) := by
        obtain ⟨mark, member, isMark⟩ := ends
        rcases List.mem_cons.mp member with rfl | member
        · rw [ofParts_of_isMark isMark] at met
          exact absurd (Except.ok.inj met).symm last
        · exact ih ⟨mark, member, isMark⟩
      rcases delivery? with _ | bytes | ⟨code, text⟩ | _
      · exact later
      · simp only
        cases (interpret version bytes).failure? with
        | some error => exact .inr ⟨_, rfl, by simp [Consumption.hasEnded]⟩
        | none => exact later.prepend _
      · exact later.prepend _
      · exact absurd rfl last

/-! ## Channels -/

/-- **A callback that raises an ordinary exception makes no difference but that nothing is heard
through it.** Whatever waits in a channel, with a mark that nothing follows among it, the same
deliveries are taken and the same occurrences take place in the same order, less the events of the
callbacks that raise. The channel is closed; and the owner learns of the end, unless the same
failure stops the consumer earlier whether or not any callback raises. -/
theorem consume_isolated (version : Int) (raising : List String) {channel : Channel}
    (ends : ∃ parts ∈ channel.waiting, IsMark parts) :
    let (quiet, left) := channel.consume version []
    let (loud, left') := channel.consume version raising
    loud.occurrences = quiet.occurrences.filter (Occurrence.isAudible raising) ∧
      loud.events = quiet.events.filter (fun event => event.name ∉ raising) ∧
      left' = left ∧ left.isClosed = true ∧
      ((∃ events, quiet = completed [] left.waiting events ∧
          loud = completed raising left.waiting (audible raising events)) ∨
        ∃ failure, quiet.failure? = some failure ∧ loud.failure? = some failure ∧
          quiet.hasEnded = false ∧ loud.hasEnded = false) := by
  have same := consume_eq_without version raising channel.waiting
  simp only [Channel.consume]
  refine ⟨congrArg Consumption.occurrences same, ?_, ?_, rfl, ?_⟩
  · rw [same, Consumption.events_without]
    exact List.filter_congr fun event _ => by simp
  · rw [same]
    rfl
  · rcases settled_consume version [] ends with ⟨events, ended⟩ | ⟨failure, failed, early⟩
    · refine .inl ⟨events, ended, ?_⟩
      rw [same, ← Consumption.completed_without]
      exact congrArg (Consumption.without raising) ended
    · refine .inr ⟨failure, failed, ?_, early, ?_⟩
      · rw [same]
        exact failed
      · rw [same, Consumption.hasEnded_without]
        exact early

/-- A price with its size, a message that cannot be read, the mark, and something behind it; the
callbacks for prices, problems and the end raise. -/
def noisyChannel : Channel where
  waiting := [
    (Delivery.payload (["1", "6", "7", "1", "1.5", "300", "0"].flatMap Field.terminated)).parts,
    (Delivery.payload (["9", "1", "x"].flatMap Field.terminated)).parts,
    Delivery.finished.parts,
    (Delivery.payload (["9", "1", "1"].flatMap Field.terminated)).parts]

theorem consume_isolated_noisyChannel :
    (∃ parts ∈ noisyChannel.waiting, IsMark parts) ∧
      let raising := ["tick_price", "error", "connection_closed"]
      let (quiet, left) := noisyChannel.consume 151 []
      let (loud, left') := noisyChannel.consume 151 raising
      loud.events = quiet.events.filter (fun event => event.name ∉ raising) ∧
        quiet.events.map Event.name = ["tick_price", "tick_size", "error", "connection_closed"] ∧
        loud.events.map Event.name = ["tick_size"] ∧ left' = left ∧ left.waiting.length = 1 ∧
        loud.hasEnded = true := by
  have ends : ∃ parts ∈ noisyChannel.waiting, IsMark parts :=
    ⟨Delivery.finished.parts, by simp [noisyChannel], rfl⟩
  obtain ⟨-, events, left, -, -⟩ :=
    consume_isolated 151 ["tick_price", "error", "connection_closed"] ends
  exact ⟨ends, events, by decide +kernel, by decide +kernel, left, by decide +kernel,
    by decide +kernel⟩

end TradeWire
