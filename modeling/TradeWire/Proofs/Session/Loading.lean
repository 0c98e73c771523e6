import Mathlib.Tactic
import TradeWire.Session.Settings
import TradeWire.Wire.Field

/-!
# Loading settings

Settings are loaded one after another, in a fixed order. A variable that cannot be read ends the
loading: by then the settings in front of its own have been loaded, and all others are as they were
(`reload_takes_front`). So a loading that fails may have changed something (`reload_torn`).
-/

namespace TradeWire

/-! ## Settings one by one -/

inductive Setting where
  | host
  | port
  | clientId
  | chunkSize
  | connectTimeout
  | channelDepth
  | capabilities
  deriving DecidableEq

/-- What the text of a variable stands for. -/
inductive Setting.Kind where
  | text
  | int
  | double
  deriving DecidableEq

/-- What a text stands for, if it can be read. -/
def Setting.Kind.read? : Kind → String → Option Field
  | .text, said => some (Field.text said)
  | .int, said => (Text.readInt said).toOption.map Field.int
  | .double, said => (Text.readDouble? said).map Field.real

def Settings.value (settings : Settings) : Setting → Field
  | .host => .text settings.host
  | .port => .int settings.port
  | .clientId => .int settings.clientId
  | .chunkSize => .int settings.chunkSize
  | .connectTimeout => .real settings.connectTimeout
  | .channelDepth => .int settings.channelDepth
  | .capabilities => .text settings.capabilities

theorem Settings.eq_of_value {settings other : Settings}
    (same : ∀ setting, settings.value setting = other.value setting) : settings = other := by
  cases settings
  cases other
  simp only [mk.injEq]
  exact ⟨Field.text.inj (same .host), Field.int.inj (same .port), Field.int.inj (same .clientId),
    Field.int.inj (same .chunkSize), Field.real.inj (same .connectTimeout),
    Field.int.inj (same .channelDepth), Field.text.inj (same .capabilities)⟩

namespace Setting

def order : List Setting :=
  [.host, .port, .clientId, .chunkSize, .connectTimeout, .channelDepth, .capabilities]

theorem mem_order (setting : Setting) : setting ∈ order := by
  cases setting <;> decide

def variableName : Setting → String
  | .host => "IBWIRE_HOST"
  | .port => "IBWIRE_PORT"
  | .clientId => "IBWIRE_CLIENT_ID"
  | .chunkSize => "IBWIRE_CHUNK_SIZE"
  | .connectTimeout => "IBWIRE_CONNECT_TIMEOUT"
  | .channelDepth => "IBWIRE_CHANNEL_HWM"
  | .capabilities => "IBWIRE_OPTIONAL_CAPABILITIES"

def kind : Setting → Kind
  | .host | .capabilities => .text
  | .connectTimeout => .double
  | .port | .clientId | .chunkSize | .channelDepth => .int

def problem (setting : Setting) (text : String) : SettingError :=
  match setting.kind with
  | .double => .notNumber setting.variableName text
  | .int | .text => .notInteger setting.variableName text

end Setting

namespace Environment

variable (environment : Environment) (setting : Setting)

/-- The text that an environment has for a setting. An empty text gives no number. -/
def given? : Option String :=
  (environment.lookup setting.variableName).filter fun text =>
    setting.kind = .text ∨ text ≠ ""

/-- The value of a setting in an environment: what is given for it, or else its default. -/
def Gives (value : Field) : Prop :=
  match environment.given? setting with
  | none => value = (default : Settings).value setting
  | some text => setting.kind.read? text = some value

def IsMalformed (text : String) : Prop :=
  environment.given? setting = some text ∧ setting.kind.read? text = none

/-- What was found for a setting is what its variable says, if anything is given for it. -/
def Finds {α : Type} (field : α → Field) (found : Except SettingError (Option α)) : Prop :=
  match found with
  | .ok none => environment.given? setting = none
  | .ok (some value) =>
    ∃ text, environment.given? setting = some text ∧ setting.kind.read? text = some (field value)
  | .error error => ∃ text, environment.IsMalformed setting text ∧ error = setting.problem text

variable {environment setting}

theorem Gives.unique {value other : Field} (h : environment.Gives setting value)
    (h' : environment.Gives setting other) : value = other := by
  unfold Gives at h h'
  cases given : environment.given? setting with
  | none =>
    rw [given] at h h'
    exact h.trans h'.symm
  | some text =>
    rw [given] at h h'
    exact Option.some.inj (h.symm.trans h')

/-! ## Finding what is given -/

/-- A number that is read from a variable, which is as good as none if its text is empty. -/
def number? {α : Type} (environment : Environment) (name : String) (read : String → Option α)
    (problem : (name value : String) → SettingError) : Except SettingError (Option α) :=
  match (environment.text? name).filter (· ≠ "") with
  | none => .ok none
  | some text =>
    match read text with
    | some value => .ok (some value)
    | none => .error (problem (variableOf name) text)

theorem int?_eq_number? (name : String) : environment.int? name =
    environment.number? name (fun text => (Text.readInt text).toOption) .notInteger := by
  unfold int? number?
  cases environment.text? name with
  | none => rfl
  | some text =>
    by_cases empty : text = ""
    · simp [Option.filter_some, empty]
    · simp only [Option.filter_some, ne_eq, empty, not_false_eq_true, decide_true, if_true]
      cases Text.readInt text <;> rfl

theorem double?_eq_number? (name : String) : environment.double? name =
    environment.number? name Text.readDouble? .notNumber := by
  unfold double? number?
  cases environment.text? name with
  | none => rfl
  | some text =>
    by_cases empty : text = ""
    · simp [Option.filter_some, empty]
    · simp only [Option.filter_some, ne_eq, empty, not_false_eq_true, decide_true, if_true]
      cases Text.readDouble? text <;> rfl

section

variable {name : String} (named : variableOf name = setting.variableName)
include named

theorem finds_text (kind : setting.kind = .text) :
    environment.Finds setting .text (.ok (environment.text? name)) := by
  have same : environment.given? setting = environment.text? name := by
    rw [text?, named, given?, kind]
    cases environment.lookup setting.variableName <;> rfl
  rw [← same]
  cases given : environment.given? setting with
  | none => exact given
  | some text => exact ⟨text, given, by rw [kind, Setting.Kind.read?]⟩

theorem finds_number {α : Type} {field : α → Field} {read : String → Option α}
    {problem : (name value : String) → SettingError} (kind : setting.kind ≠ .text)
    (reads : ∀ text, setting.kind.read? text = (read text).map field)
    (problems : ∀ text, setting.problem text = problem setting.variableName text) :
    environment.Finds setting field (environment.number? name read problem) := by
  have same : environment.given? setting = (environment.text? name).filter (· ≠ "") := by
    simp only [text?, named, given?, kind, false_or]
  rw [number?, ← same]
  cases given : environment.given? setting with
  | none => exact given
  | some text =>
    simp only
    cases value : read text with
    | some number => exact ⟨text, given, by rw [reads, value, Option.map_some]⟩
    | none => exact ⟨text, ⟨given, by rw [reads, value, Option.map_none]⟩, by rw [problems, named]⟩

theorem finds_int (kind : setting.kind = .int) :
    environment.Finds setting .int (environment.int? name) := by
  rw [int?_eq_number?]
  exact finds_number named (by rw [kind]; nofun) (fun text => by rw [kind, Setting.Kind.read?])
    fun text => by rw [Setting.problem, kind]

theorem finds_double (kind : setting.kind = .double) :
    environment.Finds setting .real (environment.double? name) := by
  rw [double?_eq_number?]
  exact finds_number named (by rw [kind]; nofun) (fun text => by rw [kind, Setting.Kind.read?])
    fun text => by rw [Setting.problem, kind]

end

end Environment

/-! ## Loading settings one by one -/

namespace Setting

open Settings Environment

/-- A value is put in the place of one setting, and nothing else changes. -/
structure Puts {α : Type} (setting : Setting) (field : α → Field)
    (put : Settings → α → Settings) : Prop where
  here : ∀ settings value, (put settings value).value setting = field value
  elsewhere : ∀ settings value other, other ≠ setting →
    (put settings value).value other = settings.value other

/-- Loading one setting gives it the value that it has in the environment, and changes nothing else;
it fails if the setting is malformed. -/
def IsLoadedBy (setting : Setting) (loading : Loading) : Prop :=
  ∀ environment settings, match loading environment settings with
    | .ok loaded => environment.Gives setting (loaded.value setting) ∧
        ∀ other, other ≠ setting → loaded.value other = settings.value other
    | .error error => ∃ text, environment.IsMalformed setting text ∧ error = setting.problem text

theorem isLoadedBy_of_finds {α : Type} {setting : Setting} {field : α → Field}
    {find : Environment → Except SettingError (Option α)} {put : Settings → α → Settings}
    {standard : α} (finds : ∀ environment, Finds environment setting field (find environment))
    (puts : setting.Puts field put)
    (common : (default : Settings).value setting = field standard) :
    setting.IsLoadedBy fun environment settings => do
      return put settings ((← find environment).getD standard) := by
  intro environment settings
  have given := finds environment
  dsimp only
  generalize find environment = found at given ⊢
  rcases found with error | _ | value
  · exact given
  · refine ⟨?_, puts.elsewhere settings standard⟩
    rw [Gives, show environment.given? setting = none from given]
    exact (puts.here settings standard).trans common.symm
  · obtain ⟨text, given, read⟩ := given
    refine ⟨?_, puts.elsewhere settings value⟩
    rw [Gives, given]
    exact read.trans (congrArg some (puts.here settings value).symm)

section

variable {setting : Setting} {name : String} (named : variableOf name = setting.variableName)
include named

theorem isLoadedBy_ofText {put : Settings → String → Settings} {standard : String}
    (kind : setting.kind = .text) (puts : setting.Puts .text put)
    (common : (default : Settings).value setting = .text standard) :
    setting.IsLoadedBy (ofText name put standard) :=
  isLoadedBy_of_finds (fun _ => finds_text named kind) puts common

theorem isLoadedBy_ofInt {put : Settings → Int → Settings} {standard : Int}
    (kind : setting.kind = .int) (puts : setting.Puts .int put)
    (common : (default : Settings).value setting = .int standard) :
    setting.IsLoadedBy (ofInt name put standard) :=
  isLoadedBy_of_finds (fun _ => finds_int named kind) puts common

theorem isLoadedBy_ofDouble {put : Settings → Double → Settings} {standard : Double}
    (kind : setting.kind = .double) (puts : setting.Puts .real put)
    (common : (default : Settings).value setting = .real standard) :
    setting.IsLoadedBy (ofDouble name put standard) :=
  isLoadedBy_of_finds (fun _ => finds_double named kind) puts common

end

theorem isLoadedBy_loadings : List.Forall₂ IsLoadedBy order loadings := by
  refine .cons (isLoadedBy_ofText (by decide) rfl ⟨fun _ _ => rfl, ?_⟩ rfl) <|
    .cons (isLoadedBy_ofInt (by decide) rfl ⟨fun _ _ => rfl, ?_⟩ rfl) <|
    .cons (isLoadedBy_ofInt (by decide) rfl ⟨fun _ _ => rfl, ?_⟩ rfl) <|
    .cons (isLoadedBy_ofInt (by decide) rfl ⟨fun _ _ => rfl, ?_⟩ rfl) <|
    .cons (isLoadedBy_ofDouble (by decide) rfl ⟨fun _ _ => rfl, ?_⟩ rfl) <|
    .cons (isLoadedBy_ofInt (by decide) rfl ⟨fun _ _ => rfl, ?_⟩ rfl) <|
    .cons (isLoadedBy_ofText (by decide) rfl ⟨fun _ _ => rfl, ?_⟩ rfl) .nil
  all_goals
    intro settings value other different
    cases other <;> trivial

end Setting

namespace Settings

open Setting

/-- Settings of which those in front are as the environment gives them and all others are as they
were before; the first of the others is malformed, if there is one. -/
structure TakesFront (environment : Environment) (before loaded : Settings)
    (taken left : List Setting) (problem? : Option SettingError) : Prop where
  given : ∀ setting ∈ taken, environment.Gives setting (loaded.value setting)
  kept : ∀ setting, setting ∉ taken → loaded.value setting = before.value setting
  stopped : match left with
    | [] => problem? = none
    | failing :: _ => ∃ text, environment.IsMalformed failing text ∧
        problem? = some (failing.problem text)

/-- However many settings are to be loaded, some in front are taken over, up to one that is
malformed. -/
theorem exists_takesFront (environment : Environment) {order : List Setting}
    {loadings : List Loading} (loads : List.Forall₂ IsLoadedBy order loadings)
    (once : order.Nodup) (settings : Settings) :
    ∃ taken left, order = taken ++ left ∧
      TakesFront environment settings (loadAll environment loadings settings).1 taken left
        (loadAll environment loadings settings).2 := by
  induction loads generalizing settings with
  | nil => exact ⟨[], [], rfl, List.forall_mem_nil _, fun _ _ => rfl, rfl⟩
  | @cons setting loading order loadings loads _ ih =>
    have first := loads environment settings
    rw [loadAll]
    generalize loading environment settings = result at first ⊢
    rcases result with error | loaded
    · obtain ⟨text, malformed, rfl⟩ := first
      exact ⟨[], setting :: order, rfl, List.forall_mem_nil _, fun _ _ => rfl, text, malformed, rfl⟩
    · obtain ⟨given, others⟩ := first
      obtain ⟨single, once⟩ := List.nodup_cons.mp once
      obtain ⟨taken, left, rfl, rest⟩ := ih once loaded
      -- what is loaded later leaves this setting alone
      have alone : setting ∉ taken := fun member => single (List.mem_append_left left member)
      refine ⟨setting :: taken, left, rfl, ?_, fun other absent => ?_, rest.stopped⟩
      · rw [List.forall_mem_cons, rest.kept setting alone]
        exact ⟨given, rest.given⟩
      · rw [List.mem_cons, not_or] at absent
        rw [rest.kept other absent.2, others other absent.1]

theorem TakesFront.eq_iff {environment : Environment} {before loaded : Settings}
    {taken left : List Setting} {problem? : Option SettingError}
    (front : TakesFront environment before loaded taken left problem?) :
    loaded = before ↔ ∀ setting ∈ taken, environment.Gives setting (before.value setting) := by
  constructor
  · rintro rfl
    exact front.given
  · intro already
    refine eq_of_value fun setting => ?_
    by_cases member : setting ∈ taken
    · exact (front.given setting member).unique (already setting member)
    · exact front.kept setting member

/-- **Settings are taken over up to one that is malformed.** Where loading succeeds, every setting
is as the environment gives it. Where it fails, a setting is malformed: those in front of it are as
the environment gives them, it and those behind it are as they were, and so nothing has changed just
if those in front had their values already. -/
theorem reload_takes_front (environment : Environment) (settings : Settings) :
    match reload environment settings with
    | (loaded, none) => ∀ setting, environment.Gives setting (loaded.value setting)
    | (loaded, some error) => ∃ taken failing left, order = taken ++ failing :: left ∧
        (∃ text, environment.IsMalformed failing text ∧ error = failing.problem text) ∧
        (∀ setting ∈ taken, environment.Gives setting (loaded.value setting)) ∧
        (∀ setting ∈ failing :: left, loaded.value setting = settings.value setting) ∧
        (loaded = settings ↔
          ∀ setting ∈ taken, environment.Gives setting (settings.value setting)) := by
  have once : order.Nodup := by decide
  obtain ⟨taken, left, split, front⟩ :=
    exists_takesFront environment isLoadedBy_loadings once settings
  rw [reload]
  generalize loadAll environment loadings settings = result at front ⊢
  obtain ⟨loaded, problem?⟩ := result
  cases left with
  | nil =>
    obtain rfl : problem? = none := front.stopped
    intro setting
    have member : setting ∈ taken := by
      rw [← List.append_nil taken, ← split]
      exact mem_order setting
    exact front.given setting member
  | cons failing left =>
    obtain ⟨text, malformed, rfl⟩ := front.stopped
    rw [split, List.nodup_append] at once
    refine ⟨taken, failing, left, split, ⟨text, malformed, rfl⟩, front.given,
      fun setting behind => front.kept setting fun before => ?_, front.eq_iff⟩
    exact once.2.2 setting before setting behind rfl

/-- An address of which the port is no number. -/
def halfAddress : Environment := [("IBWIRE_HOST", "10.0.0.1"), ("IBWIRE_PORT", "seventy")]

/-- A loading that fails may have changed something: here the host has been taken over. -/
theorem reload_torn :
    ¬ ∀ (environment : Environment) (settings : Settings) (error : SettingError),
      (reload environment settings).2 = some error →
        ∀ setting, (reload environment settings).1.value setting = settings.value setting := by
  intro unchanged
  have host := unchanged halfAddress default (.notInteger "IBWIRE_PORT" "seventy") (by decide) .host
  exact absurd host (by decide)

end Settings

end TradeWire
