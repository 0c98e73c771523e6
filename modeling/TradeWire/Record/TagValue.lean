import TradeWire.Record.Holder

/-!
# Tagged values

Pairs of a tag and a value, both texts, as they are used for options and strategy parameters. What
is no text becomes the text that it is displayed as.
-/

namespace TradeWire

/-- A tag with its value. -/
structure TagValue where
  tag : String := ""
  value : String := ""
  deriving DecidableEq

namespace TagValue

instance : Inhabited TagValue := ⟨{}⟩

/-- The form in which pairs are strung together. -/
def text (pair : TagValue) : String := pair.tag ++ "=" ++ pair.value ++ ";"

/-- A list of pairs collapsed into one text; a missing list is like an empty one. -/
def joined (pairs : Option (List TagValue)) : String :=
  String.join ((pairs.getD []).map text)

/-- Takes the named parts of a pair from any data. -/
def update (pair : TagValue) : List (String × Datum) → Option TagValue
  | [] => some pair
  | ("tag", datum) :: rest => update { pair with tag := datum.display } rest
  | ("value", datum) :: rest => update { pair with value := datum.display } rest
  | _ => none

instance : Described TagValue where
  describe pair :=
    .record "TagValue" [("tag", .scalar (.text pair.tag)), ("value", .scalar (.text pair.value))]
  recognise
    | .record "TagValue" given => update {} given
    | _ => none

end TagValue

end TradeWire
