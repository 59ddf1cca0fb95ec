import SearchBox.Datum
import SearchBox.Filtering

/- What a search does with its text: cut it into tokens, look for it in listed columns, or hand it to a
   callback. Grids accept it in several loose forms. -/
namespace SearchBox

structure Callback where
  label : Text
  shown : Text
  run : Text → Query → Outcome Datum

inductive Search where
  /-- Does what `tokens` does, without a form of its own. -/
  | base
  | tokens
  | columns (names : List Text)
  | custom (callback : Callback)

namespace Search

def variant : Search → Text
  | .base => "base".toList
  | .tokens => "default".toList
  | .columns _ => "columns".toList
  | .custom _ => "custom".toList

def tupleText : List Text → Text
  | [item] => '(' :: item ++ ",)".toList
  | items => '(' :: Text.join ", ".toList items ++ [')']

def shown? : Search → Option Text
  | .base => none
  | .tokens => some "DefaultSearch()".toList
  | .columns names =>
    some ("ColumnListSearch(columns=".toList ++ tupleText (names.map Quoted.encode) ++ [')'])
  | .custom c => some ("CustomSearch(callback=".toList ++ c.shown ++ [')'])

def shown (s : Search) : Text := s.shown?.getD "SearchSpec()".toList

def describe (s : Search) : Datum :=
  let details : List (Text × Datum) :=
    match s with
    | .columns names => [("columns".toList, .list (names.map .text))]
    | .custom c => [("callback".toList, .text c.label)]
    | _ => []
  .record (("variant".toList, .text s.variant) :: details)

def sort : Search → Text
  | .base => "SearchSpec".toList
  | .tokens => "DefaultSearch".toList
  | .columns _ => "ColumnListSearch".toList
  | .custom _ => "CustomSearch".toList

end Search

inductive Definition where
  | plain (d : Datum)
  | list (items : List Definition)
  | tuple (items : List Definition)
  | callback (c : Callback)
  | spec (s : Search)

namespace Definition

mutual

def written? : Definition → Option Text
  | .plain d => d.written?
  | .list items => (writtenItems? items).map fun pieces => '[' :: Text.join ", ".toList pieces ++ [']']
  | .tuple items => (writtenItems? items).map Search.tupleText
  | .callback c => some c.shown
  | .spec s => some s.shown

def writtenItems? : List Definition → Option (List Text)
  | [] => some []
  | d :: ds => do return (← written? d) :: (← writtenItems? ds)

end

def isText : Definition → Bool
  | .plain d => d.isText
  | _ => false

def isNull : Definition → Bool
  | .plain .null => true
  | _ => false

def sort : Definition → Text
  | .plain d => d.sort
  | .list _ => "list".toList
  | .tuple _ => "tuple".toList
  | .callback _ => "Callback".toList
  | .spec s => s.sort

def items : Definition → Except Fault (List Definition)
  | .plain (.text t) => .ok (t.map fun c => .plain (.text [c]))
  | .plain (.list ds) => .ok (ds.map .plain)
  | .plain (.record fields) => .ok (fields.map fun (key, _) => .plain (.text key))
  | .list ds | .tuple ds => .ok ds
  | d => .error (.notASequence d.sort)

mutual

def asDatum : Definition → Datum
  | .plain d => d
  | .list items | .tuple items => .list (itemsAsData items)
  | .callback c => .text c.shown
  | .spec s => .text s.shown

def itemsAsData : List Definition → List Datum
  | [] => []
  | d :: ds => asDatum d :: itemsAsData ds

end

mutual

/-- Whether there is no callback and no search anywhere within, and no number that is too long. -/
def isData : Definition → Bool
  | .plain d => d.written?.isSome
  | .list items | .tuple items => areData items
  | .callback _ | .spec _ => false

def areData : List Definition → Bool
  | [] => true
  | d :: ds => isData d && areData ds

end

def callback? : Definition → Option Callback
  | .callback c => some c
  | .spec (.custom c) =>
    some { label := "CustomSearch".toList, shown := (Search.custom c).shown, run := c.run }
  | _ => none

end Definition

namespace Search

def listedColumn : Definition → Except Fault Text
  | .plain (.text (c :: name)) => .ok (c :: name)
  | d => .error (.showing .invalidListedColumn d.written?)

def ofList (items : List Definition) : Except Fault Search :=
  if items.isEmpty then .error .noListedColumn else (items.mapM listedColumn).map .columns

def ofColumns (d : Definition) : Except Fault Search := do ofList (← d.items)

def ofCallback (d : Definition) : Except Fault Search :=
  match d.callback? with
  | some c => .ok (.custom c)
  | none => .error .notCallable

/-- The search that a list of arguments defines: nothing or null for tokens; one specification for
    itself; one name, several names, or one list of names for listed columns; one callback for itself. -/
def ofArguments : List Definition → Except Fault Search
  | [] => .ok .tokens
  | [.plain .null] => .ok .tokens
  | [.spec s] => .ok s
  | [.plain (.text name)] => ofList [.plain (.text name)]
  | [.list items] | [.tuple items] => ofList items
  | [.plain (.list items)] => ofList (items.map .plain)
  | [.callback c] => .ok (.custom c)
  | args =>
    if 1 < args.length ∧ args.all Definition.isText then ofList args
    else .error (.showing .unsupportedDefinition (Definition.tuple args).written?)

end Search
end SearchBox
