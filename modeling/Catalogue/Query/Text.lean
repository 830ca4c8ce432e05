import Catalogue.Entries
import Catalogue.Path
import Catalogue.Predicate
import Catalogue.Text.Encoding

namespace Catalogue

inductive Direction
  | ascending | descending
  /-- The path is mentioned, and the service is sent no direction for it. -/
  | unordered
  deriving Repr, DecidableEq, Inhabited

namespace Direction

def ofDefault : Direction := unordered

def wire? : Direction → Option String
  | ascending => some "1"
  | descending => some "-1"
  | unordered => none

end Direction

structure Query where
  limit : Option Nat := none
  skip : Option Nat := none
  sort : Entries Direction := []
  select : List String := []
  predicates : List Predicate := []
  deriving Repr, Inhabited

namespace Query

def withLimit (q : Query) (limit : Nat) : Query := { q with limit := some limit }

def withSkip (q : Query) (skip : Nat) : Query := { q with skip := some skip }

/-- Gives a path its direction; a path that has one already keeps its place. -/
def withSort (q : Query) (path : String) (direction : Direction) : Query :=
  { q with sort := Entries.put path direction q.sort }

def withSelect (q : Query) (path : String) : Query := { q with select := q.select ++ [path] }

def withPredicate (q : Query) (p : Predicate) : Query :=
  { q with predicates := q.predicates ++ [p] }

def page (q : Query) (limit skip : Option Nat) : Query := { q with limit := limit, skip := skip }

def isEmpty (q : Query) : Bool :=
  q.limit.isNone && q.skip.isNone && q.sort.isEmpty && q.select.isEmpty && q.predicates.isEmpty

/-- The first token as it is, every later one in brackets. -/
def bracketed : List String → String
  | [] => ""
  | token :: tokens => tokens.foldl (fun key t => key ++ "[" ++ t ++ "]") token

def leafKey (route : List String) (field : String) (operator : List String) : String :=
  let tokens := if route.isEmpty then [Path.camelPath field] else Path.camelSegments field
  bracketed (route ++ tokens ++ operator)

def push (text key value : String) : String :=
  (if text.isEmpty then text else text ++ "&") ++ key ++ "=" ++ Text.Form.encode value

/-- The text so far, and the stack of operators and positions that lead to what is written next. -/
structure Writer where
  text : String
  route : List String

namespace Writer

def push (w : Writer) (key value : String) : Writer := { w with text := Query.push w.text key value }

def enter (w : Writer) (operator : String) (i : Nat) : Writer :=
  { w with route := w.route ++ [operator, toString i] }

def leave (w : Writer) : Writer := { w with route := w.route.take (w.route.length - 2) }

end Writer

mutual

def pushPredicate (w : Writer) : Predicate → Writer
  | .compare op field value => w.push (leafKey w.route field [op.operator]) value
  | .among op field values =>
    let key := leafKey w.route field [op.operator, ""]
    values.foldl (fun w v => w.push key v) w
  | .join op children => pushChildren w op.operator 0 children

def pushChildren (w : Writer) (operator : String) (i : Nat) : List Predicate → Writer
  | [] => w
  | child :: children =>
    pushChildren (pushPredicate (w.enter operator i) child).leave operator (i + 1) children

end

def pushCount (text key : String) : Option Nat → String
  | none => text
  | some n => push text key (toString n)

def pushSort (text : String) : String × Direction → String
  | (path, direction) =>
    match direction.wire? with
    | none => text
    | some value => push text ("$sort[" ++ Path.camelPath path ++ "]") value

def pushSelect (text path : String) : String := push text "$select[]" (Path.camelPath path)

def text (q : Query) : String :=
  let windowed := pushCount (pushCount "" "$limit" q.limit) "$skip" q.skip
  let sorted := q.sort.foldl pushSort windowed
  let selected := q.select.foldl pushSelect sorted
  (q.predicates.foldl pushPredicate ⟨selected, []⟩).text

end Query

end Catalogue
