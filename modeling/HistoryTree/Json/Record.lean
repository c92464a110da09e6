import HistoryTree.Json.Reader

/-!
# Records

A record has named fields, given as a list of columns.  It is read from an object, whose
members may come in any order and may include others, or from an array that lists the
fields in order.  A `Row` holds one value per column, and a `Draft` the values read so far.
-/

namespace HistoryTree.Json

/-- A field: its name, how its value is read, and its value where it is missing, if it may be. -/
structure Column (J : Type) where
  key : String
  Value : Type
  read : J → Except Failure Value
  absent : Option Value

variable {J : Type}

/-- A value for each column. -/
@[reducible] def Row : List (Column J) → Type
  | [] => Unit
  | c :: cs => c.Value × Row cs

/-- The values read so far. -/
@[reducible] def Draft : List (Column J) → Type
  | [] => Unit
  | c :: cs => Option c.Value × Draft cs

namespace Draft

/-- No value is read yet. -/
def empty : (cs : List (Column J)) → Draft cs
  | [] => ()
  | _ :: cs => (none, empty cs)

/-- The draft with the value of the member `key`, or none if no column has this name.  A second
value for a column is refused before it is read. -/
def enter (key : String) (j : J) : (cs : List (Column J)) → Draft cs →
    Except Failure (Option (Draft cs))
  | [], _ => .ok none
  | c :: cs, (v, d) =>
    if key = c.key then
      match v with
      | some _ => mismatch (.duplicateField key)
      | none =>
        match c.read j with
        | .ok a => .ok (some (some a, d))
        | .error e => .error e
    else
      match enter key j cs d with
      | .ok (some d') => .ok (some (v, d'))
      | .ok none => .ok none
      | .error e => .error e

/-- The row of a draft; a column without a value takes the value for a missing field. -/
def finish : (cs : List (Column J)) → Draft cs → Except Failure (Row cs)
  | [], _ => .ok ()
  | c :: cs, (v, d) =>
    match v.or c.absent with
    | none => mismatch (.missingField c.key)
    | some a =>
      match finish cs d with
      | .ok row => .ok (a, row)
      | .error e => .error e

end Draft

namespace Row

/-! ## From members -/

/-- The draft after the members of an object with this ending, and what `other` read of the
members that belong to no column. -/
def collect {ρ : Type} (cs : List (Column J)) (other : J → Except Failure ρ)
    (ending : Ending) : Draft cs → List (Scan String × J) →
    Except Failure (Draft cs × List (String × ρ))
  | d, [] => ending.check.map fun _ => (d, [])
  | d, (k, t) :: ms =>
    match k.get with
    | .error e => .error e
    | .ok name =>
      match d.enter name t cs with
      | .error e => .error e
      | .ok (some d') => collect cs other ending d' ms
      | .ok none =>
        match other t with
        | .error e => .error e
        | .ok r =>
          match collect cs other ending d ms with
          | .error e => .error e
          | .ok (d', rs) => .ok (d', (name, r) :: rs)

/-- The row of an object's members, and what `other` read of those that belong to no column. -/
def ofMembers {ρ : Type} (cs : List (Column J)) (other : J → Except Failure ρ)
    (ending : Ending) (ms : List (Scan String × J)) :
    Except Failure (Row cs × List (String × ρ)) :=
  match collect cs other ending (Draft.empty cs) ms with
  | .ok (d, rest) => (d.finish cs).map (·, rest)
  | .error e => .error e

/-- Members whose keys have no defect. -/
def intact (ms : List (String × J)) : List (Scan String × J) := ms.map fun (k, j) => (.of k, j)

/-- The row of the members of an object without defect, and the members that belong to no
column. -/
def ofValues (cs : List (Column Value)) (ms : List (String × Value)) :
    Except Failure (Row cs × List (String × Value)) :=
  ofMembers cs .ok .closed (intact ms)

/-! ## From items -/

/-- The row of an array's items, which has the fields in order and nothing behind them.  `read`
fields precede the remaining columns. -/
def ofItems (expected : String) (ending : Ending) :
    (read : Nat) → (cs : List (Column Tree)) → List Tree → Except Failure (Row cs)
  | _, [], [] => ending.check
  | _, [], _ :: _ => defect .malformed
  | n, c :: cs, [] =>
    match ending, c.absent with
    | .stopped d, _ => defect d
    | .closed, none => mismatch (.wrongLength n expected)
    | .closed, some a => (ofItems expected ending (n + 1) cs []).map (a, ·)
  | n, c :: cs, t :: ts =>
    match c.read t with
    | .error e => .error e
    | .ok a => (ofItems expected ending (n + 1) cs ts).map (a, ·)

/-- The row of the items of an array without defect, and the items behind the last field. -/
def ofValueItems (expected : String) :
    (read : Nat) → (cs : List (Column Value)) → List Value →
    Except Failure (Row cs × List Value)
  | _, [], vs => .ok ((), vs)
  | n, c :: cs, [] =>
    match c.absent with
    | none => mismatch (.wrongLength n expected)
    | some a => (ofValueItems expected (n + 1) cs []).map fun (row, vs) => ((a, row), vs)
  | n, c :: cs, v :: vs =>
    match c.read v with
    | .error e => .error e
    | .ok a => (ofValueItems expected (n + 1) cs vs).map fun (row, vs) => ((a, row), vs)

end Row

/-- The phrase for a count of elements. -/
def elements (n : Nat) : String :=
  integerText n ++ (if n = 1 then " element" else " elements")

/-- A record with this name, read from an object or from an array; members that belong to no
column are passed over. -/
def Reader.record {α : Type} (name : String) (cs : Nat → List (Column Tree))
    (build : (levels : Nat) → Row (cs levels) → α) : Reader α
  | 0, .object _ _ => defect .malformed
  | 0, .array _ _ => defect .malformed
  | levels + 1, .object ms ending =>
    (Row.ofMembers (cs levels) Reader.skip ending ms).map fun p => build levels p.1
  | levels + 1, .array ts ending =>
    (Row.ofItems ("struct " ++ name ++ " with " ++ elements (cs levels).length) ending 0
      (cs levels) ts).map (build levels)
  | _, t => t.refuse ("struct " ++ name)

end HistoryTree.Json
