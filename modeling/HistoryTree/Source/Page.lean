import HistoryTree.Event.Codec

/-!
# Pages of a history

A service hands out a history page by page.  Each page but the last one carries a token that
asks for the next one.
-/

namespace HistoryTree

open Json

/-- A page of a history. -/
structure HistoryPage where
  events : History
  /-- The token for the following page. -/
  nextPageToken : Option String
  deriving DecidableEq, Repr

namespace HistoryPage

/-- The token for the following page; an empty one asks for nothing. -/
def next? (p : HistoryPage) : Option String :=
  match p.nextPageToken with
  | some "" => none
  | token => token

/-- The page as an object. -/
def toValue (p : HistoryPage) : Value :=
  .object (("events", History.toValue p.events) ::
    match p.nextPageToken with
    | none => []
    | some token => [("next_page_token", .string token)])

/-- The columns of a page. -/
def columns (levels : Nat) : List (Column Tree) :=
  [⟨"events", History, History.reader levels, none⟩,
    ⟨"next_page_token", Option String, Reader.optional Reader.text levels, some none⟩]

/-- A page. -/
def reader : Reader HistoryPage :=
  Reader.record "HistoryPage" columns fun _ (events, token, _) => ⟨events, token⟩

end HistoryPage

end HistoryTree
